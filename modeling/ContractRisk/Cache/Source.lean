/-
**Sources of contract code.**

A source is asked for the code at an address. It replies at once, keeps silent for ever, or holds its
reply back until it is let go. `Replay` is a source whose responses are given beforehand, a queue for
each address; the last response of a queue is repeated.
-/

import ContractRisk.Cache

namespace ContractRisk

/-- What a source does when it is asked. -/
inductive Response where
  | reply (reply : Reply)
  | silent
  | held

/-- Something that can be asked for the code at an address. -/
class Source (σ : Type) where
  /-- The response, and the source afterwards. -/
  ask : σ → String → Response × σ

/-- Responses that are given beforehand, by address and for all others. -/
structure Replay where
  queues : List (String × List Response)
  others : List Response

namespace Replay

/-- The queue for an address. -/
def queue (replay : Replay) (address : String) : List Response :=
  (replay.queues.lookup address).getD replay.others

/-- The first response of a queue, and the queue afterwards. -/
def next : List Response → Response × List Response
  | [] => (.silent, [])
  | [response] => (response, [response])
  | response :: rest => (response, rest)

/-- The response to a question, and the responses that are left. -/
def ask (replay : Replay) (address : String) : Response × Replay :=
  let (response, rest) := next (replay.queue address)
  (response, { replay with
    queues := (address, rest) :: replay.queues.filter (·.1 ≠ address) })

instance : Source Replay := ⟨ask⟩

end Replay

end ContractRisk
