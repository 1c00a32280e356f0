/-
**Requests for code to a node.**

A node answers a request with the bytes of a code or with a failure. `Node.trouble` tells from the
family and the wording of a failure whether it was a timeout, a rate limit or the network.
`Node.Client.fetch` asks a node for the code at an address and counts its requests: a malformed
address is refused before any request, and a failure of the node is reported with its trouble.
-/

import ContractRisk.Failure
import ContractRisk.Search
import ContractRisk.Text.Case
import ContractRisk.Url

namespace ContractRisk.Node

/-- The trouble behind a failure, told by its family and by words in its text. -/
def trouble (failure : Failure) : NodeTrouble :=
  let tells := mentions (Text.lower failure.message)
  if failure.kind = .timeout || tells "timeout" || tells "timed out" then .timeout
  else if tells "429" || tells "rate limit" || tells "too many requests" then .rateLimit
  else if failure.kind.isSystem || tells "connect" || tells "network" then .network
  else .other

/-- A failed request for the code at an address. -/
def failed (address : String) (failure : Failure) : Failure :=
  .nodeFailed (trouble failure) address failure

/-- Whether a failure is one that a node reports; any other is a fault of the program. -/
def reports (failure : Failure) : Bool :=
  failure.kind = .node || failure.kind.isSystem || failure.kind.isValue

/-- What a node answers. -/
inductive Answer where
  | code (bytes : List UInt8)
  | failed (failure : Failure)

/-- A client of a node, with the count of its requests. -/
structure Client where
  url : Value
  requests : Nat := 0
  failures : Nat := 0

namespace Client

/-- A client of the node at a location, which must be an `http` or `https` one. -/
def connect (url : Value) : Except Failure Client :=
  if Url.isHttp url then .ok { url } else url.refused .nodeUrl

/-- A client and its location, if that can be written. -/
def text (client : Client) : Except Failure String := do
  return s!"Web3BytecodeSource(rpc_url={← client.url.quoted})"

/-- Asks for the code at an address: the client afterwards, the address that the node is asked
about, and the outcome. -/
def fetch (client : Client) (address : Value) (answer : Answer) :
    Client × Option String × Except Failure String :=
  match address, Address.checksum? address with
  | .text given, some asked =>
    let client := { client with requests := client.requests + 1 }
    match answer with
    | .code bytes => (client, some asked, .ok (Bytecode.write bytes))
    | .failed failure =>
      if reports failure then
        let client := { client with failures := client.failures + 1 }
        (client, some asked, .error (Node.failed given failure))
      else (client, some asked, .error failure)
  | _, _ => (client, none, .error (.refused .address))

end Client

end ContractRisk.Node
