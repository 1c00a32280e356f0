/-
**What is logged and how.**

A level is given by its name in any case. A line of the log has a short form and a long one, which
also names process and thread.
-/

import ContractRisk.Failure
import ContractRisk.Text.Case

namespace ContractRisk

/-- The set-up of the log. -/
structure Logging where
  level : Nat
  format : String
  propagate : Bool

namespace Logging

/-- The levels by name. -/
def levels : List (String × Nat) := [
  ("CRITICAL", 50), ("FATAL", 50), ("ERROR", 40), ("WARN", 30), ("WARNING", 30), ("INFO", 20),
  ("DEBUG", 10), ("NOTSET", 0)]

/-- The form of a line that is not verbose. -/
def shortFormat : String := "[\x7blevelname\x7d] \x7basctime\x7d \x7bname\x7d \x7bmessage\x7d"

/-- The form of a verbose line. -/
def longFormat : String :=
  "[\x7blevelname\x7d] \x7basctime\x7d \x7bname\x7d \x7bprocess:d\x7d \x7bthread:d\x7d " ++
    "\x7bmessage\x7d"

/-- The set-up for a level. -/
def configure (level : String) (verbose : Bool) : Except Failure Logging :=
  match levels.lookup (Text.upper level) with
  | some number =>
    .ok { level := number, format := if verbose then longFormat else shortFormat, propagate := false }
  | none => .error (.misuse .logLevel)

end Logging

end ContractRisk
