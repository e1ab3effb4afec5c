import Rollout.Machine

namespace Rollout

inductive ResultsPlace
  | file (path : String)
  | log
  deriving DecidableEq

namespace ResultsPlace

/-- A path that is missing or empty means the log. -/
def ofPath? : Option String → ResultsPlace
  | some path => if path = "" then .log else .file path
  | none => .log

def line (key value : String) : String := key ++ "=" ++ value ++ "\n"

variable {I : Interface} [HasMachine I]

def record (place : ResultsPlace) (key value : String) : Program I (Except Failure Unit) :=
  match place with
  | .file path => return Machine.orFail (← Machine.append path (line key value))
  | .log => do
    Machine.info "Result" [("key", key), ("value", value)]
    return .ok ()

end ResultsPlace

abbrev Ledger := List (String × String)

namespace Ledger

def record (l : Ledger) (key value : String) : Ledger := l ++ [(key, value)]

def get? (l : Ledger) (key : String) : Option String :=
  (l.reverse.find? fun e => e.1 == key).map (·.2)

end Ledger

end Rollout
