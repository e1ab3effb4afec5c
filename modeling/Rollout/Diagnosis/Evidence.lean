import Rollout.Failure
import Rollout.Text.Blank

namespace Rollout.Diagnosis

inductive Evidence
  | collected (text : String)
  | unavailable (reason : String)
  deriving DecidableEq

namespace Evidence

/-- A text without anything to read is no evidence. -/
def ofText (s : String) : Evidence :=
  if Text.isVoid s then .unavailable "empty output" else .collected s

def ofOutcome : Except Failure String → Evidence
  | .ok s => ofText s
  | .error e => .unavailable e.message

def isCollected : Evidence → Bool
  | .collected _ => true
  | .unavailable _ => false

def text : Evidence → String
  | .collected s => s
  | .unavailable reason => "No data available (" ++ reason ++ ")"

end Evidence

end Rollout.Diagnosis
