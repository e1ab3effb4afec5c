import Rollout.Text.Blank

namespace Rollout.Cluster

inductive Phase
  | pending
  | running
  | succeeded
  | failed
  | unknown (raw : String)
  deriving DecidableEq

namespace Phase

def isQuote (c : Char) : Bool := c == '\x27'

/-- Blanks around the word, and then single quotes around it, do not count. -/
def read (s : String) : Phase :=
  let word := String.ofList (Text.strip isQuote (Text.trim s.toList))
  if word = "Pending" then .pending
  else if word = "Running" then .running
  else if word = "Succeeded" then .succeeded
  else if word = "Failed" then .failed
  else .unknown word

def text : Phase → String
  | .pending => "Pending"
  | .running => "Running"
  | .succeeded => "Succeeded"
  | .failed => "Failed"
  | .unknown raw => if raw = "" then "Unknown" else "Unknown(" ++ raw ++ ")"

def hasLogs : Phase → Bool
  | .running | .succeeded | .failed => true
  | _ => false

def needsEvents : Phase → Bool
  | .pending | .failed => true
  | _ => false

end Phase

end Rollout.Cluster
