import Rollout.Duration

namespace Rollout

inductive IoCause
  | notFound
  | permissionDenied
  | alreadyExists
  | notDirectory
  | isDirectory
  | nameTooLong
  | invalidInput (message : String)
  | other (message : String)
  deriving DecidableEq

namespace IoCause

def reason : IoCause → String
  | .notFound => "No such file or directory"
  | .permissionDenied => "Permission denied"
  | .alreadyExists => "File exists"
  | .notDirectory => "Not a directory"
  | .isDirectory => "Is a directory"
  | .nameTooLong => "File name too long"
  | .invalidInput m | .other m => m

def number? : IoCause → Option Nat
  | .notFound => some 2
  | .permissionDenied => some 13
  | .alreadyExists => some 17
  | .notDirectory => some 20
  | .isDirectory => some 21
  | .nameTooLong => some 36
  | .invalidInput _ | .other _ => none

def message (c : IoCause) : String :=
  match c.number? with
  | some n => c.reason ++ " (os error " ++ toString n ++ ")"
  | none => c.reason

end IoCause

/-- Why a deployment, or a part of one, failed. A timeout is the operation failure of a bounded wait. -/
inductive Failure
  | configuration (message : String)
  | operation (name : String) (elapsed : Duration) (message : String)
  | timeout (name : String) (bound elapsed : Duration)
  | io (cause : IoCause)
  | serialize (message : String)
  deriving DecidableEq

namespace Failure

def message : Failure → String
  | .configuration m => "Configuration error: " ++ m
  | .operation name elapsed m => name ++ " failed after " ++ elapsed.text ++ ": " ++ m
  | .timeout name bound elapsed =>
    name ++ " timed out after " ++ elapsed.text ++ " (limit " ++ bound.text ++ ")"
  | .io cause => "IO error: " ++ cause.message
  | .serialize m => "Failed to serialize manifest: " ++ m

def isTimeout : Failure → Bool
  | .timeout .. => true
  | _ => false

def isOperation : Failure → Bool
  | .operation .. | .timeout .. => true
  | _ => false

def operationName? : Failure → Option String
  | .operation name .. | .timeout name .. => some name
  | _ => none

/-- The message, followed by that of the error behind the failure, if there is one. -/
def chain (f : Failure) : String :=
  match f with
  | .io cause => f.message ++ ": " ++ cause.message
  | .serialize m => f.message ++ ": " ++ m
  | _ => f.message

end Failure

end Rollout
