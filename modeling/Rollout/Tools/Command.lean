import Rollout.Failure
import Rollout.Text.Blank
import Rollout.Text.Lines
import Rollout.Text.Utf8

namespace Rollout

structure Command where
  program : String
  args : List String
  input : Option String
  folder : Option String
  limit : Duration
  deriving DecidableEq

namespace Command

/-- How a process ended. The low seven bits are the signal that ended it, none of them set after an exit,
whose code is in the eight bits above the lowest eight. -/
structure Status where
  raw : Nat
  deriving DecidableEq

namespace Status

def ofCode (code : Int) : Status := ⟨(code % 256).toNat * 256⟩

def ofSignal (signal : Nat) : Status := ⟨signal⟩

def isSuccess (s : Status) : Bool := s.raw == 0

/-- A process that was ended by a signal has no exit code, for which -1 stands. -/
def exitCode (s : Status) : Int := if s.raw % 128 = 0 then (s.raw / 256 % 256 : Nat) else -1

end Status

inductive Ending
  | unstarted (cause : IoCause)
  | lost (cause : IoCause)
  | overran
  | ended (status : Status) (stdout stderr : List UInt8)
  deriving DecidableEq

structure Ran where
  took : Duration
  ending : Ending
  deriving DecidableEq

inductive Fault
  | unstarted (cause : IoCause)
  | overran (limit : Duration)
  | lost (cause : IoCause)
  deriving DecidableEq

namespace Fault

def message : Fault → String
  | .unstarted c => "Failed to spawn command: " ++ c.message
  | .overran limit => "Command timed out after " ++ limit.text
  | .lost c => "Failed to wait for command: " ++ c.message

def hasSource : Fault → Bool
  | .overran _ => false
  | _ => true

def toFailure (operation : String) (elapsed : Duration) : Fault → Failure
  | .overran limit => .timeout operation limit elapsed
  | f => .operation operation elapsed f.message

end Fault

structure Output where
  status : Status
  stdout : String
  stderr : String
  took : Duration
  deriving DecidableEq

namespace Output

def isSuccess (o : Output) : Bool := o.status.isSuccess

def exitCode (o : Output) : Int := o.status.exitCode

def complaint (o : Output) : String := if Text.isVoid o.stderr then o.stdout else o.stderr

def lastLines (n : Nat) (s : String) : List String :=
  let ls := (Text.linesOf s).filter fun l => !Text.isVoid l
  ls.drop (ls.length - n)

def tail (n : Nat) (o : Output) : String :=
  let ls := "\n".intercalate (lastLines n o.complaint)
  let code := "exit code " ++ toString o.exitCode
  if ls = "" then code else code ++ ": " ++ ls

def failure (operation : String) (o : Output) : Failure := .operation operation o.took (o.tail 5)

end Output

def Ran.output (limit : Duration) (r : Ran) : Except Fault Output :=
  match r.ending with
  | .unstarted c => .error (.unstarted c)
  | .lost c => .error (.lost c)
  | .overran => .error (.overran limit)
  | .ended status stdout stderr =>
    .ok ⟨status, Text.Utf8.decode stdout, Text.Utf8.decode stderr, r.took⟩

end Command

end Rollout
