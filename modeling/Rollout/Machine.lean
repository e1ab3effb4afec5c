import Rollout.Failure
import Rollout.Program
import Rollout.RunId

namespace Rollout

/-- A point in time, in nanoseconds from any fixed one. -/
abbrev Instant := Int

inductive Level
  | info
  | warn
  | error
  deriving DecidableEq

def Level.text : Level → String
  | .info => "INFO"
  | .warn => "WARN"
  | .error => "ERROR"

structure LogEntry where
  level : Level
  text : String
  fields : List (String × String)
  deriving DecidableEq

namespace Machine

/-- A time that the machine has to hold: a length, or the point in time that is so far from now. -/
inductive Span
  | length (d : Duration)
  | deadline (d : Duration)
  deriving DecidableEq

/-- The latest point in time that a clock can tell, in nanoseconds and with seconds in 64 bits with a sign. -/
def latest : Nat := 9223372036854775807 * 1000000000 + 999999999

/-- What is asked of the machine that the program runs on: its log, its clock, its random numbers and
its files. A time that cannot be held breaks the program off. -/
inductive Request
  | log (e : LogEntry)
  | now
  | hold (s : Span)
  | pause (d : Duration)
  | drawId
  | read (path : String)
  | write (path text : String)
  | append (path text : String)
  | occupied (path : String)
  | remove (path : String)

def Request.isOverlong : Request → Bool
  | .hold (.length d) => Duration.longest.nanos < d.nanos
  | _ => false

abbrev Answer : Request → Type
  | .log _ | .hold _ | .pause _ => Unit
  | .now => Instant
  | .drawId => RunId
  | .read _ => Except IoCause String
  | .write .. | .append .. | .remove _ => Except IoCause Unit
  | .occupied _ => Bool

abbrev interface : Interface := ⟨Request, Answer⟩

end Machine

class HasMachine (I : Interface) where
  machine : (r : Machine.Request) → Program I (Machine.Answer r)

namespace Machine

variable {I : Interface} [HasMachine I]

def log (level : Level) (text : String) (fields : List (String × String) := []) : Program I Unit :=
  HasMachine.machine (.log ⟨level, text, fields⟩)

def info (text : String) (fields : List (String × String) := []) : Program I Unit :=
  log .info text fields

def warn (text : String) (fields : List (String × String) := []) : Program I Unit :=
  log .warn text fields

def error (text : String) (fields : List (String × String) := []) : Program I Unit :=
  log .error text fields

def now : Program I Instant := HasMachine.machine .now

def hold (s : Span) : Program I Unit := HasMachine.machine (.hold s)

def pause (d : Duration) : Program I Unit := HasMachine.machine (.pause d)

def drawId : Program I RunId := HasMachine.machine .drawId

def read (path : String) : Program I (Except IoCause String) := HasMachine.machine (.read path)

def write (path text : String) : Program I (Except IoCause Unit) :=
  HasMachine.machine (.write path text)

def append (path text : String) : Program I (Except IoCause Unit) :=
  HasMachine.machine (.append path text)

def occupied (path : String) : Program I Bool := HasMachine.machine (.occupied path)

def remove (path : String) : Program I (Except IoCause Unit) := HasMachine.machine (.remove path)

def orFail {α : Type} : Except IoCause α → Except Failure α
  | .ok a => .ok a
  | .error c => .error (.io c)

end Machine

instance Machine.hasMachine : HasMachine Machine.interface := ⟨fun r => .perform (I := Machine.interface) r⟩

end Rollout
