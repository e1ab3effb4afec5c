import Rollout.Cluster.Call
import Rollout.Machine

namespace Rollout

inductive Part
  | database
  | objectStore
  | operator
  deriving DecidableEq

structure Cluster.Reply (α : Type) where
  took : Duration
  outcome : Except Failure α

/-- How a query went that is given up after a time limit. -/
inductive Poll
  | unanswered
  | answered (took : Duration) (outcome : Except Failure Bool)

namespace Poll

/-- The resource is known to be there, as of this long after the query began. An answer that comes just
in time counts. -/
def found? (limit : Duration) : Poll → Option Duration
  | .answered took (.ok true) => if took.nanos ≤ limit.nanos then some took else none
  | _ => none

def spent (limit : Duration) : Poll → Duration
  | .answered took _ => took.shorter limit
  | .unanswered => limit

end Poll

namespace Site

/-- What is asked of the place where a deployment happens: its cluster, its manifests, a place for
results, and a machine. -/
inductive Request
  | cluster (c : Cluster.Call)
  | poll (r : Cluster.Resource) (limit : Duration)
  | render (part : Part)
  | record (key value : String)
  | machine (r : Machine.Request)

abbrev Answer : Request → Type
  | .cluster c => Cluster.Reply c.Answer
  | .poll .. => Poll
  | .render _ => Except Failure String
  | .record .. => Except Failure Unit
  | .machine r => Machine.Answer r

abbrev interface : Interface := ⟨Request, Answer⟩

end Site

instance Site.hasMachine : HasMachine Site.interface := ⟨fun r => .perform (I := Site.interface) (.machine r)⟩

namespace Site

abbrev Action := ExceptT Failure (Program interface)

def attempt (c : Cluster.Call) : Program interface (Except Failure c.Answer) :=
  .ask (.cluster c) fun reply => .done reply.outcome

def call (c : Cluster.Call) : Action c.Answer := ExceptT.mk (attempt c)

def render (part : Part) : Action String := ExceptT.mk (.perform (I := interface) (.render part))

def record (key value : String) : Action Unit :=
  ExceptT.mk (.perform (I := interface) (.record key value))

def write (path text : String) : Action Unit :=
  ExceptT.mk do return Machine.orFail (← Machine.write path text)

def info (text : String) (fields : List (String × String) := []) : Action Unit :=
  ExceptT.lift (Machine.info text fields)

/-- When `a` fails, `after` is carried out before the failure goes on. -/
def onFailure {α : Type} (a : Action α) (after : Program interface Unit) : Action α :=
  ExceptT.mk do
    match ← a.run with
    | .ok x => return .ok x
    | .error e => do
      after
      return .error e

end Site

end Rollout
