import Rollout.Machine
import Rollout.Tools.Command

namespace Rollout

namespace Host

inductive Request
  | run (c : Command)
  | machine (r : Machine.Request)

def Request.isOverlong : Request → Bool
  | .machine r => r.isOverlong
  | _ => false

abbrev Answer : Request → Type
  | .run _ => Command.Ran
  | .machine r => Machine.Answer r

abbrev interface : Interface := ⟨Request, Answer⟩

end Host

instance Host.hasMachine : HasMachine Host.interface := ⟨fun r => .perform (I := Host.interface) (.machine r)⟩

namespace Host

abbrev Action := ExceptT Failure (Program interface)

def run (c : Command) : Program interface Command.Ran := .perform (I := interface) (.run c)

def runLogged (c : Command) : Program interface Command.Ran := do
  let ran ← run c
  match ran.ending with
  | .overran =>
    Machine.error ("Command timed out after " ++ c.limit.text) [("program", c.program)]
  | _ => pure ()
  return ran

def execute (operation : String) (c : Command) : Action Command.Output :=
  ExceptT.mk do
    let ran ← runLogged c
    match ran.output c.limit with
    | .ok o => return .ok o
    | .error f => return .error (f.toFailure operation ran.took)

def executeChecked (operation : String) (c : Command) : Action Command.Output := do
  let o ← execute operation c
  if o.isSuccess then return o else throw (o.failure operation)

def info (text : String) (fields : List (String × String) := []) : Action Unit :=
  ExceptT.lift (Machine.info text fields)

def read (path : String) : Action String :=
  ExceptT.mk do return Machine.orFail (← Machine.read path)

def write (path text : String) : Action Unit :=
  ExceptT.mk do return Machine.orFail (← Machine.write path text)

def occupied (path : String) : Action Bool := ExceptT.lift (Machine.occupied path)

end Host

end Rollout
