import Rollout.CommandLine.Invocation
import Rollout.Host.Errand

namespace Rollout.Main

open Rollout

/-- Sends an errand to the host as one line, and reads its answer from the next line of the input. -/
def send (e : Host.Errand) : IO e.Answer := do
  let output ← IO.getStdout
  output.putStrLn e.line
  output.flush
  return e.answer (← (← IO.getStdin).getLine)

def dayMs : Nat := 86400000

def pause (d : Duration) : IO Unit := do
  let ms := (d.nanos + 999999) / 1000000
  (ms / dayMs).forM fun _ _ => IO.sleep (UInt32.ofNat dayMs)
  IO.sleep (UInt32.ofNat (ms % dayMs))

def drawId : IO RunId := do
  let bytes ← IO.getRandomBytes 16
  return ⟨bytes.toList.foldl (fun id b => id <<< 8 ||| BitVec.ofNat 128 b.toNat) 0#128⟩

def shown (e : LogEntry) : String :=
  " ".intercalate ([e.level.text, e.text] ++ e.fields.map fun f => f.1 ++ "=" ++ f.2)

def hold : Machine.Span → IO Unit
  | .length d => do
    if Duration.longest.nanos < d.nanos then throw (IO.userError "overflow when adding durations")
  | .deadline d => do
    if Machine.latest < (← IO.monoNanosNow) + d.nanos then
      throw (IO.userError "overflow when adding duration to instant")

def answer : (r : Host.Request) → IO (Host.Answer r)
  | .run c => send (.run c)
  | .machine (.log e) => IO.eprintln (shown e)
  | .machine .now => do return Int.ofNat (← IO.monoNanosNow)
  | .machine (.hold s) => hold s
  | .machine (.pause d) => pause d
  | .machine .drawId => drawId
  | .machine (.read path) => send (.read path)
  | .machine (.write path text) => send (.write path text)
  | .machine (.append path text) => send (.append path text)
  | .machine (.occupied path) => send (.occupied path)
  | .machine (.remove path) => send (.remove path)

def carryOut {α : Type} : Program Host.interface α → IO α
  | .done a => return a
  | .ask r next => do carryOut (next (← answer r))

def environmentNames : List String :=
  CommandLine.Flag.all.map (·.envName) ++
    [CommandLine.LogFilter.envName, CommandLine.plainName, CommandLine.styleName]

def environment : IO (List (String × String)) := do
  let values ← environmentNames.mapM fun name => do
    return (← IO.getEnv name).map fun v => (name, v)
  return values.filterMap id

end Rollout.Main

open Rollout in
def main (args : List String) : IO UInt32 := do
  let env ← Main.environment
  let env (name : String) := env.lookup name
  try
    let outcome ← Main.carryOut (CommandLine.invoke env args)
    (CommandLine.errorText env outcome).forM IO.eprintln
    match outcome with
    | .refused r => if r.isMistake then pure () else IO.println r.text
    | _ => pure ()
    return UInt32.ofNat outcome.exitCode
  catch e =>
    IO.eprintln e
    Main.carryOut (CommandLine.abandon env args)
    return 101
