import Rollout.CommandLine.Flag
import Rollout.Stack
import Rollout.Text.Lines
import Rollout.Text.Terminal

namespace Rollout.CommandLine

/-- Why the words of a command line give no settings. A request for help or for the version is one of
the reasons. -/
inductive Refusal
  | help
  | version
  | invalidValue (value flag reason : String)
  | notAllowed (value flag : String)
  | missingValue (flag : String)
  | unexpected (word : String)
  | repeated (flag : String)
  | unwantedValue (value flag : String)
  deriving DecidableEq

namespace Refusal

def about : String := "Deploy the MLflow operator and an MLflow instance onto a kind cluster"

def mistake (text : String) : String :=
  Text.Terminal.styled .error "error:" ++ " " ++ text ++ "\n\nFor more information, try '" ++
    Text.Terminal.styled .literal "--help" ++ "'."

def quoted (s : Text.Terminal.Style) (text : String) : String := "'" ++ Text.Terminal.styled s text ++ "'"

def text : Refusal → String
  | .help => about
  | .version => "mlflow-deploy " ++ Rollout.version
  | .invalidValue v f r =>
    mistake ("invalid value " ++ quoted .invalid v ++ " for " ++ quoted .literal f ++ ": " ++ r)
  | .notAllowed v f => mistake ("invalid value " ++ quoted .invalid v ++ " for " ++ quoted .literal f)
  | .missingValue f =>
    mistake ("a value is required for " ++ quoted .invalid f ++ " but none was supplied")
  | .unexpected w => mistake ("unexpected argument " ++ quoted .invalid w ++ " found")
  | .repeated f =>
    mistake ("the argument " ++ quoted .invalid f ++ " cannot be used multiple times")
  | .unwantedValue v f =>
    mistake ("unexpected value " ++ quoted .invalid v ++ " for " ++ quoted .literal f ++
      " found; no more were expected")

def shown (r : Refusal) (inStyle : Bool) : String :=
  if inStyle then r.text else Text.Terminal.visible r.text

def firstLine (r : Refusal) : String := Text.firstLine (r.shown false)

def isMistake : Refusal → Bool
  | .help | .version => false
  | _ => true

def exitCode (r : Refusal) : Nat := if r.isMistake then 2 else 0

end Refusal

structure Pending where
  flag : Flag
  value : Option String

/-- How far the words are read: the settings so far, the flags that were given, and the last flag while
its value is still to come. -/
structure Progress where
  settings : Settings
  given : List String
  pending : Option Pending

namespace Progress

def start : Progress := ⟨{}, [], none⟩

def assign (p : Progress) (f : Flag) (value : String) : Except Refusal Progress :=
  match f.assign value p.settings with
  | .ok s => .ok { p with settings := s, given := f.name :: p.given }
  | .error .empty => .error (.missingValue f.usage)
  | .error .choice => .error (.notAllowed value f.usage)
  | .error (.reason r) => .error (.invalidValue value f.usage r)

def settle (p : Progress) : Except Refusal Progress :=
  match p.pending with
  | none => .ok p
  | some ⟨f, none⟩ => .error (.missingValue f.usage)
  | some ⟨f, some v⟩ =>
    if p.given.contains f.name then .error (.repeated f.usage)
    else { p with pending := none }.assign f v

def expect (p : Progress) (f : Flag) : Except Refusal Progress :=
  (p.settle).map fun p => { p with pending := some ⟨f, none⟩ }

def attach (p : Progress) (f : Flag) (v : String) : Except Refusal Progress := do
  let p ← p.settle
  { p with pending := some ⟨f, some v⟩ }.settle

end Progress

def letters (p : Progress) : List Char → Except Refusal Progress
  | [] => .ok p
  | 'h' :: _ => do
    let _ ← p.settle
    .error .help
  | 'V' :: _ => do
    let _ ← p.settle
    .error .version
  | c :: _ => .error (.unexpected ("-" ++ String.ofList [c]))

def long (p : Progress) (cs : List Char) : Except Refusal Progress :=
  let name := String.ofList (cs.takeWhile (· != '='))
  let value := if cs.contains '=' then some (String.ofList (cs.dropWhile (· != '=')).tail) else none
  match Flag.find? name, value with
  | some f, none => p.expect f
  | some f, some v => p.attach f v
  | none, value =>
    if name = "help" ∨ name = "version" then match value with
      | some v => .error (.unwantedValue v ("--" ++ name))
      | none => do
        let _ ← p.settle
        .error (if name = "help" then .help else .version)
    else .error (.unexpected ("--" ++ name))

def plain (p : Progress) (word : String) : Except Refusal Progress :=
  match p.pending with
  | some ⟨f, none⟩ => .ok { p with pending := some ⟨f, some word⟩ }
  | _ => .error (.unexpected word)

def words (p : Progress) : List String → Except Refusal Progress
  | [] => p.settle
  | "--" :: [] => p.settle
  | "--" :: w :: _ => .error (.unexpected w)
  | w :: ws => do
    let p ← match w.toList with
      | '-' :: '-' :: cs => long p cs
      | '-' :: c :: cs => letters p (c :: cs)
      | _ => plain p w
    words p ws

/-- A flag that was not given takes its environment variable. -/
def fromEnvironment (env : String → Option String) (p : Progress) (f : Flag) :
    Except Refusal Progress :=
  if p.given.contains f.name then .ok p
  else match env f.envName with
    | some v => p.assign f v
    | none => .ok p

def read (env : String → Option String) (ws : List String) : Except Refusal Settings := do
  let p ← words .start ws
  let p ← Flag.all.foldlM (fromEnvironment env) p
  return p.settings

end Rollout.CommandLine
