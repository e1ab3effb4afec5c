import Rollout.Data.Json.Reader
import Rollout.Data.Json.Writer
import Rollout.Host
import Rollout.Text.Integer

namespace Rollout.Host

/-- What a host does for a program that speaks to it in lines: it runs commands and keeps files. -/
inductive Errand
  | run (c : Command)
  | read (path : String)
  | write (path text : String)
  | append (path text : String)
  | occupied (path : String)
  | remove (path : String)

namespace Errand

def Answer : Errand → Type
  | .run _ => Command.Ran
  | .read _ => Except IoCause String
  | .write .. | .append .. | .remove _ => Except IoCause Unit
  | .occupied _ => Bool

def number (n : Nat) : Data := .number (toString n)

def optional : Option String → Data
  | some s => .text s
  | none => .null

def data : Errand → Data
  | .run c =>
    .fields [("run", .fields
      [("program", .text c.program), ("args", .items (c.args.map .text)), ("input", optional c.input),
        ("folder", optional c.folder), ("limit", number c.limit.nanos)])]
  | .read path => .fields [("read", .text path)]
  | .write path text => .fields [("write", .items [.text path, .text text])]
  | .append path text => .fields [("append", .items [.text path, .text text])]
  | .occupied path => .fields [("occupied", .text path)]
  | .remove path => .fields [("remove", .text path)]

def line (e : Errand) : String := Data.Json.write e.data

def count? : Data → Option Nat
  | .number literal => (Text.Integer.readNat 10 (Nat.pow 2 64 - 1) literal.toList).toOption
  | _ => none

def byte? (d : Data) : Option UInt8 := do
  let n ← count? d
  if n < 256 then some (UInt8.ofNat n) else none

def bytes? (d : Data) : Option (List UInt8) := do (← d.items?).mapM byte?

def cause? (d : Data) : Option IoCause :=
  d.text?.map fun s =>
    if s = "not found" then .notFound
    else if s = "permission denied" then .permissionDenied
    else if s = "already exists" then .alreadyExists
    else if s = "not a folder" then .notDirectory
    else if s = "a folder" then .isDirectory
    else if s = "name too long" then .nameTooLong
    else .other s

def result? {α : Type} (value? : Data → Option α) (d : Data) : Option (Except IoCause α) :=
  match d.field? "error" with
  | some e => (cause? e).map .error
  | none => ((d.field? "ok").bind value?).map .ok

def status? (d : Data) : Option Command.Status := (count? d).map .mk

def ending? (d : Data) : Option Command.Ending :=
  match d.field? "unstarted", d.field? "lost", d.field? "overran" with
  | some e, _, _ => (cause? e).map .unstarted
  | none, some e, _ => (cause? e).map .lost
  | none, none, some _ => some .overran
  | none, none, none => do
    let status ← (d.field? "status").bind status?
    let stdout ← (d.field? "stdout").bind bytes?
    let stderr ← (d.field? "stderr").bind bytes?
    return .ended status stdout stderr

def ran? (d : Data) : Option Command.Ran := do
  let took ← (d.field? "took").bind count?
  return ⟨⟨took⟩, ← ending? d⟩

def flag? : Data → Option Bool
  | .flag b => some b
  | _ => none

def readAnswer? : (e : Errand) → Data → Option e.Answer
  | .run _, d => ran? d
  | .read _, d => result? Data.text? d
  | .write .., d | .append .., d | .remove _, d => result? (fun _ => some ()) d
  | .occupied _, d => flag? d

def unanswered : IoCause := .other "the host does not answer"

def fault : (e : Errand) → e.Answer
  | .run _ => ⟨.zero, .lost unanswered⟩
  | .read _ | .write .. | .append .. | .remove _ => .error unanswered
  | .occupied _ => false

def answer (e : Errand) (line : String) : e.Answer :=
  ((Data.Json.read? line).bind e.readAnswer?).getD e.fault

end Errand

end Rollout.Host
