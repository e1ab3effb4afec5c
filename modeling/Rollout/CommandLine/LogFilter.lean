import Rollout.Machine
import Rollout.Text.Alphanumeric
import Rollout.Text.Blank
import Rollout.Text.Integer

namespace Rollout.CommandLine

structure Notice where
  component : String
  entry : LogEntry

def Notice.fieldNames (n : Notice) : List String := "message" :: n.entry.fields.map (·.1)

/-- How much is logged: nothing for 0, up to everything for 5. -/
abbrev Verbosity := Nat

namespace Verbosity

def trace : Verbosity := 5

def ofLevel : Level → Verbosity
  | .error => 1
  | .warn => 2
  | .info => 3

def names : List (String × Verbosity) :=
  [("off", 0), ("error", 1), ("warn", 2), ("info", 3), ("debug", 4), ("trace", 5)]

/-- A number, or a name in letters of either case. -/
def read? (cs : List Char) : Option Verbosity :=
  match Text.Integer.readNat 10 (Nat.pow 2 64 - 1) cs with
  | .ok n => if n ≤ trace then some n else none
  | .error _ => names.lookup (String.ofList (cs.map Char.toLower))

end Verbosity

/-- How much of what is logged: of all components whose names begin in a certain way, inside a span, and of
entries with certain fields. A field may have to have a value. -/
structure Directive where
  component : Option String
  span : Option String
  fields : List (String × Bool)
  verbosity : Verbosity

namespace Directive

inductive Fault
  | malformed
  | badVerbosity

def Fault.message : Fault → String
  | .malformed => "invalid filter directive"
  | .badVerbosity =>
    "error parsing level filter: expected one of \"off\", \"error\", \"warn\", \"info\", \"debug\", " ++
      "\"trace\", or a number 0-5"

inductive Place
  | start
  | word (first : Nat)
  | span (first : Nat)
  | field (first : Nat)
  | afterField
  | afterSpan
  | verbosity (first : Nat)

def slice (whole : List Char) (first last : Nat) : String := String.ofList ((whole.take last).drop first)

def fieldOf (text : String) : String × Bool :=
  (String.ofList (text.toList.takeWhile (· != '=')), text.toList.contains '=')

def step (whole : List Char) (i : Nat) (c : Char) (d : Directive) : Place → Except Fault (Directive × Place)
  | .start =>
    if c = '[' then .ok (d, .span (i + 1))
    else if c = '-' ∨ c = ':' ∨ c = '_' ∨ Text.isAlphanumeric c then .ok (d, .word i)
    else .error .malformed
  | .word k =>
    if c = '=' then .ok ({ d with component := some (slice whole k i) }, .verbosity (i + 1))
    else if c = '[' then .ok ({ d with component := some (slice whole k i) }, .span (i + 1))
    else .ok (d, .word k)
  | .span k =>
    if c = ']' then .ok ({ d with span := some (slice whole k i) }, .afterSpan)
    else if c = '\x7b' then
      .ok ({ d with span := if k = i then none else some (slice whole k i) }, .field (i + 1))
    else .ok (d, .span k)
  | .field k =>
    if c = '\x7d' then
      if k = i then .error .malformed
      else .ok ({ d with fields := d.fields ++ [fieldOf (slice whole k i)] }, .afterField)
    else .ok (d, .field k)
  | .afterField => if c = ']' then .ok (d, .afterSpan) else .error .malformed
  | .afterSpan => if c = '=' then .ok (d, .verbosity (i + 1)) else .error .malformed
  | .verbosity k => .ok (d, .verbosity k)

def steps (whole : List Char) (i : Nat) (d : Directive) (p : Place) :
    List Char → Except Fault (Directive × Place)
  | [] => .ok (d, p)
  | c :: r => match step whole i c d p with
    | .ok (d, p) => steps whole (i + 1) d p r
    | .error f => .error f

/-- What stands at the end. A lone word is a verbosity if it can be one, and else a component. -/
def finish (whole : List Char) (d : Directive) : Place → Except Fault Directive
  | .word k => match Verbosity.read? (whole.drop k) with
    | some v => .ok { d with verbosity := v }
    | none => .ok { d with component := some (String.ofList (whole.drop k)) }
  | .verbosity k =>
    if (whole.drop k).isEmpty then .ok d
    else match Verbosity.read? (whole.drop k) with
      | some v => .ok { d with verbosity := v }
      | none => .error .badVerbosity
  | .afterSpan => .ok d
  | _ => .error .malformed

def everything : Directive := ⟨none, none, [], Verbosity.trace⟩

/-- Reads a directive. Blanks around it are passed over, but places are counted without those before it, in
the text that has them. -/
def read (cs : List Char) : Except Fault Directive := do
  let (d, p) ← steps cs 0 everything .start (Text.trim cs)
  finish cs d p

/-- Spans and values are never met with outside of a span, and there are none. -/
def isAnswerable (d : Directive) : Bool := d.span.isNone && d.fields.all fun f => !f.2

def concerns (d : Directive) (n : Notice) : Bool :=
  d.isAnswerable && d.fields.all (fun f => n.fieldNames.contains f.1) &&
    (d.component.getD "").toList.isPrefixOf n.component.toList

/-- The more a directive asks of an entry, the more it is worth: first a component, the longer the better,
then the number of fields. Among equals the order of the fields' names decides. -/
def isBelow (a b : Directive) : Bool :=
  let size (d : Directive) : Nat := (d.component.map fun s => s.utf8ByteSize + 1).getD 0
  size a < size b || (size a == size b &&
    (a.fields.length < b.fields.length || (a.fields.length == b.fields.length &&
      decide (a.fields.map (·.1) < b.fields.map (·.1)))))

end Directive

structure LogFilter where
  directives : List Directive
  warnings : List String

namespace LogFilter

def envName : String := "RUST_LOG"

def standard : Directive := { Directive.everything with verbosity := Verbosity.ofLevel .info }

def pieces : List Char → List (List Char)
  | [] => [[]]
  | ',' :: r => [] :: pieces r
  | c :: r => match pieces r with
    | [] => [[c]]
    | p :: ps => (c :: p) :: ps

def add (f : LogFilter) (piece : List Char) : LogFilter :=
  match Directive.read piece with
  | .ok d => { f with directives := f.directives ++ [d] }
  | .error e =>
    { f with warnings := f.warnings ++ ["ignoring `" ++ String.ofList piece ++ "`: " ++ e.message] }

def read (s : String) : LogFilter :=
  let f := ((pieces s.toList).filter fun p => !p.isEmpty).foldl add ⟨[], []⟩
  { f with directives := f.directives ++ [standard] }

def ofEnvironment (env : String → Option String) : LogFilter := read ((env envName).getD "")

def decisive? (f : LogFilter) (n : Notice) : Option Directive :=
  (f.directives.filter fun d => d.concerns n).foldl (fun best d => match best with
    | none => some d
    | some b => if d.isBelow b then some b else some d) none

def lets (f : LogFilter) (n : Notice) : Bool :=
  ((f.decisive? n).map fun d => decide (Verbosity.ofLevel n.entry.level ≤ d.verbosity)).getD false

end LogFilter

end Rollout.CommandLine
