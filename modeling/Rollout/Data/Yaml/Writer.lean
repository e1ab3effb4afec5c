import Rollout.Data
import Rollout.Data.Yaml.Style

namespace Rollout.Data.Yaml

def spaces (n : Nat) : List Char := List.replicate n ' '

def upperHex (width n : Nat) : List Char :=
  let ds := (Nat.toDigits 16 n).map Char.toUpper
  List.replicate (width - ds.length) '0' ++ ds

def escape (c : Char) : List Char :=
  if c == '\x00' then ['\\', '0']
  else if c == '\x07' then ['\\', 'a']
  else if c == '\x08' then ['\\', 'b']
  else if c == '\t' then ['\\', 't']
  else if c == '\n' then ['\\', 'n']
  else if c == '\x0b' then ['\\', 'v']
  else if c == '\x0c' then ['\\', 'f']
  else if c == '\r' then ['\\', 'r']
  else if c == '\x1b' then ['\\', 'e']
  else if c == '"' || c == '\\' then ['\\', c]
  else if c == '\u0085' then ['\\', 'N']
  else if c == '\u2028' then ['\\', 'L']
  else if c == '\u2029' then ['\\', 'P']
  else if isPrintable c then [c]
  else if c.toNat ≤ 0xFF then '\\' :: 'x' :: upperHex 2 c.toNat
  else if c.toNat ≤ 0xFFFF then '\\' :: 'u' :: upperHex 4 c.toNat
  else '\\' :: 'U' :: upperHex 8 c.toNat

def double (cs : List Char) : List Char := '"' :: cs.flatMap escape ++ ['"']

/-- Between single quotes a quote is doubled. After a break the line is indented before what comes
next, the closing quote included. -/
def singleFrom (indent : Nat) (afterBreak : Bool) : List Char → List Char
  | [] => (if afterBreak then spaces indent else []) ++ ['\'']
  | c :: r =>
    if isBreak c then c :: singleFrom indent true r
    else (if afterBreak then spaces indent else []) ++ (if c == '\'' then ['\'', '\''] else [c]) ++
      singleFrom indent false r

def single (indent : Nat) (cs : List Char) : List Char := '\'' :: singleFrom indent false cs

def literalFrom (indent : Nat) (afterBreak : Bool) : List Char → List Char
  | [] => []
  | c :: r =>
    if isBreak c then c :: literalFrom indent true r
    else (if afterBreak then spaces indent else []) ++ c :: literalFrom indent false r

/-- The sign after `|` that says what becomes of the breaks at the end: `-` for none, `+` for more than
one or nothing but one. -/
def chomping (cs : List Char) : List Char :=
  match cs.reverse with
  | [] => ['-']
  | a :: r =>
    if !isBreak a then ['-']
    else match r with
      | [] => ['+']
      | b :: _ => if isBreak b then ['+'] else []

/-- The indentation is stated where the text itself begins with a space or a break. -/
def indentHint (cs : List Char) : List Char :=
  match cs.head? with
  | some c => if c == ' ' || isBreak c then ['2'] else []
  | none => []

def literal (indent : Nat) (cs : List Char) : List Char :=
  '|' :: indentHint cs ++ chomping cs ++ '\n' :: literalFrom indent true cs

def scalar (indent : Nat) (s : String) : List Char :=
  let cs := s.toList
  let endLine (r : List Char) := r ++ ['\n']
  match styleOf s with
  | .plain => endLine cs
  | .single => endLine (single indent cs)
  | .double => endLine (double cs)
  | .literal =>
    let r := literal indent cs
    if (cs.getLast?.map isBreak).getD false then r else endLine r

mutual

/-- A value from where it begins: after its key, after a dash, or at the start of a line. Its lines from
the second one on are indented by `indent`. -/
def value (indent : Nat) : Data → List Char
  | .null => "null\n".toList
  | .flag true => "true\n".toList
  | .flag false => "false\n".toList
  | .number n => n.toList ++ ['\n']
  | .text s => scalar indent s
  | .items [] => "[]\n".toList
  | .fields [] => "\x7b\x7d\n".toList
  | .items ds => items indent true ds
  | .fields kvs => record indent true kvs

def items (indent : Nat) (begun : Bool) : List Data → List Char
  | [] => []
  | d :: ds =>
    (if begun then [] else spaces indent) ++ '-' :: ' ' :: value (indent + 2) d ++ items indent false ds

def record (indent : Nat) (begun : Bool) : List (String × Data) → List Char
  | [] => []
  | (k, d) :: kvs =>
    (if begun then [] else spaces indent) ++ k.toList ++ ':' ::
      (match d with
       | .fields (kv :: r) => '\n' :: record (indent + 2) false (kv :: r)
       | .items (e :: r) => '\n' :: items indent false (e :: r)
       | d => ' ' :: value (indent + 2) d) ++ record indent false kvs

end

def write (d : Data) : String := String.ofList (value 0 d)

end Rollout.Data.Yaml
