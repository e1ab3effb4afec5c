import Rollout.Data
import Rollout.Data.Json.Number

namespace Rollout.Data.Json

inductive Token
  | openItems
  | closeItems
  | openFields
  | closeFields
  | comma
  | colon
  | atom (d : Data)

/-- What the lexer is inside of. A text or a word holds its characters so far, the last one first. -/
inductive Lexing
  | between
  | inWord (soFar : List Char)
  | inText (soFar : List Char)
  | afterBackslash (soFar : List Char)
  | inCode (soFar : List Char) (high : Option Nat) (missing value : Nat)
  | awaitsLow (soFar : List Char) (high : Nat)
  | awaitsLowCode (soFar : List Char) (high : Nat)

def isSpace (c : Char) : Bool := c == ' ' || c == '\t' || c == '\n' || c == '\r'

def mark? : Char → Option Token
  | '[' => some .openItems
  | ']' => some .closeItems
  | '\x7b' => some .openFields
  | '\x7d' => some .closeFields
  | ',' => some .comma
  | ':' => some .colon
  | _ => none

def escaped? : Char → Option Char
  | '"' => some '"'
  | '\\' => some '\\'
  | '/' => some '/'
  | 'b' => some '\x08'
  | 'f' => some '\x0c'
  | 'n' => some '\n'
  | 'r' => some '\r'
  | 't' => some '\t'
  | _ => none

def hexDigit? (c : Char) : Option Nat :=
  if '0' ≤ c && c ≤ '9' then some (c.toNat - 48)
  else if 'a' ≤ c && c ≤ 'f' then some (c.toNat - 87)
  else if 'A' ≤ c && c ≤ 'F' then some (c.toNat - 55)
  else none

def word? (cs : List Char) : Option Data :=
  let s := String.ofList cs
  if s == "null" then some .null
  else if s == "true" then some (.flag true)
  else if s == "false" then some (.flag false)
  else if isNumber cs then some (.number s)
  else none

/-- What follows once the code unit `value` is read. Halves of a pair are of use only together. -/
def afterCode (soFar : List Char) : Option Nat → Nat → Option Lexing
  | none, value =>
    if 0xD800 ≤ value && value < 0xDC00 then some (.awaitsLow soFar value)
    else if 0xDC00 ≤ value && value < 0xE000 then none
    else some (.inText (Char.ofNat value :: soFar))
  | some high, value =>
    if 0xDC00 ≤ value && value < 0xE000 then
      some (.inText (Char.ofNat (0x10000 + (high - 0xD800) * 0x400 + (value - 0xDC00)) :: soFar))
    else none

def between (c : Char) : List Token × Lexing :=
  if isSpace c then ([], .between)
  else if c == '"' then ([], .inText [])
  else match mark? c with
    | some t => ([t], .between)
    | none => ([], .inWord [c])

def advance : Lexing → Char → Option (List Token × Lexing)
  | .between, c => some (between c)
  | .inWord soFar, c =>
    if isSpace c || c == '"' || (mark? c).isSome then do
      let d ← word? soFar.reverse
      let (ts, next) := between c
      return (.atom d :: ts, next)
    else some ([], .inWord (c :: soFar))
  | .inText soFar, c =>
    if c == '"' then some ([.atom (.text (String.ofList soFar.reverse))], .between)
    else if c == '\\' then some ([], .afterBackslash soFar)
    else if c.toNat < 0x20 then none
    else some ([], .inText (c :: soFar))
  | .afterBackslash soFar, c =>
    if c == 'u' then some ([], .inCode soFar none 4 0)
    else (escaped? c).map fun e => ([], .inText (e :: soFar))
  | .inCode soFar high missing value, c => do
    let d ← hexDigit? c
    let value := 16 * value + d
    if missing ≤ 1 then
      let next ← afterCode soFar high value
      return ([], next)
    else return ([], .inCode soFar high (missing - 1) value)
  | .awaitsLow soFar high, c => if c == '\\' then some ([], .awaitsLowCode soFar high) else none
  | .awaitsLowCode soFar high, c => if c == 'u' then some ([], .inCode soFar (some high) 4 0) else none

def tokensFrom : Lexing → List Char → Option (List Token)
  | .between, [] => some []
  | .inWord soFar, [] => (word? soFar.reverse).map fun d => [.atom d]
  | _, [] => none
  | l, c :: r => do
    let (ts, next) ← advance l c
    let rest ← tokensFrom next r
    return ts ++ rest

def tokens? (s : String) : Option (List Token) := tokensFrom .between s.toList

end Rollout.Data.Json
