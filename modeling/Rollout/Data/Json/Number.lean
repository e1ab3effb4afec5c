import Rollout.Text.Decimal

namespace Rollout.Data.Json

open Text.Decimal

structure Numeral where
  whole : List Char
  part : List Char
  exponent : Int

namespace Numeral

def part? : List Char → Option (List Char × List Char)
  | '.' :: r => if (r.head?.map isDigit).getD false then some (r.takeWhile isDigit, r.dropWhile isDigit)
    else none
  | r => some ([], r)

def exponent? : List Char → Option Int
  | [] => some 0
  | c :: r => if c == 'e' || c == 'E' then Text.Decimal.exponent? r else none

def read? (cs : List Char) : Option Numeral := do
  let whole := cs.takeWhile isDigit
  if whole.isEmpty || (whole.head? == some '0' && whole.length != 1) then none
  else do
    let (part, r) ← part? (cs.dropWhile isDigit)
    return ⟨whole, part, ← exponent? r⟩

def wordLimit : Nat := Nat.pow 2 64 - 1

/-- Reads digits as long as the number fits 64 bits. Tells how many are left. -/
def takeIn (n : Nat) : List Char → Nat × Nat
  | [] => (n, 0)
  | c :: r =>
    if 10 * n + (c.toNat - 48) ≤ wordLimit then takeIn (10 * n + (c.toNat - 48)) r
    else (n, r.length + 1)

def parts (l : Numeral) : Nat × Int :=
  let (n, cut) := takeIn 0 l.whole
  let (n, cutPart) := takeIn n l.part
  (n, l.exponent + cut + cutPart - l.part.length)

/-- The number and its power of ten are each rounded, and their product must still be a double. -/
def isInRange (l : Numeral) : Bool :=
  let (n, scale) := l.parts
  n == 0 || scale ≤ 0 ||
    (scale ≤ 308 && toDouble n * toDouble (Nat.pow 10 scale.toNat) < doubleLimit)

end Numeral

def isNumber (cs : List Char) : Bool :=
  let unsigned := match cs with
    | '-' :: r => r
    | r => r
  ((Numeral.read? unsigned).map Numeral.isInRange).getD false

end Rollout.Data.Json
