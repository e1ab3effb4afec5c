namespace Rollout.Text

/-- A decimal numeral without its sign: its digits, read as one whole number, times ten to the
power of `scale`. -/
structure Decimal where
  digits : List Char
  scale : Int

namespace Decimal

def isDigit (c : Char) : Bool := '0' ≤ c && c ≤ '9'

def natOf (digits : List Char) : Nat := digits.foldl (fun n c => 10 * n + (c.toNat - 48)) 0

def exponent? (cs : List Char) : Option Int :=
  let (negative, ds) := match cs with
    | '-' :: r => (true, r)
    | '+' :: r => (false, r)
    | r => (false, r)
  if ds.isEmpty || !ds.all isDigit then none
  else some (if negative then -(natOf ds : Int) else natOf ds)

def read? (cs : List Char) : Option Decimal :=
  let whole := cs.takeWhile isDigit
  let r := cs.dropWhile isDigit
  let (part, r) := match r with
    | '.' :: r => (r.takeWhile isDigit, r.dropWhile isDigit)
    | r => ([], r)
  if whole.isEmpty && part.isEmpty then none
  else match r with
    | [] => some ⟨whole ++ part, -part.length⟩
    | e :: r =>
      if e == 'e' || e == 'E' then
        (exponent? r).map fun n => ⟨whole ++ part, n - part.length⟩
      else none

/-- The nearest whole number with at most 53 significant bits, and the even one of two. -/
def toDouble (n : Nat) : Nat :=
  let unit := Nat.pow 2 (n.log2 - 52)
  let below := n / unit
  let rest := n % unit
  (if 2 * rest < unit ∨ 2 * rest = unit ∧ below % 2 = 0 then below else below + 1) * unit

/-- The least positive number that rounds to no double: the largest double plus half a unit of its
last place. -/
def doubleLimit : Nat := Nat.pow 2 1024 - Nat.pow 2 970

/-- Below the limit of doubles. Where the leading digit alone decides, no power is computed. -/
def fitsDouble (d : Decimal) : Bool :=
  let significant := d.digits.dropWhile (· == '0')
  let order := significant.length + d.scale
  if significant.isEmpty || order < 300 then true
  else if 400 < order then false
  else if 0 ≤ d.scale then natOf significant * Nat.pow 10 d.scale.toNat < doubleLimit
  else natOf significant < doubleLimit * Nat.pow 10 (-d.scale).toNat

end Decimal

end Rollout.Text
