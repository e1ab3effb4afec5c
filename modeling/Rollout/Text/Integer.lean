namespace Rollout.Text.Integer

inductive Fault
  | empty
  | invalidDigit
  | tooLarge
  | tooSmall
  deriving DecidableEq

def Fault.message : Fault → String
  | .empty => "cannot parse integer from empty string"
  | .invalidDigit => "invalid digit found in string"
  | .tooLarge => "number too large to fit in target type"
  | .tooSmall => "number too small to fit in target type"

def digit? (radix : Nat) (c : Char) : Option Nat :=
  let n := c.toNat
  let value :=
    if 48 ≤ n && n ≤ 57 then n - 48
    else if 97 ≤ n && n ≤ 122 then n - 87
    else if 65 ≤ n && n ≤ 90 then n - 55
    else radix
  if value < radix then some value else none

def magnitude (radix bound : Nat) (overflow : Fault) (value : Nat) : List Char → Except Fault Nat
  | [] => .ok value
  | c :: r => match digit? radix c with
    | none => .error .invalidDigit
    | some d =>
      let next := value * radix + d
      if bound < next then .error overflow else magnitude radix bound overflow next r

/-- A natural number up to `bound`, with an optional plus sign. -/
def readNat (radix bound : Nat) : List Char → Except Fault Nat
  | [] => .error .empty
  | ['+'] | ['-'] => .error .invalidDigit
  | '+' :: r => magnitude radix bound .tooLarge 0 r
  | cs => magnitude radix bound .tooLarge 0 cs

def readInt (radix bound : Nat) : List Char → Except Fault Int
  | [] => .error .empty
  | ['+'] | ['-'] => .error .invalidDigit
  | '+' :: r => (magnitude radix bound .tooLarge 0 r).map Int.ofNat
  | '-' :: r => (magnitude radix (bound + 1) .tooSmall 0 r).map fun n => -Int.ofNat n
  | cs => (magnitude radix bound .tooLarge 0 cs).map Int.ofNat

end Rollout.Text.Integer
