namespace Rollout.Text.Percent

def isUnreserved (b : UInt8) : Bool :=
  let c := Char.ofNat b.toNat
  c.isAlphanum || c == '-' || c == '_' || c == '.' || c == '~'

def upperHex (n : Nat) : Char := if n < 10 then Char.ofNat (48 + n) else Char.ofNat (55 + n)

def encodeByte (b : UInt8) : List Char :=
  if isUnreserved b then [Char.ofNat b.toNat]
  else ['%', upperHex (b.toNat / 16), upperHex (b.toNat % 16)]

def encodeBytes (bs : List UInt8) : List Char := bs.flatMap encodeByte

def encode (s : String) : String := String.ofList (encodeBytes s.toUTF8.toList)

def hexDigit? (c : Char) : Option Nat :=
  if '0' ≤ c && c ≤ '9' then some (c.toNat - 48)
  else if 'A' ≤ c && c ≤ 'F' then some (c.toNat - 55)
  else if 'a' ≤ c && c ≤ 'f' then some (c.toNat - 87)
  else none

/-- The bytes that a percent-encoded text stands for. Refuses a `%` without two hexadecimal digits and
any character that should have been encoded. -/
def decode? : List Char → Option (List UInt8)
  | [] => some []
  | '%' :: x :: y :: r => do
    let h ← hexDigit? x
    let l ← hexDigit? y
    let bs ← decode? r
    return UInt8.ofNat (16 * h + l) :: bs
  | c :: r =>
    if c.toNat < 128 && isUnreserved (UInt8.ofNat c.toNat) then
      (decode? r).map (UInt8.ofNat c.toNat :: ·)
    else none

end Rollout.Text.Percent
