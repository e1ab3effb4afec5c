namespace Rollout

/-- Tells one run from another: 128 bits, drawn at random but for those that say that they are. -/
structure RunId where
  bits : BitVec 128
  deriving DecidableEq

namespace RunId

def digits (id : RunId) : List (BitVec 4) :=
  (List.range 32).map fun k => id.bits.extractLsb' (4 * (31 - k)) 4

def digitChar (d : BitVec 4) : Char :=
  if d.toNat < 10 then Char.ofNat (48 + d.toNat) else Char.ofNat (87 + d.toNat)

/-- The digit in place 12 is four, and that in place 16 begins with the bits one and zero. -/
def marked (k : Nat) (d : BitVec 4) : BitVec 4 :=
  if k = 12 then 4#4 else if k = 16 then 8#4 ||| (d &&& 3#4) else d

def text (id : RunId) : String :=
  let cs := id.digits.zipIdx.map fun (d, k) => digitChar (marked k d)
  let group (start size : Nat) := (cs.drop start).take size
  String.ofList <|
    group 0 8 ++ '-' :: group 8 4 ++ '-' :: group 12 4 ++ '-' :: group 16 4 ++ '-' :: group 20 12

end RunId

end Rollout
