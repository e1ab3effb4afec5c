import Rollout.Text.Case.Table

namespace Rollout.Text.Case

def inRanges (ranges : List (Nat × Nat)) (n : Nat) : Bool :=
  ranges.any fun r => r.1 ≤ n && n ≤ r.2

def isCased (c : Char) : Bool := inRanges casedRanges c.toNat

def isIgnorable (c : Char) : Bool := inRanges ignorableRanges c.toNat

/-- The lower case of one character out of context. Only U+0130 has two characters as its lower case. -/
def lowerChar (c : Char) : List Char :=
  let n := c.toNat
  if n == 0x130 then ['i', '\u0307']
  else match lowerRuns.find? fun (first, last, step, _) =>
      first ≤ n && n ≤ last && (n - first) % step == 0 with
    | some (first, _, _, image) => [Char.ofNat (image + (n - first))]
    | none => [c]

def meetsCased (cs : List Char) : Bool := ((cs.dropWhile isIgnorable).head?.map isCased).getD false

/-- Lower-cases `cs`, which follow the reversed text `before`. A capital sigma takes its final form where
a cased character comes before it and none after it, case-ignorable characters aside. -/
def lowerFrom (before : List Char) : List Char → List Char
  | [] => []
  | c :: r =>
    let image :=
      if c == 'Σ' then [if meetsCased before && !meetsCased r then 'ς' else 'σ'] else lowerChar c
    image ++ lowerFrom (c :: before) r

def lower (s : String) : String := String.ofList (lowerFrom [] s.toList)

end Rollout.Text.Case
