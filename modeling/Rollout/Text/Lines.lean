namespace Rollout.Text

/-- Cuts a text at its line feeds, which belong to no line. A carriage return right before a line
feed goes with it, and what follows the last line feed is a line unless it is empty. -/
def lines : List Char → List (List Char)
  | [] => []
  | '\n' :: r => [] :: lines r
  | '\r' :: '\n' :: r => [] :: lines r
  | c :: r => match lines r with
    | [] => [[c]]
    | l :: ls => (c :: l) :: ls

def unlines : List (List Char) → List Char
  | [] => []
  | [l] => l
  | l :: ls => l ++ '\n' :: unlines ls

theorem unlines_cons {l : List Char} {ls : List (List Char)} (h : ls ≠ []) :
    unlines (l :: ls) = l ++ '\n' :: unlines ls := by
  cases ls with
  | nil => exact absurd rfl h
  | cons m ms => rfl

def linesOf (s : String) : List String := (lines s.toList).map String.ofList

def firstLine (s : String) : String := (linesOf s).headD ""

end Rollout.Text
