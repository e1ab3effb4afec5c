namespace Rollout.Text

def isWordChar (c : Char) : Bool := c.isAlphanum || c == '_'

/-- The name that a reference gives, read right after its dollar sign, and what follows the reference:
either the name in braces, or the longest word there. An opening brace that is never closed begins no
reference. -/
def reference? : List Char → Option (List Char × List Char)
  | '\x7b' :: r =>
    if r.contains '\x7d' then some (r.takeWhile (· != '\x7d'), (r.dropWhile (· != '\x7d')).tail) else none
  | r => some (r.takeWhile isWordChar, r.dropWhile isWordChar)

theorem length_dropWhile_le (p : Char → Bool) (cs : List Char) :
    (cs.dropWhile p).length ≤ cs.length :=
  (List.dropWhile_suffix p).length_le

theorem length_of_reference? {r name rest : List Char} (h : reference? r = some (name, rest)) :
    rest.length ≤ r.length := by
  unfold reference? at h
  split at h
  · rename_i r
    split at h
    · simp only [Option.some.injEq, Prod.mk.injEq] at h
      have := length_dropWhile_le (· != '\x7d') r
      simp [← h.2]; omega
    · simp at h
  · simp only [Option.some.injEq, Prod.mk.injEq] at h
    simpa [← h.2] using length_dropWhile_le isWordChar r

def valueOf? (vars : List (List Char × List Char)) (name : List Char) : Option (List Char) :=
  (vars.find? fun v => v.1 == name).map (·.2)

/-- Puts the values of the listed variables in place of the references to them. Any other dollar sign
stays, and a value that was put in is not read again. -/
def substituteChars (vars : List (List Char × List Char)) : List Char → List Char
  | [] => []
  | c :: r =>
    if c = '$' then
      match h : reference? r with
      | some (name, rest) =>
        have : rest.length ≤ r.length := length_of_reference? h
        match valueOf? vars name with
        | some value => value ++ substituteChars vars rest
        | none => '$' :: substituteChars vars r
      | none => '$' :: substituteChars vars r
    else c :: substituteChars vars r
termination_by cs => cs.length
decreasing_by
  · simp; omega
  all_goals simp

def substitute (vars : List (String × String)) (template : String) : String :=
  String.ofList <|
    substituteChars (vars.map fun v => (v.1.toList, v.2.toList)) template.toList

end Rollout.Text
