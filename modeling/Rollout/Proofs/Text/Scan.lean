import Rollout.Proofs.Text.Entries

namespace Rollout.Text

def IsIdentifier (name : List Char) : Prop := name ≠ [] ∧ ∀ c ∈ name, isWordChar c = true

instance (name : List Char) : Decidable (IsIdentifier name) :=
  decidable_of_iff (name ≠ [] ∧ name.all isWordChar = true) (by rw [List.all_eq_true, IsIdentifier])

/-- A reference to a variable, in braces or bare. -/
structure Reference where
  name : List Char
  braced : Bool

namespace Reference

/-- How it is written after its dollar sign. -/
def text (ref : Reference) : List Char := if ref.braced then '\x7b' :: (ref.name ++ ['\x7d']) else ref.name

/-- A bare name ends where no longer word begins. -/
def EndsBefore (ref : Reference) (rest : List Char) : Prop :=
  ref.braced = false → ∀ c ∈ rest.head?, isWordChar c = false

/-- A text begins with the reference. -/
def Opens (ref : Reference) (after : List Char) : Prop := ∃ rest, after = ref.text ++ rest ∧ ref.EndsBefore rest

variable {ref ref' : Reference} {rest after : List Char}

theorem mem_text (hname : IsIdentifier ref.name) {c : Char} (hc : c ∈ ref.text) :
    isWordChar c = true ∨ c = '\x7b' ∨ c = '\x7d' := by
  unfold text at hc
  split at hc
  · simp only [List.mem_cons, List.mem_append, List.not_mem_nil, or_false] at hc
    rcases hc with hc | hc | hc
    · exact .inr (.inl hc)
    · exact .inl (hname.2 c hc)
    · exact .inr (.inr hc)
  · exact .inl (hname.2 c hc)

theorem dollar_not_mem_text (hname : IsIdentifier ref.name) : '$' ∉ ref.text := by
  intro hmem
  have hc := mem_text hname hmem
  revert hc
  decide

theorem reference?_of_head?_ne {r : List Char} (h : r.head? ≠ some '\x7b') :
    reference? r = some (r.takeWhile isWordChar, r.dropWhile isWordChar) := by
  unfold reference?
  split
  · exact absurd rfl h
  · rfl

theorem reference?_braced {name : List Char} (h : '\x7d' ∉ name) (rest : List Char) :
    reference? ('\x7b' :: (name ++ '\x7d' :: rest)) = some (name, rest) := by
  have hopen := bne_of_not_mem h
  rw [reference?, if_pos (by simp), List.takeWhile_append_of_pos hopen, List.dropWhile_append_of_pos hopen]
  simp

theorem reference?_text (hname : IsIdentifier ref.name) (hrest : ref.EndsBefore rest) :
    reference? (ref.text ++ rest) = some (ref.name, rest) := by
  obtain ⟨name, braced⟩ := ref
  cases braced with
  | true =>
      have hbrace : '\x7d' ∉ name := fun hmem => absurd (hname.2 _ hmem) (by decide)
      simpa [text] using reference?_braced hbrace rest
  | false =>
      have hhead : (name ++ rest).head? ≠ some '\x7b' := by
        obtain ⟨c, cs, rfl⟩ := List.exists_cons_of_ne_nil hname.1
        rintro ⟨rfl⟩
        exact absurd (hname.2 _ List.mem_cons_self) (by decide)
      have hend : rest.takeWhile isWordChar = [] ∧ rest.dropWhile isWordChar = rest := by
        cases rest with
        | nil => exact ⟨rfl, rfl⟩
        | cons c cs => simp [hrest rfl c rfl]
      change reference? (name ++ rest) = _
      rw [reference?_of_head?_ne hhead, List.takeWhile_append_of_pos hname.2, List.dropWhile_append_of_pos hname.2,
        hend.1, hend.2, List.append_nil]

theorem exists_text_of_reference? {name : List Char} (h : reference? after = some (name, rest)) :
    ∃ ref : Reference, ref.name = name ∧ after = ref.text ++ rest ∧ ref.EndsBefore rest := by
  by_cases hhead : after.head? = some '\x7b'
  · obtain ⟨r, rfl⟩ := List.head?_eq_some_iff.1 hhead
    by_cases hclosed : '\x7d' ∈ r
    · obtain ⟨name', rest', rfl, hopen⟩ := List.eq_append_cons_of_mem hclosed
      rw [reference?_braced hopen] at h
      obtain ⟨rfl, rfl⟩ := Prod.mk.inj (Option.some.inj h)
      exact ⟨⟨name', true⟩, rfl, by simp [text], nofun⟩
    · rw [reference?, if_neg (by simpa using hclosed)] at h
      cases h
  · rw [reference?_of_head?_ne hhead] at h
    obtain ⟨rfl, rfl⟩ := Prod.mk.inj (Option.some.inj h)
    refine ⟨⟨_, false⟩, rfl, List.takeWhile_append_dropWhile.symm, ?_⟩
    intro _ c hc
    have hnot := List.head?_dropWhile_not isWordChar after
    rw [hc] at hnot
    simpa using hnot

theorem length_text (ref : Reference) : ref.text.length = ref.name.length + if ref.braced then 2 else 0 := by
  unfold text
  split <;> simp

theorem Opens.eq (h : ref.Opens after) (h' : ref'.Opens after) (hname : IsIdentifier ref.name)
    (hname' : IsIdentifier ref'.name) : ref = ref' := by
  obtain ⟨rest, rfl, hrest⟩ := h
  obtain ⟨rest', heq, hrest'⟩ := h'
  have hread := reference?_text hname hrest
  rw [heq, reference?_text hname' hrest', Option.some.injEq, Prod.mk.injEq] at hread
  obtain ⟨hsame, rfl⟩ := hread
  have hlength := congrArg List.length (List.append_cancel_right heq)
  rw [length_text, length_text, hsame] at hlength
  obtain ⟨name, braced⟩ := ref
  obtain ⟨name', braced'⟩ := ref'
  obtain rfl : name' = name := hsame
  revert hlength
  cases braced <;> cases braced' <;> simp

end Reference

inductive Piece
  | char (c : Char)
  | reference (ref : Reference)

namespace Piece

def source : Piece → List Char
  | .char c => [c]
  | .reference ref => '$' :: ref.text

def filled (vars : List (List Char × List Char)) : Piece → List Char
  | .char c => [c]
  | .reference ref => (vars.lookup ref.name).getD []

end Piece

/-- A template read from its start: a dollar sign goes with the reference that begins right after it, if there is one
to a variable of these names. -/
inductive Scan (names : List (List Char)) : List Char → List Piece → Prop
  | nil : Scan names [] []
  | copy (c : Char) {r : List Char} {ps : List Piece} (hc : c ≠ '$') (h : Scan names r ps) :
      Scan names (c :: r) (.char c :: ps)
  | dollar {r : List Char} {ps : List Piece} (hr : ∀ ref : Reference, ref.name ∈ names → ¬ref.Opens r)
      (h : Scan names r ps) : Scan names ('$' :: r) (.char '$' :: ps)
  | reference (ref : Reference) {r : List Char} {ps : List Piece} (hname : ref.name ∈ names)
      (hr : ref.EndsBefore r) (h : Scan names r ps) : Scan names ('$' :: (ref.text ++ r)) (.reference ref :: ps)

variable {names : List (List Char)} {vars : List (List Char × List Char)} {template : List Char} {ps : List Piece}

theorem exists_scan (names : List (List Char)) (template : List Char) : ∃ ps, Scan names template ps := by
  -- A reference is passed over as a whole.
  induction hn : template.length using Nat.strongRecOn generalizing template with
  | ind n ih =>
      cases template with
      | nil => exact ⟨[], .nil⟩
      | cons c r =>
          rw [List.length_cons] at hn
          obtain ⟨ps, hps⟩ := ih r.length (by omega) r rfl
          by_cases hc : c = '$'
          · subst hc
            by_cases href : ∃ ref : Reference, ref.name ∈ names ∧ ref.Opens r
            · obtain ⟨ref, hname, rest, rfl, hrest⟩ := href
              rw [List.length_append] at hn
              obtain ⟨ps, hps⟩ := ih rest.length (by omega) rest rfl
              exact ⟨_, .reference ref hname hrest hps⟩
            · refine ⟨_, .dollar ?_ hps⟩
              intro ref hname hopens
              exact href ⟨ref, hname, hopens⟩
          · exact ⟨_, .copy c hc hps⟩

theorem valueOf?_eq_lookup (vars : List (List Char × List Char)) (name : List Char) :
    valueOf? vars name = vars.lookup name := by
  induction vars with
  | nil => rfl
  | cons v vars ih =>
      obtain ⟨n, value⟩ := v
      rw [valueOf?, List.find?_cons, List.lookup_cons]
      by_cases hn : n = name
      · subst hn
        simp
      · rw [beq_false_of_ne hn, beq_false_of_ne (Ne.symm hn)]
        exact ih

theorem lookup_eq_none_iff (vars : List (List Char × List Char)) (name : List Char) :
    vars.lookup name = none ↔ name ∉ vars.map Prod.fst := by
  rw [List.lookup_eq_none_iff]
  constructor
  · intro h hmem
    obtain ⟨v, hv, rfl⟩ := List.mem_map.1 hmem
    simpa using h v hv
  · intro h v hv
    rw [bne_iff_ne]
    rintro rfl
    exact h (List.mem_map_of_mem hv)

section Equations

variable {r : List Char}

theorem substituteChars_cons {c : Char} (hc : c ≠ '$') :
    substituteChars vars (c :: r) = c :: substituteChars vars r := by
  rw [substituteChars, if_neg hc]

theorem substituteChars_dollar (h : ∀ name rest, reference? r = some (name, rest) → vars.lookup name = none) :
    substituteChars vars ('$' :: r) = '$' :: substituteChars vars r := by
  rw [substituteChars, if_pos rfl]
  split
  case h_1 name rest hr =>
    rw [valueOf?_eq_lookup, h name rest hr]
  case h_2 => rfl

theorem substituteChars_reference {name rest value : List Char} (h : reference? r = some (name, rest))
    (hvalue : vars.lookup name = some value) :
    substituteChars vars ('$' :: r) = value ++ substituteChars vars rest := by
  rw [substituteChars, if_pos rfl]
  split
  case h_1 name' rest' hr =>
    obtain ⟨rfl, rfl⟩ := Prod.mk.inj (Option.some.inj (h.symm.trans hr))
    rw [valueOf?_eq_lookup, hvalue]
  case h_2 hr =>
    rw [h] at hr
    cases hr

end Equations

/-- What is put in is not read again: only the rest of the template is. -/
theorem Scan.substituteChars_eq (h : Scan names template ps) (hnames : ∀ n ∈ names, IsIdentifier n)
    (hvars : ∀ n, n ∈ vars.map Prod.fst ↔ n ∈ names) :
    substituteChars vars template = ps.flatMap (Piece.filled vars) := by
  induction h with
  | nil => simp [substituteChars]
  | copy c hc h ih =>
      rw [substituteChars_cons hc, ih]
      rfl
  | dollar hr h ih =>
      rw [substituteChars_dollar, ih]
      · rfl
      · intro name rest hread
        obtain ⟨ref, rfl, hafter, hrest⟩ := Reference.exists_text_of_reference? hread
        rw [lookup_eq_none_iff, hvars]
        intro hname
        exact hr ref hname ⟨rest, hafter, hrest⟩
  | reference ref hname hr h ih =>
      obtain ⟨value, hvalue⟩ : ∃ value, vars.lookup ref.name = some value := by
        rw [← Option.ne_none_iff_exists', ne_eq, lookup_eq_none_iff, hvars]
        exact not_not_intro hname
      rw [substituteChars_reference (Reference.reference?_text (hnames _ hname) hr) hvalue, ih]
      simp [Piece.filled, hvalue]

theorem isIdentifier_of_entries {vars : List (String × String)} (h : ∀ v ∈ vars, IsIdentifier v.1.toList) :
    ∀ n ∈ (entries vars).map Prod.fst, IsIdentifier n := by
  rw [names_entries, List.map_map, List.forall_mem_map]
  exact h

end Rollout.Text
