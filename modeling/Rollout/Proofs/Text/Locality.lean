import Rollout.Proofs.Text.Scan

namespace Rollout.Text

def Detached (b : List Char) : Prop := ∀ c ∈ b.head?, isWordChar c = false ∧ c ≠ '\x7b' ∧ c ≠ '\x7d'

variable {names : List (List Char)} {a b r : List Char} {ps qs : List Piece} {ref : Reference}

theorem Reference.EndsBefore.append (h : ref.EndsBefore r) (hb : Detached b) : ref.EndsBefore (r ++ b) := by
  intro hbare c hc
  cases r with
  | nil => exact (hb c hc).1
  | cons d r => exact h hbare c hc

theorem Reference.EndsBefore.of_append (h : ref.EndsBefore (r ++ b)) : ref.EndsBefore r := by
  intro hbare c hc
  cases r with
  | nil => cases hc
  | cons d r => exact h hbare c hc

theorem Reference.Opens.of_append (h : ref.Opens (r ++ b)) (hname : IsIdentifier ref.name) (hb : Detached b) :
    ref.Opens r := by
  obtain ⟨rest, heq, hrest⟩ := h
  rcases List.append_eq_append_iff.1 heq with ⟨t, htext, rfl⟩ | ⟨t, rfl, rfl⟩
  · cases t with
    | nil =>
        rw [List.append_nil] at htext
        exact ⟨[], by rw [htext, List.append_nil], fun _ c hc => by cases hc⟩
    | cons c t =>
        have hc : c ∈ ref.text := htext ▸ List.mem_append_right _ List.mem_cons_self
        have hnot := hb c rfl
        rcases mem_text hname hc with hword | hbrace | hbrace
        · rw [hnot.1] at hword
          cases hword
        · exact absurd hbrace hnot.2.1
        · exact absurd hbrace hnot.2.2
  · exact ⟨t, rfl, hrest.of_append⟩

theorem Scan.append (ha : Scan names a ps) (hb : Scan names b qs) (hnames : ∀ n ∈ names, IsIdentifier n)
    (hdetached : Detached b) : Scan names (a ++ b) (ps ++ qs) := by
  induction ha with
  | nil => exact hb
  | copy c hc h ih => exact .copy c hc ih
  | dollar hr h ih =>
      refine .dollar ?_ ih
      intro ref hname hopens
      exact hr ref hname (hopens.of_append (hnames _ hname) hdetached)
  | reference ref hname hr h ih =>
      rw [List.cons_append, List.append_assoc]
      exact .reference ref hname (hr.append hdetached) ih

theorem detached_newline (r : List Char) : Detached ('\n' :: r) := by
  rintro c ⟨rfl⟩
  decide

section Texts

variable {vars : List (String × String)}

theorem substitute_append (hnames : ∀ v ∈ vars, IsIdentifier v.1.toList) (a : String) {b : String}
    (hb : Detached b.toList) : substitute vars (a ++ b) = substitute vars a ++ substitute vars b := by
  have hidentifiers := isIdentifier_of_entries hnames
  have hfilled {template : List Char} {ps : List Piece} (h : Scan ((entries vars).map Prod.fst) template ps) :
      substituteChars (entries vars) template = ps.flatMap (Piece.filled (entries vars)) :=
    h.substituteChars_eq hidentifiers fun _ => Iff.rfl
  obtain ⟨ps, hps⟩ := exists_scan ((entries vars).map Prod.fst) a.toList
  obtain ⟨qs, hqs⟩ := exists_scan ((entries vars).map Prod.fst) b.toList
  apply String.toList_injective
  rw [String.toList_append, toList_substitute, toList_substitute, toList_substitute, String.toList_append, hfilled hps,
    hfilled hqs, hfilled (hps.append hqs hidentifiers hb), List.flatMap_append]

theorem substitute_empty : substitute vars "" = "" := by
  apply String.toList_injective
  rw [toList_substitute, String.toList_empty, substituteChars]

theorem substitute_newline (s : String) : substitute vars ("\n" ++ s) = "\n" ++ substitute vars s := by
  apply String.toList_injective
  rw [toList_substitute, String.toList_append, String.toList_append, toList_substitute]
  exact substituteChars_cons (c := '\n') (by decide)

/-- What becomes of one text does not depend on another that is detached from it. Each line of a manifest is on its
own. -/
theorem substitute_locally (hnames : ∀ v ∈ vars, IsIdentifier v.1.toList) :
    (∀ a b : String, Detached b.toList → substitute vars (a ++ b) = substitute vars a ++ substitute vars b) ∧
      ∀ ls : List String, substitute vars ("\n".intercalate ls) = "\n".intercalate (ls.map (substitute vars)) := by
  refine ⟨fun a b hb => substitute_append hnames a hb, fun ls => ?_⟩
  induction ls with
  | nil => exact substitute_empty
  | cons l ls ih =>
      cases ls with
      | nil => simp
      | cons m ls =>
          have hrest : Detached ("\n" ++ "\n".intercalate (m :: ls)).toList := by
            rw [String.toList_append]
            exact detached_newline _
          rw [String.intercalate_cons_cons, String.append_assoc, substitute_append hnames l hrest, substitute_newline,
            ih]
          simp only [List.map_cons, String.intercalate_cons_cons, String.append_assoc]

theorem unclosed_reference_local :
    let vars := [("NS", "team")]
    Detached "\n\x7d $NS".toList ∧
      substitute vars ("a: $\x7bNS" ++ "\n\x7d $NS") = substitute vars "a: $\x7bNS" ++ substitute vars "\n\x7d $NS" ∧
      substitute vars ("\n".intercalate ["a: $\x7bNS", "\x7d", "b: $NS"]) =
        "\n".intercalate (["a: $\x7bNS", "\x7d", "b: $NS"].map (substitute vars)) := by
  intro vars
  have hlocal := @substitute_locally vars (by decide)
  have hdetached : Detached "\n\x7d $NS".toList := detached_newline _
  exact ⟨hdetached, hlocal.1 _ _ hdetached, hlocal.2 _⟩

end Texts

end Rollout.Text
