import Rollout.Proofs.Text.Scan

namespace Rollout.Text

variable {names : List (List Char)} {vars : List (List Char × List Char)} {template : List Char} {ps : List Piece}

/-- Of the dollar sign between two texts: it is left out, with a reference to one of these variables, if and only if
that reference begins right after it. -/
def DecidedAt (names : List (List Char)) (ps : List Piece) (before after : List Char) : Prop :=
  ∃ ps₁ p ps₂, ps = ps₁ ++ p :: ps₂ ∧ ps₁.flatMap Piece.source = before ∧
    ∀ ref, p = .reference ref ↔ ref.name ∈ names ∧ ref.Opens after

/-- A template cut into its characters and its references to certain variables. Where it is cut is decided at each
dollar sign, by the text right after it. -/
structure Cut (names : List (List Char)) (template : List Char) (ps : List Piece) : Prop where
  source_eq : ps.flatMap Piece.source = template
  at_dollar : ∀ before after, template = before ++ '$' :: after → DecidedAt names ps before after

theorem DecidedAt.cons {before after : List Char} (h : DecidedAt names ps before after) (q : Piece) :
    DecidedAt names (q :: ps) (q.source ++ before) after := by
  obtain ⟨ps₁, p, ps₂, rfl, rfl, hp⟩ := h
  exact ⟨q :: ps₁, p, ps₂, rfl, rfl, hp⟩

theorem Scan.source_eq (h : Scan names template ps) : ps.flatMap Piece.source = template := by
  induction h with
  | nil => rfl
  | copy c hc h ih => simp [Piece.source, ih]
  | dollar hr h ih => simp [Piece.source, ih]
  | reference ref hname hr h ih => simp [Piece.source, ih]

theorem exists_append_of_not_mem {c : Char} {a r before after : List Char} (ha : c ∉ a)
    (h : a ++ r = before ++ c :: after) : ∃ t, before = a ++ t ∧ r = t ++ c :: after := by
  rcases List.append_eq_append_iff.1 h with h | ⟨t, rfl, ht⟩
  · exact h
  · cases t with
    | nil => exact ⟨[], by simp, by simpa using ht.symm⟩
    | cons d t =>
        obtain ⟨rfl, -⟩ := List.cons.inj ht
        simp at ha

/-- No dollar sign stands in a reference, its own apart. -/
theorem Scan.at_dollar (h : Scan names template ps) (hnames : ∀ n ∈ names, IsIdentifier n) {before after : List Char}
    (hdollar : template = before ++ '$' :: after) : DecidedAt names ps before after := by
  induction h generalizing before with
  | nil => simp at hdollar
  | copy c hc h ih =>
      cases before with
      | nil => exact absurd (List.cons.inj hdollar).1 hc
      | cons b before =>
          obtain ⟨rfl, hrest⟩ := List.cons.inj hdollar
          exact (ih hrest).cons (.char c)
  | @dollar r ps hr h ih =>
      cases before with
      | nil =>
          obtain ⟨-, rfl⟩ := List.cons.inj hdollar
          refine ⟨[], _, ps, rfl, rfl, fun ref => ?_⟩
          exact iff_of_false nofun fun href => hr ref href.1 href.2
      | cons b before =>
          obtain ⟨rfl, hrest⟩ := List.cons.inj hdollar
          exact (ih hrest).cons (.char '$')
  | @reference ref r ps hname hr h ih =>
      cases before with
      | nil =>
          obtain ⟨-, rfl⟩ := List.cons.inj hdollar
          refine ⟨[], _, ps, rfl, rfl, fun ref' => ?_⟩
          constructor
          · rintro ⟨rfl⟩
            exact ⟨hname, r, rfl, hr⟩
          · rintro ⟨hname', hopens⟩
            rw [hopens.eq ⟨r, rfl, hr⟩ (hnames _ hname') (hnames _ hname)]
      | cons b before =>
          obtain ⟨rfl, hrest⟩ := List.cons.inj hdollar
          obtain ⟨t, rfl, ht⟩ := exists_append_of_not_mem (Reference.dollar_not_mem_text (hnames _ hname)) hrest
          exact (ih ht).cons (.reference ref)

theorem Scan.cut (h : Scan names template ps) (hnames : ∀ n ∈ names, IsIdentifier n) : Cut names template ps :=
  ⟨h.source_eq, fun _ _ hdollar => h.at_dollar hnames hdollar⟩

theorem Piece.source_ne_nil (p : Piece) : p.source ≠ [] := by
  cases p <;> exact List.cons_ne_nil _ _

theorem eq_nil_of_source (h : ps.flatMap Piece.source = []) : ps = [] := by
  cases ps with
  | nil => rfl
  | cons p ps => exact absurd (List.append_eq_nil_iff.1 h).1 p.source_ne_nil

namespace Cut

variable {p p' : Piece} {ps' : List Piece}

theorem tail (h : Cut names template (p :: ps)) : Cut names (ps.flatMap Piece.source) ps := by
  refine ⟨rfl, fun before after hdollar => ?_⟩
  have htemplate := h.source_eq
  rw [List.flatMap_cons, hdollar, ← List.append_assoc] at htemplate
  obtain ⟨ps₁, q, ps₂, hps, hsource, hq⟩ := h.at_dollar _ after htemplate.symm
  cases ps₁ with
  | nil => exact absurd (List.append_eq_nil_iff.1 hsource.symm).1 p.source_ne_nil
  | cons p₁ ps₁ =>
      obtain ⟨rfl, rfl⟩ := List.cons.inj hps
      exact ⟨ps₁, q, ps₂, rfl, List.append_cancel_left hsource, hq⟩

theorem head_iff {after : List Char} (h : Cut names ('$' :: after) (p :: ps)) (ref : Reference) :
    p = .reference ref ↔ ref.name ∈ names ∧ ref.Opens after := by
  obtain ⟨ps₁, q, ps₂, hps, hsource, hq⟩ := h.at_dollar [] after rfl
  obtain rfl := eq_nil_of_source hsource
  obtain ⟨rfl, -⟩ := List.cons.inj hps
  exact hq ref

theorem head_eq (h : Cut names template (p :: ps)) (h' : Cut names template (p' :: ps')) : p = p' := by
  have hsource := h.source_eq
  have hsource' := h'.source_eq
  cases p with
  | char c =>
      subst hsource
      cases p' with
      | char c' =>
          obtain ⟨rfl, -⟩ := List.cons.inj hsource'
          rfl
      | reference ref =>
          obtain ⟨rfl, -⟩ := List.cons.inj hsource'
          exact (h.head_iff ref).2 ((h'.head_iff ref).1 rfl)
  | reference ref =>
      subst hsource
      exact ((h'.head_iff ref).2 ((h.head_iff ref).1 rfl)).symm

theorem eq (h : Cut names template ps) (h' : Cut names template ps') : ps = ps' := by
  induction ps generalizing template ps' with
  | nil => exact (eq_nil_of_source (h'.source_eq.trans h.source_eq.symm)).symm
  | cons p ps ih =>
      cases ps' with
      | nil => exact eq_nil_of_source (h.source_eq.trans h'.source_eq.symm)
      | cons p' ps' =>
          obtain rfl := h.head_eq h'
          have hsource : ps.flatMap Piece.source = ps'.flatMap Piece.source :=
            List.append_cancel_left (h.source_eq.trans h'.source_eq.symm)
          rw [ih h.tail (hsource ▸ h'.tail)]

end Cut

theorem lookup_eq_some_iff_mem {name value : List Char} (h : (vars.map Prod.fst).Nodup) :
    vars.lookup name = some value ↔ (name, value) ∈ vars := by
  rw [List.lookup_eq_some_iff]
  constructor
  · rintro ⟨vars₁, vars₂, rfl, -⟩
    simp
  · intro hmem
    obtain ⟨vars₁, vars₂, rfl⟩ := List.append_of_mem hmem
    refine ⟨vars₁, vars₂, rfl, fun v hv => ?_⟩
    rw [bne_iff_ne]
    rintro rfl
    rw [List.map_append, List.nodup_append] at h
    exact h.2.2 _ (List.mem_map_of_mem hv) _ List.mem_cons_self rfl

theorem lookup_perm {vars' : List (List Char × List Char)} (h : vars'.Perm vars) (hvars : (vars.map Prod.fst).Nodup)
    (name : List Char) : vars'.lookup name = vars.lookup name := by
  apply Option.ext
  intro value
  rw [lookup_eq_some_iff_mem hvars, lookup_eq_some_iff_mem ((h.map Prod.fst).nodup_iff.2 hvars), h.mem_iff]

theorem substitute_fills_references {vars : List (String × String)} (hnames : ∀ v ∈ vars, IsIdentifier v.1.toList)
    (template : String) :
    ∃ ps, Cut ((entries vars).map Prod.fst) template.toList ps ∧
      (∀ ps', Cut ((entries vars).map Prod.fst) template.toList ps' → ps' = ps) ∧
      (∀ vars', (∀ n, n ∈ (entries vars').map Prod.fst ↔ n ∈ (entries vars).map Prod.fst) →
        (substitute vars' template).toList = ps.flatMap (Piece.filled (entries vars'))) ∧
      ((vars.map Prod.fst).Nodup → ∀ vars', vars'.Perm vars → substitute vars' template = substitute vars template) := by
  have hidentifiers := isIdentifier_of_entries hnames
  obtain ⟨ps, hscan⟩ := exists_scan ((entries vars).map Prod.fst) template.toList
  have hcut := hscan.cut hidentifiers
  have hfilled (vars' : List (String × String))
      (hvars' : ∀ n, n ∈ (entries vars').map Prod.fst ↔ n ∈ (entries vars).map Prod.fst) :
      (substitute vars' template).toList = ps.flatMap (Piece.filled (entries vars')) := by
    rw [toList_substitute]
    exact hscan.substituteChars_eq hidentifiers hvars'
  refine ⟨ps, hcut, fun ps' hcut' => hcut'.eq hcut, hfilled, ?_⟩
  intro hdistinct vars' hperm
  have hentries : (entries vars').Perm (entries vars) := hperm.map _
  have hkeys := nodup_names_entries hdistinct
  have hvalue (p : Piece) : p.filled (entries vars') = p.filled (entries vars) := by
    cases p with
    | char c => rfl
    | reference ref => rw [Piece.filled, lookup_perm hentries hkeys, Piece.filled]
  apply String.toList_injective
  rw [hfilled vars' fun n => (hentries.map Prod.fst).mem_iff, hfilled vars fun n => Iff.rfl]
  exact congrArg ps.flatMap (funext hvalue)

theorem nested_references_filled :
    let vars := [("NS", "$NS\x7d"), ("A", "x")]
    let template := "$$NS $\x7bA$\x7bNS\x7d\x7d $NS_X $A"
    (∃ ps, Cut ((entries vars).map Prod.fst) template.toList ps ∧
      (substitute vars template).toList = ps.flatMap (Piece.filled (entries vars)) ∧
      substitute vars.reverse template = substitute vars template) ∧
    substitute vars template = "$$NS\x7d $\x7bA$NS\x7d\x7d $NS_X x" := by
  intro vars template
  obtain ⟨ps, hcut, -, hfilled, hperm⟩ := @substitute_fills_references vars (by decide) template
  refine ⟨⟨ps, hcut, hfilled vars fun _ => Iff.rfl, ?_⟩, by decide +kernel⟩
  exact hperm (by decide) _ (List.reverse_perm vars)

end Rollout.Text
