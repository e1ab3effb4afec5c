import Rollout.Proofs.Text.Entries

namespace Rollout.Text.Assignments

/-- A line assigns a key, up to blanks around what stands before its first equals sign. -/
def Assigns (line key : List Char) : Prop :=
  ∃ before after, line = before ++ '=' :: after ∧ '=' ∉ before ∧ trim before = key

variable {line key : List Char} {params : List (List Char × List Char)} {p : List Char × List Char}
  {content out : List (List Char)}

theorem keyOf?_append {before : List Char} (h : '=' ∉ before) (after : List Char) :
    keyOf? (before ++ '=' :: after) = some (trim before) := by
  rw [keyOf?, if_pos (by simp), List.takeWhile_append_of_pos (bne_of_not_mem h)]
  simp

theorem keyOf?_eq_some_iff : keyOf? line = some key ↔ Assigns line key := by
  constructor
  · intro h
    by_cases hmem : '=' ∈ line
    · obtain ⟨before, after, rfl, hbefore⟩ := List.eq_append_cons_of_mem hmem
      rw [keyOf?_append hbefore, Option.some.injEq] at h
      exact ⟨before, after, rfl, hbefore, h⟩
    · rw [keyOf?, if_neg (by simpa using hmem)] at h
      cases h
  · rintro ⟨before, after, rfl, hbefore, rfl⟩
    exact keyOf?_append hbefore after

instance (line key : List Char) : Decidable (Assigns line key) := decidable_of_iff _ keyOf?_eq_some_iff

/-- A parameter that fits on a line of its own, and is read there as it is. -/
structure IsParam (p : List Char × List Char) : Prop where
  no_equals : '=' ∉ p.1
  no_newline : '\n' ∉ p.1
  trimmed : trim p.1 = p.1
  value_no_newline : '\n' ∉ p.2

instance (p : List Char × List Char) : Decidable (IsParam p) :=
  decidable_of_iff ('=' ∉ p.1 ∧ '\n' ∉ p.1 ∧ trim p.1 = p.1 ∧ '\n' ∉ p.2)
    ⟨fun ⟨h₁, h₂, h₃, h₄⟩ => ⟨h₁, h₂, h₃, h₄⟩, fun h => ⟨h.1, h.2, h.3, h.4⟩⟩

theorem IsParam.assigns_write_iff (h : IsParam p) : Assigns (write p) key ↔ key = p.1 := by
  rw [← keyOf?_eq_some_iff, write, keyOf?_append h.no_equals, h.trimmed, Option.some.injEq, eq_comm]

theorem IsParam.newline_not_mem_write (h : IsParam p) : '\n' ∉ write p := by
  simp [write, h.no_newline, h.value_no_newline]

theorem updateLine_of_assigns (hdistinct : (params.map Prod.fst).Nodup) (hp : p ∈ params) (h : Assigns line p.1) :
    updateLine params line = write p := by
  have hkey := keyOf?_eq_some_iff.2 h
  rw [updateLine]
  split
  case h_1 q hq =>
    have hqkey := List.find?_some hq
    rw [hkey, beq_iff_eq, Option.some.injEq] at hqkey
    rw [List.inj_on_of_nodup_map hdistinct hp (List.mem_of_find?_eq_some hq) hqkey]
  case h_2 hnone =>
    have hnot := List.find?_eq_none.1 hnone p hp
    rw [hkey] at hnot
    simp at hnot

theorem updateLine_of_not_assigns (h : ∀ p ∈ params, ¬Assigns line p.1) : updateLine params line = line := by
  rw [updateLine]
  split
  case h_1 q hq =>
    have hqkey := List.find?_some hq
    rw [beq_iff_eq, keyOf?_eq_some_iff] at hqkey
    exact absurd hqkey (h q (List.mem_of_find?_eq_some hq))
  case h_2 => rfl

theorem missing_eq_filter {earlier : List (List Char)} (hdistinct : (params.map Prod.fst).Nodup)
    (hearlier : ∀ p ∈ params, p.1 ∉ earlier) (content : List (List Char)) :
    missing content earlier params = params.filter fun p => ∀ l ∈ content, ¬Assigns l p.1 := by
  induction params generalizing earlier with
  | nil => rfl
  | cons p params ih =>
      obtain ⟨hp, hdistinct⟩ := List.nodup_cons.1 hdistinct
      obtain ⟨hfirst, hearlier⟩ := List.forall_mem_cons.1 hearlier
      have hrest : ∀ q ∈ params, q.1 ∉ p.1 :: earlier := by
        intro q hq hmem
        rcases List.mem_cons.1 hmem with heq | hmem
        · exact hp (heq ▸ List.mem_map_of_mem hq)
        · exact hearlier q hq hmem
      have hassigned : (content.any fun l => keyOf? l == some p.1) = true ↔ ∃ l ∈ content, Assigns l p.1 := by
        simp [keyOf?_eq_some_iff]
      rw [missing, ih hdistinct hrest, List.filter_cons]
      by_cases hassign : ∃ l ∈ content, Assigns l p.1
      · have hnot : ¬∀ l ∈ content, ¬Assigns l p.1 := by
          intro hnone
          obtain ⟨l, hl, hassign⟩ := hassign
          exact hnone l hl hassign
        rw [hassigned.2 hassign, if_neg (by simpa using hfirst), if_neg (by simpa using hnot)]
      · have hnone : ∀ l ∈ content, ¬Assigns l p.1 := fun l hl hl' => hassign ⟨l, hl, hl'⟩
        rw [if_pos (by simp [mt hassigned.1 hassign]), if_pos (by simpa using hnone)]

theorem newline_not_mem_lines (s : List Char) : ∀ l ∈ lines s, '\n' ∉ l := by
  fun_induction lines s with
  | case1 => simp
  | case2 r ih => simpa using ih
  | case3 r ih => simpa using ih
  | case4 c r hc hcr hl ih =>
      intro l hmem
      obtain rfl := List.mem_singleton.1 hmem
      rw [List.mem_singleton]
      exact fun heq => hc heq.symm
  | case5 c r hc hcr l ls hl ih =>
      rw [hl, List.forall_mem_cons] at ih
      refine List.forall_mem_cons.2 ⟨?_, ih.2⟩
      intro hmem
      rcases List.mem_cons.1 hmem with heq | hmem
      · exact hc heq.symm
      · exact ih.1 hmem

theorem unlines_append_newline (h : content ≠ []) :
    unlines content ++ ['\n'] = ['\n'].intercalate (content ++ [[]]) := by
  induction content with
  | nil => exact absurd rfl h
  | cons l ls ih =>
      cases ls with
      | nil => simp [unlines]
      | cons m ls =>
          rw [unlines_cons (List.cons_ne_nil m ls), List.cons_append, List.cons_append, List.intercalate_cons_cons,
            ← List.cons_append, ← ih (List.cons_ne_nil m ls)]
          simp

/-- A line that assigns the key of none of the parameters. -/
def Foreign (params : List (List Char × List Char)) (line : List Char) : Prop := ∀ p ∈ params, ¬Assigns line p.1

instance (params : List (List Char × List Char)) (line : List Char) : Decidable (Foreign params line) :=
  inferInstanceAs (Decidable (∀ p ∈ params, ¬Assigns line p.1))

/-- The lines `out` are those of `content`, the parameters set: in place where there is a line for them, else at the
end. -/
structure Sets (params : List (List Char × List Char)) (content out : List (List Char)) : Prop where
  current : ∀ l ∈ out, ∀ p ∈ params, Assigns l p.1 → l = write p
  assigned : ∀ p ∈ params, ∃ l ∈ out, Assigns l p.1
  kept : (out.filter fun l => Foreign params l) = content.filter fun l => Foreign params l
  in_place : ∀ (i : Nat) (l : List Char), content[i]? = some l →
    (∀ p ∈ params, Assigns l p.1 → out[i]? = some (write p)) ∧ (Foreign params l → out[i]? = some l)
  at_end : out.drop content.length = (params.filter fun p => ∀ l ∈ content, ¬Assigns l p.1).map write

def updated (params : List (List Char × List Char)) (content : List (List Char)) : List (List Char) :=
  content.map (updateLine params) ++ (missing content [] params).map write

section Updated

variable (hdistinct : (params.map Prod.fst).Nodup) (hparams : ∀ p ∈ params, IsParam p)
include hdistinct

theorem updateLine_cases (line : List Char) :
    (Foreign params line ∧ updateLine params line = line) ∨
      ∃ p ∈ params, Assigns line p.1 ∧ updateLine params line = write p := by
  by_cases hforeign : Foreign params line
  · exact .inl ⟨hforeign, updateLine_of_not_assigns hforeign⟩
  · obtain ⟨p, hp, hassigns⟩ : ∃ p ∈ params, Assigns line p.1 := by
      simpa [Foreign] using hforeign
    exact .inr ⟨p, hp, hassigns, updateLine_of_assigns hdistinct hp hassigns⟩

theorem mem_of_mem_missing (hp : p ∈ missing content [] params) : p ∈ params := by
  rw [missing_eq_filter hdistinct fun _ _ => List.not_mem_nil] at hp
  exact List.mem_of_mem_filter hp

theorem mem_updated (hline : line ∈ updated params content) :
    (line ∈ content ∧ Foreign params line) ∨ ∃ p ∈ params, line = write p := by
  rcases List.mem_append.1 hline with hline | hline
  · obtain ⟨l, hl, rfl⟩ := List.mem_map.1 hline
    rcases updateLine_cases hdistinct l with ⟨hforeign, hsame⟩ | ⟨p, hp, -, hwritten⟩
    · rw [hsame]
      exact .inl ⟨hl, hforeign⟩
    · exact .inr ⟨p, hp, hwritten⟩
  · obtain ⟨p, hp, rfl⟩ := List.mem_map.1 hline
    exact .inr ⟨p, mem_of_mem_missing hdistinct hp, rfl⟩

include hparams

theorem eq_of_assigns_write {q : List Char × List Char} (hp : p ∈ params) (hq : q ∈ params)
    (h : Assigns (write q) p.1) : q = p :=
  (List.inj_on_of_nodup_map hdistinct hp hq ((hparams q hq).assigns_write_iff.1 h)).symm

omit hdistinct in
theorem not_foreign_write (hp : p ∈ params) : ¬Foreign params (write p) :=
  fun h => h p hp ((hparams p hp).assigns_write_iff.2 rfl)

theorem foreign_updateLine_iff : Foreign params (updateLine params line) ↔ Foreign params line := by
  rcases updateLine_cases hdistinct line with ⟨-, hline⟩ | ⟨p, hp, hassigns, hline⟩
  · rw [hline]
  · rw [hline]
    exact iff_of_false (not_foreign_write hparams hp) fun h => h p hp hassigns

theorem filter_foreign_map_updateLine (content : List (List Char)) :
    ((content.map (updateLine params)).filter fun l => Foreign params l) = content.filter fun l => Foreign params l := by
  induction content with
  | nil => rfl
  | cons line content ih =>
      rw [List.map_cons, List.filter_cons, List.filter_cons, ih]
      by_cases hforeign : Foreign params line
      · have hstays : Foreign params (updateLine params line) := (foreign_updateLine_iff hdistinct hparams).2 hforeign
        rw [if_pos (by simpa using hstays), if_pos (by simpa using hforeign), updateLine_of_not_assigns hforeign]
      · have hstays : ¬Foreign params (updateLine params line) :=
          mt (foreign_updateLine_iff hdistinct hparams).1 hforeign
        rw [if_neg (by simpa using hstays), if_neg (by simpa using hforeign)]

theorem sets_updated (content : List (List Char)) : Sets params content (updated params content) := by
  have hmissing := missing_eq_filter hdistinct (fun _ _ => List.not_mem_nil) content
  constructor
  case current =>
    intro l hl p hp hassigns
    rcases mem_updated hdistinct hl with ⟨-, hforeign⟩ | ⟨q, hq, rfl⟩
    · exact absurd hassigns (hforeign p hp)
    · rw [eq_of_assigns_write hdistinct hparams hp hq hassigns]
  case assigned =>
    intro p hp
    refine ⟨write p, ?_, (hparams p hp).assigns_write_iff.2 rfl⟩
    by_cases hassign : ∃ l ∈ content, Assigns l p.1
    · obtain ⟨l, hl, hassigns⟩ := hassign
      exact List.mem_append_left _ (List.mem_map.2 ⟨l, hl, updateLine_of_assigns hdistinct hp hassigns⟩)
    · refine List.mem_append_right _ (List.mem_map_of_mem ?_)
      rw [hmissing]
      exact List.mem_filter.2 ⟨hp, by simpa using hassign⟩
  case kept =>
    have hnew : ((missing content [] params).map write).filter (fun l => Foreign params l) = [] := by
      rw [List.filter_eq_nil_iff, List.forall_mem_map]
      intro q hq
      rw [decide_eq_true_iff]
      exact not_foreign_write hparams (mem_of_mem_missing hdistinct hq)
    rw [updated, List.filter_append, hnew, List.append_nil]
    exact filter_foreign_map_updateLine hdistinct hparams content
  case in_place =>
    intro i l hl
    have hout : (updated params content)[i]? = some (updateLine params l) := by
      have hi := (List.getElem?_eq_some_iff.1 hl).1
      rw [updated, List.getElem?_append_left (by simpa using hi), List.getElem?_map, hl, Option.map_some]
    rw [hout]
    constructor
    · intro p hp hassigns
      rw [updateLine_of_assigns hdistinct hp hassigns]
    · intro hforeign
      rw [updateLine_of_not_assigns hforeign]
  case at_end =>
    rw [updated, hmissing]
    exact List.drop_left' (List.length_map _)

theorem newline_not_mem_updated (hcontent : ∀ l ∈ content, '\n' ∉ l) : ∀ l ∈ updated params content, '\n' ∉ l := by
  intro l hl
  rcases mem_updated hdistinct hl with ⟨hl, -⟩ | ⟨p, hp, rfl⟩
  · exact hcontent l hl
  · exact (hparams p hp).newline_not_mem_write

end Updated

/-- A file of assignments comes out with one line for each parameter at least and none against it, every other line as
it was. -/
theorem update_sets {params : List (String × String)} (hne : params ≠ []) (hdistinct : (params.map Prod.fst).Nodup)
    (hparams : ∀ p ∈ entries params, IsParam p) (content : String) :
    ['\n'] <:+ (update params content).toList ∧
      ∃ out, (update params content).toList.splitOn '\n' = out ++ [[]] ∧
        Sets (entries params) (lines content.toList) out := by
  have hdistinct := nodup_names_entries hdistinct
  have hsets := sets_updated hdistinct hparams (lines content.toList)
  have hout : updated (entries params) (lines content.toList) ≠ [] := by
    intro hnil
    have hfirst : entries params ≠ [] := by simpa [entries] using hne
    obtain ⟨p, hp⟩ := List.exists_mem_of_ne_nil _ hfirst
    obtain ⟨l, hl, -⟩ := hsets.assigned p hp
    rw [hnil] at hl
    exact List.not_mem_nil hl
  have htext : (update params content).toList = unlines (updated (entries params) (lines content.toList)) ++ ['\n'] :=
    toList_update params content
  refine ⟨⟨_, htext.symm⟩, _, ?_, hsets⟩
  rw [htext, unlines_append_newline hout, List.splitOn_intercalate]
  · intro l hl
    rcases List.mem_append.1 hl with hl | hl
    · exact newline_not_mem_updated hdistinct hparams (newline_not_mem_lines _) l hl
    · obtain rfl := List.mem_singleton.1 hl
      exact List.not_mem_nil
  · simp

theorem operator_params_set :
    let params := [("MLFLOW_OPERATOR_IMAGE", "op:v1=x"), ("NAMESPACE", "lab")]
    let content := "# NAMESPACE\r\nNAMESPACE=old\r\n\t NAMESPACE =stale=1\nUSER=NAMESPACE=x\n\nlast"
    (∃ out, (update params content).toList.splitOn '\n' = out ++ [[]] ∧
      Sets (entries params) (lines content.toList) out) ∧
    update params content =
      "# NAMESPACE\nNAMESPACE=lab\nNAMESPACE=lab\nUSER=NAMESPACE=x\n\nlast\nMLFLOW_OPERATOR_IMAGE=op:v1=x\n" := by
  intro params content
  exact ⟨(@update_sets params (by decide) (by decide) (by decide) content).2, by decide +kernel⟩

end Rollout.Text.Assignments
