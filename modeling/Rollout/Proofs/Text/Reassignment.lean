import Rollout.Proofs.Text.Assignments

namespace Rollout.Text

variable {l r : List Char} {ls : List (List Char)}

/-- A line as it is read again once it has been written: a carriage return at its end is lost. -/
def withoutReturn (l : List Char) : List Char := if l.getLast? = some '\r' then l.dropLast else l

theorem withoutReturn_of_ne (h : l.getLast? ≠ some '\r') : withoutReturn l = l := if_neg h

theorem withoutReturn_cons {c : Char} (h : l ≠ []) : withoutReturn (c :: l) = c :: withoutReturn l := by
  obtain ⟨d, l, rfl⟩ := List.exists_cons_of_ne_nil h
  simp only [withoutReturn, List.getLast?_cons_cons, List.dropLast_cons_cons]
  split <;> rfl

theorem withoutReturn_append {a : List Char} (h : l ≠ []) : withoutReturn (a ++ l) = a ++ withoutReturn l := by
  induction a with
  | nil => rfl
  | cons c a ih => rw [List.cons_append, withoutReturn_cons (by simp [h]), ih, List.cons_append]

theorem lines_append_newline (h : '\n' ∉ l) : lines (l ++ '\n' :: r) = withoutReturn l :: lines r := by
  induction l with
  | nil => simp [lines, withoutReturn]
  | cons c l ih =>
      obtain ⟨hc, hl⟩ := not_or.1 (mt List.mem_cons.2 h)
      cases l with
      | nil =>
          by_cases hreturn : c = '\r'
          · subst hreturn
            simp [lines, withoutReturn]
          · simp [lines, withoutReturn, hreturn, Ne.symm hc]
      | cons d l =>
          have hd : d ≠ '\n' := fun hd => hl (by simp [hd])
          rw [withoutReturn_cons (List.cons_ne_nil d l), List.cons_append, lines]
          · rw [ih hl]
          · exact fun heq => hc heq.symm
          · rintro s - heq
            exact hd (List.cons.inj heq).1

theorem lines_unlines (hne : ls ≠ []) (h : ∀ l ∈ ls, '\n' ∉ l) :
    lines (unlines ls ++ ['\n']) = ls.map withoutReturn := by
  induction ls with
  | nil => exact absurd rfl hne
  | cons l ls ih =>
      obtain ⟨hl, hls⟩ := List.forall_mem_cons.1 h
      cases ls with
      | nil => exact lines_append_newline hl
      | cons m ls =>
          rw [unlines_cons (List.cons_ne_nil m ls), List.append_assoc, List.cons_append, lines_append_newline hl,
            ih (List.cons_ne_nil m ls) hls]
          rfl

namespace Assignments

/-- A key that is read off a line as it is written there. -/
structure IsKey (key : List Char) : Prop where
  no_equals : '=' ∉ key
  no_newline : '\n' ∉ key
  trimmed : trim key = key

instance (key : List Char) : Decidable (IsKey key) :=
  decidable_of_iff ('=' ∉ key ∧ '\n' ∉ key ∧ trim key = key)
    ⟨fun ⟨h₁, h₂, h₃⟩ => ⟨h₁, h₂, h₃⟩, fun h => ⟨h.1, h.2, h.3⟩⟩

variable {former params : List (List Char × List Char)} {p : List Char × List Char} {line line' : List Char}
  {content : List (List Char)} {cs : List Char}

theorem IsKey.isParam (h : IsKey p.1) (hvalue : '\n' ∉ p.2) : IsParam p :=
  ⟨h.no_equals, h.no_newline, h.trimmed, hvalue⟩

theorem IsKey.keyOf?_write {key : List Char} (h : IsKey key) (value : List Char) :
    keyOf? (write (key, value)) = some key := by
  rw [write, keyOf?_append h.no_equals, h.trimmed]

theorem withoutReturn_write (p : List Char × List Char) : withoutReturn (write p) = write (p.1, withoutReturn p.2) := by
  have hequals : withoutReturn ('=' :: p.2) = '=' :: withoutReturn p.2 := by
    cases hp : p.2 with
    | nil => simp [withoutReturn]
    | cons c v => exact withoutReturn_cons (List.cons_ne_nil c v)
  rw [write, withoutReturn_append (List.cons_ne_nil _ _), hequals, write]

theorem IsKey.keyOf?_reread (h : IsKey p.1) : keyOf? (withoutReturn (write p)) = some p.1 := by
  rw [withoutReturn_write, h.keyOf?_write]

/-- Of a line that assigns a listed key nothing but the key matters. -/
theorem updateLine_congr (hkey : keyOf? line = keyOf? line') (h : ¬Foreign params line) :
    updateLine params line = updateLine params line' := by
  rw [updateLine, updateLine, ← hkey]
  split
  case h_1 => rfl
  case h_2 hnone =>
    refine absurd (fun p hp hassigns => ?_) h
    have hnot := List.find?_eq_none.1 hnone p hp
    rw [keyOf?_eq_some_iff.2 hassigns] at hnot
    simp at hnot

theorem foreign_iff : Foreign params line ↔ ∀ k ∈ params.map Prod.fst, ¬Assigns line k := by
  rw [List.forall_mem_map]
  rfl

def reread (params : List (List Char × List Char)) (content : List (List Char)) : List (List Char) :=
  (updated params content).map withoutReturn

section Again

variable (hkeys : former.map Prod.fst = params.map Prod.fst) (hdistinct : (params.map Prod.fst).Nodup)
  (hnames : ∀ k ∈ params.map Prod.fst, IsKey k) (hvalues : ∀ p ∈ former, '\n' ∉ p.2)

include hkeys

theorem foreign_congr : Foreign former line ↔ Foreign params line := by rw [foreign_iff, foreign_iff, hkeys]

include hnames

theorem isKey_of_former (hp : p ∈ former) : IsKey p.1 := hnames _ (hkeys ▸ List.mem_map_of_mem hp)

theorem not_foreign_reread (hp : p ∈ former) : ¬Foreign params (withoutReturn (write p)) := by
  rw [← foreign_congr hkeys]
  exact fun h => h p hp (keyOf?_eq_some_iff.1 (isKey_of_former hkeys hnames hp).keyOf?_reread)

include hdistinct

theorem updateLine_again (h : Foreign params line → line.getLast? ≠ some '\r') :
    updateLine params (withoutReturn (updateLine former line)) = updateLine params line := by
  rcases updateLine_cases (hkeys ▸ hdistinct) line with ⟨hforeign, hline⟩ | ⟨p, hp, hassigns, hline⟩
  · rw [hline, withoutReturn_of_ne (h ((foreign_congr hkeys).1 hforeign))]
  · rw [hline]
    refine updateLine_congr ?_ (not_foreign_reread hkeys hnames hp)
    rw [(isKey_of_former hkeys hnames hp).keyOf?_reread, keyOf?_eq_some_iff.2 hassigns]

theorem map_missing_again (content : List (List Char)) :
    (missing content [] former).map (fun p => updateLine params (withoutReturn (write p))) =
      (missing content [] params).map write := by
  have hformer : ∀ p ∈ former.filter fun p => ∀ l ∈ content, ¬Assigns l p.1,
      updateLine params (withoutReturn (write p)) = updateLine params (write (p.1, [])) := by
    intro p hp
    have hp := List.mem_of_mem_filter hp
    have hname := isKey_of_former hkeys hnames hp
    refine updateLine_congr ?_ (not_foreign_reread hkeys hnames hp)
    rw [hname.keyOf?_reread, hname.keyOf?_write]
  have hparams : ∀ p ∈ params.filter fun p => ∀ l ∈ content, ¬Assigns l p.1,
      write p = updateLine params (write (p.1, [])) := by
    intro p hp
    have hp := List.mem_of_mem_filter hp
    have hkey := (hnames _ (List.mem_map_of_mem hp)).keyOf?_write []
    exact (updateLine_of_assigns hdistinct hp (keyOf?_eq_some_iff.1 hkey)).symm
  have hfilter (ps : List (List Char × List Char)) :
      (ps.filter fun p => ∀ l ∈ content, ¬Assigns l p.1).map (fun p => updateLine params (write (p.1, []))) =
        ((ps.map Prod.fst).filter fun k => ∀ l ∈ content, ¬Assigns l k).map
          fun k => updateLine params (write (k, [])) := by
    rw [List.filter_map, List.map_map]
    rfl
  rw [missing_eq_filter (hkeys ▸ hdistinct) (fun _ _ => List.not_mem_nil), List.map_congr_left hformer, hfilter, hkeys,
    missing_eq_filter hdistinct fun _ _ => List.not_mem_nil, List.map_congr_left hparams, hfilter]

theorem return_free_reread (hcontent : ∀ l ∈ content, Foreign params l → l.getLast? ≠ some '\r') :
    ∀ l ∈ reread former content, Foreign params l → l.getLast? ≠ some '\r' := by
  rw [reread, List.forall_mem_map]
  intro line hline hforeign
  rcases mem_updated (hkeys ▸ hdistinct) hline with ⟨hline, hold⟩ | ⟨p, hp, rfl⟩
  · have hreturn := hcontent line hline ((foreign_congr hkeys).1 hold)
    rwa [withoutReturn_of_ne hreturn]
  · exact absurd hforeign (not_foreign_reread hkeys hnames hp)

include hvalues

theorem updated_again (hcontent : ∀ l ∈ content, Foreign params l → l.getLast? ≠ some '\r') :
    updated params (reread former content) = updated params content := by
  have hsets := sets_updated (hkeys ▸ hdistinct)
    (fun p hp => (isKey_of_former hkeys hnames hp).isParam (hvalues p hp)) content
  -- A key that was missing at first has a line by now, which sets it like any other.
  have hmissing : missing (reread former content) [] params = [] := by
    rw [missing_eq_filter hdistinct fun _ _ => List.not_mem_nil, List.filter_eq_nil_iff]
    intro q hq
    obtain ⟨p, hp, hpq⟩ := List.mem_map.1 (hkeys ▸ List.mem_map_of_mem hq : q.1 ∈ former.map Prod.fst)
    obtain ⟨l, hl, hassigns⟩ := hsets.assigned p hp
    rw [hsets.current l hl p hp hassigns] at hl
    simp only [decide_eq_true_eq, not_forall, not_not]
    refine ⟨withoutReturn (write p), List.mem_map_of_mem hl, keyOf?_eq_some_iff.1 ?_⟩
    rw [(isKey_of_former hkeys hnames hp).keyOf?_reread, hpq]
  have hlines : (content.map (updateLine former)).map (updateLine params ∘ withoutReturn) =
      content.map (updateLine params) := by
    rw [List.map_map]
    exact List.map_congr_left fun l hl => updateLine_again hkeys hdistinct hnames (hcontent l hl)
  rw [updated, hmissing, List.map_nil, List.append_nil, reread, List.map_map, updated, List.map_append, hlines,
    List.map_map, updated]
  exact congrArg _ (map_missing_again hkeys hdistinct hnames content)

theorem lines_updateChars_or (cs : List Char) :
    lines (updateChars former cs) = reread former (lines cs) ∨ params = [] ∧ lines cs = [] := by
  have hparam : ∀ p ∈ former, IsParam p := fun p hp => (isKey_of_former hkeys hnames hp).isParam (hvalues p hp)
  by_cases hout : updated former (lines cs) = []
  · have hsets := sets_updated (hkeys ▸ hdistinct) hparam (lines cs)
    rw [hout] at hsets
    have hformer : former = [] := List.eq_nil_iff_forall_not_mem.2 fun p hp => by
      obtain ⟨l, hl, -⟩ := hsets.assigned p hp
      cases hl
    subst hformer
    refine .inr ⟨List.map_eq_nil_iff.1 hkeys.symm, ?_⟩
    exact List.map_eq_nil_iff.1 (List.append_eq_nil_iff.1 hout).1
  · exact .inl (lines_unlines hout (newline_not_mem_updated (hkeys ▸ hdistinct) hparam (newline_not_mem_lines cs)))

variable (hcs : ∀ l ∈ lines cs, Foreign params l → l.getLast? ≠ some '\r')
include hcs

theorem updateChars_again : updateChars params (updateChars former cs) = updateChars params cs := by
  have hupdate (cs : List Char) : updateChars params cs = unlines (updated params (lines cs)) ++ ['\n'] := rfl
  rw [hupdate, hupdate]
  rcases lines_updateChars_or hkeys hdistinct hnames hvalues cs with hlines | ⟨rfl, hlines⟩
  · rw [hlines, updated_again hkeys hdistinct hnames hvalues hcs]
  · obtain rfl := List.map_eq_nil_iff.1 hkeys
    rw [updateChars, hlines]
    rfl

theorem return_free_updateChars :
    ∀ l ∈ lines (updateChars former cs), Foreign params l → l.getLast? ≠ some '\r' := by
  rcases lines_updateChars_or hkeys hdistinct hnames hvalues cs with hlines | ⟨rfl, hlines⟩
  · rw [hlines]
    exact return_free_reread hkeys hdistinct hnames hcs
  · obtain rfl := List.map_eq_nil_iff.1 hkeys
    rw [updateChars, hlines]
    simp [lines, missing, unlines]

end Again

/-- However often the parameters have been set to other values before, setting them gives the file that it gives
of the content at first. -/
theorem update_forgets {params : List (String × String)} (hdistinct : (params.map Prod.fst).Nodup)
    (hkeys : ∀ k ∈ params.map Prod.fst, IsKey k.toList) {content : String}
    (hcontent : ∀ l ∈ lines content.toList, l.getLast? ≠ some '\r') {earlier : List (List (String × String))}
    (hearlier : ∀ former ∈ earlier, former.map Prod.fst = params.map Prod.fst ∧ ∀ p ∈ former, '\n' ∉ p.2.toList) :
    update params (earlier.foldl (fun text former => update former text) content) = update params content := by
  have hdistinct := nodup_names_entries hdistinct
  have hnames : ∀ k ∈ (entries params).map Prod.fst, IsKey k := by
    rw [names_entries]
    exact List.forall_mem_map.2 hkeys
  have hforeign : ∀ l ∈ lines content.toList, Foreign (entries params) l → l.getLast? ≠ some '\r' :=
    fun l hl _ => hcontent l hl
  clear hcontent
  induction earlier generalizing content with
  | nil => rfl
  | cons former earlier ih =>
      obtain ⟨⟨hsame, hvalues⟩, hearlier⟩ := List.forall_mem_cons.1 hearlier
      have hsame : (entries former).map Prod.fst = (entries params).map Prod.fst := by
        rw [names_entries, names_entries, hsame]
      have hvalues : ∀ p ∈ entries former, '\n' ∉ p.2 := List.forall_mem_map.2 hvalues
      have hnext := return_free_updateChars hsame hdistinct hnames hvalues hforeign
      rw [← toList_update] at hnext
      rw [List.foldl_cons, ih hearlier hnext]
      refine String.toList_injective ?_
      rw [toList_update, toList_update, toList_update, updateChars_again hsame hdistinct hnames hvalues hforeign]

theorem operator_params_forget :
    let params := [("NAMESPACE", "lab"), ("MLFLOW_OPERATOR_IMAGE", "op:v2")]
    let earlier :=
      [[("NAMESPACE", "a=b\r"), ("MLFLOW_OPERATOR_IMAGE", " ")],
        [("NAMESPACE", ""), ("MLFLOW_OPERATOR_IMAGE", "op:v1\r\r")]]
    let content := "\n# old\r\n\t NAMESPACE =stale\r\nUSER=x\nNAMESPACE=1"
    update params (earlier.foldl (fun text former => update former text) content) = update params content ∧
      update params content = "\n# old\nNAMESPACE=lab\nUSER=x\nNAMESPACE=lab\nMLFLOW_OPERATOR_IMAGE=op:v2\n" := by
  intro params earlier content
  exact ⟨@update_forgets params (by decide) (by decide) content (by decide) earlier (by decide), by decide +kernel⟩

end Assignments

end Rollout.Text
