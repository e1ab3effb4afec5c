import Mathlib.Data.List.Nodup
import Rollout.Text.Assignments
import Rollout.Text.Substitution

namespace Rollout.Text

def entries (vars : List (String × String)) : List (List Char × List Char) :=
  vars.map fun v => (v.1.toList, v.2.toList)

variable {vars : List (String × String)}

theorem bne_of_not_mem {c : Char} {cs : List Char} (h : c ∉ cs) : ∀ d ∈ cs, (d != c) = true := by
  intro d hd
  rw [bne_iff_ne]
  rintro rfl
  exact h hd

/-- A text before the first `c` in it and after that. -/
def cutAt? (c : Char) (cs : List Char) : Option (List Char × List Char) :=
  match cs.dropWhile (· != c) with
  | [] => none
  | _ :: after => some (cs.takeWhile (· != c), after)

theorem cutAt?_append {c : Char} {before : List Char} (h : c ∉ before) (after : List Char) :
    cutAt? c (before ++ c :: after) = some (before, after) := by
  have hbefore := bne_of_not_mem h
  rw [cutAt?, List.dropWhile_append_of_pos hbefore, List.takeWhile_append_of_pos hbefore]
  simp

theorem names_entries (vars : List (String × String)) :
    (entries vars).map Prod.fst = (vars.map Prod.fst).map String.toList := by
  rw [entries, List.map_map, List.map_map]
  rfl

theorem nodup_names_entries (h : (vars.map Prod.fst).Nodup) : ((entries vars).map Prod.fst).Nodup := by
  rw [names_entries]
  exact h.map fun _ _ heq => String.toList_injective heq

theorem toList_substitute (vars : List (String × String)) (template : String) :
    (substitute vars template).toList = substituteChars (entries vars) template.toList := String.toList_ofList

theorem Assignments.toList_update (params : List (String × String)) (content : String) :
    (update params content).toList = updateChars (entries params) content.toList := String.toList_ofList

end Rollout.Text
