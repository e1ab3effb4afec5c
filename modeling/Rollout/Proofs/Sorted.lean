import Mathlib.Data.String.Basic
import Rollout.Sorted

namespace Rollout.Sorted

variable {α : Type} {t : Sorted α} {k x : String} {v : α}

/-- The keys ascend, so none is there twice. -/
def Ascending (t : Sorted α) : Prop := t.keys.Pairwise (· < ·)

theorem ascending_nil : Ascending ([] : Sorted α) := .nil

theorem Ascending.nodup (h : Ascending t) : t.keys.Nodup := h.imp ne_of_lt

theorem mem_keys_iff : x ∈ t.keys ↔ ∃ v, t.get? x = some v := by
  induction t with
  | nil => simp [keys]
  | cons e t ih =>
      obtain ⟨k, v⟩ := e
      rw [keys, List.map_cons, List.mem_cons, ← keys, ih, get?_cons]
      by_cases h : k = x
      · simp [h]
      · simp [h, Ne.symm h]

theorem mem_keys_insert_iff : x ∈ (t.insert k v).keys ↔ x = k ∨ x ∈ t.keys := by
  rw [mem_keys_iff, mem_keys_iff, get?_insert]
  by_cases h : k = x
  · simp [h]
  · simp [h, Ne.symm h]

theorem Ascending.insert (h : Ascending t) (k : String) (v : α) : Ascending (t.insert k v) := by
  induction t with
  | nil => exact List.pairwise_singleton _ _
  | cons e t ih =>
      obtain ⟨k', v'⟩ := e
      obtain ⟨hhead, htail⟩ := List.pairwise_cons.1 h
      rw [Sorted.insert]
      split
      case isTrue heq =>
        subst heq
        exact h
      case isFalse hne =>
        split
        case isTrue hlt =>
          refine List.pairwise_cons.2 ⟨fun x hx => ?_, h⟩
          rcases List.mem_cons.1 hx with rfl | hx
          · exact hlt
          · exact hlt.trans (hhead x hx)
        case isFalse hlt =>
          refine List.pairwise_cons.2 ⟨fun x hx => ?_, ih htail⟩
          rcases mem_keys_insert_iff.1 hx with rfl | hx
          · exact lt_of_le_of_ne (not_lt.1 hlt) (Ne.symm hne)
          · exact hhead x hx

theorem ascending_ofList (es : List (String × α)) : Ascending (ofList es) := by
  have hfold (t : Sorted α) (ht : Ascending t) : Ascending (es.foldl (fun t e => t.insert e.1 e.2) t) := by
    induction es generalizing t with
    | nil => exact ht
    | cons e es ih => exact ih _ (ht.insert e.1 e.2)
  exact hfold [] ascending_nil

theorem mem_keys_ofList_iff {es : List (String × α)} : x ∈ (ofList es).keys ↔ x ∈ es.map Prod.fst := by
  have hfold (t : Sorted α) :
      x ∈ keys (es.foldl (fun t e => t.insert e.1 e.2) t) ↔ x ∈ es.map Prod.fst ∨ x ∈ t.keys := by
    induction es generalizing t with
    | nil => simp
    | cons e es ih =>
        rw [List.foldl_cons, ih, mem_keys_insert_iff, List.map_cons, List.mem_cons]
        exact or_left_comm.trans or_assoc.symm
  exact (hfold []).trans (or_iff_left List.not_mem_nil)

end Rollout.Sorted
