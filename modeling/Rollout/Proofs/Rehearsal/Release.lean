import Mathlib.Data.Set.Card
import Rollout.Proofs.Rehearsal.Disk
import Rollout.Proofs.Transcript
import Rollout.Rehearsal.Workstation
import Rollout.Transient

namespace Rollout

namespace Rehearsal

/-- A disk, and the places of it where nothing can be removed. -/
structure GuardedDisk where
  disk : Disk
  guarded : Set (List String)

namespace GuardedDisk

/-- The path names a file or a link that can be removed. -/
structure Frees (d : GuardedDisk) (path : String) (place : List String) : Prop where
  entry : d.disk.Entry path place
  node : ∃ n, d.disk.node? place = some n ∧ n ≠ .folder
  free : place ∉ d.guarded

/-- The path leads to something, and the file or the link that it names can be removed. -/
def Removable (d : GuardedDisk) (path : String) (place : List String) : Prop :=
  d.disk.occupied path = true ∧ d.Frees path place

def erase (d : GuardedDisk) (place : List String) : GuardedDisk := { d with disk := d.disk.erase place }

def lost (d d' : GuardedDisk) : Set (List String) := {place | d.disk.node? place ≠ none ∧ d'.disk.node? place = none}

/-- The path leads nowhere without what stands at this place. -/
def Needs (d : GuardedDisk) (path : String) (place : List String) : Prop :=
  (d.disk.erase place).occupied path = false

def IsLink (d : GuardedDisk) (place : List String) : Prop := ∃ target, d.disk.node? place = some (.link target)

/-- So many of what these paths name are gone, and all else is as it was. A path that could be removed stays only where
it led through a link, and what it needed is gone. -/
structure Clears (d : GuardedDisk) (paths : List String) (n : Nat) (d' : GuardedDisk) : Prop where
  here : d'.disk.here = d.disk.here
  guarded : d'.guarded = d.guarded
  kept : ∀ place, place ∉ d.lost d' → d'.disk.node? place = d.disk.node? place
  count : (d.lost d').encard = n
  listed : ∀ place ∈ d.lost d', ∃ path ∈ paths, d.Removable path place
  removed : ∀ path ∈ paths, ∀ place, d.Removable path place →
    place ∈ d.lost d' ∨ ∃ q ∈ d.lost d', d.Needs path q ∧ (d.IsLink place ∨ d.IsLink q)

/-- What is left of a disk when the files of these paths are released, with a count of them. None of the paths leads to
a file that could be removed, and any other path leads where it did unless it needs what is gone. -/
structure Released (d : GuardedDisk) (paths : List String) (n : Nat) (d' : GuardedDisk) : Prop extends
    d.Clears paths n d' where
  gone : ∀ path ∈ paths, ∀ place, d.Removable path place → d'.disk.occupied path = false
  found_iff : ∀ path f, d'.disk.find path = .ok f ↔ d.disk.find path = .ok f ∧ ∀ q ∈ d.lost d', ¬d.Needs path q

variable {d e d' : GuardedDisk} {path : String} {paths : List String} {n : Nat} {place q : List String}

namespace Clears

theorem below (h : d.Clears paths n e) : Disk.Below e.disk d.disk := by
  refine ⟨h.here.symm, fun x m hx => ?_⟩
  rw [← h.kept x fun hlost => by simp [hlost.2] at hx]
  exact hx

theorem node?_folder (h : d.Clears paths n e) (hfolder : d.disk.node? place = some .folder) :
    e.disk.node? place = some .folder := by
  rw [h.kept place fun hlost => ?_, hfolder]
  obtain ⟨path, -, -, hfrees⟩ := h.listed place hlost
  obtain ⟨m, hm, hne⟩ := hfrees.node
  exact hne (Option.some.inj (hm.symm.trans hfolder))

theorem frees_of_frees (h : d.Clears paths n e) (hr : e.Frees path place) : d.Frees path place := by
  obtain ⟨m, hm, hne⟩ := hr.node
  exact ⟨hr.entry.mono h.below.keepsWays, ⟨m, h.below.node? _ _ hm, hne⟩, h.guarded ▸ hr.free⟩

theorem removable_of_removable (h : d.Clears paths n e) (hr : e.Removable path place) : d.Removable path place :=
  ⟨Disk.occupied_mono h.below hr.1, h.frees_of_frees hr.2⟩

theorem removable_of_occupied (h : d.Clears paths n e) (hr : d.Removable path place)
    (hoccupied : e.disk.occupied path = true) : e.Removable path place := by
  obtain ⟨-, hentry, ⟨m, hm, hne⟩, hfree⟩ := hr
  obtain ⟨f, hf⟩ := Disk.occupied_iff.1 hoccupied
  obtain ⟨hentry', ⟨m', hm'⟩ | hnone⟩ := hentry.of_goes h.below.keepsWays (Disk.find_eq_ok_iff.1 hf)
  · have hsame : m' = m := Option.some.inj ((h.below.node? _ _ hm').symm.trans hm)
    exact ⟨hoccupied, hentry', ⟨m', hm', hsame ▸ hne⟩, h.guarded ▸ hfree⟩
  · cases f with
    | folder q => cases hnone
    | file q text => cases hnone

theorem refl (d : GuardedDisk) : d.Clears [] 0 d := by
  have hlost : d.lost d = ∅ := Set.eq_empty_of_forall_notMem fun place hplace => hplace.1 hplace.2
  refine ⟨rfl, rfl, fun _ _ => rfl, by simp [hlost], ?_, nofun⟩
  rw [hlost]
  exact nofun

theorem erase (h : d.Clears paths n e) (hr : e.Removable path place) :
    d.Clears (paths ++ [path]) (n + 1) (e.erase place) := by
  obtain ⟨m, hm, hne⟩ := hr.2.node
  have hnil : place ≠ [] := hr.2.entry.ne_nil
  have hlost : d.lost (e.erase place) = insert place (d.lost e) := by
    ext x
    by_cases hx : x = place
    · subst hx
      simp [lost, GuardedDisk.erase, Disk.node?_erase_self _ hnil, h.below.node? _ _ hm]
    · simp [lost, GuardedDisk.erase, Disk.node?_erase_of_ne _ hx, hx]
  have hnew : place ∉ d.lost e := fun hplace => by simp [hplace.2] at hm
  refine ⟨h.here, h.guarded, fun x hx => ?_, ?_, fun x hx => ?_, fun p hp x hx => ?_⟩
  · rw [hlost, Set.mem_insert_iff, not_or] at hx
    exact (Disk.node?_erase_of_ne _ hx.1).trans (h.kept x hx.2)
  · rw [hlost, Set.encard_insert_of_notMem hnew, h.count, Nat.cast_succ]
  · rw [hlost] at hx
    rcases hx with rfl | hx
    · exact ⟨path, by simp, h.removable_of_removable hr⟩
    · obtain ⟨p, hp, hremovable⟩ := h.listed x hx
      exact ⟨p, by simp [hp], hremovable⟩
  · rw [hlost]
    rcases List.mem_append.1 hp with hp | hp
    · rcases h.removed p hp x hx with hx | ⟨q, hq, hneeds⟩
      · exact .inl (.inr hx)
      · exact .inr ⟨q, .inr hq, hneeds⟩
    · obtain rfl := List.mem_singleton.1 hp
      exact .inl (.inl (hx.2.entry.unique (h.frees_of_frees hr.2).entry))

/-- A path that leads nowhere by now, although it could have been removed, needs what is gone. -/
theorem needs_lost (h : d.Clears paths n e) (hr : d.Removable path place) (hplace : place ∉ d.lost e)
    (hnone : ∀ q, ¬e.Removable path q) : ∃ q ∈ d.lost e, d.Needs path q ∧ (d.IsLink place ∨ d.IsLink q) := by
  obtain ⟨f, hf⟩ := Disk.occupied_iff.1 hr.1
  rcases Disk.find_stays_or_breaks h.below (fun x => h.node?_folder) hf with hstays | hbreaks
  · exact absurd (h.removable_of_occupied hr (Disk.occupied_iff.2 ⟨f, hstays⟩)) (hnone place)
  · obtain ⟨q, m, hq, hlost, hway, hneeds⟩ := hbreaks
    have hmem : q ∈ d.lost e := ⟨by simp [hq], hlost⟩
    refine ⟨q, hmem, hneeds, ?_⟩
    rcases hway with ⟨target, rfl⟩ | ⟨text, rfl⟩
    · exact .inr ⟨target, hq⟩
    · obtain ⟨n', hn', hne⟩ := hr.2.node
      rcases n' with _ | text' | target
      · exact absurd rfl hne
      · exact absurd (hr.2.entry.eq_of_find hn' hf ▸ hmem) hplace
      · exact .inl ⟨target, hn'⟩

theorem skip (h : d.Clears paths n e) (hnone : ∀ place, ¬e.Removable path place) :
    d.Clears (paths ++ [path]) n e := by
  refine ⟨h.here, h.guarded, h.kept, h.count, fun x hx => ?_, fun p hp x hx => ?_⟩
  · obtain ⟨p, hp, hremovable⟩ := h.listed x hx
    exact ⟨p, by simp [hp], hremovable⟩
  · rcases List.mem_append.1 hp with hp | hp
    · exact h.removed p hp x hx
    · obtain rfl := List.mem_singleton.1 hp
      by_cases hlost : x ∈ d.lost e
      · exact .inl hlost
      · exact .inr (h.needs_lost hx hlost hnone)

theorem not_needs (h : d.Clears paths n e) (hq : q ∈ d.lost e) (hoccupied : e.disk.occupied path = true) :
    ¬d.Needs path q := by
  have hle : Disk.Below e.disk (d.disk.erase q) := by
    refine ⟨h.here.symm, fun x m hx => ?_⟩
    have hne : x ≠ q := by
      rintro rfl
      simp [hq.2] at hx
    rw [Disk.node?_erase_of_ne _ hne]
    exact h.below.node? _ _ hx
  rw [Needs, Disk.occupied_mono hle hoccupied]
  exact Bool.noConfusion

theorem released (h : d.Clears paths n d') : d.Released paths n d' := by
  refine ⟨h, fun path hpath place hplace => ?_, fun path f => ⟨fun hf => ?_, fun ⟨hf, hneeds⟩ => ?_⟩⟩
  · refine Bool.eq_false_iff.2 fun hoccupied => ?_
    rcases h.removed path hpath place hplace with hlost | ⟨q, hlost, hneeds, -⟩
    · exact h.not_needs hlost hoccupied hplace.2.entry.not_occupied
    · exact h.not_needs hlost hoccupied hneeds
  · exact ⟨Disk.find_mono h.below hf, fun q hq => h.not_needs hq (Disk.occupied_iff.2 ⟨f, hf⟩)⟩
  · rcases Disk.find_stays_or_breaks h.below (fun x => h.node?_folder) hf with hstays | hbreaks
    · exact hstays
    · obtain ⟨q, m, hq, hlost, -, hbreaks⟩ := hbreaks
      exact absurd hbreaks (hneeds q ⟨by simp [hq], hlost⟩)

end Clears

end GuardedDisk

section Machine

variable {I : Interface} [HasMachine I] {σ : Type}

end Machine

namespace Workstation

end Workstation

end Rehearsal

namespace Transient

open Program Rehearsal

variable {I : Interface} [HasMachine I] {σ : Type} {h : Handler I σ} {disk : σ → GuardedDisk}

end Transient

end Rollout
