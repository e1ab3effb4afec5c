import Rollout.Text.Case

namespace Rollout.Text.Case

variable {c : Char} {before cs : List Char} {s word : String}

/-- The texts differ in the case of ASCII letters at most. -/
def EqUpToCase (s t : String) : Prop := s.toList.map Char.toLower = t.toList.map Char.toLower

instance (s t : String) : Decidable (EqUpToCase s t) :=
  inferInstanceAs (Decidable (s.toList.map Char.toLower = t.toList.map Char.toLower))

theorem toLower_of_not_ascii (h : 128 ≤ c.toNat) : c.toLower = c := by
  refine dif_neg fun hupper => ?_
  have hle : c.toNat ≤ 90 := hupper.2
  omega

theorem of_ascii {P : Char → Prop} (h : ∀ n < 128, P (Char.ofNat n)) (hc : c.toNat < 128) : P c := by
  rw [← Char.ofNat_toNat c]
  exact h c.toNat hc

theorem lowerChar_of_ascii (h : c.toNat < 128) : lowerChar c = [c.toLower] :=
  of_ascii (P := fun c => lowerChar c = [c.toLower]) (by decide +kernel) h

/-- An ASCII character, but not `k`, which is the lower case of the Kelvin sign too. -/
def IsPlain (d : Char) : Prop := d.toNat < 128 ∧ d ≠ 'k'

instance (d : Char) : Decidable (IsPlain d) := inferInstanceAs (Decidable (_ ∧ _))

/-- The images of a run are all beyond ASCII, but for that of the Kelvin sign. -/
def StaysBeyond (first last image : Nat) : Prop :=
  (first = last ∧ image = 'k'.toNat) ∨
    128 ≤ image ∧ (image + (last - first) < 0xd800 ∨ 0xdfff < image ∧ image + (last - first) < 0x110000)

instance (first last image : Nat) : Decidable (StaysBeyond first last image) :=
  inferInstanceAs (Decidable (_ ∨ _))

theorem staysBeyond_of_mem_lowerRuns :
    ∀ run ∈ lowerRuns, 128 ≤ run.2.1 → StaysBeyond run.1 run.2.1 run.2.2.2 := by
  decide +kernel

theorem StaysBeyond.not_plain {first last image n : Nat} (h : StaysBeyond first last image) (hfirst : first ≤ n)
    (hlast : n ≤ last) : ¬IsPlain (Char.ofNat (image + (n - first))) := by
  rcases h with ⟨rfl, rfl⟩ | ⟨hbeyond, hvalid⟩
  · obtain rfl := Nat.le_antisymm hlast hfirst
    rw [Nat.sub_self, Nat.add_zero, Char.ofNat_toNat]
    exact fun hplain => hplain.2 rfl
  · have hchar : (image + (n - first)).isValidChar := by
      rw [Nat.isValidChar]
      omega
    intro hplain
    have hascii := hplain.1
    rw [Char.ofNat, dif_pos hchar] at hascii
    exact absurd hascii (Nat.not_lt.2 (Nat.le_add_right_of_le hbeyond))

theorem exists_not_plain_of_not_ascii (h : 128 ≤ c.toNat) : ∃ d ∈ lowerChar c, ¬IsPlain d := by
  rw [lowerChar]
  split
  case isTrue => exact ⟨'\u0307', by simp, by decide⟩
  case isFalse =>
    split
    case h_1 first last step image hfind =>
      have hrun := List.find?_some hfind
      simp only [Bool.and_eq_true, decide_eq_true_eq] at hrun
      obtain ⟨⟨hfirst, hlast⟩, -⟩ := hrun
      have hbeyond := staysBeyond_of_mem_lowerRuns _ (List.mem_of_find?_eq_some hfind) (Nat.le_trans h hlast)
      exact ⟨_, List.mem_singleton_self _, hbeyond.not_plain hfirst hlast⟩
    case h_2 => exact ⟨c, List.mem_singleton_self c, fun hplain => absurd hplain.1 (Nat.not_lt.2 h)⟩

theorem isAlphanum_of_toLower (h : c.toLower.isAlphanum = true) : c.isAlphanum = true := by
  by_cases hc : c.toNat < 128
  · exact of_ascii (P := fun c => c.toLower.isAlphanum = true → c.isAlphanum = true) (by decide +kernel) hc h
  · rwa [toLower_of_not_ascii (Nat.le_of_not_lt hc)] at h

theorem lowerFrom_of_ascii (h : ∀ c ∈ cs, c.toNat < 128) (before : List Char) :
    lowerFrom before cs = cs.map Char.toLower := by
  induction cs generalizing before with
  | nil => rfl
  | cons c cs ih =>
      obtain ⟨hc, hcs⟩ := List.forall_mem_cons.1 h
      have hsigma : ¬(c == 'Σ') = true := by
        rw [beq_iff_eq]
        rintro rfl
        exact absurd hc (by decide)
      rw [lowerFrom, if_neg hsigma, lowerChar_of_ascii hc, ih hcs]
      rfl

theorem ascii_of_plain_lowerFrom (h : ∀ d ∈ lowerFrom before cs, IsPlain d) : ∀ c ∈ cs, c.toNat < 128 := by
  induction cs generalizing before with
  | nil => exact List.forall_mem_nil _
  | cons c cs ih =>
      obtain ⟨himage, hrest⟩ := List.forall_mem_append.1 h
      refine List.forall_mem_cons.2 ⟨Nat.lt_of_not_le fun hc => ?_, ih hrest⟩
      split at himage
      case isTrue =>
        -- Neither form of the small sigma is plain.
        have hplain := List.forall_mem_singleton.1 himage
        split at hplain
        · exact absurd hplain (by decide)
        · exact absurd hplain (by decide)
      case isFalse =>
        obtain ⟨d, hd, hnot⟩ := exists_not_plain_of_not_ascii hc
        exact hnot (himage d hd)

theorem ascii_of_toLower (h : c.toLower.toNat < 128) : c.toNat < 128 := by
  refine Nat.lt_of_not_le fun hc => ?_
  rw [toLower_of_not_ascii hc] at h
  exact Nat.not_lt.2 hc h

/-- Full lower-casing gives a plain word in lower case only for that word in whatever letter case. -/
theorem lower_eq_iff (hplain : ∀ d ∈ word.toList, IsPlain d) (hlower : word.toList.map Char.toLower = word.toList) :
    lower s = word ↔ EqUpToCase s word := by
  rw [EqUpToCase, hlower, ← String.toList_inj, lower, String.toList_ofList]
  constructor
  · intro h
    rw [← h, lowerFrom_of_ascii]
    exact ascii_of_plain_lowerFrom (h ▸ hplain)
  · intro h
    rw [lowerFrom_of_ascii, h]
    intro c hc
    have hmem : c.toLower ∈ word.toList := h ▸ List.mem_map_of_mem hc
    exact ascii_of_toLower (hplain _ hmem).1

example : lower "\u212A" = "k" ∧ ¬EqUpToCase "\u212A" "k" := by decide +kernel

theorem EqUpToCase.isAlphanum (h : EqUpToCase s word) (hword : ∀ d ∈ word.toList, d.toLower.isAlphanum = true) :
    ∀ c ∈ s.toList, c.isAlphanum = true := by
  intro c hc
  have hmem : c.toLower ∈ word.toList.map Char.toLower := h ▸ List.mem_map_of_mem hc
  obtain ⟨d, hd, hsame⟩ := List.mem_map.1 hmem
  exact isAlphanum_of_toLower (hsame ▸ hword d hd)

end Rollout.Text.Case
