import Rollout.Proofs.Text.Case
import Rollout.Storage

namespace Rollout

open Text.Case

variable {s : String} {c : Char}

theorem StoreMode.read_eq_ok_iff {m : StoreMode} : read s = .ok m ↔
    m = .sqlite ∧ lower s = "sqlite" ∨ m = .postgres ∧ (lower s = "postgres" ∨ lower s = "postgresql") := by
  simp only [read]
  split
  case isTrue hsqlite => cases m <;> simp [hsqlite]
  case isFalse hsqlite =>
    split
    case isTrue hpostgres => cases m <;> simp [hsqlite, hpostgres]
    case isFalse hpostgres => simp [hsqlite, hpostgres]

theorem ArtifactStorage.read_eq_ok_iff {a : ArtifactStorage} : read s = .ok a ↔ lower s = a.text := by
  simp only [read]
  split
  case isTrue hfile => cases a <;> simp [hfile, text]
  case isFalse hfile =>
    split
    case isTrue hs3 => cases a <;> simp [hs3, text]
    case isFalse hs3 => cases a <;> simp [hfile, hs3, text]

def storageWords : List String := ["sqlite", "postgres", "postgresql", "file", "s3"]

theorem lower_eq_storageWord_iff {word : String} (h : word ∈ storageWords) : lower s = word ↔ EqUpToCase s word := by
  have hwords : ∀ word ∈ storageWords,
      (word.toList.all fun d => IsPlain d) = true ∧ word.toList.map Char.toLower = word.toList := by decide
  obtain ⟨hplain, hlower⟩ := hwords word h
  exact lower_eq_iff (by simpa using hplain) hlower

theorem isAlphanum_of_storageWord {word : String} (h : word ∈ storageWords) (hs : lower s = word) (hc : c ∈ s.toList) :
    c.isAlphanum = true := by
  have hwords : ∀ word ∈ storageWords, (word.toList.all fun d => d.toLower.isAlphanum) = true := by decide
  exact ((lower_eq_storageWord_iff h).1 hs).isAlphanum (List.all_eq_true.1 (hwords word h)) c hc

theorem StoreMode.exists_storageWord {m : StoreMode} (h : read s = .ok m) : ∃ word ∈ storageWords, lower s = word := by
  rcases read_eq_ok_iff.1 h with ⟨-, hs⟩ | ⟨-, hs | hs⟩
  · exact ⟨_, by decide, hs⟩
  · exact ⟨_, by decide, hs⟩
  · exact ⟨_, by decide, hs⟩

theorem ArtifactStorage.exists_storageWord {a : ArtifactStorage} (h : read s = .ok a) :
    ∃ word ∈ storageWords, lower s = word := by
  refine ⟨a.text, ?_, read_eq_ok_iff.1 h⟩
  cases a with
  | file => decide
  | s3 => decide

/-- The words are read in whatever letter case, and nothing else is: no text with a character beyond ASCII or a blank
anywhere, however it is lower-cased. -/
theorem read_iff_eqUpToCase (s : String) :
    (StoreMode.read s = .ok .sqlite ↔ EqUpToCase s "sqlite") ∧
      (StoreMode.read s = .ok .postgres ↔ EqUpToCase s "postgres" ∨ EqUpToCase s "postgresql") ∧
      (ArtifactStorage.read s = .ok .file ↔ EqUpToCase s "file") ∧
      (ArtifactStorage.read s = .ok .s3 ↔ EqUpToCase s "s3") ∧
      ∀ c ∈ s.toList, c.isAlphanum = false →
        (∀ m, StoreMode.read s ≠ .ok m) ∧ ∀ a, ArtifactStorage.read s ≠ .ok a := by
  have hword (word : String) (h : word ∈ storageWords) : lower s = word ↔ EqUpToCase s word :=
    lower_eq_storageWord_iff h
  refine ⟨?_, ?_, ?_, ?_, fun c hc hother => ?_⟩
  · simp [StoreMode.read_eq_ok_iff, hword "sqlite" (by decide)]
  · simp [StoreMode.read_eq_ok_iff, hword "postgres" (by decide), hword "postgresql" (by decide)]
  · simp [ArtifactStorage.read_eq_ok_iff, ArtifactStorage.text, hword "file" (by decide)]
  · simp [ArtifactStorage.read_eq_ok_iff, ArtifactStorage.text, hword "s3" (by decide)]
  · have hnone : ¬∃ word ∈ storageWords, lower s = word := by
      rintro ⟨word, h, hs⟩
      rw [isAlphanum_of_storageWord h hs hc] at hother
      cases hother
    exact ⟨fun m hm => hnone (StoreMode.exists_storageWord hm), fun a ha => hnone (ArtifactStorage.exists_storageWord ha)⟩

end Rollout
