import Mathlib.Data.String.Basic
import Rollout.Text.Percent

namespace Rollout.Text

theorem toList_loop (bs : ByteArray) (i : Nat) (r : List UInt8) :
    ByteArray.toList.loop bs i r = r.reverse ++ bs.data.toList.drop i := by
  fun_induction ByteArray.toList.loop bs i r with
  | case1 i r h ih =>
      have hdrop : bs.data.toList.drop i = bs.get! i :: bs.data.toList.drop (i + 1) := by
        rw [List.drop_eq_getElem_cons h]
        simp [ByteArray.get!, h]
      simp [ih, hdrop]
  | case2 i r h => rw [List.drop_of_length_le (by simpa using h), List.append_nil]

theorem toByteArray_toList (bs : ByteArray) : bs.toList.toByteArray = bs := by
  apply ByteArray.ext
  apply Array.toList_inj.1
  rw [List.toList_data_toByteArray, ByteArray.toList, toList_loop]
  rfl

namespace Percent

variable {b : UInt8} {n : Nat} {c : Char} {r : List Char}

def decodeText? (cs : List Char) : Option String := do String.fromUTF8? (← decode? cs).toByteArray

theorem hexDigit?_upperHex (h : n < 16) : hexDigit? (upperHex n) = some n := by
  revert n
  decide

theorem isUnreserved_upperHex (h : n < 16) :
    (upperHex n).toNat < 128 ∧ isUnreserved (UInt8.ofNat (upperHex n).toNat) = true := by
  revert n
  decide

theorem toNat_ofByte (b : UInt8) : (Char.ofNat b.toNat).toNat = b.toNat := by
  have hb := b.toNat_lt
  have hvalid : b.toNat.isValidChar := .inl (by omega)
  rw [Char.ofNat, dif_pos hvalid]
  rfl

theorem toNat_of_isUnreserved (h : isUnreserved b = true) : b.toNat < 128 ∧ b.toNat ≠ '%'.toNat := by
  unfold isUnreserved Char.isAlphanum Char.isAlpha Char.isUpper Char.isLower Char.isDigit at h
  rw [← toNat_ofByte b, show '%'.toNat = 37 from rfl]
  generalize Char.ofNat b.toNat = c at h
  simp [UInt32.le_iff_toNat_le] at h
  rcases h with (((h | rfl) | rfl) | rfl) | rfl
  · omega
  · decide
  · decide
  · decide
  · decide

theorem decode?_cons (hc : c ≠ '%') : decode? (c :: r) =
    if c.toNat < 128 && isUnreserved (UInt8.ofNat c.toNat) then (decode? r).map (UInt8.ofNat c.toNat :: ·)
    else none := by
  rw [decode?]
  simp [hc]

theorem decode?_encodeByte (b : UInt8) (r : List Char) :
    decode? (encodeByte b ++ r) = (decode? r).map (b :: ·) := by
  have hb := b.toNat_lt
  by_cases h : isUnreserved b = true
  · obtain ⟨hlt, hpercent⟩ := toNat_of_isUnreserved h
    rw [encodeByte, if_pos h, List.singleton_append, decode?_cons, toNat_ofByte]
    · simp [h, hlt]
    · rintro heq
      exact hpercent (by rw [← toNat_ofByte b, heq])
  · have hhigh := hexDigit?_upperHex (n := b.toNat / 16) (by omega)
    have hlow := hexDigit?_upperHex (n := b.toNat % 16) (by omega)
    have hdigits : UInt8.ofNat (16 * (b.toNat / 16) + b.toNat % 16) = b := by
      rw [Nat.div_add_mod, UInt8.ofNat_toNat]
    rw [encodeByte, if_neg h, List.cons_append, List.cons_append, List.singleton_append, decode?, hhigh, hlow,
      Option.bind_eq_bind, Option.bind_some, Option.bind_eq_bind, Option.bind_some, hdigits]
    cases decode? r <;> rfl

theorem decode?_encodeBytes (bs : List UInt8) : decode? (encodeBytes bs) = some bs := by
  induction bs with
  | nil => rfl
  | cons b bs ih => rw [encodeBytes, List.flatMap_cons, decode?_encodeByte, ← encodeBytes, ih, Option.map_some]

theorem decodeText?_encode (s : String) : decodeText? (encode s).toList = some s := by
  rw [decodeText?, encode, String.toList_ofList, decode?_encodeBytes]
  change String.fromUTF8? s.toUTF8.toList.toByteArray = some s
  rw [toByteArray_toList]
  exact dif_pos s.isValidUTF8

theorem mem_encodeByte (h : c ∈ encodeByte b) :
    c = '%' ∨ c.toNat < 128 ∧ isUnreserved (UInt8.ofNat c.toNat) = true := by
  have hb := b.toNat_lt
  rw [encodeByte] at h
  split at h
  case isTrue hb =>
    rw [List.mem_singleton.1 h, toNat_ofByte, UInt8.ofNat_toNat]
    exact .inr ⟨(toNat_of_isUnreserved hb).1, hb⟩
  case isFalse =>
    simp only [List.mem_cons, List.not_mem_nil, or_false] at h
    rcases h with rfl | rfl | rfl
    · exact .inl rfl
    · exact .inr (isUnreserved_upperHex (by omega))
    · exact .inr (isUnreserved_upperHex (by omega))

theorem mem_encode (s : String) (h : c ∈ (encode s).toList) :
    c = '%' ∨ c.toNat < 128 ∧ isUnreserved (UInt8.ofNat c.toNat) = true := by
  rw [encode, String.toList_ofList, encodeBytes] at h
  obtain ⟨b, -, hc⟩ := List.mem_flatMap.1 h
  exact mem_encodeByte hc

theorem not_mem_encode (s : String) (hpercent : c ≠ '%') (hc : isUnreserved (UInt8.ofNat c.toNat) = false) :
    c ∉ (encode s).toList := by
  intro h
  rcases mem_encode s h with h | ⟨-, h⟩
  · exact hpercent h
  · exact absurd h (by simp [hc])

end Percent

end Rollout.Text
