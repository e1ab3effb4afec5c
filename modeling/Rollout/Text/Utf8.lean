namespace Rollout.Text.Utf8

/-- A character of which some bytes are read: its value so far, how many bytes it still lacks, and
the bounds of the next one. -/
structure Pending where
  value : Nat
  missing : Nat
  low : Nat
  high : Nat

def replacement : Char := '\uFFFD'

/-- The byte that opens a character fixes how long it is and which bytes may come second: shortest
forms only, no surrogates, nothing above U+10FFFF. -/
def opening (b : Nat) : Except Char Pending :=
  if b < 0x80 then .error (Char.ofNat b)
  else if b < 0xC2 then .error replacement
  else if b < 0xE0 then .ok ⟨b - 0xC0, 1, 0x80, 0xBF⟩
  else if b == 0xE0 then .ok ⟨0, 2, 0xA0, 0xBF⟩
  else if b == 0xED then .ok ⟨0xD, 2, 0x80, 0x9F⟩
  else if b < 0xF0 then .ok ⟨b - 0xE0, 2, 0x80, 0xBF⟩
  else if b == 0xF0 then .ok ⟨0, 3, 0x90, 0xBF⟩
  else if b < 0xF4 then .ok ⟨b - 0xF0, 3, 0x80, 0xBF⟩
  else if b == 0xF4 then .ok ⟨4, 3, 0x80, 0x8F⟩
  else .error replacement

/-- Reads bytes as UTF-8, with one replacement character for each maximal part that starts like a
character and is not continued as one. -/
def decodeFrom : Option Pending → List UInt8 → List Char
  | none, [] => []
  | some _, [] => [replacement]
  | none, b :: r => match opening b.toNat with
    | .error c => c :: decodeFrom none r
    | .ok p => decodeFrom (some p) r
  | some p, b :: r =>
    if p.low ≤ b.toNat && b.toNat ≤ p.high then
      let value := p.value * 64 + (b.toNat - 0x80)
      if p.missing ≤ 1 then Char.ofNat value :: decodeFrom none r
      else decodeFrom (some ⟨value, p.missing - 1, 0x80, 0xBF⟩) r
    else match opening b.toNat with
      | .error c => replacement :: c :: decodeFrom none r
      | .ok q => replacement :: decodeFrom (some q) r

def decode (bs : List UInt8) : String := String.ofList (decodeFrom none bs)

end Rollout.Text.Utf8
