import HtmlReflow.Encoding.Decoder

namespace HtmlReflow.Utf8

def encode (s : Text) : Bytes := s.flatMap String.utf8EncodeChar

/-- What a lead byte promises: how many bytes follow, the least and the greatest value of the first of
    them, and the bits that the lead byte carries. The bounds shut out overlong forms, surrogates and
    numbers beyond the last character. -/
structure Lead where
  count : Nat
  least : UInt8
  greatest : UInt8
  bits : Nat

/-- The lead bytes of sequences of two, three and four bytes. -/
def lead? (b : UInt8) : Option Lead :=
  if 0xC2 ≤ b ∧ b ≤ 0xDF then some ⟨1, 0x80, 0xBF, b.toNat % 0x20⟩
  else if b = 0xE0 then some ⟨2, 0xA0, 0xBF, b.toNat % 0x10⟩
  else if b = 0xED then some ⟨2, 0x80, 0x9F, b.toNat % 0x10⟩
  else if 0xE1 ≤ b ∧ b ≤ 0xEF then some ⟨2, 0x80, 0xBF, b.toNat % 0x10⟩
  else if b = 0xF0 then some ⟨3, 0x90, 0xBF, b.toNat % 0x08⟩
  else if 0xF1 ≤ b ∧ b ≤ 0xF3 then some ⟨3, 0x80, 0xBF, b.toNat % 0x08⟩
  else if b = 0xF4 then some ⟨3, 0x80, 0x8F, b.toNat % 0x08⟩
  else none

/-- Reads `count` more bytes of a sequence whose bits so far are `bits`. The first byte that cannot
    follow ends the sequence, which then is one error, and stays. -/
def readTail (bits : Nat) : (count : Nat) → (least greatest : UInt8) → Bytes → Text × Bytes
  | 0, _, _, bytes => ([Char.ofNat bits], bytes)
  | _ + 1, _, _, [] => ([replacement], [])
  | count + 1, least, greatest, b :: bytes =>
    if least ≤ b ∧ b ≤ greatest then
      readTail (bits * 0x40 + b.toNat % 0x40) count 0x80 0xBF bytes
    else ([replacement], b :: bytes)

theorem readTail_rest_le (bits count : Nat) (least greatest : UInt8) (bytes : Bytes) :
    (readTail bits count least greatest bytes).2.length ≤ bytes.length := by
  induction count generalizing bits least greatest bytes with
  | zero => simp [readTail]
  | succ count ih =>
    cases bytes with
    | nil => simp [readTail]
    | cons b bytes =>
      simp only [readTail]
      split
      · exact Nat.le_succ_of_le (ih _ _ _ _)
      · exact Nat.le_refl _

def read (b : UInt8) (bytes : Bytes) : Text × Bytes :=
  if b < 0x80 then ([Char.ofNat b.toNat], bytes)
  else
    match lead? b with
    | some lead => readTail lead.bits lead.count lead.least lead.greatest bytes
    | none => ([replacement], bytes)

/-- UTF-8. Each maximal part of a character that the next byte does not continue is one error. -/
def decoder : Decoder Unit := .stateless read (by
  intro b bytes
  unfold read
  split
  · exact Nat.le_refl _
  · split
    · exact readTail_rest_le _ _ _ _ _
    · exact Nat.le_refl _)

end HtmlReflow.Utf8
