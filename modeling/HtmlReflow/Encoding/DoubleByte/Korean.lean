import HtmlReflow.Encoding.DoubleByte.KoreanChart

namespace HtmlReflow.Korean

def char? (lead trail : UInt8) : Option Text :=
  if 0x41 ≤ trail ∧ trail ≤ 0xFE then
    (chart.char? (lead.toNat - 0x81) (trail.toNat - 0x41)).map ([·])
  else none

def read (b : UInt8) (bytes : Bytes) : Text × Bytes :=
  if b < 0x80 then ([Char.ofNat b.toNat], bytes)
  else if 0x81 ≤ b ∧ b ≤ 0xFE then readTrail (char? b) bytes
  else ([replacement], bytes)

def decoder : Decoder Unit := .stateless read (by
  intro b bytes
  unfold read
  repeat' split
  all_goals first | exact Nat.le_refl _ | exact readTrail_rest_le _ _)

end HtmlReflow.Korean
