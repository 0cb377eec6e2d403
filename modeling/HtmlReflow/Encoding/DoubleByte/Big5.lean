import HtmlReflow.Encoding.DoubleByte.Big5Chart

namespace HtmlReflow.Big5

/-- Four pairs of bytes stand for a letter with a mark behind it. -/
def composed? (lead trail : UInt8) : Option Text :=
  if lead = 0x88 then
    if trail = 0x62 then some ['\u00CA', '\u0304']
    else if trail = 0x64 then some ['\u00CA', '\u030C']
    else if trail = 0xA3 then some ['\u00EA', '\u0304']
    else if trail = 0xA5 then some ['\u00EA', '\u030C']
    else none
  else none

def column? (trail : UInt8) : Option Nat :=
  if 0x40 ≤ trail ∧ trail ≤ 0x7E then some (trail.toNat - 0x40)
  else if 0xA1 ≤ trail ∧ trail ≤ 0xFE then some (trail.toNat - 0x62)
  else none

def chars? (lead trail : UInt8) : Option Text :=
  match composed? lead trail with
  | some chars => some chars
  | none =>
    match column? trail with
    | none => none
    | some column => (chart.char? (lead.toNat - 0x81) column).map ([·])

def read (b : UInt8) (bytes : Bytes) : Text × Bytes :=
  if b < 0x80 then ([Char.ofNat b.toNat], bytes)
  else if 0x81 ≤ b ∧ b ≤ 0xFE then readTrail (chars? b) bytes
  else ([replacement], bytes)

def decoder : Decoder Unit := .stateless read (by
  intro b bytes
  unfold read
  repeat' split
  all_goals first | exact Nat.le_refl _ | exact readTrail_rest_le _ _)

end HtmlReflow.Big5
