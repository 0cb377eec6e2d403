import HtmlReflow.Encoding.DoubleByte.JisChart
import HtmlReflow.Encoding.DoubleByte.JisSupplement

namespace HtmlReflow.Jis

def halfKatakana (n : Nat) : Char := Char.ofNat (0xFF61 + n)

/-- The place among the 188 of its lead byte that a trail byte of Shift_JIS has. No trail byte is 7F. -/
def shiftColumn? (trail : UInt8) : Option Nat :=
  if 0x40 ≤ trail ∧ trail ≤ 0x7E then some (trail.toNat - 0x40)
  else if 0x80 ≤ trail ∧ trail ≤ 0xFC then some (trail.toNat - 0x41)
  else none

/-- How many lead bytes of Shift_JIS come before a lead byte. -/
def shiftLead (lead : UInt8) : Nat :=
  if lead < 0xA0 then lead.toNat - 0x81 else lead.toNat - 0xC1

/-- The places of Shift_JIS behind the 94 rows of the chart are for private use, those of ten lead
    bytes. -/
def privateUse? (place : Nat) : Option Char :=
  if 8836 ≤ place ∧ place ≤ 10715 then some (Char.ofNat (0xE000 + (place - 8836))) else none

/-- The character at a place of Shift_JIS. Two rows of the chart share a lead byte. -/
def shiftPlace? (place : Nat) : Option Char :=
  match privateUse? place with
  | some c => some c
  | none => chart.char? (place / 94) (place % 94)

def shiftChar? (lead trail : UInt8) : Option Text :=
  match shiftColumn? trail with
  | none => none
  | some column => (shiftPlace? (shiftLead lead * 188 + column)).map ([·])

def readShift (b : UInt8) (bytes : Bytes) : Text × Bytes :=
  if b ≤ 0x80 then ([Char.ofNat b.toNat], bytes)
  else if 0xA1 ≤ b ∧ b ≤ 0xDF then ([halfKatakana (b.toNat - 0xA1)], bytes)
  else if (0x81 ≤ b ∧ b ≤ 0x9F) ∨ (0xE0 ≤ b ∧ b ≤ 0xFC) then readTrail (shiftChar? b) bytes
  else ([replacement], bytes)

def shiftDecoder : Decoder Unit := .stateless readShift (by
  intro b bytes
  unfold readShift
  repeat' split
  all_goals first | exact Nat.le_refl _ | exact readTrail_rest_le _ _)

/-- Whether a byte is one half of a pair of EUC-JP. -/
def isEucHalf (b : UInt8) : Bool := 0xA1 ≤ b && b ≤ 0xFE

/-- The character of a pair of bytes of EUC-JP in one of the two sets. -/
def eucChar? (chart : Chart) (lead trail : UInt8) : Option Text :=
  if isEucHalf lead && isEucHalf trail then
    (chart.char? (lead.toNat - 0xA1) (trail.toNat - 0xA1)).map ([·])
  else none

def eucKatakana? (trail : UInt8) : Option Text :=
  if 0xA1 ≤ trail ∧ trail ≤ 0xDF then some [halfKatakana (trail.toNat - 0xA1)] else none

/-- Reads what stands behind an 8F byte of EUC-JP: a pair of the supplementary set. A byte that starts
    no pair is taken for the second half of a pair that spells nothing. -/
def readSupplement : Bytes → Text × Bytes
  | lead :: bytes =>
    if isEucHalf lead then readTrail (eucChar? supplement lead) bytes
    else readTrail (fun _ => none) (lead :: bytes)
  | [] => readTrail (fun _ => none) []

def readEuc (b : UInt8) (bytes : Bytes) : Text × Bytes :=
  if b < 0x80 then ([Char.ofNat b.toNat], bytes)
  else if b = 0x8E then readTrail eucKatakana? bytes
  else if b = 0x8F then readSupplement bytes
  else if isEucHalf b then readTrail (eucChar? chart b) bytes
  else ([replacement], bytes)

theorem readSupplement_rest_le (bytes : Bytes) : (readSupplement bytes).2.length ≤ bytes.length := by
  unfold readSupplement
  split
  · split
    · exact Nat.le_succ_of_le (readTrail_rest_le _ _)
    · exact readTrail_rest_le _ _
  · exact readTrail_rest_le _ _

def eucDecoder : Decoder Unit := .stateless readEuc (by
  intro b bytes
  unfold readEuc
  repeat' split
  all_goals first
    | exact Nat.le_refl _ | exact readTrail_rest_le _ _ | exact readSupplement_rest_le _)

end HtmlReflow.Jis
