import HtmlReflow.Encoding.DoubleByte.FourByte
import HtmlReflow.Encoding.DoubleByte.GbChart

namespace HtmlReflow.Gb18030

/-- The pairs of bytes for private use, 190 places for each lead byte. -/
def privateIndex : Index :=
  [⟨6080, 96, 0xE4C6⟩, ⟨6270, 96, 0xE526⟩, ⟨6376, 6, 0xE766⟩, ⟨6433, 1, 0xE76D⟩,
    ⟨6444, 2, 0xE76E⟩, ⟨6458, 2, 0xE770⟩, ⟨6460, 95, 0xE586⟩, ⟨6650, 96, 0xE5E6⟩,
    ⟨6829, 11, 0xE772⟩, ⟨6840, 96, 0xE646⟩, ⟨7022, 8, 0xE77D⟩, ⟨7030, 96, 0xE6A6⟩,
    ⟨7150, 8, 0xE785⟩, ⟨7211, 9, 0xE797⟩, ⟨7220, 96, 0xE706⟩, ⟨7349, 15, 0xE7A0⟩,
    ⟨7397, 13, 0xE7AF⟩, ⟨7495, 11, 0xE7BC⟩, ⟨7538, 4, 0xE7C9⟩, ⟨7579, 21, 0xE7CD⟩,
    ⟨7624, 1, 0xE7E2⟩, ⟨7627, 1, 0xE7E3⟩, ⟨7629, 3, 0xE7E4⟩, ⟨7686, 13, 0xE7F4⟩,
    ⟨7775, 15, 0xE801⟩, ⟨7886, 94, 0xE000⟩, ⟨8076, 94, 0xE05E⟩, ⟨8266, 94, 0xE0BC⟩,
    ⟨8456, 94, 0xE11A⟩, ⟨8646, 94, 0xE178⟩, ⟨8836, 94, 0xE1D6⟩, ⟨16525, 5, 0xE810⟩,
    ⟨22706, 94, 0xE234⟩, ⟨22896, 94, 0xE292⟩, ⟨23086, 94, 0xE2F0⟩, ⟨23276, 94, 0xE34E⟩,
    ⟨23466, 94, 0xE3AC⟩, ⟨23656, 94, 0xE40A⟩, ⟨23767, 3, 0xE816⟩, ⟨23794, 1, 0xE831⟩,
    ⟨23804, 1, 0xE83B⟩, ⟨23830, 1, 0xE855⟩, ⟨23846, 94, 0xE468⟩]

theorem privateIndex_beyondAscii : ∀ r ∈ privateIndex, r.BeyondAscii := by decide

/-- Whether a byte may stand first or third in a sequence. -/
def isLead (b : UInt8) : Bool := 0x81 ≤ b && b ≤ 0xFE

/-- Whether a byte may stand second or last in a sequence of four. -/
def isDigit (b : UInt8) : Bool := 0x30 ≤ b && b ≤ 0x39

/-- The column of a trail byte. No trail byte is 7F. -/
def column? (trail : UInt8) : Option Nat :=
  if 0x40 ≤ trail ∧ trail ≤ 0x7E then some (trail.toNat - 0x40)
  else if 0x80 ≤ trail ∧ trail ≤ 0xFE then some (trail.toNat - 0x41)
  else none

/-- The character in a row and a column, both counted from 0. -/
def place? (row column : Nat) : Option Char :=
  match privateIndex.char? (row * 190 + column) with
  | some c => some c
  | none => chart.char? row column

def char? (lead trail : UInt8) : Option Text :=
  match column? trail with
  | none => none
  | some column => (place? (lead.toNat - 0x81) column).map ([·])

/-- Where in the index of four bytes a sequence points. -/
def fourBytePointer (a b c d : UInt8) : Nat :=
  (((a.toNat - 0x81) * 10 + (b.toNat - 0x30)) * 126 + (c.toNat - 0x81)) * 10 + (d.toNat - 0x30)

def fourByteChar (a b c d : UInt8) : Char :=
  (fourByteIndex.char? (fourBytePointer a b c d)).getD replacement

/-- Reads the rest of a sequence of four bytes behind its first two. Where it breaks off, the first byte
    alone is an error and the others stay; at the end of all bytes they are one error together. -/
def readFour (a b : UInt8) : Bytes → Text × Bytes
  | [] => ([replacement], [])
  | c :: bytes =>
    if isLead c then
      match bytes with
      | [] => ([replacement], [])
      | d :: bytes =>
        if isDigit d then ([fourByteChar a b c d], bytes)
        else ([replacement], b :: c :: d :: bytes)
    else ([replacement], b :: c :: bytes)

def read (a : UInt8) (bytes : Bytes) : Text × Bytes :=
  if a < 0x80 then ([Char.ofNat a.toNat], bytes)
  else if a = 0x80 then (['\u20AC'], bytes)
  else if isLead a then
    match bytes with
    | [] => ([replacement], [])
    | b :: bytes => if isDigit b then readFour a b bytes else readTrail (char? a) (b :: bytes)
  else ([replacement], bytes)

theorem readFour_rest_le (a b : UInt8) (bytes : Bytes) :
    (readFour a b bytes).2.length ≤ bytes.length + 1 := by
  unfold readFour
  split
  · exact Nat.zero_le _
  · split
    · split
      · exact Nat.zero_le _
      · split
        · simp only [List.length_cons]; omega
        · exact Nat.le_refl _
    · exact Nat.le_refl _

def decoder : Decoder Unit := .stateless read (by
  intro a bytes
  unfold read
  repeat' split
  all_goals first
    | exact Nat.le_refl _ | exact readTrail_rest_le _ _ | exact readFour_rest_le _ _ _)

end HtmlReflow.Gb18030
