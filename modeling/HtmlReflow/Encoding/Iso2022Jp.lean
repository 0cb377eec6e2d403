import HtmlReflow.Encoding.DoubleByte.Jis

namespace HtmlReflow.Iso2022Jp

inductive Charset where
  | ascii
  | roman
  | katakana
  | jis
  deriving DecidableEq, Repr

/-- The chosen set, and whether the choice has just been made. Two choices in a row are an error, since
    the first of them was for nothing. -/
structure State where
  charset : Charset
  chosen : Bool
  deriving DecidableEq, Repr

/-- The set that the two bytes behind an escape byte choose. -/
def escape? (a b : UInt8) : Option Charset :=
  if a = 0x28 ∧ b = 0x42 then some .ascii
  else if a = 0x28 ∧ b = 0x4A then some .roman
  else if a = 0x28 ∧ b = 0x49 then some .katakana
  else if a = 0x24 ∧ (b = 0x40 ∨ b = 0x42) then some .jis
  else none

/-- Reads an escape sequence behind its first byte. If it is none, that byte alone is an error. -/
def readEscape (s : State) : Bytes → Reading State
  | a :: b :: bytes =>
    match escape? a b with
    | some charset => ⟨if s.chosen then [replacement] else [], ⟨charset, true⟩, bytes⟩
    | none => ⟨[replacement], ⟨s.charset, false⟩, a :: b :: bytes⟩
  | bytes => ⟨[replacement], ⟨s.charset, false⟩, bytes⟩

/-- The character of one byte in a set of single bytes. -/
def single (charset : Charset) (b : UInt8) : Char :=
  if charset = .katakana then
    if 0x21 ≤ b ∧ b ≤ 0x5F then Jis.halfKatakana (b.toNat - 0x21) else replacement
  else if 0x80 ≤ b ∨ b = 0x0E ∨ b = 0x0F then replacement
  else if charset = .roman ∧ b = 0x5C then '\u00A5'
  else if charset = .roman ∧ b = 0x7E then '\u203E'
  else Char.ofNat b.toNat

def isHalf (b : UInt8) : Bool := 0x21 ≤ b && b ≤ 0x7E

/-- Reads the second half of a pair. An escape byte in its place stays, any other byte goes. -/
def readHalf (lead : UInt8) : Bytes → Text × Bytes
  | [] => ([replacement], [])
  | trail :: bytes =>
    if trail = 0x1B then ([replacement], trail :: bytes)
    else if isHalf trail then
      ([(Jis.chart.char? (lead.toNat - 0x21) (trail.toNat - 0x21)).getD replacement], bytes)
    else ([replacement], bytes)

def next (s : State) (b : UInt8) (bytes : Bytes) : Reading State :=
  if b = 0x1B then readEscape s bytes
  else if s.charset ≠ .jis then ⟨[single s.charset b], ⟨s.charset, false⟩, bytes⟩
  else if isHalf b then ⟨(readHalf b bytes).1, ⟨s.charset, false⟩, (readHalf b bytes).2⟩
  else ⟨[replacement], ⟨s.charset, false⟩, bytes⟩

theorem readEscape_rest_le (s : State) (bytes : Bytes) :
    (readEscape s bytes).rest.length ≤ bytes.length := by
  unfold readEscape
  split
  · split
    · exact Nat.le_succ_of_le (Nat.le_succ _)
    · exact Nat.le_refl _
  · exact Nat.le_refl _

theorem readHalf_rest_le (lead : UInt8) (bytes : Bytes) :
    (readHalf lead bytes).2.length ≤ bytes.length := by
  unfold readHalf
  split
  · exact Nat.le_refl _
  · split
    · exact Nat.le_refl _
    · split <;> exact Nat.le_succ _

def decoder : Decoder State where
  start := ⟨.ascii, false⟩
  next := next
  rest_le := by
    intro s b bytes
    unfold next
    split
    · exact readEscape_rest_le _ _
    · split
      · exact Nat.le_refl _
      · split
        · exact readHalf_rest_le _ _
        · exact Nat.le_refl _

end HtmlReflow.Iso2022Jp
