import HtmlReflow.Encoding.Decoder

namespace HtmlReflow

/-- A table of characters by row and column, each row a string. A full stop marks a place without a
    character; so does the end of a row. -/
abbrev Chart := Array String

/-- The character of a chart in a row and a column, both counted from 0. No chart has ASCII characters,
    which are single bytes. -/
def Chart.char? (chart : Chart) (row column : Nat) : Option Char :=
  match chart[row]? with
  | none => none
  | some line =>
    match line.toList[column]? with
    | none => none
    | some c => if c.toNat < 0x80 then none else some c

theorem Chart.le_of_char? {chart : Chart} {row column : Nat} {c : Char}
    (found : chart.char? row column = some c) : 0x80 ≤ c.toNat := by
  unfold char? at found
  split at found
  · cases found
  · split at found
    · cases found
    · split at found
      · cases found
      · cases found
        omega

/-- Reads the second byte of a pair. A pair that spells nothing is an error; an ASCII byte in it stays,
    so that no error takes a `<` or a line end with it. -/
def readTrail (chars? : UInt8 → Option Text) : Bytes → Text × Bytes
  | [] => ([replacement], [])
  | trail :: bytes =>
    match chars? trail with
    | some chars => (chars, bytes)
    | none => ([replacement], if trail < 0x80 then trail :: bytes else bytes)

theorem readTrail_rest_le (chars? : UInt8 → Option Text) (bytes : Bytes) :
    (readTrail chars? bytes).2.length ≤ bytes.length := by
  unfold readTrail
  split
  · exact Nat.le_refl _
  · split
    · exact Nat.le_succ _
    · simp only
      split
      · exact Nat.le_refl _
      · exact Nat.le_succ _

end HtmlReflow
