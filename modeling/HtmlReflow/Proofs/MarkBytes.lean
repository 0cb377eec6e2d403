import HtmlReflow.Document
import Mathlib.Data.List.Basic

namespace HtmlReflow

/-- The codes below that of `@` without the digits: all ASCII blanks, both angle brackets, both quotes,
    `=` and `&` are among them. -/
def isMarkCode (n : Nat) : Bool := n < 0x40 && !(0x30 ≤ n && n ≤ 0x39)

/-- The marks of a text, in order. -/
def markCodes (s : Text) : List Nat := (s.map Char.toNat).filter isMarkCode

/-- The bytes that are marks where a byte is a character, in order. -/
def markBytes (bytes : Bytes) : List Nat := (bytes.map UInt8.toNat).filter isMarkCode

variable {s : Text} {c : Char} {b : UInt8} {bytes rest : Bytes} {n : Nat}

@[simp] theorem markCodes_nil : markCodes [] = [] := rfl

@[simp] theorem markBytes_nil : markBytes [] = [] := rfl

theorem markCodes_append (s t : Text) : markCodes (s ++ t) = markCodes s ++ markCodes t := by
  rw [markCodes, List.map_append, List.filter_append]
  rfl

theorem isMarkCode_of_high (high : 0x40 ≤ n) : isMarkCode n = false := by
  have notLow : ¬ n < 0x40 := by omega
  simp [isMarkCode, notLow]

theorem isMarkCode_of_digit (low : 0x30 ≤ n) (high : n ≤ 0x39) : isMarkCode n = false := by
  simp [isMarkCode, low, high]

theorem markBytes_cons_of_not (other : isMarkCode b.toNat = false) :
    markBytes (b :: bytes) = markBytes bytes := by
  simp [markBytes, other]

theorem markBytes_cons_of_high (high : 0x40 ≤ b.toNat) : markBytes (b :: bytes) = markBytes bytes :=
  markBytes_cons_of_not (isMarkCode_of_high high)

/-- Characters from `@` on. -/
def High (s : Text) : Prop := ∀ c ∈ s, 0x40 ≤ c.toNat

theorem High.markCodes_eq (high : High s) : markCodes s = [] := by
  apply List.filter_eq_nil_iff.mpr
  intro n member
  obtain ⟨c, inside, rfl⟩ := List.mem_map.mp member
  rw [isMarkCode_of_high (high c inside)]
  exact Bool.false_ne_true

theorem high_singleton (high : 0x40 ≤ c.toNat) : High [c] := by
  intro d member
  rw [List.mem_singleton.mp member]
  exact high

theorem high_replacement : High [replacement] := high_singleton (by decide)

/-- The numbers of characters from `@` on. A number that no character has would be read as a NUL,
    which is a mark. -/
def HighScalar (n : Nat) : Prop := 0x40 ≤ n ∧ (n < 0xD800 ∨ 0xE000 ≤ n ∧ n < 0x110000)

theorem toNat_ofNat (scalar : n < 0xD800 ∨ 0xE000 ≤ n ∧ n < 0x110000) : (Char.ofNat n).toNat = n := by
  have valid : n.isValidChar := scalar.imp id fun h => ⟨by omega, h.2⟩
  rw [Char.ofNat, dif_pos valid]
  rfl

theorem HighScalar.high (h : HighScalar n) : High [Char.ofNat n] := by
  apply high_singleton
  rw [toNat_ofNat h.2]
  exact h.1

/-- What is read from `bytes`, with `rest` left, has the marks that are taken. -/
def Faithful (bytes : Bytes) (chars : Text) (rest : Bytes) : Prop :=
  markCodes chars ++ markBytes rest = markBytes bytes

theorem faithful_of_high (high : High s) (same : markBytes rest = markBytes bytes) :
    Faithful bytes s rest := by
  rw [Faithful, high.markCodes_eq, List.nil_append, same]

theorem Faithful.cons (high : 0x40 ≤ b.toNat) (h : Faithful bytes s rest) :
    Faithful (b :: bytes) s rest := by
  rwa [Faithful, markBytes_cons_of_high high]

theorem faithful_ascii (ascii : b < 0x80) (bytes : Bytes) :
    Faithful (b :: bytes) [Char.ofNat b.toNat] bytes := by
  have value : (Char.ofNat b.toNat).toNat = b.toNat := by
    apply toNat_ofNat
    have bound := UInt8.lt_iff_toNat_lt.mp ascii
    have small : b.toNat < 0x80 := bound
    omega
  simp only [Faithful, markCodes, markBytes, List.map_cons, List.map_nil, List.filter_cons, value]
  split <;> rfl

namespace Decoder

variable {σ : Type}

/-- Every reading takes over the marks that it takes, and no others. -/
def KeepsMarks (d : Decoder σ) : Prop :=
  ∀ state b bytes,
    Faithful (b :: bytes) (d.next state b bytes).chars (d.next state b bytes).rest

theorem KeepsMarks.run {d : Decoder σ} (keeps : d.KeepsMarks) (state : σ) (bytes : Bytes) :
    markCodes (d.run state bytes) = markBytes bytes := by
  generalize hn : bytes.length = n
  induction n using Nat.strongRecOn generalizing state bytes with
  | ind n ih =>
    cases bytes with
    | nil => rw [d.run_nil]; rfl
    | cons b bytes =>
      have shorter : (d.next state b bytes).rest.length < n := by
        have := d.rest_le state b bytes
        rw [List.length_cons] at hn
        omega
      rw [d.run_cons, markCodes_append, ih _ shorter _ _ rfl]
      exact keeps state b bytes

end Decoder

/-- Pairs of bytes spell characters from `@` on, and no second byte of a pair is a mark. -/
def HighPairs (chars? : UInt8 → Option Text) : Prop :=
  ∀ trail chars, chars? trail = some chars → 0x40 ≤ trail.toNat ∧ High chars

/-- Where a pair spells nothing, an ASCII byte in it is left for the next reading. -/
theorem HighPairs.readTrail {chars? : UInt8 → Option Text} (pairs : HighPairs chars?) (bytes : Bytes) :
    Faithful bytes (readTrail chars? bytes).1 (readTrail chars? bytes).2 := by
  unfold HtmlReflow.readTrail
  split
  · exact faithful_of_high high_replacement rfl
  · rename_i trail bytes
    split
    · rename_i chars found
      obtain ⟨above, high⟩ := pairs trail chars found
      exact (faithful_of_high high rfl).cons above
    · apply faithful_of_high high_replacement
      dsimp only
      split
      · rfl
      · rename_i notAscii
        have above := UInt8.le_iff_toNat_le.mp (UInt8.not_lt.mp notAscii)
        exact (markBytes_cons_of_high (Nat.le_trans (by decide) above)).symm

theorem highPairs_none : HighPairs fun _ => none := by
  intro trail chars found
  cases found

end HtmlReflow
