import HtmlReflow.Text.Basic

namespace HtmlReflow

/-- Characters with neighbouring code points at neighbouring pointers: `count` of them from `pointer`
    on, the first with code point `code`. -/
structure IndexRun where
  pointer : Nat
  count : Nat
  code : Nat
  deriving DecidableEq, Repr

def IndexRun.char? (r : IndexRun) (pointer : Nat) : Option Char :=
  if r.pointer ≤ pointer ∧ pointer < r.pointer + r.count then
    some (Char.ofNat (r.code + (pointer - r.pointer)))
  else none

/-- A table of characters by pointer, as its runs. A pointer in no run has no character. -/
abbrev Index := List IndexRun

def Index.char? (index : Index) (pointer : Nat) : Option Char :=
  index.findSome? (IndexRun.char? · pointer)

/-- Whether every character of a run is one and lies beyond ASCII. -/
def IndexRun.BeyondAscii (r : IndexRun) : Prop :=
  0x80 ≤ r.code ∧ (r.code + r.count ≤ 0xD800 ∨ 0xE000 ≤ r.code ∧ r.code + r.count ≤ 0x110000)

instance (r : IndexRun) : Decidable r.BeyondAscii := inferInstanceAs (Decidable (_ ∧ _))

theorem IndexRun.le_of_char? {r : IndexRun} (h : r.BeyondAscii) {pointer : Nat} {c : Char}
    (found : r.char? pointer = some c) : 0x80 ≤ c.toNat := by
  unfold char? at found
  split at found
  · rename_i inside
    cases found
    have valid : (r.code + (pointer - r.pointer)).isValidChar := by
      obtain ⟨_, low | ⟨_, high⟩⟩ := h
      · exact Or.inl (by omega)
      · exact Or.inr ⟨by omega, by omega⟩
    rw [Char.ofNat, dif_pos valid]
    have := h.1
    change 0x80 ≤ r.code + (pointer - r.pointer)
    omega
  · cases found

theorem Index.le_of_char? {index : Index} (h : ∀ r ∈ index, r.BeyondAscii) {pointer : Nat} {c : Char}
    (found : index.char? pointer = some c) : 0x80 ≤ c.toNat := by
  obtain ⟨r, member, at_r⟩ := List.exists_of_findSome?_eq_some found
  exact IndexRun.le_of_char? (h r member) at_r

end HtmlReflow
