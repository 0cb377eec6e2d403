import HtmlReflow.Encoding.Decoder

namespace HtmlReflow.Utf16

inductive Order where
  | littleEndian
  | bigEndian
  deriving DecidableEq, Repr

def Order.unit (order : Order) (first second : UInt8) : Nat :=
  match order with
  | .littleEndian => second.toNat * 0x100 + first.toNat
  | .bigEndian => first.toNat * 0x100 + second.toNat

def isHigh (unit : Nat) : Bool := 0xD800 ≤ unit && unit < 0xDC00

def isLow (unit : Nat) : Bool := 0xDC00 ≤ unit && unit < 0xE000

def pair (high low : Nat) : Char := Char.ofNat (0x10000 + (high - 0xD800) * 0x400 + (low - 0xDC00))

/-- Reads the second half of a pair. A unit that is none stays; a byte alone at the end belongs to the
    error of the first half. -/
def readLow (order : Order) (high : Nat) : Bytes → Text × Bytes
  | a :: b :: bytes =>
    if isLow (order.unit a b) then ([pair high (order.unit a b)], bytes)
    else ([replacement], a :: b :: bytes)
  | _ => ([replacement], [])

/-- Reads one character, one half of a pair that stands alone, or a last odd byte. -/
def read (order : Order) (a : UInt8) : Bytes → Text × Bytes
  | [] => ([replacement], [])
  | b :: bytes =>
    if isHigh (order.unit a b) then readLow order (order.unit a b) bytes
    else if isLow (order.unit a b) then ([replacement], bytes)
    else ([Char.ofNat (order.unit a b)], bytes)

theorem readLow_rest_le (order : Order) (high : Nat) (bytes : Bytes) :
    (readLow order high bytes).2.length ≤ bytes.length := by
  unfold readLow
  split
  · split
    · simp only [List.length_cons]; omega
    · exact Nat.le_refl _
  · exact Nat.zero_le _

def decoder (order : Order) : Decoder Unit := .stateless (read order) (by
  intro a bytes
  unfold read
  split
  · exact Nat.le_refl _
  · split
    · exact Nat.le_succ_of_le (readLow_rest_le _ _ _)
    · split <;> exact Nat.le_succ _)

end HtmlReflow.Utf16
