import HtmlReflow.Encoding.Utf16
import HtmlReflow.Encoding.Utf8
import Mathlib.Tactic.IntervalCases

namespace HtmlReflow

theorem toNat_byte {n : Nat} (bound : n < 0x100) : (UInt8.ofNat n).toNat = n := by
  rw [UInt8.toNat_ofNat']
  exact Nat.mod_eq_of_lt bound

theorem scalar_cases (c : Char) : c.toNat < 0xD800 ∨ 0xDFFF < c.toNat ∧ c.toNat < 0x110000 :=
  c.valid

theorem Decoder.decode_of_read {read : UInt8 → Bytes → Text × Bytes}
    {rest_le : ∀ b bytes, (read b bytes).2.length ≤ bytes.length} {b : UInt8} {bytes rest : Bytes}
    {chars : Text} (h : read b bytes = (chars, rest)) :
    (Decoder.stateless read rest_le).decode (b :: bytes) =
      chars ++ (Decoder.stateless read rest_le).decode rest := by
  rw [Decoder.decode, Decoder.run_cons]
  simp only [Decoder.stateless, h]
  rfl

namespace Utf8

variable {bits count n : Nat} {least greatest : UInt8} {rest : Bytes}

theorem lead?_two (low : 2 ≤ n) (high : n < 0x20) :
    lead? (UInt8.ofNat (n + 0xC0)) = some ⟨1, 0x80, 0xBF, n⟩ := by
  interval_cases n <;> rfl

/-- Three bytes hold no number that fits into two, and no surrogate. -/
theorem lead?_three (high : n < 0x10) :
    lead? (UInt8.ofNat (n + 0xE0)) =
      some ⟨2, if n = 0 then 0xA0 else 0x80, if n = 13 then 0x9F else 0xBF, n⟩ := by
  interval_cases n <;> rfl

/-- Four bytes hold no number that fits into three, and none beyond the last character. -/
theorem lead?_four (high : n < 5) :
    lead? (UInt8.ofNat (n + 0xF0)) =
      some ⟨3, if n = 0 then 0x90 else 0x80, if n = 4 then 0x8F else 0xBF, n⟩ := by
  interval_cases n <;> rfl

/-- The bits of a lead byte stand below a mark that no ASCII byte has. -/
theorem read_of_lead {lead : Lead} {mark : Nat} (found : lead? (UInt8.ofNat (n + mark)) = some lead)
    (low : 0x80 ≤ mark) (high : n + mark < 0x100) :
    read (UInt8.ofNat (n + mark)) rest = readTail lead.bits lead.count lead.least lead.greatest rest := by
  have notAscii : ¬ UInt8.ofNat (n + mark) < 0x80 := by
    rw [UInt8.lt_iff_toNat_lt, toNat_byte high]
    show ¬ n + mark < 0x80
    omega
  rw [read, if_neg notAscii, found]

theorem readTail_continued (low : least.toNat ≤ n % 0x40 + 0x80)
    (high : n % 0x40 + 0x80 ≤ greatest.toNat) :
    readTail bits (count + 1) least greatest (UInt8.ofNat (n % 0x40 + 0x80) :: rest) =
      readTail (bits * 0x40 + n % 0x40) count 0x80 0xBF rest := by
  have value : (UInt8.ofNat (n % 0x40 + 0x80)).toNat = n % 0x40 + 0x80 := toNat_byte (by omega)
  have carried : (n % 0x40 + 0x80) % 0x40 = n % 0x40 := by omega
  rw [readTail, if_pos, value, carried]
  rw [UInt8.le_iff_toNat_le, UInt8.le_iff_toNat_le, value]
  exact ⟨low, high⟩

theorem readTail_open : readTail bits (count + 1) 0x80 0xBF (UInt8.ofNat (n % 0x40 + 0x80) :: rest) =
    readTail (bits * 0x40 + n % 0x40) count 0x80 0xBF rest :=
  readTail_continued (show 0x80 ≤ _ by omega) (show _ ≤ 0xBF by omega)

theorem readTail_last : readTail bits 0 least greatest rest = ([Char.ofNat bits], rest) := by
  rw [readTail]

theorem read_one (high : n < 0x80) : read (UInt8.ofNat n) rest = ([Char.ofNat n], rest) := by
  have value : (UInt8.ofNat n).toNat = n := toNat_byte (by omega)
  rw [read, if_pos, value]
  rw [UInt8.lt_iff_toNat_lt, value]
  exact high

theorem read_two (low : 0x80 ≤ n) (high : n < 0x800) :
    read (UInt8.ofNat (n / 64 % 32 + 0xC0)) (UInt8.ofNat (n % 64 + 0x80) :: rest) =
      ([Char.ofNat n], rest) := by
  have whole : n / 64 % 32 * 0x40 + n % 0x40 = n := by omega
  rw [read_of_lead (lead?_two (by omega) (by omega)) (by decide) (by omega), readTail_open, readTail_last, whole]

theorem read_three (low : 0x800 ≤ n) (high : n < 0x10000) (scalar : n < 0xD800 ∨ 0xDFFF < n) :
    read (UInt8.ofNat (n / 4096 % 16 + 0xE0))
        (UInt8.ofNat (n / 64 % 64 + 0x80) :: UInt8.ofNat (n % 64 + 0x80) :: rest) =
      ([Char.ofNat n], rest) := by
  have whole : (n / 4096 % 16 * 0x40 + n / 64 % 0x40) * 0x40 + n % 0x40 = n := by omega
  rw [read_of_lead (lead?_three (by omega)) (by decide) (by omega), readTail_continued, readTail_open,
    readTail_last, whole]
  · dsimp only
    split
    · show 0xA0 ≤ _
      omega
    · show 0x80 ≤ _
      omega
  · dsimp only
    split
    · show _ ≤ 0x9F
      omega
    · show _ ≤ 0xBF
      omega

theorem read_four (low : 0x10000 ≤ n) (high : n < 0x110000) :
    read (UInt8.ofNat (n / 262144 % 8 + 0xF0)) (UInt8.ofNat (n / 4096 % 64 + 0x80) ::
        UInt8.ofNat (n / 64 % 64 + 0x80) :: UInt8.ofNat (n % 64 + 0x80) :: rest) =
      ([Char.ofNat n], rest) := by
  have whole : ((n / 262144 % 8 * 0x40 + n / 4096 % 0x40) * 0x40 + n / 64 % 0x40) * 0x40 + n % 0x40 =
      n := by omega
  rw [read_of_lead (lead?_four (by omega)) (by decide) (by omega), readTail_continued, readTail_open,
    readTail_open, readTail_last, whole]
  · dsimp only
    split
    · show 0x90 ≤ _
      omega
    · show 0x80 ≤ _
      omega
  · dsimp only
    split
    · show _ ≤ 0x8F
      omega
    · show _ ≤ 0xBF
      omega

/-- A character is read back from its bytes, whatever stands behind them. -/
theorem decode_utf8EncodeChar (c : Char) (rest : Bytes) :
    decoder.decode (String.utf8EncodeChar c ++ rest) = c :: decoder.decode rest := by
  have range := scalar_cases c
  have back : [c] = [Char.ofNat c.toNat] := by rw [Char.ofNat_toNat]
  rw [← List.singleton_append, back]
  by_cases one : c.toNat ≤ 0x7F
  · have bytes : String.utf8EncodeChar c = [UInt8.ofNat c.toNat] := if_pos one
    rw [bytes]
    exact Decoder.decode_of_read (read_one (by omega))
  by_cases two : c.toNat ≤ 0x7FF
  · have bytes : String.utf8EncodeChar c =
        [UInt8.ofNat (c.toNat / 64 % 32 + 0xC0), UInt8.ofNat (c.toNat % 64 + 0x80)] :=
      (if_neg one).trans (if_pos two)
    rw [bytes]
    exact Decoder.decode_of_read (read_two (by omega) (by omega))
  by_cases three : c.toNat ≤ 0xFFFF
  · have bytes : String.utf8EncodeChar c = [UInt8.ofNat (c.toNat / 4096 % 16 + 0xE0),
        UInt8.ofNat (c.toNat / 64 % 64 + 0x80), UInt8.ofNat (c.toNat % 64 + 0x80)] :=
      (if_neg one).trans ((if_neg two).trans (if_pos three))
    rw [bytes]
    exact Decoder.decode_of_read (read_three (by omega) (by omega) (by omega))
  · have bytes : String.utf8EncodeChar c = [UInt8.ofNat (c.toNat / 262144 % 8 + 0xF0),
        UInt8.ofNat (c.toNat / 4096 % 64 + 0x80), UInt8.ofNat (c.toNat / 64 % 64 + 0x80),
        UInt8.ofNat (c.toNat % 64 + 0x80)] :=
      (if_neg one).trans ((if_neg two).trans (if_neg three))
    rw [bytes]
    exact Decoder.decode_of_read (read_four (by omega) (by omega))

theorem decode_encode (s : Text) : decoder.decode (encode s) = s := by
  induction s with
  | nil => exact decoder.run_nil _
  | cons c s ih => rw [encode, List.flatMap_cons, decode_utf8EncodeChar, ← encode, ih]

end Utf8

namespace Utf16

variable {order : Order} {n : Nat}

/-- The two bytes of a unit. -/
def unitBytes (order : Order) (unit : Nat) : Bytes :=
  match order with
  | .littleEndian => [UInt8.ofNat (unit % 0x100), UInt8.ofNat (unit / 0x100)]
  | .bigEndian => [UInt8.ofNat (unit / 0x100), UInt8.ofNat (unit % 0x100)]

/-- A character of the basic plane is one unit; any other is a pair of ten bits each. -/
def encodeChar (order : Order) (c : Char) : Bytes :=
  if c.toNat < 0x10000 then unitBytes order c.toNat
  else
    unitBytes order (0xD800 + (c.toNat - 0x10000) / 0x400) ++
      unitBytes order (0xDC00 + (c.toNat - 0x10000) % 0x400)

def encode (order : Order) (s : Text) : Bytes := s.flatMap (encodeChar order)

theorem exists_unitBytes (order : Order) (bound : n < 0x10000) :
    ∃ a b, unitBytes order n = [a, b] ∧ order.unit a b = n := by
  cases order with
  | littleEndian =>
    refine ⟨_, _, rfl, ?_⟩
    rw [Order.unit, toNat_byte (by omega), toNat_byte (by omega)]
    omega
  | bigEndian =>
    refine ⟨_, _, rfl, ?_⟩
    rw [Order.unit, toNat_byte (by omega), toNat_byte (by omega)]
    omega

theorem isHigh_iff : isHigh n = true ↔ 0xD800 ≤ n ∧ n < 0xDC00 := by
  simp [isHigh]

theorem isLow_iff : isLow n = true ↔ 0xDC00 ≤ n ∧ n < 0xE000 := by
  simp [isLow]

theorem read_unit {a b : UInt8} {rest : Bytes} (scalar : order.unit a b < 0xD800 ∨ 0xDFFF < order.unit a b) :
    read order a (b :: rest) = ([Char.ofNat (order.unit a b)], rest) := by
  have notHigh : ¬ isHigh (order.unit a b) = true := by
    rw [isHigh_iff]
    omega
  have notLow : ¬ isLow (order.unit a b) = true := by
    rw [isLow_iff]
    omega
  rw [read, if_neg notHigh, if_neg notLow]

theorem read_pair {a b c d : UInt8} {rest : Bytes} (low : 0x10000 ≤ n) (high : n < 0x110000)
    (first : order.unit a b = 0xD800 + (n - 0x10000) / 0x400)
    (second : order.unit c d = 0xDC00 + (n - 0x10000) % 0x400) :
    read order a (b :: c :: d :: rest) = ([Char.ofNat n], rest) := by
  have isFirst : isHigh (order.unit a b) = true := by
    rw [isHigh_iff]
    omega
  have isSecond : isLow (order.unit c d) = true := by
    rw [isLow_iff]
    omega
  have whole : 0x10000 + (order.unit a b - 0xD800) * 0x400 + (order.unit c d - 0xDC00) = n := by omega
  rw [read, if_pos isFirst, readLow, if_pos isSecond, pair, whole]

theorem decode_encodeChar (c : Char) (rest : Bytes) :
    (decoder order).decode (encodeChar order c ++ rest) = c :: (decoder order).decode rest := by
  have range := scalar_cases c
  have back : [c] = [Char.ofNat c.toNat] := by rw [Char.ofNat_toNat]
  rw [← List.singleton_append, back, encodeChar]
  by_cases basic : c.toNat < 0x10000
  · obtain ⟨a, b, bytes, unit⟩ := exists_unitBytes order basic
    have reading : read order a (b :: rest) = ([Char.ofNat c.toNat], rest) := by
      rw [read_unit (by omega), unit]
    rw [if_pos basic, bytes]
    exact Decoder.decode_of_read reading
  · obtain ⟨a, b, bytes, first⟩ :=
      exists_unitBytes order (n := 0xD800 + (c.toNat - 0x10000) / 0x400) (by omega)
    obtain ⟨d, e, bytes', second⟩ :=
      exists_unitBytes order (n := 0xDC00 + (c.toNat - 0x10000) % 0x400) (by omega)
    have reading : read order a (b :: d :: e :: rest) = ([Char.ofNat c.toNat], rest) :=
      read_pair (by omega) (by omega) first second
    rw [if_neg basic, bytes, bytes']
    exact Decoder.decode_of_read reading

theorem decode_encode (s : Text) : (decoder order).decode (encode order s) = s := by
  induction s with
  | nil => exact (decoder order).run_nil _
  | cons c s ih => rw [encode, List.flatMap_cons, decode_encodeChar, ← encode, ih]

end Utf16
end HtmlReflow
