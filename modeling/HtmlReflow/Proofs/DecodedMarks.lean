import HtmlReflow.Proofs.MarkBytes
import Mathlib.Tactic.Ring

namespace HtmlReflow

variable {b : UInt8} {bytes : Bytes} {n : Nat} {c : Char}

theorem notAscii_high (notAscii : ¬ b < 0x80) : 0x80 ≤ b.toNat :=
  UInt8.le_iff_toNat_le.mp (UInt8.not_lt.mp notAscii)

theorem faithful_replaced (notAscii : ¬ b < 0x80) (bytes : Bytes) :
    Faithful (b :: bytes) [replacement] bytes :=
  (faithful_of_high high_replacement rfl).cons (Nat.le_trans (by decide) (notAscii_high notAscii))

theorem high_of_beyondAscii (high : 0x80 ≤ c.toNat) : High [c] :=
  high_singleton (Nat.le_trans (by decide) high)

theorem Chart.high_map {chart : Chart} {row column : Nat} {chars : Text}
    (found : (chart.char? row column).map ([·]) = some chars) : High chars := by
  obtain ⟨c, at_place, rfl⟩ := Option.map_eq_some_iff.mp found
  exact high_of_beyondAscii (Chart.le_of_char? at_place)

namespace CodePage

theorem highScalar_upper (page : CodePage) :
    ∀ n ∈ page.upper.toList, 0x40 ≤ n ∧ (n < 0xD800 ∨ 0xE000 ≤ n ∧ n < 0x110000) := by
  cases page <;> decide +kernel

theorem high_char (page : CodePage) (notAscii : ¬ b < 0x80) : High [page.char b] := by
  rw [char, if_neg notAscii]
  apply HighScalar.high
  have bound := b.toNat_lt
  have inside : b.toNat - 0x80 < page.upper.size := by
    rw [size_upper]
    omega
  rw [Array.getD_eq_getD_getElem?, Array.getElem?_eq_getElem inside, Option.getD_some]
  exact page.highScalar_upper _ (Array.getElem_mem_toList inside)

theorem keepsMarks (page : CodePage) : page.decoder.KeepsMarks := by
  intro _ b bytes
  show Faithful (b :: bytes) [page.char b] bytes
  by_cases ascii : b < 0x80
  · rw [char, if_pos ascii]
    exact faithful_ascii ascii bytes
  · have above := notAscii_high ascii
    exact (faithful_of_high (page.high_char ascii) rfl).cons (by omega)

end CodePage

theorem Encoding.keepsMarks_userDefined : userDefinedDecoder.KeepsMarks := by
  intro _ b bytes
  show Faithful (b :: bytes) [userDefinedChar b] bytes
  by_cases ascii : b < 0x80
  · rw [userDefinedChar, if_pos ascii]
    exact faithful_ascii ascii bytes
  · have above := notAscii_high ascii
    have bound := b.toNat_lt
    rw [userDefinedChar, if_neg ascii]
    refine (faithful_of_high (HighScalar.high ⟨?_, ?_⟩) rfl).cons (by omega)
    · omega
    · omega

namespace Utf8

/-- With `count` bytes to come, whatever they add to the bits is the number of a character. -/
def Spans (bits count : Nat) : Prop := ∀ n < 0x40 ^ count, HighScalar (bits * 0x40 ^ count + n)

theorem Spans.next {bits count : Nat} (spans : Spans bits (count + 1)) (n : Nat) :
    Spans (bits * 0x40 + n % 0x40) count := by
  intro k bound
  have low : n % 0x40 * 0x40 ^ count + k < 0x40 ^ (count + 1) := by
    have digit : n % 0x40 + 1 ≤ 0x40 := Nat.mod_lt n (by decide)
    calc n % 0x40 * 0x40 ^ count + k < (n % 0x40 + 1) * 0x40 ^ count := by
          rw [Nat.add_one_mul]
          omega
      _ ≤ 0x40 * 0x40 ^ count := Nat.mul_le_mul_right _ digit
      _ = 0x40 ^ (count + 1) := by rw [Nat.pow_succ, Nat.mul_comm]
  have whole : (bits * 0x40 + n % 0x40) * 0x40 ^ count + k =
      bits * 0x40 ^ (count + 1) + (n % 0x40 * 0x40 ^ count + k) := by
    rw [Nat.pow_succ]
    ring
  rw [whole]
  exact spans _ low

theorem Spans.readTail {bits count : Nat} (spans : Spans bits count) (bytes : Bytes) :
    Faithful bytes (readTail bits count 0x80 0xBF bytes).1 (readTail bits count 0x80 0xBF bytes).2 := by
  induction count generalizing bits bytes with
  | zero =>
    have here := spans 0 (by decide)
    rw [Nat.pow_zero, Nat.mul_one, Nat.add_zero] at here
    exact faithful_of_high here.high rfl
  | succ count ih =>
    cases bytes with
    | nil => exact faithful_of_high high_replacement rfl
    | cons b bytes =>
      rw [HtmlReflow.Utf8.readTail]
      split
      · rename_i inside
        have above := UInt8.le_iff_toNat_le.mp inside.1
        exact (ih (spans.next b.toNat) bytes).cons (Nat.le_trans (by decide) above)
      · exact faithful_of_high high_replacement rfl

/-- What a lead byte promises is a character, whichever bytes keep to the bounds. -/
structure Lead.Sound (lead : Lead) : Prop where
  some : lead.count ≠ 0
  low : 0x80 ≤ lead.least.toNat
  spans : ∀ n, lead.least.toNat ≤ n → n ≤ lead.greatest.toNat →
    Spans (lead.bits * 0x40 + n % 0x40) (lead.count - 1)

/-- The sequences of a lead byte are numbered without a gap, so the first and the last decide. -/
theorem Lead.sound_of_ends {count bits : Nat} {least greatest : UInt8}
    (low : 0x80 ≤ least.toNat) (high : greatest.toNat < 0xC0)
    (first : 0x40 ≤ (bits * 0x40 + (least.toNat - 0x80)) * 0x40 ^ count)
    (scalar : (bits * 0x40 + (greatest.toNat - 0x80) + 1) * 0x40 ^ count ≤ 0xD800 ∨
      0xE000 ≤ (bits * 0x40 + (least.toNat - 0x80)) * 0x40 ^ count ∧
        (bits * 0x40 + (greatest.toNat - 0x80) + 1) * 0x40 ^ count ≤ 0x110000) :
    Lead.Sound ⟨count + 1, least, greatest, bits⟩ := by
  refine ⟨Nat.succ_ne_zero count, low, ?_⟩
  dsimp only
  rw [Nat.add_sub_cancel]
  intro n above below k small
  have digit : n % 0x40 = n - 0x80 := by omega
  rw [digit]
  have from_first : (bits * 0x40 + (least.toNat - 0x80)) * 0x40 ^ count ≤
      (bits * 0x40 + (n - 0x80)) * 0x40 ^ count :=
    Nat.mul_le_mul_right _ (by omega)
  have to_last : (bits * 0x40 + (n - 0x80) + 1) * 0x40 ^ count ≤
      (bits * 0x40 + (greatest.toNat - 0x80) + 1) * 0x40 ^ count :=
    Nat.mul_le_mul_right _ (by omega)
  rw [Nat.add_one_mul] at to_last
  constructor
  · omega
  · omega

theorem lead?_sound {lead : Lead} (found : lead? b = some lead) : lead.Sound := by
  unfold lead? at found
  simp only [UInt8.le_iff_toNat_le, ← UInt8.toNat_inj, UInt8.reduceToNat] at found
  repeat' split at found
  all_goals cases found
  all_goals
    apply Lead.sound_of_ends (by decide) (by decide)
    · simp only [UInt8.reduceToNat]
      omega
    · simp only [UInt8.reduceToNat]
      omega

theorem Lead.Sound.readTail {lead : Lead} (sound : lead.Sound) (bytes : Bytes) :
    Faithful bytes (readTail lead.bits lead.count lead.least lead.greatest bytes).1
      (readTail lead.bits lead.count lead.least lead.greatest bytes).2 := by
  obtain ⟨count, count_eq⟩ := Nat.exists_eq_succ_of_ne_zero sound.some
  have spans := sound.spans
  rw [count_eq, Nat.succ_sub_one] at spans
  rw [count_eq]
  cases bytes with
  | nil => exact faithful_of_high high_replacement rfl
  | cons b bytes =>
    rw [HtmlReflow.Utf8.readTail]
    split
    · rename_i inside
      have above := UInt8.le_iff_toNat_le.mp inside.1
      have low := sound.low
      have here := spans b.toNat above (UInt8.le_iff_toNat_le.mp inside.2)
      exact (here.readTail bytes).cons (by omega)
    · exact faithful_of_high high_replacement rfl

theorem keepsMarks : decoder.KeepsMarks := by
  intro _ b bytes
  show Faithful (b :: bytes) (read b bytes).1 (read b bytes).2
  unfold read
  split
  · rename_i ascii
    exact faithful_ascii ascii bytes
  · rename_i notAscii
    have above := notAscii_high notAscii
    split
    · rename_i found
      exact ((lead?_sound found).readTail bytes).cons (by omega)
    · exact faithful_replaced notAscii bytes

end Utf8

/-- A lead byte is no mark, so a pair has the marks that its second byte has. -/
theorem HighPairs.faithful {chars? : UInt8 → Option Text} (pairs : HighPairs chars?)
    (notAscii : ¬ b < 0x80) (bytes : Bytes) :
    Faithful (b :: bytes) (HtmlReflow.readTrail chars? bytes).1 (HtmlReflow.readTrail chars? bytes).2 := by
  have above := notAscii_high notAscii
  exact (pairs.readTrail bytes).cons (by omega)

/-- The second bytes of pairs lie in two ranges, the lower one from `@` on. -/
theorem high_of_column {trail last least greatest : UInt8} {x y column : Nat}
    (low : 0x40 ≤ least.toNat)
    (found : (if 0x40 ≤ trail ∧ trail ≤ last then some x
      else if least ≤ trail ∧ trail ≤ greatest then some y else none) = some column) :
    0x40 ≤ trail.toNat := by
  simp only [UInt8.le_iff_toNat_le] at found
  split at found
  · rename_i inside
    exact inside.1
  · split at found
    · rename_i inside
      exact Nat.le_trans low inside.1
    · cases found

namespace Korean

theorem highPairs (lead : UInt8) : HighPairs (char? lead) := by
  intro trail chars found
  unfold char? at found
  split at found
  · rename_i inside
    have above := UInt8.le_iff_toNat_le.mp inside.1
    exact ⟨Nat.le_trans (by decide) above, Chart.high_map found⟩
  · cases found

theorem keepsMarks : decoder.KeepsMarks := by
  intro _ b bytes
  show Faithful (b :: bytes) (read b bytes).1 (read b bytes).2
  unfold read
  split
  · rename_i ascii
    exact faithful_ascii ascii bytes
  · rename_i notAscii
    split
    · exact (highPairs b).faithful notAscii bytes
    · exact faithful_replaced notAscii bytes

end Korean

namespace Big5

theorem composed?_high {lead trail : UInt8} {chars : Text} (found : composed? lead trail = some chars) :
    0x40 ≤ trail.toNat ∧ High chars := by
  unfold composed? at found
  repeat' split at found
  all_goals cases found
  all_goals
    rename_i trail_eq
    rw [trail_eq]
    exact ⟨by decide, by simp [High]⟩

theorem highPairs (lead : UInt8) : HighPairs (chars? lead) := by
  intro trail chars found
  unfold chars? at found
  split at found
  · rename_i composed
    cases found
    exact composed?_high composed
  · split at found
    · cases found
    · rename_i column
      exact ⟨high_of_column (by decide) column, Chart.high_map found⟩

theorem keepsMarks : decoder.KeepsMarks := by
  intro _ b bytes
  show Faithful (b :: bytes) (read b bytes).1 (read b bytes).2
  unfold read
  split
  · rename_i ascii
    exact faithful_ascii ascii bytes
  · rename_i notAscii
    split
    · exact (highPairs b).faithful notAscii bytes
    · exact faithful_replaced notAscii bytes

end Big5

namespace Jis

theorem high_halfKatakana (bound : n < 0x40) : High [halfKatakana n] := by
  apply HighScalar.high
  constructor
  · omega
  · omega

theorem high_privateUse {place : Nat} (found : privateUse? place = some c) : High [c] := by
  unfold privateUse? at found
  split at found
  · have scalar : HighScalar (0xE000 + (place - 8836)) := by
      constructor
      · omega
      · omega
    rw [← Option.some.inj found]
    exact scalar.high
  · cases found

theorem high_shiftPlace {place : Nat} (found : shiftPlace? place = some c) : High [c] := by
  unfold shiftPlace? at found
  split at found
  · rename_i own
    cases found
    exact high_privateUse own
  · exact high_of_beyondAscii (Chart.le_of_char? found)

theorem highPairs_shift (lead : UInt8) : HighPairs (shiftChar? lead) := by
  intro trail chars found
  unfold shiftChar? at found
  split at found
  · cases found
  · rename_i column
    obtain ⟨c, at_place, rfl⟩ := Option.map_eq_some_iff.mp found
    exact ⟨high_of_column (by decide) column, high_shiftPlace at_place⟩

theorem keepsMarks_shift : shiftDecoder.KeepsMarks := by
  intro _ b bytes
  show Faithful (b :: bytes) (readShift b bytes).1 (readShift b bytes).2
  unfold readShift
  by_cases ascii : b < 0x80
  · rw [if_pos (UInt8.le_of_lt ascii)]
    exact faithful_ascii ascii bytes
  · have above := notAscii_high ascii
    have bound := b.toNat_lt
    split
    · refine (faithful_of_high (HighScalar.high ⟨?_, ?_⟩) rfl).cons (by omega)
      · omega
      · omega
    · split
      · rename_i inside
        have first := UInt8.le_iff_toNat_le.mp inside.1
        have last : b.toNat ≤ 0xDF := UInt8.le_iff_toNat_le.mp inside.2
        exact (faithful_of_high (high_halfKatakana (by omega)) rfl).cons (by omega)
      · split
        · exact (highPairs_shift b).faithful ascii bytes
        · exact faithful_replaced ascii bytes

theorem isEucHalf_high (half : isEucHalf b = true) : 0xA1 ≤ b.toNat := by
  rw [isEucHalf, Bool.and_eq_true, decide_eq_true_eq] at half
  exact UInt8.le_iff_toNat_le.mp half.1

theorem highPairs_euc (chart : Chart) (lead : UInt8) : HighPairs (eucChar? chart lead) := by
  intro trail chars found
  unfold eucChar? at found
  split at found
  · rename_i halves
    have above := isEucHalf_high (Bool.and_eq_true_iff.mp halves).2
    exact ⟨by omega, Chart.high_map found⟩
  · cases found

theorem highPairs_katakana : HighPairs eucKatakana? := by
  intro trail chars found
  unfold eucKatakana? at found
  split at found
  · rename_i inside
    have first : 0xA1 ≤ trail.toNat := UInt8.le_iff_toNat_le.mp inside.1
    have last : trail.toNat ≤ 0xDF := UInt8.le_iff_toNat_le.mp inside.2
    cases found
    exact ⟨by omega, high_halfKatakana (by omega)⟩
  · cases found

theorem faithful_supplement (bytes : Bytes) :
    Faithful bytes (readSupplement bytes).1 (readSupplement bytes).2 := by
  unfold readSupplement
  split
  · split
    · rename_i half
      have above := isEucHalf_high half
      exact ((highPairs_euc supplement _).readTrail _).cons (by omega)
    · exact highPairs_none.readTrail _
  · exact highPairs_none.readTrail []

theorem keepsMarks_euc : eucDecoder.KeepsMarks := by
  intro _ b bytes
  show Faithful (b :: bytes) (readEuc b bytes).1 (readEuc b bytes).2
  unfold readEuc
  split
  · rename_i ascii
    exact faithful_ascii ascii bytes
  · rename_i notAscii
    have above := notAscii_high notAscii
    repeat' split
    · exact highPairs_katakana.faithful notAscii bytes
    · exact (faithful_supplement bytes).cons (by omega)
    · exact (highPairs_euc chart b).faithful notAscii bytes
    · exact faithful_replaced notAscii bytes

end Jis

namespace Gb18030

variable {a : UInt8}

theorem high_place {row column : Nat} (found : place? row column = some c) : High [c] := by
  unfold place? at found
  split at found
  · rename_i own
    cases found
    exact high_of_beyondAscii (Index.le_of_char? privateIndex_beyondAscii own)
  · exact high_of_beyondAscii (Chart.le_of_char? found)

theorem highPairs (lead : UInt8) : HighPairs (char? lead) := by
  intro trail chars found
  unfold char? at found
  split at found
  · cases found
  · rename_i column
    obtain ⟨c, at_place, rfl⟩ := Option.map_eq_some_iff.mp found
    exact ⟨high_of_column (by decide) column, high_place at_place⟩

theorem high_fourByteChar (a b c d : UInt8) : High [fourByteChar a b c d] := by
  unfold fourByteChar
  cases found : fourByteIndex.char? (fourBytePointer a b c d) with
  | none => exact high_replacement
  | some c => exact high_of_beyondAscii (Index.le_of_char? fourByteIndex_beyondAscii found)

theorem markBytes_cons_digit (digit : isDigit b = true) : markBytes (b :: bytes) = markBytes bytes := by
  rw [isDigit, Bool.and_eq_true, decide_eq_true_eq, decide_eq_true_eq] at digit
  exact markBytes_cons_of_not
    (isMarkCode_of_digit (UInt8.le_iff_toNat_le.mp digit.1) (UInt8.le_iff_toNat_le.mp digit.2))

theorem markBytes_cons_lead (lead : isLead b = true) : markBytes (b :: bytes) = markBytes bytes := by
  rw [isLead, Bool.and_eq_true, decide_eq_true_eq] at lead
  exact markBytes_cons_of_high (Nat.le_trans (by decide) (UInt8.le_iff_toNat_le.mp lead.1))

/-- What breaks off is given back but for the first byte; what is taken are digits and lead bytes, none of
    them a mark. -/
theorem faithful_four (digit : isDigit b = true) (bytes : Bytes) :
    Faithful (b :: bytes) (readFour a b bytes).1 (readFour a b bytes).2 := by
  unfold readFour
  split
  · exact faithful_of_high high_replacement (markBytes_cons_digit digit).symm
  · split
    · rename_i lead
      split
      · apply faithful_of_high high_replacement
        rw [markBytes_cons_digit digit, markBytes_cons_lead lead]
      · split
        · rename_i last
          apply faithful_of_high (high_fourByteChar _ _ _ _)
          rw [markBytes_cons_digit digit, markBytes_cons_lead lead, markBytes_cons_digit last]
        · exact faithful_of_high high_replacement rfl
    · exact faithful_of_high high_replacement rfl

theorem keepsMarks : decoder.KeepsMarks := by
  intro _ a bytes
  show Faithful (a :: bytes) (read a bytes).1 (read a bytes).2
  unfold read
  split
  · rename_i ascii
    exact faithful_ascii ascii bytes
  · rename_i notAscii
    have above := notAscii_high notAscii
    split
    · exact (faithful_of_high (high_singleton (by decide)) rfl).cons (by omega)
    · split
      · split
        · exact (faithful_of_high high_replacement rfl).cons (by omega)
        · split
          · rename_i digit
            exact (faithful_four digit _).cons (by omega)
          · exact (highPairs a).faithful notAscii _
      · exact faithful_replaced notAscii bytes

end Gb18030

namespace Encoding

/-- Encodings in which a mark is the byte of its number and that byte is nothing else. -/
def Direct (e : Encoding) : Prop := (∀ order, e ≠ .utf16 order) ∧ e ≠ .refused ∧ e ≠ .iso2022Jp

theorem Direct.markCodes_decodeBody {e : Encoding} (direct : e.Direct) (bytes : Bytes) :
    markCodes (e.decodeBody bytes) = markBytes bytes := by
  cases e with
  | utf8 => exact Utf8.keepsMarks.run _ bytes
  | utf16 order => exact absurd rfl (direct.1 order)
  | codePage page => exact page.keepsMarks.run _ bytes
  | userDefined => exact keepsMarks_userDefined.run _ bytes
  | refused => exact absurd rfl direct.2.1
  | big5 => exact Big5.keepsMarks.run _ bytes
  | eucJp => exact Jis.keepsMarks_euc.run _ bytes
  | eucKr => exact Korean.keepsMarks.run _ bytes
  | gb18030 => exact Gb18030.keepsMarks.run _ bytes
  | gbk => exact Gb18030.keepsMarks.run _ bytes
  | iso2022Jp => exact absurd rfl direct.2.2
  | shiftJis => exact Jis.keepsMarks_shift.run _ bytes

theorem Direct.markCodes_decode {e : Encoding} (direct : e.Direct) (unmarked : ofMark? bytes = none) :
    markCodes (e.decode bytes) = markBytes bytes := by
  rw [decode, unmarked]
  exact direct.markCodes_decodeBody bytes

end Encoding

namespace Document

/-- Reading bytes without a byte order mark, however malformed, neither loses a mark nor makes one. -/
theorem marks_text {bytes : Bytes} (unmarked : Encoding.ofMark? bytes = none) :
    (∀ (label : Text) (e : Encoding), Encoding.ofLabel? (trim label) = some e → e.Direct →
      ∃ s, textAs label bytes = .ok s ∧ markCodes s = markBytes bytes) ∧
    ((encoding bytes).Direct → markCodes (text bytes) = markBytes bytes) := by
  constructor
  · intro label e known direct
    refine ⟨e.decode bytes, ?_, direct.markCodes_decode unmarked⟩
    rw [textAs, known]
  · intro direct
    exact direct.markCodes_decode unmarked

/-- Four bytes of GBK break off at the last, three of them read anew: the quote behind them stays. -/
def brokenOff : Bytes := [0x3C, 0x81, 0x30, 0x81, 0x22, 0xFF, 0x3E]

theorem marks_text_brokenOff :
    (∃ s, textAs "gbk".toList brokenOff = .ok s ∧ markCodes s = [0x3C, 0x22, 0x3E]) ∧
      markCodes (text brokenOff) = [0x3C, 0x22, 0x3E] := by
  have unmarked : Encoding.ofMark? brokenOff = none := by decide
  have known : Encoding.ofLabel? (trim "gbk".toList) = some .gbk := by decide +kernel
  have direct : Encoding.Direct .gbk := ⟨nofun, nofun, nofun⟩
  have detected : (encoding brokenOff).Direct := by
    have utf8 : encoding brokenOff = .utf8 := by decide +kernel
    rw [utf8]
    exact ⟨nofun, nofun, nofun⟩
  exact ⟨(marks_text unmarked).1 _ _ known direct, (marks_text unmarked).2 detected⟩

end Document
end HtmlReflow
