import HtmlReflow.Document
import HtmlReflow.Proofs.CodeUnits

namespace HtmlReflow

namespace Utf8

variable {b : UInt8} {bytes bytes' : Bytes}

theorem lead?_least {lead : Lead} (found : lead? b = some lead) : 0x80 ≤ lead.least := by
  unfold lead? at found
  repeat' split at found
  all_goals cases found
  all_goals dsimp only
  all_goals decide

theorem readTail_append {least : UInt8} (ascii : b < 0x80) (low : 0x80 ≤ least) (bits count : Nat)
    (greatest : UInt8) (bytes : Bytes) :
    readTail bits count least greatest (bytes ++ b :: bytes') =
      ((readTail bits count least greatest bytes).1,
        (readTail bits count least greatest bytes).2 ++ b :: bytes') := by
  induction count generalizing bits least greatest bytes with
  | zero => rw [readTail, readTail]
  | succ count ih =>
    cases bytes with
    | nil =>
      have refused : ¬ (least ≤ b ∧ b ≤ greatest) := by
        rintro ⟨above, _⟩
        exact absurd (UInt8.le_trans low above) (UInt8.not_le.mpr ascii)
      rw [List.nil_append, readTail, readTail, if_neg refused, List.nil_append]
    | cons d bytes =>
      rw [List.cons_append, readTail, readTail]
      split
      · exact ih (by decide) _ _ _
      · rfl

theorem read_append (ascii : b < 0x80) (d : UInt8) (bytes : Bytes) :
    read d (bytes ++ b :: bytes') = ((read d bytes).1, (read d bytes).2 ++ b :: bytes') := by
  unfold read
  split
  · rfl
  · split
    · rename_i found
      exact readTail_append ascii (lead?_least found) _ _ _ _
    · rfl

/-- An ASCII byte is part of no other character, and ends a sequence that is not complete. -/
theorem decode_append (ascii : b < 0x80) (bytes : Bytes) :
    decoder.decode (bytes ++ b :: bytes') = decoder.decode bytes ++ decoder.decode (b :: bytes') := by
  generalize size : bytes.length = n
  induction n using Nat.strongRecOn generalizing bytes with
  | ind n ih =>
    cases bytes with
    | nil => rw [List.nil_append, show decoder.decode [] = [] from decoder.run_nil _, List.nil_append]
    | cons d bytes =>
      have shorter : (read d bytes).2.length < n := by
        have bound : (read d bytes).2.length ≤ bytes.length := decoder.rest_le () d bytes
        rw [List.length_cons] at size
        omega
      have reading : read d bytes = ((read d bytes).1, (read d bytes).2) := rfl
      rw [List.cons_append, decoder, Decoder.decode_of_read (read_append ascii d bytes), ← decoder,
        ih _ shorter _ rfl, ← List.append_assoc, decoder, ← Decoder.decode_of_read reading]

theorem decode_ascii (ascii : ∀ b ∈ bytes, b < 0x80) :
    decoder.decode bytes = bytes.map fun b => Char.ofNat b.toNat := by
  induction bytes with
  | nil => exact decoder.run_nil _
  | cons b bytes ih =>
    have reading : read b bytes = ([Char.ofNat b.toNat], bytes) := if_pos (ascii b List.mem_cons_self)
    rw [decoder, Decoder.decode_of_read reading, ← decoder,
      ih fun d member => ascii d (List.mem_cons_of_mem b member)]
    rfl

theorem encode_toList (s : String) : encode s.toList = s.toByteArray.data.toList := by
  rw [← String.utf8Encode_toList, List.utf8Encode, List.data_toByteArray]
  rfl

theorem decode_encode_append (s : Text) (bytes : Bytes) :
    decoder.decode (encode s ++ bytes) = s ++ decoder.decode bytes := by
  induction s with
  | nil => rfl
  | cons c s ih =>
    rw [encode, List.flatMap_cons, List.append_assoc, decode_utf8EncodeChar, ← encode, ih,
      List.cons_append]

end Utf8
end HtmlReflow
