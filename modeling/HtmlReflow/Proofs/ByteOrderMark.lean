import HtmlReflow.Document
import HtmlReflow.Proofs.CodeUnits

namespace HtmlReflow

/-- The encodings that hold every text and have a byte order mark. -/
inductive UnicodeForm where
  | utf8
  | utf16 (order : Utf16.Order)

namespace UnicodeForm

def encoding : UnicodeForm → Encoding
  | .utf8 => .utf8
  | .utf16 order => .utf16 order

def encode : UnicodeForm → Text → Bytes
  | .utf8 => Utf8.encode
  | .utf16 order => Utf16.encode order

def mark : UnicodeForm → Bytes
  | .utf8 => [0xEF, 0xBB, 0xBF]
  | .utf16 .littleEndian => [0xFF, 0xFE]
  | .utf16 .bigEndian => [0xFE, 0xFF]

variable (f : UnicodeForm) (e : Encoding) (s : Text)

theorem ofMark?_mark (bytes : Bytes) : Encoding.ofMark? (f.mark ++ bytes) = some (f.encoding, bytes) := by
  cases f with
  | utf8 => rfl
  | utf16 order => cases order <;> rfl

theorem decodeBody_encode : f.encoding.decodeBody (f.encode s) = s := by
  cases f with
  | utf8 => exact Utf8.decode_encode s
  | utf16 order => exact Utf16.decode_encode s

/-- Whatever encoding is asked for, the mark decides, and it alone is taken off. -/
theorem decode_marked : e.decode (f.mark ++ f.encode s) = s := by
  rw [Encoding.decode, ofMark?_mark]
  exact f.decodeBody_encode s

end UnicodeForm

variable {s : Text} {bytes : Bytes}

/-- No character has a sequence that starts with one of the two highest bytes. -/
theorem encode_ne_of_high {b : UInt8} (high : b = 0xFE ∨ b = 0xFF) : Utf8.encode s ≠ b :: bytes := by
  intro same
  have reading : Utf8.read b bytes = ([replacement], bytes) := by
    rcases high with rfl | rfl <;> rfl
  have back := Utf8.decode_encode s
  rw [same, Utf8.decoder, Decoder.decode_of_read reading] at back
  rw [← back] at same
  have first : b = 0xEF := (List.cons.inj same).1.symm
  rcases high with rfl | rfl <;> cases first

theorem head?_eq_of_encode (same : Utf8.encode s = 0xEF :: 0xBB :: 0xBF :: bytes) :
    s.head? = some '\uFEFF' := by
  have reading : Utf8.read 0xEF (0xBB :: 0xBF :: bytes) = (['\uFEFF'], bytes) := rfl
  have back := Utf8.decode_encode s
  rw [same, Utf8.decoder, Decoder.decode_of_read reading] at back
  rw [← back]
  rfl

theorem ofMark?_encode (unmarked : s.head? ≠ some '\uFEFF') : Encoding.ofMark? (Utf8.encode s) = none := by
  unfold Encoding.ofMark?
  split
  · rename_i same
    exact absurd (head?_eq_of_encode same) unmarked
  · rename_i same
    exact absurd same (encode_ne_of_high (.inr rfl))
  · rename_i same
    exact absurd same (encode_ne_of_high (.inl rfl))
  · rfl

theorem text_encode (unmarked : s.head? ≠ some '\uFEFF')
    (detected : Document.encoding (Utf8.encode s) = .utf8) : Document.text (Utf8.encode s) = s := by
  rw [Document.text, detected, Encoding.decode, ofMark?_encode unmarked]
  exact Utf8.decode_encode s

/-- Reading undoes writing. Behind a byte order mark a text comes back whatever its bytes seem to
    declare and whatever known label is asked for; without a mark it does where UTF-8 is detected, and
    then it is what the two transformations start from. -/
theorem text_of_written :
    (∀ (f : UnicodeForm) (s : Text), Document.text (f.mark ++ f.encode s) = s ∧
      ∀ (label : Text) (e : Encoding), Encoding.ofLabel? (trim label) = some e →
        Document.textAs label (f.mark ++ f.encode s) = .ok s) ∧
    ∀ s : Text, s.head? ≠ some '\uFEFF' → Document.encoding (Utf8.encode s) = .utf8 →
      Document.text (Utf8.encode s) = s ∧
      Document.minified (Utf8.encode s) = minify {} s ∧
      Document.expanded (Utf8.encode s) = expand {} s := by
  constructor
  · intro f s
    refine ⟨f.decode_marked _ s, ?_⟩
    intro label e known
    rw [Document.textAs, known]
    exact congrArg Except.ok (f.decode_marked e s)
  · intro s unmarked detected
    have back := text_encode unmarked detected
    refine ⟨back, ?_, ?_⟩
    · rw [Document.minified, back]
    · rw [Document.expanded, back]

/-- A text that starts with a mark of its own and declares an encoding that it is not written in. -/
def misdeclared : Text := "\uFEFF<meta charset=latin1>😀".toList

theorem text_of_written_misdeclared :
    Document.textAs " SJIS\u00A0".toList ([0xFE, 0xFF] ++ Utf16.encode .bigEndian misdeclared) =
        .ok misdeclared ∧
      Document.text ([0xEF, 0xBB, 0xBF] ++ Utf8.encode misdeclared) = misdeclared ∧
      Document.text (Utf8.encode ['a', '\u20AC', '\uFEFF']) = ['a', '\u20AC', '\uFEFF'] := by
  have known : Encoding.ofLabel? (trim " SJIS\u00A0".toList) = some .shiftJis := by decide +kernel
  have detected : Document.encoding (Utf8.encode ['a', '\u20AC', '\uFEFF']) = .utf8 := by decide +kernel
  exact ⟨(text_of_written.1 (.utf16 .bigEndian) misdeclared).2 _ _ known,
    (text_of_written.1 .utf8 misdeclared).1, (text_of_written.2 _ (by decide) detected).1⟩

end HtmlReflow
