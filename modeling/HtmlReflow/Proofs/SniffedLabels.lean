import HtmlReflow.Proofs.DeclaredEncoding
import HtmlReflow.Proofs.UnfinishedDeclarations

namespace HtmlReflow

open Declaration (inCharset? inContentType? OpensCharset OpensContentType PlainValue Unfinished Value)

variable {bytes : Bytes} {label rest : Text} {e : Encoding}

theorem plainValue_of_known (value : Value label) (known : Encoding.ofLabel? label = some e) :
    PlainValue label := by
  refine ⟨value, fun equals => ?_⟩
  rw [ofLabel?_of_value value.chars] at known
  have member : '='.toLower ∈ lowerAscii label := List.mem_map_of_mem equals
  obtain ⟨_, _, other, _⟩ := (lowerAscii_letters known).2.1 _ member
  exact other rfl

namespace Document

/-- What ends a value in a tag: quotes, `>` and ASCII blanks. -/
def endsValue (b : UInt8) : Bool :=
  b == 0x22 || b == 0x27 || b == 0x3E || b == 0x20 || (0x09 ≤ b && b ≤ 0x0D)

/-- What a value goes on with that reaches up to the limit. -/
def beyond (bytes : Bytes) : Bytes := (bytes.drop sniffLimit).takeWhile fun b => !endsValue b

/-- A label that is read in the part that is searched, and what is behind it there. -/
def Captured (bytes : Bytes) (label rest : Text) : Prop :=
  inCharset? (head bytes) = some (label, rest) ∨ inContentType? (head bytes) = some (label, rest)

/-- The encoding is not taken from a label that the limit cuts off: the label has its end in front of the
    limit or at it, or what follows completes it to another label of the same encoding. -/
def LabelsWhole (bytes : Bytes) : Prop :=
  Encoding.ofMark? bytes = none → ∀ label rest, Captured bytes label rest →
    Encoding.ofLabel? label = some (encoding bytes) →
    rest ≠ [] ∨ bytes.length ≤ sniffLimit ∨ (∃ b, bytes[sniffLimit]? = some b ∧ endsValue b = true) ∨
      Encoding.ofLabel? (label ++ Utf8.decoder.decode (beyond bytes)) = some (encoding bytes)

/-- The part that is searched ends in a label, in a tag that has not ended there. -/
def EndsIn (bytes : Bytes) (label : Text) : Prop :=
  Unfinished inCharset? OpensCharset (head bytes) label ∨
    Unfinished inContentType? OpensContentType (head bytes) label

theorem beyond_eq_nil_iff : beyond bytes = [] ↔
    bytes.length ≤ sniffLimit ∨ ∃ b, bytes[sniffLimit]? = some b ∧ endsValue b = true := by
  rw [beyond, ← List.head?_drop, ← List.drop_eq_nil_iff]
  cases bytes.drop sniffLimit with
  | nil => simp
  | cons b rest =>
    cases ends : endsValue b <;> simp [ends]

theorem captured_nil_iff (known : Encoding.ofLabel? label = some e) :
    Captured bytes label [] ↔ EndsIn bytes label := by
  constructor
  · rintro (found | found)
    · have plain := plainValue_of_known (Declaration.charset_form.value_of_find found) known
      exact .inl ((Declaration.charset_form.find_eq_some_iff plain).mp found)
    · have plain := plainValue_of_known (Declaration.contentType_form.value_of_find found) known
      exact .inr ((Declaration.contentType_form.find_eq_some_iff plain).mp found)
  · rintro (unfinished | unfinished)
    · have plain := plainValue_of_known unfinished.value known
      exact .inl ((Declaration.charset_form.find_eq_some_iff plain).mpr unfinished)
    · have plain := plainValue_of_known unfinished.value known
      exact .inr ((Declaration.contentType_form.find_eq_some_iff plain).mpr unfinished)

end Document

open Document

/-- A label is cut off exactly where the limit falls inside of the value of a tag that has not ended, and
    what is left of the value in front of it is a known label while the whole is none of that encoding. -/
theorem labelsWhole_iff (bytes : Bytes) : LabelsWhole bytes ↔
    ¬ ∃ label, Encoding.ofMark? bytes = none ∧ EndsIn bytes label ∧
      Encoding.ofLabel? label = some (Document.encoding bytes) ∧ beyond bytes ≠ [] ∧
      Encoding.ofLabel? (label ++ Utf8.decoder.decode (beyond bytes)) ≠ some (Document.encoding bytes) := by
  constructor
  · rintro whole ⟨label, unmarked, ends, known, more, other⟩
    rcases whole unmarked label [] ((captured_nil_iff known).mpr ends) known with
      filled | short | ended | same
    · exact filled rfl
    · exact more (beyond_eq_nil_iff.mpr (.inl short))
    · exact more (beyond_eq_nil_iff.mpr (.inr ended))
    · exact other same
  · intro uncut unmarked label rest captured known
    by_contra cut
    simp only [not_or, ne_eq, not_not] at cut
    obtain ⟨rfl, long, goesOn, other⟩ := cut
    refine uncut ⟨label, unmarked, (captured_nil_iff known).mp captured, known, fun none => ?_, other⟩
    rcases beyond_eq_nil_iff.mp none with short | ended
    · exact long short
    · exact goesOn ended

/-- The last digit of the label stands beyond the limit. -/
def cutLabel : Bytes := Utf8.encode (List.replicate 1000 ' ' ++ "<meta charset=iso-8859-15>".toList)

theorem cutLabel_not_whole : Document.encoding cutLabel = .codePage .windows1252 ∧ ¬ LabelsWhole cutLabel := by
  have unmarked : Encoding.ofMark? cutLabel = none := by decide +kernel
  have captured : inCharset? (head cutLabel) = some ("iso-8859-1".toList, []) := by decide +kernel
  have known : Encoding.ofLabel? "iso-8859-1".toList = some (.codePage .windows1252) := by decide +kernel
  have chosen := encoding_of_known unmarked captured known
  refine ⟨chosen, fun whole => ?_⟩
  rw [LabelsWhole, chosen] at whole
  rcases whole unmarked _ _ (.inl captured) known with filled | short | ⟨b, there, ends⟩ | same
  · exact filled rfl
  · exact absurd short (by decide +kernel)
  · have digit : cutLabel[sniffLimit]? = some 0x35 := by decide +kernel
    cases digit.symm.trans there
    cases ends
  · exact absurd same (by decide +kernel)

end HtmlReflow
