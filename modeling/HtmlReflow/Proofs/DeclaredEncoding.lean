import HtmlReflow.Proofs.DeclaredLabel
import HtmlReflow.Proofs.DecodedHead
import HtmlReflow.Proofs.MarkBytes

namespace HtmlReflow

open Declaration (Declared Readable charsetName isQuote isValueChar)

variable {label d : Text} {e : Encoding} {bytes rest : Bytes}

/-- A label as it may be written in a tag. -/
inductive Quoted (label : Text) : Text → Prop
  | double : Quoted label ('"' :: (label ++ ['"']))
  | single : Quoted label ('\'' :: (label ++ ['\'']))
  | bare : Quoted label label

/-- The two forms of a tag that declares a label: by itself, or as a parameter of a content type. -/
inductive Declares (label : Text) : Text → Prop
  | charset {gap before behind value : Text} (apart : gap ≠ [])
      (blank : ∀ c ∈ gap ++ (before ++ behind), isBlank c = true) (quoted : Quoted label value) :
      Declares label ("<meta".toList ++ (gap ++ ("charset".toList ++ (before ++ '=' ::
        (behind ++ (value ++ ['>']))))))
  | contentType : Declares label
      ("<meta http-equiv=\"Content-Type\" content=\"text/html; charset=".toList ++ (label ++ "\">".toList))

theorem Declares.exists_declared (declares : Declares label d) :
    ∃ form : Declared label, ∀ y, d ++ y = '<' :: form.inside y := by
  cases declares with
  | @charset gap before behind value apart blank quoted =>
    have parts : ∃ opened closed, value = opened ++ (label ++ closed) ∧ opened.length ≤ 1 ∧
        ∀ c ∈ opened ++ closed, isQuote c = true := by
      cases quoted with
      | double => exact ⟨['"'], ['"'], rfl, Nat.le_refl 1, List.all_eq_true.mp (by decide)⟩
      | single => exact ⟨['\''], ['\''], rfl, Nat.le_refl 1, List.all_eq_true.mp (by decide)⟩
      | bare => exact ⟨[], [], (List.append_nil label).symm, Nat.zero_le 1, List.all_eq_true.mp rfl⟩
    obtain ⟨opened, closed, rfl, single, quotes⟩ := parts
    obtain ⟨first, gap, rfl⟩ := List.exists_cons_of_ne_nil apart
    have angle : '>' ∉ first :: gap := fun member =>
      absurd (blank '>' (List.mem_append_left _ member)) (by decide)
    refine ⟨⟨first, gap, before, behind, opened, closed, angle,
      fun c member => blank c (List.mem_append_right _ member), quotes, single⟩, fun y => ?_⟩
    simp [Declared.inside, Declared.assignment, Declaration.metaName, charsetName]
  | contentType =>
    refine ⟨⟨' ', "http-equiv=\"Content-Type\" content=\"text/html; ".toList, [], [], [], ['"'],
      by decide, List.all_eq_true.mp rfl, List.all_eq_true.mp (by decide), Nat.zero_le 1⟩, fun y => ?_⟩
    simp [Declared.inside, Declared.assignment, Declaration.metaName, charsetName]

/-- What known labels are written with lies between `-` and `z`, without `=` and `>`. -/
def IsLabelLetter (n : Nat) : Prop := 0x2D ≤ n ∧ n ≤ 0x7A ∧ n ≠ 0x3D ∧ n ≠ 0x3E

theorem labels_bytes : ∀ e ∈ Encoding.all, ∀ s ∈ e.labels, s.toByteArray.data.toList ≠ [] ∧
    (s.toByteArray.data.toList.all fun b =>
      0x2D ≤ b.toNat && b.toNat ≤ 0x7A && b.toNat != 0x3D && b.toNat != 0x3E) = true ∧
      ¬ [0x68, 0x61] <:+: s.toByteArray.data.toList := by
  decide +kernel

theorem labelTable_letters {entry : Text × Encoding} (member : entry ∈ Encoding.labelTable) :
    entry.1 ≠ [] ∧ (∀ c ∈ entry.1, IsLabelLetter c.toNat) ∧ ¬ ['h', 'a'] <:+: entry.1 := by
  obtain ⟨e, listed, member⟩ := List.mem_flatMap.mp member
  obtain ⟨s, labelled, rfl⟩ := List.mem_map.mp member
  obtain ⟨nonempty, letters, absent⟩ := labels_bytes e listed s labelled
  rw [← Utf8.encode_toList] at nonempty letters absent
  replace letters : ∀ b ∈ Utf8.encode s.toList, IsLabelLetter b.toNat := by
    simpa [IsLabelLetter, and_assoc] using letters
  have ascii : ∀ b ∈ Utf8.encode s.toList, b < 0x80 := by
    intro b member
    obtain ⟨_, high, _⟩ := letters b member
    exact UInt8.lt_iff_toNat_lt.mpr (Nat.lt_of_le_of_lt high (by decide))
  have read := Utf8.decode_ascii ascii
  rw [Utf8.decode_encode] at read
  refine ⟨?_, ?_, ?_⟩
  · intro empty
    exact nonempty (by rw [show s.toList = [] from empty]; rfl)
  · intro c member
    rw [show (s.toList, e).1 = _ from read] at member
    obtain ⟨b, there, rfl⟩ := List.mem_map.mp member
    have letter := letters b there
    have same : (Char.ofNat b.toNat).toNat = b.toNat := by
      obtain ⟨_, high, _⟩ := letter
      exact toNat_ofNat (.inl (by omega))
    rwa [same]
  · rintro ⟨front, back, split⟩
    refine absent ⟨Utf8.encode front, Utf8.encode back, ?_⟩
    have whole : front ++ ['h', 'a'] ++ back = s.toList := split
    rw [← whole, Utf8.encode, Utf8.encode, Utf8.encode, List.flatMap_append, List.flatMap_append]
    rfl

theorem lowerAscii_letters (known : Encoding.labelTable.lookup (lowerAscii label) = some e) :
    lowerAscii label ≠ [] ∧ (∀ c ∈ lowerAscii label, IsLabelLetter c.toNat) ∧
      ¬ ['h', 'a'] <:+: lowerAscii label := by
  obtain ⟨front, back, split, _⟩ := List.lookup_eq_some_iff.mp known
  have member : (lowerAscii label, e) ∈ Encoding.labelTable :=
    split ▸ List.mem_append_right front List.mem_cons_self
  exact labelTable_letters member

theorem map_foldCase_label (known : Encoding.labelTable.lookup (lowerAscii label) = some e) :
    label.map foldCase = lowerAscii label := by
  apply List.map_congr_left
  intro c member
  obtain ⟨_, high, _⟩ := (lowerAscii_letters known).2.1 c.toLower (List.mem_map_of_mem member)
  have low : ∀ d : Char, c = d → d.toLower.toNat ≤ 0x7A := fun d same => same ▸ high
  unfold foldCase
  split
  · exact absurd (low _ ‹_›) (by decide)
  · split
    · exact absurd (low _ ‹_›) (by decide)
    · rfl

theorem isValueChar_of_letter {c : Char} (letter : IsLabelLetter c.toNat) : isValueChar c = true := by
  obtain ⟨low, high, _, angle⟩ := letter
  have solid : isBlank c = false := by
    simp only [isBlank, Bool.or_eq_false_iff, Bool.and_eq_false_iff, decide_eq_false_iff_not,
      beq_eq_false_iff_ne]
    omega
  have double : c ≠ '"' := by
    rintro rfl
    exact absurd low (by decide)
  have single : c ≠ '\'' := by
    rintro rfl
    exact absurd low (by decide)
  have other : c ≠ '>' := by
    rintro rfl
    exact angle rfl
  simp [isValueChar, isQuote, Declaration.closesTag, solid, double, single, other]

theorem isValueChar_of_foldCase {c : Char} (value : isValueChar (foldCase c) = true) :
    isValueChar c = true := by
  rcases foldCase_cases c with fixed | ⟨solid, small, _⟩
  · rwa [fixed] at value
  · have mark : ∀ d : Char, ¬ 97 ≤ (foldCase d).toNat → c ≠ d := by
      rintro d large rfl
      exact large small
    simp [isValueChar, isQuote, Declaration.closesTag, solid, mark '"' (by decide),
      mark '\'' (by decide), mark '>' (by decide)]

theorem readable_of_known (known : Encoding.labelTable.lookup (lowerAscii label) = some e) : Readable label := by
  obtain ⟨nonempty, letters, absent⟩ := lowerAscii_letters known
  have folded := map_foldCase_label known
  refine ⟨?_, ?_, ?_⟩
  · rintro rfl
    exact nonempty rfl
  · intro c member
    exact isValueChar_of_foldCase
      (isValueChar_of_letter (letters (foldCase c) (folded ▸ List.mem_map_of_mem member)))
  · rw [folded]
    exact fun inside => absent (List.IsInfix.trans ⟨['c'], ['r', 's', 'e', 't'], rfl⟩ inside)

theorem isBlank_of_isLabelBlank {c : Char} (blank : Encoding.isLabelBlank c = true) : isBlank c = true := by
  simp only [Encoding.isLabelBlank, Bool.or_eq_true, beq_iff_eq] at blank
  rcases blank with (((rfl | rfl) | rfl) | rfl) | rfl <;> decide

/-- A label that may stand in a tag is looked up as it is. -/
theorem ofLabel?_of_value (value : ∀ c ∈ label, isValueChar c = true) :
    Encoding.ofLabel? label = Encoding.labelTable.lookup (lowerAscii label) := by
  have solid : ∀ c ∈ label, Encoding.isLabelBlank c = false := by
    intro c member
    cases blank : Encoding.isLabelBlank c with
    | false => rfl
    | true =>
      have filled := (Declaration.value_cases (value c member)).2.1
      rw [isBlank_of_isLabelBlank blank] at filled
      cases filled
  have kept : ∀ s : Text, (∀ c ∈ s, Encoding.isLabelBlank c = false) →
      s.dropWhile Encoding.isLabelBlank = s := by
    intro s solid
    cases s with
    | nil => rfl
    | cons c s => exact List.dropWhile_cons_of_neg (by simp [solid c List.mem_cons_self])
  rw [Encoding.ofLabel?, Encoding.normalizeLabel, kept label solid, kept _ (by simpa using solid),
    List.reverse_reverse]

theorem ofLabel?_eq (known : Encoding.labelTable.lookup (lowerAscii label) = some e) :
    Encoding.ofLabel? label = some e := by
  rw [ofLabel?_of_value (readable_of_known known).value, known]

theorem ofMark?_append (long : 3 ≤ bytes.length) (unmarked : Encoding.ofMark? bytes = none) (rest : Bytes) :
    Encoding.ofMark? (bytes ++ rest) = none := by
  rcases bytes with _ | ⟨a, _ | ⟨b, _ | ⟨c, bytes⟩⟩⟩
  · cases long
  · simp at long
  · simp at long
  · unfold Encoding.ofMark?
    split
    · rename_i same
      cases same
      cases unmarked
    · rename_i same
      cases same
      cases unmarked
    · rename_i same
      cases same
      cases unmarked
    · rfl

/-- A declaration near the top is honoured whatever surrounds it: text that is not well-formed, other meta
    tags, or one that opens before it and does not end. Nothing before it may name a character set. -/
theorem encoding_of_declaration
    (known : Encoding.labelTable.lookup (lowerAscii label) = some e) (declares : Declares label d)
    (quiet : ¬ charsetName <:+: (Utf8.decoder.decode bytes).map foldCase)
    (near : (bytes ++ Utf8.encode d).length ≤ Document.sniffLimit)
    (unmarked : Encoding.ofMark? (bytes ++ Utf8.encode d) = none) :
    Document.encoding (bytes ++ Utf8.encode d ++ rest) = e := by
  obtain ⟨form, spelt⟩ := declares.exists_declared
  obtain ⟨tail, rfl⟩ : ∃ tail, d = '<' :: 'm' :: 'e' :: tail := by
    have front := spelt []
    rw [List.append_nil] at front
    exact ⟨_, front⟩
  have ascii : Utf8.encode ('<' :: 'm' :: 'e' :: tail) = 0x3C :: 0x6D :: 0x65 :: Utf8.encode tail := rfl
  have long : 3 ≤ (bytes ++ Utf8.encode ('<' :: 'm' :: 'e' :: tail)).length := by
    rw [ascii, List.length_append, List.length_cons, List.length_cons, List.length_cons]
    omega
  obtain ⟨y, head⟩ : ∃ y, Document.head (bytes ++ Utf8.encode ('<' :: 'm' :: 'e' :: tail) ++ rest) =
      Utf8.decoder.decode bytes ++ '<' :: form.inside y := by
    refine ⟨Utf8.decoder.decode (rest.take (Document.sniffLimit -
      (bytes ++ Utf8.encode ('<' :: 'm' :: 'e' :: tail)).length)), ?_⟩
    rw [Document.head, List.take_append, List.take_of_length_le near, List.append_assoc, ascii,
      List.cons_append, Utf8.decode_append (by decide), ← List.cons_append, ← ascii,
      Utf8.decode_encode_append, spelt]
  obtain ⟨others, declared⟩ := form.labels_eq (readable_of_known known) quiet y
  rw [Document.encoding, ofMark?_append long unmarked, head, declared]
  simp only [List.findSome?_cons, ofLabel?_eq known, Option.getD_some]

/-- Other tags, one that is left open, and a sequence of bytes that breaks off. -/
def unfinishedHead : Bytes :=
  Utf8.encode "<meta name=a>charse<META x=\"<meta".toList ++ [0xE2, 0x82]

theorem encoding_of_declaration_behind_unfinished_head :
    Document.encoding (unfinishedHead ++ Utf8.encode "<meta\tcharset =\n'X-User-Defined'>".toList ++
        Utf8.encode "<meta charset=utf-8>".toList) = .userDefined ∧
      Document.encoding (unfinishedHead ++
        Utf8.encode ("<meta http-equiv=\"Content-Type\" content=\"text/html; charset=".toList ++
          ("UTF-16".toList ++ "\">".toList)) ++ [0xFF]) = .utf16 .littleEndian := by
  constructor
  · have direct : Declares "X-User-Defined".toList "<meta\tcharset =\n'X-User-Defined'>".toList :=
      @Declares.charset _ ['\t'] [' '] ['\n'] _ (by decide) (List.all_eq_true.mp (by decide)) .single
    exact encoding_of_declaration (by decide +kernel) direct (by decide +kernel) (by decide +kernel)
      (by decide +kernel)
  · exact encoding_of_declaration (by decide +kernel) .contentType (by decide +kernel) (by decide +kernel)
      (by decide +kernel)

end HtmlReflow
