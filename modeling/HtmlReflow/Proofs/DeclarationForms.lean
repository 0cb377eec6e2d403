import HtmlReflow.Document
import HtmlReflow.Proofs.DeclarationGrammar

namespace HtmlReflow

namespace Declaration

variable {β : Type} {read : Text → Option β} {b : β} {a o r s v : Text} {name : Text}

theorem Assigns.angle_free (assigns : Assigns name a) (foreign : '>' ∉ name) :
    ∀ c ∈ a, closesTag c = false := by
  have fixed : foldCase '>' = '>' := by decide
  exact closesTag_eq_false (assigns.notMem (by rwa [fixed]) (by decide) (by decide))

theorem QuoteMark.angle_free {q : Text} (mark : QuoteMark q) : ∀ c ∈ q, closesTag c = false :=
  closesTag_eq_false (mark.notMem (by decide))

theorem angle_free_of_blank (blank : ∀ c ∈ s, isBlank c = true) : ∀ c ∈ s, closesTag c = false :=
  closesTag_eq_false fun member => absurd (blank _ member) (by decide)

theorem angle_free_of_named (named : s.map foldCase = name) (foreign : '>' ∉ name) :
    ∀ c ∈ s, closesTag c = false := by
  refine closesTag_eq_false fun member => foreign ?_
  have folded : foldCase '>' ∈ s.map foldCase := List.mem_map_of_mem member
  rwa [named] at folded

theorem angle_free_append {x y : Text} (left : ∀ c ∈ x, closesTag c = false)
    (right : ∀ c ∈ y, closesTag c = false) : ∀ c ∈ x ++ y, closesTag c = false :=
  List.forall_mem_append.mpr ⟨left, right⟩

/-- What opens ends in an assignment of the character set, and the tag goes on up to there. -/
def Leads (o : Text) : Prop :=
  ∃ u a, o = u ++ a ∧ (∀ c ∈ u, closesTag c = false) ∧ Assigns charsetName a

theorem Leads.append {u : Text} (free : ∀ c ∈ u, closesTag c = false) (leads : Leads o) :
    Leads (u ++ o) := by
  obtain ⟨x, a, rfl, free', assigns⟩ := leads
  exact ⟨u ++ x, a, (List.append_assoc u x a).symm, angle_free_append free free', assigns⟩

theorem OpensParameter.leads (opens : OpensParameter o) : Leads o := by
  obtain ⟨blank, assigns⟩ := opens
  rename_i gap a
  exact ⟨';' :: gap, a, rfl, List.forall_mem_cons.mpr ⟨by decide, angle_free_of_blank blank⟩, assigns⟩

theorem OpensContent.leads (opens : OpensContent o) : Leads o := by
  obtain ⟨assigns, mark, free, opens⟩ := opens
  have inside : ∀ c ∈ _, closesTag c = false :=
    fun c member => (Bool.or_eq_false_iff.mp (free c member)).2
  exact ((opens.leads.append inside).append mark.angle_free).append (assigns.angle_free (by decide))

theorem OpensContentType.leads (opens : OpensContentType o) : Leads o := by
  obtain ⟨assigns, mark, named, _, free, opens⟩ := opens
  exact (((opens.leads.append free).append (angle_free_of_named named (by decide))).append
    mark.angle_free).append (assigns.angle_free (by decide))

/-- The value of a content type stands where that of a character set may stand. -/
theorem OpensMeta.charset (opens : OpensMeta OpensContentType o) : OpensMeta OpensCharset o := by
  obtain ⟨named, apart, free, inside⟩ := opens
  rename_i word gap _
  obtain ⟨u, a, rfl, through, assigns⟩ := inside.leads
  have bare : OpensCharset (a ++ []) := .intro assigns ⟨Nat.zero_le 1, by simp⟩
  rw [List.append_nil] at bare
  rw [← List.append_assoc gap]
  exact .intro named (by simp [apart]) (angle_free_append free through) bare

theorem OpensCharset.charset?_append (opens : OpensCharset o) (value : Value v) (r : Text) :
    charset? (o ++ (v ++ r)) = value? (v ++ r) := by
  obtain ⟨assigns, mark⟩ := opens
  obtain ⟨c, w, rfl, unquoted, solid⟩ := value.exists_cons
  rw [charset?, List.append_assoc, assigned?_append assigns, Option.bind_some, List.cons_append,
    mark.dropWhile_append solid, mark.skipQuote_append unquoted]

theorem meta?_append {read : Text → Option (Text × Text)} {word gap : Text}
    (named : word.map foldCase = metaName) (apart : gap ≠ []) (free : ∀ c ∈ gap, closesTag c = false)
    (s : Text) :
    meta? read ('<' :: (word ++ (gap ++ s))) = furthest? closesTag read (gap.tail ++ s) := by
  have front : word? metaName (word ++ (gap ++ s)) = some (word, gap ++ s) := word?_eq_some.mpr ⟨rfl, named⟩
  rw [meta?, front, Option.bind_some, furthestBehind?_append apart free]

theorem meta?_isSome (opens : OpensMeta OpensCharset o) (value : Value v) (r : Text) :
    (meta? charset? (o ++ (v ++ r))).isSome = true := by
  obtain ⟨named, apart, free, inside⟩ := opens
  have filled := inside.charset?_append value r ▸ value?_isSome value r
  rw [List.cons_append, List.append_assoc, List.append_assoc, meta?_append named apart free]
  exact furthest?_isSome (fun c member => free c (List.mem_of_mem_tail member)) filled

theorem exists_first?_of_isSome (here : (read r).isSome = true) (a : Text) :
    ∃ a' b, first? read (a ++ r) = some (a', b) ∧ a' <+: a := by
  induction a with
  | nil =>
    obtain ⟨b, here⟩ := Option.isSome_iff_exists.mp here
    exact ⟨[], b, first?_of_some here, List.prefix_rfl⟩
  | cons c a ih =>
    cases front : read (c :: (a ++ r)) with
    | some b => exact ⟨[], b, first?_of_some front, List.nil_prefix⟩
    | none =>
      obtain ⟨a', b, later, before⟩ := ih
      refine ⟨c :: a', b, ?_, List.cons_prefix_cons.mpr ⟨rfl, before⟩⟩
      rw [List.cons_append, first?_cons_of_none front, later]
      rfl

theorem exists_charset_of_contentType {x : Text × Text} (found : meta? contentType? r = some x) (a : Text) :
    ∃ a' y, first? (meta? charset?) (a ++ r) = some (a', y) ∧ a' <+: a := by
  obtain ⟨o, opens, rfl, value⟩ := meta?_sound contentType?_sound r x.1 x.2 found
  exact exists_first?_of_isSome (meta?_isSome opens.charset value x.2) a

theorem inContentType?_eq_none (absent : inCharset? s = none) : inContentType? s = none := by
  rw [inContentType?, Option.map_eq_none_iff, first?_eq_none_iff]
  rintro a r rfl
  cases found : meta? contentType? r with
  | none => rfl
  | some x =>
    obtain ⟨a', y, first, _⟩ := exists_charset_of_contentType found a
    rw [inCharset?, first] at absent
    cases absent

end Declaration

open Declaration (meta? charset? contentType? inCharset? inContentType?)

namespace Document

variable {bytes : Bytes} {x : Text × Text} {e : Encoding}

theorem encoding_of_absent (unmarked : Encoding.ofMark? bytes = none)
    (absent : inCharset? (head bytes) = none) : encoding bytes = .utf8 := by
  rw [encoding, unmarked, Declaration.labels, absent, Declaration.inContentType?_eq_none absent]
  rfl

theorem encoding_of_known (unmarked : Encoding.ofMark? bytes = none)
    (found : inCharset? (head bytes) = some x) (known : Encoding.ofLabel? x.1 = some e) : encoding bytes = e := by
  rw [encoding, unmarked, Declaration.labels, found]
  simp [known]

theorem encoding_of_unknown (unmarked : Encoding.ofMark? bytes = none)
    (found : inCharset? (head bytes) = some x) (unknown : Encoding.ofLabel? x.1 = none) :
    encoding bytes = ((inContentType? (head bytes)).bind fun y => Encoding.ofLabel? y.1).getD .utf8 := by
  rw [encoding, unmarked, Declaration.labels, found]
  cases inContentType? (head bytes) with
  | none => simp [unknown]
  | some y => cases known : Encoding.ofLabel? y.1 <;> simp [unknown, known]

end Document

/-- A content type declares nothing of its own: the tag that holds it, or one before it, has a character
    set. So it settles the encoding only where the character set that was read is not known. -/
theorem contentType_after_charset :
    (∀ a r x, meta? contentType? r = some x →
      ∃ a' y, first? (meta? charset?) (a ++ r) = some (a', y) ∧ a' <+: a) ∧
    (∀ bytes, Encoding.ofMark? bytes = none → inCharset? (Document.head bytes) = none →
      Document.encoding bytes = .utf8) ∧
    ∀ bytes, Encoding.ofMark? bytes = none →
      Document.encoding bytes ≠
        ((inCharset? (Document.head bytes)).bind fun x => Encoding.ofLabel? x.1).getD .utf8 →
      ∃ label rest, inCharset? (Document.head bytes) = some (label, rest) ∧ Encoding.ofLabel? label = none := by
  refine ⟨fun a r x found => Declaration.exists_charset_of_contentType found a,
    fun bytes unmarked absent => Document.encoding_of_absent unmarked absent, fun bytes unmarked other => ?_⟩
  cases found : inCharset? (Document.head bytes) with
  | none => exact absurd (Document.encoding_of_absent unmarked found) (by rwa [found] at other)
  | some x =>
    refine ⟨x.1, x.2, rfl, ?_⟩
    cases known : Encoding.ofLabel? x.1 with
    | none => rfl
    | some e =>
      rw [found, Option.bind_some, known] at other
      exact absurd (Document.encoding_of_known unmarked found known) other

/-- A tag with a label that is not known, and one with a content type. -/
def secondChoice : Text := "<meta charset=klingon><META x HTTP-EQUIV=content-type content=;charset=big5>".toList

theorem contentType_after_charset_secondChoice :
    (meta? contentType? (secondChoice.drop 22) = some ("big5".toList, ['>']) ∧
      ∃ a' y, first? (meta? charset?) (secondChoice.take 22 ++ secondChoice.drop 22) = some (a', y) ∧
        a' <+: secondChoice.take 22) ∧
    (Encoding.ofMark? (Utf8.encode (secondChoice.take 5)) = none ∧
      inCharset? (Document.head (Utf8.encode (secondChoice.take 5))) = none ∧
      Document.encoding (Utf8.encode (secondChoice.take 5)) = .utf8) ∧
    Document.encoding (Utf8.encode secondChoice) = .big5 ∧
      ∃ label rest, inCharset? (Document.head (Utf8.encode secondChoice)) = some (label, rest) ∧
        Encoding.ofLabel? label = none := by
  have place : meta? contentType? (secondChoice.drop 22) = some ("big5".toList, ['>']) := by decide +kernel
  have short : Encoding.ofMark? (Utf8.encode (secondChoice.take 5)) = none := by decide +kernel
  have absent : inCharset? (Document.head (Utf8.encode (secondChoice.take 5))) = none := by decide +kernel
  have unmarked : Encoding.ofMark? (Utf8.encode secondChoice) = none := by decide +kernel
  have first : inCharset? (Document.head (Utf8.encode secondChoice)) =
      some ("klingon".toList, secondChoice.drop 21) := by decide +kernel
  have second : inContentType? (Document.head (Utf8.encode secondChoice)) = some ("big5".toList, ['>']) := by
    decide +kernel
  have unknown : Encoding.ofLabel? "klingon".toList = none := by decide +kernel
  have known : Encoding.ofLabel? "big5".toList = some .big5 := by decide +kernel
  have chosen : Document.encoding (Utf8.encode secondChoice) = .big5 := by
    rw [Document.encoding_of_unknown unmarked first unknown, second]
    simp only [Option.bind_some, known, Option.getD_some]
  have passed : ((inCharset? (Document.head (Utf8.encode secondChoice))).bind
      fun x => Encoding.ofLabel? x.1).getD .utf8 = .utf8 := by
    rw [first, Option.bind_some, unknown]
    rfl
  exact ⟨⟨place, contentType_after_charset.1 _ _ _ place⟩,
    ⟨short, absent, contentType_after_charset.2.1 _ short absent⟩,
    chosen, contentType_after_charset.2.2 _ unmarked (by rw [chosen, passed]; decide)⟩

end HtmlReflow
