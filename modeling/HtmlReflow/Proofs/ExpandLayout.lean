import HtmlReflow.Proofs.LastingBreaks

namespace HtmlReflow

open Block (Opens closingTagOf)

variable {o : Options} {s t u v front back : Text} {c : Char}

namespace Block

variable {elements : List Verbatim}

theorem pieces_append_blank (blank : isBlank c = true) (s : Text) :
    (pattern elements).pieces (s ++ [c]) = (pattern elements).pieces s ++ [.plain c] := by
  have notLeft : ∀ {d : Char}, isBlank d = true → d ≠ '<' := by
    rintro d blank rfl
    cases blank
  induction s using (pattern elements).scan_induction with
  | done =>
    have none := startsWith elements c [] (notLeft blank)
    rw [List.nil_append, Pattern.pieces_cons_of_none _ none, Pattern.pieces_nil, List.nil_append]
  | found s b rest h ih =>
    obtain ⟨proper, member⟩ := proper_of_front? h
    have longer : (pattern elements).front? (b.text ++ (rest ++ [c])) = some (b, rest ++ [c]) :=
      proper.front? member
    have same : b.text ++ rest = s := (pattern elements).text_append h
    subst same
    rw [List.append_assoc, Pattern.pieces_of_some _ longer, Pattern.pieces_of_some _ h, ih,
      List.cons_append]
  | plain d s h ih =>
    have none : (pattern elements).front? (d :: (s ++ [c])) = none := by
      by_cases left : d = '<'
      · subst left
        apply front?_eq_none_iff.mpr
        intro e member opens
        exact front?_eq_none_iff.mp h e member (opens.of_append_blank blank)
      · exact startsWith elements d _ left
    rw [List.cons_append, Pattern.pieces_cons_of_none _ none, Pattern.pieces_cons_of_none _ h, ih,
      List.cons_append]

/-- No block begins or ends in blanks, so a scan passes them by. -/
theorem pieces_between_blanks (blank : ∀ c ∈ front ++ back, isBlank c = true) (s : Text) :
    (pattern elements).pieces (front ++ (s ++ back)) =
      front.map .plain ++ ((pattern elements).pieces s ++ back.map .plain) := by
  have free : '<' ∉ front := by
    intro member
    cases blank '<' (List.mem_append_left _ member)
  have last : ∀ c ∈ back, isBlank c = true := fun c member => blank c (List.mem_append_right _ member)
  rw [(startsWith elements).pieces_append free]
  clear blank
  congr 1
  induction back generalizing s with
  | nil => simp
  | cons c back ih =>
    have here := last c List.mem_cons_self
    have later := ih (s ++ [c]) fun d member => last d (List.mem_cons_of_mem c member)
    rw [List.append_cons, later, pieces_append_blank here, List.append_assoc]
    rfl

end Block

/-- A line ends in front of `behind`. -/
def LineEnds (behind : Text) : Prop := behind = [] ∨ behind.head? = some '\n'

/-- A line starts behind `before`. -/
def LineStarts (before : Text) : Prop := before = [] ∨ before.getLast? = some '\n'

theorem LineEnds.of_append (ends : LineEnds (v ++ back)) : LineEnds v := by
  cases v with
  | nil => exact .inl rfl
  | cons c v =>
    rcases ends with empty | feed
    · cases empty
    · exact .inr feed

theorem LineStarts.of_append (starts : LineStarts (front ++ u)) : LineStarts u := by
  rcases List.eq_nil_or_concat u with rfl | ⟨u, c, rfl⟩
  · exact .inl rfl
  · rw [List.concat_eq_append] at starts ⊢
    rcases starts with empty | feed
    · exact absurd empty (by simp)
    · rw [← List.append_assoc, List.getLast?_concat] at feed
      exact .inr (by rw [List.getLast?_concat, feed])

theorem head?_of_broken (broken : 0 < feedsIn (u ++ v) (breadth u)) (last : u = s ++ [c])
    (other : c ≠ '\n') : v.head? = some '\n' := by
  have split : feedsIn (u ++ v) (breadth u) = _ := feedsIn_append_right u v 0
  rw [split, Nat.add_zero, last, feedsIn_last_eq_zero other, Nat.zero_add] at broken
  exact head?_of_feedsIn broken

theorem getLast?_of_broken (broken : 0 < feedsIn (u ++ v) (breadth u)) (next : v = c :: s)
    (other : c ≠ '\n') : u.getLast? = some '\n' := by
  have split : feedsIn (u ++ v) (breadth u) = _ := feedsIn_append_right u v 0
  rw [split, Nat.add_zero, next, feedsIn_cons_zero other, Nat.add_zero] at broken
  exact getLast?_of_feedsIn broken

/-- What is broken stays so to the end. -/
theorem broken_to_end {α : Type} {p : Pattern α} {borders : α → List Text}
    (lasting : p.Lasting borders)
    (broken : p.Broken borders (breakBeforeOpens (breakAfterCloses s))) (o : Options) :
    p.Broken borders (capFeeds (breakLines o s)) := by
  rw [breakLines]
  split
  · exact (broken.fed lasting (fed_breakRawBlocks _)).capFeeds lasting
  · exact broken.capFeeds lasting

theorem broken_closes (o : Options) (s : Text) :
    StructuralClose.pattern.Broken (fun tag => [tag.text]) (capFeeds (breakLines o s)) := by
  have lasting := StructuralClose.worded.lasting fun tag => [tag.text]
  have broken : StructuralClose.pattern.Broken (fun tag => [tag.text]) (breakAfterCloses s) :=
    lasting.broken_replace breaks_closes (fed_breakAfterCloses s)
  exact broken_to_end lasting (broken.fed lasting (fed_breakBeforeOpens _)) o

theorem broken_opens (o : Options) (s : Text) :
    StructuralOpen.firmPattern.Broken (fun _ => [[]]) (capFeeds (breakLines o s)) := by
  have lasting := StructuralOpen.worded.lasting fun _ => [[]]
  have broken : StructuralOpen.firmPattern.Broken (fun _ => [[]])
      (breakBeforeOpens (breakAfterCloses s)) := by
    intro gap member
    rw [(lasting.stable true).places_fed (fed_breakBeforeOpens _)] at member
    obtain ⟨u, w, tag, rest, border, whole, found, inside, rfl⟩ := Pattern.exists_occurrence member
    have place : breadth (u ++ border) ∈
        StructuralOpen.pattern.places (fun _ => [[]]) (breakAfterCloses s) := by
      rw [whole]
      exact StructuralOpen.sparse.mem_places (StructuralOpen.firm_front?_eq_some.mp found).1 inside u
    rw [breakBeforeOpens, feedsIn, (breaks_opens.feedPlaces_replace _).count_eq, List.count_append]
    have here := List.count_pos_iff.mpr place
    omega
  exact broken_to_end lasting broken o

theorem broken_raw (raw : o.formatRawBlocks = true) (s : Text) :
    rawPattern.Broken Block.borders (capFeeds (breakLines o s)) := by
  have broken : rawPattern.Broken Block.borders
      (breakRawBlocks (breakBeforeOpens (breakAfterCloses s))) :=
    lasting_raw.broken_replace breaks_raw (fed_breakRawBlocks _)
  rw [breakLines, if_pos raw]
  exact broken.capFeeds lasting_raw

theorem lineEnds_of_close {w : Text} {tag : StructuralClose}
    (broken : StructuralClose.pattern.Broken (fun tag => [tag.text]) (front ++ ((u ++ w) ++ back)))
    (found : StructuralClose.pattern.front? w = some (tag, v)) : LineEnds v := by
  obtain ⟨rfl, named⟩ := StructuralClose.front?_eq_some.mp found
  have longer : StructuralClose.pattern.front? (tag.text ++ (v ++ back)) = some (tag, v ++ back) :=
    StructuralClose.front?_eq_some.mpr ⟨rfl, named⟩
  have place : breadth ((front ++ u) ++ tag.text) ∈ StructuralClose.pattern.places (fun tag => [tag.text])
      ((front ++ u) ++ (tag.text ++ (v ++ back))) :=
    StructuralClose.worded.sparse.mem_places longer List.mem_cons_self (front ++ u)
  have whole : front ++ ((u ++ (tag.text ++ v)) ++ back) = (front ++ u) ++ (tag.text ++ (v ++ back)) := by
    simp only [List.append_assoc]
  rw [whole] at broken
  have here := broken _ place
  rw [← List.append_assoc] at here
  have last : (front ++ u) ++ tag.text = (front ++ u ++ '<' :: '/' :: tag.name) ++ ['>'] := by
    simp [StructuralClose.text]
  exact .of_append (.inr (head?_of_broken here last (by decide)))

theorem lineStarts_of_open {w : Text} {tag : StructuralOpen}
    (broken : StructuralOpen.firmPattern.Broken (fun _ => [[]]) (front ++ ((u ++ w) ++ back)))
    (found : StructuralOpen.pattern.front? w = some (tag, v)) (firm : tag.delimiter ≠ '\n') :
    LineStarts u := by
  obtain ⟨rfl, proper⟩ := StructuralOpen.front?_eq_some.mp found
  have longer : StructuralOpen.firmPattern.front? (tag.text ++ (v ++ back)) = some (tag, v ++ back) :=
    StructuralOpen.firm_front?_eq_some.mpr ⟨StructuralOpen.front?_eq_some.mpr ⟨rfl, proper⟩, firm⟩
  have place : breadth ((front ++ u) ++ []) ∈ StructuralOpen.firmPattern.places (fun _ => [[]])
      ((front ++ u) ++ (tag.text ++ (v ++ back))) :=
    StructuralOpen.worded.sparse.mem_places longer List.mem_cons_self (front ++ u)
  have whole : front ++ ((u ++ (tag.text ++ v)) ++ back) = (front ++ u) ++ (tag.text ++ (v ++ back)) := by
    simp only [List.append_assoc]
  rw [whole] at broken
  have here := broken _ place
  rw [List.append_nil] at here
  exact .of_append (.inr (getLast?_of_broken here rfl (by decide)))

theorem lines_of_raw {ps qs : List (Piece Block)} {b : Block}
    (blank : ∀ c ∈ front ++ back, isBlank c = true)
    (broken : rawPattern.Broken Block.borders (front ++ (s ++ back)))
    (cut : rawPattern.pieces s = ps ++ .found b :: qs) :
    LineStarts (rawPattern.spell ps) ∧ b.content.head? = some '\n' ∧
      b.content.getLast? = some '\n' ∧ LineEnds (rawPattern.spell qs) := by
  have spelt : s = rawPattern.spell ps ++ (b.text ++ rawPattern.spell qs) := by
    rw [← rawPattern.spell_pieces s, cut, Pattern.spell_append, Pattern.spell_found]
    rfl
  have scanned : rawPattern.pieces (front ++ (s ++ back)) =
      (front.map .plain ++ ps) ++ .found b :: (qs ++ back.map .plain) := by
    rw [rawPattern, Block.pieces_between_blanks blank, ← rawPattern, cut]
    simp
  have before : rawPattern.spell (front.map .plain ++ ps) = front ++ rawPattern.spell ps := by
    rw [Pattern.spell_append, Pattern.spell_map_plain]
  generalize spelling : front ++ rawPattern.spell ps = x at before
  generalize rawPattern.spell qs = y at spelt ⊢
  have lines : ∀ border behind, border ∈ b.borders → border ++ behind = b.text ++ (y ++ back) →
      0 < feedsIn ((x ++ border) ++ behind) (breadth (x ++ border)) := by
    intro border behind member whole
    have place := rawPattern.mem_placesOf_append member (front.map .plain ++ ps) (qs ++ back.map .plain)
    have parts : front ++ (s ++ back) = (x ++ border) ++ behind := by
      rw [List.append_assoc x, whole, ← spelling, spelt]
      simp only [List.append_assoc]
    rw [before, ← scanned] at place
    rw [← parts]
    exact broken _ place
  have opening : (x ++ b.openingTag) = (x ++ '<' :: (b.name ++ b.attributes)) ++ ['>'] := by
    simp [Block.openingTag]
  have closing : x ++ b.text =
      (x ++ (b.openingTag ++ (b.content ++ '<' :: '/' :: b.closingName))) ++ ['>'] := by
    simp [Block.text, Block.closingTag, closingTagOf]
  have first := lines [] (b.text ++ (y ++ back)) (by simp [Block.borders]) rfl
  have second := lines b.openingTag (b.content ++ (b.closingTag ++ (y ++ back))) (by simp [Block.borders])
    (by simp [Block.text])
  have third := lines (b.openingTag ++ b.content) (b.closingTag ++ (y ++ back)) (by simp [Block.borders])
    (by simp [Block.text])
  have fourth := lines b.text (y ++ back) (by simp [Block.borders]) rfl
  have starts := getLast?_of_broken first rfl (by decide)
  have inner := head?_of_broken second opening (by decide)
  have outer := getLast?_of_broken third rfl (by decide)
  have ends := head?_of_broken fourth closing (by decide)
  rw [List.append_nil, ← spelling] at starts
  -- An empty content would have the line feed between two angle brackets.
  have content : b.content ≠ [] := by
    intro empty
    rw [empty] at inner
    exact absurd (Option.some.inj inner) (by decide)
  refine ⟨.of_append (.inr starts), ?_, ?_, .of_append (.inr ends)⟩
  · rwa [List.head?_append_of_ne_nil _ content] at inner
  · rwa [← List.append_assoc, List.getLast?_append_of_ne_nil _ content] at outer

/-- Where the lines of an expanded text end, as the text itself shows: behind each closing tag and in front
    of each opening tag of a structural element, around the tags of each raw block, and no two of them
    are empty in a row. In front of an opening tag whose name a line feed ends there may be none. -/
theorem expand_layout (o : Options) (s : Text) :
    ¬ ['\n', '\n', '\n'] <:+: expand o s ∧
    (∀ u w tag v, expand o s = u ++ w → StructuralClose.pattern.front? w = some (tag, v) → LineEnds v) ∧
    (∀ u w tag v, expand o s = u ++ w → StructuralOpen.pattern.front? w = some (tag, v) →
      tag.delimiter ≠ '\n' → LineStarts u) ∧
    (o.formatRawBlocks = true → ∀ ps b qs, rawPattern.pieces (expand o s) = ps ++ .found b :: qs →
      LineStarts (rawPattern.spell ps) ∧ b.content.head? = some '\n' ∧
        b.content.getLast? = some '\n' ∧ LineEnds (rawPattern.spell qs)) := by
  obtain ⟨front, back, blank, split⟩ := exists_ends_of_trim (capFeeds (breakLines o s))
  rw [← expand_eq] at split
  have closes := broken_closes o s
  have opens := broken_opens o s
  rw [split] at closes opens
  refine ⟨?_, ?_, ?_, ?_⟩
  · intro feeds
    apply not_infix_capFeeds (breakLines o s)
    rw [split]
    exact (feeds.trans (List.prefix_append _ back).isInfix).trans (List.suffix_append front _).isInfix
  · intro u w tag v cut found
    rw [cut] at closes
    exact lineEnds_of_close closes found
  · intro u w tag v cut found firm
    rw [cut] at opens
    exact lineStarts_of_open opens found firm
  · intro raw ps b qs cut
    have lines := broken_raw raw s
    rw [split] at lines
    exact lines_of_raw blank lines cut

theorem expand_layout_script_in_division :
    expand {} "x<div a><script>y</script></DIV>z".toList =
        "x\n<div a>\n<script>\ny\n</script>\n</DIV>\nz".toList ∧
      LineStarts "x\n".toList ∧ LineStarts "x\n<div a>\n".toList ∧ LineEnds "\n</DIV>\nz".toList ∧
      LineEnds "\nz".toList := by
  have spread : expand {} "x<div a><script>y</script></DIV>z".toList =
      "x\n<div a>\n<script>\ny\n</script>\n</DIV>\nz".toList := by decide +kernel
  obtain ⟨_, closes, opens, raw⟩ := expand_layout {} "x<div a><script>y</script></DIV>z".toList
  rw [spread] at closes opens raw
  have script : rawPattern.pieces "x\n<div a>\n<script>\ny\n</script>\n</DIV>\nz".toList =
      "x\n<div a>\n".toList.map .plain ++ .found ⟨.script, "script".toList, [], "\ny\n".toList,
        "script".toList⟩ :: "\n</DIV>\nz".toList.map .plain := by decide +kernel
  have lines := raw rfl _ _ _ script
  rw [Pattern.spell_map_plain, Pattern.spell_map_plain] at lines
  refine ⟨spread, ?_, lines.1, lines.2.2.2, ?_⟩
  · exact opens _ "<div a>\n<script>\ny\n</script>\n</DIV>\nz".toList ⟨"div".toList, ' '⟩
      "a>\n<script>\ny\n</script>\n</DIV>\nz".toList (by decide +kernel) (by decide +kernel) (by decide)
  · exact closes "x\n<div a>\n<script>\ny\n</script>\n".toList "</DIV>\nz".toList ⟨"DIV".toList⟩ _
      (by decide +kernel) (by decide +kernel)

/-- The line feed that ends the name of the first tag is one that expanding wrote. -/
example : expand {} "x<p<div>".toList = "x<p\n<div>".toList := by decide +kernel

end HtmlReflow
