import HtmlReflow.Proofs.BreakPlaces
import HtmlReflow.Proofs.StructuralGrammar
import HtmlReflow.Proofs.Trim

namespace HtmlReflow

open Block (closingTagOf)

namespace StructuralOpen

theorem stable : pattern.Stable (fun _ => [[]]) false where
  starts := startsWith
  found := by
    intro s t tag rest r found
    obtain ⟨same, proper⟩ := front?_eq_some.mp found
    rw [text_append_eq] at same
    obtain ⟨_, rfl⟩ := List.cons.inj same
    obtain ⟨t, rfl, r₁⟩ := r.append_left_solid proper.solid
    obtain ⟨t, rfl, r₂⟩ := r₁.keep_left proper.delimiter_ne_left
    exact ⟨tag, t, _, front?_eq_some.mpr ⟨(text_append_eq tag t).symm, proper⟩, r₂, rfl, rfl⟩
  fails := by
    intro s t r fails
    cases found : pattern.front? ('<' :: t) with
    | none => rfl
    | some x =>
      obtain ⟨tag, rest⟩ := x
      obtain ⟨same, proper⟩ := front?_eq_some.mp found
      rw [text_append_eq] at same
      obtain ⟨_, rfl⟩ := List.cons.inj same
      obtain ⟨s, rfl, r₁⟩ := r.append_right_solid proper.solid
      obtain ⟨s, rfl, _⟩ := r₁.keep_right
      have front : pattern.front? ('<' :: (tag.name ++ tag.delimiter :: s)) = some (tag, s) :=
        front?_eq_some.mpr ⟨(text_append_eq tag s).symm, proper⟩
      rw [front] at fails
      cases fails

end StructuralOpen

namespace Block

variable {before : Bool} {e : Verbatim} {s t rest : Text} {b : Block}

theorem closingTag_infix_of_fed {angle : Bool} {name : Text} (folded : name.map foldCase = e.name)
    (r : Fed before angle s t) (n : Nat) (inside : closingTagOf name <:+: t ++ List.replicate n '\n') :
    closingTagOf name <:+: s := by
  have feed : '\n' ∉ closingTagOf name := by
    have solid : '\n' ∉ name := fun member => by
      have blank := (solid_of_folded folded _ member).1
      cases blank
    simp [closingTagOf, solid]
  have short : closingTagOf name <:+: t := by
    induction n with
    | zero => simpa using inside
    | succ n ih =>
      apply ih
      rw [List.replicate_succ', ← List.append_assoc, infix_append_cons_iff feed] at inside
      rcases inside with inside | impossible
      · exact inside
      · rw [List.infix_nil] at impossible
        cases impossible
  obtain ⟨x, y, rfl⟩ := short
  rw [List.append_assoc] at r
  obtain ⟨x', s', angle', rfl, r'⟩ := r.respaced.split_left
  obtain ⟨y', rfl, _⟩ := respaced_closingTag folded r'
  exact ⟨x', y', by simp⟩

/-- A block with line feeds added is a block again, with the line feeds in its attributes and its content. -/
theorem Proper.fed (proper : b.Proper)
    (r : Fed before false (b.name ++ (b.attributes ++ '>' ::
      (b.content ++ (closingTagOf b.closingName ++ rest)))) t) :
    ∃ (b' : Block) (rest' : Text), '<' :: t = b'.text ++ rest' ∧ b'.Proper ∧ b'.element = b.element ∧
      Fed before true rest rest' ∧ feedless b'.openingTag = feedless b.openingTag ∧
      feedless b'.content = feedless b.content ∧ b'.closingTag = b.closingTag := by
  obtain ⟨t₁, rfl, r₁⟩ := r.append_left_solid (solid_of_folded proper.named)
  obtain ⟨attributes, n, t₂, rfl, fedAttributes, r₂⟩ := r₁.cons_append_left
  obtain ⟨content, m, rest', rfl, fedContent, r₃⟩ := r₂.closingTag_left proper.closed
  have feeds : ∀ n, feedless (List.replicate n '\n') = [] := by
    intro n
    simp [feedless]
  have sameAttributes : feedless (attributes ++ List.replicate n '\n') = feedless b.attributes := by
    rw [feedless_append, feeds, List.append_nil, fedAttributes.feedless_eq]
  refine ⟨{ b with
      attributes := attributes ++ List.replicate n '\n'
      content := content ++ List.replicate m '\n' }, rest',
    by simp [text_append_eq], ⟨proper.named, proper.closed, ?_, ?_⟩, rfl, r₃, ?_, ?_, rfl⟩
  · rw [← mem_feedless (by decide), sameAttributes, mem_feedless (by decide)]
    exact proper.angle
  · intro name folded inside
    exact proper.first name folded (closingTag_infix_of_fed folded fedContent m inside)
  · show feedless ('<' :: (b.name ++ ((attributes ++ List.replicate n '\n') ++ ['>']))) = _
    rw [openingTag, feedless_cons (by decide), feedless_cons (by decide), feedless_append,
      feedless_append, sameAttributes, feedless_append, feedless_append]
  · rw [feedless_append, feeds, List.append_nil, fedContent.feedless_eq]

end Block

theorem stable_raw (before : Bool) : rawPattern.Stable Block.borders before where
  starts := Block.startsWith _
  found := by
    intro s t b rest r found
    obtain ⟨proper, member⟩ := Block.proper_of_front? found
    have same := rawPattern.text_append found
    rw [show rawPattern.text b ++ rest = _ from Block.text_append_eq b rest] at same
    obtain ⟨_, rfl⟩ := List.cons.inj same
    obtain ⟨b', rest', written, proper', element, r', opening, content, closing⟩ := proper.fed r
    refine ⟨b', rest', true, ?_, r', ?_, ?_⟩
    · rw [written]
      exact proper'.front? (element ▸ member)
    · simp only [Block.borders, List.map_cons, List.map_nil, breadth, Block.text, feedless_append,
        opening, content, closing]
    · show breadth b'.text = breadth b.text
      simp only [breadth, Block.text, feedless_append, opening, content, closing]
  fails := by
    intro s t r fails
    apply Block.front?_eq_none_iff.mpr
    intro e member opens
    exact Block.front?_eq_none_iff.mp fails e member (opens.respaced r.respaced)

/-- The gaps in which expanding breaks lines, a gap for each break: at the occurrences in the text as it
    is given. -/
def breakPlaces (o : Options) (s : Text) : List Nat :=
  StructuralClose.pattern.places (fun t => [t.text]) s ++
    (StructuralOpen.pattern.places (fun _ => [[]]) s ++
      if o.formatRawBlocks then rawPattern.places Block.borders s else [])

theorem places_opens_breakAfterCloses (s : Text) :
    StructuralOpen.pattern.places (fun _ => [[]]) (breakAfterCloses s) =
      StructuralOpen.pattern.places (fun _ => [[]]) s :=
  StructuralOpen.stable.places_fed (fed_breakAfterCloses s)

theorem places_raw_broken (s : Text) :
    rawPattern.places Block.borders (breakBeforeOpens (breakAfterCloses s)) =
      rawPattern.places Block.borders s := by
  rw [(stable_raw true).places_fed (fed_breakBeforeOpens _),
    (stable_raw false).places_fed (fed_breakAfterCloses s)]

/-- The lines broken, before the number of line feeds is capped and the ends are trimmed. -/
def breakLines (o : Options) (s : Text) : Text :=
  if o.formatRawBlocks then breakRawBlocks (breakBeforeOpens (breakAfterCloses s))
  else breakBeforeOpens (breakAfterCloses s)

theorem expand_eq (o : Options) (s : Text) : expand o s = trim (capFeeds (breakLines o s)) := rfl

theorem feedless_breakLines (o : Options) (s : Text) : feedless (breakLines o s) = feedless s := by
  have structural : feedless (breakBeforeOpens (breakAfterCloses s)) = feedless s := by
    rw [breakBeforeOpens, breaks_opens.feedless_replace, breakAfterCloses, breaks_closes.feedless_replace]
  rw [breakLines]
  split
  · rw [breakRawBlocks, breaks_raw.feedless_replace, structural]
  · exact structural

theorem feedPlaces_breakLines (o : Options) (s : Text) :
    (feedPlaces (breakLines o s)).Perm (feedPlaces s ++ breakPlaces o s) := by
  have closes : (feedPlaces (breakAfterCloses s)).Perm _ := breaks_closes.feedPlaces_replace s
  have opens : (feedPlaces (breakBeforeOpens (breakAfterCloses s))).Perm _ :=
    breaks_opens.feedPlaces_replace (breakAfterCloses s)
  rw [places_opens_breakAfterCloses] at opens
  have structural := opens.trans (closes.append_right _)
  rw [List.append_assoc] at structural
  rw [breakLines, breakPlaces]
  split
  · have raw : (feedPlaces (breakRawBlocks (breakBeforeOpens (breakAfterCloses s)))).Perm _ :=
      breaks_raw.feedPlaces_replace (breakBeforeOpens (breakAfterCloses s))
    rw [places_raw_broken] at raw
    have whole := raw.trans (structural.append_right _)
    rwa [List.append_assoc, List.append_assoc] at whole
  · rwa [List.append_nil]

theorem feedsIn_breakLines (o : Options) (s : Text) (gap : Nat) :
    feedsIn (breakLines o s) gap = feedsIn s gap + (breakPlaces o s).count gap := by
  rw [feedsIn, (feedPlaces_breakLines o s).count_eq, List.count_append, feedsIn]

theorem exists_ends_of_trim (s : Text) :
    ∃ front back, (∀ c ∈ front ++ back, isBlank c = true) ∧ s = front ++ (trim s ++ back) := by
  refine ⟨s.takeWhile isBlank, ((trimStart s).reverse.takeWhile isBlank).reverse, ?_, ?_⟩
  · intro c member
    rcases List.mem_append.mp member with member | member
    · exact List.all_eq_true.mp List.all_takeWhile c member
    · exact List.all_eq_true.mp List.all_takeWhile c (List.mem_reverse.mp member)
  · have last : trim s ++ ((trimStart s).reverse.takeWhile isBlank).reverse = trimStart s := by
      rw [trim, trimEnd, ← List.reverse_append, List.takeWhile_append_dropWhile, List.reverse_reverse]
    rw [last]
    exact (List.takeWhile_append_dropWhile (p := isBlank)).symm

/-- What expanding does, gap by gap. A text is its characters that are no line feeds, with its line feeds
    in the gaps between them; expanding writes the same characters, with one line feed more in a gap for
    each break there but never more than two, and trims the ends. So nothing else is lost but blanks at
    the two ends. -/
theorem expand_eq_spread (o : Options) (s : Text) :
    spread (feedsIn s) (feedless s) = s ∧
      expand o s =
        trim (spread (fun gap => min 2 (feedsIn s gap + (breakPlaces o s).count gap)) (feedless s)) ∧
      ∃ front back, (∀ c ∈ front ++ back, isBlank c = true) ∧
        feedless s = front ++ (feedless (expand o s) ++ back) := by
  have capped : capFeeds (breakLines o s) =
      spread (fun gap => min 2 (feedsIn s gap + (breakPlaces o s).count gap)) (feedless s) := by
    rw [capFeeds_eq_spread, feedless_breakLines]
    simp only [feedsIn_breakLines]
  refine ⟨spread_feedless s, by rw [expand_eq, capped], ?_⟩
  obtain ⟨front, back, blank, split⟩ := exists_ends_of_trim (capFeeds (breakLines o s))
  refine ⟨feedless front, feedless back, ?_, ?_⟩
  · intro c member
    rw [← feedless_append] at member
    exact blank c (List.mem_of_mem_filter member)
  · have parts := congrArg feedless split
    have plain : feedless (feedless s) = feedless s := feedless_eq_self (by simp [feedless])
    rw [feedless_append, feedless_append, ← expand_eq, capped, feedless_spread, plain] at parts
    exact parts

/-- Breaks of four kinds can meet in one gap. -/
example : breakPlaces {} "</p><p><style></style>".toList = [4, 4, 7, 14, 14, 22] ∧
    expand {} "</p><p><style></style>".toList = "</p>\n\n<p>\n<style>\n\n</style>".toList := by
  decide +kernel

end HtmlReflow
