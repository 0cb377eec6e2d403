import HtmlReflow.Proofs.ExpandLaw
import HtmlReflow.Proofs.FeedCounts
import HtmlReflow.Proofs.NormalForm
import HtmlReflow.Proofs.Occurrences

namespace HtmlReflow

open Block (Opens closingTagOf)

namespace Fed

variable {before angle : Bool} {c : Char} {s t u : Text}

theorem keep_right_of_ne (other : c ≠ '\n') (r : Fed before angle s (c :: t)) :
    ∃ s', s = c :: s' ∧ Fed before (c == '>') s' t := by
  cases r with
  | keep _ r => exact ⟨_, rfl, r⟩
  | feed _ _ => exact absurd rfl other

theorem append_right_of_free (free : '\n' ∉ u) (r : Fed before angle s (u ++ t)) :
    ∃ s' angle', s = u ++ s' ∧ Fed before angle' s' t := by
  induction u generalizing s angle with
  | nil => exact ⟨s, angle, rfl, r⟩
  | cons c u ih =>
    rw [List.mem_cons, not_or] at free
    obtain ⟨s, rfl, next⟩ := r.keep_right_of_ne (Ne.symm free.1)
    obtain ⟨s', angle', rfl, last⟩ := ih free.2 next
    exact ⟨s', angle', rfl, last⟩

theorem feedsIn_le (r : Fed before angle s t) (gap : Nat) : feedsIn s gap ≤ feedsIn t gap := by
  have part : (feedPlaces s).Sublist (feedPlaces t) := by
    induction r with
    | done => exact List.Sublist.slnil
    | keep c _ ih =>
      by_cases feed : c = '\n'
      · subst feed
        rw [feedPlaces_feed, feedPlaces_feed]
        exact ih.cons_cons 0
      · rw [feedPlaces_cons feed, feedPlaces_cons feed]
        exact ih.map _
    | feed _ _ ih =>
      rw [feedPlaces_feed]
      exact ih.cons 0
  exact part.count_le gap

end Fed

theorem fed_breakRawBlocks (s : Text) : Fed true false s (breakRawBlocks s) := by
  induction s using rawPattern.scan_induction with
  | done => rw [breakRawBlocks, Pattern.replace_nil]; exact .done
  | plain c s h ih =>
    rw [breakRawBlocks, Pattern.replace_cons_of_none _ _ h]
    exact .keep c ih.ofFalse
  | found s b rest h ih =>
    have written : b.text ++ rest = ('<' :: (b.name ++ b.attributes)) ++ '>' ::
        (b.content ++ (('<' :: '/' :: b.closingName) ++ '>' :: rest)) := by
      simp [Block.text_append_eq, closingTagOf]
    have broken : b.onLines ++ breakRawBlocks rest = '\n' :: (('<' :: (b.name ++ b.attributes)) ++ '>' ::
        '\n' :: (b.content ++ '\n' :: (('<' :: '/' :: b.closingName) ++ '>' ::
          '\n' :: breakRawBlocks rest))) := by
      simp [Block.onLines, Block.openingTag, Block.closingTag, closingTagOf]
    have closing : Fed true false (('<' :: '/' :: b.closingName) ++ '>' :: rest)
        ('\n' :: (('<' :: '/' :: b.closingName) ++ '>' :: '\n' :: breakRawBlocks rest)) :=
      .feed (.inr ⟨rfl, rfl⟩) (Fed.append_angle _ (.feed (.inl rfl) ih.ofFalse))
    rw [breakRawBlocks, Pattern.replace_of_some _ _ h, ← rawPattern.text_append h]
    show Fed true false (b.text ++ rest) (b.onLines ++ breakRawBlocks rest)
    rw [written, broken]
    exact .feed (.inr ⟨rfl, rfl⟩) (Fed.append_angle _ (.feed (.inl rfl) (closing.append_left _)))

theorem exists_feeds (s : Text) :
    ∃ n t, s = List.replicate n '\n' ++ t ∧ t.head? ≠ some '\n' := by
  induction s with
  | nil => exact ⟨0, [], rfl, by simp⟩
  | cons c s ih =>
    by_cases feed : c = '\n'
    · obtain ⟨n, t, rfl, ends⟩ := ih
      exact ⟨n + 1, t, by rw [feed, List.replicate_succ, List.cons_append], ends⟩
    · exact ⟨0, c :: s, rfl, by simpa using feed⟩

namespace Pattern

variable {α : Type} {p : Pattern α} {borders : α → List Text} {f : α → Text} {before angle : Bool}
  {s t : Text}

/-- Neither added nor capped line feeds change anything about the occurrences but the line feeds in
    them. -/
structure Lasting (p : Pattern α) (borders : α → List Text) : Prop where
  stable : ∀ before, p.Stable borders before
  found : ∀ s a rest, p.front? ('<' :: s) = some (a, rest) →
    ∃ a', p.front? ('<' :: capFeeds s) = some (a', capFeeds rest) ∧
      (borders a').map breadth = (borders a).map breadth ∧ breadth (p.text a') = breadth (p.text a)
  fails : ∀ s, p.front? ('<' :: s) = none → p.front? ('<' :: capFeeds s) = none

theorem Lasting.places_capFeeds (lasting : p.Lasting borders) (s : Text) :
    p.places borders (capFeeds s) = p.places borders s := by
  have stable := lasting.stable true
  -- A run of line feeds is capped as a whole, so the induction is on the length.
  generalize size : s.length = n
  induction n using Nat.strongRecOn generalizing s with
  | ind n ih =>
    obtain ⟨k, t, rfl, ends⟩ := exists_feeds s
    rw [capFeeds_replicate k ends, stable.places_feeds, stable.places_feeds]
    cases t with
    | nil => rw [capFeeds_nil]
    | cons c t =>
      have other : c ≠ '\n' := fun feed => ends (by rw [feed]; rfl)
      have shorter : t.length < n := by
        rw [List.length_append, List.length_cons] at size
        omega
      rw [capFeeds_cons other]
      by_cases left : c = '<'
      · subst left
        cases front : p.front? ('<' :: t) with
        | none =>
          rw [places_cons_of_none front, places_cons_of_none (lasting.fails t front),
            ih _ shorter t rfl]
        | some x =>
          obtain ⟨a, rest⟩ := x
          obtain ⟨a', front', sameBorders, sameText⟩ := lasting.found t a rest front
          have further : rest.length < n := by
            have bound := p.length_lt front
            rw [List.length_cons] at bound
            omega
          rw [places_of_some front, places_of_some front', ih _ further rest rfl, sameBorders, sameText]
      · rw [places_cons_of_none (stable.starts c t left),
          places_cons_of_none (stable.starts c _ left), ih _ shorter t rfl]

/-- At every border of an occurrence the line is broken. -/
def Broken (p : Pattern α) (borders : α → List Text) (s : Text) : Prop :=
  ∀ gap ∈ p.places borders s, 0 < feedsIn s gap

theorem Lasting.broken_replace (lasting : p.Lasting borders) (breaks : p.Breaks f borders)
    (r : Fed before angle s (p.replace f s)) : p.Broken borders (p.replace f s) := by
  intro gap member
  rw [(lasting.stable before).places_fed r] at member
  rw [feedsIn, (breaks.feedPlaces_replace s).count_eq, List.count_append]
  have here := List.count_pos_iff.mpr member
  omega

theorem Broken.fed (broken : p.Broken borders s) (lasting : p.Lasting borders)
    (r : Fed before angle s t) : p.Broken borders t := by
  intro gap member
  rw [(lasting.stable before).places_fed r] at member
  exact Nat.lt_of_lt_of_le (broken gap member) (r.feedsIn_le gap)

theorem Broken.capFeeds (broken : p.Broken borders s) (lasting : p.Lasting borders) :
    p.Broken borders (capFeeds s) := by
  intro gap member
  rw [lasting.places_capFeeds] at member
  have here := broken gap member
  rw [feedsIn_capFeeds]
  omega

end Pattern

namespace Pattern

variable {α : Type} {p : Pattern α} {body : α → Text} {last : α → Char} {Good : α → Prop}

/-- Every occurrence is a `<`, a word and one more character, and is one wherever it is written. -/
structure Worded (p : Pattern α) (body : α → Text) (last : α → Char) (Good : α → Prop) : Prop where
  front?_eq_some : ∀ s a rest,
    p.front? s = some (a, rest) ↔ s = '<' :: (body a ++ last a :: rest) ∧ Good a
  solid : ∀ a, Good a → Solid (body a)
  last_ne : ∀ a, Good a → last a ≠ '<' ∧ last a ≠ '\n'

theorem Worded.text_eq (worded : p.Worded body last Good) {a : α} (good : Good a) :
    p.text a = '<' :: (body a ++ [last a]) := by
  have front := (worded.front?_eq_some _ a []).mpr ⟨rfl, good⟩
  have written := p.text_append front
  rwa [List.append_nil] at written

theorem Worded.startsWith (worded : p.Worded body last Good) : p.StartsWith '<' := by
  intro c s other
  cases found : p.front? (c :: s) with
  | none => rfl
  | some x =>
    obtain ⟨same, _⟩ := (worded.front?_eq_some _ x.1 x.2).mp found
    exact absurd (List.cons.inj same).1 other

theorem Worded.sparse (worded : p.Worded body last Good) : p.Sparse where
  starts := worded.startsWith
  single := by
    intro s a rest found
    obtain ⟨_, good⟩ := (worded.front?_eq_some s a rest).mp found
    refine ⟨_, worded.text_eq good, ?_⟩
    simp [(worded.solid a good).left_free, Ne.symm (worded.last_ne a good).1]

theorem Worded.feed_free (worded : p.Worded body last Good) {a : α} (good : Good a) :
    '\n' ∉ body a ++ [last a] := by
  simp [(worded.solid a good).feed_free, Ne.symm (worded.last_ne a good).2]

/-- A place at which nothing is found stays so, if every word behind it was there before. -/
theorem Worded.fails (worded : p.Worded body last Good) {s t : Text}
    (kept : ∀ u t', '\n' ∉ u → t = u ++ t' → ∃ s', s = u ++ s') (fails : p.front? ('<' :: s) = none) :
    p.front? ('<' :: t) = none := by
  cases found : p.front? ('<' :: t) with
  | none => rfl
  | some x =>
    obtain ⟨a, rest⟩ := x
    obtain ⟨same, good⟩ := (worded.front?_eq_some _ a rest).mp found
    rw [List.append_cons] at same
    obtain ⟨s', rfl⟩ := kept _ rest (worded.feed_free good) (List.cons.inj same).2
    rw [← List.append_cons, (worded.front?_eq_some _ a s').mpr ⟨rfl, good⟩] at fails
    cases fails

theorem Worded.lasting (worded : p.Worded body last Good) (borders : α → List Text) :
    p.Lasting borders where
  stable := by
    intro before
    refine ⟨worded.startsWith, fun s t a rest r found => ?_, fun s t r fails => ?_⟩
    · obtain ⟨same, good⟩ := (worded.front?_eq_some _ a rest).mp found
      obtain ⟨_, rfl⟩ := List.cons.inj same
      obtain ⟨t, rfl, r₁⟩ := r.append_left_solid (worded.solid a good)
      obtain ⟨t, rfl, r₂⟩ := r₁.keep_left (worded.last_ne a good).1
      exact ⟨a, t, _, (worded.front?_eq_some _ a t).mpr ⟨rfl, good⟩, r₂, rfl, rfl⟩
    · refine worded.fails (fun u t' free same => ?_) fails
      subst same
      obtain ⟨s', _, rfl, _⟩ := r.append_right_of_free free
      exact ⟨s', rfl⟩
  found := by
    intro s a rest found
    obtain ⟨same, good⟩ := (worded.front?_eq_some _ a rest).mp found
    obtain ⟨_, rfl⟩ := List.cons.inj same
    refine ⟨a, (worded.front?_eq_some _ a _).mpr ⟨?_, good⟩, rfl, rfl⟩
    rw [capFeeds_append_of_free (worded.solid a good).feed_free, capFeeds_cons (worded.last_ne a good).2]
  fails := by
    intro s fails
    refine worded.fails (fun u t' free same => ?_) fails
    obtain ⟨s', rfl, _⟩ := exists_of_capFeeds_eq_append free same
    exact ⟨s', rfl⟩

end Pattern

theorem StructuralClose.worded : StructuralClose.pattern.Worded (fun tag => '/' :: tag.name)
    (fun _ => '>') (fun tag => tag.name.map foldCase ∈ structuralNames) where
  front?_eq_some := by
    intro s tag rest
    rw [front?_eq_some, text_append_eq, List.cons_append]
  solid := by
    intro tag named c member
    rcases List.mem_cons.mp member with rfl | member
    · decide
    · exact solid_of_structuralName named c member
  last_ne := fun _ _ => by decide

/-- The fronts of opening tags that no line feed ends. Behind an unfinished tag expanding may write one
    itself, and make the front of a tag of it. -/
def StructuralOpen.firmPattern : Pattern StructuralOpen where
  front? s := (StructuralOpen.front? s).filter fun x => x.1.delimiter != '\n'
  text := text
  text_append := by
    intro s tag rest found
    exact StructuralOpen.pattern.text_append (Option.filter_eq_some_iff.mp found).1
  text_ne_nil := by
    intro s tag rest _
    simp [text]

theorem StructuralOpen.firm_front?_eq_some {s rest : Text} {tag : StructuralOpen} :
    firmPattern.front? s = some (tag, rest) ↔
      pattern.front? s = some (tag, rest) ∧ tag.delimiter ≠ '\n' := by
  show (StructuralOpen.front? s).filter _ = _ ↔ _
  rw [Option.filter_eq_some_iff, bne_iff_ne]
  rfl

theorem StructuralOpen.worded : StructuralOpen.firmPattern.Worded StructuralOpen.name
    StructuralOpen.delimiter (fun tag => tag.Proper ∧ tag.delimiter ≠ '\n') where
  front?_eq_some := by
    intro s tag rest
    rw [firm_front?_eq_some, front?_eq_some, text_append_eq, and_assoc]
  solid := fun _ good => good.1.solid
  last_ne := fun _ good => ⟨good.1.delimiter_ne_left, good.2⟩

theorem StructuralOpen.sparse : StructuralOpen.pattern.Sparse where
  starts := startsWith
  single := by
    intro s tag rest found
    obtain ⟨_, proper⟩ := front?_eq_some.mp found
    refine ⟨tag.name ++ [tag.delimiter], rfl, ?_⟩
    simp [proper.solid.left_free, Ne.symm proper.delimiter_ne_left]

/-- A block with its line feeds capped is a block again. -/
theorem Block.Proper.capped {b : Block} (proper : b.Proper) (rest : Text) :
    ∃ b' : Block, capFeeds (b.name ++ (b.attributes ++ '>' ::
        (b.content ++ (closingTagOf b.closingName ++ rest)))) =
        b'.name ++ (b'.attributes ++ '>' ::
          (b'.content ++ (closingTagOf b'.closingName ++ capFeeds rest))) ∧
      b'.Proper ∧ b'.element = b.element ∧ feedless b'.openingTag = feedless b.openingTag ∧
      feedless b'.content = feedless b.content ∧ b'.closingTag = b.closingTag := by
  refine ⟨{ b with attributes := capFeeds b.attributes, content := capFeeds b.content }, ?_,
    ⟨proper.named, proper.closed, ?_, ?_⟩, rfl, ?_, feedless_capFeeds _, rfl⟩
  · have closing : closingTagOf b.closingName ++ rest = '<' :: (('/' :: b.closingName) ++ '>' :: rest) := by
      simp [closingTagOf]
    rw [capFeeds_append_of_free (solid_of_folded proper.named).feed_free, capFeeds_append_cons (by decide),
      closing, capFeeds_append_cons (by decide),
      capFeeds_append_of_free (solid_slash_of_folded proper.closed).feed_free, capFeeds_cons (by decide)]
    simp [closingTagOf]
  · exact fun member => proper.angle ((capFeeds_sublist _).subset member)
  · rintro name folded ⟨u, v, same⟩
    have r := respaced_capFeeds b.content
    rw [← show _ = capFeeds b.content from same, List.append_assoc] at r
    obtain ⟨u', s, _, written, _, r'⟩ := r.split_right
    obtain ⟨gone, s', rfl, _⟩ := closingTag_of_respaced r' folded
    exact proper.first name folded ⟨u' ++ gone, s', by rw [written]; simp⟩
  · show feedless ('<' :: (b.name ++ (capFeeds b.attributes ++ ['>']))) = _
    rw [openingTag, feedless_cons (by decide), feedless_cons (by decide), feedless_append, feedless_append,
      feedless_append, feedless_append, feedless_capFeeds]

theorem lasting_raw : rawPattern.Lasting Block.borders where
  stable := stable_raw
  found := by
    intro s b rest found
    obtain ⟨proper, member⟩ := Block.proper_of_front? found
    have same := rawPattern.text_append found
    rw [show rawPattern.text b ++ rest = _ from Block.text_append_eq b rest] at same
    obtain ⟨_, rfl⟩ := List.cons.inj same
    obtain ⟨b', written, proper', element, opening, content, closing⟩ := proper.capped rest
    refine ⟨b', ?_, ?_, ?_⟩
    · rw [written, ← Block.text_append_eq]
      exact proper'.front? (element ▸ member)
    · simp only [Block.borders, List.map_cons, List.map_nil, breadth, Block.text, feedless_append,
        opening, content, closing]
    · show breadth b'.text = breadth b.text
      simp only [breadth, Block.text, feedless_append, opening, content, closing]
  fails := by
    intro s fails
    apply Block.front?_eq_none_iff.mpr
    intro e member opens
    exact Block.front?_eq_none_iff.mp fails e member (opens.of_respaced (respaced_capFeeds s))

end HtmlReflow
