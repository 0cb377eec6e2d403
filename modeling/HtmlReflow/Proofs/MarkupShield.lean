import HtmlReflow.Proofs.BlockScan
import HtmlReflow.Proofs.MarkupBreaks
import HtmlReflow.Proofs.Placeholder

namespace HtmlReflow

open Block (Opens closingTagOf)

namespace Markup

variable {e : Verbatim} {n : Nat} {m m' : Markup} {cs : List Text} {s t u body name closing : Text}
  {left left' : Option Text}

/-- A tag starts a block of an element if a tag behind it ends one. -/
def OpensBlock (e : Verbatim) (body : Text) : Prop :=
  ∃ name attributes, body = name ++ attributes ∧ name.map foldCase = e.name

def ClosesBlock (e : Verbatim) (body : Text) : Prop :=
  ∃ name, body = '/' :: name ∧ name.map foldCase = e.name

theorem mem_bodies (sound : m.Sound) (plain : Plain body) (written : m.spell = u ++ '<' :: (body ++ '>' :: s)) :
    body ∈ m.bodies := by
  induction m generalizing u with
  | text t =>
    have member : '<' ∈ t := by
      rw [show t = _ from written]
      simp
    exact absurd member sound.1
  | tag t b m ih =>
    obtain ⟨plainText, plainBody, later⟩ := sound
    rw [spell] at written
    obtain ⟨k, rfl⟩ := prefix_of_append_eq_append_cons plainText.1 written
    rw [List.append_assoc] at written
    have behind := List.append_cancel_left written
    cases k with
    | nil =>
      have inner : b ++ '>' :: m.spell = body ++ '>' :: s := (List.cons.inj behind).2
      have same := (append_cons_inj_of_notMem_left plainBody.2 plain.2 inner).1
      rw [bodies, same]
      exact List.mem_cons_self
    | cons c k =>
      have inner : (b ++ ['>']) ++ m.spell = k ++ '<' :: (body ++ '>' :: s) := by
        simpa using (List.cons.inj behind).2
      have free : '<' ∉ b ++ ['>'] := by simp [plainBody.1]
      obtain ⟨k, rfl⟩ := prefix_of_append_eq_append_cons free inner
      rw [List.append_assoc (b ++ ['>'])] at inner
      exact List.mem_cons_of_mem b (ih later (List.append_cancel_left inner))

theorem exists_of_mem_bodies (member : body ∈ m.bodies) :
    ∃ u s, m.spell = u ++ '<' :: (body ++ '>' :: s) := by
  induction m with
  | text t => cases member
  | tag t b m ih =>
    rcases List.mem_cons.mp member with rfl | member
    · exact ⟨t, m.spell, rfl⟩
    · obtain ⟨u, s, written⟩ := ih member
      exact ⟨t ++ '<' :: (b ++ '>' :: u), s, by rw [spell, written]; simp⟩

/-- Whether a block starts at a tag is a matter of that tag and of those behind it. -/
theorem opens_iff (sound : m.Sound) (plain : Plain body) :
    Opens e (body ++ '>' :: m.spell) ↔ OpensBlock e body ∧ ∃ b ∈ m.bodies, ClosesBlock e b := by
  constructor
  · rintro ⟨name, attributes, content, closing, rest, written, named, closed, free⟩
    have right : '>' ∉ name ++ attributes := by
      simp [(solid_of_folded named).right_free, free]
    rw [← List.append_assoc] at written
    obtain ⟨rfl, behind⟩ := append_cons_inj_of_notMem_left plain.2 right written
    have split : m.spell = content ++ '<' :: ('/' :: closing ++ '>' :: rest) := by
      rw [behind]
      simp [closingTagOf]
    have solid : Solid ('/' :: closing) := Block.solid_slash_of_folded closed
    exact ⟨⟨name, attributes, rfl, named⟩, _, mem_bodies sound solid.plain split, closing, rfl, closed⟩
  · rintro ⟨⟨name, attributes, rfl, named⟩, b, member, closing, rfl, closed⟩
    obtain ⟨u, s, written⟩ := exists_of_mem_bodies member
    refine ⟨name, attributes, u, closing, s, ?_, named, closed, fun inside => ?_⟩
    · rw [written, List.append_assoc]
      simp [closingTagOf]
    · exact plain.2 (List.mem_append_right name inside)

/-- The second markup is the first with placeholders, numbered from `n` on, for the contents of its
    blocks, none of which has a tag in it. -/
inductive Shields : (n : Nat) → Markup → Markup → (contents : List Text) → Prop where
  | text {n : Nat} {t : Text} : Shields n (.text t) (.text t) []
  | tag {n : Nat} {t body : Text} {m m' : Markup} {cs : List Text} :
      (∀ e, OpensBlock e body → ∀ b ∈ m.bodies, ¬ ClosesBlock e b) → Shields n m m' cs →
      Shields n (.tag t body m) (.tag t body m') cs
  | block {n : Nat} {t content : Text} {m m' : Markup} {cs : List Text} (e : Verbatim)
      (name attributes closing : Text) : name.map foldCase = e.name → closing.map foldCase = e.name →
      Shields (n + 1) m m' cs →
      Shields n (.tag t (name ++ attributes) (.tag content ('/' :: closing) m))
        (.tag t (name ++ attributes) (.tag (placeholder n) ('/' :: name) m')) (content :: cs)

theorem pieces_append_plain (plain : Plain t) (s : Text) :
    preservedPattern.pieces (t ++ s) = t.map .plain ++ preservedPattern.pieces s :=
  (Block.startsWith _).pieces_append plain.1 s

theorem shieldedFrom_plains (n : Nat) (t : Text) (ps : List (Piece Block)) :
    shieldedFrom n [] (t.map .plain ++ ps) = t ++ shieldedFrom n [] ps := by
  induction t with
  | nil => rfl
  | cons c t ih => rw [List.map_cons, List.cons_append, shieldedFrom_plain, ih]; rfl

theorem blocksOf_plains (t : Text) (ps : List (Piece Block)) :
    blocksOf (t.map .plain ++ ps) = blocksOf ps := by
  induction t with
  | nil => rfl
  | cons c t ih => exact ih

theorem pieces_tag (sound : Sound (.tag t body m))
    (closed : ∀ e, OpensBlock e body → ∀ b ∈ m.bodies, ¬ ClosesBlock e b) :
    preservedPattern.pieces (spell (.tag t body m)) =
      (t ++ '<' :: (body ++ ['>'])).map .plain ++ preservedPattern.pieces m.spell := by
  obtain ⟨plain, plainBody, later⟩ := sound
  have none : preservedPattern.front? ('<' :: (body ++ '>' :: m.spell)) = none := by
    apply preserved_front?_eq_none_iff.mpr
    intro _ e opens
    obtain ⟨opensBlock, b, member, closes⟩ := (opens_iff later plainBody).mp opens
    exact closed e opensBlock b member closes
  have free : '<' ∉ body ++ ['>'] := by simp [plainBody.1]
  have inTag : preservedPattern.pieces (body ++ '>' :: m.spell) =
      (body ++ ['>']).map .plain ++ preservedPattern.pieces m.spell := by
    have moved := (Block.startsWith [.pre, .script, .style]).pieces_append free m.spell
    rwa [List.append_assoc] at moved
  rw [spell, pieces_append_plain plain, preservedPattern.pieces_cons_of_none none, inTag]
  simp

theorem proper_of_plain {attributes content : Text} (named : name.map foldCase = e.name)
    (closed : closing.map foldCase = e.name) (plain : Plain (name ++ attributes))
    (free : '<' ∉ content) : Block.Proper ⟨e, name, attributes, content, closing⟩ where
  named := named
  closed := closed
  angle := (plain_append.mp plain).2.2
  first := fun _ _ inside => free (inside.subset List.mem_cons_self)

theorem pieces_block {attributes content : Text} (named : name.map foldCase = e.name)
    (closed : closing.map foldCase = e.name)
    (sound : Sound (.tag t (name ++ attributes) (.tag content ('/' :: closing) m))) :
    preservedPattern.pieces (spell (.tag t (name ++ attributes) (.tag content ('/' :: closing) m))) =
      t.map .plain ++ .found ⟨e, name, attributes, content, closing⟩ :: preservedPattern.pieces m.spell := by
  obtain ⟨plain, plainBody, plainContent, _⟩ := sound
  have proper := proper_of_plain named closed plainBody plainContent.1
  have found : preservedPattern.front? (Block.text ⟨e, name, attributes, content, closing⟩ ++ m.spell) =
      some (⟨e, name, attributes, content, closing⟩, m.spell) := proper.front? (mem_preserved e)
  have written : spell (.tag t (name ++ attributes) (.tag content ('/' :: closing) m)) =
      t ++ (Block.text ⟨e, name, attributes, content, closing⟩ ++ m.spell) := by
    rw [Block.text_append_eq]
    simp [spell, closingTagOf]
  rw [written, pieces_append_plain plain, preservedPattern.pieces_of_some found]

theorem Shields.shield_eq (shields : Shields n m m' cs) (sound : m.Sound) :
    shieldedFrom n [] (preservedPattern.pieces m.spell) = m'.spell ∧
      (blocksOf (preservedPattern.pieces m.spell)).map Block.content = cs := by
  induction shields with
  | text =>
    have pieces := pieces_append_plain sound []
    rw [List.append_nil, Pattern.pieces_nil] at pieces
    rw [spell, pieces, shieldedFrom_plains, blocksOf_plains]
    exact ⟨List.append_nil _, rfl⟩
  | tag closed _ ih =>
    obtain ⟨text, contents⟩ := ih sound.2.2
    rw [pieces_tag sound closed, shieldedFrom_plains, blocksOf_plains, text, spell]
    exact ⟨by simp, contents⟩
  | block e name attributes closing named closed _ ih =>
    obtain ⟨text, contents⟩ := ih sound.2.2.2.2
    rw [pieces_block named closed sound, shieldedFrom_plains, blocksOf_plains, shieldedFrom_found,
      blocksOf_found, text, List.map_cons, contents]
    refine ⟨?_, rfl⟩
    rw [Block.around_append]
    simp [spell, closingTagOf]

/-- Where a content has no `<`, the tag behind that of a block is its closing tag. -/
theorem tag_of_front? (sound : m.Sound) (plain : Plain body) {b : Block} {rest : Text}
    (found : preservedPattern.front? ('<' :: (body ++ '>' :: m.spell)) = some (b, rest))
    (free : '<' ∉ b.content) :
    ∃ m₂ : Markup, body = b.name ++ b.attributes ∧ m = .tag b.content ('/' :: b.closingName) m₂ ∧
      m₂.spell = rest := by
  obtain ⟨proper, _⟩ := Block.proper_of_front? found
  have written := preservedPattern.text_append found
  rw [show preservedPattern.text b ++ rest = _ from Block.text_append_eq b rest, ← List.append_assoc]
    at written
  have right : '>' ∉ b.name ++ b.attributes := by
    simp [(solid_of_folded proper.named).right_free, proper.angle]
  obtain ⟨rfl, behind⟩ := append_cons_inj_of_notMem_left right plain.2 (List.cons.inj written).2
  cases m with
  | text t =>
    have member : '<' ∈ t := by
      rw [show t = _ from behind.symm]
      simp [closingTagOf]
    exact absurd member sound.1
  | tag t body m =>
    obtain ⟨plainText, plainBody, _⟩ := sound
    have inner : b.content ++ '<' :: ('/' :: b.closingName ++ '>' :: rest) =
        t ++ '<' :: (body ++ '>' :: m.spell) := by
      rw [spell] at behind
      rw [← behind]
      simp [closingTagOf]
    obtain ⟨rfl, tag⟩ := append_cons_inj_of_notMem_left free plainText.1 inner
    have solid : Solid ('/' :: b.closingName) := Block.solid_slash_of_folded proper.closed
    obtain ⟨rfl, rest⟩ := append_cons_inj_of_notMem_left solid.right_free plainBody.2 tag
    exact ⟨m, rfl, rfl, rest.symm⟩

theorem exists_shields (sound : m.Sound)
    (free : ∀ b ∈ blocksOf (preservedPattern.pieces m.spell), '<' ∉ b.content) (n : Nat) :
    ∃ m' cs, Shields n m m' cs := by
  generalize hk : m.bodies.length = k
  induction k using Nat.strongRecOn generalizing m n with
  | ind k ih =>
    cases m with
    | text t => exact ⟨_, _, .text⟩
    | tag t body m =>
      rw [bodies, List.length_cons] at hk
      by_cases closed : ∀ e, OpensBlock e body → ∀ b ∈ m.bodies, ¬ ClosesBlock e b
      · rw [pieces_tag sound closed, blocksOf_plains] at free
        obtain ⟨m', cs, shields⟩ := ih _ (by omega) sound.2.2 free n rfl
        exact ⟨_, _, .tag closed shields⟩
      · obtain ⟨plain, plainBody, later⟩ := sound
        have front : preservedPattern.front? ('<' :: (body ++ '>' :: m.spell)) ≠ none := by
          intro none
          apply closed
          intro e opens b member closes
          exact preserved_front?_eq_none_iff.mp none rfl e
            ((opens_iff later plainBody).mpr ⟨opens, b, member, closes⟩)
        obtain ⟨⟨b, rest⟩, found⟩ := Option.ne_none_iff_exists'.mp front
        rw [spell, pieces_append_plain plain, blocksOf_plains, preservedPattern.pieces_of_some found,
          blocksOf_found] at free
        obtain ⟨m, rfl, rfl, rfl⟩ := tag_of_front? later plainBody found (free b List.mem_cons_self)
        obtain ⟨proper, _⟩ := Block.proper_of_front? found
        rw [bodies, List.length_cons] at hk
        obtain ⟨m', cs, shields⟩ := ih _ (by omega) later.2.2
          (fun b member => free b (List.mem_cons_of_mem _ member)) (n + 1) rfl
        exact ⟨_, _, .block b.element b.name b.attributes b.closingName proper.named proper.closed shields⟩

theorem Shields.sound (shields : Shields n m m' cs) (sound : m.Sound) : m'.Sound := by
  induction shields with
  | text => exact sound
  | tag _ _ ih => exact ⟨sound.1, sound.2.1, ih sound.2.2⟩
  | block e name attributes closing named _ _ ih =>
    obtain ⟨plain, plainBody, _, _, later⟩ := sound
    have solid : Solid ('/' :: name) := Block.solid_slash_of_folded named
    exact ⟨plain, plainBody, (solid_placeholder _).plain, solid.plain, ih later⟩

theorem Shields.plain (shields : Shields n m m' cs) (sound : m.Sound) : ∀ content ∈ cs, Plain content := by
  induction shields with
  | text =>
    intro content member
    cases member
  | tag _ _ ih => exact ih sound.2.2
  | block _ _ _ _ _ _ _ ih =>
    intro content member
    rcases List.mem_cons.mp member with rfl | member
    · exact sound.2.2.1
    · exact ih sound.2.2.2.2 content member

theorem bodies_rework (f : Option Text → Option Text → Text → Text) (g : Text → Text)
    (left : Option Text) (m : Markup) : (m.rework f g left).bodies = m.bodies.map g := by
  induction m generalizing left with
  | text t => rfl
  | tag t body m ih => exact congrArg (g body :: ·) (ih (some body))

theorem OpensBlock.of_capFeeds (opens : OpensBlock e (capFeeds body)) : OpensBlock e body := by
  obtain ⟨name, attributes, written, named⟩ := opens
  obtain ⟨attributes', rfl, _⟩ := exists_of_capFeeds_eq_append (solid_of_folded named).feed_free written
  exact ⟨name, attributes', rfl, named⟩

theorem ClosesBlock.of_capFeeds (closes : ClosesBlock e (capFeeds body)) : ClosesBlock e body := by
  obtain ⟨name, written, named⟩ := closes
  have solid : Solid ('/' :: name) := Block.solid_slash_of_folded named
  rw [← List.append_nil ('/' :: name)] at written
  obtain ⟨rest, rfl, empty⟩ := exists_of_capFeeds_eq_append solid.feed_free written
  rw [capFeeds_eq_nil_iff.mp empty.symm, List.append_nil]
  exact ⟨name, rfl, named⟩

/-- No tag around the content of a block is structural. -/
theorem closesStructure_opening (named : name.map foldCase = e.name) (attributes : Text) :
    closesStructure (some (name ++ attributes)) = false := by
  rw [Bool.eq_false_iff]
  intro closes
  obtain ⟨name', same, _⟩ := exists_of_closesStructure closes
  cases name with
  | nil => cases e <;> cases named
  | cons c name =>
    have slash : '/' ∉ c :: name := notMem_of_folded named (by cases e <;> decide)
    rw [List.cons_append] at same
    have first : c = '/' := (List.cons.inj (Option.some.inj same)).1
    exact slash (first ▸ List.mem_cons_self)

theorem closesStructure_closing (named : name.map foldCase = e.name) :
    closesStructure (some ('/' :: name)) = false := by
  apply decide_eq_false
  rw [named]
  cases e <;> decide

theorem opensStructure_slash (name : Text) : opensStructure (some ('/' :: name)) = false := by
  rw [Bool.eq_false_iff]
  intro opens
  obtain ⟨body, tag, rest, same, found⟩ := exists_of_opensStructure opens
  cases same
  obtain ⟨written, proper⟩ := StructuralOpen.front?_eq_some.mp found
  rw [StructuralOpen.text_append_eq] at written
  have inner : '/' :: (name ++ ['>']) = tag.name ++ tag.delimiter :: rest := (List.cons.inj written).2
  have names : ∀ name ∈ structuralNames, name ≠ [] ∧ '/' ∉ name := by decide
  obtain ⟨nonempty, slash⟩ := names _ proper.named
  rcases List.cons_eq_append_iff.mp inner with ⟨empty, _⟩ | ⟨k, front, _⟩
  · rw [empty] at nonempty
    exact nonempty rfl
  · rw [front] at slash
    exact slash List.mem_cons_self

theorem breakBeside_congr (same : closesStructure left = closesStructure left') (right : Option Text)
    (t : Text) : breakBeside left right t = breakBeside left' right t := by
  rw [breakBeside, breakBeside, beforeOpen, beforeOpen, afterClose, afterClose, same]

theorem breakBeside_content (named : name.map foldCase = e.name) (attributes : Text)
    (few : ¬ ['\n', '\n', '\n'] <:+: t) :
    breakBeside (some (name ++ attributes)) (some ('/' :: closing)) t = t := by
  rw [breakBeside, afterClose, beforeOpen, closesStructure_opening named, opensStructure_slash]
  simp only [Bool.false_eq_true, if_false, List.nil_append, List.append_nil]
  exact capFeeds_eq_self few

theorem few_of_solid (solid : Solid t) : ¬ ['\n', '\n', '\n'] <:+: t :=
  fun inside => solid.feed_free (inside.subset List.mem_cons_self)

/-- Lines are broken around the same tags whether contents are shielded or not, and never in a content. -/
theorem Shields.breakStructure (shields : Shields n m m' cs)
    (few : ∀ content ∈ cs, ¬ ['\n', '\n', '\n'] <:+: content)
    (same : closesStructure left = closesStructure left') :
    Shields n (m.breakStructure left) (m'.breakStructure left') cs := by
  induction shields generalizing left left' with
  | text =>
    rw [Markup.breakStructure, Markup.breakStructure, rework, rework, breakBeside_congr same]
    exact .text
  | @tag n t body m m' cs closed _ ih =>
    have later : Shields n (m.breakStructure (some body)) (m'.breakStructure (some body)) cs :=
      ih few rfl
    rw [Markup.breakStructure, Markup.breakStructure, rework, rework, breakBeside_congr same]
    refine .tag (fun e opens b member closes => ?_) later
    rw [bodies_rework] at member
    obtain ⟨b, before, rfl⟩ := List.mem_map.mp member
    exact closed e opens.of_capFeeds b before closes.of_capFeeds
  | @block n t content m m' cs e name attributes closing named closed _ ih =>
    have later : Shields (n + 1) (m.breakStructure (some ('/' :: closing)))
        (m'.breakStructure (some ('/' :: name))) cs :=
      ih (fun content member => few content (List.mem_cons_of_mem _ member))
        ((closesStructure_closing closed).trans (closesStructure_closing named).symm)
    have solidClosing : Solid ('/' :: closing) := Block.solid_slash_of_folded closed
    have solidName : Solid ('/' :: name) := Block.solid_slash_of_folded named
    have opening : capFeeds (name ++ attributes) = name ++ capFeeds attributes :=
      capFeeds_append_of_free (solid_of_folded named).feed_free attributes
    rw [Markup.breakStructure, Markup.breakStructure, rework, rework, rework, rework,
      breakBeside_congr same, opening, breakBeside_content named attributes (few content List.mem_cons_self),
      breakBeside_content named attributes (few_of_solid (solid_placeholder n)),
      capFeeds_eq_self (few_of_solid solidClosing), capFeeds_eq_self (few_of_solid solidName)]
    exact .block e name _ closing named closed later

end Markup
end HtmlReflow
