import HtmlReflow.Proofs.CommentGrammar
import HtmlReflow.Proofs.Counting

namespace HtmlReflow

open Comment (opening closing LeftOpen)

variable {keep : Bool} {c : Char} {d : Comment} {s u v w : Text} {ps xs ys : List (Piece Comment)}

/-- What pieces of a text leave of it when comments are dropped. -/
def remaining (keep : Bool) (ps : List (Piece Comment)) : Text :=
  ps.flatMap (Piece.render fun c => if keep && c.isConditional then c.text else [])

theorem stripComments_eq_remaining (keep : Bool) (s : Text) :
    stripComments keep s = remaining keep (Comment.pattern.pieces s) := rfl

theorem remaining_append : remaining keep (xs ++ ys) = remaining keep xs ++ remaining keep ys :=
  List.flatMap_append

theorem remaining_plain : remaining keep (.plain c :: ps) = c :: remaining keep ps := rfl

theorem remaining_kept (kept : (keep && d.isConditional) = true) :
    remaining keep (.found d :: ps) = d.text ++ remaining keep ps := by
  rw [remaining, List.flatMap_cons, Piece.render, if_pos kept, remaining]

theorem remaining_dropped (dropped : ¬ (keep && d.isConditional) = true) :
    remaining keep (.found d :: ps) = remaining keep ps := by
  rw [remaining, List.flatMap_cons, Piece.render, if_neg dropped, remaining, List.nil_append]

/-- What remains starts with the word `u`: it stood there as it is, or around a comment. -/
theorem exists_of_remaining_eq_append (free : '<' ∉ u) (same : remaining keep ps = u ++ w) :
    ∃ ms ys, ps = ms ++ ys ∧ remaining keep ms = u ∧ remaining keep ys = w ∧
      (ms = u.map .plain ∨ ∃ d, .found d ∈ ms) := by
  induction ps generalizing u with
  | nil =>
    obtain ⟨rfl, rfl⟩ := List.append_eq_nil_iff.mp same.symm
    exact ⟨[], [], rfl, rfl, rfl, .inl rfl⟩
  | cons piece ps ih =>
    cases u with
    | nil => exact ⟨[], piece :: ps, rfl, rfl, same, .inl rfl⟩
    | cons c u =>
      cases piece with
      | plain e =>
        rw [remaining_plain] at same
        obtain ⟨rfl, later⟩ := List.cons.inj same
        obtain ⟨ms, ys, rfl, left, right, joined⟩ :=
          ih (fun member => free (List.mem_cons_of_mem e member)) later
        refine ⟨.plain e :: ms, ys, rfl, by rw [remaining_plain, left], right, ?_⟩
        rcases joined with rfl | ⟨d, member⟩
        · exact .inl rfl
        · exact .inr ⟨d, List.mem_cons_of_mem _ member⟩
      | found d =>
        by_cases kept : (keep && d.isConditional) = true
        · rw [remaining_kept kept] at same
          exact absurd ((List.cons.inj same).1 ▸ List.mem_cons_self) free
        · rw [remaining_dropped kept] at same
          obtain ⟨ms, ys, rfl, left, right, _⟩ := ih free same
          exact ⟨.found d :: ms, ys, rfl, by rw [remaining_dropped kept, left], right,
            .inr ⟨d, List.mem_cons_self⟩⟩

/-- A character of what pieces are written as comes from one of them. -/
theorem exists_of_flatMap_eq_append_cons {α β : Type} {f : α → List β} {ps : List α} {v w : List β}
    {c : β} (same : ps.flatMap f = v ++ c :: w) :
    ∃ xs p ys a b, ps = xs ++ p :: ys ∧ f p = a ++ c :: b ∧ v = xs.flatMap f ++ a ∧
      w = b ++ ys.flatMap f := by
  induction ps generalizing v with
  | nil => exact absurd same.symm (by simp)
  | cons p ps ih =>
    have behind : ∀ v', v = f p ++ v' → ps.flatMap f = v' ++ c :: w → ∃ xs q ys a b,
        p :: ps = xs ++ q :: ys ∧ f q = a ++ c :: b ∧ v = xs.flatMap f ++ a ∧ w = b ++ ys.flatMap f := by
      rintro v' rfl later
      obtain ⟨xs, q, ys, a, b, rfl, cut, rfl, right⟩ := ih later
      exact ⟨p :: xs, q, ys, a, b, rfl, cut, by rw [List.flatMap_cons, List.append_assoc], right⟩
    rw [List.flatMap_cons] at same
    rcases List.append_eq_append_iff.mp same with ⟨v', front, later⟩ | ⟨b, front, later⟩
    · exact behind v' front later
    · rcases List.cons_eq_append_iff.mp later with ⟨rfl, later⟩ | ⟨b, rfl, right⟩
      · exact behind [] (by simp [front]) later.symm
      · exact ⟨[], p, ps, v, b, rfl, front, rfl, right⟩

/-- A `<` that remains stood by itself or in a comment that is kept. -/
theorem exists_of_remaining_eq_left (same : remaining keep ps = v ++ '<' :: w) :
    (∃ xs ys, ps = xs ++ .plain '<' :: ys ∧ v = remaining keep xs ∧ w = remaining keep ys) ∨
      ∃ xs d ys a b, ps = xs ++ .found d :: ys ∧ (keep && d.isConditional) = true ∧
        d.text = a ++ '<' :: b ∧ v = remaining keep xs ++ a ∧ w = b ++ remaining keep ys := by
  obtain ⟨xs, piece, ys, a, b, cut, inside, left, right⟩ := exists_of_flatMap_eq_append_cons same
  cases piece with
  | plain c =>
    rcases List.cons_eq_append_iff.mp inside with ⟨rfl, here⟩ | ⟨a, _, beyond⟩
    · obtain ⟨rfl, rfl⟩ := List.cons.inj here
      exact .inl ⟨xs, ys, cut, left.trans (List.append_nil _), right⟩
    · exact absurd beyond (by simp)
  | found d =>
    rw [Piece.render] at inside
    split at inside
    · rename_i kept
      exact .inr ⟨xs, d, ys, a, b, cut, kept, inside, left, right⟩
    · exact absurd inside (by simp)

/-- Dropping comments makes a comment that has to be dropped too. The characters of an opening mark
    remain from around a dropped comment, where no comment is open, and a closing mark remains behind. -/
def Rejoins (keep : Bool) (s : Text) : Prop :=
  ∃ xs ms ys, Comment.pattern.pieces s = xs ++ (ms ++ ys) ∧ (∃ d, .found d ∈ ms) ∧
    remaining keep ms = opening ∧ closing <:+: remaining keep ys ∧
    ¬ (keep = true ∧ ['[', 'i', 'f'] <+: remaining keep ys) ∧ ¬ LeftOpen (remaining keep xs)

theorem exists_dropped_of_rejoins (rejoins : Rejoins keep s) :
    ∃ d, .found d ∈ Comment.pattern.pieces (stripComments keep s) ∧
      ¬ (keep && d.isConditional) = true := by
  obtain ⟨xs, ms, ys, cut, _, mark, closed, plain, apart⟩ := rejoins
  cases front : Comment.pattern.front? (opening ++ remaining keep ys) with
  | none => exact absurd closed (Comment.front?_opening_eq_none.mp front)
  | some x =>
    obtain ⟨d, rest⟩ := x
    obtain ⟨written, _⟩ := Comment.front?_eq_some.mp front
    have inner : remaining keep ys = d.body ++ (closing ++ rest) := by
      simpa [Comment.text, opening] using written
    refine ⟨d, ?_, fun kept => plain ?_⟩
    · rw [stripComments_eq_remaining, cut, remaining_append, remaining_append, mark, opening,
        List.cons_append, Comment.pieces_append (.inl apart)]
      have scanned : Comment.pattern.pieces (opening ++ remaining keep ys) = _ :=
        Comment.pattern.pieces_of_some front
      exact List.mem_append_right _ (scanned ▸ List.mem_cons_self)
    · obtain ⟨on, conditional⟩ := Bool.and_eq_true_iff.mp kept
      rw [inner]
      exact ⟨on, (Comment.isConditional_iff d rest).mp conditional⟩

/-- Pieces whose comments are all kept remain as they are. -/
theorem remaining_eq_spell (kept : ∀ d, .found d ∈ ps → (keep && d.isConditional) = true) :
    remaining keep ps = Comment.pattern.spell ps := by
  induction ps with
  | nil => rfl
  | cons piece ps ih =>
    have later := ih fun d member => kept d (List.mem_cons_of_mem _ member)
    cases piece with
    | plain c => rw [remaining_plain, later, Pattern.spell_plain, List.singleton_append]
    | found d => rw [remaining_kept (kept d List.mem_cons_self), later, Pattern.spell_found]; rfl

theorem not_found_of_unclosed (unclosed : ¬ closing <:+: Comment.pattern.spell ps) : .found d ∉ ps := by
  intro member
  obtain ⟨xs, ys, rfl⟩ := List.append_of_mem member
  apply unclosed
  rw [Pattern.spell_append, Pattern.spell_found, show Comment.pattern.text d = d.text from rfl, Comment.text]
  exact ⟨Comment.pattern.spell xs ++ (opening ++ d.body), Comment.pattern.spell ys, by simp⟩

/-- An opening mark that stood in the text was not closed there, and nothing behind it is dropped. -/
theorem unclosed_of_opening (cut : Comment.pattern.pieces s =
    xs ++ .plain '<' :: (['!', '-', '-'].map .plain ++ ys)) : ¬ closing <:+: remaining keep ys := by
  have none := Comment.pattern.front?_plain '<' cut
  rw [Pattern.spell_append, Pattern.spell_map_plain] at none
  have unclosed := Comment.front?_opening_eq_none.mp none
  rwa [remaining_eq_spell fun d member => absurd member (not_found_of_unclosed unclosed)]

/-- What a scan finds from a `<` in a kept comment on is that comment: further inside it is open. -/
theorem kept_of_inside {e : Comment} {a b x z : Text} (proper : d.Proper) (proper' : e.Proper)
    (kept : (keep && e.isConditional) = true) (inside : e.text = a ++ '<' :: b)
    (same : d.text ++ x = '<' :: (b ++ z)) (apart : ¬ LeftOpen (v ++ a)) :
    (keep && d.isConditional) = true := by
  by_cases start : a = []
  · rw [start, List.nil_append] at inside
    rw [← List.cons_append, ← inside] at same
    have found := Comment.front?_eq_some.mpr ⟨same, proper'⟩
    rw [Comment.front?_eq_some.mpr ⟨rfl, proper⟩] at found
    rwa [(Prod.mk.inj (Option.some.inj found)).1]
  · obtain ⟨a, rfl⟩ := e.opening_prefix inside start
    have conditional := (Bool.and_eq_true_iff.mp kept).2
    exact absurd (Comment.leftOpen_append v
      (proper'.unclosed conditional inside (List.cons_ne_nil _ _))) apart

/-- A comment that has to be dropped once comments are dropped opens with a `<` that stood by itself and
    goes on around a comment that was dropped. -/
theorem exists_rejoined (member : .found d ∈ Comment.pattern.pieces (stripComments keep s))
    (dropped : ¬ (keep && d.isConditional) = true) :
    ∃ xs ms ys, Comment.pattern.pieces s = xs ++ .plain '<' :: (ms ++ ys) ∧ (∃ e, .found e ∈ ms) ∧
      remaining keep ms = ['!', '-', '-'] ∧ closing <:+: remaining keep ys ∧
      ¬ (keep = true ∧ ['[', 'i', 'f'] <+: remaining keep ys) ∧ ¬ LeftOpen (remaining keep xs) := by
  obtain ⟨ps, qs, cut⟩ := List.append_of_mem member
  have proper := Comment.proper_of_mem member
  have apart := Comment.not_leftOpen cut
  have whole : remaining keep (Comment.pattern.pieces s) = Comment.pattern.spell ps ++ '<' ::
      (['!', '-', '-'] ++ (d.body ++ (closing ++ Comment.pattern.spell qs))) := by
    rw [← stripComments_eq_remaining, ← Comment.pattern.spell_pieces (stripComments keep s), cut,
      Pattern.spell_append, Pattern.spell_found]
    simp [show Comment.pattern.text d = d.text from rfl, Comment.text, opening]
  rcases exists_of_remaining_eq_left whole with
    ⟨xs, behind, split, left, rejoined⟩ | ⟨xs, e, ys, a, b, split, kept, inside, left, right⟩
  · obtain ⟨ms, ys, rfl, mark, rest, joined⟩ :=
      exists_of_remaining_eq_append (u := ['!', '-', '-']) (by decide) rejoined.symm
    have closed : closing <:+: remaining keep ys := by
      rw [rest]
      exact List.infix_append' _ _ _
    rcases joined with rfl | between
    · exact absurd closed (unclosed_of_opening split)
    · refine ⟨xs, ms, ys, split, between, mark, closed, ?_, left ▸ apart⟩
      rw [rest]
      rintro ⟨on, front⟩
      exact dropped (Bool.and_eq_true_iff.mpr ⟨on, (Comment.isConditional_iff d _).mpr front⟩)
  · have found : .found e ∈ Comment.pattern.pieces s :=
      split ▸ List.mem_append_right xs List.mem_cons_self
    have same : d.text ++ Comment.pattern.spell qs = '<' :: (b ++ remaining keep ys) := by
      rw [← right]
      simp [Comment.text, opening]
    rw [left] at apart
    exact absurd (kept_of_inside proper (Comment.proper_of_mem found) kept inside same apart) dropped

theorem rejoins_of_mem (member : .found d ∈ Comment.pattern.pieces (stripComments keep s))
    (dropped : ¬ (keep && d.isConditional) = true) : Rejoins keep s := by
  obtain ⟨xs, ms, ys, split, ⟨e, between⟩, mark, others⟩ := exists_rejoined member dropped
  exact ⟨xs, .plain '<' :: ms, ys, split, ⟨e, List.mem_cons_of_mem _ between⟩,
    by rw [remaining_plain, mark, opening], others⟩

/-- A text keeps its comments exactly if none of them is to be dropped. -/
theorem stripComments_eq_self_iff : stripComments keep s = s ↔
    ∀ d, .found d ∈ Comment.pattern.pieces s → (keep && d.isConditional) = true := by
  constructor
  · intro same d member
    by_contra dropped
    have whole : s.countP (fun _ => true) ≤ (stripComments keep s).countP fun _ => true := by rw [same]
    have gone := Comment.pattern.le_of_countP_replace (fun e _ => by
      split
      · exact Nat.le_refl _
      · exact Nat.zero_le _) whole member
    rw [if_neg dropped] at gone
    simp [Comment.pattern, Comment.text, opening] at gone
  · intro kept
    apply Comment.pattern.replace_eq_self
    intro d member
    rw [if_pos (kept d member)]
    rfl

/-- One pass drops every comment that has to be dropped, and a second one drops nothing more, exactly if
    no comment is rejoined. -/
theorem stripComments_settles_iff (keep : Bool) (s : Text) :
    ((∀ d, .found d ∈ Comment.pattern.pieces (stripComments keep s) →
        (keep && d.isConditional) = true) ↔ ¬ Rejoins keep s) ∧
      (stripComments keep (stripComments keep s) = stripComments keep s ↔ ¬ Rejoins keep s) := by
  have settles : (∀ d, .found d ∈ Comment.pattern.pieces (stripComments keep s) →
      (keep && d.isConditional) = true) ↔ ¬ Rejoins keep s := by
    constructor
    · intro kept rejoins
      obtain ⟨d, member, dropped⟩ := exists_dropped_of_rejoins rejoins
      exact dropped (kept d member)
    · intro settled d member
      by_contra dropped
      exact settled (rejoins_of_mem member dropped)
  exact ⟨settles, stripComments_eq_self_iff.trans settles⟩

theorem rejoined_comment_not_dropped :
    .found ⟨" b ".toList⟩ ∈ Comment.pattern.pieces (stripComments false "<!<!-- a -->-- b -->".toList) ∧
      .found ⟨" b ".toList⟩ ∈ Comment.pattern.pieces (stripComments true "<!<!-- a -->-- b -->".toList) ∧
      (⟨" b ".toList⟩ : Comment).isConditional = false ∧
      stripComments false (stripComments false "<!<!-- a -->-- b -->".toList) ≠
        stripComments false "<!<!-- a -->-- b -->".toList ∧
      stripComments true (stripComments true "<!<!-- a -->-- b -->".toList) ≠
        stripComments true "<!<!-- a -->-- b -->".toList := by
  decide +kernel

end HtmlReflow
