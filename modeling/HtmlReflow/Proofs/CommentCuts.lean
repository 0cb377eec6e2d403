import HtmlReflow.Proofs.CommentRemoval
import HtmlReflow.Proofs.Restorable
import HtmlReflow.Proofs.KeptComments
import HtmlReflow.Proofs.OutsideTags
import HtmlReflow.Proofs.RejoinedComments

namespace HtmlReflow

open Marked

/-- No placeholder reaches out of the first text into the second or stands at the front of the second. -/
def Unjoined (u v : Text) : Prop := ∀ i a b, placeholder i = a ++ b → b ≠ [] → a <:+ u → ¬ b <+: v

theorem unjoined_cons {c : Char} {u v : Text} (foreign : Foreign c) : Unjoined u (c :: v) := by
  rintro i a b whole nonempty _ front
  obtain ⟨d, b, rfl⟩ := List.exists_cons_of_ne_nil nonempty
  obtain ⟨rfl, _⟩ := List.cons_prefix_cons.mp front
  exact foreign i (whole ▸ List.mem_append_right a List.mem_cons_self)

/-- Each comment that is removed stands outside of tags, and what stands around it makes up no
    placeholder. -/
def CommentsApart (s : Text) : Prop :=
  ∀ xs d ys, Comment.pattern.pieces (shield s).text = xs ++ .found d :: ys → d.isConditional = false →
    OutsideTags (remaining true xs) ∧ Unjoined (remaining true xs) (Comment.pattern.spell ys)

variable {f : Nat → Text} {m x y z : Marked} {ps ls rs : List (Piece Block)} {d : Comment} {s : Text} {i : Nat}

theorem Unjoined.not_mark {u : Text} (unjoined : Unjoined u (spell placeholder y)) :
    ¬ [.found i] <+: y := by
  rintro ⟨rest, rfl⟩
  refine unjoined i [] (placeholder i) rfl (placeholder_ne_nil i) List.nil_suffix ?_
  rw [spell_append, spell_found]
  simp

/-- A placeholder in the pieces on both sides of a cut reaches over it, with no mark in between. -/
theorem Unjoined.clean (unjoined : Unjoined (spell placeholder x) (spell placeholder y))
    (first : Marking f x ls) (last : Marking f y rs) (before : ¬ placeholder i <:+: spellPieces ls)
    (behind : ¬ placeholder i <:+: spellPieces rs) : ¬ placeholder i <:+: spellPieces (ls ++ rs) := by
  intro inside
  rw [spellPieces_append] at inside
  rcases List.infix_append_iff.mp inside with there | there | ⟨a, b, cut, back, front⟩
  · exact before there
  · exact behind there
  · by_cases empty : b = []
    · rw [empty, List.append_nil] at cut
      exact before (cut ▸ back.isInfix)
    · have solid := solid_placeholder i
      have free : '>' ∉ a := fun member => solid.right_free (cut ▸ List.mem_append_left b member)
      have free' : '<' ∉ b := fun member => solid.left_free (cut ▸ List.mem_append_right a member)
      exact unjoined i a b cut empty (first.back free back) ((last.prefix_iff free').mp front)

/-- A comment that stands outside of tags takes whole pieces with it. -/
theorem Marking.exists_cut (marking : Marking f (x ++ ((z ++ [.plain '>']) ++ y)) ps)
    (proper : ∀ b, .found b ∈ ps → b.Proper) (comment : spell placeholder (z ++ [.plain '>']) = d.text)
    (outside : OutsideTags (spell placeholder x)) (right : ∀ i, ¬ [.found i] <+: y) :
    ∃ ls ms rs, ps = ls ++ (ms ++ rs) ∧ Marking f x ls ∧ Marking f y rs := by
  have opened : spell placeholder ((z ++ [.plain '>']) ++ y) =
      '<' :: '!' :: ('-' :: '-' :: (d.body ++ (Comment.closing ++ spell placeholder y))) := by
    rw [spell_append, comment]
    simp [Comment.text, Comment.opening]
  -- A mark has a closing tag behind it, so none stands in front of the comment.
  have left : ∀ i, ¬ [.found i] <:+ x := by
    rintro i ⟨x, rfl⟩
    have closed := marking.closed
    rw [List.append_assoc, List.singleton_append] at closed
    obtain ⟨rest, tag⟩ := closed.right.1
    rw [tag] at opened
    cases (List.cons.inj (List.cons.inj opened).2).1
  have inner : ∀ i, ¬ [.found i] <+: (z ++ [.plain '>']) ++ y := by
    rintro i ⟨rest, mark⟩
    obtain ⟨tail, whole, _⟩ := exists_placeholder_eq i
    rw [← mark, List.singleton_append, spell_found, whole] at opened
    cases (List.cons.inj opened).1
  obtain ⟨ls, behind, rfl, first, later⟩ := marking.split proper outside left inner
  have ended : OutsideTags (spell placeholder (z ++ [.plain '>'])) := by
    rw [spell_append]
    exact outsideTags_append_angle.mpr outsideTags_nil
  obtain ⟨ms, rs, rfl, _, last⟩ := later.split (fun b member => proper b (List.mem_append_right ls member))
    ended (by simp) right
  exact ⟨ls, ms, rs, rfl, first, last⟩

/-- A comment that stands outside of tags can be taken out. -/
theorem Restorable.cut (restorable : Restorable f (x ++ ((z ++ [.plain '>']) ++ y)) ps)
    (comment : spell placeholder (z ++ [.plain '>']) = d.text)
    (outside : OutsideTags (spell placeholder x))
    (unjoined : Unjoined (spell placeholder x) (spell placeholder y)) : ∃ qs, Restorable f (x ++ y) qs := by
  obtain ⟨marking, scanned, respelt, clean⟩ := restorable
  obtain ⟨ls, ms, rs, rfl, first, last⟩ :=
    marking.exists_cut scanned.proper comment outside fun _ => unjoined.not_mark
  simp only [spellPieces_append] at clean
  refine ⟨ls ++ rs, first.append last, scanned.cut (first.outsideTags outside), fun b member => ?_, fun i =>
    unjoined.clean first last (fun inside => clean i ?_) fun inside => clean i ?_⟩
  · rcases List.mem_append.mp member with there | there
    · exact respelt b (List.mem_append_left _ there)
    · exact respelt b (List.mem_append_right _ (List.mem_append_right _ there))
  · exact inside.trans (List.prefix_append _ _).isInfix
  · exact inside.trans ((List.suffix_append _ _).trans (List.suffix_append _ _)).isInfix

theorem exists_removed (ps : List (Piece Comment)) : (∀ d, .found d ∈ ps → d.isConditional = true) ∨
    ∃ xs d ys, ps = xs ++ .found d :: ys ∧ d.isConditional = false ∧
      ∀ e, .found e ∈ xs → e.isConditional = true := by
  induction ps with
  | nil => simp
  | cons p ps ih =>
    cases p with
    | plain c =>
      rcases ih with all | ⟨xs, d, ys, rfl, removed, kept⟩
      · exact .inl (by simpa using all)
      · exact .inr ⟨.plain c :: xs, d, ys, rfl, removed, by simpa using kept⟩
    | found e =>
      cases conditional : e.isConditional with
      | false => exact .inr ⟨[], e, ps, rfl, conditional, by simp⟩
      | true =>
        rcases ih with all | ⟨xs, d, ys, rfl, removed, kept⟩
        · exact .inl (by simpa [conditional] using all)
        · exact .inr ⟨.found e :: xs, d, ys, rfl, removed, by simpa [conditional] using kept⟩

/-- A comment that a scan finds among marks is a part of the marked text. -/
theorem exists_of_comment_mem {xs zs : List (Piece Comment)}
    (cut : Comment.pattern.pieces (spell placeholder m) = xs ++ .found d :: zs) :
    ∃ x z y, m = x ++ ((z ++ [.plain '>']) ++ y) ∧ spell placeholder x = Comment.pattern.spell xs ∧
      spell placeholder (z ++ [.plain '>']) = d.text ∧ spell placeholder y = Comment.pattern.spell zs := by
  have proper := Comment.proper_of_mem (cut ▸ List.mem_append_right xs List.mem_cons_self)
  have whole := Comment.pattern.spell_pieces (spell placeholder m)
  rw [cut, Pattern.spell_append, Pattern.spell_found] at whole
  obtain ⟨x, rest, rfl, before, behind⟩ := eq_append_cons foreign_left whole.symm
  have front : Comment.front? (spell placeholder (.plain '<' :: rest)) =
      some (d, Comment.pattern.spell zs) := by
    refine Comment.front?_eq_some.mpr ⟨?_, proper⟩
    rw [spell_plain, behind]
    rfl
  obtain ⟨z, y, same, comment, last⟩ := exists_of_comment_front? front
  exact ⟨x, z, y, by rw [same]; simp, before, comment, last⟩

/-- Removing comments that are apart leaves a text of pieces that a scan finds again. -/
theorem Restorable.exists_stripped (restorable : Restorable f (x ++ y) ps)
    (apart : ∀ xs d zs, Comment.pattern.pieces (spell placeholder y) = xs ++ .found d :: zs →
      d.isConditional = false → OutsideTags (spell placeholder x ++ remaining true xs) ∧
        Unjoined (spell placeholder x ++ remaining true xs) (Comment.pattern.spell zs)) :
    ∃ m qs, Restorable f m qs ∧
      spell placeholder m = spell placeholder x ++ stripComments true (spell placeholder y) ∧
      (marks m).Sublist (marks (x ++ y)) := by
  -- The comments go one after the other, and `x` is what remains in front of the next one.
  generalize size : y.length = k
  induction k using Nat.strongRecOn generalizing x y ps with
  | ind k ih =>
    rcases exists_removed (Comment.pattern.pieces (spell placeholder y)) with
      all | ⟨xs, d, zs, cut, removed, kept⟩
    · exact ⟨x ++ y, ps, restorable, by rw [stripComments_eq_self_iff.mpr all, spell_append], .refl _⟩
    · obtain ⟨a, z, c, rfl, before, comment, behind⟩ := exists_of_comment_mem cut
      have same : remaining true xs = spell placeholder a := by
        rw [before, remaining_eq_spell kept]
      obtain ⟨outside, unjoined⟩ := apart xs d zs cut removed
      rw [same, ← spell_append] at outside unjoined
      rw [← behind] at unjoined
      rw [← List.append_assoc] at restorable
      obtain ⟨qs, restorable'⟩ := restorable.cut comment outside unjoined
      have scanned : Comment.pattern.pieces (spell placeholder c) = zs := by
        rw [behind]
        exact Pattern.pieces_spell (cut.trans (List.append_cons xs _ zs))
      have apart' : ∀ us e ws, Comment.pattern.pieces (spell placeholder c) = us ++ .found e :: ws →
          e.isConditional = false → OutsideTags (spell placeholder (x ++ a) ++ remaining true us) ∧
            Unjoined (spell placeholder (x ++ a) ++ remaining true us) (Comment.pattern.spell ws) := by
        intro us e ws later removed'
        have split : Comment.pattern.pieces (spell placeholder (a ++ ((z ++ [.plain '>']) ++ c))) =
            (xs ++ .found d :: us) ++ .found e :: ws := by
          rw [cut, ← scanned, later]
          simp
        have gone : remaining true (xs ++ .found d :: us) = spell placeholder a ++ remaining true us := by
          rw [remaining_append, remaining_dropped (by simp [removed]), same]
        rw [spell_append, List.append_assoc, ← gone]
        exact apart _ e ws split removed'
      obtain ⟨m, rs, stripped, text, sub⟩ := ih c.length (by simp at size; omega) restorable' apart' rfl
      refine ⟨m, rs, stripped, ?_, ?_⟩
      · rw [text, stripComments_eq_remaining, stripComments_eq_remaining, scanned, cut, remaining_append,
          remaining_dropped (by simp [removed]), same, spell_append, List.append_assoc]
      · refine sub.trans ?_
        simp only [marks_append, List.append_assoc]
        exact (List.Sublist.refl _).append ((List.Sublist.refl _).append (List.sublist_append_right _ _))

/-- Where comments are apart, one pass leaves none that has to be removed. -/
theorem CommentsApart.allConditional (apart : CommentsApart s) :
    AllConditional (stripComments true (shield s).text) := by
  intro d member
  by_contra removed
  obtain ⟨xs, ms, ys, cut, ⟨e, between⟩, mark, _⟩ := exists_rejoined member removed
  obtain ⟨as, bs, rfl⟩ := List.append_of_mem between
  -- What stays around the comment is the opening mark, so a tag is open in front of it.
  rw [remaining_append] at mark
  cases conditional : e.isConditional with
  | true =>
    have inside : '<' ∈ ['!', '-', '-'] := by
      rw [← mark, remaining_kept (show (true && e.isConditional) = true from conditional)]
      simp [Comment.text, Comment.opening]
    revert inside
    decide
  | false =>
    have split : Comment.pattern.pieces (shield s).text =
        (xs ++ .plain '<' :: as) ++ .found e :: (bs ++ ys) := by
      rw [cut]
      simp
    have outside := (apart _ e _ split conditional).1
    rw [remaining_append, remaining_plain] at outside
    have inside : '>' ∈ ['!', '-', '-'] := mark ▸ List.mem_append_left _ (outside _ _ rfl)
    revert inside
    decide

end HtmlReflow
