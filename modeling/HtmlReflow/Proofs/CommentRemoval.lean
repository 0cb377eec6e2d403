import HtmlReflow.Proofs.Counting
import HtmlReflow.Proofs.Pristine

namespace HtmlReflow

/-- A comment of the text that is removed spans placeholder `i`. -/
def Spanned (keep : Bool) (i : Nat) (s : Text) : Prop :=
  ∃ c, .found c ∈ Comment.pattern.pieces s ∧ (keep && c.isConditional) = false ∧ placeholder i <:+: c.text

variable {keep : Bool} {i n : Nat} {s u rest : Text} {c : Char} {comment : Comment}

theorem Spanned.inside (spanned : Spanned keep i s) : placeholder i <:+: s := by
  obtain ⟨comment, member, _, inside⟩ := spanned
  exact inside.trans (Comment.pattern.text_infix_of_mem member)

theorem spanned_cons_iff (front : Comment.front? (c :: s) = none) :
    Spanned keep i (c :: s) ↔ Spanned keep i s := by
  unfold Spanned
  rw [Comment.pattern.pieces_cons_of_none front]
  simp

theorem spanned_iff_of_front? (front : Comment.front? s = some (comment, rest)) :
    Spanned keep i s ↔
      ((keep && comment.isConditional) = false ∧ placeholder i <:+: comment.text) ∨
        Spanned keep i rest := by
  unfold Spanned
  rw [Comment.pattern.pieces_of_some front]
  simp only [List.mem_cons, Piece.found.injEq]
  constructor
  · rintro ⟨other, rfl | member, removed⟩
    · exact .inl removed
    · exact .inr ⟨other, member, removed⟩
  · intro given
    rcases given with removed | ⟨other, member, removed⟩
    · exact ⟨comment, .inl rfl, removed⟩
    · exact ⟨other, .inr member, removed⟩

theorem comment_front?_eq_none (other : ∀ rest, s ≠ '<' :: '!' :: rest) : Comment.front? s = none := by
  unfold Comment.front?
  split
  · rfl
  · rename_i inside opened
    exact absurd (afterToken?_eq_some.mp opened) (other _)

theorem stripComments_cons (front : Comment.front? (c :: s) = none) :
    stripComments keep (c :: s) = c :: stripComments keep s :=
  Comment.pattern.replace_cons_of_none _ front

theorem stripComments_of_front? (front : Comment.front? s = some (comment, rest)) :
    stripComments keep s =
      (if keep && comment.isConditional then comment.text else []) ++ stripComments keep rest :=
  Comment.pattern.replace_of_some _ front

theorem stripComments_append (free : '<' ∉ u) : stripComments keep (u ++ s) = u ++ stripComments keep s ∧
    (Spanned keep i (u ++ s) ↔ Spanned keep i s) := by
  induction u with
  | nil => exact ⟨rfl, Iff.rfl⟩
  | cons c u ih =>
    rw [List.mem_cons, not_or] at free
    obtain ⟨text, spanned⟩ := ih free.2
    have front : Comment.front? (c :: (u ++ s)) = none :=
      comment_front?_eq_none fun rest same => free.1 (List.cons.inj same).1.symm
    rw [List.cons_append, stripComments_cons front, spanned_cons_iff front, text]
    exact ⟨rfl, spanned⟩

namespace Marked

variable {m m₁ m₂ m' : Marked}

/-- The second text is the first without the comments that are removed, and exactly the marks in them
    are gone. -/
structure Stripped (keep : Bool) (m m' : Marked) : Prop where
  text : stripComments keep (spell placeholder m) = spell placeholder m'
  sub : m'.Sublist m
  closed : Closed m'
  gone : ∀ i ∈ marks m, i ∉ marks m' ↔ Spanned keep i (spell placeholder m)

theorem stripped_plain {c : Char} (front : Comment.front? (c :: spell placeholder m) = none)
    (stripped : Stripped keep m m') : Stripped keep (.plain c :: m) (.plain c :: m') where
  text := by rw [spell_plain, stripComments_cons front, stripped.text, spell_plain]
  sub := stripped.sub.cons_cons _
  closed := stripped.closed
  gone := fun i member => by
    rw [spell_plain, spanned_cons_iff front]
    exact stripped.gone i member

theorem stripped_found (pristine : Pristine n (.found i :: m)) (stripped : Stripped keep m m') :
    Stripped keep (.found i :: m) (.found i :: m') := by
  obtain ⟨⟨rest, behind⟩, bound, other, behindMark⟩ := pristine_found.mp pristine
  have word : ∀ j, stripComments keep (placeholder i ++ spell placeholder m) =
        placeholder i ++ stripComments keep (spell placeholder m) ∧
      (Spanned keep j (placeholder i ++ spell placeholder m) ↔ Spanned keep j (spell placeholder m)) :=
    fun j => stripComments_append (solid_placeholder i).left_free
  refine ⟨?_, stripped.sub.cons_cons _, ⟨?_, stripped.closed⟩, fun j member => ?_⟩
  · rw [spell_found, (word 0).1, stripped.text, spell_found]
  · have written : spell placeholder m' = '<' :: '/' :: stripComments keep (spell placeholder rest) := by
      rw [← stripped.text, behind, spell_append, spell_ofText]
      have first : Comment.front? ('<' :: '/' :: spell placeholder rest) = none :=
        comment_front?_eq_none fun rest same => by cases same
      have second : Comment.front? ('/' :: spell placeholder rest) = none :=
        comment_front?_eq_none fun rest same => by cases same
      show stripComments keep ('<' :: '/' :: spell placeholder rest) = _
      rw [stripComments_cons first, stripComments_cons second]
    obtain ⟨rest', shape, _⟩ := eq_ofText_append foreign_closing written
    exact ⟨rest', shape⟩
  · rw [spell_found, (word j).2]
    rcases List.mem_cons.mp member with rfl | member
    · simp only [marks_found, List.mem_cons, true_or, not_true_eq_false, false_iff]
      exact fun spanned => other ((behindMark.infix_iff bound).mp spanned.inside)
    · have different : j ≠ i := fun same => other (same ▸ member)
      rw [← stripped.gone j member, marks_found, List.mem_cons, not_or]
      exact ⟨And.right, fun absent => ⟨different, absent⟩⟩

/-- A comment ends with a `>`, which is in no placeholder: it holds a mark as a whole or not at all. -/
theorem exists_of_comment_front? (front : Comment.front? (spell placeholder m) = some (comment, rest)) :
    ∃ m₁ m₂, m = m₁ ++ .plain '>' :: m₂ ∧ spell placeholder (m₁ ++ [.plain '>']) = comment.text ∧
      spell placeholder m₂ = rest := by
  have written : spell placeholder m =
      (Comment.opening ++ (comment.body ++ ['-', '-'])) ++ '>' :: rest := by
    rw [← Comment.pattern.text_append front]
    simp [Comment.pattern, Comment.text, Comment.closing]
  obtain ⟨m₁, m₂, rfl, left, rfl⟩ := eq_append_cons foreign_right written
  refine ⟨m₁, m₂, rfl, ?_, rfl⟩
  simp [left, Comment.text, Comment.closing]

theorem stripped_comment (pristine : Pristine n (m₁ ++ m₂)) (closed : Closed m₁)
    (front : Comment.front? (spell placeholder (m₁ ++ m₂)) = some (comment, spell placeholder m₂))
    (written : spell placeholder m₁ = comment.text) (stripped : Stripped keep m₂ m') :
    Stripped keep (m₁ ++ m₂) ((if keep && comment.isConditional then m₁ else []) ++ m') := by
  have inside : Pristine n m₁ := pristine.sublist (List.sublist_append_left m₁ m₂) closed
  have apart : ∀ i ∈ marks m₁, i ∉ marks m₂ := by
    have nodup := pristine.nodup
    rw [marks_append, List.nodup_append'] at nodup
    exact fun i first second => nodup.2.2 first second
  have still : ∀ i, i ∈ marks m' → i ∈ marks m₂ :=
    fun i member => (stripped.sub.filterMap _).subset member
  refine ⟨?_, ?_, ?_, fun i member => ?_⟩
  · rw [stripComments_of_front? front, stripped.text, spell_append]
    split
    · rw [written]
    · rfl
  · refine List.Sublist.append ?_ stripped.sub
    split
    · exact List.Sublist.refl _
    · exact List.nil_sublist _
  · split
    · exact closed.append stripped.closed
    · exact stripped.closed
  · have bound := pristine.bounded i member
    rw [spanned_iff_of_front? front, ← written, inside.infix_iff bound]
    rw [marks_append, List.mem_append] at member
    -- Each mark is there once: in this comment, or behind it, where `stripped` tells about it.
    rcases member with first | second
    · have outside : ¬ Spanned keep i (spell placeholder m₂) := fun spanned =>
        apart i first ((pristine.right.infix_iff bound).mp spanned.inside)
      have gone : i ∉ marks m' := fun there => apart i first (still i there)
      cases kept : keep && comment.isConditional with
      | false => simp [first, gone]
      | true => simp [first, outside]
    · have outside : i ∉ marks m₁ := fun first => apart i first second
      rw [← stripped.gone i second]
      cases kept : keep && comment.isConditional with
      | false => simp [outside]
      | true => simp [outside]

/-- Removing comments drops whole marks and leaves the others. -/
theorem Pristine.exists_stripped (keep : Bool) (pristine : Pristine n m) : ∃ m', Stripped keep m m' := by
  -- A comment is left behind as a whole, so the induction is on the length.
  generalize size : m.length = k
  induction k using Nat.strongRecOn generalizing m with
  | ind k ih =>
    cases front : Comment.front? (spell placeholder m) with
    | some x =>
      obtain ⟨comment, rest⟩ := x
      obtain ⟨m₁, m₂, rfl, written, rfl⟩ := exists_of_comment_front? front
      have closed : Closed (m₁ ++ [.plain '>']) := pristine.closed.left (by decide)
      rw [List.append_cons] at pristine front size
      rw [List.append_cons]
      obtain ⟨m', stripped⟩ := ih m₂.length (by simp at size; omega) pristine.right rfl
      exact ⟨_, stripped_comment pristine closed front written stripped⟩
    | none =>
      cases m with
      | nil => exact ⟨[], Comment.pattern.replace_nil _, List.Sublist.slnil, trivial, by simp⟩
      | cons piece m =>
        have shorter : m.length < k := by simp at size; omega
        obtain ⟨m', stripped⟩ := ih m.length shorter (pristine.tail) rfl
        cases piece with
        | plain c => exact ⟨_, stripped_plain front stripped⟩
        | found i => exact ⟨_, stripped_found pristine stripped⟩

end Marked
end HtmlReflow
