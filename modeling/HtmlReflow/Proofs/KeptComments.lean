import HtmlReflow.Proofs.CommentGrammar
import HtmlReflow.Proofs.Respaced

namespace HtmlReflow

open Comment (opening closing)

variable {angle : Bool} {c : Char} {a s t : Text}

/-- Every comment of the text is conditional, so none is removed. -/
def AllConditional (s : Text) : Prop :=
  ∀ d, .found d ∈ Comment.pattern.pieces s → d.isConditional = true

namespace Respaced

/-- A text is respaced apart from what stands behind a `>` in it. -/
theorem cut_angle (r : Respaced angle (a ++ '>' :: s) t) :
    ∃ a' t', t = a' ++ '>' :: t' ∧ Respaced angle a a' ∧ Respaced true s t' := by
  induction a generalizing angle t with
  | nil =>
    obtain ⟨t', rfl, last⟩ := cons_left (by decide) r
    exact ⟨[], t', rfl, .done, last⟩
  | cons c a ih =>
    cases r with
    | keep _ r =>
      obtain ⟨a', t', rfl, front, last⟩ := ih r
      exact ⟨c :: a', t', rfl, .keep c front, last⟩
    | space blank r =>
      obtain ⟨a', t', rfl, front, last⟩ := ih r
      exact ⟨' ' :: a', t', rfl, .space blank front, last⟩
    | drop blank free r =>
      obtain ⟨a', t', rfl, front, last⟩ := ih r
      refine ⟨a', t', rfl, .drop blank (free.imp id fun yields => ?_) front, last⟩
      cases a with
      | nil => rcases yields_cons_iff.mp yields with h | h <;> cases h
      | cons d a => exact yields_cons_iff.mpr (yields_cons_iff.mp yields)

/-- Moving blanks makes no closing mark of a comment. -/
theorem infix_closing (r : Respaced angle s t) (inside : closing <:+: t) : closing <:+: s := by
  obtain ⟨a, b, rfl⟩ := inside
  rw [List.append_assoc] at r
  obtain ⟨a', s₁, angle₁, rfl, _, r₁⟩ := r.split_right
  obtain ⟨gone, s₂, rfl, _, r₂, _⟩ := r₁.cons_right (c := '-') (by decide)
  obtain ⟨gone₁, s₃, rfl, _, r₃, none₁⟩ := r₂.cons_right (by decide)
  obtain ⟨gone₂, s₄, rfl, _, _, none₂⟩ := r₃.cons_right (by decide)
  rw [none₁ rfl (by decide), none₂ rfl (by decide)]
  exact ⟨a' ++ gone, s₄, by simp [closing]⟩

/-- A conditional comment is still one when its blanks are moved. -/
theorem front?_conditional {d : Comment} {rest : Text} (read : Comment.pattern.front? s = some (d, rest))
    (conditional : d.isConditional = true) (r : Respaced angle s t) :
    ∃ e t', Comment.pattern.front? t = some (e, t') ∧ e.isConditional = true ∧ Respaced true rest t' := by
  obtain ⟨written, proper⟩ := Comment.front?_eq_some.mp read
  obtain ⟨body, word⟩ := List.isPrefixOf_iff_prefix.mp conditional
  have cut : s = ('<' :: (['!', '-', '-'] ++ (['[', 'i', 'f'] ++ (body ++ ['-', '-'])))) ++ '>' :: rest := by
    rw [written, Comment.text, ← word]
    simp [opening, closing]
  rw [cut] at r
  obtain ⟨a, t', rfl, front, behind⟩ := r.cut_angle
  obtain ⟨a₁, rfl, r₁⟩ := front.cons_left (by decide)
  obtain ⟨a₂, rfl, r₂⟩ := r₁.append_left_solid (by decide)
  obtain ⟨a₃, rfl, r₃⟩ := r₂.append_left_solid (by decide)
  obtain ⟨x, y, angle', rfl, r₄⟩ := r₃.split_left
  obtain ⟨z, rfl, r₅⟩ := r₄.cons_left (by decide)
  obtain ⟨z, rfl, r₆⟩ := r₅.cons_left (by decide)
  cases r₆
  refine ⟨⟨['[', 'i', 'f'] ++ x⟩, t', Comment.front?_eq_some.mpr ⟨?_, fun early => proper ?_⟩, ?_, behind⟩
  · simp [Comment.text, opening, closing]
  · rw [← word]
    simpa using r₂.infix_closing (by simpa using early)
  · rfl

end Respaced

namespace AllConditional

theorem respaced (all : AllConditional s) (r : Respaced angle s t) : AllConditional t := by
  induction s using Comment.pattern.scan_induction generalizing angle t with
  | done =>
    cases r
    exact all
  | found s d rest h ih =>
    unfold AllConditional at all
    rw [Comment.pattern.pieces_of_some h] at all
    obtain ⟨e, t', read, conditional, behind⟩ := r.front?_conditional h (all d List.mem_cons_self)
    have later := ih (fun d member => all d (List.mem_cons_of_mem _ member)) behind
    intro d' member
    rw [Comment.pattern.pieces_of_some read] at member
    rcases List.mem_cons.mp member with here | member
    · cases here
      exact conditional
    · exact later d' member
  | plain c s h ih =>
    unfold AllConditional at all
    rw [Comment.pattern.pieces_cons_of_none h] at all
    have later {angle : Bool} {t : Text} (r : Respaced angle s t) : AllConditional t :=
      ih (fun d member => all d (List.mem_cons_of_mem _ member)) r
    cases r with
    | drop _ _ r => exact later r
    | space _ r =>
      intro d member
      rw [Comment.pattern.pieces_cons_of_none (Comment.startsWith ' ' _ (by decide))] at member
      exact later r d (by simpa using member)
    | @keep _ _ _ t r =>
      have none : Comment.pattern.front? (c :: t) = none := by
        cases read : Comment.pattern.front? (c :: t) with
        | none => rfl
        | some x =>
          obtain ⟨written, _⟩ := Comment.front?_eq_some.mp read
          obtain ⟨rfl, inner⟩ := List.cons.inj written
          obtain ⟨s', rfl, r'⟩ := Respaced.append_right_solid (u := ['!', '-', '-']) (by decide) (inner ▸ r)
          exact absurd (r'.infix_closing ⟨x.1.body, x.2, rfl⟩) (Comment.front?_opening_eq_none.mp h)
      intro d member
      rw [Comment.pattern.pieces_cons_of_none none] at member
      exact later r d (by simpa using member)

theorem of_cons (blank : isBlank c = true) (all : AllConditional (c :: s)) : AllConditional s := by
  have other : c ≠ '<' := by
    rintro rfl
    cases blank
  intro d member
  apply all d
  rw [Comment.pattern.pieces_cons_of_none (Comment.startsWith c s other)]
  exact List.mem_cons_of_mem _ member

theorem of_append (blank : isBlank c = true) (all : AllConditional (s ++ [c])) : AllConditional s := by
  have whole := Comment.pattern.spell_pieces (s ++ [c])
  rcases List.eq_nil_or_concat (Comment.pattern.pieces (s ++ [c])) with empty | ⟨ps, p, cut⟩
  · rw [empty] at whole
    cases s <;> cases whole
  · rw [cut, List.concat_eq_append, Comment.pattern.spell_append] at whole
    have last : Comment.pattern.spell ps = s := by
      cases p with
      | plain e => exact (List.append_inj' whole rfl).1
      | found d =>
        have marked : (Comment.pattern.spell ps ++ (opening ++ (d.body ++ ['-', '-']))) ++ ['>'] =
            s ++ [c] := by
          rw [← whole, Pattern.spell_found, show Comment.pattern.text d = d.text from rfl, Comment.text]
          simp [closing, Pattern.spell]
        have same := (List.append_inj' marked rfl).2
        rw [← (List.cons.inj same).1] at blank
        cases blank
    have scanned : Comment.pattern.pieces s = ps := by
      rw [← last]
      exact Comment.pieces_spell_left (by rw [cut, List.concat_eq_append])
    intro d member
    apply all d
    rw [cut, List.concat_eq_append]
    exact List.mem_append_left _ (scanned ▸ member)

end AllConditional
end HtmlReflow
