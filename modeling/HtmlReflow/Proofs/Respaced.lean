import HtmlReflow.Minify
import HtmlReflow.Proofs.Search

namespace HtmlReflow

/-- Whether a text starts with a blank or with `<`: a blank in front of it may go. -/
def Yields (s : Text) : Prop := ∃ c rest, s = c :: rest ∧ (isBlank c = true ∨ c = '<')

theorem yields_cons_iff {c : Char} {s : Text} : Yields (c :: s) ↔ isBlank c = true ∨ c = '<' := by
  constructor
  · intro given
    obtain ⟨d, rest, same, yields⟩ := given
    rwa [(List.cons.inj same).1]
  · exact fun yields => ⟨c, s, rfl, yields⟩

theorem Yields.of_angle {a s : Text} (s₀ : Text) (yields : Yields (a ++ '>' :: s)) :
    Yields (a ++ '>' :: s₀) := by
  cases a with
  | nil => rcases yields_cons_iff.mp yields with h | h <;> cases h
  | cons c a => exact yields_cons_iff.mpr (yields_cons_iff.mp yields)

/-- The second text is the first with blanks changed or dropped. A run of blanks is dropped as a whole
    only behind a `>` or in front of a `<`; `angle` says whether a `>` stands before the texts. -/
inductive Respaced : (angle : Bool) → Text → Text → Prop where
  | done {angle} : Respaced angle [] []
  | keep {angle} (c : Char) {s t} : Respaced (c == '>') s t → Respaced angle (c :: s) (c :: t)
  | space {angle c s t} : isBlank c = true → Respaced false s t → Respaced angle (c :: s) (' ' :: t)
  | drop {angle c s t} : isBlank c = true → angle = true ∨ Yields s → Respaced angle s t →
      Respaced angle (c :: s) t

namespace Respaced

variable {angle : Bool} {c : Char} {s t u a b : Text}

theorem ofFalse (r : Respaced false s t) : Respaced angle s t := by
  induction s generalizing t with
  | nil => cases r; exact .done
  | cons c s ih =>
    cases r with
    | keep _ r => exact .keep c r
    | space blank r => exact .space blank r
    | drop blank free r =>
      rcases free with impossible | free
      · cases impossible
      · exact .drop blank (.inr free) (ih r)

theorem append_left (u : Text) (r : Respaced false s t) : Respaced angle (u ++ s) (u ++ t) := by
  induction u generalizing angle with
  | nil => exact r.ofFalse
  | cons c u ih => exact .keep c ih

theorem append_angle (u : Text) (r : Respaced true s t) :
    Respaced angle (u ++ '>' :: s) (u ++ '>' :: t) := by
  induction u generalizing angle with
  | nil => exact .keep '>' r
  | cons c u ih => exact .keep c ih

theorem drop_after (blank : ∀ c ∈ u, isBlank c = true) (r : Respaced true s t) :
    Respaced true (u ++ s) t := by
  induction u with
  | nil => exact r
  | cons c u ih =>
    exact .drop (blank c List.mem_cons_self) (.inl rfl)
      (ih fun d member => blank d (List.mem_cons_of_mem c member))

theorem drop_before (blank : ∀ c ∈ u, isBlank c = true) (r : Respaced angle ('<' :: s) t) :
    Respaced angle (u ++ '<' :: s) t := by
  induction u with
  | nil => exact r
  | cons c u ih =>
    have rest : ∀ d ∈ u, isBlank d = true := fun d member => blank d (List.mem_cons_of_mem c member)
    refine .drop (blank c List.mem_cons_self) (.inr ?_) (ih rest)
    cases u with
    | nil => exact yields_cons_iff.mpr (.inr rfl)
    | cons d u => exact yields_cons_iff.mpr (.inl (rest d List.mem_cons_self))

theorem run (blank : ∀ d ∈ c :: u, isBlank d = true) (r : Respaced false s t) :
    Respaced angle (c :: (u ++ s)) (' ' :: t) := by
  induction u generalizing c with
  | nil => exact .space (blank c List.mem_cons_self) r
  | cons d u ih =>
    have rest : ∀ e ∈ d :: u, isBlank e = true := fun e member => blank e (List.mem_cons_of_mem c member)
    exact .drop (blank c List.mem_cons_self)
      (.inr (yields_cons_iff.mpr (.inl (rest d List.mem_cons_self)))) (ih rest)

theorem cons_left (solid : isBlank c = false) (r : Respaced angle (c :: s) t) :
    ∃ t', t = c :: t' ∧ Respaced (c == '>') s t' := by
  cases r with
  | keep _ r => exact ⟨_, rfl, r⟩
  | space blank _ => rw [solid] at blank; cases blank
  | drop blank _ _ => rw [solid] at blank; cases blank

/-- What is no blank was there, and no blank was dropped in front of it, except where `<` follows or a
    `>` stands before. -/
theorem cons_right (solid : isBlank c = false) (r : Respaced angle s (c :: t)) :
    ∃ u s', s = u ++ c :: s' ∧ (∀ d ∈ u, isBlank d = true) ∧ Respaced (c == '>') s' t ∧
      (angle = false → c ≠ '<' → u = []) := by
  induction s with
  | nil => cases r
  | cons d s ih =>
    cases r with
    | keep _ r => exact ⟨[], s, rfl, by simp, r, fun _ _ => rfl⟩
    | space _ _ => cases solid
    | drop blank free r =>
      obtain ⟨u, s', rfl, blanks, r, none⟩ := ih r
      refine ⟨d :: u, s', rfl, ?_, r, fun noAngle other => ?_⟩
      · intro e member
        rcases List.mem_cons.mp member with rfl | member
        · exact blank
        · exact blanks e member
      · -- The blank could not go: neither a blank nor `<` follows.
        rw [none noAngle other, List.nil_append, yields_cons_iff, noAngle, solid] at free
        rcases free with h | h | h
        · cases h
        · cases h
        · exact absurd h other

theorem append_left_solid (solid : Solid u) (r : Respaced false (u ++ s) t) :
    ∃ t', t = u ++ t' ∧ Respaced false s t' := by
  induction u generalizing t with
  | nil => exact ⟨t, rfl, r⟩
  | cons c u ih =>
    obtain ⟨t, rfl, next⟩ := cons_left solid.head.1 r
    rw [beq_eq_false_iff_ne.mpr solid.head.2.2] at next
    obtain ⟨t', rfl, last⟩ := ih solid.tail next
    exact ⟨t', rfl, last⟩

theorem append_left_word (solid : Solid u) (nonempty : u ≠ []) (r : Respaced angle (u ++ s) t) :
    ∃ t', t = u ++ t' ∧ Respaced false s t' := by
  obtain ⟨c, u, rfl⟩ := List.exists_cons_of_ne_nil nonempty
  obtain ⟨t, rfl, next⟩ := cons_left solid.head.1 r
  rw [beq_eq_false_iff_ne.mpr solid.head.2.2] at next
  obtain ⟨t', rfl, last⟩ := next.append_left_solid solid.tail
  exact ⟨t', rfl, last⟩

theorem append_right_solid (solid : Solid u) (r : Respaced false s (u ++ t)) :
    ∃ s', s = u ++ s' ∧ Respaced false s' t := by
  induction u generalizing s with
  | nil => exact ⟨s, rfl, r⟩
  | cons c u ih =>
    obtain ⟨gone, s, rfl, _, next, none⟩ := cons_right solid.head.1 r
    rw [beq_eq_false_iff_ne.mpr solid.head.2.2] at next
    obtain ⟨s', rfl, last⟩ := ih solid.tail next
    exact ⟨s', by rw [none rfl solid.head.2.1]; rfl, last⟩

theorem split_left (r : Respaced angle (a ++ s) t) :
    ∃ a' t' angle', t = a' ++ t' ∧ Respaced angle' s t' := by
  induction a generalizing angle t with
  | nil => exact ⟨[], t, angle, rfl, r⟩
  | cons c a ih =>
    cases r with
    | keep _ r =>
      obtain ⟨a', t', angle', rfl, last⟩ := ih r
      exact ⟨c :: a', t', angle', rfl, last⟩
    | space _ r =>
      obtain ⟨a', t', angle', rfl, last⟩ := ih r
      exact ⟨' ' :: a', t', angle', rfl, last⟩
    | drop _ _ r => exact ih r

/-- A part up to a `>` is changed without regard to what stands behind the `>`. -/
theorem angle_left (free : '>' ∉ a) (r : Respaced angle (a ++ '>' :: s) t) :
    ∃ a' t', t = a' ++ '>' :: t' ∧ '>' ∉ a' ∧ Respaced true s t' ∧
      ∀ s₀ t₀, Respaced true s₀ t₀ → Respaced angle (a ++ '>' :: s₀) (a' ++ '>' :: t₀) := by
  induction a generalizing angle t with
  | nil =>
    obtain ⟨t', rfl, last⟩ := cons_left (by decide) r
    exact ⟨[], t', rfl, by simp, last, fun _ _ => .keep '>'⟩
  | cons c a ih =>
    have here : c ≠ '>' := fun same => free (same ▸ List.mem_cons_self)
    have later : '>' ∉ a := fun member => free (List.mem_cons_of_mem c member)
    cases r with
    | keep _ r =>
      obtain ⟨a', t', rfl, free', last, replay⟩ := ih later r
      refine ⟨c :: a', t', rfl, ?_, last, fun s₀ t₀ r₀ => .keep c (replay s₀ t₀ r₀)⟩
      rw [List.mem_cons, not_or]
      exact ⟨Ne.symm here, free'⟩
    | space blank r =>
      obtain ⟨a', t', rfl, free', last, replay⟩ := ih later r
      refine ⟨' ' :: a', t', rfl, ?_, last, fun s₀ t₀ r₀ => .space blank (replay s₀ t₀ r₀)⟩
      rw [List.mem_cons, not_or]
      exact ⟨by decide, free'⟩
    | drop blank yields r =>
      obtain ⟨a', t', rfl, free', last, replay⟩ := ih later r
      exact ⟨a', t', rfl, free', last,
        fun s₀ t₀ r₀ => .drop blank (yields.imp id (Yields.of_angle s₀)) (replay s₀ t₀ r₀)⟩

theorem split_right (r : Respaced angle s (a ++ t)) :
    ∃ a' s' angle', s = a' ++ s' ∧ ('>' ∈ a' → '>' ∈ a) ∧ Respaced angle' s' t := by
  induction s generalizing angle a with
  | nil =>
    cases a with
    | nil => exact ⟨[], [], angle, rfl, id, r⟩
    | cons c a => cases r
  | cons d s ih =>
    cases a with
    | nil => exact ⟨[], d :: s, angle, rfl, id, r⟩
    | cons c a =>
      cases r with
      | keep _ r =>
        obtain ⟨a', s', angle', rfl, free, last⟩ := ih r
        refine ⟨d :: a', s', angle', rfl, fun member => ?_, last⟩
        rcases List.mem_cons.mp member with rfl | member
        · exact List.mem_cons_self
        · exact List.mem_cons_of_mem _ (free member)
      | space blank r =>
        obtain ⟨a', s', angle', rfl, free, last⟩ := ih r
        refine ⟨d :: a', s', angle', rfl, fun member => ?_, last⟩
        rcases List.mem_cons.mp member with rfl | member
        · cases blank
        · exact List.mem_cons_of_mem _ (free member)
      | drop blank free r =>
        obtain ⟨a', s', angle', rfl, free, last⟩ := ih (a := c :: a) r
        refine ⟨d :: a', s', angle', rfl, fun member => ?_, last⟩
        rcases List.mem_cons.mp member with rfl | member
        · cases blank
        · exact free member

/-- The solid words of a text stay, and no new ones arise. -/
theorem infix_iff (r : Respaced angle s t) (solid : Solid u) : u <:+: t ↔ u <:+: s := by
  cases u with
  | nil => exact ⟨fun _ => List.nil_infix, fun _ => List.nil_infix⟩
  | cons c u =>
    have notAngle : (c == '>') = false := beq_eq_false_iff_ne.mpr solid.head.2.2
    constructor
    · intro given
      obtain ⟨a, b, rfl⟩ := given
      rw [List.append_assoc] at r
      obtain ⟨a', s', angle', rfl, _, here⟩ := r.split_right
      obtain ⟨gone, s', rfl, _, next, _⟩ := cons_right solid.head.1 here
      rw [notAngle] at next
      obtain ⟨b', rfl, _⟩ := next.append_right_solid solid.tail
      exact ⟨a' ++ gone, b', by simp⟩
    · intro given
      obtain ⟨a, b, rfl⟩ := given
      rw [List.append_assoc] at r
      obtain ⟨a', t', angle', rfl, here⟩ := r.split_left
      obtain ⟨t', rfl, next⟩ := cons_left solid.head.1 here
      rw [notAngle] at next
      obtain ⟨b', rfl, _⟩ := next.append_left_solid solid.tail
      exact ⟨a', b', by simp⟩

end Respaced

theorem blank_of_spanBlanks {s blanks rest : Text} (h : spanBlanks s = (blanks, rest)) :
    ∀ c ∈ blanks, isBlank c = true := by
  cases h
  exact List.all_eq_true.mp List.all_takeWhile

theorem Gap.blank_of_front? {s rest : Text} {g : Gap} (h : Gap.front? s = some (g, rest)) :
    ∀ c ∈ g.blanks, isBlank c = true := by
  unfold Gap.front? at h
  split at h
  · split at h
    · rename_i spanned
      cases h
      exact blank_of_spanBlanks spanned
    · cases h
  · cases h

theorem BlankRun.blank_of_front? {s rest : Text} {r : BlankRun}
    (h : BlankRun.front? s = some (r, rest)) : ∀ c ∈ r.blanks, isBlank c = true := by
  unfold BlankRun.front? at h
  split at h
  · rename_i spanned
    cases h
    exact blank_of_spanBlanks spanned
  · cases h

theorem SpacedTag.blank_of_front? {s rest : Text} {t : SpacedTag}
    (h : SpacedTag.front? s = some (t, rest)) :
    (∀ c ∈ t.before, isBlank c = true) ∧ ∀ c ∈ t.after, isBlank c = true := by
  unfold SpacedTag.front? at h
  split at h
  · cases h
    exact ⟨blank_of_spanBlanks rfl, blank_of_spanBlanks rfl⟩
  · cases h

theorem respaced_gaps (s : Text) :
    Respaced false s (Gap.pattern.replace (fun _ => ['>', '<']) s) := by
  induction s using Gap.pattern.scan_induction with
  | done => rw [Pattern.replace_nil]; exact .done
  | plain c s h ih => rw [Pattern.replace_cons_of_none _ _ h]; exact .keep c ih.ofFalse
  | found s g rest h ih =>
    rw [Pattern.replace_of_some _ _ h, ← Gap.pattern.text_append h]
    show Respaced false ('>' :: (g.blanks ++ ['<'] ++ rest)) ('>' :: '<' :: _)
    rw [List.append_assoc]
    exact .keep '>' (Respaced.drop_after (Gap.blank_of_front? h) (.keep '<' ih))

theorem respaced_runs (s : Text) : Respaced false s (BlankRun.pattern.replace (fun _ => [' ']) s) := by
  induction s using BlankRun.pattern.scan_induction with
  | done => rw [Pattern.replace_nil]; exact .done
  | plain c s h ih => rw [Pattern.replace_cons_of_none _ _ h]; exact .keep c ih.ofFalse
  | found s r rest h ih =>
    rw [Pattern.replace_of_some _ _ h, ← BlankRun.pattern.text_append h]
    have blank := BlankRun.blank_of_front? h
    have some := BlankRun.pattern.text_ne_nil h
    obtain ⟨blanks⟩ := r
    cases blanks with
    | nil => exact absurd rfl some
    | cons c blanks => exact Respaced.run blank ih

theorem respaced_tags (s : Text) :
    Respaced false s (SpacedTag.pattern.replace (fun t => t.tag.text) s) := by
  induction s using SpacedTag.pattern.scan_induction with
  | done => rw [Pattern.replace_nil]; exact .done
  | plain c s h ih => rw [Pattern.replace_cons_of_none _ _ h]; exact .keep c ih.ofFalse
  | found s t rest h ih =>
    rw [Pattern.replace_of_some _ _ h, ← SpacedTag.pattern.text_append h]
    obtain ⟨before, after⟩ := SpacedTag.blank_of_front? h
    have inner : Respaced false ('<' :: (t.tag.body ++ '>' :: (t.after ++ rest)))
        ('<' :: (t.tag.body ++ '>' :: SpacedTag.pattern.replace (fun t => t.tag.text) rest)) :=
      .keep '<' (Respaced.append_angle _ (Respaced.drop_after after ih.ofFalse))
    have outer := Respaced.drop_before before inner
    simpa [SpacedTag.pattern, SpacedTag.text, Tag.text] using outer

theorem collapseBlanks_induction {motive : Text → Prop}
    (step : ∀ s t, Respaced false s t → motive s → motive t) {s : Text} (start : motive s) :
    motive (collapseBlanks s) :=
  step _ _ (respaced_tags _) (step _ _ (respaced_runs _) (step _ _ (respaced_gaps s) start))

theorem tidy_induction {motive : Text → Prop} {o : Options} {s : Text}
    (strip : o.removeComments = true → motive s → motive (stripComments o.keepConditionalComments s))
    (step : ∀ s t, Respaced false s t → motive s → motive t) (start : motive s) :
    motive (tidy o s) := by
  have stripped : motive (if o.removeComments then stripComments o.keepConditionalComments s else s) := by
    split
    · rename_i removed
      exact strip removed start
    · exact start
  rw [tidy]
  split
  · exact collapseBlanks_induction step stripped
  · exact stripped

/-- Where comments stay, tidying a text does nothing but move its blanks. -/
theorem tidy_induction_of_kept {motive : Text → Prop} {o : Options} {s : Text}
    (kept : o.removeComments = false) (step : ∀ s t, Respaced false s t → motive s → motive t)
    (start : motive s) : motive (tidy o s) := by
  apply tidy_induction _ step start
  intro removed
  rw [kept] at removed
  cases removed

end HtmlReflow
