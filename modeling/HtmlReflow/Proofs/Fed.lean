import HtmlReflow.Proofs.BlockGrammar
import HtmlReflow.Proofs.Feeds

namespace HtmlReflow

open Block (Opens closingTagOf)

/-- The second text is the first with line feeds added behind a `>` and, with `before`, in front of a
    `<`. `angle` says whether a `>` stands before the texts. -/
inductive Fed (before : Bool) : (angle : Bool) → Text → Text → Prop where
  | done {angle} : Fed before angle [] []
  | keep {angle} (c : Char) {s t} : Fed before (c == '>') s t → Fed before angle (c :: s) (c :: t)
  | feed {angle s t} : angle = true ∨ before = true ∧ s.head? = some '<' → Fed before angle s t →
      Fed before angle s ('\n' :: t)

namespace Fed

variable {before angle : Bool} {c : Char} {s t u a : Text}

theorem feedless_eq (r : Fed before angle s t) : feedless t = feedless s := by
  induction r with
  | done => rfl
  | keep c _ ih =>
    by_cases feed : c = '\n'
    · rw [feed, feedless_feed, feedless_feed, ih]
    · rw [feedless_cons feed, feedless_cons feed, ih]
  | feed _ _ ih => rw [feedless_feed, ih]

/-- Taking the line feeds away again drops blanks next to tags. -/
theorem respaced (r : Fed before angle s t) : Respaced angle t s := by
  induction r with
  | done => exact .done
  | keep c _ ih => exact .keep c ih
  | feed allowed r ih =>
    refine .drop (by decide) ?_ ih
    rcases allowed with behind | ⟨_, first⟩
    · exact .inl behind
    · refine .inr ?_
      cases r with
      | done => cases first
      | keep c _ =>
        rw [List.head?_cons, Option.some.injEq] at first
        exact yields_cons_iff.mpr (.inr first)
      | feed _ _ => exact yields_cons_iff.mpr (.inl (by decide))

theorem ofFalse (r : Fed before false s t) : Fed before angle s t := by
  generalize given : false = none at r
  induction r with
  | done => exact .done
  | keep c r _ => exact .keep c r
  | feed allowed _ ih =>
    subst given
    refine .feed (allowed.imp (fun impossible => ?_) id) (ih rfl)
    cases impossible

theorem append_left (u : Text) (r : Fed before false s t) : Fed before angle (u ++ s) (u ++ t) := by
  induction u generalizing angle with
  | nil => exact r.ofFalse
  | cons c u ih => exact .keep c ih

theorem append_angle (u : Text) (r : Fed before true s t) :
    Fed before angle (u ++ '>' :: s) (u ++ '>' :: t) := by
  induction u generalizing angle with
  | nil => exact .keep '>' r
  | cons c u ih => exact .keep c ih

theorem nil_left (r : Fed before angle [] t) : ∃ n, t = List.replicate n '\n' := by
  generalize given : ([] : Text) = s at r
  induction r with
  | done => exact ⟨0, rfl⟩
  | keep c _ _ => cases given
  | feed _ _ ih =>
    obtain ⟨n, rfl⟩ := ih given
    exact ⟨n + 1, rfl⟩

theorem cons_left (r : Fed before angle (c :: s) t) :
    ∃ n t', t = List.replicate n '\n' ++ c :: t' ∧ Fed before (c == '>') s t' ∧
      (angle = false → c ≠ '<' → n = 0) := by
  generalize given : c :: s = whole at r
  induction r with
  | done => cases given
  | keep d r _ =>
    cases given
    exact ⟨0, _, rfl, r, fun _ _ => rfl⟩
  | feed allowed _ ih =>
    subst given
    obtain ⟨n, t', rfl, r, _⟩ := ih rfl
    refine ⟨n + 1, t', rfl, r, fun notBehind other => ?_⟩
    rcases allowed with behind | ⟨_, first⟩
    · rw [notBehind] at behind
      cases behind
    · rw [List.head?_cons, Option.some.injEq] at first
      exact absurd first other

theorem keep_left (r : Fed before false (c :: s) t) (other : c ≠ '<') :
    ∃ t', t = c :: t' ∧ Fed before (c == '>') s t' := by
  obtain ⟨n, t', rfl, r, none⟩ := r.cons_left
  rw [none rfl other]
  exact ⟨t', rfl, r⟩

theorem append_left_solid (solid : Solid u) (r : Fed before false (u ++ s) t) :
    ∃ t', t = u ++ t' ∧ Fed before false s t' := by
  induction u generalizing t with
  | nil => exact ⟨t, rfl, r⟩
  | cons c u ih =>
    obtain ⟨t, rfl, next⟩ := keep_left r solid.head.2.1
    rw [beq_eq_false_iff_ne.mpr solid.head.2.2] at next
    obtain ⟨t', rfl, last⟩ := ih solid.tail next
    exact ⟨t', rfl, last⟩

theorem keep_right (r : Fed false false s (c :: t)) : ∃ s', s = c :: s' ∧ Fed false (c == '>') s' t := by
  cases r with
  | keep _ r => exact ⟨_, rfl, r⟩
  | feed allowed _ =>
    rcases allowed with impossible | ⟨impossible, _⟩
    · cases impossible
    · cases impossible

theorem append_right_solid (solid : Solid u) (r : Fed false false s (u ++ t)) :
    ∃ s', s = u ++ s' ∧ Fed false false s' t := by
  induction u generalizing s with
  | nil => exact ⟨s, rfl, r⟩
  | cons c u ih =>
    obtain ⟨s, rfl, next⟩ := keep_right r
    rw [beq_eq_false_iff_ne.mpr solid.head.2.2] at next
    obtain ⟨s', rfl, last⟩ := ih solid.tail next
    exact ⟨s', rfl, last⟩

theorem split_left (r : Fed before angle (a ++ s) t) :
    ∃ a' t' angle', t = a' ++ t' ∧ Fed before angle a a' ∧ Fed before angle' s t' := by
  generalize given : a ++ s = whole at r
  induction r generalizing a with
  | done =>
    obtain ⟨rfl, rfl⟩ := List.append_eq_nil_iff.mp given
    exact ⟨[], [], false, rfl, .done, .done⟩
  | @keep angle c s' t r ih =>
    rcases List.append_eq_cons_iff.mp given with ⟨rfl, rfl⟩ | ⟨a, rfl, rfl⟩
    · exact ⟨[], c :: t, angle, rfl, .done, .keep c r⟩
    · obtain ⟨a', t', angle', rfl, front, last⟩ := ih rfl
      exact ⟨c :: a', t', angle', rfl, .keep c front, last⟩
  | @feed angle s' t allowed r ih =>
    subst given
    cases a with
    | nil => exact ⟨[], '\n' :: t, angle, rfl, .done, .feed allowed r⟩
    | cons c a =>
      obtain ⟨a', t', angle', rfl, front, last⟩ := ih rfl
      exact ⟨'\n' :: a', t', angle', rfl, .feed allowed front, last⟩

/-- The part up to a character takes in the line feeds added in front of that character. -/
theorem cons_append_left (r : Fed before angle (a ++ c :: s) t) :
    ∃ a' n t', t = a' ++ (List.replicate n '\n' ++ c :: t') ∧ Fed before angle a a' ∧
      Fed before (c == '>') s t' := by
  obtain ⟨a', t₁, angle', rfl, front, r₁⟩ := r.split_left
  obtain ⟨n, t', rfl, r', _⟩ := r₁.cons_left
  exact ⟨a', n, t', rfl, front, r'⟩

theorem closingTag_left {e : Verbatim} {name : Text} (folded : name.map foldCase = e.name)
    (r : Fed before angle (a ++ (closingTagOf name ++ s)) t) :
    ∃ a' n t', t = a' ++ (List.replicate n '\n' ++ (closingTagOf name ++ t')) ∧
      Fed before angle a a' ∧ Fed before true s t' := by
  rw [show closingTagOf name ++ s = '<' :: (('/' :: name) ++ '>' :: s) by simp [closingTagOf]] at r
  obtain ⟨a', n, t₁, rfl, front, r₁⟩ := r.cons_append_left
  obtain ⟨t₂, rfl, r₂⟩ := r₁.append_left_solid (Block.solid_slash_of_folded folded)
  obtain ⟨t₃, rfl, r₃⟩ := r₂.keep_left (by decide)
  exact ⟨a', n, t₃, by simp [closingTagOf], front, r₃⟩

end Fed

theorem fed_breakAfterCloses (s : Text) : Fed false false s (breakAfterCloses s) := by
  induction s using StructuralClose.pattern.scan_induction with
  | done => rw [breakAfterCloses, Pattern.replace_nil]; exact .done
  | plain c s h ih =>
    rw [breakAfterCloses, Pattern.replace_cons_of_none _ _ h]
    exact .keep c ih.ofFalse
  | found s t rest h ih =>
    rw [breakAfterCloses, Pattern.replace_of_some _ _ h, ← StructuralClose.pattern.text_append h]
    have behind : Fed false true rest ('\n' :: breakAfterCloses rest) := .feed (.inl rfl) ih.ofFalse
    have split : ∀ u, t.text ++ u = ('<' :: '/' :: t.name) ++ '>' :: u := by
      intro u
      simp [StructuralClose.text]
    show Fed false false (t.text ++ rest) ((t.text ++ ['\n']) ++ breakAfterCloses rest)
    rw [List.append_assoc, split, split]
    exact behind.append_angle _

theorem fed_breakBeforeOpens (s : Text) : Fed true false s (breakBeforeOpens s) := by
  induction s using StructuralOpen.pattern.scan_induction with
  | done => rw [breakBeforeOpens, Pattern.replace_nil]; exact .done
  | plain c s h ih =>
    rw [breakBeforeOpens, Pattern.replace_cons_of_none _ _ h]
    exact .keep c ih.ofFalse
  | found s t rest h ih =>
    rw [breakBeforeOpens, Pattern.replace_of_some _ _ h, ← StructuralOpen.pattern.text_append h]
    exact .feed (.inr ⟨rfl, rfl⟩) (ih.append_left t.text)

end HtmlReflow
