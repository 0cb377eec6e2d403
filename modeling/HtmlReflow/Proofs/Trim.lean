import HtmlReflow.Proofs.Search
import Mathlib.Data.List.DropRight
import Mathlib.Data.List.Induction

namespace HtmlReflow

variable {s : Text} {d : Char}

theorem infix_trimStart_iff {u : Text} (free : ∀ c ∈ u, isBlank c = false) (s : Text) :
    u <:+: trimStart s ↔ u <:+: s := by
  induction s with
  | nil => rfl
  | cons c s ih =>
    cases blank : isBlank c with
    | false => rw [trimStart_cons_of_not_blank blank]
    | true =>
      rw [trimStart_cons_of_blank blank, ih, infix_cons_of_notMem]
      intro member
      rw [free c member] at blank
      cases blank

theorem infix_trim_iff {u : Text} (free : ∀ c ∈ u, isBlank c = false) (s : Text) :
    u <:+: trim s ↔ u <:+: s := by
  have reversed : ∀ c ∈ u.reverse, isBlank c = false := by simpa using free
  calc u <:+: trim s
      ↔ u.reverse <:+: trimStart (trimStart s).reverse := by
        rw [trim, trimEnd, ← List.reverse_infix, List.reverse_reverse]; rfl
    _ ↔ u <:+: trimStart s := by rw [infix_trimStart_iff reversed, List.reverse_infix]
    _ ↔ u <:+: s := infix_trimStart_iff free s

theorem trimStart_sublist (s : Text) : (trimStart s).Sublist s := List.dropWhile_sublist _

theorem trimEnd_sublist (s : Text) : (trimEnd s).Sublist s := by
  rw [← List.reverse_sublist, trimEnd, List.reverse_reverse]
  exact List.dropWhile_sublist _

theorem trimEnd_prefix (s : Text) : trimEnd s <+: s := by
  rw [← List.reverse_suffix, trimEnd, List.reverse_reverse]
  exact List.dropWhile_suffix _

theorem trim_sublist (s : Text) : (trim s).Sublist s :=
  (trimEnd_sublist _).trans (trimStart_sublist s)

theorem trimStart_eq_self (kept : s.countP isBlank ≤ (trimStart s).countP isBlank) :
    trimStart s = s := by
  cases s with
  | nil => rfl
  | cons c s =>
    cases blank : isBlank c with
    | false => exact trimStart_cons_of_not_blank blank s
    | true =>
      have le := (trimStart_sublist s).countP_le (p := isBlank)
      rw [trimStart_cons_of_blank blank, List.countP_cons_of_pos blank] at kept
      omega

theorem trim_eq_self (kept : s.countP isBlank ≤ (trim s).countP isBlank) : trim s = s := by
  have first := (trimStart_sublist s).countP_le (p := isBlank)
  have last := (trimEnd_sublist (trimStart s)).countP_le (p := isBlank)
  have start : trimStart s = s := trimStart_eq_self (Nat.le_trans kept last)
  rw [trim, start] at kept ⊢
  have finish : trimStart s.reverse = s.reverse := by
    apply trimStart_eq_self
    rw [List.countP_reverse, ← List.countP_reverse (l := trimStart s.reverse)]
    exact kept
  rw [trimEnd, ← trimStart, finish, List.reverse_reverse]

theorem trimStart_eq_nil_or (s : Text) :
    trimStart s = [] ∨ ∃ c t, trimStart s = c :: t ∧ isBlank c = false := by
  cases same : trimStart s with
  | nil => exact .inl rfl
  | cons c t =>
    refine .inr ⟨c, t, rfl, ?_⟩
    have first := List.head?_dropWhile_not isBlank s
    rw [show s.dropWhile isBlank = c :: t from same] at first
    simpa using first

theorem takeWhile_eq_nil (same : trimStart s = s) : s.takeWhile isBlank = [] := by
  have whole := spanBlanks_append s
  simp only [spanBlanks] at whole
  rw [show s.dropWhile isBlank = s from same] at whole
  exact List.append_left_eq_self.mp whole

theorem trimStart_append_singleton (blank : isBlank d = true) :
    trimStart (s ++ [d]) = if trimStart s = [] then [] else trimStart s ++ [d] := by
  simp only [trimStart, List.dropWhile_append, List.isEmpty_iff]
  by_cases empty : s.dropWhile isBlank = []
  · simp [empty, blank]
  · simp [empty]

theorem takeWhile_append_singleton (none : (s ++ [d]).takeWhile isBlank = []) (blank : isBlank d = true) :
    s.takeWhile isBlank = [] ∧ trimStart s = s ∧ trimStart (s ++ [d]) = s ++ [d] := by
  cases s with
  | nil =>
    rw [List.nil_append, List.takeWhile_cons, blank] at none
    cases none
  | cons c s =>
    cases first : isBlank c with
    | true =>
      rw [List.cons_append, List.takeWhile_cons, first] at none
      cases none
    | false =>
      rw [List.takeWhile_cons, first]
      exact ⟨rfl, trimStart_cons_of_not_blank first s, trimStart_cons_of_not_blank first (s ++ [d])⟩

theorem trim_trim (s : Text) : trim (trim s) = trim s := by
  have start : trimStart (trimEnd (trimStart s)) = trimEnd (trimStart s) := by
    cases same : trimEnd (trimStart s) with
    | nil => rfl
    | cons c t =>
      refine trimStart_cons_of_not_blank ?_ t
      obtain ⟨u, whole⟩ := trimEnd_prefix (trimStart s)
      rcases trimStart_eq_nil_or s with empty | ⟨d, v, first, solid⟩
      · rw [empty] at same
        cases same
      · rw [same, first] at whole
        rwa [(List.cons.inj whole).1]
  rw [trim, trim, start, trimEnd, trimEnd, List.reverse_reverse, List.dropWhile_idempotent]

/-- What stays true when a blank at one of the ends goes, is true of the trimmed text. -/
theorem trim_induction {motive : Text → Prop}
    (front : ∀ c s, isBlank c = true → motive (c :: s) → motive s)
    (back : ∀ c s, isBlank c = true → motive (s ++ [c]) → motive s) (start : motive s) :
    motive (trim s) := by
  have first : ∀ s, motive s → motive (trimStart s) := by
    intro s start
    induction s with
    | nil => exact start
    | cons c s ih =>
      cases blank : isBlank c with
      | false => rwa [trimStart_cons_of_not_blank blank]
      | true =>
        rw [trimStart_cons_of_blank blank]
        exact ih (front c s blank start)
  have last : ∀ s, motive s → motive (trimEnd s) := by
    intro s start
    induction s using List.reverseRecOn with
    | nil => exact start
    | append_singleton s c ih =>
      cases blank : isBlank c with
      | false => rwa [trimEnd_append_of_not_blank s blank]
      | true =>
        rw [trimEnd_append_of_blank s blank]
        exact ih (back c s blank start)
  exact last _ (first s start)

end HtmlReflow
