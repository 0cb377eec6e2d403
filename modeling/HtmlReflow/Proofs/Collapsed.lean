import HtmlReflow.Proofs.Counting
import HtmlReflow.Proofs.Respaced

namespace HtmlReflow

variable {angle : Bool} {c d : Char} {s t u rest : Text}

/-- No two blanks stand side by side. -/
def Single (s : Text) : Prop :=
  ∀ c d, isBlank c = true → isBlank d = true → ¬ [c, d] <:+: s

/-- No `>` has blanks behind it up to a `<`. -/
def Ungapped (s : Text) : Prop :=
  ∀ u, u ≠ [] → (∀ c ∈ u, isBlank c = true) → ¬ ('>' :: (u ++ ['<'])) <:+: s

theorem Single.part (single : Single t) (part : s <:+: t) : Single s :=
  fun c d first second inside => single c d first second (inside.trans part)

theorem Ungapped.part (ungapped : Ungapped t) (part : s <:+: t) : Ungapped s :=
  fun u nonempty blank inside => ungapped u nonempty blank (inside.trans part)

theorem spanBlanks_append_cons (blank : ∀ c ∈ u, isBlank c = true) (solid : isBlank d = false) :
    spanBlanks (u ++ d :: s) = (u, d :: s) := by
  induction u with
  | nil => simp [spanBlanks, solid]
  | cons c u ih =>
    have later := ih fun e member => blank e (List.mem_cons_of_mem c member)
    simp only [spanBlanks, Prod.mk.injEq] at later ⊢
    simp [blank c List.mem_cons_self, later]

namespace Respaced

theorem cons_right_blank (blank : isBlank c = true) (r : Respaced angle s (c :: t)) :
    ∃ u d s', s = u ++ d :: s' ∧ (∀ e ∈ u, isBlank e = true) ∧ isBlank d = true ∧
      Respaced false s' t := by
  induction s with
  | nil => cases r
  | cons e s ih =>
    cases r with
    | keep _ r =>
      have other : (c == '>') = false := by
        rw [beq_eq_false_iff_ne]
        intro same
        rw [same] at blank
        cases blank
      rw [other] at r
      exact ⟨[], c, s, rfl, by simp, blank, r⟩
    | space dropped r => exact ⟨[], e, s, rfl, by simp, dropped, r⟩
    | drop dropped _ r =>
      obtain ⟨u, d, s', rfl, blanks, last, behind⟩ := ih r
      refine ⟨e :: u, d, s', rfl, ?_, last, behind⟩
      intro f member
      rcases List.mem_cons.mp member with same | member
      · rw [same]
        exact dropped
      · exact blanks f member

theorem blanks_right (blank : ∀ c ∈ u, isBlank c = true) (solid : isBlank d = false)
    (r : Respaced angle s (u ++ d :: t)) :
    ∃ u' s', s = u' ++ d :: s' ∧ (∀ c ∈ u', isBlank c = true) ∧ (u ≠ [] → u' ≠ []) := by
  induction u generalizing s angle with
  | nil =>
    obtain ⟨u', s', rfl, blanks, _⟩ := r.cons_right solid
    exact ⟨u', s', rfl, blanks, fun impossible => absurd rfl impossible⟩
  | cons c u ih =>
    obtain ⟨v, e, s₁, rfl, blanks, last, behind⟩ := r.cons_right_blank (blank c List.mem_cons_self)
    obtain ⟨v', s₂, rfl, blanks', _⟩ := ih (fun f member => blank f (List.mem_cons_of_mem c member)) behind
    refine ⟨v ++ e :: v', s₂, by simp, ?_, fun _ => by simp⟩
    intro f member
    rcases List.mem_append.mp member with first | second
    · exact blanks f first
    · rcases List.mem_cons.mp second with same | second
      · rw [same]
        exact last
      · exact blanks' f second

/-- Dropping blanks brings no blanks together. -/
theorem single (r : Respaced angle s t) (single : Single s) : Single t := by
  intro c d first second inside
  obtain ⟨a, b, rfl⟩ := inside
  rw [List.append_assoc] at r
  obtain ⟨a', s₁, angle₁, rfl, _, r₁⟩ := r.split_right
  obtain ⟨u, e, s₂, rfl, _, last, r₂⟩ := r₁.cons_right_blank first
  obtain ⟨v, f, s₃, rfl, blanks, last', _⟩ := r₂.cons_right_blank second
  -- The blank that became `c` has another one behind it, dropped or not.
  cases v with
  | nil => exact single e f last last' ⟨a' ++ u, s₃, by simp⟩
  | cons g v =>
    exact single e g last (blanks g List.mem_cons_self) ⟨a' ++ u, v ++ f :: s₃, by simp⟩

theorem ungapped (r : Respaced angle s t) (ungapped : Ungapped s) : Ungapped t := by
  intro u nonempty blank inside
  obtain ⟨a, b, rfl⟩ := inside
  have split : a ++ '>' :: (u ++ ['<']) ++ b = a ++ '>' :: (u ++ '<' :: b) := by simp
  rw [split] at r
  obtain ⟨a', s₁, angle₁, rfl, _, r₁⟩ := r.split_right
  obtain ⟨gone, s₂, rfl, _, r₂, _⟩ := r₁.cons_right (by decide)
  obtain ⟨v, s₃, rfl, blanks, more⟩ := r₂.blanks_right blank (by decide)
  exact ungapped v (more nonempty) blanks ⟨a' ++ gone, s₃, by simp⟩

end Respaced

theorem Gap.blanks_ne_nil {g : Gap} (found : Gap.front? s = some (g, rest)) : g.blanks ≠ [] := by
  unfold Gap.front? at found
  split at found
  · split at found
    · cases found
      exact List.cons_ne_nil _ _
    · cases found
  · cases found

theorem Gap.front?_eq_some_of_blank (nonempty : u ≠ []) (blank : ∀ c ∈ u, isBlank c = true) :
    ∃ g, Gap.front? ('>' :: (u ++ '<' :: s)) = some (g, s) := by
  obtain ⟨c, u, rfl⟩ := List.exists_cons_of_ne_nil nonempty
  refine ⟨⟨c :: u⟩, ?_⟩
  simp only [Gap.front?, spanBlanks_append_cons blank (by decide : isBlank '<' = false)]

/-- What stands in front of the first `<` is not touched where it is blank. -/
theorem exists_of_gaps_eq (blank : ∀ c ∈ u, isBlank c = true)
    (written : Gap.pattern.replace (fun _ => ['>', '<']) s = u ++ '<' :: t) :
    ∃ s', s = u ++ '<' :: s' := by
  induction u generalizing s with
  | nil =>
    cases s with
    | nil => rw [Pattern.replace_nil] at written; cases written
    | cons c s =>
      cases front : Gap.pattern.front? (c :: s) with
      | none =>
        rw [Pattern.replace_cons_of_none _ _ front] at written
        exact ⟨s, by rw [(List.cons.inj written).1]; rfl⟩
      | some x =>
        obtain ⟨g, rest⟩ := x
        rw [Pattern.replace_of_some _ _ front] at written
        cases written
  | cons d u ih =>
    have here := blank d List.mem_cons_self
    cases s with
    | nil => rw [Pattern.replace_nil] at written; cases written
    | cons c s =>
      cases front : Gap.pattern.front? (c :: s) with
      | none =>
        rw [Pattern.replace_cons_of_none _ _ front] at written
        obtain ⟨same, written⟩ := List.cons.inj written
        obtain ⟨s', rfl⟩ := ih (fun e member => blank e (List.mem_cons_of_mem d member)) written
        exact ⟨s', by rw [same]; rfl⟩
      | some x =>
        obtain ⟨g, rest⟩ := x
        rw [Pattern.replace_of_some _ _ front] at written
        rw [← (List.cons.inj written).1] at here
        cases here

theorem ungapped_gaps (s : Text) : Ungapped (Gap.pattern.replace (fun _ => ['>', '<']) s) := by
  induction s using Gap.pattern.scan_induction with
  | done =>
    intro u _ _ inside
    rw [Pattern.replace_nil] at inside
    cases List.infix_nil.mp inside
  | found s g rest h ih =>
    intro u nonempty blank inside
    rw [Pattern.replace_of_some _ _ h] at inside
    show False
    rcases List.infix_cons_iff.mp inside with front | later
    · obtain ⟨b, same⟩ := front
      obtain ⟨c, u, rfl⟩ := List.exists_cons_of_ne_nil nonempty
      have here := blank c List.mem_cons_self
      rw [(List.cons.inj (List.cons.inj same).2).1] at here
      cases here
    · rcases List.infix_cons_iff.mp later with front | later
      · obtain ⟨b, same⟩ := front
        cases (List.cons.inj same).1
      · exact ih u nonempty blank later
  | plain c s h ih =>
    intro u nonempty blank inside
    rw [Pattern.replace_cons_of_none _ _ h] at inside
    rcases List.infix_cons_iff.mp inside with front | later
    · obtain ⟨b, same⟩ := front
      rw [List.cons_append, List.append_assoc] at same
      obtain ⟨angle, written⟩ := List.cons.inj same
      obtain ⟨s', rfl⟩ := exists_of_gaps_eq blank written.symm
      obtain ⟨g, found⟩ := Gap.front?_eq_some_of_blank (s := s') nonempty blank
      rw [angle] at found
      exact absurd (h.symm.trans found) (by simp)
    · exact ih u nonempty blank later

theorem exists_of_runs_eq (blank : isBlank d = true)
    (written : BlankRun.pattern.replace (fun _ => [' ']) s = d :: t) :
    ∃ c s', s = c :: s' ∧ isBlank c = true := by
  cases s with
  | nil => rw [Pattern.replace_nil] at written; cases written
  | cons c s =>
    refine ⟨c, s, rfl, ?_⟩
    cases front : BlankRun.pattern.front? (c :: s) with
    | none =>
      rw [Pattern.replace_cons_of_none _ _ front] at written
      rwa [(List.cons.inj written).1]
    | some x =>
      obtain ⟨r, rest⟩ := x
      have blanks := BlankRun.blank_of_front? front
      have start := BlankRun.pattern.text_append front
      have nonempty := BlankRun.pattern.text_ne_nil front
      obtain ⟨e, u, same⟩ := List.exists_cons_of_ne_nil nonempty
      rw [same] at start
      rw [← (List.cons.inj start).1]
      exact blanks e (show e ∈ r.blanks by rw [show r.blanks = e :: u from same]; exact List.mem_cons_self)

/-- A run takes all blanks that follow each other. -/
theorem BlankRun.rest_of_front? {r : BlankRun} (found : BlankRun.front? s = some (r, c :: rest)) :
    isBlank c = false := by
  unfold BlankRun.front? at found
  split at found
  · rename_i spanned
    cases found
    have behind : s.dropWhile isBlank = c :: rest := congrArg Prod.snd spanned
    have first := List.head?_dropWhile_not isBlank s
    rw [behind] at first
    simpa using first
  · cases found

theorem single_runs (s : Text) : Single (BlankRun.pattern.replace (fun _ => [' ']) s) := by
  induction s using BlankRun.pattern.scan_induction with
  | done =>
    intro c d _ _ inside
    rw [Pattern.replace_nil] at inside
    cases List.infix_nil.mp inside
  | found s r rest h ih =>
    intro c d first second inside
    rw [Pattern.replace_of_some _ _ h] at inside
    rcases List.infix_cons_iff.mp inside with front | later
    · obtain ⟨b, same⟩ := front
      obtain ⟨e, rest', rfl, blank⟩ := exists_of_runs_eq second (List.cons.inj same).2.symm
      rw [BlankRun.rest_of_front? h] at blank
      cases blank
    · exact ih c d first second later
  | plain e s h ih =>
    intro c d first second inside
    rw [Pattern.replace_cons_of_none _ _ h] at inside
    rcases List.infix_cons_iff.mp inside with front | later
    · obtain ⟨b, same⟩ := front
      obtain ⟨head, tail⟩ := List.cons.inj same
      obtain ⟨f, s', rfl, blank⟩ := exists_of_runs_eq second tail.symm
      rw [head] at first
      -- Two blanks in front would have been read as a run.
      have found : BlankRun.front? (e :: f :: s') ≠ none := by
        simp [BlankRun.front?, spanBlanks, first, blank]
      exact absurd h found
    · exact ih c d first second later

theorem Ungapped.no_gap (ungapped : Ungapped s) : ∀ g, .found g ∉ Gap.pattern.pieces s := by
  intro g member
  obtain ⟨t, rest, found⟩ := Gap.pattern.exists_front?_of_mem member
  exact ungapped g.blanks (Gap.blanks_ne_nil found) (Gap.blank_of_front? found)
    (Gap.pattern.text_infix_of_mem member)

theorem BlankRun.exists_blanks_of_mem {r : BlankRun} (member : .found r ∈ BlankRun.pattern.pieces s) :
    ∃ c d blanks, r.blanks = c :: d :: blanks ∧ isBlank c = true ∧ isBlank d = true := by
  obtain ⟨t, rest, found⟩ := BlankRun.pattern.exists_front?_of_mem member
  have blank := BlankRun.blank_of_front? found
  simp only [BlankRun.pattern, BlankRun.front?] at found
  split at found
  · cases found
    exact ⟨_, _, _, rfl, blank _ (by simp), blank _ (by simp)⟩
  · cases found

theorem Single.no_run (single : Single s) : ∀ r, .found r ∉ BlankRun.pattern.pieces s := by
  intro r member
  obtain ⟨c, d, blanks, written, first, second⟩ := BlankRun.exists_blanks_of_mem member
  have inside : r.blanks <:+: s := BlankRun.pattern.text_infix_of_mem member
  rw [written] at inside
  exact single c d first second (List.IsInfix.trans ⟨[], blanks, rfl⟩ inside)

end HtmlReflow
