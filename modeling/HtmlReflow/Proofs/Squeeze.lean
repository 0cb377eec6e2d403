import HtmlReflow.Proofs.Collapsed
import HtmlReflow.Proofs.LocalScan
import HtmlReflow.Proofs.Markup
import HtmlReflow.Proofs.Trim

namespace HtmlReflow

variable {s t u : Text} {c : Char}

/-- A text is blanks, or blanks and a character that is none and a text behind it. -/
theorem blank_induction {motive : Text → Prop}
    (blanks : ∀ u, (∀ c ∈ u, isBlank c = true) → motive u)
    (solid : ∀ u c s, (∀ d ∈ u, isBlank d = true) → isBlank c = false → motive s → motive (u ++ c :: s))
    (s : Text) : motive s := by
  generalize hn : s.length = n
  induction n using Nat.strongRecOn generalizing s with
  | ind n ih =>
    have whole : s.takeWhile isBlank ++ trimStart s = s := spanBlanks_append s
    have blank : ∀ c ∈ s.takeWhile isBlank, isBlank c = true := List.all_eq_true.mp List.all_takeWhile
    rcases trimStart_eq_nil_or s with empty | ⟨c, rest, same, first⟩
    · rw [empty, List.append_nil] at whole
      exact blanks s (whole ▸ blank)
    · rw [same] at whole
      have shorter : rest.length < n := by
        rw [← hn, ← whole, List.length_append, List.length_cons]
        omega
      exact whole ▸ solid _ c rest blank first (ih _ shorter rest rfl)

theorem trimStart_of_blank (blank : ∀ c ∈ u, isBlank c = true) : trimStart u = [] :=
  List.dropWhile_eq_nil_iff.mpr blank

theorem trimStart_append_cons (blank : ∀ c ∈ u, isBlank c = true) (solid : isBlank c = false) :
    trimStart (u ++ c :: s) = c :: s :=
  congrArg Prod.snd (spanBlanks_append_cons blank solid)

theorem trimEnd_of_blank (blank : ∀ c ∈ u, isBlank c = true) : trimEnd u = [] := by
  rw [trimEnd, List.reverse_eq_nil_iff, List.dropWhile_eq_nil_iff]
  exact fun c member => blank c (List.mem_reverse.mp member)

theorem trimEnd_append_cons (solid : isBlank c = false) (u s : Text) :
    trimEnd (u ++ c :: s) = u ++ c :: trimEnd s := by
  induction s using List.reverseRecOn with
  | nil => exact trimEnd_append_of_not_blank u solid
  | append_singleton s d ih =>
    have split : u ++ c :: (s ++ [d]) = (u ++ c :: s) ++ [d] := by simp
    cases blank : isBlank d with
    | true => rw [split, trimEnd_append_of_blank _ blank, ih, trimEnd_append_of_blank _ blank]
    | false =>
      rw [split, trimEnd_append_of_not_blank _ blank, trimEnd_append_of_not_blank _ blank]
      exact split.symm

theorem trimStart_trimEnd (s : Text) : trimStart (trimEnd s) = trimEnd (trimStart s) := by
  induction s using blank_induction with
  | blanks u blank =>
    rw [trimEnd_of_blank blank, trimStart_of_blank blank]
    rfl
  | solid u c s blank solid _ =>
    rw [trimEnd_append_cons solid, trimStart_append_cons blank solid, trimStart_append_cons blank solid]
    exact (trimEnd_append_cons solid [] s).symm

/-- A text with longer runs of blanks made one space. -/
def squeeze (s : Text) : Text := BlankRun.pattern.replace (fun _ => [' ']) s

@[simp] theorem squeeze_nil : squeeze [] = [] := Pattern.replace_nil _ _

theorem BlankRun.stops (solid : isBlank c = false) : BlankRun.pattern.Stops c := by
  intro u v
  have span : spanBlanks (u ++ c :: v) = ((spanBlanks u).1, (spanBlanks u).2 ++ c :: v) := by
    induction u with
    | nil => simp [spanBlanks, solid]
    | cons d u ih =>
      simp only [spanBlanks, Prod.mk.injEq] at ih ⊢
      cases blank : isBlank d with
      | true => simp [blank, ih]
      | false => simp [blank]
  show BlankRun.front? (u ++ c :: v) = (BlankRun.front? u).map _
  unfold BlankRun.front?
  rw [span]
  split
  · rename_i found
    obtain ⟨first, rfl⟩ := Prod.mk.inj found
    rw [show spanBlanks u = (_, _) from Prod.ext first rfl]
    rfl
  · rename_i none
    split
    · rename_i found
      rw [found] at none
      exact absurd rfl (none _ _ _ _)
    · rfl

theorem squeeze_append_cons (solid : isBlank c = false) (u v : Text) :
    squeeze (u ++ c :: v) = squeeze u ++ c :: squeeze v :=
  (BlankRun.stops solid).replace_append_cons u v

theorem squeeze_of_blank (blank : ∀ c ∈ u, isBlank c = true) :
    squeeze u = if 2 ≤ u.length then [' '] else u := by
  match u with
  | [] => rw [squeeze_nil]; rfl
  | [c] =>
    have none : BlankRun.front? [c] = none := by
      simp [BlankRun.front?, spanBlanks, blank c List.mem_cons_self]
    have kept : squeeze [c] = c :: squeeze [] := Pattern.replace_cons_of_none _ _ none
    rw [kept, squeeze_nil]
    rfl
  | c :: d :: u =>
    have whole : spanBlanks (c :: d :: u) = (c :: d :: u, []) := by
      have all : (c :: d :: u).takeWhile isBlank = c :: d :: u := List.takeWhile_eq_self_iff.mpr blank
      have none : (c :: d :: u).dropWhile isBlank = [] := List.dropWhile_eq_nil_iff.mpr blank
      rw [spanBlanks, all, none]
    have found : BlankRun.front? (c :: d :: u) = some (⟨c :: d :: u⟩, []) := by
      unfold BlankRun.front?
      rw [whole]
    rw [squeeze, Pattern.replace_of_some _ _ found, Pattern.replace_nil, if_pos (by simp)]
    rfl

theorem blank_squeeze (blank : ∀ c ∈ u, isBlank c = true) : ∀ c ∈ squeeze u, isBlank c = true := by
  rw [squeeze_of_blank blank]
  split
  · intro c member
    rw [List.mem_singleton.mp member]
    rfl
  · exact blank

theorem trimStart_squeeze (s : Text) : trimStart (squeeze s) = squeeze (trimStart s) := by
  induction s using blank_induction with
  | blanks u blank =>
    rw [trimStart_of_blank (blank_squeeze blank), trimStart_of_blank blank, squeeze_nil]
  | solid u c s blank solid _ =>
    rw [squeeze_append_cons solid, trimStart_append_cons (blank_squeeze blank) solid,
      trimStart_append_cons blank solid]
    have front : squeeze (c :: s) = squeeze [] ++ c :: squeeze s := squeeze_append_cons solid [] s
    rw [front, squeeze_nil, List.nil_append]

theorem trimEnd_squeeze (s : Text) : trimEnd (squeeze s) = squeeze (trimEnd s) := by
  induction s using blank_induction with
  | blanks u blank =>
    rw [trimEnd_of_blank (blank_squeeze blank), trimEnd_of_blank blank, squeeze_nil]
  | solid u c s blank solid ih =>
    rw [squeeze_append_cons solid, trimEnd_append_cons solid, trimEnd_append_cons solid,
      squeeze_append_cons solid, ih]

theorem squeeze_eq_nil_iff : squeeze s = [] ↔ s = [] := by
  constructor
  · intro empty
    cases s with
    | nil => rfl
    | cons c s =>
      cases front : BlankRun.pattern.front? (c :: s) with
      | none => rw [squeeze, Pattern.replace_cons_of_none _ _ front] at empty; cases empty
      | some x =>
        obtain ⟨r, rest⟩ := x
        rw [squeeze, Pattern.replace_of_some _ _ front] at empty
        cases empty
  · intro empty
    rw [empty, squeeze_nil]

theorem plain_squeeze (plain : Plain t) : Plain (squeeze t) := by
  induction t using blank_induction with
  | blanks u blank => exact plain_of_blank (blank_squeeze blank)
  | solid u c s blank solid ih =>
    rw [squeeze_append_cons solid]
    have parts := plain_append.mp plain
    have last : Plain [c] ∧ Plain s := plain_append.mp parts.2
    exact plain_append.mpr
      ⟨plain_of_blank (blank_squeeze blank), plain_append.mpr ⟨last.1, ih last.2⟩⟩

end HtmlReflow
