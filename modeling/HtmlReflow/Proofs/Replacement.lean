import HtmlReflow.Minify.Shield
import HtmlReflow.Proofs.Placeholder
import Mathlib.Data.List.Perm.Basic

namespace HtmlReflow

variable {u v s a b : Text} {d : Char}

theorem replaceFirst_append (u v s : Text) : replaceFirst u v (u ++ s) = v ++ s := by
  rw [replaceFirst, first?_of_some (afterToken?_eq_some.mpr rfl)]
  rfl

theorem replaceFirst_nil (nonempty : u ≠ []) : replaceFirst u v [] = [] := by
  have front : afterToken? u [] = none := by
    cases same : afterToken? u [] with
    | none => rfl
    | some rest => exact absurd (List.append_eq_nil_iff.mp (afterToken?_eq_some.mp same).symm).1 nonempty
  rw [replaceFirst, first?_nil_of_none front]

theorem replaceFirst_cons (other : ¬ u <+: d :: s) :
    replaceFirst u v (d :: s) = d :: replaceFirst u v s := by
  have front : afterToken? u (d :: s) = none := by
    cases same : afterToken? u (d :: s) with
    | none => rfl
    | some rest => exact absurd ⟨rest, (afterToken?_eq_some.mp same).symm⟩ other
  rw [replaceFirst, first?_cons_of_none front, replaceFirst]
  cases first? (afterToken? u) s with
  | none => rfl
  | some x => rfl

theorem eq_append_of_first? (found : first? (afterToken? u) s = some (a, b)) : s = a ++ (u ++ b) := by
  obtain ⟨rest, split, token⟩ := exists_rest_of_first? found
  rw [split, afterToken?_eq_some.mp token]

theorem not_infix_of_first? (found : first? (afterToken? u) s = none) : ¬ u <:+: s := by
  rintro ⟨a, b, rfl⟩
  have fails := first?_eq_none_iff.mp found a (u ++ b) (List.append_assoc a u b)
  rw [afterToken?_eq_some.mpr rfl] at fails
  cases fails

theorem replaceFirst_eq_self (absent : ¬ u <:+: s) : replaceFirst u v s = s := by
  unfold replaceFirst
  split
  · rename_i a b found
    have inside : u <:+: s := by
      rw [eq_append_of_first? found]
      exact List.infix_append' a u b
    exact absurd inside absent
  · rfl

theorem exists_replaceFirst_eq (inside : u <:+: s) (v : Text) :
    ∃ a b, s = a ++ (u ++ b) ∧ replaceFirst u v s = a ++ (v ++ b) := by
  unfold replaceFirst
  split
  · rename_i a b found
    exact ⟨a, b, eq_append_of_first? found, rfl⟩
  · rename_i found
    exact absurd inside (not_infix_of_first? found)

/-- A word that is not in front of a `d`, and has no `d`, is found directly behind it. -/
theorem replaceFirst_append_cons (absent : ¬ u <:+: a) (free : d ∉ u) :
    replaceFirst u v (a ++ d :: (u ++ b)) = a ++ d :: (v ++ b) := by
  induction a with
  | nil =>
    by_cases empty : u = []
    · subst empty
      exact absurd List.nil_infix absent
    · have other : ¬ u <+: d :: (u ++ b) := by
        intro front
        obtain ⟨e, u, rfl⟩ := List.exists_cons_of_ne_nil empty
        have same : e = d := (List.cons_prefix_cons.mp front).1
        exact free (same ▸ List.mem_cons_self)
      rw [List.nil_append, replaceFirst_cons other, replaceFirst_append]
      rfl
  | cons e a ih =>
    have other : ¬ u <+: e :: (a ++ d :: (u ++ b)) := by
      intro front
      obtain ⟨rest, same⟩ := front
      have within : u <+: e :: a := prefix_of_append_eq_append_cons (t := u ++ b) free same
      exact absent within.isInfix
    have later : ¬ u <:+: a := fun inside => absent (List.infix_cons inside)
    rw [List.cons_append, replaceFirst_cons other, ih later]
    rfl

theorem perm_replaceFirst (inside : u <:+: s) (v : Text) :
    (replaceFirst u v s ++ u).Perm (s ++ v) := by
  obtain ⟨a, b, rfl, replaced⟩ := exists_replaceFirst_eq inside v
  rw [replaced, List.perm_iff_count]
  intro c
  simp only [List.count_append]
  omega

variable {next i : Nat} {contents : List Text}

theorem restoreFrom_append (next : Nat) (contents later : List Text) (s : Text) :
    restoreFrom next (contents ++ later) s =
      restoreFrom (next + contents.length) later (restoreFrom next contents s) := by
  induction contents generalizing next s with
  | nil => rfl
  | cons content contents ih =>
    have index : next + 1 + contents.length = next + (contents.length + 1) := by omega
    rw [List.cons_append, restoreFrom, restoreFrom, ih, List.length_cons, index]

/-- The text of step `i + 1` is that of step `i` with content `i` in the first place for it. -/
theorem restore_take_succ (bound : i < contents.length) (s : Text) :
    restore (contents.take (i + 1)) s =
      replaceFirst (placeholder i) contents[i] (restore (contents.take i) s) := by
  have size : (contents.take i).length = i := List.length_take_of_le (Nat.le_of_lt bound)
  rw [List.take_succ_eq_append_getElem bound, restore, restoreFrom_append, size, Nat.zero_add]
  rfl

end HtmlReflow
