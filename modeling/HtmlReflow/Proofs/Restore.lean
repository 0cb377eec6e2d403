import HtmlReflow.Proofs.Marked
import HtmlReflow.Proofs.Replacement
import Mathlib.Data.List.GetD

namespace HtmlReflow

def contentAt (contents : List Text) (i : Nat) : Text := contents.getD i []

theorem contentAt_of_drop {contents rest : List Text} {content : Text} {next : Nat}
    (there : contents.drop next = content :: rest) :
    next < contents.length ∧ contentAt contents next = content ∧ contents.drop (next + 1) = rest := by
  have bound : next < contents.length := by
    by_contra out
    rw [List.drop_eq_nil_of_le (Nat.le_of_not_lt out)] at there
    cases there
  rw [List.drop_eq_getElem_cons bound, List.cons.injEq] at there
  refine ⟨bound, ?_, there.2⟩
  rw [contentAt, List.getD_eq_getElem _ _ bound, there.1]

/-- What mark `i` stands for while the contents before `next` are back and the others are not. -/
def partlyAt (contents : List Text) (next i : Nat) : Text :=
  if i < next then contentAt contents i else placeholder i

theorem partlyAt_zero (contents : List Text) : partlyAt contents 0 = placeholder := by
  funext i
  rw [partlyAt, if_neg (Nat.not_lt_zero i)]

namespace Marked

/-- A marked text whose marks alone are read as placeholders while contents are put back: no content and
    no text beside it makes up a placeholder, and none is completed by the front of a mark. -/
structure Unforged (contents : List Text) (m : Marked) : Prop where
  closed : Closed m
  bounded : ∀ i ∈ marks m, i < contents.length
  nodup : (marks m).Nodup
  whole : ∀ j < contents.length, ¬ placeholder j <:+: spell (contentAt contents) m
  part : ∀ u i, Solid u → placeholderStart <+: u → ¬ ofText u ++ [.found i] <:+: m

variable {contents : List Text} {m : Marked} {next j : Nat} {a b : Text}

theorem unforged_of_clean (closed : Closed m) (bounded : ∀ i ∈ marks m, i < contents.length)
    (nodup : (marks m).Nodup) (clean : ¬ placeholderStart <:+: spell (contentAt contents) m) :
    Unforged contents m where
  closed := closed
  bounded := bounded
  nodup := nodup
  whole := fun j _ => no_placeholder clean j
  part := by
    rintro u i _ start ⟨x, y, rfl⟩
    refine clean (start.isInfix.trans ?_)
    simp only [spell_append, spell_ofText, List.append_assoc]
    exact List.infix_append' _ _ _

theorem Unforged.tail {p : Piece Nat} (unforged : Unforged contents (p :: m)) :
    Unforged contents m where
  closed := Closed.tail unforged.closed
  bounded := fun i member => unforged.bounded i (by
    cases p with
    | plain c => exact member
    | found j => simp [member])
  nodup := by
    cases p with
    | plain c => exact unforged.nodup
    | found j => exact (List.nodup_cons.mp unforged.nodup).2
  whole := fun j bound inside => unforged.whole j bound (inside.trans (by
    rw [show p :: m = [p] ++ m from rfl, spell_append]
    exact List.suffix_append _ _ |>.isInfix))
  part := fun u i solid start inside =>
    unforged.part u i solid start (inside.trans (List.infix_cons List.infix_rfl))

theorem Unforged.front (unforged : Unforged contents m) (bound : j < contents.length)
    (same : spell (partlyAt contents next) m = placeholder j ++ b) : ∃ rest, m = .found j :: rest := by
  rcases split_of_closed unforged.closed (solid_placeholder j).left_free same with
    ⟨rest, rfl⟩ | ⟨u, i, v, rest, y, word, rfl, inside⟩
  · refine absurd ?_ (unforged.whole j bound)
    rw [spell_append, spell_ofText]
    exact (List.prefix_append _ _).isInfix
  · by_cases back : i < next
    · -- The content of the mark completes the placeholder.
      refine absurd ?_ (unforged.whole j bound)
      rw [partlyAt, if_pos back] at inside
      rw [spell_append, spell_ofText, spell_found, inside, word]
      exact ⟨[], y ++ spell (contentAt contents) rest, by simp⟩
    · rw [partlyAt, if_neg back] at inside
      by_cases proper : u = []
      · subst proper
        rw [List.nil_append] at word
        rw [← word, ← List.append_nil (placeholder i)] at inside
        obtain ⟨rfl, _⟩ := eq_of_placeholder_append inside
        exact ⟨rest, rfl⟩
      · have start := placeholderStart_front_of_overlap word inside proper
        have solid : Solid u := fun c member =>
          solid_placeholder j c (word ▸ List.mem_append_left v member)
        exact absurd ⟨[], rest, by simp⟩ (unforged.part u i solid start)

/-- A placeholder anywhere in a half restored text is a mark. -/
theorem Unforged.cut (unforged : Unforged contents m) (bound : j < contents.length)
    (same : spell (partlyAt contents next) m = a ++ (placeholder j ++ b)) :
    ∃ m₁ m₂, m = m₁ ++ .found j :: m₂ ∧ spell (partlyAt contents next) m₁ = a := by
  induction m generalizing a with
  | nil =>
    exact absurd (List.append_eq_nil_iff.mp (List.append_eq_nil_iff.mp same.symm).2).1
      (placeholder_ne_nil j)
  | cons p m ih =>
    cases a with
    | nil =>
      obtain ⟨rest, front⟩ := unforged.front bound same
      exact ⟨[], rest, front, rfl⟩
    | cons c a =>
      cases p with
      | plain d =>
        rw [spell_plain, List.cons_append, List.cons.injEq] at same
        obtain ⟨rfl, same⟩ := same
        obtain ⟨m₁, m₂, rfl, rfl⟩ := ih unforged.tail same
        exact ⟨.plain d :: m₁, m₂, rfl, rfl⟩
      | found i =>
        obtain ⟨⟨rest, closing⟩, _⟩ := unforged.closed
        rw [spell_found] at same
        rcases List.append_eq_append_iff.mp same with ⟨k, before, later⟩ | ⟨k, inside, after⟩
        · obtain ⟨m₁, m₂, rfl, rfl⟩ := ih unforged.tail later
          exact ⟨.found i :: m₁, m₂, rfl, by rw [spell_found, before]⟩
        · -- The placeholder starts inside of what mark `i` stands for, and `<` stops it there.
          rw [closing] at after
          obtain ⟨x, rfl⟩ := prefix_of_append_eq_append_cons (solid_placeholder j).left_free after
          by_cases back : i < next
          · refine absurd ?_ (unforged.whole j bound)
            rw [partlyAt, if_pos back] at inside
            rw [spell_found, inside]
            exact ⟨c :: a, x ++ spell (contentAt contents) m, by simp⟩
          · rw [partlyAt, if_neg back] at inside
            cases (eq_of_placeholder_within inside).1

/-- One step of putting contents back changes what one mark stands for. -/
theorem Unforged.replaceFirst (unforged : Unforged contents m) (bound : next < contents.length) :
    replaceFirst (placeholder next) (contentAt contents next) (spell (partlyAt contents next) m) =
      spell (partlyAt contents (next + 1)) m := by
  have others : ∀ n : Marked, next ∉ marks n →
      spell (partlyAt contents next) n = spell (partlyAt contents (next + 1)) n := by
    intro n absent
    apply spell_congr
    intro i member
    have other : i ≠ next := fun same => absent (same ▸ member)
    have same : i < next + 1 ↔ i < next := by omega
    simp only [partlyAt, same]
  by_cases inside : placeholder next <:+: spell (partlyAt contents next) m
  · obtain ⟨before, rest, split, replaced⟩ := exists_replaceFirst_eq inside (contentAt contents next)
    obtain ⟨m₁, m₂, rfl, rfl⟩ := unforged.cut bound split
    obtain ⟨left, right⟩ := notMem_of_nodup unforged.nodup
    have same : rest = spell (partlyAt contents next) m₂ := by
      rw [spell_append, spell_found, partlyAt, if_neg (Nat.lt_irrefl next)] at split
      exact (List.append_cancel_left (List.append_cancel_left split)).symm
    rw [replaced, same, others m₁ left, others m₂ right, spell_append, spell_found, partlyAt,
      if_pos (Nat.lt_succ_self next)]
  · rw [replaceFirst_eq_self inside]
    apply others m
    intro member
    obtain ⟨m₁, m₂, rfl⟩ := List.append_of_mem (mem_marks.mp member)
    apply inside
    rw [spell_append, spell_found, partlyAt, if_neg (Nat.lt_irrefl next)]
    exact List.infix_append' _ _ _

theorem Unforged.restoreFrom (unforged : Unforged contents m) (remaining : List Text)
    (next : Nat) (there : contents.drop next = remaining) :
    restoreFrom next remaining (spell (partlyAt contents next) m) = spell (contentAt contents) m := by
  -- `remaining` is what of `contents` is not back yet; each step turns one more mark.
  induction remaining generalizing next with
  | nil =>
    have all : contents.length ≤ next := List.drop_eq_nil_iff.mp there
    apply spell_congr
    intro i member
    rw [partlyAt, if_pos (Nat.lt_of_lt_of_le (unforged.bounded i member) all)]
  | cons content remaining ih =>
    obtain ⟨bound, here, later⟩ := contentAt_of_drop there
    rw [HtmlReflow.restoreFrom, ← here, unforged.replaceFirst bound]
    exact ih (next + 1) later

/-- Putting contents back, one after the other, puts each in place of its own mark. -/
theorem Unforged.restore (unforged : Unforged contents m) :
    restore contents (spell placeholder m) = spell (contentAt contents) m := by
  rw [HtmlReflow.restore, ← partlyAt_zero contents]
  exact unforged.restoreFrom contents 0 rfl

end Marked
end HtmlReflow
