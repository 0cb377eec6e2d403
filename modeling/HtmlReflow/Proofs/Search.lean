import HtmlReflow.Text.Blank
import HtmlReflow.Text.Search
import Mathlib.Data.List.Basic

namespace HtmlReflow

/-- Without blanks and angle brackets. What is written solid keeps together when blanks are dropped
    between tags. -/
def Solid (u : Text) : Prop := ∀ c ∈ u, isBlank c = false ∧ c ≠ '<' ∧ c ≠ '>'

instance (u : Text) : Decidable (Solid u) := List.decidableBAll _ u

theorem Solid.head {c : Char} {u : Text} (solid : Solid (c :: u)) :
    isBlank c = false ∧ c ≠ '<' ∧ c ≠ '>' := solid c List.mem_cons_self

theorem Solid.tail {c : Char} {u : Text} (solid : Solid (c :: u)) : Solid u :=
  fun d member => solid d (List.mem_cons_of_mem c member)

theorem Solid.left_free {u : Text} (solid : Solid u) : '<' ∉ u :=
  fun member => (solid _ member).2.1 rfl

theorem Solid.right_free {u : Text} (solid : Solid u) : '>' ∉ u :=
  fun member => (solid _ member).2.2 rfl

theorem Solid.feed_free {u : Text} (solid : Solid u) : '\n' ∉ u := by
  intro member
  have impossible := (solid _ member).1
  cases impossible

theorem append_cons_inj_of_notMem_left {α : Type} {x y u v : List α} {c : α} (left : c ∉ x)
    (right : c ∉ u) (same : x ++ c :: y = u ++ c :: v) : x = u ∧ y = v := by
  rcases List.append_eq_append_iff.mp same with ⟨k, rfl, h⟩ | ⟨k, rfl, h⟩
  · rcases List.cons_eq_append_iff.mp h with ⟨rfl, h⟩ | ⟨k, rfl, rfl⟩
    · cases h; simp
    · simp at right
  · rcases List.cons_eq_append_iff.mp h with ⟨rfl, h⟩ | ⟨k, rfl, rfl⟩
    · cases h; simp
    · simp at left

theorem prefix_of_append_eq_append_cons {α : Type} {u a b t : List α} {c : α} (free : c ∉ u)
    (same : u ++ b = a ++ c :: t) : u <+: a := by
  rcases List.append_eq_append_iff.mp same with ⟨k, rfl, _⟩ | ⟨k, rfl, cut⟩
  · exact List.prefix_append u k
  · rcases List.cons_eq_append_iff.mp cut with ⟨rfl, _⟩ | ⟨k, rfl, _⟩
    · exact ⟨[], by simp⟩
    · simp at free

/-- A word without `c` stands before a `c` or behind it. -/
theorem before_or_behind {α : Type} {u a b x y : List α} {c : α} (free : c ∉ u)
    (same : a ++ (u ++ b) = x ++ c :: y) :
    (∃ k, x = a ++ (u ++ k) ∧ b = k ++ c :: y) ∨ ∃ k, a = x ++ c :: k ∧ y = k ++ (u ++ b) := by
  rcases List.append_eq_append_iff.mp same with ⟨k, rfl, cut⟩ | ⟨k, rfl, cut⟩
  · obtain ⟨k, rfl⟩ := prefix_of_append_eq_append_cons free cut
    rw [List.append_assoc] at cut
    exact .inl ⟨k, rfl, List.append_cancel_left cut⟩
  · rcases List.cons_eq_append_iff.mp cut with ⟨rfl, front⟩ | ⟨k, rfl, rfl⟩
    · have empty : u = [] := by
        cases u with
        | nil => rfl
        | cons d u =>
          have head : d = c := (List.cons.inj front).1
          exact absurd (head ▸ List.mem_cons_self) free
      rw [empty, List.nil_append] at front
      exact .inl ⟨[], by simp [empty], front⟩
    · exact .inr ⟨k, rfl, rfl⟩

/-- A word without `c` does not reach across `c`. -/
theorem infix_append_cons_iff {α : Type} {u a b : List α} {c : α} (free : c ∉ u) :
    u <:+: a ++ c :: b ↔ u <:+: a ∨ u <:+: b := by
  constructor
  · intro given
    obtain ⟨x, y, same⟩ := given
    rw [List.append_assoc] at same
    rcases before_or_behind free same with ⟨k, rfl, _⟩ | ⟨k, _, rfl⟩
    · exact .inl (List.infix_append' x u k)
    · exact .inr (List.infix_append' k u y)
  · intro given
    rcases given with ⟨x, y, rfl⟩ | ⟨x, y, rfl⟩
    · exact ⟨x, y ++ c :: b, by simp⟩
    · exact ⟨a ++ c :: x, y, by simp⟩

theorem infix_cons_of_notMem {α : Type} {u b : List α} {c : α} (free : c ∉ u) :
    u <:+: c :: b ↔ u <:+: b := by
  rw [show c :: b = [] ++ c :: b from rfl, infix_append_cons_iff free]
  constructor
  · intro given
    rcases given with h | h
    · rw [List.infix_nil.mp h]; exact List.nil_infix
    · exact h
  · exact .inr

variable {β : Type} {read : Text → Option β}

theorem first?_eq_none_iff {s : Text} :
    first? read s = none ↔ ∀ a r, s = a ++ r → read r = none := by
  induction s with
  | nil =>
    cases front : read [] with
    | some b =>
      rw [first?_of_some front]
      constructor
      · intro h; cases h
      · intro h; rw [h [] [] rfl] at front; cases front
    | none =>
      rw [first?_nil_of_none front]
      refine ⟨fun _ a r same => ?_, fun _ => rfl⟩
      rw [(List.append_eq_nil_iff.mp same.symm).2, front]
  | cons c s ih =>
    cases front : read (c :: s) with
    | some b =>
      rw [first?_of_some front]
      constructor
      · intro h; cases h
      · intro h; rw [h [] _ rfl] at front; cases front
    | none =>
      rw [first?_cons_of_none front, Option.map_eq_none_iff, ih]
      constructor
      · intro h a r same
        rcases List.cons_eq_append_iff.mp same with ⟨_, rfl⟩ | ⟨a, _, same⟩
        · exact front
        · exact h a r same
      · intro h a r same
        exact h (c :: a) r (by rw [same]; rfl)

theorem first?_append {before rest : Text} {b : β}
    (fails : ∀ a r, before = a ++ r → r ≠ [] → read (r ++ rest) = none) (ok : read rest = some b) :
    first? read (before ++ rest) = some (before, b) := by
  induction before with
  | nil => exact first?_of_some ok
  | cons c before ih =>
    have here : read (c :: (before ++ rest)) = none := fails [] (c :: before) rfl (by simp)
    rw [List.cons_append, first?_cons_of_none here,
      ih (fun a r same => fails (c :: a) r (by rw [same]; rfl))]
    rfl

theorem fails_of_first? {before rest : Text} {b : β}
    (found : first? read (before ++ rest) = some (before, b)) :
    ∀ a r, before = a ++ r → r ≠ [] → read (r ++ rest) = none := by
  induction before with
  | nil =>
    intro a r cut nonempty
    exact absurd (List.append_eq_nil_iff.mp cut.symm).2 nonempty
  | cons c before ih =>
    intro a r cut nonempty
    rw [List.cons_append] at found
    cases front : read (c :: (before ++ rest)) with
    | some b' => rw [first?_of_some front] at found; cases found
    | none =>
      rw [first?_cons_of_none front] at found
      cases later : first? read (before ++ rest) with
      | none => rw [later] at found; cases found
      | some x =>
        rw [later] at found
        cases found
        rcases List.cons_eq_append_iff.mp cut with ⟨_, rfl⟩ | ⟨a, _, cut⟩
        · exact front
        · exact ih later a r cut nonempty

end HtmlReflow
