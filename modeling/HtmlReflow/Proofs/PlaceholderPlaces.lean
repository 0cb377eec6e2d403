import HtmlReflow.Proofs.Marked

namespace HtmlReflow

namespace Marked

/-- Underscores stand in the placeholders alone. -/
def Unscored (m : Marked) : Prop := ∀ c, .plain c ∈ m → c ≠ '_'

variable {m : Marked} {i j : Nat} {a b u w : Text}

theorem Unscored.tail {piece : Piece Nat} (unscored : Unscored (piece :: m)) : Unscored m :=
  fun c member => unscored c (List.mem_cons_of_mem piece member)

theorem Unscored.head {c : Char} (unscored : Unscored (.plain c :: m)) : c ≠ '_' :=
  unscored c List.mem_cons_self

/-- The first underscore starts a placeholder, so it is not alone. -/
theorem Unscored.exists_second (unscored : Unscored m) (first : '_' ∉ u)
    (same : spell placeholder m = u ++ '_' :: w) : ∃ rest, w = '_' :: rest := by
  induction m generalizing u with
  | nil => simp at same
  | cons piece m ih =>
    cases piece with
    | plain c =>
      cases u with
      | nil => exact absurd (List.cons.inj same).1 unscored.head
      | cons d u =>
        exact ih unscored.tail (List.not_mem_of_not_mem_cons first) (List.cons.inj same).2
    | found k =>
      cases u with
      | nil => exact ⟨_, (List.cons.inj same).2.symm⟩
      | cons d u =>
        have score : '_' = d := (List.cons.inj same).1
        exact absurd (score ▸ List.mem_cons_self) first

/-- No placeholder starts inside of another, whatever stands behind that one. -/
theorem Unscored.eq_nil_of_found (unscored : Unscored m)
    (same : placeholder j ++ spell placeholder m = a ++ (placeholder i ++ b))
    (short : a.length < (placeholder j).length) : a = [] := by
  by_contra proper
  rcases List.append_eq_append_iff.mp same with ⟨k, before, _⟩ | ⟨v, first, after⟩
  · rw [before, List.length_append] at short
    omega
  rcases List.append_eq_append_iff.mp after with ⟨k, within, _⟩ | ⟨y, second, behind⟩
  · exact proper (eq_of_placeholder_within (within ▸ first)).1
  -- What is left of the second placeholder continues with one underscore where the text has two.
  rcases overlap_cases first second proper with rfl | rfl | rfl
  · rw [first, List.append_nil] at short
    exact absurd short (Nat.lt_irrefl _)
  · obtain ⟨tail, whole, _⟩ := exists_placeholder_eq i
    have rest : y = '_' :: 'P' :: tail := (List.cons.inj (second.symm.trans whole)).2
    rw [rest] at behind
    obtain ⟨_, alone⟩ := unscored.exists_second (u := []) (by simp) behind
    exact absurd (List.cons.inj alone).1 (by decide)
  · have rest : y = "PRESERVED".toList ++ '_' :: (Nat.toDigits 10 i ++ ['_', '_']) :=
      (List.cons.inj (List.cons.inj second).2).2.symm
    rw [rest, List.append_assoc] at behind
    obtain ⟨_, alone⟩ := unscored.exists_second (by decide) behind
    obtain ⟨digit, digits, number⟩ := List.exists_cons_of_ne_nil (Nat.toDigits_ne_nil (n := i) (b := 10))
    rw [number] at alone
    have score : digit = '_' := (List.cons.inj alone).1
    have member : digit ∈ Nat.toDigits 10 i := by
      rw [number]
      exact List.mem_cons_self
    exact Nat.underscore_not_in_toDigits (score ▸ member)

/-- A placeholder anywhere in the text is one of those that the text was made of. -/
theorem Unscored.exists_found (unscored : Unscored m)
    (same : spell placeholder m = a ++ (placeholder i ++ b)) :
    ∃ m₁ m₂, m = m₁ ++ .found i :: m₂ ∧ spell placeholder m₁ = a ∧ spell placeholder m₂ = b := by
  induction m generalizing a with
  | nil =>
    have empty := (List.append_eq_nil_iff.mp (List.append_eq_nil_iff.mp same.symm).2).1
    exact absurd empty (placeholder_ne_nil i)
  | cons piece m ih =>
    cases piece with
    | plain c =>
      cases a with
      | nil => exact absurd (List.cons.inj same).1 unscored.head
      | cons d a =>
        obtain ⟨head, tail⟩ := List.cons.inj same
        obtain ⟨m₁, m₂, rfl, rfl, rfl⟩ := ih unscored.tail tail
        exact ⟨.plain c :: m₁, m₂, rfl, congrArg (· :: _) head, rfl⟩
    | found j =>
      rw [spell_found] at same
      by_cases short : a.length < (placeholder j).length
      · obtain rfl := unscored.tail.eq_nil_of_found same short
        obtain ⟨rfl, rfl⟩ := eq_of_placeholder_append same
        exact ⟨[], m, rfl, rfl, rfl⟩
      · obtain ⟨k, rfl⟩ : placeholder j <+: a :=
          List.prefix_of_prefix_length_le ⟨_, same⟩ ⟨_, rfl⟩ (Nat.not_lt.mp short)
        rw [List.append_assoc] at same
        obtain ⟨m₁, m₂, rfl, rfl, rfl⟩ := ih unscored.tail (List.append_cancel_left same)
        exact ⟨.found j :: m₁, m₂, rfl, spell_found, rfl⟩

end Marked

open Marked (spell Unscored)

/-- Placeholders are told apart: one of them stands in another only as the whole of it, and in a text
    made of placeholders with other pieces between them each stands exactly where it was put. The pieces
    have no underscores; they may be empty, and there may be some at the ends too. -/
theorem placeholder_places :
    (∀ i j a b, placeholder j = a ++ (placeholder i ++ b) ↔ i = j ∧ a = [] ∧ b = []) ∧
      ∀ m, Unscored m → ∀ i a b, spell placeholder m = a ++ (placeholder i ++ b) ↔
        ∃ m₁ m₂, m = m₁ ++ .found i :: m₂ ∧ spell placeholder m₁ = a ∧ spell placeholder m₂ = b := by
  constructor
  · intro i j a b
    constructor
    · intro same
      obtain ⟨before, index, behind⟩ := eq_of_placeholder_within same
      exact ⟨index, before, behind⟩
    · rintro ⟨rfl, rfl, rfl⟩
      exact (List.append_nil _).symm
  · intro m unscored i a b
    constructor
    · exact unscored.exists_found
    · rintro ⟨m₁, m₂, rfl, rfl, rfl⟩
      simp

/-- Indices that begin alike, and a piece that would complete the start of a placeholder. -/
def likeIndices : Marked := .found 1 :: (Marked.ofText "PRESERVED".toList ++ [.found 11, .plain '1', .found 1])

theorem placeholder_places_likeIndices :
    Unscored likeIndices ∧
      ∀ a b, "__PRESERVED_1__PRESERVED__PRESERVED_11__1__PRESERVED_1__".toList = a ++ (placeholder 1 ++ b) ↔
        ∃ m₁ m₂, likeIndices = m₁ ++ .found 1 :: m₂ ∧ spell placeholder m₁ = a ∧ spell placeholder m₂ = b := by
  have unscored : Unscored likeIndices := by
    intro c member
    rintro rfl
    revert member
    decide
  exact ⟨unscored, placeholder_places.2 likeIndices unscored 1⟩

end HtmlReflow
