import HtmlReflow.Minify.Placeholder
import HtmlReflow.Proofs.Search

namespace HtmlReflow

/-- A character that is in no placeholder. -/
def Foreign (c : Char) : Prop := ∀ i, c ∉ placeholder i

theorem mem_placeholder {c : Char} {i : Nat} (member : c ∈ placeholder i) :
    c ∈ placeholderStart ∨ c.isDigit = true := by
  simp only [placeholder, List.mem_append, List.mem_cons, List.not_mem_nil, or_false] at member
  rcases member with start | digit | rfl | rfl
  · exact .inl start
  · exact .inr (Nat.isDigit_of_mem_toDigits (by decide) (by decide) digit)
  · exact .inl (by decide)
  · exact .inl (by decide)

theorem foreign_of {c : Char} (start : c ∉ placeholderStart) (digit : c.isDigit = false) :
    Foreign c := by
  intro i member
  rcases mem_placeholder member with h | h
  · exact start h
  · rw [digit] at h; cases h

theorem foreign_left : Foreign '<' := foreign_of (by decide) (by decide)

theorem foreign_right : Foreign '>' := foreign_of (by decide) (by decide)

theorem foreign_closing : ∀ c ∈ ['<', '/'], Foreign c := by
  intro c member
  rcases List.mem_cons.mp member with rfl | member
  · exact foreign_left
  · rw [List.mem_singleton.mp member]
    exact foreign_of (by decide) (by decide)

theorem isBlank_of_isDigit {c : Char} (digit : c.isDigit = true) : isBlank c = false := by
  simp only [Char.isDigit, Bool.and_eq_true, decide_eq_true_eq, UInt32.le_iff_toNat_le] at digit
  have low : 48 ≤ c.toNat := digit.1
  have high : c.toNat ≤ 57 := digit.2
  simp only [isBlank, Bool.or_eq_false_iff, Bool.and_eq_false_iff, decide_eq_false_iff_not,
    beq_eq_false_iff_ne]
  omega

theorem solid_placeholder (i : Nat) : Solid (placeholder i) := by
  intro c member
  refine ⟨?_, fun same => foreign_left i (same ▸ member), fun same => foreign_right i (same ▸ member)⟩
  rcases mem_placeholder member with start | digit
  · have none : placeholderStart.any isBlank = false := by decide
    exact Bool.eq_false_iff.mpr (List.any_eq_false.mp none c start)
  · exact isBlank_of_isDigit digit

theorem foreign_of_blank {c : Char} (blank : isBlank c = true) : Foreign c := by
  intro i member
  have solid := (solid_placeholder i c member).1
  rw [blank] at solid
  cases solid

theorem solid_placeholderStart : Solid placeholderStart :=
  fun c member => solid_placeholder 0 c (List.mem_append_left _ member)

theorem placeholderStart_front (i : Nat) : placeholderStart <+: placeholder i :=
  List.prefix_append _ _

theorem no_placeholder {s : Text} (clean : ¬ placeholderStart <:+: s) (i : Nat) : ¬ placeholder i <:+: s :=
  fun inside => clean ((placeholderStart_front i).isInfix.trans inside)

/-- Placeholders are a code without prefixes: one of them is not the front of another. -/
theorem eq_of_placeholder_append {i j : Nat} {a b : Text}
    (same : placeholder i ++ a = placeholder j ++ b) : i = j ∧ a = b := by
  simp only [placeholder, List.append_assoc, List.cons_append, List.nil_append] at same
  obtain ⟨digits, rest⟩ := append_cons_inj_of_notMem_left Nat.underscore_not_in_toDigits
    Nat.underscore_not_in_toDigits (List.append_cancel_left same)
  have numbers := congrArg (fun d => Nat.ofDigitChars 10 d 0) digits
  simp only [Nat.ofDigitChars_ten_toDigits] at numbers
  exact ⟨numbers, (List.cons.inj rest).2⟩

theorem exists_placeholder_eq (i : Nat) :
    ∃ tail, placeholder i = ['_', '_'] ++ 'P' :: tail ∧ 'P' ∉ tail := by
  refine ⟨['R', 'E', 'S', 'E', 'R', 'V', 'E', 'D', '_'] ++ (Nat.toDigits 10 i ++ ['_', '_']), rfl, ?_⟩
  have digits : 'P' ∉ Nat.toDigits 10 i := by
    intro member
    have digit := Nat.isDigit_of_mem_toDigits (by decide) (by decide) member
    revert digit
    decide
  simp [digits]

/-- A placeholder holds no other placeholder, and itself only as a whole. -/
theorem eq_of_placeholder_within {i j : Nat} {a b : Text}
    (same : placeholder j = a ++ (placeholder i ++ b)) : a = [] ∧ i = j ∧ b = [] := by
  obtain ⟨tail, whole, once⟩ := exists_placeholder_eq j
  obtain ⟨inner, part, _⟩ := exists_placeholder_eq i
  have marks : ['_', '_'] ++ 'P' :: tail = (a ++ ['_', '_']) ++ 'P' :: (inner ++ b) := by
    rw [← whole, same, part]; simp
  have front := ((List.append_cons_inj_of_notMem (by decide) once).mp marks).1
  have empty : a = [] := List.append_left_eq_self.mp front.symm
  rw [empty, List.nil_append, ← List.append_nil (placeholder j)] at same
  obtain ⟨rfl, rfl⟩ := eq_of_placeholder_append same
  exact ⟨empty, rfl, rfl⟩

/-- One placeholder reaches into the next by no more than two underscores. -/
theorem overlap_length_le {i j : Nat} {u v y : Text} (first : placeholder i = u ++ v)
    (second : placeholder j = v ++ y) (proper : u ≠ []) : v.length ≤ 2 := by
  by_contra long
  obtain ⟨tail, whole, once⟩ := exists_placeholder_eq i
  obtain ⟨inner, part, _⟩ := exists_placeholder_eq j
  have front : ['_', '_', 'P'] <+: v := by
    have left : ['_', '_', 'P'] <+: placeholder j := ⟨inner, part.symm⟩
    have right : v <+: placeholder j := ⟨y, second.symm⟩
    exact List.prefix_of_prefix_length_le left right (by simp; omega)
  obtain ⟨v, rfl⟩ := front
  have marks : ['_', '_'] ++ 'P' :: tail = (u ++ ['_', '_']) ++ 'P' :: v := by
    rw [← whole, first]; simp
  have front := ((List.append_cons_inj_of_notMem (by decide) once).mp marks).1
  exact proper (List.append_left_eq_self.mp front.symm)

theorem placeholderStart_front_of_overlap {i j : Nat} {u v y : Text} (first : placeholder i = u ++ v)
    (second : placeholder j = v ++ y) (proper : u ≠ []) : placeholderStart <+: u := by
  have short := overlap_length_le first second proper
  refine List.prefix_of_prefix_length_le (placeholderStart_front i) ⟨v, first.symm⟩ ?_
  have lengths := congrArg List.length first
  simp only [placeholder, List.length_append, List.length_cons, List.length_nil] at lengths
  omega

/-- What reaches from one placeholder into the next is one underscore or two. -/
theorem overlap_cases {i j : Nat} {u v y : Text} (first : placeholder i = u ++ v)
    (second : placeholder j = v ++ y) (proper : u ≠ []) : v = [] ∨ v = ['_'] ∨ v = ['_', '_'] := by
  have short := overlap_length_le first second proper
  have back : v <+: ['_', '_'] :=
    List.prefix_of_prefix_length_le ⟨y, second.symm⟩ ⟨_, rfl⟩ short
  obtain ⟨rest, whole⟩ := back
  match v, whole with
  | [], _ => exact .inl rfl
  | [c], whole => exact .inr (.inl (by simp at whole; simp [whole.1]))
  | [c, d], whole => exact .inr (.inr (by simp at whole; simp [whole.1, whole.2]))

end HtmlReflow
