import HtmlReflow.Proofs.Placeholder
import HtmlReflow.Scan
import Mathlib.Data.List.Nodup

namespace HtmlReflow

/-- A text in which numbers mark the places of contents that are written elsewhere. -/
abbrev Marked := List (Piece Nat)

namespace Marked

/-- The text, with `f i` at mark `i`. -/
def spell (f : Nat → Text) (m : Marked) : Text := m.flatMap (Piece.render f)

def ofText (s : Text) : Marked := s.map .plain

def marks (m : Marked) : List Nat :=
  m.filterMap fun
    | .plain _ => none
    | .found i => some i

/-- Each mark has the front of a closing tag behind it. -/
def Closed : Marked → Prop
  | [] => True
  | .plain _ :: m => Closed m
  | .found _ :: m => (∃ rest, m = ofText ['<', '/'] ++ rest) ∧ Closed m

variable {f g : Nat → Text} {m m₁ m₂ : Marked} {i : Nat} {c : Char} {s a b : Text}

@[simp] theorem spell_nil : spell f [] = [] := rfl

@[simp] theorem spell_plain : spell f (.plain c :: m) = c :: spell f m := rfl

@[simp] theorem spell_found : spell f (.found i :: m) = f i ++ spell f m := rfl

@[simp] theorem spell_append : spell f (m₁ ++ m₂) = spell f m₁ ++ spell f m₂ :=
  List.flatMap_append

@[simp] theorem spell_ofText : spell f (ofText s) = s := by
  induction s with
  | nil => rfl
  | cons c s ih => exact congrArg (c :: ·) ih

@[simp] theorem ofText_nil : ofText [] = [] := rfl

@[simp] theorem ofText_cons : ofText (c :: s) = .plain c :: ofText s := rfl

@[simp] theorem ofText_append : ofText (a ++ b) = ofText a ++ ofText b := List.map_append

@[simp] theorem marks_nil : marks [] = [] := rfl

@[simp] theorem marks_plain : marks (.plain c :: m) = marks m := rfl

@[simp] theorem marks_found : marks (.found i :: m) = i :: marks m := rfl

@[simp] theorem marks_append : marks (m₁ ++ m₂) = marks m₁ ++ marks m₂ := List.filterMap_append

@[simp] theorem marks_ofText : marks (ofText s) = [] := by
  induction s with
  | nil => rfl
  | cons c s ih => exact ih

theorem mem_marks : i ∈ marks m ↔ .found i ∈ m := by
  induction m with
  | nil => simp
  | cons piece m ih =>
    cases piece with
    | plain c => simp [ih]
    | found j => simp [ih]

theorem notMem_of_nodup (nodup : (marks (m₁ ++ .found i :: m₂)).Nodup) :
    i ∉ marks m₁ ∧ i ∉ marks m₂ := by
  rw [marks_append, marks_found, List.nodup_middle, List.nodup_cons, List.mem_append, not_or] at nodup
  exact nodup.1

theorem spell_congr (same : ∀ i ∈ marks m, f i = g i) : spell f m = spell g m := by
  induction m with
  | nil => rfl
  | cons piece m ih =>
    cases piece with
    | plain c => rw [spell_plain, spell_plain, ih same]
    | found j =>
      rw [spell_found, spell_found, same j (by simp), ih (fun i h => same i (by simp [h]))]

@[simp] theorem closed_plain : Closed (.plain c :: m) ↔ Closed m := Iff.rfl

theorem Closed.tail {piece : Piece Nat} (closed : Closed (piece :: m)) : Closed m := by
  cases piece with
  | plain c => exact closed
  | found i => exact closed.2

theorem Closed.right (closed : Closed (m₁ ++ m₂)) : Closed m₂ := by
  induction m₁ with
  | nil => exact closed
  | cons piece m₁ ih => exact ih (Closed.tail closed)

/-- The front of a closing tag does not reach over the end of a text that ends in another character. -/
theorem Closed.left (closed : Closed (m₁ ++ .plain c :: m₂)) (last : c ≠ '/' ∧ c ≠ '<') :
    Closed (m₁ ++ [.plain c]) := by
  induction m₁ with
  | nil => trivial
  | cons piece m₁ ih =>
    cases piece with
    | plain d => exact ih closed
    | found i =>
      obtain ⟨⟨rest, same⟩, closed⟩ := closed
      refine ⟨?_, ih closed⟩
      match m₁, same with
      | [], same => simp at same; exact absurd same.1 last.2
      | [p], same => simp at same; exact absurd same.2.1 last.1
      | p :: q :: m₁, same =>
        simp at same
        exact ⟨m₁ ++ [.plain c], by simp [same.1, same.2.1]⟩

theorem Closed.append (first : Closed m₁) (second : Closed m₂) : Closed (m₁ ++ m₂) := by
  induction m₁ with
  | nil => exact second
  | cons piece m₁ ih =>
    cases piece with
    | plain c => exact ih first
    | found i =>
      obtain ⟨⟨rest, rfl⟩, closed⟩ := first
      exact ⟨⟨rest ++ m₂, by simp⟩, ih closed⟩

theorem closed_ofText : Closed (ofText s) := by
  induction s with
  | nil => trivial
  | cons c s ih => exact ih

theorem eq_ofText_append (foreign : ∀ c ∈ s, Foreign c) (same : spell placeholder m = s ++ b) :
    ∃ rest, m = ofText s ++ rest ∧ spell placeholder rest = b := by
  induction s generalizing m with
  | nil => exact ⟨m, rfl, same⟩
  | cons c s ih =>
    match m with
    | [] => cases same
    | .plain d :: m =>
      rw [spell_plain, List.cons_append, List.cons.injEq] at same
      obtain ⟨rfl, same⟩ := same
      obtain ⟨rest, rfl, rest_eq⟩ := ih (fun e member => foreign e (List.mem_cons_of_mem _ member)) same
      exact ⟨rest, rfl, rest_eq⟩
    | .found i :: m =>
      obtain ⟨tail, whole, _⟩ := exists_placeholder_eq i
      rw [spell_found, whole] at same
      have head : '_' = c := by simpa using congrArg List.head? same
      exact absurd (by rw [← head, whole]; simp) (foreign c List.mem_cons_self i)

/-- A cut of the written text in front of a foreign character is a cut of the marked text. -/
theorem eq_append_cons (foreign : Foreign c) (same : spell placeholder m = a ++ c :: b) :
    ∃ m₁ m₂, m = m₁ ++ .plain c :: m₂ ∧ spell placeholder m₁ = a ∧ spell placeholder m₂ = b := by
  induction m generalizing a with
  | nil => simp at same
  | cons piece m ih =>
    cases piece with
    | plain d =>
      rw [spell_plain] at same
      rcases List.cons_eq_append_iff.mp same with ⟨rfl, here⟩ | ⟨a, rfl, later⟩
      · cases here
        exact ⟨[], m, rfl, rfl, rfl⟩
      · obtain ⟨m₁, m₂, rfl, rfl, rfl⟩ := ih later
        exact ⟨.plain d :: m₁, m₂, rfl, rfl, rfl⟩
    | found i =>
      rw [spell_found] at same
      rcases List.append_eq_append_iff.mp same with ⟨k, rfl, later⟩ | ⟨k, inside, cut⟩
      · obtain ⟨m₁, m₂, rfl, rfl, rfl⟩ := ih later
        exact ⟨.found i :: m₁, m₂, rfl, rfl, rfl⟩
      · rcases List.cons_eq_append_iff.mp cut with ⟨rfl, next⟩ | ⟨k, rfl, _⟩
        · obtain ⟨m₁, m₂, rfl, empty, rfl⟩ := ih (a := []) next
          rw [List.append_nil] at inside
          exact ⟨.found i :: m₁, m₂, rfl, by rw [spell_found, empty, inside, List.append_nil], rfl⟩
        · exact absurd (by rw [inside]; simp) (foreign i)

/-- A word without `<` at the front of a text: it is plain, or it ends inside of what the first mark
    stands for. -/
theorem split_of_closed (closed : Closed m) (free : '<' ∉ s) (same : spell f m = s ++ b) :
    (∃ rest, m = ofText s ++ rest) ∨
      ∃ u i v rest y, s = u ++ v ∧ m = ofText u ++ .found i :: rest ∧ f i = v ++ y := by
  induction s generalizing m with
  | nil => exact .inl ⟨m, rfl⟩
  | cons c s ih =>
    match m with
    | [] => cases same
    | .plain d :: m =>
      rw [spell_plain, List.cons_append, List.cons.injEq] at same
      obtain ⟨rfl, same⟩ := same
      rcases ih (closed_plain.mp closed) (fun member => free (List.mem_cons_of_mem _ member)) same with
        ⟨rest, rfl⟩ | ⟨u, i, v, rest, y, rfl, rfl, inside⟩
      · exact .inl ⟨rest, rfl⟩
      · exact .inr ⟨d :: u, i, v, rest, y, rfl, rfl, inside⟩
    | .found i :: m =>
      obtain ⟨⟨rest, rfl⟩, _⟩ := closed
      rw [spell_found] at same
      rcases List.append_eq_append_iff.mp same with ⟨k, word, next⟩ | ⟨k, inside, _⟩
      · rcases List.append_eq_cons_iff.mp next.symm with ⟨rfl, _⟩ | ⟨k, rfl, _⟩
        · exact .inr ⟨[], i, c :: s, _, [], rfl, rfl, by rw [word]; simp⟩
        · simp [word] at free
      · exact .inr ⟨[], i, c :: s, _, k, rfl, rfl, inside⟩

end Marked
end HtmlReflow
