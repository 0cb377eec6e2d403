import HtmlReflow.Proofs.CommentGrammar
import HtmlReflow.Proofs.Steady

namespace HtmlReflow

namespace Marked

/-- What a marked text is but for the numbers of its marks. -/
def outline (m : Marked) : List (Piece Unit) :=
  m.map fun
    | .plain c => .plain c
    | .found _ => .found ()

variable {m n m₁ m₂ : Marked} {c : Char} {i : Nat} {u : Text}

@[simp] theorem outline_plain : outline (.plain c :: m) = .plain c :: outline m := rfl

@[simp] theorem outline_found : outline (.found i :: m) = .found () :: outline m := rfl

@[simp] theorem outline_append : outline (m₁ ++ m₂) = outline m₁ ++ outline m₂ := List.map_append

theorem eq_plain_of_outline (same : outline (.plain c :: m) = outline n) :
    ∃ n', n = .plain c :: n' ∧ outline m = outline n' := by
  match n with
  | [] => cases same
  | .plain d :: n =>
    obtain ⟨head, tail⟩ := List.cons.inj same
    cases head
    exact ⟨n, rfl, tail⟩
  | .found j :: n => cases (List.cons.inj same).1

theorem eq_found_of_outline (same : outline (.found i :: m) = outline n) :
    ∃ j n', n = .found j :: n' ∧ outline m = outline n' := by
  match n with
  | [] => cases same
  | .plain d :: n => cases (List.cons.inj same).1
  | .found j :: n => exact ⟨j, n, rfl, (List.cons.inj same).2⟩

theorem eq_append_of_outline (same : outline (m₁ ++ m₂) = outline n) :
    ∃ n₁ n₂, n = n₁ ++ n₂ ∧ outline m₁ = outline n₁ ∧ outline m₂ = outline n₂ := by
  rw [outline_append] at same
  obtain ⟨n₁, n₂, rfl, left, right⟩ := List.map_eq_append_iff.mp same.symm
  exact ⟨n₁, n₂, rfl, left.symm, right.symm⟩

theorem eq_ofText_of_outline (same : outline (ofText u) = outline n) : n = ofText u := by
  induction u generalizing n with
  | nil => exact List.map_eq_nil_iff.mp same.symm
  | cons c u ih =>
    obtain ⟨n, rfl, later⟩ := eq_plain_of_outline same
    rw [ih later, ofText_cons]

/-- A cut of a text around a word that is in no placeholder is a cut of every text with the same outline. -/
theorem exists_renumbered (same : outline m = outline n) (foreign : ∀ d ∈ c :: u, Foreign d) {a b : Text}
    (cut : spell placeholder m = a ++ c :: (u ++ b)) :
    ∃ m₁ m₂ n₁ n₂, m = m₁ ++ (ofText (c :: u) ++ m₂) ∧ n = n₁ ++ (ofText (c :: u) ++ n₂) ∧
      a = spell placeholder m₁ ∧ b = spell placeholder m₂ ∧ outline m₁ = outline n₁ ∧
      outline m₂ = outline n₂ := by
  obtain ⟨m₁, m₂, rfl, left, right⟩ := eq_append_cons (foreign c List.mem_cons_self) cut
  obtain ⟨m₂, rfl, rest⟩ := eq_ofText_append (fun d member => foreign d (List.mem_cons_of_mem c member)) right
  obtain ⟨n₁, n', rfl, first, second⟩ := eq_append_of_outline same
  rw [← List.cons_append, ← ofText_cons] at second
  obtain ⟨n₂, n₃, rfl, word, last⟩ := eq_append_of_outline second
  obtain rfl := eq_ofText_of_outline word
  exact ⟨m₁, m₂, n₁, n₃, rfl, rfl, left.symm, rest.symm, first, last⟩

theorem infix_of_outline (same : outline m = outline n) (foreign : ∀ c ∈ u, Foreign c)
    (inside : u <:+: spell placeholder m) : u <:+: spell placeholder n := by
  cases u with
  | nil => exact List.nil_infix
  | cons c u =>
    obtain ⟨a, b, cut⟩ := inside
    have cut : spell placeholder m = a ++ c :: (u ++ b) := by rw [← cut, List.append_assoc, List.cons_append]
    obtain ⟨m₁, m₂, n₁, n₂, _, rfl, _⟩ := exists_renumbered same foreign cut
    rw [spell_append, spell_append, spell_ofText]
    exact List.infix_append' _ _ _

theorem prefix_of_outline (same : outline m = outline n) (foreign : ∀ c ∈ u, Foreign c)
    (front : u <+: spell placeholder m) : u <+: spell placeholder n := by
  obtain ⟨b, cut⟩ := front
  obtain ⟨m, rfl, _⟩ := eq_ofText_append foreign cut.symm
  obtain ⟨n₁, n₂, rfl, word, _⟩ := eq_append_of_outline same
  obtain rfl := eq_ofText_of_outline word
  rw [spell_append, spell_ofText]
  exact List.prefix_append _ _

theorem eq_nil_of_outline (same : outline m = outline n) (empty : spell placeholder m = []) :
    spell placeholder n = [] := by
  match m with
  | [] => rw [List.map_eq_nil_iff.mp same.symm, spell_nil]
  | .plain c :: m => cases empty
  | .found i :: m => exact absurd (List.append_eq_nil_iff.mp empty).1 (placeholder_ne_nil i)

end Marked

open Marked

theorem Marking.outline_eq {f g : Nat → Text} {m n : Marked} {ps : List (Piece Block)}
    (marking : Marking f m ps) (other : Marking g n ps) : outline m = outline n := by
  induction marking generalizing n with
  | nil =>
    cases other
    rfl
  | plain c _ ih =>
    cases other with
    | plain _ other => rw [outline_plain, outline_plain, ih other]
  | found _ _ ih =>
    cases other with
    | found _ other => simp [ih other]

/-- Reading the pattern does not depend on the numbers that the marks of a text have, and neither does
    what `q` says of an occurrence. -/
structure Numberless {α : Type} (p : Pattern α) (q : α → Prop) : Prop where
  word : ∀ c s, isBlank c = false → c ≠ '<' → p.front? (c :: s) = none
  read : ∀ m n a rest, outline m = outline n → p.front? (spell placeholder m) = some (a, rest) →
    ∃ m' b n', rest = spell placeholder m' ∧ p.front? (spell placeholder n) = some (b, spell placeholder n') ∧
      outline m' = outline n' ∧ (q a → q b)

namespace Numberless

variable {α : Type} {p : Pattern α} {q : α → Prop} {m n : Marked} {u : Text}

theorem pieces_append (numberless : Numberless p q) (solid : Solid u) (s : Text) :
    p.pieces (u ++ s) = u.map .plain ++ p.pieces s := by
  induction u with
  | nil => rfl
  | cons c u ih =>
    have none := numberless.word c (u ++ s) solid.head.1 solid.head.2.1
    rw [List.cons_append, p.pieces_cons_of_none none, ih solid.tail, List.map_cons, List.cons_append]

theorem front?_eq_none (numberless : Numberless p q) (same : outline m = outline n)
    (none : p.front? (spell placeholder m) = none) : p.front? (spell placeholder n) = Option.none := by
  cases front : p.front? (spell placeholder n) with
  | none => rfl
  | some x =>
    obtain ⟨_, _, _, _, found, _⟩ := numberless.read n m x.1 x.2 same.symm front
    rw [none] at found
    cases found

/-- What holds of all that a scan finds holds of it in any numbering. -/
theorem renumbered (numberless : Numberless p q) (same : outline m = outline n)
    (all : ∀ a, .found a ∈ p.pieces (spell placeholder m) → q a) :
    ∀ a, .found a ∈ p.pieces (spell placeholder n) → q a := by
  generalize size : (spell placeholder m).length = k
  induction k using Nat.strongRecOn generalizing m n with
  | ind k ih =>
    cases front : p.front? (spell placeholder m) with
    | some x =>
      obtain ⟨a, rest⟩ := x
      have shorter := p.length_lt front
      obtain ⟨m', b, n', rfl, found, same', moved⟩ := numberless.read m n a rest same front
      rw [p.pieces_of_some front] at all
      rw [p.pieces_of_some found]
      intro d member
      rcases List.mem_cons.mp member with here | member
      · cases here
        exact moved (all a List.mem_cons_self)
      · exact ih _ (size ▸ shorter) same' (fun a member => all a (List.mem_cons_of_mem _ member)) rfl d member
    | none =>
      have none := numberless.front?_eq_none same front
      match m with
      | [] =>
        rw [List.map_eq_nil_iff.mp same.symm]
        simp
      | .plain c :: m =>
        obtain ⟨n, rfl, same'⟩ := eq_plain_of_outline same
        rw [spell_plain] at front none all
        rw [p.pieces_cons_of_none front] at all
        rw [spell_plain, p.pieces_cons_of_none none]
        have later := ih _ (by rw [← size, spell_plain]; exact Nat.lt_succ_self _) same'
          (fun a member => all a (List.mem_cons_of_mem _ member)) rfl
        simpa using later
      | .found i :: m =>
        obtain ⟨j, n, rfl, same'⟩ := eq_found_of_outline same
        rw [spell_found, numberless.pieces_append (solid_placeholder i)] at all
        rw [spell_found, numberless.pieces_append (solid_placeholder j)]
        have long := List.length_pos_iff.mpr (placeholder_ne_nil i)
        have later := ih _ (by rw [← size, spell_found, List.length_append]; omega) same'
          (fun a member => all a (List.mem_append_right _ member)) rfl
        simpa using later

end Numberless

theorem foreign_word {u : Text} (other : u.all fun c => c ∉ placeholderStart ∧ c.isDigit = false) :
    ∀ c ∈ u, Foreign c := by
  intro c member
  obtain ⟨start, digit⟩ := of_decide_eq_true (List.all_eq_true.mp other c member)
  exact foreign_of start digit

theorem numberless_comments : Numberless Comment.pattern fun c => c.isConditional = true where
  word := fun c s _ other => Comment.startsWith c s other
  read := by
    intro m n c rest same front
    obtain ⟨written, proper⟩ := Comment.front?_eq_some.mp front
    have opened : spell placeholder m = [] ++ '<' :: (['!', '-', '-'] ++
        (c.body ++ '-' :: (['-', '>'] ++ rest))) := by
      rw [written]
      simp [Comment.text, Comment.opening, Comment.closing]
    obtain ⟨m₀, m₁, n₀, n₁, rfl, rfl, front₀, inside, same₀, same₁⟩ :=
      exists_renumbered same (foreign_word (by decide)) opened
    obtain ⟨k, m₂, l, n₂, rfl, rfl, body, behind, same₂, same₃⟩ :=
      exists_renumbered same₁ (foreign_word (by decide)) inside.symm
    have closing : ∀ (x y : Marked), outline x = outline y →
        Comment.closing <:+: spell placeholder x ++ ['-', '-'] →
        Comment.closing <:+: spell placeholder y ++ ['-', '-'] := by
      intro x y alike inside
      have longer : outline (x ++ ofText ['-', '-']) = outline (y ++ ofText ['-', '-']) := by
        rw [outline_append, outline_append, alike]
      have foreign : ∀ c ∈ Comment.closing, Foreign c := foreign_word (by decide)
      have moved := infix_of_outline longer foreign
      rw [spell_append, spell_append, spell_ofText] at moved
      exact moved inside
    refine ⟨m₂, ⟨spell placeholder l⟩, n₂, behind, Comment.front?_eq_some.mpr ⟨?_, ?_⟩, same₃, ?_⟩
    · have empty := eq_nil_of_outline same₀ front₀.symm
      simp [empty, Comment.text, Comment.opening, Comment.closing]
    · intro early
      apply proper
      rw [body]
      exact closing l k same₂.symm early
    · intro conditional
      rw [Comment.isConditional, List.isPrefixOf_iff_prefix] at conditional ⊢
      rw [body] at conditional
      exact prefix_of_outline same₂ (foreign_word (by decide)) conditional

/-- The blanks in front of a text are the same in any numbering of the marks behind them. -/
theorem spanBlanks_of_outline {m n : Marked} (same : outline m = outline n) {u s : Text}
    (spanned : spanBlanks (spell placeholder m) = (u, s)) :
    ∃ m' n', s = spell placeholder m' ∧ outline m' = outline n' ∧
      spanBlanks (spell placeholder n) = (u, spell placeholder n') := by
  have blank := blank_of_spanBlanks spanned
  have written : spell placeholder m = u ++ s := by
    rw [← spanBlanks_append (spell placeholder m), spanned]
  obtain ⟨m', rfl, rest⟩ := eq_ofText_append (fun c member => foreign_of_blank (blank c member)) written
  obtain ⟨n₀, n', rfl, word, same'⟩ := eq_append_of_outline same
  obtain rfl := eq_ofText_of_outline word
  refine ⟨m', n', rest.symm, same', ?_⟩
  rw [spell_append, spell_ofText]
  cases behind : spell placeholder n' with
  | nil => simp [spanBlanks, List.takeWhile_eq_self_iff.mpr blank, List.dropWhile_eq_nil_iff.mpr blank]
  | cons d t =>
    refine spanBlanks_append_cons blank (Bool.eq_false_iff.mpr fun more => ?_)
    have foreign : ∀ c ∈ [d], Foreign c := fun c member =>
      List.mem_singleton.mp member ▸ foreign_of_blank more
    obtain ⟨w, cut⟩ := prefix_of_outline same'.symm foreign ⟨t, behind.symm⟩
    have first := List.head?_dropWhile_not isBlank (spell placeholder (ofText u ++ m'))
    rw [show (spell placeholder (ofText u ++ m')).dropWhile isBlank = s from congrArg Prod.snd spanned,
      ← rest, ← cut, List.singleton_append, List.head?_cons] at first
    simp [more] at first

theorem Tag.front?_of_outline {m n : Marked} (same : outline m = outline n) {tag : Tag} {rest : Text}
    (found : Tag.front? (spell placeholder m) = some (tag, rest)) :
    ∃ m' tag' n', rest = spell placeholder m' ∧ outline m' = outline n' ∧
      Tag.front? (spell placeholder n) = some (tag', spell placeholder n') := by
  obtain ⟨written, nonempty, free⟩ := Tag.front?_eq_some.mp found
  have opened : spell placeholder m = [] ++ '<' :: ([] ++ (tag.body ++ '>' :: ([] ++ rest))) := written
  obtain ⟨m₀, m₁, n₀, n₁, rfl, rfl, front₀, inside, same₀, same₁⟩ :=
    exists_renumbered same (foreign_word (by decide)) opened
  obtain ⟨k, m', l, n', rfl, rfl, body, behind, same₂, same'⟩ :=
    exists_renumbered same₁ (foreign_word (by decide)) inside.symm
  have empty := eq_nil_of_outline same₀ front₀.symm
  refine ⟨m', ⟨spell placeholder l⟩, n', behind, same',
    Tag.front?_eq_some.mpr ⟨by simp [empty], fun none => ?_, fun member => ?_⟩⟩
  · exact nonempty (body.trans (eq_nil_of_outline same₂.symm none))
  · obtain ⟨a, b, cut⟩ := List.append_of_mem member
    have foreign : ∀ c ∈ ['>'], Foreign c := foreign_word (by decide)
    have moved := infix_of_outline same₂.symm foreign
      ⟨a, b, (List.append_assoc a ['>'] b).trans cut.symm⟩
    exact free (body ▸ moved.subset List.mem_cons_self)

theorem numberless_tags : Numberless SpacedTag.pattern fun t => t.before = [] ∧ t.after = [] where
  word := by
    intro c s solid other
    apply SpacedTag.front?_eq_none.mpr
    rw [trimStart_cons_of_not_blank solid]
    cases found : Tag.front? (c :: s) with
    | none => rfl
    | some x => exact absurd (List.cons.inj (Tag.front?_eq_some.mp found).1).1 other
  read := by
    intro m n t rest same front
    obtain ⟨m₁, n₁, inside, same₁, before⟩ := spanBlanks_of_outline same rfl
    obtain ⟨tag, behind, found, rfl⟩ := SpacedTag.exists_tag front
    have spaced := (SpacedTag.front?_of_tag found).symm.trans front
    rw [show trimStart (spell placeholder m) = spell placeholder m₁ from inside] at found
    obtain ⟨m₂, tag', n₂, rfl, same₂, found'⟩ := Tag.front?_of_outline same₁ found
    obtain ⟨m₃, n₃, rest, same₃, after⟩ := spanBlanks_of_outline same₂ rfl
    have front' : SpacedTag.pattern.front? (spell placeholder n) =
        some (⟨(spell placeholder m).takeWhile isBlank, tag', (spell placeholder m₂).takeWhile isBlank⟩,
          spell placeholder n₃) := by
      show SpacedTag.front? _ = _
      rw [SpacedTag.front?, before]
      simp only [found', after]
    cases spaced
    exact ⟨m₃, _, n₃, rest, front', same₃, id⟩

/-- No pass over blanks finds more to do in a text when its marks are numbered in another way. -/
theorem Collapsed.renumbered {m n : Marked} (same : outline m = outline n)
    (collapsed : Collapsed (spell placeholder m)) : Collapsed (spell placeholder n) where
  single := by
    intro c d first second inside
    have foreign : ∀ e ∈ [c, d], Foreign e := by
      simp [foreign_of_blank first, foreign_of_blank second]
    exact collapsed.single c d first second (infix_of_outline same.symm foreign inside)
  ungapped := by
    intro u nonempty blank inside
    have foreign : ∀ e ∈ '>' :: (u ++ ['<']), Foreign e := by
      intro e member
      simp only [List.mem_cons, List.mem_append, List.not_mem_nil, or_false] at member
      rcases member with rfl | there | rfl
      · exact foreign_right
      · exact foreign_of_blank (blank e there)
      · exact foreign_left
    exact collapsed.ungapped u nonempty blank (infix_of_outline same.symm foreign inside)
  bare := numberless_tags.renumbered same collapsed.bare

end HtmlReflow
