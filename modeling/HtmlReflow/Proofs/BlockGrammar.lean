import HtmlReflow.Minify.Shield
import HtmlReflow.Proofs.LocalScan
import HtmlReflow.Proofs.Respaced

namespace HtmlReflow

theorem foldCase_cases (c : Char) :
    foldCase c = c ∨ isBlank c = false ∧ 97 ≤ (foldCase c).toNat ∧ (foldCase c).toNat ≤ 122 := by
  unfold foldCase
  split
  · rename_i same; subst same; exact .inr (by decide)
  · split
    · rename_i same; subst same; exact .inr (by decide)
    · unfold Char.toLower
      split
      · rename_i capital
        have low : 65 ≤ c.toNat := UInt32.le_iff_toNat_le.mp capital.1
        have high : c.toNat ≤ 90 := UInt32.le_iff_toNat_le.mp capital.2
        refine .inr ⟨?_, ?_⟩
        · simp only [isBlank, Bool.or_eq_false_iff, Bool.and_eq_false_iff, decide_eq_false_iff_not,
            beq_eq_false_iff_ne]
          omega
        · have value : (c.val + 32).toNat = c.toNat + 32 := by
            rw [UInt32.toNat_add, show (32 : UInt32).toNat = 32 from rfl]
            exact Nat.mod_eq_of_lt (show c.toNat + 32 < 2 ^ 32 by omega)
          show 97 ≤ (c.val + 32).toNat ∧ (c.val + 32).toNat ≤ 122
          omega
      · exact .inl rfl

theorem eq_of_foldCase {c d : Char} (same : foldCase c = d) (other : ¬ (97 ≤ d.toNat ∧ d.toNat ≤ 122)) :
    c = d := by
  rcases foldCase_cases c with fixed | ⟨_, small⟩
  · rw [← same, fixed]
  · rw [same] at small; exact absurd small other

theorem foldCase_of_blank {c : Char} (blank : isBlank c = true) : foldCase c = c := by
  rcases foldCase_cases c with fixed | ⟨solid, _⟩
  · exact fixed
  · rw [blank] at solid; cases solid

theorem notMem_of_folded {e : Verbatim} {name : Text} {c : Char} (folded : name.map foldCase = e.name)
    (other : foldCase c ∉ e.name) : c ∉ name := by
  intro member
  rw [← folded] at other
  exact other (List.mem_map_of_mem member)

theorem solid_of_folded {e : Verbatim} {name : Text} (folded : name.map foldCase = e.name) :
    Solid name := by
  have none : e.name.any isBlank = false := by cases e <;> decide
  intro c member
  refine ⟨?_, fun same => ?_, fun same => ?_⟩
  · cases blank : isBlank c with
    | false => rfl
    | true =>
      have inName : foldCase c ∈ e.name := folded ▸ List.mem_map_of_mem member
      rw [foldCase_of_blank blank] at inName
      exact absurd blank (List.any_eq_false.mp none c inName)
  · subst same; exact notMem_of_folded folded (by cases e <;> decide) member
  · subst same; exact notMem_of_folded folded (by cases e <;> decide) member

theorem underscore_notMem_of_folded {e : Verbatim} {name : Text}
    (folded : name.map foldCase = e.name) : '_' ∉ name :=
  notMem_of_folded folded (by cases e <;> decide)

namespace Block

/-- A block as a scan finds it: its names fit, its opening tag ends with the first `>`, and its content
    ends with the first closing tag. -/
structure Proper (b : Block) : Prop where
  named : b.name.map foldCase = b.element.name
  closed : b.closingName.map foldCase = b.element.name
  angle : '>' ∉ b.attributes
  first : ∀ name, name.map foldCase = b.element.name → ¬ closingTagOf name <:+: b.content

variable {e : Verbatim} {s t rest : Text} {b : Block}

theorem text_append_eq (b : Block) (rest : Text) : b.text ++ rest =
    '<' :: (b.name ++ (b.attributes ++ '>' :: (b.content ++ (closingTagOf b.closingName ++ rest)))) := by
  simp [text, openingTag, closingTag]

theorem proper_of_frontOf? (h : frontOf? e s = some (b, rest)) : b.Proper ∧ b.element = e := by
  unfold frontOf? at h
  split at h
  · split at h
    · cases h
    · rename_i named
      split at h
      · cases h
      · rename_i opened
        split at h
        · cases h
        · rename_i closing
          cases h
          obtain ⟨tail, rfl, ended⟩ := exists_rest_of_first? closing
          refine ⟨⟨(word?_eq_some.mp named).2, (closing?_eq_some.mp ended).2,
            (upToAngle?_eq_some.mp opened).2, ?_⟩, rfl⟩
          rintro name folded ⟨x, y, split⟩
          have fails := fails_of_first? closing x (closingTagOf name ++ y)
            (split.symm.trans (List.append_assoc ..)) (by simp [closingTagOf])
          rw [List.append_assoc, closing?_eq_some.mpr ⟨rfl, folded⟩] at fails
          cases fails
  · cases h

/-- Nothing inside of a content, nor across its end, reads as the closing tag. -/
theorem Proper.closing?_eq_none (proper : b.Proper) {x y : Text} (cut : b.content = x ++ y)
    (nonempty : y ≠ []) :
    closing? b.element (y ++ (closingTagOf b.closingName ++ rest)) = none := by
  cases read : closing? b.element (y ++ (closingTagOf b.closingName ++ rest)) with
  | none => rfl
  | some found =>
    obtain ⟨name, after⟩ := found
    obtain ⟨same, folded⟩ := closing?_eq_some.mp read
    exfalso
    obtain ⟨c, y, rfl⟩ := List.exists_cons_of_ne_nil nonempty
    -- Behind its first character a closing tag has no `<`, so it ends where the content does.
    have free : '<' ∉ '/' :: (name ++ ['>']) := by
      simp [(solid_of_folded folded).left_free]
    rw [closingTagOf, closingTagOf, List.cons_append, List.cons_append, List.cons_append] at same
    obtain ⟨rfl, inner⟩ := List.cons.inj same
    obtain ⟨z, rfl⟩ := prefix_of_append_eq_append_cons free inner.symm
    exact proper.first name folded ⟨x, z, by rw [cut, closingTagOf]; simp⟩

theorem Proper.frontOf? (proper : b.Proper) :
    frontOf? b.element (b.text ++ rest) = some (b, rest) := by
  have named : word? b.element.name (b.name ++ (b.attributes ++ '>' ::
      (b.content ++ (closingTagOf b.closingName ++ rest)))) = some (b.name, _) :=
    word?_eq_some.mpr ⟨rfl, proper.named⟩
  have opened := upToAngle?_append proper.angle (b.content ++ (closingTagOf b.closingName ++ rest))
  have ended : closing? b.element (closingTagOf b.closingName ++ rest) = some (b.closingName, rest) :=
    closing?_eq_some.mpr ⟨rfl, proper.closed⟩
  have closing := first?_append (fun _ _ => proper.closing?_eq_none) ended
  rw [text_append_eq, HtmlReflow.Block.frontOf?]
  simp only [named, opened, closing]

theorem element_unique {e e' : Verbatim} {name rest : Text} (named : name.map foldCase = e.name)
    {x : Text × Text} (read : word? e'.name (name ++ rest) = some x) : e' = e := by
  obtain ⟨name', rest'⟩ := x
  obtain ⟨same, folded⟩ := word?_eq_some.mp read
  -- The first two letters tell the names of the elements apart.
  have two : ∀ e : Verbatim, 2 ≤ e.name.length := fun e => by cases e <;> decide
  have long : 2 ≤ name.length := by
    rw [← List.length_map foldCase, named]
    exact two e
  have long' : 2 ≤ name'.length := by
    rw [← List.length_map foldCase, folded]
    exact two e'
  have fronts := congrArg (List.take 2) same
  rw [List.take_append_of_le_length long, List.take_append_of_le_length long'] at fronts
  have letters : e.name.take 2 = e'.name.take 2 := by
    rw [← named, ← folded, ← List.map_take, ← List.map_take, fronts]
  revert letters
  cases e <;> cases e' <;> decide

theorem Proper.front? (proper : b.Proper) {elements : List Verbatim} (wanted : b.element ∈ elements) :
    front? elements (b.text ++ rest) = some (b, rest) := by
  induction elements with
  | nil => cases wanted
  | cons e elements ih =>
    unfold HtmlReflow.Block.front? at ih ⊢
    rw [List.findSome?_cons]
    by_cases same : b.element = e
    · subst same
      rw [proper.frontOf?]
    · have other : HtmlReflow.Block.frontOf? e (b.text ++ rest) = none := by
        rw [text_append_eq, HtmlReflow.Block.frontOf?]
        cases read : word? e.name (b.name ++ (b.attributes ++ '>' ::
            (b.content ++ (closingTagOf b.closingName ++ rest)))) with
        | none => rfl
        | some x => exact absurd (element_unique proper.named read).symm same
      rw [other]
      exact ih ((List.mem_cons.mp wanted).resolve_left same)

theorem proper_of_front? {elements : List Verbatim} (h : front? elements s = some (b, rest)) :
    b.Proper ∧ b.element ∈ elements := by
  obtain ⟨e, member, found⟩ := List.exists_of_findSome?_eq_some h
  obtain ⟨proper, rfl⟩ := proper_of_frontOf? found
  exact ⟨proper, member⟩

/-- Behind a `<`, `s` goes on with the name of `e`, and later with a `>` and a closing tag of `e`. -/
def Opens (e : Verbatim) (s : Text) : Prop :=
  ∃ name attributes content closing rest,
    s = name ++ (attributes ++ '>' :: (content ++ (closingTagOf closing ++ rest))) ∧
      name.map foldCase = e.name ∧ closing.map foldCase = e.name ∧ '>' ∉ attributes

theorem frontOf?_eq_none_iff : frontOf? e ('<' :: s) = none ↔ ¬ Opens e s := by
  constructor
  · rintro none ⟨name, attributes, content, closing, rest, rfl, named, closed, free⟩
    have opened := upToAngle?_append free (content ++ (closingTagOf closing ++ rest))
    rw [frontOf?, word?_eq_some.mpr ⟨rfl, named⟩] at none
    simp only [opened] at none
    cases ended : first? (closing? e) (content ++ (closingTagOf closing ++ rest)) with
    | none =>
      have fails := first?_eq_none_iff.mp ended content _ rfl
      rw [closing?_eq_some.mpr ⟨rfl, closed⟩] at fails
      cases fails
    | some x => rw [ended] at none; cases none
  · intro absent
    cases read : frontOf? e ('<' :: s) with
    | none => rfl
    | some x =>
      obtain ⟨b, rest⟩ := x
      obtain ⟨proper, rfl⟩ := proper_of_frontOf? read
      refine absurd ⟨b.name, b.attributes, b.content, b.closingName, rest, ?_, proper.named,
        proper.closed, proper.angle⟩ absent
      have written := text_append_of_frontOf? read
      rw [text_append_eq] at written
      exact (List.cons.inj written).2.symm

theorem solid_slash_of_folded {name : Text} (folded : name.map foldCase = e.name) :
    Solid ('/' :: name) := by
  intro c member
  rcases List.mem_cons.mp member with rfl | member
  · decide
  · exact solid_of_folded folded c member

theorem respaced_closingTag {angle : Bool} {name : Text} (folded : name.map foldCase = e.name)
    (r : Respaced angle (closingTagOf name ++ s) t) :
    ∃ t', t = closingTagOf name ++ t' ∧ Respaced true s t' := by
  rw [show closingTagOf name ++ s = '<' :: (('/' :: name) ++ '>' :: s) by simp [closingTagOf]] at r
  obtain ⟨t₁, rfl, r₁⟩ := r.cons_left (by decide)
  obtain ⟨t₂, rfl, r₂⟩ := r₁.append_left_solid (solid_slash_of_folded folded)
  obtain ⟨t₃, rfl, r₃⟩ := r₂.cons_left (by decide)
  exact ⟨t₃, by simp [closingTagOf], r₃⟩

theorem closingTag_of_respaced {angle : Bool} {name : Text}
    (r : Respaced angle s (closingTagOf name ++ t)) (folded : name.map foldCase = e.name) :
    ∃ gone s', s = gone ++ (closingTagOf name ++ s') ∧ Respaced true s' t := by
  have split : closingTagOf name ++ t = '<' :: (('/' :: name) ++ '>' :: t) := by simp [closingTagOf]
  rw [split] at r
  obtain ⟨gone, s₁, rfl, _, r₁, _⟩ := r.cons_right (by decide)
  obtain ⟨s₂, rfl, r₂⟩ := r₁.append_right_solid (solid_slash_of_folded folded)
  obtain ⟨gone', s₃, rfl, _, r₃, none⟩ := r₂.cons_right (by decide)
  exact ⟨gone, s₃, by rw [none rfl (by decide)]; simp [closingTagOf], r₃⟩

/-- Dropping blanks opens no block. -/
theorem Opens.of_respaced (r : Respaced false s t) (opens : Opens e t) : Opens e s := by
  obtain ⟨name, attributes, content, closing, rest, rfl, named, closed, free⟩ := opens
  obtain ⟨s₁, rfl, r₁⟩ := r.append_right_solid (solid_of_folded named)
  obtain ⟨attributes', s₂, angle, rfl, free', r₂⟩ := r₁.split_right
  obtain ⟨gone, s₃, rfl, blank, r₃, _⟩ := r₂.cons_right (by decide)
  obtain ⟨content', s₄, angle', rfl, _, r₄⟩ := r₃.split_right
  obtain ⟨gone', s₅, rfl, r₅⟩ := closingTag_of_respaced r₄ closed
  refine ⟨name, attributes' ++ gone, content' ++ gone', closing, s₅, by simp, named, closed, ?_⟩
  intro member
  rcases List.mem_append.mp member with member | member
  · exact free (free' member)
  · cases blank _ member

theorem Opens.of_append_blank {c : Char} (blank : isBlank c = true) (opens : Opens e (s ++ [c])) :
    Opens e s := by
  obtain ⟨name, attributes, content, closing, rest, same, named, closed, free⟩ := opens
  rcases List.eq_nil_or_concat rest with rfl | ⟨rest, d, rfl⟩
  · have split : s ++ [c] =
        (name ++ (attributes ++ '>' :: (content ++ '<' :: '/' :: closing))) ++ ['>'] := by
      rw [same]; simp [closingTagOf]
    have last := (List.append_inj' split rfl).2
    rw [(List.cons.inj last).1] at blank
    cases blank
  · have split : s ++ [c] =
        (name ++ (attributes ++ '>' :: (content ++ (closingTagOf closing ++ rest)))) ++ [d] := by
      rw [same]; simp
    exact ⟨name, attributes, content, closing, rest, (List.append_inj' split rfl).1, named, closed, free⟩

theorem Opens.of_folded (same : s.map foldCase = t.map foldCase) (opens : Opens e s) : Opens e t := by
  obtain ⟨name, attributes, content, closing, rest, rfl, named, closed, free⟩ := opens
  simp only [closingTagOf, List.map_append, List.map_cons, List.append_assoc, List.cons_append,
    List.nil_append] at same
  obtain ⟨name', t₁, rfl, name_eq, same₁⟩ := List.map_eq_append_iff.mp same.symm
  obtain ⟨attributes', t₂, rfl, attributes_eq, same₂⟩ := List.map_eq_append_iff.mp same₁
  obtain ⟨c₁, t₃, rfl, angle, same₃⟩ := List.map_eq_cons_iff.mp same₂
  obtain ⟨content', t₄, rfl, _, same₄⟩ := List.map_eq_append_iff.mp same₃
  obtain ⟨c₂, t₅, rfl, left, same₅⟩ := List.map_eq_cons_iff.mp same₄
  obtain ⟨c₃, t₆, rfl, slash, same₆⟩ := List.map_eq_cons_iff.mp same₅
  obtain ⟨closing', t₇, rfl, closing_eq, same₇⟩ := List.map_eq_append_iff.mp same₆
  obtain ⟨c₄, rest', rfl, right, _⟩ := List.map_eq_cons_iff.mp same₇
  have h₁ : c₁ = '>' := eq_of_foldCase angle (by decide)
  have h₂ : c₂ = '<' := eq_of_foldCase left (by decide)
  have h₃ : c₃ = '/' := eq_of_foldCase slash (by decide)
  have h₄ : c₄ = '>' := eq_of_foldCase right (by decide)
  subst h₁ h₂ h₃ h₄
  refine ⟨name', attributes', content', closing', rest', by simp [closingTagOf],
    name_eq.trans named, closing_eq.trans closed, fun member => free ?_⟩
  have folded : foldCase '>' ∈ attributes.map foldCase := attributes_eq ▸ List.mem_map_of_mem member
  obtain ⟨c, member, angle⟩ := List.mem_map.mp folded
  rwa [eq_of_foldCase (angle.trans rfl : foldCase c = '>') (by decide)] at member

theorem startsWith (elements : List Verbatim) : (pattern elements).StartsWith '<' := by
  intro c s other
  apply List.findSome?_eq_none_iff.mpr
  intro e _
  unfold frontOf?
  split
  · rename_i same
    exact absurd (List.cons.inj same).1 other
  · rfl

theorem front?_eq_none_iff {elements : List Verbatim} :
    front? elements ('<' :: s) = none ↔ ∀ e ∈ elements, ¬ Opens e s := by
  unfold front?
  rw [List.findSome?_eq_none_iff]
  constructor
  · intro none e member
    exact frontOf?_eq_none_iff.mp (none e member)
  · intro closed e member
    exact frontOf?_eq_none_iff.mpr (closed e member)

/-- Dropping blanks next to tags closes no block. -/
theorem Opens.respaced (r : Respaced false s t) (opens : Opens e s) : Opens e t := by
  obtain ⟨name, attributes, content, closing, rest, rfl, named, closed, free⟩ := opens
  obtain ⟨t₁, rfl, r₁⟩ := r.append_left_solid (solid_of_folded named)
  obtain ⟨attributes', t₂, rfl, free', r₂, _⟩ := r₁.angle_left free
  obtain ⟨content', t₃, angle, rfl, r₃⟩ := r₂.split_left
  obtain ⟨t₄, rfl, _⟩ := respaced_closingTag closed r₃
  exact ⟨name, attributes', content', closing, t₄, rfl, named, closed, free'⟩

end Block
end HtmlReflow
