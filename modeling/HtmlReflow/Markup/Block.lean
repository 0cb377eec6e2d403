import HtmlReflow.Markup.Tag
import HtmlReflow.Scan
import HtmlReflow.Text.Fold
import HtmlReflow.Text.Search

namespace HtmlReflow

/-- The elements whose content is not markup, or in which every blank counts. -/
inductive Verbatim where
  | pre
  | script
  | style
  deriving DecidableEq, Repr

def Verbatim.name : Verbatim → Text
  | .pre => ['p', 'r', 'e']
  | .script => ['s', 'c', 'r', 'i', 'p', 't']
  | .style => ['s', 't', 'y', 'l', 'e']

/-- A whole element, from its opening tag to its closing tag. Both names are kept as they are written. -/
structure Block where
  element : Verbatim
  name : Text
  attributes : Text
  content : Text
  closingName : Text
  deriving DecidableEq, Repr

namespace Block

def openingTag (b : Block) : Text := '<' :: (b.name ++ (b.attributes ++ ['>']))

/-- A closing tag for `name`. -/
def closingTagOf (name : Text) : Text := '<' :: '/' :: (name ++ ['>'])

def closingTag (b : Block) : Text := closingTagOf b.closingName

def text (b : Block) : Text := b.openingTag ++ (b.content ++ b.closingTag)

/-- Reads the closing tag of `element` at the front of a text, and gives its name as written. -/
def closing? (element : Verbatim) : Text → Option (Text × Text)
  | '<' :: '/' :: s =>
    match word? element.name s with
    | some (name, '>' :: rest) => some (name, rest)
    | _ => none
  | _ => none

theorem closing?_eq_some {element : Verbatim} {s name rest : Text} :
    closing? element s = some (name, rest) ↔
      s = closingTagOf name ++ rest ∧ name.map foldCase = element.name := by
  unfold closing? closingTagOf
  split
  · rename_i s
    split
    · rename_i name' rest' found
      obtain ⟨rfl, folded⟩ := word?_eq_some.mp found
      constructor
      · intro h; cases h; exact ⟨by simp, folded⟩
      · rintro ⟨same, folded'⟩
        have length : name'.length = name.length := by
          rw [← List.length_map foldCase, folded, ← folded', List.length_map]
        simp only [List.cons_append, List.append_assoc, List.nil_append, List.cons.injEq,
          true_and] at same
        obtain ⟨rfl, rest_eq⟩ := List.append_inj same length
        cases rest_eq
        rfl
    · rename_i none
      constructor
      · intro h; cases h
      · rintro ⟨same, folded⟩
        simp only [List.cons_append, List.append_assoc, List.nil_append, List.cons.injEq,
          true_and] at same
        exact absurd (word?_eq_some.mpr ⟨same, folded⟩) (none name rest)
  · rename_i none
    constructor
    · intro h; cases h
    · rintro ⟨same, _⟩
      exact absurd same (none _)

/-- Reads a block of `element` at the front of a text. The opening tag ends with the first `>`, the
    content with the first closing tag behind it. -/
def frontOf? (element : Verbatim) : Text → Option (Block × Text)
  | '<' :: s =>
    match word? element.name s with
    | none => none
    | some (name, s) =>
      match upToAngle? s with
      | none => none
      | some (attributes, s) =>
        match first? (closing? element) s with
        | none => none
        | some (content, closingName, rest) =>
          some (⟨element, name, attributes, content, closingName⟩, rest)
  | _ => none

theorem text_append_of_frontOf? {element : Verbatim} {s rest : Text} {b : Block}
    (h : frontOf? element s = some (b, rest)) : b.text ++ rest = s := by
  unfold frontOf? at h
  split at h
  · split at h
    · cases h
    · rename_i named
      split at h
      · cases h
      · rename_i opened
        split at h
        · cases h
        · rename_i closed
          cases h
          obtain ⟨tail, same, ended⟩ := exists_rest_of_first? closed
          simp [text, openingTag, closingTag, (word?_eq_some.mp named).1,
            (upToAngle?_eq_some.mp opened).1, same, (closing?_eq_some.mp ended).1]
  · cases h

/-- Reads a block of one of `elements`, the first of them that fits. -/
def front? (elements : List Verbatim) (s : Text) : Option (Block × Text) :=
  elements.findSome? (frontOf? · s)

def pattern (elements : List Verbatim) : Pattern Block where
  front? := front? elements
  text := text
  text_append := by
    intro s b rest h
    obtain ⟨element, _, found⟩ := List.exists_of_findSome?_eq_some h
    exact text_append_of_frontOf? found
  text_ne_nil := by
    intro s b rest _
    simp [text, openingTag]

end Block
end HtmlReflow
