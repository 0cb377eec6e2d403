import HtmlReflow.Scan
import HtmlReflow.Text.Blank
import HtmlReflow.Text.Fold

namespace HtmlReflow

def structuralNames : List Text :=
  ["div", "section", "article", "header", "footer", "main", "nav", "aside", "p", "h1", "h2", "h3",
    "h4", "h5", "h6", "ul", "ol", "li", "table", "tr", "form"].map String.toList

/-- The closing tag of a structural element, by its name as written. -/
structure StructuralClose where
  name : Text
  deriving DecidableEq, Repr

namespace StructuralClose

def text (t : StructuralClose) : Text := '<' :: '/' :: (t.name ++ ['>'])

def named? (s name : Text) : Option (StructuralClose × Text) :=
  match word? name s with
  | some (written, '>' :: rest) => some (⟨written⟩, rest)
  | _ => none

/-- Reads a closing tag at the front of a text. -/
def front? : Text → Option (StructuralClose × Text)
  | '<' :: '/' :: s => structuralNames.findSome? (named? s)
  | _ => none

def pattern : Pattern StructuralClose where
  front? := front?
  text := text
  text_append := by
    intro s t rest h
    unfold front? at h
    split at h
    · obtain ⟨name, _, found⟩ := List.exists_of_findSome?_eq_some h
      unfold named? at found
      split at found
      · rename_i read
        cases found
        simp [text, (word?_eq_some.mp read).1]
      · cases found
    · cases h
  text_ne_nil := by
    intro s t rest _
    simp [text]

end StructuralClose

/-- The front of an opening tag of a structural element: its name as written and the character behind
    it, a blank or `>`. Without that character `<pre` would pass for a `<p`. -/
structure StructuralOpen where
  name : Text
  delimiter : Char
  deriving DecidableEq, Repr

namespace StructuralOpen

def text (t : StructuralOpen) : Text := '<' :: (t.name ++ [t.delimiter])

def named? (s name : Text) : Option (StructuralOpen × Text) :=
  match word? name s with
  | some (written, c :: rest) =>
    if isBlank c || c == '>' then some (⟨written, c⟩, rest) else none
  | _ => none

/-- Reads the front of an opening tag at the front of a text. -/
def front? : Text → Option (StructuralOpen × Text)
  | '<' :: s => structuralNames.findSome? (named? s)
  | _ => none

def pattern : Pattern StructuralOpen where
  front? := front?
  text := text
  text_append := by
    intro s t rest h
    unfold front? at h
    split at h
    · obtain ⟨name, _, found⟩ := List.exists_of_findSome?_eq_some h
      unfold named? at found
      split at found
      · rename_i read
        split at found
        · cases found
          simp [text, (word?_eq_some.mp read).1]
        · cases found
      · cases found
    · cases h
  text_ne_nil := by
    intro s t rest _
    simp [text]

end StructuralOpen
end HtmlReflow
