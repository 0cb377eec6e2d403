import HtmlReflow.Scan
import HtmlReflow.Text.Search

namespace HtmlReflow

/-- A comment, by what stands between its two marks. -/
structure Comment where
  body : Text
  deriving DecidableEq, Repr

namespace Comment

def opening : Text := ['<', '!', '-', '-']

def closing : Text := ['-', '-', '>']

def text (c : Comment) : Text := opening ++ (c.body ++ closing)

/-- Conditional comments are instructions to a browser; their body starts with `[if`. -/
def isConditional (c : Comment) : Bool := ['[', 'i', 'f'].isPrefixOf c.body

/-- Reads a comment at the front of a text. It ends with the first closing mark that starts behind the
    opening mark, so `<!-->` opens a comment and does not close it. -/
def front? (s : Text) : Option (Comment × Text) :=
  match afterToken? opening s with
  | none => none
  | some inside =>
    match first? (afterToken? closing) inside with
    | none => none
    | some (body, rest) => some (⟨body⟩, rest)

def pattern : Pattern Comment where
  front? := front?
  text := text
  text_append := by
    intro s c rest h
    unfold front? at h
    split at h
    · cases h
    · rename_i inside opened
      split at h
      · cases h
      · rename_i body rest' closed
        cases h
        obtain ⟨r, same, ended⟩ := exists_rest_of_first? closed
        simp [text, afterToken?_eq_some.mp opened, same, afterToken?_eq_some.mp ended]
  text_ne_nil := by
    intro s c rest _
    simp [text, opening]

end Comment
end HtmlReflow
