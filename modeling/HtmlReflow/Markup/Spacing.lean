import HtmlReflow.Markup.Tag
import HtmlReflow.Scan
import HtmlReflow.Text.Blank

namespace HtmlReflow

/-- Blanks, at least one, with nothing else between a `>` and the next `<`. -/
structure Gap where
  blanks : Text
  deriving DecidableEq, Repr

namespace Gap

def text (g : Gap) : Text := '>' :: (g.blanks ++ ['<'])

def front? : Text → Option (Gap × Text)
  | '>' :: s =>
    match spanBlanks s with
    | (c :: blanks, '<' :: rest) => some (⟨c :: blanks⟩, rest)
    | _ => none
  | _ => none

def pattern : Pattern Gap where
  front? := front?
  text := text
  text_append := by
    intro s g rest h
    unfold front? at h
    split at h
    · rename_i s
      split at h
      · rename_i spanned
        cases h
        have same := spanBlanks_append s
        rw [spanned] at same
        simp [text, ← same]
      · cases h
    · cases h
  text_ne_nil := by
    intro s g rest _
    simp [text]

end Gap

/-- Two or more blanks in a row. -/
structure BlankRun where
  blanks : Text
  deriving DecidableEq, Repr

namespace BlankRun

/-- Reads all blanks at the front of a text, if they are at least two. -/
def front? (s : Text) : Option (BlankRun × Text) :=
  match spanBlanks s with
  | (c :: d :: blanks, rest) => some (⟨c :: d :: blanks⟩, rest)
  | _ => none

def pattern : Pattern BlankRun where
  front? := front?
  text := blanks
  text_append := by
    intro s r rest h
    unfold front? at h
    split at h
    · rename_i spanned
      cases h
      have same := spanBlanks_append s
      rw [spanned] at same
      exact same
    · cases h
  text_ne_nil := by
    intro s r rest h
    unfold front? at h
    split at h
    · cases h
      simp
    · cases h

end BlankRun

/-- A tag with the blanks on its two sides. -/
structure SpacedTag where
  before : Text
  tag : Tag
  after : Text
  deriving DecidableEq, Repr

namespace SpacedTag

def text (t : SpacedTag) : Text := t.before ++ (t.tag.text ++ t.after)

/-- Reads a tag at the front of a text, with all blanks before and behind it. -/
def front? (s : Text) : Option (SpacedTag × Text) :=
  match Tag.front? (spanBlanks s).2 with
  | some (tag, rest) => some (⟨(spanBlanks s).1, tag, (spanBlanks rest).1⟩, (spanBlanks rest).2)
  | none => none

/-- The tags of a text, each with the blanks on its two sides. -/
def pattern : Pattern SpacedTag where
  front? := front?
  text := text
  text_append := by
    intro s t rest h
    unfold front? at h
    split at h
    · rename_i found
      cases h
      simp only [text, List.append_assoc, spanBlanks_append]
      rw [Tag.text_append found, spanBlanks_append]
    · cases h
  text_ne_nil := by
    intro s t rest _
    simp [text, Tag.text_ne_nil]

end SpacedTag

/-- Drops the blanks between tags, turns longer runs of blanks into one space, and drops the blanks on
    both sides of each tag, in this order: a run next to a tag is a single space when its turn comes. -/
def collapseBlanks (s : Text) : Text :=
  SpacedTag.pattern.replace (fun t => t.tag.text)
    (BlankRun.pattern.replace (fun _ => [' '])
      (Gap.pattern.replace (fun _ => ['>', '<']) s))

end HtmlReflow
