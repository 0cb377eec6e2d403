import HtmlReflow.Markup.Block
import HtmlReflow.Markup.Structural
import HtmlReflow.Options

namespace HtmlReflow

/-- Three or more line feeds in a row, by their number. -/
structure FeedRun where
  count : Nat
  deriving DecidableEq, Repr

namespace FeedRun

def text (r : FeedRun) : Text := List.replicate r.count '\n'

/-- Reads all line feeds at the front of a text, if they are at least three. -/
def front? (s : Text) : Option (FeedRun × Text) :=
  let feeds := s.takeWhile (· == '\n')
  if 3 ≤ feeds.length then some (⟨feeds.length⟩, s.dropWhile (· == '\n')) else none

/-- The runs of line feeds that leave more than one line empty. -/
def pattern : Pattern FeedRun where
  front? := front?
  text := text
  text_append := by
    intro s r rest h
    unfold front? at h
    simp only at h
    split at h
    · cases h
      have feeds : s.takeWhile (· == '\n') =
          List.replicate (s.takeWhile (· == '\n')).length '\n' := by
        rw [List.eq_replicate_iff]
        refine ⟨rfl, fun c member => ?_⟩
        have := List.all_takeWhile (p := (· == '\n')) (l := s)
        simpa using List.all_eq_true.mp this c member
      rw [text, ← feeds]
      exact List.takeWhile_append_dropWhile
    · cases h
  text_ne_nil := by
    intro s r rest h
    unfold front? at h
    simp only at h
    split at h
    · rename_i three
      cases h
      intro empty
      have := congrArg List.length empty
      simp only [text, List.length_replicate, List.length_nil] at this
      omega
    · cases h

end FeedRun

/-- The blocks whose content is not markup. -/
def rawPattern : Pattern Block := Block.pattern [.script, .style]

/-- A line feed behind every closing tag of a structural element. -/
def breakAfterCloses (s : Text) : Text :=
  StructuralClose.pattern.replace (fun t => t.text ++ ['\n']) s

/-- A line feed before every opening tag of a structural element. -/
def breakBeforeOpens (s : Text) : Text :=
  StructuralOpen.pattern.replace (fun t => '\n' :: t.text) s

/-- A raw block with its two tags and its content on lines of their own. -/
def Block.onLines (b : Block) : Text :=
  '\n' :: (b.openingTag ++ '\n' :: (b.content ++ '\n' :: (b.closingTag ++ ['\n'])))

/-- Puts the parts of every raw block on lines of their own. -/
def breakRawBlocks (s : Text) : Text := rawPattern.replace Block.onLines s

/-- Leaves at most one line empty. -/
def capFeeds (s : Text) : Text := FeedRun.pattern.replace (fun _ => ['\n', '\n']) s

/-- Spreads a text over lines. Only line feeds are added or dropped, blanks at the two ends apart. -/
def expand (o : Options) (s : Text) : Text :=
  let s := breakBeforeOpens (breakAfterCloses s)
  let s := if o.formatRawBlocks then breakRawBlocks s else s
  trim (capFeeds s)

end HtmlReflow
