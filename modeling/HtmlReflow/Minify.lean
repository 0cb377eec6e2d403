import HtmlReflow.Markup.Comment
import HtmlReflow.Markup.Spacing
import HtmlReflow.Minify.Shield
import HtmlReflow.Options

namespace HtmlReflow

/-- Drops comments. With `keepConditional`, conditional comments stay as they are. -/
def stripComments (keepConditional : Bool) (s : Text) : Text :=
  Comment.pattern.replace (fun c => if keepConditional && c.isConditional then c.text else []) s

/-- What the options ask for between shielding the blocks and putting their contents back. -/
def tidy (o : Options) (s : Text) : Text :=
  let s := if o.removeComments then stripComments o.keepConditionalComments s else s
  if o.collapseWhitespace then collapseBlanks s else s

/-- Shrinks a text: comments and blanks go as the options say, contents of blocks stay. -/
def minify (o : Options) (s : Text) : Text :=
  trim (restore (shield s).contents (tidy o (shield s).text))

/-- Number of blocks whose contents are lifted out. One inside a comment counts, although it goes
    with the comment. -/
def preservedBlocks (s : Text) : Nat := (shield s).contents.length

end HtmlReflow
