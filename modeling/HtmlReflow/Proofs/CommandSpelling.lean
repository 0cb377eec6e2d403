import HtmlReflow.CommandLine.FileTree
import HtmlReflow.Proofs.CommandWords

namespace HtmlReflow.CommandLine

variable {d d' : Draft} {read later words : List Word} {args front : List Text} {arg s value : Text}
  {k : Setting} {f : Flag} {settings : Settings}

namespace Draft

end Draft

variable {args' : List Text}

end HtmlReflow.CommandLine
