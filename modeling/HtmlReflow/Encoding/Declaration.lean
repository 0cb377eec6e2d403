import HtmlReflow.Text.Blank
import HtmlReflow.Text.Fold
import HtmlReflow.Text.Search

namespace HtmlReflow.Declaration

variable {β : Type}

def metaName : Text := ['m', 'e', 't', 'a']

def charsetName : Text := ['c', 'h', 'a', 'r', 's', 'e', 't']

def httpEquivName : Text := ['h', 't', 't', 'p', '-', 'e', 'q', 'u', 'i', 'v']

def contentTypeName : Text := ['c', 'o', 'n', 't', 'e', 'n', 't', '-', 't', 'y', 'p', 'e']

def contentName : Text := ['c', 'o', 'n', 't', 'e', 'n', 't']

/-- Tries `read` at every position up to the first character that stops, that position included, the
    furthest first. -/
def furthest? (stops : Char → Bool) (read : Text → Option β) : Text → Option β
  | [] => read []
  | c :: s => if stops c then read (c :: s) else furthest? stops read s <|> read (c :: s)

/-- Tries `read` behind one or more characters that do not stop, the furthest position first. -/
def furthestBehind? (stops : Char → Bool) (read : Text → Option β) : Text → Option β
  | [] => none
  | c :: s => if stops c then none else furthest? stops read s

def isQuote (c : Char) : Bool := c == '"' || c == '\''

def closesTag (c : Char) : Bool := c == '>'

/-- What a value may consist of. -/
def isValueChar (c : Char) : Bool := !(isQuote c || isBlank c || closesTag c)

/-- A text without the quote that may stand at its front. -/
def skipQuote : Text → Text
  | [] => []
  | c :: s => if isQuote c then s else c :: s

/-- Reads a value, at least one character, and gives what is behind it too. -/
def value? (s : Text) : Option (Text × Text) :=
  match s.takeWhile isValueChar with
  | [] => none
  | value => some (value, s.dropWhile isValueChar)

/-- Reads `name`, an equals sign and the blanks around it. -/
def assigned? (name s : Text) : Option Text :=
  match word? name s with
  | none => none
  | some (_, s) =>
    match s.dropWhile isBlank with
    | '=' :: s => some (s.dropWhile isBlank)
    | _ => none

/-- Reads the assignment of a character set that may be quoted. -/
def charset? (s : Text) : Option (Text × Text) :=
  (assigned? charsetName s).bind fun s => value? (skipQuote s)

/-- Reads the parameter of a content type that sets the characters: it is part of a quoted value and so
    has no quotes of its own. -/
def parameter? : Text → Option (Text × Text)
  | ';' :: s => (assigned? charsetName (s.dropWhile isBlank)).bind value?
  | _ => none

/-- Reads the content of a content type, up to its last parameter that sets the characters. -/
def content? (s : Text) : Option (Text × Text) :=
  (assigned? contentName s).bind fun s =>
    furthest? (fun c => isQuote c || closesTag c) parameter? (skipQuote s)

/-- Reads the announcement of a content type and, further on in the tag, its content. -/
def contentType? (s : Text) : Option (Text × Text) :=
  (assigned? httpEquivName s).bind fun s =>
    (word? contentTypeName (skipQuote s)).bind fun x =>
      furthestBehind? closesTag content? x.2

/-- Reads a meta tag up to the last place in it at which `read` succeeds. -/
def meta? (read : Text → Option (Text × Text)) : Text → Option (Text × Text)
  | '<' :: s => (word? metaName s).bind fun x => furthestBehind? closesTag read x.2
  | _ => none

/-- The label that the first meta tag with a character set declares, and what is behind it. -/
def inCharset? (s : Text) : Option (Text × Text) := (first? (meta? charset?) s).map Prod.snd

/-- The label that the first meta tag with a content type declares, and what is behind it. -/
def inContentType? (s : Text) : Option (Text × Text) := (first? (meta? contentType?) s).map Prod.snd

/-- The labels that a text declares, the more direct form first. -/
def labels (s : Text) : List Text :=
  [inCharset? s, inContentType? s].filterMap fun found => found.map Prod.fst

end HtmlReflow.Declaration
