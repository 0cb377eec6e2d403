import HtmlReflow.Encoding.Declaration
import HtmlReflow.Encoding.Label
import HtmlReflow.Mode

namespace HtmlReflow.Document

/-- How many bytes of a document are searched for a declaration. -/
def sniffLimit : Nat := 1024

/-- The front of a document, read as UTF-8, whose ASCII part every declaration is written in. -/
def head (bytes : Bytes) : Text := Utf8.decoder.decode (bytes.take sniffLimit)

/-- The encoding of a document: that of its byte order mark, or else the first one that it declares by
    a known label, or else UTF-8. -/
def encoding (bytes : Bytes) : Encoding :=
  match Encoding.ofMark? bytes with
  | some (marked, _) => marked
  | none => ((Declaration.labels (head bytes)).findSome? Encoding.ofLabel?).getD .utf8

def text (bytes : Bytes) : Text := (encoding bytes).decode bytes

/-- The text of a document in the encoding that a label names, whatever the document declares. -/
def textAs (label : Text) (bytes : Bytes) : Except Error Text :=
  match Encoding.ofLabel? (trim label) with
  | some e => .ok (e.decode bytes)
  | none => .error (.unknownEncoding label)

def minified (bytes : Bytes) : Text := minify {} (text bytes)

def expanded (bytes : Bytes) : Text := expand {} (text bytes)

end HtmlReflow.Document
