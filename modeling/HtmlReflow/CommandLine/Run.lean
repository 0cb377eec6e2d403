import HtmlReflow.CommandLine.Arguments
import HtmlReflow.Document

namespace HtmlReflow.CommandLine

/-- Where an input comes from. -/
inductive Source where
  | standardInput
  | file (path : Text)
  deriving DecidableEq, Repr

/-- How a run reaches its input and its output. -/
structure Storage (m : Type → Type) where
  read : Source → m (Except Fault Bytes)
  write : Text → Bytes → m (Except Fault Unit)

/-- What a run leaves behind beside files. -/
structure Outcome where
  exit : Nat
  stdout : Text
  stderr : Text
  deriving DecidableEq, Repr

def Outcome.failure (e : Error) : Outcome := ⟨1, [], "error: ".toList ++ e.message ++ ['\n']⟩

namespace Settings

/-- A missing input and a lone dash both stand for standard input. -/
def source (s : Settings) : Source :=
  match s.input with
  | none => .standardInput
  | some path => if path = ['-'] then .standardInput else .file path

def options (s : Settings) : Options :=
  { removeComments := !s.keepComments, formatRawBlocks := !s.noRawFormat }

def decode (s : Settings) (bytes : Bytes) : Except Error Text :=
  match s.encoding with
  | some label => Document.textAs label bytes
  | none => .ok (Document.text bytes)

def report (s : Settings) (stats : Stats) : Text := if s.stats then stats.report ++ ['\n'] else []

/-- Hands over an output: as it is to a file, with a line feed to standard output. -/
def deliver {m : Type → Type} [Monad m] (storage : Storage m) (s : Settings) (out : Text)
    (stats : Stats) : m Outcome :=
  match s.output with
  | none => pure ⟨0, out ++ ['\n'], s.report stats⟩
  | some path => do
    match ← storage.write path (Utf8.encode out) with
    | .error fault => pure (.failure (.storage fault))
    | .ok () => pure ⟨0, [], s.report stats⟩

/-- Reads the input, decodes it, applies the mode and hands over the output. The first of these that
    fails is reported and nothing comes after it. -/
def run {m : Type → Type} [Monad m] (storage : Storage m) (s : Settings) : m Outcome := do
  match ← storage.read s.source with
  | .error fault => pure (.failure (.storage fault))
  | .ok bytes =>
    match s.decode bytes with
    | .error e => pure (.failure e)
    | .ok html =>
      let result := s.mode.apply s.options html
      s.deliver storage result.1 result.2

end Settings

def versionText : Text := "rs-htmlpack 0.1.0\n".toList

def helpText : Text :=
  ("Minify or expand HTML.\n\n" ++
    "Usage: MODE [INPUT] [OPTIONS]\n\n" ++
    "  MODE                 minify, min, expand or pretty\n" ++
    "  INPUT                input file; standard input if absent or -\n" ++
    "  -o, --output FILE    output file; standard output if absent\n" ++
    "  --encoding LABEL     encoding of the input; found out if absent\n" ++
    "  --keep-comments      keep comments when minifying\n" ++
    "  --no-raw-format      leave script and style blocks alone when expanding\n" ++
    "  --stats              report sizes on standard error\n" ++
    "  -V, --version        show the version\n" ++
    "  -h, --help           show this text\n").toList

/-- Does what a command line asks for. -/
def perform {m : Type → Type} [Monad m] (storage : Storage m) (args : List Text) : m Outcome :=
  match parse args with
  | .error e => pure ⟨2, [], "error: ".toList ++ e.message ++ ['\n']⟩
  | .ok .version => pure ⟨0, versionText, []⟩
  | .ok .help => pure ⟨0, helpText, []⟩
  | .ok (.run settings) => settings.run storage

end HtmlReflow.CommandLine
