import HtmlReflow.Error
import HtmlReflow.Expand
import HtmlReflow.Minify
import HtmlReflow.Stats

namespace HtmlReflow

inductive Mode where
  | minify
  | expand
  deriving DecidableEq, Repr

namespace Mode

/-- Every name of a mode. Each mode has a long and a short one. -/
def names : List (Text × Mode) :=
  [("minify".toList, .minify), ("min".toList, .minify),
    ("expand".toList, .expand), ("pretty".toList, .expand)]

def ofName? (name : Text) : Option Mode := names.lookup name

/-- Reads the name of a mode in any ASCII case. -/
def parse (name : Text) : Except Error Mode :=
  match ofName? (lowerAscii name) with
  | some mode => .ok mode
  | none => .error (.unknownMode name)

/-- Reads the name of a mode as a value of a closed list: exactly, or in any ASCII case. -/
def ofValue (ignoreCase : Bool) (name : Text) : Except Error Mode :=
  match ofName? (if ignoreCase then lowerAscii name else name) with
  | some mode => .ok mode
  | none => .error (.unlistedMode name)

def output (mode : Mode) (o : Options) (s : Text) : Text :=
  match mode with
  | .minify => HtmlReflow.minify o s
  | .expand => HtmlReflow.expand o s

/-- Number of blocks whose contents a mode lifts out of a text; expanding lifts none. -/
def preserved (mode : Mode) (s : Text) : Nat :=
  match mode with
  | .minify => preservedBlocks s
  | .expand => 0

/-- What a mode makes of a text, with the sizes. -/
def apply (mode : Mode) (o : Options) (s : Text) : Text × Stats :=
  let out := mode.output o s
  (out, ⟨byteLength s, byteLength out, mode.preserved s⟩)

end Mode

/-- One step of a run: a mode by its name, and the options for it. -/
structure Step where
  mode : Text
  options : Options
  deriving DecidableEq, Repr

namespace Step

/-- Takes the steps in turn, each on the output of the last. A step whose mode is not known reports it
    and leaves the text as it is. -/
def run : List Step → Text → List (Except Error (Text × Stats))
  | [], _ => []
  | step :: steps, s =>
    match Mode.parse step.mode with
    | .error e => .error e :: run steps s
    | .ok mode =>
      let result := mode.apply step.options s
      .ok result :: run steps result.1

end Step
end HtmlReflow
