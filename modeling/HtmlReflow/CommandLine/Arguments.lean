import HtmlReflow.Mode

namespace HtmlReflow.CommandLine

/-- What a command line asks for. -/
structure Settings where
  mode : Mode
  input : Option Text := none
  output : Option Text := none
  encoding : Option Text := none
  keepComments : Bool := false
  noRawFormat : Bool := false
  stats : Bool := false
  deriving DecidableEq, Repr

/-- What a command line is: a run, or a question about the program. -/
inductive Request where
  | run (settings : Settings)
  | version
  | help
  deriving DecidableEq, Repr

/-- What can be wrong with a command line. -/
inductive UsageError where
  | missingMode
  | unknownMode (name : Text)
  | unexpectedArgument (argument : Text)
  | unknownOption (option : Text)
  | repeatedOption (option : Text)
  | unwantedValue (option : Text)
  | missingValue (option : Text)
  | emptyValue (option : Text)
  deriving DecidableEq, Repr

def UsageError.message : UsageError → Text
  | .missingMode => "a mode is required".toList
  | .unknownMode name => "no such mode: ".toList ++ name
  | .unexpectedArgument argument => "unexpected argument: ".toList ++ argument
  | .unknownOption option => "no such option: ".toList ++ option
  | .repeatedOption option => "given twice: ".toList ++ option
  | .unwantedValue option => "takes no value: ".toList ++ option
  | .missingValue option => "needs a value: ".toList ++ option
  | .emptyValue option => "needs a value that is not empty: ".toList ++ option

inductive Flag where
  | keepComments
  | noRawFormat
  | stats
  deriving DecidableEq, Repr

inductive Setting where
  | output
  | encoding
  deriving DecidableEq, Repr

/-- What may stand behind dashes. -/
inductive Key where
  | setting (s : Setting)
  | flag (f : Flag)
  | version
  | help
  deriving DecidableEq, Repr

/-- The long names of options, to be given in full. -/
def longNames : List (Text × Key) :=
  [("output".toList, .setting .output), ("encoding".toList, .setting .encoding),
    ("keep-comments".toList, .flag .keepComments), ("no-raw-format".toList, .flag .noRawFormat),
    ("stats".toList, .flag .stats), ("version".toList, .version), ("help".toList, .help)]

def shortNames : List (Char × Key) := [('o', .setting .output), ('V', .version), ('h', .help)]

/-- One argument by its form. -/
inductive Argument where
  /-- Two dashes alone: all that follows is plain. -/
  | endOfOptions
  /-- Two dashes, a name, and maybe an equals sign and a value. -/
  | long (name : Text) (value : Option Text)
  /-- One dash, a letter, and what is behind it. -/
  | short (letter : Char) (rest : Text)
  /-- No dash, or nothing but one. -/
  | plain (text : Text)
  deriving DecidableEq, Repr

def cutAtEquals (s : Text) : Text × Option Text :=
  match s.dropWhile (· != '=') with
  | [] => (s, none)
  | _ :: value => (s.takeWhile (· != '='), some value)

/-- The form of an argument. -/
def Argument.ofText : Text → Argument
  | ['-', '-'] => .endOfOptions
  | '-' :: '-' :: s => .long (cutAtEquals s).1 (cutAtEquals s).2
  | '-' :: letter :: rest => .short letter rest
  | s => .plain s

/-- The value that is written right behind a short option, an equals sign between them not counted. -/
def attachedValue : Text → Option Text
  | [] => none
  | '=' :: value => some value
  | value => some value

/-- An argument of its own is no value if it looks like an option. -/
def isRefusedValue : Text → Bool
  | '-' :: _ :: _ => true
  | _ => false

/-- What has been read of a command line so far. -/
structure Draft where
  mode : Option Mode := none
  input : Option Text := none
  output : Option Text := none
  encoding : Option Text := none
  keepComments : Bool := false
  noRawFormat : Bool := false
  stats : Bool := false
  deriving DecidableEq, Repr

namespace Draft

/-- Takes a plain argument: the mode first, then the input, then no more. -/
def addPlain (d : Draft) (s : Text) : Except UsageError Draft :=
  match d.mode, d.input with
  | none, _ =>
    match Mode.ofName? s with
    | some mode => .ok { d with mode := some mode }
    | none => .error (.unknownMode s)
  | some _, none => if s = [] then .error (.emptyValue s) else .ok { d with input := some s }
  | some _, some _ => .error (.unexpectedArgument s)

/-- Takes a value for an option. An output needs a name; a label may be empty, and then is unknown. -/
def set (d : Draft) (option : Text) : Setting → Text → Except UsageError Draft
  | .output, value =>
    if d.output.isSome then .error (.repeatedOption option)
    else if value = [] then .error (.emptyValue option)
    else .ok { d with output := some value }
  | .encoding, value =>
    if d.encoding.isSome then .error (.repeatedOption option)
    else .ok { d with encoding := some value }

def switch (d : Draft) (option : Text) : Flag → Except UsageError Draft
  | .keepComments =>
    if d.keepComments then .error (.repeatedOption option) else .ok { d with keepComments := true }
  | .noRawFormat =>
    if d.noRawFormat then .error (.repeatedOption option) else .ok { d with noRawFormat := true }
  | .stats => if d.stats then .error (.repeatedOption option) else .ok { d with stats := true }

def finish (d : Draft) : Except UsageError Request :=
  match d.mode with
  | none => .error .missingMode
  | some mode =>
    .ok (.run ⟨mode, d.input, d.output, d.encoding, d.keepComments, d.noRawFormat, d.stats⟩)

end Draft

/-- The option that an argument names, with the value that stands in the same argument. -/
def Argument.key? : Argument → Option (Key × Option Text)
  | .long name value => (longNames.lookup name).map (·, value)
  | .short letter rest =>
    (shortNames.lookup letter).map fun key =>
      (key, match key with
        | .setting _ => attachedValue rest
        | _ => none)
  | _ => none

def readPlain (d : Draft) : List Text → Except UsageError Request
  | [] => d.finish
  | s :: args =>
    match d.addPlain s with
    | .error e => .error e
    | .ok d => readPlain d args

/-- Reads arguments from left to right. The first error, or the first question about the program, ends
    the reading. -/
def readFrom (d : Draft) : List Text → Except UsageError Request
  | [] => d.finish
  | arg :: args =>
    match Argument.ofText arg with
    | .endOfOptions => readPlain d args
    | .plain s =>
      match d.addPlain s with
      | .error e => .error e
      | .ok d => readFrom d args
    | argument =>
      match argument.key? with
      | none => .error (.unknownOption arg)
      | some (.version, none) => .ok .version
      | some (.help, none) => .ok .help
      | some (.flag f, none) =>
        match d.switch arg f with
        | .error e => .error e
        | .ok d => readFrom d args
      | some (.setting s, some value) =>
        match d.set arg s value with
        | .error e => .error e
        | .ok d => readFrom d args
      | some (.setting s, none) =>
        match args with
        | [] => .error (.missingValue arg)
        | value :: args =>
          if isRefusedValue value then .error (.missingValue arg)
          else
            match d.set arg s value with
            | .error e => .error e
            | .ok d => readFrom d args
      | some (_, some _) => .error (.unwantedValue arg)

def parse (args : List Text) : Except UsageError Request := readFrom {} args

end HtmlReflow.CommandLine
