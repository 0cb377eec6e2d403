import HtmlReflow.Text.Basic

namespace HtmlReflow

/-- Why a file can be neither read nor written. -/
inductive Fault where
  /-- Nothing has this name. -/
  | notFound
  /-- The name leads through a regular file. -/
  | notADirectory
  /-- The name is that of a directory. -/
  | isADirectory
  /-- Any other refusal, in the system's words. -/
  | other (reason : Text)
  deriving DecidableEq, Repr

/-- The reason, with the number the system has for it. -/
def Fault.message : Fault → Text
  | .notFound => "No such file or directory (os error 2)".toList
  | .notADirectory => "Not a directory (os error 20)".toList
  | .isADirectory => "Is a directory (os error 21)".toList
  | .other reason => reason

/-- What can go wrong on the way from an input to an output. -/
inductive Error where
  /-- A mode whose name is not known, in any case of its letters. -/
  | unknownMode (name : Text)
  /-- A mode that is not one of the listed values. -/
  | unlistedMode (name : Text)
  /-- A label that no encoding has. -/
  | unknownEncoding (label : Text)
  /-- A file that was refused. -/
  | storage (fault : Fault)
  deriving DecidableEq, Repr

/-- The text that reports an error. Names and labels stand in it as they were given. -/
def Error.message : Error → Text
  | .unknownMode name => "Unknown mode: ".toList ++ name
  | .unlistedMode name => "invalid variant: ".toList ++ name
  | .unknownEncoding label => "Unknown encoding: ".toList ++ label
  | .storage fault => "I/O failed: ".toList ++ fault.message

end HtmlReflow
