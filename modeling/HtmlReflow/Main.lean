import HtmlReflow.CommandLine.Run

namespace HtmlReflow.CommandLine

/-- Whether a system error has this number. Some calls report it with its sign turned. -/
def hasNumber (code number : UInt32) : Bool := code == number || code == 0 - number

/-- The fault that a system error stands for. -/
def faultOf : IO.Error → Fault
  | .noFileOrDirectory .. => .notFound
  | .inappropriateType _ code details => ofType code details
  | e => .other e.toString.toList
where
  ofType (code : UInt32) (details : String) : Fault :=
    if hasNumber code 20 then .notADirectory
    else if hasNumber code 21 then .isADirectory
    else .other details.toList

/-- An action of the system with its failure as a fault. -/
def guarded {α : Type} (action : IO α) : IO (Except Fault α) := do
  try
    return .ok (← action)
  catch e =>
    return .error (faultOf e)

partial def readAll (stream : IO.FS.Stream) (done : ByteArray) : IO ByteArray := do
  let chunk ← stream.read 65536
  if chunk.isEmpty then return done else readAll stream (done ++ chunk)

def systemStorage : Storage IO where
  read
    | .standardInput =>
      guarded do return (← readAll (← IO.getStdin) ByteArray.empty).toList
    | .file path => guarded do return (← IO.FS.readBinFile (String.ofList path)).toList
  write path bytes := guarded (IO.FS.writeBinFile (String.ofList path) bytes.toByteArray)

end HtmlReflow.CommandLine

open HtmlReflow.CommandLine in
def main (args : List String) : IO UInt32 := do
  let outcome ← perform systemStorage (args.map String.toList)
  (← IO.getStdout).putStr (String.ofList outcome.stdout)
  (← IO.getStderr).putStr (String.ofList outcome.stderr)
  return UInt32.ofNat outcome.exit
