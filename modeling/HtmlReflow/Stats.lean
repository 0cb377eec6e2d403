import HtmlReflow.Text.Basic

namespace HtmlReflow

/-- Sizes of one run in bytes, and the number of blocks whose contents were lifted out. -/
structure Stats where
  inputBytes : Nat
  outputBytes : Nat
  preservedBlocks : Nat
  deriving DecidableEq, Repr

namespace Stats

/-- Bytes that the output is shorter; none if it is longer. -/
def savedBytes (s : Stats) : Nat := s.inputBytes - s.outputBytes

/-- Output size over input size, each rounded to the nearest double before they are divided; 1 for an
    empty input. -/
def ratio (s : Stats) : Float :=
  if s.inputBytes = 0 then 1.0 else Float.ofNat s.outputBytes / Float.ofNat s.inputBytes

def decimal (n : Nat) : Text := Nat.toDigits 10 n

def report (s : Stats) : Text :=
  "\x7b\"input_bytes\":".toList ++ decimal s.inputBytes ++ ",\"output_bytes\":".toList ++
    decimal s.outputBytes ++ ",\"preserved_blocks\":".toList ++ decimal s.preservedBlocks ++ ['\x7d']

end Stats
end HtmlReflow
