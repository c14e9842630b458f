import Gamebook.Word

/-!
# What a command leaves behind

The exit code of a command and what it printed.
-/

namespace Gamebook.Command

/-- The exit code and the two streams of output. -/
structure Output where
  exitCode : UInt32
  out : String
  err : String
deriving DecidableEq, Repr

namespace Output

/-- Success, with a text printed. -/
def success (out : String) : Output := ⟨0, out, ""⟩

/-- Failure, with a text printed on the error stream. -/
def failure (err : String) : Output := ⟨1, "", err⟩

/-- The output with a text printed before it. -/
def after (output : Output) (out : String) : Output := { output with out := out ++ output.out }

end Output

/-- A line of output. -/
def line (s : String) : String := s ++ "\n"

/-- Lines of output. -/
def lines (ls : List String) : String := String.join (ls.map line)

/-- The number that a text stands for: digits, with a plus sign before them if need be, up to a limit. -/
def parseNumber? (limit : Nat) (s : String) : Option Nat :=
  let digits := match s.toList with
    | '+' :: rest => rest
    | cs => cs
  if digits.isEmpty || !digits.all Char.isDigit then none
  else
    let value := digits.foldl (fun n c => n * 10 + (c.toNat - 0x30)) 0
    if value ≤ limit then some value else none

end Gamebook.Command
