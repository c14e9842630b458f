import Gamebook.Command.Output
import Gamebook.Files.Load
import Gamebook.Playtest
import Gamebook.Validation

/-!
# The playtest on the command line

The arguments name an adventure and settle how it is tested. They are taken from left to right, and
the first that makes no sense ends the matter.
-/

namespace Gamebook.Command.Playtest

open Gamebook.Files

/-- The usage of the playtest. -/
def usage : String :=
  line "Usage: playtest <adventure.ron> [--runs <n>] [--seed <n>] [--max-steps <n>]"

/-- What the arguments have settled so far. -/
structure Arguments where
  path : Option String := none
  settings : PlaytestSettings := {}
deriving DecidableEq, Repr

/-- A number of an option, or the complaint that it is none. -/
def number (limit : Nat) (option value : String) : Except Output Nat :=
  match parseNumber? limit value with
  | some n => .ok n
  | none =>
    .error (.failure (line ("Error: " ++ option ++ " expects a number, got '" ++ value ++ "'")))

/-- The settings with an option set to a value, if there is such an option. -/
def setOption (settings : PlaytestSettings) (option value : String) :
    Option (Except Output PlaytestSettings) :=
  if option = "--runs" then
    some ((number Word.max32 option value).map fun n => { settings with runs := n })
  else if option = "--seed" then
    some ((number Word.max64 option value).map fun n => { settings with seed := n.toUInt64 })
  else if option = "--max-steps" then
    some ((number Word.max32 option value).map fun n => { settings with maxSteps := n })
  else none

/-- An argument that is no option with a value. -/
def plainArgument (arguments : Arguments) (argument : String) : Except Output Arguments :=
  if argument = "--help" ∨ argument = "-h" then .error (.success usage)
  else if !argument.startsWith "--" && arguments.path.isNone then
    .ok { arguments with path := some argument }
  else .error (.failure (line ("Unknown argument: " ++ argument)))

/-- What the arguments settle, or what they come to. -/
def parseArguments (arguments : Arguments) : List String → Except Output Arguments
  | [] => .ok arguments
  | [last] => plainArgument arguments last
  | argument :: value :: rest =>
    match setOption arguments.settings argument value with
    | some (.error output) => .error output
    | some (.ok settings) => parseArguments { arguments with settings } rest
    | none =>
      match plainArgument arguments argument with
      | .error output => .error output
      | .ok arguments => parseArguments arguments (value :: rest)

/-- A line of the list of endings. -/
def endingLine (report : PlaytestReport) (ending : String) (count : Nat) : String :=
  line ("  " ++ Decimal.padRight 20 ending ++ " " ++ Decimal.padLeft 6 ' ' (toString count) ++ " (" ++
    Decimal.fixed 1 (report.percentage count) ++ "%)")

/-- The report of a playtest. -/
def render (a : Adventure) (report : PlaytestReport) : String :=
  let neverVisited := report.neverVisited a
  line "\nEndings reached:" ++
    String.join (report.endings.map fun (ending, count) => endingLine report ending count) ++
    (if 0 < report.unfinished then
      line ("  " ++ Decimal.padRight 20 "(unfinished)" ++ " " ++
        Decimal.padLeft 6 ' ' (toString report.unfinished))
    else "") ++
    line ("Average choices per run: " ++ Decimal.fixed 1 report.averageSteps) ++
    (if neverVisited.isEmpty then ""
    else line ("Passages never visited: " ++
      ", ".intercalate (neverVisited.map fun id => toString id.toNat))) ++
    (if report.neverHeld.isEmpty then ""
    else line ("Items never held: " ++ ", ".intercalate report.neverHeld))

/-- The test of an adventure that can be played. -/
def test (a : Adventure) (settings : PlaytestSettings) : Output :=
  let opening :=
    line ("Playing \"" ++ a.title ++ "\" " ++ toString settings.runs ++ " times (seed " ++
      toString settings.seed.toNat ++ ", at most " ++ toString settings.maxSteps ++ " steps each)...")
  match playtest a settings with
  | .error e => (Output.failure (line ("Error during playtest: " ++ e.message))).after opening
  | .ok report => (Output.success (render a report)).after opening

/-- The playtest, given how to load an adventure. -/
def runWith (load : String → Except LoadError Adventure) (arguments : List String) : Output :=
  match parseArguments {} arguments with
  | .error output => output
  | .ok ⟨none, _⟩ => .failure (line "Error: an adventure file is required" ++ usage)
  | .ok ⟨some path, settings⟩ =>
    match load path with
    | .error e => .failure (line ("Error reading adventure '" ++ path ++ "': " ++ e.message))
    | .ok a =>
      let report := a.validate
      if report.isPlayable then test a settings
      else .failure (line ("'" ++ path ++ "' does not pass validation:") ++ report.render)

/-- The playtest in a tree of files. -/
def run (root : Directory) (arguments : List String) : Output := runWith (load root) arguments

end Gamebook.Command.Playtest
