import Gamebook.Command.Output
import Gamebook.Files.Load
import Gamebook.Validation

/-!
# The linter

The linter reads an adventure, or all adventures below a directory, and prints the findings of the
checks. Below a directory it takes every file whose extension stands for a notation, except those with
progress records, in the order of their paths. It succeeds when no adventure has an error.
-/

namespace Gamebook.Command.Lint

open Gamebook.Files

/-- The usage of the linter. -/
def usage : String := line "Usage: adventure_linter <adventure_file_or_dir>"

/-- Whether the linter takes a file of a directory, by its name. -/
def takes (name : String) : Bool := (formatOf? name).isSome && !isProgressFile name

/-- The text of a file that exists. -/
def textOf (path : String) : Content → Except FileFault String
  | .text value => if isLongPath path then .error .nameTooLong else .ok value
  | .binary _ => .error (if isLongPath path then .nameTooLong else .notText)

/-- A file to be examined. -/
structure Found where
  /-- The names on the way to it. -/
  way : List String
  /-- How it is shown. -/
  path : String
  text : Except FileFault String

mutual

/-- The files that the linter takes under a name of a directory and below it. Nothing is known of what
stands at the end of a path that is too long, except its name. -/
def filesIn (way : List String) (path name : String) : Node → List Found
  | .file content =>
    if takes name then [⟨way ++ [name], join path name, textOf (join path name) content⟩] else []
  | .folder entries =>
    if isLongPath (join path name) then
      if takes name then [⟨way ++ [name], join path name, .error .nameTooLong⟩] else []
    else filesBelow (way ++ [name]) (join path name) entries

/-- The files that the linter takes in a directory and below it. -/
def filesBelow (way : List String) (path : String) : List (String × Node) → List Found
  | [] => []
  | (name, node) :: rest => filesIn way path name node ++ filesBelow way path rest

end

/-- The order of paths: name by name. -/
def wayLE : (x y : List String) → Bool
  | [], _ => true
  | _ :: _, [] => false
  | x :: xs, y :: ys => x < y || (x == y && wayLE xs ys)

/-- The files to be examined, in the order of their paths. -/
def examined (root : String) : Node → List Found
  | .file content => [⟨[], root, textOf root content⟩]
  | .folder entries => (filesBelow [] root entries).mergeSort fun x y => wayLE x.way y.way

/-- What the examination of one file comes to. -/
structure Verdict where
  errors : Nat
  warnings : Nat
  out : String
deriving DecidableEq, Repr

/-- The examination of an adventure. Warnings come first, so that errors are nearest to the summary. -/
def lint (a : Adventure) : Verdict :=
  let report := a.validate
  let shown (finding : Finding) : String :=
    line (finding.severity.label ++ ": " ++ finding.message)
  { errors := report.errors.length
    warnings := report.warnings.length
    out :=
      line ("\"" ++ a.title ++ "\": " ++ toString a.passages.length ++ " passages, " ++
        toString a.items.length ++ " items, " ++ toString a.endings.length ++ " endings") ++
      (if report.isEmpty then line "All checks passed!" else "") ++
      String.join (report.warnings.map shown) ++ String.join (report.errors.map shown) }

/-- The examination of a file. -/
def examine (found : Found) : Verdict :=
  let verdict := match loadText found.path found.text with
    | .ok a => lint a
    | .error e => ⟨1, 0, line ("ERROR: " ++ e.message)⟩
  { verdict with out := line ("\n=== " ++ found.path ++ " ===\n") ++ verdict.out }

/-- The examination of some files and the summary. -/
def summarize (files : List Found) : Output :=
  let verdicts := files.map examine
  let errors := verdicts.foldl (fun count verdict => count + verdict.errors) 0
  let warnings := verdicts.foldl (fun count verdict => count + verdict.warnings) 0
  { exitCode := if errors = 0 then 0 else 1
    out := String.join (verdicts.map (·.out)) ++
      line ("\nSummary: " ++ toString files.length ++ " files, " ++ toString errors ++ " errors, " ++
        toString warnings ++ " warnings")
    err := "" }

/-- The linter, given what stands where a path leads to. -/
def runWith (find : String → Option Node) : List String → Output
  | [] => .success usage
  | root :: _ =>
    if root = "--help" ∨ root = "-h" then .success usage
    else
      match find root with
      | some node => summarize (examined root node)
      | none => .failure (line ("ERROR: Path '" ++ root ++ "' does not exist"))

/-- The linter in a tree of files. -/
def run (root : Directory) (arguments : List String) : Output :=
  runWith (fun path => (root.find path).toOption) arguments

end Gamebook.Command.Lint
