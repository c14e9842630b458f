import Gamebook.Command.Output
import Gamebook.Files.Load
import Gamebook.Session
import Gamebook.Store.File
import Gamebook.Text.LowerCase

/-!
# Playing on the command line

A shell reads an adventure with a reader: it shows the passage on screen, takes a command from each
line, and keeps the position in a directory of progress records. `Shell.step` is the whole of it: from
the shell and a line it makes what is printed and the next shell, or none when the reader leaves.
`run` plays a whole input at once in a tree of files; the program proper feeds the shell line by line.
-/

namespace Gamebook.Command.Play

open Gamebook.Files

/-- The directory of progress records unless another is named. -/
def defaultSaveDirectory : String := ".adventure-saves"

/-- The usage of the shell. -/
def usage : String := lines [
  "Usage: play <adventure.ron> [--save-dir <dir>] [--debug] [--fresh]",
  "  --save-dir <dir>  where progress is kept (default: $ADVENTURE_SAVE_DIR or " ++
    defaultSaveDirectory ++ ")",
  "  --debug           show target passage ids on choices",
  "  --fresh           discard saved progress before starting"]

/-- The commands of the shell. -/
def help : String := lines [
  "Commands:",
  "  <n>        take choice number n",
  "  start      leave the introduction",
  "  restart    forget progress and begin again",
  "  inventory  list carried items",
  "  debug      toggle target ids on choice labels",
  "  help       this list",
  "  quit       exit"]

/-! ## Arguments -/

/-- What the arguments settle. -/
structure Arguments where
  path : String
  saveDirectory : String
  showTargets : Bool
  fresh : Bool
deriving DecidableEq, Repr

/-- The options behind the path, or the first that is not known. -/
def parseOptions (arguments : Arguments) : List String → Except String Arguments
  | [] => .ok arguments
  | "--save-dir" :: directory :: rest =>
    parseOptions { arguments with saveDirectory := directory } rest
  | "--debug" :: rest => parseOptions { arguments with showTargets := true } rest
  | "--fresh" :: rest => parseOptions { arguments with fresh := true } rest
  | unknown :: _ => .error unknown

/-- What the arguments settle, or what they come to. The environment may name the directory of progress
records. -/
def parseArguments (environment : Option String) : List String → Except Output Arguments
  | [] => .error (.success usage)
  | path :: options =>
    if path = "--help" ∨ path = "-h" then .error (.success usage)
    else
      match parseOptions ⟨path, environment.getD defaultSaveDirectory, false, false⟩ options with
      | .ok arguments => .ok arguments
      | .error unknown =>
        .error ((Output.failure (line ("Unknown argument: " ++ unknown))).after usage)

/-- The id under which progress in the adventure of a file is kept. -/
def adventureIdOf (path : String) : String := (stem? path).getD "adventure"

/-! ## The shell -/

/-- A reader at an adventure. -/
abbrev Shell := Session FileStore

namespace Shell

/-- The paragraphs of the passage on screen, each with an empty line behind it. -/
def passageText (shell : Shell) : String :=
  match shell.passage? with
  | some passage => String.join (passage.paragraphs.map fun paragraph => line (line paragraph))
  | none => ""

/-- What is on screen. -/
def render (shell : Shell) : String :=
  match shell.snapshot.state with
  | .introduction =>
    String.join (shell.adventure.introduction.map fun paragraph => line (line paragraph)) ++
      line "(type 'start' to begin)"
  | .inPassage _ =>
    shell.passageText ++
      String.join (shell.labels.zipIdx.map fun (label, index) =>
        line ("  " ++ toString (index + 1) ++ ". " ++ label))
  | .ended _ endingType =>
    shell.passageText ++ line ("*** The End (" ++ endingType ++ ") ***") ++
      line ("Inventory: " ++ shell.inventorySummary) ++ line "(type 'restart' to play again)"

/-- Warnings in parentheses. -/
def renderWarnings (warnings : List String) : String :=
  String.join (warnings.map fun warning => line ("(warning: " ++ warning ++ ")"))

/-- What is printed when the shell opens. -/
def greeting (shell : Shell) : String :=
  line ("=== " ++ shell.adventure.title ++ " ===\n") ++ renderWarnings shell.warnings ++ shell.render

/-- An action, and what is printed after it: new warnings and what is on screen, or why the action is
not allowed. -/
def act (shell : Shell) (action : Action) : String × Shell :=
  match Session.act shell action with
  | (.ok (), next) =>
    (renderWarnings (next.warnings.drop shell.warnings.length) ++ render next, next)
  | (.error e, next) => (line ("Cannot do that: " ++ e.message), next)

/-- What a reader can ask for. -/
inductive Request
  | nothing
  | quit
  | help
  | inventory
  | toggleTargets
  | act (action : Action)
  | noSuchChoice
  | unknown (command : String)
deriving DecidableEq, Repr

/-- The request of a line, in capital or small letters, when there are so many choices. -/
def Request.ofLine (choiceCount : Nat) (input : String) : Request :=
  let input := Text.trim input
  let command := Text.lower input
  if input.isEmpty then .nothing
  else if command ∈ ["quit", "exit", "q"] then .quit
  else if command ∈ ["help", "h", "?"] then .help
  else if command ∈ ["inventory", "inv", "i"] then .inventory
  else if command = "debug" then .toggleTargets
  else if command ∈ ["start", "s"] then .act .start
  else if command ∈ ["restart", "r"] then .act .restart
  else
    match parseNumber? Word.max64 command with
    | none => .unknown command
    | some n => if 1 ≤ n ∧ n ≤ choiceCount then .act (.choose (n - 1)) else .noSuchChoice

/-- What is printed for a line, and the next shell, unless the reader leaves. -/
def step (shell : Shell) (input : String) : String × Option Shell :=
  match Request.ofLine shell.labels.length input with
  | .nothing => ("", some shell)
  | .quit => (line "Goodbye.", none)
  | .help => (Play.help, some shell)
  | .inventory => (line ("Inventory: " ++ shell.inventorySummary), some shell)
  | .toggleTargets =>
    let shown := !shell.config.showTargets
    (line ("Debug mode " ++ (if shown then "on." else "off.")), some (shell.setShowTargets shown))
  | .noSuchChoice => (line "No such choice.", some shell)
  | .unknown command => (line ("Unknown command: " ++ command ++ " (type 'help')"), some shell)
  | .act action =>
    let (out, next) := act shell action
    (out, some next)

/-- What stands before each line of input. -/
def prompt : String := "> "

/-- What is printed for a number of lines, and the last shell. At the end of the input the reader
leaves. -/
def runLines (shell : Shell) : List String → String × Shell
  | [] => (prompt, shell)
  | input :: rest =>
    match step shell input with
    | (out, none) => (prompt ++ out, shell)
    | (out, some next) =>
      let (others, last) := runLines next rest
      (prompt ++ out ++ others, last)

end Shell

/-- The lines of an input. The last one need not be ended. -/
def inputLines (input : String) : List String :=
  let parts := (splitAt '\n' input.toList).map String.ofList
  if parts.getLast? = some "" then parts.dropLast else parts

/-! ## Opening the shell -/

/-- What came of opening the shell: the shell, or nothing but output, and the directory of progress
records in either case. -/
structure Opened where
  /-- What is printed on the error stream. -/
  err : String
  /-- The directory of progress records. -/
  directory : Directory
  /-- The shell, if the adventure can be played. -/
  shell : Option Shell

/-- Opens the shell on an adventure, with the progress records of a directory. -/
def openShell (arguments : Arguments) (adventure : Adventure) (directory : Directory) : Opened :=
  let adventureId := adventureIdOf arguments.path
  let store := FileStore.ofPath arguments.saveDirectory directory
  let (warning, store) :=
    if arguments.fresh then
      match store.clear adventureId with
      | .ok store => ("", store)
      | .error e => (line ("WARNING: could not clear saved progress: " ++ e.message), store)
    else ("", store)
  match Session.openOn adventure adventureId store { showTargets := arguments.showTargets } with
  | .ok shell => ⟨warning, shell.store.directory, some shell⟩
  | .error report =>
    ⟨warning ++ line ("ERROR: '" ++ arguments.path ++ "' is not playable:") ++ report.render,
      store.directory, none⟩

/-- The complaint that an adventure cannot be loaded. -/
def loadFailure (path : String) (e : LoadError) : Output :=
  .failure (line ("ERROR: Failed to load '" ++ path ++ "': " ++ e.message))

/-- The complaint that there is no directory for progress records. -/
def saveDirectoryFailure (path : String) (fault : FileFault) : Output :=
  .failure (line ("ERROR: Cannot use save directory '" ++ path ++ "': " ++
    (StoreError.file fault).message))

/-- Plays a whole input in a tree of files. -/
def run (root : Directory) (environment : Option String) (arguments : List String) (input : String) :
    Output × Directory :=
  match parseArguments environment arguments with
  | .error output => (output, root)
  | .ok arguments =>
    match load root arguments.path with
    | .error e => (loadFailure arguments.path e, root)
    | .ok adventure =>
      match root.provideDirectory arguments.saveDirectory with
      | (.error fault, root) => (saveDirectoryFailure arguments.saveDirectory fault, root)
      | (.ok place, root) =>
        match root.at? place with
        | some (.folder records) =>
          let opened := openShell arguments adventure records
          match opened.shell with
          | none => (⟨1, "", opened.err⟩, root.putDirectory opened.directory place)
          | some shell =>
            let (out, last) := shell.runLines (inputLines input)
            (⟨0, shell.greeting ++ out, opened.err⟩, root.putDirectory last.store.directory place)
        | _ => (saveDirectoryFailure arguments.saveDirectory .notDirectory, root)

end Gamebook.Command.Play
