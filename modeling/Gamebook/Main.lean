import Gamebook.Command.Lint
import Gamebook.Command.Play
import Gamebook.Command.Playtest

/-!
# The program

Three commands share one program: `play`, `adventure_linter` and `playtest`. Everything they decide is
decided by the definitions of `Gamebook.Command`; here files are read and written, and lines are taken
and printed. Of the directory of progress records only the file of the adventure's own record is ever
touched.
-/

namespace Gamebook.Program

open Gamebook.Command
open Gamebook.Files

/-! ## Files -/

/-- Whether an error has a number, which may be counted below zero. -/
def hasNumber (code number : UInt32) : Bool := code == number || code + number == 0

/-- The fault that an error of the system stands for. -/
def faultOf : IO.Error → FileFault
  | .noFileOrDirectory .. => .notFound
  | .alreadyExists .. => .alreadyExists
  | .inappropriateType _ code reason =>
    if hasNumber code 20 then .notDirectory
    else if hasNumber code 21 then .isDirectory
    else .other reason
  | .invalidArgument _ code reason => if hasNumber code 36 then .nameTooLong else .other reason
  | e => .other (toString e)

/-- Runs an action on files, and answers what went wrong. -/
def attempt {α : Type} (action : IO α) : IO (Except FileFault α) := do
  try
    return .ok (← action)
  catch e =>
    return .error (faultOf e)

/-- The names in the directory where a path leads to. -/
def readNames (path : String) : IO (Except FileFault (List String)) := attempt do
  let entries ← ((← IO.currentDir) / path).readDir
  return entries.toList.map (·.fileName)

/-- Whether a path leads to a directory. -/
def isDirectory (path : String) : IO Bool := do
  return (← readNames path).toOption.isSome

/-- The content of a file. -/
def readContent (path : String) : IO (Except FileFault Content) := do
  if ← isDirectory path then return .error .isDirectory
  match ← attempt (IO.FS.readBinFile path) with
  | .ok bytes => return .ok (.ofBytes bytes)
  | .error fault => return .error fault

/-- The text of a file. -/
def readText (path : String) : IO (Except FileFault String) := do
  match ← readContent path with
  | .ok (.text value) => return .ok value
  | .ok (.binary _) => return .error .notText
  | .error fault => return .error fault

/-- Makes a directory unless it exists. -/
def ensureDirectory (path : String) : IO (Except FileFault Unit) := do
  match ← attempt (IO.FS.createDir path) with
  | .ok () => return .ok ()
  | .error fault => return if ← isDirectory path then .ok () else .error fault

/-- Makes the first directory of a list unless it exists; where something before it is missing, the
others are made first. -/
def ensureFirst : (paths : List String) → IO (Except FileFault Unit)
  | [] => return .ok ()
  | path :: above => do
    match ← ensureDirectory path with
    | .error .notFound =>
      match ← ensureFirst above with
      | .ok () => ensureDirectory path
      | .error fault => return .error fault
    | result => return result

/-- Makes a directory and those above it, as far as they do not exist. -/
def makeDirectories (path : String) : IO (Except FileFault Unit) :=
  if path.isEmpty then return .ok () else ensureFirst (path :: pathsAbove path)

/-- What stands where a path leads to, with everything below it that the linter takes. -/
partial def readNode (path : String) : IO (Option Node) := do
  match ← readNames path with
  | .ok names => do
    let mut found : Directory := []
    for name in names do
      let below := join path name
      let isFolder ← isDirectory below
      if isFolder || Lint.takes name then
        match ← readNode below with
        | some node => found := found.put name node
        | none => pure ()
    return some (.folder found)
  | .error _ =>
    match ← readContent path with
    | .ok content => return some (.file content)
    | .error _ => return none

/-! ## Commands -/

/-- Prints what a command left behind and answers its exit code. -/
def finish (output : Output) : IO UInt32 := do
  IO.print output.out
  IO.eprint output.err
  return output.exitCode

/-- The linter. -/
def lint (arguments : List String) : IO UInt32 := do
  let node ← match arguments with
    | path :: _ => readNode path
    | [] => pure none
  finish (Lint.runWith (fun _ => node) arguments)

/-- The playtest. -/
def playtest (arguments : List String) : IO UInt32 := do
  let loaded ← match Playtest.parseArguments {} arguments with
    | .ok ⟨some path, _⟩ => do pure (loadText path (← readText path))
    | _ => pure (.error (.file .notFound))
  finish (Playtest.runWith (fun _ => loaded) arguments)

/-- Brings the file of a record up to date. -/
def sync (path name : String) (before after : Directory) : IO Unit := do
  let result ← attempt do
    match Table.get? name before, Table.get? name after with
    | some (.file (.text old)), some (.file (.text new)) =>
      if old ≠ new then IO.FS.writeFile path new
    | _, some (.file (.text new)) => IO.FS.writeFile path new
    | some (.file _), none => IO.FS.removeFile path
    | _, _ => pure ()
  match result with
  | .ok () => pure ()
  | .error fault =>
    IO.print (Play.Shell.renderWarnings
      ["could not save progress: " ++ (StoreError.file fault).message])

/-- A line of input, or nothing at its end or where it is no text. -/
def readLine (input : IO.FS.Stream) : IO String := do
  match ← attempt input.getLine with
  | .ok line => return line
  | .error _ => return ""

/-- Feeds the shell line by line. -/
partial def serve (path name : String) (input : IO.FS.Stream) (shell : Play.Shell) : IO Unit := do
  IO.print Play.Shell.prompt
  (← IO.getStdout).flush
  let line ← readLine input
  if line.isEmpty then return
  let (out, next) := shell.step line
  IO.print out
  match next with
  | none => return
  | some next => do
    sync path name shell.store.directory next.store.directory
    serve path name input next

/-- The directory of progress records, as far as one record is concerned. -/
def readRecord (path name : String) : IO Directory := do
  match ← readContent path with
  | .ok content => return [(name, .file content)]
  | .error .isDirectory => return [(name, .folder [])]
  | .error _ => return []

/-- The shell. -/
def play (arguments : List String) : IO UInt32 := do
  match Play.parseArguments (← IO.getEnv "ADVENTURE_SAVE_DIR") arguments with
  | .error output => finish output
  | .ok arguments =>
    match loadText arguments.path (← readText arguments.path) with
    | .error e => finish (Play.loadFailure arguments.path e)
    | .ok adventure =>
      match ← makeDirectories arguments.saveDirectory with
      | .error fault => finish (Play.saveDirectoryFailure arguments.saveDirectory fault)
      | .ok () => do
        let name := FileStore.fileName (Play.adventureIdOf arguments.path)
        let path := join arguments.saveDirectory name
        let records ← readRecord path name
        let opened := Play.openShell arguments adventure records
        IO.eprint opened.err
        sync path name records opened.directory
        match opened.shell with
        | none => return 1
        | some shell => do
          IO.print shell.greeting
          serve path name (← IO.getStdin) shell
          return 0

/-- How the program is called. -/
def usage : String := line "Usage: gamebook (play | adventure_linter | playtest) ..."

end Gamebook.Program

open Gamebook.Program in
/-- Runs the command that the first argument names. -/
def main (arguments : List String) : IO UInt32 := do
  match arguments with
  | "play" :: rest => play rest
  | "adventure_linter" :: rest => lint rest
  | "playtest" :: rest => playtest rest
  | _ => do
    IO.eprint usage
    return 1
