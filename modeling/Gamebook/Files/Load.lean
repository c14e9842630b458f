import Gamebook.Files.Tree

/-!
# Adventures in files

The extension of a file says in which notation its adventure is written; without a known extension it
is RON.
-/

namespace Gamebook.Files

/-- Why a file holds no adventure. -/
inductive LoadError
  | file (fault : FileFault)
  | format (e : FormatError)
deriving DecidableEq, Repr

/-- The wording of what is wrong with a file. -/
def LoadError.message : LoadError → String
  | file fault => "IO error: " ++ fault.message
  | format e => e.message

/-- The notation of the file where a path leads to. -/
def formatOf (path : String) : Format := (formatOf? path).getD .ron

/-- The adventure in the text of a file, or the fault of reading it. -/
def loadText (path : String) : Except FileFault String → Except LoadError Adventure
  | .error fault => .error (.file fault)
  | .ok text => (parse (formatOf path) text).mapError .format

/-- The adventure in the file where a path leads to. -/
def load (root : Directory) (path : String) : Except LoadError Adventure :=
  loadText path (root.readPath path)

/-- Writes an adventure into the file where a path leads to. -/
def save (root : Directory) (path : String) (a : Adventure) : Except FileFault Directory :=
  root.writePath path (serialize (formatOf path) a)

end Gamebook.Files
