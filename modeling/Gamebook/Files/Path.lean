import Gamebook.Format

/-!
# Paths

A path is a text of names with slashes between them. Empty names and single dots do not count when the
file name is looked for, so trailing slashes do not hide it; two dots lead upward and name nothing. The
extension is what follows the last dot of the file name, unless that dot opens the name. A path that is
too long leads nowhere.
-/

namespace Gamebook.Files

/-- The bytes that a path may have. -/
def pathLimit : Nat := 4095

/-- Whether a path has too many bytes. -/
def isLongPath (path : String) : Bool := pathLimit < path.utf8ByteSize

/-- The parts of a text between separators. -/
def splitAt (separator : Char) : List Char → List (List Char)
  | [] => [[]]
  | c :: rest =>
    if c = separator then [] :: splitAt separator rest
    else
      match splitAt separator rest with
      | [] => [[c]]
      | part :: parts => (c :: part) :: parts

/-- What comes before and behind the last occurrence of a character. -/
def splitAtLast (separator : Char) : List Char → Option (List Char × List Char)
  | [] => none
  | c :: rest =>
    match splitAtLast separator rest with
    | some (before, behind) => some (c :: before, behind)
    | none => if c = separator then some ([], rest) else none

/-- The parts of a path that count. -/
def nameParts (path : String) : List (List Char) :=
  (splitAt '/' path.toList).filter fun part => part ≠ [] ∧ part ≠ ['.']

/-- The file name of a path. -/
def fileName? (path : String) : Option (List Char) :=
  match (nameParts path).getLast? with
  | none => none
  | some name => if name = ['.', '.'] then none else some name

/-- A file name without its extension, and the extension. -/
def splitName (name : List Char) : List Char × Option (List Char) :=
  match splitAtLast '.' name with
  | none => (name, none)
  | some ([], _) => (name, none)
  | some (before, behind) => (before, some behind)

/-- The extension of a path. -/
def extension? (path : String) : Option String :=
  (fileName? path).bind fun name => (splitName name).2.map String.ofList

/-- The file name of a path without its extension. -/
def stem? (path : String) : Option String :=
  (fileName? path).map fun name => String.ofList (splitName name).1

/-- The notation that the extension of a path stands for. -/
def formatOf? (path : String) : Option Format := (extension? path).bind Format.ofExtension?

/-- How the names of files with progress records end. -/
def progressSuffix : String := ".progress.json"

/-- Whether a path names a file with a progress record. Such files are JSON, but hold no adventure. -/
def isProgressFile (path : String) : Bool :=
  match fileName? path with
  | none => false
  | some name => progressSuffix.toList.isSuffixOf name

/-- A path and a name below it. -/
def join (path name : String) : String :=
  if path.isEmpty || path.toList.getLast? = some '/' then path ++ name else path ++ "/" ++ name

/-- The paths above a path, from the nearest on: those of its proper prefixes that end in a part that
counts. -/
def pathsAbove (path : String) : List String :=
  let parts := nameParts path
  let opening := if path.toList.head? = some '/' then ['/'] else []
  ((List.range parts.length).filter (0 < ·)).reverse.map fun count =>
    String.ofList (opening ++ ['/'].intercalate (parts.take count))

end Gamebook.Files
