import Gamebook.Files.Directory
import Gamebook.Files.Path

/-!
# Files in a tree of directories

The operations on a whole tree follow a path from its root, step by step: into a directory or file by
its name, up, or nowhere. A step is possible only from a directory. The place that a path leads to is
the list of names on the way from the root.
-/

namespace Gamebook.Files

/-- One step along a path. -/
inductive Step
  | here
  | up
  | into (name : String)
deriving DecidableEq, Repr

/-- The step for a part of a path. -/
def Step.ofPart (part : List Char) : Step :=
  if part = [] ∨ part = ['.'] then .here
  else if part = ['.', '.'] then .up
  else .into (String.ofList part)

/-- The steps of a path. -/
def steps (path : String) : List Step := (splitAt '/' path.toList).map Step.ofPart

namespace Directory

/-- What stands at a place below a directory. -/
def at? (root : Directory) : (place : List String) → Option Node
  | [] => some (.folder root)
  | name :: rest =>
    match root.get? name with
    | none => none
    | some (.folder entries) => at? entries rest
    | some (.file content) => if rest.isEmpty then some (.file content) else none

/-- Puts something at a place, whose directory exists. -/
def putAt (root : Directory) (node : Node) : (place : List String) → Directory
  | [] => root
  | [name] => root.put name node
  | name :: rest =>
    match root.get? name with
    | some (.folder entries) => root.put name (.folder (putAt entries node rest))
    | _ => root

/-- Puts a directory at a place; at the root it takes the place of the whole tree. -/
def putDirectory (root entries : Directory) (place : List String) : Directory :=
  if place.isEmpty then entries else root.putAt (.folder entries) place

/-- The place that steps lead to from a node. The directories above it are listed from the last back,
each with the name that was taken in it; nothing is known above the first. -/
def followFrom (above : List (String × Directory)) (node : Node) :
    List Step → Except FileFault (List String)
  | [] => .ok (above.map (·.1)).reverse
  | step :: way =>
    match node with
    | .file _ => .error .notDirectory
    | .folder entries =>
      match step with
      | .here => followFrom above node way
      | .up =>
        match above with
        | [] => .error .notFound
        | (_, parent) :: above => followFrom above (.folder parent) way
      | .into name =>
        if isTooLong name then .error .nameTooLong
        else
          match Table.get? name entries with
          | none => .error .notFound
          | some node => followFrom ((name, entries) :: above) node way

/-- The place that steps lead to from the root. -/
def follow (root : Directory) (way : List Step) : Except FileFault (List String) :=
  followFrom [] (.folder root) way

/-- Why no path of this form leads anywhere, if it is so. An absolute path leads out of the tree. -/
def pathFault? (path : String) : Option FileFault :=
  if '\x00' ∈ path.toList then some .zeroInName
  else if isLongPath path then some .nameTooLong
  else if path.isEmpty || path.toList.head? = some '/' then some .notFound
  else none

/-- The place that a path leads to. -/
def resolve (root : Directory) (path : String) : Except FileFault (List String) :=
  match pathFault? path with
  | some fault => .error fault
  | none => root.follow (steps path)

/-- What stands where a path leads to. -/
def find (root : Directory) (path : String) : Except FileFault Node := do
  let place ← root.resolve path
  match root.at? place with
  | some node => return node
  | none => throw .notFound

/-- The text of the file where a path leads to. -/
def readPath (root : Directory) (path : String) : Except FileFault String := do
  match ← root.find path with
  | .file (.text value) => return value
  | .file (.binary _) => throw .notText
  | .folder _ => throw .isDirectory

/-- A path without slashes at its end. -/
def withoutTrailingSlashes (path : String) : String :=
  String.ofList (path.toList.reverse.dropWhile (· = '/')).reverse

/-- Writes a text into the file where a path leads to. The file is made if it does not exist, but not
the directory. -/
def writePath (root : Directory) (path value : String) : Except FileFault Directory := do
  if let some fault := pathFault? path then throw fault
  let bare := withoutTrailingSlashes path
  let place ← root.follow (steps bare).dropLast
  match root.at? place, (steps bare).getLast? with
  | some (.folder entries), some (.into name) =>
    if bare ≠ path then throw .isDirectory
    let entries ← Directory.writeText entries name value
    return root.putDirectory entries place
  | some (.folder _), _ => throw .isDirectory
  | _, _ => throw .notDirectory

/-- Whether a path leads to a directory. -/
def hasFolder (root : Directory) (path : String) : Bool :=
  match root.find path with
  | .ok (.folder _) => true
  | _ => false

/-- Makes a directory where a path leads to. Everything before the last step must exist; a last step
that is no name leads to what exists already. -/
def makeDirectory (root : Directory) (path : String) : Except FileFault Directory := do
  if let some fault := pathFault? path then throw fault
  let way := steps (withoutTrailingSlashes path)
  let place ← root.follow way.dropLast
  match root.at? place, way.getLast? with
  | some (.folder entries), some (.into name) =>
    if isTooLong name then throw .nameTooLong
    if (Table.get? name entries).isSome then throw .alreadyExists
    return root.putAt (.folder []) (place ++ [name])
  | some (.folder _), _ => throw .alreadyExists
  | _, _ => throw .notDirectory

/-- Makes a directory unless it exists. -/
def ensureDirectory (root : Directory) (path : String) : Except FileFault Directory :=
  match root.makeDirectory path with
  | .ok root => .ok root
  | .error fault => if root.hasFolder path then .ok root else .error fault

/-- Makes the first directory of a list unless it exists; where something before it is missing, the
others are made first. What has been made stays, also if the first directory cannot be made then. -/
def ensureFirst (root : Directory) : (paths : List String) → Except FileFault Unit × Directory
  | [] => (.ok (), root)
  | path :: above =>
    match root.ensureDirectory path with
    | .ok root => (.ok (), root)
    | .error .notFound =>
      match ensureFirst root above with
      | (.ok (), root) =>
        match root.ensureDirectory path with
        | .ok root => (.ok (), root)
        | .error fault => (.error fault, root)
      | (.error fault, root) => (.error fault, root)
    | .error fault => (.error fault, root)

/-- Makes a directory and those above it, as far as they do not exist, and answers its place, together
with the tree as it is then. The empty path leads to the root. -/
def provideDirectory (root : Directory) (path : String) :
    Except FileFault (List String) × Directory :=
  if path.isEmpty then (.ok [], root)
  else
    match root.ensureFirst (path :: pathsAbove path) with
    | (.ok (), root) => (root.resolve path, root)
    | (.error fault, root) => (.error fault, root)

/-- The place of a directory that is made with those above it, and the tree with them. -/
def makeDirectories (root : Directory) (path : String) :
    Except FileFault (List String × Directory) :=
  match root.provideDirectory path with
  | (.ok place, root) => .ok (place, root)
  | (.error fault, _) => .error fault

end Directory

end Gamebook.Files
