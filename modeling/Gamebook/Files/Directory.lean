import Gamebook.Files.Fault
import Gamebook.Table

/-!
# Files in a directory

A directory lists files and directories under their names. Here are the operations on one directory,
which look at a name in it and at nothing else.
-/

namespace Gamebook.Files

/-- What a file holds: text, or bytes that are no text. -/
inductive Content
  | text (value : String)
  | binary (bytes : List UInt8)
deriving DecidableEq, Repr

/-- What a file of some bytes holds. -/
def Content.ofBytes (bytes : ByteArray) : Content :=
  match String.fromUTF8? bytes with
  | some value => .text value
  | none => .binary bytes.toList

/-- What stands under a name. -/
inductive Node
  | file (content : Content)
  | folder (entries : List (String × Node))

/-- Files and directories under their names. -/
abbrev Directory := Table Node

/-- The bytes that a name may have. -/
def nameLimit : Nat := 255

/-- Whether a name has too many bytes. -/
def isTooLong (name : String) : Bool := nameLimit < name.utf8ByteSize

/-- Whether a file stands under a name. -/
def Node.isFile : Node → Bool
  | .file _ => true
  | .folder _ => false

namespace Directory

/-- The names of the files, without those of directories, in order. -/
def fileNames (directory : Directory) : List String :=
  Table.names (directory.filter fun (_, node) => node.isFile)

/-- The text of a file. -/
def readText (directory : Directory) (name : String) : Except FileFault String :=
  if isTooLong name then .error .nameTooLong
  else
    match directory.get? name with
    | none => .error .notFound
    | some (.folder _) => .error .isDirectory
    | some (.file (.binary _)) => .error .notText
    | some (.file (.text value)) => .ok value

/-- Writes a text into a file, which is made if it does not exist. -/
def writeText (directory : Directory) (name value : String) : Except FileFault Directory :=
  if isTooLong name then .error .nameTooLong
  else
    match directory.get? name with
    | some (.folder _) => .error .isDirectory
    | _ => .ok (directory.put name (.file (.text value)))

/-- Removes a file. -/
def removeFile (directory : Directory) (name : String) : Except FileFault Directory :=
  if isTooLong name then .error .nameTooLong
  else
    match directory.get? name with
    | none => .error .notFound
    | some (.folder _) => .error .isDirectory
    | some (.file _) => .ok (directory.erase name)

end Directory

end Gamebook.Files
