import Gamebook.Files.Directory
import Gamebook.Files.Path
import Gamebook.ProgressRecord
import Gamebook.Store

/-!
# A store in files

Each record is a file of its own in one directory. The name of the file comes from the id of the
adventure, with an underscore for every character but letters, digits, hyphens and underscores of the
seven-bit range; so two ids may share a file, and a record that belongs to another adventure is refused
when it is loaded.
-/

namespace Gamebook

/-- Progress records in the files of a directory. -/
structure FileStore where
  directory : Files.Directory
  /-- The bytes that the path of the directory leaves for the name of a file. -/
  room : Nat := Files.nameLimit

namespace FileStore

/-- The character that stands for a character of an id in a file name. -/
def nameChar (c : Char) : Char := if c.isAlphanum || c == '-' || c == '_' then c else '_'

/-- The file name of the record of an adventure. -/
def fileName (adventureId : String) : String :=
  String.ofList (adventureId.toList.map nameChar) ++ Files.progressSuffix

/-- The store in the directory where a path leads to. -/
def ofPath (path : String) (directory : Files.Directory) : FileStore :=
  { directory, room := Files.pathLimit - (Files.join path "").utf8ByteSize }

/-- The file of the record of an adventure. -/
def file (store : FileStore) (adventureId : String) : Except Files.FileFault String :=
  let name := fileName adventureId
  if store.room < name.utf8ByteSize then .error .nameTooLong else .ok name

/-- The record of an adventure, if it has a file. -/
def load (store : FileStore) (adventureId : String) : Except StoreError (Option Progress) :=
  match store.file adventureId >>= store.directory.readText with
  | .error .notFound => .ok none
  | .error fault => .error (.file fault)
  | .ok text =>
    match Progress.parse text with
    | .error refusal => .error (.record refusal)
    | .ok progress =>
      if progress.adventureId = adventureId then .ok (some progress)
      else .error (.foreign adventureId progress.adventureId)

/-- The directory with the file of a record written. -/
def save (store : FileStore) (progress : Progress) : Except StoreError FileStore :=
  match store.file progress.adventureId >>= (store.directory.writeText · progress.render) with
  | .ok directory => .ok { store with directory }
  | .error fault => .error (.file fault)

/-- The directory without the file of an adventure. -/
def clear (store : FileStore) (adventureId : String) : Except StoreError FileStore :=
  match store.file adventureId >>= store.directory.removeFile with
  | .ok directory => .ok { store with directory }
  | .error .notFound => .ok store
  | .error fault => .error (.file fault)

/-- The outcome of a call that changes the store only if it succeeds. -/
def outcome (store : FileStore) : Except StoreError FileStore → Except StoreError Unit × FileStore
  | .ok changed => (.ok (), changed)
  | .error e => (.error e, store)

instance : ProgressStore FileStore where
  load store id := (store.load id, store)
  save store progress := store.outcome (store.save progress)
  clear store id := store.outcome (store.clear id)

end FileStore

end Gamebook
