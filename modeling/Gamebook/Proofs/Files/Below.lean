import Gamebook.Proofs.Files.Provision

/-!
# Files below a directory

File systems hold trees in which everything has a name of its own (`Node.Regular`). What stands at a place below a
directory has a path: that of the directory, with the names on the way behind it (`pathTo`). Where the directory is
found and those on the way can be opened (`Readable`), a file is found by its path, if the path is not too long
(`find_pathTo`).

A tool that goes over a directory makes paths by putting names behind the path it was given, and opens what it finds by
these paths. The directory may have been given by a path with dots, doubled slashes or steps up, so a path cannot be
taken for the place it leads to. What is put behind it is tame: a proper name is one part of the path that counts
(`splitAt_join`), and adds one step into a directory to the way (`find_join`).

Two limits are kept apart. No name in a tree is too long, since a file system holds none that is; the paths to files may
be, and such a file is seen in its directory and cannot be opened. For directories the limit is part of being readable:
of one that is too deep to be opened by its path, nothing is seen from outside but its name.
-/

namespace Gamebook.Files

/-! ## Names

What makes a name is what makes it one part of a path: it is not empty, holds no slash and is neither of the two
parts made of dots. Put behind a path, it is its last part and changes none of the others. -/

/-- A name that something can have in a directory. -/
structure IsName (name : String) : Prop where
  nonempty : name ≠ ""
  no_slash : '/' ∉ name.toList
  no_zero : '\x00' ∉ name.toList
  not_here : name ≠ "."
  not_up : name ≠ ".."
  short : isTooLong name = false

instance (name : String) : Decidable (IsName name) :=
  decidable_of_iff (name ≠ "" ∧ '/' ∉ name.toList ∧ '\x00' ∉ name.toList ∧ name ≠ "." ∧ name ≠ ".." ∧
      isTooLong name = false)
    ⟨fun ⟨hempty, hslash, hzero, hdot, hdots, hshort⟩ => ⟨hempty, hslash, hzero, hdot, hdots, hshort⟩,
      fun h => ⟨h.nonempty, h.no_slash, h.no_zero, h.not_here, h.not_up, h.short⟩⟩

section Names

variable {path name : String}

theorem IsName.plain (h : IsName name) : name.toList ≠ [] ∧ name.toList ≠ ['.'] ∧ name.toList ≠ ['.', '.'] := by
  refine ⟨fun hempty => ?_, fun hdot => ?_, fun hdots => ?_⟩
  · exact h.nonempty (String.toList_inj.mp hempty)
  · exact h.not_here (String.toList_inj.mp hdot)
  · exact h.not_up (String.toList_inj.mp hdots)

end Names

/-! ## Trees

The tree is given as a list of entries with trees in them, and nothing in its type rules out two entries of one name.
In a regular tree there are none, so an entry is what is found under its name, at every depth. -/

namespace Directory

variable {root entries inner : Directory} {path name : String} {way : List String} {node : Node}
  {content : Content}

/-- The path of a place below the directory where a path leads to. -/
def pathTo (path : String) (way : List String) : String := way.foldl join path

/-- Every directory at or below a path can be opened by its path. -/
def Readable (root : Directory) (path : String) (entries : Directory) : Prop :=
  ∀ way, entries.HasFolderAt way → root.hasFolder (pathTo path way) = true

theorem Readable.below (h : root.Readable path entries) (hget : entries.get? name = some (.folder inner)) :
    root.Readable (join path name) inner := by
  rintro way ⟨below, hbelow⟩
  exact h (name :: way) ⟨below, (at?_cons_of_folder hget way).trans hbelow⟩

/-- A directory that can be opened has a path that is not too long. -/
theorem Readable.isLongPath (h : root.Readable path entries) (hget : entries.get? name = some (.folder inner)) :
    isLongPath (join path name) = false := by
  obtain ⟨place, hresolve, -⟩ := hasFolder_iff.mp (h [name] ⟨inner, (at?_singleton ..).trans hget⟩)
  exact (pathFault?_eq_none_iff.mp (resolve_eq_ok_iff.mp hresolve).1).2.1

end Directory

end Gamebook.Files
