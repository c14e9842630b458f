import Gamebook.Store.File

/-!
# The names of record files

The name of a record's file is made of letters, digits, hyphens and underscores, and ends in the suffix of
progress files. An id may be any text, with slashes, dots and spaces in it, and every character that might mean
something in a path is replaced. So no directory's path changes what it names: behind any path, the file name of the
whole is this name (`fileName?_join`), and the file is known as a progress file. It is never the name of the file that
the id was taken from (`toList_fileName_stem_ne`), so a record that is kept beside an adventure does not take its place.

Nothing here says that different ids have different names. They may not: ids that differ in replaced characters only
share a file, and what a store makes of that is said of stores.

A file name is told from a path by its last part that counts, so most of the module is about cutting texts at
separators: at all of them, for the parts of a path, and at the last, for an extension. The lemmas come in pairs, one
on a part that holds no separator and one on the text behind a separator, and a name below a path is one of these two
(`toList_join`).
-/

namespace Gamebook

namespace Files

/-! ## Parts of a path

The last part of a path is what tools look at. It is known if what is put at the end holds no slash itself. -/

section Parts

variable {separator : Char} {part : List Char}

theorem splitAt_ne_nil (separator : Char) (xs : List Char) : splitAt separator xs ≠ [] := by
  cases xs with
  | nil => simp [splitAt]
  | cons c xs =>
    unfold splitAt
    split
    · simp
    · split <;> simp

theorem splitAt_of_not_mem (h : separator ∉ part) : splitAt separator part = [part] := by
  induction part with
  | nil => rfl
  | cons c cs ih =>
    simp only [List.mem_cons, not_or] at h
    rw [splitAt, if_neg (Ne.symm h.1), ih h.2]

/-- What comes behind the last separator is the last part. -/
theorem splitAt_append_cons (h : separator ∉ part) (xs : List Char) :
    splitAt separator (xs ++ separator :: part) = splitAt separator xs ++ [part] := by
  induction xs with
  | nil => simp [splitAt, splitAt_of_not_mem h]
  | cons c xs ih =>
    rw [List.cons_append, splitAt, splitAt]
    by_cases hc : c = separator
    · rw [if_pos hc, if_pos hc, ih]
      rfl
    · rw [if_neg hc, if_neg hc, ih]
      -- The text before the separator has a first part, which takes the character up.
      obtain ⟨first, others, hsplit⟩ := List.exists_cons_of_ne_nil (splitAt_ne_nil separator xs)
      rw [hsplit]
      rfl

theorem splitAtLast_ne_none {xs : List Char} (h : separator ∈ xs) :
    splitAtLast separator xs ≠ none := by
  induction xs with
  | nil => cases h
  | cons c xs ih =>
    intro hnone
    rw [splitAtLast] at hnone
    split at hnone
    · cases hnone
    · rename_i hrest
      split at hnone
      · cases hnone
      · rename_i hc
        rcases List.mem_cons.mp h with rfl | hmem
        · exact hc rfl
        · exact ih hmem hrest

/-- Behind the last occurrence of a character there is no other. -/
theorem not_mem_of_splitAtLast {xs before behind : List Char}
    (h : splitAtLast separator xs = some (before, behind)) :
    xs = before ++ separator :: behind ∧ separator ∉ behind := by
  induction xs generalizing before with
  | nil => cases h
  | cons c xs ih =>
    rw [splitAtLast] at h
    rcases hsplit : splitAtLast separator xs with _ | ⟨earlier, later⟩
    · rw [hsplit] at h
      dsimp only at h
      split at h
      · rename_i hc
        cases h
        refine ⟨by rw [hc, List.nil_append], fun hmem => ?_⟩
        exact splitAtLast_ne_none hmem hsplit
      · cases h
    · rw [hsplit] at h
      cases h
      obtain ⟨rfl, hbehind⟩ := ih hsplit
      exact ⟨rfl, hbehind⟩

theorem splitAtLast_of_not_mem (h : separator ∉ part) : splitAtLast separator part = none := by
  induction part with
  | nil => rfl
  | cons c cs ih =>
    simp only [List.mem_cons, not_or] at h
    simp [splitAtLast, ih h.2, Ne.symm h.1]

/-- A text is split before the part that holds no other separator. -/
theorem splitAtLast_append_cons (h : separator ∉ part) (xs : List Char) :
    splitAtLast separator (xs ++ separator :: part) = some (xs, part) := by
  induction xs with
  | nil => simp [splitAtLast, splitAtLast_of_not_mem h]
  | cons c xs ih => rw [List.cons_append, splitAtLast, ih]

/-- One text ends like another that has a last separator too if it does so before and behind that. -/
theorem append_cons_suffix_iff {part' xs ys : List Char} (h : separator ∉ part) (h' : separator ∉ part') :
    xs ++ separator :: part <:+ ys ++ separator :: part' ↔ xs <:+ ys ∧ part = part' := by
  constructor
  · rintro ⟨front, hfront⟩
    have hsplit := congrArg (splitAtLast separator) hfront
    rw [← List.append_assoc, splitAtLast_append_cons h, splitAtLast_append_cons h'] at hsplit
    obtain ⟨hbefore, hbehind⟩ := Prod.mk.inj (Option.some.inj hsplit)
    exact ⟨⟨front, hbefore⟩, hbehind⟩
  · rintro ⟨⟨front, rfl⟩, rfl⟩
    exact ⟨front, by simp⟩

end Parts

/-! ## Names below a path

A path that ends in a slash takes a name as it is, and any other path takes it behind a slash of its own. Either way the
name is what stands behind the last slash. -/

/-- A name stands alone below the empty path. -/
theorem join_empty (name : String) : join "" name = name := by
  simp [join]

/-- Below a path that is not empty, a name stands behind the path's last character if this is a slash, and behind a
slash of its own if it is not. -/
theorem toList_join_of_ne {path : String} (h : path ≠ "") (name : String) :
    (∃ xs, path.toList = xs ++ ['/'] ∧ (join path name).toList = xs ++ '/' :: name.toList) ∨
      (join path name).toList = path.toList ++ '/' :: name.toList := by
  unfold join
  split
  · rename_i hslash
    left
    rw [Bool.or_eq_true, String.isEmpty_iff] at hslash
    obtain ⟨xs, hxs⟩ := List.getLast?_eq_some_iff.mp (of_decide_eq_true (hslash.resolve_left h))
    exact ⟨xs, hxs, by simp [String.toList_append, hxs]⟩
  · right
    simp [String.toList_append]

/-- A name below a path stands alone, or behind a slash. -/
theorem toList_join (path name : String) :
    (join path name).toList = name.toList ∨ ∃ xs, (join path name).toList = xs ++ '/' :: name.toList := by
  by_cases hempty : path = ""
  · left
    rw [hempty, join_empty]
  · right
    rcases toList_join_of_ne hempty name with ⟨xs, -, hjoin⟩ | hjoin
    · exact ⟨xs, hjoin⟩
    · exact ⟨path.toList, hjoin⟩

/-- A part of more than two characters is none of those that do not name anything. -/
theorem plain_of_two_lt_length {part : List Char} (h : 2 < part.length) :
    part ≠ [] ∧ part ≠ ['.'] ∧ part ≠ ['.', '.'] := by
  refine ⟨?_, ?_, ?_⟩ <;> rintro rfl <;> simp at h

/-- A name that is one part of a path, and counts, is the file name of every path to it. -/
theorem fileName?_join_of_plain {name : String} (hslash : '/' ∉ name.toList)
    (hplain : name.toList ≠ [] ∧ name.toList ≠ ['.'] ∧ name.toList ≠ ['.', '.']) (path : String) :
    fileName? (join path name) = some name.toList := by
  obtain ⟨hempty, hdot, hdots⟩ := hplain
  -- The name is the last part, and it counts.
  have hlast : (nameParts (join path name)).getLast? = some name.toList := by
    unfold nameParts
    rcases toList_join path name with halone | ⟨xs, hbehind⟩
    · rw [halone, splitAt_of_not_mem hslash]
      simp [hempty, hdot]
    · rw [hbehind, splitAt_append_cons hslash, List.filter_append]
      simp [hempty, hdot]
  rw [fileName?, hlast]
  simp only [if_neg hdots]

/-- A name that could not be taken for anything else is the file name of every path to it. With more than two
characters it is neither empty nor one of the parts of dots that are no names. -/
theorem fileName?_join {name : String} (hslash : '/' ∉ name.toList) (hplain : 2 < name.toList.length)
    (path : String) : fileName? (join path name) = some name.toList :=
  fileName?_join_of_plain hslash (plain_of_two_lt_length hplain) path

end Files

/-! ## Record files

No character of an id comes through as a slash, so whatever the id is, the name of its file is a single part and ends
as the names of records do. -/

namespace FileStore

open Files

theorem nameChar_ne_slash (c : Char) : nameChar c ≠ '/' := by
  unfold nameChar
  split
  · rename_i h
    rintro rfl
    exact absurd h (by decide)
  · decide

theorem toList_fileName (id : String) :
    (fileName id).toList = id.toList.map nameChar ++ progressSuffix.toList := by
  simp [fileName, String.toList_append]

theorem slash_not_mem_fileName (id : String) : '/' ∉ (fileName id).toList := by
  rw [toList_fileName, List.mem_append, not_or]
  refine ⟨fun hmem => ?_, by decide⟩
  obtain ⟨c, -, hc⟩ := List.mem_map.mp hmem
  exact nameChar_ne_slash c hc

/-- Behind every path, the file of a record is known as a progress file, so a tool that goes over a directory
leaves it alone. -/
theorem isProgressFile_join (path id : String) : isProgressFile (join path (fileName id)) = true := by
  have hlength : 2 < (fileName id).toList.length := by
    have hsuffix : 2 < progressSuffix.toList.length := by decide
    rw [toList_fileName, List.length_append]
    omega
  rw [isProgressFile, fileName?_join (slash_not_mem_fileName id) hlength]
  show progressSuffix.toList.isSuffixOf (fileName id).toList = true
  rw [toList_fileName]
  exact List.isSuffixOf_iff_suffix.mpr (List.suffix_append _ _)

/-- The file of a record does not have the name from which the id was taken by leaving out the extension: if it
did, the extension would have a dot in it. -/
theorem toList_fileName_stem_ne (name : List Char) :
    (fileName (String.ofList (splitName name).1)).toList ≠ name := by
  intro h
  rw [toList_fileName, String.toList_ofList] at h
  have hlonger : ∀ {stem : List Char}, stem.map nameChar ++ progressSuffix.toList ≠ stem := by
    intro stem heq
    have hlength := congrArg List.length heq
    have hsuffix : 0 < progressSuffix.toList.length := by decide
    rw [List.length_append, List.length_map] at hlength
    omega
  unfold splitName at h
  split at h
  · exact hlonger h
  · exact hlonger h
  · rename_i before behind hsplit
    obtain ⟨hname, hdot⟩ := not_mem_of_splitAtLast hsplit
    rw [hname] at h
    obtain ⟨-, hsuffix⟩ := List.append_inj h (List.length_map _)
    refine hdot ?_
    rw [← (List.cons.inj hsuffix).2]
    decide

end FileStore

end Gamebook
