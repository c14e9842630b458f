import Gamebook.Command.Lint
import Gamebook.Proofs.ExportNames
import Gamebook.Proofs.Validation

/-!
# Exported files beside records

The linter tells adventures from records by their names: one that ends in `.progress.json` is that of a record.
All records have such a name (`FileStore.isProgressFile_join`), so none is taken for an adventure. An exported
file has one if it is JSON and the title ends in `.progress`. The linter then takes it for a record and leaves
it out, without a word (`exported_taken_unless_progress`).

Titles are changed on the way to a file name, and this could make a name end like that of a record or keep it from doing
so. It does neither. Trimming is done before, and of the characters that are replaced none occurs in the mark, nor does
the underscore that takes their place; so a file name ends in the mark if, and only if, the trimmed title does
(`mark_suffix_fileStem`). The title that is left when nothing is left does not end in it either.

The statement is an equivalence and has no conditions, for every title, notation and directory. What the linter passes
over is a matter of the title alone; the adventure may be playable or not.
-/

namespace Gamebook

open Files Command

/-- What stands before the extension in the names of records. -/
def progressMark : List Char := ".progress".toList

theorem progressSuffix_eq : progressSuffix.toList = progressMark ++ '.' :: Format.json.extension.toList := by
  decide

/-- A file name ends in the mark of records if, and only if, the trimmed title does. No character is turned into one
of the mark, and none of the mark into another. -/
theorem mark_suffix_fileStem (title : String) :
    progressMark <:+ (fileStem title).toList ↔ progressMark <:+ (Text.trim title).toList := by
  rw [toList_fileStem, Text.toList_trim]
  by_cases hblank : Text.trimChars title.toList = []
  · rw [if_pos hblank, hblank]
    decide
  · rw [if_neg hblank, List.suffix_map_iff]
    constructor
    · rintro ⟨cs, hcs, hmark⟩
      -- The mark holds no underscore, so each of its characters stands in the title.
      have hsame : cs = progressMark := eq_of_map_fileNameChar hmark.symm (by decide)
      rwa [hsame] at hcs
    · intro hmark
      exact ⟨progressMark, hmark, by decide⟩

/-- What is known as a progress file is not taken. -/
theorem takes_of_isProgressFile {name : String} (h : isProgressFile name = true) : Lint.takes name = false := by
  rw [Lint.takes, h, Bool.not_true, Bool.and_false]

variable (a : Adventure) (format : Format) (path id : String)

/-- An exported file is known as a progress file if it is JSON and the title ends in the mark of records. -/
theorem isProgressFile_join_exportFile :
    isProgressFile (join path (exportFile a format).fileName) = true ↔
      format = .json ∧ progressMark <:+ (Text.trim a.title).toList := by
  have hname := fileName?_join (slash_not_mem_exportFile a format) (two_lt_length_exportFile a format) path
  have hjson : Format.json.extension.toList = format.extension.toList ↔ format = .json := by
    cases format <;> decide
  rw [isProgressFile, hname, List.isSuffixOf_iff_suffix, toList_fileName_exportFile, progressSuffix_eq,
    append_cons_suffix_iff (dot_not_mem_extension _) (dot_not_mem_extension _), mark_suffix_fileStem, hjson,
    and_comm]

theorem isProgressFile_exportFile :
    isProgressFile (exportFile a format).fileName = true ↔
      format = .json ∧ progressMark <:+ (Text.trim a.title).toList := by
  rw [← isProgressFile_join_exportFile a format "", join_empty]

/-- **What the linter takes.** In every directory the notation of an exported file is told from its name. It is
taken for an adventure unless it is JSON and the title ends in `.progress`: then it is taken for a record. The
file of a record is always known as one, and never taken for an adventure. In RON every exported file is taken, whatever
its title. -/
theorem exported_taken_unless_progress :
    formatOf? (join path (exportFile a format).fileName) = some format ∧
    (isProgressFile (join path (exportFile a format).fileName) = true ↔
      format = .json ∧ ".progress".toList <:+ (Text.trim a.title).toList) ∧
    (Lint.takes (exportFile a format).fileName = true ↔
      ¬ (format = .json ∧ ".progress".toList <:+ (Text.trim a.title).toList)) ∧
    isProgressFile (join path (FileStore.fileName id)) = true ∧
    Lint.takes (FileStore.fileName id) = false := by
  refine ⟨formatOf?_join_exportFile a format path, isProgressFile_join_exportFile a format path, ?_,
    FileStore.isProgressFile_join path id, ?_⟩
  · rw [Lint.takes, formatOf?_exportFile, Option.isSome_some, Bool.true_and, Bool.not_eq_true',
      ← Bool.not_eq_true]
    exact not_congr (isProgressFile_exportFile a format)
  · apply takes_of_isProgressFile
    rw [← join_empty (FileStore.fileName id)]
    exact FileStore.isProgressFile_join "" id

/-- A playable adventure whose title ends like the name of a record. -/
def Adventure.continuedCellar : Adventure := { Adventure.cellar with title := "cellar.progress" }

/-- Its file has the name of the record of the cellar, and the linter leaves it out. -/
theorem continued_cellar_left_out :
    Adventure.continuedCellar.isPlayable = true ∧
    (exportFile .continuedCellar .json).fileName = FileStore.fileName "cellar" ∧
    isProgressFile (exportFile .continuedCellar .json).fileName = true ∧
    Lint.takes (exportFile .continuedCellar .json).fileName = false := by
  have hprogress : isProgressFile (exportFile .continuedCellar .json).fileName = true :=
    (isProgressFile_exportFile .continuedCellar .json).mpr ⟨rfl, by decide⟩
  exact ⟨by decide, by decide +kernel, hprogress, takes_of_isProgressFile hprogress⟩

end Gamebook
