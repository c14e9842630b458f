import Gamebook.Export
import Gamebook.Files.Tree
import Gamebook.Proofs.FileNames
import Gamebook.Proofs.Text.Reads
import Mathlib.Data.List.DropRight

/-!
# The names of exported files

A title may be any text. What is left of it in a file name is a `SafeName`: there is something of it, its ends
are not blank, and it holds no control and none of the characters that file systems reserve. A title that is a
safe name already is kept as it is (`SafeName.fileStem_eq`), so to make a file name twice is to make it once.

The name is made in two steps: the title is trimmed, and then each character is kept or replaced by an underscore. The
order matters. A control such as a line feed is blank as well, so it is cut off at the ends and replaced in the middle,
and no blank is made at the ends afterwards, because an underscore is none (`stops_map_fileNameChar`). A title of blanks
alone leaves nothing, and gets a name of its own. Two titles may get the same name; nothing is promised against that.

With the extension of its notation behind it, such a name is one step of a path, whatever dots the title has,
and the notation is told from it again (`formatOf?_join_exportFile`). A title of two dots is a safe name, and would lead
out of the directory if it stood alone; with the extension it is a name like any other. For the notation only the last
dot counts, and that is the dot of the extension.

What is blank and what is a control is a matter of Unicode. Little is used of these classes: the underscore is in
neither, and so are the letters of the name for blank titles.
-/

namespace Gamebook

open Text.Reader (Stops stops_cons dropWhile_eq_self_of_stops)

/-! ## Trimming -/

namespace Text

variable {cs : List Char}

theorem toList_trim (s : String) : (trim s).toList = trimChars s.toList := String.toList_ofList

theorem stops_dropWhile (p : Char → Bool) (cs : List Char) : Stops p (cs.dropWhile p) := by
  intro c hc
  have hhead := List.head?_dropWhile_not p cs
  rwa [Option.mem_def.mp hc] at hhead

/-- What is left of a trimmed text does not begin with a blank. -/
theorem stops_trimChars (cs : List Char) : Stops isBlank (trimChars cs) := by
  obtain ⟨rest, hrest⟩ : trimChars cs <+: cs.dropWhile isBlank := List.rdropWhile_prefix _ _
  have hstops := stops_dropWhile isBlank cs
  rw [← hrest] at hstops
  intro c hc
  apply hstops
  rw [Option.mem_def] at hc
  simp [hc]

/-- Nor does it end with one. -/
theorem stops_reverse_trimChars (cs : List Char) : Stops isBlank (trimChars cs).reverse := by
  rw [trimChars, List.reverse_reverse]
  exact stops_dropWhile _ _

/-- A text without blanks at its ends is left as it is. -/
theorem trimChars_eq_self (hfront : Stops isBlank cs) (hback : Stops isBlank cs.reverse) :
    trimChars cs = cs := by
  rw [trimChars, dropWhile_eq_self_of_stops hfront, dropWhile_eq_self_of_stops hback, List.reverse_reverse]

end Text

/-! ## Safe names -/

/-- A name of some characters, without blanks at its ends, that holds neither a control nor a character that
file systems reserve. -/
structure SafeName (name : String) : Prop where
  nonempty : name ≠ ""
  no_control : ∀ c ∈ name.toList, Text.isControl c = false
  no_reserved : ∀ c ∈ name.toList, c ∉ ['/', '\\', ':', '*', '?', '"', '<', '>', '|']
  no_leading : ∀ c ∈ name.toList.head?, Text.isBlank c = false
  no_trailing : ∀ c ∈ name.toList.getLast?, Text.isBlank c = false

theorem SafeName.toList_ne_nil {name : String} (h : SafeName name) : name.toList ≠ [] := by
  intro hempty
  exact h.nonempty (String.toList_eq_nil_iff.mp hempty)

section Characters

variable {c d : Char}

theorem isControl_fileNameChar (c : Char) : Text.isControl (fileNameChar c) = false := by
  unfold fileNameChar
  split
  · decide
  · simp_all

theorem fileNameChar_not_mem_reserved (c : Char) : fileNameChar c ∉ reservedChars := by
  unfold fileNameChar
  split
  · decide
  · simp_all

/-- A character that is not reserved and no control is kept. -/
theorem fileNameChar_eq_self (hcontrol : Text.isControl c = false) (hreserved : c ∉ reservedChars) :
    fileNameChar c = c := by
  simp [fileNameChar, hcontrol, hreserved]

/-- Every character of a file name but the underscore stands in the title. -/
theorem eq_of_fileNameChar (h : fileNameChar c = d) (hd : d ≠ '_') : c = d := by
  unfold fileNameChar at h
  split at h
  · exact absurd h.symm hd
  · exact h

theorem eq_of_map_fileNameChar {cs ds : List Char} (h : cs.map fileNameChar = ds) (hds : '_' ∉ ds) :
    cs = ds := by
  subst h
  calc cs
      = cs.map id := (List.map_id cs).symm
    _ = cs.map fileNameChar := List.map_congr_left fun c hc => by
        apply eq_of_fileNameChar rfl
        intro hc'
        exact hds (hc' ▸ List.mem_map_of_mem hc)

/-- Where no blank stands none is made. -/
theorem stops_map_fileNameChar {cs : List Char} (h : Stops Text.isBlank cs) :
    Stops Text.isBlank (cs.map fileNameChar) := by
  cases cs with
  | nil => simp
  | cons c cs =>
    rw [List.map_cons, stops_cons, fileNameChar]
    split
    · decide
    · exact stops_cons.mp h

end Characters

/-! ## File names of titles -/

theorem toList_fileStem (title : String) :
    (fileStem title).toList = if Text.trimChars title.toList = [] then "adventure".toList
      else (Text.trimChars title.toList).map fileNameChar := by
  unfold fileStem
  by_cases h : Text.trimChars title.toList = [] <;> simp [h]

theorem safeName_adventure : SafeName "adventure" where
  nonempty := by simp
  no_control := by simp [Text.isControl]
  no_reserved := by simp
  no_leading := by simp [Text.isBlank]
  no_trailing := by simp [Text.isBlank]

/-- **The file name of every title is safe.** Nothing is asked of the title. -/
theorem safeName_fileStem (title : String) : SafeName (fileStem title) := by
  have hstem := toList_fileStem title
  by_cases hblank : Text.trimChars title.toList = []
  · rw [if_pos hblank, String.toList_inj] at hstem
    rw [hstem]
    exact safeName_adventure
  · rw [if_neg hblank] at hstem
    constructor
    · intro hempty
      exact hblank (by simpa [hempty] using hstem)
    · intro c hc
      rw [hstem] at hc
      obtain ⟨d, -, rfl⟩ := List.mem_map.mp hc
      exact isControl_fileNameChar d
    · intro c hc
      rw [hstem] at hc
      obtain ⟨d, -, rfl⟩ := List.mem_map.mp hc
      exact fileNameChar_not_mem_reserved d
    · rw [hstem]
      exact stops_map_fileNameChar (Text.stops_trimChars _)
    · rw [hstem, ← List.head?_reverse, ← List.map_reverse]
      exact stops_map_fileNameChar (Text.stops_reverse_trimChars _)

/-- **A safe name is its own file name.** -/
theorem SafeName.fileStem_eq {name : String} (h : SafeName name) : fileStem name = name := by
  have htrim : Text.trimChars name.toList = name.toList := by
    apply Text.trimChars_eq_self h.no_leading
    intro c hc
    rw [List.head?_reverse] at hc
    exact h.no_trailing c hc
  have hkept : name.toList.map fileNameChar = name.toList := by
    calc name.toList.map fileNameChar
        = name.toList.map id := List.map_congr_left fun c hc =>
            fileNameChar_eq_self (h.no_control c hc) (h.no_reserved c hc)
      _ = name.toList := List.map_id _
  rw [← String.toList_inj, toList_fileStem, htrim, if_neg h.toList_ne_nil, hkept]

/-- A blank title gets a name of its own. -/
theorem fileStem_of_blank {title : String} (h : Text.trim title = "") : fileStem title = "adventure" := by
  have hnone : Text.trimChars title.toList = [] := by rw [← Text.toList_trim, h, String.toList_empty]
  rw [← String.toList_inj, toList_fileStem, if_pos hnone]

/-- One character stands for each of the trimmed title. -/
theorem length_fileStem {title : String} (h : Text.trim title ≠ "") :
    (fileStem title).length = (Text.trim title).length := by
  have hsome : Text.trimChars title.toList ≠ [] := by
    intro hempty
    rw [← Text.toList_trim] at hempty
    exact h (String.toList_eq_nil_iff.mp hempty)
  rw [← String.length_toList, ← String.length_toList, toList_fileStem, if_neg hsome, List.length_map,
    Text.toList_trim]

/-! ## Exported files

The name of an exported file is the stem of the title, a dot and the extension of the notation. Everything about it
follows from what the stem is known to be, and from the two notations there are. -/

section Exported

open Files

variable (a : Adventure) (format : Format)

theorem toList_fileName_exportFile :
    (exportFile a format).fileName.toList = (fileStem a.title).toList ++ '.' :: format.extension.toList := by
  simp [exportFile, String.toList_append]

theorem slash_not_mem_exportFile : '/' ∉ (exportFile a format).fileName.toList := by
  rw [toList_fileName_exportFile, List.mem_append, not_or]
  constructor
  · intro hslash
    exact (safeName_fileStem a.title).no_reserved '/' hslash (by decide)
  · cases format <;> decide

theorem two_lt_length_exportFile : 2 < (exportFile a format).fileName.toList.length := by
  rw [toList_fileName_exportFile, List.length_append, List.length_cons]
  have hextension : 2 ≤ format.extension.toList.length := by cases format <;> decide
  omega

theorem ofExtension?_extension : Format.ofExtension? format.extension = some format := by
  cases format <;> decide +kernel

theorem dot_not_mem_extension : '.' ∉ format.extension.toList := by
  cases format <;> decide

/-- In every directory, the notation of an exported file is told from its name. -/
theorem formatOf?_join_exportFile (path : String) :
    formatOf? (join path (exportFile a format).fileName) = some format := by
  have hname := fileName?_join (slash_not_mem_exportFile a format) (two_lt_length_exportFile a format) path
  have hextension : (splitName (exportFile a format).fileName.toList).2 = some format.extension.toList := by
    rw [toList_fileName_exportFile, splitName, splitAtLast_append_cons (dot_not_mem_extension format)]
    cases h : (fileStem a.title).toList with
    | nil => exact absurd h (safeName_fileStem a.title).toList_ne_nil
    | cons c cs => rfl
  rw [formatOf?, extension?, hname, Option.bind_some, hextension, Option.map_some, Option.bind_some,
    String.ofList_toList, ofExtension?_extension]

theorem formatOf?_exportFile : formatOf? (exportFile a format).fileName = some format := by
  rw [← formatOf?_join_exportFile a format "", join_empty]

/-- The name of an exported file is one step: into what stands under the name. -/
theorem steps_exportFile : steps (exportFile a format).fileName = [.into (exportFile a format).fileName] := by
  obtain ⟨hempty, hdot, hdots⟩ := plain_of_two_lt_length (two_lt_length_exportFile a format)
  rw [steps, splitAt_of_not_mem (slash_not_mem_exportFile a format), List.map_singleton, Step.ofPart,
    if_neg (not_or.mpr ⟨hempty, hdot⟩), if_neg hdots, String.ofList_toList]

end Exported

/-- **File names of titles are safe and stable.** The file name of a title is a safe name, and its own file name.
It has as many characters as the trimmed title; if that is empty, it is `adventure`. With the extension of a
notation it is one step of a path, from which the notation is told again. The length is counted in characters and not in
bytes, so a name may still be too long for a file system. -/
theorem file_names_safe_and_stable (title : String) :
    SafeName (fileStem title) ∧
    (Text.trim title ≠ "" → (fileStem title).length = (Text.trim title).length) ∧
    (Text.trim title = "" → fileStem title = "adventure") ∧
    fileStem (fileStem title) = fileStem title ∧
    ∀ (a : Adventure) (format : Format),
      Files.steps (exportFile a format).fileName = [.into (exportFile a format).fileName] ∧
      Files.formatOf? (exportFile a format).fileName = some format := by
  refine ⟨safeName_fileStem title, length_fileStem, fileStem_of_blank,
    (safeName_fileStem title).fileStem_eq, ?_⟩
  intro a format
  exact ⟨steps_exportFile a format, formatOf?_exportFile a format⟩

/-- A title with blanks and controls at its ends and in it, and with reserved characters. -/
theorem file_names_safe_and_stable_part_two :
    (fileStem "\tWhat/If:\nPart 2?\u0000 ").length = 17 := by
  have hlength := (file_names_safe_and_stable "\tWhat/If:\nPart 2?\u0000 ").2.1 (by decide)
  rw [hlength]
  decide

end Gamebook
