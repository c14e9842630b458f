import Gamebook.Files.Tree
import Gamebook.Proofs.Table

/-!
# Places in a tree of directories

A tree is known by what stands at its places. A place is the names on the way to it from the root, and there is one way
of names to each. A path is another thing: it may go up again, and stand still. So what a path leads to is said by ways,
which are made of steps, and what a change does to a tree by places.

To put a directory in place of another changes what stands below that place, as the one directory differs from the
other, and nothing else (`KeepsBut.putDirectory`). The program changes a tree in this way only: a file is written, or a
directory is made, in the directory of one place. `KeepsBut` says which files may differ, and that all directories are
still there. It composes (`KeepsBut.trans`), so a run of changes keeps what each of them keeps.

A way leads from a place to a place, through directories (`Leads`). The steps are followed with the directories gone
through in hand, for a step up goes back to the last of them; `Leads` has the place instead, and the two agree
(`follow_eq_ok_iff`). A way that leads somewhere in a tree does so in every tree that keeps the directories and what
stands at the end (`Leads.kept`). This is what makes a path that worked once work again, whatever files have been
written in between.
-/

namespace Gamebook.Files.Directory

/-- The file at a place. -/
def fileAt? (root : Directory) (place : List String) : Option Content :=
  match root.at? place with
  | some (.file content) => some content
  | _ => none

/-- A directory stands at a place. -/
def HasFolderAt (root : Directory) (place : List String) : Prop :=
  ∃ entries, root.at? place = some (.folder entries)

section At

variable {root entries : Directory} {place : List String} {name : String} {node : Node}

theorem at?_singleton (root : Directory) (name : String) : root.at? [name] = root.get? name := by
  rw [at?]
  rcases root.get? name with _ | content | inner <;> rfl

theorem at?_cons_of_folder {inner : Directory} (h : root.get? name = some (.folder inner))
    (rest : List String) : root.at? (name :: rest) = inner.at? rest := by
  rw [at?, h]

/-- What stands below a directory is seen from there. -/
theorem at?_append (h : root.at? place = some (.folder entries)) (rest : List String) :
    root.at? (place ++ rest) = entries.at? rest := by
  induction place generalizing root with
  | nil =>
    obtain rfl : root = entries := Node.folder.inj (Option.some.inj h)
    rfl
  | cons name place ih =>
    rw [List.cons_append]
    rw [at?] at h ⊢
    rcases hget : root.get? name with _ | content | inner
    · rw [hget] at h
      cases h
    · rw [hget] at h
      dsimp only at h
      split at h <;> cases h
    · rw [hget] at h
      exact ih h

theorem at?_concat (h : root.at? place = some (.folder entries)) (name : String) :
    root.at? (place ++ [name]) = entries.get? name := by
  rw [at?_append h, at?_singleton]

/-- What is put under a name is not seen below another. -/
theorem at?_put_of_ne {other : String} (h : name ≠ other) (node : Node) (rest : List String) :
    Directory.at? (root.put name node) (other :: rest) = root.at? (other :: rest) := by
  rw [at?, at?, (Table.get?_put ..).trans (if_neg h)]

theorem hasFolderAt_nil (root : Directory) : root.HasFolderAt [] := ⟨root, rfl⟩

theorem fileAt?_eq_some_iff {content : Content} :
    root.fileAt? place = some content ↔ root.at? place = some (.file content) := by
  rw [fileAt?]
  rcases root.at? place with _ | c | entries <;> simp

end At

/-! ## A directory in place of another -/

section Put

variable {root entries : Directory} {place : List String} {name : String}

theorem putDirectory_cons {inner : Directory} (h : root.get? name = some (.folder inner))
    (entries : Directory) (rest : List String) :
    root.putDirectory entries (name :: rest) = root.put name (.folder (inner.putDirectory entries rest)) := by
  cases rest with
  | nil => rfl
  | cons next rest =>
    show root.putAt (.folder entries) (name :: next :: rest) = _
    rw [putAt, h]
    · rfl
    · simp

/-- A directory at a place below a name is one below the directory of that name. -/
theorem at?_cons_eq_folder (h : root.at? (name :: place) = some (.folder entries)) :
    ∃ inner : Directory, root.get? name = some (.folder inner) ∧
      inner.at? place = some (.folder entries) := by
  rw [at?] at h
  rcases hget : root.get? name with _ | content | inner
  · rw [hget] at h
    cases h
  · rw [hget] at h
    dsimp only at h
    split at h <;> cases h
  · rw [hget] at h
    exact ⟨inner, rfl, h⟩

theorem at?_putDirectory (h : root.HasFolderAt place) (entries : Directory) :
    (root.putDirectory entries place).at? place = some (.folder entries) := by
  obtain ⟨old, hold⟩ := h
  induction place generalizing root with
  | nil => rfl
  | cons name place ih =>
    obtain ⟨inner, hget, hinner⟩ := at?_cons_eq_folder hold
    rw [putDirectory_cons hget, at?_cons_of_folder ((Table.get?_put ..).trans (if_pos rfl))]
    exact ih hinner

/-- What is put at a place takes the place of what was put there before. -/
theorem putDirectory_putDirectory (h : root.HasFolderAt place) (first second : Directory) :
    (root.putDirectory first place).putDirectory second place = root.putDirectory second place := by
  obtain ⟨old, hold⟩ := h
  induction place generalizing root with
  | nil => rfl
  | cons name place ih =>
    obtain ⟨inner, hget, hinner⟩ := at?_cons_eq_folder hold
    rw [putDirectory_cons hget, putDirectory_cons hget,
      putDirectory_cons ((Table.get?_put ..).trans (if_pos rfl)), ih hinner, Table.put_put]

/-- To put something below a directory is to put the directory that has it. -/
theorem putAt_concat (h : root.at? place = some (.folder entries)) (node : Node) (name : String) :
    root.putAt node (place ++ [name]) = root.putDirectory (entries.put name node) place := by
  induction place generalizing root with
  | nil =>
    obtain rfl : root = entries := Node.folder.inj (Option.some.inj h)
    rfl
  | cons first place ih =>
    obtain ⟨inner, hget, hinner⟩ := at?_cons_eq_folder h
    rw [putDirectory_cons hget, ← ih hinner, List.cons_append, putAt, hget]
    simp

end Put

/-! ## What a change leaves alone -/

/-- Every directory is still there, and every place but those that may have changed holds the file that it
held, or none if it held none. -/
structure KeepsBut (changed : List String → Prop) (root root' : Directory) : Prop where
  folder : ∀ {place}, root.HasFolderAt place → root'.HasFolderAt place
  file : ∀ {place}, ¬ changed place → root'.fileAt? place = root.fileAt? place

/-- Every directory and every file is still there, and no file has been added. -/
abbrev Keeps : Directory → Directory → Prop := KeepsBut fun _ => False

section KeepsBut

variable {changed changed' : List String → Prop} {root root' root'' entries entries' : Directory}
  {place : List String} {name : String}

theorem KeepsBut.refl (changed : List String → Prop) (root : Directory) : KeepsBut changed root root :=
  ⟨id, fun _ => rfl⟩

theorem KeepsBut.trans (h : KeepsBut changed root root') (h' : KeepsBut changed root' root'') :
    KeepsBut changed root root'' :=
  ⟨fun hfolder => h'.folder (h.folder hfolder), fun hplace => (h'.file hplace).trans (h.file hplace)⟩

theorem KeepsBut.imp (h : KeepsBut changed root root') (hchanged : ∀ place, changed place → changed' place) :
    KeepsBut changed' root root' :=
  ⟨h.folder, fun hplace => h.file fun hchange => hplace (hchanged _ hchange)⟩

/-- What changes below a name of a directory. -/
theorem KeepsBut.put (h : KeepsBut changed entries entries') (hget : root.get? name = some (.folder entries)) :
    KeepsBut (fun place => ∃ rest, place = name :: rest ∧ changed rest) root
      (root.put name (.folder entries')) := by
  have hnew : (root.put name (.folder entries')).get? name = some (.folder entries') :=
    (Table.get?_put ..).trans (if_pos rfl)
  refine ⟨fun {place} hfolder => ?_, fun {place} hplace => ?_⟩
  · cases place with
    | nil => exact hasFolderAt_nil _
    | cons other rest =>
      by_cases hne : name = other
      · subst hne
        rw [HasFolderAt, at?_cons_of_folder hget] at hfolder
        rw [HasFolderAt, at?_cons_of_folder hnew]
        exact h.folder hfolder
      · rw [HasFolderAt, at?_put_of_ne hne]
        exact hfolder
  · cases place with
    | nil => rfl
    | cons other rest =>
      by_cases hne : name = other
      · subst hne
        rw [fileAt?, fileAt?, at?_cons_of_folder hget, at?_cons_of_folder hnew]
        exact h.file fun hrest => hplace ⟨rest, rfl, hrest⟩
      · rw [fileAt?, fileAt?, at?_put_of_ne hne]

/-- What changes when a directory is put in place of another: below the place, what differs between the two; nowhere
else anything. By induction on the place, one name at a time. -/
theorem KeepsBut.putDirectory (h : KeepsBut changed entries entries')
    (hplace : root.at? place = some (.folder entries)) :
    KeepsBut (fun other => ∃ rest, other = place ++ rest ∧ changed rest) root
      (root.putDirectory entries' place) := by
  induction place generalizing root with
  | nil =>
    obtain rfl : root = entries := Node.folder.inj (Option.some.inj hplace)
    exact h.imp fun other hother => ⟨other, rfl, hother⟩
  | cons name place ih =>
    obtain ⟨inner, hget, hinner⟩ := at?_cons_eq_folder hplace
    rw [putDirectory_cons hget]
    refine ((ih hinner).put hget).imp ?_
    rintro _ ⟨_, rfl, rest, rfl, hrest⟩
    exact ⟨rest, rfl, hrest⟩

/-- No directory stands under a name. -/
def NoFolder (entries : Directory) (name : String) : Prop :=
  ∀ inner, entries.get? name ≠ some (.folder inner)

theorem NoFolder.at?_cons (h : entries.NoFolder name) {rest : List String} (hrest : rest ≠ []) :
    entries.at? (name :: rest) = none := by
  rw [at?]
  rcases hget : entries.get? name with _ | content | inner
  · rfl
  · simp [hrest]
  · exact absurd hget (h inner)

/-- Directories that differ in a file hold the same otherwise. -/
theorem keepsBut_of_get? (hothers : ∀ other, other ≠ name → entries'.get? other = entries.get? other)
    (hfree : entries.NoFolder name) (hfree' : entries'.NoFolder name) :
    KeepsBut (· = [name]) entries entries' := by
  have hat : ∀ {place}, place ≠ [name] → place ≠ [] → entries'.at? place = entries.at? place := by
    intro place hplace hnil
    obtain ⟨other, rest, rfl⟩ := List.exists_cons_of_ne_nil hnil
    by_cases hother : other = name
    · subst hother
      have hrest : rest ≠ [] := fun hrest => hplace (by rw [hrest])
      rw [hfree.at?_cons hrest, hfree'.at?_cons hrest]
    · rw [at?, at?, hothers other hother]
  refine ⟨fun {place} hfolder => ?_, fun {place} hplace => ?_⟩
  · by_cases hnil : place = []
    · subst hnil
      exact hasFolderAt_nil _
    · have hplace : place ≠ [name] := by
        rintro rfl
        obtain ⟨inner, hinner⟩ := hfolder
        exact hfree inner ((at?_singleton ..).symm.trans hinner)
      rw [HasFolderAt, hat hplace hnil]
      exact hfolder
  · by_cases hnil : place = []
    · subst hnil
      rfl
    · rw [fileAt?, fileAt?, hat hplace hnil]

/-- An empty directory under a new name adds no file. -/
theorem keeps_put_empty (h : entries.get? name = none) : Keeps entries (entries.put name (.folder [])) := by
  have hnew : (entries.put name (.folder [])).get? name = some (.folder []) :=
    (Table.get?_put ..).trans (if_pos rfl)
  have hnone : ∀ rest, entries.at? (name :: rest) = none := by
    intro rest
    rw [at?, h]
  refine ⟨fun {place} hfolder => ?_, fun {place} _ => ?_⟩
  · cases place with
    | nil => exact hasFolderAt_nil _
    | cons other rest =>
      by_cases hne : name = other
      · subst hne
        obtain ⟨inner, hinner⟩ := hfolder
        rw [hnone] at hinner
        cases hinner
      · rw [HasFolderAt, at?_put_of_ne hne]
        exact hfolder
  · cases place with
    | nil => rfl
    | cons other rest =>
      by_cases hne : name = other
      · subst hne
        rw [fileAt?, fileAt?, hnone, at?_cons_of_folder hnew]
        cases rest <;> rfl
      · rw [fileAt?, fileAt?, at?_put_of_ne hne]

end KeepsBut

/-! ## Ways

Steps that go up lead back along the way that was come, so a place is known together with the directories above it.
`Leads` says where a way leads by places in the tree, and the lemmas show that to follow the way comes to the same. -/

/-- A way leads from a place to a place. Every step on it is made from a directory. -/
inductive Leads (root : Directory) : List String → List Step → List String → Prop
  | stop (place : List String) : Leads root place [] place
  | here {place last : List String} {way : List Step} :
      root.HasFolderAt place → Leads root place way last → Leads root place (.here :: way) last
  | up {place parent last : List String} {name : String} {way : List Step} :
      root.HasFolderAt place → place = parent ++ [name] → Leads root parent way last →
      Leads root place (.up :: way) last
  | into {place last : List String} {name : String} {way : List Step} :
      root.HasFolderAt place → isTooLong name = false → (root.at? (place ++ [name])).isSome →
      Leads root (place ++ [name]) way last → Leads root place (.into name :: way) last

/-- The directories that a way has gone through, from the last back, and what stands at its end. -/
inductive Passed (root : Directory) : List (String × Directory) → Node → Prop
  | root : Passed root [] (.folder root)
  | into {above : List (String × Directory)} {entries : Directory} {name : String} {node : Node} :
      Passed root above (.folder entries) → entries.get? name = some node →
      Passed root ((name, entries) :: above) node

/-- The place at the end of a way through some directories. -/
def placeOf (above : List (String × Directory)) : List String := (above.map (·.1)).reverse

theorem placeOf_cons (name : String) (entries : Directory) (above : List (String × Directory)) :
    placeOf ((name, entries) :: above) = placeOf above ++ [name] := by
  simp [placeOf]

section Ways

variable {root root' : Directory} {above : List (String × Directory)} {node : Node}
  {place middle last : List String} {way later : List Step} {name : String}

/-- A way of at least one step begins in a directory. -/
theorem Leads.hasFolderAt (h : Leads root place way last) (hway : way ≠ []) : root.HasFolderAt place := by
  cases h with
  | stop => exact absurd rfl hway
  | here hfolder _ => exact hfolder
  | up hfolder _ _ => exact hfolder
  | into hfolder _ _ _ => exact hfolder

theorem Passed.at? (h : Passed root above node) : root.at? (placeOf above) = some node := by
  induction h with
  | root => rfl
  | into _ hget ih => rw [placeOf_cons, at?_concat ih, hget]

/-- Steps that are followed lead somewhere. -/
theorem leads_of_followFrom (hpassed : Passed root above node) (h : followFrom above node way = .ok last) :
    Leads root (placeOf above) way last := by
  induction way generalizing above node with
  | nil =>
    obtain rfl : placeOf above = last := Except.ok.inj h
    exact .stop _
  | cons step way ih =>
    have hat := hpassed.at?
    cases node with
    | file content => cases h
    | folder entries =>
      have hfolder : root.HasFolderAt (placeOf above) := ⟨entries, hat⟩
      cases step with
      | here => exact .here hfolder (ih hpassed h)
      | up =>
        cases hpassed with
        | root => cases h
        | into hparent hget => exact .up hfolder (placeOf_cons ..) (ih hparent h)
      | into name =>
        simp only [followFrom] at h
        split at h
        · cases h
        · rename_i hlong
          cases hget : Table.get? name entries with
          | none =>
            rw [hget] at h
            cases h
          | some node =>
            rw [hget] at h
            have hrest := ih (hpassed.into hget) h
            rw [placeOf_cons] at hrest
            refine .into hfolder (Bool.eq_false_iff.mpr hlong) ?_ hrest
            rw [at?_concat hat, hget]
            rfl

/-- Steps that lead somewhere are followed. -/
theorem followFrom_of_leads (hpassed : Passed root above node) (h : Leads root (placeOf above) way last) :
    followFrom above node way = .ok last := by
  induction way generalizing above node with
  | nil =>
    cases h with
    | stop => rfl
  | cons step way ih =>
    have hat := hpassed.at?
    obtain ⟨entries, hentries⟩ := h.hasFolderAt (List.cons_ne_nil step way)
    obtain rfl : node = .folder entries := Option.some.inj (hat.symm.trans hentries)
    cases h with
    | here _ hrest => exact ih hpassed hrest
    | up _ hplace hrest =>
      cases hpassed with
      | root => simp [placeOf] at hplace
      | into hparent hget =>
        rw [placeOf_cons] at hplace
        obtain ⟨rfl, -⟩ := List.append_inj' hplace rfl
        exact ih hparent hrest
    | into _ hlong hsome hrest =>
      rw [at?_concat hat] at hsome
      obtain ⟨next, hnext⟩ := Option.isSome_iff_exists.mp hsome
      simp only [followFrom]
      rw [if_neg (by simp [hlong]), hnext]
      refine ih (hpassed.into hnext) ?_
      rw [placeOf_cons]
      exact hrest

/-- A way is followed to where it leads. -/
theorem follow_eq_ok_iff : root.follow way = .ok last ↔ Leads root [] way last :=
  ⟨leads_of_followFrom .root, followFrom_of_leads .root⟩

theorem Leads.unique (h : Leads root place way last) {last' : List String} (h' : Leads root place way last') :
    last' = last := by
  induction h with
  | stop place =>
    cases h' with
    | stop => rfl
  | here _ _ ih =>
    cases h' with
    | here _ hrest => exact ih hrest
  | up _ hplace _ ih =>
    cases h' with
    | up _ hplace' hrest =>
      obtain ⟨rfl, -⟩ := List.append_inj' (hplace.symm.trans hplace') rfl
      exact ih hrest
  | into _ _ _ _ ih =>
    cases h' with
    | into _ _ _ hrest => exact ih hrest

theorem Leads.append (h : Leads root place way middle) (h' : Leads root middle later last) :
    Leads root place (way ++ later) last := by
  induction h with
  | stop => exact h'
  | here hfolder _ ih => exact .here hfolder (ih h')
  | up hfolder hplace _ ih => exact .up hfolder hplace (ih h')
  | into hfolder hlong hsome _ ih => exact .into hfolder hlong hsome (ih h')

theorem Leads.split (h : Leads root place (way ++ later) last) :
    ∃ middle, Leads root place way middle ∧ Leads root middle later last := by
  induction way generalizing place with
  | nil => exact ⟨place, .stop place, h⟩
  | cons step way ih =>
    rw [List.cons_append] at h
    cases h with
    | here hfolder hrest =>
      obtain ⟨middle, hway, hlater⟩ := ih hrest
      exact ⟨middle, .here hfolder hway, hlater⟩
    | up hfolder hplace hrest =>
      obtain ⟨middle, hway, hlater⟩ := ih hrest
      exact ⟨middle, .up hfolder hplace hway, hlater⟩
    | into hfolder hlong hsome hrest =>
      obtain ⟨middle, hway, hlater⟩ := ih hrest
      exact ⟨middle, .into hfolder hlong hsome hway, hlater⟩

/-- **A way leads to the same place** as long as its directories and its end are there. Files on other places, and
what stands in the files, make no difference. -/
theorem Leads.kept (h : Leads root place way last)
    (hfolders : ∀ {place}, root.HasFolderAt place → root'.HasFolderAt place)
    (hlast : (root'.at? last).isSome) : Leads root' place way last := by
  induction h with
  | stop place => exact .stop place
  | here hfolder _ ih => exact .here (hfolders hfolder) (ih hlast)
  | up hfolder hplace _ ih => exact .up (hfolders hfolder) hplace (ih hlast)
  | @into place last name way hfolder hlong _ hrest ih =>
    refine .into (hfolders hfolder) hlong ?_ (ih hlast)
    by_cases hway : way = []
    -- The name is the end of the way, or a directory on it.
    · subst hway
      cases hrest with
      | stop => exact hlast
    · obtain ⟨entries, hentries⟩ := hfolders (hrest.hasFolderAt hway)
      rw [hentries]
      rfl

end Ways

end Gamebook.Files.Directory
