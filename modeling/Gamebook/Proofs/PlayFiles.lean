import Gamebook.Proofs.Files.Provision
import Gamebook.Proofs.Sittings

/-!
# What play leaves in a tree of files

A run of the shell makes the directory of progress records where it is missing and rewrites one file in it. The
file has never the name of the adventure, not even in the adventure's own directory, for the adventure's id is its
file name without an extension (`not_isRecordPlace_of_find`). So a later run finds the adventure as it was, and the
directory at the same place; and what two runs leave is what one run leaves on the input of both.

The statement is about the whole program: arguments are taken apart, the adventure is found by its path and parsed,
the directory is provided, the shell is opened and fed, and the tree is what is left. Any of these may fail, on any
tree. `Leaves` lists the ends a run can come to, and each of them is followed through a second run. If the arguments
do not make sense, nothing happens in either. If the adventure cannot be loaded, the same. If the directory cannot be
provided, some directories above it may have been made, and the second run fails in the same way and makes no more. If
the adventure cannot be played, the directory is there, and the record is cleared where play was to begin afresh.
Otherwise the two runs are sittings of one reading.

The paths may be any: relative ones with steps up, spelled in different ways, leading to the same place. Two paths are
therefore never compared. Where a path has led, it leads again as long as the directories are there, and the places of
the adventure and of its record are told apart by the last names on the way to them.

Beginning afresh is left out of the second run, as it must be: it would throw away what the first has saved.
-/

namespace Gamebook

open Files

/-! ## Where files are found -/

namespace Files.Directory

variable {root root' : Directory} {path : String} {place : List String} {content : Content}
  {changed : List String → Prop}

theorem hasFolderAt_of_append {rest : List String} (h : root.HasFolderAt (place ++ rest)) :
    root.HasFolderAt place := by
  obtain ⟨entries, hat⟩ := h
  induction place generalizing root with
  | nil => exact hasFolderAt_nil root
  | cons name place ih =>
    obtain ⟨inner, hget, hinner⟩ := at?_cons_eq_folder hat
    obtain ⟨entries', hentries'⟩ := ih hinner
    exact ⟨entries', (at?_cons_of_folder hget place).trans hentries'⟩

/-- A path to a file ends in the name of the file. -/
theorem fileName?_of_resolve (h : root.resolve path = .ok place)
    (hat : root.at? place = some (.file content)) :
    ∃ front name, place = front ++ [name] ∧ fileName? path = some name.toList := by
  have hnot : ¬ root.HasFolderAt place := by
    rintro ⟨entries, hentries⟩
    rw [hat] at hentries
    cases hentries
  have hleads := (resolve_eq_ok_iff.mp h).2
  rcases List.eq_nil_or_concat' (splitAt '/' path.toList) with hnil | ⟨parts, part, hparts⟩
  · exact absurd hnil (splitAt_ne_nil _ _)
  · rw [steps, hparts, List.map_append] at hleads
    obtain ⟨middle, -, hlast⟩ := hleads.split
    by_cases hskipped : part = [] ∨ part = ['.']
    · have hstep : Step.ofPart part = .here := if_pos hskipped
      rw [List.map_singleton, hstep] at hlast
      cases hlast with
      | here hfolder hstop =>
        cases hstop with
        | stop => exact absurd hfolder hnot
    · by_cases hdots : part = ['.', '.']
      · have hstep : Step.ofPart part = .up := by rw [Step.ofPart, if_neg hskipped, if_pos hdots]
        rw [List.map_singleton, hstep] at hlast
        cases hlast with
        | up hfolder hplace hstop =>
          cases hstop with
          | stop =>
            rw [hplace] at hfolder
            exact absurd (hasFolderAt_of_append hfolder) hnot
      · have hstep : Step.ofPart part = .into (String.ofList part) := by
          rw [Step.ofPart, if_neg hskipped, if_neg hdots]
        rw [List.map_singleton, hstep] at hlast
        cases hlast with
        | into _ _ _ hstop =>
          cases hstop with
          | stop =>
            refine ⟨middle, String.ofList part, rfl, ?_⟩
            have hcounts : (nameParts path).getLast? = some part := by
              rw [nameParts, hparts, List.filter_append, List.filter_cons_of_pos (by simpa using hskipped)]
              simp
            rw [fileName?, hcounts, String.toList_ofList]
            exact if_neg hdots

/-- A file is found again in every tree that has left its place alone. -/
theorem KeepsBut.find (hkeeps : KeepsBut changed root root') (h : root.find path = .ok (.file content))
    (hplace : ∀ place, root.resolve path = .ok place → ¬ changed place) :
    root'.find path = .ok (.file content) := by
  obtain ⟨place, hresolve, hat⟩ := find_eq_ok_iff.mp h
  have hfile : root'.fileAt? place = some content := by
    rw [hkeeps.file (hplace place hresolve)]
    exact fileAt?_eq_some_iff.mpr hat
  have hat' := fileAt?_eq_some_iff.mp hfile
  obtain ⟨hfault, hleads⟩ := resolve_eq_ok_iff.mp hresolve
  refine find_eq_ok_iff.mpr ⟨place, resolve_eq_ok_iff.mpr ⟨hfault, ?_⟩, hat'⟩
  exact hleads.kept hkeeps.folder (by rw [hat']; rfl)

end Files.Directory

theorem Files.find_of_load {root : Directory} {path : String} {a : Adventure} (h : load root path = .ok a) :
    ∃ content, root.find path = .ok (.file content) ∧
      ∀ root' : Directory, root'.find path = .ok (.file content) → load root' path = .ok a := by
  cases hfind : root.find path with
  | error fault =>
    rw [load, Directory.readPath, hfind] at h
    cases h
  | ok node =>
    cases node with
    | folder entries =>
      rw [load, Directory.readPath, hfind] at h
      cases h
    | file content =>
      refine ⟨content, rfl, fun root' hfind' => ?_⟩
      rw [load, Directory.readPath, hfind] at h
      rw [load, Directory.readPath, hfind']
      exact h

namespace Command.Play

/-! ## Arguments -/

/-- The options without the flag to begin afresh. What names a directory is not taken for a flag. -/
def dropFresh : List String → List String
  | [] => []
  | "--save-dir" :: directory :: rest => "--save-dir" :: directory :: dropFresh rest
  | "--fresh" :: rest => dropFresh rest
  | option :: rest => option :: dropFresh rest

/-- The arguments without the flag to begin afresh. -/
def withoutFresh : List String → List String
  | [] => []
  | path :: options => path :: dropFresh options

theorem parseOptions_dropFresh (arguments : Arguments) (options : List String) :
    parseOptions { arguments with fresh := false } (dropFresh options) =
      (parseOptions arguments options).map fun arguments => { arguments with fresh := false } := by
  induction arguments, options using parseOptions.induct with
  | case1 arguments => rfl
  | case2 arguments directory rest ih =>
    rw [dropFresh, parseOptions, parseOptions]
    exact ih
  | case3 arguments rest ih =>
    have hdrop : dropFresh ("--debug" :: rest) = "--debug" :: dropFresh rest := by simp [dropFresh]
    rw [hdrop, parseOptions, parseOptions]
    exact ih
  | case4 arguments rest ih =>
    have hdrop : dropFresh ("--fresh" :: rest) = dropFresh rest := by simp [dropFresh]
    rw [hdrop, parseOptions]
    exact ih
  | case5 arguments unknown rest hsave hdebug hfresh =>
    have hfollowed : ∀ directory rest', unknown = "--save-dir" → dropFresh rest = directory :: rest' → False := by
      intro directory rest' hunknown hrest
      cases rest with
      | nil => cases hrest
      | cons next rest => exact hsave next rest hunknown rfl
    rw [dropFresh, parseOptions, parseOptions]
    · rfl
    all_goals assumption

/-- To leave out the flag changes nothing else. -/
theorem parseArguments_withoutFresh (environment : Option String) (arguments : List String) :
    parseArguments environment (withoutFresh arguments) =
      (parseArguments environment arguments).map fun arguments => { arguments with fresh := false } := by
  cases arguments with
  | nil => rfl
  | cons path options =>
    rw [withoutFresh, parseArguments, parseArguments]
    by_cases hhelp : path = "--help" ∨ path = "-h"
    · rw [if_pos hhelp, if_pos hhelp]
      rfl
    · rw [if_neg hhelp, if_neg hhelp]
      have hoptions := parseOptions_dropFresh ⟨path, environment.getD defaultSaveDirectory, false, false⟩ options
      rw [hoptions]
      cases parseOptions ⟨path, environment.getD defaultSaveDirectory, false, false⟩ options <;> rfl

/-! ## One run over the directory of progress records -/

section Records

variable {a : Adventure} {arguments : Arguments} {records : Directory}

/-- The store that the shell is opened on: that of the directory, without the record if play begins afresh. -/
def startStore (arguments : Arguments) (records : Directory) : FileStore :=
  let store := FileStore.ofPath arguments.saveDirectory records
  if arguments.fresh then ((StoreCall.clear (adventureIdOf arguments.path)).send store).2 else store

/-- The directory of progress records after a whole input. -/
def recordsAfter (arguments : Arguments) (a : Adventure) (records : Directory) (input : String) : Directory :=
  let opened := openShell arguments a records
  match opened.shell with
  | some shell => (shell.afterLines (inputLines input)).store.directory
  | none => opened.directory

theorem rewritten_startStore (arguments : Arguments) (records : Directory) :
    FileStore.Rewritten (adventureIdOf arguments.path) (.ofPath arguments.saveDirectory records)
      (startStore arguments records) := by
  unfold startStore
  dsimp only
  split
  · exact FileStore.rewritten_send _ (.clear (adventureIdOf arguments.path))
  · exact .same

theorem openShell_eq (arguments : Arguments) (a : Adventure) (records : Directory) :
    ∃ warning, openShell arguments a records =
      match Session.openOn a (adventureIdOf arguments.path) (startStore arguments records)
          { showTargets := arguments.showTargets } with
      | .ok shell => ⟨warning, shell.store.directory, some shell⟩
      | .error report =>
        ⟨warning ++ line ("ERROR: '" ++ arguments.path ++ "' is not playable:") ++ report.render,
          (startStore arguments records).directory, none⟩ := by
  unfold openShell startStore
  dsimp only
  cases arguments.fresh with
  | false => exact ⟨_, rfl⟩
  | true =>
    rw [if_pos rfl, if_pos rfl]
    simp only [StoreCall.send, FileStore.progressStore_clear]
    cases FileStore.clear (.ofPath arguments.saveDirectory records) (adventureIdOf arguments.path) with
    | ok store => exact ⟨_, rfl⟩
    | error e => exact ⟨_, rfl⟩

/-- An adventure that cannot be played leaves the directory as it is, but for the flag to begin afresh. -/
theorem recordsAfter_of_not_playable (ha : a.isPlayable = false) (input : String) :
    recordsAfter arguments a records input = (startStore arguments records).directory := by
  obtain ⟨warning, hopened⟩ := openShell_eq arguments a records
  have hreport : a.validate.isPlayable = false := ha
  rw [recordsAfter, hopened, Session.openOn, hreport]
  rfl

/-- An adventure that can be played leaves what the shell makes of the input. -/
theorem recordsAfter_of_playable (ha : a.isPlayable = true) (arguments : Arguments) (records : Directory) :
    ∃ shell : Shell, Session.openOn a (adventureIdOf arguments.path) (startStore arguments records)
        { showTargets := arguments.showTargets } = .ok shell ∧
      Session.InStep a (adventureIdOf arguments.path) shell ∧ shell.store = startStore arguments records ∧
      ∀ input, recordsAfter arguments a records input = (shell.afterLines (inputLines input)).store.directory := by
  obtain ⟨warning, hopened⟩ := openShell_eq arguments a records
  have hautosave : ({ showTargets := arguments.showTargets } : SessionConfig).autosave = true := rfl
  obtain ⟨shell, hopen, hstep, hstore, -⟩ := Session.inStep_openOn ha (adventureIdOf arguments.path)
    (startStore arguments records) hautosave
  refine ⟨shell, hopen, hstep, hstore, fun input => ?_⟩
  rw [hopen] at hopened
  rw [recordsAfter, hopened]

/-- A store that is made of another by rewriting the one file is the store of its directory. -/
theorem eq_ofPath_of_rewritten {id path : String} {store : FileStore}
    (h : FileStore.Rewritten id (.ofPath path records) store) : store = .ofPath path store.directory := by
  obtain ⟨directory, room⟩ := store
  exact congrArg (FileStore.mk directory) h.room

/-- A run changes no more in the directory than the file of the adventure. -/
theorem keepsBut_recordsAfter (arguments : Arguments) (a : Adventure) (records : Directory) (input : String) :
    Directory.KeepsBut (· = [FileStore.fileName (adventureIdOf arguments.path)]) records
      (recordsAfter arguments a records input) := by
  have hstart := rewritten_startStore arguments records
  cases ha : a.isPlayable with
  | false =>
    rw [recordsAfter_of_not_playable ha]
    exact hstart.keepsBut
  | true =>
    obtain ⟨shell, -, hstep, hstore, hafter⟩ := recordsAfter_of_playable ha arguments records
    rw [hafter]
    rw [← hstore] at hstart
    exact (hstart.trans (Shell.inStep_afterLines ha hstep (inputLines input)).2).keepsBut

/-- **What one run leaves on an input in two parts** is what a second run leaves on the second part, after a first
run on the first part. For an adventure that cannot be played there is nothing to take up: the record is as the
first run has left it. -/
theorem recordsAfter_append {first : List String}
    (hfirst : ∀ line ∈ first, '\n' ∉ line.toList ∧ Shell.Request.ofLine 0 line ≠ .quit) (arguments : Arguments)
    (a : Adventure) (records : Directory) (later : String) :
    recordsAfter { arguments with fresh := false } a (recordsAfter arguments a records (lines first)) later =
      recordsAfter arguments a records (lines first ++ later) := by
  cases ha : a.isPlayable with
  | false =>
    rw [recordsAfter_of_not_playable ha, recordsAfter_of_not_playable ha, recordsAfter_of_not_playable ha]
    rfl
  | true =>
    obtain ⟨shell, -, hstep, hstore, hafter⟩ := recordsAfter_of_playable ha arguments records
    have hlines : ∀ line ∈ first, '\n' ∉ line.toList := fun line hline => (hfirst line hline).1
    rw [hafter, hafter, inputLines_lines hlines, inputLines_append hlines,
      Shell.afterLines_append fun line hline => (hfirst line hline).2]
    obtain ⟨hfirstStep, hrewritten⟩ := Shell.inStep_afterLines ha hstep first
    rw [hstore] at hrewritten
    have hdirectory : (shell.afterLines first).store =
        startStore { arguments with fresh := false } (shell.afterLines first).store.directory :=
      eq_ofPath_of_rewritten ((rewritten_startStore arguments records).trans hrewritten)
    obtain ⟨second, hopen, -, -, hsecond⟩ := recordsAfter_of_playable ha
      { arguments with fresh := false } (shell.afterLines first).store.directory
    rw [hsecond]
    rw [← hdirectory] at hopen
    exact congrArg FileStore.directory (Shell.store_reopened ha hfirstStep rfl hopen (inputLines later))

end Records

/-! ## One run in a tree of files -/

section Run

variable {root made : Directory} {environment : Option String} {arguments : List String} {settled : Arguments}
  {a : Adventure} {place : List String} {records : Directory} {fault : FileFault} {input : String}

/-- The ways in which a run comes to an end: nothing is played, the directory of progress records cannot be had,
or the adventure is played and leaves its record in the directory. -/
inductive Leaves (root : Directory) (environment : Option String) (arguments : List String) (input : String) :
    Directory → Prop
  | unread {output : Output} : parseArguments environment arguments = .error output →
      Leaves root environment arguments input root
  | unloaded {settled : Arguments} {e : LoadError} : parseArguments environment arguments = .ok settled →
      load root settled.path = .error e → Leaves root environment arguments input root
  | unprovided {settled : Arguments} {a : Adventure} {fault : FileFault} {made : Directory} :
      parseArguments environment arguments = .ok settled → load root settled.path = .ok a →
      root.provideDirectory settled.saveDirectory = (.error fault, made) →
      Leaves root environment arguments input made
  | played {settled : Arguments} {a : Adventure} {place : List String} {made records : Directory} :
      parseArguments environment arguments = .ok settled → load root settled.path = .ok a →
      root.provideDirectory settled.saveDirectory = (.ok place, made) →
      made.at? place = some (.folder records) →
      Leaves root environment arguments input
        (made.putDirectory (recordsAfter settled a records input) place)

theorem run_of_unread {output : Output} (h : parseArguments environment arguments = .error output) :
    (run root environment arguments input).2 = root := by
  rw [run, h]

theorem run_of_unloaded {e : LoadError} (hsettled : parseArguments environment arguments = .ok settled)
    (hload : load root settled.path = .error e) : (run root environment arguments input).2 = root := by
  simp only [run, hsettled, hload]

theorem run_of_unprovided (hsettled : parseArguments environment arguments = .ok settled)
    (hload : load root settled.path = .ok a)
    (hprovide : root.provideDirectory settled.saveDirectory = (.error fault, made)) :
    (run root environment arguments input).2 = made := by
  simp only [run, hsettled, hload, hprovide]

theorem run_of_provided (hsettled : parseArguments environment arguments = .ok settled)
    (hload : load root settled.path = .ok a)
    (hprovide : root.provideDirectory settled.saveDirectory = (.ok place, made))
    (hrecords : made.at? place = some (.folder records)) :
    (run root environment arguments input).2 =
      made.putDirectory (recordsAfter settled a records input) place := by
  simp only [run, hsettled, hload, hprovide, hrecords, recordsAfter]
  cases (openShell settled a records).shell with
  | none => rfl
  | some shell =>
    have hlast := Shell.runLines_snd shell (inputLines input)
    dsimp only
    rw [← hlast]

theorem leaves_run (root : Directory) (environment : Option String) (arguments : List String) (input : String) :
    Leaves root environment arguments input (run root environment arguments input).2 := by
  cases hsettled : parseArguments environment arguments with
  | error output =>
    rw [run_of_unread hsettled]
    exact .unread hsettled
  | ok settled =>
    cases hload : load root settled.path with
    | error e =>
      rw [run_of_unloaded hsettled hload]
      exact .unloaded hsettled hload
    | ok a =>
      rcases hprovide : root.provideDirectory settled.saveDirectory with ⟨fault | place, made⟩
      · rw [run_of_unprovided hsettled hload hprovide]
        exact .unprovided hsettled hload hprovide
      · obtain ⟨⟨records, hrecords⟩, -⟩ := Directory.provideDirectory_ok_again hprovide
        rw [run_of_provided hsettled hload hprovide hrecords]
        exact .played hsettled hload hprovide hrecords

/-- The place of the record of the adventure: under the name of its file, in the directory of progress records. -/
def IsRecordPlace (root : Directory) (environment : Option String) (arguments : List String)
    (place : List String) : Prop :=
  ∃ settled saves, parseArguments environment arguments = .ok settled ∧
    (root.provideDirectory settled.saveDirectory).1 = .ok saves ∧
    place = saves ++ [FileStore.fileName (adventureIdOf settled.path)]

/-- A run leaves every file alone but the record of its adventure. Directories are added and none is removed; and what
is written is written in the one place, whichever end the run comes to. -/
theorem keepsBut_run (root : Directory) (environment : Option String) (arguments : List String) (input : String) :
    Directory.KeepsBut (IsRecordPlace root environment arguments) root
      (run root environment arguments input).2 := by
  have hmade : ∀ path, Directory.KeepsBut (IsRecordPlace root environment arguments) root
      (root.provideDirectory path).2 := fun path =>
    (root.keeps_provideDirectory path).imp fun _ hfalse => hfalse.elim
  have hleaves := leaves_run root environment arguments input
  generalize (run root environment arguments input).2 = last at hleaves
  cases hleaves with
  | unread _ => exact .refl _ _
  | unloaded _ _ => exact .refl _ _
  | @unprovided settled _ _ _ _ _ hprovide =>
    have hkeeps := hmade settled.saveDirectory
    rw [hprovide] at hkeeps
    exact hkeeps
  | @played settled a place made records hsettled _ hprovide hrecords =>
    have hkeeps := hmade settled.saveDirectory
    rw [hprovide] at hkeeps
    refine hkeeps.trans (((keepsBut_recordsAfter settled a records input).putDirectory hrecords).imp ?_)
    rintro _ ⟨_, rfl, rfl⟩
    exact ⟨settled, place, hsettled, by rw [hprovide], rfl⟩

/-- The record is kept under another name than the adventure's own. The path of the adventure ends in the name of its
file, and the record is named after the part of it before the extension, with the suffix of records behind. -/
theorem not_isRecordPlace_of_find {content : Content}
    (hsettled : parseArguments environment arguments = .ok settled)
    (hfind : root.find settled.path = .ok (.file content)) (hresolve : root.resolve settled.path = .ok place) :
    ¬ IsRecordPlace root environment arguments place := by
  rintro ⟨settled', saves, hsettled', -, hplace⟩
  obtain rfl := Except.ok.inj (hsettled.symm.trans hsettled')
  obtain ⟨place', hresolve', hat⟩ := Directory.find_eq_ok_iff.mp hfind
  obtain rfl := Except.ok.inj (hresolve.symm.trans hresolve')
  obtain ⟨front, name, hname, hfile⟩ := Directory.fileName?_of_resolve hresolve hat
  have hid : adventureIdOf settled.path = String.ofList (splitName name.toList).1 := by
    rw [adventureIdOf, stem?, hfile]
    rfl
  obtain ⟨-, heq⟩ := List.append_singleton_inj.mp (hplace.symm.trans hname)
  rw [hid] at heq
  exact FileStore.toList_fileName_stem_ne name.toList (congrArg String.toList heq)

/-- A run leaves the file of the adventure alone. -/
theorem find_run {content : Content} (hsettled : parseArguments environment arguments = .ok settled)
    (hfind : root.find settled.path = .ok (.file content)) (input : String) :
    (run root environment arguments input).2.find settled.path = .ok (.file content) :=
  (keepsBut_run root environment arguments input).find hfind fun _ hresolve =>
    not_isRecordPlace_of_find hsettled hfind hresolve

/-- **A reading may be spread over several runs.** Play on some lines, among which the reader does not leave, and
then, with the same arguments but without beginning afresh, on further input, leaves the tree of files that play on
the whole input leaves, whatever was in it: the same files with the same contents at the same places. Whatever the
input, a run leaves every directory in place and every file alone but the one record of the adventure, which is in
the directory of progress records; and so it never touches the file of the adventure. -/
theorem reading_in_runs (root : Directory) (environment : Option String) (arguments : List String) :
    (∀ (first : List String) (later : String),
      (∀ line ∈ first, '\n' ∉ line.toList ∧ Shell.Request.ofLine 0 line ≠ .quit) →
        (run (run root environment arguments (lines first)).2 environment (withoutFresh arguments) later).2 =
          (run root environment arguments (lines first ++ later)).2) ∧
    (∀ input, Directory.KeepsBut (IsRecordPlace root environment arguments) root
      (run root environment arguments input).2) ∧
    (∀ input settled content, parseArguments environment arguments = .ok settled →
      root.find settled.path = .ok (.file content) →
        (run root environment arguments input).2.find settled.path = .ok (.file content)) := by
  refine ⟨fun first later hfirst => ?_, keepsBut_run root environment arguments,
    fun input settled content hsettled hfind => find_run hsettled hfind input⟩
  have hwithout := parseArguments_withoutFresh environment arguments
  have hkept : ∀ {settled : Arguments} {a : Adventure}, parseArguments environment arguments = .ok settled →
      load root settled.path = .ok a →
      load (run root environment arguments (lines first)).2 settled.path = .ok a := by
    intro settled a hsettled hload
    obtain ⟨content, hfind, hload'⟩ := find_of_load hload
    exact hload' _ (find_run hsettled hfind (lines first))
  have hleaves := leaves_run root environment arguments (lines first)
  generalize (run root environment arguments (lines first)).2 = middle at hleaves hkept
  cases hleaves with
  | unread hunread =>
    rw [hunread] at hwithout
    rw [run_of_unread hwithout, run_of_unread hunread]
  | unloaded hsettled hunloaded =>
    rw [hsettled] at hwithout
    rw [run_of_unloaded hwithout hunloaded, run_of_unloaded hsettled hunloaded]
  | unprovided hsettled hload hprovide =>
    rw [hsettled] at hwithout
    obtain ⟨fault, hagain⟩ := Directory.provideDirectory_error_again hprovide
    have hload' := hkept hsettled hload
    rw [run_of_unprovided hwithout hload' hagain, run_of_unprovided hsettled hload hprovide]
  | @played settled a place made records hsettled hload hprovide hrecords =>
    rw [hsettled] at hwithout
    obtain ⟨hfolder, hagain⟩ := Directory.provideDirectory_ok_again hprovide
    -- The second run finds the directory at its place, as the first run has left it.
    have hleft := (keepsBut_recordsAfter settled a records (lines first)).putDirectory hrecords
    have hload' := hkept hsettled hload
    rw [run_of_provided hwithout hload' (hagain _ hleft.folder)
        (Directory.at?_putDirectory hfolder _),
      run_of_provided hsettled hload hprovide hrecords, Directory.putDirectory_putDirectory hfolder,
      recordsAfter_append hfirst]

/-- A directory with a short adventure in it. -/
def shelf : Directory :=
  [("cellar.ron", .file (.text ("(metadata: (title: \"Cellar\"), introduction: (paragraphs: [\"Stairs.\"]), " ++
    "passages: [(id: 1, paragraphs: [\"It is dark.\"], endingType: Some(\"darkness\"))])")))]

/-- The cellar is begun afresh and left; its records are kept beside it. A second run takes the position up, and
what is left is what one run would have left: the record, and the adventure as it was. -/
theorem reading_in_runs_shelf :
    (∃ records, (run shelf none ["cellar.ron", "--fresh", "--save-dir", "."] (lines ["start"])).2 = records ∧
      (run records none ["cellar.ron", "--save-dir", "."] "inventory\nq").2 =
        (run shelf none ["cellar.ron", "--fresh", "--save-dir", "."] (lines ["start"] ++ "inventory\nq")).2 ∧
      records.fileAt? ["cellar.progress.json"] = some (.text (Progress.render ⟨"cellar", 1, .empty⟩))) ∧
    (run shelf none ["cellar.ron", "--fresh", "--save-dir", "."] (lines ["start"])).2.find "cellar.ron" =
      shelf.find "cellar.ron" := by
  have hruns := (reading_in_runs shelf none ["cellar.ron", "--fresh", "--save-dir", "."]).1
  have hfind := (reading_in_runs shelf none ["cellar.ron", "--fresh", "--save-dir", "."]).2.2
  refine ⟨⟨_, rfl, hruns ["start"] "inventory\nq" (by decide +kernel), by decide +kernel⟩, ?_⟩
  exact hfind (lines ["start"]) ⟨"cellar.ron", ".", false, true⟩ _ rfl rfl

end Run

end Command.Play

end Gamebook
