import Gamebook.Proofs.Files.Paths
import Gamebook.Proofs.Files.Places

/-!
# Directories that are made where they are missing

To make a directory adds an empty one and touches no file; so does making those above it first. When it has been
made, its path leads to it, in this tree and in every later one that keeps the directories. When it could not be
made, it cannot be made on a second try: what has been made of the directories above it is there already, and a
path under which a directory can be made has the one above it (`hasFolder_above_of_ensureDirectory`).

The second try is what a reader makes who runs the program twice. It must not come out differently, or the two runs
would leave different trees. For the case that a directory was provided this is easy, since nothing is made where it is
there. For the case that it was not, the reasons are many: a file is in the way, a name is too long, a path leads out of
the tree. It is not followed which of them it was. The directories are made from the top down, so a failure in the
middle leaves those above it made. On a second try these are found, and the first that could not be made is asked for
again, in a directory that is as it was.

What a path leads to is told by its moves here, without the steps that go nowhere, since the path of a directory and
those above it are spelled differently. A single dot at the end is a step that goes nowhere only where it stands in a
directory, and that is why `resolve_eq_ok_iff_moves` asks for one.
-/

namespace Gamebook.Files.Directory

/-! ## Where a path leads

A path is resolved step by step, and each step may fail. The lemmas here put this in terms of the relation `Leads`, in
which steps that go nowhere can be left out and two parts of a way can be followed one after the other. -/

section Ways

variable {root : Directory} {place last : List String} {way : List Step} {path : String} {node : Node}

theorem resolve_eq_ok_iff :
    root.resolve path = .ok place ↔ pathFault? path = none ∧ Leads root [] (steps path) place := by
  unfold resolve
  cases hfault : pathFault? path with
  | none => simp [follow_eq_ok_iff]
  | some fault => simp

theorem find_eq_ok_iff :
    root.find path = .ok node ↔ ∃ place, root.resolve path = .ok place ∧ root.at? place = some node := by
  unfold find
  cases hresolve : root.resolve path with
  | error fault => simp [bind, Except.bind]
  | ok place =>
    simp only [bind, Except.bind]
    cases hat : root.at? place with
    | none => simp [throw, throwThe, MonadExceptOf.throw, hat]
    | some node => simp [pure, Except.pure, hat]

/-- Steps that go nowhere can be left out. -/
theorem Leads.filter (h : Leads root place way last) : Leads root place (way.filter (· ≠ .here)) last := by
  induction h with
  | stop => exact .stop _
  | here _ _ ih => exact ih
  | up hfolder hplace _ ih => exact .up hfolder hplace ih
  | into hfolder hlong hsome _ ih => exact .into hfolder hlong hsome ih

/-- They may be made wherever a way leads on, or to a directory. -/
theorem leads_of_filter (h : Leads root place (way.filter (· ≠ .here)) last) (hlast : root.HasFolderAt last) :
    Leads root place way last := by
  induction way generalizing place with
  | nil => exact h
  | cons step way ih =>
    cases step with
    | here =>
      have hrest : Leads root place (way.filter (· ≠ .here)) last := h
      refine .here ?_ (ih hrest)
      by_cases hway : way.filter (· ≠ .here) = []
      · rw [hway] at hrest
        cases hrest with
        | stop => exact hlast
      · exact hrest.hasFolderAt hway
    | up =>
      cases h with
      | up hfolder hplace hrest => exact .up hfolder hplace (ih hrest)
    | into name =>
      cases h with
      | into hfolder hlong hsome hrest => exact .into hfolder hlong hsome (ih hrest)

/-- A path leads to a directory if its moves do. -/
theorem resolve_eq_ok_iff_moves (hfolder : root.HasFolderAt place) :
    root.resolve path = .ok place ↔ pathFault? path = none ∧ Leads root [] (moves path) place := by
  rw [resolve_eq_ok_iff, ← filter_steps]
  exact and_congr_right fun _ => ⟨Leads.filter, fun h => leads_of_filter h hfolder⟩

theorem hasFolder_iff :
    root.hasFolder path = true ↔ ∃ place, root.resolve path = .ok place ∧ root.HasFolderAt place := by
  have hfind : root.hasFolder path = true ↔ ∃ entries, root.find path = .ok (.folder entries) := by
    unfold hasFolder
    rcases root.find path with _ | _ | _ <;> simp
  rw [hfind]
  constructor
  · rintro ⟨entries, h⟩
    obtain ⟨place, hresolve, hat⟩ := find_eq_ok_iff.mp h
    exact ⟨place, hresolve, entries, hat⟩
  · rintro ⟨place, hresolve, entries, hat⟩
    exact ⟨entries, find_eq_ok_iff.mpr ⟨place, hresolve, hat⟩⟩

end Ways

/-! ## One directory -/

section Make

variable {root root' : Directory} {path above : String}

/-- A directory is made under a name where nothing stands, in a directory that exists. -/
theorem makeDirectory_eq_ok (h : root.makeDirectory path = .ok root') :
    pathFault? path = none ∧ ∃ (front : List Step) (place : List String) (entries : Directory) (name : String),
      moves path = front ++ [.into name] ∧ Leads root [] front place ∧
      root.at? place = some (.folder entries) ∧ isTooLong name = false ∧ entries.get? name = none ∧
      root' = root.putDirectory (entries.put name (.folder [])) place := by
  unfold makeDirectory at h
  cases hfault : pathFault? path with
  | some fault =>
    rw [hfault] at h
    cases h
  | none =>
    refine ⟨rfl, ?_⟩
    rw [hfault] at h
    simp only [bind, Except.bind, pure, Except.pure] at h
    cases hfollow : root.follow (steps (withoutTrailingSlashes path)).dropLast with
    | error fault =>
      rw [hfollow] at h
      cases h
    | ok place =>
      rw [hfollow] at h
      dsimp only at h
      split at h
      · rename_i entries name hat hlast
        split at h
        · cases h
        · rename_i hlong
          split at h
          · cases h
          · rename_i hnone
            have hnone : Table.get? name entries = none := by simpa using hnone
            obtain ⟨front, hfront⟩ := List.getLast?_eq_some_iff.mp hlast
            rw [hfront, List.dropLast_concat] at hfollow
            refine ⟨front.filter (· ≠ .here), place, entries, name, ?_, (follow_eq_ok_iff.mp hfollow).filter,
              hat, Bool.eq_false_iff.mpr hlong, hnone, ?_⟩
            · rw [moves, ← nameParts_withoutTrailingSlashes, ← moves, ← filter_steps, hfront,
                List.filter_append]
              rfl
            · rw [← putAt_concat hat]
              exact (Except.ok.inj h).symm
      · cases h
      · cases h

theorem keeps_of_makeDirectory (h : root.makeDirectory path = .ok root') : Keeps root root' := by
  obtain ⟨-, front, place, entries, name, -, -, hat, -, hnone, rfl⟩ := makeDirectory_eq_ok h
  refine ((keeps_put_empty hnone).putDirectory hat).imp ?_
  rintro _ ⟨_, -, hfalse⟩
  exact hfalse

theorem hasFolder_of_makeDirectory (h : root.makeDirectory path = .ok root') : root'.hasFolder path = true := by
  have hkeeps := keeps_of_makeDirectory h
  obtain ⟨hfault, front, place, entries, name, hmoves, hleads, hat, hlong, -, hroot⟩ := makeDirectory_eq_ok h
  have hplace : root.HasFolderAt place := ⟨entries, hat⟩
  have hat' : root'.at? place = some (.folder (entries.put name (.folder []))) := by
    rw [hroot]
    exact at?_putDirectory hplace _
  have hmade : root'.at? (place ++ [name]) = some (.folder []) := by
    rw [at?_concat hat']
    exact (Table.get?_put ..).trans (if_pos rfl)
  have hfolder : root'.HasFolderAt (place ++ [name]) := ⟨[], hmade⟩
  refine hasFolder_iff.mpr ⟨_, (resolve_eq_ok_iff_moves hfolder).mpr ⟨hfault, ?_⟩, hfolder⟩
  rw [hmoves]
  refine (hleads.kept hkeeps.folder (by rw [hat']; rfl)).append ?_
  exact .into ⟨_, hat'⟩ hlong (by rw [hmade]; rfl) (.stop _)

/-- Where a directory exists, none is made. -/
theorem makeDirectory_ne_ok (h : root.hasFolder path = true) : root.makeDirectory path ≠ .ok root' := by
  intro hmake
  obtain ⟨-, front, place, entries, name, hmoves, hleads, hat, -, hnone, -⟩ := makeDirectory_eq_ok hmake
  obtain ⟨last, hresolve, hfolder⟩ := hasFolder_iff.mp h
  have hleads' := ((resolve_eq_ok_iff_moves hfolder).mp hresolve).2
  rw [hmoves] at hleads'
  obtain ⟨middle, hfront, hinto⟩ := hleads'.split
  obtain rfl := hleads.unique hfront
  cases hinto with
  | into _ _ hsome _ =>
    rw [at?_concat hat, hnone] at hsome
    cases hsome

theorem ensureDirectory_of_hasFolder (h : root.hasFolder path = true) : root.ensureDirectory path = .ok root := by
  unfold ensureDirectory
  cases hmake : root.makeDirectory path with
  | ok made => exact absurd hmake (makeDirectory_ne_ok h)
  | error fault => exact if_pos h

/-- A directory that is ensured is made or was there. -/
theorem ensureDirectory_cases (h : root.ensureDirectory path = .ok root') :
    root.makeDirectory path = .ok root' ∨ root.hasFolder path = true ∧ root' = root := by
  unfold ensureDirectory at h
  cases hmake : root.makeDirectory path with
  | ok made =>
    rw [hmake] at h
    exact .inl h
  | error fault =>
    rw [hmake] at h
    dsimp only at h
    split at h
    · rename_i hfolder
      exact .inr ⟨hfolder, (Except.ok.inj h).symm⟩
    · cases h

theorem keeps_of_ensureDirectory (h : root.ensureDirectory path = .ok root') : Keeps root root' := by
  rcases ensureDirectory_cases h with hmake | ⟨-, rfl⟩
  · exact keeps_of_makeDirectory hmake
  · exact .refl _ _

theorem hasFolder_of_ensureDirectory (h : root.ensureDirectory path = .ok root') :
    root'.hasFolder path = true := by
  rcases ensureDirectory_cases h with hmake | ⟨hfolder, rfl⟩
  · exact hasFolder_of_makeDirectory hmake
  · exact hfolder

/-- A directory that exists or can be made lies in one that exists. Its moves without the last lead to a directory,
and these are the moves of the path above it. -/
theorem hasFolder_above_of_ensureDirectory (habove : Above path above)
    (h : root.ensureDirectory path = .ok root') : root.hasFolder above = true := by
  -- The moves of the path above lead to a directory, from which the last move is made.
  suffices hleads : pathFault? path = none ∧ ∃ place, Leads root [] (moves above) place ∧
      root.HasFolderAt place by
    obtain ⟨hfault, place, hleads, hfolder⟩ := hleads
    exact hasFolder_iff.mpr
      ⟨place, (resolve_eq_ok_iff_moves hfolder).mpr ⟨habove.leads hfault, hleads⟩, hfolder⟩
  have hmoves : moves above = (moves path).dropLast := by
    rw [moves, habove.parts, List.map_dropLast, moves]
  rcases ensureDirectory_cases h with hmake | ⟨hfolder, -⟩
  · obtain ⟨hfault, front, place, entries, name, hpath, hleads, hat, -, -, -⟩ := makeDirectory_eq_ok hmake
    refine ⟨hfault, place, ?_, entries, hat⟩
    rw [hmoves, hpath, List.dropLast_concat]
    exact hleads
  · obtain ⟨last, hresolve, hlast⟩ := hasFolder_iff.mp hfolder
    obtain ⟨hfault, hleads⟩ := (resolve_eq_ok_iff_moves hlast).mp hresolve
    refine ⟨hfault, ?_⟩
    rw [hmoves]
    rcases List.eq_nil_or_concat' (moves path) with hnil | ⟨front, step, hpath⟩
    · rw [hnil]
      exact ⟨[], .stop [], hasFolderAt_nil root⟩
    · rw [hpath] at hleads ⊢
      obtain ⟨middle, hfront, hstep⟩ := hleads.split
      rw [List.dropLast_concat]
      exact ⟨middle, hfront, hstep.hasFolderAt (List.cons_ne_nil _ _)⟩

end Make

/-! ## A directory and those above it -/

section Provide

variable {root root' made : Directory} {path : String} {paths : List String} {fault : FileFault}

theorem keeps_ensureFirst (root : Directory) (paths : List String) : Keeps root (root.ensureFirst paths).2 := by
  induction paths with
  | nil => exact .refl _ _
  | cons path above ih =>
    unfold ensureFirst
    split
    · rename_i hensure
      exact keeps_of_ensureDirectory hensure
    · split
      · rename_i middle habove
        rw [habove] at ih
        split
        · rename_i hensure
          exact ih.trans (keeps_of_ensureDirectory hensure)
        · exact ih
      · rename_i habove
        rw [habove] at ih
        exact ih
    · exact .refl _ _

theorem hasFolder_of_ensureFirst (h : root.ensureFirst (path :: paths) = (.ok (), root')) :
    root'.hasFolder path = true := by
  unfold ensureFirst at h
  split at h
  · rename_i hensure
    cases h
    exact hasFolder_of_ensureDirectory hensure
  · split at h
    · split at h
      · rename_i hensure
        cases h
        exact hasFolder_of_ensureDirectory hensure
      · cases h
    · cases h
  · cases h

theorem ensureFirst_of_hasFolder (h : root.hasFolder path = true) (paths : List String) :
    root.ensureFirst (path :: paths) = (.ok (), root) := by
  rw [ensureFirst, ensureDirectory_of_hasFolder h]

/-- What has been made is there on a second try. -/
theorem ensureFirst_ok_again (h : root.ensureFirst paths = (.ok (), root')) :
    root'.ensureFirst paths = (.ok (), root') := by
  cases paths with
  | nil => rfl
  | cons path above => exact ensureFirst_of_hasFolder (hasFolder_of_ensureFirst h) above

/-- A directory that could not be made cannot be made on a second try, and nothing more is made then. By induction
on the paths above: either those are refused again, or they are there now and the directory itself is refused in the
same tree. -/
theorem ensureFirst_error_again (hchain : List.IsChain Above paths)
    (h : root.ensureFirst paths = (.error fault, root')) :
    ∃ fault, root'.ensureFirst paths = (.error fault, root') := by
  induction paths generalizing fault with
  | nil => cases h
  | cons path above ih =>
    unfold ensureFirst at h
    split at h
    · cases h
    · split at h
      · rename_i middle habove
        split at h
        · cases h
        -- Those above it exist now, and the directory itself is refused as before.
        · rename_i hrefused
          cases h
          unfold ensureFirst
          rw [hrefused]
          split
          · rename_i heq
            cases heq
          · rw [ensureFirst_ok_again habove]
            dsimp only
            rw [hrefused]
            exact ⟨_, rfl⟩
          · exact ⟨_, rfl⟩
      -- Those above it cannot be made, so the directory itself cannot.
      · rename_i habove
        cases h
        obtain ⟨later, hlater⟩ := ih hchain.tail habove
        unfold ensureFirst
        split
        · rename_i made hensure
          cases above with
          | nil => cases habove
          | cons next above =>
            have hnext := hasFolder_above_of_ensureDirectory hchain.rel hensure
            rw [ensureFirst_of_hasFolder hnext] at hlater
            cases hlater
        · rw [hlater]
          exact ⟨_, rfl⟩
        · exact ⟨_, rfl⟩
    · rename_i hnot hrefused
      cases h
      unfold ensureFirst
      rw [hrefused]
      split
      · rename_i heq
        cases heq
      · rename_i heq
        exact absurd (Except.error.inj heq) hnot
      · exact ⟨_, rfl⟩

/-- Whatever comes of it, no directory and no file is lost or changed, and no file is made. -/
theorem keeps_provideDirectory (root : Directory) (path : String) :
    Keeps root (root.provideDirectory path).2 := by
  have hkeeps := root.keeps_ensureFirst (path :: pathsAbove path)
  unfold provideDirectory
  split
  · exact .refl _ _
  · split
    · rename_i hensure
      rw [hensure] at hkeeps
      exact hkeeps
    · rename_i hensure
      rw [hensure] at hkeeps
      exact hkeeps

/-- A directory that is provided exists, and is provided again from any tree that keeps the directories, without
a change. So between two runs files may be written, as they are by a session. -/
theorem provideDirectory_ok_again {place : List String} (h : root.provideDirectory path = (.ok place, made)) :
    made.HasFolderAt place ∧ ∀ later : Directory,
      (∀ {place}, made.HasFolderAt place → later.HasFolderAt place) →
        later.provideDirectory path = (.ok place, later) := by
  by_cases hempty : path.isEmpty = true
  · simp only [provideDirectory, if_pos hempty] at h ⊢
    cases h
    exact ⟨hasFolderAt_nil _, fun later _ => rfl⟩
  · simp only [provideDirectory, if_neg hempty] at h ⊢
    split at h
    · rename_i middle hensure
      obtain ⟨hresolve, rfl⟩ := Prod.mk.inj h
      obtain ⟨last, hresolve', hfolder⟩ := hasFolder_iff.mp (hasFolder_of_ensureFirst hensure)
      obtain rfl := Except.ok.inj (hresolve.symm.trans hresolve')
      refine ⟨hfolder, fun later hlater => ?_⟩
      obtain ⟨hfault, hleads⟩ := resolve_eq_ok_iff.mp hresolve
      have hfolder' : later.HasFolderAt place := hlater hfolder
      have hresolve' : later.resolve path = .ok place := by
        obtain ⟨entries, hentries⟩ := hfolder'
        exact resolve_eq_ok_iff.mpr ⟨hfault, hleads.kept hlater (by rw [hentries]; rfl)⟩
      rw [ensureFirst_of_hasFolder (hasFolder_iff.mpr ⟨place, hresolve', hfolder'⟩)]
      exact Prod.ext hresolve' rfl
    · cases h

/-- A directory that cannot be provided cannot be provided on a second try, and nothing is changed then. -/
theorem provideDirectory_error_again (h : root.provideDirectory path = (.error fault, made)) :
    ∃ fault, made.provideDirectory path = (.error fault, made) := by
  by_cases hempty : path.isEmpty = true
  · rw [provideDirectory, if_pos hempty] at h
    cases h
  · simp only [provideDirectory, if_neg hempty] at h ⊢
    split at h
    · rename_i middle hensure
      obtain ⟨last, hresolve, -⟩ := hasFolder_iff.mp (hasFolder_of_ensureFirst hensure)
      rw [hresolve] at h
      cases h
    · rename_i hensure
      cases h
      obtain ⟨later, hlater⟩ := ensureFirst_error_again (pathsAbove_isChain path) hensure
      rw [hlater]
      exact ⟨_, rfl⟩

end Provide

end Gamebook.Files.Directory
