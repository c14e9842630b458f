import Gamebook.Proofs.CrashConsistency
import Gamebook.Proofs.Files.Places
import Gamebook.Proofs.RecordFiles

/-!
# What play writes into its directory

A session that saves its positions rewrites the file of its adventure, or, if that file cannot be written,
nothing at all; whether it can be written is settled before and does not change (`Rewritten`,
`Session.rewritten_act`). As long as it can, the record is what a new session takes up to be where the old one
is (`Session.InStep`). This holds whatever stood under the name of the file at first: nothing, an old record, that
of another adventure, or no record at all.

Whether the file can be written is a matter of its name and of what has the name: it is short enough, and no directory
has it (`Writable`). Neither changes by writing or erasing the file. So the same call would be refused again, and a
session that could not save once can never save; its reader plays on, and the tree is as it was. That is the
difference to a store that fails on and off.

The two properties go together in what a run of the program leaves. What is changed is one file at most, which matters
to everything else in the tree; and what is in the file is where play has come to, which matters to the next run. To
be in step does not ask that the record is that of the snapshot from the beginning: a session that opens at the
introduction because the file was no record is in step with it, as a new one would open there too.
-/

namespace Gamebook

open Files

/-! ## The one file -/

namespace Files.Directory

variable {directory written : Directory} {name value : String}

theorem noFolder_of_writeText (h : directory.writeText name value = .ok written) :
    directory.NoFolder name := by
  intro inner hinner
  rw [writeText, hinner] at h
  split at h <;> cases h

theorem noFolder_of_removeFile (h : directory.removeFile name = .ok written) : directory.NoFolder name := by
  intro inner hinner
  rw [removeFile, hinner] at h
  split at h <;> cases h

theorem noFolder_put_file (directory : Directory) (name : String) (content : Content) :
    NoFolder (directory.put name (.file content)) name := by
  intro inner hinner
  rw [Table.get?_put, if_pos rfl] at hinner
  cases hinner

theorem noFolder_erase (directory : Directory) (name : String) : NoFolder (directory.erase name) name := by
  intro inner hinner
  rw [Table.get?_erase, if_pos rfl] at hinner
  cases hinner

end Files.Directory

namespace FileStore

/-- The file of an adventure can be written: its name is short enough, and no directory has it. -/
structure Writable (store : FileStore) (id : String) : Prop where
  fits : Fits store.room id
  free : store.directory.NoFolder (fileName id)

/-- A store in which nothing is changed, or only the file of an adventure, which could be written. -/
inductive Rewritten (id : String) (store : FileStore) : FileStore → Prop
  | same : Rewritten id store store
  | file {directory : Directory} : store.Writable id → directory.NoFolder (fileName id) →
      (∀ other, other ≠ fileName id → directory.get? other = store.directory.get? other) →
      Rewritten id store { store with directory }

variable {store store' store'' : FileStore} {id : String} {p : Progress}

theorem Rewritten.room (h : Rewritten id store store') : store'.room = store.room := by
  cases h <;> rfl

theorem Rewritten.writable_iff (h : Rewritten id store store') : store'.Writable id ↔ store.Writable id := by
  cases h with
  | same => exact Iff.rfl
  | file hwritable hfree _ => exact ⟨fun _ => hwritable, fun _ => ⟨hwritable.fits, hfree⟩⟩

theorem Rewritten.eq_of_not_writable (h : Rewritten id store store') (hnot : ¬ store.Writable id) :
    store' = store := by
  cases h with
  | same => rfl
  | file hwritable _ _ => exact absurd hwritable hnot

theorem Rewritten.trans (h : Rewritten id store store') (h' : Rewritten id store' store'') :
    Rewritten id store store'' := by
  cases h with
  | same => exact h'
  | file hwritable hfree hothers =>
    cases h' with
    | same => exact .file hwritable hfree hothers
    | file _ hfree' hothers' =>
      exact .file hwritable hfree' fun other hother => (hothers' other hother).trans (hothers other hother)

/-- Nothing else in the directory is changed. -/
theorem Rewritten.keepsBut (h : Rewritten id store store') :
    Directory.KeepsBut (· = [fileName id]) store.directory store'.directory := by
  cases h with
  | same => exact .refl _ _
  | file hwritable hfree hothers => exact Directory.keepsBut_of_get? hothers hwritable.free hfree

theorem save_of_writable (h : store.Writable p.adventureId) :
    store.save p = .ok (store.withFile p.adventureId p.render) := by
  rw [save_eq_saveText]
  exact saveText_of_fits h.fits h.free p.render

theorem fits_of_file (h : store.file id = .ok (fileName id)) (hlong : isTooLong (fileName id) = false) :
    Fits store.room id := by
  refine ⟨Nat.not_lt.mp (of_decide_eq_false hlong), Nat.not_lt.mp fun hroom => ?_⟩
  simp [file, hroom] at h

/-- A record that is saved is written into a file that could be written. -/
theorem writable_of_save_ok (h : store.save p = .ok store') : store.Writable p.adventureId := by
  obtain ⟨hfile, hlong, -⟩ := save_eq_ok h
  refine ⟨fits_of_file hfile hlong, ?_⟩
  rw [save, hfile] at h
  simp only [bind, Except.bind] at h
  split at h
  · rename_i hwrite
    exact Directory.noFolder_of_writeText hwrite
  · cases h

/-- A record that is cleared was in a file that could be written, or could have been. -/
theorem writable_of_clear_ok (h : store.clear id = .ok store') : store.Writable id := by
  obtain ⟨hfile, hlong, -⟩ := clear_eq_ok h
  refine ⟨fits_of_file hfile hlong, ?_⟩
  rw [clear, hfile] at h
  simp only [bind, Except.bind] at h
  split at h
  · rename_i hremove
    exact Directory.noFolder_of_removeFile hremove
  · rename_i hmissing
    intro inner hinner
    rw [(Directory.removeFile_eq_notFound hmissing).2] at hinner
    cases hinner
  · cases h

/-- A call changes no more than the file of its adventure, and that only if it could be written. Loading changes
nothing, and neither does a write that is refused. -/
theorem rewritten_send (store : FileStore) (call : StoreCall) :
    Rewritten call.adventureId store (call.send store).2 := by
  cases call with
  | load id => exact .same
  | save progress =>
    simp only [StoreCall.send, StoreCall.adventureId, progressStore_save]
    cases h : store.save progress with
    | error e => exact .same
    | ok store' =>
      have hwritable := writable_of_save_ok h
      rw [save_of_writable hwritable] at h
      cases h
      refine .file hwritable (Directory.noFolder_put_file _ _ _) fun other hother => ?_
      exact (Table.get?_put ..).trans (if_neg (Ne.symm hother))
  | clear id =>
    simp only [StoreCall.send, StoreCall.adventureId, progressStore_clear]
    cases h : store.clear id with
    | error e => exact .same
    | ok store' =>
      have hwritable := writable_of_clear_ok h
      rw [clear_of_fits hwritable.fits hwritable.free] at h
      cases h
      refine .file hwritable (Directory.noFolder_erase _ _) fun other hother => ?_
      exact (Table.get?_erase ..).trans (if_neg (Ne.symm hother))

/-- As long as the file can be written, what is saved is the record then. -/
theorem recordOf_save_of_writable (h : store.Writable p.adventureId) :
    recordOf ((StoreCall.save p).send store).2 p.adventureId = .ok (some p) := by
  have hsave := save_of_writable h
  simp only [recordOf, StoreCall.send, progressStore_save, progressStore_load, hsave, outcome]
  exact load_of_save_ok hsave

end FileStore

/-! ## Sessions -/

namespace Session

open FileStore (Rewritten)

variable {a : Adventure} {id : String} {s : Session FileStore}

theorem rewritten_phase (h : Autosaving a id s) (phase : Phase) :
    Rewritten id s.store (s.phase phase).store := by
  rcases h.phase_cases phase with hphase | ⟨call, held, hwrites, hphase⟩
  · rw [hphase]
    exact .same
  · rw [hphase, ← hwrites.adventureId]
    exact FileStore.rewritten_send s.store call

/-- An action changes no more than the file of the adventure. -/
theorem rewritten_act (h : Autosaving a id s) (action : Action) :
    Autosaving a id (s.act action).2 ∧ Rewritten id s.store (s.act action).2.store := by
  rw [act_eq_through]
  -- By induction on the phases of the action.
  generalize action.phases = phases
  induction phases generalizing s with
  | nil => exact ⟨h, .same⟩
  | cons phase phases ih =>
    obtain ⟨hautosaving, hrewritten⟩ := ih (h.phase phase)
    exact ⟨hautosaving, (rewritten_phase h phase).trans hrewritten⟩

/-- A session whose record, as long as it can be written, is taken up where the session is. -/
structure InStep (a : Adventure) (id : String) (s : Session FileStore) : Prop where
  autosaving : Autosaving a id s
  kept : s.store.Writable id → Snapshot.opening a (recordOf s.store id) = s.snapshot

/-- A session is in step with its store when it opens, whatever the store holds. -/
theorem inStep_openOn (ha : a.isPlayable = true) (id : String) (store : FileStore) {config : SessionConfig}
    (hautosave : config.autosave = true) :
    ∃ opened, openOn a id store config = .ok opened ∧ InStep a id opened ∧ opened.store = store ∧
      opened.snapshot = Snapshot.opening a (recordOf store id) ∧ opened.config = config := by
  obtain ⟨warnings, hopen⟩ := openOn_eq ha id store config
  rw [FileStore.progressStore_load, ← FileStore.recordOf_eq_load] at hopen
  dsimp only at hopen
  refine ⟨_, hopen, ⟨⟨rfl, rfl, hautosave⟩, fun _ => ?_⟩, rfl, ?_, rfl⟩
  · dsimp only
  · dsimp only

/-- A transition that is made leaves a session in step, whatever the record was before. If the file can be written,
it now holds the position, and this is taken up where the step has led. -/
theorem inStep_perform (h : Autosaving a id s) {action : Action} {t : Snapshot}
    (hstep : s.snapshot.step s.adventure action = .ok t) : InStep a id (s.perform action).2 := by
  have hphase := h.phase (.perform action)
  refine ⟨hphase, fun hwritable => ?_⟩
  replace hwritable := (rewritten_phase h (.perform action)).writable_iff.mp hwritable
  obtain ⟨rfl, rfl, hautosave⟩ := h
  rcases s.perform_cases action with ⟨e, herror, -⟩ | ⟨t', passage, hstep', hpassage, hperform⟩
  · rw [hstep] at herror
    cases herror
  · obtain rfl := Except.ok.inj (hstep.symm.trans hstep')
    rw [hperform, if_pos hautosave]
    have hprogress : t.progress? s.adventureId = some ⟨s.adventureId, passage, t.inventory⟩ := by
      rw [Snapshot.progress?, hpassage]
      rfl
    -- The save succeeds, so its record is the one that is taken up.
    have hrecord : recordOf ((StoreCall.save ⟨s.adventureId, passage, t.inventory⟩).send s.store).2 s.adventureId =
        .ok (some ⟨s.adventureId, passage, t.inventory⟩) :=
      FileStore.recordOf_save_of_writable (p := ⟨s.adventureId, passage, t.inventory⟩) hwritable
    dsimp only [tell]
    rw [hrecord]
    exact (Snapshot.step_eq_ok_iff.mp hstep).opening hprogress

/-- **Every action leaves a session in step.** If it is refused, nothing changes; if it is a restart, the record is
cleared and then written, and only the second matters. -/
theorem InStep.act (ha : a.isPlayable = true) (h : InStep a id s) (action : Action) :
    InStep a id (s.act action).2 := by
  have hperform : InStep a id (s.perform action).2 := by
    rcases s.perform_cases action with ⟨e, -, hperform⟩ | ⟨t, -, hstep, -, -⟩
    · rw [hperform]
      exact h
    · exact inStep_perform h.autosaving hstep
  cases action with
  | start => exact hperform
  | choose index => exact hperform
  | restart =>
    -- The record is cleared first, and a restart is always made.
    have hforget : Autosaving a id s.forget := h.autosaving.phase .forget
    obtain ⟨t, hstep⟩ := Snapshot.exists_restart (Adventure.sound_of_isPlayable ha) s.forget.snapshot
    rw [← hforget.adventure] at hstep
    exact inStep_perform hforget hstep

end Session

end Gamebook
