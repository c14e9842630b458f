import Gamebook.Proofs.Store
import Gamebook.Proofs.StoreCalls

/-!
# Stores whose writes are made or not made

A store is `Transactional` if a write that succeeds leaves what it was to leave, and one that fails leaves
the record as it was. The store in memory is, and so is the store in files, whatever stands in its
directory: a file that is no record, or that belongs to another adventure, is left alone until a write
succeeds and is gone then. To refuse some of the writes keeps a store transactional.

This is a law about each call by itself, and about the one record it concerns. It does not promise that a write
succeeds, nor that one does after another has; a disk may be full now and not later. It says nothing of other
adventures, which may share the file. And it is about writes as they end: a process that is killed in the middle of a
write leaves a file that no call of the store has left.

For the store in files the law comes from one function at a time. `saveText` writes a text into the file of an adventure
and is what saving is, with the text left open; a program that orders the items of a record differently writes another
text of it, and all of this is the same. What stands in the file afterwards is the text, and it is read as the record
that was saved. A write that fails has not touched the directory.
-/

namespace Gamebook

/-- What a store answers when it is asked for the record of an adventure. -/
def recordOf {σ : Type} [ProgressStore σ] (store : σ) (id : String) :
    Except StoreError (Option Progress) :=
  (ProgressStore.load store id).1

namespace StoreCall

/-- The adventure that a call is about. -/
def adventureId : StoreCall → String
  | load id => id
  | save progress => progress.adventureId
  | clear id => id

/-- What stands in place of a record once a call has succeeded. -/
def left (record : Except StoreError (Option Progress)) : StoreCall → Except StoreError (Option Progress)
  | load _ => record
  | save progress => .ok (some progress)
  | clear _ => .ok none

end StoreCall

/-- A store that makes a write as it was asked for, or fails and leaves the record as it was. -/
class Transactional (σ : Type) [ProgressStore σ] : Prop where
  recordOf_send : ∀ (store : σ) (call : StoreCall),
    recordOf (call.send store).2 call.adventureId =
      match (call.send store).1 with
      | none => call.left (recordOf store call.adventureId)
      | some _ => recordOf store call.adventureId

instance : Transactional MemoryStore where
  recordOf_send := by
    intro store call
    cases call with
    | load id => rfl
    | save progress =>
      show Except.ok ((store.records.put progress.adventureId progress).get? progress.adventureId) = _
      rw [Table.get?_put, if_pos rfl]
      rfl
    | clear id =>
      show Except.ok ((store.records.erase id).get? id) = _
      rw [Table.get?_erase, if_pos rfl]
      rfl

/-! ## Files

A call of a directory that succeeds changes one name, and the lemmas say which: so the rest of a directory is never
looked at again. A removal may find nothing there, and that is told apart from the other ways to fail. -/

namespace Files.Directory

variable {directory written : Directory} {name value : String}

theorem writeText_eq_ok (h : directory.writeText name value = .ok written) :
    isTooLong name = false ∧ written = directory.put name (.file (.text value)) := by
  unfold writeText at h
  split at h
  · cases h
  · rename_i hlong
    refine ⟨Bool.eq_false_iff.mpr hlong, ?_⟩
    split at h
    · cases h
    · exact (Except.ok.inj h).symm

theorem removeFile_eq_ok (h : directory.removeFile name = .ok written) :
    isTooLong name = false ∧ written = directory.erase name := by
  unfold removeFile at h
  split at h
  · cases h
  · rename_i hlong
    refine ⟨Bool.eq_false_iff.mpr hlong, ?_⟩
    split at h
    · cases h
    · cases h
    · exact (Except.ok.inj h).symm

theorem removeFile_eq_notFound (h : directory.removeFile name = .error .notFound) :
    isTooLong name = false ∧ directory.get? name = none := by
  unfold removeFile at h
  split at h
  · cases h
  · rename_i hlong
    refine ⟨Bool.eq_false_iff.mpr hlong, ?_⟩
    split at h
    · assumption
    · cases h
    · cases h

end Files.Directory

namespace FileStore

open Files

variable {store store' : FileStore} {id : String}

theorem recordOf_eq_load (store : FileStore) (id : String) : recordOf store id = store.load id := by
  rw [recordOf, progressStore_load]

/-- Unless the name of the file is refused, what is to be done with the file is done. -/
theorem file_bind {α : Type} {f : String → Except FileFault α} {result : Except FileFault α}
    (h : (store.file id >>= f) = result) (hresult : result ≠ .error .nameTooLong) :
    store.file id = .ok (fileName id) ∧ f (fileName id) = result := by
  by_cases hroom : store.room < (fileName id).utf8ByteSize
  · have hfile : store.file id = .error .nameTooLong := by simp [file, hroom]
    rw [hfile] at h
    exact absurd h.symm hresult
  · have hfile : store.file id = .ok (fileName id) := by simp [file, hroom]
    rw [hfile] at h
    exact ⟨hfile, h⟩

/-- The store after a text has been written into the file of an adventure. -/
def saveText (store : FileStore) (adventureId text : String) : Except StoreError FileStore :=
  match store.file adventureId >>= (store.directory.writeText · text) with
  | .ok directory => .ok { store with directory }
  | .error fault => .error (.file fault)

theorem save_eq_saveText (store : FileStore) (p : Progress) :
    store.save p = store.saveText p.adventureId p.render := by
  cases hwritten : store.file p.adventureId >>= (store.directory.writeText · p.render) <;>
    simp only [FileStore.save, saveText, hwritten]

/-- To write a text into the file of an adventure puts it under the name of the file. -/
theorem saveText_eq_ok {text : String} (h : store.saveText id text = .ok store') :
    store.file id = .ok (fileName id) ∧ isTooLong (fileName id) = false ∧
      store' = { store with directory := store.directory.put (fileName id) (.file (.text text)) } := by
  unfold saveText at h
  split at h
  · rename_i written hwritten
    cases h
    obtain ⟨hfile, hwrite⟩ := file_bind hwritten (by simp)
    obtain ⟨hlong, rfl⟩ := Directory.writeText_eq_ok hwrite
    exact ⟨hfile, hlong, rfl⟩
  · cases h

/-- To save a record puts its text under the name of its file. The store is otherwise as it was, and so is every
other file. -/
theorem save_eq_ok {progress : Progress} (h : store.save progress = .ok store') :
    store.file progress.adventureId = .ok (fileName progress.adventureId) ∧
      isTooLong (fileName progress.adventureId) = false ∧
      store' = { store with
        directory := store.directory.put (fileName progress.adventureId) (.file (.text progress.render)) } := by
  rw [save_eq_saveText] at h
  exact saveText_eq_ok h

/-- To clear an adventure erases the name of its file, if there is one. -/
theorem clear_eq_ok (h : store.clear id = .ok store') :
    store.file id = .ok (fileName id) ∧ isTooLong (fileName id) = false ∧
      (store' = { store with directory := store.directory.erase (fileName id) } ∨
        store' = store ∧ store.directory.get? (fileName id) = none) := by
  unfold clear at h
  split at h
  · rename_i written hwritten
    cases h
    obtain ⟨hfile, hremove⟩ := file_bind hwritten (by simp)
    obtain ⟨hlong, rfl⟩ := Directory.removeFile_eq_ok hremove
    exact ⟨hfile, hlong, .inl rfl⟩
  · rename_i hmissing
    cases h
    obtain ⟨hfile, hremove⟩ := file_bind hmissing (by simp)
    obtain ⟨hlong, hnone⟩ := Directory.removeFile_eq_notFound hremove
    exact ⟨hfile, hlong, .inr ⟨rfl, hnone⟩⟩
  · cases h

/-- A record that was saved is loaded, whatever stood under its name: the save would have failed if that were in the
way of loading. -/
theorem load_of_save_ok {progress : Progress} (h : store.save progress = .ok store') :
    store'.load progress.adventureId = .ok (some progress) := by
  obtain ⟨hfile, hlong, rfl⟩ := save_eq_ok h
  refine load_of_text hfile hlong ?_ progress.parse_render rfl
  rw [Table.get?_put, if_pos rfl]

/-- A record that was cleared is gone, whatever stood under its name. -/
theorem load_of_clear_ok (h : store.clear id = .ok store') : store'.load id = .ok none := by
  obtain ⟨hfile, hlong, rfl | ⟨rfl, hnone⟩⟩ := clear_eq_ok h
  · refine load_of_none hfile hlong ?_
    rw [Table.get?_erase, if_pos rfl]
  · exact load_of_none hfile hlong hnone

instance : Transactional FileStore where
  recordOf_send := by
    intro store call
    cases call with
    | load id =>
      simp only [StoreCall.send, progressStore_load]
      cases failureOf (store.load id) <;> rfl
    | save progress =>
      simp only [StoreCall.send, StoreCall.adventureId, StoreCall.left, recordOf, progressStore_save,
        progressStore_load]
      cases h : store.save progress with
      | error e => rfl
      | ok store' => exact load_of_save_ok h
    | clear id =>
      simp only [StoreCall.send, StoreCall.adventureId, StoreCall.left, recordOf, progressStore_clear,
        progressStore_load]
      cases h : store.clear id with
      | error e => rfl
      | ok store' => exact load_of_clear_ok h

end FileStore

/-! ## Refused writes

A store that refuses some of its writes is a store like others in front of the one behind it. A refused write reaches
nothing, so what was transactional stays so. -/

namespace UnreliableStore

variable {σ : Type} [ProgressStore σ]

theorem recordOf_eq (store : UnreliableStore σ) (id : String) :
    recordOf store id = recordOf store.inner id := rfl

/-- A call is made of the store behind, or it is refused and leaves that store alone. -/
theorem send_cases (store : UnreliableStore σ) (call : StoreCall) :
    (call.send store).1 = (call.send store.inner).1 ∧
        (call.send store).2.inner = (call.send store.inner).2 ∨
      ∃ e, (call.send store).1 = some e ∧ (call.send store).2.inner = store.inner := by
  cases call with
  | load id => exact .inl ⟨rfl, rfl⟩
  | save progress =>
    simp only [StoreCall.send, ProgressStore.save, write]
    cases store.refusal store.log.length with
    | none => exact .inl ⟨rfl, rfl⟩
    | some e => exact .inr ⟨e, rfl, rfl⟩
  | clear id =>
    simp only [StoreCall.send, ProgressStore.clear, write]
    cases store.refusal store.log.length with
    | none => exact .inl ⟨rfl, rfl⟩
    | some e => exact .inr ⟨e, rfl, rfl⟩

instance [Transactional σ] : Transactional (UnreliableStore σ) where
  recordOf_send := by
    intro store call
    rw [recordOf_eq, recordOf_eq]
    rcases store.send_cases call with ⟨hfailure, hinner⟩ | ⟨e, hfailure, hinner⟩
    · rw [hfailure, hinner]
      exact Transactional.recordOf_send store.inner call
    · rw [hfailure, hinner]

end UnreliableStore

end Gamebook
