import Gamebook.Proofs.Inventory
import Gamebook.Proofs.Json.RoundTrip
import Gamebook.Store.File
import Gamebook.Store.Memory

/-!
# Stores that keep what they are given

A store is `Dependable` if it does as it is told from the moment it has answered once: what is saved is
loaded, what is cleared is gone, and loading changes nothing. The store in memory always answers. The store
in files answers unless its directory is in the way: the name of the file is too long, a directory stands
under it, or what the file holds is no record of the adventure.

That the first answer decides is a property of files. Where a file has been read, it can be written and removed: its
name was short enough, and no directory has it. A store that has not answered may refuse everything, and nothing is
promised of it here; there are stores that fail on and off, and for those other laws hold, which speak of each call by
itself.

Between the record that is saved and the one that is loaded lies a text (`Progress.parse_render`). The items of the
record may come in any order in it (`Progress.ofDocument_of_perm`), since they are made into a set when they are read.
The adventure that is asked for must be the one whose id is in the record; that ids may share a file is no concern of a
store that has answered, for it has answered with a record of that adventure or with none.
-/

namespace Gamebook

/-- A store that, once it has answered for an adventure, keeps and forgets the records of it. -/
class Dependable (σ : Type) [ProgressStore σ] : Prop where
  load_store : ∀ (store : σ) (id : String), (ProgressStore.load store id).2 = store
  save_ok : ∀ {store : σ} {id : String} {record : Option Progress} (progress : Progress),
    (ProgressStore.load store id).1 = .ok record → progress.adventureId = id →
    ∃ store', ProgressStore.save store progress = (.ok (), store') ∧
      (ProgressStore.load store' id).1 = .ok (some progress)
  clear_ok : ∀ {store : σ} {id : String} {record : Option Progress},
    (ProgressStore.load store id).1 = .ok record →
    ∃ store', ProgressStore.clear store id = (.ok (), store') ∧
      (ProgressStore.load store' id).1 = .ok none

instance : Dependable MemoryStore where
  load_store _ _ := rfl
  save_ok := by
    rintro store id record progress - rfl
    refine ⟨_, rfl, ?_⟩
    show Except.ok ((store.records.put progress.adventureId progress).get? progress.adventureId) = _
    rw [Table.get?_put, if_pos rfl]
  clear_ok := by
    intro store id record _
    refine ⟨_, rfl, ?_⟩
    show Except.ok ((store.records.erase id).get? id) = _
    rw [Table.get?_erase, if_pos rfl]

/-! ## Records as texts

A record is printed and read by its shape, so that it is read back is a fact about shapes and needs no argument of its
own but for the items, which come back as a set. -/

namespace Progress

/-- A document of the record in which the items come in some other order is one of the same record. This is the only
place where the order of items is looked at; everything else is said of texts that write a record. -/
theorem ofDocument_of_perm (p : Progress) {items : List ItemId} (h : items.Perm p.inventory.ids) :
    ofDocument (p.adventureId, p.passage, items, ()) = p := by
  show (⟨p.adventureId, p.passage, .ofList items⟩ : Progress) = p
  rw [Inventory.ofList_of_perm h]

theorem ofDocument_toDocument (p : Progress) : ofDocument p.toDocument = p := p.ofDocument_of_perm (.refl _)

theorem progressShape_wellNamed : progressShape.WellNamed fun _ => true := by
  simp [Shape.WellNamed, Fields.WellNamed, Fields.names]

/-- **A record is read back from its text.** -/
theorem parse_render (p : Progress) : parse p.render = .ok p := by
  rw [parse, render, Json.readText_writeText progressShape_wellNamed]
  show Except.ok (ofDocument p.toDocument) = _
  rw [ofDocument_toDocument]

end Progress

/-! ## Records in files -/

namespace FileStore

open Files

variable {store : FileStore} {id : String} {record : Option Progress}

/-- Where a store in files answers for an adventure, the file can be named, and under the name stands a
text or nothing. -/
theorem load_ok_cases (h : store.load id = .ok record) :
    store.file id = .ok (fileName id) ∧ isTooLong (fileName id) = false ∧
      (store.directory.get? (fileName id) = none ∨
        ∃ text, store.directory.get? (fileName id) = some (.file (.text text))) := by
  -- A name that is too long, for the path or for the directory, is refused before it is looked up.
  by_cases hroom : store.room < (fileName id).utf8ByteSize
  · have hfile : store.file id = .error .nameTooLong := by simp [file, hroom]
    rw [load, hfile] at h
    cases h
  · have hfile : store.file id = .ok (fileName id) := by simp [file, hroom]
    rw [load, hfile] at h
    simp only [bind, Except.bind] at h
    cases hlong : isTooLong (fileName id) with
    | true =>
      rw [Directory.readText, if_pos hlong] at h
      cases h
    | false =>
      rw [Directory.readText, if_neg (by simp [hlong])] at h
      refine ⟨hfile, rfl, ?_⟩
      cases hnode : store.directory.get? (fileName id) with
      | none => exact .inl rfl
      | some node =>
        rw [hnode] at h
        cases node with
        | folder entries => cases h
        | file content =>
          cases content with
          | binary bytes => cases h
          | text text => exact .inr ⟨text, rfl⟩

/-- What a file holds is what the store answers, if it is a record of the adventure. -/
theorem load_of_text {text : String} {progress : Progress} (hfile : store.file id = .ok (fileName id))
    (hlong : isTooLong (fileName id) = false)
    (hnode : store.directory.get? (fileName id) = some (.file (.text text)))
    (hparse : Progress.parse text = .ok progress) (howner : progress.adventureId = id) :
    store.load id = .ok (some progress) := by
  have hread : store.directory.readText (fileName id) = .ok text := by
    rw [Directory.readText, if_neg (by simp [hlong]), hnode]
  rw [load, hfile]
  simp only [bind, Except.bind, hread, hparse]
  rw [if_pos howner]

theorem load_of_none (hfile : store.file id = .ok (fileName id)) (hlong : isTooLong (fileName id) = false)
    (hnode : store.directory.get? (fileName id) = none) : store.load id = .ok none := by
  have hread : store.directory.readText (fileName id) = .error .notFound := by
    rw [Directory.readText, if_neg (by simp [hlong]), hnode]
  rw [load, hfile]
  simp only [bind, Except.bind, hread]

/-- A store in files that has answered for an adventure keeps what it is given for it. That it has answered says that
the name of the file is in order and that no directory stands there, and a text can then be written. -/
theorem save_of_load_ok (progress : Progress) (h : store.load id = .ok record)
    (howner : progress.adventureId = id) :
    ∃ store', store.save progress = .ok store' ∧ store'.load id = .ok (some progress) := by
  obtain ⟨hfile, hlong, hnode⟩ := load_ok_cases h
  have hwrite : store.directory.writeText (fileName id) progress.render =
      .ok (store.directory.put (fileName id) (.file (.text progress.render))) := by
    rw [Directory.writeText, if_neg (by simp [hlong])]
    rcases hnode with hnone | ⟨text, htext⟩
    · rw [hnone]
    · rw [htext]
  refine ⟨{ store with directory := store.directory.put (fileName id) (.file (.text progress.render)) },
    ?_, ?_⟩
  · rw [save, howner, hfile]
    simp only [bind, Except.bind, hwrite]
  · refine load_of_text hfile hlong ?_ progress.parse_render howner
    rw [Table.get?_put, if_pos rfl]

/-- A store in files that has answered for an adventure forgets what it is told to. -/
theorem clear_of_load_ok (h : store.load id = .ok record) :
    ∃ store', store.clear id = .ok store' ∧ store'.load id = .ok none := by
  obtain ⟨hfile, hlong, hnode⟩ := load_ok_cases h
  rcases hnode with hnone | ⟨text, htext⟩
  · have hremove : store.directory.removeFile (fileName id) = .error .notFound := by
      rw [Directory.removeFile, if_neg (by simp [hlong]), hnone]
    refine ⟨store, ?_, load_of_none hfile hlong hnone⟩
    rw [clear, hfile]
    simp only [bind, Except.bind, hremove]
  · have hremove : store.directory.removeFile (fileName id) =
        .ok (store.directory.erase (fileName id)) := by
      rw [Directory.removeFile, if_neg (by simp [hlong]), htext]
    refine ⟨{ store with directory := store.directory.erase (fileName id) }, ?_, ?_⟩
    · rw [clear, hfile]
      simp only [bind, Except.bind, hremove]
    · refine load_of_none hfile hlong ?_
      rw [Table.get?_erase, if_pos rfl]

theorem progressStore_load (store : FileStore) (id : String) :
    ProgressStore.load store id = (store.load id, store) := rfl

theorem progressStore_save (store : FileStore) (progress : Progress) :
    ProgressStore.save store progress = store.outcome (store.save progress) := rfl

theorem progressStore_clear (store : FileStore) (id : String) :
    ProgressStore.clear store id = store.outcome (store.clear id) := rfl

instance : Dependable FileStore where
  load_store _ _ := rfl
  save_ok := by
    intro store id record progress h howner
    simp only [progressStore_load] at h
    obtain ⟨store', hsave, hload⟩ := save_of_load_ok progress h howner
    refine ⟨store', ?_, ?_⟩
    · rw [progressStore_save, hsave, outcome]
    · rw [progressStore_load, hload]
  clear_ok := by
    intro store id record h
    simp only [progressStore_load] at h
    obtain ⟨store', hclear, hload⟩ := clear_of_load_ok h
    refine ⟨store', ?_, ?_⟩
    · rw [progressStore_clear, hclear, outcome]
    · rw [progressStore_load, hload]

end FileStore

end Gamebook
