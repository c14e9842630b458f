import Gamebook.Proofs.Lockstep
import Gamebook.Proofs.Table
import Gamebook.Proofs.Transactions
import Mathlib.Data.List.Induction

/-!
# What the files of a store hold

After some calls of a store in files, the file of a name holds the record that was last written under that
name and not cleared since (`Keeps`, `Run.keeps`). The name decides, not the adventure: adventures whose ids
share a name share the file. What `load` makes of a file is known from the record it holds (`load_of_holds`).

A set has no order, so a record may be written with its items in any order. `Answers` leaves it open: a save
writes any of the texts of the record. What the store does is one of the ways to answer (`answers_send`), and
nothing that is proved here depends on which text is written. The same store may write one record in one order today and
in another tomorrow; a `Run` has a choice at each save.

There are three descriptions of a call. `Answers` is the code, with the text of a save left open, in whatever
directory. `Does` is what it comes to where names are short and files are records: nothing fails, and one file is
written or erased. `StoreCall.keeps` is what becomes of the one record that the call concerns. The step from the first
to the second uses the invariant, and that from the second to the third is what keeps it (`Does.holds`). A run of
calls is then followed by the record that is kept under each name, and the list of calls is all that has to be
remembered.

The directory is empty at first. A file that stood there before might be anything, and what a store makes of such files
is said where single calls are.
-/

namespace Gamebook

/-! ## Calls and answers -/

/-- What a store answers to a call. -/
inductive StoreAnswer
  | loaded (result : Except StoreError (Option Progress))
  | written (result : Except StoreError Unit)
deriving DecidableEq, Repr

namespace StoreCall

/-- The answer of a store to a call. -/
def answer {σ : Type} [ProgressStore σ] (store : σ) : StoreCall → StoreAnswer
  | load id => .loaded (ProgressStore.load store id).1
  | save progress => .written (ProgressStore.save store progress).1
  | clear id => .written (ProgressStore.clear store id).1

/-- The record that is kept after a call that concerns it. -/
def keeps (kept : Option Progress) : StoreCall → Option Progress
  | load _ => kept
  | save progress => some progress
  | clear _ => none

end StoreCall

/-- The answer of a store to a call, and the store after the call. -/
def ProgressStore.respond {σ : Type} [ProgressStore σ] (store : σ) (call : StoreCall) : StoreAnswer × σ :=
  (call.answer store, (call.send store).2)

/-! ## The last write

What a file holds after some calls is what the last call about it has left there. The same fold gives what was last
saved for an adventure and what was last saved under a name; only the calls that are concerned differ. -/

/-- The record that is left by the calls of a class. -/
def lastKept (concerned : StoreCall → Bool) (calls : List StoreCall) : Option Progress :=
  (calls.filter concerned).foldl StoreCall.keeps none

/-- The progress that was last saved for an adventure and has not been cleared since. -/
def lastSaved (adventureId : String) (calls : List StoreCall) : Option Progress :=
  lastKept (fun call => call.adventureId = adventureId) calls

/-- The progress that was last saved under a file name and has not been cleared since, for whichever
adventures of that name. -/
def lastUnder (name : String) (calls : List StoreCall) : Option Progress :=
  lastKept (fun call => FileStore.fileName call.adventureId = name) calls

section LastKept

variable {concerned concerned' : StoreCall → Bool} {calls : List StoreCall} {p : Progress}

theorem lastKept_concat (concerned : StoreCall → Bool) (calls : List StoreCall) (call : StoreCall) :
    lastKept concerned (calls ++ [call]) =
      if concerned call then call.keeps (lastKept concerned calls) else lastKept concerned calls := by
  rw [lastKept, List.filter_append, List.foldl_append]
  by_cases hcall : concerned call = true
  · rw [if_pos hcall, List.filter_cons_of_pos hcall]
    rfl
  · rw [if_neg hcall, List.filter_cons_of_neg hcall]
    rfl

theorem lastKept_congr (h : ∀ call ∈ calls, concerned call = concerned' call) :
    lastKept concerned calls = lastKept concerned' calls := by
  rw [lastKept, lastKept, List.filter_congr h]

/-- What is kept was saved by one of the calls. -/
theorem save_mem_of_lastKept (h : lastKept concerned calls = some p) :
    .save p ∈ calls ∧ concerned (.save p) = true := by
  induction calls using List.reverseRecOn with
  | nil => cases h
  | append_singleton calls call ih =>
    rw [lastKept_concat] at h
    by_cases hcall : concerned call = true
    · rw [if_pos hcall] at h
      cases call with
      | load id => exact ⟨List.mem_append_left _ (ih h).1, (ih h).2⟩
      | save progress =>
        obtain rfl := Option.some.inj h
        exact ⟨List.mem_append_right _ List.mem_cons_self, hcall⟩
      | clear id => cases h
    · rw [if_neg hcall] at h
      exact ⟨List.mem_append_left _ (ih h).1, (ih h).2⟩

/-- What is kept of a class of calls is kept of any part of the class that its save belongs to. -/
theorem lastKept_of_part (hpart : ∀ call, concerned' call = true → concerned call = true)
    (hp : concerned' (.save p) = true) (h : lastKept concerned calls = some p) :
    lastKept concerned' calls = some p := by
  induction calls using List.reverseRecOn with
  | nil => cases h
  | append_singleton calls call ih =>
    rw [lastKept_concat] at h ⊢
    by_cases hcall : concerned call = true
    · rw [if_pos hcall] at h
      cases call with
      | load id => exact (ite_self _).trans (ih h)
      | save progress =>
        obtain rfl := Option.some.inj h
        rw [if_pos hp]
        rfl
      | clear id => cases h
    · have hcall' : ¬ concerned' call = true := fun h' => hcall (hpart call h')
      rw [if_neg hcall] at h
      rw [if_neg hcall']
      exact ih h

end LastKept

theorem fileName_of_lastUnder {name : String} {calls : List StoreCall} {p : Progress}
    (h : lastUnder name calls = some p) : FileStore.fileName p.adventureId = name :=
  of_decide_eq_true (save_mem_of_lastKept h).2

/-- Unless calls are about another adventure of the same file name, the name keeps what was saved for the
adventure. -/
theorem lastUnder_eq_lastSaved {id : String} {calls : List StoreCall}
    (h : ∀ call ∈ calls, FileStore.fileName call.adventureId = FileStore.fileName id →
      call.adventureId = id) : lastUnder (FileStore.fileName id) calls = lastSaved id calls := by
  refine lastKept_congr fun call hcall => decide_eq_decide.mpr ⟨h call hcall, ?_⟩
  intro heq
  rw [heq]

/-! ## Texts of a record

The items of an inventory are a set, and a save may write them in any order. Nothing is lost by that when the text is
read, so the files of two runs may differ in their bytes and hold the same records. -/

/-- The texts that write a record. Its items may come in any order. -/
def Progress.WrittenAs (p : Progress) (text : String) : Prop :=
  ∃ items : List ItemId, items.Perm p.inventory.ids ∧
    text = Json.writeText progressShape (p.adventureId, p.passage, items, ())

namespace Progress

theorem writtenAs_render (p : Progress) : p.WrittenAs p.render := ⟨p.inventory.ids, .refl _, rfl⟩

/-- A record is read back from any of its texts. -/
theorem WrittenAs.parse {p : Progress} {text : String} (h : p.WrittenAs text) : parse text = .ok p := by
  obtain ⟨items, hitems, rfl⟩ := h
  rw [Progress.parse, Json.readText_writeText progressShape_wellNamed]
  exact congrArg Except.ok (p.ofDocument_of_perm hitems)

end Progress

namespace FileStore

open Files

/-! ## What the store may answer -/

/-- What a store in files may answer to a call, and the store after the call. A save may write any text of
the record. -/
inductive Answers (store : FileStore) : StoreCall → StoreAnswer → FileStore → Prop
  | load (id : String) : Answers store (.load id) (.loaded (store.load id)) store
  | save {p : Progress} {text : String} : p.WrittenAs text →
      Answers store (.save p) (.written (store.outcome (store.saveText p.adventureId text)).1)
        (store.outcome (store.saveText p.adventureId text)).2
  | clear (id : String) :
      Answers store (.clear id) (.written (store.outcome (store.clear id)).1)
        (store.outcome (store.clear id)).2

/-- What a store in files may answer to some calls, and the store after them. -/
inductive Run (start : FileStore) : List StoreCall → List StoreAnswer → FileStore → Prop
  | start : Run start [] [] start
  | step {calls : List StoreCall} {answers : List StoreAnswer} {store store' : FileStore}
      {call : StoreCall} {answer : StoreAnswer} :
      Run start calls answers store → Answers store call answer store' →
      Run start (calls ++ [call]) (answers ++ [answer]) store'

/-- The store answers as it may. -/
theorem answers_send (store : FileStore) (call : StoreCall) :
    Answers store call (call.answer store) (call.send store).2 := by
  cases call with
  | load id =>
    simp only [StoreCall.answer, StoreCall.send, progressStore_load]
    exact .load id
  | save p =>
    simp only [StoreCall.answer, StoreCall.send, progressStore_save, save_eq_saveText]
    exact .save p.writtenAs_render
  | clear id =>
    simp only [StoreCall.answer, StoreCall.send, progressStore_clear]
    exact .clear id

theorem run_stateAfter (start : FileStore) (calls : List StoreCall) :
    Run start calls (answersOf ProgressStore.respond start calls)
      (stateAfter ProgressStore.respond start calls) := by
  induction calls using List.reverseRecOn with
  | nil => exact .start
  | append_singleton calls call ih =>
    rw [answersOf_concat, stateAfter_concat]
    exact .step ih (answers_send _ call)

/-! ## What stands under a name -/

/-- The name of an adventure's file is short enough, by itself and behind the path of the directory. -/
def Fits (room : Nat) (id : String) : Prop :=
  (fileName id).utf8ByteSize ≤ nameLimit ∧ (fileName id).utf8ByteSize ≤ room

instance (room : Nat) (id : String) : Decidable (Fits room id) := inferInstanceAs (Decidable (_ ∧ _))

/-- Under a name stands the file of a record, or nothing. -/
inductive Holds (directory : Directory) (name : String) : Option Progress → Prop
  | nothing : directory.get? name = none → Holds directory name none
  | record {p : Progress} {text : String} : directory.get? name = some (.file (.text text)) →
      p.WrittenAs text → Holds directory name (some p)

/-- What `load` makes of the record in the file of an adventure: the record is handed to nobody but the
adventure it belongs to. -/
def handOut (id : String) : Option Progress → Except StoreError (Option Progress)
  | none => .ok none
  | some p => if p.adventureId = id then .ok (some p) else .error (.foreign id p.adventureId)

section Fits

variable {store store' : FileStore} {id text : String} {kept : Option Progress}

theorem Fits.file (h : Fits store.room id) : store.file id = .ok (fileName id) := by
  have hroom : ¬ store.room < (fileName id).utf8ByteSize := Nat.not_lt.mpr h.2
  simp only [FileStore.file, if_neg hroom]

theorem Fits.isTooLong {room : Nat} (h : Fits room id) : Files.isTooLong (fileName id) = false :=
  decide_eq_false (Nat.not_lt.mpr h.1)

/-- What is loaded from a file is known from the record it holds, if any: the adventure that asks is handed its own
record, and is told of any other that it is another's. -/
theorem load_of_holds (hfit : Fits store.room id) (h : Holds store.directory (fileName id) kept) :
    store.load id = handOut id kept := by
  cases h with
  | nothing hnone => exact load_of_none hfit.file hfit.isTooLong hnone
  | @record p text htext hwritten =>
    have hread : store.directory.readText (fileName id) = .ok text := by
      rw [Directory.readText, if_neg (by simp [hfit.isTooLong]), htext]
    rw [FileStore.load, hfit.file]
    simp only [bind, Except.bind, hread, hwritten.parse]
    rfl

/-- The store with a text in place of what stood in the file of an adventure. -/
def withFile (store : FileStore) (id text : String) : FileStore :=
  { store with directory := store.directory.put (fileName id) (.file (.text text)) }

/-- Unless a directory is in the way, a text is written into the file of an adventure. -/
theorem saveText_of_fits (hfit : Fits store.room id)
    (hfree : ∀ entries, store.directory.get? (fileName id) ≠ some (.folder entries)) (text : String) :
    store.saveText id text = .ok (store.withFile id text) := by
  have hwrite : store.directory.writeText (fileName id) text =
      .ok (store.directory.put (fileName id) (.file (.text text))) := by
    rw [Directory.writeText, if_neg (by simp [hfit.isTooLong])]
    split
    · rename_i entries hfolder
      exact absurd hfolder (hfree entries)
    · rfl
  rw [saveText, hfit.file]
  simp only [bind, Except.bind, hwrite]
  rfl

/-- Unless a directory is in the way, the file of an adventure is erased. -/
theorem clear_of_fits (hfit : Fits store.room id)
    (hfree : ∀ entries, store.directory.get? (fileName id) ≠ some (.folder entries)) :
    store.clear id = .ok { store with directory := store.directory.erase (fileName id) } := by
  rw [FileStore.clear, hfit.file]
  rcases hnode : store.directory.get? (fileName id) with _ | content | entries
  · have hremove : store.directory.removeFile (fileName id) = .error .notFound := by
      rw [Directory.removeFile, if_neg (by simp [hfit.isTooLong]), hnode]
    simp only [bind, Except.bind, hremove, Table.erase_eq_self hnode]
  · have hremove : store.directory.removeFile (fileName id) =
        .ok (store.directory.erase (fileName id)) := by
      rw [Directory.removeFile, if_neg (by simp [hfit.isTooLong]), hnode]
    simp only [bind, Except.bind, hremove]
  · exact absurd hnode (hfree entries)

/-- Where the file of a record stands, or nothing, no directory is in the way. -/
theorem Holds.not_folder {directory : Directory} {name : String} (h : Holds directory name kept)
    (entries : Directory) : directory.get? name ≠ some (.folder entries) := by
  cases h with
  | nothing hnone => simp [hnone]
  | record htext _ => simp [htext]

end Fits

/-! ## One call -/

/-- What a store does whose files hold records: it loads, or it writes or erases the one file. -/
inductive Does (store : FileStore) : StoreCall → StoreAnswer → FileStore → Prop
  | load (id : String) : Does store (.load id) (.loaded (store.load id)) store
  | save {p : Progress} {text : String} : p.WrittenAs text →
      Does store (.save p) (.written (.ok ()))
        { store with directory := store.directory.put (fileName p.adventureId) (.file (.text text)) }
  | clear (id : String) :
      Does store (.clear id) (.written (.ok ()))
        { store with directory := store.directory.erase (fileName id) }

section Step

variable {store store' : FileStore} {call : StoreCall} {answer : StoreAnswer} {kept : Option Progress}

/-- Where files hold records and the name is short enough, a call does what it should. No file is in the way of a
write but a directory, and under the name stands none. -/
theorem Answers.does (h : Answers store call answer store') (hfit : Fits store.room call.adventureId)
    (hholds : Holds store.directory (fileName call.adventureId) kept) :
    Does store call answer store' := by
  cases h with
  | load id => exact .load id
  | @save p text hwritten =>
    have hsave : store.saveText p.adventureId text = .ok { store with
        directory := store.directory.put (fileName p.adventureId) (.file (.text text)) } :=
      saveText_of_fits hfit hholds.not_folder text
    rw [hsave]
    exact .save hwritten
  | clear id =>
    have hclear : store.clear id = .ok { store with
        directory := store.directory.erase (fileName id) } := clear_of_fits hfit hholds.not_folder
    rw [hclear]
    exact .clear id

theorem Does.room (h : Does store call answer store') : store'.room = store.room := by
  cases h <;> rfl

theorem Does.sorted (h : Does store call answer store') (hsorted : Table.Sorted store.directory) :
    Table.Sorted store'.directory := by
  cases h with
  | load id => exact hsorted
  | save _ => exact hsorted.put _ _
  | clear id => exact hsorted.erase _

/-- **A call changes what stands under the name of its file and nothing else.** Under this name it leaves what it
is to leave; two adventures of one name are not told apart. -/
theorem Does.holds (h : Does store call answer store') {name : String} {last : Option Progress}
    (hlast : Holds store.directory name last) :
    Holds store'.directory name
      (if fileName call.adventureId = name then call.keeps last else last) := by
  by_cases hname : fileName call.adventureId = name
  · rw [if_pos hname]
    cases h with
    | load id => exact hlast
    | save hwritten => exact .record ((Table.get?_put ..).trans (if_pos hname)) hwritten
    | clear id => exact .nothing ((Table.get?_erase ..).trans (if_pos hname))
  · rw [if_neg hname]
    -- The other names stand as before.
    have hget : store'.directory.get? name = store.directory.get? name := by
      cases h with
      | load id => rfl
      | save hwritten => exact (Table.get?_put ..).trans (if_neg hname)
      | clear id => exact (Table.get?_erase ..).trans (if_neg hname)
    cases hlast with
    | nothing hnone => exact .nothing (hget.trans hnone)
    | record htext hwritten => exact .record (hget.trans htext) hwritten

end Step

/-! ## Many calls -/

section Run

variable {room : Nat} {calls : List StoreCall} {answers : List StoreAnswer} {store : FileStore}

/-- In a directory that was empty at first, every name keeps its last record. -/
structure Keeps (room : Nat) (calls : List StoreCall) (store : FileStore) : Prop where
  room : store.room = room
  sorted : Table.Sorted store.directory
  holds : ∀ name, Holds store.directory name (lastUnder name calls)

theorem keeps_empty (room : Nat) : Keeps room [] ⟨[], room⟩ where
  room := rfl
  sorted := Table.sorted_nil
  holds _ := .nothing rfl

/-- One call keeps the last records. -/
theorem Keeps.call {call : StoreCall} {answer : StoreAnswer} {store' : FileStore}
    (h : Keeps room calls store) (hfit : Fits room call.adventureId)
    (hanswers : Answers store call answer store') :
    Does store call answer store' ∧ Keeps room (calls ++ [call]) store' := by
  rw [← h.room] at hfit
  have hdoes : Does store call answer store' := hanswers.does hfit (h.holds _)
  refine ⟨hdoes, hdoes.room.trans h.room, hdoes.sorted h.sorted, fun name => ?_⟩
  have hholds := hdoes.holds (h.holds name)
  rw [lastUnder, lastKept_concat]
  simpa [lastUnder] using hholds

/-- **So do many.** By induction on the run, from its end: the last call is made in a directory of which the
statement is known. -/
theorem Run.keeps (h : Run ⟨[], room⟩ calls answers store)
    (hfit : ∀ call ∈ calls, Fits room call.adventureId) : Keeps room calls store := by
  induction h with
  | start => exact keeps_empty room
  | @step calls _ store store' call _ _ hanswers ih =>
    have hkeeps : Keeps room calls store :=
      ih fun other hother => hfit other (List.mem_append_left _ hother)
    exact (hkeeps.call (hfit call (List.mem_append_right _ List.mem_cons_self)) hanswers).2

theorem Keeps.mem_names_iff (h : Keeps room calls store) {name : String} :
    name ∈ Table.names store.directory ↔ ∃ p, lastUnder name calls = some p := by
  rw [Table.mem_names_iff]
  have hholds := h.holds name
  generalize lastUnder name calls = last at hholds ⊢
  cases hholds with
  | nothing hnone => simp [hnone]
  | record htext _ => simp [htext]

theorem Keeps.load (h : Keeps room calls store) {id : String} (hfit : Fits room id) :
    store.load id = handOut id (lastUnder (fileName id) calls) := by
  rw [← h.room] at hfit
  exact load_of_holds hfit (h.holds _)

/-- An adventure that shares its file with no other is answered with what was last saved for it. -/
theorem Keeps.load_of_apart (h : Keeps room calls store) {id : String} (hfit : Fits room id)
    (hapart : ∀ call ∈ calls, fileName call.adventureId = fileName id → call.adventureId = id) :
    store.load id = .ok (lastSaved id calls) := by
  rw [h.load hfit, lastUnder_eq_lastSaved hapart]
  cases hlast : lastSaved id calls with
  | none => rfl
  | some p => exact if_pos (of_decide_eq_true (save_mem_of_lastKept hlast).2)

end Run

end FileStore

end Gamebook
