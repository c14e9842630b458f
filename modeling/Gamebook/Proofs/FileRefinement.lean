import Gamebook.Proofs.FileNames
import Gamebook.Proofs.RecordFiles
import Mathlib.Data.List.Nodup

/-!
# A store in files does what a store in memory does

For adventures whose files have different names that are short enough, nobody can tell the two stores apart:
every call is answered alike, whatever was called before. The directory then holds one file for each record
and nothing else.

The two stores are not compared with each other, state by state. Each is known from the calls so far: the store in
memory holds what was last saved for each adventure (`MemoryStore.get?_stateAfter`), the store in files what was last
saved under each name (`Keeps`), and this is the same where no name is shared. So the invariant of the files is one that
holds without the condition on names, and serves adventures that share a file as well. The condition enters in one place
only, where what is under a name is told to be of the adventure that asks (`Does.answer_eq`).

Between a record and what is loaded lies a text: a record is written in JSON and read back. The program writes the items
of an inventory in the order in which a hash set happens to give them. So the files are described for every order at
each save (`Run`), and the statement is made twice, for the calls as the store here answers them and for every run. The
room is how long the names of files may be. A name that is too long is refused by the directory and by no store in
memory, which is why names must be short enough.
-/

namespace Gamebook

open FileStore Files
open ProgressStore (respond)

/-- The store in memory holds what was last saved for an adventure. -/
theorem MemoryStore.get?_stateAfter (calls : List StoreCall) (id : String) :
    (stateAfter respond MemoryStore.empty calls).records.get? id = lastSaved id calls := by
  induction calls using List.reverseRecOn with
  | nil => rfl
  | append_singleton calls call ih =>
    rw [stateAfter_concat, lastSaved, lastKept_concat, ← lastSaved, ← ih]
    by_cases hid : call.adventureId = id
    · rw [if_pos (decide_eq_true hid)]
      cases call with
      | load other => rfl
      | save progress => exact (Table.get?_put ..).trans (if_pos hid)
      | clear other => exact (Table.get?_erase ..).trans (if_pos hid)
    · rw [if_neg fun h => hid (of_decide_eq_true h)]
      cases call with
      | load other => rfl
      | save progress => exact (Table.get?_put ..).trans (if_neg hid)
      | clear other => exact (Table.get?_erase ..).trans (if_neg hid)

/-- A directory holds one file for each record of some adventures and nothing else, and every file is known as
a progress file, whatever the path of the directory is. -/
structure HoldsRecords (ids : List String) (directory : Directory) (records : Table Progress) : Prop where
  names : (Table.names directory).Perm ((ids.filter fun id => (records.get? id).isSome).map fileName)
  files : ∀ entry ∈ directory, entry.2.isFile = true
  recognised : ∀ path, ∀ name ∈ Table.names directory, isProgressFile (join path name) = true

namespace FileStore

variable {room : Nat} {ids : List String} {calls : List StoreCall} {store : FileStore}

/-- Where all names differ, calls are about no other adventure of the same name. -/
theorem apart_of_distinct (hdistinct : (ids.map fileName).Nodup)
    (hcalls : ∀ call ∈ calls, call.adventureId ∈ ids) {id : String} (hid : id ∈ ids) :
    ∀ call ∈ calls, fileName call.adventureId = fileName id → call.adventureId = id :=
  fun call hcall => List.inj_on_of_nodup_map hdistinct (hcalls call hcall) hid

/-- A store in files and the one in memory answer the next call alike. What was last saved under the file name of
the call is what was last saved for its adventure, since the calls so far have no other adventure of that name. -/
theorem Does.answer_eq {call : StoreCall} {answer : StoreAnswer} {store' : FileStore}
    (h : Does store call answer store') (hkeeps : Keeps room calls store)
    (hfit : Fits room call.adventureId)
    (hapart : ∀ other ∈ calls, fileName other.adventureId = fileName call.adventureId →
      other.adventureId = call.adventureId) :
    answer = (respond (stateAfter respond MemoryStore.empty calls) call).1 := by
  cases h with
  | load id =>
    have hload : store.load id = .ok (lastSaved id calls) := hkeeps.load_of_apart hfit hapart
    rw [hload, ← MemoryStore.get?_stateAfter]
    rfl
  | save hwritten => rfl
  | clear id => rfl

theorem Run.answers_eq {answers : List StoreAnswer} (hdistinct : (ids.map fileName).Nodup)
    (hfit : ∀ id ∈ ids, Fits room id) (h : Run ⟨[], room⟩ calls answers store) :
    (∀ call ∈ calls, call.adventureId ∈ ids) → answers = answersOf respond MemoryStore.empty calls := by
  induction h with
  | start => exact fun _ => rfl
  | @step calls answers store store' call answer hrun hanswers ih =>
    intro hcalls
    have hbefore : ∀ other ∈ calls, other.adventureId ∈ ids :=
      fun other hother => hcalls other (List.mem_append_left _ hother)
    have hcall : call.adventureId ∈ ids := hcalls call (List.mem_append_right _ List.mem_cons_self)
    have hkeeps : Keeps room calls store := hrun.keeps fun other hother => hfit _ (hbefore other hother)
    have hdoes : Does store call answer store' := (hkeeps.call (hfit _ hcall) hanswers).1
    rw [answersOf_concat, ih hbefore,
      hdoes.answer_eq hkeeps (hfit _ hcall) (apart_of_distinct hdistinct hbefore hcall)]

/-- The files are those of the records that the store in memory holds. -/
theorem Keeps.holdsRecords (h : Keeps room calls store) (hdistinct : (ids.map fileName).Nodup)
    (hcalls : ∀ call ∈ calls, call.adventureId ∈ ids) :
    HoldsRecords ids store.directory (stateAfter respond MemoryStore.empty calls).records where
  names := by
    refine (List.perm_ext_iff_of_nodup h.sorted.nodup
      (hdistinct.sublist (List.filter_sublist.map _))).mpr fun name => ?_
    simp only [List.mem_map, List.mem_filter, MemoryStore.get?_stateAfter]
    rw [h.mem_names_iff]
    constructor
    · rintro ⟨p, hlast⟩
      have hid : p.adventureId ∈ ids := hcalls _ (save_mem_of_lastKept hlast).1
      have hname : fileName p.adventureId = name := fileName_of_lastUnder hlast
      refine ⟨p.adventureId, ⟨hid, ?_⟩, hname⟩
      rw [← lastUnder_eq_lastSaved (apart_of_distinct hdistinct hcalls hid), hname, hlast]
      rfl
    · rintro ⟨id, ⟨hid, hsome⟩, rfl⟩
      rw [lastUnder_eq_lastSaved (apart_of_distinct hdistinct hcalls hid)]
      exact Option.isSome_iff_exists.mp hsome
  files := by
    rintro ⟨name, node⟩ hentry
    have hget := h.sorted.get?_of_mem hentry
    have hholds := h.holds name
    generalize lastUnder name calls = last at hholds
    cases hholds with
    | nothing hnone =>
      rw [hnone] at hget
      cases hget
    | record htext _ =>
      rw [htext] at hget
      cases hget
      rfl
  recognised := by
    intro path name hname
    obtain ⟨p, hlast⟩ := h.mem_names_iff.mp hname
    rw [← fileName_of_lastUnder hlast]
    exact isProgressFile_join path p.adventureId

/-- **Files refine memory.** Some calls are made about adventures whose files have different names, short
enough for the directory, which is empty at first. The store in files answers each of them as the store in
memory does, and holds one file for each record in the end, and no others. The same is true in whatever order
the items of the records are written. The calls are any, in any number and order; loading before anything was saved,
saving over a record and clearing what is not there are among them. -/
theorem refines_memory (hdistinct : (ids.map fileName).Nodup) (hfit : ∀ id ∈ ids, Fits room id)
    (hcalls : ∀ call ∈ calls, call.adventureId ∈ ids) :
    (answersOf respond (⟨[], room⟩ : FileStore) calls = answersOf respond MemoryStore.empty calls ∧
      HoldsRecords ids (stateAfter respond (⟨[], room⟩ : FileStore) calls).directory
        (stateAfter respond MemoryStore.empty calls).records) ∧
    ∀ answers store, Run ⟨[], room⟩ calls answers store →
      answers = answersOf respond MemoryStore.empty calls ∧
        HoldsRecords ids store.directory (stateAfter respond MemoryStore.empty calls).records := by
  have hrun : ∀ answers store, Run ⟨[], room⟩ calls answers store →
      answers = answersOf respond MemoryStore.empty calls ∧
        HoldsRecords ids store.directory (stateAfter respond MemoryStore.empty calls).records := by
    intro answers store h
    have hkeeps : Keeps room calls store := h.keeps fun call hcall => hfit _ (hcalls call hcall)
    exact ⟨h.answers_eq hdistinct hfit hcalls, hkeeps.holdsRecords hdistinct hcalls⟩
  exact ⟨hrun _ _ (run_stateAfter _ calls), hrun⟩

/-- Two adventures, one of which is cleared again. -/
theorem refines_memory_two :
    answersOf respond (⟨[], nameLimit⟩ : FileStore)
        [.save ⟨"The Cellar", 2, .ofList ["lamp", "key"]⟩, .save ⟨"attic", 1, .empty⟩, .clear "attic",
          .load "The Cellar", .load "attic"] =
      [.written (.ok ()), .written (.ok ()), .written (.ok ()),
        .loaded (.ok (some ⟨"The Cellar", 2, .ofList ["key", "lamp"]⟩)), .loaded (.ok none)] := by
  have h := (@refines_memory nameLimit ["The Cellar", "attic"]
    [.save ⟨"The Cellar", 2, .ofList ["lamp", "key"]⟩, .save ⟨"attic", 1, .empty⟩, .clear "attic",
      .load "The Cellar", .load "attic"] (by decide) (by decide) (by decide)).1.1
  exact h.trans (by decide)

end FileStore

end Gamebook
