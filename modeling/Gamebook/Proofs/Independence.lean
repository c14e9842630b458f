import Gamebook.Proofs.RecordFiles

/-!
# Which records depend on each other

A call changes what the store answers for no adventure whose file has another name
(`Answers.recordOf_of_ne`). Adventures that share a file name share one file, and the last of them to save has
it; the others are refused the record, so nobody is ever handed a record that is not theirs or is out of
date (`records_independent`).

The first part is about one call, in whatever directory: files that were put there by hand, or are no records, are left
alone like any others. A call is described by the text it writes, if it writes one, and by what becomes of the one file
of its name (`Answers`), so the order in which items are written does not come in.

The second part is about all calls so far. The invariant of the files says which record was last written under a name,
and a record carries the id of its adventure. So if the file that is shared holds a record, it is the last one of its
own adventure (`lastSaved_of_lastUnder`), and whoever asks is either that adventure or refused. That it is not an
earlier record of the one who asks is the same fact: an earlier one was replaced by the record of the other.

What is not promised is that a record stays. One of two adventures that share a file loses its record to the other,
and may even clear it (`shared_file_not_independent`): a store looks at the id when it loads a record, and not when it
writes or removes the file.
-/

namespace Gamebook

namespace FileStore

open Files
open ProgressStore (respond)

variable {store store' : FileStore} {id : String} {p : Progress}

/-! ## The file that a call changes -/

/-- A call leaves the room and every file but one, whichever text it writes. -/
theorem Answers.get?_of_ne {call : StoreCall} {answer : StoreAnswer} {name : String}
    (h : Answers store call answer store') (hname : fileName call.adventureId ≠ name) :
    store'.room = store.room ∧ store'.directory.get? name = store.directory.get? name := by
  cases h with
  | load id => exact ⟨rfl, rfl⟩
  | @save p text _ =>
    cases hsave : store.saveText p.adventureId text with
    | error e => exact ⟨rfl, rfl⟩
    | ok store' =>
      obtain ⟨_, _, rfl⟩ := saveText_eq_ok hsave
      exact ⟨rfl, (Table.get?_put ..).trans (if_neg hname)⟩
  | clear id =>
    cases hclear : store.clear id with
    | error e => exact ⟨rfl, rfl⟩
    | ok store' =>
      obtain ⟨_, _, rfl | ⟨rfl, _⟩⟩ := clear_eq_ok hclear
      · exact ⟨rfl, (Table.get?_erase ..).trans (if_neg hname)⟩
      · exact ⟨rfl, rfl⟩

/-- A record is loaded from the file of its name alone. -/
theorem load_congr (hroom : store'.room = store.room)
    (hget : store'.directory.get? (fileName id) = store.directory.get? (fileName id)) :
    store'.load id = store.load id := by
  have hfile : store'.file id = store.file id := by simp only [file, hroom]
  have hread : store'.directory.readText (fileName id) = store.directory.readText (fileName id) := by
    rw [Directory.readText, Directory.readText, hget]
  have hbind : (store'.file id >>= store'.directory.readText) =
      (store.file id >>= store.directory.readText) := by
    rw [hfile]
    by_cases hlong : store.room < (fileName id).utf8ByteSize
    · simp only [file, if_pos hlong, bind, Except.bind]
    · simp only [file, if_neg hlong, bind, Except.bind, hread]
  rw [load, load, hbind]

/-- Whatever stands in the directory, a call leaves the records of other files as they are. -/
theorem Answers.recordOf_of_ne {call : StoreCall} {answer : StoreAnswer} (h : Answers store call answer store')
    (hname : fileName call.adventureId ≠ fileName id) : recordOf store' id = recordOf store id := by
  obtain ⟨hroom, hget⟩ := h.get?_of_ne hname
  rw [recordOf_eq_load, recordOf_eq_load]
  exact load_congr hroom hget

/-! ## Whose record is handed out -/

/-- What the store may answer for an adventure after some calls: nothing; the record that was last saved for
it and has not been cleared since; or that its file belongs to another adventure, of the same file name, with
such a record. -/
inductive Owed (calls : List StoreCall) (id : String) : Except StoreError (Option Progress) → Prop
  | nothing : Owed calls id (.ok none)
  | own {p : Progress} : lastSaved id calls = some p → Owed calls id (.ok (some p))
  | foreign {p : Progress} : lastSaved p.adventureId calls = some p → p.adventureId ≠ id →
      fileName p.adventureId = fileName id → Owed calls id (.error (.foreign id p.adventureId))

/-- The last record of a file name is the last one of its adventure. -/
theorem lastSaved_of_lastUnder {name : String} {calls : List StoreCall}
    (h : lastUnder name calls = some p) : lastSaved p.adventureId calls = some p := by
  refine lastKept_of_part (fun call hcall => ?_) (decide_eq_true rfl) h
  refine decide_eq_true ?_
  rw [of_decide_eq_true hcall]
  exact fileName_of_lastUnder h

/-- What is loaded is owed. The file of the name is missing, or it holds the record last saved under the name, and
then the id in the record decides. -/
theorem Keeps.owed {room : Nat} {calls : List StoreCall} (h : Keeps room calls store)
    (hfit : Fits room id) : Owed calls id (store.load id) := by
  rw [h.load hfit]
  cases hlast : lastUnder (fileName id) calls with
  | none => exact .nothing
  | some p =>
    have hsaved : lastSaved p.adventureId calls = some p := lastSaved_of_lastUnder hlast
    by_cases hid : p.adventureId = id
    · rw [handOut, if_pos hid]
      rw [hid] at hsaved
      exact .own hsaved
    · rw [handOut, if_neg hid]
      exact .foreign hsaved hid (fileName_of_lastUnder hlast)

/-- What is loaded for an adventure from a store that some calls have led to. -/
structure Independent (calls : List StoreCall) (id : String) (store : FileStore) : Prop where
  /-- A further call about another file leaves it as it is, whichever text the call writes. -/
  unchanged : ∀ call answer store', fileName call.adventureId ≠ fileName id → Answers store call answer store' →
    recordOf store' id = recordOf store id
  /-- It is what was last saved for the adventure, if this shares its file with none of the calls'. -/
  apart : (∀ call ∈ calls, fileName call.adventureId = fileName id → call.adventureId = id) →
    recordOf store id = .ok (lastSaved id calls)
  /-- It is never the record of another adventure, nor an earlier one. -/
  owed : Owed calls id (recordOf store id)

/-- **Independent records.** In every directory that calls lead to from the empty one, a call leaves what is
loaded for an adventure of another file name exactly as it was; so an adventure that shares its file name
with none of the calls' is loaded as it was last saved. Where file names are shared, the record of another
adventure is never handed out, and neither is an earlier one. This is so for the calls as the store answers them,
and in whatever order the items of the records are written. Names must be short enough for the directory, since a file
that cannot be written or looked for is answered for by a fault. -/
theorem records_independent {room : Nat} {calls : List StoreCall}
    (hfit : ∀ call ∈ calls, Fits room call.adventureId) (hid : Fits room id) :
    Independent calls id (stateAfter respond (⟨[], room⟩ : FileStore) calls) ∧
      ∀ answers store, Run ⟨[], room⟩ calls answers store → Independent calls id store := by
  have hrun : ∀ answers store, Run ⟨[], room⟩ calls answers store → Independent calls id store := by
    intro answers store h
    have hkeeps : Keeps room calls store := h.keeps hfit
    constructor
    · intro call answer store' hname hanswers
      exact hanswers.recordOf_of_ne hname
    · intro hapart
      rw [recordOf_eq_load]
      exact hkeeps.load_of_apart hid hapart
    · rw [recordOf_eq_load]
      exact hkeeps.owed hid
  exact ⟨hrun _ _ (run_stateAfter ⟨[], room⟩ calls), hrun⟩

/-- The attic is saved and cleared, which leaves the cellar as it was saved. -/
theorem cellar_independent_of_attic :
    recordOf (stateAfter respond (⟨[], nameLimit⟩ : FileStore)
        [.save ⟨"cellar", 2, .empty⟩, .save ⟨"attic", 1, .empty⟩, .clear "attic"]) "cellar" =
      .ok (some ⟨"cellar", 2, .empty⟩) := by
  have h := @records_independent "cellar" nameLimit
    [.save ⟨"cellar", 2, .empty⟩, .save ⟨"attic", 1, .empty⟩, .clear "attic"] (by decide) (by decide)
  exact (h.1.apart (by decide)).trans (by decide)

/-- A slash and a question mark read alike in a file name. Once one of two such adventures has been saved, the
other, which had no record, is refused the file. -/
theorem shared_file_not_independent :
    ¬ ∀ (calls : List StoreCall) (call : StoreCall) (id : String),
      (∀ other ∈ calls, Fits nameLimit other.adventureId) → Fits nameLimit call.adventureId →
      Fits nameLimit id → call.adventureId ≠ id →
      recordOf (call.send (stateAfter respond (⟨[], nameLimit⟩ : FileStore) calls)).2 id =
        recordOf (stateAfter respond (⟨[], nameLimit⟩ : FileStore) calls) id := by
  intro h
  have hloaded := h [] (.save ⟨"a/b", 2, .empty⟩) "a?b" (by decide) (by decide) (by decide) (by decide)
  revert hloaded
  decide

end FileStore

end Gamebook
