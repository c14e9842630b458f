import Gamebook.Proofs.RecordFiles
import Gamebook.Proofs.StoreFailures
import Gamebook.Proofs.Truncation

/-!
# Records that are cut short

A save may be cut off while the file is written, and the file then holds the beginning of the record's text.
No such beginning is JSON: wherever the cut lies, in a name, an escape or a number, brackets are left open. So
the store that is asked for the record says that the file is broken. It does not take the file for a missing
one, nor for another record, and play begins anew with a warning.

Of the ways in which a file may be torn this is the one that a single write has: it goes from the front to the back. A
cut in a number is the case that has to be looked at, for passage 12 would become passage 1, and would be taken up if
what comes behind were not needed. It is the bracket at the end that saves it. That no beginning of a printed record
is read is a fact about the notation, proved for all shapes; here it is put together with what a store and a session
make of a text that is not read.

The items of a record may be written in any order, so all that is said here is said of every text of the record
(`Progress.WrittenAs`). The cut is any: of the whole text, so that the file is empty, or of the last character alone.
Under the name there may have been anything before the save but a directory.
-/

namespace Gamebook

open Files Text

/-- The text of a record without its end is no JSON. -/
theorem Progress.WrittenAs.parse_cut {p : Progress} {text part : String} (h : p.WrittenAs text)
    (hcut : Cut part.toList text.toList) :
    ∃ refusal, Progress.parse part = .error refusal ∧ refusal.fault.isShape = false := by
  obtain ⟨items, -, rfl⟩ := h
  obtain ⟨refusal, hread, hbroken⟩ := Json.readText_cut Progress.progressShape_wellNamed true
    (p.adventureId, p.passage, items, ()) (Json.spells_writeText progressShape _) hcut
  refine ⟨refusal, ?_, hbroken⟩
  rw [Progress.parse, hread]
  rfl

namespace FileStore

variable {store : FileStore} {id text : String}

/-- Asked for a record whose file holds no record, the store says what is wrong with the text. -/
theorem load_withFile_of_error {refusal : Json.Refusal} (hfit : Fits store.room id)
    (hparse : Progress.parse text = .error refusal) :
    (store.withFile id text).load id = .error (.record refusal) := by
  have hread : (store.withFile id text).directory.readText (fileName id) = .ok text := by
    rw [Directory.readText, if_neg (by simp [hfit.isTooLong]), withFile, Table.get?_put, if_pos rfl]
  have hfile : (store.withFile id text).file id = .ok (fileName id) := Fits.file hfit
  rw [load, hfile]
  simp only [bind, Except.bind, hread, hparse]

/-- **A record that is cut short is reported.** A record is saved, in whatever order its items are written, and
its file then loses its end, if only the last character, or all of it. Asked for the record, the store fails
with a fault of the text, about its notation; and a session that is opened over the store begins at the
introduction, with a warning about this and no other. The id of the record may be any whose file can be written, and the
adventure that is opened any playable one. -/
theorem cut_record_is_reported {p : Progress} (hfit : Fits store.room p.adventureId)
    (hfree : ∀ entries, store.directory.get? (fileName p.adventureId) ≠ some (.folder entries))
    (hwritten : p.WrittenAs text) :
    ∃ saved, store.saveText p.adventureId text = .ok saved ∧
      ∀ part rest, part ++ rest = text → rest ≠ "" →
        ∃ refusal, recordOf (saved.withFile p.adventureId part) p.adventureId = .error (.record refusal) ∧
          refusal.fault.isShape = false ∧
          ∀ (a : Adventure) (config : SessionConfig), a.isPlayable = true →
            ∃ s, Session.openOn a p.adventureId (saved.withFile p.adventureId part) config = .ok s ∧
              s.snapshot = .initial ∧
              s.warnings = ["could not load saved progress: " ++ (StoreError.record refusal).message] := by
  refine ⟨store.withFile p.adventureId text, saveText_of_fits hfit hfree text, fun part rest happend hrest => ?_⟩
  obtain ⟨refusal, hparse, hbroken⟩ := hwritten.parse_cut (cut_of_append happend hrest)
  have hload : recordOf ((store.withFile p.adventureId text).withFile p.adventureId part) p.adventureId =
      .error (.record refusal) := load_withFile_of_error hfit hparse
  refine ⟨refusal, hload, hbroken, fun a config hplayable => ?_⟩
  unfold recordOf at hload
  refine ⟨_, Session.openOn_warnings hplayable p.adventureId _ config, ?_, ?_⟩
  · rw [hload]
    rfl
  · rw [hload]
    rfl

/-- The record of a reader at passage 12 is cut behind the first digit of the number. -/
theorem cut_record_is_reported_in_number :
    ∃ saved refusal,
      (⟨[], nameLimit⟩ : FileStore).saveText "Ü/1" (Progress.render ⟨"Ü/1", 12, .ofList ["key"]⟩) =
        .ok saved ∧
      recordOf (saved.withFile "Ü/1" "\x7b\n  \"adventure_id\": \"Ü/1\",\n  \"current_passage\": 1") "Ü/1" =
        .error (.record refusal) ∧
      ∃ s, Session.openOn .cellar "Ü/1"
          (saved.withFile "Ü/1" "\x7b\n  \"adventure_id\": \"Ü/1\",\n  \"current_passage\": 1") {} = .ok s ∧
        s.snapshot = .initial ∧ s.warnings.length = 1 := by
  obtain ⟨saved, hsave, hcut⟩ := @cut_record_is_reported ⟨[], nameLimit⟩ _
    ⟨"Ü/1", 12, .ofList ["key"]⟩ (by decide +kernel) (fun _ => by simp [Table.get?_nil])
    (Progress.writtenAs_render _)
  obtain ⟨refusal, hload, -, hopen⟩ := hcut
    "\x7b\n  \"adventure_id\": \"Ü/1\",\n  \"current_passage\": 1"
    "2,\n  \"inventory\": [\n    \"key\"\n  ]\n\x7d" (by decide +kernel) (by decide)
  obtain ⟨s, hs, hsnapshot, hwarnings⟩ := hopen .cellar {} Adventure.cellar_isPlayable
  exact ⟨saved, refusal, hsave, hload, s, hs, hsnapshot, by rw [hwarnings]; rfl⟩

end FileStore

end Gamebook
