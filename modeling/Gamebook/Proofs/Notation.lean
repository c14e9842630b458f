import Gamebook.Proofs.Conversion
import Gamebook.Proofs.Json.Truncation
import Gamebook.Proofs.Ron.Truncation

/-!
# The two notations do not overlap

The notation of a file is told by its extension, and may be told wrongly. Then the text is refused, and never read
as another adventure: no text holds an adventure in both notations, and a text tells by itself which adventure it
holds, if it holds one (`parse_unique`).

A JSON text of a record opens with a brace or a bracket, blanks apart (`Json.opens_of_readText`), for a record may
be written as an object or as the list of its fields. RON has a record open with its name or a parenthesis, so it
fails before either (`Ron.fails_readText`). Blanks differ in the two notations, and RON has comments besides. It is
enough that the blanks of JSON are blanks of RON: what stands before the bracket is passed by both, and the bracket
itself opens no comment.

The argument needs no more of the texts than their first character that is not blank. It is about adventures only
in that the document of one is a record; a text or a number alone may be the same in both notations.
-/

namespace Gamebook

open Text
open Text.Reader (Reads Fails Refuses reads_peek exists_run)

variable {bs xs : List Char} {c : Char} {name : String} {fields : Fields} {text : String}

namespace Json

/-- No record is read where nothing comes, or what opens no record. -/
theorem refuses_read {passUnknown : Bool} (hb : Blank bs)
    (hxs : ∀ c ∈ xs.head?, isSpace c = false ∧ c ≠ '{' ∧ c ≠ '[') :
    Refuses (read passUnknown (.record name fields)) (bs ++ xs) := by
  cases xs with
  | nil =>
    rw [read, List.append_nil]
    exact (fails_peekOr rfl hb).bind.refuses
  | cons c xs =>
    obtain ⟨hspace, hbrace, hbracket⟩ := hxs c rfl
    have hfails : Fails (fun _ => True) (read passUnknown (.record name fields)) (bs ++ c :: xs) := by
      rw [read]
      refine (reads_peekOr _ hb hspace xs).fails ?_
      rw [if_neg hbrace, if_neg hbracket]
      exact (refuses_refuse _).fails fun _ => trivial
    exact hfails.refuses

/-- A text that holds a record opens with a brace or a bracket, blanks apart. -/
theorem opens_of_readText {passUnknown : Bool} {value : fields.Value}
    (h : readText passUnknown (.record name fields) text = .ok value) :
    ∃ bs c cs, text.toList = bs ++ c :: cs ∧ Blank bs ∧ (c = '{' ∨ c = '[') := by
  obtain ⟨bs, rest, hsplit, hblank, hstops⟩ := exists_run isSpace text.toList
  by_cases hopens : ∃ c cs, rest = c :: cs ∧ (c = '{' ∨ c = '[')
  · obtain ⟨c, cs, rfl, hc⟩ := hopens
    exact ⟨bs, c, cs, hsplit, hblank, hc⟩
  · have hothers : ∀ c ∈ rest.head?, isSpace c = false ∧ c ≠ '{' ∧ c ≠ '[' := by
      intro c hc
      obtain ⟨cs, hrest⟩ := List.head?_eq_some_iff.mp hc
      refine ⟨hstops c hc, ?_, ?_⟩
      · intro hbrace
        exact hopens ⟨c, cs, hrest, .inl hbrace⟩
      · intro hbracket
        exact hopens ⟨c, cs, hrest, .inr hbracket⟩
    have hrefuses : Refuses (read passUnknown (.record name fields)) text.toList := by
      rw [hsplit]
      exact refuses_read hblank hothers
    obtain ⟨refusal, hrefusal, -⟩ := runText_of_fails (fun _ => True) (hrefuses.fails fun _ => trivial)
    rw [readText, hrefusal] at h
    cases h

end Json

namespace Ron

/-- No record is read where neither a name comes nor a parenthesis. -/
theorem fails_recordStart (hname : isIdentifierRest c = false) (hblank : opensBlank c = false)
    (hopen : c ≠ '(') : Fails anyFault (recordStart name) (c :: xs) := by
  refine (reads_peek (c :: xs)).fails ?_
  rw [if_neg (by simpa using hname)]
  refine (reads_skipBlanks_none (by simpa using hblank)).fails ?_
  refine (reads_accept_other (w := '(') rfl (by simpa using hopen.symm)).fails ?_
  exact Reader.fails_fail trivial

/-- A text that opens with a brace or a bracket holds no record. -/
theorem fails_readText (hb : ∀ d ∈ bs, isSpace d = true) (hc : c = '{' ∨ c = '[') :
    Fails anyFault (readText (.record name fields)) (bs ++ c :: xs) := by
  have hopening : Reads opening (bs ++ c :: xs) false (c :: xs) := by
    apply reads_opening_blanks hb
    · rcases hc with rfl | rfl <;> simp [opensBlank, isSpace]
    · rcases hc with rfl | rfl <;> simp
  refine hopening.fails ?_
  rw [read]
  apply Fails.bind
  apply Fails.bind
  apply fails_recordStart
  · rcases hc with rfl | rfl <;> decide
  · rcases hc with rfl | rfl <;> decide
  · rcases hc with rfl | rfl <;> decide

end Ron

/-! ## Adventures -/

/-- Blanks are the same in both. -/
theorem isSpace_of_json (hc : Json.isSpace c = true) : Ron.isSpace c = true := by
  simp only [Json.isSpace, Bool.or_eq_true] at hc
  simp only [Ron.isSpace, Bool.or_eq_true]
  obtain ((hspace | hfeed) | htab) | hreturn := hc
  · exact .inl (.inl (.inl hspace))
  · exact .inl (.inr hfeed)
  · exact .inl (.inl (.inr htab))
  · exact .inr hreturn

theorem readText_of_jsonDocument {document : adventureShape.Value} (h : jsonDocument text = .ok document) :
    Json.readText false adventureShape text = .ok document := by
  unfold jsonDocument at h
  split at h
  · rename_i held hread
    obtain rfl : held = document := Except.ok.inj h
    exact hread
  · split at h <;> cases h

/-- A text that holds an adventure in JSON is no document in RON. -/
theorem ronDocument_of_json {a : Adventure} (h : parse .json text = .ok a) :
    ∃ e, ronDocument text = .error e := by
  obtain ⟨document, hdocument, -⟩ := exists_document_of_parse h
  obtain ⟨bs, c, cs, hsplit, hblank, hc⟩ := Json.opens_of_readText (readText_of_jsonDocument hdocument)
  have hfails : Fails Ron.anyFault (Ron.readText adventureShape) text.toList := by
    rw [hsplit]
    exact Ron.fails_readText (fun d hd => isSpace_of_json (hblank d hd)) hc
  obtain ⟨fault, cursor, heq, -⟩ := hfails .start
  have hrun : (Ron.readText adventureShape).run text = .error (fault, cursor.position) := by
    rw [Reader.run, Cursor.ofText, heq]
  -- The text may pass for a value of RON, but it is not read as a document.
  unfold ronDocument
  cases hskip : Ron.skipText.run text with
  | error refusal => exact ⟨_, rfl⟩
  | ok _ =>
    rw [hrun]
    exact ⟨_, rfl⟩

theorem not_parse_ron_of_json {a b : Adventure} (hjson : parse .json text = .ok a) :
    parse .ron text ≠ .ok b := by
  intro hron
  obtain ⟨document, hdocument, -⟩ := exists_document_of_parse hron
  obtain ⟨e, he⟩ := ronDocument_of_json hjson
  cases he.symm.trans hdocument

/-- **A text holds one adventure at most**, in whichever notation it is read. If it is accepted in two, the two are
the same, and the adventures with them, since reading is a function. -/
theorem parse_unique {format format' : Format} {a b : Adventure} (ha : parse format text = .ok a)
    (hb : parse format' text = .ok b) : format = format' ∧ a = b := by
  cases format with
  | ron =>
    cases format' with
    | ron => exact ⟨rfl, Except.ok.inj (ha.symm.trans hb)⟩
    | json => exact absurd ha (not_parse_ron_of_json hb)
  | json =>
    cases format' with
    | ron => exact absurd hb (not_parse_ron_of_json ha)
    | json => exact ⟨rfl, Except.ok.inj (ha.symm.trans hb)⟩

end Gamebook
