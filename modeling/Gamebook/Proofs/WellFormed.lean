import Gamebook.Proofs.Conversion
import Gamebook.Proofs.Json.Reading

/-!
# Errors of the notation and errors of the schema

A text can be refused for two reasons: it is not in the notation, which is a parse error with a place, or what it
says is no adventure, which is a schema error. A text is well-formed if the reader of any value at all accepts it,
and one would expect that the reason tells which texts are.

In RON this is so. That reader is asked first, so a text that is not well-formed is a parse error
(`parse_ron_of_not_wellFormed`). In JSON the reader of documents is the only one, and goes along the text from left
to right. It stops at the first thing that is wrong, of either kind, and so it may report the schema of a text whose
end it has never seen (`schema_error_of_unclosed_text`).

What does hold is said without the reader (`parse_of_not_wellFormed`). A text that is not well-formed is a parse
error, unless it is JSON and what is wrong with the document has been seen before: what has been read of the text
begins well-formed texts, and none that holds an adventure (`Mismatched`). So a schema error is right about the
document in any case; it is silent about the notation. And no text that is not well-formed is accepted.

The proof rests on what JSON makes of any text whatever, where the part already read is closed to a well-formed text
and shown to be read in the same way.
-/

namespace Gamebook

variable {text : String}

/-- A text is in a notation, whatever it says. -/
def WellFormed : Format → String → Prop
  | .ron, text => (Ron.skipText.run text).isOk = true
  | .json, text => (Json.runText Json.skipValue text).isOk = true

instance (format : Format) (text : String) : Decidable (WellFormed format text) :=
  match format with
  | .ron => inferInstanceAs (Decidable (_ = true))
  | .json => inferInstanceAs (Decidable (_ = true))

/-- The beginning of a text is that of well-formed texts in JSON, and none of them holds an adventure. The reader
had to look no further to know that the document is wrong. -/
def Mismatched (text : String) : Prop :=
  ∃ seen rest, text = seen ++ rest ∧ (∃ more, WellFormed .json (seen ++ more)) ∧
    ∀ more a, parse .json (seen ++ more) ≠ .ok a

/-- RON that is not well-formed is a parse error. -/
theorem parse_ron_of_not_wellFormed (h : ¬ WellFormed .ron text) :
    ∃ position message, parse .ron text = .error (.parse position message) := by
  rcases hskip : Ron.skipText.run text with ⟨fault, position⟩ | _
  · refine ⟨ronPosition position, fault.message, ?_⟩
    rw [parse, documentOfText, ronDocument, hskip]
    rfl
  · refine absurd ?_ h
    show (Ron.skipText.run text).isOk = true
    rw [hskip]
    rfl

theorem parse_json_of_refusal {refusal : Json.Refusal}
    (h : Json.readText false adventureShape text = .error refusal) :
    parse .json text = .error (if refusal.fault.isShape then .schema refusal.message
      else .parse refusal.position refusal.message) := by
  have hdocument : documentOfText .json text = .error (if refusal.fault.isShape then .schema refusal.message
      else .parse refusal.position refusal.message) := by
    rw [documentOfText, jsonDocument, h]
    show (if refusal.fault.isShape = true then _ else _) = _
    split
    · rfl
    · rfl
  rw [parse, hdocument]
  rfl

/-- What is refused in JSON holds no adventure. -/
theorem parse_json_ne_ok {refusal : Json.Refusal} (h : Json.readText false adventureShape text = .error refusal)
    (a : Adventure) : parse .json text ≠ .ok a := by
  rw [parse_json_of_refusal h]
  nofun

/-- JSON that is not well-formed is a parse error, or the document that it begins is none of an adventure. -/
theorem parse_json_of_not_wellFormed (h : ¬ WellFormed .json text) :
    (∃ position message, parse .json text = .error (.parse position message)) ∨
      (∃ message, parse .json text = .error (.schema message)) ∧ Mismatched text := by
  rcases Json.judged_runText (Json.judged_read adventureShape text.toList) with
    ⟨document, -, hskip⟩ | ⟨refusal, hrefusal, hnotation⟩ | ⟨seen, rest, more, htext, hskip, hrefused⟩
  · refine absurd ?_ h
    show (Json.runText Json.skipValue text).isOk = true
    rw [hskip]
    rfl
  · refine .inl ⟨refusal.position, refusal.message, ?_⟩
    rw [parse_json_of_refusal hrefusal, hnotation]
    rfl
  · have hmismatched : Mismatched text := by
      refine ⟨seen, rest, htext, ⟨more, ?_⟩, fun more a => ?_⟩
      · show (Json.runText Json.skipValue (seen ++ more)).isOk = true
        rw [hskip]
        rfl
      · obtain ⟨refusal, hrefusal⟩ := hrefused more
        exact parse_json_ne_ok hrefusal a
    obtain ⟨refusal, hrefusal⟩ := hrefused rest
    rw [← htext] at hrefusal
    rw [parse_json_of_refusal hrefusal]
    cases refusal.fault.isShape with
    | true => exact .inr ⟨⟨refusal.message, rfl⟩, hmismatched⟩
    | false => exact .inl ⟨refusal.position, refusal.message, rfl⟩

/-- **A text that is not well-formed is a parse error**, with a place, unless it is JSON in which a mismatch with
the schema has been seen before. It is never accepted. Both notations are in the statement, and for RON the exception
is excluded: what is wrong with a document is looked for only in a text that is known to be RON. -/
theorem parse_of_not_wellFormed (format : Format) (text : String) (h : ¬ WellFormed format text) :
    (∃ position message, parse format text = .error (.parse position message)) ∨
      format = .json ∧ (∃ message, parse .json text = .error (.schema message)) ∧ Mismatched text := by
  cases format with
  | ron => exact .inl (parse_ron_of_not_wellFormed h)
  | json => exact (parse_json_of_not_wellFormed h).imp_right fun hschema => ⟨rfl, hschema⟩

/-- An object that is not closed, with a number where the metadata should be. -/
def unclosedText : String := "\x7b\"metadata\": 5"

theorem parse_unclosedText : parse .json unclosedText = .error
    (.schema "invalid type: integer `5`, expected struct RawMetadata at line 1 column 14") := by rfl

/-- The number is seen, and the end that is missing is not. -/
theorem unclosedText_mismatched : ¬ WellFormed .json unclosedText ∧ Mismatched unclosedText := by
  have hopen : ¬ WellFormed .json unclosedText := by decide +kernel
  refine ⟨hopen, ?_⟩
  rcases parse_of_not_wellFormed .json unclosedText hopen with ⟨position, message, hparse⟩ | ⟨-, -, hmismatched⟩
  · cases parse_unclosedText.symm.trans hparse
  · exact hmismatched

/-- The kind of an error does not tell whether a text is JSON: a schema error may be about a text that ends in the
middle of an object. -/
theorem schema_error_of_unclosed_text :
    ¬ ∀ (format : Format) (text message : String),
      parse format text = .error (.schema message) → WellFormed format text := by
  intro h
  have hopen : ¬ WellFormed .json unclosedText := by decide +kernel
  exact hopen (h .json unclosedText _ parse_unclosedText)

end Gamebook
