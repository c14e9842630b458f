import Gamebook.Document
import Gamebook.Json.Read
import Gamebook.Json.Write
import Gamebook.Ron.Read
import Gamebook.Ron.Write

/-!
# The two notations of adventures

An adventure is written as RON, by its authors, or as JSON, for browsers. `parse` reads either, and
`serialize` writes either. What is read need not be playable; that is for `Adventure.validate` to say.

A text that is not in the notation at all is a parse error with a place. A text that is, but does not
hold an adventure, is a schema error. In RON the first question is settled for the whole text before
the second is asked; in JSON both are asked at once, from left to right.
-/

namespace Gamebook

/-- A notation for adventures. -/
inductive Format
  | ron
  | json
deriving DecidableEq, Repr

namespace Format

/-- The extension of files in a notation. -/
def extension : Format → String
  | ron => "ron"
  | json => "json"

/-- The media type of a notation. -/
def mediaType : Format → String
  | ron => "application/ron"
  | json => "application/json"

/-- The notation of an extension, in capital or small letters. -/
def ofExtension? (extension : String) : Option Format :=
  if extension.toLower = "ron" then some .ron
  else if extension.toLower = "json" then some .json
  else none

end Format

/-- Why a text is no adventure. -/
inductive FormatError
  | parse (position : Text.Position) (message : String)
  | schema (message : String)
deriving DecidableEq, Repr

/-- The wording of what is wrong with a text. -/
def FormatError.message : FormatError → String
  | parse position message =>
    "parse error at line " ++ toString position.line ++ ", column " ++ toString position.column ++ ": " ++
      message
  | schema message => "schema error: " ++ message

/-- A place as RON readers tell it: columns count from one. -/
def ronPosition (p : Text.Position) : Text.Position := ⟨p.line, p.column + 1⟩

/-- The document of a RON text. -/
def ronDocument (text : String) : Except FormatError adventureShape.Value := do
  match Ron.skipText.run text with
  | .error (fault, position) => throw (.parse (ronPosition position) fault.message)
  | .ok () =>
    match (Ron.readText adventureShape).run text with
    | .ok document => return document
    | .error (fault, position) =>
      let p := ronPosition position
      throw (.schema (fault.message ++ " (line " ++ toString p.line ++ ", column " ++
        toString p.column ++ ")"))

/-- The document of a JSON text. -/
def jsonDocument (text : String) : Except FormatError adventureShape.Value :=
  match Json.readText false adventureShape text with
  | .ok document => .ok document
  | .error refusal =>
    if refusal.fault.isShape then .error (.schema refusal.message)
    else .error (.parse refusal.position refusal.message)

/-- The document of a text. -/
def documentOfText : Format → String → Except FormatError adventureShape.Value
  | .ron => ronDocument
  | .json => jsonDocument

/-- The adventure that a text holds. -/
def parse (format : Format) (text : String) : Except FormatError Adventure := do
  let document ← documentOfText format text
  match adventureOf document with
  | .ok a => return a
  | .error fault => throw (.schema fault.message)

/-- An adventure as a text. -/
def serialize (format : Format) (a : Adventure) : String :=
  match format with
  | .ron => Ron.writeText adventureShape (documentOf a)
  | .json => Json.writeText adventureShape (documentOf a)

end Gamebook
