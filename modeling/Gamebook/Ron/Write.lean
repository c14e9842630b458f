import Gamebook.Shape
import Gamebook.Text.Escaped

/-!
# Writing a document as RON

Lists and records that hold something are written over several lines, each entry on a line of its own,
indented by four spaces more than its surroundings and followed by a comma. An option that holds
nothing is left out; records have no names.
-/

namespace Gamebook.Ron

open Gamebook.Text

/-- The blanks at the beginning of a line. -/
def indentation (depth : Nat) : List Char := List.replicate (4 * depth) ' '

/-- A text between double quotes. -/
def writeString (s : String) : List Char :=
  '"' :: (s.toList.flatMap (escapeChar ⟨true, true⟩) ++ ['"'])

/-- Entries on lines of their own between an opening and a closing character. -/
def writeEntries (openChar closeChar : Char) (depth : Nat) (entries : List (List Char)) : List Char :=
  openChar :: '\n' ::
    (entries.flatMap (fun entry => indentation (depth + 1) ++ entry ++ [',', '\n']) ++
      indentation depth ++ [closeChar])

/-- A list of written items. -/
def writeItems (depth : Nat) (items : List (List Char)) : List Char :=
  if items.isEmpty then ['[', ']'] else writeEntries '[' ']' depth items

/-- The written content of a field, unless the field is left out. -/
def writeAs {α : Type} (depth : Nat) (content : Nat → α → List Char) :
    (presence : Presence) → presence.Wrap α → Option (List Char)
  | .required, value => some (content depth value)
  | .repeated, values => some (writeItems depth (values.map (content (depth + 1))))
  | .optional, value => value.map fun value => "Some(".toList ++ content depth value ++ [')']

/-- A named entry. -/
def writeEntry (name : String) (content : List Char) : List Char := name.toList ++ ": ".toList ++ content

mutual

/-- A document, at a depth of indentation. -/
def write : (shape : Shape) → Nat → shape.Value → List Char
  | .text, _, value => writeString value
  | .number, _, value => Nat.toDigits 10 value.toNat
  | .list item, depth, values => writeItems depth (values.map (write item (depth + 1)))
  | .record _ fields, depth, value => writeEntries '(' ')' depth (writeFields fields (depth + 1) value)

/-- The entries of a record. -/
def writeFields : (fields : Fields) → Nat → fields.Value → List (List Char)
  | .nil, _, _ => []
  | .field name presence content rest, depth, (value, values) =>
    ((writeAs depth (write content) presence value).map (writeEntry name)).toList ++
      writeFields rest depth values

end

/-- A document as a text. -/
def writeText (shape : Shape) (value : shape.Value) : String := String.ofList (write shape 0 value)

end Gamebook.Ron
