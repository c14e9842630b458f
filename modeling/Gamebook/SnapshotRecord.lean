import Gamebook.Json.Read
import Gamebook.Play

/-!
# Snapshots as JSON

A snapshot is a record of a state and the items that are carried. A state is the word for the
introduction, or an object whose one key says which state it is: the introduction with null, a passage
with its number, or an ending with a record of the passage and the type of the ending. The reader is
built from the same parts as the readers of documents; fields that are not known are passed over.
-/

namespace Gamebook

open Gamebook.Json
open Text.Reader (advance)

namespace PlayState

/-- The names of the states. -/
def variants : List String := ["Introduction", "InPassage", "Ended"]

/-- The record of an ending. -/
@[reducible] def endingFields : Fields :=
  .field "passage" .required .number (.field "ending_type" .required .text .nil)

/-- How messages call the record of an ending. -/
def endingNoun : String := "struct variant PlayState::Ended"

/-- The record of an ending. -/
def readEnding : Json.Reader PlayState := do
  let (passage, endingType, ()) ←
    recordOf endingNoun (readField true endingFields.names endingFields) endingFields.complete
      endingFields.noSlots (readInOrder true (lengthNoun endingNoun 2) 0 endingFields)
  return .ended passage endingType

/-- The name of a state. -/
def readVariant : Json.Reader String := do
  let name ← stringLiteral
  if name ∈ variants then return name
  else Json.fail (.unknownVariant name variants)

/-- The key of an object that holds a state. -/
def readKey : Json.Reader String := do
  let c ← peekOr .endOfObject
  if c = '"' then readVariant
  else if c = '}' then failPeek .expectedValue
  else failPeek .keyNotString

/-- The content of the state with a name. -/
def readContent (variant : String) : Json.Reader PlayState := do
  if variant = "Introduction" then
    readNull
    return .introduction
  else if variant = "InPassage" then return .inPassage (← readNumber)
  else readEnding

/-- The state that needs nothing but its name. -/
def ofVariant (variant : String) : Json.Reader PlayState := do
  if variant = "Introduction" then return .introduction
  else if variant = "InPassage" then failUnplaced (.wrongType .unitVariant "newtype variant")
  else failUnplaced (.wrongType .unitVariant "struct variant")

/-- A state. -/
def read : Json.Reader PlayState := do
  let c ← peekOr .endOfValue
  if c = '{' then do
    advance 1
    let variant ← readKey
    colon
    let state ← readContent variant
    match ← peekWord with
    | some '}' => do
      advance 1
      return state
    | some _ => Json.fail .expectedValue
    | none => Json.fail .endOfObject
  else if c = '"' then ofVariant (← readVariant)
  else failPeek .expectedValue

end PlayState

namespace Snapshot

/-- The fields of a snapshot that have been met so far. -/
abbrev Slots := Option PlayState × Option (List String)

/-- The items that are carried. -/
def readItems : Json.Reader (List String) := listOf readString

/-- The field of a snapshot that a key names, from behind the key on. -/
def readField (key : String) (slots : Slots) : Json.Reader Slots := do
  let (state, items) := slots
  if key = "state" then
    if state.isSome then failUnplaced (.duplicateField key)
    colon
    return (some (← PlayState.read), items)
  else if key = "inventory" then
    if items.isSome then failUnplaced (.duplicateField key)
    colon
    return (state, some (← readItems))
  else do
    colon
    skipValue
    return slots

/-- The snapshot whose fields have been met, or the first field that has not. -/
def complete : Slots → Except String Snapshot
  | (none, _) => .error "state"
  | (_, none) => .error "inventory"
  | (some state, some items) => .ok ⟨state, .ofList items⟩

/-- How messages call a snapshot. -/
def noun : String := "struct Snapshot"

/-- The fields of a snapshot that is written as an array. -/
def readInOrder : Json.Reader Snapshot := do
  if !(← hasElement true) then failUnplaced (.wrongLength 0 (lengthNoun noun 2))
  let state ← PlayState.read
  if !(← hasElement false) then failUnplaced (.wrongLength 1 (lengthNoun noun 2))
  let items ← readItems
  return ⟨state, .ofList items⟩

/-- A snapshot. -/
def read : Json.Reader Snapshot := recordOf noun readField complete (none, none) readInOrder

/-- The snapshot that a text holds. -/
def parse (text : String) : Except Json.Refusal Snapshot := runText read text

end Snapshot

end Gamebook
