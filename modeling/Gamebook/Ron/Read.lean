import Gamebook.Ron.Skip
import Gamebook.Shape

/-!
# Reading a document from RON

`read` reads the document of a shape. A record is a group of named fields between parentheses, which
its own name may precede. Fields come in any order; one that the record does not know, one that comes
twice and one that is missing are faults. `readText` reads a whole text.
-/

namespace Gamebook.Ron

open Gamebook.Text.Reader (peek advance accept fail loop)

/-! ## Lists -/

/-- One more item and its comma; the state tells whether an item may follow, and holds the items so
far, the last first. -/
def itemStep {α : Type} (item : Reader α) (state : Bool × List α) :
    Reader ((Bool × List α) ⊕ List α) := do
  let (separated, items) := state
  if ← hasElement ']' separated then
    let value ← item
    return .inl (← comma, value :: items)
  else return .inr items.reverse

/-- A list. -/
def listOf {α : Type} (item : Reader α) : Reader (List α) := do
  if !(← accept "[") then fail .expectedList
  let items ← loop (itemStep item) (true, [])
  advance 1
  return items

/-- A field, by what its absence means. -/
def readAs {α : Type} (implicitSome : Bool) (content : Reader α) :
    (presence : Presence) → Reader (presence.Wrap α)
  | .required => content
  | .repeated => listOf content
  | .optional => optionOf implicitSome content

/-! ## Records -/

/-- The name of a record, if one comes next, and the opening parenthesis. -/
def recordStart (name : String) : Reader Unit := do
  if (← peek).any isIdentifierRest then
    let found ← recordName
    if found ≠ name then fail (.otherRecord name found)
  skipBlanks
  if !(← accept "(") then fail (.expectedRecord name)
where
  /-- The identifier that comes next. What is none is taken for a record without its parenthesis. -/
  recordName : Reader String := fun c =>
    match identifier c with
    | .ok found c' => .ok found c'
    | .error _ _ => .error (.expectedRecord name) c

/-- One more field and its comma; the state tells whether a field may follow, and holds the fields so
far. -/
def fieldStep {σ : Type} (readField : String → σ → Reader σ) (state : Bool × σ) :
    Reader ((Bool × σ) ⊕ σ) := do
  let (separated, slots) := state
  if ← hasElement ')' separated then
    let key ← identifier
    let slots ← readField key slots
    return .inl (← comma, slots)
  else return .inr slots

/-- A record, given how to read a field and how to make the record of its fields. -/
def recordOf {σ α : Type} (name : String) (readField : String → σ → Reader σ)
    (complete : σ → Except String α) (noSlots : σ) : Reader α := do
  recordStart name
  let slots ← loop (fieldStep readField) (true, noSlots)
  match complete slots with
  | .error missing => fail (.missingField name missing)
  | .ok value => do
    advance 1
    return value

/-! ## Documents -/

mutual

/-- The document of a shape. -/
def read (implicitSome : Bool) : (shape : Shape) → Reader shape.Value
  | .text => String.ofList <$> stringLiteral
  | .number => UInt32.ofNat <$> natural Word.max32
  | .list item => listOf (read implicitSome item)
  | .record name fields =>
    recordOf name (readField implicitSome name fields.names fields) fields.complete fields.noSlots

/-- The field of a record that a key names, from the key on. -/
def readField (implicitSome : Bool) (record : String) (known : List String) :
    (fields : Fields) → String → fields.Slots → Reader fields.Slots
  | .nil, key, _ => fail (.unexpectedField record key known)
  | .field name presence content rest, key, (slot, slots) =>
    if key = name then
      if slot.isSome then fail (.duplicateField record name)
      else do
        colon
        let value ← readAs implicitSome (read implicitSome content) presence
        return (some value, slots)
    else do
      let slots ← readField implicitSome record known rest key slots
      return (slot, slots)

end

/-- The document of a shape that a whole text holds. -/
def readText (shape : Shape) : Reader shape.Value := do
  let implicitSome ← opening
  let value ← read implicitSome shape
  ending
  return value

end Gamebook.Ron
