import Gamebook.Json.Skip
import Gamebook.Shape

/-!
# Reading a document from JSON

`read` reads the document of a shape. A record is an object, or the array of its fields in order. In an
object the fields come in any order; one that comes twice and one that is missing are faults, and so is
one that the record does not know, unless such fields are to be passed over. `readText` reads a whole
text.

The text is read once. What has been read is judged as it comes, so a text that is not the document
that was expected is refused where that shows, whatever comes behind.
-/

namespace Gamebook.Json

open Gamebook.Text
open Text.Reader (peek advance loop)

/-! ## Scalars -/

/-- What comes next instead of what was expected. A scalar is passed, and must be well formed. -/
def foundAhead : Reader Found := do
  match ← peek with
  | some 'n' => do
    word "null".toList
    return .null
  | some 't' => do
    word "true".toList
    return .boolean true
  | some 'f' => do
    word "false".toList
    return .boolean false
  | some '"' => return .text (← stringLiteral)
  | some '[' => return .sequence
  | some '{' => return .map
  | some c =>
    if c = '-' || c.isDigit then return (← numeral).found
    else failPeek .expectedValue
  | none => failPeek .expectedValue

/-- Refuses what comes next. -/
def refuse {α : Type} (expected : String) : Reader α := do
  let found ← foundAhead
  fail (.wrongType found expected)

/-- A text. -/
def readString : Reader String := do
  let c ← peekOr .endOfValue
  if c = '"' then stringLiteral else refuse "a string"

/-- A number of 32 bits. -/
def readNumber : Reader UInt32 := do
  let c ← peekOr .endOfValue
  if c = '-' || c.isDigit then
    match ← numeral with
    | .natural value =>
      if value < Word.count32 then return UInt32.ofNat value
      else fail (.wrongValue (.natural value) "u32")
    | .negative size => fail (.wrongValue (.negative size) "u32")
    | .float value => fail (.wrongType (Numeral.float value).found "u32")
  else refuse "u32"

/-- Nothing, which is written as null. -/
def readNull : Reader Unit := do
  let c ← peekOr .endOfValue
  if c = 'n' then word "null".toList else refuse "unit"

/-- Null, or content. -/
def optionOf {α : Type} (content : Reader α) : Reader (Option α) := do
  match ← peekWord with
  | some 'n' => do
    word "null".toList
    return none
  | _ => return some (← content)

/-! ## Lists -/

/-- Whether one more element comes in a list. -/
def hasElement (first : Bool) : Reader Bool := do
  let c ← peekOr .endOfList
  if c = ']' then return false
  else if first then return true
  else if c = ',' then do
    advance 1
    let c ← peekOr .endOfValue
    if c = ']' then failPeek .trailingComma else return true
  else failPeek .expectedListEnd

/-- The end of a list. -/
def endList : Reader Unit := do
  let c ← peekOr .endOfList
  if c = ']' then advance 1
  else if c = ',' then do
    advance 1
    match ← peekWord with
    | some ']' => failPeek .trailingComma
    | _ => failPeek .trailingText
  else failPeek .trailingText

/-- The end of an object. -/
def endObject : Reader Unit := do
  let c ← peekOr .endOfObject
  if c = '}' then advance 1
  else if c = ',' then failPeek .trailingComma
  else failPeek .trailingText

/-- What lies inside a list or an object, and its end. Where the inside is refused the end is passed
too, if it comes next, and only then is the place of the fault fixed. -/
def closedBy {α : Type} (close : Reader Unit) (inside : Reader α) : Reader α := place fun c =>
  match inside c with
  | .ok value c' => (close.map fun _ => value) c'
  | .error failure c' =>
    match close c' with
    | .ok _ c'' => .error failure c''
    | .error _ c'' => .error failure c''

/-- One more item; the state is the items so far, the last first. -/
def itemStep {α : Type} (item : Reader α) (items : List α) : Reader (List α ⊕ List α) := do
  if ← hasElement items.isEmpty then return .inl ((← item) :: items)
  else return .inr items.reverse

/-- A list. -/
def listOf {α : Type} (item : Reader α) : Reader (List α) := do
  let c ← peekOr .endOfValue
  if c = '[' then do
    advance 1
    closedBy endList (loop (itemStep item) [])
  else refuse "a sequence"

/-- A field, by what its absence means. -/
def readAs {α : Type} (content : Reader α) : (presence : Presence) → Reader (presence.Wrap α)
  | .required => content
  | .repeated => listOf content
  | .optional => optionOf content

/-! ## Records -/

/-- Whether one more entry comes in an object; then its key comes next. -/
def hasEntry (first : Bool) : Reader Bool := do
  let c ← peekOr .endOfObject
  if c = '}' then return false
  else if first then
    if c = '"' then return true else failPeek .keyNotString
  else if c = ',' then do
    advance 1
    let c ← peekOr .endOfValue
    if c = '"' then return true
    else if c = '}' then failPeek .trailingComma
    else failPeek .keyNotString
  else failPeek .expectedObjectEnd

/-- The colon of an entry. -/
def colon : Reader Unit := do
  let c ← peekOr .endOfObject
  if c = ':' then advance 1 else failPeek .expectedColon

/-- One more field; the state tells whether it is the first, and holds the fields so far. -/
def fieldStep {σ : Type} (readField : String → σ → Reader σ) (state : Bool × σ) :
    Reader ((Bool × σ) ⊕ σ) := do
  let (first, slots) := state
  if ← hasEntry first then
    let key ← stringLiteral
    return .inl (false, ← readField key slots)
  else return .inr slots

/-- What an object or array in the place of a record is expected to be. -/
def recordNoun (name : String) : String := "struct " ++ name

/-- A record, given how to read a field of an object, how to make the record of its fields, and how to
read the fields of an array. -/
def recordOf {σ α : Type} (expected : String) (readField : String → σ → Reader σ)
    (complete : σ → Except String α) (noSlots : σ) (inOrder : Reader α) : Reader α := do
  let c ← peekOr .endOfValue
  if c = '{' then do
    advance 1
    closedBy endObject do
      let slots ← loop (fieldStep readField) (true, noSlots)
      match complete slots with
      | .ok value => return value
      | .error missing => failUnplaced (.missingField missing)
  else if c = '[' then do
    advance 1
    closedBy endList inOrder
  else refuse expected

/-- The length that an array in the place of a record should have. -/
def lengthNoun (expected : String) (count : Nat) : String :=
  expected ++ " with " ++ toString count ++ (if count = 1 then " element" else " elements")

/-! ## Documents -/

mutual

/-- The document of a shape. Fields that a record does not know are passed over on demand. -/
def read (passUnknown : Bool) : (shape : Shape) → Reader shape.Value
  | .text => readString
  | .number => readNumber
  | .list item => listOf (read passUnknown item)
  | .record name fields =>
    recordOf (recordNoun name) (readField passUnknown fields.names fields) fields.complete
      fields.noSlots
      (readInOrder passUnknown (lengthNoun (recordNoun name) fields.names.length) 0 fields)

/-- The field of a record that a key names, from behind the key on. -/
def readField (passUnknown : Bool) (known : List String) :
    (fields : Fields) → String → fields.Slots → Reader fields.Slots
  | .nil, key, slots =>
    if passUnknown then do
      colon
      skipValue
      return slots
    else failUnplaced (.unknownField key known)
  | .field name presence content rest, key, (slot, slots) =>
    if key = name then
      if slot.isSome then failUnplaced (.duplicateField name)
      else do
        colon
        let value ← readAs (read passUnknown content) presence
        return (some value, slots)
    else do
      let slots ← readField passUnknown known rest key slots
      return (slot, slots)

/-- The fields of a record that is written as an array, from the one of the given number on. -/
def readInOrder (passUnknown : Bool) (expected : String) (index : Nat) :
    (fields : Fields) → Reader fields.Value
  | .nil => pure ()
  | .field _ presence content rest => do
    let value ←
      if ← hasElement (index = 0) then readAs (read passUnknown content) presence
      else
        match presence.absent? content.Value with
        | some value => pure value
        | none => failUnplaced (.wrongLength index expected)
    let values ← readInOrder passUnknown expected (index + 1) rest
    return (value, values)

end

/-- The end of a text: blanks and nothing else. -/
def ending : Reader Unit := do
  match ← peekWord with
  | some _ => failPeek .trailingText
  | none => pure ()

/-- What a reader reads, and then the end of the text. -/
def whole {α : Type} (r : Reader α) : Reader α := do
  let value ← r
  ending
  return value

/-- A fault of a text and its place. -/
structure Refusal where
  fault : Fault
  position : Text.Position
deriving DecidableEq, Repr

/-- The wording of a refusal: the fault and the place. -/
def Refusal.message (r : Refusal) : String := r.fault.message ++ " at " ++ showPosition r.position

/-- What a reader reads in a whole text. -/
def runText {α : Type} (r : Reader α) (text : String) : Except Refusal α :=
  match (place (whole r)).run text with
  | .ok value => .ok value
  | .error (failure, position) => .error ⟨failure.fault, failure.position.getD position⟩

/-- The document of a shape that a whole text holds. -/
def readText (passUnknown : Bool) (shape : Shape) (text : String) : Except Refusal shape.Value :=
  runText (read passUnknown shape) text

end Gamebook.Json
