import Gamebook.Text.Cursor
import Gamebook.Text.Escaped

/-!
# What can be wrong with a JSON text

A fault is either about the notation, or about the shape of what was read: a value of another type, a
field that is missing, repeated or unknown. `Fault.isShape` tells the two kinds apart.

Faults about the notation have a place from the beginning. A fault about the fields of a record is
found while the record is open, and its place is fixed when the reader of the record gives up; until
then a `Failure` has no place.
-/

namespace Gamebook.Json

/-- A value as a message names it. -/
inductive Found
  | null
  | boolean (value : Bool)
  | natural (value : Nat)
  | negative (size : Nat)
  | float (text : String)
  | text (value : String)
  | sequence
  | map
  | unitVariant
deriving DecidableEq, Repr

/-- The words for a value in a message. -/
def Found.describe : Found → String
  | null => "null"
  | boolean true => "boolean `true`"
  | boolean false => "boolean `false`"
  | natural value => "integer `" ++ toString value ++ "`"
  | negative size => "integer `-" ++ toString size ++ "`"
  | float digits => "floating point `" ++ digits ++ "`"
  | text value => "string " ++ Text.quoteText value
  | sequence => "sequence"
  | map => "map"
  | unitVariant => "unit variant"

/-- Why a text cannot be read. -/
inductive Fault
  | endOfValue
  | endOfList
  | endOfObject
  | endOfString
  | expectedValue
  | expectedIdent
  | expectedColon
  | expectedListEnd
  | expectedObjectEnd
  | keyNotString
  | trailingComma
  | trailingText
  | invalidNumber
  | numberOutOfRange
  | invalidEscape
  | loneSurrogate
  | brokenSurrogatePair
  | controlCharacter
  | wrongType (found : Found) (expected : String)
  | wrongValue (found : Found) (expected : String)
  | wrongLength (length : Nat) (expected : String)
  | missingField (field : String)
  | duplicateField (field : String)
  | unknownField (field : String) (known : List String)
  | unknownVariant (variant : String) (known : List String)
deriving DecidableEq, Repr

/-- Whether a fault is about the shape of what was read, and not about the notation. -/
def Fault.isShape : Fault → Bool
  | wrongType .. | wrongValue .. | wrongLength .. | missingField _ | duplicateField _
  | unknownField .. | unknownVariant .. => true
  | _ => false

/-- A name in a message. -/
def showName (name : String) : String := "`" ++ name ++ "`"

/-- The names that would have been known, in a message. -/
def showAlternatives : List String → String
  | [] => "there are no fields"
  | [name] => "expected " ++ showName name
  | [first, second] => "expected " ++ showName first ++ " or " ++ showName second
  | names => "expected one of " ++ ", ".intercalate (names.map showName)

/-- The wording of a fault. -/
def Fault.message : Fault → String
  | endOfValue => "EOF while parsing a value"
  | endOfList => "EOF while parsing a list"
  | endOfObject => "EOF while parsing an object"
  | endOfString => "EOF while parsing a string"
  | expectedValue => "expected value"
  | expectedIdent => "expected ident"
  | expectedColon => "expected `:`"
  | expectedListEnd => "expected `,` or `]`"
  | expectedObjectEnd => "expected `,` or `\x7d`"
  | keyNotString => "key must be a string"
  | trailingComma => "trailing comma"
  | trailingText => "trailing characters"
  | invalidNumber => "invalid number"
  | numberOutOfRange => "number out of range"
  | invalidEscape => "invalid escape"
  | loneSurrogate => "lone leading surrogate in hex escape"
  | brokenSurrogatePair => "unexpected end of hex escape"
  | controlCharacter => "control character (\\u0000-\\u001F) found while parsing a string"
  | wrongType found expected => "invalid type: " ++ found.describe ++ ", expected " ++ expected
  | wrongValue found expected => "invalid value: " ++ found.describe ++ ", expected " ++ expected
  | wrongLength length expected =>
    "invalid length " ++ toString length ++ ", expected " ++ expected
  | missingField field => "missing field " ++ showName field
  | duplicateField field => "duplicate field " ++ showName field
  | unknownField field known => "unknown field " ++ showName field ++ ", " ++ showAlternatives known
  | unknownVariant variant known =>
    "unknown variant " ++ showName variant ++ ", " ++ showAlternatives known

/-- A fault, with its place once that is fixed. -/
structure Failure where
  fault : Fault
  position : Option Text.Position
deriving DecidableEq, Repr

instance : Inhabited Failure := ⟨⟨.endOfValue, none⟩⟩

/-- The place in words. -/
def showPosition (p : Text.Position) : String :=
  "line " ++ toString p.line ++ " column " ++ toString p.column

end Gamebook.Json
