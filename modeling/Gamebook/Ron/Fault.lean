import Gamebook.Text.Escaped

/-!
# What can be wrong with a RON text

Each fault is a cause; `Fault.message` words it. The first group concerns the notation itself and can
arise in any text. The second group arises only once it is known which document is expected.
-/

namespace Gamebook.Ron

/-- Why a text cannot be read. -/
inductive Fault
  | endOfText
  | unclosedComment
  | unexpectedByte (byte : Char)
  | trailingText
  | expectedAttribute
  | expectedAttributeEnd
  | unknownExtension (name : String)
  | expectedComma
  | expectedColon
  | expectedIdentifier
  | needsRawIdentifier (name : String)
  | expectedString
  | unclosedString
  | expectedChar
  | unknownEscape
  | badHexDigit
  | escapeWithoutBrace
  | escapeWithoutDigits
  | unclosedEscape
  | notACharacter
  | expectedInteger
  | leadingUnderscore
  | integerOutOfBounds
  | expectedFloat
  | floatUnderscore
  | expectedOption
  | unclosedGroup
  | tooDeep
  | expectedList
  | expectedRecord (name : String)
  | otherRecord (expected found : String)
  | unexpectedField (record field : String) (known : List String)
  | missingField (record field : String)
  | duplicateField (record field : String)
deriving DecidableEq, Repr

instance : Inhabited Fault := ⟨.endOfText⟩

/-! ## Identifiers in messages -/

/-- The characters that may open an identifier. -/
def isIdentifierStart (c : Char) : Bool := c.isAlpha || c == '_'

/-- The characters that may go on with an identifier. -/
def isIdentifierRest (c : Char) : Bool := isIdentifierStart c || c.isDigit

/-- The characters of a raw identifier. -/
def isRawIdentifier (c : Char) : Bool := isIdentifierRest c || c == '.' || c == '+' || c == '-'

/-- Whether a name can be written without the raw form. -/
def isPlainName (name : String) : Bool :=
  match name.toList with
  | [] => false
  | c :: rest => isIdentifierStart c && rest.all isIdentifierRest

/-- A name in a message. -/
def showName (name : String) : String :=
  if isPlainName name then "`" ++ name ++ "`" else "`r#" ++ name ++ "`"

/-- The fields a record knows, in a message. -/
def showAlternatives : List String → String
  | [] => "there are no fields"
  | [name] => "expected " ++ showName name ++ " instead"
  | [first, second] => "expected either " ++ showName first ++ " or " ++ showName second ++ " instead"
  | names => "expected one of " ++ ", ".intercalate (names.map showName) ++ " instead"

/-- The wording of a fault. -/
def Fault.message : Fault → String
  | endOfText => "Unexpected end of RON"
  | unclosedComment => "Unclosed block comment"
  | unexpectedByte byte => "Unexpected byte " ++ Text.quoteChar byte
  | trailingText => "Non-whitespace trailing characters"
  | expectedAttribute => "Expected an `#![enable(...)]` attribute"
  | expectedAttributeEnd => "Expected closing `)]` after the enable attribute"
  | unknownExtension name => "No RON extension named " ++ showName name
  | expectedComma => "Expected comma"
  | expectedColon => "Expected colon"
  | expectedIdentifier => "Expected identifier"
  | needsRawIdentifier name =>
    "Found invalid std identifier `" ++ name ++ "`, try the raw identifier `r#" ++ name ++ "` instead"
  | expectedString => "Expected string"
  | unclosedString => "Expected end of string"
  | expectedChar => "Expected char"
  | unknownEscape => "Unknown escape character"
  | badHexDigit => "Non-hex digit found"
  | escapeWithoutBrace => "Missing \x7b in Unicode escape"
  | escapeWithoutDigits => "Expected 1-6 digits, got 0 digits in Unicode escape"
  | unclosedEscape => "No \x7d at the end of Unicode escape"
  | notACharacter => "Not a valid char"
  | expectedInteger => "Expected integer"
  | leadingUnderscore => "Unexpected leading underscore in an integer"
  | integerOutOfBounds => "Integer is out of bounds"
  | expectedFloat => "Expected float"
  | floatUnderscore => "Unexpected underscore in float"
  | expectedOption => "Expected option"
  | unclosedGroup => "Expected closing `)`"
  | tooDeep =>
    "Exceeded recursion limit, try increasing the limit and using `serde_stacker` " ++
      "to protect against a stack overflow"
  | expectedList => "Expected opening `[`"
  | expectedRecord name => "Expected opening `(` for struct " ++ showName name
  | otherRecord expected found =>
    "Expected struct " ++ showName expected ++ " but found " ++ showName found
  | unexpectedField record field known =>
    "Unexpected field named " ++ showName field ++ "in " ++ showName record ++ ", " ++
      showAlternatives known
  | missingField record field =>
    "Unexpected missing field " ++ showName field ++ " in " ++ showName record
  | duplicateField record field =>
    "Unexpected duplicate field " ++ showName field ++ " in " ++ showName record

end Gamebook.Ron
