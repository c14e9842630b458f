import Gamebook.Ron.Fault
import Gamebook.Text.Cursor
import Gamebook.Word

/-!
# The words of RON

Readers of everything below the level of values: blanks and comments, identifiers, whole numbers,
numbers with a fraction, strings and characters, and the attribute that may open a text.

The notation is read byte by byte, while the text here is a list of characters. The two agree but for
places: where a byte that begins a longer character is read and refused, the fault stands one byte
behind it, inside the character.
-/

namespace Gamebook.Ron

open Gamebook.Text

/-- A reader of RON. -/
abbrev Reader (α : Type) := Text.Reader Fault α

open Text.Reader (peek advance skipWhile takeWhile accept fail failAfter lookAhead loop)

/-! ## Character classes -/

/-- Blanks between words. -/
def isSpace (c : Char) : Bool := c == ' ' || c == '\t' || c == '\n' || c == '\r'

/-- What a run of digits of a whole number may hold, whatever the base. -/
def isIntegerPart (c : Char) : Bool :=
  c.isDigit || ('a' ≤ c && c ≤ 'f') || ('A' ≤ c && c ≤ 'F') || c == '_'

/-- What a number with a fraction may hold. -/
def isFloatPart (c : Char) : Bool :=
  c.isDigit || c == 'e' || c == 'E' || c == '.' || c == '+' || c == '-' || c == '_'

/-- The value of a hexadecimal digit. -/
def hexValue? (c : Char) : Option Nat :=
  if c.isDigit then some (c.toNat - 0x30)
  else if 'a' ≤ c ∧ c ≤ 'f' then some (c.toNat - 0x61 + 10)
  else if 'A' ≤ c ∧ c ≤ 'F' then some (c.toNat - 0x41 + 10)
  else none

/-- The first byte of a character, as the character of that number. -/
def firstByte (c : Char) : Char :=
  let n := c.toNat
  if n < 0x80 then c
  else if n < 0x800 then Char.ofNat (0xC0 + n / 0x40)
  else if n < 0x10000 then Char.ofNat (0xE0 + n / 0x1000)
  else Char.ofNat (0xF0 + n / 0x40000)

/-! ## Blanks and comments -/

/-- One step through a block comment; the state is the number of comments that are open. -/
def blockCommentStep (level : Nat) : Reader (Nat ⊕ Unit) := fun c =>
  match c.rest with
  | [] => .error .unclosedComment c
  | '/' :: '*' :: _ => .ok (.inl (level + 1)) (c.advance 2)
  | '*' :: '/' :: _ =>
    if level ≤ 1 then .ok (.inr ()) (c.advance 2) else .ok (.inl (level - 1)) (c.advance 2)
  | _ => .ok (.inl level) (c.advance 1)

/-- A comment, from its slash on: to the end of the line, or a block, in which blocks nest. -/
def comment : Reader Unit := do
  advance 1
  match ← peek with
  | none => fail .endOfText
  | some '/' => skipWhile (· ≠ '\n')
  | some '*' => do
    advance 1
    loop blockCommentStep 1
  | some c => failAfter 1 (.unexpectedByte (firstByte c))

/-- Blanks, and one comment if it comes next. -/
def blankStep (_ : Unit) : Reader (Unit ⊕ Unit) := do
  skipWhile isSpace
  match ← peek with
  | some '/' => do
    comment
    return .inl ()
  | _ => return .inr ()

/-- Passes blanks and comments. -/
def skipBlanks : Reader Unit := loop blankStep ()

/-- Passes a comma with the blanks around it, and tells whether there was one. -/
def comma : Reader Bool := do
  skipBlanks
  if ← accept "," then
    skipBlanks
    return true
  else
    return false

/-- The next character, where the text must not end. -/
def peekOrEnd : Reader Char := do
  match ← peek with
  | some c => return c
  | none => fail .endOfText

/-! ## Identifiers -/

/-- Passes a word that no further letter, digit or underscore follows. -/
def acceptWord (word : String) : Reader Bool := fun c =>
  if word.toList.isPrefixOf c.rest && !(c.rest.drop word.toList.length).head?.any isIdentifierRest then
    .ok true (c.advance word.toList.length)
  else
    .ok false c

/-- Whether a word comes next that no further letter, digit or underscore follows. -/
def followsWord (word : String) : Reader Bool := lookAhead (acceptWord word)

/-- An identifier in its plain form. A run of characters that only a raw identifier may hold is
refused with the advice to write it raw. -/
def plainIdentifier : Reader String := fun c =>
  let plain := c.rest.takeWhile isIdentifierRest
  let raw := c.rest.takeWhile isRawIdentifier
  if plain.length < raw.length then .error (.needsRawIdentifier (String.ofList raw)) c
  else .ok (String.ofList plain) (c.advance plain.length)

/-- An identifier: plain, or raw behind a letter r and a number sign. A reader that fails here has not
moved. -/
def identifier : Reader String := fun c =>
  match c.rest with
  | [] => .error .endOfText c
  | 'r' :: [] => .error .endOfText c
  | 'r' :: '"' :: _ => .error .expectedIdentifier c
  | 'r' :: '#' :: rest =>
    let raw := rest.takeWhile isRawIdentifier
    if raw.isEmpty then .error .expectedIdentifier c
    else .ok (String.ofList raw) (c.advance (2 + raw.length))
  | first :: _ =>
    if isIdentifierStart first then plainIdentifier c
    else if isRawIdentifier first then
      .error (.needsRawIdentifier (String.ofList (c.rest.takeWhile isRawIdentifier))) c
    else .error .expectedIdentifier c

/-! ## Whole numbers -/

/-- The base that the first two characters of a number announce. -/
def announcedBase : List Char → Option Nat
  | '0' :: 'x' :: _ => some 16
  | '0' :: 'b' :: _ => some 2
  | '0' :: 'o' :: _ => some 8
  | _ => none

/-- The value of a run of digits, within a limit. Underscores are passed over. The limit is compared
before a digit is looked at, and again after it is added; so an overflow hides a bad digit behind it
and not one before it. -/
def digitsValue (base limit : Nat) (value : Nat) : List Char → Except Fault Nat
  | [] => .ok value
  | c :: rest =>
    if c = '_' then digitsValue base limit value rest
    else if limit < value * base then .error .integerOutOfBounds
    else
      match hexValue? c with
      | none => .error .expectedInteger
      | some digit =>
        if base ≤ digit then .error .expectedInteger
        else if limit < value * base + digit then .error .integerOutOfBounds
        else digitsValue base limit (value * base + digit) rest

/-- A whole number without sign, at most a limit. A number that is refused for its value or its digits
has been passed. -/
def natural (limit : Nat) : Reader Nat := do
  let base ← fun c : Cursor =>
    match announcedBase c.rest with
    | some base => .ok base (c.advance 2)
    | none => .ok 10 c
  let digits ← takeRun
  match digits with
  | [] => fail .expectedInteger
  | '_' :: _ => fail .leadingUnderscore
  | _ => do
    advance digits.length
    match digitsValue base limit 0 digits with
    | .ok value => return value
    | .error fault => fail fault
where
  /-- The run of digits that comes next, which stays where it is. -/
  takeRun : Reader (List Char) := fun c => .ok (c.rest.takeWhile isIntegerPart) c

/-! ## Numbers with a fraction -/

/-- Digits, a point with digits on either side of it or on both, and an exponent, which may be left
out. -/
def isUnsignedFloat (cs : List Char) : Bool :=
  let whole := cs.takeWhile Char.isDigit
  let rest := cs.dropWhile Char.isDigit
  let (fraction, exponent) :=
    match rest with
    | '.' :: rest => (rest.takeWhile Char.isDigit, rest.dropWhile Char.isDigit)
    | rest => ([], rest)
  !(whole.isEmpty && fraction.isEmpty) && isExponent exponent
where
  /-- Nothing, or the letter e, a sign if there is one, and digits. -/
  isExponent : List Char → Bool
    | [] => true
    | e :: rest => (e == 'e' || e == 'E') && isDigits (unsigned rest)
  /-- At least one digit and nothing else. -/
  isDigits (cs : List Char) : Bool := !cs.isEmpty && cs.all Char.isDigit
  /-- Without a sign at the front. -/
  unsigned : List Char → List Char
    | '+' :: rest => rest
    | '-' :: rest => rest
    | rest => rest

/-- Without one sign at the front. -/
def withoutSign : List Char → List Char
  | '+' :: rest => rest
  | '-' :: rest => rest
  | rest => rest

/-- Passes the first of some words that comes next, and tells whether one did. -/
def acceptAny : List String → Reader Bool
  | [] => return false
  | word :: others => do
    if ← acceptWord word then return true else acceptAny others

/-- Passes a number with a fraction, an infinity, or the value that is no number. -/
def skipFloat : Reader Unit := do
  if ← acceptAny ["inf", "+inf", "-inf", "NaN", "+NaN", "-NaN"] then return
  let run ← nextRun
  if run.any (· == '_') then
    advance (run.takeWhile (· ≠ '_')).length
    fail .floatUnderscore
  else do
    advance run.length
    if isUnsignedFloat (withoutSign run) then return
    else fail .expectedFloat
where
  /-- The run of number characters that comes next, which stays where it is. -/
  nextRun : Reader (List Char) := fun c => .ok (c.rest.takeWhile isFloatPart) c

/-- Whether the number that comes next reaches further as a number with a fraction than as a whole
one. -/
def looksLikeFloat (rest : List Char) : Bool :=
  let digits := withoutSign rest
  (digits.takeWhile isIntegerPart).length < (digits.takeWhile isFloatPart).length

/-- Passes a whole number, with or without a sign. -/
def skipInteger : Reader Unit := do
  if ← accept "-" then
    let _ ← natural Word.count63
  else if ← accept "+" then
    let _ ← natural Word.max63
  else
    let _ ← natural Word.max64

/-- Passes a number of either kind. A whole number that cannot be read as one is read again from its
beginning as a number with a fraction; the columns that were counted on the way stay counted. -/
def skipNumber : Reader Unit := fun c =>
  if looksLikeFloat c.rest then skipFloat c
  else
    match skipInteger c with
    | .ok _ c' => .ok () c'
    | .error _ c' => skipFloat ⟨c.rest, c'.position⟩

/-! ## Strings and characters -/

/-- The value of a hexadecimal digit, which has been passed when it is none. -/
def hexDigit : Reader Nat := do
  let c ← peekOrEnd
  match hexValue? c with
  | some digit => do
    advance 1
    return digit
  | none => failAfter 1 .badHexDigit

/-- One more digit of a code point; the state is the value and the number of digits so far. -/
def codePointStep (state : Nat × Nat) : Reader ((Nat × Nat) ⊕ (Nat × Nat)) := do
  let (value, count) := state
  if 6 ≤ count then return .inr state
  let c ← peekOrEnd
  if c = '}' then return .inr state
  let digit ← hexDigit
  return .inl (value * 16 + digit, count + 1)

/-- Passes a character, or fails behind its first byte. -/
def expect (wanted : Char) (fault : Fault) : Reader Unit := do
  let c ← peekOrEnd
  if c = wanted then advance 1 else failAfter 1 fault

/-- A code point between braces: one to six hexadecimal digits. -/
def codePoint : Reader Char := do
  expect '{' .escapeWithoutBrace
  let (value, count) ← loop codePointStep (0, 0)
  if count = 0 then fail .escapeWithoutDigits
  expect '}' .unclosedEscape
  if value.isValidChar then return Char.ofNat value else fail .notACharacter

/-- What follows a backslash. -/
def escape : Reader Char := do
  let c ← peekOrEnd
  match c with
  | '"' => pass '"'
  | '\\' => pass '\\'
  | 'n' => pass '\n'
  | 'r' => pass '\r'
  | 't' => pass '\t'
  | '0' => pass '\x00'
  | 'x' => do
    advance 1
    let high ← hexDigit
    let low ← hexDigit
    return Char.ofNat (high * 16 + low)
  | 'u' => do
    advance 1
    codePoint
  | c => if c.toNat = 0x27 then pass c else failAfter 1 .unknownEscape
where
  /-- Passes one character and answers another. -/
  pass (c : Char) : Reader Char := do
    advance 1
    return c

/-- One character of a string. The state is what has been read, the last character first, and the
place where the present run without escapes began: a string that does not end is refused there. -/
def stringStep (state : List Char × Cursor) : Reader ((List Char × Cursor) ⊕ List Char) := fun c =>
  let (read, mark) := state
  match c.rest with
  | [] => .error .unclosedString mark
  | '"' :: _ => .ok (.inr read.reverse) (c.advance 1)
  | '\\' :: _ =>
    match escape (c.advance 1) with
    | .ok ch c' => .ok (.inl (ch :: read, c')) c'
    | .error fault c' => .error fault c'
  | ch :: _ => .ok (.inl (ch :: read, mark)) (c.advance 1)

/-- The rest of a string behind its opening quote. -/
def stringBody : Reader (List Char) := fun c => loop stringStep ([], c) c

/-- The number of characters before the first occurrence of a word. -/
def distanceTo (word : List Char) : List Char → Option Nat
  | [] => if word.isEmpty then some 0 else none
  | c :: rest =>
    if word.isPrefixOf (c :: rest) then some 0 else (distanceTo word rest).map (· + 1)

/-- The rest of a raw string behind its letter: number signs, a quote, and all text up to a quote with
as many number signs. -/
def rawString : Reader (List Char) := do
  let signs ← takeWhile (· == '#')
  if !(← accept "\"") then fail .expectedString
  fun c =>
    match distanceTo ('"' :: signs) c.rest with
    | none => .error .unclosedString c
    | some n => .ok (c.rest.take n) (c.advance (n + 1 + signs.length))

/-- A string in either form. -/
def stringLiteral : Reader (List Char) := do
  if ← accept "\"" then stringBody
  else if ← accept "r" then rawString
  else fail .expectedString

/-- A character between single quotes. -/
def charLiteral : Reader Char := do
  quote
  let c ← peekOrEnd
  if c = '\\' then do
    advance 1
    let c ← escape
    quote
    return c
  else do
    bare
where
  /-- Passes a single quote. -/
  quote : Reader Unit := fun c =>
    match c.rest with
    | q :: _ => if q.toNat = 0x27 then .ok () (c.advance 1) else .error .expectedChar c
    | [] => .error .expectedChar c
  /-- One character that stands for itself, and the closing quote. -/
  bare : Reader Char := fun c =>
    match c.rest with
    | ch :: q :: _ =>
      if ch.toNat ≠ 0x27 ∧ q.toNat = 0x27 then .ok ch (c.advance 2) else .error .expectedChar c
    | _ => .error .expectedChar c

/-! ## Attributes -/

/-- The names that may be enabled. -/
def extensionNames : List String := ["unwrap_newtypes", "implicit_some", "unwrap_variant_newtypes"]

/-- Passes a word and the blanks behind it, and tells whether the word was there. -/
def acceptSpaced (word : String) : Reader Bool := do
  let found ← accept word
  if found then skipBlanks
  return found

/-- Passes the words that come next, each with the blanks behind it, and tells whether all were
there. Neither a word that is missing nor a fault in the blanks ends the search for the words behind
it; of several faults the first counts. -/
def acceptAll : List String → Reader Bool
  | [] => pure true
  | word :: rest => fun c =>
    match acceptSpaced word c with
    | .ok found c' => (acceptAll rest).map (found && ·) c'
    | .error fault c' =>
      match acceptAll rest c' with
      | .ok _ c'' => .error fault c''
      | .error _ c'' => .error fault c''

/-- One name of an attribute; the state tells whether the option value may be left unwrapped. -/
def extensionStep (implicitSome : Bool) : Reader (Bool ⊕ Bool) := do
  let name ← identifier
  if name ∉ extensionNames then fail (.unknownExtension name)
  let implicitSome := implicitSome || name = "implicit_some"
  let separated ← comma
  let more := (← peek).any isIdentifierRest
  if !separated && more then fail .expectedComma
  else if separated && more then return .inl implicitSome
  else return .inr implicitSome

/-- One attribute, or the end of them. -/
def attributeStep (implicitSome : Bool) : Reader (Bool ⊕ Bool) := do
  if (← peek) ≠ some '#' then return .inr implicitSome
  if !(← acceptAll ["#", "!", "[", "enable", "("]) then fail .expectedAttribute
  skipBlanks
  let implicitSome ← loop extensionStep implicitSome
  skipBlanks
  if !(← acceptAll [")", "]"]) then fail .expectedAttributeEnd
  skipBlanks
  return .inl implicitSome

/-- The blanks and attributes that open a text; tells whether an option value may be left
unwrapped. -/
def opening : Reader Bool := do
  skipBlanks
  loop attributeStep false

/-- The end of a text: blanks and nothing else. -/
def ending : Reader Unit := do
  skipBlanks
  if (← peek).isSome then fail .trailingText

end Gamebook.Ron
