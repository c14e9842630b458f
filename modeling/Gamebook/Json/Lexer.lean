import Gamebook.Decimal.Shortest
import Gamebook.Json.Fault
import Gamebook.Word

/-!
# The words of JSON

Readers of blanks, words, numbers and strings. A fault about a byte that is only looked at stands
behind that byte; a fault about a byte that has been read stands where the reader is.
-/

namespace Gamebook.Json

open Gamebook.Text

/-- A reader of JSON. -/
abbrev Reader (α : Type) := Text.Reader Failure α

open Text.Reader (peek advance skipWhile loop)

/-! ## Failing -/

/-- Fails at the present place. -/
def fail {α : Type} (fault : Fault) : Reader α := fun c => .error ⟨fault, some c.position⟩ c

/-- Fails behind the next byte, which is only looked at. -/
def failPeek {α : Type} (fault : Fault) : Reader α := fun c =>
  .error ⟨fault, some (c.nudge 1).position⟩ c

/-- Fails behind the next byte, which has been read. -/
def failRead {α : Type} (fault : Fault) : Reader α := fun c => fail fault (c.nudge 1)

/-- Fails with a fault whose place is not fixed yet. -/
def failUnplaced {α : Type} (fault : Fault) : Reader α := fun c => .error ⟨fault, none⟩ c

/-- Fixes the place of a fault that has none where the reader stopped. -/
def place {α : Type} (r : Reader α) : Reader α := fun c =>
  match r c with
  | .ok a c' => .ok a c'
  | .error ⟨fault, position⟩ c' => .error ⟨fault, some (position.getD c'.position)⟩ c'

/-! ## Blanks and words -/

/-- Blanks between words. -/
def isSpace (c : Char) : Bool := c == ' ' || c == '\n' || c == '\t' || c == '\r'

/-- Passes blanks and looks at what follows. -/
def peekWord : Reader (Option Char) := do
  skipWhile isSpace
  peek

/-- Passes blanks and looks at what follows, where the text must not end. -/
def peekOr (fault : Fault) : Reader Char := do
  match ← peekWord with
  | some c => return c
  | none => failPeek fault

/-- Passes the letters of a word. -/
def word : List Char → Reader Unit
  | [] => pure ()
  | wanted :: rest => do
    match ← peek with
    | none => fail .endOfValue
    | some c =>
      if c = wanted then do
        advance 1
        word rest
      else failRead .expectedIdent

/-! ## Numbers -/

/-- A number: a whole number of at most 64 bits, or a double. -/
inductive Numeral
  | natural (value : Nat)
  | negative (size : Nat)
  | float (value : Float)

/-- How doubles are written in messages: in place from the fifth decimal place to sixteen whole digits,
and otherwise with a signed exponent. -/
def floatLayout : Decimal.Layout := ⟨-5, 15, "+"⟩

/-- A number as a message names it. -/
def Numeral.found : Numeral → Found
  | natural value => .natural value
  | negative size => .negative size
  | float value => .float (floatLayout.ofFloat value)

/-- Whether a whole number exceeds 64 bits. -/
def overflows (n : Nat) : Bool := Word.count64 ≤ n

/-- The value of a decimal digit. -/
def digitValue (c : Char) : Nat := c.toNat - 0x30

/-- The powers of ten that doubles reach, to the nearest double. -/
def powerOfTen (n : Nat) : Float := Float.ofScientific 1 false n

/-- Applies a power of ten to a double: a multiplication, or divisions by at most the largest power
of ten. -/
def scale (value : Float) (exponent : Int) : (fuel : Nat) → Option Float
  | 0 => some value
  | fuel + 1 =>
    if exponent.natAbs ≤ 308 then
      if 0 ≤ exponent then
        let scaled := value * powerOfTen exponent.natAbs
        if scaled.isInf then none else some scaled
      else some (value / powerOfTen exponent.natAbs)
    else if value == 0.0 then some value
    else if 0 ≤ exponent then none
    else scale (value / powerOfTen 308) (exponent + 308) fuel

/-- The double with a sign, digits and a power of ten. -/
def double (positive : Bool) (significand : Nat) (exponent : Int) : Reader Numeral := do
  match scale significand.toUInt64.toFloat exponent 16 with
  | none => fail .numberOutOfRange
  | some value => return .float (if positive then value else -value)

/-- One more digit of an exponent, as long as the exponent stays within 31 bits. The result tells
whether it did. -/
def exponentStep (value : Nat) : Reader (Nat ⊕ (Nat × Bool)) := do
  match ← peek with
  | some c =>
    if c.isDigit then do
      advance 1
      let next := value * 10 + digitValue c
      if Word.count31 ≤ next then return .inr (value, false) else return .inl next
    else return .inr (value, true)
  | none => return .inr (value, true)

/-- An exponent, from its letter on, and with it the number. -/
def exponentPart (positive : Bool) (significand : Nat) (exponent : Int) : Reader Numeral := do
  advance 1
  let upward ← sign
  match ← peek with
  | none => fail .endOfValue
  | some c =>
    if c.isDigit then do
      advance 1
      let (value, fits) ← loop exponentStep (digitValue c)
      if fits then
        double positive significand (if upward then exponent + value else exponent - value)
      else if significand ≠ 0 && upward then fail .numberOutOfRange
      else do
        skipWhile Char.isDigit
        return .float (if positive then 0.0 else -0.0)
    else failRead .invalidNumber
where
  /-- Passes the sign of an exponent, and tells whether it is upward. -/
  sign : Reader Bool := do
    match ← peek with
    | some '+' => do
      advance 1
      return true
    | some '-' => do
      advance 1
      return false
    | _ => return true

/-- What follows the digits of a number: an exponent or nothing. -/
def afterDigits (positive : Bool) (significand : Nat) (exponent : Int) : Reader Numeral := do
  match ← peek with
  | some 'e' | some 'E' => exponentPart positive significand exponent
  | _ => double positive significand exponent

/-- One more digit behind the point. The state is the significand and the number of places so far;
digits that would not fit into 64 bits any more are passed over. -/
def fractionStep (state : Nat × Nat) : Reader ((Nat × Nat) ⊕ (Nat × Nat × Bool)) := do
  let (significand, places) := state
  match ← peek with
  | some c =>
    if c.isDigit then
      let next := significand * 10 + digitValue c
      if overflows next then do
        skipWhile Char.isDigit
        return .inr (significand, places, true)
      else do
        advance 1
        return .inl (next, places + 1)
    else return .inr (significand, places, false)
  | none => return .inr (significand, places, false)

/-- A fraction, from its point on, and with it the number. -/
def fractionPart (positive : Bool) (significand : Nat) (exponent : Nat) : Reader Numeral := do
  advance 1
  let (significand, places, full) ← loop fractionStep (significand, 0)
  if places = 0 && !full then
    match ← peek with
    | some _ => failPeek .invalidNumber
    | none => failPeek .endOfValue
  else afterDigits positive significand ((exponent : Int) - places)

/-- Digits beyond 64 bits: they count as a power of ten. -/
def longInteger (positive : Bool) (significand : Nat) : Reader Numeral := do
  let digits ← Text.Reader.takeWhile Char.isDigit
  match ← peek with
  | some '.' => fractionPart positive significand digits.length
  | _ => afterDigits positive significand digits.length

/-- What follows a whole number within 64 bits. -/
def afterInteger (positive : Bool) (significand : Nat) : Reader Numeral := do
  match ← peek with
  | some '.' => fractionPart positive significand 0
  | some 'e' | some 'E' => exponentPart positive significand 0
  | _ =>
    if positive then return .natural significand
    else if significand = 0 || Word.count63 < significand then
      return .float (-significand.toUInt64.toFloat)
    else return .negative significand

/-- One more digit of a whole number; the result tells whether all digits fitted into 64 bits. -/
def integerStep (significand : Nat) : Reader (Nat ⊕ (Nat × Bool)) := do
  match ← peek with
  | some c =>
    if c.isDigit then
      let next := significand * 10 + digitValue c
      if overflows next then return .inr (significand, false)
      else do
        advance 1
        return .inl next
    else return .inr (significand, true)
  | none => return .inr (significand, true)

/-- A number behind its sign. -/
def unsigned (positive : Bool) : Reader Numeral := do
  match ← peek with
  | none => fail .endOfValue
  | some c =>
    if c = '0' then do
      advance 1
      if (← peek).any Char.isDigit then failPeek .invalidNumber
      else afterInteger positive 0
    else if c.isDigit then do
      let (significand, fits) ← loop integerStep 0
      if fits then afterInteger positive significand else longInteger positive significand
    else failRead .invalidNumber

/-- A number, of which the first character is known to be a digit or a minus sign. -/
def numeral : Reader Numeral := do
  match ← peek with
  | some '-' => do
    advance 1
    unsigned false
  | _ => unsigned true

/-! ## Strings -/

/-- The value of a hexadecimal digit. -/
def hexValue? (c : Char) : Option Nat :=
  if c.isDigit then some (c.toNat - 0x30)
  else if 'a' ≤ c ∧ c ≤ 'f' then some (c.toNat - 0x61 + 10)
  else if 'A' ≤ c ∧ c ≤ 'F' then some (c.toNat - 0x41 + 10)
  else none

/-- The value of four hexadecimal digits. -/
def fourHex? (a b c d : Char) : Option Nat := do
  let a ← hexValue? a
  let b ← hexValue? b
  let c ← hexValue? c
  let d ← hexValue? d
  return ((a * 16 + b) * 16 + c) * 16 + d

/-- The number of bytes of a run of characters. -/
def byteCount (cs : List Char) : Nat := cs.foldl (fun count c => count + c.utf8Size) 0

/-- Four hexadecimal digits. Four bytes are read before they are looked at; a text that ends before
is read to its end. -/
def hexEscape : Reader Nat := fun cursor =>
  let broken : EStateM.Result Failure Cursor Nat :=
    if byteCount (cursor.rest.take 4) < 4 then fail .endOfString (cursor.nudge 4)
    else fail .invalidEscape (cursor.nudge 4)
  match cursor.rest with
  | a :: b :: c :: d :: _ =>
    match fourHex? a b c d with
    | some n => .ok n (cursor.advance 4)
    | none => broken
  | _ => broken

/-- The next character of a string, where the text must not end. -/
def peekString : Reader Char := do
  match ← peek with
  | some c => return c
  | none => fail .endOfString

/-- Passes a character that the second half of a surrogate pair needs. -/
def expectPair (wanted : Char) : Reader Unit := do
  let c ← peekString
  if c = wanted then advance 1
  else failRead .brokenSurrogatePair

/-- A code point behind the letter of its escape: one unit, or two that form a surrogate pair. -/
def unicodeEscape : Reader Char := do
  let first ← hexEscape
  if 0xDC00 ≤ first && first ≤ 0xDFFF then fail .loneSurrogate
  else if first < 0xD800 || 0xDBFF < first then return Char.ofNat first
  else do
    expectPair '\\'
    expectPair 'u'
    let second ← hexEscape
    if second < 0xDC00 || 0xDFFF < second then fail .loneSurrogate
    else return Char.ofNat ((first - 0xD800) * 0x400 + (second - 0xDC00) + 0x10000)

/-- The character that a letter behind a backslash stands for. -/
def simpleEscape? : Char → Option Char
  | '"' => some '"'
  | '\\' => some '\\'
  | '/' => some '/'
  | 'b' => some '\x08'
  | 'f' => some '\x0c'
  | 'n' => some '\n'
  | 'r' => some '\r'
  | 't' => some '\t'
  | _ => none

/-- What follows a backslash, given the reader of a code point. -/
def escape (code : Reader Char) : Reader Char := do
  let c ← peekString
  match simpleEscape? c with
  | some meaning => do
    advance 1
    return meaning
  | none =>
    if c = 'u' then do
      advance 1
      code
    else failRead .invalidEscape

/-- One character of a string; the state is what has been read, the last character first. -/
def stringStep (read : List Char) : Reader (List Char ⊕ List Char) := do
  let c ← peekString
  if c = '"' then do
    advance 1
    return .inr read.reverse
  else if c = '\\' then do
    advance 1
    return .inl ((← escape unicodeEscape) :: read)
  else if c.toNat < 0x20 then do
    advance 1
    fail .controlCharacter
  else do
    advance 1
    return .inl (c :: read)

/-- The rest of a string behind its opening quote. -/
def stringBody : Reader (List Char) := loop stringStep []

/-- A string, of which the opening quote is known to come next. -/
def stringLiteral : Reader String := do
  advance 1
  return String.ofList (← stringBody)

end Gamebook.Json
