import Gamebook.Json.Lexer

/-!
# Passing over a JSON value

The value of a field that a record does not know is passed over. It must be well formed as far as a
single pass can tell: numbers are checked for their form and not for their size, and escapes for their
digits and not for the characters they would give. Lists and objects may nest to any depth; what is
open is kept on a stack.
-/

namespace Gamebook.Json

open Gamebook.Text
open Text.Reader (peek advance skipWhile loop)

/-! ## Scalars -/

/-- Digits, at least one. -/
def skipDigits : Reader Unit := do
  match ← peek with
  | none => fail .invalidNumber
  | some c =>
    if c.isDigit then skipWhile Char.isDigit
    else failRead .invalidNumber

/-- An exponent, from its letter on. -/
def skipExponent : Reader Unit := do
  advance 1
  match ← peek with
  | some '+' | some '-' => advance 1
  | _ => pure ()
  skipDigits

/-- An exponent, if one comes next. -/
def skipExponent? : Reader Unit := do
  match ← peek with
  | some 'e' | some 'E' => skipExponent
  | _ => pure ()

/-- A number behind its sign. -/
def skipUnsigned : Reader Unit := do
  match ← peek with
  | some '0' => do
    advance 1
    if (← peek).any Char.isDigit then failPeek .invalidNumber
  | _ => skipDigits
  match ← peek with
  | some '.' => do
    advance 1
    if (← peek).any Char.isDigit then skipDigits
    else failPeek .invalidNumber
    skipExponent?
  | _ => skipExponent?

/-- One character of a string. -/
def skipStringStep (_ : Unit) : Reader (Unit ⊕ Unit) := do
  let c ← peekString
  if c = '"' then do
    advance 1
    return .inr ()
  else if c = '\\' then do
    advance 1
    let _ ← escape do
      let _ ← hexEscape
      return c
    return .inl ()
  else if c.toNat < 0x20 then fail .controlCharacter
  else do
    advance 1
    return .inl ()

/-- A string, of which the opening quote is known to come next. -/
def skipString : Reader Unit := do
  advance 1
  loop skipStringStep ()

/-! ## Nested values -/

/-- What is open around a value. -/
inductive Frame
  | list
  | object
deriving DecidableEq, Repr

/-- The fault of a text that ends inside a list or an object. -/
def Frame.unclosed : Frame → Fault
  | list => .endOfList
  | object => .endOfObject

/-- The fault of an element that neither a comma nor the end follows. -/
def Frame.unseparated : Frame → Fault
  | list => .expectedListEnd
  | object => .expectedObjectEnd

/-- The character that ends a list or an object. -/
def Frame.close : Frame → Char
  | list => ']'
  | object => '}'

/-- The beginning of a value: a scalar is passed whole, and an opening character opens a frame. -/
def skipHead : Reader (Option Frame) := do
  let c ← peekOr .endOfValue
  if c = 'n' then scalar (word "null".toList)
  else if c = 't' then scalar (word "true".toList)
  else if c = 'f' then scalar (word "false".toList)
  else if c = '-' then
    scalar do
      advance 1
      skipUnsigned
  else if c.isDigit then scalar skipUnsigned
  else if c = '"' then scalar skipString
  else if c = '[' then do
    advance 1
    return some .list
  else if c = '{' then do
    advance 1
    return some .object
  else failPeek .expectedValue
where
  /-- Passes a scalar, which opens nothing. -/
  scalar (r : Reader Unit) : Reader (Option Frame) := do
    r
    return none

/-- The key of an entry and its colon. -/
def skipKey : Reader Unit := do
  match ← peekWord with
  | some '"' => skipString
  | some _ => failPeek .keyNotString
  | none => failPeek .endOfObject
  match ← peekWord with
  | some ':' => advance 1
  | some _ => failPeek .expectedColon
  | none => failPeek .endOfObject

/-- Closes frames, the innermost first, up to one in which another value comes; then the answer is the
frames that are still open, and the reader stands before that value or its key. The state tells whether
a value has been read in the innermost frame. -/
def closeStep (state : Bool × List Frame) : Reader ((Bool × List Frame) ⊕ List Frame) := do
  match state with
  | (_, []) => return .inr []
  | (afterValue, frame :: outer) =>
    match ← peekWord with
    | none => failPeek frame.unclosed
    | some c =>
      if c = ',' ∧ afterValue then do
        advance 1
        return .inr (frame :: outer)
      else if c = frame.close then do
        advance 1
        return .inl (true, outer)
      else if afterValue then failPeek frame.unseparated
      else return .inr (frame :: outer)

/-- One value, or the beginning of one; the state is what is open around it. -/
def skipStep (frames : List Frame) : Reader (List Frame ⊕ Unit) := do
  let opened ← skipHead
  let state := match opened with
    | some frame => (false, frame :: frames)
    | none => (true, frames)
  match ← loop closeStep state with
  | [] => return .inr ()
  | .object :: outer => do
    skipKey
    return .inl (.object :: outer)
  | .list :: outer => return .inl (.list :: outer)

/-- Passes a value. -/
def skipValue : Reader Unit := loop skipStep []

end Gamebook.Json
