import Gamebook.Ron.Lexer

/-!
# Passing over a RON value

`skipText` accepts every text of the notation, whatever it says, and refuses the others at the place
where they go wrong. It comes before any reading by shape, so that a text that is no RON at all is
told apart from one that is not the document that was expected.

Values nest, and the depth is limited. A list, map, tuple or record takes one level while it is open,
and so does each element, key and value, and the content of an option. The levels that are left are
the argument of `skipValue`, and its recursion goes down on them.
-/

namespace Gamebook.Ron

open Gamebook.Text.Reader (advance accept fail lookAhead optional loop)

/-! ## Separated elements -/

/-- Whether one more element comes before the closing character. The first element needs no comma
before it. -/
def hasElement (close : Char) (separated : Bool) : Reader Bool := do
  skipBlanks
  let c ← peekOrEnd
  if c = close then return false
  else if separated then return true
  else fail .expectedComma

/-- The colon of an entry with the blanks around it. -/
def colon : Reader Unit := do
  skipBlanks
  if ← accept ":" then skipBlanks
  else fail .expectedColon

/-- One more element and its comma; the state tells whether an element may follow. -/
def elementStep (close : Char) (element : Reader Unit) (separated : Bool) : Reader (Bool ⊕ Unit) := do
  if ← hasElement close separated then
    element
    return .inl (← comma)
  else return .inr ()

/-- Elements up to the closing character, which is passed. -/
def skipElements (close : Char) (element : Reader Unit) : Reader Unit := do
  loop (elementStep close element) true
  advance 1

/-! ## Options -/

/-- An option: the word for nothing, or content between the parentheses of the word for something. On
demand the content may come without either. -/
def optionOf {α : Type} (implicitSome : Bool) (content : Reader α) : Reader (Option α) := do
  if ← accept "None" then return none
  if ← accept "Some" then
    skipBlanks
    if ← accept "(" then
      skipBlanks
      let value ← content
      let _ ← comma
      if ← accept ")" then return some value
      else fail .unclosedGroup
    else bare
  else bare
where
  /-- Content without the word for something. -/
  bare : Reader (Option α) := do
    if implicitSome then return some (← content)
    else fail .expectedOption

/-! ## Values -/

/-- What stands between parentheses. -/
inductive Group
  | none
  | tuple
  | record
deriving DecidableEq, Repr

/-- What comes next: no parenthesis, a tuple, or a record, which begins with an identifier and a
colon. -/
def groupAhead : Reader Group := lookAhead do
  if ← accept "(" then
    skipBlanks
    match ← optional identifier with
    | .none => return .tuple
    | some _ => do
      skipBlanks
      if (← peekOrEnd) = ':' then return .record else return .tuple
  else return .none

/-- A value that would take more levels than there are. -/
def tooDeep {α : Type} : Reader α := fail .tooDeep

/-- A value, given how to pass over what lies inside it. -/
structure Inside where
  /-- Whether there is a level left for opening a list, map, tuple or record. -/
  mayOpen : Bool
  /-- The content of an option. -/
  content : Reader Unit
  /-- A key that is an identifier. -/
  key : Reader Unit
  /-- An element, or the key or value of an entry. -/
  element : Reader Unit

/-- Passes the opening character and the elements up to the closing one. -/
def skipGroup (inside : Inside) (close : Char) (element : Reader Unit) : Reader Unit := do
  advance 1
  if inside.mayOpen then skipElements close element else tooDeep

/-- Passes what stands between parentheses, if anything does. -/
def skipParentheses (inside : Inside) : Reader Unit := do
  match ← groupAhead with
  | .none => return
  | .tuple => skipGroup inside ')' inside.element
  | .record =>
    skipGroup inside ')' do
      inside.key
      colon
      inside.element

/-- Passes a value that no name opens, by its first character. -/
def skipUnnamed (inside : Inside) : Reader Unit := do
  let c ← peekOrEnd
  if c = '(' then skipParentheses inside
  else if c = '[' then skipGroup inside ']' inside.element
  else if c = '{' then
    skipGroup inside '}' do
      inside.element
      colon
      inside.element
  else if c.isDigit || c = '+' || c = '-' then skipNumber
  else if c = '.' then skipFloat
  else if c = '"' || c = 'r' then
    let _ ← stringLiteral
  else if c.toNat = 0x27 then
    let _ ← charLiteral
  else fail (.unexpectedByte (firstByte c))

/-- Passes a value. -/
def skipAny (implicitSome : Bool) (inside : Inside) : Reader Unit := do
  if ← acceptAny ["true", "false"] then return
  if ← followsWord "Some" then
    let _ ← optionOf implicitSome inside.content
    return
  if ← acceptWord "None" then return
  if ← accept "()" then return
  if ← acceptAny ["inf", "-inf", "NaN"] then return
  match ← optional identifier with
  | some _ => do
    skipBlanks
    skipParentheses inside
  | none => skipUnnamed inside

/-- Passes a value with as many levels to spare. -/
def skipValue (implicitSome : Bool) : (levels : Nat) → Reader Unit
  | 0 => skipAny implicitSome ⟨false, tooDeep, tooDeep, tooDeep⟩
  | 1 => skipAny implicitSome ⟨true, skipValue implicitSome 0, tooDeep, tooDeep⟩
  | levels + 2 =>
    skipAny implicitSome
      ⟨true, skipValue implicitSome (levels + 1), discard identifier, skipValue implicitSome levels⟩

/-- The levels a text may nest. -/
def levelLimit : Nat := 128

/-- Passes a whole text. -/
def skipText : Reader Unit := do
  let implicitSome ← opening
  skipValue implicitSome levelLimit
  ending

end Gamebook.Ron
