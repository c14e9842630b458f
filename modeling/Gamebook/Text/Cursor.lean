/-!
# Reading text from left to right

A `Cursor` is what is left of a text together with the place reached in it: the line, counted from
one, and the number of bytes of that line already behind the cursor. Columns count the bytes of the
UTF-8 form, so a text whose lines hold accented letters reports the places an editor would show in
bytes, not in letters.

A `Reader` moves a cursor and answers a value or a fault. Both outcomes carry the cursor where the
reader stopped, because the place of a fault is the place where the reader stood when it gave up.

Every loop over the text is an instance of `Reader.loop`: a step that either goes on with a new state
or ends with a result. The number of rounds is bounded by the number of characters that are left,
which is enough for every step that consumes at least one character before it goes on.
-/

namespace Gamebook.Text

/-! ## Places -/

/-- A place in a text: the line, from one, and the bytes of that line that lie before the place. -/
structure Position where
  line : Nat
  column : Nat
deriving DecidableEq, Repr

namespace Position

/-- The place before the first character. -/
def start : Position := ⟨1, 0⟩

/-- The place behind one more character: a line feed opens a line, any other character adds its
bytes to the column. -/
def after (p : Position) (c : Char) : Position :=
  if c = '\n' then ⟨p.line + 1, 0⟩ else ⟨p.line, p.column + c.utf8Size⟩

/-- The place behind a run of characters. -/
def afterAll (p : Position) (cs : List Char) : Position := cs.foldl after p

/-- The place behind the first `n` bytes of a run of characters. Inside a character of several
bytes only the column grows; past the end of the run the place is its end. -/
def afterBytes (p : Position) : Nat → List Char → Position
  | _, [] => p
  | n, c :: cs =>
    if c.utf8Size ≤ n then (p.after c).afterBytes (n - c.utf8Size) cs else ⟨p.line, p.column + n⟩

@[simp] theorem afterAll_nil (p : Position) : p.afterAll [] = p := rfl

@[simp] theorem afterAll_cons (p : Position) (c : Char) (cs : List Char) :
    p.afterAll (c :: cs) = (p.after c).afterAll cs := rfl

theorem afterAll_append (p : Position) (xs ys : List Char) :
    p.afterAll (xs ++ ys) = (p.afterAll xs).afterAll ys := by
  simp [afterAll]

end Position

/-! ## Cursors -/

/-- What is left of a text, and the place reached. -/
structure Cursor where
  rest : List Char
  position : Position
deriving DecidableEq, Repr

namespace Cursor

/-- The cursor before the first character of a text. -/
def ofText (text : String) : Cursor := ⟨text.toList, .start⟩

/-- Passes `n` characters, or all that are left. -/
def advance (n : Nat) (c : Cursor) : Cursor :=
  ⟨c.rest.drop n, c.position.afterAll (c.rest.take n)⟩

/-- Passes the longest run of characters of a class. -/
def dropWhile (p : Char → Bool) (c : Cursor) : Cursor :=
  ⟨c.rest.dropWhile p, c.position.afterAll (c.rest.takeWhile p)⟩

/-- What is left of a run of characters behind its first `n` bytes. A character that is not whole among
them is left too. -/
def dropBytes : Nat → List Char → List Char
  | _, [] => []
  | n, c :: cs => if c.utf8Size ≤ n then dropBytes (n - c.utf8Size) cs else c :: cs

/-- Passes `n` bytes, or all that are left. Only a reader that is about to fail uses it, because the
place may come to lie inside a character. -/
def nudge (n : Nat) (c : Cursor) : Cursor :=
  ⟨dropBytes n c.rest, c.position.afterBytes n c.rest⟩

@[simp] theorem advance_zero (c : Cursor) : c.advance 0 = c := by
  cases c; simp [advance]

@[simp] theorem rest_advance (n : Nat) (c : Cursor) : (c.advance n).rest = c.rest.drop n := rfl

@[simp] theorem rest_dropWhile (p : Char → Bool) (c : Cursor) :
    (c.dropWhile p).rest = c.rest.dropWhile p := rfl

end Cursor

/-! ## Readers -/

/-- A reader of an `α` that may fail with an `ε`. -/
abbrev Reader (ε α : Type) := EStateM ε Cursor α

namespace Reader

variable {ε α β : Type}

/-- The next character, which stays where it is. -/
def peek : Reader ε (Option Char) := fun c => .ok c.rest.head? c

/-- Passes `n` characters. -/
def advance (n : Nat) : Reader ε Unit := fun c => .ok () (c.advance n)

/-- Passes the longest run of characters of a class. -/
def skipWhile (p : Char → Bool) : Reader ε Unit := fun c => .ok () (c.dropWhile p)

/-- Passes the longest run of characters of a class and answers it. -/
def takeWhile (p : Char → Bool) : Reader ε (List Char) :=
  fun c => .ok (c.rest.takeWhile p) (c.dropWhile p)

/-- Passes a word if the text goes on with it, and tells whether it did. -/
def accept (word : String) : Reader ε Bool := fun c =>
  if word.toList.isPrefixOf c.rest then .ok true (c.advance word.toList.length) else .ok false c

/-- Fails at the present place. -/
def fail (e : ε) : Reader ε α := fun c => .error e c

/-- Fails `n` bytes behind the present place. -/
def failAfter (n : Nat) (e : ε) : Reader ε α := fun c => .error e (c.nudge n)

/-- Reads ahead without moving, neither when the reader succeeds nor when it fails. -/
def lookAhead (r : Reader ε α) : Reader ε α := fun c =>
  match r c with
  | .ok a _ => .ok a c
  | .error e _ => .error e c

/-- What a reader answers, or nothing where it fails; then the cursor has not moved. -/
def optional (r : Reader ε α) : Reader ε (Option α) := fun c =>
  match r c with
  | .ok a c' => .ok (some a) c'
  | .error _ _ => .ok none c

/-- Rounds of `step`: one for each character of a text, and one more. -/
def loopOver [Inhabited ε] (step : α → Reader ε (α ⊕ β)) : List Char → α → Reader ε β
  | [], a => do
    match ← step a with
    | .inl _ => fail default
    | .inr b => pure b
  | _ :: fuel, a => do
    match ← step a with
    | .inl a => loopOver step fuel a
    | .inr b => pure b

/-- Repeats `step` until it answers a result. A step that goes on must have passed a character, so
that one more round than there are characters left is enough. -/
def loop [Inhabited ε] (step : α → Reader ε (α ⊕ β)) (a : α) : Reader ε β :=
  fun c => loopOver step c.rest a c

/-- The answer of a reader on a whole text, or the fault with its place. -/
def run (r : Reader ε α) (text : String) : Except (ε × Position) α :=
  match r (.ofText text) with
  | .ok a _ => .ok a
  | .error e c => .error (e, c.position)

end Reader

end Gamebook.Text
