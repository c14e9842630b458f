import Gamebook.Shape

/-!
# Writing JSON

A `Tree` is a JSON value to be written; objects keep the order of their entries. Trees are written in
two ways: on one line without blanks, or over several lines with two spaces for each level, where a
list or object that holds nothing stays on its line. `tree` is the tree of a document of a shape;
options that hold nothing are left out.
-/

namespace Gamebook.Json

/-- A JSON value. -/
inductive Tree
  | null
  | boolean (value : Bool)
  | number (value : Nat)
  | text (value : String)
  | list (items : List Tree)
  | object (entries : List (String × Tree))

/-! ## Strings -/

/-- A hexadecimal digit. -/
def hexDigit (n : Nat) : Char := Nat.digitChar n

/-- A character inside double quotes: quotes, backslashes and the characters below the space have
forms of their own. -/
def escapeChar (c : Char) : List Char :=
  if c = '"' then ['\\', '"']
  else if c = '\\' then ['\\', '\\']
  else if c = '\x08' then ['\\', 'b']
  else if c = '\t' then ['\\', 't']
  else if c = '\n' then ['\\', 'n']
  else if c = '\x0c' then ['\\', 'f']
  else if c = '\r' then ['\\', 'r']
  else if c.toNat < 0x20 then
    ['\\', 'u', '0', '0', hexDigit (c.toNat / 16), hexDigit (c.toNat % 16)]
  else [c]

/-- A text between double quotes. -/
def writeString (s : String) : List Char := '"' :: (s.toList.flatMap escapeChar ++ ['"'])

/-! ## Trees as text -/

/-- Written parts with a comma between two. -/
def separated : List (List Char) → List Char
  | [] => []
  | [part] => part
  | part :: rest => part ++ ',' :: separated rest

mutual

/-- A tree on one line. -/
def Tree.compact : Tree → List Char
  | .null => "null".toList
  | .boolean value => if value then "true".toList else "false".toList
  | .number value => Nat.toDigits 10 value
  | .text value => writeString value
  | .list items => '[' :: (separated (compactItems items) ++ [']'])
  | .object entries => '{' :: (separated (compactEntries entries) ++ ['}'])

/-- The items of a list, each on one line. -/
def compactItems : List Tree → List (List Char)
  | [] => []
  | item :: rest => item.compact :: compactItems rest

/-- The entries of an object, each on one line. -/
def compactEntries : List (String × Tree) → List (List Char)
  | [] => []
  | (name, value) :: rest => (writeString name ++ ':' :: value.compact) :: compactEntries rest

end

/-- The blanks at the beginning of a line. -/
def indentation (depth : Nat) : List Char := List.replicate (2 * depth) ' '

/-- Written parts on lines of their own between an opening and a closing character. -/
def writeBlock (openChar closeChar : Char) (depth : Nat) (parts : List (List Char)) : List Char :=
  if parts.isEmpty then [openChar, closeChar]
  else
    openChar ::
      (separated (parts.map fun part => '\n' :: (indentation (depth + 1) ++ part)) ++
        '\n' :: (indentation depth ++ [closeChar]))

mutual

/-- A tree over several lines, at a depth of indentation. -/
def Tree.pretty (depth : Nat) : Tree → List Char
  | .null => "null".toList
  | .boolean value => if value then "true".toList else "false".toList
  | .number value => Nat.toDigits 10 value
  | .text value => writeString value
  | .list items => writeBlock '[' ']' depth (prettyItems (depth + 1) items)
  | .object entries => writeBlock '{' '}' depth (prettyEntries (depth + 1) entries)

/-- The items of a list, each over several lines. -/
def prettyItems (depth : Nat) : List Tree → List (List Char)
  | [] => []
  | item :: rest => item.pretty depth :: prettyItems depth rest

/-- The entries of an object, each over several lines. -/
def prettyEntries (depth : Nat) : List (String × Tree) → List (List Char)
  | [] => []
  | (name, value) :: rest =>
    (writeString name ++ ':' :: ' ' :: value.pretty depth) :: prettyEntries depth rest

end

/-! ## Documents as trees -/

/-- The tree of a field, unless the field is left out. -/
def treeAs {α : Type} (content : α → Tree) : (presence : Presence) → presence.Wrap α → Option Tree
  | .required, value => some (content value)
  | .repeated, values => some (.list (values.map content))
  | .optional, value => value.map content

mutual

/-- The tree of a document. -/
def tree : (shape : Shape) → shape.Value → Tree
  | .text, value => .text value
  | .number, value => .number value.toNat
  | .list item, values => .list (values.map (tree item))
  | .record _ fields, value => .object (entries fields value)

/-- The entries of a record. -/
def entries : (fields : Fields) → fields.Value → List (String × Tree)
  | .nil, _ => []
  | .field name presence content rest, (value, values) =>
    ((treeAs (tree content) presence value).map fun t => (name, t)).toList ++ entries rest values

end

/-- A document as a text over several lines. -/
def writeText (shape : Shape) (value : shape.Value) : String :=
  String.ofList ((tree shape value).pretty 0)

/-- A tree as a text on one line. -/
def Tree.compactText (t : Tree) : String := String.ofList t.compact

end Gamebook.Json
