import Gamebook.Text.Printable

/-!
# Escaped characters

The visible form of a character inside quotes. A backslash, the quote that would end the text, the
tab, the carriage return, the line feed and the character zero have two-character forms. Whatever
could not be seen by itself, because it is not printable or clings to the character before it, is
written by its code point in hexadecimal digits. Everything else stands for itself.
-/

namespace Gamebook.Text

/-- The quotes that need a backslash. -/
structure Quoting where
  single : Bool
  double : Bool
deriving DecidableEq, Repr

/-- The form of a character by its code point. -/
def escapeCode (c : Char) : List Char :=
  '\\' :: 'u' :: '{' :: (Nat.toDigits 16 c.toNat ++ ['}'])

/-- The form of a character inside quotes. -/
def escapeChar (quoting : Quoting) (c : Char) : List Char :=
  if c = '\x00' then ['\\', '0']
  else if c = '\t' then ['\\', 't']
  else if c = '\r' then ['\\', 'r']
  else if c = '\n' then ['\\', 'n']
  else if c = '\\' then ['\\', '\\']
  else if c = '"' then if quoting.double then ['\\', '"'] else ['"']
  else if c.toNat = 0x27 then if quoting.single then ['\\', c] else [c]
  else if isExtending c || !isPrintable c then escapeCode c
  else [c]

/-- A text between double quotes, as messages show it. -/
def quoteText (s : String) : String :=
  "\"" ++ String.ofList (s.toList.flatMap (escapeChar ⟨false, true⟩)) ++ "\""

/-- A character between single quotes, as messages show it. -/
def quoteChar (c : Char) : String :=
  "'" ++ String.ofList (escapeChar ⟨true, false⟩ c) ++ "'"

end Gamebook.Text
