/-!
# Ranges of code points

Properties of characters are listed as ranges of code points, in increasing order. Membership walks
the list up to the first range that lies beyond the character.
-/

namespace Gamebook.Text

/-- The code points from a first to a last one, both included. -/
structure CodeRange where
  first : Nat
  last : Nat
deriving DecidableEq, Repr

/-- Whether a code point lies in one of the ranges of an increasing list. -/
def CodeRange.covers (n : Nat) : List CodeRange → Bool
  | [] => false
  | range :: rest => if n < range.first then false else n ≤ range.last || covers n rest

end Gamebook.Text
