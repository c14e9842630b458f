import Gamebook.Inventory

/-!
# Saved positions

A progress record says how far a reader has come in one adventure: the passage on screen and what the
reader carries. It names the adventure it belongs to.
-/

namespace Gamebook

/-- A reader's position in one adventure. -/
structure Progress where
  adventureId : String
  passage : PassageId
  inventory : Inventory
deriving DecidableEq, Repr

end Gamebook
