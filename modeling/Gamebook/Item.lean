/-!
# Items and effects

An item is something the reader can carry. It is declared once in an adventure, under an id, and named
by that id in the effects of passages.
-/

namespace Gamebook

/-- The id under which an item is declared and referred to. -/
abbrev ItemId := String

/-- Something the reader can carry: an id and the name shown for it. -/
structure Item where
  id : ItemId
  name : String
deriving DecidableEq, Repr

/-- A change of what the reader carries, made on entering a passage. -/
inductive Effect
  | add (item : ItemId)
  | remove (item : ItemId)
deriving DecidableEq, Repr

namespace Effect

/-- The item an effect touches. -/
def item : Effect → ItemId
  | add item => item
  | remove item => item

/-- The word that stands for the kind of effect in a document. -/
def kind : Effect → String
  | add _ => "addItem"
  | remove _ => "removeItem"

/-- The effect of a kind on an item, if there is such a kind. -/
def ofKind? (kind : String) (item : ItemId) : Option Effect :=
  if kind = "addItem" then some (.add item)
  else if kind = "removeItem" then some (.remove item)
  else none

@[simp] theorem ofKind?_kind_item (e : Effect) : ofKind? e.kind e.item = some e := by
  cases e <;> simp [ofKind?, kind, item]

end Effect

end Gamebook
