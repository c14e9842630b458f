import Gamebook.Passage

/-!
# Adventures

An adventure is a story document: a title, an introduction, the declared items and the passages, in
the order in which they were written. Ids need not be unique and targets need not exist; a look-up
answers the first match, and the checks of `Gamebook.Validation` find what is wrong.
-/

namespace Gamebook

/-- A story document. -/
structure Adventure where
  title : String
  introduction : List String
  items : List Item
  passages : List Passage
deriving DecidableEq, Repr

/-- What a look-up did not find. -/
inductive LookupError
  | passage (id : PassageId)
  | item (id : ItemId)
deriving DecidableEq, Repr

/-- The wording of a failed look-up. -/
def LookupError.message : LookupError → String
  | passage id => "passage " ++ toString id.toNat ++ " not found"
  | item id => "item '" ++ id ++ "' not found"

namespace Adventure

/-- The first passage with an id. -/
def passage? (a : Adventure) (id : PassageId) : Option Passage :=
  a.passages.find? fun p => p.id = id

/-- The first item with an id. -/
def item? (a : Adventure) (id : ItemId) : Option Item :=
  a.items.find? fun i => i.id = id

/-- The first passage with an id, for callers to whom its absence is an error. -/
def passage (a : Adventure) (id : PassageId) : Except LookupError Passage :=
  match a.passage? id with
  | some p => .ok p
  | none => .error (.passage id)

/-- The first item with an id, for callers to whom its absence is an error. -/
def item (a : Adventure) (id : ItemId) : Except LookupError Item :=
  match a.item? id with
  | some i => .ok i
  | none => .error (.item id)

/-- The passage that follows the introduction. -/
def entry? (a : Adventure) : Option Passage := a.passage? .entry

/-- The ids of the passages, in the order of the document. -/
def passageIds (a : Adventure) : List PassageId := a.passages.map (·.id)

/-- The ids of the declared items, in the order of the document. -/
def itemIds (a : Adventure) : List ItemId := a.items.map (·.id)

/-- The terminal passages with the type of ending each declares. -/
def endings (a : Adventure) : List (PassageId × Option String) :=
  (a.passages.filter (·.isTerminal)).map fun p => (p.id, p.endingType)

end Adventure

end Gamebook
