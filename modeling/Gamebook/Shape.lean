/-!
# Shapes of documents

A shape says what a document holds: a text, a number of 32 bits, a list, or a record with named
fields. Both notations, RON and JSON, read and write documents by their shape, so that one description
of a document serves four functions, and what holds of every shape holds of every document.

`Shape.Value` is the type of the documents of a shape. A record is a nest of pairs that ends in the
unit; a field that may be left out is a list, empty by default, or an option. While a record is read
its fields are collected in `Fields.Slots`, which become a value once none that is required is missing.
-/

namespace Gamebook

/-- Whether a field must be there, and what its absence means. -/
inductive Presence
  /-- The field must be there. -/
  | required
  /-- The field is a list, empty when it is left out. -/
  | repeated
  /-- The field may be left out. -/
  | optional
deriving DecidableEq, Repr

namespace Presence

/-- The type of a field whose content has the type `α`. -/
@[reducible] def Wrap : Presence → Type → Type
  | required, α => α
  | repeated, α => List α
  | optional, α => Option α

/-- The value of a field that was left out, unless it must be there. -/
def absent? (α : Type) : (p : Presence) → Option (p.Wrap α)
  | required => none
  | repeated => some []
  | optional => some none

end Presence

mutual

/-- What a document holds. -/
inductive Shape
  | text
  | number
  | list (item : Shape)
  | record (name : String) (fields : Fields)

/-- The fields of a record, in the order in which they are written. -/
inductive Fields
  | nil
  | field (name : String) (presence : Presence) (content : Shape) (rest : Fields)

end

mutual

/-- The documents of a shape. -/
@[reducible] def Shape.Value : Shape → Type
  | .text => String
  | .number => UInt32
  | .list item => List item.Value
  | .record _ fields => fields.Value

/-- The contents of the fields of a record. -/
@[reducible] def Fields.Value : Fields → Type
  | .nil => Unit
  | .field _ presence content rest => presence.Wrap content.Value × rest.Value

end

namespace Fields

/-- The contents of the fields that have been met so far. -/
@[reducible] def Slots : Fields → Type
  | nil => Unit
  | field _ presence content rest => Option (presence.Wrap content.Value) × rest.Slots

/-- No field met. -/
def noSlots : (fields : Fields) → fields.Slots
  | nil => ()
  | field _ _ _ rest => (none, rest.noSlots)

/-- The names of the fields, in order. -/
def names : Fields → List String
  | nil => []
  | field name _ _ rest => name :: rest.names

/-- The record whose fields have been met, or the first required field that has not. -/
def complete : (fields : Fields) → fields.Slots → Except String fields.Value
  | nil, _ => .ok ()
  | field name presence content rest, (slot, slots) =>
    match slot.or (presence.absent? content.Value) with
    | none => .error name
    | some value =>
      match rest.complete slots with
      | .ok values => .ok (value, values)
      | .error missing => .error missing

/-- All fields of a record, met. -/
def slotsOf : (fields : Fields) → fields.Value → fields.Slots
  | nil, _ => ()
  | field _ _ _ rest, (value, values) => (some value, rest.slotsOf values)

@[simp] theorem complete_slotsOf :
    (fields : Fields) → (value : fields.Value) → fields.complete (fields.slotsOf value) = .ok value
  | nil, _ => rfl
  | field _ _ _ rest, (value, values) => by
    simp [complete, slotsOf, complete_slotsOf rest values]

end Fields

end Gamebook
