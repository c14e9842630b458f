import Gamebook.Shape

/-!
# Shapes that can be read back

A shape says which values a record may have, and both notations print and read along it. What is printed of a
value of a shape can be read back if no two fields of a record share a name and each name can be written in the
notation at hand (`Shape.WellNamed`). RON can write plain names only, and JSON any name. Nothing else is asked of
a shape, so the theorems on printing and reading are about all shapes, and those of adventures and of records of
progress are two among them.

A field that holds nothing is not written, so a reader never meets it. What a reader has in hand at the end of a
record is therefore not the value but its slots: one for each field, empty where the field was not met.
`Fields.filled` says which slots a written record leaves behind, and `complete_filled` that completing them makes
the value again. This is where an option that was left out becomes `none`, a list that was written empty stays
empty, and no required field is found missing.
-/

namespace Gamebook

mutual

/-- In every record of a shape, the names of the fields are fit to be written and pairwise distinct. -/
def Shape.WellNamed (fit : String → Bool) : Shape → Prop
  | .text => True
  | .number => True
  | .list item => item.WellNamed fit
  | .record _ fields => fields.WellNamed fit

/-- The names of the fields are fit to be written and pairwise distinct, and so in their contents. -/
def Fields.WellNamed (fit : String → Bool) : Fields → Prop
  | .nil => True
  | .field name _ content rest =>
    fit name = true ∧ name ∉ rest.names ∧ content.WellNamed fit ∧ rest.WellNamed fit

end

/-- What a reader has met of a field that was written. An option that holds nothing is left out. -/
def Presence.met {α : Type} : (p : Presence) → p.Wrap α → Option (p.Wrap α)
  | .required, value => some value
  | .repeated, values => some values
  | .optional, value => value.map some

/-- Whatever was not written of a field is what its absence stands for. A required field and a repeated one are
always written, so only an option comes to its default. -/
theorem Presence.met_or_absent {α : Type} (p : Presence) (value : p.Wrap α) :
    (p.met value).or (p.absent? α) = some value := by
  cases p with
  | required => rfl
  | repeated => rfl
  | optional => cases value <;> rfl

namespace Fields

/-- What a reader has met at the end of a written record. -/
def filled : (fields : Fields) → fields.Value → fields.Slots
  | nil, _ => ()
  | field _ presence _ rest, (value, values) => (presence.met value, rest.filled values)

/-- **The slots of a written record complete to the record.** By recursion on the fields, as both functions go. -/
@[simp] theorem complete_filled :
    (fields : Fields) → (value : fields.Value) → fields.complete (fields.filled value) = .ok value
  | nil, _ => rfl
  | field _ presence _ rest, (value, values) => by
    simp [complete, filled, presence.met_or_absent value, complete_filled rest values]

end Fields

end Gamebook
