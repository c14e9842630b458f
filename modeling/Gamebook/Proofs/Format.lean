import Gamebook.Format
import Gamebook.Proofs.Document
import Gamebook.Proofs.Json.RoundTrip
import Gamebook.Proofs.Ron.Acceptance
import Gamebook.Proofs.Validation

/-!
# Serialized adventures are parsed back

The text of an adventure is in its notation, whatever the adventure is: it is read as the document it was
made of (`documentOfText_serialize`). So parsing gives the adventure back, unless the document states a
number that is zero. Both notations carry the same document, and so agree on what is reported then.

The two notations come to this on different ways. JSON is read in one go, along the shape of an adventure. RON is
read twice: first as a value of any kind, to tell a text that is not RON from one whose document is wrong, and then
along the shape. So for RON it must also be known that the first pass lets every printed text through, and a
printed text must be read alike by readers that know what to expect and by one that does not. The printers, the
readers and the two passes are opened in the modules on each notation; here they are put together.

The checks of an adventure ask that choices lead to passages, and nothing more of numbers. So a playable adventure
is read back unless it has a passage zero, which the checks let through (`parse_serialize_of_isPlayable`). The
smallest such adventure is `Adventure.trapdoor`: a program that builds it can play it and write it down, and no
program can read it from what was written.
-/

namespace Gamebook

theorem adventureShape_wellNamed : adventureShape.WellNamed Ron.isPlainName := by
  simp [Shape.WellNamed, Fields.WellNamed, Fields.names]
  decide

/-- A serialized adventure is read as its document. No condition is put on the adventure: texts of any characters,
numbers of 32 bits and empty lists are all written so that they are read back. -/
theorem documentOfText_serialize (format : Format) (a : Adventure) :
    documentOfText format (serialize format a) = .ok (documentOf a) := by
  cases format with
  | ron =>
    -- The text is passed over as a value first, and then read as a document.
    show ronDocument (Ron.writeText adventureShape (documentOf a)) = _
    rw [ronDocument, Ron.run_skipText_writeText adventureShape_wellNamed (by decide),
      Ron.run_readText_writeText adventureShape_wellNamed]
    rfl
  | json =>
    show jsonDocument (Json.writeText adventureShape (documentOf a)) = _
    rw [jsonDocument, Json.readText_writeText adventureShape_wellNamed]

/-- What parsing a serialized adventure gives, in either notation. -/
theorem parse_serialize (format : Format) (a : Adventure) :
    parse format (serialize format a) =
      match a.firstZero? with
      | none => .ok a
      | some zero => .error (.schema zero.message) := by
  have hdocument : adventureOf (documentOf a) =
      match a.firstZero? with
      | none => .ok a
      | some zero => .error zero := adventureOf_documentOf a
  unfold parse
  rw [documentOfText_serialize]
  simp only [bind, Except.bind]
  rw [hdocument]
  cases a.firstZero? <;> rfl

/-- **RON gives every adventure back**, unless a passage id or a target is zero; then the first such number is
reported. The order is that in which the document states its numbers: passage by passage, the id before the targets
of the choices. -/
theorem parse_ron_serialize (a : Adventure) :
    (parse .ron (serialize .ron a) =
      match a.firstZero? with
      | none => .ok a
      | some zero => .error (.schema zero.message)) ∧
    (a.firstZero? = none ↔ ∀ p ∈ a.passages, p.id ≠ 0 ∧ ∀ c ∈ p.choices, c.goto ≠ 0) :=
  ⟨parse_serialize .ron a, a.firstZero?_eq_none_iff⟩

/-- **JSON gives every adventure back**, unless a passage id or a target is zero; then the first such number is
reported, as it is by RON. The two notations agree on every adventure, in what they give back and in what they
report, so it never matters for reading in which of them an adventure was written. -/
theorem parse_json_serialize (a : Adventure) :
    (parse .json (serialize .json a) =
      match a.firstZero? with
      | none => .ok a
      | some zero => .error (.schema zero.message)) ∧
    (a.firstZero? = none ↔ ∀ p ∈ a.passages, p.id ≠ 0 ∧ ∀ c ∈ p.choices, c.goto ≠ 0) ∧
    parse .json (serialize .json a) = parse .ron (serialize .ron a) := by
  refine ⟨parse_serialize .json a, a.firstZero?_eq_none_iff, ?_⟩
  rw [parse_serialize, parse_serialize]

/-! ## Playable adventures -/

/-- If every choice leads to a passage, a document states a zero only for want of a passage id. -/
theorem Adventure.Sound.firstZero?_eq_none_iff {a : Adventure} (ha : a.Sound) :
    a.firstZero? = none ↔ 0 ∉ a.passageIds := by
  rw [Adventure.firstZero?_eq_none_iff]
  constructor
  · intro hnumbers hzero
    obtain ⟨p, hp, hid⟩ := List.mem_map.mp hzero
    exact (hnumbers p hp).1 hid
  · intro hzero
    have hids : ∀ p ∈ a.passages, p.id ≠ 0 := fun p hp hid => hzero (List.mem_map.mpr ⟨p, hp, hid⟩)
    refine fun p hp => ⟨hids p hp, fun c hc => ?_⟩
    -- The target is the id of the passage that is found there.
    obtain ⟨q, hq⟩ := ha.target p hp c hc
    rw [← Adventure.id_of_passage? hq]
    exact hids q (Adventure.mem_of_passage? hq)

/-- **A playable adventure is given back by either notation** if and only if it has no passage zero. With
one, its text is refused: a number in it is zero, and the first such number is reported. The checks are no help
here, for they compare ids with each other and never with zero; a choice that leads to zero is in order if there is
a passage zero. -/
theorem parse_serialize_of_isPlayable {a : Adventure} (h : a.isPlayable = true) (format : Format) :
    (parse format (serialize format a) = .ok a ↔ 0 ∉ a.passageIds) ∧
      (0 ∈ a.passageIds → ∃ zero, a.firstZero? = some zero ∧
        parse format (serialize format a) = .error (.schema zero.message)) := by
  have hsound : a.firstZero? = none ↔ 0 ∉ a.passageIds :=
    (Adventure.sound_of_isPlayable h).firstZero?_eq_none_iff
  rw [parse_serialize, ← hsound]
  cases hzero : a.firstZero? with
  | none => exact ⟨by simp, fun hmem => absurd hmem (hsound.mp hzero)⟩
  | some zero => exact ⟨by simp, fun _ => ⟨zero, rfl, rfl⟩⟩

/-- The cellar can be saved and read back. -/
theorem parse_serialize_cellar :
    parse .ron (serialize .ron .cellar) = .ok .cellar ∧ parse .json (serialize .json .cellar) = .ok .cellar :=
  ⟨(parse_serialize_of_isPlayable Adventure.cellar_isPlayable .ron).1.mpr (by decide),
    (parse_serialize_of_isPlayable Adventure.cellar_isPlayable .json).1.mpr (by decide)⟩

/-- A short adventure that ends on a passage zero. -/
def Adventure.trapdoor : Adventure where
  title := "The Trapdoor"
  introduction := ["The floor is hollow."]
  items := []
  passages := [
    { id := 1, paragraphs := ["You stand on a trapdoor."], choices := [⟨"Pull the ring", 0⟩],
      effects := [], notes := none, endingType := none },
    { id := 0, paragraphs := ["You fall."], choices := [], effects := [], notes := none,
      endingType := some "fall" }]

/-- The checks find nothing wrong with a passage zero, but the text of the adventure is refused. -/
theorem trapdoor_not_read_back :
    Adventure.trapdoor.isPlayable = true ∧ ∀ format, parse format (serialize format .trapdoor) =
      .error (.schema "choice 1 in passage 1: goto must be at least 1") := by
  refine ⟨by decide, fun format => ?_⟩
  rw [parse_serialize]
  rfl

end Gamebook
