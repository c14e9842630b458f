import Gamebook.Document

/-!
# What becomes of an adventure as a document

A document is what both notations carry: the fields of an adventure under their names, with plain numbers for ids.
An adventure is not the same thing, for its ids are at least one, and a document may state any number of 32 bits.
The type of the adventure does not exclude a zero, since a program can build one; only reading does.

A document states the numbers of an adventure: of each passage its id, and then the targets of its choices
(`Passage.numbers`). None of them may be zero, and this is all that can keep the document of an adventure from
being an adventure again (`adventureOf_documentOf`). The first zero in the order of the document decides what is
reported. Reading stops at it, in the middle of a passage or of its choices, so the statement on the whole document
needs the one on each part to say what is reported there, and `checked` is the form all of them have: a value, if
none of the numbers it came with is zero, and otherwise what is wrong with the first. Two checks in a row are one
check of the numbers of both (`checked_append`).

The other way round, whatever document an adventure was read from, hand-written or not, the adventure states no
zero (`firstZero?_of_adventureOf`). So reading it again finds nothing to report.
-/

namespace Gamebook

/-- The numbers that the document of a passage states, in order, each with what is wrong with the document
if it is zero. -/
def Passage.numbers (p : Passage) : List (UInt32 × DocumentFault) :=
  (p.id, .passageZero) :: p.choices.zipIdx.map fun (c, i) => (c.goto, .targetZero p.id i)

/-- What is wrong with the first of some numbers that is zero. -/
def firstZero? (numbers : List (UInt32 × DocumentFault)) : Option DocumentFault :=
  (numbers.find? fun n => n.1 = 0).map (·.2)

/-- What is wrong with the first number of an adventure that is zero, in the order of the document. -/
def Adventure.firstZero? (a : Adventure) : Option DocumentFault :=
  Gamebook.firstZero? (a.passages.flatMap Passage.numbers)

/-! ## The first zero

The conversion of a document stops at the first number that is zero. Each part of a document has its own numbers, and
what a whole reports is the fault of its first part that has one. `checked` is a value with the numbers it came with,
and its laws are those of a conversion that goes on. -/

/-- A value, if none of the numbers it came with is zero. -/
def checked {α : Type} (numbers : List (UInt32 × DocumentFault)) (value : α) : Except DocumentFault α :=
  match firstZero? numbers with
  | none => .ok value
  | some fault => .error fault

section Checked

variable {α β : Type} {number : UInt32} {fault : DocumentFault}
  {numbers more : List (UInt32 × DocumentFault)}

theorem firstZero?_append :
    firstZero? (numbers ++ more) = (firstZero? numbers).or (firstZero? more) := by
  simp [firstZero?, List.find?_append, Option.map_or]

theorem firstZero?_eq_none_iff : firstZero? numbers = none ↔ ∀ n ∈ numbers, n.1 ≠ 0 := by
  simp [firstZero?]

theorem checked_cons_zero (value : α) : checked ((0, fault) :: numbers) value = .error fault := rfl

theorem checked_cons (hnumber : number ≠ 0) (value : α) :
    checked ((number, fault) :: numbers) value = checked numbers value := by
  simp [checked, firstZero?, hnumber]

theorem checked_map (f : α → β) (value : α) :
    (checked numbers value).map f = checked numbers (f value) := by
  unfold checked
  cases firstZero? numbers <;> rfl

/-- One check after the other is a check of all the numbers. -/
theorem checked_append (value : α) (f : α → β) :
    (checked numbers value >>= fun a => checked more (f a)) = checked (numbers ++ more) (f value) := by
  unfold checked
  rw [firstZero?_append]
  cases firstZero? numbers <;> rfl

end Checked

/-! ## From a document back to the adventure -/

theorem choicesOf_map (passage : PassageId) (choices : List Choice) : ∀ index : Nat,
    choicesOf passage index (choices.map documentChoice) =
      checked ((choices.zipIdx index).map fun (c, i) => (c.goto, .targetZero passage i)) choices := by
  induction choices with
  | nil => exact fun _ => rfl
  | cons c cs ih =>
    intro index
    obtain ⟨text, goto⟩ := c
    rw [List.zipIdx_cons, List.map_cons, List.map_cons]
    -- A target that is zero is reported at once, whatever the targets behind it are.
    by_cases hzero : goto = 0
    · rw [hzero, checked_cons_zero]
      rfl
    · rw [checked_cons hzero]
      show choicesOf passage index ((text, goto, ()) :: cs.map documentChoice) = _
      rw [choicesOf, if_neg hzero, ih (index + 1)]
      exact checked_map _ cs

theorem effectsOf_map (passage : PassageId) (effects : List Effect) :
    effectsOf passage (effects.map documentEffect) = .ok effects := by
  induction effects with
  | nil => rfl
  | cons e es ih =>
    show effectsOf passage ((e.kind, e.item, ()) :: es.map documentEffect) = _
    rw [effectsOf, ih, Effect.ofKind?_kind_item]
    rfl

theorem passageOf_documentPassage (p : Passage) :
    passageOf (documentPassage p) = checked p.numbers p := by
  rw [documentPassage, passageOf, Passage.numbers]
  by_cases hzero : p.id = 0
  · rw [hzero, checked_cons_zero]
    rfl
  · rw [checked_cons hzero, if_neg hzero, choicesOf_map, effectsOf_map]
    exact checked_map _ p.choices

theorem passagesOf_map (passages : List Passage) :
    passagesOf (passages.map documentPassage) = checked (passages.flatMap Passage.numbers) passages := by
  induction passages with
  | nil => rfl
  | cons p ps ih =>
    rw [List.map_cons, passagesOf, passageOf_documentPassage, ih, List.flatMap_cons]
    show (checked p.numbers p >>= fun passage =>
      (checked (ps.flatMap Passage.numbers) ps).map (passage :: ·)) = _
    simp only [checked_map]
    exact checked_append p (· :: ps)

/-- **The document of an adventure is that adventure, unless one of its numbers is zero.** Then the first of them
is reported. Everything else an adventure has is in its document as it is: texts, items, effects, and notes and
types of endings that may be missing. -/
theorem adventureOf_documentOf (a : Adventure) :
    adventureOf (documentOf a) = checked (a.passages.flatMap Passage.numbers) a := by
  have hitems : (a.items.map documentItem).map (fun i => (⟨i.1, i.2.1⟩ : Item)) = a.items := by
    rw [List.map_map]
    exact List.map_id a.items
  rw [documentOf, adventureOf, passagesOf_map]
  refine Eq.trans ?_ (checked_map (fun passages => { a with passages }) a.passages)
  exact congrArg (fun items => checked (a.passages.flatMap Passage.numbers) a.passages >>= fun passages =>
    .ok { a with items, passages }) hitems

theorem Adventure.firstZero?_eq_none_iff (a : Adventure) :
    a.firstZero? = none ↔ ∀ p ∈ a.passages, p.id ≠ 0 ∧ ∀ c ∈ p.choices, c.goto ≠ 0 := by
  have hpassage : ∀ p : Passage,
      (∀ n ∈ p.numbers, n.1 ≠ 0) ↔ p.id ≠ 0 ∧ ∀ c ∈ p.choices, c.goto ≠ 0 := by
    intro p
    rw [Passage.numbers, List.forall_mem_cons, List.forall_mem_map]
    refine and_congr_right fun _ => ?_
    constructor
    · intro h c hc
      obtain ⟨i, hi, rfl⟩ := List.getElem_of_mem hc
      exact h (p.choices[i], i) (List.mk_mem_zipIdx_iff_getElem?.mpr (List.getElem?_eq_getElem hi))
    · intro h n hn
      exact h n.1 (List.fst_mem_of_mem_zipIdx hn)
  rw [Adventure.firstZero?, Gamebook.firstZero?_eq_none_iff]
  constructor
  · intro h p hp
    exact (hpassage p).mp fun n hn => h n (List.mem_flatMap.mpr ⟨p, hp, hn⟩)
  · intro h n hn
    obtain ⟨p, hp, hmem⟩ := List.mem_flatMap.mp hn
    exact (hpassage p).mpr (h p hp) n hmem

/-! ## The adventures of documents -/

/-- To go on from a result to its value, there must be one. -/
theorem bind_eq_ok {ε α β : Type} {x : Except ε α} {f : α → Except ε β} {b : β} (h : x >>= f = .ok b) :
    ∃ a, x = .ok a ∧ f a = .ok b := by
  cases x with
  | error e => cases h
  | ok a => exact ⟨a, rfl, h⟩

theorem goto_ne_zero_of_choicesOf {passage : PassageId} (documents : List choiceShape.Value) :
    ∀ {index : Nat} {choices : List Choice}, choicesOf passage index documents = .ok choices →
      ∀ c ∈ choices, c.goto ≠ 0 := by
  induction documents with
  | nil =>
    intro index choices h c hc
    cases h
    cases hc
  | cons document documents ih =>
    obtain ⟨text, goto, ⟨⟩⟩ := document
    intro index choices h c hc
    rw [choicesOf] at h
    by_cases hzero : goto = 0
    · rw [if_pos hzero] at h
      cases h
    · rw [if_neg hzero] at h
      obtain ⟨others, hothers, h⟩ := bind_eq_ok h
      cases h
      rcases List.mem_cons.mp hc with rfl | hc
      · exact hzero
      · exact ih hothers c hc

/-- A passage that a document holds states no zero. -/
theorem numbers_of_passageOf {document : passageShape.Value} {p : Passage}
    (h : passageOf document = .ok p) : p.id ≠ 0 ∧ ∀ c ∈ p.choices, c.goto ≠ 0 := by
  obtain ⟨id, paragraphs, choices, effects, notes, endingType, ⟨⟩⟩ := document
  rw [passageOf] at h
  by_cases hzero : id = 0
  · rw [if_pos hzero] at h
    cases h
  · rw [if_neg hzero] at h
    obtain ⟨written, hwritten, h⟩ := bind_eq_ok h
    obtain ⟨applied, -, h⟩ := bind_eq_ok h
    cases h
    exact ⟨hzero, goto_ne_zero_of_choicesOf choices hwritten⟩

theorem numbers_of_passagesOf (documents : List passageShape.Value) :
    ∀ {passages : List Passage}, passagesOf documents = .ok passages →
      ∀ p ∈ passages, p.id ≠ 0 ∧ ∀ c ∈ p.choices, c.goto ≠ 0 := by
  induction documents with
  | nil =>
    intro passages h p hp
    cases h
    cases hp
  | cons document documents ih =>
    intro passages h p hp
    rw [passagesOf] at h
    obtain ⟨passage, hpassage, h⟩ := bind_eq_ok h
    obtain ⟨others, hothers, h⟩ := bind_eq_ok h
    cases h
    rcases List.mem_cons.mp hp with rfl | hp
    · exact numbers_of_passageOf hpassage
    · exact ih hothers p hp

/-- **An adventure that a document holds states no zero**, whatever the document is. Nothing is said of the
document, which may have been written by hand, with fields in any order and optional ones left out. -/
theorem firstZero?_of_adventureOf {document : adventureShape.Value} {a : Adventure}
    (h : adventureOf document = .ok a) : a.firstZero? = none := by
  obtain ⟨⟨title, ⟨⟩⟩, items, ⟨introduction, ⟨⟩⟩, passages, ⟨⟩⟩ := document
  rw [adventureOf] at h
  obtain ⟨written, hwritten, h⟩ := bind_eq_ok h
  cases h
  rw [Adventure.firstZero?_eq_none_iff]
  exact numbers_of_passagesOf passages hwritten

end Gamebook
