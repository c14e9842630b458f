import Gamebook.Proofs.Format

/-!
# From one notation to another

An adventure that was parsed from any text at all, hand-written or not, states no zero; so both notations
carry it, and give it back. To convert a text is to parse it in one notation and to serialize it in another.

The round trip of a serialized adventure says nothing of a text that somebody wrote: such a text has comments,
fields in an order of its own, numbers in base 16, and converting it loses all of these. What it must not lose is
the adventure. So the statement begins with a text that is accepted, whatever it looks like, and ends with texts of
the adventure it holds. To serialize what was parsed gives a text that is a fixed point: it is converted to itself.

Where conversions lead does not depend on the notations they pass through (`convertAlong_concat`): the last text
is the one that is written of the adventure directly. The induction is on the notations passed through, and needs
one fact of each step only, that the text it leaves holds the same adventure.
-/

namespace Gamebook

/-- The adventure of a text, written in another notation or in the same. -/
def convert (source target : Format) (text : String) : Except FormatError String :=
  (parse source text).map (serialize target)

/-- The adventure of a text, converted from notation to notation. -/
def convertAlong (source : Format) : List Format → String → Except FormatError String
  | [], text => .ok text
  | target :: targets, text => do
    let converted ← convert source target text
    convertAlong target targets converted

section Accepted

variable {format : Format} {text : String} {a : Adventure}

/-- A text that is accepted holds a document, and the document an adventure. -/
theorem exists_document_of_parse (h : parse format text = .ok a) :
    ∃ document, documentOfText format text = .ok document ∧ adventureOf document = .ok a := by
  unfold parse at h
  obtain ⟨document, hdocument, h⟩ := bind_eq_ok h
  refine ⟨document, hdocument, ?_⟩
  cases hadventure : adventureOf document with
  | error fault =>
    rw [hadventure] at h
    cases h
  | ok held =>
    rw [hadventure] at h
    have hheld : held = a := Except.ok.inj h
    rw [hheld]

/-- What is parsed states no zero. -/
theorem firstZero?_of_parse (h : parse format text = .ok a) : a.firstZero? = none := by
  obtain ⟨document, -, hadventure⟩ := exists_document_of_parse h
  exact firstZero?_of_adventureOf hadventure

/-- What is parsed can be written in any notation and parsed again. The condition on round trips, that no number is
zero, is one that parsing has already enforced. -/
theorem parse_serialize_of_parse (h : parse format text = .ok a) (target : Format) :
    parse target (serialize target a) = .ok a := by
  rw [parse_serialize, firstZero?_of_parse h]

theorem convert_of_parse (h : parse format text = .ok a) (target : Format) :
    convert format target text = .ok (serialize target a) := by
  rw [convert, h]
  rfl

/-- Many conversions lead to the text that the last of them would have written at once. -/
theorem convertAlong_concat (targets : List Format) (target : Format) :
    ∀ {format : Format} {text : String}, parse format text = .ok a →
      convertAlong format (targets ++ [target]) text = .ok (serialize target a) := by
  induction targets with
  | nil =>
    intro format text h
    show convert format target text >>= (fun converted => .ok converted) = _
    rw [convert_of_parse h]
    rfl
  | cons next targets ih =>
    intro format text h
    -- The first conversion is accepted again, in its own notation.
    have hnext : parse next (serialize next a) = .ok a := parse_serialize_of_parse h next
    show convert format next text >>= convertAlong next (targets ++ [target]) = _
    rw [convert_of_parse h]
    exact ih hnext

end Accepted

/-- **Accepted texts convert without loss.** An adventure that is parsed from a text states numbers of at
least one only. It is given back by either notation. To serialize what was parsed gives a text that is a
fixed point of doing so; and however often the text is converted, through whichever notations, the outcome
is the text that the last notation has for the adventure, which is never another one. None of the conversions can
fail: that the outcome exists is part of the statement. -/
theorem accepted_text_converts {format : Format} {text : String} {a : Adventure}
    (h : parse format text = .ok a) :
    (∀ p ∈ a.passages, 1 ≤ p.id ∧ ∀ c ∈ p.choices, 1 ≤ c.goto) ∧
    (∀ target, parse target (serialize target a) = .ok a) ∧
    (∀ target, convert format target text = .ok (serialize target a) ∧
      convert target target (serialize target a) = .ok (serialize target a)) ∧
    ∀ targets target, ∃ converted, convertAlong format (targets ++ [target]) text = .ok converted ∧
      converted = serialize target a ∧ parse target converted = .ok a := by
  have hagain : ∀ target, parse target (serialize target a) = .ok a := parse_serialize_of_parse h
  have hpositive : ∀ n : UInt32, n ≠ 0 → 1 ≤ n := by
    intro n hn
    have hnat : n.toNat ≠ 0 := fun hzero => hn (UInt32.toNat_inj.mp hzero)
    exact UInt32.le_iff_toNat_le.mpr (Nat.pos_of_ne_zero hnat)
  refine ⟨?_, hagain, ?_, ?_⟩
  · intro p hp
    obtain ⟨hid, hgoto⟩ := a.firstZero?_eq_none_iff.mp (firstZero?_of_parse h) p hp
    exact ⟨hpositive p.id hid, fun c hc => hpositive c.goto (hgoto c hc)⟩
  · intro target
    exact ⟨convert_of_parse h target, convert_of_parse (hagain target) target⟩
  · intro targets target
    exact ⟨serialize target a, convertAlong_concat targets target h, rfl, hagain target⟩

/-- A short adventure, written by hand: with a comment, its fields in an order of their own, and fields left
out. -/
def handwritten : String :=
  "// a draft\n(passages: [(endingType: Some(\"fog\"), id: 0x1, paragraphs: [])],\n" ++
    "introduction: (paragraphs: []), metadata: (title: r\"A \\ B\"),)"

/-- The hand-written adventure goes to JSON and back. -/
theorem handwritten_converts :
    ∃ a, parse .ron handwritten = .ok a ∧ a.title = "A \\ B" ∧
      ∃ converted, convertAlong .ron [.json, .ron] handwritten = .ok converted ∧
        parse .ron converted = .ok a := by
  have htitle : ((parse .ron handwritten).toOption.map Adventure.title) = some "A \\ B" := by
    decide +kernel
  cases hparse : parse .ron handwritten with
  | error e =>
    rw [hparse] at htitle
    cases htitle
  | ok a =>
    rw [hparse] at htitle
    obtain ⟨converted, hconverted, -, hagain⟩ := (accepted_text_converts hparse).2.2.2 [.json] .ron
    exact ⟨a, rfl, Option.some.inj htitle, converted, hconverted, hagain⟩

end Gamebook
