import Gamebook.Proofs.Ron.Layout
import Gamebook.Proofs.Shape

/-!
# What was written as RON is read back

`reads_write` is the law of the two functions `write` and `read`: for every shape whose names can be
written, reading by the shape makes of a written document that document again, and stops where the
document ends. It goes by recursion on the shape, together with the law for the fields of a record.

There is one printer, so the law is about what it writes and not about every spelling. Hand-written texts are read by
the same reader and may look different in many ways; of those it is only known what they come to once they are
accepted.

As with JSON, the loop over the fields knows the whole record, while the recursion is on the fields that remain. The
law for fields is about the last ones of a record, with what was met of those before put beside by `embed`
(`rounds_fieldStep`). Fields that hold nothing are not written, and a reader meets exactly those that are
(`met_eq_map_writeAs`).

Options are written with their word. An extension of RON lets it be left out, if the text says so at its beginning;
whether it does is a parameter of the readers, and makes no difference to what was written, in which no extension is
asked for (`reads_opening`).
-/

namespace Gamebook.Ron

open Gamebook.Text
open Text.Reader (Reads Rounds Stops reads_pure reads_accept reads_advance)

/-! ## How written values begin

No value begins like a blank or like the end of a list, so the readers of punctuation take it for a value. -/

/-- The characters a written value can begin with. -/
def opensValue (c : Char) : Bool := c == '"' || c == '[' || c == '(' || c.isDigit

theorem opensValue_not_blank {c : Char} (h : opensValue c = true) :
    opensBlank c = false ∧ c ≠ ']' := by
  simp only [opensBlank, isSpace, Bool.or_eq_false_iff, beq_eq_false_iff_ne]
  refine ⟨⟨⟨⟨⟨?_, ?_⟩, ?_⟩, ?_⟩, ?_⟩, ?_⟩ <;> rintro rfl <;> revert h <;> decide

theorem write_eq_cons (shape : Shape) (depth : Nat) (value : shape.Value) :
    ∃ c cs, write shape depth value = c :: cs ∧ opensValue c = true := by
  cases shape with
  | text => exact ⟨'"', _, rfl, by decide⟩
  | number =>
    obtain ⟨d, ds, hds, hd⟩ := toDigits_eq_cons (UInt32.toNat value)
    exact ⟨d, ds, by rw [write, hds], by simp [opensValue, hd]⟩
  | list item =>
    rw [write, writeItems]
    split
    · exact ⟨'[', _, rfl, by decide⟩
    · exact ⟨'[', _, rfl, by decide⟩
  | record name fields => exact ⟨'(', _, by rw [write]; rfl, by decide⟩

theorem write_opens (shape : Shape) (depth : Nat) (value : shape.Value) :
    Opens ']' (write shape depth value) := by
  obtain ⟨c, cs, heq, hc⟩ := write_eq_cons shape depth value
  refine ⟨c, cs, heq, ?_, ?_⟩
  · exact (opensValue_not_blank hc).1
  · exact (opensValue_not_blank hc).2

theorem not_blank_of_isIdentifierStart {c : Char} (h : isIdentifierStart c = true) :
    opensBlank c = false ∧ c ≠ ')' := by
  simp only [opensBlank, isSpace, Bool.or_eq_false_iff, beq_eq_false_iff_ne]
  refine ⟨⟨⟨⟨⟨?_, ?_⟩, ?_⟩, ?_⟩, ?_⟩, ?_⟩ <;> rintro rfl <;> revert h <;> decide

/-- A name opens the entry of a field. -/
theorem writeEntry_opens {name : String} (h : isPlainName name = true) (content : List Char) :
    Opens ')' (writeEntry name content) := by
  obtain ⟨c, cs, hname, hstart, -⟩ := isPlainName_iff.mp h
  obtain ⟨hblank, hclose⟩ := not_blank_of_isIdentifierStart hstart
  exact ⟨c, _, by rw [writeEntry, hname]; rfl, hblank, hclose⟩

theorem mem_writeFields {fit : String → Bool} : (fields : Fields) → fields.WellNamed fit →
    ∀ depth (value : fields.Value), ∀ e ∈ writeFields fields depth value,
      ∃ name content, fit name = true ∧ e = writeEntry name content
  | .nil, _, _, _, e, he => by simp [writeFields] at he
  | .field name presence content rest, ⟨hfit, _, _, hrest⟩, depth, (value, values), e, he => by
    rw [writeFields] at he
    rcases List.mem_append.mp he with he | he
    · rw [Option.mem_toList, Option.map_eq_some_iff] at he
      obtain ⟨text, -, rfl⟩ := he
      exact ⟨name, text, hfit, rfl⟩
    · exact mem_writeFields rest hrest depth values e he

/-! ## Contents of fields

What stands in a field is a value, a list of values, or an option of one; one lemma for the three. -/

/-- A reader meets what a field holds if and only if that is written. -/
theorem met_eq_map_writeAs {α : Type} (depth : Nat) (content : Nat → α → List Char)
    (presence : Presence) (value : presence.Wrap α) :
    presence.met value = (writeAs depth content presence value).map fun _ => value := by
  cases presence with
  | required => rfl
  | repeated => rfl
  | optional => cases value <;> rfl

theorem reads_optionOf {α : Type} {content : Reader α} {written : List Char} {value : α}
    (implicitSome : Bool) (hstart : ∃ c cs, written = c :: cs ∧ opensBlank c = false)
    (hread : ∀ ys, Ended ys → Reads content (written ++ ys) value ys) (ys : List Char) :
    Reads (optionOf implicitSome content) ("Some(".toList ++ written ++ [')'] ++ ys) (some value) ys := by
  obtain ⟨c, cs, rfl, hc⟩ := hstart
  have hsplit : "Some(".toList ++ (c :: cs) ++ [')'] ++ ys =
      ['S', 'o', 'm', 'e'] ++ '(' :: ((c :: cs) ++ ')' :: ys) := by simp
  rw [hsplit]
  refine (reads_accept_other (w := 'N') rfl (by simp)).bind ?_
  refine (reads_accept rfl _).bind ?_
  refine (reads_skipBlanks_none (by simp [opensBlank, isSpace])).bind ?_
  refine (reads_accept_char rfl _).bind ?_
  refine (reads_skipBlanks_none (by simpa using hc)).bind ?_
  refine (hread _ ended_close).bind ?_
  refine (reads_comma_close ys).bind ?_
  exact (reads_accept_char rfl _).bind (reads_pure _ _)

section Fields

variable {α : Type} {content : Reader α} {written : Nat → α → List Char}

/-- What a field holds is read back, if what stands in it is. Behind it comes its comma, and the reader stops before
that. -/
theorem reads_readAs (implicitSome : Bool) (hopens : ∀ depth v, Opens ']' (written depth v))
    (hread : ∀ depth v ys, Ended ys → Reads content (written depth v ++ ys) v ys) (depth : Nat)
    (presence : Presence) (value : presence.Wrap α) {text : List Char}
    (htext : writeAs depth written presence value = some text) (ys : List Char) :
    Reads (readAs implicitSome content presence) (text ++ ',' :: ys) value (',' :: ys) := by
  cases presence with
  | required =>
    obtain rfl : written depth value = text := by simpa [writeAs] using htext
    exact hread depth value _ ended_comma
  | repeated =>
    obtain rfl : writeItems depth (List.map (written (depth + 1)) value) = text := by
      simpa [writeAs] using htext
    exact reads_listOf depth (fun v _ => hopens (depth + 1) v)
      (fun v _ zs => hread (depth + 1) v _ ended_comma) _
  | optional =>
    cases value with
    | none => simp [writeAs] at htext
    | some v =>
      obtain rfl : "Some(".toList ++ written depth v ++ [')'] = text := by
        simpa [writeAs] using htext
      obtain ⟨c, cs, hcs, hc, -⟩ := hopens depth v
      exact reads_optionOf implicitSome ⟨c, cs, hcs, hc⟩ (fun zs hzs => hread depth v zs hzs) _

/-- What a written field begins with is not blank. -/
theorem writeAs_not_blank (hopens : ∀ depth v, Opens ']' (written depth v)) {depth : Nat}
    {presence : Presence} {value : presence.Wrap α} {text : List Char}
    (htext : writeAs depth written presence value = some text) (ys : List Char) :
    Stops opensBlank (text ++ ys) := by
  cases presence with
  | required =>
    obtain rfl : written depth value = text := by simpa [writeAs] using htext
    obtain ⟨c, cs, hcs, hc, -⟩ := hopens depth value
    simpa [hcs] using hc
  | repeated =>
    obtain rfl : writeItems depth (List.map (written (depth + 1)) value) = text := by
      simpa [writeAs] using htext
    unfold writeItems
    split <;> simp [writeEntries, opensBlank, isSpace]
  | optional =>
    cases value with
    | none => simp [writeAs] at htext
    | some v =>
      obtain rfl : "Some(".toList ++ written depth v ++ [')'] = text := by
        simpa [writeAs] using htext
      simp [opensBlank, isSpace]

end Fields

/-! ## Fields of a record

Reading a field puts it in its slot. The other slots are as they were, which is what lets the law of fields go through
the list of fields one by one. -/

section Record

variable {implicitSome : Bool} {record name key : String} {known : List String} {presence : Presence}
  {content : Shape} {rest : Fields} {xs ys : List Char}

/-- Beside whatever was met of the first field, the others are read as before. -/
theorem reads_readField_rest (hfresh : name ∉ rest.names) (hkey : key ∈ rest.names)
    {slot : Option (presence.Wrap content.Value)} {slots slots' : rest.Slots}
    (h : Reads (readField implicitSome record known rest key slots) xs slots' ys) :
    Reads (readField implicitSome record known (.field name presence content rest) key (slot, slots)) xs
      (slot, slots') ys := by
  have hne : key ≠ name := by
    rintro rfl
    exact hfresh hkey
  rw [readField, if_neg hne]
  exact h.bind (reads_pure _ _)

/-- The first field is read behind its key, if it has not been met before. -/
theorem reads_readField_first
    (hread : ∀ depth v ys, Ended ys → Reads (read implicitSome content) (write content depth v ++ ys) v ys)
    {depth : Nat} {value : presence.Wrap content.Value} {text : List Char}
    (htext : writeAs depth (write content) presence value = some text) (slots : rest.Slots)
    (ys : List Char) :
    Reads (readField implicitSome record known (.field name presence content rest) name (none, slots))
      (':' :: ([' '] ++ (text ++ ',' :: ys))) (some value, slots) (',' :: ys) := by
  rw [readField, if_pos rfl]
  refine (reads_colon isSpace_of_mem_space (writeAs_not_blank (write_opens content) htext _)).bind ?_
  refine (reads_readAs implicitSome (write_opens content) hread depth presence value htext ys).bind ?_
  exact reads_pure _ _

end Record

/-! ## Documents

The recursion on the shape. Before the reader of the fields a record may have its name, which is not written. -/

mutual

/-- **A written document is read as itself, up to where it ends.** By recursion on the shape, together with the
fields of its records. What comes behind is nothing, a comma or a parenthesis, as behind every written value. -/
theorem reads_write (implicitSome : Bool) : (shape : Shape) → shape.WellNamed isPlainName →
    ∀ depth (value : shape.Value) ys, Ended ys →
      Reads (read implicitSome shape) (write shape depth value ++ ys) value ys
  | .text, _, depth, value, ys, _ => by
    have h := (reads_stringLiteral value ys).map String.ofList
    rw [String.ofList_toList] at h
    rw [read, write]
    exact h
  | .number, _, depth, value, ys, hys => by
    have hlt := UInt32.toNat_lt value
    have h := (@reads_natural _ (UInt32.toNat value) Word.max32 (by
      unfold Word.max32
      omega) hys).map UInt32.ofNat
    rw [UInt32.ofNat_toNat] at h
    rw [read, write]
    exact h
  | .list item, hnamed, depth, values, ys, _ => by
    rw [read, write]
    exact reads_listOf depth (fun v _ => write_opens item (depth + 1) v)
      (fun v _ zs => reads_write implicitSome item hnamed (depth + 1) v _ ended_comma) ys
  | .record name fields, hnamed, depth, value, ys, _ => by
    rw [read, write]
    obtain ⟨xs, heq, hlayout⟩ := writeEntries_layout '(' depth (fun e he => by
      obtain ⟨fieldName, content, hfit, rfl⟩ := mem_writeFields fields hnamed (depth + 1) value e he
      exact writeEntry_opens hfit content) ys
    rw [heq]
    have hstart : Reads (recordStart name) ('(' :: '\n' :: xs) () ('\n' :: xs) := by
      refine (Reader.reads_peek _).bind ?_
      rw [if_neg (by simp [isIdentifierRest, isIdentifierStart])]
      refine (reads_skipBlanks_none (by simp [opensBlank, isSpace])).bind ?_
      exact (reads_accept_char rfl _).bind (reads_pure _ _)
    -- These are all fields of the record, so what is met of them is embedded as it is.
    have hrounds := rounds_fieldStep implicitSome name fields.names fields hnamed
      (readField implicitSome name fields.names fields) id (fun _ _ _ _ _ _ h => h) (depth + 1) value ys _
      hlayout
    refine hstart.bind (hrounds.reads.bind ?_)
    simp only [id, Fields.complete_filled]
    exact (reads_advance 1 _).bind (reads_pure _ _)

/-- The fields of a written record are met one by one. The fields are the last ones of a record; `embed`
puts what is met of them beside what was met of those before, and `readField'` reads a field of the whole
record, in the same way as it would be read if these were all. -/
theorem rounds_fieldStep (implicitSome : Bool) (record : String) (known : List String) :
    (fields : Fields) → fields.WellNamed isPlainName → ∀ {σ : Type} (readField' : String → σ → Reader σ)
      (embed : fields.Slots → σ),
      (∀ key ∈ fields.names, ∀ slots slots' xs ys,
        Reads (readField implicitSome record known fields key slots) xs slots' ys →
        Reads (readField' key (embed slots)) xs (embed slots') ys) →
      ∀ depth (value : fields.Value) tail xs, Layout ')' tail (writeFields fields depth value) xs →
        Rounds (fieldStep readField') (true, embed fields.noSlots) xs (embed (fields.filled value))
          (')' :: tail)
  | .nil, _, _, _, _, _, _, _, _, _, hlayout =>
    .last ((hlayout.reads_hasElement_done (by decide) true).bind (reads_pure _ _))
  | .field name presence content rest, hnamed, _, readField', embed, hembed, depth, (value, values), tail,
      xs, hlayout => by
    obtain ⟨hfit, hfresh, hcontent, hrest⟩ := hnamed
    -- Beside whatever was met of this field, the others are read as before.
    have hothers : ∀ slot, ∀ key ∈ rest.names, ∀ slots slots' xs ys,
        Reads (readField implicitSome record known rest key slots) xs slots' ys →
        Reads (readField' key (embed (slot, slots))) xs (embed (slot, slots')) ys := by
      intro slot key hkey slots slots' xs ys h
      exact hembed key (List.mem_cons_of_mem _ hkey) _ _ xs ys (reads_readField_rest hfresh hkey h)
    have hrounds : ∀ slot xs, Layout ')' tail (writeFields rest depth values) xs →
        Rounds (fieldStep readField') (true, embed (slot, rest.noSlots)) xs
          (embed (slot, rest.filled values)) (')' :: tail) := fun slot =>
      rounds_fieldStep implicitSome record known rest hrest readField'
        (fun slots => embed (slot, slots)) (hothers slot) depth values tail
    have hmet := met_eq_map_writeAs depth (write content) presence value
    rw [writeFields] at hlayout
    cases htext : writeAs depth (write content) presence value with
    | none =>
      -- The field is left out, so its slot stays empty.
      rw [htext] at hlayout
      rw [htext] at hmet
      rw [Fields.filled, hmet]
      exact hrounds none xs hlayout
    | some text =>
      rw [htext] at hlayout
      obtain ⟨ys, hys, hlen, hhas⟩ := hlayout.reads_hasElement
      obtain ⟨zs, hzs, hzlen, hcomma⟩ := hys.reads_comma (by decide)
      rw [htext] at hmet
      rw [Fields.filled, hmet]
      refine .next ?_ ?_
        (hrounds (some value) zs hzs)
      · -- The key names this field, which has not been met before.
        have hsplit : writeEntry name text ++ ',' :: ys =
            name.toList ++ ':' :: ([' '] ++ (text ++ ',' :: ys)) := by
          simp [writeEntry]
        have hfield : Reads (readField implicitSome record known (.field name presence content rest) name
            (none, rest.noSlots)) (':' :: ([' '] ++ (text ++ ',' :: ys))) (some value, rest.noSlots)
            (',' :: ys) :=
          reads_readField_first (reads_write implicitSome content hcontent) htext _ ys
        refine hhas.bind ?_
        rw [if_pos rfl, hsplit]
        refine (reads_identifier hfit _).bind ?_
        refine (hembed name List.mem_cons_self _ _ _ _ hfield).bind ?_
        exact hcomma.bind (reads_pure _ _)
      · rw [List.length_append, List.length_cons] at hlen
        omega

end

/-! ## Whole texts

Before the value stand the attributes of a text, and behind it blanks; neither is written. -/

/-- The blanks that open a text are passed, and nothing else unless an attribute follows. -/
theorem reads_opening_blanks {bs ys : List Char} (hb : ∀ c ∈ bs, isSpace c = true) (hy : Stops opensBlank ys)
    (hattribute : ys.head? ≠ some '#') : Reads opening (bs ++ ys) false ys := by
  refine (reads_skipBlanks hb hy).bind ?_
  refine Rounds.reads (.last ?_)
  refine (Reader.reads_peek _).bind ?_
  rw [if_pos hattribute]
  exact reads_pure _ _

/-- What begins with a value opens with no blank and no attribute. -/
theorem reads_opening_value {c : Char} (hc : opensValue c = true) (cs : List Char) :
    Reads opening (c :: cs) false (c :: cs) := by
  have hattribute : c ≠ '#' := by
    rintro rfl
    exact absurd hc (by decide)
  exact @reads_opening_blanks [] (c :: cs) (by simp) (by simpa using (opensValue_not_blank hc).1)
    (by simpa using hattribute)

theorem reads_opening (shape : Shape) (value : shape.Value) :
    Reads opening (write shape 0 value) false (write shape 0 value) := by
  obtain ⟨c, cs, heq, hc⟩ := write_eq_cons shape 0 value
  rw [heq]
  exact reads_opening_value hc cs

theorem reads_ending : Reads ending [] () [] := by
  refine (reads_skipBlanks_none (by simp)).bind ?_
  refine (Reader.reads_peek []).bind ?_
  rw [if_neg (by decide)]
  exact reads_pure _ _

/-- **A written text is read as the document it was made of**, whatever the shape, if its names are plain and no
record has two fields of one name. -/
theorem run_readText_writeText {shape : Shape} (h : shape.WellNamed isPlainName)
    (value : shape.Value) : (readText shape).run (writeText shape value) = .ok value := by
  refine @Reads.run _ _ [] _ _ _ ?_
  rw [writeText, String.toList_ofList]
  have hread := reads_write false shape h 0 value [] ended_nil
  rw [List.append_nil] at hread
  exact (reads_opening shape value).bind (hread.bind (reads_ending.bind (reads_pure _ _)))

end Gamebook.Ron
