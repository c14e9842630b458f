import Gamebook.Proofs.Json.Layout
import Gamebook.Proofs.Shape

/-!
# What was written as JSON is read back

`reads_spelled` is the law of the two functions `tree` and `read`: for every shape whose field names are
distinct, reading by the shape makes of any text that spells a document's tree that document again, and
stops where the text ends. It goes by recursion on the shape, together with the law for the fields of a
record.

That law is stated for every way to write the fields (`Enters`): an option that holds nothing may be left out, as
`tree` leaves it out, or be written as null (`readText_enters`). The first is how documents are written, and the
second how views are. The reader makes no difference between the two, since the slot of a field that was not met and
that of one that was met as null complete to the same.

Fields are where the recursion is not that of the data. The reader is a loop over the entries of an object, which
knows all fields of the record at each entry; the law is about a list of fields that gets shorter. So it is stated of
the last fields of a record: `embed` puts what is met of them beside what was met of those before, and an entry with
one of their names is read as it would be if these were all (`rounds_fieldStep`). That names are distinct is needed
here and nowhere else.

Blanks before a value belong to the value. A reader of a value passes them, and the reader of what comes behind passes
those behind it, so a text is put together from values with blanks before them, and only at the end of the whole text
are there blanks that belong to nothing.
-/

namespace Gamebook.Json

open Gamebook.Text
open Text.Reader (Reads Rounds Stops reads_pure reads_peek reads_advance)

variable {α : Type} {bs text tail : List Char}

/-! ## How spelled values begin

The reader of an option looks at the first character to tell null from a value, and the readers of punctuation to tell
a value from the end of a list. Documents begin with few characters, none of which is taken for the other. -/

/-- The characters a document can begin with. -/
def opensValue (c : Char) : Bool := c == '"' || c == '[' || c == '{' || c.isDigit

theorem opensValue_not_blank {c : Char} (h : opensValue c = true) : isSpace c = false ∧ c ≠ ']' := by
  simp only [isSpace, Bool.or_eq_false_iff, beq_eq_false_iff_ne]
  refine ⟨⟨⟨⟨?_, ?_⟩, ?_⟩, ?_⟩, ?_⟩ <;> rintro rfl <;> revert h <;> decide

/-- A text begins like a document. -/
def Opens (text : List Char) : Prop := ∃ c cs, text = c :: cs ∧ opensValue c = true

theorem opens_of_spells (shape : Shape) (value : shape.Value) (text : List Char)
    (h : Spells (tree shape value) text) : Opens text := by
  cases shape with
  | text =>
    rw [tree] at h
    cases h with
    | text => exact ⟨'"', _, rfl, by decide⟩
  | number =>
    rw [tree] at h
    cases h with
    | number =>
      obtain ⟨d, ds, hds, hd⟩ := toDigits_eq_cons (UInt32.toNat value)
      exact ⟨d, ds, hds, by simp [opensValue, hd]⟩
  | list item =>
    rw [tree] at h
    cases h with
    | list => exact ⟨'[', _, rfl, by decide⟩
  | record name fields =>
    rw [tree] at h
    cases h with
    | object => exact ⟨'{', _, rfl, by decide⟩

/-! ## Punctuation

What is inside a list or an object is read, and then its end; places are noted on the way and change nothing. -/

theorem reads_place {r : Reader α} {xs ys : List Char} {a : α} (h : Reads r xs a ys) :
    Reads (place r) xs a ys := by
  intro p
  obtain ⟨q, hq⟩ := h p
  exact ⟨q, by simp only [Json.place, hq]⟩

theorem reads_closedBy {close : Reader Unit} {inside : Reader α} {xs ys zs : List Char} {a : α}
    (hinside : Reads inside xs a ys) (hclose : Reads close ys () zs) :
    Reads (closedBy close inside) xs a zs := by
  refine reads_place ?_
  intro p
  obtain ⟨q, hq⟩ := hinside p
  obtain ⟨o, ho⟩ := hclose.map (fun _ => a) q
  exact ⟨o, by simp only [hq]; exact ho⟩

theorem reads_endList (tail : List Char) : Reads endList (']' :: tail) () tail := by
  refine (reads_peekOr .endOfList blank_nil (by decide) tail).bind ?_
  rw [if_pos rfl]
  exact reads_advance 1 _

theorem reads_endObject (tail : List Char) : Reads endObject ('}' :: tail) () tail := by
  refine (reads_peekOr .endOfObject blank_nil (by decide) tail).bind ?_
  rw [if_pos rfl]
  exact reads_advance 1 _

theorem reads_colon (hb : Blank bs) (tail : List Char) :
    Reads colon (bs ++ ':' :: tail) () tail := by
  refine (reads_peekOr .endOfObject hb (by decide) tail).bind ?_
  rw [if_pos rfl]
  exact reads_advance 1 _

/-! ## Scalars

Strings and numbers, with the blanks before them. -/

theorem reads_readString (hb : Blank bs) (s : String) (tail : List Char) :
    Reads readString (bs ++ (writeString s ++ tail)) s tail := by
  refine (reads_peekOr .endOfValue hb (by decide) _).bind ?_
  rw [if_pos rfl]
  exact reads_stringLiteral s tail

theorem reads_readNumber (hb : Blank bs) (n : UInt32) (htail : Ended tail) :
    Reads readNumber (bs ++ (Nat.toDigits 10 n.toNat ++ tail)) n tail := by
  have hlt : n.toNat < Word.count32 := n.toNat_lt
  have hnumeral : Reads numeral (Nat.toDigits 10 n.toNat ++ tail) (.natural n.toNat) tail :=
    reads_numeral (Nat.lt_trans hlt (by decide)) htail
  obtain ⟨d, ds, hds, hd⟩ := toDigits_eq_cons n.toNat
  have hspace : isSpace d = false := by
    simp only [isSpace, Bool.or_eq_false_iff, beq_eq_false_iff_ne]
    refine ⟨⟨⟨?_, ?_⟩, ?_⟩, ?_⟩ <;> rintro rfl <;> exact absurd hd (by decide)
  rw [hds] at hnumeral ⊢
  refine (reads_peekOr .endOfValue hb hspace _).bind ?_
  rw [if_pos (by simp [hd])]
  refine hnumeral.bind ?_
  simp only
  rw [if_pos hlt, UInt32.ofNat_toNat]
  exact reads_pure _ _

/-! ## Lists

One round for each item, with the items read so far in reverse. -/

section Lists

variable {item : Reader α} {treeOf : α → Tree}

/-- Reading the items of a list, if the reader of an item reads each of them. -/
theorem rounds_itemStep
    (hopens : ∀ v text, Spells (treeOf v) text → Opens text)
    (hread : ∀ v text tail, Spells (treeOf v) text → Ended tail → Reads item (text ++ tail) v tail)
    (values : List α) : ∀ parts xs acc, SpellItems (values.map treeOf) parts →
      Layout ']' acc.isEmpty parts xs →
      Rounds (itemStep item) acc (xs ++ tail) (acc.reverse ++ values) (']' :: tail) := by
  induction values with
  | nil =>
    intro parts xs acc hspells hlayout
    cases hspells with
    | nil =>
      rw [List.append_nil]
      exact .last ((hlayout.reads_hasElement_done tail).bind (reads_pure _ _))
  | cons v vs ih =>
    intro parts xs acc hspells hlayout
    rw [List.map_cons] at hspells
    cases hspells with
    | @cons _ _ part parts hpart hparts =>
      obtain ⟨c, cs, heq, hc⟩ := hopens v part hpart
      obtain ⟨ys, hys, hlen, hhas⟩ :=
        hlayout.reads_hasElement ⟨c, cs, heq, opensValue_not_blank hc⟩ tail
      have hrounds := ih parts ys (v :: acc) hparts hys
      rw [List.reverse_cons, List.append_assoc, List.singleton_append] at hrounds
      refine .next (hhas.bind ?_) ?_ hrounds
      · rw [if_pos rfl]
        exact (hread v part _ hpart (hys.ended (by decide) tail)).bind (reads_pure _ _)
      · rw [heq] at hlen
        simp only [List.length_append, List.length_cons] at hlen ⊢
        omega

/-- A spelled list is read as its items. -/
theorem reads_listOf
    (hopens : ∀ v text, Spells (treeOf v) text → Opens text)
    (hread : ∀ v text tail, Spells (treeOf v) text → Ended tail → Reads item (text ++ tail) v tail)
    {values : List α} (hspells : Spells (.list (values.map treeOf)) text) (hb : Blank bs)
    (tail : List Char) : Reads (listOf item) (bs ++ (text ++ tail)) values tail := by
  cases hspells with
  | @list _ parts xs hparts hlayout =>
    have hrounds : Rounds (itemStep item) [] (xs ++ tail) values (']' :: tail) :=
      rounds_itemStep hopens hread values parts xs [] hparts hlayout
    refine (reads_peekOr .endOfValue hb (by decide) _).bind ?_
    rw [if_pos rfl]
    exact (reads_advance 1 _).bind (reads_closedBy hrounds.reads (reads_endList tail))

end Lists

/-! ## Contents of fields

In a field may stand a value, a list, or an option, which is written as its content or as null. -/

/-- Null is read as an option that holds nothing. -/
theorem reads_optionOf_null (content : Reader α) (hb : Blank bs) (tail : List Char) :
    Reads (optionOf content) (bs ++ ("null".toList ++ tail)) none tail :=
  (reads_peekWord hb (by simp [isSpace])).bind ((reads_word "null".toList tail).bind (reads_pure _ _))

/-- A document is read as an option that holds it. -/
theorem reads_optionOf_some {content : Reader α} {v : α} (hopens : Opens text)
    (hread : Reads content (text ++ tail) v tail) (hb : Blank bs) :
    Reads (optionOf content) (bs ++ (text ++ tail)) (some v) tail := by
  -- No document begins like the null that stands for an option that holds nothing.
  obtain ⟨c, cs, rfl, hc⟩ := hopens
  have hnull : c ≠ 'n' := by
    rintro rfl
    exact absurd hc (by decide)
  have hword : Reads peekWord (bs ++ (c :: cs ++ tail)) (some c) (c :: cs ++ tail) :=
    reads_peekWord hb (by simpa using (opensValue_not_blank hc).1)
  refine hword.bind ?_
  split
  · rename_i heq
    exact absurd (Option.some.inj heq) hnull
  · exact hread.bind (reads_pure _ _)

/-- The trees that stand for what a field holds. -/
inductive FieldTree (treeOf : α → Tree) : (presence : Presence) → presence.Wrap α → Tree → Prop
  | content {presence : Presence} {value : presence.Wrap α} {t : Tree} :
      treeAs treeOf presence value = some t → FieldTree treeOf presence value t
  | null : FieldTree treeOf .optional none .null

/-- What a field holds is read back, if what stands in it is: a list of contents, an option or the content itself. -/
theorem reads_readAs {content : Reader α} {treeOf : α → Tree}
    (hopens : ∀ v text, Spells (treeOf v) text → Opens text)
    (hread : ∀ v bs text tail, Blank bs → Spells (treeOf v) text → Ended tail →
      Reads content (bs ++ (text ++ tail)) v tail)
    (presence : Presence) (value : presence.Wrap α) {t : Tree} (ht : FieldTree treeOf presence value t)
    (hspells : Spells t text) (hb : Blank bs) (htail : Ended tail) :
    Reads (readAs content presence) (bs ++ (text ++ tail)) value tail := by
  cases ht with
  | null =>
    cases hspells with
    | null => exact reads_optionOf_null content hb tail
  | content ht =>
    cases presence with
    | required =>
      obtain rfl : treeOf value = t := by simpa [treeAs] using ht
      exact hread value bs text tail hb hspells htail
    | repeated =>
      obtain rfl : Tree.list (List.map treeOf value) = t := by simpa [treeAs] using ht
      exact reads_listOf hopens (fun v text tail => hread v [] text tail blank_nil) hspells hb tail
    | optional =>
      cases value with
      | none => simp [treeAs] at ht
      | some v =>
        obtain rfl : treeOf v = t := by simpa [treeAs] using ht
        exact reads_optionOf_some (hopens v text hspells)
          (hread v [] text tail blank_nil hspells htail) hb

/-! ## Fields of a record

How the fields of a record may be written, and how one of them is read behind its key. -/

/-- The entries that write the fields of a record, and what a reader meets of the fields. One that may be
absent is left out, or not. -/
def Enters : (fields : Fields) → fields.Value → fields.Slots → List (String × Tree) → Prop
  | .nil, _, _, written => written = []
  | .field name presence content rest, (value, values), (slot, slots), written =>
    (presence.absent? content.Value = some value ∧ slot = none ∧ Enters rest values slots written) ∨
      ∃ t others, FieldTree (tree content) presence value t ∧ slot = some value ∧
        written = (name, t) :: others ∧ Enters rest values slots others

section Enters

variable {name : String} {presence : Presence} {content : Shape} {rest : Fields}
  {value : presence.Wrap content.Value} {values : rest.Value} {slots : rest.Slots}
  {written : List (String × Tree)} {t : Tree}

theorem Enters.leave (habsent : presence.absent? content.Value = some value)
    (h : Enters rest values slots written) :
    Enters (.field name presence content rest) (value, values) (none, slots) written :=
  .inl ⟨habsent, rfl, h⟩

theorem Enters.write (ht : FieldTree (tree content) presence value t)
    (h : Enters rest values slots written) :
    Enters (.field name presence content rest) (value, values) (some value, slots)
      ((name, t) :: written) :=
  .inr ⟨t, written, ht, rfl, rfl, h⟩

end Enters

/-- The entries of the tree of a document leave out what holds nothing. -/
theorem enters_entries : (fields : Fields) → (value : fields.Value) →
    Enters fields value (fields.filled value) (entries fields value)
  | .nil, _ => rfl
  | .field name presence content rest, (value, values) => by
    have hrest := enters_entries rest values
    rw [entries, Fields.filled]
    cases presence with
    | required => exact .write (.content rfl) hrest
    | repeated => exact .write (.content rfl) hrest
    | optional =>
      cases value with
      | none => exact .leave rfl hrest
      | some v => exact .write (.content rfl) hrest

/-- What is met of the fields of a written record makes the record again. -/
theorem Enters.complete : {fields : Fields} → {value : fields.Value} → {slots : fields.Slots} →
    {written : List (String × Tree)} → Enters fields value slots written →
    fields.complete slots = .ok value
  | .nil, _, _, _, _ => rfl
  | .field name presence content rest, (value, values), (slot, slots), written, h => by
    rcases h with ⟨habsent, rfl, hrest⟩ | ⟨t, others, -, rfl, -, hrest⟩
    · simp [Fields.complete, habsent, hrest.complete]
    · simp [Fields.complete, hrest.complete]

section Record

variable {passUnknown : Bool} {name key : String} {known : List String} {presence : Presence}
  {content : Shape} {rest : Fields} {xs ys bs' : List Char}

/-- Beside whatever was met of the first field, the others are read as before. -/
theorem reads_readField_rest (hfresh : name ∉ rest.names) (hkey : key ∈ rest.names)
    {slot : Option (presence.Wrap content.Value)} {slots slots' : rest.Slots}
    (h : Reads (readField passUnknown known rest key slots) xs slots' ys) :
    Reads (readField passUnknown known (.field name presence content rest) key (slot, slots)) xs
      (slot, slots') ys := by
  have hne : key ≠ name := by
    rintro rfl
    exact hfresh hkey
  rw [readField, if_neg hne]
  exact h.bind (reads_pure _ _)

/-- The first field is read behind its key, if it has not been met before. -/
theorem reads_readField_first
    (hread : ∀ v bs text tail, Blank bs → Spells (tree content v) text → Ended tail →
      Reads (read passUnknown content) (bs ++ (text ++ tail)) v tail)
    {value : presence.Wrap content.Value} {t : Tree} (ht : FieldTree (tree content) presence value t)
    (hspells : Spells t text) (hb : Blank bs) (hb' : Blank bs') (htail : Ended tail)
    (slots : rest.Slots) :
    Reads (readField passUnknown known (.field name presence content rest) name (none, slots))
      (bs ++ ':' :: (bs' ++ (text ++ tail))) (some value, slots) tail := by
  rw [readField, if_pos rfl]
  refine (reads_colon hb _).bind ?_
  refine (reads_readAs (opens_of_spells content) hread presence value ht hspells hb' htail).bind ?_
  exact reads_pure _ _

/-- A record is read whose fields are met one by one. -/
theorem reads_recordOf {σ : Type} {expected : String} {field : String → σ → Reader σ}
    {complete : σ → Except String α} {noSlots slots : σ} {inOrder : Reader α} {value : α}
    (hrounds : Rounds (fieldStep field) (true, noSlots) (xs ++ tail) slots ('}' :: tail))
    (hcomplete : complete slots = .ok value) (hb : Blank bs) :
    Reads (recordOf expected field complete noSlots inOrder) (bs ++ ('{' :: xs ++ tail)) value tail := by
  refine (reads_peekOr .endOfValue hb (by decide) _).bind ?_
  rw [if_pos rfl]
  refine (reads_advance 1 _).bind (reads_closedBy (hrounds.reads.bind ?_) (reads_endObject tail))
  simp only [hcomplete]
  exact reads_pure _ _

end Record

/-! ## Documents

The recursion on the shape, with the fields of a record. -/

mutual

/-- **A spelled document is read as itself, up to where it ends.** By recursion on the shape, together with the law for
the fields of a record. What comes behind must not go on with a number, in case the document is one. -/
theorem reads_spelled {fit : String → Bool} (passUnknown : Bool) : (shape : Shape) →
    shape.WellNamed fit → ∀ (value : shape.Value) bs text tail, Blank bs →
      Spells (tree shape value) text → Ended tail →
      Reads (read passUnknown shape) (bs ++ (text ++ tail)) value tail
  | .text, _, value, bs, text, tail, hb, hspells, _ => by
    rw [tree] at hspells
    rw [read]
    cases hspells with
    | text => exact reads_readString hb value tail
  | .number, _, value, bs, text, tail, hb, hspells, htail => by
    rw [tree] at hspells
    rw [read]
    cases hspells with
    | number => exact reads_readNumber hb value htail
  | .list item, hnamed, values, bs, text, tail, hb, hspells, _ => by
    rw [tree] at hspells
    rw [read]
    exact reads_listOf (opens_of_spells item)
      (fun v text tail => reads_spelled passUnknown item hnamed v [] text tail blank_nil) hspells hb tail
  | .record name fields, hnamed, value, bs, text, tail, hb, hspells, _ => by
    rw [tree] at hspells
    rw [read]
    cases hspells with
    | @object _ parts xs hparts hlayout =>
      -- These are all fields of the record, so what is met of them is embedded as it is.
      have hrounds := rounds_fieldStep passUnknown fields.names fields hnamed
        (readField passUnknown fields.names fields) id (fun _ _ _ _ _ _ h => h)
        (enters_entries fields value) tail true parts xs hparts hlayout
      exact reads_recordOf hrounds (fields.complete_filled value) hb

/-- The fields of a spelled record are met one by one. The fields are the last ones of a record; `embed`
puts what is met of them beside what was met of those before, and `readField'` reads a field of the whole
record, in the same way as it would be read if these were all. -/
theorem rounds_fieldStep {fit : String → Bool} (passUnknown : Bool) (known : List String) :
    (fields : Fields) → fields.WellNamed fit → ∀ {σ : Type} (readField' : String → σ → Reader σ)
      (embed : fields.Slots → σ),
      (∀ key ∈ fields.names, ∀ slots slots' xs ys,
        Reads (readField passUnknown known fields key slots) xs slots' ys →
        Reads (readField' key (embed slots)) xs (embed slots') ys) →
      ∀ {value : fields.Value} {slots : fields.Slots} {written : List (String × Tree)},
        Enters fields value slots written →
        ∀ tail first parts xs, SpellEntries written parts → Layout '}' first parts xs →
          Rounds (fieldStep readField') (first, embed fields.noSlots) (xs ++ tail) (embed slots)
            ('}' :: tail)
  | .nil, _, _, _, _, _, _, _, _, hwritten, tail, first, parts, xs, hspells, hlayout => by
    rw [Enters] at hwritten
    rw [hwritten] at hspells
    cases hspells with
    | nil => exact .last ((hlayout.reads_hasEntry_done tail).bind (reads_pure _ _))
  | .field name presence content rest, hnamed, _, readField', embed, hembed, (value, values),
      (slot, slots), written, hwritten, tail, first, parts, xs, hspells, hlayout => by
    obtain ⟨-, hfresh, hcontent, hrest⟩ := hnamed
    -- Beside whatever was met of this field, the others are read as before.
    have hothers : ∀ slot, ∀ key ∈ rest.names, ∀ slots slots' xs ys,
        Reads (readField passUnknown known rest key slots) xs slots' ys →
        Reads (readField' key (embed (slot, slots))) xs (embed (slot, slots')) ys := by
      intro slot key hkey slots slots' xs ys h
      exact hembed key (List.mem_cons_of_mem _ hkey) _ _ xs ys (reads_readField_rest hfresh hkey h)
    have hrounds : ∀ {others : List (String × Tree)}, Enters rest values slots others →
        ∀ first parts xs, SpellEntries others parts → Layout '}' first parts xs →
          Rounds (fieldStep readField') (first, embed (slot, rest.noSlots)) (xs ++ tail)
            (embed (slot, slots)) ('}' :: tail) := fun h =>
      rounds_fieldStep passUnknown known rest hrest readField'
        (fun slots => embed (slot, slots)) (hothers slot) h tail
    rcases hwritten with ⟨-, rfl, hwritten⟩ | ⟨t, others, htree, rfl, rfl, hwritten⟩
    · -- The field is left out, so its slot stays empty.
      exact hrounds hwritten first parts xs hspells hlayout
    · cases hspells with
      | @cons _ _ _ bs bs' part parts hb hb' hpart hparts =>
        obtain ⟨ys, hys, hlen, hhas⟩ := hlayout.reads_hasEntry ⟨_, rfl⟩ tail
        -- The key names this field, which has not been met before.
        have hended : Ended (ys ++ tail) := hys.ended (by decide) tail
        have hfield : Reads
            (readField passUnknown known (.field name presence content rest) name (none, rest.noSlots))
            (bs ++ ':' :: (bs' ++ (part ++ (ys ++ tail)))) (some value, rest.noSlots) (ys ++ tail) :=
          reads_readField_first (reads_spelled passUnknown content hcontent) htree hpart hb hb' hended _
        refine .next (hhas.bind ?_) ?_ (hrounds hwritten false parts ys hparts hys)
        · rw [if_pos rfl]
          simp only [List.append_assoc, List.cons_append]
          refine (reads_stringLiteral name _).bind ?_
          exact (hembed name List.mem_cons_self _ _ _ _ hfield).bind (reads_pure _ _)
        · simp only [List.length_append, List.length_cons] at hlen ⊢
          omega

end

/-! ## Whole texts

Around the value of a text may be blanks. The last lemma is the one that is used of everything that was written. -/

theorem reads_ending (hb : Blank bs) : Reads ending bs () [] := by
  rw [← List.append_nil bs]
  refine (reads_peekWord hb (Reader.stops_nil _)).bind ?_
  exact reads_pure _ _

/-- Blanks are all that a reader may leave of a text. -/
theorem runText_of_reads {r : Reader α} {text : String} {a : α} (h : Reads r text.toList a bs) (hb : Blank bs) :
    runText r text = .ok a := by
  have hwhole : Reads (place (whole r)) text.toList a [] :=
    reads_place (h.bind ((reads_ending hb).bind (reads_pure _ _)))
  rw [runText, hwhole.run]

section Whole

variable {fit : String → Bool} {text : String}

/-- **A text that spells a document is read as that document.** -/
theorem readText_spelled {shape : Shape} (h : shape.WellNamed fit) (passUnknown : Bool)
    (value : shape.Value) (hspells : Spells (tree shape value) text.toList) :
    readText passUnknown shape text = .ok value := by
  have hread := reads_spelled passUnknown shape h value [] text.toList [] blank_nil hspells ended_nil
  rw [List.nil_append, List.append_nil] at hread
  exact runText_of_reads hread blank_nil

/-- **A text that spells a document, or null, is read as an option.** -/
theorem runText_optionOf {shape : Shape} (h : shape.WellNamed fit) (passUnknown : Bool)
    (value : Option shape.Value) (hspells : Spells ((value.map (tree shape)).getD .null) text.toList) :
    runText (optionOf (read passUnknown shape)) text = .ok value := by
  refine runText_of_reads ?_ blank_nil
  generalize text.toList = chars at hspells ⊢
  cases value with
  | none =>
    cases hspells with
    | null => exact reads_optionOf_null _ blank_nil []
  | some v =>
    have hread := reads_spelled passUnknown shape h v [] chars [] blank_nil hspells ended_nil
    have hoption := reads_optionOf_some (opens_of_spells shape v chars hspells) hread blank_nil
    rw [List.nil_append, List.append_nil] at hoption
    exact hoption

/-- **A text that spells the fields of a record is read as the record**, whether what holds nothing is left
out or written as null. -/
theorem readText_enters {name : String} {fields : Fields} (h : fields.WellNamed fit) (passUnknown : Bool)
    {value : fields.Value} {slots : fields.Slots} {written : List (String × Tree)}
    (hwritten : Enters fields value slots written) (hspells : Spells (.object written) text.toList) :
    readText passUnknown (.record name fields) text = .ok value := by
  refine runText_of_reads ?_ blank_nil
  generalize text.toList = chars at hspells ⊢
  cases hspells with
  | @object _ parts xs hparts hlayout =>
    have hrounds := rounds_fieldStep passUnknown fields.names fields h
      (readField passUnknown fields.names fields) id (fun _ _ _ _ _ _ h => h) hwritten [] true parts xs
      hparts hlayout
    have hread : Reads (read passUnknown (.record name fields)) ([] ++ ('{' :: xs ++ [])) value [] := by
      rw [read]
      exact reads_recordOf hrounds hwritten.complete blank_nil
    rw [List.nil_append, List.append_nil] at hread
    exact hread

end Whole

/-- **A written text is read as the document it was made of**, whatever the shape, as long as no record has two
fields of one name; and whether or not unknown fields are passed over, for none is written. -/
theorem readText_writeText {fit : String → Bool} {shape : Shape} (h : shape.WellNamed fit)
    (passUnknown : Bool) (value : shape.Value) :
    readText passUnknown shape (writeText shape value) = .ok value :=
  readText_spelled h passUnknown value (spells_writeText shape value)

end Gamebook.Json
