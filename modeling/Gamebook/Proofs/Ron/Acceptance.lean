import Gamebook.Proofs.Ron.RoundTrip

/-!
# What was written is RON

Before a text is read by shape it is passed over as RON of any kind, with a limit on how deep its values
nest. `reads_skip_write` says that a written document is passed over, if the limit leaves as many levels
as its shape takes (`Shape.height`).

The reader that passes over values does not know what to expect, and has to tell what comes from how it begins. A
quote begins a string, a digit a number, a bracket a list; a letter may begin a name, a word such as that of an
option, or a raw string; and behind a parenthesis it looks ahead to tell a group with names from one without. For each
form that is written it is shown which way the reader goes (`Continues`), and then that this way passes the form. A
record without any fields is written as a group of nothing, and taken for one without names; it is passed all the
same.

Levels are counted down on the way in. The content of an option takes one level more, and what stands in a list or a
record two, since the reader spends one on the value and one on what is inside. The limit is the same for all texts,
and a shape is much lower; the levels a document takes depend on its shape alone and not on how long its lists are.

Reading with and without the word of options left out comes to the same on what was written, so that is a parameter
here too.
-/

namespace Gamebook

/-- The levels of nesting that a field takes around its content. -/
def Presence.height : Presence → Nat
  | .required => 0
  | .repeated => 2
  | .optional => 1

mutual

/-- The levels of nesting that a written document of a shape takes at most. -/
def Shape.height : Shape → Nat
  | .text => 0
  | .number => 0
  | .list item => item.height + 2
  | .record _ fields => fields.height + 2

/-- The levels of nesting that a written field takes at most. -/
def Fields.height : Fields → Nat
  | .nil => 0
  | .field _ presence content rest => max (content.height + presence.height) rest.height

end

end Gamebook

namespace Gamebook.Ron

open Gamebook.Text
open Text.Reader (Reads Refuses Rounds Stops Continues continues_self reads_pure reads_accept reads_accept_not
  reads_advance)

variable {c : Char} {cs ys : List Char}

/-! ## Values by their first character

The words that a value may begin with are tried one after the other before its first character is looked at. For a
value that was written, none of them is there. -/

theorem refuses_identifier (h : isIdentifierStart c = false) : Refuses identifier (c :: cs) := by
  intro p
  unfold identifier
  split
  · rename_i heq
    exact absurd heq (by simp)
  · rename_i heq
    obtain ⟨rfl, -⟩ := List.cons.inj heq
    exact absurd h (by decide)
  · rename_i heq
    obtain ⟨rfl, -⟩ := List.cons.inj heq
    exact absurd h (by decide)
  · rename_i heq
    obtain ⟨rfl, -⟩ := List.cons.inj heq
    exact absurd h (by decide)
  · rename_i heq
    obtain ⟨rfl, -⟩ := List.cons.inj heq
    rw [if_neg (by simp [h])]
    split
    · exact ⟨_, _, rfl⟩
    · exact ⟨_, _, rfl⟩

theorem reads_acceptWord {word : String} {ws : List Char} (hw : word.toList = ws)
    (hy : Stops isIdentifierRest ys) : Reads (acceptWord word) (ws ++ ys) true ys := by
  intro p
  refine ⟨p.afterAll ws, ?_⟩
  have hbehind : Option.any isIdentifierRest ys.head? = false := by
    cases ys with
    | nil => rfl
    | cons d ds => simpa using hy
  simp [acceptWord, hw, hbehind, Cursor.advance]

/-- No word comes before a character that begins a value. -/
theorem opensValue_ne (hc : opensValue c = true) {w : Char} (hw : opensValue w = false) :
    ∀ d ∈ (c :: cs).head?, w ≠ d := by
  intro d hd
  obtain rfl : c = d := by simpa using hd
  rintro rfl
  exact absurd hc (by simp [hw])

theorem not_isIdentifierStart_of_isDigit (h : c.isDigit = true) : isIdentifierStart c = false := by
  simp only [Char.isDigit, Char.reduceVal, ge_iff_le, UInt32.le_iff_toNat_le, UInt32.reduceToNat,
    Bool.and_eq_true, decide_eq_true_eq] at h
  unfold isIdentifierStart Char.isAlpha Char.isUpper Char.isLower
  simp only [Char.reduceVal, ge_iff_le, UInt32.le_iff_toNat_le, UInt32.reduceToNat,
    Bool.or_eq_false_iff, decide_eq_false_iff_not, beq_eq_false_iff_ne, Bool.decide_and,
    Bool.and_eq_false_iff]
  refine ⟨⟨?_, ?_⟩, ?_⟩
  · omega
  · omega
  · rintro rfl
    exact absurd h (by decide)

theorem not_isIdentifierStart_of_opensValue (hc : opensValue c = true) :
    isIdentifierStart c = false := by
  simp only [opensValue, Bool.or_eq_true, beq_iff_eq] at hc
  rcases hc with ((rfl | rfl) | rfl) | hdigit
  · decide
  · decide
  · decide
  · exact not_isIdentifierStart_of_isDigit hdigit

/-- A value is told by its first character, unless it is the unit. What was written begins with one of few
characters, and none of them could begin a word. -/
theorem continues_skipAny (implicitSome : Bool) (inside : Inside) (hc : opensValue c = true)
    (hunit : c = '(' → ∀ d ∈ cs.head?, d ≠ ')') :
    Continues (skipAny implicitSome inside) (c :: cs) (skipUnnamed inside) (c :: cs) := by
  have hunit' : "()".toList.isPrefixOf (c :: cs) = false := by
    by_cases hopen : c = '('
    · cases cs with
      | nil => simp [hopen, List.isPrefixOf]
      | cons d ds => simp [List.isPrefixOf, Ne.symm (hunit hopen d rfl)]
    · simp [List.isPrefixOf, Ne.symm hopen]
  refine (reads_acceptAny_none (fun word hword => ?_)).continues ?_
  · simp only [List.mem_cons, List.not_mem_nil, or_false] at hword
    rcases hword with rfl | rfl
    · exact reads_acceptWord_other (w := 't') rfl (opensValue_ne hc (by decide))
    · exact reads_acceptWord_other (w := 'f') rfl (opensValue_ne hc (by decide))
  refine (reads_acceptWord_other (w := 'S') rfl (opensValue_ne hc (by decide))).lookAhead.continues ?_
  refine (reads_acceptWord_other (w := 'N') rfl (opensValue_ne hc (by decide))).continues ?_
  refine (reads_accept_not hunit').continues ?_
  refine (reads_acceptAny_none (fun word hword => ?_)).continues ?_
  · simp only [List.mem_cons, List.not_mem_nil, or_false] at hword
    rcases hword with rfl | rfl | rfl
    · exact reads_acceptWord_other (w := 'i') rfl (opensValue_ne hc (by decide))
    · exact reads_acceptWord_other (w := '-') rfl (opensValue_ne hc (by decide))
    · exact reads_acceptWord_other (w := 'N') rfl (opensValue_ne hc (by decide))
  have hname : Refuses identifier (c :: cs) := refuses_identifier (not_isIdentifierStart_of_opensValue hc)
  exact hname.optional.continues (continues_self _ _)

/-! ## Lists, records and options

With `levels` to spare, and for each form: which reader goes on behind the opening character, and with how many
levels. -/

/-- Scalars need no level to be opened, so the levels left do not matter to them. -/
theorem skipValue_eq_skipAny (implicitSome : Bool) (levels : Nat) :
    ∃ inside, skipValue implicitSome levels = skipAny implicitSome inside := by
  match levels with
  | 0 => exact ⟨_, skipValue.eq_1 _⟩
  | 1 => exact ⟨_, skipValue.eq_2 _⟩
  | levels + 2 => exact ⟨_, skipValue.eq_3 _ _⟩

/-- The content of an option takes one level. -/
theorem skipValue_succ (implicitSome : Bool) (levels : Nat) :
    ∃ inside, skipValue implicitSome (levels + 1) = skipAny implicitSome inside ∧
      inside.content = skipValue implicitSome levels := by
  cases levels with
  | zero => exact ⟨_, skipValue.eq_2 _, rfl⟩
  | succ levels => exact ⟨_, skipValue.eq_3 _ _, rfl⟩

theorem continues_skip_string (implicitSome : Bool) (levels : Nat) (cs : List Char) :
    Continues (skipValue implicitSome levels) ('"' :: cs) (discard stringLiteral) ('"' :: cs) := by
  obtain ⟨inside, heq⟩ := skipValue_eq_skipAny implicitSome levels
  have hunnamed : Continues (skipUnnamed inside) ('"' :: cs) (discard stringLiteral) ('"' :: cs) := by
    refine (reads_peekOrEnd _ _).continues ?_
    rw [if_neg (by decide), if_neg (by decide), if_neg (by decide), if_neg (by decide),
      if_neg (by decide), if_pos (by decide)]
    exact continues_self _ _
  rw [heq]
  exact (continues_skipAny implicitSome inside (by decide) (fun h => absurd h (by decide))).trans hunnamed

theorem reads_skip_string (implicitSome : Bool) (levels : Nat) (s : String) (ys : List Char) :
    Reads (skipValue implicitSome levels) (writeString s ++ ys) () ys :=
  (continues_skip_string implicitSome levels _).reads (reads_stringLiteral s ys).discard

theorem reads_skip_number (implicitSome : Bool) (levels : Nat) {n : Nat} (hn : n ≤ Word.max64)
    (hy : Ended ys) : Reads (skipValue implicitSome levels) (Nat.toDigits 10 n ++ ys) () ys := by
  obtain ⟨inside, heq⟩ := skipValue_eq_skipAny implicitSome levels
  obtain ⟨d, ds, hds, hd⟩ := toDigits_eq_cons n
  have hnumber := reads_skipNumber hn hy
  have hne : ∀ e, e.isDigit = false → d ≠ e := by
    rintro e he rfl
    exact absurd hd (by simp [he])
  rw [heq]
  rw [hds] at hnumber ⊢
  refine (continues_skipAny implicitSome inside (by simp [opensValue, hd]) ?_).reads ?_
  · exact fun h => absurd h (hne '(' (by decide))
  refine (reads_peekOrEnd _ _).bind ?_
  rw [if_neg (hne '(' (by decide)), if_neg (hne '[' (by decide)), if_neg (hne '{' (by decide)),
    if_pos (by simp [hd])]
  exact hnumber

/-- A list takes two levels more than its items. -/
theorem continues_skip_list (implicitSome : Bool) (levels : Nat) (cs : List Char) :
    Continues (skipValue implicitSome (levels + 2)) ('[' :: cs)
      (skipElements ']' (skipValue implicitSome levels)) cs := by
  rw [skipValue]
  refine (continues_skipAny implicitSome _ (by decide) (fun h => absurd h (by decide))).trans ?_
  refine (reads_peekOrEnd _ _).continues ?_
  rw [if_neg (by decide), if_pos rfl]
  refine (reads_advance 1 _).continues ?_
  rw [if_pos rfl]
  exact continues_self _ _

theorem reads_skip_items (implicitSome : Bool) {levels : Nat} (depth : Nat)
    {entries : List (List Char)} (hopens : ∀ e ∈ entries, Opens ']' e)
    (hread : ∀ e ∈ entries, ∀ ys, Reads (skipValue implicitSome levels) (e ++ ',' :: ys) () (',' :: ys))
    (ys : List Char) :
    Reads (skipValue implicitSome (levels + 2)) (writeItems depth entries ++ ys) () ys := by
  obtain ⟨xs, heq, hlayout⟩ := writeItems_layout depth hopens ys
  rw [heq]
  refine (continues_skip_list implicitSome levels xs).reads ?_
  exact (rounds_elementStep (by decide) hread xs hlayout).reads.bind (reads_advance 1 _)

/-- An option takes one level more than its content. -/
theorem continues_skip_option (implicitSome : Bool) (levels : Nat) {cs : List Char}
    (hcs : Stops isIdentifierRest cs) :
    Continues (skipValue implicitSome (levels + 1)) ("Some".toList ++ cs)
      (discard (optionOf implicitSome (skipValue implicitSome levels))) ("Some".toList ++ cs) := by
  obtain ⟨inside, heq, hcontent⟩ := skipValue_succ implicitSome levels
  have hword : Reads (acceptWord "Some") ("Some".toList ++ cs) true cs := reads_acceptWord rfl hcs
  rw [heq]
  refine (reads_acceptAny_none (fun word hword => ?_)).continues ?_
  · simp only [List.mem_cons, List.not_mem_nil, or_false] at hword
    rcases hword with rfl | rfl
    · exact reads_acceptWord_other (w := 't') rfl (by simp)
    · exact reads_acceptWord_other (w := 'f') rfl (by simp)
  refine hword.lookAhead.continues ?_
  rw [← hcontent]
  exact continues_self _ _

/-- A written option is passed over, if its content is. -/
theorem reads_skip_option (implicitSome : Bool) {levels : Nat} {written : List Char}
    (hstart : ∃ c cs, written = c :: cs ∧ opensBlank c = false)
    (hread : ∀ ys, Ended ys → Reads (skipValue implicitSome levels) (written ++ ys) () ys)
    (ys : List Char) :
    Reads (skipValue implicitSome (levels + 1)) ("Some(".toList ++ written ++ [')'] ++ ys) () ys := by
  have hsplit : "Some(".toList ++ written ++ [')'] ++ ys =
      "Some".toList ++ '(' :: (written ++ [')'] ++ ys) := by simp
  have hoption := (reads_optionOf implicitSome hstart hread ys).discard
  rw [hsplit] at hoption ⊢
  refine (continues_skip_option implicitSome levels ?_).reads hoption
  simp [isIdentifierRest, isIdentifierStart]

/-- Before a record of no entry a group without names is announced. -/
theorem reads_groupAhead_tuple (h : Layout ')' ys [] cs) : Reads groupAhead ('(' :: cs) .tuple ('(' :: cs) := by
  cases h with
  | @done bs hbs =>
    refine @Reads.lookAhead _ _ _ (')' :: ys) _ _ ?_
    refine (reads_accept_char rfl _).bind ?_
    refine (reads_skipBlanks hbs (by simp [opensBlank, isSpace])).bind ?_
    exact (refuses_identifier (by decide)).optional.bind (reads_pure _ _)

/-- Before a name and a colon a group with names is announced. -/
theorem reads_groupAhead_name {name : String} {bs : List Char} (hname : isPlainName name = true)
    (hbs : ∀ c ∈ bs, isSpace c = true) (cs : List Char) :
    Reads groupAhead ('(' :: (bs ++ (name.toList ++ ':' :: cs))) .record
      ('(' :: (bs ++ (name.toList ++ ':' :: cs))) := by
  have hstops : Stops opensBlank (name.toList ++ ':' :: cs) := by
    obtain ⟨c, cs, hchars, hstart, -⟩ := isPlainName_iff.mp hname
    rw [hchars, List.cons_append, Reader.stops_cons]
    exact (not_blank_of_isIdentifierStart hstart).1
  refine @Reads.lookAhead _ _ _ (':' :: cs) _ _ ?_
  refine (reads_accept_char rfl _).bind ?_
  refine (reads_skipBlanks hbs hstops).bind ?_
  refine (reads_identifier hname _).optional.bind ?_
  refine (reads_skipBlanks_none (by simp [opensBlank, isSpace])).bind ?_
  refine (reads_peekOrEnd _ _).bind ?_
  rw [if_pos rfl]
  exact reads_pure _ _

theorem reads_groupAhead_record {name : String} {content : List Char} {entries : List (List Char)}
    (hname : isPlainName name = true) (h : Layout ')' ys (writeEntry name content :: entries) cs) :
    Reads groupAhead ('(' :: cs) .record ('(' :: cs) := by
  cases h with
  | @entry bs _ _ zs hbs _ _ =>
    have hsplit : writeEntry name content ++ ',' :: zs =
        name.toList ++ ':' :: (' ' :: (content ++ ',' :: zs)) := by
      simp [writeEntry]
    rw [hsplit]
    exact reads_groupAhead_name hname hbs _

theorem continues_skip_parentheses (implicitSome : Bool) (levels : Nat) (hcs : ∀ d ∈ cs.head?, d ≠ ')') :
    Continues (skipValue implicitSome (levels + 2)) ('(' :: cs)
      (skipParentheses ⟨true, skipValue implicitSome (levels + 1), discard identifier,
        skipValue implicitSome levels⟩) ('(' :: cs) := by
  rw [skipValue]
  refine (continues_skipAny implicitSome _ (by decide) (fun _ => hcs)).trans ?_
  refine (reads_peekOrEnd _ _).continues ?_
  rw [if_pos rfl]
  exact continues_self _ _

/-- A group without names takes two levels more than its elements. -/
theorem continues_skip_tuple (implicitSome : Bool) (levels : Nat) (hcs : ∀ d ∈ cs.head?, d ≠ ')')
    (hgroup : Reads groupAhead ('(' :: cs) .tuple ('(' :: cs)) :
    Continues (skipValue implicitSome (levels + 2)) ('(' :: cs)
      (skipElements ')' (skipValue implicitSome levels)) cs := by
  refine (continues_skip_parentheses implicitSome levels hcs).trans ?_
  refine hgroup.continues ((reads_advance 1 _).continues ?_)
  rw [if_pos rfl]
  exact continues_self _ _

/-- A group with names takes two levels more than what is named. -/
theorem continues_skip_record (implicitSome : Bool) (levels : Nat) (hcs : ∀ d ∈ cs.head?, d ≠ ')')
    (hgroup : Reads groupAhead ('(' :: cs) .record ('(' :: cs)) :
    Continues (skipValue implicitSome (levels + 2)) ('(' :: cs)
      (skipElements ')' do
        discard identifier
        colon
        skipValue implicitSome levels) cs := by
  refine (continues_skip_parentheses implicitSome levels hcs).trans ?_
  refine hgroup.continues ((reads_advance 1 _).continues ?_)
  rw [if_pos rfl]
  exact continues_self _ _

/-- A written record is passed over, if its entries are. -/
theorem reads_skip_record (implicitSome : Bool) {levels : Nat} (depth : Nat)
    {entries : List (List Char)}
    (hnamed : ∀ e ∈ entries, ∃ name content, isPlainName name = true ∧ e = writeEntry name content)
    (hread : ∀ e ∈ entries, ∀ ys, Reads (do
      discard identifier
      colon
      skipValue implicitSome levels) (e ++ ',' :: ys) () (',' :: ys))
    (ys : List Char) :
    Reads (skipValue implicitSome (levels + 2)) (writeEntries '(' ')' depth entries ++ ys) () ys := by
  have hopens : ∀ e ∈ entries, Opens ')' e := by
    intro e he
    obtain ⟨name, content, hname, rfl⟩ := hnamed e he
    exact writeEntry_opens hname content
  obtain ⟨xs, heq, hlayout⟩ := writeEntries_layout '(' depth hopens ys
  rw [heq]
  cases entries with
  | nil =>
    refine (continues_skip_tuple implicitSome levels (by simp) (reads_groupAhead_tuple hlayout)).reads ?_
    exact (rounds_elementStep (by decide) (by simp) _ hlayout).reads.bind (reads_advance 1 _)
  | cons e es =>
    obtain ⟨name, content, hname, rfl⟩ := hnamed e List.mem_cons_self
    refine (continues_skip_record implicitSome levels (by simp)
      (reads_groupAhead_record hname hlayout)).reads ?_
    exact (rounds_elementStep (by decide) hread _ hlayout).reads.bind (reads_advance 1 _)

/-- A written field is passed over, if what stands in it is. -/
theorem reads_skip_writeAs (implicitSome : Bool) {α : Type} {written : Nat → α → List Char} {need : Nat}
    (hopens : ∀ depth v, Opens ']' (written depth v))
    (hread : ∀ left, need ≤ left → ∀ depth v ys, Ended ys →
      Reads (skipValue implicitSome left) (written depth v ++ ys) () ys)
    {levels depth : Nat} {presence : Presence} (hlevels : need + presence.height ≤ levels)
    {value : presence.Wrap α} {text : List Char}
    (htext : writeAs depth written presence value = some text) (hys : Ended ys) :
    Reads (skipValue implicitSome levels) (text ++ ys) () ys := by
  cases presence with
  | required =>
    obtain rfl : written depth value = text := by simpa [writeAs] using htext
    exact hread levels hlevels depth value ys hys
  | repeated =>
    obtain rfl : writeItems depth (List.map (written (depth + 1)) value) = text := by
      simpa [writeAs] using htext
    obtain ⟨left, rfl⟩ := Nat.exists_eq_add_of_le' (Nat.le_of_add_left_le hlevels)
    refine reads_skip_items implicitSome depth ?_ ?_ _
    · intro e he
      obtain ⟨v, -, rfl⟩ := List.mem_map.mp he
      exact hopens (depth + 1) v
    · intro e he zs
      obtain ⟨v, -, rfl⟩ := List.mem_map.mp he
      exact hread left (Nat.le_of_add_le_add_right hlevels) (depth + 1) v _ ended_comma
  | optional =>
    cases value with
    | none => simp [writeAs] at htext
    | some v =>
      obtain rfl : "Some(".toList ++ written depth v ++ [')'] = text := by
        simpa [writeAs] using htext
      obtain ⟨left, rfl⟩ := Nat.exists_eq_add_of_le' (Nat.le_of_add_left_le hlevels)
      obtain ⟨c, cs, hcs, hc, -⟩ := hopens depth v
      exact reads_skip_option implicitSome ⟨c, cs, hcs, hc⟩
        (hread left (Nat.le_of_add_le_add_right hlevels) depth v) _

/-! ## Documents

The recursion on the shape. A field costs what its content costs and what its presence adds, and a record the most
that one of its fields does. -/

mutual

/-- **A written document is passed over**, if there are as many levels as its shape takes. By recursion on the shape,
together with the fields of its records. -/
theorem reads_skip_write (implicitSome : Bool) : (shape : Shape) → shape.WellNamed isPlainName →
    ∀ levels, shape.height ≤ levels → ∀ depth (value : shape.Value) ys, Ended ys →
      Reads (skipValue implicitSome levels) (write shape depth value ++ ys) () ys
  | .text, _, levels, _, depth, value, ys, _ => by
    rw [write]
    exact reads_skip_string implicitSome levels value ys
  | .number, _, levels, _, depth, value, ys, hys => by
    have hlt := UInt32.toNat_lt value
    rw [write]
    refine reads_skip_number implicitSome levels ?_ hys
    unfold Word.max64
    omega
  | .list item, hnamed, levels, hlevels, depth, values, ys, _ => by
    rw [Shape.height] at hlevels
    obtain ⟨left, rfl⟩ := Nat.exists_eq_add_of_le' (Nat.le_of_add_left_le hlevels)
    rw [write]
    refine reads_skip_items implicitSome depth ?_ ?_ ys
    · intro e he
      obtain ⟨v, -, rfl⟩ := List.mem_map.mp he
      exact write_opens item (depth + 1) v
    · intro e he zs
      obtain ⟨v, -, rfl⟩ := List.mem_map.mp he
      exact reads_skip_write implicitSome item hnamed left (by omega) (depth + 1) v _ ended_comma
  | .record name fields, hnamed, levels, hlevels, depth, value, ys, _ => by
    rw [Shape.height] at hlevels
    obtain ⟨left, rfl⟩ := Nat.exists_eq_add_of_le' (Nat.le_of_add_left_le hlevels)
    rw [write]
    exact reads_skip_record implicitSome depth (mem_writeFields fields hnamed (depth + 1) value)
      (reads_skip_writeFields implicitSome fields hnamed left (by omega) (depth + 1) value) ys

/-- The written fields of a record are passed over. -/
theorem reads_skip_writeFields (implicitSome : Bool) : (fields : Fields) →
    fields.WellNamed isPlainName → ∀ levels, fields.height ≤ levels →
      ∀ depth (value : fields.Value), ∀ e ∈ writeFields fields depth value, ∀ ys, Reads (do
        discard identifier
        colon
        skipValue implicitSome levels) (e ++ ',' :: ys) () (',' :: ys)
  | .nil, _, _, _, _, _, e, he, _ => by simp [writeFields] at he
  | .field name presence content rest, hnamed, levels, hlevels, depth, (value, values), e, he, ys => by
    obtain ⟨hfit, -, hcontent, hrest⟩ := hnamed
    rw [Fields.height, Nat.max_le] at hlevels
    rw [writeFields] at he
    rcases List.mem_append.mp he with he | he
    · rw [Option.mem_toList, Option.map_eq_some_iff] at he
      obtain ⟨text, htext, rfl⟩ := he
      have hsplit : writeEntry name text ++ ',' :: ys =
          name.toList ++ ':' :: ([' '] ++ (text ++ ',' :: ys)) := by
        simp [writeEntry]
      rw [hsplit]
      refine (reads_identifier hfit _).discard.bind ?_
      refine (reads_colon isSpace_of_mem_space (writeAs_not_blank (write_opens content) htext _)).bind ?_
      exact reads_skip_writeAs implicitSome (write_opens content)
        (reads_skip_write implicitSome content hcontent) hlevels.1 htext ended_comma
    · exact reads_skip_writeFields implicitSome rest hrest levels hlevels.2 depth values e he ys

end

/-- **A written text is RON**, if the limit of nesting leaves room for its shape. The shapes of adventures do; this is
decided by computing their height. -/
theorem run_skipText_writeText {shape : Shape} (h : shape.WellNamed isPlainName)
    (hheight : shape.height ≤ levelLimit) (value : shape.Value) :
    skipText.run (writeText shape value) = .ok () := by
  refine @Reads.run _ _ [] _ _ _ ?_
  rw [writeText, String.toList_ofList]
  have hskip := reads_skip_write false shape h levelLimit hheight 0 value [] ended_nil
  rw [List.append_nil] at hskip
  exact (reads_opening shape value).bind (hskip.bind reads_ending)

end Gamebook.Ron
