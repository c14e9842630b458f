import Gamebook.Proofs.Json.Words

/-!
# Texts that spell a value

`Spells t text` says that `text` is a way to write the tree `t`: strings and numbers in their one form,
and between the words any blanks. Lists and objects share a `Layout`: parts with blanks and commas before
them, up to the closing character. Nothing else of how a tree was written matters to a reader. The indented
form is one of the ways (`spells_pretty`), and so is the form on one line (`spells_compact`).

Records are written on many lines and views on one, by two printers. What is proved of reading is proved of every
spelling, once, and each printer only has to be shown to spell the tree. A layout takes the comma with the part behind
it, since that is how it is read: a reader that has one element asks whether there is a further one, and passes the
comma on the way. So what is left between two rounds of a reader is again the inside of a layout, of fewer parts, in
which the next part is not the first.

The last section is about the two readers of punctuation, of lists and of objects. Before a layout without parts they
say that nothing comes, and before one with parts that something does, and stand at the beginning of the part. A
number may be the last thing in a part, so it is noted that behind a part no number goes on (`Layout.ended`).
-/

namespace Gamebook.Json

open Gamebook.Text
open Text.Reader (Reads Rounds Stops reads_pure reads_advance)

/-! ## Spelling

The three kinds of texts are defined together, as trees, items and entries are. A layout is told apart from what its
parts mean: it is about texts only, and the same for lists and objects. -/

/-- Characters that are all blank. -/
def Blank (bs : List Char) : Prop := ∀ c ∈ bs, isSpace c = true

/-- What stands before a part: blanks, and before any part but the first a comma. -/
inductive Before : Bool → List Char → Prop
  | first {bs : List Char} : Blank bs → Before true bs
  | next {bs bs' : List Char} : Blank bs → Blank bs' → Before false (bs ++ ',' :: bs')

/-- The text behind an opening character, up to the closing one. The flag tells whether the next part is
the first. -/
inductive Layout (close : Char) : Bool → List (List Char) → List Char → Prop
  | done {first : Bool} {bs : List Char} : Blank bs → Layout close first [] (bs ++ [close])
  | part {first : Bool} {bs part : List Char} {parts : List (List Char)} {ys : List Char} :
      Before first bs → Layout close false parts ys →
      Layout close first (part :: parts) (bs ++ (part ++ ys))

mutual

/-- Texts that write a tree. -/
inductive Spells : Tree → List Char → Prop
  | null : Spells .null "null".toList
  | true : Spells (.boolean true) "true".toList
  | false : Spells (.boolean false) "false".toList
  | number (n : Nat) : Spells (.number n) (Nat.toDigits 10 n)
  | text (s : String) : Spells (.text s) (writeString s)
  | list {items : List Tree} {parts : List (List Char)} {xs : List Char} :
      SpellItems items parts → Layout ']' true parts xs → Spells (.list items) ('[' :: xs)
  | object {entries : List (String × Tree)} {parts : List (List Char)} {xs : List Char} :
      SpellEntries entries parts → Layout '}' true parts xs → Spells (.object entries) ('{' :: xs)

/-- Texts that write the items of a list. -/
inductive SpellItems : List Tree → List (List Char) → Prop
  | nil : SpellItems [] []
  | cons {item : Tree} {items : List Tree} {part : List Char} {parts : List (List Char)} :
      Spells item part → SpellItems items parts → SpellItems (item :: items) (part :: parts)

/-- Texts that write the entries of an object. -/
inductive SpellEntries : List (String × Tree) → List (List Char) → Prop
  | nil : SpellEntries [] []
  | cons {name : String} {value : Tree} {entries : List (String × Tree)} {bs bs' part : List Char}
      {parts : List (List Char)} :
      Blank bs → Blank bs' → Spells value part → SpellEntries entries parts →
      SpellEntries ((name, value) :: entries)
        ((writeString name ++ (bs ++ ':' :: (bs' ++ part))) :: parts)

end

/-! ## The indented form

The printer writes commas between parts, and blanks before and behind. Seen from the parts, all commas but the first
missing one stand before a part. -/

theorem blank_nil : Blank [] := by simp [Blank]

theorem Blank.append {bs bs' : List Char} (hb : Blank bs) (hb' : Blank bs') : Blank (bs ++ bs') :=
  fun c hc => (List.mem_append.mp hc).elim (hb c) (hb' c)

theorem blank_space : Blank [' '] := by
  intro c hc
  rw [List.mem_singleton.mp hc]
  decide

theorem blank_indentation (depth : Nat) : Blank (indentation depth) := by
  intro c hc
  rw [List.eq_of_mem_replicate hc]
  decide

theorem blank_newline (depth : Nat) : Blank ('\n' :: indentation depth) := by
  intro c hc
  rcases List.mem_cons.mp hc with rfl | hc
  · decide
  · exact blank_indentation depth c hc

/-- A comma before each part but the first. -/
theorem separated_cons (part : List Char) (parts : List (List Char)) :
    separated (part :: parts) = part ++ parts.flatMap fun next => ',' :: next := by
  induction parts generalizing part with
  | nil => simp [separated]
  | cons next parts ih =>
    rw [separated, ih next, List.flatMap_cons, List.cons_append]
    simp

section Block

variable {close : Char} {lead final : List Char}

/-- Parts behind the first one, each behind a comma. -/
theorem layout_flatMap (hlead : Blank lead) (hfinal : Blank final) (parts : List (List Char)) :
    Layout close false parts
      ((parts.flatMap fun part => ',' :: (lead ++ part)) ++ (final ++ [close])) := by
  induction parts with
  | nil => exact .done hfinal
  | cons part parts ih =>
    have h := @Layout.part close _ _ part _ _ (.next blank_nil hlead) ih
    simpa [List.append_assoc] using h

theorem layout_separated (hlead : Blank lead) (hfinal : Blank final) (parts : List (List Char)) :
    Layout close true parts
      (separated (parts.map fun part => lead ++ part) ++ (final ++ [close])) := by
  cases parts with
  | nil => exact .done hfinal
  | cons part parts =>
    have h := @Layout.part close _ _ part _ _ (.first hlead) (layout_flatMap hlead hfinal parts)
    rw [List.map_cons, separated_cons, List.flatMap_map]
    simpa [List.append_assoc] using h

end Block

/-- A block of parts is laid out. -/
theorem writeBlock_layout (openChar close : Char) (depth : Nat) (parts : List (List Char)) :
    ∃ xs, writeBlock openChar close depth parts = openChar :: xs ∧ Layout close true parts xs := by
  cases parts with
  | nil => exact ⟨[close], rfl, .done blank_nil⟩
  | cons part parts =>
    refine ⟨_, rfl, ?_⟩
    exact layout_separated (blank_newline (depth + 1)) (blank_newline depth) (part :: parts)

mutual

/-- **The indented form of a tree spells it**, at whatever depth it begins. By recursion on the tree, together with the
items of its lists and the entries of its objects. -/
theorem spells_pretty : ∀ (t : Tree) (depth : Nat), Spells t (t.pretty depth)
  | .null, _ => .null
  | .boolean true, _ => .true
  | .boolean false, _ => .false
  | .number n, _ => .number n
  | .text s, _ => .text s
  | .list items, depth => by
    obtain ⟨xs, heq, hlayout⟩ := writeBlock_layout '[' ']' depth (prettyItems (depth + 1) items)
    rw [Tree.pretty, heq]
    exact .list (spellItems_pretty items (depth + 1)) hlayout
  | .object entries, depth => by
    obtain ⟨xs, heq, hlayout⟩ := writeBlock_layout '{' '}' depth (prettyEntries (depth + 1) entries)
    rw [Tree.pretty, heq]
    exact .object (spellEntries_pretty entries (depth + 1)) hlayout

theorem spellItems_pretty : ∀ (items : List Tree) (depth : Nat),
    SpellItems items (prettyItems depth items)
  | [], _ => .nil
  | item :: items, depth => .cons (spells_pretty item depth) (spellItems_pretty items depth)

theorem spellEntries_pretty : ∀ (entries : List (String × Tree)) (depth : Nat),
    SpellEntries entries (prettyEntries depth entries)
  | [], _ => .nil
  | (_, value) :: entries, depth =>
    .cons blank_nil blank_space (spells_pretty value depth) (spellEntries_pretty entries depth)

end

/-! ## The form on one line

Without any blanks, this is the same with nothing before the parts. -/

theorem separated_layout (close : Char) (parts : List (List Char)) :
    Layout close true parts (separated parts ++ [close]) := by
  have h := @layout_separated close [] [] blank_nil blank_nil parts
  simpa using h

mutual

/-- The form of a tree on one line spells it. -/
theorem spells_compact : ∀ t : Tree, Spells t t.compact
  | .null => .null
  | .boolean true => .true
  | .boolean false => .false
  | .number n => .number n
  | .text s => .text s
  | .list items => .list (spellItems_compact items) (separated_layout ']' _)
  | .object entries => .object (spellEntries_compact entries) (separated_layout '}' _)

theorem spellItems_compact : ∀ items : List Tree, SpellItems items (compactItems items)
  | [] => .nil
  | item :: items => .cons (spells_compact item) (spellItems_compact items)

theorem spellEntries_compact : ∀ entries : List (String × Tree),
    SpellEntries entries (compactEntries entries)
  | [] => .nil
  | (_, value) :: entries =>
    .cons blank_nil blank_nil (spells_compact value) (spellEntries_compact entries)

end

theorem spells_writeText (shape : Shape) (value : shape.Value) :
    Spells (tree shape value) (writeText shape value).toList := by
  rw [writeText, String.toList_ofList]
  exact spells_pretty _ 0

theorem spells_compactText (t : Tree) : Spells t t.compactText.toList := by
  rw [Tree.compactText, String.toList_ofList]
  exact spells_compact t

/-! ## Going through a layout

The two readers of punctuation are alike but for what they expect behind it: an element may begin with anything, an
entry with a quote only. -/

section Layout

variable {close : Char} {first : Bool} {part tail xs : List Char} {parts : List (List Char)}

/-- With a blank no number goes on. -/
theorem not_goesOn_of_isSpace {c : Char} (hc : isSpace c = true) : goesOn c = false := by
  simp only [isSpace, Bool.or_eq_true, beq_iff_eq] at hc
  rcases hc with ((rfl | rfl) | rfl) | rfl <;> decide

theorem Blank.ended {bs : List Char} (hb : Blank bs) : Ended bs :=
  fun c hc => not_goesOn_of_isSpace (hb c (List.mem_of_mem_head? hc))

/-- Behind a part no number goes on. -/
theorem Layout.ended (h : Layout close false parts xs) (hclose : goesOn close = false)
    (tail : List Char) : Ended (xs ++ tail) := by
  have hblank : ∀ c cs, Blank (c :: cs) → goesOn c = false :=
    fun c cs hb => not_goesOn_of_isSpace (hb c List.mem_cons_self)
  -- What comes next is a blank, the comma before the next part, or the closing character.
  cases h with
  | @done _ bs hb =>
    cases bs with
    | nil => simpa [Ended] using hclose
    | cons c cs => simpa [Ended] using hblank c cs hb
  | part hbefore hrest =>
    cases hbefore with
    | @next bs bs' hb _ =>
      cases bs with
      | nil => simp [Ended, goesOn]
      | cons c cs => simpa [Ended] using hblank c cs hb

/-- Before the closing bracket of a list there is no further element. -/
theorem Layout.reads_hasElement_done (h : Layout ']' first [] xs) (tail : List Char) :
    Reads (hasElement first) (xs ++ tail) false (']' :: tail) := by
  cases h with
  | done hb =>
    rw [List.append_assoc]
    refine (reads_peekOr .endOfList hb (by decide) tail).bind ?_
    rw [if_pos rfl]
    exact reads_pure _ _

/-- Where a part of a list begins there is a further element. -/
theorem Before.reads_hasElement {bs cs : List Char} {c : Char} (h : Before first bs)
    (hspace : isSpace c = false) (hclose : c ≠ ']') :
    Reads (hasElement first) (bs ++ c :: cs) true (c :: cs) := by
  cases h with
  | first hb =>
    refine (reads_peekOr .endOfList hb hspace cs).bind ?_
    rw [if_neg hclose, if_pos rfl]
    exact reads_pure _ _
  | @next bs bs' hb hb' =>
    simp only [List.append_assoc, List.cons_append]
    refine (reads_peekOr .endOfList hb (by decide) _).bind ?_
    rw [if_neg (by decide), if_neg (by decide), if_pos rfl]
    refine (reads_advance 1 _).bind ?_
    refine (reads_peekOr .endOfValue hb' hspace _).bind ?_
    rw [if_neg hclose]
    exact reads_pure _ _

/-- Before a part of a list there is a further element: the reader passes the blanks and the comma before it, and
what is left is the part and a layout of the others. -/
theorem Layout.reads_hasElement (h : Layout ']' first (part :: parts) xs)
    (hopens : ∃ c cs, part = c :: cs ∧ isSpace c = false ∧ c ≠ ']') (tail : List Char) :
    ∃ ys, Layout ']' false parts ys ∧ (part ++ ys).length ≤ xs.length ∧
      Reads (hasElement first) (xs ++ tail) true (part ++ (ys ++ tail)) := by
  obtain ⟨c, cs, rfl, hspace, hclose⟩ := hopens
  cases h with
  | @part _ bs _ _ ys hbefore hrest =>
    refine ⟨ys, hrest, by simp, ?_⟩
    simp only [List.append_assoc, List.cons_append]
    exact hbefore.reads_hasElement hspace hclose

/-- Before the closing brace of an object there is no further entry. -/
theorem Layout.reads_hasEntry_done (h : Layout '}' first [] xs) (tail : List Char) :
    Reads (hasEntry first) (xs ++ tail) false ('}' :: tail) := by
  cases h with
  | done hb =>
    rw [List.append_assoc]
    refine (reads_peekOr .endOfObject hb (by decide) tail).bind ?_
    rw [if_pos rfl]
    exact reads_pure _ _

/-- Where a part of an object begins with its key there is a further entry. -/
theorem Before.reads_hasEntry {bs cs : List Char} (h : Before first bs) :
    Reads (hasEntry first) (bs ++ '"' :: cs) true ('"' :: cs) := by
  cases h with
  | first hb =>
    refine (reads_peekOr .endOfObject hb (by decide) _).bind ?_
    rw [if_neg (by decide), if_pos rfl, if_pos rfl]
    exact reads_pure _ _
  | @next bs bs' hb hb' =>
    simp only [List.append_assoc, List.cons_append]
    refine (reads_peekOr .endOfObject hb (by decide) _).bind ?_
    rw [if_neg (by decide), if_neg (by decide), if_pos rfl]
    refine (reads_advance 1 _).bind ?_
    refine (reads_peekOr .endOfValue hb' (by decide) _).bind ?_
    rw [if_pos rfl]
    exact reads_pure _ _

/-- Before a part of an object, which opens with its key, there is a further entry. -/
theorem Layout.reads_hasEntry (h : Layout '}' first (part :: parts) xs)
    (hopens : ∃ cs, part = '"' :: cs) (tail : List Char) :
    ∃ ys, Layout '}' false parts ys ∧ (part ++ ys).length ≤ xs.length ∧
      Reads (hasEntry first) (xs ++ tail) true (part ++ (ys ++ tail)) := by
  obtain ⟨cs, rfl⟩ := hopens
  cases h with
  | @part _ bs _ _ ys hbefore hrest =>
    refine ⟨ys, hrest, by simp, ?_⟩
    simp only [List.append_assoc, List.cons_append]
    exact hbefore.reads_hasEntry

end Layout

end Gamebook.Json
