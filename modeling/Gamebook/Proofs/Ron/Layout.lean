import Gamebook.Proofs.Ron.Words
import Gamebook.Ron.Read

/-!
# Lists and records laid out over lines

Between its brackets a written list or record is a sequence of entries, each with blanks before it and a
comma behind it, and blanks before the closing bracket. `Layout close tail entries xs` says so of `xs`,
which stands behind the opening bracket, with `tail` behind the closing one. How many blanks there are
does not matter to any reader.

Other than in JSON the comma goes with the part before it: it is written behind the last part too, and readers pass it
behind each part. So a layout here is entries with commas behind them, and what is left of it between two rounds
begins with blanks or an entry.

The loops of both readers, of the one that passes over values and of the one that reads by shape, go through a layout
entry by entry. A round takes an entry, its comma and the blanks behind that; so between two rounds what is left is a
layout again, of the entries that remain. Whether blanks have been passed already is not part of the state, and a
layout without its first blanks is a layout (`Layout.reads_skipBlanks`).

Layouts may be of entries of any kind, with a name and a colon or without. What is asked of an entry is that it can be
told from the closing bracket by its first character (`Opens`), and of the reader of an element that it passes each
entry up to its comma.
-/

namespace Gamebook.Ron

open Gamebook.Text
open Text.Reader (Reads Rounds Stops reads_pure)

variable {close : Char} {tail xs : List Char} {entries : List (List Char)}

/-- An entry begins with a character that is neither blank nor the closing bracket. -/
def Opens (close : Char) (entry : List Char) : Prop :=
  ∃ c cs, entry = c :: cs ∧ opensBlank c = false ∧ c ≠ close

/-- The text behind an opening bracket. -/
inductive Layout (close : Char) (tail : List Char) : List (List Char) → List Char → Prop
  | done {bs : List Char} :
      (∀ c ∈ bs, isSpace c = true) → Layout close tail [] (bs ++ close :: tail)
  | entry {bs e : List Char} {es : List (List Char)} {ys : List Char} :
      (∀ c ∈ bs, isSpace c = true) → Opens close e → Layout close tail es ys →
      Layout close tail (e :: es) (bs ++ (e ++ ',' :: ys))

/-- Nothing but the closing bracket is left. -/
theorem layout_close : Layout close tail [] (close :: tail) :=
  @Layout.done close tail [] (by simp)

/-- The next entry comes without blanks before it. -/
theorem layout_entry {e : List Char} (he : Opens close e) (h : Layout close tail entries xs) :
    Layout close tail (e :: entries) (e ++ ',' :: xs) :=
  @Layout.entry close tail [] _ _ _ (by simp) he h

/-! ## Written entries have a layout

The printer puts each entry on a line of its own, with the indentation of its depth before it. -/

theorem isSpace_of_mem_indentation {depth : Nat} : ∀ c ∈ indentation depth, isSpace c = true := by
  intro c hc
  rw [List.eq_of_mem_replicate hc]
  decide

theorem layout_entryLines (depth : Nat) (hopens : ∀ e ∈ entries, Opens close e) :
    ∀ bs : List Char, (∀ c ∈ bs, isSpace c = true) →
      Layout close tail entries (bs ++
        (entries.flatMap (fun e => indentation (depth + 1) ++ e ++ [',', '\n']) ++
          (indentation depth ++ close :: tail))) := by
  induction entries with
  | nil =>
    intro bs hbs
    rw [List.flatMap_nil, List.nil_append, ← List.append_assoc]
    refine .done fun c hc => ?_
    rcases List.mem_append.mp hc with hc | hc
    · exact hbs c hc
    · exact isSpace_of_mem_indentation c hc
  | cons e es ih =>
    intro bs hbs
    have hrest := ih (fun e he => hopens e (List.mem_cons_of_mem _ he)) ['\n']
      isSpace_of_mem_newline
    have hentry := @Layout.entry close tail (bs ++ indentation (depth + 1)) _ _ _ (fun c hc => by
      rcases List.mem_append.mp hc with hc | hc
      · exact hbs c hc
      · exact isSpace_of_mem_indentation c hc) (hopens e List.mem_cons_self) hrest
    simpa [List.append_assoc] using hentry

/-- What stands between the brackets, from the line feed behind the first one on, is a layout of the entries,
whatever the depth of the indentation is. -/
theorem writeEntries_layout (openChar : Char) (depth : Nat) (hopens : ∀ e ∈ entries, Opens close e)
    (tail : List Char) :
    ∃ xs, writeEntries openChar close depth entries ++ tail = openChar :: '\n' :: xs ∧
      Layout close tail entries ('\n' :: xs) := by
  refine ⟨_, ?_, layout_entryLines depth hopens ['\n'] isSpace_of_mem_newline⟩
  simp [writeEntries, List.append_assoc]

theorem writeItems_layout (depth : Nat) (hopens : ∀ e ∈ entries, Opens ']' e) (tail : List Char) :
    ∃ xs, writeItems depth entries ++ tail = '[' :: xs ∧ Layout ']' tail entries xs := by
  cases entries with
  | nil => exact ⟨']' :: tail, rfl, layout_close⟩
  | cons e es =>
    obtain ⟨xs, heq, hlayout⟩ := writeEntries_layout '[' depth hopens tail
    exact ⟨_, heq, hlayout⟩

/-! ## Going through a layout

First what the readers of punctuation make of a layout, and then the loops, whose rounds take one entry each. -/

/-- Blanks before the next entry, or before the closing bracket, are passed. -/
theorem Layout.reads_skipBlanks (h : Layout close tail entries xs) (hclose : opensBlank close = false) :
    ∃ ys, Layout close tail entries ys ∧ Stops opensBlank ys ∧ ys.length ≤ xs.length ∧
      ∃ bs, xs = bs ++ ys ∧ ∀ c ∈ bs, isSpace c = true := by
  cases h with
  | done hbs =>
    exact ⟨close :: tail, layout_close, by simpa using hclose, by simp, _, rfl, hbs⟩
  | @entry bs e es ys hbs hopens hrest =>
    obtain ⟨c, cs, rfl, hblank, hc⟩ := hopens
    refine ⟨_, layout_entry ⟨c, cs, rfl, hblank, hc⟩ hrest, ?_, ?_, bs, rfl, hbs⟩
    · simpa using hblank
    · simp

/-- The comma behind an entry, and the blanks behind it. -/
theorem Layout.reads_comma (h : Layout close tail entries xs) (hclose : opensBlank close = false) :
    ∃ ys, Layout close tail entries ys ∧ ys.length ≤ xs.length ∧ Reads comma (',' :: xs) true ys := by
  obtain ⟨ys, hlayout, hstops, hlen, bs, rfl, hbs⟩ := h.reads_skipBlanks hclose
  exact ⟨ys, hlayout, hlen, Ron.reads_comma hbs hstops⟩

/-- Before the closing bracket there is no further element. -/
theorem Layout.reads_hasElement_done (h : Layout close tail [] xs) (hclose : opensBlank close = false)
    (separated : Bool) : Reads (hasElement close separated) xs false (close :: tail) := by
  cases h with
  | done hbs =>
    refine (Ron.reads_skipBlanks hbs (by simpa using hclose)).bind ?_
    refine (reads_peekOrEnd close tail).bind ?_
    rw [if_pos rfl]
    exact reads_pure _ _

/-- Where an entry begins there is a further element. -/
theorem reads_hasElement_true {bs cs : List Char} {c : Char} (hbs : ∀ d ∈ bs, isSpace d = true)
    (hc : opensBlank c = false) (hclose : c ≠ close) :
    Reads (hasElement close true) (bs ++ c :: cs) true (c :: cs) := by
  refine (Ron.reads_skipBlanks hbs (by simpa using hc)).bind ?_
  refine (reads_peekOrEnd c cs).bind ?_
  rw [if_neg hclose, if_pos rfl]
  exact reads_pure _ _

/-- Before an entry there is a further element; behind it come its comma and the entries that remain. -/
theorem Layout.reads_hasElement {e : List Char} (h : Layout close tail (e :: entries) xs) :
    ∃ ys, Layout close tail entries ys ∧ (e ++ ',' :: ys).length ≤ xs.length ∧
      Reads (hasElement close true) xs true (e ++ ',' :: ys) := by
  cases h with
  | @entry bs _ _ ys hbs hopens hrest =>
    obtain ⟨c, cs, rfl, hblank, hc⟩ := hopens
    exact ⟨ys, hrest, by simp, reads_hasElement_true hbs hblank hc⟩

/-- Passing over the entries of a layout, if the reader of an element passes each of them. By induction on the
entries; the last round finds the closing bracket. -/
theorem rounds_elementStep {element : Reader Unit} (hclose : opensBlank close = false)
    (hread : ∀ e ∈ entries, ∀ ys, Reads element (e ++ ',' :: ys) () (',' :: ys)) :
    ∀ xs, Layout close tail entries xs →
      Rounds (elementStep close element) true xs () (close :: tail) := by
  induction entries with
  | nil =>
    intro xs h
    exact .last ((h.reads_hasElement_done hclose true).bind (reads_pure _ _))
  | cons e es ih =>
    intro xs h
    obtain ⟨ys, hrest, hlen, hhas⟩ := h.reads_hasElement
    obtain ⟨zs, hzs, hzlen, hcomma⟩ := hrest.reads_comma hclose
    refine .next ?_ ?_ (ih (fun e he => hread e (List.mem_cons_of_mem _ he)) zs hzs)
    · refine hhas.bind ?_
      rw [if_pos rfl]
      exact (hread e List.mem_cons_self ys).bind (hcomma.bind (reads_pure _ _))
    · rw [List.length_append, List.length_cons] at hlen
      omega

/-- Reading the items of a list, if the reader of an item reads each of them. -/
theorem rounds_itemStep {α : Type} {item : Reader α} {written : α → List Char} {values : List α}
    (hread : ∀ v ∈ values, ∀ ys, Reads item (written v ++ ',' :: ys) v (',' :: ys)) :
    ∀ xs acc, Layout ']' tail (values.map written) xs →
      Rounds (itemStep item) (true, acc) xs (acc.reverse ++ values) (']' :: tail) := by
  induction values with
  | nil =>
    intro xs acc h
    rw [List.append_nil]
    exact .last ((h.reads_hasElement_done (by decide) true).bind (reads_pure _ _))
  | cons v vs ih =>
    intro xs acc h
    obtain ⟨ys, hrest, hlen, hhas⟩ := h.reads_hasElement
    obtain ⟨zs, hzs, hzlen, hcomma⟩ := hrest.reads_comma (by decide)
    have hrounds := ih (fun w hw => hread w (List.mem_cons_of_mem _ hw)) zs (v :: acc) hzs
    rw [List.reverse_cons, List.append_assoc, List.singleton_append] at hrounds
    refine .next ?_ ?_ hrounds
    · refine hhas.bind ?_
      rw [if_pos rfl]
      exact (hread v List.mem_cons_self ys).bind (hcomma.bind (reads_pure _ _))
    · rw [List.length_append, List.length_cons] at hlen
      omega

/-- A written list is read as its items. -/
theorem reads_listOf {α : Type} {item : Reader α} {written : α → List Char} {values : List α}
    (depth : Nat) (hopens : ∀ v ∈ values, Opens ']' (written v))
    (hread : ∀ v ∈ values, ∀ ys, Reads item (written v ++ ',' :: ys) v (',' :: ys)) (tail : List Char) :
    Reads (listOf item) (writeItems depth (values.map written) ++ tail) values tail := by
  have hmapped : ∀ e ∈ values.map written, Opens ']' e := by
    intro e he
    obtain ⟨v, hv, rfl⟩ := List.mem_map.mp he
    exact hopens v hv
  obtain ⟨xs, heq, hxs⟩ := writeItems_layout depth hmapped tail
  rw [heq]
  refine (reads_accept_char rfl xs).bind ?_
  exact (rounds_itemStep hread xs [] hxs).reads.bind ((Reader.reads_advance 1 _).bind (reads_pure _ _))

end Gamebook.Ron
