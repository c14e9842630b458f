import Gamebook.Proofs.Ron.Acceptance
import Gamebook.Proofs.Text.Cuts

/-!
# RON texts that are cut short

A written document without its end is no RON: it cannot even be passed over (`run_skipText_cut`). This is said
of `skipText`, which does not know what is expected, and so it sees more in what is left of a word than the
word's beginning. What is left of a number is a number; of an option the letters before its parenthesis are
the name of a unit; what is left of the key that opens a record is a unit too, or, if it is the letter r alone,
the beginning of a raw string. All of these end with the text (`Short`), and the bracket that is open around
them is missed.

So the law about a cut document is not that its reader fails. It fails or comes to the end of the text
(`short_skip_write`), and this is carried through lists, options and records: where the last thing inside comes to the
end, what is to come behind it is missing. A record as a whole fails, for its closing parenthesis is cut off in any
case.

The law has to be about all pieces of an entry, the whole entry among them. A list may be cut behind an entry and
before its comma, and then the entry is whole and nothing comes behind it; that is a case the lemmas on written
documents do not cover, since there a comma follows (`reads_skip_write_end`).

Whether a group has names is decided by looking ahead, and the cut may lie before the colon that decides it. Then the
record is taken for a group without names, or the look ahead itself fails at the end of the text. All ways are followed
(`fails_skip_record`).

Which fault it is does not matter. A text that cannot be passed over is refused as one that is no RON, whatever the
fault.
-/

namespace Gamebook.Ron

open Gamebook.Text
open Text.Reader (Reads Fails Short Reaches Stops Refuses reads_pure reads_advance short_pure)

variable {α : Type} {close c : Char} {bs xs ys : List Char}

/-- Any fault at all. -/
def anyFault (_ : Fault) : Prop := True

/-! ## Blanks and separators

Behind blanks at the end of a text every reader that needs something fails. Only a comma may be missing: its reader
says so, and goes on. -/

theorem fails_peekOrEnd : Fails anyFault peekOrEnd [] :=
  (Reader.reads_peek []).fails (Reader.fails_fail trivial)

theorem reads_skipBlanks_end (hb : ∀ c ∈ bs, isSpace c = true) : Reads skipBlanks bs () [] := by
  have hread := @reads_skipBlanks bs [] hb (by simp)
  rwa [List.append_nil] at hread

/-- Behind blanks there is neither a further element nor the closing bracket. -/
theorem fails_hasElement (hb : ∀ c ∈ bs, isSpace c = true) (separated : Bool) :
    Fails anyFault (hasElement close separated) bs :=
  (reads_skipBlanks_end hb).fails fails_peekOrEnd.bind

theorem reads_comma_end : Reads comma [] false [] := by
  refine (reads_skipBlanks_none (by simp)).bind ?_
  exact (reads_accept_other (w := ',') rfl (by simp)).bind (reads_pure _ _)

theorem fails_colon_end : Fails anyFault colon [] := by
  refine (reads_skipBlanks_none (by simp)).fails ?_
  exact (reads_accept_other (w := ':') rfl (by simp)).fails (Reader.fails_fail trivial)

/-! ## Strings

A string that is cut is not closed, and the question is only in which round its loop fails. A character is written in
one of three ways, and what is left of two of them is no escape. -/

/-- The digits of a code point are read one by one. -/
theorem reaches_codePointStep : ∀ (ds : List Char) (value count : Nat),
    (∀ d ∈ ds, ∃ n < 16, d = Nat.digitChar n) → count + ds.length ≤ 6 →
    ∃ value', Reaches codePointStep (value, count) ds (value', count + ds.length) []
  | [], value, count, _, _ => ⟨value, .here⟩
  | d :: ds, value, count, hds, hcount => by
    obtain ⟨n, hn, rfl⟩ := hds d List.mem_cons_self
    rw [List.length_cons] at hcount ⊢
    obtain ⟨value', hreaches⟩ := reaches_codePointStep ds (value * 16 + n) (count + 1)
      (fun e he => hds e (List.mem_cons_of_mem _ he)) (by omega)
    rw [show count + 1 + ds.length = count + (ds.length + 1) by omega] at hreaches
    exact ⟨value', .next (reads_codePointStep_digit (by omega) hn ds) (by simp) hreaches⟩

/-- A code point without its closing brace is not read. -/
theorem fails_codePoint {ds : List Char} (hds : ∀ d ∈ ds, ∃ n < 16, d = Nat.digitChar n)
    (hlength : ds.length ≤ 6) : Fails anyFault codePoint ('{' :: ds) := by
  obtain ⟨value, hreaches⟩ := reaches_codePointStep ds 0 0 hds (by omega)
  rw [Nat.zero_add] at hreaches
  refine (reads_expect _ _).fails ?_
  by_cases hfull : 6 ≤ ds.length
  · -- All digits are there that a code point may have, and the brace is not.
    have hlast : Reads (codePointStep (value, ds.length)) [] (.inr (value, ds.length)) [] := by
      simp only [codePointStep]
      rw [if_pos hfull]
      exact reads_pure _ _
    refine (hreaches.reads hlast).fails ?_
    show Fails anyFault (if ds.length = 0 then _ else _) []
    rw [if_neg (by omega)]
    exact (fails_peekOrEnd.bind : Fails anyFault (expect '}' .unclosedEscape) []).bind
  · have hlast : Fails anyFault (codePointStep (value, ds.length)) [] := by
      simp only [codePointStep]
      rw [if_neg hfull]
      exact fails_peekOrEnd.bind
    exact (hreaches.fails hlast).bind

/-- A character has a letter behind a backslash, or its code point, or it stands for itself. -/
theorem escapeChar_form (c : Char) :
    (∃ letter, escapeChar ⟨true, true⟩ c = ['\\', letter]) ∨
      escapeChar ⟨true, true⟩ c = escapeCode c ∨ escapeChar ⟨true, true⟩ c = [c] := by
  generalize htext : escapeChar ⟨true, true⟩ c = text
  unfold escapeChar at htext
  repeat' split at htext
  all_goals subst htext
  all_goals first
    | contradiction
    | exact .inl ⟨_, rfl⟩
    | exact .inr (.inl rfl)
    | exact .inr (.inr rfl)

/-- What is left of the form of a code point, behind its backslash, is no escape. -/
theorem fails_escape_code (h : Cut ys ('u' :: '{' :: (Nat.toDigits 16 c.toNat ++ ['}']))) :
    Fails anyFault escape ys := by
  rcases cut_cons.mp h with rfl | ⟨vs, rfl, hvs⟩
  · exact fails_peekOrEnd.bind
  refine (reads_peekOrEnd 'u' vs).fails ((reads_advance 1 _).fails ?_)
  rcases cut_cons.mp hvs with rfl | ⟨ds, rfl, hds⟩
  · exact (fails_peekOrEnd.bind : Fails anyFault (expect '{' .escapeWithoutBrace) []).bind
  have hlength : (Nat.toDigits 16 c.toNat).length ≤ 6 := by
    refine (Nat.length_toDigits_le_iff (by omega) (by omega)).mpr ?_
    have hvalid : c.toNat.isValidChar := c.valid
    unfold Nat.isValidChar at hvalid
    omega
  have hdigits : (∀ d ∈ ds, d ∈ Nat.toDigits 16 c.toNat) ∧ ds.length ≤ 6 := by
    rcases cut_concat.mp hds with hcut | rfl
    · have hless : ds.length < (Nat.toDigits 16 c.toNat).length := hcut.length_lt
      exact ⟨hcut.mem, by omega⟩
    · exact ⟨fun d hd => hd, hlength⟩
  exact fails_codePoint (fun d hd => mem_toDigits (by omega) (hdigits.1 d hd)) hdigits.2

/-- What is left of an escaped character: nothing, or a backslash and behind it no escape. So a string is never
taken for a shorter one. -/
theorem cut_escapeChar (h : Cut ys (escapeChar ⟨true, true⟩ c)) :
    ys = [] ∨ ∃ cs, ys = '\\' :: cs ∧ Fails anyFault escape cs := by
  rcases escapeChar_form c with ⟨letter, hform⟩ | hform | hform
  · rw [hform] at h
    rcases cut_cons.mp h with hnil | ⟨ws, rfl, hws⟩
    · exact .inl hnil
    · rw [cut_singleton.mp hws]
      exact .inr ⟨[], rfl, fails_peekOrEnd.bind⟩
  · rw [hform, escapeCode] at h
    rcases cut_cons.mp h with hnil | ⟨ws, rfl, hws⟩
    · exact .inl hnil
    · exact .inr ⟨ws, rfl, fails_escape_code hws⟩
  · rw [hform] at h
    exact .inl (cut_singleton.mp h)

/-- A character of a string that is cut is not read, whatever has been read before. Before nothing the round fails
at once, and behind a backslash because no escape is there. -/
theorem stringStep_cut (h : Cut ys (escapeChar ⟨true, true⟩ c)) (state : List Char × Cursor) (p : Position) :
    ∃ e cursor, stringStep state ⟨ys, p⟩ = .error e cursor := by
  rcases cut_escapeChar h with rfl | ⟨cs, rfl, hescape⟩
  · exact ⟨_, _, rfl⟩
  · obtain ⟨e, cursor, he, -⟩ := hescape (p.afterAll ['\\'])
    refine ⟨e, cursor, ?_⟩
    have hcursor : Cursor.advance 1 ⟨'\\' :: cs, p⟩ = ⟨cs, p.afterAll ['\\']⟩ := rfl
    simp only [stringStep, hcursor, he]

/-- A string without its closing quote is not read. As in `loopOver_stringStep` the rounds are counted, because
their state depends on where the string stands. -/
theorem loopOver_stringStep_cut (cs : List Char) : ∀ (ys read : List Char) (mark : Cursor) (fuel : List Char)
    (p : Position), Cut ys (cs.flatMap (escapeChar ⟨true, true⟩) ++ ['"']) → ys.length ≤ fuel.length →
    ∃ e cursor, Reader.loopOver stringStep fuel (read, mark) ⟨ys, p⟩ = .error e cursor := by
  have hfirst : ∀ (ys : List Char) (state : List Char × Cursor) (fuel : List Char) (p : Position),
      (∃ e cursor, stringStep state ⟨ys, p⟩ = .error e cursor) →
      ∃ e cursor, Reader.loopOver stringStep fuel state ⟨ys, p⟩ = .error e cursor := by
    intro ys state fuel p ⟨e, cursor, he⟩
    refine ⟨e, cursor, ?_⟩
    cases fuel <;>
    · show EStateM.bind _ _ _ = _
      rw [EStateM.bind, he]
  induction cs with
  | nil =>
    intro ys read mark fuel p hcut _
    obtain rfl : ys = [] := cut_singleton.mp hcut
    exact hfirst [] (read, mark) fuel p ⟨_, _, rfl⟩
  | cons c cs ih =>
    intro ys read mark fuel p hcut hfuel
    rw [List.flatMap_cons, List.append_assoc] at hcut
    rcases cut_append.mp hcut with hhere | ⟨ws, rfl, hws⟩
    · exact hfirst ys (read, mark) fuel p (stringStep_cut hhere (read, mark) p)
    · obtain ⟨mark', q, hq⟩ := stringStep_escapeChar c read mark p ws
      have hpos : 0 < (escapeChar ⟨true, true⟩ c).length := by
        rcases escapeChar_cases c with ⟨_, hform, -⟩ | ⟨hform, -⟩ <;> simp [hform]
      rw [List.length_append] at hfuel
      cases fuel with
      | nil =>
        rw [List.length_nil] at hfuel
        omega
      | cons d fuel =>
        rw [List.length_cons] at hfuel
        obtain ⟨e, cursor, he⟩ := ih ws (c :: read) mark' fuel q hws (by omega)
        refine ⟨e, cursor, ?_⟩
        show EStateM.bind _ _ _ = _
        rw [EStateM.bind, hq]
        exact he

theorem fails_stringLiteral {s : String} (h : Cut ys (writeString s)) :
    Fails anyFault stringLiteral ys := by
  rcases cut_cons.mp h with rfl | ⟨ws, rfl, hws⟩
  · exact fun p => ⟨_, _, rfl, trivial⟩
  · refine (reads_accept_char rfl ws).fails ?_
    rw [if_pos rfl]
    intro p
    obtain ⟨e, cursor, he⟩ := loopOver_stringStep_cut s.toList ws [] ⟨ws, p⟩ ws p hws (Nat.le_refl _)
    exact ⟨e, cursor, he, trivial⟩

/-! ## Where a layout is cut

What is left is told by the next entry: it has not been begun, or it has been begun and not been followed by its
comma, or it is there with its comma. An entry that is whole and lacks its comma is a piece of itself, and so the
second case holds it. -/

/-- What is left of a layout: blanks, or a piece of the next entry, or all of it with its comma and what is
left of the layout behind that. -/
inductive LayoutCut (close : Char) : List (List Char) → List Char → Prop
  | blank {entries : List (List Char)} {ys : List Char} :
      (∀ c ∈ ys, isSpace c = true) → LayoutCut close entries ys
  | within {bs e piece : List Char} {es : List (List Char)} :
      (∀ c ∈ bs, isSpace c = true) → Opens close e → piece ≠ [] → piece <+: e →
      LayoutCut close (e :: es) (bs ++ piece)
  | behind {bs e zs us : List Char} {es : List (List Char)} :
      (∀ c ∈ bs, isSpace c = true) → Opens close e → Layout close [] es zs → Cut us zs →
      LayoutCut close (e :: es) (bs ++ (e ++ ',' :: us))

/-- **What is left of a layout**, by where the cut is. If it is between an entry and its comma, the entry is a piece of
itself. -/
theorem Layout.cut {entries : List (List Char)} (h : Layout close [] entries xs) (hcut : Cut ys xs) :
    LayoutCut close entries ys := by
  cases h with
  | done hbs =>
    rcases cut_concat.mp hcut with hblank | rfl
    · exact .blank fun c hc => hbs c (hblank.mem c hc)
    · exact .blank hbs
  | @entry bs e es zs hbs hopens hrest =>
    rcases cut_append.mp hcut with hblank | ⟨ws, rfl, hws⟩
    · exact .blank fun c hc => hbs c (hblank.mem c hc)
    by_cases hnil : ws = []
    · subst hnil
      rw [List.append_nil]
      exact .blank hbs
    rcases cut_append.mp hws with ⟨lost, -, heq⟩ | ⟨vs, rfl, hvs⟩
    · exact .within hbs hopens hnil ⟨lost, heq⟩
    rcases cut_cons.mp hvs with rfl | ⟨us, rfl, hus⟩
    · rw [List.append_nil] at hnil ⊢
      exact .within hbs hopens hnil (List.prefix_refl e)
    · exact .behind hbs hopens hrest hus

/-- Behind a comma what is left of a layout is left, without its first blanks. -/
theorem Layout.reads_comma_cut {entries : List (List Char)} (h : Layout close [] entries xs)
    (hclose : opensBlank close = false) (hcut : Cut ys xs) :
    ∃ xs' ys', Layout close [] entries xs' ∧ Cut ys' xs' ∧ ys'.length ≤ ys.length ∧
      Reads comma (',' :: ys) true ys' := by
  obtain ⟨zs, hlayout, hstops, -, bs, rfl, hbs⟩ := h.reads_skipBlanks hclose
  rcases cut_append.mp hcut with hblank | ⟨ws, rfl, hws⟩
  · have hnonempty : zs ≠ [] := by
      cases hlayout <;> simp
    have hcomma : Reads comma (',' :: (ys ++ [])) true [] :=
      Ron.reads_comma (fun c hc => hbs c (hblank.mem c hc)) (by simp)
    rw [List.append_nil] at hcomma
    exact ⟨zs, [], hlayout, cut_nil hnonempty, by simp, hcomma⟩
  · refine ⟨zs, ws, hlayout, hws, by simp, Ron.reads_comma hbs ?_⟩
    exact fun c hc => hstops c (hws.head?_subset c hc)

/-- Elements whose layout is cut are not passed over, if the reader of an element passes each of them, and
with what is left of one it fails or comes to the end. -/
theorem fails_skipElements {element : Reader Unit} (hclose : opensBlank close = false)
    {entries : List (List Char)} :
    (∀ e ∈ entries, ∀ ys, Reads element (e ++ ',' :: ys) () (',' :: ys)) →
    (∀ e ∈ entries, ∀ piece, piece <+: e → Short anyFault element piece) →
    ∀ {xs ys}, Layout close [] entries xs → Cut ys xs → Fails anyFault (skipElements close element) ys := by
  intro hread hshort xs ys hlayout hcut
  have hend : ∀ separated, Fails anyFault (elementStep close element separated) [] :=
    fun separated => (fails_hasElement (by simp) separated).bind
  -- By induction on the entries, with the layout and the cut left open: a whole entry in front leaves both for the
  -- others.
  have hreaches : ∃ separated zs, Reaches (elementStep close element) true ys separated zs ∧
      Fails anyFault (elementStep close element separated) zs := by
    induction entries generalizing xs ys with
    | nil =>
      cases hlayout.cut hcut with
      | blank hblank => exact ⟨true, ys, .here, (fails_hasElement hblank true).bind⟩
    | cons e es ih =>
      cases hlayout.cut hcut with
      | blank hblank => exact ⟨true, ys, .here, (fails_hasElement hblank true).bind⟩
      | @within bs _ piece _ hbs hopens hnonempty hpiece =>
        obtain ⟨c, cs, rfl, hc, hcclose⟩ := hopens
        -- If the reader of the element comes to the end, the next round finds nothing.
        have hfirst := hshort _ List.mem_cons_self piece hpiece
        obtain ⟨ds, rfl, -⟩ := (List.prefix_cons_iff.mp hpiece).resolve_left hnonempty
        have hhas : Reads (hasElement close true) (bs ++ c :: ds) true (c :: ds) :=
          reads_hasElement_true hbs hc hcclose
        refine Reader.exists_reaches_of_short ?_ (by simp) hend
        rcases hfirst with hfails | ⟨⟨⟩, hreads⟩
        · exact .inl (hhas.fails hfails.bind)
        · exact .inr ⟨false, hhas.bind (hreads.bind (reads_comma_end.bind (reads_pure _ _)))⟩
      | @behind bs _ zs us _ hbs hopens hrest hus =>
        -- The whole element is left, and so the induction goes on behind its comma.
        obtain ⟨c, cs, rfl, hc, hcclose⟩ := hopens
        have hhas : Reads (hasElement close true) (bs ++ (c :: cs ++ ',' :: us)) true (c :: cs ++ ',' :: us) :=
          reads_hasElement_true hbs hc hcclose
        obtain ⟨xs', ys', hlayout', hcut', hlength, hcomma⟩ := hrest.reads_comma_cut hclose hus
        obtain ⟨separated, vs, hreaches, hfails⟩ := ih (fun e he => hread e (List.mem_cons_of_mem _ he))
          (fun e he => hshort e (List.mem_cons_of_mem _ he)) hlayout' hcut'
        refine ⟨separated, vs, .next (hhas.bind ?_) ?_ hreaches, hfails⟩
        · rw [if_pos rfl]
          exact (hread _ List.mem_cons_self us).bind (hcomma.bind (reads_pure _ _))
        · simp only [List.length_append, List.length_cons]
          omega
  obtain ⟨separated, zs, hsteps, hfails⟩ := hreaches
  exact (hsteps.fails hfails).bind

/-! ## Values

`skipValue` before what is left of a written value. A string fails and a number comes to the end; what is left of an
option may do either, letter by letter. -/

theorem fails_skip_nil (implicitSome : Bool) (levels : Nat) :
    Fails anyFault (skipValue implicitSome levels) [] := by
  obtain ⟨inside, heq⟩ := skipValue_eq_skipAny implicitSome levels
  rw [heq]
  exact fun p => ⟨_, _, rfl, trivial⟩

/-- A string without its closing quote is not passed over, with as many levels left as may be. -/
theorem fails_skip_string (implicitSome : Bool) (levels : Nat) {s : String} (h : Cut ys (writeString s)) :
    Fails anyFault (skipValue implicitSome levels) ys := by
  rcases cut_cons.mp h with rfl | ⟨ws, rfl, -⟩
  · exact fails_skip_nil implicitSome levels
  · exact (continues_skip_string implicitSome levels ws).fails ((fails_stringLiteral h).map _)

/-- What is left of a number is a smaller number. -/
theorem short_skip_number (implicitSome : Bool) (levels : Nat) {n : Nat} (hn : n ≤ Word.max64)
    (h : Cut ys (Nat.toDigits 10 n)) : Short anyFault (skipValue implicitSome levels) ys := by
  rcases h.toDigits with rfl | ⟨m, hm, rfl⟩
  · exact .inl (fails_skip_nil implicitSome levels)
  · have hread := reads_skip_number implicitSome levels (Nat.le_trans hm hn) ended_nil
    rw [List.append_nil] at hread
    exact .inr ⟨(), hread⟩

/-- The items of a list that is cut are not passed over, if with what is left of one its reader fails or comes
to the end. -/
theorem fails_skip_items {written : Nat → α → List Char} {levels : Nat} (depth : Nat) {values : List α}
    (hopens : ∀ depth v, Opens ']' (written depth v))
    (hread : ∀ depth v ys, Ended ys → Reads (skipValue false levels) (written depth v ++ ys) () ys)
    (hshort : ∀ depth v piece, piece <+: written depth v → Short anyFault (skipValue false levels) piece)
    (hcut : Cut ys (writeItems depth (values.map (written (depth + 1))))) :
    Fails anyFault (skipValue false (levels + 2)) ys := by
  have hentry : ∀ e ∈ values.map (written (depth + 1)), ∃ v, written (depth + 1) v = e := by
    intro e he
    obtain ⟨v, -, rfl⟩ := List.mem_map.mp he
    exact ⟨v, rfl⟩
  have hentries : ∀ e ∈ values.map (written (depth + 1)), Opens ']' e := by
    intro e he
    obtain ⟨v, rfl⟩ := hentry e he
    exact hopens (depth + 1) v
  obtain ⟨xs, heq, hlayout⟩ := writeItems_layout depth hentries []
  rw [List.append_nil] at heq
  rw [heq] at hcut
  rcases cut_cons.mp hcut with rfl | ⟨ws, rfl, hws⟩
  · exact fails_skip_nil false (levels + 2)
  refine (continues_skip_list false levels ws).fails (fails_skipElements (by decide) ?_ ?_ hlayout hws)
  · intro e he zs
    obtain ⟨v, rfl⟩ := hentry e he
    exact hread (depth + 1) v _ ended_comma
  · intro e he piece hpiece
    obtain ⟨v, rfl⟩ := hentry e he
    exact hshort (depth + 1) v piece hpiece

/-- The first letters of an option, up to the last of its word, are the name of a unit; the word alone is no
option; and behind the parenthesis the closing one is missing. -/
theorem short_skip_option {levels : Nat} {written : List Char}
    (hstart : ∃ c cs, written = c :: cs ∧ opensBlank c = false)
    (hshort : ∀ piece, piece <+: written → Short anyFault (skipValue false levels) piece)
    (hcut : Cut ys ("Some(".toList ++ written ++ [')'])) :
    Short anyFault (skipValue false (levels + 1)) ys := by
  obtain ⟨inside, heq⟩ := skipValue_eq_skipAny false (levels + 1)
  have hunit : ∀ word ∈ ["S", "So", "Som"], Reads (skipValue false (levels + 1)) word.toList () [] := by
    intro word hword
    simp only [List.mem_cons, List.not_mem_nil, or_false] at hword
    rw [heq]
    rcases hword with rfl | rfl | rfl
    · exact fun p => ⟨_, rfl⟩
    · exact fun p => ⟨_, rfl⟩
    · exact fun p => ⟨_, rfl⟩
  rw [show "Some(".toList ++ written ++ [')'] = 'S' :: 'o' :: 'm' :: 'e' :: '(' :: (written ++ [')']) by
    simp] at hcut
  -- The cut goes from letter to letter through the word, and then behind the parenthesis.
  rcases cut_cons.mp hcut with rfl | ⟨behindS, rfl, hS⟩
  · exact .inl (fails_skip_nil false (levels + 1))
  rcases cut_cons.mp hS with rfl | ⟨behindO, rfl, hO⟩
  · exact .inr ⟨(), hunit "S" (by simp)⟩
  rcases cut_cons.mp hO with rfl | ⟨behindM, rfl, hM⟩
  · exact .inr ⟨(), hunit "So" (by simp)⟩
  rcases cut_cons.mp hM with rfl | ⟨behindE, rfl, hE⟩
  · exact .inr ⟨(), hunit "Som" (by simp)⟩
  rcases cut_cons.mp hE with rfl | ⟨ws, rfl, hws⟩
  · refine .inl ((continues_skip_option false levels (Reader.stops_nil _)).fails (Fails.map _ ?_))
    exact fun p => ⟨_, _, rfl, trivial⟩
  · refine .inl ((@continues_skip_option false levels ('(' :: ws) (by
      simp [isIdentifierRest, isIdentifierStart])).fails (Fails.map _ ?_))
    have hpiece : ws <+: written := by
      rcases cut_concat.mp hws with ⟨lost, -, heq⟩ | rfl
      · exact ⟨lost, heq⟩
      · exact List.prefix_refl ws
    have hblank : Stops opensBlank ws := by
      obtain ⟨c, cs, rfl, hc⟩ := hstart
      rcases List.prefix_cons_iff.mp hpiece with rfl | ⟨ds, rfl, -⟩
      · exact Reader.stops_nil _
      · simpa using hc
    -- Behind the parenthesis the reader of an option goes on: not to none of it, but to its content and to the
    -- parenthesis that is cut off.
    refine (reads_accept_other (w := 'N') rfl (by simp)).fails ?_
    refine (Reader.reads_accept rfl ('(' :: ws)).fails ?_
    refine (reads_skipBlanks_none (by simp [opensBlank, isSpace])).fails ?_
    refine (reads_accept_char rfl _).fails ?_
    refine (reads_skipBlanks_none hblank).fails ?_
    refine (hshort ws hpiece).fails fun _ => ?_
    refine reads_comma_end.fails ?_
    exact (reads_accept_other (w := ')') rfl (by simp)).fails (Reader.fails_fail trivial)

/-! ## Named entries

The key of an entry may be cut, or what stands behind its colon. What is left of a key is mostly a key, and then the
colon is missing. It is not so easy for the first key of a record, from which the reader is to learn that this is a
record. -/

theorem writeEntry_eq (name : String) (content : List Char) :
    writeEntry name content = name.toList ++ ':' :: ' ' :: content := by
  simp [writeEntry]

/-- A piece of an entry ends in its name, or goes on behind the colon. -/
theorem prefix_writeEntry {name : String} {content piece : List Char}
    (h : piece <+: writeEntry name content) :
    piece <+: name.toList ∨ ∃ behind, piece = name.toList ++ ':' :: behind ∧ behind <+: ' ' :: content := by
  obtain ⟨lost, heq⟩ := h
  rw [writeEntry_eq] at heq
  rcases List.append_eq_append_iff.mp heq with ⟨middle, hname, -⟩ | ⟨middle, rfl, hlater⟩
  · exact .inl ⟨middle, hname.symm⟩
  · cases middle with
    | nil =>
      rw [List.append_nil]
      exact .inl (List.prefix_refl _)
    | cons c behind =>
      rw [List.cons_append] at hlater
      obtain ⟨rfl, hbehind⟩ := List.cons.inj hlater
      exact .inr ⟨behind, rfl, lost, hbehind.symm⟩

/-- What is left of a name is a name, unless it is nothing, or the letter with which raw names begin. A plain name
is made of characters any of which may end a name. -/
theorem identifier_cut {name : String} (hname : isPlainName name = true) {piece : List Char}
    (hpiece : piece <+: name.toList) :
    (piece = [] ∨ piece = ['r']) ∧ Refuses identifier piece ∨
      ∃ found, Reads identifier piece found [] := by
  obtain ⟨c, cs, heq, hstart, hrest⟩ := isPlainName_iff.mp hname
  by_cases hopen : piece = [] ∨ piece = ['r']
  · refine .inl ⟨hopen, ?_⟩
    rcases hopen with rfl | rfl
    · exact fun p => ⟨_, _, rfl⟩
    · exact fun p => ⟨_, _, rfl⟩
  · obtain ⟨hnonempty, hletter⟩ := not_or.mp hopen
    rw [heq] at hpiece
    obtain ⟨ds, rfl, -⟩ := (List.prefix_cons_iff.mp hpiece).resolve_left hnonempty
    have hread := @reads_identifier_chars [] c ds hstart (fun e he => hrest e (hpiece.mem he))
      (Reader.stops_nil _) (by simp) (by rwa [List.append_nil])
    rw [List.append_nil] at hread
    exact .inr ⟨_, hread⟩

/-- With what is left of an entry its reader fails or comes to the end, if the reader of its content does. It comes to
the end only where the content does: behind a key without its colon, and behind a colon with nothing, it fails. -/
theorem short_skip_entry (implicitSome : Bool) {levels : Nat} {name : String} {content : List Char}
    (hname : isPlainName name = true) (hcontent : Stops opensBlank content)
    (hshort : ∀ piece, piece <+: content → Short anyFault (skipValue implicitSome levels) piece)
    {piece : List Char} (hpiece : piece <+: writeEntry name content) :
    Short anyFault (do
      discard identifier
      colon
      skipValue implicitSome levels) piece := by
  rcases prefix_writeEntry hpiece with hkey | ⟨behind, rfl, hbehind⟩
  · rcases identifier_cut hname hkey with ⟨-, hrefuses⟩ | ⟨found, hreads⟩
    · exact .inl ((hrefuses.fails fun _ => trivial).map _).bind
    · exact .inl (hreads.discard.fails fails_colon_end.bind)
  · refine (reads_identifier hname behind).discard.short ?_
    rcases List.prefix_cons_iff.mp hbehind with rfl | ⟨ds, rfl, hds⟩
    · have hcolon : Reads colon [':'] () [] :=
        @reads_colon [] [] (by simp) (Reader.stops_nil _)
      exact .inl (hcolon.fails (fails_skip_nil implicitSome levels))
    · have hstops : Stops opensBlank ds := by
        intro d hd
        obtain ⟨ds, rfl⟩ := List.head?_eq_some_iff.mp hd
        obtain ⟨rest, rfl⟩ := hds
        exact hcontent d rfl
      have hcolon : Reads colon (':' :: ([' '] ++ ds)) () ds := reads_colon isSpace_of_mem_space hstops
      exact hcolon.short (hshort ds hds)

/-- Whatever piece of a record is left, as far as its announcement goes: blanks, or a piece of a name, or a
name with its colon. -/
theorem LayoutCut.name_cases {entries : List (List Char)}
    (hnamed : ∀ e ∈ entries, ∃ name content, isPlainName name = true ∧ e = writeEntry name content)
    (h : LayoutCut close entries ys) :
    (∀ c ∈ ys, isSpace c = true) ∨
      ∃ bs name, (∀ c ∈ bs, isSpace c = true) ∧ isPlainName name = true ∧
        ((∃ piece, piece ≠ [] ∧ piece <+: name.toList ∧ ys = bs ++ piece) ∨
          ∃ behind, ys = bs ++ (name.toList ++ ':' :: behind)) := by
  cases h with
  | blank hblank => exact .inl hblank
  | @within bs e piece _ hbs _ hnonempty hpiece =>
    obtain ⟨name, content, hname, rfl⟩ := hnamed e List.mem_cons_self
    refine .inr ⟨bs, name, hbs, hname, ?_⟩
    rcases prefix_writeEntry hpiece with hkey | ⟨behind, rfl, -⟩
    · exact .inl ⟨piece, hnonempty, hkey, rfl⟩
    · exact .inr ⟨behind, rfl⟩
  | @behind bs e zs us _ hbs _ _ _ =>
    obtain ⟨name, content, hname, rfl⟩ := hnamed e List.mem_cons_self
    refine .inr ⟨bs, name, hbs, hname, .inr ⟨' ' :: content ++ ',' :: us, ?_⟩⟩
    rw [writeEntry_eq, List.append_assoc]
    rfl

/-- **A record that is cut is not passed over**, whether or not its first key is left to tell that it is one. The
cases are those of what is left of the layout as far as the reader looks ahead. -/
theorem fails_skip_record (implicitSome : Bool) {levels : Nat} (depth : Nat) {entries : List (List Char)}
    (hnamed : ∀ e ∈ entries, ∃ name content, isPlainName name = true ∧ e = writeEntry name content)
    (hread : ∀ e ∈ entries, ∀ ys, Reads (do
      discard identifier
      colon
      skipValue implicitSome levels) (e ++ ',' :: ys) () (',' :: ys))
    (hshort : ∀ e ∈ entries, ∀ piece, piece <+: e → Short anyFault (do
      discard identifier
      colon
      skipValue implicitSome levels) piece)
    (hcut : Cut ys (writeEntries '(' ')' depth entries)) :
    Fails anyFault (skipValue implicitSome (levels + 2)) ys := by
  have hopens : ∀ e ∈ entries, Opens ')' e := by
    intro e he
    obtain ⟨name, content, hname, rfl⟩ := hnamed e he
    exact writeEntry_opens hname content
  obtain ⟨xs, heq, hlayout⟩ := writeEntries_layout '(' depth hopens []
  rw [List.append_nil] at heq
  rw [heq] at hcut
  rcases cut_cons.mp hcut with rfl | ⟨ws, rfl, hws⟩
  · exact fails_skip_nil implicitSome (levels + 2)
  have hfirst : ∀ d ∈ ws.head?, d ≠ ')' := by
    intro d hd
    obtain rfl : '\n' = d := Option.some.inj (hws.head?_subset d hd)
    decide
  -- The four things that the look ahead may find: nothing, the letter r, more of a name, and a name with its colon.
  rcases (hlayout.cut hws).name_cases hnamed with
    hblank | ⟨bs, name, hbs, hname, ⟨piece, hnonempty, hpiece, rfl⟩ | ⟨behind, rfl⟩⟩
  · -- Nothing is left to tell a record from a tuple.
    have hgroup : Reads groupAhead ('(' :: ws) .tuple ('(' :: ws) := by
      refine @Reads.lookAhead _ _ _ [] _ _ ?_
      refine (reads_accept_char rfl ws).bind ((reads_skipBlanks_end hblank).bind ?_)
      have hnone : Refuses identifier [] := fun p => ⟨_, _, rfl⟩
      exact hnone.optional.bind (reads_pure _ _)
    refine (continues_skip_tuple implicitSome levels hfirst hgroup).fails (Fails.bind ?_)
    exact Reaches.here.fails (fails_hasElement hblank true).bind
  · obtain ⟨c, cs, hchars, hstart, -⟩ := isPlainName_iff.mp hname
    have hidentifier := identifier_cut hname hpiece
    rw [hchars] at hpiece
    obtain ⟨ds, rfl, -⟩ := (List.prefix_cons_iff.mp hpiece).resolve_left hnonempty
    have hblank : opensBlank c = false ∧ c ≠ ')' := not_blank_of_isIdentifierStart hstart
    have hstops : Stops opensBlank (c :: ds) := by simpa using hblank.1
    rcases hidentifier with ⟨hletter, hrefuses⟩ | ⟨found, hreads⟩
    · -- The letter r alone is taken for the beginning of a raw string.
      obtain ⟨rfl, rfl⟩ : c = 'r' ∧ ds = [] := by simpa using hletter
      have hgroup : Reads groupAhead ('(' :: (bs ++ ['r'])) .tuple ('(' :: (bs ++ ['r'])) := by
        refine @Reads.lookAhead _ _ _ ['r'] _ _ ?_
        refine (reads_accept_char rfl _).bind ((reads_skipBlanks hbs hstops).bind ?_)
        exact hrefuses.optional.bind (reads_pure _ _)
      have hraw : Fails anyFault (skipValue implicitSome levels) ['r'] := by
        obtain ⟨inside, heq⟩ := skipValue_eq_skipAny implicitSome levels
        rw [heq]
        exact fun p => ⟨_, _, rfl, trivial⟩
      refine (continues_skip_tuple implicitSome levels hfirst hgroup).fails (Fails.bind ?_)
      refine Reaches.here.fails ((reads_hasElement_true hbs hblank.1 hblank.2).fails ?_)
      rw [if_pos rfl]
      exact hraw.bind
    · -- Whether a colon follows cannot be told, since the text ends here.
      have hgroup : Fails anyFault groupAhead ('(' :: (bs ++ c :: ds)) := by
        refine Fails.lookAhead ?_
        refine (reads_accept_char rfl _).fails ((reads_skipBlanks hbs hstops).fails ?_)
        refine hreads.optional.fails ((reads_skipBlanks_none (Reader.stops_nil _)).fails ?_)
        exact fails_peekOrEnd.bind
      exact (continues_skip_parentheses implicitSome levels hfirst).fails hgroup.bind
  · have hgroup := reads_groupAhead_name hname hbs behind
    exact (continues_skip_record implicitSome levels hfirst hgroup).fails
      (fails_skipElements (by decide) hread hshort hlayout hws)

/-- With a piece of what is written of a field its reader fails or comes to the end, if the reader of what
stands in it does. -/
theorem short_skip_writeAs {written : Nat → α → List Char} {need : Nat}
    (hopens : ∀ depth v, Opens ']' (written depth v))
    (hread : ∀ left, need ≤ left → ∀ depth v ys, Ended ys →
      Reads (skipValue false left) (written depth v ++ ys) () ys)
    (hshort : ∀ left, need ≤ left → ∀ depth v piece, piece <+: written depth v →
      Short anyFault (skipValue false left) piece)
    {levels depth : Nat} {presence : Presence} (hlevels : need + presence.height ≤ levels)
    {value : presence.Wrap α} {text : List Char}
    (htext : writeAs depth written presence value = some text) :
    ∀ piece, piece <+: text → Short anyFault (skipValue false levels) piece := by
  have hwhole : Reads (skipValue false levels) text () [] := by
    have h := reads_skip_writeAs false hopens hread hlevels htext ended_nil
    rwa [List.append_nil] at h
  refine Reader.short_of_prefix hwhole fun ys hcut => ?_
  cases presence with
  | required =>
    obtain rfl : written depth value = text := by simpa [writeAs] using htext
    obtain ⟨lost, -, heq⟩ := hcut
    exact hshort levels hlevels depth value ys ⟨lost, heq⟩
  | repeated =>
    obtain rfl : writeItems depth (List.map (written (depth + 1)) value) = text := by
      simpa [writeAs] using htext
    obtain ⟨left, rfl⟩ := Nat.exists_eq_add_of_le' (Nat.le_of_add_left_le hlevels)
    have hleft : need ≤ left := Nat.le_of_add_le_add_right hlevels
    exact .inl (fails_skip_items depth hopens (hread left hleft) (hshort left hleft) hcut)
  | optional =>
    cases value with
    | none => simp [writeAs] at htext
    | some v =>
      obtain rfl : "Some(".toList ++ written depth v ++ [')'] = text := by
        simpa [writeAs] using htext
      obtain ⟨left, rfl⟩ := Nat.exists_eq_add_of_le' (Nat.le_of_add_left_le hlevels)
      obtain ⟨c, cs, hcs, hc, -⟩ := hopens depth v
      exact short_skip_option ⟨c, cs, hcs, hc⟩ (hshort left (Nat.le_of_add_le_add_right hlevels) depth v) hcut

/-! ## Documents

The recursion is on the shape, as for whole documents, and uses what is known of those: in front of the cut values are
passed over as they are when nothing is missing. -/

/-- A written document is passed over where nothing comes behind it. -/
theorem reads_skip_write_end (shape : Shape) (h : shape.WellNamed isPlainName) {levels : Nat}
    (hlevels : shape.height ≤ levels) (depth : Nat) (value : shape.Value) :
    Reads (skipValue false levels) (write shape depth value) () [] := by
  have hread := reads_skip_write false shape h levels hlevels depth value [] ended_nil
  rwa [List.append_nil] at hread

mutual

/-- **With what is left of a written document `skipValue` fails or comes to the end.** By recursion on the shape,
together with the fields of its records. Levels of nesting are no concern: the whole document has enough of them. -/
theorem short_skip_write : (shape : Shape) → shape.WellNamed isPlainName →
    ∀ levels, shape.height ≤ levels → ∀ depth (value : shape.Value) ys, Cut ys (write shape depth value) →
      Short anyFault (skipValue false levels) ys
  | .text, _, levels, _, depth, value, ys, hcut => by
    rw [write] at hcut
    exact .inl (fails_skip_string false levels hcut)
  | .number, _, levels, _, depth, value, ys, hcut => by
    have hlt := UInt32.toNat_lt value
    rw [write] at hcut
    refine short_skip_number false levels ?_ hcut
    unfold Word.max64
    omega
  | .list item, hnamed, levels, hlevels, depth, values, ys, hcut => by
    rw [Shape.height] at hlevels
    obtain ⟨left, rfl⟩ := Nat.exists_eq_add_of_le' (Nat.le_of_add_left_le hlevels)
    have hleft : item.height ≤ left := by omega
    rw [write] at hcut
    exact .inl (fails_skip_items depth (write_opens item) (reads_skip_write false item hnamed left hleft)
      (fun depth v => Reader.short_of_prefix (reads_skip_write_end item hnamed hleft depth v)
        (short_skip_write item hnamed left hleft depth v)) hcut)
  | .record _ fields, hnamed, levels, hlevels, depth, value, ys, hcut => by
    rw [Shape.height] at hlevels
    obtain ⟨left, rfl⟩ := Nat.exists_eq_add_of_le' (Nat.le_of_add_left_le hlevels)
    have hleft : fields.height ≤ left := by omega
    rw [write] at hcut
    exact .inl (fails_skip_record false depth (mem_writeFields fields hnamed (depth + 1) value)
      (reads_skip_writeFields false fields hnamed left hleft (depth + 1) value)
      (short_skip_writeFields fields hnamed left hleft (depth + 1) value) hcut)

/-- With a piece of a written entry its reader fails or comes to the end. -/
theorem short_skip_writeFields : (fields : Fields) → fields.WellNamed isPlainName →
    ∀ levels, fields.height ≤ levels → ∀ depth (value : fields.Value),
      ∀ e ∈ writeFields fields depth value, ∀ piece, piece <+: e → Short anyFault (do
        discard identifier
        colon
        skipValue false levels) piece
  | .nil, _, _, _, _, _, e, he, _, _ => by simp [writeFields] at he
  | .field name presence content rest, hnamed, levels, hlevels, depth, (value, values), e, he, piece,
      hpiece => by
    obtain ⟨hfit, -, hcontent, hrest⟩ := hnamed
    rw [Fields.height, Nat.max_le] at hlevels
    rw [writeFields] at he
    rcases List.mem_append.mp he with he | he
    · rw [Option.mem_toList, Option.map_eq_some_iff] at he
      obtain ⟨text, htext, rfl⟩ := he
      have hblank : Stops opensBlank text := by
        have h := writeAs_not_blank (write_opens content) htext []
        rwa [List.append_nil] at h
      refine short_skip_entry false hfit hblank ?_ hpiece
      exact short_skip_writeAs (write_opens content) (reads_skip_write false content hcontent)
        (fun left hleft depth v => Reader.short_of_prefix (reads_skip_write_end content hcontent hleft depth v)
          (short_skip_write content hcontent left hleft depth v)) hlevels.1 htext
    · exact short_skip_writeFields rest hrest levels hlevels.2 depth values e he piece hpiece

end

/-! ## Whole texts

A text has an opening before its value, where attributes may stand. None is written, and what is left of a record
begins with its parenthesis or is nothing. -/

/-- **A written record that is cut short is no RON**, if the limit of nesting leaves room for its shape. The cut may be
anywhere, before the first character or before the last parenthesis. -/
theorem run_skipText_cut {name : String} {fields : Fields} (h : fields.WellNamed isPlainName)
    (hheight : (Shape.record name fields).height ≤ levelLimit) (value : fields.Value) {cut : String}
    (hcut : Cut cut.toList (writeText (.record name fields) value).toList) :
    ∃ refusal, skipText.run cut = .error refusal := by
  rw [Shape.height] at hheight
  obtain ⟨left, hleft⟩ := Nat.exists_eq_add_of_le' (Nat.le_of_add_left_le hheight)
  have hfields : fields.height ≤ left := by omega
  rw [writeText, String.toList_ofList, write] at hcut
  have hvalue : Fails anyFault (skipValue false levelLimit) cut.toList := by
    rw [hleft]
    exact fails_skip_record false 0 (mem_writeFields fields h 1 value)
      (reads_skip_writeFields false fields h left hfields 1 value)
      (short_skip_writeFields fields h left hfields 1 value) hcut
  have hopening : Reads opening cut.toList false cut.toList := by
    rcases cut_cons.mp hcut with hnil | ⟨ws, hws, -⟩
    · rw [hnil]
      exact @reads_opening_blanks [] [] (by simp) (Reader.stops_nil _) (by simp)
    · rw [hws]
      exact reads_opening_value (by decide) ws
  have hskip : Fails anyFault skipText cut.toList := hopening.fails hvalue.bind
  obtain ⟨e, cursor, heq, -⟩ := hskip .start
  refine ⟨(e, cursor.position), ?_⟩
  rw [Reader.run, Cursor.ofText, heq]

end Gamebook.Ron
