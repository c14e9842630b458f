import Gamebook.Proofs.Json.RoundTrip

/-!
# The grammar of JSON

`Part frame xs` derives the texts that may stand in a frame: the values that a list holds, and the entries
that an object holds. Numbers are derived from their parts, and strings character by character.

The reader that passes over a value knows of no more than the grammar: it passes every text that the grammar derives,
whatever is open around it (`Part.passed`), and so it accepts a text that is a value between blanks
(`runText_skipValue`). Only this direction is proved here. It is what is needed to show that a text can be completed
to a well-formed one; that the reader passes nothing else is not used.

That reader is a loop over frames and not a recursion over values. Its state is the list of frames that are open, and
a round passes the beginning of a value, closes what ends there, and goes on to the next part of the frame that is
left. So a nested value is not passed by one call of anything, and an induction over the grammar needs a statement
about the loop in the middle of its work. This is `Passed`: with any frames open around it, a part is passed up to
where the innermost frame goes on, if from there the loop comes to its end. What is behind the part is in the
assumption, and so rounds are put together from the back.

`Awaits` and `Resumes` are the two places in a round where this can be said: before a part, and behind one, where
frames may close.
-/

namespace Gamebook.Json

open Gamebook.Text
open Text.Reader (Reads Rounds Stops reads_pure reads_peek reads_advance reads_skipWhile)

/-! ## Numbers

A number is a sign, a whole part, a fraction and an exponent, of which only the whole part must be there. -/

/-- Digits, at least one. -/
def AllDigits (ds : List Char) : Prop := ds ≠ [] ∧ ∀ d ∈ ds, d.isDigit = true

/-- The whole part of a number: zero, or digits of which the first is not a zero. -/
def WholePart (ds : List Char) : Prop := AllDigits ds ∧ (ds.head? = some '0' → ds = ['0'])

/-- The fraction of a number, if it has one. -/
inductive FractionPart : List Char → Prop
  | none : FractionPart []
  | point {ds : List Char} : AllDigits ds → FractionPart ('.' :: ds)

/-- The exponent of a number, if it has one. -/
inductive ExponentPart : List Char → Prop
  | none : ExponentPart []
  | letter {e : Char} {sign ds : List Char} : e = 'e' ∨ e = 'E' →
      sign = [] ∨ sign = ['+'] ∨ sign = ['-'] → AllDigits ds → ExponentPart (e :: (sign ++ ds))

/-- A number without its sign. -/
def Unsigned (xs : List Char) : Prop :=
  ∃ whole fraction exponent, WholePart whole ∧ FractionPart fraction ∧ ExponentPart exponent ∧
    xs = whole ++ (fraction ++ exponent)

/-- A number. -/
inductive Number : List Char → Prop
  | positive {xs : List Char} : Unsigned xs → Number xs
  | negative {xs : List Char} : Unsigned xs → Number ('-' :: xs)

/-! ## Strings

A string is given by what is behind its opening quote, for this is what a reader has before it. Codes may be any four
digits: whether two of them make a pair is not a matter of the grammar. -/

/-- What is behind the opening quote of a string, the closing quote included. -/
inductive Quoted : List Char → Prop
  | close : Quoted ['"']
  | plain {c : Char} {cs : List Char} : c ≠ '"' → c ≠ '\\' → 0x20 ≤ c.toNat → Quoted cs →
      Quoted (c :: cs)
  | letter {c meaning : Char} {cs : List Char} : simpleEscape? c = some meaning → Quoted cs →
      Quoted ('\\' :: c :: cs)
  | code {a b c d : Char} {n : Nat} {cs : List Char} : fourHex? a b c d = some n → Quoted cs →
      Quoted ('\\' :: 'u' :: a :: b :: c :: d :: cs)

/-! ## Values and entries

Lists and objects are one kind of derivation, with the frame telling the two apart. The parts of a frame are derived
by themselves and then laid out with commas and blanks. -/

/-- The character that opens a list or an object. -/
def Frame.opener : Frame → Char
  | list => '['
  | object => '{'

/-- What may stand in a frame: a value in a list, an entry in an object. -/
inductive Part : Frame → List Char → Prop
  | null : Part .list "null".toList
  | yes : Part .list "true".toList
  | no : Part .list "false".toList
  | number {xs : List Char} : Number xs → Part .list xs
  | text {xs : List Char} : Quoted xs → Part .list ('"' :: xs)
  | nested {frame : Frame} {parts : List (List Char)} {xs : List Char} :
      (∀ part ∈ parts, Part frame part) → Layout frame.close true parts xs → Part .list (frame.opener :: xs)
  | entry {key bs bs' xs : List Char} : Quoted key → Blank bs → Blank bs' → Part .list xs →
      Part .object ('"' :: (key ++ (bs ++ ':' :: (bs' ++ xs))))

/-- A value is what may stand in a list. -/
abbrev Value (xs : List Char) : Prop := Part .list xs

/-! ## Passing numbers and strings

Numbers and strings are passed by readers of their own, part by part as the grammar derives them. -/

section Scalars

variable {ds xs ys : List Char}

theorem reads_skipDigits (hds : AllDigits ds) (hy : ∀ c ∈ ys.head?, c.isDigit = false) :
    Reads skipDigits (ds ++ ys) () ys := by
  obtain ⟨hnonempty, hdigits⟩ := hds
  obtain ⟨d, rest, rfl⟩ := List.exists_cons_of_ne_nil hnonempty
  have hd : d.isDigit = true := hdigits d List.mem_cons_self
  refine (reads_peek _).bind ?_
  show Reads (if d.isDigit = true then _ else _) _ _ _
  rw [if_pos hd]
  exact reads_skipWhile hdigits hy

theorem reads_skipExponent? (hxs : ExponentPart xs) (hy : Ended ys) : Reads skipExponent? (xs ++ ys) () ys := by
  refine (reads_peek _).bind ?_
  cases hxs with
  | none =>
    rw [List.nil_append]
    split
    · rename_i heq
      exact absurd (hy _ heq) (by decide)
    · rename_i heq
      exact absurd (hy _ heq) (by decide)
    · exact reads_pure _ _
  | @letter e sign ds he hsign hds =>
    have hexponent : Reads skipExponent (e :: (sign ++ (ds ++ ys))) () ys := by
      refine (reads_advance 1 _).bind ((reads_peek _).bind ?_)
      have hdigits := reads_skipDigits hds hy.not_digit
      obtain ⟨d, rest, rfl⟩ := List.exists_cons_of_ne_nil hds.1
      have hd : d.isDigit = true := hds.2 d List.mem_cons_self
      rcases hsign with rfl | rfl | rfl
      · simp only [List.nil_append, List.cons_append, List.drop_succ_cons, List.drop_zero,
          List.head?_cons] at hdigits ⊢
        split
        · rename_i heq
          obtain rfl : d = '+' := Option.some.inj heq
          exact absurd hd (by decide)
        · rename_i heq
          obtain rfl : d = '-' := Option.some.inj heq
          exact absurd hd (by decide)
        · exact hdigits
      · exact (reads_advance 1 _).bind hdigits
      · exact (reads_advance 1 _).bind hdigits
    rw [List.cons_append, List.append_assoc]
    rcases he with rfl | rfl
    · exact hexponent
    · exact hexponent

/-- Behind the digits of a number come neither more of them nor a point. -/
theorem ExponentPart.head_append (hxs : ExponentPart xs) (hy : Ended ys) :
    ∀ c ∈ (xs ++ ys).head?, c.isDigit = false ∧ c ≠ '.' := by
  intro c hc
  cases hxs with
  | none =>
    refine ⟨hy.not_digit c hc, ?_⟩
    rintro rfl
    exact absurd (hy _ hc) (by decide)
  | letter he =>
    obtain rfl := Option.some.inj hc
    rcases he with rfl | rfl <;> decide

theorem FractionPart.head_append {ws : List Char} (hxs : FractionPart xs)
    (hws : ∀ c ∈ ws.head?, c.isDigit = false ∧ c ≠ '.') : ∀ c ∈ (xs ++ ws).head?, c.isDigit = false := by
  intro c hc
  cases hxs with
  | none => exact (hws c hc).1
  | point =>
    obtain rfl := Option.some.inj hc
    decide

theorem reads_skipUnsigned (hxs : Unsigned xs) (hy : Ended ys) : Reads skipUnsigned (xs ++ ys) () ys := by
  obtain ⟨whole, fraction, exponent, ⟨hwhole, hzero⟩, hfraction, hexponent, rfl⟩ := hxs
  have hrest := hexponent.head_append hy
  have hdigitless := hfraction.head_append hrest
  rw [List.append_assoc, List.append_assoc]
  refine (reads_peek _).bind ?_
  extract_lets exponentTail tail
  have htail : Reads (tail ()) (fraction ++ (exponent ++ ys)) () ys := by
    refine (reads_peek _).bind ?_
    cases hfraction with
    | none =>
      rw [List.nil_append]
      split
      · rename_i heq
        exact absurd rfl (hrest _ heq).2
      · exact reads_skipExponent? hexponent hy
    | @point ds hds =>
      obtain ⟨d, rest, rfl⟩ := List.exists_cons_of_ne_nil hds.1
      have hd : d.isDigit = true := hds.2 d List.mem_cons_self
      refine (reads_advance 1 _).bind ((reads_peek _).bind ?_)
      show Reads (if d.isDigit = true then _ else _) _ _ _
      rw [if_pos hd]
      refine (reads_skipDigits hds fun c hc => (hrest c hc).1).bind ?_
      exact reads_skipExponent? hexponent hy
  obtain ⟨d, rest, rfl⟩ := List.exists_cons_of_ne_nil hwhole.1
  rw [List.cons_append, List.head?_cons]
  split
  · -- A zero is all of the whole part.
    rename_i heq
    obtain ⟨-, rfl⟩ := List.cons.inj (hzero heq)
    refine (reads_advance 1 _).bind ((reads_peek _).bind ?_)
    have hnone : (fraction ++ (exponent ++ ys)).head?.any Char.isDigit = false := by
      cases hhead : (fraction ++ (exponent ++ ys)).head? with
      | none => rfl
      | some c => exact hdigitless c hhead
    show Reads (if (fraction ++ (exponent ++ ys)).head?.any Char.isDigit = true then _ else _) _ _ _
    rw [if_neg (by rw [hnone]; decide)]
    exact htail
  · exact (reads_skipDigits hwhole hdigitless).bind htail

/-- A string is passed up to its closing quote. -/
theorem rounds_skipStringStep (hxs : Quoted xs) (ys : List Char) :
    Rounds skipStringStep () (xs ++ ys) () ys := by
  induction hxs with
  | close =>
    refine .last ((reads_peekString _ _).bind ?_)
    rw [if_pos rfl]
    exact (reads_advance 1 _).bind (reads_pure _ _)
  | @plain c cs hquote hslash hprintable _ ih =>
    refine .next ?_ (by simp) ih
    refine (reads_peekString _ _).bind ?_
    rw [if_neg hquote, if_neg hslash, if_neg (by omega)]
    exact (reads_advance 1 _).bind (reads_pure _ _)
  | letter hletter _ ih =>
    refine .next ?_ (by simp only [List.length_append, List.length_cons]; omega) ih
    refine (reads_peekString _ _).bind ?_
    rw [if_neg (by decide), if_pos rfl]
    exact (reads_advance 1 _).bind ((reads_escape_simple hletter _ _).bind (reads_pure _ _))
  | @code a b c d n cs hcode _ ih =>
    refine .next ?_ (by simp only [List.length_append, List.length_cons]; omega) ih
    refine (reads_peekString _ _).bind ?_
    rw [if_neg (by decide), if_pos rfl]
    refine (reads_advance 1 _).bind (Reads.bind (a := '\\') ?_ (reads_pure _ _))
    refine (reads_peekString _ _).bind ?_
    rw [show simpleEscape? 'u' = none from rfl]
    exact (reads_advance 1 _).bind ((reads_hexEscape_code hcode _).bind (reads_pure _ _))

theorem reads_skipString (hxs : Quoted xs) (ys : List Char) : Reads skipString ('"' :: (xs ++ ys)) () ys :=
  (reads_advance 1 _).bind (rounds_skipStringStep hxs ys).reads

end Scalars

/-! ## Passing nested values

The loop over frames. First what a round is made of, then what closing a frame and beginning a part do to the loop,
and last the induction. -/

section Nested

variable {frame : Frame} {outer frames : List Frame} {parts : List (List Char)} {bs cs xs ys zs : List Char}
  {c : Char}

/-- What is there where the innermost frame waits for its next part: a value, or the key of one. Where no frame
is open nothing is waited for. -/
def Awaits : List Frame → List Char → List Char → Prop
  | [], xs, zs => xs = zs
  | .list :: outer, xs, zs => Rounds skipStep (.list :: outer) xs () zs
  | .object :: outer, xs, zs =>
    ∃ ys, Reads skipKey xs () ys ∧ ys.length ≤ xs.length ∧ Rounds skipStep (.object :: outer) ys () zs

/-- Frames are closed, and then the innermost that is left gets its next part. -/
def Resumes (afterValue : Bool) (frames : List Frame) (xs zs : List Char) : Prop :=
  ∃ left ys, Rounds closeStep (afterValue, frames) xs left ys ∧ ys.length ≤ xs.length ∧ Awaits left ys zs

/-- What a round does where it has closed frames: it passes the key, if it stands before one. -/
def enter : List Frame → Reader (List Frame ⊕ Unit)
  | [] => return .inr ()
  | .object :: outer => do
    skipKey
    return .inl (.object :: outer)
  | .list :: outer => return .inl (.list :: outer)

theorem skipStep_eq (frames : List Frame) :
    skipStep frames = skipHead >>= fun opened =>
      Reader.loop closeStep (opened.isNone, opened.toList ++ frames) >>= enter := by
  unfold skipStep
  congr 1
  funext opened
  cases opened with
  | none => congr 1
  | some frame => congr 1

/-- A value is passed once its beginning is and what is open then. -/
theorem rounds_skipStep {opened : Option Frame} (hhead : Reads skipHead xs opened ys)
    (hless : ys.length < xs.length) (h : Resumes opened.isNone (opened.toList ++ frames) ys zs) :
    Rounds skipStep frames xs () zs := by
  obtain ⟨left, ws, hcloses, hle, hawaits⟩ := h
  have hstep : ∀ {answer : List Frame ⊕ Unit} {vs : List Char},
      Reads (enter left) ws answer vs → Reads (skipStep frames) xs answer vs := by
    intro answer vs hanswer
    rw [skipStep_eq]
    exact hhead.bind (hcloses.reads.bind hanswer)
  match left, hawaits with
  | [], hdone =>
    rw [← show ws = zs from hdone]
    exact .last (hstep (reads_pure _ _))
  | .list :: outer, hrounds => exact .next (hstep (reads_pure _ _)) (by omega) hrounds
  | .object :: outer, ⟨vs, hkey, hlength, hrounds⟩ =>
    exact .next (hstep (hkey.bind (reads_pure _ _))) (by omega) hrounds

theorem resumes_nil (afterValue : Bool) (zs : List Char) : Resumes afterValue [] zs zs :=
  ⟨[], zs, .last (reads_pure _ _), Nat.le_refl _, rfl⟩

/-- The innermost frame is closed. -/
theorem Resumes.close (h : Resumes true outer xs zs) (afterValue : Bool) (frame : Frame) (hb : Blank bs) :
    Resumes afterValue (frame :: outer) (bs ++ frame.close :: xs) zs := by
  obtain ⟨left, ys, hcloses, hle, hawaits⟩ := h
  have hspace : isSpace frame.close = false := by cases frame <;> decide
  have hcomma : frame.close ≠ ',' := by cases frame <;> decide
  refine ⟨left, ys, .next ?_ ?_ hcloses, ?_, hawaits⟩
  · refine (reads_peekWord hb (by simpa using hspace)).bind ?_
    show Reads (if frame.close = ',' ∧ _ then _ else _) _ _ _
    rw [if_neg fun h => hcomma h.1, if_pos rfl]
    exact (reads_advance 1 _).bind (reads_pure _ _)
  · simp only [List.length_append, List.length_cons]
    omega
  · simp only [List.length_append, List.length_cons]
    omega

/-- The innermost frame gets its next part. -/
theorem Before.resumes {first : Bool} (h : Before first bs) (hspace : isSpace c = false)
    (hclose : c ≠ frame.close) (hpart : ∀ bs', Blank bs' → Awaits (frame :: outer) (bs' ++ c :: cs) zs) :
    Resumes (!first) (frame :: outer) (bs ++ c :: cs) zs := by
  cases h with
  | first hb =>
    refine ⟨frame :: outer, c :: cs, .last ?_, by simp, hpart [] blank_nil⟩
    refine (reads_peekWord hb (by simpa using hspace)).bind ?_
    show Reads (if c = ',' ∧ false = true then _ else _) _ _ _
    rw [if_neg fun h => absurd h.2 (by decide), if_neg hclose, if_neg (by decide)]
    exact reads_pure _ _
  | @next bs bs' hb hb' =>
    refine ⟨frame :: outer, bs' ++ c :: cs, .last ?_, ?_, hpart bs' hb'⟩
    · rw [List.append_assoc, List.cons_append]
      refine (reads_peekWord hb (by simp [isSpace])).bind ?_
      show Reads (if ',' = ',' ∧ true = true then _ else _) _ _ _
      rw [if_pos ⟨rfl, rfl⟩]
      exact (reads_advance 1 _).bind (reads_pure _ _)
    · simp only [List.length_append, List.length_cons]
      omega

/-- A number without its sign begins with a digit. -/
theorem Unsigned.opens (h : Unsigned xs) : ∃ d ds, xs = d :: ds ∧ d.isDigit = true := by
  obtain ⟨whole, fraction, exponent, ⟨⟨hnonempty, hdigits⟩, -⟩, -, -, rfl⟩ := h
  obtain ⟨d, rest, rfl⟩ := List.exists_cons_of_ne_nil hnonempty
  exact ⟨d, _, rfl, hdigits d List.mem_cons_self⟩

theorem ne_of_isDigit {d : Char} (hc : c.isDigit = true) (hd : d.isDigit = false) : c ≠ d := by
  rintro rfl
  rw [hd] at hc
  cases hc

theorem not_space_of_isDigit (hc : c.isDigit = true) : isSpace c = false := by
  simp only [isSpace, Bool.or_eq_false_iff, beq_eq_false_iff_ne]
  exact ⟨⟨⟨ne_of_isDigit hc rfl, ne_of_isDigit hc rfl⟩, ne_of_isDigit hc rfl⟩, ne_of_isDigit hc rfl⟩

/-- No part begins like a blank or like the end of what it is a part of. -/
theorem Part.opens (h : Part frame xs) : ∃ c cs, xs = c :: cs ∧ isSpace c = false ∧ c ≠ ']' ∧ c ≠ '}' := by
  cases h with
  | null => exact ⟨'n', _, rfl, by decide⟩
  | yes => exact ⟨'t', _, rfl, by decide⟩
  | no => exact ⟨'f', _, rfl, by decide⟩
  | number h =>
    cases h with
    | negative => exact ⟨'-', _, rfl, by decide⟩
    | positive h =>
      obtain ⟨d, ds, rfl, hd⟩ := h.opens
      exact ⟨d, ds, rfl, not_space_of_isDigit hd, ne_of_isDigit hd rfl, ne_of_isDigit hd rfl⟩
  | text => exact ⟨'"', _, rfl, by decide⟩
  | @nested frame => exact ⟨frame.opener, _, rfl, by cases frame <;> decide⟩
  | entry => exact ⟨'"', _, rfl, by decide⟩

/-- What may stand in a frame is passed there, up to where the frame goes on. -/
def Passed : Frame → List Char → Prop
  | .list, xs => ∀ frames bs ys zs, Blank bs → Ended ys → Resumes true frames ys zs →
    Rounds skipStep frames (bs ++ (xs ++ ys)) () zs
  | .object, xs => ∀ outer bs ys zs, Blank bs → Ended ys → Resumes true (.object :: outer) ys zs →
    Awaits (.object :: outer) (bs ++ (xs ++ ys)) zs

theorem Passed.awaits (h : Passed frame xs) (hb : Blank bs) (hy : Ended ys)
    (hrest : Resumes true (frame :: outer) ys zs) : Awaits (frame :: outer) (bs ++ (xs ++ ys)) zs := by
  cases frame with
  | list => exact h _ _ _ _ hb hy hrest
  | object => exact h _ _ _ _ hb hy hrest

/-- The parts of a frame are passed one by one, and then its end. By induction on the layout, from its end. -/
theorem resumes_layout {first : Bool} (hlayout : Layout frame.close first parts xs)
    (hparts : ∀ part ∈ parts, Part frame part ∧ Passed frame part) (h : Resumes true outer ys zs) :
    Resumes (!first) (frame :: outer) (xs ++ ys) zs := by
  induction hlayout with
  | done hb =>
    rw [List.append_assoc]
    exact h.close _ frame hb
  | @part first bs part parts xs hbefore hlayout ih =>
    obtain ⟨hpart, hpassed⟩ := hparts part List.mem_cons_self
    have hrest : Resumes true (frame :: outer) (xs ++ ys) zs :=
      ih fun part hmem => hparts part (List.mem_cons_of_mem _ hmem)
    have hended : Ended (xs ++ ys) := hlayout.ended (by cases frame <;> decide) ys
    have hawaits : ∀ bs', Blank bs' → Awaits (frame :: outer) (bs' ++ (part ++ (xs ++ ys))) zs :=
      fun bs' hb' => hpassed.awaits hb' hended hrest
    obtain ⟨c, cs, rfl, hspace, hbracket, hbrace⟩ := hpart.opens
    have hclose : c ≠ frame.close := by
      cases frame with
      | list => exact hbracket
      | object => exact hbrace
    rw [List.append_assoc, List.append_assoc]
    exact hbefore.resumes hspace hclose hawaits

/-- A scalar is passed whole. -/
theorem passed_scalar (hxs : xs ≠ [])
    (h : ∀ bs ys, Blank bs → Ended ys → Reads skipHead (bs ++ (xs ++ ys)) none ys) : Passed .list xs := by
  intro frames bs ys zs hb hy hrest
  refine rounds_skipStep (h bs ys hb hy) ?_ hrest
  have hpos : 0 < xs.length := List.length_pos_iff.mpr hxs
  simp only [List.length_append]
  omega

theorem passed_number (h : Number xs) : Passed .list xs := by
  cases h with
  | negative h =>
    refine passed_scalar (List.cons_ne_nil _ _) fun bs ys hb hy => ?_
    refine (reads_peekOr (c := '-') _ hb (by decide) _).bind ?_
    rw [if_neg (by decide), if_neg (by decide), if_neg (by decide), if_pos rfl]
    exact ((reads_advance 1 _).bind (reads_skipUnsigned h hy)).bind (reads_pure _ _)
  | positive h =>
    obtain ⟨d, ds, rfl, hd⟩ := h.opens
    refine passed_scalar (List.cons_ne_nil _ _) fun bs ys hb hy => ?_
    refine (reads_peekOr _ hb (not_space_of_isDigit hd) _).bind ?_
    rw [if_neg (ne_of_isDigit hd rfl), if_neg (ne_of_isDigit hd rfl), if_neg (ne_of_isDigit hd rfl),
      if_neg (ne_of_isDigit hd rfl), if_pos hd]
    exact (reads_skipUnsigned h hy).bind (reads_pure _ _)

theorem passed_text (h : Quoted xs) : Passed .list ('"' :: xs) := by
  refine passed_scalar (List.cons_ne_nil _ _) fun bs ys hb _ => ?_
  refine (reads_peekOr _ hb (by decide) _).bind ?_
  rw [if_neg (by decide), if_neg (by decide), if_neg (by decide), if_neg (by decide), if_neg (by decide),
    if_pos rfl]
  exact (reads_skipString h ys).bind (reads_pure _ _)

/-- **What the grammar derives is passed**, whatever is open around it. By induction on the derivation: a scalar is
passed whole, a frame is opened, its parts are passed one by one, and it is closed. -/
theorem Part.passed (h : Part frame xs) : Passed frame xs := by
  induction h with
  | null =>
    refine passed_scalar (by decide) fun bs ys hb _ => ?_
    refine (reads_peekOr (c := 'n') _ hb (by decide) _).bind ?_
    rw [if_pos rfl]
    exact (reads_word "null".toList ys).bind (reads_pure _ _)
  | yes =>
    refine passed_scalar (by decide) fun bs ys hb _ => ?_
    refine (reads_peekOr (c := 't') _ hb (by decide) _).bind ?_
    rw [if_neg (by decide), if_pos rfl]
    exact (reads_word "true".toList ys).bind (reads_pure _ _)
  | no =>
    refine passed_scalar (by decide) fun bs ys hb _ => ?_
    refine (reads_peekOr (c := 'f') _ hb (by decide) _).bind ?_
    rw [if_neg (by decide), if_neg (by decide), if_pos rfl]
    exact (reads_word "false".toList ys).bind (reads_pure _ _)
  | number h => exact passed_number h
  | text h => exact passed_text h
  | @nested frame parts xs hparts hlayout ih =>
    intro frames bs ys zs hb _ hrest
    have hhead : Reads skipHead (bs ++ (frame.opener :: xs ++ ys)) (some frame) (xs ++ ys) := by
      cases frame with
      | list =>
        refine (reads_peekOr _ hb (by decide) _).bind ?_
        exact (reads_advance 1 _).bind (reads_pure _ _)
      | object =>
        refine (reads_peekOr _ hb (by decide) _).bind ?_
        exact (reads_advance 1 _).bind (reads_pure _ _)
    refine rounds_skipStep hhead ?_ ?_
    · simp only [List.length_append, List.length_cons]
      omega
    · exact resumes_layout hlayout (fun part hmem => ⟨hparts part hmem, ih part hmem⟩) hrest
  | @entry key ks ks' xs hkey hks hks' _ ih =>
    intro outer bs ys zs hb hy hrest
    refine ⟨ks' ++ (xs ++ ys), ?_, ?_, ih _ ks' ys zs hks' hy hrest⟩
    · simp only [List.cons_append, List.append_assoc]
      refine (reads_peekWord hb (by simp [isSpace])).bind ((reads_skipString hkey _).bind ?_)
      exact (reads_peekWord hks (by simp [isSpace])).bind (reads_advance 1 _)
    · simp only [List.length_append, List.length_cons]
      omega

end Nested

/-! ## Whole texts

No frame is open around the value of a text, so the loop ends behind it. -/

section Whole

variable {bs bs' xs ys : List Char} {text : String}

/-- A value is passed, whatever comes behind it that does not go on with a number. -/
theorem reads_skipValue (hb : Blank bs) (hxs : Value xs) (hy : Ended ys) :
    Reads skipValue (bs ++ (xs ++ ys)) () ys :=
  (hxs.passed [] bs ys ys hb hy (resumes_nil true ys)).reads

/-- **A text that is a value between blanks is accepted** by the reader of any value. -/
theorem runText_skipValue (hb : Blank bs) (hxs : Value xs) (hb' : Blank bs')
    (htext : text.toList = bs ++ (xs ++ bs')) : runText skipValue text = .ok () := by
  refine runText_of_reads ?_ hb'
  rw [htext]
  exact reads_skipValue hb hxs hb'.ended

end Whole

end Gamebook.Json
