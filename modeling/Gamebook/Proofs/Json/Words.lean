import Gamebook.Json.Read
import Gamebook.Json.Write
import Gamebook.Proofs.Text.Digits

/-!
# Reading single words of JSON

What the readers of blanks, numbers and strings make of a word that was written. A number is taken as far as it goes,
so its reader needs to know that no character comes behind it that could go on with it (`Ended`). Nothing else that is
written depends on what comes behind it: a string ends with its quote, and a name with its last letter.

A number is read within 64 bits, and only then held against the 32 bits of an id. So digits are multiplied up under the
larger limit, one round for each (`rounds_integerStep`), and a written number is never near it. It is read as a natural
number because it has neither a sign nor a point nor an exponent; what becomes of those is of no interest to what was
written, and is said where texts of every kind are.

A string is read character by character, and so it is written: each character has a form of its own, itself or an
escape, and from this form the character is read again, whatever follows (`reads_stringStep_escapeChar`). There are
three kinds of forms. Quotes, backslashes and some controls have a letter behind a backslash; other controls have a
code of four digits; and everything else stands for itself, also beyond the first plane, where JSON would allow two
codes.
-/

namespace Gamebook.Json

open Gamebook.Text
open Text.Reader (Reads Rounds Stops reads_pure reads_peek reads_advance reads_skipWhile)

variable {bs ys : List Char} {c : Char}

/-- Whether a character could go on with a number. -/
def goesOn (c : Char) : Bool := c.isDigit || c == '.' || c == 'e' || c == 'E'

/-- No number goes on. -/
def Ended (ys : List Char) : Prop := Stops goesOn ys

theorem Ended.not_digit (h : Ended ys) : ∀ c ∈ ys.head?, c.isDigit = false := by
  intro c hc
  have hgoes := h c hc
  simp only [goesOn, Bool.or_eq_false_iff] at hgoes
  exact hgoes.1.1.1

theorem ended_nil : Ended [] := Reader.stops_nil _

/-! ## Blanks

Blanks are passed before every word, so its reader stands at the word or at the end. -/

theorem reads_peekWord (hb : ∀ c ∈ bs, isSpace c = true) (hy : Stops isSpace ys) :
    Reads peekWord (bs ++ ys) ys.head? ys :=
  (reads_skipWhile hb hy).bind (reads_peek ys)

theorem reads_peekOr (fault : Fault) (hb : ∀ c ∈ bs, isSpace c = true) (hc : isSpace c = false)
    (ys : List Char) : Reads (peekOr fault) (bs ++ c :: ys) c (c :: ys) :=
  (reads_peekWord hb (by simpa using hc)).bind (reads_pure _ _)

/-! ## Names

The three names that stand for values are read one character after the other, each of which must be the right one. -/

theorem reads_word (cs ys : List Char) : Reads (word cs) (cs ++ ys) () ys := by
  induction cs with
  | nil => exact reads_pure _ _
  | cons c cs ih =>
    refine (reads_peek _).bind ?_
    show Reads (if c = c then _ else _) _ _ _
    rw [if_pos rfl]
    exact (reads_advance 1 _).bind ih

/-! ## Whole numbers

The reader of numbers takes the first digit by itself, for zero is a number that no digit may follow. -/

theorem digitValue_digitChar {d : Nat} (hd : d < 10) : digitValue (Nat.digitChar d) = d :=
  Nat.toNat_digitChar_sub_48_of_lt_ten hd

/-- Only zero is written with a zero in front. -/
theorem head_toDigits_ne_zero {n : Nat} : 0 < n → ∀ c ∈ (Nat.toDigits 10 n).head?, c ≠ '0' := by
  induction n using Nat.strongRecOn with
  | ind n ih =>
    intro hn c hc
    rcases Nat.lt_or_ge n 10 with hlt | hge
    · rw [Nat.toDigits_of_lt_base hlt] at hc
      obtain rfl : Nat.digitChar n = c := by simpa using hc
      simp only [ne_eq, Nat.digitChar_eq_zero]
      omega
    · -- The first digit is that of the number without its last one.
      obtain ⟨d, ds, hds, -⟩ := toDigits_eq_cons (n / 10)
      rw [Nat.toDigits_of_base_le (by omega) hge, hds, List.cons_append] at hc
      refine ih (n / 10) (Nat.div_lt_self (by omega) (by omega)) (Nat.div_pos hge (by omega)) c ?_
      rw [hds]
      exact hc

theorem reads_afterInteger (n : Nat) (hy : Ended ys) :
    Reads (afterInteger true n) ys (.natural n) ys := by
  refine (reads_peek ys).bind ?_
  split
  · rename_i heq
    exact absurd (hy _ heq) (by decide)
  · rename_i heq
    exact absurd (hy _ heq) (by decide)
  · rename_i heq
    exact absurd (hy _ heq) (by decide)
  · rw [if_pos rfl]
    exact reads_pure _ _

/-- The digits of a number within 64 bits are all taken. -/
theorem rounds_integerStep {n : Nat} (hn : n < Word.count64) (hy : Ended ys) :
    Rounds integerStep 0 (Nat.toDigits 10 n ++ ys) (n, true) ys := by
  refine digits_induction (P := fun _ v cs => Rounds integerStep v cs (n, true) ys) (by omega) ?_ ?_
  · intro _ v d cs hd hle _ ih
    refine .next ?_ (by simp) ih
    -- The value so far does not exceed the number, and so not 64 bits either.
    have hfits : overflows (v * 10 + d) = false := by
      simp only [overflows, decide_eq_false_iff_not]
      omega
    have hdigit : (Nat.digitChar d).isDigit = true := by simp [Nat.isDigit_digitChar, hd]
    refine (reads_peek _).bind ?_
    simp only [List.head?_cons, digitValue_digitChar hd]
    rw [if_pos hdigit, if_neg (by simp [hfits])]
    exact (reads_advance 1 _).bind (reads_pure _ _)
  · refine .last ((reads_peek ys).bind ?_)
    cases ys with
    | nil => exact reads_pure _ _
    | cons e es =>
      have he : e.isDigit = false := hy.not_digit e rfl
      simp only [List.head?_cons, he, Bool.false_eq_true, if_false]
      exact reads_pure _ _

/-- A written number within 64 bits is read as itself. -/
theorem reads_numeral {n : Nat} (hn : n < Word.count64) (hy : Ended ys) :
    Reads numeral (Nat.toDigits 10 n ++ ys) (.natural n) ys := by
  obtain ⟨d, ds, hds, hd⟩ := toDigits_eq_cons n
  have hunsigned : Reads (unsigned true) (Nat.toDigits 10 n ++ ys) (.natural n) ys := by
    refine (reads_peek _).bind ?_
    -- A zero ends the number at once; any other first digit begins a run of digits.
    rcases Nat.eq_zero_or_pos n with rfl | hpos
    · rw [Nat.toDigits_zero]
      show Reads (if '0' = '0' then _ else _) _ _ _
      rw [if_pos rfl]
      have hnone : ys.head?.any Char.isDigit = false := by
        cases ys with
        | nil => rfl
        | cons e es => exact hy.not_digit e rfl
      refine (reads_advance 1 _).bind ((reads_peek _).bind ?_)
      show Reads (if ys.head?.any Char.isDigit then _ else _) _ _ _
      rw [if_neg (by simp [hnone])]
      exact reads_afterInteger 0 hy
    · have hzero : d ≠ '0' := head_toDigits_ne_zero hpos d (by rw [hds]; rfl)
      have hrounds := rounds_integerStep hn hy
      rw [hds] at hrounds ⊢
      simp only [List.cons_append, List.head?_cons, hzero, hd, if_true, if_false]
      refine hrounds.reads.bind ?_
      exact reads_afterInteger n hy
  refine (reads_peek _).bind ?_
  rw [hds] at hunsigned ⊢
  split
  · rename_i heq
    obtain rfl : d = '-' := by simpa using heq
    exact absurd hd (by decide)
  · exact hunsigned

/-! ## Strings

From the digits of a code to whole strings. The reader keeps what it has read in reverse. -/

theorem reads_peekString (c : Char) (ys : List Char) : Reads peekString (c :: ys) c (c :: ys) :=
  (reads_peek (c :: ys)).bind (reads_pure _ _)

theorem hexValue?_digitChar : ∀ d < 16, hexValue? (hexDigit d) = some d := by decide

/-- Four hexadecimal digits are read as a code. -/
theorem reads_hexEscape_code {a b c d : Char} {n : Nat} (h : fourHex? a b c d = some n) (ys : List Char) :
    Reads hexEscape (a :: b :: c :: d :: ys) n ys := by
  intro p
  refine ⟨p.afterAll [a, b, c, d], ?_⟩
  simp [hexEscape, h, Cursor.advance]

theorem reads_hexEscape {a b c d n : Nat} (ha : a < 16) (hb : b < 16) (hc : c < 16) (hd : d < 16)
    (hn : ((a * 16 + b) * 16 + c) * 16 + d = n) (ys : List Char) :
    Reads hexEscape (hexDigit a :: hexDigit b :: hexDigit c :: hexDigit d :: ys) n ys := by
  apply reads_hexEscape_code
  simp [fourHex?, hexValue?_digitChar, ha, hb, hc, hd, hn]

/-- A letter that is an escape is read as what it stands for. -/
theorem reads_escape_simple {letter : Char} (h : simpleEscape? letter = some c) (code : Reader Char)
    (ys : List Char) : Reads (escape code) (letter :: ys) c ys := by
  refine (reads_peekString _ _).bind ?_
  simp only [h]
  exact (reads_advance 1 _).bind (reads_pure _ _)

/-- A control character is read from its code. -/
theorem reads_escape_control (hc : c.toNat < 0x20) (ys : List Char) :
    Reads (escape unicodeEscape)
      ('u' :: '0' :: '0' :: hexDigit (c.toNat / 16) :: hexDigit (c.toNat % 16) :: ys) c ys := by
  have hcode := reads_hexEscape (a := 0) (b := 0) (c := c.toNat / 16) (d := c.toNat % 16) (n := c.toNat)
    (by omega) (by omega) (by omega) (by omega) (by omega) ys
  refine (reads_peekString _ _).bind ?_
  rw [show simpleEscape? 'u' = none from rfl]
  refine (reads_advance 1 _).bind (hcode.bind ?_)
  have hlow : ¬ (0xDC00 ≤ c.toNat && c.toNat ≤ 0xDFFF) = true := by
    simp only [Bool.and_eq_true, decide_eq_true_eq]
    omega
  have hplain : (c.toNat < 0xD800 || 0xDBFF < c.toNat) = true := by
    simp only [Bool.or_eq_true, decide_eq_true_eq]
    omega
  rw [if_neg hlow, if_pos hplain, Char.ofNat_toNat]
  exact reads_pure _ _

/-- A character of a string is written behind a backslash, in a form that is read as that character, or
it stands for itself. In the second case it is none of the characters at which a reader stops. -/
theorem escapeChar_cases (c : Char) :
    (∃ cs, escapeChar c = '\\' :: cs ∧ ∀ ys, Reads (escape unicodeEscape) (cs ++ ys) c ys) ∨
      (escapeChar c = [c] ∧ c ≠ '"' ∧ c ≠ '\\' ∧ 0x20 ≤ c.toNat) := by
  have hsimple : ∀ letter, simpleEscape? letter = some c → escapeChar c = ['\\', letter] →
      ∃ cs, escapeChar c = '\\' :: cs ∧ ∀ ys, Reads (escape unicodeEscape) (cs ++ ys) c ys :=
    fun letter hletter hform =>
      ⟨[letter], hform, fun ys => reads_escape_simple hletter unicodeEscape ys⟩
  -- First the characters that have a letter of their own, then the other controls.
  by_cases hquote : c = '"'
  · subst hquote
    exact .inl (hsimple '"' rfl rfl)
  by_cases hslash : c = '\\'
  · subst hslash
    exact .inl (hsimple '\\' rfl rfl)
  by_cases hback : c = '\x08'
  · subst hback
    exact .inl (hsimple 'b' rfl rfl)
  by_cases htab : c = '\t'
  · subst htab
    exact .inl (hsimple 't' rfl rfl)
  by_cases hfeed : c = '\n'
  · subst hfeed
    exact .inl (hsimple 'n' rfl rfl)
  by_cases hform : c = '\x0c'
  · subst hform
    exact .inl (hsimple 'f' rfl rfl)
  by_cases hreturn : c = '\r'
  · subst hreturn
    exact .inl (hsimple 'r' rfl rfl)
  unfold escapeChar
  rw [if_neg hquote, if_neg hslash, if_neg hback, if_neg htab, if_neg hfeed, if_neg hform,
    if_neg hreturn]
  by_cases hcontrol : c.toNat < 0x20
  · rw [if_pos hcontrol]
    exact .inl ⟨_, rfl, fun ys => reads_escape_control hcontrol ys⟩
  · rw [if_neg hcontrol]
    exact .inr ⟨rfl, hquote, hslash, by omega⟩

/-- One character of a string, in its written form. -/
theorem reads_stringStep_escapeChar (c : Char) (read ys : List Char) :
    Reads (stringStep read) (escapeChar c ++ ys) (.inl (c :: read)) ys := by
  rcases escapeChar_cases c with ⟨cs, hform, hread⟩ | ⟨hform, hquote, hslash, hprintable⟩
  · rw [hform]
    refine (reads_peekString _ _).bind ?_
    rw [if_neg (by decide), if_pos rfl]
    exact (reads_advance 1 _).bind ((hread ys).bind (reads_pure _ _))
  · rw [hform]
    refine (reads_peekString _ _).bind ?_
    rw [if_neg hquote, if_neg hslash, if_neg (by omega)]
    exact (reads_advance 1 _).bind (reads_pure _ _)

theorem rounds_stringStep (cs ys : List Char) : ∀ read : List Char,
    Rounds stringStep read (cs.flatMap escapeChar ++ '"' :: ys) (read.reverse ++ cs) ys := by
  induction cs with
  | nil =>
    intro read
    rw [List.append_nil]
    refine .last ((reads_peekString _ _).bind ?_)
    rw [if_pos rfl]
    exact (reads_advance 1 _).bind (reads_pure _ _)
  | cons c cs ih =>
    intro read
    have hrest := ih (c :: read)
    rw [List.reverse_cons, List.append_assoc, List.singleton_append] at hrest
    rw [List.flatMap_cons, List.append_assoc]
    refine .next (reads_stringStep_escapeChar c read _) ?_ hrest
    have hpos : 0 < (escapeChar c).length := by
      rcases escapeChar_cases c with ⟨_, hform, -⟩ | ⟨hform, -⟩ <;> simp [hform]
    simp only [List.length_append]
    omega

/-- **A written string is read as itself**, whatever its characters are and whatever comes behind it. -/
theorem reads_stringLiteral (s : String) (ys : List Char) :
    Reads stringLiteral (writeString s ++ ys) s ys := by
  have hbody := (rounds_stringStep s.toList ys []).reads
  rw [writeString, List.cons_append, List.append_assoc]
  refine (reads_advance 1 _).bind (hbody.bind ?_)
  rw [List.reverse_nil, List.nil_append, String.ofList_toList]
  exact reads_pure _ _

end Gamebook.Json
