import Gamebook.Proofs.Text.Digits
import Gamebook.Ron.Skip
import Gamebook.Ron.Write

/-!
# Reading single words of RON

What the readers of blanks, identifiers, numbers and strings make of a word that was written. A number
or a name is taken as far as it goes, so its reader needs to know what comes behind it: behind a written
value there is nothing, a comma, or the parenthesis that closes an option (`Ended`). That is a matter of how values are
written here, and not of RON; hand-written texts have other things there, and are not what these lemmas are about.

RON has many ways to begin a word, and its readers look ahead to tell them apart. Digits may announce a base or be
part of a fraction; a letter may begin a raw string, a raw name, or a name; and a slash may begin a comment. Of a
written word it is shown each time that it is none of the others: no base is announced (`announcedBase_toDigits`), no
fraction is near (`looksLikeFloat_toDigits`), and a plain name has a colon behind it, which no string has.

A number is read twice, once by a reader that takes any number of 64 bits and once by one that takes 32 bits. The
limit is therefore a parameter, and a written number is within it.

The state of the reader of strings holds the place where its last escape ended, for the sake of error messages. It
depends on where the string stands in the text, and so the rounds of that loop cannot be told without places. They are
counted, and this is the only loop for which they are (`loopOver_stringStep`).
-/

namespace Gamebook.Ron

open Gamebook.Text
open Text.Reader (Reads Refuses Rounds Stops reads_pure reads_peek reads_advance reads_skipWhile
  reads_accept reads_accept_not takeWhile_run dropWhile_run)

variable {bs ys : List Char} {c : Char}

/-- What may stand behind a written value. -/
def Ended (ys : List Char) : Prop := ∀ c ∈ ys.head?, c = ',' ∨ c = ')'

theorem Ended.stops {p : Char → Bool} (h : Ended ys) (hcomma : p ',' = false)
    (hclose : p ')' = false) : Stops p ys := by
  intro c hc
  rcases h c hc with rfl | rfl
  · exact hcomma
  · exact hclose

theorem ended_nil : Ended [] := by simp [Ended]

theorem ended_comma : Ended (',' :: ys) := by simp [Ended]

theorem ended_close : Ended (')' :: ys) := by simp [Ended]

/-! ## Blanks and separators

Blanks may hold comments in RON. Nothing that is written does, but a slash would begin one, so it must not come next. -/

/-- Whether a character begins a run of blanks and comments. -/
def opensBlank (c : Char) : Bool := isSpace c || c == '/'

theorem reads_skipBlanks (hb : ∀ c ∈ bs, isSpace c = true) (hy : Stops opensBlank ys) :
    Reads skipBlanks (bs ++ ys) () ys := by
  have hspace : Stops isSpace ys := by
    intro c hc
    have h := hy c hc
    simp only [opensBlank, Bool.or_eq_false_iff] at h
    exact h.1
  refine Rounds.reads (.last ?_)
  refine (reads_skipWhile hb hspace).bind ((reads_peek ys).bind ?_)
  split
  · rename_i heq
    have h := hy _ heq
    simp [opensBlank] at h
  · exact reads_pure _ _

/-- Where nothing blank comes next, nothing is passed. -/
theorem reads_skipBlanks_none (hy : Stops opensBlank ys) : Reads skipBlanks ys () ys :=
  @reads_skipBlanks [] ys (by simp) hy

theorem reads_peekOrEnd (c : Char) (ys : List Char) : Reads peekOrEnd (c :: ys) c (c :: ys) :=
  (reads_peek (c :: ys)).bind (reads_pure _ _)

/-- One character that is a word of its own. -/
theorem reads_accept_char {word : String} (hw : word.toList = [c]) (ys : List Char) :
    Reads (Reader.accept word : Reader Bool) (c :: ys) true ys :=
  reads_accept hw ys

/-- A word is not there if another character comes next than the one it begins with. -/
theorem reads_accept_other {word : String} {w : Char} {ws : List Char} (hw : word.toList = w :: ws)
    (h : ∀ c ∈ ys.head?, w ≠ c) : Reads (Reader.accept word : Reader Bool) ys false ys := by
  refine reads_accept_not ?_
  rw [hw]
  cases ys with
  | nil => rfl
  | cons c ys => simp [List.isPrefixOf, h c (by simp)]

theorem isSpace_of_mem_space : ∀ c ∈ [' '], isSpace c = true := by
  intro c hc
  rw [List.mem_singleton.mp hc]
  decide

theorem isSpace_of_mem_newline : ∀ c ∈ ['\n'], isSpace c = true := by
  intro c hc
  rw [List.mem_singleton.mp hc]
  decide

theorem reads_comma (hb : ∀ c ∈ bs, isSpace c = true) (hy : Stops opensBlank ys) :
    Reads comma (',' :: (bs ++ ys)) true ys := by
  refine (reads_skipBlanks_none (by simp [opensBlank, isSpace])).bind ?_
  refine (reads_accept_char rfl _).bind ?_
  exact (reads_skipBlanks hb hy).bind (reads_pure _ _)

/-- No comma comes before a closing parenthesis. -/
theorem reads_comma_close (ys : List Char) : Reads comma (')' :: ys) false (')' :: ys) := by
  refine (reads_skipBlanks_none (by simp [opensBlank, isSpace])).bind ?_
  exact (reads_accept_other (w := ',') rfl (by simp)).bind (reads_pure _ _)

theorem reads_colon (hb : ∀ c ∈ bs, isSpace c = true) (hy : Stops opensBlank ys) :
    Reads colon (':' :: (bs ++ ys)) () ys := by
  refine (reads_skipBlanks_none (by simp [opensBlank, isSpace])).bind ?_
  exact (reads_accept_char rfl _).bind (reads_skipBlanks hb hy)

/-! ## Identifiers

The reader of identifiers has three forms to tell apart, and decides by the first two characters. A plain name that is
followed by a colon has only one reading. -/

theorem reads_acceptWord_other {word : String} {w : Char} {ws : List Char}
    (hw : word.toList = w :: ws) (h : ∀ c ∈ ys.head?, w ≠ c) :
    Reads (acceptWord word) ys false ys := by
  intro p
  refine ⟨p, ?_⟩
  have hprefix : (w :: ws).isPrefixOf ys = false := by
    cases ys with
    | nil => rfl
    | cons c ys => simp [List.isPrefixOf, h c (by simp)]
  simp [acceptWord, hw, hprefix]

theorem reads_acceptAny_none {words : List String}
    (h : ∀ word ∈ words, Reads (acceptWord word) ys false ys) :
    Reads (acceptAny words) ys false ys := by
  induction words with
  | nil => exact reads_pure _ _
  | cons word words ih =>
    refine (h word List.mem_cons_self).bind ?_
    exact ih fun other hother => h other (List.mem_cons_of_mem _ hother)

/-- The characters of a plain name. -/
theorem isPlainName_iff {name : String} :
    isPlainName name = true ↔
      ∃ c cs, name.toList = c :: cs ∧ isIdentifierStart c = true ∧
        ∀ d ∈ c :: cs, isIdentifierRest d = true := by
  unfold isPlainName
  cases name.toList with
  | nil => simp
  | cons c cs =>
    simp only [Bool.and_eq_true, List.all_eq_true, List.cons.injEq, List.forall_mem_cons]
    constructor
    · rintro ⟨hc, hcs⟩
      exact ⟨c, cs, ⟨rfl, rfl⟩, hc, by simp [isIdentifierRest, hc], hcs⟩
    · rintro ⟨d, ds, ⟨rfl, rfl⟩, hd, -, hds⟩
      exact ⟨hd, hds⟩

theorem reads_plainIdentifier {cs : List Char} (hcs : ∀ d ∈ cs, isIdentifierRest d = true)
    (hy : Stops isRawIdentifier ys) :
    Reads plainIdentifier (cs ++ ys) (String.ofList cs) ys := by
  intro p
  have hraw : ∀ d ∈ cs, isRawIdentifier d = true := by
    intro d hd
    simp [isRawIdentifier, hcs d hd]
  have hplain : Stops isIdentifierRest ys := by
    intro c hc
    have h := hy c hc
    simp only [isRawIdentifier, Bool.or_eq_false_iff] at h
    exact h.1.1.1
  refine ⟨p.afterAll cs, ?_⟩
  simp [plainIdentifier, takeWhile_run hcs hplain, takeWhile_run hraw hy, Cursor.advance]

/-- The characters of a plain name are read as an identifier, unless they could be the letter of a raw one
that the text leaves open. -/
theorem reads_identifier_chars {cs : List Char} (hstart : isIdentifierStart c = true)
    (hcs : ∀ d ∈ c :: cs, isIdentifierRest d = true) (hy : Stops isRawIdentifier ys)
    (hsign : ∀ d ∈ ys.head?, d ≠ '"' ∧ d ≠ '#') (hopen : c :: (cs ++ ys) ≠ ['r']) :
    Reads identifier (c :: cs ++ ys) (String.ofList (c :: cs)) ys := by
  have hplain : Reads plainIdentifier (c :: cs ++ ys) (String.ofList (c :: cs)) ys :=
    reads_plainIdentifier hcs hy
  -- The raw forms need a quote or a number sign behind the letter r, and neither is part of a name.
  have hsecond : ∀ d ds, cs ++ ys = d :: ds → d ≠ '"' ∧ d ≠ '#' := by
    intro d ds hd
    cases cs with
    | nil => exact hsign d (by rw [List.nil_append] at hd; rw [hd]; rfl)
    | cons e es =>
      obtain ⟨rfl, -⟩ := List.cons.inj hd
      have he : isIdentifierRest e = true := hcs e (by simp)
      constructor <;> rintro rfl <;> revert he <;> decide
  intro p
  obtain ⟨q, hq⟩ := hplain p
  refine ⟨q, ?_⟩
  rw [List.cons_append] at hq ⊢
  unfold identifier
  split
  · rename_i heq
    simp at heq
  · rename_i heq
    exact absurd heq hopen
  · rename_i heq
    exact absurd rfl (hsecond _ _ (List.cons.inj heq).2).1
  · rename_i heq
    exact absurd rfl (hsecond _ _ (List.cons.inj heq).2).2
  · rename_i heq
    obtain ⟨rfl, -⟩ := List.cons.inj heq
    rw [if_pos hstart]
    exact hq

/-- A plain name before a colon is read as an identifier. Were it the letter r alone, it might begin a raw name or a raw
string; the colon says that it does not. -/
theorem reads_identifier {name : String} (h : isPlainName name = true) (ys : List Char) :
    Reads identifier (name.toList ++ ':' :: ys) name (':' :: ys) := by
  obtain ⟨c, cs, hname, hstart, hrest⟩ := isPlainName_iff.mp h
  have hstops : Stops isRawIdentifier (':' :: ys) := by
    rw [Reader.stops_cons]
    decide
  have hread := reads_identifier_chars hstart hrest hstops (by simp) (by simp)
  rwa [← hname, String.ofList_toList] at hread

/-! ## Whole numbers

A number is first looked at as a whole, to see whether it is a fraction and which base it is in. Then its digits are
taken, all that come, and multiplied up under a limit. -/

theorem hexValue?_digitChar : ∀ d < 16, hexValue? (Nat.digitChar d) = some d := by decide

theorem isIntegerPart_of_isDigit (h : c.isDigit = true) : isIntegerPart c = true := by
  simp [isIntegerPart, h]

theorem isFloatPart_of_isDigit (h : c.isDigit = true) : isFloatPart c = true := by
  simp [isFloatPart, h]

theorem digitsValue_toDigits {n limit : Nat} (h : n ≤ limit) :
    digitsValue 10 limit 0 (Nat.toDigits 10 n) = .ok n := by
  rw [← List.append_nil (Nat.toDigits 10 n)]
  refine digits_induction (P := fun _ v cs => digitsValue 10 limit v cs = .ok n) (by omega) ?_ rfl
  intro k v d cs hd hle _ ih
  have hunderscore : Nat.digitChar d ≠ '_' := Nat.digitChar_ne '_' (by decide)
  rw [digitsValue, if_neg hunderscore, if_neg (by omega), hexValue?_digitChar d (by omega)]
  show (if 10 ≤ d then _ else _) = _
  rw [if_neg (by omega), if_neg (by omega)]
  exact ih

/-- No base is announced where neither of the letters for one comes second. -/
theorem announcedBase_eq_none {cs : List Char} (h : ∀ d ∈ cs.tail.head?, d ≠ 'x' ∧ d ≠ 'b' ∧ d ≠ 'o') :
    announcedBase cs = none := by
  unfold announcedBase
  split
  · exact absurd rfl (h 'x' (by simp)).1
  · exact absurd rfl (h 'b' (by simp)).2.1
  · exact absurd rfl (h 'o' (by simp)).2.2
  · rfl

theorem announcedBase_toDigits (n : Nat) (hy : Ended ys) :
    announcedBase (Nat.toDigits 10 n ++ ys) = none := by
  obtain ⟨d, ds, hds, -⟩ := toDigits_eq_cons n
  refine announcedBase_eq_none ?_
  intro e he
  rw [hds, List.cons_append, List.tail_cons] at he
  cases ds with
  | nil =>
    rcases hy e he with rfl | rfl <;> decide
  | cons f fs =>
    obtain rfl : f = e := by simpa using he
    have hf : f.isDigit = true := isDigit_of_mem_toDigits f (by rw [hds]; simp)
    refine ⟨?_, ?_, ?_⟩ <;> rintro rfl <;> revert hf <;> decide

theorem takeWhile_isIntegerPart_toDigits (n : Nat) (hy : Ended ys) :
    (Nat.toDigits 10 n ++ ys).takeWhile isIntegerPart = Nat.toDigits 10 n :=
  takeWhile_run (fun c hc => isIntegerPart_of_isDigit (isDigit_of_mem_toDigits c hc))
    (hy.stops (by decide) (by decide))

theorem takeWhile_isFloatPart_toDigits (n : Nat) (hy : Ended ys) :
    (Nat.toDigits 10 n ++ ys).takeWhile isFloatPart = Nat.toDigits 10 n :=
  takeWhile_run (fun c hc => isFloatPart_of_isDigit (isDigit_of_mem_toDigits c hc))
    (hy.stops (by decide) (by decide))

/-- A written number within the limit is read as itself. -/
theorem reads_natural {n limit : Nat} (h : n ≤ limit) (hy : Ended ys) :
    Reads (natural limit) (Nat.toDigits 10 n ++ ys) n ys := by
  obtain ⟨d, ds, hds, hd⟩ := toDigits_eq_cons n
  have hrun : Reads natural.takeRun (Nat.toDigits 10 n ++ ys) (Nat.toDigits 10 n)
      (Nat.toDigits 10 n ++ ys) := by
    intro p
    refine ⟨p, ?_⟩
    rw [natural.takeRun, takeWhile_isIntegerPart_toDigits n hy]
  refine Reads.bind (a := 10) (fun p => ⟨p, ?_⟩) (hrun.bind ?_)
  · dsimp only
    rw [announcedBase_toDigits n hy]
  split
  · rename_i heq
    simp [hds] at heq
  · rename_i heq
    rw [hds] at heq
    obtain ⟨rfl, -⟩ := List.cons.inj heq
    exact absurd hd (by decide)
  · refine (reads_advance _ _).bind ?_
    rw [List.drop_left, digitsValue_toDigits h]
    exact reads_pure _ _

theorem looksLikeFloat_toDigits (n : Nat) (hy : Ended ys) :
    looksLikeFloat (Nat.toDigits 10 n ++ ys) = false := by
  have hsign : withoutSign (Nat.toDigits 10 n ++ ys) = Nat.toDigits 10 n ++ ys := by
    obtain ⟨d, ds, hds, hd⟩ := toDigits_eq_cons n
    rw [hds, List.cons_append]
    unfold withoutSign
    split
    · rename_i heq
      obtain ⟨rfl, -⟩ := List.cons.inj heq
      exact absurd hd (by decide)
    · rename_i heq
      obtain ⟨rfl, -⟩ := List.cons.inj heq
      exact absurd hd (by decide)
    · rfl
  simp [looksLikeFloat, hsign, takeWhile_isIntegerPart_toDigits n hy,
    takeWhile_isFloatPart_toDigits n hy]

/-- A written number of 64 bits is passed as a number of either kind. -/
theorem reads_skipNumber {n : Nat} (h : n ≤ Word.max64) (hy : Ended ys) :
    Reads skipNumber (Nat.toDigits 10 n ++ ys) () ys := by
  obtain ⟨d, ds, hds, hd⟩ := toDigits_eq_cons n
  have hsign : ∀ sign : Char, sign.isDigit = false → ∀ e ∈ (Nat.toDigits 10 n ++ ys).head?, sign ≠ e := by
    intro sign hsign e he
    rw [hds] at he
    obtain rfl : d = e := by simpa using he
    rintro rfl
    exact absurd hd (by simp [hsign])
  have hinteger : Reads skipInteger (Nat.toDigits 10 n ++ ys) () ys := by
    refine (reads_accept_other (w := '-') rfl (hsign '-' (by decide))).bind ?_
    refine (reads_accept_other (w := '+') rfl (hsign '+' (by decide))).bind ?_
    exact (reads_natural h hy).bind (reads_pure _ _)
  intro p
  obtain ⟨q, hq⟩ := hinteger p
  refine ⟨q, ?_⟩
  rw [skipNumber, looksLikeFloat_toDigits n hy, hq]
  rfl

/-! ## Strings

The printer writes a code point in braces for each character that is not printable; the reader takes up to six
digits. -/

theorem reads_hexDigit {d : Nat} (hd : d < 16) (ys : List Char) :
    Reads hexDigit (Nat.digitChar d :: ys) d ys := by
  refine (reads_peekOrEnd _ _).bind ?_
  simp only [hexValue?_digitChar d hd]
  exact (reads_advance 1 _).bind (reads_pure _ _)

theorem reads_expect (fault : Fault) (ys : List Char) : Reads (expect c fault) (c :: ys) () ys := by
  refine (reads_peekOrEnd _ _).bind ?_
  rw [if_pos rfl]
  exact reads_advance 1 _

/-- One more digit of a code point. -/
theorem reads_codePointStep_digit {value count d : Nat} (hcount : count < 6) (hd : d < 16)
    (ys : List Char) :
    Reads (codePointStep (value, count)) (Nat.digitChar d :: ys)
      (.inl (value * 16 + d, count + 1)) ys := by
  have hbrace : Nat.digitChar d ≠ '}' := Nat.digitChar_ne '}' (by decide)
  simp only [codePointStep]
  rw [if_neg (by omega)]
  refine (reads_peekOrEnd _ _).bind ?_
  rw [if_neg hbrace]
  exact (reads_hexDigit hd ys).bind (reads_pure _ _)

/-- The end of a code point. -/
theorem reads_codePointStep_brace (state : Nat × Nat) (ys : List Char) :
    Reads (codePointStep state) ('}' :: ys) (.inr state) ('}' :: ys) := by
  simp only [codePointStep]
  split
  · exact reads_pure _ _
  · exact (reads_peekOrEnd _ _).bind (reads_pure _ _)

/-- A character is read from its code point. -/
theorem reads_codePoint (c : Char) (ys : List Char) :
    Reads codePoint ('{' :: (Nat.toDigits 16 c.toNat ++ '}' :: ys)) c ys := by
  have hlen : (Nat.toDigits 16 c.toNat).length ≤ 6 := by
    refine (Nat.length_toDigits_le_iff (by omega) (by omega)).mpr ?_
    have hvalid : c.toNat.isValidChar := c.valid
    unfold Nat.isValidChar at hvalid
    omega
  have hrounds : Rounds codePointStep (0, 0) (Nat.toDigits 16 c.toNat ++ '}' :: ys)
      (c.toNat, (Nat.toDigits 16 c.toNat).length) ('}' :: ys) := by
    refine digits_induction (P := fun count value cs => Rounds codePointStep (value, count) cs
      (c.toNat, (Nat.toDigits 16 c.toNat).length) ('}' :: ys)) (by omega) ?_
      (.last (reads_codePointStep_brace _ ys))
    intro count value d cs hd _ hcount ih
    exact .next (reads_codePointStep_digit (by omega) hd cs) (by simp) ih
  refine (reads_expect _ _).bind (hrounds.reads.bind ?_)
  have hpos : (Nat.toDigits 16 c.toNat).length ≠ 0 := Nat.pos_iff_ne_zero.mp Nat.length_toDigits_pos
  show Reads (if (Nat.toDigits 16 c.toNat).length = 0 then _ else _) _ _ _
  rw [if_neg hpos]
  refine (reads_expect _ _).bind ?_
  have hvalid : c.toNat.isValidChar := c.valid
  rw [if_pos hvalid, Char.ofNat_toNat]
  exact reads_pure c ys

/-- A character of a string is written behind a backslash, in a form that is read as that character, or
it stands for itself. The form may be a code point in braces, of as many digits as it has. -/
theorem escapeChar_cases (c : Char) :
    (∃ cs, escapeChar ⟨true, true⟩ c = '\\' :: cs ∧ ∀ ys, Reads escape (cs ++ ys) c ys) ∨
      (escapeChar ⟨true, true⟩ c = [c] ∧ c ≠ '"' ∧ c ≠ '\\') := by
  unfold escapeChar
  by_cases hzero : c = '\x00'
  · exact .inl ⟨['0'], by rw [if_pos hzero], fun ys _ => ⟨_, by rw [hzero]; rfl⟩⟩
  by_cases htab : c = '\t'
  · exact .inl ⟨['t'], by rw [if_neg hzero, if_pos htab], fun ys _ => ⟨_, by rw [htab]; rfl⟩⟩
  by_cases hreturn : c = '\r'
  · exact .inl ⟨['r'], by rw [if_neg hzero, if_neg htab, if_pos hreturn],
      fun ys _ => ⟨_, by rw [hreturn]; rfl⟩⟩
  by_cases hfeed : c = '\n'
  · exact .inl ⟨['n'], by rw [if_neg hzero, if_neg htab, if_neg hreturn, if_pos hfeed],
      fun ys _ => ⟨_, by rw [hfeed]; rfl⟩⟩
  rw [if_neg hzero, if_neg htab, if_neg hreturn, if_neg hfeed]
  by_cases hslash : c = '\\'
  · exact .inl ⟨['\\'], by rw [if_pos hslash], fun ys _ => ⟨_, by rw [hslash]; rfl⟩⟩
  by_cases hquote : c = '"'
  · exact .inl ⟨['"'], by rw [if_neg hslash, if_pos hquote, if_pos rfl],
      fun ys _ => ⟨_, by rw [hquote]; rfl⟩⟩
  rw [if_neg hslash, if_neg hquote]
  by_cases hsingle : c.toNat = 0x27
  · obtain rfl : c = Char.ofNat 0x27 := by rw [← hsingle, Char.ofNat_toNat]
    exact .inl ⟨[Char.ofNat 0x27], rfl, fun ys _ => ⟨_, rfl⟩⟩
  rw [if_neg hsingle]
  split
  · refine .inl ⟨'u' :: '{' :: (Nat.toDigits 16 c.toNat ++ ['}']), rfl, fun ys => ?_⟩
    have hcode : Reads escape ('u' :: '{' :: (Nat.toDigits 16 c.toNat ++ '}' :: ys)) c ys :=
      (reads_peekOrEnd 'u' _).bind ((reads_advance 1 _).bind (reads_codePoint c ys))
    simpa using hcode
  · exact .inr ⟨rfl, hquote, hslash⟩

/-- One character of a string, in its written form. -/
theorem stringStep_escapeChar (c : Char) (read : List Char) (mark : Cursor) (p : Position)
    (ys : List Char) :
    ∃ mark' q, stringStep (read, mark) ⟨escapeChar ⟨true, true⟩ c ++ ys, p⟩ =
      .ok (.inl (c :: read, mark')) ⟨ys, q⟩ := by
  rcases escapeChar_cases c with ⟨cs, hform, hread⟩ | ⟨hform, hquote, hslash⟩
  · obtain ⟨q, hq⟩ := hread ys (p.afterAll ['\\'])
    refine ⟨⟨ys, q⟩, q, ?_⟩
    have hcursor : Cursor.advance 1 ⟨'\\' :: (cs ++ ys), p⟩ = ⟨cs ++ ys, p.afterAll ['\\']⟩ := rfl
    rw [hform, List.cons_append]
    simp only [stringStep, hcursor, hq]
  · refine ⟨mark, p.afterAll [c], ?_⟩
    rw [hform]
    show stringStep (read, mark) ⟨c :: ys, p⟩ = _
    simp only [stringStep]
    rfl

/-- The rest of a written string. The place where the last escape ended is part of the state and depends
on where the string stands, so the rounds are counted here and not by `Rounds`. -/
theorem loopOver_stringStep (cs ys : List Char) : ∀ (read : List Char) (mark : Cursor)
    (fuel : List Char) (p : Position),
    (cs.flatMap (escapeChar ⟨true, true⟩) ++ '"' :: ys).length ≤ fuel.length →
    ∃ q, Reader.loopOver stringStep fuel (read, mark)
      ⟨cs.flatMap (escapeChar ⟨true, true⟩) ++ '"' :: ys, p⟩ = .ok (read.reverse ++ cs) ⟨ys, q⟩ := by
  induction cs with
  | nil =>
    intro read mark fuel p _
    refine ⟨p.afterAll ['"'], ?_⟩
    rw [List.append_nil]
    cases fuel <;> rfl
  | cons c cs ih =>
    intro read mark fuel p hfuel
    rw [List.flatMap_cons, List.append_assoc] at hfuel ⊢
    obtain ⟨mark', q, hq⟩ := stringStep_escapeChar c read mark p
      (cs.flatMap (escapeChar ⟨true, true⟩) ++ '"' :: ys)
    have hpos : 0 < (escapeChar ⟨true, true⟩ c).length := by
      rcases escapeChar_cases c with ⟨_, hform, -⟩ | ⟨hform, -⟩ <;> simp [hform]
    cases fuel with
    | nil =>
      rw [List.length_append, List.length_nil] at hfuel
      omega
    | cons d fuel =>
      rw [List.length_append, List.length_cons] at hfuel
      obtain ⟨o, ho⟩ := ih (c :: read) mark' fuel q (by omega)
      refine ⟨o, ?_⟩
      show EStateM.bind _ _ _ = _
      rw [EStateM.bind, hq]
      simpa using ho

/-- A written string is read as itself. -/
theorem reads_stringLiteral (s : String) (ys : List Char) :
    Reads stringLiteral (writeString s ++ ys) s.toList ys := by
  rw [writeString, List.cons_append]
  refine (reads_accept_char rfl _).bind ?_
  rw [if_pos rfl]
  intro p
  obtain ⟨q, hq⟩ := loopOver_stringStep s.toList ys []
    ⟨s.toList.flatMap (escapeChar ⟨true, true⟩) ++ '"' :: ys, p⟩ _ p (Nat.le_refl _)
  refine ⟨q, ?_⟩
  rw [List.append_assoc]
  exact hq

end Gamebook.Ron
