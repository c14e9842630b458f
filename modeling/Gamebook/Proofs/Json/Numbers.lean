import Gamebook.Proofs.Json.Judged

/-!
# Which numbers are read

A number of a document is a natural number of 32 bits. `numeral` answers a natural number where its digits come
next and nothing that goes on with them (`numeral_natural`), and in no other case. So before any text that begins
with a number `readNumber` is judged (`judged_readNumber`): a sign, a point, an exponent or a digit too many are
seen as they come, and whatever follows, no number of 32 bits is read any more.

The reader of numbers has a part for each form a number can have, with whole numbers of 64 bits, fractions, exponents,
and digits without end that are rounded. Most of it never answers a natural number, and of all that only this is said
(`NeverNatural`): what a document can hold is decided by the part that takes plain digits. So rounding is not opened
here.

To be mismatched, a text must begin a number and be beyond repair. Of a minus sign this is clear, as of a point behind
digits. Of digits it is a matter of size: a number that is too large does not get smaller by further digits
(`le_of_begins`), so as soon as the digits read exceed 32 bits, nothing that comes can help. That a zero comes before
other digits is another case. It is no JSON, and the reader fails on the notation.

The digits that a text begins with are settled by the text (`digits_unique`), and this is used to compare what the
reader has taken with what the grammar derives.
-/

namespace Gamebook.Json

open Gamebook.Text
open Text.Reader (Reads Fails Refuses Stops Takes reads_pure reads_peek reads_advance exists_run
  exists_of_bind_ok)

variable {α β : Type} {xs ys ds : List Char} {c c' : Cursor} {v : Nat}

/-! ## Numbers that are not natural

Part by part, down to the readers that call no other. -/

/-- The reader answers no natural number. -/
def NeverNatural (r : Reader Numeral) : Prop := ∀ c v c', r c ≠ .ok (.natural v) c'

theorem neverNatural_bind {r : Reader α} {f : α → Reader Numeral} (h : ∀ a, NeverNatural (f a)) :
    NeverNatural (r >>= f) := by
  intro c v c' hok
  obtain ⟨a, c₁, -, hf⟩ := exists_of_bind_ok hok
  exact h a c₁ v c' hf

theorem neverNatural_fail (fault : Fault) : NeverNatural (fail fault) := by rintro c v c' ⟨⟩

theorem neverNatural_failPeek (fault : Fault) : NeverNatural (failPeek fault) := by rintro c v c' ⟨⟩

theorem neverNatural_failRead (fault : Fault) : NeverNatural (failRead fault) := by rintro c v c' ⟨⟩

theorem neverNatural_pure {n : Numeral} (h : ∀ v, n ≠ .natural v) : NeverNatural (pure n) := by
  intro c v c' hok
  exact h v (EStateM.Result.ok.inj hok).1

theorem neverNatural_double (positive : Bool) (significand : Nat) (exponent : Int) :
    NeverNatural (double positive significand exponent) := by
  unfold double
  split
  · exact neverNatural_fail _
  · exact neverNatural_pure nofun

theorem neverNatural_exponentPart (positive : Bool) (significand : Nat) (exponent : Int) :
    NeverNatural (exponentPart positive significand exponent) := by
  refine neverNatural_bind fun _ => neverNatural_bind fun upward => neverNatural_bind fun next => ?_
  split
  · exact neverNatural_fail _
  split
  · refine neverNatural_bind fun _ => neverNatural_bind fun ⟨value, fits⟩ => ?_
    show NeverNatural (if fits = true then _ else _)
    split
    · exact neverNatural_double _ _ _
    split
    · exact neverNatural_fail _
    · exact neverNatural_bind fun _ => neverNatural_pure nofun
  · exact neverNatural_failRead _

theorem neverNatural_afterDigits (positive : Bool) (significand : Nat) (exponent : Int) :
    NeverNatural (afterDigits positive significand exponent) := by
  refine neverNatural_bind fun next => ?_
  split
  · exact neverNatural_exponentPart _ _ _
  · exact neverNatural_exponentPart _ _ _
  · exact neverNatural_double _ _ _

theorem neverNatural_fractionPart (positive : Bool) (significand exponent : Nat) :
    NeverNatural (fractionPart positive significand exponent) := by
  refine neverNatural_bind fun _ => neverNatural_bind fun ⟨significand, places, full⟩ => ?_
  show NeverNatural (if (places = 0 && !full) = true then _ else _)
  split
  · refine neverNatural_bind fun next => ?_
    split
    · exact neverNatural_failPeek _
    · exact neverNatural_failPeek _
  · exact neverNatural_afterDigits _ _ _

theorem neverNatural_longInteger (positive : Bool) (significand : Nat) :
    NeverNatural (longInteger positive significand) := by
  refine neverNatural_bind fun digits => neverNatural_bind fun next => ?_
  split
  · exact neverNatural_fractionPart _ _ _
  · exact neverNatural_afterDigits _ _ _

theorem neverNatural_afterInteger_false (significand : Nat) : NeverNatural (afterInteger false significand) := by
  refine neverNatural_bind fun next => ?_
  split
  · exact neverNatural_fractionPart _ _ _
  · exact neverNatural_exponentPart _ _ _
  · exact neverNatural_exponentPart _ _ _
  · rw [if_neg (by decide)]
    split
    · exact neverNatural_pure nofun
    · exact neverNatural_pure nofun

/-- Behind a minus sign comes no natural number. -/
theorem neverNatural_unsigned_false : NeverNatural (unsigned false) := by
  refine neverNatural_bind fun next => ?_
  split
  · exact neverNatural_fail _
  split
  · refine neverNatural_bind fun _ => neverNatural_bind fun next => ?_
    split
    · exact neverNatural_failPeek _
    · exact neverNatural_afterInteger_false _
  split
  · refine neverNatural_bind fun ⟨significand, fits⟩ => ?_
    show NeverNatural (if fits = true then _ else _)
    split
    · exact neverNatural_afterInteger_false _
    · exact neverNatural_longInteger _ _
  · exact neverNatural_failRead _

/-! ## Runs of digits

What digits come to and how a number is written are inverse to each other, as long as no zero is in front. -/

theorem isDigit_bounds {d : Char} (hd : d.isDigit = true) : 0x30 ≤ d.toNat ∧ d.toNat ≤ 0x39 := by
  simp only [Char.isDigit, Bool.and_eq_true, decide_eq_true_eq] at hd
  exact hd

theorem digitValue_lt {d : Char} (hd : d.isDigit = true) : digitValue d < 10 := by
  obtain ⟨hlow, hhigh⟩ := isDigit_bounds hd
  rw [digitValue]
  omega

theorem digitChar_digitValue {d : Char} (hd : d.isDigit = true) : Nat.digitChar (digitValue d) = d := by
  obtain ⟨hlow, -⟩ := isDigit_bounds hd
  apply Char.toNat_inj.mp
  rw [Nat.toNat_digitChar_of_lt_ten (digitValue_lt hd), digitValue]
  omega

theorem digitValue_pos {d : Char} (hd : d.isDigit = true) (hzero : d ≠ '0') : 0 < digitValue d := by
  refine Nat.pos_of_ne_zero fun h => hzero ?_
  rw [← digitChar_digitValue hd, h]
  rfl

/-- Digits behind those of a number other than zero go on with it. -/
theorem toDigits_ofDigitChars (hds : ∀ d ∈ ds, d.isDigit = true) (hv : 0 < v) :
    Nat.toDigits 10 (Nat.ofDigitChars 10 ds v) = Nat.toDigits 10 v ++ ds := by
  induction ds generalizing v with
  | nil => rw [Nat.ofDigitChars_nil, List.append_nil]
  | cons d ds ih =>
    have hd : d.isDigit = true := hds d List.mem_cons_self
    have hlast : Nat.toDigits 10 (10 * v + digitValue d) = Nat.toDigits 10 v ++ [d] := by
      rw [← Nat.toDigits_append_toDigits (by omega) hv (digitValue_lt hd),
        Nat.toDigits_of_lt_base (digitValue_lt hd), digitChar_digitValue hd]
    rw [Nat.ofDigitChars_cons]
    refine (ih (fun d hd => hds d (List.mem_cons_of_mem _ hd)) (by omega)).trans ?_
    show Nat.toDigits 10 (10 * v + digitValue d) ++ ds = _
    rw [hlast, List.append_assoc]
    rfl

/-- The whole part of a number is the written form of its value. -/
theorem WholePart.toDigits_ofDigitChars (h : WholePart ds) : Nat.toDigits 10 (Nat.ofDigitChars 10 ds 0) = ds := by
  obtain ⟨⟨hnonempty, hdigits⟩, hzero⟩ := h
  obtain ⟨d, rest, rfl⟩ := List.exists_cons_of_ne_nil hnonempty
  by_cases hd : d = '0'
  · rw [hzero (by rw [hd]; rfl)]
    rfl
  · have hdigit : d.isDigit = true := hdigits d List.mem_cons_self
    have hpos : 0 < 10 * 0 + digitValue d := by
      have hvalue := digitValue_pos hdigit hd
      omega
    rw [Nat.ofDigitChars_cons]
    refine (Json.toDigits_ofDigitChars (fun e he => hdigits e (List.mem_cons_of_mem _ he)) hpos).trans ?_
    rw [Nat.mul_zero, Nat.zero_add, Nat.toDigits_of_lt_base (digitValue_lt hdigit), digitChar_digitValue hdigit]
    rfl

/-- The digits that a text begins with are settled. -/
theorem digits_unique {es zs : List Char} (h : ds ++ ys = es ++ zs) (hds : ∀ d ∈ ds, d.isDigit = true)
    (hes : ∀ d ∈ es, d.isDigit = true) (hy : Stops Char.isDigit ys) (hz : Stops Char.isDigit zs) :
    ds = es ∧ ys = zs := by
  have hsame : ds = es := by
    rw [← Reader.takeWhile_run hds hy, h, Reader.takeWhile_run hes hz]
  subst hsame
  exact ⟨rfl, List.append_cancel_left h⟩

theorem toDigits_inj {m n : Nat} (h : Nat.toDigits 10 m = Nat.toDigits 10 n) : m = n := by
  rw [← Nat.ofDigitChars_ten_toDigits (n := m), h, Nat.ofDigitChars_ten_toDigits]

/-- Digits at the beginning of a text are among all the digits there. -/
theorem prefix_of_digits {es ws zs : List Char} (h : ds ++ ws = es ++ zs) (hds : ∀ d ∈ ds, d.isDigit = true)
    (hz : Stops Char.isDigit zs) : ds <+: es := by
  rcases List.append_eq_append_iff.mp h with ⟨middle, hes, -⟩ | ⟨middle, hsplit, hzs⟩
  · exact ⟨middle, hes.symm⟩
  · cases middle with
    | nil => exact ⟨[], by rw [hsplit, List.append_nil, List.append_nil]⟩
    | cons d middle =>
      have hdigit : d.isDigit = true := hds d (by simp [hsplit])
      rw [hzs, List.cons_append, Reader.stops_cons, hdigit] at hz
      cases hz

/-- With more digits a number does not become smaller. -/
theorem le_of_begins {m n : Nat} (h : Nat.toDigits 10 m <+: Nat.toDigits 10 n) : m ≤ n := by
  obtain ⟨lost, heq⟩ := h
  by_cases hlost : lost = []
  · rw [hlost, List.append_nil] at heq
    exact Nat.le_of_eq (toDigits_inj heq)
  · rcases Cut.toDigits ⟨lost, hlost, heq⟩ with hnil | ⟨m', hle, hm⟩
    · exact absurd hnil Nat.toDigits_ne_nil
    · rwa [toDigits_inj hm]

/-! ## Natural numbers

From an answer back to the text: which characters were passed if the reader has answered a natural number. -/

/-- One more digit is taken, or it does not fit, or no digit comes next. -/
theorem integerStep_cases {answer : Nat ⊕ (Nat × Bool)} (h : integerStep v c = .ok answer c') :
    (∃ d, c.rest = d :: c'.rest ∧ d.isDigit = true ∧ answer = .inl (v * 10 + digitValue d)) ∨
      answer = .inr (v, false) ∨ (answer = .inr (v, true) ∧ c' = c ∧ Stops Char.isDigit c.rest) := by
  obtain ⟨xs, p⟩ := c
  cases xs with
  | nil =>
    obtain ⟨rfl, rfl⟩ := EStateM.Result.ok.inj h
    exact .inr (.inr ⟨rfl, rfl, Reader.stops_nil _⟩)
  | cons d ds =>
    change (if d.isDigit = true then _ else _ : Reader _) _ = _ at h
    split at h
    · rename_i hd
      change (if overflows (v * 10 + digitValue d) = true then _ else _ : Reader _) _ = _ at h
      split at h
      · obtain ⟨rfl, -⟩ := EStateM.Result.ok.inj h
        exact .inr (.inl rfl)
      · obtain ⟨rfl, rfl⟩ := EStateM.Result.ok.inj h
        exact .inl ⟨d, rfl, hd, rfl⟩
    · rename_i hd
      obtain ⟨rfl, rfl⟩ := EStateM.Result.ok.inj h
      exact .inr (.inr ⟨rfl, rfl, Reader.stops_cons.mpr (by simpa using hd)⟩)

/-- The digits that a loop takes are all that come next, if they fit. -/
theorem loopOver_integerStep {w : Nat} : ∀ (fuel : List Char) (v : Nat) (c : Cursor),
    Reader.loopOver integerStep fuel v c = .ok (w, true) c' →
      ∃ ds, c.rest = ds ++ c'.rest ∧ (∀ d ∈ ds, d.isDigit = true) ∧ Stops Char.isDigit c'.rest ∧
        w = Nat.ofDigitChars 10 ds v := by
  have hlast : ∀ {v : Nat} {c c₁ : Cursor} {pair : Nat × Bool}, integerStep v c = .ok (.inr pair) c₁ →
      pair = (w, true) → c₁ = c' → ∃ ds, c.rest = ds ++ c'.rest ∧ (∀ d ∈ ds, d.isDigit = true) ∧
        Stops Char.isDigit c'.rest ∧ w = Nat.ofDigitChars 10 ds v := by
    rintro v c c₁ _ hstep rfl rfl
    rcases integerStep_cases hstep with ⟨d, -, -, hinl⟩ | hfull | ⟨hpair, rfl, hstops⟩
    · cases hinl
    · cases hfull
    · obtain ⟨rfl, -⟩ := Prod.mk.inj (Sum.inr.inj hpair)
      exact ⟨[], rfl, by simp, hstops, rfl⟩
  intro fuel
  induction fuel with
  | nil =>
    intro v c h
    rw [Reader.loopOver_nil] at h
    obtain ⟨answer, c₁, hstep, hrest⟩ := exists_of_bind_ok h
    cases answer with
    | inl next => cases hrest
    | inr pair =>
      obtain ⟨hpair, hc⟩ := EStateM.Result.ok.inj hrest
      exact hlast hstep hpair hc
  | cons _ fuel ih =>
    intro v c h
    rw [Reader.loopOver_cons] at h
    obtain ⟨answer, c₁, hstep, hrest⟩ := exists_of_bind_ok h
    cases answer with
    | inl next =>
      obtain ⟨ds, hds, hdigits, hstops, hw⟩ := ih next c₁ hrest
      rcases integerStep_cases hstep with ⟨d, hd, hdigit, hinl⟩ | hfull | ⟨hfull, -⟩
      · obtain rfl := Sum.inl.inj hinl
        refine ⟨d :: ds, by rw [hd, hds]; rfl, List.forall_mem_cons.mpr ⟨hdigit, hdigits⟩, hstops, ?_⟩
        rw [hw, Nat.ofDigitChars_cons, Nat.mul_comm v 10]
        rfl
      · cases hfull
      · cases hfull
    | inr pair =>
      obtain ⟨hpair, hc⟩ := EStateM.Result.ok.inj hrest
      exact hlast hstep hpair hc

/-- What goes on with a number, digits apart. -/
theorem exists_goesOn (hstops : Stops Char.isDigit xs) (h : ¬ Ended xs) :
    ∃ d ds, xs = d :: ds ∧ (d = '.' ∨ d = 'e' ∨ d = 'E') := by
  cases xs with
  | nil => exact absurd ended_nil h
  | cons d ds =>
    refine ⟨d, ds, rfl, ?_⟩
    rw [Ended, Reader.stops_cons, Bool.not_eq_false, goesOn, Reader.stops_cons.mp hstops] at h
    simpa [or_assoc] using h

/-- Digits are a natural number if nothing behind them goes on with it. -/
theorem afterInteger_natural {n : Nat} (hstops : Stops Char.isDigit c.rest)
    (h : afterInteger true n c = .ok (.natural v) c') : v = n ∧ c'.rest = c.rest ∧ Ended c.rest := by
  obtain ⟨xs, p⟩ := c
  by_cases hended : Ended xs
  · obtain ⟨hv, hrest⟩ := (reads_afterInteger n hended).answer h
    exact ⟨Numeral.natural.inj hv, hrest, hended⟩
  · obtain ⟨d, ds, rfl, rfl | rfl | rfl⟩ := exists_goesOn hstops hended
    · exact absurd h (neverNatural_fractionPart true n 0 _ _ _)
    · exact absurd h (neverNatural_exponentPart true n 0 _ _ _)
    · exact absurd h (neverNatural_exponentPart true n 0 _ _ _)

theorem unsigned_natural (h : unsigned true c = .ok (.natural v) c') :
    c.rest = Nat.toDigits 10 v ++ c'.rest ∧ Ended c'.rest := by
  obtain ⟨xs, p⟩ := c
  cases xs with
  | nil => cases h
  | cons d ds =>
    change (if d = '0' then _ else if d.isDigit = true then _ else failRead _ : Reader _) _ = _ at h
    by_cases hzero : d = '0'
    · subst hzero
      rw [if_pos rfl] at h
      change (if ds.head?.any Char.isDigit = true then _ else _ : Reader _) ⟨ds, _⟩ = _ at h
      by_cases hmore : ds.head?.any Char.isDigit = true
      · rw [if_pos hmore] at h
        cases h
      · rw [if_neg hmore] at h
        have hstops : Stops Char.isDigit ds := by
          intro e he
          rw [he] at hmore
          simpa using hmore
        obtain ⟨rfl, hrest, hended⟩ := afterInteger_natural hstops h
        rw [hrest]
        exact ⟨rfl, hended⟩
    rw [if_neg hzero] at h
    by_cases hdigit : d.isDigit = true
    · rw [if_pos hdigit] at h
      obtain ⟨⟨significand, fits⟩, c₁, hloop, h⟩ := exists_of_bind_ok h
      cases fits with
      | false => exact absurd h (neverNatural_longInteger true significand _ _ _)
      | true =>
        obtain ⟨es, hes, hdigits, hstops, hvalue⟩ := loopOver_integerStep _ 0 _ hloop
        obtain ⟨rfl, hrest, hended⟩ := afterInteger_natural hstops h
        rw [hrest]
        refine ⟨?_, hended⟩
        have hwhole : WholePart es := by
          obtain ⟨e, es, rfl⟩ : ∃ e es', es = e :: es' := by
            refine List.exists_cons_of_ne_nil fun hnil => ?_
            rw [hnil, List.nil_append] at hes
            exact absurd hdigit (by simp [hstops d (by rw [← hes]; rfl)])
          obtain rfl : d = e := (List.cons.inj hes).1
          exact ⟨⟨List.cons_ne_nil d es, hdigits⟩, fun hhead => absurd (Option.some.inj hhead) hzero⟩
        rw [hvalue, hwhole.toDigits_ofDigitChars]
        exact hes
    · rw [if_neg hdigit] at h
      cases h

/-- **A natural number is answered for its digits**, where nothing goes on with them. The converse, that such digits are
read, is known of written numbers. -/
theorem numeral_natural (h : numeral c = .ok (.natural v) c') :
    c.rest = Nat.toDigits 10 v ++ c'.rest ∧ Ended c'.rest := by
  obtain ⟨xs, p⟩ := c
  by_cases hminus : xs.head? = some '-'
  · obtain ⟨ds, rfl⟩ := List.head?_eq_some_iff.mp hminus
    exact absurd h (neverNatural_bind (r := Reader.advance 1) (fun _ => neverNatural_unsigned_false) _ _ _)
  · have hunsigned : Reader.Continues numeral xs (unsigned true) xs := by
      refine (reads_peek xs).continues ?_
      split
      · rename_i heq
        exact absurd heq hminus
      · exact Reader.continues_self _ xs
    obtain ⟨q, hq⟩ := hunsigned p
    rw [hq] at h
    have hnatural := unsigned_natural h
    exact hnatural

/-! ## Numbers of 32 bits

The judgement, case by case. `WordsOnly` is what a document does with a number, and no more of it is needed. -/

/-- What follows a number answers it if it is natural and has 32 bits, and refuses any other. -/
structure WordsOnly (k : Numeral → Reader UInt32) : Prop where
  word : ∀ v, v < Word.count32 → k (.natural v) = pure (UInt32.ofNat v)
  other : ∀ n, (∀ v, n = .natural v → Word.count32 ≤ v) → ∀ ys, Refuses (k n) ys

section Judgement

variable {k : Numeral → Reader UInt32}

/-- Where no number of 32 bits comes next, none is read. -/
theorem refuses_numeral (hk : WordsOnly k)
    (hxs : ∀ v ys, xs = Nat.toDigits 10 v ++ ys → Ended ys → Word.count32 ≤ v) : Refuses (numeral >>= k) xs := by
  refine Reader.refuses_of_not_ok fun p a c' hok => ?_
  obtain ⟨n, c₁, hnumeral, hrest⟩ := exists_of_bind_ok hok
  have hlarge : ∀ v, n = .natural v → Word.count32 ≤ v := by
    rintro v rfl
    obtain ⟨hdigits, hended⟩ := numeral_natural hnumeral
    exact hxs v c₁.rest hdigits hended
  obtain ⟨e, c₂, he⟩ := hk.other n hlarge c₁.rest c₁.position
  cases he.symm.trans hrest

/-- Behind a minus sign no digits begin that a natural number is written with. -/
theorem refuses_minus (hk : WordsOnly k) (more : List Char) : Refuses (numeral >>= k) ('-' :: more) := by
  refine refuses_numeral hk fun v ys heq _ => ?_
  obtain ⟨d, ds, hds, hd⟩ := toDigits_eq_cons v
  rw [hds] at heq
  rw [← (List.cons.inj heq).1] at hd
  exact absurd hd (by decide)

/-- More digits do not help a number that is too large. -/
theorem refuses_large (hk : WordsOnly k) {n : Nat} (hn : Word.count32 ≤ n) (more : List Char) :
    Refuses (numeral >>= k) (Nat.toDigits 10 n ++ more) := by
  refine refuses_numeral hk fun v ys heq hy => ?_
  have hprefix := prefix_of_digits heq isDigit_of_mem_toDigits hy.not_digit
  exact Nat.le_trans hn (le_of_begins hprefix)

/-- With a point or an exponent a number is not natural. -/
theorem refuses_goesOn (hk : WordsOnly k) {n : Nat} {d : Char} (hd : goesOn d = true) (hdigit : d.isDigit = false)
    (more : List Char) :
    Refuses (numeral >>= k) (Nat.toDigits 10 n ++ d :: more) := by
  refine refuses_numeral hk fun v ys heq hy => ?_
  obtain ⟨-, hys⟩ := digits_unique heq isDigit_of_mem_toDigits isDigit_of_mem_toDigits
    (Reader.stops_cons.mpr hdigit) hy.not_digit
  rw [← hys, Ended, Reader.stops_cons, hd] at hy
  cases hy

/-- The digits of a number of 32 bits are taken. -/
theorem takes_numeral (hk : WordsOnly k) {n : Nat} (hn : n < Word.count32) (hy : Ended ys) :
    Takes (numeral >>= k) (Nat.toDigits 10 n) (UInt32.ofNat n) ys := by
  intro zs hzs
  have hz : Ended zs := by
    rwa [Ended, Stops, hzs]
  refine (reads_numeral ?_ hz).bind ?_
  · simp only [Word.count32, Word.count64] at hn ⊢
    omega
  · rw [hk.word n hn]
    exact reads_pure _ _

/-- No number has a zero before other digits. -/
theorem fails_numeral {d : Char} (hd : d.isDigit = true) (ds : List Char) :
    Fails Broken numeral ('0' :: d :: ds) := by
  have hunsigned : Fails Broken (unsigned true) ('0' :: d :: ds) := by
    refine (reads_peek _).fails ((reads_advance 1 _).fails ((reads_peek _).fails ?_))
    show Fails Broken (if d.isDigit = true then _ else _) _
    rw [if_pos hd]
    exact fails_failPeek rfl
  exact (reads_peek _).fails hunsigned

/-- Digits with a point or an exponent begin a number. -/
theorem WholePart.goesOn {d : Char} (h : WholePart ds) (hd : d = '.' ∨ d = 'e' ∨ d = 'E') :
    Value (ds ++ [d, '0']) := by
  have hzero : AllDigits ['0'] := (wholePart_singleton rfl).1
  rcases hd with rfl | rfl | rfl
  · simpa using h.number (.point hzero) .none
  · simpa using h.number .none (.letter (.inl rfl) (.inl rfl) hzero)
  · simpa using h.number .none (.letter (.inr rfl) (.inl rfl) hzero)

/-- A point or an exponent is seen when it comes, and so is a digit too many. The cases are those of the grammar: a
sign, a zero before other digits, digits alone, and digits with something that goes on with them. -/
theorem judged_numeral (hk : WordsOnly k) {d : Char} {ds : List Char} (hd : d = '-' ∨ d.isDigit = true) :
    Judged SpacedValue (numeral >>= k) (d :: ds) := by
  rcases hd with rfl | hd
  · exact .mismatched (List.cons_ne_nil '-' []) ⟨ds, rfl⟩ value_minus.spacedValue ⟨['0'], rfl⟩
      (refuses_minus hk)
  obtain ⟨es, ys, heq, hes, hstops⟩ := exists_run Char.isDigit (d :: ds)
  have hnonempty : es ≠ [] := by
    rintro rfl
    rw [List.nil_append] at heq
    rw [← heq, Reader.stops_cons, hd] at hstops
    cases hstops
  rw [heq]
  by_cases hwhole : WholePart es
  · have hvalue : Value es := by simpa using hwhole.number .none .none
    have hdigits := hwhole.toDigits_ofDigitChars
    generalize Nat.ofDigitChars 10 es 0 = n at hdigits
    subst hdigits
    by_cases hended : Ended ys
    · by_cases hlarge : Word.count32 ≤ n
      · exact .mismatched hnonempty ⟨ys, rfl⟩ hvalue.spacedValue (List.prefix_refl _) (refuses_large hk hlarge)
      · exact .taken rfl hvalue.spacedValue (takes_numeral hk (by omega) hended)
    · obtain ⟨e, rest, rfl, he⟩ := exists_goesOn hstops hended
      have hgoesOn : goesOn e = true := by rcases he with rfl | rfl | rfl <;> rfl
      refine .mismatched (by simp) ⟨rest, List.append_assoc _ [e] rest⟩ (hwhole.goesOn he).spacedValue
        ⟨['0'], List.append_assoc _ [e] ['0']⟩ fun more => ?_
      rw [List.append_assoc]
      exact refuses_goesOn hk hgoesOn (Reader.stops_cons.mp hstops) more
  · -- The only digits that are not the whole part of a number have a zero before them.
    obtain ⟨e, rest, rfl⟩ := List.exists_cons_of_ne_nil hnonempty
    have hshape : e = '0' ∧ rest ≠ [] := by
      by_cases he : e = '0'
      · exact ⟨he, fun hnil => hwhole ⟨⟨hnonempty, hes⟩, fun _ => by rw [he, hnil]⟩⟩
      · exact absurd ⟨⟨hnonempty, hes⟩, fun hhead => absurd (Option.some.inj hhead) he⟩ hwhole
    obtain ⟨rfl, hrest⟩ := hshape
    obtain ⟨e, rest, rfl⟩ := List.exists_cons_of_ne_nil hrest
    exact .broken (fails_numeral (hes e (by simp)) _).bind

end Judgement

/-- **A number of 32 bits is judged wherever it is expected**, before any text: before another kind of value too, and
before none. -/
theorem judged_readNumber (xs : List Char) : Judged SpacedValue readNumber xs := by
  refine judged_peekOr rfl (fun d ds _ => ?_) xs
  by_cases hd : d = '-' ∨ d.isDigit = true
  · rw [if_pos (by simpa using hd)]
    refine judged_numeral ⟨fun v hv => if_pos hv, fun n hn ys => ?_⟩ hd
    cases n with
    | natural v =>
      have hlarge : ¬ v < Word.count32 := Nat.not_lt.mpr (hn v rfl)
      show Refuses (if v < Word.count32 then _ else _) ys
      rw [if_neg hlarge]
      exact fun p => ⟨_, _, rfl⟩
    | negative size => exact fun p => ⟨_, _, rfl⟩
    | float value => exact fun p => ⟨_, _, rfl⟩
  · rw [if_neg (by simpa using hd)]
    exact judged_refuse "u32" d ds

end Gamebook.Json
