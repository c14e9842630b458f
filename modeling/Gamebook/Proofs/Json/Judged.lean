import Gamebook.Proofs.Json.Grammar
import Gamebook.Proofs.Json.Truncation
import Gamebook.Proofs.Text.Lookahead

/-!
# What can become of any text

A reader of documents is not only met with texts that spell one. Before any text at all it does one of three
things (`Judged`): it passes what the grammar derives, it fails on the notation, or it has seen something that
begins a text of the grammar and that no text goes on from which it would read. In the third case alone the
fault may be about the shape, and what comes behind is never looked at.

The third case is why there is a grammar. A reader that stops at something it did not expect has not read to the end,
so nothing is known of the text behind; but what it has seen can be completed. If a number stands where a text is
expected, the number is the beginning of a value, and the lists and records that are open around it can be closed. A
judgement therefore speaks of a language and of prefixes: what was seen, the completion, and that whatever follows is
refused as well.

A judgement is put together from those of parts (`Judged.bind`). If the first part was taken, the second is judged, in
the language of what may come behind the first; if the first failed or was mismatched, so is the whole. For a mismatch
in the first part the language has to say that its texts can be continued. A reader may look at one character more
than it passes, so to be taken says something about all ends that begin alike (`Takes`).

Words, strings and numbers know only the first two cases (`Lexed`): where one of them goes wrong in the middle, the
text is no JSON, for no completion would make it one.
-/

namespace Gamebook.Json

open Gamebook.Text
open Text.Reader (Reads Fails Refuses Stops Takes Shrinking reads_pure reads_peek reads_advance takes_of_reads
  exists_run)

variable {α β : Type} {s t xs ys : List Char} {a : α}

/-! ## Words

The readers of words look at one character at a time and fail where it is not the one they need. -/

/-- The reader passes a text of a language that may depend on the answer, whatever comes behind, or it fails on
the notation. -/
inductive Lexed (L : α → List Char → Prop) (r : Reader α) (xs : List Char) : Prop
  | read {s ys : List Char} {a : α} : xs = s ++ ys → L a s → (∀ zs, Reads r (s ++ zs) a zs) → Lexed L r xs
  | broken : Fails Broken r xs → Lexed L r xs

namespace Lexed

variable {L L' : α → List Char → Prop} {r : Reader α}

theorem mono (h : Lexed L r xs) (hL : ∀ a s, L a s → L' a s) : Lexed L' r xs := by
  cases h with
  | read heq hs hreads => exact .read heq (hL _ _ hs) hreads
  | broken hfails => exact .broken hfails

/-- What a reader passes, and then what the next one does. -/
theorem bind {f : α → Reader β} {L' : β → List Char → Prop} (hr : Lexed L r xs)
    (hf : ∀ a s ys, xs = s ++ ys → L a s → Lexed (fun b t => L' b (s ++ t)) (f a) ys) :
    Lexed L' (r >>= f) xs := by
  cases hr with
  | broken hfails => exact .broken hfails.bind
  | @read s ys a heq hs hreads =>
    subst heq
    cases hf a s ys rfl hs with
    | broken hfails => exact .broken ((hreads ys).fails hfails)
    | @read t zs b heq ht hnext =>
      have hxs : s ++ ys = s ++ t ++ zs := by rw [heq, List.append_assoc]
      refine .read hxs ht fun ws => ?_
      rw [List.append_assoc]
      exact (hreads _).bind (hnext ws)

/-- A reader may look at the character that the next one passes. -/
theorem look {c : Char} {f : α → Reader β} {L : β → List Char → Prop}
    (hr : ∀ zs, Reads r (c :: zs) a (c :: zs)) (hf : Lexed L (f a) (c :: xs))
    (hL : ∀ b s, L b s → s ≠ []) : Lexed L (r >>= f) (c :: xs) := by
  cases hf with
  | broken hfails => exact .broken ((hr xs).fails hfails)
  | @read s ys b heq hs hreads =>
    refine .read heq hs fun zs => ?_
    obtain ⟨d, s, rfl⟩ := List.exists_cons_of_ne_nil (hL b s hs)
    obtain rfl : c = d := (List.cons.inj heq).1
    exact (hr (s ++ zs)).bind (hreads zs)

end Lexed

theorem lexed_pure {L : α → List Char → Prop} (h : L a []) (xs : List Char) : Lexed L (pure a : Reader α) xs :=
  .read rfl h (reads_pure a)

/-- A character is looked at and passed. -/
theorem lexed_advance {L : Unit → List Char → Prop} {c : Char} (h : L () [c]) (xs : List Char) :
    Lexed L (Text.Reader.advance 1) (c :: xs) :=
  .read (s := [c]) rfl h fun zs => reads_advance 1 (c :: zs)

theorem fails_failRead {fault : Fault} (h : fault.isShape = false) : Fails Broken (failRead fault : Reader α) xs :=
  fun _ => ⟨_, _, rfl, h⟩

theorem lexed_word (cs : List Char) : ∀ xs, Lexed (fun _ s => s = cs) (word cs) xs := by
  induction cs with
  | nil => exact fun xs => lexed_pure (L := fun _ s => s = []) rfl xs
  | cons c cs ih =>
    intro xs
    cases xs with
    | nil => exact .broken ((reads_peek []).fails (fails_fail rfl))
    | cons d xs =>
      refine Lexed.look (fun zs => reads_peek (d :: zs)) ?_ (by rintro _ _ rfl; exact List.cons_ne_nil c cs)
      show Lexed _ (if d = c then _ else _) _
      by_cases hd : d = c
      · subst hd
        rw [if_pos rfl]
        refine (lexed_advance (L := fun _ s => s = [d]) rfl xs).bind fun _ s ys _ hs => ?_
        subst hs
        exact (ih ys).mono fun _ t ht => by rw [ht]; rfl
      · rw [if_neg hd]
        exact .broken (fails_failRead rfl)

/-! ## Strings

A string is read in rounds, and each passes a piece that may stand in a string. A code that begins a pair has to be
followed by the other half; the reader asks for it, and the grammar knows two codes. -/

theorem lexed_hexEscape (xs : List Char) :
    Lexed (fun n s => ∃ a b c d, s = [a, b, c, d] ∧ fourHex? a b c d = some n) hexEscape xs := by
  match xs with
  | a :: b :: c :: d :: ys =>
    cases hcode : fourHex? a b c d with
    | some n => exact .read (s := [a, b, c, d]) rfl ⟨a, b, c, d, rfl, hcode⟩ (reads_hexEscape_code hcode)
    | none =>
      refine .broken fun p => ?_
      simp only [hexEscape, hcode]
      split
      · exact ⟨_, _, rfl, rfl⟩
      · exact ⟨_, _, rfl, rfl⟩
  | [] => exact .broken (fails_hexEscape (by decide))
  | [_] => exact .broken (fails_hexEscape (by simp))
  | [_, _] => exact .broken (fails_hexEscape (by simp))
  | [_, _, _] => exact .broken (fails_hexEscape (by simp))

theorem lexed_expectPair (wanted : Char) (xs : List Char) :
    Lexed (fun _ s => s = [wanted]) (expectPair wanted) xs := by
  cases xs with
  | nil => exact .broken fails_peekString.bind
  | cons c xs =>
    refine Lexed.look (reads_peekString c) ?_ (by rintro _ _ rfl; exact List.cons_ne_nil _ _)
    by_cases hc : c = wanted
    · rw [if_pos hc]
      exact lexed_advance (congrArg (fun d => [d]) hc) xs
    · rw [if_neg hc]
      exact .broken (fails_failRead rfl)

/-- What goes before the rest of a string. -/
def Piece (s : List Char) : Prop := ∀ cs, Quoted cs → Quoted (s ++ cs)

/-- A code is one unit, or two that form a pair, which are two units to the grammar. -/
theorem lexed_unicodeEscape (xs : List Char) :
    Lexed (fun _ s => Piece ('\\' :: 'u' :: s)) unicodeEscape xs := by
  refine (lexed_hexEscape xs).bind fun first s ys _ hs => ?_
  obtain ⟨a, b, c, d, rfl, hcode⟩ := hs
  have hfirst : Piece ('\\' :: 'u' :: [a, b, c, d]) := fun cs hcs => .code hcode hcs
  split
  · exact .broken (fails_fail rfl)
  split
  · exact lexed_pure (by simpa using hfirst) ys
  refine (lexed_expectPair '\\' ys).bind fun _ s' ys _ hs' => ?_
  subst hs'
  refine (lexed_expectPair 'u' ys).bind fun _ s' ys _ hs' => ?_
  subst hs'
  refine (lexed_hexEscape ys).bind fun second s' ys _ hs' => ?_
  obtain ⟨a', b', c', d', rfl, hcode'⟩ := hs'
  split
  · exact .broken (fails_fail rfl)
  · exact lexed_pure (fun cs hcs => .code hcode (.code hcode' hcs)) ys

theorem lexed_escape (xs : List Char) :
    Lexed (fun _ s => s ≠ [] ∧ Piece ('\\' :: s)) (escape unicodeEscape) xs := by
  cases xs with
  | nil => exact .broken fails_peekString.bind
  | cons c xs =>
    refine Lexed.look (reads_peekString c) ?_ fun _ _ h => h.1
    cases hletter : simpleEscape? c with
    | some meaning =>
      refine (lexed_advance (L := fun _ s => s = [c]) rfl xs).bind fun _ s ys _ hs => ?_
      subst hs
      exact lexed_pure ⟨List.cons_ne_nil _ _, fun cs hcs => .letter hletter hcs⟩ ys
    | none =>
      show Lexed _ (if c = 'u' then _ else _) _
      by_cases hc : c = 'u'
      · subst hc
        rw [if_pos rfl]
        refine (lexed_advance (L := fun _ s => s = ['u']) rfl xs).bind fun _ s ys _ hs => ?_
        subst hs
        exact (lexed_unicodeEscape ys).mono fun _ t ht => ⟨List.cons_ne_nil _ _, ht⟩
      · rw [if_neg hc]
        exact .broken (fails_failRead rfl)

/-- What one round passes of a string: a piece of it, or the closing quote. -/
def StringRound : List Char ⊕ List Char → List Char → Prop
  | .inl _, s => s ≠ [] ∧ Piece s
  | .inr _, s => s = ['"']

theorem lexed_stringStep (read xs : List Char) : Lexed StringRound (stringStep read) xs := by
  cases xs with
  | nil => exact .broken fails_peekString.bind
  | cons c xs =>
    have hnonempty : ∀ b s, StringRound b s → s ≠ [] := by
      rintro (b | b) s h
      · exact h.1
      · rw [show s = ['"'] from h]
        exact List.cons_ne_nil _ _
    refine Lexed.look (reads_peekString c) ?_ hnonempty
    have hadvance : Lexed (fun _ s => s = [c]) (Text.Reader.advance 1 : Reader Unit) (c :: xs) :=
      lexed_advance rfl xs
    by_cases hquote : c = '"'
    · rw [if_pos hquote]
      refine hadvance.bind fun _ s ys _ hs => ?_
      subst hs hquote
      refine lexed_pure ?_ ys
      rfl
    rw [if_neg hquote]
    by_cases hslash : c = '\\'
    · rw [if_pos hslash]
      refine hadvance.bind fun _ s ys _ hs => ?_
      subst hs hslash
      refine (lexed_escape ys).bind fun _ s ys _ hs => ?_
      refine lexed_pure ?_ ys
      rw [List.append_nil]
      exact ⟨List.cons_ne_nil _ _, hs.2⟩
    rw [if_neg hslash]
    by_cases hcontrol : c.toNat < 0x20
    · rw [if_pos hcontrol]
      refine hadvance.bind fun _ _ _ _ _ => ?_
      exact .broken (fails_fail rfl)
    · rw [if_neg hcontrol]
      refine hadvance.bind fun _ s ys _ hs => ?_
      subst hs
      refine lexed_pure ?_ ys
      exact ⟨List.cons_ne_nil _ _, fun cs hcs => .plain hquote hslash (by omega) hcs⟩

/-- A round passes a character at least, if it goes on. -/
theorem shrinking_stringStep : Shrinking stringStep := by
  intro read c read' c' hstep
  cases lexed_stringStep read c.rest with
  | broken hfails =>
    obtain ⟨e, c'', he, -⟩ := hfails c.position
    cases he.symm.trans hstep
  | @read s ys answer heq hs hreads =>
    obtain ⟨rfl, hrest⟩ := (heq ▸ hreads ys).answer hstep
    have hpos : 0 < s.length := List.length_pos_iff.mpr hs.1
    rw [heq, hrest, List.length_append]
    omega

/-- A string that has been begun is read to its closing quote, if it is one. -/
theorem lexed_stringBody : ∀ read xs, Lexed (fun _ s => Quoted s) (Text.Reader.loop stringStep read) xs := by
  intro read xs
  induction hn : xs.length using Nat.strongRecOn generalizing read xs with
  | ind n ih =>
    subst hn
    rw [Reader.loop_eq shrinking_stringStep]
    refine (lexed_stringStep read xs).bind fun answer s ys heq hs => ?_
    cases answer with
    | inr _ => exact lexed_pure (by rw [List.append_nil, show s = ['"'] from hs]; exact .close) ys
    | inl read' =>
      have hless : ys.length < xs.length := by
        have hpos : 0 < s.length := List.length_pos_iff.mpr hs.1
        rw [heq, List.length_append]
        omega
      exact (ih _ hless read' ys rfl).mono fun _ t ht => hs.2 t ht

/-- **A string is read whole or broken.** A string that holds a control, an unknown escape or half of a pair is none of
the grammar either, and one that does not end is not closed. -/
theorem lexed_stringLiteral (xs : List Char) :
    Lexed (fun _ s => ∃ cs, s = '"' :: cs ∧ Quoted cs) stringLiteral ('"' :: xs) := by
  refine (lexed_advance (L := fun _ s => s = ['"']) rfl xs).bind fun _ s ys _ hs => ?_
  subst hs
  refine (lexed_stringBody [] ys).bind fun _ s ys _ hs => ?_
  exact lexed_pure ⟨s, by simp, hs⟩ ys

/-! ## Judgement

The three cases, how they are put together, and the first judgements: of blanks before a value, and of a value that is
not the one expected. -/

/-- What becomes of a text before a reader of a language: it begins with a text of the language, which is passed,
or the reader fails on the notation, or what has been seen of it begins a text of the language and nothing goes
on from there that the reader would read. -/
inductive Judged (L : List Char → Prop) (r : Reader α) (xs : List Char) : Prop
  | taken {s ys : List Char} {a : α} : xs = s ++ ys → L s → Takes r s a ys → Judged L r xs
  | broken : Fails Broken r xs → Judged L r xs
  | mismatched {seen whole : List Char} : seen ≠ [] → seen <+: xs → L whole → seen <+: whole →
      (∀ more, Refuses r (seen ++ more)) → Judged L r xs

/-- What has been seen is all that it takes to tell how both texts begin. -/
theorem head?_of_prefixes {seen whole : List Char} (hseen : seen ≠ []) (hxs : seen <+: xs)
    (hwhole : seen <+: whole) : whole.head? = xs.head? := by
  obtain ⟨c, cs, rfl⟩ := List.exists_cons_of_ne_nil hseen
  obtain ⟨_, rfl⟩ := hxs
  obtain ⟨_, rfl⟩ := hwhole
  rfl

theorem Lexed.judged {L : α → List Char → Prop} {L' : List Char → Prop} {r : Reader α} (h : Lexed L r xs)
    (hL : ∀ a s, L a s → L' s) : Judged L' r xs := by
  cases h with
  | read heq hs hreads => exact .taken heq (hL _ _ hs) (takes_of_reads hreads)
  | broken hfails => exact .broken hfails

namespace Judged

variable {L L' : List Char → Prop} {r : Reader α}

theorem mono (h : Judged L r xs) (hL : ∀ s, L s → L' s) : Judged L' r xs := by
  cases h with
  | taken heq hs htakes => exact .taken heq (hL _ hs) htakes
  | broken hfails => exact .broken hfails
  | mismatched hseen hxs hwhole hbegins hrefuses => exact .mismatched hseen hxs (hL _ hwhole) hbegins hrefuses

/-- Behind what a reader has passed, the next one is judged. Of the language it needs to know only the texts that
begin as what is left does, for the first reader has looked at that much. -/
theorem after {f : α → Reader β} (hr : Takes r s a ys)
    (hf : Judged (fun t => (t ≠ [] → t.head? = ys.head?) → L (s ++ t)) (f a) ys) :
    Judged L (r >>= f) (s ++ ys) := by
  cases hf with
  | @taken t zs b heq ht htakes =>
    subst heq
    have hhead : t ≠ [] → t.head? = (t ++ zs).head? := by
      intro hnonempty
      obtain ⟨c, cs, rfl⟩ := List.exists_cons_of_ne_nil hnonempty
      rfl
    exact .taken (List.append_assoc ..).symm (ht hhead) (hr.bind htakes)
  | broken hfails => exact .broken (hr.reads.fails hfails)
  | @mismatched seen whole hseen hys hwhole hbegins hrefuses =>
    have hnonempty : s ++ seen ≠ [] := List.append_ne_nil_of_right_ne_nil s hseen
    refine .mismatched hnonempty ((List.prefix_append_right_inj s).mpr hys)
      (hwhole fun _ => head?_of_prefixes hseen hys hbegins) ((List.prefix_append_right_inj s).mpr hbegins) ?_
    intro more
    rw [List.append_assoc]
    refine (hr _ ?_).refuses (hrefuses more)
    exact head?_of_prefixes hseen hys (List.prefix_append seen more)

/-- What a reader is judged by, and then the next one. -/
theorem bind {f : α → Reader β} (hr : Judged L r xs) (hL : ∀ s, L s → ∃ t, L' (s ++ t))
    (hf : ∀ s a ys, xs = s ++ ys → L s → Judged (fun t => L' (s ++ t)) (f a) ys) : Judged L' (r >>= f) xs := by
  cases hr with
  | @taken s ys a heq hs htakes =>
    rw [heq]
    exact after htakes ((hf s a ys heq hs).mono fun _ ht _ => ht)
  | broken hfails => exact .broken hfails.bind
  | @mismatched seen whole hseen hxs hwhole hbegins hrefuses =>
    obtain ⟨t, ht⟩ := hL whole hwhole
    exact .mismatched hseen hxs ht (hbegins.trans (List.prefix_append whole t)) fun more => (hrefuses more).bind

theorem map (f : α → β) (h : Judged L r xs) : Judged L (r >>= fun a => pure (f a)) xs := by
  refine h.bind (fun s hs => ⟨[], by rwa [List.append_nil]⟩) fun s a ys _ hs => ?_
  refine .taken (s := []) rfl ?_ (Reader.takes_pure (f a) ys)
  rwa [List.append_nil]

end Judged

/-- Values with blanks before them. -/
def SpacedValue (s : List Char) : Prop := ∃ bs v, s = bs ++ v ∧ Blank bs ∧ Value v

theorem SpacedValue.append {bs : List Char} (hb : Blank bs) (h : SpacedValue s) : SpacedValue (bs ++ s) := by
  obtain ⟨bs', v, rfl, hb', hv⟩ := h
  exact ⟨bs ++ bs', v, (List.append_assoc ..).symm, hb.append hb', hv⟩

theorem Part.spacedValue {v : List Char} (hv : Value v) : SpacedValue v := ⟨[], v, rfl, blank_nil, hv⟩

theorem takes_peekWord {bs : List Char} (hb : Blank bs) (hy : Stops isSpace ys) : Takes peekWord bs ys.head? ys := by
  intro zs hzs
  rw [← hzs]
  refine reads_peekWord hb ?_
  rwa [Stops, hzs]

/-- Behind blanks a reader is judged by what comes first. -/
theorem judged_peekOr {fault : Fault} (hfault : fault.isShape = false) {f : Char → Reader α}
    (hf : ∀ c cs, isSpace c = false → Judged SpacedValue (f c) (c :: cs)) (xs : List Char) :
    Judged SpacedValue (peekOr fault >>= f) xs := by
  obtain ⟨bs, rest, rfl, hb, hstops⟩ := exists_run isSpace xs
  cases rest with
  | nil =>
    rw [List.append_nil]
    exact .broken (fails_peekOr hfault hb).bind
  | cons c cs =>
    have htakes : Takes (peekOr fault) bs c (c :: cs) := by
      intro zs hzs
      obtain ⟨ds, rfl⟩ : ∃ ds, zs = c :: ds := List.head?_eq_some_iff.mp hzs
      exact reads_peekOr fault hb (hstops c rfl) ds
    exact Judged.after htakes ((hf c cs (hstops c rfl)).mono fun t ht _ => ht.append hb)

theorem value_empty (frame : Frame) : Value (frame.opener :: [frame.close]) :=
  .nested (fun _ h => absurd h List.not_mem_nil) (.done blank_nil)

theorem WholePart.number {ds fraction exponent : List Char} (h : WholePart ds) (hf : FractionPart fraction)
    (he : ExponentPart exponent) : Value (ds ++ (fraction ++ exponent)) :=
  .number (.positive ⟨ds, fraction, exponent, h, hf, he, rfl⟩)

theorem wholePart_singleton {d : Char} (hd : d.isDigit = true) : WholePart [d] := by
  refine ⟨⟨List.cons_ne_nil d [], fun c hc => ?_⟩, ?_⟩
  · rwa [List.mem_singleton.mp hc]
  · rintro ⟨⟩
    rfl

theorem value_digit {d : Char} (hd : d.isDigit = true) : Value [d] :=
  (wholePart_singleton hd).number .none .none

theorem value_minus : Value ['-', '0'] :=
  .number (.negative ⟨['0'], [], [], wholePart_singleton rfl, .none, .none, rfl⟩)

/-- A value that is not the one expected is refused as soon as it begins, and what begins no value is broken. What has
been seen is one character; it begins a value of its kind, and no reader of another kind reads on from there. -/
theorem judged_refuse (expected : String) (c : Char) (cs : List Char) :
    Judged SpacedValue (refuse expected : Reader α) (c :: cs) := by
  have hmismatched : ∀ v, Value (c :: v) → Judged SpacedValue (refuse expected : Reader α) (c :: cs) :=
    fun v hv => .mismatched (List.cons_ne_nil c []) ⟨cs, rfl⟩ hv.spacedValue ⟨v, rfl⟩
      fun _ => refuses_refuse expected
  by_cases hnull : c = 'n'
  · exact hmismatched ['u', 'l', 'l'] (hnull ▸ .null)
  by_cases hyes : c = 't'
  · exact hmismatched ['r', 'u', 'e'] (hyes ▸ .yes)
  by_cases hno : c = 'f'
  · exact hmismatched ['a', 'l', 's', 'e'] (hno ▸ .no)
  by_cases hquote : c = '"'
  · exact hmismatched ['"'] (hquote ▸ .text .close)
  by_cases hlist : c = '['
  · exact hmismatched [']'] (hlist ▸ value_empty .list)
  by_cases hobject : c = '{'
  · exact hmismatched ['}'] (hobject ▸ value_empty .object)
  by_cases hminus : c = '-'
  · exact hmismatched ['0'] (hminus ▸ value_minus)
  by_cases hdigit : c.isDigit = true
  · exact hmismatched [] (value_digit hdigit)
  refine .broken (Fails.bind ((reads_peek _).fails ?_))
  rw [List.head?_cons]
  split
  · rename_i heq
    exact absurd (Option.some.inj heq) hnull
  · rename_i heq
    exact absurd (Option.some.inj heq) hyes
  · rename_i heq
    exact absurd (Option.some.inj heq) hno
  · rename_i heq
    exact absurd (Option.some.inj heq) hquote
  · rename_i heq
    exact absurd (Option.some.inj heq) hlist
  · rename_i heq
    exact absurd (Option.some.inj heq) hobject
  · rename_i heq
    obtain rfl := Option.some.inj heq
    rw [if_neg (by simp [hminus, hdigit])]
    exact fails_failPeek rfl
  · exact fails_failPeek rfl

end Gamebook.Json
