import Gamebook.Proofs.Json.Judged

/-!
# What becomes of any text inside a list or an object

What is left inside a frame begins with a further part, with its end, or with neither, which is broken (`Lead`).
The readers of punctuation tell these apart (`hasElement_cases`, `hasEntry_cases`). What lies inside is judged
together with its end, and so is the frame (`judged_frame`): a reader that closes what it was refused in fails
where it would without (`alike_closedBy`).

A list and an object are broken in more ways than a value. There may be no comma between two parts, or one before the
closing character, or nothing at all. All of these are cases of how the inside begins, blanks apart, and they are
listed once for both kinds of frames. A first part has no comma before it, which is the only difference that being
first makes.

The inside of a frame is a language of its own: parts with commas, up to and including the closing character
(`Inside`). It is closed under what the loops of the readers do, one part more at the front, and so a loop is judged
by an induction over it. The closing character belongs to the inside, since without it a list of no part would be the
empty text, which begins everything.

When a reader has been refused in the middle of a frame, it still goes on to the closing character, and reports the
fault it had. This changes where it stops and not what it answers; `Alike` says as much of two readers, and judgements
do not tell alike readers apart.
-/

namespace Gamebook.Json

open Gamebook.Text
open Text.Reader (Reads Fails Refuses Stops Takes reads_pure reads_advance takes_advance exists_run)

variable {α : Type} {first : Bool} {frame : Frame} {bs s t xs ys : List Char} {c : Char}

/-! ## The inside of lists and objects

The language that the loops over items and entries are judged by, and what it is closed under. -/

/-- What is behind the opening character of a frame, up to the closing one. -/
def Inside (frame : Frame) (first : Bool) (s : List Char) : Prop :=
  ∃ parts, (∀ part ∈ parts, Part frame part) ∧ Layout frame.close first parts s

theorem inside_done (frame : Frame) (first : Bool) (hb : Blank bs) : Inside frame first (bs ++ [frame.close]) :=
  ⟨[], fun _ h => absurd h List.not_mem_nil, .done hb⟩

theorem Inside.part {part : List Char} (h : Inside frame false s) (hbefore : Before first bs)
    (hpart : Part frame part) : Inside frame first (bs ++ (part ++ s)) := by
  obtain ⟨parts, hparts, hlayout⟩ := h
  exact ⟨part :: parts, List.forall_mem_cons.mpr ⟨hpart, hparts⟩, .part hbefore hlayout⟩

theorem Inside.value (h : Inside frame true s) : Value (frame.opener :: s) := by
  obtain ⟨parts, hparts, hlayout⟩ := h
  exact .nested hparts hlayout

theorem Before.append {ws : List Char} (h : Before first bs) (hws : Blank ws) : Before first (bs ++ ws) := by
  cases h with
  | first hb => exact .first (hb.append hws)
  | @next bs bs' hb hb' =>
    rw [List.append_assoc]
    exact .next hb (hb'.append hws)

theorem Before.blank_append {ws : List Char} (h : Before first bs) (hws : Blank ws) : Before first (ws ++ bs) := by
  cases h with
  | first hb => exact .first (hws.append hb)
  | @next bs bs' hb hb' =>
    rw [← List.append_assoc]
    exact .next (hws.append hb) hb'

/-- Blanks may be added inside. -/
theorem Inside.blank_append (h : Inside frame first s) (hb : Blank bs) : Inside frame first (bs ++ s) := by
  obtain ⟨parts, hparts, hlayout⟩ := h
  refine ⟨parts, hparts, ?_⟩
  cases hlayout with
  | done hb' =>
    rw [← List.append_assoc]
    exact .done (hb.append hb')
  | part hbefore hrest =>
    rw [← List.append_assoc]
    exact .part (hbefore.blank_append hb) hrest

/-- A value behind blanks is a part of a list. -/
theorem Inside.item (h : Inside .list false t) (hbefore : Before first bs) (hs : SpacedValue s) :
    Inside .list first (bs ++ (s ++ t)) := by
  obtain ⟨ws, v, rfl, hws, hv⟩ := hs
  have hpart := h.part (hbefore.append hws) hv
  simpa using hpart

theorem Inside.ne_nil (h : Inside frame first s) : s ≠ [] := by
  obtain ⟨parts, hparts, hlayout⟩ := h
  cases hlayout with
  | done => simp
  | part =>
    obtain ⟨c, cs, rfl, -⟩ := (hparts _ List.mem_cons_self).opens
    simp

/-- Where the closing character comes next it is all that is left inside. -/
theorem Inside.eq_of_close (h : Inside frame first t) (hhead : t.head? = some frame.close) :
    t = [frame.close] := by
  obtain ⟨parts, hparts, hlayout⟩ := h
  have hspace : isSpace frame.close = false := by cases frame <;> decide
  have hcomma : frame.close ≠ ',' := by cases frame <;> decide
  have hblank : ∀ {ws zs : List Char}, Blank ws → (ws ++ zs).head? = some frame.close → ws = [] := by
    intro ws zs hws hfirst
    cases ws with
    | nil => rfl
    | cons d ws =>
      obtain rfl : d = frame.close := Option.some.inj hfirst
      exact absurd (hws _ List.mem_cons_self) (by simp [hspace])
  cases hlayout with
  | done hb => rw [hblank hb hhead, List.nil_append]
  | @part _ ws part parts zs hbefore =>
    exfalso
    cases hbefore with
    | first hb =>
      rw [hblank hb hhead, List.nil_append] at hhead
      obtain ⟨d, ds, rfl, -, hbracket, hbrace⟩ := (hparts part List.mem_cons_self).opens
      obtain rfl : d = frame.close := Option.some.inj hhead
      cases frame with
      | list => exact hbracket rfl
      | object => exact hbrace rfl
    | @next ws ws' hb hb' =>
      rw [List.append_assoc] at hhead
      rw [hblank hb hhead, List.nil_append] at hhead
      exact hcomma (Option.some.inj hhead).symm

/-! ## Punctuation

How a text can go on inside a frame, and what each reader of punctuation makes of it. The readers agree where a part
begins with a quote, and an object is broken where it begins with anything else. -/

theorem takes_of_head {r : Reader α} {a : α} (h : ∀ cs, Reads r (s ++ c :: cs) a (c :: cs)) (cs : List Char) :
    Takes r s a (c :: cs) := by
  intro zs hzs
  obtain ⟨ds, rfl⟩ := List.head?_eq_some_iff.mp hzs
  exact h ds

/-- How what is left inside a frame can begin: with a further part, with the end, or with neither. -/
inductive Lead (close : Char) : Bool → List Char → Prop
  | nothing {first : Bool} {bs : List Char} : Blank bs → Lead close first bs
  | done {first : Bool} {bs cs : List Char} : Blank bs → Lead close first (bs ++ close :: cs)
  | part {first : Bool} {bs cs : List Char} {c : Char} : Before first bs → isSpace c = false → c ≠ close →
      Lead close first (bs ++ c :: cs)
  | comma {bs bs' : List Char} : Blank bs → Blank bs' → Lead close false (bs ++ ',' :: bs')
  | trailing {bs bs' cs : List Char} : Blank bs → Blank bs' → Lead close false (bs ++ ',' :: (bs' ++ close :: cs))
  | unseparated {bs cs : List Char} {c : Char} : Blank bs → isSpace c = false → c ≠ close → c ≠ ',' →
      Lead close false (bs ++ c :: cs)

/-- Every text begins in one of the ways in which the inside of a frame can begin. By what comes behind the blanks. -/
theorem lead (close : Char) (first : Bool) (xs : List Char) : Lead close first xs := by
  obtain ⟨bs, rest, rfl, hb, hstops⟩ := exists_run isSpace xs
  cases rest with
  | nil =>
    rw [List.append_nil]
    exact .nothing hb
  | cons c cs =>
    have hspace : isSpace c = false := Reader.stops_cons.mp hstops
    by_cases hclose : c = close
    · rw [hclose]
      exact .done hb
    cases first with
    | true => exact .part (.first hb) hspace hclose
    | false =>
      by_cases hcomma : c = ','
      · subst hcomma
        obtain ⟨bs', rest, rfl, hb', hstops'⟩ := exists_run isSpace cs
        cases rest with
        | nil =>
          rw [List.append_nil]
          exact .comma hb hb'
        | cons d ds =>
          by_cases hclose' : d = close
          · rw [hclose']
            exact .trailing hb hb'
          · rw [← List.cons_append, ← List.append_assoc]
            exact .part (.next hb hb') (Reader.stops_cons.mp hstops') hclose'
      · exact .unseparated hb hspace hclose hcomma

/-- Before an element of a list: no further one comes, or one does, or the list is broken. -/
theorem hasElement_cases (first : Bool) (xs : List Char) :
    (∃ bs cs, xs = bs ++ ']' :: cs ∧ Blank bs ∧ Takes (hasElement first) bs false (']' :: cs)) ∨
      (∃ bs c cs, xs = bs ++ c :: cs ∧ Before first bs ∧ Takes (hasElement first) bs true (c :: cs)) ∨
      Fails Broken (hasElement first) xs := by
  cases lead ']' first xs with
  | nothing hb => exact .inr (.inr (fails_peekOr rfl hb).bind)
  | @done _ bs cs hb =>
    refine .inl ⟨bs, cs, rfl, hb, takes_of_head (fun cs => ?_) cs⟩
    refine (reads_peekOr _ hb (by decide) cs).bind ?_
    rw [if_pos rfl]
    exact reads_pure _ _
  | @part _ bs cs c hbefore hspace hclose =>
    have htakes := takes_of_head (fun _ => hbefore.reads_hasElement hspace hclose) cs
    exact .inr (.inl ⟨bs, c, cs, rfl, hbefore, htakes⟩)
  | comma hb hb' =>
    refine .inr (.inr ((reads_peekOr _ hb (by decide) _).fails ?_))
    rw [if_neg (by decide), if_neg (by decide), if_pos rfl]
    exact (reads_advance 1 _).fails (fails_peekOr rfl hb').bind
  | trailing hb hb' =>
    refine .inr (.inr ((reads_peekOr _ hb (by decide) _).fails ?_))
    rw [if_neg (by decide), if_neg (by decide), if_pos rfl]
    refine (reads_advance 1 _).fails ((reads_peekOr _ hb' (by decide) _).fails ?_)
    rw [if_pos rfl]
    exact fails_failPeek rfl
  | unseparated hb hspace hclose hcomma =>
    refine .inr (.inr ((reads_peekOr _ hb hspace _).fails ?_))
    rw [if_neg hclose, if_neg (by decide), if_neg hcomma]
    exact fails_failPeek rfl

/-- Before an entry of an object: no further one comes, or one does, or the object is broken. -/
theorem hasEntry_cases (first : Bool) (xs : List Char) :
    (∃ bs cs, xs = bs ++ '}' :: cs ∧ Blank bs ∧ Takes (hasEntry first) bs false ('}' :: cs)) ∨
      (∃ bs cs, xs = bs ++ '"' :: cs ∧ Before first bs ∧ Takes (hasEntry first) bs true ('"' :: cs)) ∨
      Fails Broken (hasEntry first) xs := by
  cases lead '}' first xs with
  | nothing hb => exact .inr (.inr (fails_peekOr rfl hb).bind)
  | @done _ bs cs hb =>
    refine .inl ⟨bs, cs, rfl, hb, takes_of_head (fun cs => ?_) cs⟩
    refine (reads_peekOr _ hb (by decide) cs).bind ?_
    rw [if_pos rfl]
    exact reads_pure _ _
  | @part _ bs cs c hbefore hspace hclose =>
    by_cases hquote : c = '"'
    · subst hquote
      exact .inr (.inl ⟨bs, cs, rfl, hbefore, takes_of_head (fun _ => hbefore.reads_hasEntry) cs⟩)
    refine .inr (.inr ?_)
    cases hbefore with
    | first hb =>
      refine (reads_peekOr _ hb hspace _).fails ?_
      rw [if_neg hclose, if_pos rfl, if_neg hquote]
      exact fails_failPeek rfl
    | next hb hb' =>
      rw [List.append_assoc]
      refine (reads_peekOr _ hb (by decide) _).fails ?_
      rw [if_neg (by decide), if_neg (by decide), if_pos rfl]
      refine (reads_advance 1 _).fails ((reads_peekOr _ hb' hspace _).fails ?_)
      rw [if_neg hquote, if_neg hclose]
      exact fails_failPeek rfl
  | comma hb hb' =>
    refine .inr (.inr ((reads_peekOr _ hb (by decide) _).fails ?_))
    rw [if_neg (by decide), if_neg (by decide), if_pos rfl]
    exact (reads_advance 1 _).fails (fails_peekOr rfl hb').bind
  | trailing hb hb' =>
    refine .inr (.inr ((reads_peekOr _ hb (by decide) _).fails ?_))
    rw [if_neg (by decide), if_neg (by decide), if_pos rfl]
    refine (reads_advance 1 _).fails ((reads_peekOr _ hb' (by decide) _).fails ?_)
    rw [if_neg (by decide), if_pos rfl]
    exact fails_failPeek rfl
  | unseparated hb hspace hclose hcomma =>
    refine .inr (.inr ((reads_peekOr _ hb hspace _).fails ?_))
    rw [if_neg hclose, if_neg (by decide), if_neg hcomma]
    exact fails_failPeek rfl

/-- One character is passed behind blanks, and nothing else may be there. -/
theorem lexed_peekOr {fault : Fault} (hfault : fault.isShape = false) {wanted : Char}
    (hwanted : isSpace wanted = false) {f : Char → Reader Unit} (hpass : f wanted = Text.Reader.advance 1)
    (hother : ∀ d ds, d ≠ wanted → Fails Broken (f d) (d :: ds)) (xs : List Char) :
    Lexed (fun _ s => ∃ bs, s = bs ++ [wanted] ∧ Blank bs) (peekOr fault >>= f) xs := by
  obtain ⟨bs, rest, rfl, hb, hstops⟩ := exists_run isSpace xs
  cases rest with
  | nil =>
    rw [List.append_nil]
    exact .broken (fails_peekOr hfault hb).bind
  | cons d ds =>
    by_cases hd : d = wanted
    · subst hd
      refine .read (a := ()) (List.append_assoc bs [d] ds).symm ⟨bs, rfl, hb⟩ fun zs => ?_
      rw [List.append_assoc]
      refine (reads_peekOr fault hb hwanted zs).bind ?_
      rw [hpass]
      exact reads_advance 1 _
    · exact .broken ((reads_peekOr fault hb (Reader.stops_cons.mp hstops) ds).fails (hother d ds hd))

theorem lexed_colon (xs : List Char) : Lexed (fun _ s => ∃ bs, s = bs ++ [':'] ∧ Blank bs) colon xs := by
  refine lexed_peekOr rfl (by decide) (if_pos rfl) (fun d ds hd => ?_) xs
  rw [if_neg hd]
  exact fails_failPeek rfl

theorem lexed_endList (xs : List Char) : Lexed (fun _ s => ∃ bs, s = bs ++ [']'] ∧ Blank bs) endList xs := by
  refine lexed_peekOr rfl (by decide) (if_pos rfl) (fun d ds hd => ?_) xs
  rw [if_neg hd]
  split
  · obtain ⟨bs, rest, hrest, hb, hstops⟩ := exists_run isSpace ((d :: ds).drop 1)
    refine (reads_advance 1 _).fails ?_
    rw [hrest]
    refine (reads_peekWord hb hstops).fails ?_
    split
    · exact fails_failPeek rfl
    · exact fails_failPeek rfl
  · exact fails_failPeek rfl

theorem lexed_endObject (xs : List Char) : Lexed (fun _ s => ∃ bs, s = bs ++ ['}'] ∧ Blank bs) endObject xs := by
  refine lexed_peekOr rfl (by decide) (if_pos rfl) (fun d ds hd => ?_) xs
  rw [if_neg hd]
  split
  · exact fails_failPeek rfl
  · exact fails_failPeek rfl

/-! ## Closing

The end of a frame is read behind its inside, whatever came of that. -/

/-- The second reader answers what the first one does, and fails where it does, with the same fault. -/
def Alike (r r' : Reader α) : Prop :=
  ∀ c, (∃ a c', r c = .ok a c' ∧ r' c = .ok a c') ∨
    ∃ e c₁ e' c₂, r c = .error e c₁ ∧ r' c = .error e' c₂ ∧ e'.fault = e.fault

section Alike

variable {r r' : Reader α} {L : List Char → Prop} {a : α}

theorem Alike.reads (h : Alike r r') (hr : Reads r xs a ys) : Reads r' xs a ys := by
  intro p
  obtain ⟨q, hq⟩ := hr p
  rcases h ⟨xs, p⟩ with ⟨b, c', hok, hok'⟩ | ⟨e, c₁, -, -, herror, -⟩
  · exact ⟨q, hok'.trans (hok.symm.trans hq)⟩
  · cases hq.symm.trans herror

theorem Alike.fails (kind : Fault → Prop) (h : Alike r r') (hr : Fails (fun failure => kind failure.fault) r xs) :
    Fails (fun failure => kind failure.fault) r' xs := by
  intro p
  obtain ⟨e, c, he, hkind⟩ := hr p
  rcases h ⟨xs, p⟩ with ⟨b, c', hok, -⟩ | ⟨e₁, c₁, e', c₂, herror, herror', hfault⟩
  · cases he.symm.trans hok
  · obtain ⟨rfl, -⟩ := EStateM.Result.error.inj (he.symm.trans herror)
    exact ⟨e', c₂, herror', show kind e'.fault by rwa [hfault]⟩

theorem Alike.refuses (h : Alike r r') (hr : Refuses r xs) : Refuses r' xs :=
  (Alike.fails (fun _ => True) h (hr.fails fun _ => trivial)).refuses

theorem Judged.congr (h : Alike r r') (hr : Judged L r xs) : Judged L r' xs := by
  cases hr with
  | taken heq hs htakes => exact .taken heq hs fun zs hzs => h.reads (htakes zs hzs)
  | broken hfails => exact .broken (Alike.fails (fun fault => fault.isShape = false) h hfails)
  | mismatched hseen hxs hwhole hbegins hrefuses =>
    exact .mismatched hseen hxs hwhole hbegins fun more => h.refuses (hrefuses more)

end Alike

/-- What lies inside and its end are read one after the other. -/
def enclosed (close : Reader Unit) (inside : Reader α) : Reader α := do
  let a ← inside
  close
  return a

/-- To close a frame in which a reader was refused is to fail with the fault it had. Closing may fail too, and that
fault is not reported. -/
theorem alike_closedBy (close : Reader Unit) (inside : Reader α) :
    Alike (enclosed close inside) (closedBy close inside) := by
  intro c
  cases hinside : inside c with
  | ok a c' =>
    cases hclose : close c' with
    | ok _ c'' =>
      refine .inl ⟨a, c'', ?_, ?_⟩
      · simp only [enclosed, bind, EStateM.bind, hinside, hclose, pure, EStateM.pure]
      · simp only [closedBy, place, hinside, EStateM.map, hclose]
    | error e c'' =>
      refine .inr ⟨e, c'', ⟨e.fault, some (e.position.getD c''.position)⟩, c'', ?_, ?_, rfl⟩
      · simp only [enclosed, bind, EStateM.bind, hinside, hclose]
      · simp only [closedBy, place, hinside, EStateM.map, hclose]
  | error e c' =>
    have henclosed : enclosed close inside c = .error e c' := by
      simp only [enclosed, bind, EStateM.bind, hinside]
    cases hclose : close c' with
    | ok _ c'' =>
      refine .inr ⟨e, c', ⟨e.fault, some (e.position.getD c''.position)⟩, c'', henclosed, ?_, rfl⟩
      simp only [closedBy, place, hinside, hclose]
    | error _ c'' =>
      refine .inr ⟨e, c', ⟨e.fault, some (e.position.getD c''.position)⟩, c'', henclosed, ?_, rfl⟩
      simp only [closedBy, place, hinside, hclose]

/-- Behind what lies inside a list its end is read. -/
theorem judged_endList (a : α) (first : Bool) (xs : List Char) :
    Judged (Inside .list first) (do endList; return a) xs := by
  refine (lexed_endList xs).judged (fun _ s hs => ?_) |>.map (fun _ => a)
  obtain ⟨bs, rfl, hb⟩ := hs
  exact inside_done .list first hb

theorem judged_endObject (a : α) (first : Bool) (xs : List Char) :
    Judged (Inside .object first) (do endObject; return a) xs := by
  refine (lexed_endObject xs).judged (fun _ s hs => ?_) |>.map (fun _ => a)
  obtain ⟨bs, rfl, hb⟩ := hs
  exact inside_done .object first hb

/-- **A frame is judged if its inside is**, behind its opening character. What is mismatched inside is mismatched
with the opening character before it, and the completion is closed by the end of the frame. -/
theorem judged_frame (frame : Frame) {close : Reader Unit} {inside : Reader α} {cs : List Char}
    (h : Judged (Inside frame true) (enclosed close inside) cs) :
    Judged SpacedValue (do Text.Reader.advance 1; closedBy close inside) (frame.opener :: cs) := by
  refine Judged.after (takes_advance frame.opener cs) ?_
  refine Judged.congr (alike_closedBy close inside) (h.mono fun t ht _ => ?_)
  exact ht.value.spacedValue

end Gamebook.Json
