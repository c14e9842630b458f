import Gamebook.Proofs.Json.RoundTrip
import Gamebook.Proofs.Text.Cuts

/-!
# JSON texts that are cut short

A text that spells a document, without its end, is no JSON. The reader by shape finds that out, and not that
the document has another shape than was expected: it fails with a fault of the notation (`Broken`), wherever
the cut falls. Only a bare number may lose digits and go unnoticed (`short_spelled`); inside a list or a record
it is missed at the next bracket or comma, and so no text of a record is read once it is cut
(`readText_cut`).

The proof follows the round trip, word by word and shape by shape, with the cut in each place where it can be. What
lies before the cut is read as in the whole text, by the lemmas of the round trip. In a word the cut leaves something
that is no word, numbers apart. In a layout (`LayoutCut`) it goes through what stands before a part, through a part,
or behind it through the rest, or nothing is left but blanks. What stands before a part does not tell that there is
one: of a comma and blanks the reader says neither that there is a further part nor that there is none, and fails.

A fault of the notation has to be told from one of the shape, for a reader of JSON asks both at once. Before the end
of a text it could go wrong to ask for the shape too early: an object whose last fields were cut off must not be
reported as one in which fields are missing. It is not, since missing fields are looked for at the closing brace,
which is cut off as well.

Whether the reader passes over fields it does not know makes no difference. None is written, and a key that is cut is
no key.
-/

namespace Gamebook.Json

open Gamebook.Text
open Text.Reader (Reads Fails Refuses Short Reaches reads_pure reads_advance short_pure)

variable {α : Type} {bs bs' xs ys text : List Char} {c : Char} {fault : Fault}

/-- The failure is about the notation, and not about the shape of what was read. -/
def Broken (failure : Failure) : Prop := failure.fault.isShape = false

/-! ## Words

A reader that needs a character fails at the end of the text, and every reader of a word needs its last one. -/

theorem fails_fail (h : fault.isShape = false) : Fails Broken (fail fault : Reader α) xs :=
  fun _ => ⟨_, _, rfl, h⟩

theorem fails_failPeek (h : fault.isShape = false) : Fails Broken (failPeek fault : Reader α) xs :=
  fun _ => ⟨_, _, rfl, h⟩

/-- What is refused is not read, whatever it is. -/
theorem refuses_refuse (expected : String) : Refuses (refuse expected : Reader α) xs := by
  intro p
  show ∃ e c, EStateM.bind foundAhead (fun found => fail (.wrongType found expected)) ⟨xs, p⟩ = .error e c
  rw [EStateM.bind]
  cases foundAhead ⟨xs, p⟩ with
  | ok found c => exact ⟨_, c, rfl⟩
  | error e c => exact ⟨e, c, rfl⟩

/-- Behind blanks there is nothing. -/
theorem fails_peekOr (h : fault.isShape = false) (hb : Blank bs) : Fails Broken (peekOr fault) bs := by
  have hword : Reads peekWord bs none [] := by
    have hread := @reads_peekWord bs [] hb (by simp)
    rwa [List.append_nil] at hread
  exact hword.fails (fails_failPeek h)

/-- What is left of blanks is blank. -/
theorem Blank.of_cut (hb : Blank bs) (h : Cut ys (bs ++ [c])) : Blank ys := by
  rcases cut_concat.mp h with hcut | rfl
  · exact fun d hd => hb d (hcut.mem d hd)
  · exact hb

theorem fails_peekString : Fails Broken peekString [] :=
  (Reader.reads_peek []).fails (fails_fail rfl)

/-- Before fewer characters than a code has there is no code. -/
theorem fails_hexEscape (h : xs.length < 4) : Fails Broken hexEscape xs := by
  intro p
  have hfew : hexEscape ⟨xs, p⟩ =
      if byteCount (xs.take 4) < 4 then fail .endOfString ((⟨xs, p⟩ : Cursor).nudge 4)
      else fail .invalidEscape ((⟨xs, p⟩ : Cursor).nudge 4) := by
    unfold hexEscape
    match xs, h with
    | [], _ => rfl
    | [_], _ => rfl
    | [_, _], _ => rfl
    | [_, _, _], _ => rfl
  rw [hfew]
  split
  · exact ⟨_, _, rfl, rfl⟩
  · exact ⟨_, _, rfl, rfl⟩

/-- A character has a letter behind a backslash, or a code of four digits, or it stands for itself. -/
theorem escapeChar_form (c : Char) :
    (∃ letter, escapeChar c = ['\\', letter]) ∨
      (∃ code, escapeChar c = '\\' :: 'u' :: code ∧ code.length = 4) ∨ escapeChar c = [c] := by
  generalize htext : escapeChar c = text
  unfold escapeChar at htext
  repeat' split at htext
  all_goals subst htext
  all_goals first
    | exact .inl ⟨_, rfl⟩
    | exact .inr (.inl ⟨_, rfl, rfl⟩)
    | exact .inr (.inr rfl)

/-- What is left of an escaped character: nothing, the backslash, or a code that is not whole. None of these is an
escape, so a string is never taken for a shorter one. -/
theorem cut_escapeChar (h : Cut ys (escapeChar c)) :
    ys = [] ∨ ys = ['\\'] ∨ ∃ code, ys = '\\' :: 'u' :: code ∧ code.length < 4 := by
  rcases escapeChar_form c with ⟨letter, hform⟩ | ⟨code, hform, hlength⟩ | hform
  · rw [hform] at h
    rcases cut_cons.mp h with hnil | ⟨ws, rfl, hws⟩
    · exact .inl hnil
    · rw [cut_singleton.mp hws]
      exact .inr (.inl rfl)
  · rw [hform] at h
    rcases cut_cons.mp h with hnil | ⟨ws, rfl, hws⟩
    · exact .inl hnil
    rcases cut_cons.mp hws with rfl | ⟨vs, rfl, hvs⟩
    · exact .inr (.inl rfl)
    · have hfewer : vs.length < code.length := hvs.length_lt
      exact .inr (.inr ⟨vs, rfl, by omega⟩)
  · rw [hform] at h
    exact .inl (cut_singleton.mp h)

/-- A character of a string that is cut is not read: there is nothing, or a backslash alone, or a code without all
of its digits. -/
theorem fails_stringStep (h : Cut ys (escapeChar c)) (read : List Char) :
    Fails Broken (stringStep read) ys := by
  rcases cut_escapeChar h with rfl | rfl | ⟨code, rfl, hcode⟩
  · exact fails_peekString.bind
  · -- The backslash is there, and what it stands before is not.
    refine (reads_peekString '\\' []).fails ?_
    rw [if_neg (by decide), if_pos rfl]
    exact (reads_advance 1 _).fails fails_peekString.bind.bind
  · -- The letter of a code is there, but not all of its digits.
    refine (reads_peekString '\\' _).fails ?_
    rw [if_neg (by decide), if_pos rfl]
    refine (reads_advance 1 _).fails (Fails.bind ?_)
    refine (reads_peekString 'u' code).fails ?_
    rw [show simpleEscape? 'u' = none from rfl]
    exact (reads_advance 1 _).fails (fails_hexEscape hcode).bind

/-- A string without its closing quote is not read. By induction on its characters: those before the cut take a round
each, and the round at the cut fails. -/
theorem fails_stringBody (cs : List Char) : ∀ ys read, Cut ys (cs.flatMap escapeChar ++ ['"']) →
    ∃ read' zs, Reaches stringStep read ys read' zs ∧ Fails Broken (stringStep read') zs := by
  induction cs with
  | nil =>
    intro ys read hcut
    obtain rfl : ys = [] := cut_singleton.mp hcut
    exact ⟨read, [], .here, fails_peekString.bind⟩
  | cons c cs ih =>
    intro ys read hcut
    rw [List.flatMap_cons, List.append_assoc] at hcut
    rcases cut_append.mp hcut with hhere | ⟨ws, rfl, hws⟩
    · exact ⟨read, ys, .here, fails_stringStep hhere read⟩
    · obtain ⟨read', zs, hreaches, hfails⟩ := ih ws (c :: read) hws
      refine ⟨read', zs, .next (reads_stringStep_escapeChar c read ws) ?_ hreaches, hfails⟩
      have hpos : 0 < (escapeChar c).length := by
        rcases escapeChar_cases c with ⟨_, hform, -⟩ | ⟨hform, -⟩ <;> simp [hform]
      rw [List.length_append]
      omega

theorem fails_stringLiteral {s : String} (h : Cut ys (writeString s)) :
    Fails Broken stringLiteral ys := by
  rcases cut_cons.mp h with rfl | ⟨ws, rfl, hws⟩
  · have hbody : Fails Broken stringBody [] := Reaches.here.fails fails_peekString.bind
    exact (reads_advance 1 _).fails hbody.bind
  · obtain ⟨read', zs, hreaches, hfails⟩ := fails_stringBody s.toList ws [] hws
    have hbody : Fails Broken stringBody ws := hreaches.fails hfails
    exact (reads_advance 1 _).fails hbody.bind

/-! ## Scalars

A number is the one word that may be cut and read. What is read then is a smaller number, and still one of 32 bits. -/

theorem fails_readString {s : String} (hb : Blank bs) (h : Cut ys (writeString s)) :
    Fails Broken readString (bs ++ ys) := by
  rcases cut_cons.mp h with rfl | ⟨ws, rfl, -⟩
  · rw [List.append_nil]
    exact (fails_peekOr rfl hb).bind
  · refine (reads_peekOr .endOfValue hb (by decide) ws).fails ?_
    rw [if_pos rfl]
    exact fails_stringLiteral h

/-- A number that is cut is read as a smaller number. -/
theorem short_readNumber {n : UInt32} (hb : Blank bs) (h : Cut ys (Nat.toDigits 10 n.toNat)) :
    Short Broken readNumber (bs ++ ys) := by
  rcases h.toDigits with rfl | ⟨m, hm, rfl⟩
  · rw [List.append_nil]
    exact .inl (fails_peekOr rfl hb).bind
  · have hsmall : (UInt32.ofNat m).toNat = m := by
      have hlt : n.toNat < UInt32.size := n.toNat_lt
      exact UInt32.toNat_ofNat_of_lt' (by omega)
    have hread := reads_readNumber hb (UInt32.ofNat m) ended_nil
    rw [hsmall, List.append_nil] at hread
    exact .inr ⟨_, hread⟩

/-! ## Where a layout is cut

The four cases are those of the readers of punctuation. In the first two nothing of the next part is left, in the
third its beginning is, and in the last all of it. -/

/-- What is left of a layout: blanks before the end, or before the next part, or a piece of the next part, or
all of it and what is left of the layout behind it. -/
inductive LayoutCut (close : Char) (first : Bool) : List (List Char) → List Char → Prop
  | ending {ys : List Char} : Blank ys → LayoutCut close first [] ys
  | before {bs cs ys : List Char} {c : Char} {parts : List (List Char)} :
      Before first bs → Cut ys (bs ++ [c]) → LayoutCut close first ((c :: cs) :: parts) ys
  | within {bs cs cs' : List Char} {c : Char} {parts : List (List Char)} :
      Before first bs → Cut (c :: cs') (c :: cs) →
      LayoutCut close first ((c :: cs) :: parts) (bs ++ c :: cs')
  | behind {bs part xs ys : List Char} {parts : List (List Char)} :
      Before first bs → Layout close false parts xs → Cut ys xs →
      LayoutCut close first (part :: parts) (bs ++ (part ++ ys))

/-- **What is left of a layout**, by where the cut is: before the next part, within it, or behind it. -/
theorem Layout.cut {close : Char} {first : Bool} {parts : List (List Char)}
    (hparts : ∀ part ∈ parts.head?, part ≠ []) (h : Layout close first parts xs) (hcut : Cut ys xs) :
    LayoutCut close first parts ys := by
  cases h with
  | done hb => exact .ending (hb.of_cut hcut)
  | @part _ bs part _ zs hbefore hrest =>
    obtain ⟨c, cs, rfl⟩ := List.exists_cons_of_ne_nil (hparts part rfl)
    rcases cut_append.mp hcut with hblank | ⟨ws, rfl, hws⟩
    · exact .before hbefore (cut_append.mpr (.inl hblank))
    · rcases cut_append.mp hws with hpart | ⟨vs, rfl, hvs⟩
      · rcases cut_cons.mp hpart with rfl | ⟨cs', rfl, -⟩
        · exact .before (c := c) hbefore (cut_concat.mpr (.inr (List.append_nil bs)))
        · exact .within hbefore hpart
      · exact .behind hbefore hrest hvs

/-- Behind a part no number goes on, if the rest is cut either. -/
theorem Layout.ended_cut {close : Char} {parts : List (List Char)} (h : Layout close false parts xs)
    (hclose : goesOn close = false) (hcut : Cut ys xs) : Ended ys := by
  intro c hc
  have hended := h.ended hclose []
  rw [List.append_nil] at hended
  exact hended c (hcut.head?_subset c hc)

/-- What is left of what stands before a part: blanks, or a comma among blanks if the part is not the first. -/
theorem Before.cut_cases {first : Bool} (h : Before first bs) (hcut : Cut ys (bs ++ [c])) :
    Blank ys ∨ first = false ∧ ∃ lead vs, ys = lead ++ ',' :: vs ∧ Blank lead ∧ Blank vs := by
  cases h with
  | first hb => exact .inl (hb.of_cut hcut)
  | @next bs bs' hb hb' =>
    rw [List.append_assoc, List.cons_append] at hcut
    rcases cut_append.mp hcut with hcut | ⟨ws, rfl, hws⟩
    · exact .inl fun d hd => hb d (hcut.mem d hd)
    rcases cut_cons.mp hws with rfl | ⟨vs, rfl, hvs⟩
    · rw [List.append_nil]
      exact .inl hb
    · exact .inr ⟨rfl, bs, vs, rfl, hb, hb'.of_cut hvs⟩

/-- What stands before a part does not tell that there is one. Of blanks the reader cannot tell whether the list
ends, and behind a comma it needs the element. -/
theorem Before.fails_hasElement {first : Bool} (h : Before first bs) (hcut : Cut ys (bs ++ [c])) :
    Fails Broken (hasElement first) ys := by
  rcases h.cut_cases hcut with hblank | ⟨rfl, lead, vs, rfl, hlead, hvs⟩
  · exact (fails_peekOr rfl hblank).bind
  · refine (reads_peekOr .endOfList hlead (by decide) vs).fails ?_
    rw [if_neg (by decide), if_neg (by decide), if_pos rfl]
    exact (reads_advance 1 _).fails (fails_peekOr rfl hvs).bind

theorem Before.fails_hasEntry {first : Bool} (h : Before first bs) (hcut : Cut ys (bs ++ [c])) :
    Fails Broken (hasEntry first) ys := by
  rcases h.cut_cases hcut with hblank | ⟨rfl, lead, vs, rfl, hlead, hvs⟩
  · exact (fails_peekOr rfl hblank).bind
  · refine (reads_peekOr .endOfObject hlead (by decide) vs).fails ?_
    rw [if_neg (by decide), if_neg (by decide), if_pos rfl]
    exact (reads_advance 1 _).fails (fails_peekOr rfl hvs).bind

/-- What is inside a list or object fails, and so the list or object. -/
theorem fails_closedBy {close : Reader Unit} {inside : Reader α} (h : Fails Broken inside xs) :
    Fails Broken (closedBy close inside) xs := by
  intro p
  obtain ⟨failure, cursor, hinside, hbroken⟩ := h p
  unfold closedBy place
  simp only [hinside]
  cases close cursor with
  | ok _ cursor' => exact ⟨_, _, rfl, hbroken⟩
  | error _ cursor' => exact ⟨_, _, rfl, hbroken⟩

/-! ## Lists

The lemmas are about any reader of items, and take three things of it: how items begin, that it reads what is spelled,
and that it is short before what is left of that. -/

section Lists

variable {item : Reader α} {treeOf : α → Tree}

/-- The items of a list that is cut are read up to the cut, and there the next step fails. By induction on the items: a
cut behind the first is one of the layout of the others, and a cut before or within it is where the loop fails. -/
theorem reaches_itemStep
    (hopens : ∀ v text, Spells (treeOf v) text → Opens text)
    (hread : ∀ v text tail, Spells (treeOf v) text → Ended tail → Reads item (text ++ tail) v tail)
    (hshort : ∀ v text ys, Spells (treeOf v) text → Cut ys text → Short Broken item ys)
    (values : List α) : ∀ parts xs ys acc, SpellItems (values.map treeOf) parts →
      Layout ']' acc.isEmpty parts xs → Cut ys xs →
      ∃ acc' zs, Reaches (itemStep item) acc ys acc' zs ∧ Fails Broken (itemStep item acc') zs := by
  -- Before nothing every round fails, so an item that comes to the end of the text is no way out.
  have hend : ∀ acc : List α, Fails Broken (itemStep item acc) [] :=
    fun _ => (fails_peekOr rfl blank_nil).bind.bind
  induction values with
  | nil =>
    intro parts xs ys acc hspells hlayout hcut
    cases hspells
    cases hlayout.cut (by simp) hcut with
    | ending hb => exact ⟨acc, ys, .here, (fails_peekOr rfl hb).bind.bind⟩
  | cons v vs ih =>
    intro parts xs ys acc hspells hlayout hcut
    rw [List.map_cons] at hspells
    cases hspells with
    | @cons _ _ part parts hpart hparts =>
      obtain ⟨d, ds, hd, hdopens⟩ := hopens v part hpart
      obtain ⟨hspace, hclose⟩ := opensValue_not_blank hdopens
      -- The cut goes through what stands before the item, through the item, or behind it.
      cases hlayout.cut (by simp [hd]) hcut with
      | before hbefore hcut => exact ⟨acc, ys, .here, (hbefore.fails_hasElement hcut).bind⟩
      | @within bs cs cs' c _ hbefore hpiece =>
        obtain ⟨rfl, rfl⟩ := List.cons.inj hd
        have hhas : Reads (hasElement acc.isEmpty) (bs ++ c :: cs') true (c :: cs') :=
          hbefore.reads_hasElement hspace hclose
        -- An item that is read all the same ends with the text, and then the bracket is missing.
        refine Reader.exists_reaches_of_short ?_ (by simp) hend
        rcases hshort v _ _ hpart hpiece with hfails | ⟨w, hreads⟩
        · exact .inl (hhas.fails hfails.bind)
        · exact .inr ⟨w :: acc, hhas.bind (hreads.bind (reads_pure _ _))⟩
      | @behind bs _ xs ys _ hbefore hrest hlater =>
        obtain ⟨acc', zs, hreaches, hfails⟩ := ih parts xs ys (v :: acc) hparts hrest hlater
        have hhas : Reads (hasElement acc.isEmpty) (bs ++ (part ++ ys)) true (part ++ ys) := by
          rw [hd]
          exact hbefore.reads_hasElement hspace hclose
        refine ⟨acc', zs, .next (hhas.bind ?_) ?_ hreaches, hfails⟩
        · rw [if_pos rfl]
          exact (hread v part ys hpart (hrest.ended_cut (by decide) hlater)).bind (reads_pure _ _)
        · rw [hd, List.length_append, List.length_append, List.length_cons]
          omega

/-- A list that is cut is not read. -/
theorem fails_listOf
    (hopens : ∀ v text, Spells (treeOf v) text → Opens text)
    (hread : ∀ v text tail, Spells (treeOf v) text → Ended tail → Reads item (text ++ tail) v tail)
    (hshort : ∀ v text ys, Spells (treeOf v) text → Cut ys text → Short Broken item ys)
    {values : List α} (hspells : Spells (.list (values.map treeOf)) text) (hb : Blank bs)
    (hcut : Cut ys text) : Fails Broken (listOf item) (bs ++ ys) := by
  cases hspells with
  | @list _ parts xs hparts hlayout =>
    rcases cut_cons.mp hcut with rfl | ⟨ws, rfl, hws⟩
    · rw [List.append_nil]
      exact (fails_peekOr rfl hb).bind
    · obtain ⟨acc, zs, hreaches, hfails⟩ :=
        reaches_itemStep hopens hread hshort values parts xs ws [] hparts hlayout hws
      refine (reads_peekOr .endOfValue hb (by decide) ws).fails ?_
      rw [if_pos rfl]
      exact (reads_advance 1 _).fails (fails_closedBy (hreaches.fails hfails))

end Lists

/-! ## Fields

The content of a field, its key and its colon, an entry, and the round of the loop that reads it. What is left of an
entry may come to the end of the text, if its value is a number; then the next round fails. -/

theorem Spells.ne_nil {t : Tree} (h : Spells t text) : text ≠ [] := by
  cases h with
  | null => simp
  | true => simp
  | false => simp
  | number => exact Nat.toDigits_ne_nil
  | text => simp [writeString]
  | list => simp
  | object => simp

section Fields

variable {content : Reader α} {treeOf : α → Tree}

/-- What is left of a field fails to be read, or is read to the end. -/
theorem short_readAs
    (hopens : ∀ v text, Spells (treeOf v) text → Opens text)
    (hread : ∀ v bs text tail, Blank bs → Spells (treeOf v) text → Ended tail →
      Reads content (bs ++ (text ++ tail)) v tail)
    (hshort : ∀ v bs text ys, Blank bs → Spells (treeOf v) text → Cut ys text →
      Short Broken content (bs ++ ys))
    (presence : Presence) (value : presence.Wrap α) {t : Tree} (ht : treeAs treeOf presence value = some t)
    (hspells : Spells t text) (hb : Blank bs) (hcut : Cut ys text) :
    Short Broken (readAs content presence) (bs ++ ys) := by
  cases presence with
  | required =>
    obtain rfl : treeOf value = t := by simpa [treeAs] using ht
    exact hshort value bs text ys hb hspells hcut
  | repeated =>
    obtain rfl : Tree.list (List.map treeOf value) = t := by simpa [treeAs] using ht
    exact .inl (fails_listOf hopens (fun v text tail => hread v [] text tail blank_nil)
      (fun v text ys => hshort v [] text ys blank_nil) hspells hb hcut)
  | optional =>
    cases value with
    | none => simp [treeAs] at ht
    | some v =>
      obtain rfl : treeOf v = t := by simpa [treeAs] using ht
      obtain ⟨c, cs, rfl, hc⟩ := hopens v text hspells
      have hcontent : Short Broken content ys := hshort v [] _ ys blank_nil hspells hcut
      have hrest : Short Broken (some <$> content) ys := hcontent.map some
      -- The null that stands for an option that holds nothing begins with another letter.
      have hword : Reads peekWord (bs ++ ys) ys.head? ys ∧ ys.head? ≠ some 'n' := by
        have hstops : ∀ d ∈ ys.head?, d = c := fun d hd => Option.some.inj (hcut.head?_subset d hd).symm
        refine ⟨reads_peekWord hb fun d hd => ?_, fun hn => ?_⟩
        · rw [hstops d hd]
          exact (opensValue_not_blank hc).1
        · rw [← hstops 'n' hn] at hc
          exact absurd hc (by decide)
      refine hword.1.short ?_
      split
      · rename_i heq
        exact absurd heq hword.2
      · exact hrest

end Fields

section Record

variable {passUnknown : Bool} {name key : String} {known : List String} {presence : Presence}
  {content : Shape} {rest : Fields}

/-- The first field is cut behind its key: before the colon, in the blanks behind it, or in the value. In the blanks
it is the value that fails, since nothing is left of it. -/
theorem short_readField_first
    (hread : ∀ v bs text tail, Blank bs → Spells (tree content v) text → Ended tail →
      Reads (read passUnknown content) (bs ++ (text ++ tail)) v tail)
    (hshort : ∀ v bs text ys, Blank bs → Spells (tree content v) text → Cut ys text →
      Short Broken (read passUnknown content) (bs ++ ys))
    {value : presence.Wrap content.Value} {t : Tree} (ht : treeAs (tree content) presence value = some t)
    (hspells : Spells t text) (hb : Blank bs) (hb' : Blank bs')
    (hcut : Cut ys (bs ++ ':' :: (bs' ++ text))) (slots : rest.Slots) :
    Short Broken (readField passUnknown known (.field name presence content rest) name (none, slots))
      ys := by
  have hvalue : ∀ bs ys, Blank bs → Cut ys text →
      Short Broken (readAs (read passUnknown content) presence) (bs ++ ys) := fun bs ys hb hcut =>
    short_readAs (opens_of_spells content) hread hshort presence value ht hspells hb hcut
  rw [readField, if_pos rfl]
  rcases cut_append.mp hcut with hcut | ⟨ws, rfl, hws⟩
  · exact .inl (fails_peekOr rfl fun d hd => hb d (hcut.mem d hd)).bind.bind
  · rcases cut_cons.mp hws with rfl | ⟨vs, rfl, hvs⟩
    · rw [List.append_nil]
      exact .inl (fails_peekOr rfl hb).bind.bind
    · refine (reads_colon hb vs).short ?_
      -- Where the cut lies in the blanks behind the colon, nothing is left of the value.
      have hrest : Short Broken (readAs (read passUnknown content) presence) vs := by
        rcases cut_append.mp hvs with hblank | ⟨us, rfl, hus⟩
        · have hpart := hvalue vs [] (fun d hd => hb' d (hblank.mem d hd)) (cut_nil ?_)
          · rwa [List.append_nil] at hpart
          · exact hspells.ne_nil
        · exact hvalue bs' us hb' hus
      exact hrest.bind fun value => short_pure _

/-- What is left of an entry breaks in its key, or behind the key its field fails or ends with the text. -/
theorem short_entry
    (hread : ∀ v bs text tail, Blank bs → Spells (tree content v) text → Ended tail →
      Reads (read passUnknown content) (bs ++ (text ++ tail)) v tail)
    (hshort : ∀ v bs text ys, Blank bs → Spells (tree content v) text → Cut ys text →
      Short Broken (read passUnknown content) (bs ++ ys))
    {value : presence.Wrap content.Value} {t : Tree} (ht : treeAs (tree content) presence value = some t)
    (hspells : Spells t text) (hb : Blank bs) (hb' : Blank bs')
    (hcut : Cut ys (writeString name ++ (bs ++ ':' :: (bs' ++ text)))) (slots : rest.Slots) :
    Fails Broken stringLiteral ys ∨ ∃ zs, Reads stringLiteral ys name zs ∧
      Short Broken (readField passUnknown known (.field name presence content rest) name (none, slots)) zs := by
  rcases cut_append.mp hcut with hname | ⟨zs, rfl, hzs⟩
  · exact .inl (fails_stringLiteral hname)
  · exact .inr ⟨zs, reads_stringLiteral name zs,
      short_readField_first hread hshort ht hspells hb hb' hzs slots⟩

/-- A round before such an entry fails, or ends with the text. -/
theorem short_fieldStep {σ : Type} {readField' : String → σ → Reader σ} {first : Bool} {slots : σ}
    (hhas : Reads (hasEntry first) xs true ys)
    (hentry : Fails Broken stringLiteral ys ∨ ∃ zs, Reads stringLiteral ys name zs ∧
      Short Broken (readField' name slots) zs) :
    Fails Broken (fieldStep readField' (first, slots)) xs ∨
      ∃ state, Reads (fieldStep readField' (first, slots)) xs (.inl state) [] := by
  rcases hentry with hname | ⟨zs, hname, hfails | ⟨met, hreads⟩⟩
  · exact .inl (hhas.fails hname.bind)
  · exact .inl (hhas.fails (hname.fails hfails.bind))
  · exact .inr ⟨(false, met), hhas.bind (hname.bind (hreads.bind (reads_pure _ _)))⟩

/-- The other fields are read beside whatever was met of the first. -/
theorem readField_rest (hfresh : name ∉ rest.names) (hkey : key ∈ rest.names)
    (slot : Option (presence.Wrap content.Value)) (slots : rest.Slots) :
    readField passUnknown known (.field name presence content rest) key (slot, slots) =
      (fun slots => (slot, slots)) <$> readField passUnknown known rest key slots := by
  have hne : key ≠ name := by
    rintro rfl
    exact hfresh hkey
  rw [readField, if_neg hne]
  rfl

/-- What is left of a record is not read, if in what is left of its entries a step fails. -/
theorem fails_recordOf {σ : Type} {expected : String} {field : String → σ → Reader σ}
    {complete : σ → Except String α} {noSlots : σ} {inOrder : Reader α} {written : List (String × Tree)}
    (hreaches : ∀ parts xs ys, SpellEntries written parts → Layout '}' true parts xs → Cut ys xs →
      ∃ first slots zs, Reaches (fieldStep field) (true, noSlots) ys (first, slots) zs ∧
        Fails Broken (fieldStep field (first, slots)) zs)
    (hb : Blank bs) (hspells : Spells (.object written) text) (hcut : Cut ys text) :
    Fails Broken (recordOf expected field complete noSlots inOrder) (bs ++ ys) := by
  cases hspells with
  | @object _ parts xs hparts hlayout =>
    rcases cut_cons.mp hcut with rfl | ⟨ws, rfl, hws⟩
    · rw [List.append_nil]
      exact (fails_peekOr rfl hb).bind
    · obtain ⟨first, slots, zs, hsteps, hfails⟩ := hreaches parts xs ws hparts hlayout hws
      refine (reads_peekOr .endOfValue hb (by decide) ws).fails ?_
      rw [if_pos rfl]
      exact (reads_advance 1 _).fails (fails_closedBy (hsteps.fails hfails).bind)

end Record

/-! ## Documents

The recursion on the shape, with the fields of a record, as for whole texts. It differs in one thing: where fields are
read one by one in the round trip, here they are read up to one of them. -/

mutual

/-- **What is left of a spelled document is broken, or a number with fewer digits.** By recursion on the shape, together
with the law for the fields of a record. -/
theorem short_spelled {fit : String → Bool} (passUnknown : Bool) : (shape : Shape) →
    shape.WellNamed fit → ∀ (value : shape.Value) bs text ys, Blank bs →
      Spells (tree shape value) text → Cut ys text → Short Broken (read passUnknown shape) (bs ++ ys)
  | .text, _, value, bs, text, ys, hb, hspells, hcut => by
    rw [tree] at hspells
    rw [read]
    cases hspells with
    | text => exact .inl (fails_readString hb hcut)
  | .number, _, value, bs, text, ys, hb, hspells, hcut => by
    rw [tree] at hspells
    rw [read]
    cases hspells with
    | number => exact short_readNumber hb hcut
  | .list item, hnamed, values, bs, text, ys, hb, hspells, hcut => by
    rw [tree] at hspells
    rw [read]
    exact .inl (fails_listOf (opens_of_spells item)
      (fun v text tail => reads_spelled passUnknown item hnamed v [] text tail blank_nil)
      (fun v text ys => short_spelled passUnknown item hnamed v [] text ys blank_nil) hspells hb hcut)
  | .record name fields, hnamed, value, bs, text, ys, hb, hspells, hcut => by
    rw [tree] at hspells
    rw [read]
    exact .inl (fails_recordOf (reaches_fieldStep passUnknown fields.names fields hnamed
      (readField passUnknown fields.names fields) id (fun _ _ _ => (id_map _).symm) value true)
      hb hspells hcut)

/-- The fields of a record that is cut are met up to the cut, and there the next step fails. As in
`rounds_fieldStep` they are the last fields of a record, of which `readField'` reads a field. -/
theorem reaches_fieldStep {fit : String → Bool} (passUnknown : Bool) (known : List String) :
    (fields : Fields) → fields.WellNamed fit → ∀ {σ : Type} (readField' : String → σ → Reader σ)
      (embed : fields.Slots → σ),
      (∀ key ∈ fields.names, ∀ slots, readField' key (embed slots) =
        embed <$> readField passUnknown known fields key slots) →
      ∀ (value : fields.Value) first parts xs ys, SpellEntries (entries fields value) parts →
        Layout '}' first parts xs → Cut ys xs →
        ∃ first' slots zs, Reaches (fieldStep readField') (first, embed fields.noSlots) ys (first', slots) zs ∧
          Fails Broken (fieldStep readField' (first', slots)) zs
  | .nil, _, _, readField', embed, _, value, first, parts, xs, ys, hspells, hlayout, hcut => by
    rw [entries] at hspells
    cases hspells
    cases hlayout.cut (by simp) hcut with
    | ending hb => exact ⟨first, _, ys, .here, (fails_peekOr rfl hb).bind.bind⟩
  | .field name presence content rest, hnamed, σ, readField', embed, hembed, (value, values), first, parts,
      xs, ys, hspells, hlayout, hcut => by
    obtain ⟨-, hfresh, hcontent, hrest⟩ := hnamed
    -- The other fields are read as the fields of a record of their own, whatever the first slot holds.
    have hothers : ∀ slot, ∀ key ∈ rest.names, ∀ slots, readField' key (embed (slot, slots)) =
        (fun slots => embed (slot, slots)) <$> readField passUnknown known rest key slots := by
      intro slot key hkey slots
      rw [hembed key (List.mem_cons_of_mem _ hkey), readField_rest hfresh hkey, Functor.map_map]
    have hreaches : ∀ slot first parts xs ys, SpellEntries (entries rest values) parts →
        Layout '}' first parts xs → Cut ys xs →
        ∃ first' slots zs,
          Reaches (fieldStep readField') (first, embed (slot, rest.noSlots)) ys (first', slots) zs ∧
            Fails Broken (fieldStep readField' (first', slots)) zs := fun slot =>
      reaches_fieldStep passUnknown known rest hrest readField' (fun slots => embed (slot, slots))
        (hothers slot) values
    cases hfield : treeAs (tree content) presence value with
    | none =>
      -- The field is left out, so its slot stays empty.
      rw [entries, hfield] at hspells
      exact hreaches none first parts xs ys hspells hlayout hcut
    | some t =>
      rw [entries, hfield] at hspells
      cases hspells with
      | @cons _ _ _ bs bs' part parts hb hb' hpart hparts =>
        have hkey : readField' name (embed (none, rest.noSlots)) = embed <$> readField passUnknown known
            (.field name presence content rest) name (none, rest.noSlots) :=
          hembed name List.mem_cons_self (none, rest.noSlots)
        have hend : ∀ state : Bool × σ, Fails Broken (fieldStep readField' state) [] :=
          fun _ => (fails_peekOr rfl blank_nil).bind.bind
        cases hlayout.cut (by simp [writeString]) hcut with
        | before hbefore hcut => exact ⟨first, _, ys, .here, (hbefore.fails_hasEntry hcut).bind⟩
        | @within lead _ cs' _ _ hbefore hpiece =>
          -- The entry is cut: this round fails, or the next one does, before nothing.
          have hhas : Reads (hasEntry first) (lead ++ '"' :: cs') true ('"' :: cs') := hbefore.reads_hasEntry
          have hentry : Fails Broken stringLiteral ('"' :: cs') ∨ ∃ ws,
              Reads stringLiteral ('"' :: cs') name ws ∧
                Short Broken (readField' name (embed (none, rest.noSlots))) ws := by
            rw [hkey]
            rcases short_entry (reads_spelled passUnknown content hcontent)
              (short_spelled passUnknown content hcontent) hfield hpart hb hb' hpiece rest.noSlots with
              hname | ⟨ws, hname, hvalue⟩
            · exact .inl hname
            · exact .inr ⟨ws, hname, hvalue.map embed⟩
          obtain ⟨⟨first', slots⟩, zs, hsteps, hfails⟩ :=
            Reader.exists_reaches_of_short (short_fieldStep hhas hentry) (by simp) hend
          exact ⟨first', slots, zs, hsteps, hfails⟩
        | @behind lead _ xs ys _ hbefore hlater hrestcut =>
          -- The entry is whole, and the cut lies among the entries of the other fields.
          have hended : Ended ys := hlater.ended_cut (by decide) hrestcut
          obtain ⟨first', slots, zs, hreaches, hfails⟩ :=
            hreaches (some value) false parts xs ys hparts hlater hrestcut
          have hhas : Reads (hasEntry first)
              (lead ++ (writeString name ++ (bs ++ ':' :: (bs' ++ (part ++ ys))))) true
              (writeString name ++ (bs ++ ':' :: (bs' ++ (part ++ ys)))) := hbefore.reads_hasEntry
          have hnext : Reads (readField' name (embed (none, rest.noSlots)))
              (bs ++ ':' :: (bs' ++ (part ++ ys))) (embed (some value, rest.noSlots)) ys := by
            rw [hkey]
            exact (reads_readField_first (reads_spelled passUnknown content hcontent) (.content hfield) hpart
              hb hb' hended _).map embed
          refine ⟨first', slots, zs, .next ?_ ?_ hreaches, hfails⟩
          · simp only [List.append_assoc, List.cons_append]
            refine hhas.bind ?_
            rw [if_pos rfl]
            refine (reads_stringLiteral name _).bind ?_
            exact hnext.bind (reads_pure _ _)
          · simp only [List.length_append, List.length_cons]
            omega

end

/-! ## Whole texts

A reader that fails before what is left of a text refuses it as a whole, with the same kind of fault; the place is
filled in. -/

theorem fails_place {kind : Fault → Prop} {r : Reader α}
    (h : Fails (fun failure => kind failure.fault) r xs) :
    Fails (fun failure => kind failure.fault) (place r) xs := by
  intro p
  obtain ⟨failure, cursor, hr, hkind⟩ := h p
  refine ⟨⟨failure.fault, some (failure.position.getD cursor.position)⟩, cursor, ?_, hkind⟩
  simp only [place, hr]

theorem runText_of_fails_whole (kind : Fault → Prop) {r : Reader α} {text : String}
    (h : Fails (fun failure => kind failure.fault) (whole r) text.toList) :
    ∃ refusal, runText r text = .error refusal ∧ kind refusal.fault := by
  obtain ⟨failure, cursor, heq, hkind⟩ := fails_place h .start
  refine ⟨⟨failure.fault, failure.position.getD cursor.position⟩, ?_, hkind⟩
  rw [runText, Reader.run, Cursor.ofText, heq]

/-- What fails before a text refuses it as a whole. -/
theorem runText_of_fails (kind : Fault → Prop) {r : Reader α} {text : String}
    (h : Fails (fun failure => kind failure.fault) r text.toList) :
    ∃ refusal, runText r text = .error refusal ∧ kind refusal.fault :=
  runText_of_fails_whole kind h.bind

/-- **A text of a record that is cut short is no JSON**, whether fields that are not known are passed over or
not. The text is any that spells the record, so the two printers need not be looked at. -/
theorem readText_cut {fit : String → Bool} {name : String} {fields : Fields} (h : fields.WellNamed fit)
    (passUnknown : Bool) (value : fields.Value) {text cut : String}
    (hspells : Spells (tree (.record name fields) value) text.toList) (hcut : Cut cut.toList text.toList) :
    ∃ refusal, readText passUnknown (.record name fields) cut = .error refusal ∧
      refusal.fault.isShape = false := by
  rw [tree] at hspells
  have hfails : Fails Broken (read passUnknown (.record name fields)) cut.toList := by
    rw [read]
    exact fails_recordOf (reaches_fieldStep passUnknown fields.names fields h
      (readField passUnknown fields.names fields) id (fun _ _ _ => (id_map _).symm) value true)
      blank_nil hspells hcut
  exact runText_of_fails (fun fault => fault.isShape = false) hfails

end Gamebook.Json
