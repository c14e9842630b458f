import Gamebook.Proofs.Json.Numbers
import Gamebook.Proofs.Json.Punctuation

/-!
# What becomes of any text before a reader of documents

`judged_read` is the law of `read` for texts of every kind: before any text at all, the reader of a shape passes
a value of JSON, fails on the notation, or has seen what begins a value of JSON and no document of the shape. It
goes by recursion on the shape, together with the laws for the fields of a record, by name (`judged_readField`)
and in order (`judged_readInOrder`), since a record may be an object or the list of its fields.

So a text that is read is well-formed, and where the fault is about the shape that is so far from being a matter
of what comes behind that nothing which might come behind would change it (`judged_runText`).

A loop over items or entries is turned into its first round and the rest (`items_eq`, `entries_eq`), and the rest is
met by induction on the length of what is left. To this end each round must leave less text, and that is a consequence
of the judgement itself: what is taken is a text of the language, and none is empty (`Judged.length_lt`). Behind the
loop comes the end of the frame, and in a record a check that no field is missing. A missing field is only noticed at
the closing brace, and then it is mismatched, with the whole object seen.

A field whose key has been met before is refused wherever it stands, and so is one that the record does not have,
whatever comes behind the key. That is the first case of `JudgedField`. It is not a judgement by itself, for what has
been seen has to be completed with a value that was never read.
-/

namespace Gamebook.Json

open Gamebook.Text
open Text.Reader (Reads Fails Refuses Stops Takes Shrinking reads_pure reads_peek reads_advance takes_of_reads
  takes_advance exists_run exists_of_bind_ok)

variable {α β : Type} {first : Bool} {frame : Frame} {bs s t xs ys : List Char} {c : Char}

/-! ## Lists

Items are judged behind what stands before them. `first` is whether any has been read, which the loop sees from the
list of those it has. -/

/-- What is passed is not longer than what there was. -/
theorem Judged.length_lt {L : List Char → Prop} {r : Reader α} {a : α} {c c' : Cursor} (h : Judged L r c.rest)
    (hL : ∀ s, L s → s ≠ []) (hok : r c = .ok a c') : c'.rest.length < c.rest.length := by
  cases h with
  | @taken s ys b heq hs htakes =>
    obtain ⟨-, hrest⟩ := (heq ▸ htakes.reads : Reads r c.rest b ys).answer hok
    have hpos : 0 < s.length := List.length_pos_iff.mpr (hL s hs)
    rw [heq, hrest, List.length_append]
    omega
  | broken hfails =>
    obtain ⟨e, c₁, he, -⟩ := hfails c.position
    cases he.symm.trans hok
  | @mismatched seen whole _ hxs _ _ hrefuses =>
    obtain ⟨more, hmore⟩ := hxs
    obtain ⟨e, c₁, he⟩ := (hmore ▸ hrefuses more : Refuses r c.rest) c.position
    cases he.symm.trans hok

theorem SpacedValue.ne_nil (h : SpacedValue s) : s ≠ [] := by
  obtain ⟨bs, v, rfl, -, hv⟩ := h
  obtain ⟨c, cs, rfl, -⟩ := hv.opens
  simp

theorem hasElement_length_le {more : Bool} {c c' : Cursor} (h : hasElement first c = .ok more c') :
    c'.rest.length ≤ c.rest.length := by
  obtain ⟨xs, p⟩ := c
  rcases hasElement_cases first xs with ⟨bs, cs, rfl, -, htakes⟩ | ⟨bs, d, cs, rfl, -, htakes⟩ | hfails
  · obtain ⟨-, hrest⟩ := htakes.reads.answer h
    simp [hrest]
  · obtain ⟨-, hrest⟩ := htakes.reads.answer h
    simp [hrest]
  · obtain ⟨e, c₁, he, -⟩ := hfails p
    cases he.symm.trans h

section List

variable {item : Reader α} (hitem : ∀ xs, Judged SpacedValue item xs)

include hitem

theorem shrinking_itemStep : Shrinking (itemStep item) := by
  intro items c items' c' hstep
  obtain ⟨more, c₁, hmore, hrest⟩ := exists_of_bind_ok hstep
  have hle : c₁.rest.length ≤ c.rest.length := hasElement_length_le hmore
  cases more with
  | false => cases hrest
  | true =>
    obtain ⟨a, c₂, ha, hpure⟩ := exists_of_bind_ok hrest
    have hless : c₂.rest.length < c₁.rest.length := (hitem c₁.rest).length_lt (fun _ h => h.ne_nil) ha
    obtain ⟨-, rfl⟩ := EStateM.Result.ok.inj hpure
    omega

/-- The items of a list are met one by one. -/
theorem items_eq (items : List α) (k : List α → Reader β) :
    Text.Reader.loop (itemStep item) items >>= k = hasElement items.isEmpty >>= fun more =>
      if more then item >>= fun a => Text.Reader.loop (itemStep item) (a :: items) >>= k else k items.reverse := by
  rw [Reader.loop_eq (shrinking_itemStep hitem), itemStep, bind_assoc, bind_assoc]
  congr 1
  funext more
  cases more <;> simp

/-- Items are read up to the closing bracket. By induction on what is left: no further item, a broken list, or an item
that is judged and leaves less. -/
theorem judged_items : ∀ items xs,
    Judged (Inside .list items.isEmpty) (enclosed endList (Text.Reader.loop (itemStep item) items)) xs := by
  intro items xs
  induction hn : xs.length using Nat.strongRecOn generalizing items xs with
  | ind n ih =>
    subst hn
    rw [enclosed, items_eq hitem]
    rcases hasElement_cases items.isEmpty xs with
      ⟨bs, cs, rfl, hb, htakes⟩ | ⟨bs, c, cs, rfl, hbefore, htakes⟩ | hfails
    · refine Judged.after htakes ?_
      exact (judged_endList items.reverse items.isEmpty (']' :: cs)).mono fun t ht _ => ht.blank_append hb
    · have hitems : Judged (fun t => Inside .list items.isEmpty (bs ++ t))
          (item >>= fun a => enclosed endList (Text.Reader.loop (itemStep item) (a :: items))) (c :: cs) := by
        refine (hitem (c :: cs)).bind (fun s hs => ?_) fun s a ys heq hs => ?_
        · exact ⟨[']'], (inside_done .list false blank_nil).item hbefore hs⟩
        · have hless : ys.length < (bs ++ c :: cs).length := by
            have hpos : 0 < s.length := List.length_pos_iff.mpr hs.ne_nil
            rw [heq, List.length_append, List.length_append]
            omega
          exact (ih _ hless (a :: items) ys rfl).mono fun t ht => ht.item hbefore hs
      exact Judged.after htakes (hitems.mono fun t ht _ => ht)
    · exact .broken hfails.bind

/-- A list is judged if its items are. -/
theorem judged_listOf (xs : List Char) : Judged SpacedValue (listOf item) xs := by
  refine judged_peekOr rfl (fun c cs _ => ?_) xs
  by_cases hc : c = '['
  · subst hc
    rw [if_pos rfl]
    exact judged_frame .list (judged_items hitem [] cs)
  · rw [if_neg hc]
    exact judged_refuse "a sequence" c cs

end List

/-! ## Strings and options

An option is null or its content, told by the first character behind blanks. -/

theorem judged_readString (xs : List Char) : Judged SpacedValue readString xs := by
  refine judged_peekOr rfl (fun c cs _ => ?_) xs
  by_cases hc : c = '"'
  · subst hc
    rw [if_pos rfl]
    refine (lexed_stringLiteral cs).judged ?_
    rintro _ _ ⟨q, rfl, hq⟩
    exact (Part.text hq).spacedValue
  · rw [if_neg hc]
    exact judged_refuse "a string" c cs

/-- An option is judged if its content is. -/
theorem judged_optionOf {content : Reader α} (hcontent : ∀ xs, Judged SpacedValue content xs) (xs : List Char) :
    Judged SpacedValue (optionOf content) xs := by
  obtain ⟨bs, rest, rfl, hb, hstops⟩ := exists_run isSpace xs
  refine Judged.after (takes_peekWord hb hstops) ?_
  split
  · have hnull : Judged SpacedValue (word "null".toList) rest :=
      (lexed_word "null".toList rest).judged fun _ s hs => by
        rw [hs]
        exact Part.null.spacedValue
    exact (hnull.map fun _ => none).mono fun t ht _ => ht.append hb
  · exact ((hcontent rest).map some).mono fun t ht _ => ht.append hb

theorem judged_readAs {content : Reader α} (hcontent : ∀ xs, Judged SpacedValue content xs) :
    ∀ (presence : Presence) xs, Judged SpacedValue (readAs content presence) xs
  | .required, xs => hcontent xs
  | .repeated, xs => judged_listOf hcontent xs
  | .optional, xs => judged_optionOf hcontent xs

/-! ## Fields by name

The loop over entries, for any reader of fields: it is given a key and the slots so far, and is judged with the colon
and the value. -/

/-- What comes behind the key of an entry. -/
def ColonValue (s : List Char) : Prop := ∃ bs t, s = bs ++ ':' :: t ∧ Blank bs ∧ SpacedValue t

theorem colonValue_zero : ColonValue [':', '0'] :=
  ⟨[], ['0'], rfl, blank_nil, (value_digit rfl).spacedValue⟩

theorem ColonValue.ne_nil (h : ColonValue s) : s ≠ [] := by
  obtain ⟨bs, t, rfl, -, -⟩ := h
  simp

/-- A key and what comes behind it are a part of an object. -/
theorem Inside.entry {key : List Char} (h : Inside .object false t) (hbefore : Before first bs) (hkey : Quoted key)
    (hs : ColonValue s) : Inside .object first (bs ++ ('"' :: key ++ (s ++ t))) := by
  obtain ⟨ws, _, rfl, hws, ws', v, rfl, hws', hv⟩ := hs
  have hpart := h.part hbefore (.entry hkey hws hws' hv)
  simpa using hpart

/-- A field is not known where its key is, and then no text is read, or it is judged. -/
def JudgedField (r : Reader α) : Prop := (∀ xs, Refuses r xs) ∨ ∀ xs, Judged ColonValue r xs

theorem JudgedField.map (f : α → β) {r : Reader α} (h : JudgedField r) :
    JudgedField (r >>= fun a => pure (f a)) := by
  rcases h with hrefuses | hjudged
  · exact .inl fun xs => (hrefuses xs).bind
  · exact .inr fun xs => (hjudged xs).map f

/-- The colon and the value behind a key. -/
theorem judged_colon {r : Reader α} (hr : ∀ xs, Judged SpacedValue r xs) (xs : List Char) :
    Judged ColonValue (do colon; r) xs := by
  have hcolon : Judged (fun s => ∃ bs, s = bs ++ [':'] ∧ Blank bs) colon xs :=
    (lexed_colon xs).judged fun _ _ hs => hs
  refine hcolon.bind ?_ ?_
  · rintro _ ⟨bs, rfl, hb⟩
    exact ⟨['0'], bs, ['0'], by simp, hb, (value_digit rfl).spacedValue⟩
  · rintro _ _ ys - ⟨bs, rfl, hb⟩
    exact (hr ys).mono fun t ht => ⟨bs, t, by simp, hb, ht⟩

section Fields

variable {σ : Type} {field : String → σ → Reader σ} (hfield : ∀ key slots, JudgedField (field key slots))

include hfield

/-- An entry is judged by its key and by the field that the key names, and then what comes behind it is. -/
theorem judged_entry {k : σ → Reader β} (hbefore : Before first bs) (slots : σ) (cs : List Char)
    (hk : ∀ slots ys, ys.length < cs.length → Judged (Inside .object false) (k slots) ys) :
    Judged (fun t => Inside .object first (bs ++ t)) (stringLiteral >>= fun key => field key slots >>= k)
      ('"' :: cs) := by
  cases lexed_stringLiteral cs with
  | broken hfails => exact .broken hfails.bind
  | @read s ys key heq hs hreads =>
    obtain ⟨name, rfl, hname⟩ := hs
    have hend : Inside .object false ['}'] := inside_done .object false blank_nil
    have hlength : ys.length ≤ cs.length := by
      have hcs : cs = name ++ ys := (List.cons.inj heq).2
      rw [hcs, List.length_append]
      omega
    rcases hfield key slots with hrefuses | hjudged
    · refine .mismatched (List.cons_ne_nil _ _) ⟨ys, heq.symm⟩
        (hend.entry hbefore hname colonValue_zero) (List.prefix_append _ _) fun more => ?_
      exact (hreads more).refuses (hrefuses more).bind
    · rw [heq]
      refine Judged.after (takes_of_reads hreads) (Judged.mono ?_ fun t ht _ => ht)
      refine (hjudged ys).bind (fun s hs => ⟨['}'], hend.entry hbefore hname hs⟩) fun s slots' zs heq' hs => ?_
      have hpos : 0 < s.length := List.length_pos_iff.mpr hs.ne_nil
      refine (hk slots' zs ?_).mono fun t ht => ht.entry hbefore hname hs
      rw [heq', List.length_append] at hlength
      omega

theorem shrinking_fieldStep : Shrinking (fieldStep field) := by
  rintro ⟨first, slots⟩ ⟨xs, p⟩ state' c' hstep
  obtain ⟨more, c₁, hmore, hrest⟩ := exists_of_bind_ok hstep
  rcases hasEntry_cases first xs with ⟨bs, cs, rfl, -, htakes⟩ | ⟨bs, cs, rfl, -, htakes⟩ | hfails
  · obtain ⟨rfl, -⟩ := htakes.reads.answer hmore
    cases hrest
  · obtain ⟨rfl, hc₁⟩ := htakes.reads.answer hmore
    obtain ⟨key, c₂, hkey, hrest⟩ := exists_of_bind_ok hrest
    obtain ⟨slots', c₃, hslots, hpure⟩ := exists_of_bind_ok hrest
    obtain ⟨-, rfl⟩ := EStateM.Result.ok.inj hpure
    have hless : c₂.rest.length < c₁.rest.length := by
      have hliteral : Judged (fun s => ∃ cs, s = '"' :: cs ∧ Quoted cs) stringLiteral c₁.rest :=
        hc₁ ▸ (lexed_stringLiteral cs).judged fun _ _ hs => hs
      exact hliteral.length_lt (by rintro _ ⟨_, rfl, -⟩; exact List.cons_ne_nil _ _) hkey
    have hless' : c₃.rest.length < c₂.rest.length := by
      rcases hfield key slots with hrefuses | hjudged
      · obtain ⟨e, c₄, he⟩ := hrefuses c₂.rest c₂.position
        cases he.symm.trans hslots
      · exact (hjudged c₂.rest).length_lt (fun _ h => h.ne_nil) hslots
    rw [List.length_append, ← hc₁]
    omega
  · obtain ⟨e, c₂, he, -⟩ := hfails p
    cases he.symm.trans hmore

/-- The entries of an object are met one by one. -/
theorem entries_eq (first : Bool) (slots : σ) (k : σ → Reader β) :
    Text.Reader.loop (fieldStep field) (first, slots) >>= k = hasEntry first >>= fun more =>
      if more then stringLiteral >>= fun key => field key slots >>= fun slots' =>
        Text.Reader.loop (fieldStep field) (false, slots') >>= k
      else k slots := by
  rw [Reader.loop_eq (shrinking_fieldStep hfield), fieldStep, bind_assoc, bind_assoc]
  congr 1
  funext more
  cases more <;> simp

/-- Entries are read up to the closing brace, and then it is the turn of the next reader. As with items, but behind each
key comes the field that it names, or a refusal. -/
theorem judged_entries {k : σ → Reader β}
    (hk : ∀ slots first cs, Judged (Inside .object first) (k slots) ('}' :: cs)) :
    ∀ first slots xs,
      Judged (Inside .object first) (Text.Reader.loop (fieldStep field) (first, slots) >>= k) xs := by
  intro first slots xs
  induction hn : xs.length using Nat.strongRecOn generalizing first slots xs with
  | ind n ih =>
    subst hn
    rw [entries_eq hfield]
    rcases hasEntry_cases first xs with ⟨bs, cs, rfl, hb, htakes⟩ | ⟨bs, cs, rfl, hbefore, htakes⟩ | hfails
    · exact Judged.after htakes ((hk slots first cs).mono fun t ht _ => ht.blank_append hb)
    · have hentry := judged_entry hfield hbefore slots cs fun slots' ys hless => by
        refine ih ys.length ?_ false slots' ys rfl
        rw [List.length_append, List.length_cons]
        omega
      exact Judged.after htakes (hentry.mono fun t ht _ => ht)
    · exact .broken hfails.bind

/-- A record is judged if its fields are, by name and in order. -/
theorem judged_recordOf {complete : σ → Except String α} {inOrder : Reader α} (expected : String) (noSlots : σ)
    (hinOrder : ∀ xs, Judged (Inside .list true) (enclosed endList inOrder) xs) (xs : List Char) :
    Judged SpacedValue (recordOf expected field complete noSlots inOrder) xs := by
  refine judged_peekOr rfl (fun c cs _ => ?_) xs
  by_cases hbrace : c = '{'
  · subst hbrace
    rw [if_pos rfl]
    refine judged_frame .object ?_
    rw [enclosed, bind_assoc]
    refine judged_entries hfield (fun slots first cs => ?_) true noSlots cs
    -- A field that is missing shows at the closing brace.
    cases hcomplete : complete slots with
    | ok value => simpa using judged_endObject value first ('}' :: cs)
    | error missing =>
      exact .mismatched (List.cons_ne_nil '}' []) ⟨cs, rfl⟩ (inside_done .object first blank_nil)
        (List.prefix_refl _) fun more p => ⟨_, _, rfl⟩
  rw [if_neg hbrace]
  by_cases hbracket : c = '['
  · subst hbracket
    rw [if_pos rfl]
    exact judged_frame .list (hinOrder cs)
  · rw [if_neg hbracket]
    exact judged_refuse expected c cs

end Fields

/-! ## Documents

The recursion on the shape. A record in order is read field by field without a loop, so it is judged by recursion on
its fields. -/

/-- In order a field is read if a further element comes, and else it may be left out. -/
theorem judged_inOrder {γ : Type} {content : Reader α} (hcontent : ∀ xs, Judged SpacedValue content xs)
    (absent : Option α) (fault : Fault) {k : α → Reader γ}
    (hk : ∀ a xs, Judged (Inside .list false) (k a) xs) (first : Bool) (xs : List Char) :
    Judged (Inside .list first) (hasElement first >>= fun more =>
      (if more then content else absent.elim (failUnplaced fault) pure) >>= k) xs := by
  rcases hasElement_cases first xs with ⟨bs, cs, rfl, hb, htakes⟩ | ⟨bs, c, cs, rfl, hbefore, htakes⟩ | hfails
  · refine Judged.after htakes ?_
    rw [if_neg (by decide)]
    cases absent with
    | none =>
      exact .mismatched (List.cons_ne_nil ']' []) ⟨cs, rfl⟩ (fun _ => inside_done .list first hb)
        (List.prefix_refl _) fun more p => ⟨_, _, rfl⟩
    | some a =>
      rw [Option.elim_some, pure_bind]
      refine (hk a (']' :: cs)).mono fun t ht hhead => ?_
      rw [ht.eq_of_close (hhead ht.ne_nil)]
      exact inside_done .list first hb
  · have hitem : Judged (fun t => Inside .list first (bs ++ t)) (content >>= k) (c :: cs) := by
      refine (hcontent (c :: cs)).bind (fun s hs => ?_) fun s a ys _ hs => ?_
      · exact ⟨[']'], (inside_done .list false blank_nil).item hbefore hs⟩
      · exact (hk a ys).mono fun t ht => ht.item hbefore hs
    exact Judged.after htakes (hitem.mono fun t ht _ => ht)
  · exact .broken hfails.bind

mutual

/-- **Any text is judged by the reader of a shape.** By recursion on the shape, together with its fields, by name and in
order. Unknown fields are not passed over: this is about documents of adventures. -/
theorem judged_read : ∀ (shape : Shape) xs, Judged SpacedValue (read false shape) xs
  | .text, xs => by
    rw [read]
    exact judged_readString xs
  | .number, xs => by
    rw [read]
    exact judged_readNumber xs
  | .list item, xs => by
    rw [read]
    exact judged_listOf (judged_read item) xs
  | .record name fields, xs => by
    rw [read]
    exact judged_recordOf (judged_readField fields.names fields) _ _
      (judged_readInOrder _ 0 fields fun value first xs => judged_endList value first xs) xs

theorem judged_readField (known : List String) : ∀ (fields : Fields) (key : String) (slots : fields.Slots),
    JudgedField (readField false known fields key slots)
  | .nil, key, slots => by
    rw [readField]
    exact .inl fun xs p => ⟨_, _, rfl⟩
  | .field name presence content rest, key, (slot, slots) => by
    rw [readField]
    by_cases hkey : key = name
    · rw [if_pos hkey]
      cases slot with
      | some _ => exact .inl fun xs p => ⟨_, _, rfl⟩
      | none =>
        have hvalue := fun xs => (judged_colon (judged_readAs (judged_read content) presence) xs).map
          fun value => (some value, slots)
        exact .inr fun xs => by simpa using hvalue xs
    · rw [if_neg hkey]
      exact (judged_readField known rest key slots).map fun slots => (slot, slots)

theorem judged_readInOrder (expected : String) : ∀ (index : Nat) (fields : Fields) {β : Type}
    {k : fields.Value → Reader β}, (∀ value first xs, Judged (Inside .list first) (k value) xs) →
      ∀ xs, Judged (Inside .list (index = 0)) (readInOrder false expected index fields >>= k) xs
  | index, .nil, _, k, hk, xs => by
    rw [readInOrder, pure_bind]
    exact hk () _ xs
  | index, .field name presence content rest, _, k, hk, xs => by
    have hrest : ∀ value xs, Judged (Inside .list false)
        (readInOrder false expected (index + 1) rest >>= fun values => k (value, values)) xs := fun value =>
      judged_readInOrder expected (index + 1) rest fun values => hk (value, values)
    have heq : readInOrder false expected index (.field name presence content rest) >>= k =
        hasElement (index = 0) >>= fun more =>
          (if more then readAs (read false content) presence
            else (presence.absent? content.Value).elim (failUnplaced (.wrongLength index expected)) pure) >>=
          fun value => readInOrder false expected (index + 1) rest >>= fun values => k (value, values) := by
      rw [readInOrder]
      simp only [bind_assoc]
      congr 1
      funext more
      cases more with
      | true => simp
      | false => cases presence.absent? content.Value <;> simp
    rw [heq]
    exact judged_inOrder (judged_readAs (judged_read content) presence) _ _ hrest _ xs

end

/-! ## Whole texts

Behind the value of a text there may be blanks only. A value that is well-formed with more behind it is not a
well-formed text. -/

/-- Blanks end a text, and nothing else does. -/
theorem blank_or_fails_ending (xs : List Char) : Blank xs ∨ Fails Broken ending xs := by
  obtain ⟨bs, rest, rfl, hb, hstops⟩ := exists_run isSpace xs
  cases rest with
  | nil =>
    rw [List.append_nil]
    exact .inl hb
  | cons c cs => exact .inr ((reads_peekWord hb hstops).fails (fails_failPeek rfl))

/-- **A whole text is read and well-formed, or it fails on the notation, or what has been seen of it begins a
well-formed text and none that is read.** What is read may have blanks behind it and nothing else; anything else
there is a fault of the notation. -/
theorem judged_runText {r : Reader α} {text : String} (h : Judged SpacedValue r text.toList) :
    (∃ a, runText r text = .ok a ∧ runText skipValue text = .ok ()) ∨
      (∃ refusal, runText r text = .error refusal ∧ refusal.fault.isShape = false) ∨
      ∃ seen rest more, text = seen ++ rest ∧ runText skipValue (seen ++ more) = .ok () ∧
        ∀ more, ∃ refusal, runText r (seen ++ more) = .error refusal := by
  cases h with
  | @taken s ys a heq hs htakes =>
    have hreads : Reads r text.toList a ys := heq ▸ htakes.reads
    rcases blank_or_fails_ending ys with hb | hfails
    · obtain ⟨bs, v, rfl, hbs, hv⟩ := hs
      rw [List.append_assoc] at heq
      exact .inl ⟨a, runText_of_reads hreads hb, runText_skipValue hbs hv hb heq⟩
    · exact .inr (.inl (runText_of_fails_whole (fun fault => fault.isShape = false) (hreads.fails hfails.bind)))
  | broken hfails => exact .inr (.inl (runText_of_fails (fun fault => fault.isShape = false) hfails))
  | @mismatched seen whole _ hxs hwhole hbegins hrefuses =>
    obtain ⟨rest, hrest⟩ := hxs
    obtain ⟨more, rfl⟩ := hbegins
    obtain ⟨bs, v, hsplit, hbs, hv⟩ := hwhole
    refine .inr (.inr ⟨.ofList seen, .ofList rest, .ofList more, ?_, ?_, fun more => ?_⟩)
    · rw [← String.ofList_append, hrest, String.ofList_toList]
    · refine runText_skipValue hbs hv blank_nil ?_
      rw [← String.ofList_append, String.toList_ofList, hsplit, List.append_nil]
    · have hrefused : Refuses r (String.ofList seen ++ more).toList := by
        rw [String.toList_append, String.toList_ofList]
        exact hrefuses more.toList
      obtain ⟨refusal, hrefusal, -⟩ := runText_of_fails (fun _ => True) (hrefused.fails fun _ => trivial)
      exact ⟨refusal, hrefusal⟩

end Gamebook.Json
