import Gamebook.Text.Cursor

/-!
# What a reader makes of a text

A reader is judged by three things: what is left of the text when it begins, what it answers, and what is
left when it has stopped. `Reads r xs a ys` says that `r`, standing before `xs`, answers `a` and stops
before `ys`, whatever place of a text this is. `Refuses r xs` says that `r` fails before `xs`.

A reader also keeps the place it has come to, in lines and columns, for its error messages. No reader decides by
it, so it is quantified away in both: a statement about a reader is a statement about characters. What is left
behind a reader is part of the statement, for the next one begins there.

Every reader is put together from a few, and so is what it reads: `Reads.bind` follows one reader by the
next, and `Rounds` follows a loop from round to round. The loop itself is given as many rounds as there are
characters left, and one more, which is how it is seen to end. Its lemmas never count them: a round that goes on
must have consumed a character, and then the rounds that a loop is allowed are enough (`Rounds.reads`).

`Continues` serves readers that hand over to others in the middle: before one text a reader goes on as another
does before a later one. It is what an accepted first word of a construct leaves to be said.

What readers make of a text that is cut short, and how far they look ahead, are questions of their own.
-/

namespace Gamebook.Text.Reader

variable {ε α β : Type} {xs ys zs : List Char} {a : α} {b : β}

/-- Before `xs` the reader answers `a` and stops before `ys`. -/
def Reads (r : Reader ε α) (xs : List Char) (a : α) (ys : List Char) : Prop :=
  ∀ p, ∃ q, r ⟨xs, p⟩ = .ok a ⟨ys, q⟩

/-- Before `xs` the reader fails. -/
def Refuses (r : Reader ε α) (xs : List Char) : Prop :=
  ∀ p, ∃ e c, r ⟨xs, p⟩ = .error e c

/-! ## One reader after the other -/

theorem reads_pure (a : α) (xs : List Char) : Reads (pure a : Reader ε α) xs a xs :=
  fun p => ⟨p, rfl⟩

theorem Reads.bind {r : Reader ε α} {f : α → Reader ε β} (hr : Reads r xs a ys)
    (hf : Reads (f a) ys b zs) : Reads (r >>= f) xs b zs := by
  intro p
  obtain ⟨q, hq⟩ := hr p
  obtain ⟨o, ho⟩ := hf q
  refine ⟨o, ?_⟩
  show EStateM.bind r f ⟨xs, p⟩ = _
  rw [EStateM.bind, hq]
  exact ho

theorem Reads.map {r : Reader ε α} (f : α → β) (h : Reads r xs a ys) :
    Reads (f <$> r) xs (f a) ys := by
  intro p
  obtain ⟨q, hq⟩ := h p
  refine ⟨q, ?_⟩
  show EStateM.map f r ⟨xs, p⟩ = _
  rw [EStateM.map, hq]

/-- The answer of a reader may be passed over. -/
theorem Reads.discard {r : Reader ε α} (h : Reads r xs a ys) : Reads (discard r) xs () ys :=
  Reads.map (fun _ => ()) h

/-- On a whole text only the answer counts. -/
theorem Reads.run {r : Reader ε α} {text : String} (h : Reads r text.toList a ys) :
    r.run text = .ok a := by
  obtain ⟨q, hq⟩ := h .start
  rw [Reader.run, Cursor.ofText, hq]

/-- Before `xs` the one reader goes on as the other does before `ys`. -/
def Continues (r : Reader ε α) (xs : List Char) (r' : Reader ε α) (ys : List Char) : Prop :=
  ∀ p, ∃ q, r ⟨xs, p⟩ = r' ⟨ys, q⟩

theorem continues_self (r : Reader ε α) (xs : List Char) : Continues r xs r xs := fun p => ⟨p, rfl⟩

/-- Behind what it has read a reader goes on with the next. -/
theorem Reads.continues {r : Reader ε α} {f : α → Reader ε β} {r' : Reader ε β} (hr : Reads r xs a ys)
    (hf : Continues (f a) ys r' zs) : Continues (r >>= f) xs r' zs := by
  intro p
  obtain ⟨q, hq⟩ := hr p
  obtain ⟨o, ho⟩ := hf q
  refine ⟨o, ?_⟩
  show EStateM.bind r f ⟨xs, p⟩ = _
  rw [EStateM.bind, hq]
  exact ho

theorem Continues.trans {r r' r'' : Reader ε α} (h : Continues r xs r' ys) (h' : Continues r' ys r'' zs) :
    Continues r xs r'' zs := by
  intro p
  obtain ⟨q, hq⟩ := h p
  obtain ⟨o, ho⟩ := h' q
  exact ⟨o, hq.trans ho⟩

theorem Continues.reads {r r' : Reader ε α} (h : Continues r xs r' ys) (hr : Reads r' ys a zs) :
    Reads r xs a zs := by
  intro p
  obtain ⟨q, hq⟩ := h p
  obtain ⟨o, ho⟩ := hr q
  exact ⟨o, hq.trans ho⟩

/-! ## The readers that look at characters

These readers are the ground that all others stand on. A reader that takes all characters of a class stops at the first
one that is not in it, so what it reads depends on what comes behind; `Stops` is the condition on that. -/

theorem reads_peek (xs : List Char) : Reads (peek : Reader ε (Option Char)) xs xs.head? xs :=
  fun p => ⟨p, rfl⟩

theorem reads_advance (n : Nat) (xs : List Char) :
    Reads (advance n : Reader ε Unit) xs () (xs.drop n) :=
  fun _ => ⟨_, rfl⟩

/-- What is left does not begin with a character of a class. -/
def Stops (p : Char → Bool) (xs : List Char) : Prop := ∀ c ∈ xs.head?, p c = false

@[simp] theorem stops_nil (p : Char → Bool) : Stops p [] := by simp [Stops]

@[simp] theorem stops_cons {p : Char → Bool} {c : Char} : Stops p (c :: xs) ↔ p c = false := by
  simp [Stops]

theorem takeWhile_eq_nil_of_stops {p : Char → Bool} (h : Stops p ys) : ys.takeWhile p = [] := by
  cases ys with
  | nil => rfl
  | cons c ys => rw [List.takeWhile_cons_of_neg (by simpa using h)]

theorem dropWhile_eq_self_of_stops {p : Char → Bool} (h : Stops p ys) : ys.dropWhile p = ys := by
  cases ys with
  | nil => rfl
  | cons c ys => rw [List.dropWhile_cons_of_neg (by simpa using h)]

/-- A run of a class is taken up to where the class stops. -/
theorem takeWhile_run {p : Char → Bool} (hx : ∀ c ∈ xs, p c = true) (hy : Stops p ys) :
    (xs ++ ys).takeWhile p = xs := by
  rw [List.takeWhile_append_of_pos hx, takeWhile_eq_nil_of_stops hy, List.append_nil]

/-- A run of a class is passed up to where the class stops. -/
theorem dropWhile_run {p : Char → Bool} (hx : ∀ c ∈ xs, p c = true) (hy : Stops p ys) :
    (xs ++ ys).dropWhile p = ys := by
  rw [List.dropWhile_append_of_pos hx, dropWhile_eq_self_of_stops hy]

/-- Every text is a run of a class, and what is left where the class stops. -/
theorem exists_run (p : Char → Bool) (xs : List Char) :
    ∃ run rest, xs = run ++ rest ∧ (∀ c ∈ run, p c = true) ∧ Stops p rest := by
  refine ⟨xs.takeWhile p, xs.dropWhile p, List.takeWhile_append_dropWhile.symm, ?_, ?_⟩
  · exact List.all_eq_true.mp List.all_takeWhile
  · intro c hc
    have hstops := List.head?_dropWhile_not p xs
    rw [hc] at hstops
    exact hstops

theorem reads_skipWhile {p : Char → Bool} (hx : ∀ c ∈ xs, p c = true) (hy : Stops p ys) :
    Reads (skipWhile p : Reader ε Unit) (xs ++ ys) () ys := by
  intro q
  refine ⟨q.afterAll ((xs ++ ys).takeWhile p), ?_⟩
  rw [skipWhile, Cursor.dropWhile, dropWhile_run hx hy]

/-- A word that comes next is passed. -/
theorem reads_accept {word : String} {ws : List Char} (hw : word.toList = ws) (ys : List Char) :
    Reads (accept word : Reader ε Bool) (ws ++ ys) true ys := by
  intro p
  refine ⟨p.afterAll ws, ?_⟩
  simp [accept, hw, Cursor.advance]

/-- A word that does not come next is not passed. -/
theorem reads_accept_not {word : String} (h : word.toList.isPrefixOf xs = false) :
    Reads (accept word : Reader ε Bool) xs false xs :=
  fun p => ⟨p, by simp [accept, h]⟩

theorem Reads.lookAhead {r : Reader ε α} (h : Reads r xs a ys) : Reads (lookAhead r) xs a xs := by
  intro p
  obtain ⟨q, hq⟩ := h p
  exact ⟨p, by simp [Reader.lookAhead, hq]⟩

theorem Reads.optional {r : Reader ε α} (h : Reads r xs a ys) :
    Reads (Reader.optional r) xs (some a) ys := by
  intro p
  obtain ⟨q, hq⟩ := h p
  exact ⟨q, by simp [Reader.optional, hq]⟩

theorem Refuses.optional {r : Reader ε α} (h : Refuses r xs) : Reads (Reader.optional r) xs none xs := by
  intro p
  obtain ⟨e, c, hc⟩ := h p
  exact ⟨p, by simp [Reader.optional, hc]⟩

/-! ## Loops

A loop is made with an allowance of rounds, which goes by the length of the text. No statement about a loop should
mention it: `Rounds` follows the rounds themselves, and one lemma says that the allowance is enough for them. -/

section Loops

variable [Inhabited ε] {step : α → Reader ε (α ⊕ β)} {a' : α}

/-- From the state `a` before `xs`, the rounds of a loop end with the answer `b` before `ys`. Each round
but the last leaves less than it met. -/
inductive Rounds (step : α → Reader ε (α ⊕ β)) : α → List Char → β → List Char → Prop
  | last {a : α} {xs : List Char} {b : β} {ys : List Char} :
      Reads (step a) xs (.inr b) ys → Rounds step a xs b ys
  | next {a a' : α} {xs xs' : List Char} {b : β} {ys : List Char} :
      Reads (step a) xs (.inl a') xs' → xs'.length < xs.length → Rounds step a' xs' b ys →
      Rounds step a xs b ys

/-- As many rounds as there are characters left, and one more, are enough. By induction on the rounds: the last
one needs none of the allowance but its own, and a round that goes on has paid for itself with a character. -/
theorem Rounds.reads_loopOver (h : Rounds step a xs b ys) :
    ∀ fuel : List Char, xs.length ≤ fuel.length → Reads (loopOver step fuel a) xs b ys := by
  -- Each round but the last leaves less of the text, so the fuel lasts as long as the text does.
  induction h with
  | last hlast =>
    intro fuel _
    cases fuel with
    | nil => exact hlast.bind (reads_pure _ _)
    | cons c fuel => exact hlast.bind (reads_pure _ _)
  | next hnext hless _ ih =>
    intro fuel hfuel
    cases fuel with
    | nil =>
      simp only [List.length_nil] at hfuel
      omega
    | cons c fuel =>
      simp only [List.length_cons] at hfuel
      exact hnext.bind (ih fuel (by omega))

/-- **A loop reads what its rounds read**, one after the other. -/
theorem Rounds.reads (h : Rounds step a xs b ys) : Reads (loop step a) xs b ys := by
  intro p
  exact h.reads_loopOver xs (Nat.le_refl _) p

end Loops

end Gamebook.Text.Reader
