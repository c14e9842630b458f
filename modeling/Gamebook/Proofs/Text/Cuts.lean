import Gamebook.Proofs.Text.Digits

/-!
# What a reader makes of a text that is cut short

`Cut ys xs` says that `ys` is `xs` without its end. A reader takes what lies before the cut as it would take it
in the whole text; that is a matter of `Reads`. Of the part that the cut goes through it knows less than it
needs, and fails (`Fails`), or it takes what is left for a part of its own, as with the digits of a number,
and stands at the end (`Short`). In the second case it is for the next reader to fail, before nothing.

It would be wrong to say that every reader fails on a part of what it reads. A number that lost its last digits
is a number, and so is a name a name; blanks may be cut anywhere. `Short` is the weakest thing that can be said of
all parts alike and still goes through a sequence: if what comes next fails at the end of the text, the sequence
fails wherever it is cut (`Short.fails`), and if not, the sequence is short itself (`Short.bind`). A text as a
whole ends with a bracket that closes its record, and a reader of that bracket fails before nothing.

A fault has a kind, which the statements carry along: a cut text must be reported as one that is not well-formed,
and not as one whose document is wrong. So `Fails` is asked with a predicate on faults and not with the faults
themselves, which state lines and columns.

A loop fails if one of its rounds does. `Reaches` follows the rounds up to that one, as `Rounds` follows them up
to the last, and `Reaches.fails` is what becomes of the loop.
-/

namespace Gamebook.Text

variable {c : Char} {xs ys zs : List Char}

/-! ## Cuts

A text is cut if it has lost at least one character at its end. A cut of a text in two parts goes through the first,
or leaves that whole and goes through the second: this is the case distinction that every reader of parts is followed
with. -/

/-- The first text is the second one without its end, of at least one character. -/
def Cut (ys xs : List Char) : Prop := ∃ lost, lost ≠ [] ∧ ys ++ lost = xs

theorem cut_nil (h : xs ≠ []) : Cut [] xs := ⟨xs, h, rfl⟩

/-- A text is cut in its first part, or behind it. -/
theorem cut_append : Cut zs (xs ++ ys) ↔ Cut zs xs ∨ ∃ ws, zs = xs ++ ws ∧ Cut ws ys := by
  constructor
  · rintro ⟨lost, hlost, heq⟩
    rcases List.append_eq_append_iff.mp heq with ⟨middle, hxs, hlater⟩ | ⟨ws, hzs, hys⟩
    · -- The first part reaches up to the cut or beyond it.
      by_cases hmiddle : middle = []
      · subst hmiddle
        refine .inr ⟨[], ?_, lost, hlost, ?_⟩
        · rw [hxs, List.append_nil, List.append_nil]
        · rw [hlater, List.nil_append, List.nil_append]
      · exact .inl ⟨middle, hmiddle, hxs.symm⟩
    · exact .inr ⟨ws, hzs, lost, hlost, hys.symm⟩
  · rintro (⟨lost, hlost, heq⟩ | ⟨ws, rfl, lost, hlost, heq⟩)
    · refine ⟨lost ++ ys, fun hnil => hlost (List.append_eq_nil_iff.mp hnil).1, ?_⟩
      rw [← List.append_assoc, heq]
    · refine ⟨lost, hlost, ?_⟩
      rw [List.append_assoc, heq]

theorem cut_singleton : Cut zs [c] ↔ zs = [] := by
  constructor
  · rintro ⟨lost, hlost, heq⟩
    rcases List.append_eq_singleton_iff.mp heq with ⟨hzs, -⟩ | ⟨-, hnil⟩
    · exact hzs
    · exact absurd hnil hlost
  · rintro rfl
    exact cut_nil (by simp)

/-- A text is cut before its first character, or behind it. -/
theorem cut_cons : Cut zs (c :: xs) ↔ zs = [] ∨ ∃ ws, zs = c :: ws ∧ Cut ws xs := by
  rw [show c :: xs = [c] ++ xs from rfl, cut_append, cut_singleton]
  rfl

/-- The last character is lost, and perhaps more. -/
theorem cut_concat : Cut ys (xs ++ [c]) ↔ Cut ys xs ∨ ys = xs := by
  rw [cut_append]
  simp only [cut_singleton, exists_eq_right, List.append_nil]

theorem Cut.length_lt (h : Cut ys xs) : ys.length < xs.length := by
  obtain ⟨lost, hlost, rfl⟩ := h
  have hpos : 0 < lost.length := List.length_pos_iff.mpr hlost
  rw [List.length_append]
  omega

/-- What is left begins as the whole text does. -/
theorem Cut.head?_subset (h : Cut ys xs) : ∀ c ∈ ys.head?, c ∈ xs.head? := by
  obtain ⟨lost, -, rfl⟩ := h
  intro c hc
  cases ys with
  | nil => cases hc
  | cons d ds => exact hc

theorem Cut.mem (h : Cut ys xs) : ∀ c ∈ ys, c ∈ xs := by
  obtain ⟨lost, -, rfl⟩ := h
  exact fun c hc => List.mem_append_left lost hc

/-- Of a written number that is cut short nothing is left, or a smaller number. So a reader of a number does
not notice the cut, unless it goes before the first digit. -/
theorem Cut.toDigits {n : Nat} (h : Cut ys (Nat.toDigits 10 n)) :
    ys = [] ∨ ∃ m ≤ n, ys = Nat.toDigits 10 m := by
  induction n using Nat.strongRecOn with
  | ind n ih =>
    rcases Nat.lt_or_ge n 10 with hlt | hge
    · rw [Nat.toDigits_of_lt_base hlt] at h
      exact .inl (cut_singleton.mp h)
    · have hless : n / 10 < n := Nat.div_lt_self (by omega) (by omega)
      rw [Nat.toDigits_of_base_le (by omega) hge] at h
      -- The last digit is lost, and perhaps digits of the number without it.
      rcases cut_concat.mp h with hcut | rfl
      · rcases ih (n / 10) hless hcut with hnil | ⟨m, hm, hys⟩
        · exact .inl hnil
        · exact .inr ⟨m, by omega, hys⟩
      · exact .inr ⟨n / 10, by omega, rfl⟩

end Gamebook.Text

namespace Gamebook.Text.Reader

variable {ε α β : Type} {kind : ε → Prop} {xs ys zs : List Char} {a : α} {b : β}

/-! ## Readers that fail

That a reader fails is said together with the kind of fault, since the answer to a broken text depends on it. A failure
passes through everything that was to be read behind it. -/

/-- Before `xs` the reader fails with a fault of a kind. -/
def Fails (kind : ε → Prop) (r : Reader ε α) (xs : List Char) : Prop :=
  ∀ p, ∃ e c, r ⟨xs, p⟩ = .error e c ∧ kind e

theorem fails_fail {e : ε} (he : kind e) : Fails kind (fail e : Reader ε α) xs :=
  fun p => ⟨e, ⟨xs, p⟩, rfl, he⟩

theorem Fails.refuses {r : Reader ε α} (h : Fails kind r xs) : Refuses r xs := by
  intro p
  obtain ⟨e, c, hc, -⟩ := h p
  exact ⟨e, c, hc⟩

theorem Refuses.fails {r : Reader ε α} (h : Refuses r xs) (hkind : ∀ e, kind e) : Fails kind r xs := by
  intro p
  obtain ⟨e, c, hc⟩ := h p
  exact ⟨e, c, hc, hkind e⟩

theorem Fails.bind {r : Reader ε α} {f : α → Reader ε β} (h : Fails kind r xs) :
    Fails kind (r >>= f) xs := by
  intro p
  obtain ⟨e, c, hc, he⟩ := h p
  refine ⟨e, c, ?_, he⟩
  show EStateM.bind r f ⟨xs, p⟩ = _
  rw [EStateM.bind, hc]

/-- A reader fails behind what it has read. -/
theorem Reads.fails {r : Reader ε α} {f : α → Reader ε β} (hr : Reads r xs a ys)
    (hf : Fails kind (f a) ys) : Fails kind (r >>= f) xs := by
  intro p
  obtain ⟨q, hq⟩ := hr p
  obtain ⟨e, c, hc, he⟩ := hf q
  refine ⟨e, c, ?_, he⟩
  show EStateM.bind r f ⟨xs, p⟩ = _
  rw [EStateM.bind, hq]
  exact hc

theorem Fails.map {r : Reader ε α} (f : α → β) (h : Fails kind r xs) : Fails kind (f <$> r) xs := by
  intro p
  obtain ⟨e, c, hc, he⟩ := h p
  refine ⟨e, c, ?_, he⟩
  show EStateM.map f r ⟨xs, p⟩ = _
  rw [EStateM.map, hc]

theorem Fails.lookAhead {r : Reader ε α} (h : Fails kind r xs) : Fails kind (lookAhead r) xs := by
  intro p
  obtain ⟨e, c, hc, he⟩ := h p
  refine ⟨e, ⟨xs, p⟩, ?_, he⟩
  simp only [Reader.lookAhead, hc]

theorem Continues.fails {r r' : Reader ε α} (h : Continues r xs r' ys) (hr : Fails kind r' ys) :
    Fails kind r xs := by
  intro p
  obtain ⟨q, hq⟩ := h p
  obtain ⟨e, c, hc, he⟩ := hr q
  exact ⟨e, c, hq.trans hc, he⟩

/-! ## Readers that fail or read on to the end -/

/-- Before `xs` the reader fails with a fault of a kind, or takes all of it. -/
def Short (kind : ε → Prop) (r : Reader ε α) (xs : List Char) : Prop :=
  Fails kind r xs ∨ ∃ a, Reads r xs a []

/-- Where the first reader may come to the end, it is enough that the next one fails there: either the first
one has failed, or it has left nothing for the next. -/
theorem Short.fails {r : Reader ε α} {f : α → Reader ε β} (h : Short kind r xs)
    (hf : ∀ a, Fails kind (f a) []) : Fails kind (r >>= f) xs := by
  rcases h with hfails | ⟨a, hreads⟩
  · exact hfails.bind
  · exact hreads.fails (hf a)

theorem Short.bind {r : Reader ε α} {f : α → Reader ε β} (h : Short kind r xs)
    (hf : ∀ a, Short kind (f a) []) : Short kind (r >>= f) xs := by
  rcases h with hfails | ⟨a, hreads⟩
  · exact .inl hfails.bind
  · rcases hf a with hfails | ⟨b, hends⟩
    · exact .inl (hreads.fails hfails)
    · exact .inr ⟨b, hreads.bind hends⟩

/-- Behind what has been read, the next reader fails or comes to the end. -/
theorem Reads.short {r : Reader ε α} {f : α → Reader ε β} (hr : Reads r xs a ys)
    (hf : Short kind (f a) ys) : Short kind (r >>= f) xs := by
  rcases hf with hfails | ⟨b, hends⟩
  · exact .inl (hr.fails hfails)
  · exact .inr ⟨b, hr.bind hends⟩

theorem Continues.short {r r' : Reader ε α} (h : Continues r xs r' ys) (hr : Short kind r' ys) :
    Short kind r xs := by
  rcases hr with hfails | ⟨a, hends⟩
  · exact .inl (h.fails hfails)
  · exact .inr ⟨a, h.reads hends⟩

/-- What begins a text is cut from it or all of it. -/
theorem short_of_prefix {r : Reader ε α} (hread : Reads r xs a [])
    (hcut : ∀ ys, Cut ys xs → Short kind r ys) : ∀ ys, ys <+: xs → Short kind r ys := by
  rintro ys ⟨lost, heq⟩
  by_cases hlost : lost = []
  · rw [hlost, List.append_nil] at heq
    rw [heq]
    exact .inr ⟨a, hread⟩
  · exact hcut ys ⟨lost, hlost, heq⟩

theorem short_pure (a : α) : Short kind (pure a : Reader ε α) [] := .inr ⟨a, reads_pure a []⟩

theorem Short.map {r : Reader ε α} (f : α → β) (h : Short kind r xs) : Short kind (f <$> r) xs := by
  rcases h with hfails | ⟨a, hreads⟩
  · exact .inl (hfails.map f)
  · exact .inr ⟨f a, hreads.map f⟩

/-! ## Loops

A loop fails if its rounds lead to one that fails. So the rounds are gone through up to the one that the cut is in, and
that one is looked at by itself. -/

section Loops

variable [Inhabited ε] {step : α → Reader ε (α ⊕ β)} {a' : α}

/-- Some rounds of a loop lead from the state `a` before `xs` to the state `a'` before `ys`. Each leaves less
than it met. -/
inductive Reaches (step : α → Reader ε (α ⊕ β)) : α → List Char → α → List Char → Prop
  | here {a : α} {xs : List Char} : Reaches step a xs a xs
  | next {a a₁ a' : α} {xs xs₁ ys : List Char} :
      Reads (step a) xs (.inl a₁) xs₁ → xs₁.length < xs.length → Reaches step a₁ xs₁ a' ys →
      Reaches step a xs a' ys

/-- The round that ends a loop is the last of the rounds that lead to it. -/
theorem Reaches.reads (h : Reaches step a xs a' ys) (hlast : Reads (step a') ys (.inr b) zs) :
    Reads (loop step a) xs b zs := by
  refine Rounds.reads ?_
  induction h with
  | here => exact .last hlast
  | next hnext hless _ ih => exact .next hnext hless (ih hlast)

omit [Inhabited ε] in
/-- A round that fails where it is, or goes on to the end of the text, where every round fails. -/
theorem exists_reaches_of_short (hround : Fails kind (step a) xs ∨ ∃ a', Reads (step a) xs (.inl a') [])
    (hnonempty : xs ≠ []) (hend : ∀ a', Fails kind (step a') []) :
    ∃ a' zs, Reaches step a xs a' zs ∧ Fails kind (step a') zs := by
  rcases hround with hfails | ⟨a', hreads⟩
  · exact ⟨a, xs, .here, hfails⟩
  · exact ⟨a', [], .next hreads (List.length_pos_iff.mpr hnonempty) .here, hend a'⟩

theorem Reaches.fails_loopOver (h : Reaches step a xs a' ys) (hlast : Fails kind (step a') ys) :
    ∀ fuel : List Char, xs.length ≤ fuel.length → Fails kind (loopOver step fuel a) xs := by
  induction h with
  | here =>
    intro fuel _
    cases fuel with
    | nil => exact hlast.bind
    | cons c fuel => exact hlast.bind
  | next hnext hless _ ih =>
    intro fuel hfuel
    cases fuel with
    | nil =>
      rw [List.length_nil] at hfuel
      omega
    | cons c fuel =>
      rw [List.length_cons] at hfuel
      exact hnext.fails (ih hlast fuel (by omega))

/-- **A loop fails in the round that fails**, with a fault of the same kind. The rounds before it are as they
would be in the whole text. -/
theorem Reaches.fails (h : Reaches step a xs a' ys) (hlast : Fails kind (step a') ys) :
    Fails kind (loop step a) xs := by
  intro p
  exact h.fails_loopOver hlast xs (Nat.le_refl _) p

end Loops

end Gamebook.Text.Reader
