import Gamebook.Proofs.Text.Cuts

/-!
# How far a reader looks

What a reader makes of a text depends on what it passes and on the one character behind that, at which it may
have looked. `Takes r s a ys` says so of an answer: `s` is passed, whatever comes behind it that begins as `ys`
does. `Reads` says the same for one text behind `s`, and is too weak to put a text together from what was read of
another: it says nothing of the readings of texts with other ends.

`Takes` is what a text that is accepted leaves to be known of it. Where a reader of one kind of value has gone
over a part of a text, another reader, for any value at all, goes over the same part; then what comes behind may
be replaced by an end that makes the text well-formed. The one character is enough in JSON, where a reader
decides by the next character only and never goes back.

For the way from an answer to what was passed, a sequence is taken apart (`exists_of_bind_ok`), and a loop is its
first round followed by the loop again (`loop_eq`), if its rounds leave less than they met. The number of rounds
that it is allowed is different in the two, and does not show (`loopOver_congr`).
-/

namespace Gamebook.Text.Reader

variable {ε α β : Type} {xs ys zs s t : List Char} {a : α} {b : β}

/-! ## One character ahead -/

/-- The reader passes `s` and answers `a`, if what comes behind begins as `ys` does. -/
def Takes (r : Reader ε α) (s : List Char) (a : α) (ys : List Char) : Prop :=
  ∀ zs, zs.head? = ys.head? → Reads r (s ++ zs) a zs

theorem Takes.reads {r : Reader ε α} (h : Takes r s a ys) : Reads r (s ++ ys) a ys := h ys rfl

/-- What a reader passes whatever comes behind. -/
theorem takes_of_reads {r : Reader ε α} (h : ∀ zs, Reads r (s ++ zs) a zs) : Takes r s a ys :=
  fun zs _ => h zs

theorem takes_pure (a : α) (ys : List Char) : Takes (pure a : Reader ε α) [] a ys :=
  takes_of_reads (reads_pure a)

/-- A text that is not empty begins alike, whatever comes behind it. -/
theorem head?_append_congr (h : zs.head? = ys.head?) : (t ++ zs).head? = (t ++ ys).head? := by
  cases t with
  | nil => exact h
  | cons c t => rfl

theorem takes_advance (c : Char) (ys : List Char) : Takes (advance 1 : Reader ε Unit) [c] () ys :=
  takes_of_reads fun zs => reads_advance 1 (c :: zs)

theorem Takes.bind {r : Reader ε α} {f : α → Reader ε β} (hr : Takes r s a (t ++ ys))
    (hf : Takes (f a) t b ys) : Takes (r >>= f) (s ++ t) b ys := by
  intro zs hzs
  rw [List.append_assoc]
  exact (hr _ (head?_append_congr hzs)).bind (hf zs hzs)

/-- What a reader answers before a text is settled. -/
theorem Reads.answer {r : Reader ε α} {p : Position} {a' : α} {c : Cursor} (h : Reads r xs a ys)
    (hr : r ⟨xs, p⟩ = .ok a' c) : a' = a ∧ c.rest = ys := by
  obtain ⟨q, hq⟩ := h p
  rw [hq] at hr
  cases hr
  exact ⟨rfl, rfl⟩

/-- An answer of two readers is one of the second behind one of the first. -/
theorem exists_of_bind_ok {r : Reader ε α} {f : α → Reader ε β} {c c' : Cursor} (h : (r >>= f) c = .ok b c') :
    ∃ a c₁, r c = .ok a c₁ ∧ f a c₁ = .ok b c' := by
  change EStateM.bind r f c = _ at h
  rw [EStateM.bind] at h
  cases hr : r c with
  | ok a c₁ =>
    rw [hr] at h
    exact ⟨a, c₁, rfl, h⟩
  | error e c₁ =>
    rw [hr] at h
    cases h

/-- What a reader never answers it refuses. -/
theorem refuses_of_not_ok {r : Reader ε α} (h : ∀ p a c, r ⟨xs, p⟩ ≠ .ok a c) : Refuses r xs := by
  intro p
  cases hr : r ⟨xs, p⟩ with
  | ok a c => exact absurd hr (h p a c)
  | error e c => exact ⟨e, c, rfl⟩

theorem Reads.refuses {r : Reader ε α} {f : α → Reader ε β} (hr : Reads r xs a ys) (hf : Refuses (f a) ys) :
    Refuses (r >>= f) xs := by
  have hfails : Fails (fun _ => True) (f a) ys := hf.fails fun _ => trivial
  exact (hr.fails hfails).refuses

theorem Refuses.bind {r : Reader ε α} {f : α → Reader ε β} (h : Refuses r xs) : Refuses (r >>= f) xs := by
  have hfails : Fails (fun _ => True) r xs := h.fails fun _ => trivial
  exact hfails.bind.refuses

/-! ## Loops

A loop is allowed as many rounds as there are characters left, so the allowance is not the same where the text goes on
differently. It does not matter: each round that goes on leaves less than it met, and what is allowed in addition is
never used. -/

section Loops

variable [Inhabited ε] {step : α → Reader ε (α ⊕ β)}

/-- A round that goes on leaves less than it met. -/
def Shrinking (step : α → Reader ε (α ⊕ β)) : Prop :=
  ∀ a c a' c', step a c = .ok (.inl a') c' → c'.rest.length < c.rest.length

omit [Inhabited ε] in
/-- What comes behind a reader matters only for what it may answer. -/
theorem bind_congr_at {r : Reader ε α} {f g : α → Reader ε β} {c : Cursor}
    (h : ∀ a c', r c = .ok a c' → f a c' = g a c') : (r >>= f) c = (r >>= g) c := by
  show EStateM.bind r f c = EStateM.bind r g c
  rw [EStateM.bind, EStateM.bind]
  cases hr : r c with
  | ok a c' => exact h a c' hr
  | error e c' => rfl

theorem loopOver_nil (a : α) :
    loopOver step [] a = step a >>= Sum.elim (fun _ => fail default) pure := by
  rw [loopOver]
  congr 1
  funext answer
  cases answer <;> rfl

theorem loopOver_cons (d : Char) (fuel : List Char) (a : α) :
    loopOver step (d :: fuel) a = step a >>= Sum.elim (loopOver step fuel) pure := by
  rw [loopOver]
  congr 1
  funext answer
  cases answer <;> rfl

/-- Any number of rounds is as good as another that is enough. By induction on the one allowance, with the
other and the cursor left open: each round that goes on leaves less text, so both allowances stay enough. -/
theorem loopOver_congr (h : Shrinking step) : ∀ (fuel fuel' : List Char) (a : α) (c : Cursor),
    c.rest.length ≤ fuel.length → c.rest.length ≤ fuel'.length →
      loopOver step fuel a c = loopOver step fuel' a c := by
  -- Before nothing no round goes on, and then the rounds behind do not matter.
  have hnil : ∀ (k k' : α → Reader ε β) (a : α) (c : Cursor), c.rest.length ≤ 0 →
      (step a >>= Sum.elim k pure) c = (step a >>= Sum.elim k' pure) c := by
    intro k k' a c hempty
    refine bind_congr_at fun answer c' hstep => ?_
    cases answer with
    | inl a' =>
      have hless : c'.rest.length < c.rest.length := h a c a' c' hstep
      omega
    | inr b => rfl
  intro fuel
  induction fuel with
  | nil =>
    intro fuel' a c hfuel _
    cases fuel' with
    | nil => rfl
    | cons d fuel' =>
      rw [loopOver_nil, loopOver_cons]
      exact hnil _ _ a c hfuel
  | cons d fuel ih =>
    intro fuel' a c hfuel hfuel'
    cases fuel' with
    | nil =>
      rw [loopOver_nil, loopOver_cons]
      exact hnil _ _ a c hfuel'
    | cons d' fuel' =>
      rw [loopOver_cons, loopOver_cons]
      refine bind_congr_at fun answer c' hstep => ?_
      cases answer with
      | inl a' =>
        have hless : c'.rest.length < c.rest.length := h a c a' c' hstep
        rw [List.length_cons] at hfuel hfuel'
        exact ih fuel' a' c' (by omega) (by omega)
      | inr b => rfl

/-- **A loop is its first round, and then the loop again** if that goes on. -/
theorem loop_eq (h : Shrinking step) (a : α) : loop step a = step a >>= Sum.elim (loop step) pure := by
  funext c
  have hmore : loop step a c = loopOver step ('0' :: c.rest) a c :=
    loopOver_congr h _ _ a c (Nat.le_refl _) (by simp)
  rw [hmore, loopOver_cons]
  refine bind_congr_at fun answer c' hstep => ?_
  cases answer with
  | inl a' =>
    have hless : c'.rest.length < c.rest.length := h a c a' c' hstep
    exact loopOver_congr h _ _ a' c' (by omega) (Nat.le_refl _)
  | inr b => rfl

end Loops

end Gamebook.Text.Reader
