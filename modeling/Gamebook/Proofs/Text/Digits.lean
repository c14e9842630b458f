import Gamebook.Proofs.Text.Reads

/-!
# Written numbers

A reader takes the digits of a number from the left, and multiplies what it has by the base before it adds the
next. `Nat.toDigits` is known by its recursion, which splits the last digit off. So an induction along the one is
not an induction along the other, and what holds between two digits has to be said with three things in hand: how
many digits have been read, the value they have, and what is left of the text.

`digits_induction` bridges the two once: whatever is passed back over a digit, by a step that holds as long as
the value does not exceed the number, is passed back over the whole number. The bound is what a reader of a
limited width needs, for it multiplies before it adds and must not overflow on the way to a number that fits. The
count is for the readers that limit the number of digits.

The other lemmas say that nothing but digits stands in a written number, so that a reader of digits stops behind
it, and that there is at least one.
-/

namespace Gamebook.Text

/-- **Reading a number digit by digit.** `P k v cs` speaks of a reader that has taken `k` digits of the value `v`
and stands before `cs`. If it is passed back over a digit, it is passed back over the number. The values met on
the way are the quotients of the number by powers of the base, and so none exceeds it. -/
theorem digits_induction {base n : Nat} (hbase : 1 < base) {P : Nat → Nat → List Char → Prop}
    (hstep : ∀ k v d cs, d < base → v * base + d ≤ n → k < (Nat.toDigits base n).length →
      P (k + 1) (v * base + d) cs → P k v (Nat.digitChar d :: cs)) {cs : List Char}
    (h : P (Nat.toDigits base n).length n cs) : P 0 0 (Nat.toDigits base n ++ cs) := by
  -- The digits in front of any place are those of a smaller number.
  have main : ∀ m ≤ n, (Nat.toDigits base m).length ≤ (Nat.toDigits base n).length → ∀ cs,
      P (Nat.toDigits base m).length m cs → P 0 0 (Nat.toDigits base m ++ cs) := by
    intro m
    induction m using Nat.strongRecOn with
    | ind m ih =>
      intro hm hlen cs hcs
      rcases Nat.lt_or_ge m base with hlt | hge
      · rw [Nat.toDigits_of_lt_base hlt] at hcs hlen ⊢
        refine hstep 0 0 m cs hlt (by omega) Nat.length_toDigits_pos ?_
        simpa using hcs
      · have hdiv : m / base < m := Nat.div_lt_self (by omega) hbase
        have hmod : m / base * base + m % base = m := Nat.div_add_mod' m base
        rw [Nat.toDigits_of_base_le hbase hge] at hcs hlen ⊢
        simp only [List.length_append, List.length_singleton] at hcs hlen
        rw [List.append_assoc]
        refine ih (m / base) hdiv (by omega) (by omega) _ ?_
        refine hstep _ _ _ cs (Nat.mod_lt _ (by omega)) (by omega) (by omega) ?_
        rw [hmod]
        exact hcs
  exact main n (Nat.le_refl n) (Nat.le_refl _) cs h

/-- Whatever stands in a written number is a digit of the base. -/
theorem mem_toDigits {base n : Nat} (hbase : 1 < base) {c : Char} (h : c ∈ Nat.toDigits base n) :
    ∃ d < base, c = Nat.digitChar d := by
  induction n using Nat.strongRecOn with
  | ind n ih =>
    rcases Nat.lt_or_ge n base with hlt | hge
    · rw [Nat.toDigits_of_lt_base hlt] at h
      exact ⟨n, hlt, List.mem_singleton.mp h⟩
    · rw [Nat.toDigits_of_base_le hbase hge] at h
      rcases List.mem_append.mp h with h | h
      · exact ih (n / base) (Nat.div_lt_self (by omega) hbase) h
      · exact ⟨n % base, Nat.mod_lt n (by omega), List.mem_singleton.mp h⟩

/-- A written number begins with a digit. -/
theorem toDigits_eq_cons (n : Nat) : ∃ d ds, Nat.toDigits 10 n = d :: ds ∧ d.isDigit = true := by
  obtain ⟨d, ds, h⟩ := List.exists_cons_of_ne_nil (Nat.toDigits_ne_nil (n := n) (b := 10))
  refine ⟨d, ds, h, ?_⟩
  refine Nat.isDigit_of_mem_toDigits (b := 10) (n := n) (by omega) (by omega) ?_
  rw [h]
  exact List.mem_cons_self

theorem isDigit_of_mem_toDigits {n : Nat} : ∀ c ∈ Nat.toDigits 10 n, c.isDigit = true :=
  fun _ hc => Nat.isDigit_of_mem_toDigits (by omega) (by omega) hc

end Gamebook.Text
