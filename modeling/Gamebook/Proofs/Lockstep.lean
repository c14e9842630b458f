/-!
# Machines that are asked one call after the other

A machine is given by a function from a state and a call to an answer and the next state. The player of the
browser, the session of the terminal and the stores of records are all of this form. What comes of many calls
is their answers (`answersOf`) and the state at the end (`stateAfter`).

Two machines that answer each call alike, as long as their states are related, and keep them related, cannot
be told apart by any calls (`lockstep`). The induction on the calls is done here, so a use of it has two things to
say: a relation between the states, and what one call does to related states. The relation carries the whole
argument. It has to be weak enough for the states the two machines begin in, and strong enough that the next call
is answered alike.

The machines may differ in their states, and take the same calls. Nothing is said of machines whose answers are
alike only up to something, such as the order in which a text states its items; those are followed by relations
of their own.
-/

namespace Gamebook

variable {σ τ ι α : Type}

/-- The answers of a machine to some calls. -/
def answersOf (step : σ → ι → α × σ) (s : σ) : List ι → List α
  | [] => []
  | call :: calls => (step s call).1 :: answersOf step (step s call).2 calls

/-- The state of a machine after some calls. -/
def stateAfter (step : σ → ι → α × σ) (s : σ) (calls : List ι) : σ :=
  calls.foldl (fun s call => (step s call).2) s

theorem stateAfter_append (step : σ → ι → α × σ) (s : σ) (calls later : List ι) :
    stateAfter step s (calls ++ later) = stateAfter step (stateAfter step s calls) later :=
  List.foldl_append

theorem stateAfter_concat (step : σ → ι → α × σ) (s : σ) (calls : List ι) (call : ι) :
    stateAfter step s (calls ++ [call]) = (step (stateAfter step s calls) call).2 := by
  simp [stateAfter, List.foldl_append]

theorem answersOf_concat (step : σ → ι → α × σ) (s : σ) (calls : List ι) (call : ι) :
    answersOf step s (calls ++ [call]) =
      answersOf step s calls ++ [(step (stateAfter step s calls) call).1] := by
  induction calls generalizing s with
  | nil => rfl
  | cons first calls ih =>
    show (step s first).1 :: answersOf step (step s first).2 (calls ++ [call]) = _
    rw [ih]
    rfl

/-- **Machines in step** answer all calls alike, and stay in step. By induction on the calls: the first answer
is alike by `hcall`, and the states behind it are related, so the rest of the calls are those of two machines in
step again. -/
theorem lockstep {step : σ → ι → α × σ} {step' : τ → ι → α × τ} {related : σ → τ → Prop}
    (hcall : ∀ s t call, related s t → (step s call).1 = (step' t call).1 ∧
      related (step s call).2 (step' t call).2) {s : σ} {t : τ} (h : related s t) (calls : List ι) :
    answersOf step s calls = answersOf step' t calls ∧
      related (stateAfter step s calls) (stateAfter step' t calls) := by
  induction calls generalizing s t with
  | nil => exact ⟨rfl, h⟩
  | cons call calls ih =>
    obtain ⟨hanswer, hafter⟩ := hcall s t call h
    obtain ⟨hanswers, hrelated⟩ := ih hafter
    refine ⟨?_, hrelated⟩
    rw [answersOf, answersOf, hanswer, hanswers]

end Gamebook
