import Gamebook.Command.Play
import Gamebook.Proofs.Files.Paths
import Gamebook.Proofs.RecordWrites
import Gamebook.Proofs.Reopening

/-!
# A reading in several sittings

What a shell leaves in its directory does not depend on when the reader leaves and comes back. Of a line only the
request matters, and of a shell what is left of it when the display is set aside (`Twin`): twins make the same
of every line. Now a shell that is opened again over the directory of another is its twin, as long as the record
can be written; and if it cannot, neither of the two writes anything (`store_reopened`).

A shell is a session over files with a reader at lines of input. Two things come in that a session does not have. A
line may toggle whether targets of choices are shown, and that is forgotten when the shell is left: the later part of
an input may be read by a shell that shows them and by one that does not. It makes a difference to what is printed and
to nothing that is kept. And how a line is read depends on how many choices are on offer, since a number that is too
large is no choice; so twins must have as many labels (`Twin.length_labels`), though not the same.

Lines are cut from an input at line feeds. An input in two parts is the lines of the one and then those of the other, if
the first part ends with a whole line. At which lines the reader leaves does not depend on the choices on offer
(`Request.ofLine_eq_quit_iff`), so it can be said of lines alone that none of them ends the run.

What a run prints is not compared. It differs, for a shell greets its reader when it opens.
-/

namespace Gamebook

open Files

namespace Session

variable {σ : Type} [ProgressStore σ]

theorem persist_setShowTargets (s : Session σ) (shown : Bool) :
    (s.setShowTargets shown).persist = s.persist.setShowTargets shown := by
  unfold persist setShowTargets
  dsimp only
  by_cases hautosave : s.config.autosave = true
  · rw [if_pos hautosave, if_pos hautosave]
    cases s.snapshot.state.passageId? with
    | none => rfl
    | some passage =>
      dsimp only
      cases ProgressStore.save s.store ⟨s.adventureId, passage, s.snapshot.inventory⟩ with
      | mk saved store => cases saved <;> rfl
  · rw [if_neg hautosave, if_neg hautosave]

theorem forget_setShowTargets (s : Session σ) (shown : Bool) :
    (s.setShowTargets shown).forget = s.forget.setShowTargets shown := by
  unfold forget setShowTargets
  dsimp only
  by_cases hautosave : s.config.autosave = true
  · rw [if_pos hautosave, if_pos hautosave]
    cases ProgressStore.clear s.store s.adventureId with
    | mk cleared store => cases cleared <;> rfl
  · rw [if_neg hautosave, if_neg hautosave]

theorem perform_setShowTargets (s : Session σ) (shown : Bool) (action : Action) :
    ((s.setShowTargets shown).perform action).2 = (s.perform action).2.setShowTargets shown := by
  have hstep : (s.setShowTargets shown).snapshot.step (s.setShowTargets shown).adventure action =
      s.snapshot.step s.adventure action := rfl
  rw [perform, perform, hstep]
  cases s.snapshot.step s.adventure action with
  | error e => rfl
  | ok t => exact persist_setShowTargets { s with snapshot := t } shown

/-- What is shown has no part in an action. -/
theorem act_setShowTargets (s : Session σ) (shown : Bool) (action : Action) :
    ((s.setShowTargets shown).act action).2 = (s.act action).2.setShowTargets shown := by
  cases action with
  | start => exact s.perform_setShowTargets shown .start
  | choose index => exact s.perform_setShowTargets shown (.choose index)
  | restart =>
    unfold act
    rw [forget_setShowTargets]
    exact s.forget.perform_setShowTargets shown .restart

end Session

namespace Command.Play

/-! ## Lines of input -/

theorem toList_lines_cons (first : String) (rest : List String) :
    (lines (first :: rest)).toList = first.toList ++ '\n' :: (lines rest).toList := by
  rw [lines, List.map_cons, String.join_cons, String.toList_append, line, String.toList_append]
  simp [lines]

/-- The lines of an input that begins with some lines. -/
theorem inputLines_append {first : List String} (h : ∀ line ∈ first, '\n' ∉ line.toList) (later : String) :
    inputLines (lines first ++ later) = first ++ inputLines later := by
  have hparts : (splitAt '\n' (lines first ++ later).toList).map String.ofList =
      first ++ (splitAt '\n' later.toList).map String.ofList := by
    induction first with
    | nil => simp [lines]
    | cons line rest ih =>
      rw [String.toList_append, toList_lines_cons, List.append_assoc, List.cons_append,
        splitAt_append (h line List.mem_cons_self), ← String.toList_append, List.map_cons,
        ih fun line hline => h line (List.mem_cons_of_mem _ hline), String.ofList_toList, List.cons_append]
  have hlater : (splitAt '\n' later.toList).map String.ofList ≠ [] := by
    simpa using splitAt_ne_nil '\n' later.toList
  unfold inputLines
  dsimp only
  rw [hparts, List.getLast?_append_of_ne_nil _ hlater]
  split
  · exact List.dropLast_append_of_ne_nil hlater
  · rfl

theorem inputLines_lines {first : List String} (h : ∀ line ∈ first, '\n' ∉ line.toList) :
    inputLines (lines first) = first := by
  have happend := inputLines_append h ""
  rw [String.append_empty] at happend
  rw [happend]
  exact List.append_nil first

namespace Shell

/-- The shell after a request, unless the reader leaves. -/
def Request.next (s : Shell) : Request → Option Shell
  | .quit => none
  | .toggleTargets => some (s.setShowTargets !s.config.showTargets)
  | .act action => some (Session.act s action).2
  | _ => some s

theorem act_snd (s : Shell) (action : Action) : (act s action).2 = (Session.act s action).2 := by
  unfold act
  rcases Session.act s action with ⟨_ | ⟨⟩, next⟩ <;> rfl

/-- Of a line only the request matters to the next shell. -/
theorem step_snd (s : Shell) (input : String) :
    (step s input).2 = (Request.ofLine s.labels.length input).next s := by
  unfold step
  cases Request.ofLine s.labels.length input with
  | act action => exact congrArg some (act_snd s action)
  | _ => rfl

/-- The shell after some lines. -/
def afterLines (s : Shell) : List String → Shell
  | [] => s
  | input :: rest =>
    match (Request.ofLine s.labels.length input).next s with
    | none => s
    | some next => afterLines next rest

theorem runLines_snd (s : Shell) (inputs : List String) : (s.runLines inputs).2 = s.afterLines inputs := by
  induction inputs generalizing s with
  | nil => rfl
  | cons input rest ih =>
    have hstep := s.step_snd input
    rw [runLines, afterLines, ← hstep]
    rcases step s input with ⟨out, _ | next⟩
    · rfl
    · exact ih next

/-- At which lines the reader leaves. This does not depend on the choices on offer. -/
theorem Request.ofLine_eq_quit_iff {count : Nat} {input : String} : ofLine count input = .quit ↔
    (Text.trim input).isEmpty = false ∧ Text.lower (Text.trim input) ∈ ["quit", "exit", "q"] := by
  unfold ofLine
  dsimp only
  by_cases hempty : (Text.trim input).isEmpty = true
  · simp [hempty]
  · rw [if_neg hempty, Bool.eq_false_iff]
    by_cases hquit : Text.lower (Text.trim input) ∈ ["quit", "exit", "q"]
    · rw [if_pos hquit]
      exact ⟨fun _ => ⟨hempty, hquit⟩, fun _ => rfl⟩
    · rw [if_neg hquit]
      refine ⟨fun h => ?_, fun h => absurd h.2 hquit⟩
      repeat' split at h
      all_goals cases h

theorem Request.next_ne_none {s : Shell} {request : Request} (h : request ≠ .quit) :
    ∃ next, request.next s = some next := by
  cases request with
  | quit => exact absurd rfl h
  | _ => exact ⟨_, rfl⟩

/-- As long as the reader does not leave, later lines are taken up after earlier ones. -/
theorem afterLines_append {first : List String} (h : ∀ line ∈ first, Request.ofLine 0 line ≠ .quit) (s : Shell)
    (later : List String) : s.afterLines (first ++ later) = (s.afterLines first).afterLines later := by
  induction first generalizing s with
  | nil => rfl
  | cons input rest ih =>
    have hstays : Request.ofLine s.labels.length input ≠ .quit := fun hquit =>
      h input List.mem_cons_self (Request.ofLine_eq_quit_iff.mpr (Request.ofLine_eq_quit_iff.mp hquit))
    obtain ⟨next, hnext⟩ := Request.next_ne_none (s := s) hstays
    rw [List.cons_append, afterLines, afterLines, hnext]
    exact ih (fun line hline => h line (List.mem_cons_of_mem _ hline)) next

/-! ## Shells that differ in what they show -/

/-- The second shell is the first one with other warnings, and perhaps with the targets of choices shown or
not. -/
def Twin (s t : Shell) : Prop := ∃ shown, Session.Alike (s.setShowTargets shown) t

section Twin

variable {s t : Shell}

theorem Twin.length_labels (h : Twin s t) : t.labels.length = s.labels.length := by
  obtain ⟨shown, warnings, rfl⟩ := h
  rw [Session.labels_length, Session.labels_length]
  rfl

/-- Twins make twins of a request: either both shells are left, or there are two next ones, and they are twins. Of a
request the number of choices on offer decides whether it is a choice, and that is the same for both. -/
theorem Twin.next (h : Twin s t) (request : Shell.Request) :
    Option.Rel Twin (request.next s) (request.next t) := by
  cases request with
  | quit => exact .none
  | act action =>
    obtain ⟨shown, halike⟩ := h
    refine .some ⟨shown, ?_⟩
    rw [← Session.act_setShowTargets]
    exact (halike.act action).2
  | toggleTargets =>
    obtain ⟨shown, warnings, rfl⟩ := h
    exact .some ⟨_, warnings, rfl⟩
  | _ => exact .some h

theorem Twin.afterLines (h : Twin s t) (inputs : List String) : Twin (s.afterLines inputs) (t.afterLines inputs) := by
  induction inputs generalizing s t with
  | nil => exact h
  | cons input rest ih =>
    have hnext := h.next (Request.ofLine s.labels.length input)
    rw [Shell.afterLines, Shell.afterLines, h.length_labels]
    cases hs : (Request.ofLine s.labels.length input).next s with
    | none =>
      rw [hs] at hnext
      cases ht : (Request.ofLine s.labels.length input).next t with
      | none => exact h
      | some next =>
        rw [ht] at hnext
        cases hnext
    | some next =>
      rw [hs] at hnext
      cases ht : (Request.ofLine s.labels.length input).next t with
      | none =>
        rw [ht] at hnext
        cases hnext
      | some next' =>
        rw [ht] at hnext
        cases hnext with
        | some htwin => exact ih htwin

theorem Twin.store (h : Twin s t) : t.store = s.store := by
  obtain ⟨shown, warnings, rfl⟩ := h
  rfl

end Twin

/-! ## Leaving and coming back -/

section Reopened

open FileStore (Rewritten)

variable {a : Adventure} {id : String} {s : Shell}

/-- A request leaves a shell in step with its store, and changes no more than the file of the adventure. -/
theorem inStep_next (ha : a.isPlayable = true) (h : Session.InStep a id s) {request : Request} {next : Shell}
    (hnext : request.next s = some next) : Session.InStep a id next ∧ Rewritten id s.store next.store := by
  cases request with
  | quit => cases hnext
  | act action =>
    cases hnext
    exact ⟨h.act ha action, (Session.rewritten_act h.autosaving action).2⟩
  | toggleTargets =>
    cases hnext
    obtain ⟨⟨hadventure, hid, hautosave⟩, hkept⟩ := h
    exact ⟨⟨⟨hadventure, hid, hautosave⟩, hkept⟩, .same⟩
  | _ =>
    cases hnext
    exact ⟨h, .same⟩

theorem inStep_afterLines (ha : a.isPlayable = true) (h : Session.InStep a id s) (inputs : List String) :
    Session.InStep a id (s.afterLines inputs) ∧ Rewritten id s.store (s.afterLines inputs).store := by
  induction inputs generalizing s with
  | nil => exact ⟨h, .same⟩
  | cons input rest ih =>
    rw [afterLines]
    cases hnext : (Request.ofLine s.labels.length input).next s with
    | none => exact ⟨h, .same⟩
    | some next =>
      obtain ⟨hstep, hrewritten⟩ := inStep_next ha h hnext
      obtain ⟨hafter, hlater⟩ := ih hstep
      exact ⟨hafter, hrewritten.trans hlater⟩

/-- **A shell that is opened over the store of another makes of any lines the store that the other makes.** If the
record can be written, the two are twins, for the new shell opens where the old one is. If it cannot, they may be at
different places, and it does not matter: neither changes the store. -/
theorem store_reopened (ha : a.isPlayable = true) (h : Session.InStep a id s) {config : SessionConfig}
    (hautosave : config.autosave = true) {t : Shell} (hopen : Session.openOn a id s.store config = .ok t)
    (inputs : List String) : (t.afterLines inputs).store = (s.afterLines inputs).store := by
  obtain ⟨opened, hopened, hstep, hstore, hsnapshot, hconfig⟩ :=
    Session.inStep_openOn ha id s.store hautosave
  obtain rfl : opened = t := Except.ok.inj (hopened.symm.trans hopen)
  by_cases hwritable : s.store.Writable id
  · have htwin : Twin s opened := by
      obtain ⟨⟨rfl, rfl, hsaves⟩, hkept⟩ := h
      rw [hkept hwritable] at hsnapshot
      refine ⟨config.showTargets, opened.warnings, ?_⟩
      obtain ⟨⟨hadventure, hid, -⟩, -⟩ := hstep
      obtain ⟨adventure, adventureId, store, ⟨showTargets, autosave⟩, snapshot, warnings⟩ := opened
      subst hadventure hid hstore hsnapshot hconfig
      obtain rfl : autosave = s.config.autosave := hautosave.trans hsaves.symm
      rfl
    exact (htwin.afterLines inputs).store
  · -- Neither shell can write, so the store is left as it is.
    have hleft := (inStep_afterLines ha h inputs).2.eq_of_not_writable hwritable
    rw [hleft, ← hstore]
    refine (inStep_afterLines ha hstep inputs).2.eq_of_not_writable ?_
    rw [hstore]
    exact hwritable

end Reopened

end Shell

end Command.Play

end Gamebook
