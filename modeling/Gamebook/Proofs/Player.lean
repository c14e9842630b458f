import Gamebook.Proofs.Format
import Gamebook.Proofs.Lockstep
import Gamebook.Proofs.Screen
import Gamebook.Proofs.Transactions

/-!
# A player plays as a session does

A player in a browser has no store and shows what it has in JSON; a session has a store and shows nothing.
They are two programs around one transition function, and each has its own way to say what state it is in, what is on
screen, what is on offer and what is to be saved. Given the same calls they answer alike, the page of the player reads
from it the screen of the session, and the record that the page is handed to keep is the one that the store of the
session holds.

The relation of the two between calls is `Agrees`: they have the same snapshot and show targets or not, and the store of
the session holds the record of that snapshot. The last part is what makes the session's store and the page's record the
same thing. It holds at the introduction, where there is no record and the store is empty, and a call of both keeps it
(`Agrees.call`), since a session that is allowed an action saves the new position, and one that is not leaves its store
alone. A restart clears the record before it is made; on a sound adventure it cannot fail in between
(`act_of_error`).

What the two show is compared part by part where they agree (`Agrees.screen_eq`). Nothing is shared between them for
that but the laws of play: the kind of state, the paragraphs, the labels and the ending are found out by each from its
own snapshot. The player's side goes through JSON, which is read back as the page would read it.
-/

namespace Gamebook

/-! ## The calls -/

/-- What is asked of a player or a session while an adventure is played. -/
inductive PlayCall
  | act (action : Action)
  | showTargets (shown : Bool)
deriving DecidableEq, Repr

/-- What a player answers, with the wording of the failure if the call fails, and the player after the
call. -/
def Player.call (p : Player) : PlayCall → Except String Unit × Player
  | .act action =>
    match p.perform action with
    | .ok next => (.ok (), next)
    | .error e => (.error e.message, p)
  | .showTargets shown => (.ok (), p.setShowTargets shown)

namespace Session

variable {σ : Type}

/-- What a session answers, with the wording of the failure if the call fails, and the session after the
call. -/
def call [ProgressStore σ] (s : Session σ) : PlayCall → Except String Unit × Session σ
  | .act action => ((s.act action).1.mapError PlayError.message, (s.act action).2)
  | .showTargets shown => (.ok (), s.setShowTargets shown)

/-- What the reader of a session sees. A session has no words for the kinds of states; they are those that a page
can tell the states apart by. -/
def screen (s : Session σ) : Screen where
  state :=
    match s.snapshot.state with
    | .introduction => "introduction"
    | .inPassage _ => "passage"
    | .ended _ _ => "ended"
  passageId := s.snapshot.state.passageId?
  paragraphs :=
    match s.passage? with
    | some passage => passage.paragraphs
    | none => s.adventure.introduction
  choices := s.labels
  endingType :=
    match s.snapshot.state with
    | .ended _ endingType => some endingType
    | _ => none
  inventory := s.snapshot.inventory.itemNames s.adventure
  inventorySummary := s.inventorySummary

/-! ## A session that saves in memory -/

variable {s : Session MemoryStore} {action : Action} {t : Snapshot}

/-- A transition that is made is in the store afterwards. -/
theorem perform_of_step (hautosave : s.config.autosave = true)
    (hstep : s.snapshot.step s.adventure action = .ok t) :
    ∃ store warnings,
      s.perform action = (.ok (), { s with snapshot := t, store := store, warnings := warnings }) ∧
        recordOf store s.adventureId = .ok (t.progress? s.adventureId) := by
  rcases s.perform_cases action with ⟨e, herror, -⟩ | ⟨t', passage, hok, hpassage, hperform⟩
  · rw [hstep] at herror
    cases herror
  · obtain rfl : t = t' := Except.ok.inj (hstep.symm.trans hok)
    rw [if_pos hautosave] at hperform
    refine ⟨_, _, hperform, ?_⟩
    rw [Snapshot.progress?, hpassage]
    exact Transactional.recordOf_send s.store (.save ⟨s.adventureId, passage, t.inventory⟩)

/-- An action that is allowed is made by a session, whose store holds the new position afterwards. -/
theorem act_of_step (hautosave : s.config.autosave = true)
    (hstep : s.snapshot.step s.adventure action = .ok t) :
    ∃ store warnings,
      s.act action = (.ok (), { s with snapshot := t, store := store, warnings := warnings }) ∧
        recordOf store s.adventureId = .ok (t.progress? s.adventureId) := by
  cases action with
  | start => exact perform_of_step hautosave hstep
  | choose index => exact perform_of_step hautosave hstep
  | restart =>
    -- To forget the record leaves the snapshot alone, so the restart is made from the same one.
    unfold act
    rw [forget_eq, if_pos hautosave]
    exact @perform_of_step (s.tell (.clear s.adventureId)) .restart t hautosave hstep

/-- An action that is not allowed leaves the session as it is, and a restart is always allowed. -/
theorem act_of_error {e : PlayError} (ha : s.adventure.Sound)
    (hstep : s.snapshot.step s.adventure action = .error e) : s.act action = (.error e, s) := by
  have hperform : s.perform action = (.error e, s) := by
    unfold perform
    rw [hstep]
  cases action with
  | start => exact hperform
  | choose index => exact hperform
  | restart =>
    obtain ⟨t, hrestart⟩ := Snapshot.exists_restart ha s.snapshot
    rw [hrestart] at hstep
    cases hstep

end Session

/-! ## Agreement -/

/-- What a player and a session of one adventure, under one id, have in common between two calls. -/
structure Agrees (a : Adventure) (id : String) (p : Player) (s : Session MemoryStore) : Prop where
  playerAdventure : p.adventure = a
  sessionAdventure : s.adventure = a
  playerId : p.adventureId = id
  sessionId : s.adventureId = id
  snapshot : p.snapshot = s.snapshot
  showTargets : p.showTargets = s.config.showTargets
  autosave : s.config.autosave = true
  record : recordOf s.store id = .ok (s.snapshot.progress? id)

namespace Agrees

variable {a : Adventure} {id : String} {p : Player} {s : Session MemoryStore}

theorem act (ha : a.Sound) (h : Agrees a id p s) (action : Action) :
    (p.call (.act action)).1 = (s.call (.act action)).1 ∧
      Agrees a id (p.call (.act action)).2 (s.call (.act action)).2 := by
  have hsound : s.adventure.Sound := by
    rw [h.sessionAdventure]
    exact ha
  rw [Player.call, Session.call, Player.perform, h.playerAdventure, h.snapshot, ← h.sessionAdventure]
  cases hstep : s.snapshot.step s.adventure action with
  | error e =>
    rw [Session.act_of_error hsound hstep, h.sessionAdventure]
    exact ⟨rfl, h⟩
  | ok t =>
    obtain ⟨store, warnings, hact, hrecord⟩ := Session.act_of_step h.autosave hstep
    rw [h.sessionId] at hrecord
    rw [hact, h.sessionAdventure]
    exact ⟨rfl, rfl, rfl, h.playerId, h.sessionId, rfl, h.showTargets, h.autosave, hrecord⟩

/-- A call is answered alike, and leaves the two in agreement. This is the step of the simulation; the wording of
failures is compared as well, not only that there is one. -/
theorem call (ha : a.Sound) (h : Agrees a id p s) (call : PlayCall) :
    (p.call call).1 = (s.call call).1 ∧ Agrees a id (p.call call).2 (s.call call).2 := by
  cases call with
  | act action => exact h.act ha action
  | showTargets shown =>
    exact ⟨rfl, h.playerAdventure, h.sessionAdventure, h.playerId, h.sessionId, h.snapshot, rfl,
      h.autosave, h.record⟩

/-- So are many calls. -/
theorem calls (ha : a.Sound) (h : Agrees a id p s) (calls : List PlayCall) :
    answersOf Player.call p calls = answersOf Session.call s calls ∧
      Agrees a id (stateAfter Player.call p calls) (stateAfter Session.call s calls) :=
  lockstep (fun _ _ call h => h.call ha call) h calls

/-- The two show the same. Each finds out by itself what state it is in, what is on screen and what is on offer
there, so this is a matter of comparing the two, part by part. -/
theorem screen_eq (h : Agrees a id p s) : p.screen = s.screen := by
  have hadventure : p.adventure = s.adventure := h.playerAdventure.trans h.sessionAdventure.symm
  have hstate : Player.stateWord p.snapshot.state = s.screen.state := by
    rw [h.snapshot]
    cases hstate : s.snapshot.state <;> simp only [Player.stateWord, Session.screen, hstate]
  have hparagraphs : p.paragraphs = s.screen.paragraphs := by
    cases hpassage : s.snapshot.passage? s.adventure <;>
      simp only [Player.paragraphs, hadventure, h.snapshot, Session.screen, Session.passage?, hpassage]
  have hlabels : p.labels = s.screen.choices := by
    rw [Player.labels_eq, hadventure, h.snapshot, h.showTargets]
    exact s.labels_eq.symm
  have hending : p.endingType? = s.screen.endingType := by
    cases hstate : s.snapshot.state <;>
      simp only [Player.endingType?, h.snapshot, Session.screen, hstate]
  rw [Player.screen, hstate, hparagraphs, hlabels, hending, hadventure, h.snapshot]
  rfl

end Agrees

/-- A player and a session that begin on an adventure, the session over an empty store, agree. -/
theorem agrees_begin (a : Adventure) (id : String) :
    Agrees a id ⟨a, id, .initial, false⟩ ⟨a, id, .empty, {}, .initial, []⟩ where
  playerAdventure := rfl
  sessionAdventure := rfl
  playerId := rfl
  sessionId := rfl
  snapshot := rfl
  showTargets := rfl
  autosave := rfl
  record := rfl

theorem importText_eq_ok {text formatName : String} {format : Format} {a : Adventure}
    (hformat : Format.ofName formatName = .ok format) (hparse : parse format text = .ok a) :
    importText text formatName = .ok a := by
  rw [importText, hformat]
  simp only [bind, Except.bind, hparse]
  rfl

/-- **The player and the session agree.** A player of a text that holds a playable adventure, and a session
on the adventure over an empty store in memory, can both be opened. Whatever calls are then made of both, they
succeed or fail alike, with the same wording; the view of the player shows the screen of the session: the kind of
state, the passage, the labels, the ending and what is carried; and the saved position of the player is the record
that the store of the session holds, null where it holds none, in whatever order the items of it are told. -/
theorem player_agrees_with_session {text formatName : String} {a : Adventure}
    (himport : importText text formatName = .ok a) (hplayable : a.isPlayable = true) (id : String) :
    ∃ p s, Player.ofText id text formatName = .ok p ∧
      Session.openOn a id MemoryStore.empty {} = .ok s ∧
      ∀ calls : List PlayCall,
        answersOf Player.call p calls = answersOf Session.call s calls ∧
        Screen.parse (stateAfter Player.call p calls).view = .ok (stateAfter Session.call s calls).screen ∧
        ∃ record, Progress.parseOrNull (stateAfter Player.call p calls).progress = .ok record ∧
          (∀ told, (stateAfter Player.call p calls).Tells told → Progress.parseOrNull told = .ok record) ∧
          recordOf (stateAfter Session.call s calls).store id = .ok record := by
  have ha : a.Sound := Adventure.sound_of_isPlayable hplayable
  refine ⟨⟨a, id, .initial, false⟩, ⟨a, id, .empty, {}, .initial, []⟩, ?_, ?_, fun calls => ?_⟩
  · rw [Player.ofText, himport]
    exact if_pos hplayable
  · exact if_pos hplayable
  · obtain ⟨hanswers, hagrees⟩ := (agrees_begin a id).calls ha calls
    refine ⟨hanswers, ?_, _, Player.parse_progress _, fun told htold => htold.parseOrNull, ?_⟩
    · rw [Player.parse_view, hagrees.screen_eq]
    · rw [hagrees.record, hagrees.playerId, hagrees.snapshot]

/-- The cellar in a browser, from the introduction over a choice that is asked for too early, and one whose target is
shown, to the ending. What the page reads is what the session has at the same place. -/
theorem player_of_cellar :
    ∃ p, Player.ofText "cellar" (serialize .json .cellar) "json" = .ok p ∧
      Screen.parse p.view =
        .ok ⟨"introduction", none, ["A door stands open."], [], none, [], "No items yet"⟩ ∧
      answersOf Player.call p [.act (.choose 0), .showTargets true, .act .start] =
        [.error "invalid transition: play has not started yet", .ok (), .ok ()] ∧
      Screen.parse (stateAfter Player.call p [.act (.choose 0), .showTargets true, .act .start]).view =
        .ok ⟨"passage", some 1, ["You stand at the top of the stairs."], ["Go down [-> 2]"], none, [],
          "No items yet"⟩ ∧
      Screen.parse (stateAfter Player.call p [.act .start, .act (.choose 0)]).view =
        .ok ⟨"ended", some 2, ["It is dark."], [], some "darkness", ["Lamp"], "Lamp"⟩ ∧
      Progress.parseOrNull (stateAfter Player.call p [.act .start, .act (.choose 0)]).progress =
        .ok (some ⟨"cellar", 2, .ofList ["lamp"]⟩) := by
  have hformat : Format.ofName "json" = .ok .json := rfl
  have hparse : parse .json (serialize .json .cellar) = .ok .cellar := by
    rw [parse_serialize]
    rfl
  obtain ⟨p, s, hplayer, hsession, hagree⟩ :=
    player_agrees_with_session (importText_eq_ok hformat hparse) Adventure.cellar_isPlayable "cellar"
  obtain rfl : ⟨.cellar, "cellar", .empty, {}, .initial, []⟩ = s := Except.ok.inj hsession
  refine ⟨p, hplayer, ?_, (hagree _).1.trans rfl, ?_, ?_, ?_⟩
  · exact (hagree []).2.1.trans (congrArg Except.ok (by decide))
  · exact (hagree _).2.1.trans (congrArg Except.ok (by decide))
  · exact (hagree _).2.1.trans (congrArg Except.ok (by decide))
  · obtain ⟨record, hprogress, -, hstored⟩ := (hagree [.act .start, .act (.choose 0)]).2.2
    have hrecord : record = some ⟨"cellar", 2, .ofList ["lamp"]⟩ := Except.ok.inj (hstored.symm.trans rfl)
    rw [hprogress, hrecord]

end Gamebook
