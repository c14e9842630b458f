import Gamebook.Proofs.Notation
import Gamebook.Proofs.Player
import Gamebook.Proofs.Reachability

/-!
# One player goes on where another one was

A page keeps what `progress` answers and hands it to `resume` later, in another player. That the other player
then stands where the first one did is a law of play: the record names a passage and what is carried, and from
those the whole snapshot follows, at a passage where play has arrived (`Snapshot.Placed.resume_progress?`). Whether the
passage is an ending need not be in the record, since it is found out again.
So players of one adventure under one id are one player from there on, apart from whether targets are shown, which is
not recorded.

Between any two calls a player is at a place of play of its adventure; `Plays` says so, and each call keeps it
(`Plays.ask`). It is known from there which calls are allowed (`Plays.exists_reply_iff`). A call that is not
changes nothing.

What a player tells of its position is not determined by what it has: the items of an inventory come in the order of a
hash table, and two players that carry the same may tell it differently. So a player is not a function from calls to
texts. `Answers` leaves open which text of its position it tells, `Converses` follows a player through calls with that
left open at each, and `SayAlike` compares answers: positions as records, and everything else as it stands. The state of
a player does not depend on what it has told, so two conversations of one player say alike (`Converses.sayAlike`), and
this is what two players at one snapshot come to.

The position may be handed over in any of its texts, too. It is enough that each is read as the same record.
-/

namespace Gamebook

/-! ## The calls -/

/-- What a page asks of a player. -/
inductive PageCall
  | act (action : Action)
  | showTargets (shown : Bool)
  | resume (text : String)
  | view
  | progress
  | title
  | exportAs (formatName : String)
deriving DecidableEq, Repr

namespace Player

/-- The answer of a call that moves the player, and the player after it: the view from the new position, or
the failure, which leaves the player where it was. -/
def moved (p : Player) : Except PlayerError Player → Except PlayerError (Option String) × Player
  | .ok next => (.ok (some next.view), next)
  | .error e => (.error e, p)

/-- The answer of a player, and the player afterwards. To show targets or not is answered by nothing. -/
def ask (p : Player) : PageCall → Except PlayerError (Option String) × Player
  | .act action => p.moved (p.perform action)
  | .showTargets shown => (.ok none, p.setShowTargets shown)
  | .resume text => p.moved (p.resume text)
  | .view => (.ok (some p.view), p)
  | .progress => (.ok (some p.progress), p)
  | .title => (.ok (some p.adventure.title), p)
  | .exportAs formatName => ((p.exportAs formatName).map some, p)

/-- The calls that are allowed: to start at the introduction, to make a choice that the view offers, to resume
from a record of a passage that the adventure has, and to export in a notation that has the name. All others
are allowed everywhere. -/
def Allows (p : Player) : PageCall → Prop
  | .act .start => p.snapshot.state = .introduction
  | .act (.choose index) => index < p.labels.length
  | .resume text =>
    ∃ progress, Progress.parse text = .ok progress ∧ progress.passage ∈ p.adventure.passageIds
  | .exportAs formatName => ∃ format, Format.ofName formatName = .ok format
  | _ => True

/-- What a player may answer to a call. It tells its position in any of the texts of the record; every other answer
is settled. -/
inductive Answers (p : Player) : PageCall → Except PlayerError (Option String) → Prop
  | told {text : String} : p.Tells text → Answers p .progress (.ok (some text))
  | settled {call : PageCall} : call ≠ .progress → Answers p call (p.ask call).1

/-- What a player may answer to some calls, made one after the other. What it answers does not change it, so the
player after a call is the same whichever text it told. -/
inductive Converses : Player → List PageCall → List (Except PlayerError (Option String)) → Prop
  | nil {p : Player} : Converses p [] []
  | cons {p : Player} {call : PageCall} {calls : List PageCall} {answer : Except PlayerError (Option String)}
      {answers : List (Except PlayerError (Option String))} :
      p.Answers call answer → Converses (p.ask call).2 calls answers →
      Converses p (call :: calls) (answer :: answers)

/-- Answers to the same calls that say the same. Saved positions are compared as they are read, and all other
answers as they stand. -/
inductive SayAlike : List PageCall → List (Except PlayerError (Option String)) →
    List (Except PlayerError (Option String)) → Prop
  | nil : SayAlike [] [] []
  | position {text text' : String} {record : Option Progress} {calls : List PageCall}
      {answers answers' : List (Except PlayerError (Option String))} :
      Progress.parseOrNull text = .ok record → Progress.parseOrNull text' = .ok record →
      SayAlike calls answers answers' →
      SayAlike (.progress :: calls) (.ok (some text) :: answers) (.ok (some text') :: answers')
  | same {call : PageCall} {answer : Except PlayerError (Option String)} {calls : List PageCall}
      {answers answers' : List (Except PlayerError (Option String))} :
      call ≠ .progress → SayAlike calls answers answers' →
      SayAlike (call :: calls) (answer :: answers) (answer :: answers')

/-- A player that plays an adventure under an id is at one of the places of play. -/
structure Plays (a : Adventure) (id : String) (p : Player) : Prop where
  adventure : p.adventure = a
  adventureId : p.adventureId = id
  placed : Snapshot.Placed a p.snapshot

end Player

/-! ## Records -/

/-- Where play has arrived at a passage, the record of it leads back there. That play is at a place of play is
needed: of a snapshot at a passage that is really an ending the record leads to the ending. -/
theorem Snapshot.Placed.resume_progress? {a : Adventure} {s : Snapshot} (h : Placed a s)
    (hstarted : s.state ≠ .introduction) (id : String) :
    ∃ progress, s.progress? id = some progress ∧ Snapshot.resume a progress = .ok s := by
  cases h with
  | introduction inventory => exact absurd rfl hstarted
  | @arrived passage p inventory hp =>
    refine ⟨⟨id, p.id, inventory⟩, ?_, ?_⟩
    · rw [Snapshot.progress?, PlayState.passageId?_arrived]
      rfl
    · -- The record names the passage by its own id, under which it is found again.
      exact Snapshot.resume_eq_ok_iff.mpr ⟨p, Adventure.passage?_id hp, rfl⟩

theorem Snapshot.exists_resume_iff {a : Adventure} {progress : Progress} :
    (∃ s, Snapshot.resume a progress = .ok s) ↔ progress.passage ∈ a.passageIds := by
  constructor
  · rintro ⟨s, hs⟩
    obtain ⟨p, hp, -⟩ := Snapshot.resume_eq_ok_iff.mp hs
    rw [← Adventure.id_of_passage? hp]
    exact List.mem_map.mpr ⟨p, Adventure.mem_of_passage? hp, rfl⟩
  · intro hmem
    obtain ⟨p, hp⟩ := Adventure.exists_passage?_of_hasPassage (Adventure.mem_passageIds_iff.mp hmem)
    exact ⟨_, Snapshot.resume_eq_ok_iff.mpr ⟨p, hp, rfl⟩⟩

/-- Null is no record. -/
theorem Progress.parse_null : ∃ refusal, Progress.parse "null" = .error refusal := ⟨_, rfl⟩

namespace Player

variable {a : Adventure} {id : String} {p q : Player}

/-! ## One call -/

/-- A call that fails leaves the player as it was. -/
theorem ask_of_error {call : PageCall} {e : PlayerError} (h : (p.ask call).1 = .error e) :
    (p.ask call).2 = p := by
  have hmoved : ∀ outcome, (p.moved outcome).1 = .error e → (p.moved outcome).2 = p := by
    intro outcome houtcome
    cases outcome with
    | ok next => cases houtcome
    | error e' => rfl
  cases call with
  | act action => exact hmoved _ h
  | resume text => exact hmoved _ h
  | showTargets shown => cases h
  | view => rfl
  | progress => rfl
  | title => rfl
  | exportAs formatName => rfl

theorem exists_reply_moved_iff {outcome : Except PlayerError Player} :
    (∃ reply, (p.moved outcome).1 = .ok reply) ↔ ∃ next, outcome = .ok next := by
  cases outcome with
  | ok next => exact ⟨fun _ => ⟨next, rfl⟩, fun _ => ⟨_, rfl⟩⟩
  | error e =>
    constructor
    · rintro ⟨reply, hreply⟩
      cases hreply
    · rintro ⟨next, hnext⟩
      cases hnext

/-- An action moves a player where it leads its snapshot. -/
theorem perform_eq_ok_iff {action : Action} :
    p.perform action = .ok q ↔
      ∃ s, p.snapshot.step p.adventure action = .ok s ∧ q = { p with snapshot := s } := by
  constructor
  · intro h
    unfold perform at h
    split at h
    · rename_i s hstep
      exact ⟨s, hstep, (Except.ok.inj h).symm⟩
    · cases h
  · rintro ⟨s, hstep, rfl⟩
    unfold perform
    simp only [hstep]

/-- A text resumes a player if it holds a record that resumes its snapshot. -/
theorem resume_eq_ok_iff {text : String} :
    p.resume text = .ok q ↔
      ∃ progress s, Progress.parse text = .ok progress ∧
        Snapshot.resume p.adventure progress = .ok s ∧ q = { p with snapshot := s } := by
  constructor
  · intro h
    unfold resume at h
    split at h
    · cases h
    · rename_i progress hparse
      split at h
      · cases h
      · rename_i s hs
        exact ⟨progress, s, hparse, hs, (Except.ok.inj h).symm⟩
  · rintro ⟨progress, s, hparse, hs, rfl⟩
    unfold resume
    simp only [hparse, hs]

/-- A text resumes a player if it holds a record of a passage of its adventure, whosever record it is. -/
theorem exists_resume_iff {text : String} :
    (∃ q, p.resume text = .ok q) ↔
      ∃ progress, Progress.parse text = .ok progress ∧ progress.passage ∈ p.adventure.passageIds := by
  constructor
  · rintro ⟨q, hq⟩
    obtain ⟨progress, s, hparse, hs, -⟩ := resume_eq_ok_iff.mp hq
    exact ⟨progress, hparse, Snapshot.exists_resume_iff.mp ⟨s, hs⟩⟩
  · rintro ⟨progress, hparse, hmem⟩
    obtain ⟨s, hs⟩ := Snapshot.exists_resume_iff.mpr hmem
    exact ⟨_, resume_eq_ok_iff.mpr ⟨progress, s, hparse, hs, rfl⟩⟩

/-- Before play has started there is nothing to resume from. -/
theorem resume_tells_introduction (q : Player) {text : String} (hstate : p.snapshot.state = .introduction)
    (htells : p.Tells text) : ∃ refusal, q.resume text = .error (.noProgress refusal) := by
  cases htells with
  | nothing _ =>
    obtain ⟨refusal, hparse⟩ := Progress.parse_null
    refine ⟨refusal, ?_⟩
    unfold Player.resume
    rw [hparse]
  | record hpassage _ =>
    rw [hstate] at hpassage
    cases hpassage

/-! ## Conversations -/

/-- The answers of the player are answers that it may give. -/
theorem answers_ask (p : Player) (call : PageCall) : p.Answers call (p.ask call).1 := by
  by_cases hcall : call = .progress
  · rw [hcall]
    exact .told p.tells_progress
  · exact .settled hcall

theorem converses_answersOf (p : Player) (calls : List PageCall) : p.Converses calls (answersOf ask p calls) := by
  induction calls generalizing p with
  | nil => exact .nil
  | cons call calls ih => exact .cons (p.answers_ask call) (ih (p.ask call).2)

/-- A player that is asked the same twice over says the same, though the texts of its position may differ. By
induction on the one conversation, with a look at the other call by call: both go on from the same player. -/
theorem Converses.sayAlike {calls : List PageCall} {answers answers' : List (Except PlayerError (Option String))}
    (h : p.Converses calls answers) (h' : p.Converses calls answers') : SayAlike calls answers answers' := by
  induction h generalizing answers' with
  | nil =>
    cases h'
    exact .nil
  | cons hanswer _ ih =>
    cases h' with
    | cons hanswer' hrest' =>
      have hrest := ih hrest'
      cases hanswer with
      | told htells =>
        cases hanswer' with
        | told htells' => exact .position htells.parseOrNull htells'.parseOrNull hrest
        | settled hcall => exact absurd rfl hcall
      | settled hcall =>
        cases hanswer' with
        | told _ => exact absurd rfl hcall
        | settled _ => exact .same hcall hrest

namespace Plays

theorem act (h : Plays a id p) {action : Action} (hperform : p.perform action = .ok q) : Plays a id q := by
  obtain ⟨s, hstep, rfl⟩ := perform_eq_ok_iff.mp hperform
  exact ⟨h.adventure, h.adventureId, by
    rw [← h.adventure]
    exact (Snapshot.step_eq_ok_iff.mp hstep).placed⟩

theorem resume (h : Plays a id p) {text : String} (hresume : p.resume text = .ok q) : Plays a id q := by
  obtain ⟨progress, s, -, hs, rfl⟩ := resume_eq_ok_iff.mp hresume
  exact ⟨h.adventure, h.adventureId, by
    rw [← h.adventure]
    exact Snapshot.placed_of_resume hs⟩

theorem moved (h : Plays a id p) {outcome : Except PlayerError Player}
    (houtcome : ∀ q, outcome = .ok q → Plays a id q) : Plays a id (p.moved outcome).2 := by
  cases outcome with
  | ok next => exact houtcome next rfl
  | error e => exact h

/-- A call leads from one place of play to another. -/
theorem ask (h : Plays a id p) (call : PageCall) : Plays a id (p.ask call).2 := by
  cases call with
  | act action => exact h.moved fun q hq => h.act hq
  | resume text => exact h.moved fun q hq => h.resume hq
  | showTargets shown => exact ⟨h.adventure, h.adventureId, h.placed⟩
  | view => exact h
  | progress => exact h
  | title => exact h
  | exportAs formatName => exact h

/-- So do many calls. -/
theorem calls (h : Plays a id p) (calls : List PageCall) : Plays a id (stateAfter Player.ask p calls) := by
  induction calls generalizing p with
  | nil => exact h
  | cons call calls ih => exact ih (h.ask call)

/-- **A call is answered if and only if it is allowed**, in every state that a player can be in. What is allowed is
said by the view and by the record, and not by the transition function. -/
theorem exists_reply_iff (ha : a.Sound) (h : Plays a id p) (call : PageCall) :
    (∃ reply, (p.ask call).1 = .ok reply) ↔ p.Allows call := by
  -- Which actions are allowed is a law of play, and the player adds nothing to it.
  have hstep : ∀ action, (∃ reply, (p.ask (.act action)).1 = .ok reply) ↔
      ∃ s, p.snapshot.step a action = .ok s := by
    intro action
    rw [Player.ask, exists_reply_moved_iff]
    simp only [perform_eq_ok_iff, h.adventure]
    constructor
    · rintro ⟨q, s, hs, -⟩
      exact ⟨s, hs⟩
    · rintro ⟨s, hs⟩
      exact ⟨_, s, hs, rfl⟩
  cases call with
  | act action =>
    rw [hstep]
    cases action with
    | start => exact Snapshot.exists_start_iff ha
    | choose index =>
      rw [h.placed.exists_choose_iff ha, Allows, labels_eq, List.length_map, h.adventure]
    | restart => exact iff_of_true (Snapshot.exists_restart ha p.snapshot) trivial
  | resume text =>
    rw [Player.ask, exists_reply_moved_iff]
    exact exists_resume_iff
  | showTargets shown => exact iff_of_true ⟨_, rfl⟩ trivial
  | view => exact iff_of_true ⟨_, rfl⟩ trivial
  | progress => exact iff_of_true ⟨_, rfl⟩ trivial
  | title => exact iff_of_true ⟨_, rfl⟩ trivial
  | exportAs formatName =>
    rw [Player.ask, Allows, exportAs]
    cases Format.ofName formatName with
    | ok format => exact iff_of_true ⟨_, rfl⟩ ⟨format, rfl⟩
    | error e =>
      constructor
      · rintro ⟨reply, hreply⟩
        cases hreply
      · rintro ⟨format, hformat⟩
        cases hformat

/-! ## Handing over -/

/-- The saved position of a player leads another one to the same snapshot, in whichever text it is told. -/
theorem resume_tells (hp : Plays a id p) (hq : Plays a id q) {text : String}
    (hstarted : p.snapshot.state ≠ .introduction) (htells : p.Tells text) :
    q.resume text = .ok { q with snapshot := p.snapshot } := by
  obtain ⟨progress, hprogress, hresume⟩ := hp.placed.resume_progress? hstarted id
  rw [← hq.adventure] at hresume
  refine resume_eq_ok_iff.mpr ⟨progress, p.snapshot, ?_, hresume, rfl⟩
  obtain ⟨passage, hpassage, rfl⟩ := Option.map_eq_some_iff.mp hprogress
  cases htells with
  | nothing hnone =>
    rw [hpassage] at hnone
    cases hnone
  | record hpassage' htold =>
    rw [hp.adventureId, Option.some.inj (hpassage'.symm.trans hpassage)] at htold
    exact htold.parse

/-- Players of one adventure under one id are the same at one snapshot, if both show targets or neither
does. -/
theorem eq_of_snapshot (hp : Plays a id p) (hq : Plays a id q) (hsnapshot : q.snapshot = p.snapshot)
    (hshown : q.showTargets = p.showTargets) : q = p := by
  cases p
  cases q
  obtain rfl := hp.adventure
  obtain rfl := hp.adventureId
  obtain rfl : _ = _ := hq.adventure
  obtain rfl : _ = _ := hq.adventureId
  obtain rfl : _ = _ := hsnapshot
  obtain rfl : _ = _ := hshown
  rfl

end Plays

/-! ## Players of one text -/

theorem importText_cases {text formatName : String} (h : importText text formatName = .ok a) :
    ∃ format, Format.ofName formatName = .ok format ∧ parse format text = .ok a := by
  unfold importText at h
  obtain ⟨format, hformat, h⟩ := bind_eq_ok h
  refine ⟨format, hformat, ?_⟩
  cases hparse : parse format text with
  | error e =>
    rw [hparse] at h
    cases h
  | ok held =>
    rw [hparse] at h
    exact congrArg Except.ok (Except.ok.inj h)

/-- A player is made of a text that holds a playable adventure, and begins to play it. -/
theorem ofText_cases {text formatName : String} (h : Player.ofText id text formatName = .ok p) :
    ∃ format a, parse format text = .ok a ∧ a.isPlayable = true ∧ p = ⟨a, id, .initial, false⟩ := by
  unfold ofText at h
  obtain ⟨a, himport, h⟩ := bind_eq_ok h
  obtain ⟨format, -, hparse⟩ := importText_cases himport
  dsimp only at h
  split at h
  · rename_i hplayable
    exact ⟨format, a, hparse, hplayable, (Except.ok.inj h).symm⟩
  · cases h

theorem ofText_of_isPlayable {text formatName : String} (himport : importText text formatName = .ok a)
    (hplayable : a.isPlayable = true) (id : String) :
    ofText id text formatName = .ok ⟨a, id, .initial, false⟩ := by
  rw [ofText, himport]
  exact if_pos hplayable

/-- **A player hands over to another one.** Take two players that were made of one text under one id, the
notation named as may be, and any calls of the first and of the second. The first then tells its position, in
whichever of its texts. If it has left the introduction, the second can be resumed from that text; and if both show
targets or neither does, the two say the same to all further calls from there on: the same views, the same titles,
files and failures, and saved positions that are read as the same record. At the introduction what is told is nothing
to resume from. In every state a call is answered if and only if it is allowed there, and a call that fails leaves
the player, and so its view and its progress, as they were. -/
theorem hand_over {id text name name' : String} {p₀ q₀ : Player} (hp₀ : ofText id text name = .ok p₀)
    (hq₀ : ofText id text name' = .ok q₀) (calls calls' : List PageCall) :
    let p := stateAfter ask p₀ calls
    let q := stateAfter ask q₀ calls'
    p.Tells p.progress ∧
    (p.snapshot.state ≠ .introduction → ∀ told, p.Tells told →
      ∃ resumed, q.resume told = .ok resumed ∧
        (q.showTargets = p.showTargets → ∀ further answers answers',
          resumed.Converses further answers → p.Converses further answers' →
          SayAlike further answers answers')) ∧
    (p.snapshot.state = .introduction → ∀ told, p.Tells told →
      ∃ refusal, q.resume told = .error (.noProgress refusal)) ∧
    (∀ further, p.Converses further (answersOf ask p further)) ∧
    ∀ call, ((∃ reply, (p.ask call).1 = .ok reply) ↔ p.Allows call) ∧
      ∀ e, (p.ask call).1 = .error e → (p.ask call).2 = p ∧
        (p.ask call).2.view = p.view ∧ (p.ask call).2.progress = p.progress := by
  obtain ⟨format, a, hparse, hplayable, rfl⟩ := ofText_cases hp₀
  obtain ⟨format', b, hparse', -, rfl⟩ := ofText_cases hq₀
  -- One text holds one adventure, so both play the same.
  obtain ⟨-, rfl⟩ := parse_unique hparse hparse'
  have ha : a.Sound := Adventure.sound_of_isPlayable hplayable
  have hbegin : Plays a id ⟨a, id, .initial, false⟩ := ⟨rfl, rfl, Snapshot.placed_initial⟩
  intro p q
  have hp : Plays a id p := hbegin.calls calls
  have hq : Plays a id q := hbegin.calls calls'
  refine ⟨p.tells_progress, fun hstarted told htold => ?_, fun hstate told htold =>
    resume_tells_introduction q hstate htold, p.converses_answersOf, fun call => ?_⟩
  · have hresume : q.resume told = .ok { q with snapshot := p.snapshot } := hp.resume_tells hq hstarted htold
    have hresumed : Plays a id { q with snapshot := p.snapshot } := hq.resume hresume
    refine ⟨_, hresume, fun hshown further answers answers' hanswers hanswers' => ?_⟩
    -- The resumed player is the same as the first one, so it is one player that is asked twice.
    rw [hp.eq_of_snapshot hresumed rfl hshown] at hanswers
    exact hanswers.sayAlike hanswers'
  · refine ⟨hp.exists_reply_iff ha call, fun e he => ?_⟩
    rw [ask_of_error he]
    exact ⟨rfl, rfl, rfl⟩

/-- A player of the cellar, before play has started. -/
def inCellar : Player := ⟨.cellar, "cellar", .initial, false⟩

/-- A player of the cellar at its ending, with the lamp and a rope. -/
def withRope : Player := ⟨.cellar, "cellar", ⟨.ended 2 "darkness", .ofList ["lamp", "rope"]⟩, false⟩

/-- A text of the position with the rope, which comes first, as it may in a set. -/
def ropeFirst : String :=
  "\x7b\"adventure_id\":\"cellar\",\"current_passage\":2,\"inventory\":[\"rope\",\"lamp\"]\x7d"

theorem toldAs_ropeFirst : (⟨"cellar", 2, .ofList ["lamp", "rope"]⟩ : Progress).ToldAs ropeFirst :=
  ⟨["rope", "lamp"], by decide, by decide +kernel⟩

theorem resume_ropeFirst : inCellar.resume ropeFirst = .ok withRope :=
  resume_eq_ok_iff.mpr ⟨_, _, toldAs_ropeFirst.parse, rfl, rfl⟩

theorem stateAfter_ropeFirst : stateAfter ask inCellar [.resume ropeFirst] = withRope := by
  show (inCellar.moved (inCellar.resume ropeFirst)).2 = withRope
  rw [resume_ropeFirst]
  rfl

theorem ofText_cellar : ofText "cellar" (serialize .json .cellar) "JSON" = .ok inCellar := by
  have hparse : parse .json (serialize .json .cellar) = .ok .cellar := parse_serialize .json .cellar
  exact ofText_of_isPlayable (importText_eq_ok rfl hparse) Adventure.cellar_isPlayable "cellar"

/-- The reader with the rope hands over to a player that has not been started. This one tells the rope after the
lamp, so the texts are not the same; but what they say is. Neither of the two can be started, and no choice is on
offer. -/
theorem hand_over_cellar :
    ∃ resumed, inCellar.resume ropeFirst = .ok resumed ∧ resumed.progress ≠ ropeFirst ∧
      (∃ answers, SayAlike [.progress, .act .restart, .progress]
        (answersOf ask resumed [.progress, .act .restart, .progress]) (.ok (some ropeFirst) :: answers)) ∧
      ¬ (∃ reply, ((stateAfter ask inCellar [.resume ropeFirst]).ask (.act .start)).1 = .ok reply) ∧
      ¬ ∃ reply, ((stateAfter ask inCellar [.resume ropeFirst]).ask (.act (.choose 0))).1 = .ok reply := by
  obtain ⟨-, hresume, -, -, hcalls⟩ := hand_over ofText_cellar ofText_cellar [.resume ropeFirst] []
  rw [stateAfter_ropeFirst] at hresume hcalls ⊢
  have htells : withRope.Tells ropeFirst := .record rfl toldAs_ropeFirst
  obtain ⟨resumed, hresumed, halike⟩ := hresume (by decide) ropeFirst htells
  obtain rfl : withRope = resumed := Except.ok.inj (resume_ropeFirst.symm.trans hresumed)
  have htold : withRope.Converses [.progress, .act .restart, .progress]
      (.ok (some ropeFirst) :: answersOf ask withRope [.act .restart, .progress]) :=
    .cons (.told htells) (converses_answersOf _ _)
  refine ⟨withRope, hresumed, by decide +kernel,
    ⟨_, halike rfl _ _ _ (withRope.converses_answersOf _) htold⟩, ?_, ?_⟩
  · intro hreply
    have hstate : PlayState.ended 2 "darkness" = .introduction := (hcalls (.act .start)).1.mp hreply
    cases hstate
  · intro hreply
    have hoffered : 0 < ([] : List String).length := (hcalls (.act (.choose 0))).1.mp hreply
    exact absurd hoffered (Nat.lt_irrefl 0)

end Player

end Gamebook
