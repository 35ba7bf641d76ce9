import Troupe.Proofs.Season.Snapshot
import Troupe.Proofs.Theatre.Operations

/-!
# Runs and what the user does meanwhile, in time

What happens in a theatre is what happens in a season, at the times that the alarms set
(`Theatre.exists_happenings`). What the user does to scripts, to the selection and to hero mode, and
the sprites that come on, do not matter to the runs of a theatre: the streams pause for as long and
go on in the same order, so a run that is waited for takes the same time (`Theatre.Beside.join`).
-/

namespace Troupe

/-- The user does an operation, and the tickets are these. -/
def Act.operates (operation : Operation) (tickets : List (Option Nat)) : Act :=
  .host (fun workspace => (workspace.operate operation).state) tickets

/-- Whether streams go on, or time passes. -/
def Act.isGoing : Act → Bool
  | .goOn | .wait _ => true
  | .launch _ _ | .host _ _ => false

/-- What the host of a session does: it lets streams go on and time pass, starts runs, does
operations for the user and keeps the tickets. -/
inductive Act.OfSession : Act → Prop where
  /-- Streams go on. -/
  | goOn : OfSession .goOn
  /-- Time passes. -/
  | wait (time : Nat) : OfSession (.wait time)
  /-- A run starts. -/
  | launch (heroMode : Bool) (scripts : List (SpriteId × Script)) :
      OfSession (.launch heroMode scripts)
  /-- The user does an operation. -/
  | operates (operation : Operation) (tickets : List (Option Nat)) :
      OfSession (.operates operation tickets)
  /-- Tickets are kept. -/
  | keeps (tickets : List (Option Nat)) : OfSession (.host id tickets)

/-- Going on is an act of a session. -/
theorem Act.OfSession.of_isGoing {act : Act} (going : act.isGoing = true) : act.OfSession := by
  cases act with
  | goOn => exact .goOn
  | wait time => exact .wait time
  | launch | host => exact nomatch going

/-- Streams go on, time passes, or the user does something that spares the performers. The tickets
stay as they are. -/
inductive Act.Spares (performers : List SpriteId) (tickets : List (Option Nat)) : Act → Prop where
  /-- Streams go on. -/
  | goOn : Spares performers tickets .goOn
  /-- Time passes. -/
  | wait (time : Nat) : Spares performers tickets (.wait time)
  /-- The user does something that spares the performers. -/
  | operates {operation : Operation} (spares : operation.Spares performers) :
      Spares performers tickets (.operates operation tickets)

namespace Theatre

/-- The workspace and the runs of a theatre. -/
def season (t : Theatre) : Season where
  workspace := t.workspace
  runs := t.productions.map (·.run)

/-! ## Seasons of theatres -/

variable {t : Theatre}

/-- A stream that does something in a theatre makes a step in its season. -/
theorem season_setScene {cue : Cue} {p : Production} (there : t.productions[cue.run]? = some p)
    (clock : Nat) :
    (t.setScene cue.run p ((t.scene p).turn (.stream cue.stream clock))).season =
      t.season.next (.steps cue.run cue.stream clock) := by
  have here : t.season.runs[cue.run]? = some p.run := by simp [season, there]
  have steps : t.season.next (.steps cue.run cue.stream clock) =
      t.season.setScene cue.run ((t.scene p).turn (.stream cue.stream clock)) := by
    simp only [Season.next, here]
    rfl
  rw [steps]
  simp only [season, setScene, setCast, Season.setScene, List.map_set]

/-- What a stream does in a theatre is told in its season as well. -/
theorem chronicle_season {cue : Cue} {p : Production} {beat : Beat}
    (there : t.productions[cue.run]? = some p)
    (did : (t.scene p).beat? (.stream cue.stream t.clock) = some beat) :
    t.season.chronicle [.steps cue.run cue.stream t.clock] =
      [{ clock := t.clock, run := cue.run, beat }] := by
  have here : t.season.runs[cue.run]? = some p.run := by simp [season, there]
  have own : (t.season.scene p.run).beat? (.stream cue.stream t.clock) = some beat := did
  simp [Season.chronicle, Season.moment?, here, own]

/-- An act of a session comes to what may happen in a season. -/
theorem exists_happenings_of_moves {act : Act} {moment : Option Moment} {next : Theatre}
    (moves : t.Moves act moment next) (session : act.OfSession) :
    ∃ happenings, next.season = t.season.after happenings ∧
      moment.toList = t.season.chronicle happenings ∧
      (act.isGoing = true → ∀ happening ∈ happenings, happening.isStep = true) := by
  have nothing : t.season = t.season.after [] ∧ [] = t.season.chronicle [] ∧
      (act.isGoing = true → ∀ happening ∈ ([] : List Happening), happening.isStep = true) :=
    ⟨rfl, rfl, fun _ _ member => absurd member List.not_mem_nil⟩
  cases moves with
  | rests | yields | rings | waits => exact ⟨[], nothing⟩
  | @performs cue rest p beat turn there did going =>
    refine ⟨[.steps cue.run cue.stream t.clock], season_setScene there t.clock,
      (chronicle_season there did).symm, fun _ => ?_⟩
    simp [Happening.isStep]
  | @pauses cue rest p beat duration turn there did paused =>
    refine ⟨[.steps cue.run cue.stream t.clock], season_setScene there t.clock,
      (chronicle_season there did).symm, fun _ => ?_⟩
    simp [Happening.isStep]
  | launches heroMode scripts =>
    refine ⟨[.launches heroMode scripts], ?_, rfl, fun going => absurd going Bool.false_ne_true⟩
    simp [season, launch, Season.next]
  | hosts edit tickets =>
    cases session with
    | operates operation =>
      exact ⟨[.operates operation], rfl, rfl, fun going => absurd going Bool.false_ne_true⟩
    | keeps => exact ⟨[], nothing⟩

/-- What happens in a session of a theatre is what happens in a season. -/
theorem exists_happenings (t : Theatre) {acts : List Act} (session : ∀ act ∈ acts, act.OfSession) :
    ∃ happenings, (t.after acts).season = t.season.after happenings ∧
      t.chronicle acts = t.season.chronicle happenings ∧
      ((∀ act ∈ acts, act.isGoing = true) →
        ∀ happening ∈ happenings, happening.isStep = true) := by
  induction acts generalizing t with
  | nil => exact ⟨[], rfl, rfl, fun _ _ member => absurd member List.not_mem_nil⟩
  | cons act rest ih =>
    obtain ⟨first, same, did, own⟩ :=
      exists_happenings_of_moves (t.moves_act act) (session act List.mem_cons_self)
    obtain ⟨later, same', did', others⟩ :=
      ih (t.act act) fun a member => session a (List.mem_cons_of_mem _ member)
    refine ⟨first ++ later, ?_, ?_, fun going happening member => ?_⟩
    · rw [after_cons, same', same, Season.after_append]
    · rw [chronicle, did, did', same, Season.chronicle_append]
    · obtain ⟨goes, go⟩ := List.forall_mem_cons.1 going
      exact (List.mem_append.1 member).elim (own goes happening) (others go happening)

/-! ## Streams besides the user -/

/-- Two theatres in which the runs are the same and go on at the same times, while bystanders came
on in the second one and the user did there what does not matter to the runs. -/
structure Beside (more : List Sprite) (still now : Theatre) : Prop where
  /-- It is the same time. -/
  clock : now.clock = still.clock
  /-- The runs are the same. -/
  productions : now.productions = still.productions
  /-- The tickets are the same. -/
  tickets : now.tickets = still.tickets
  /-- The same streams may go on. -/
  ready : now.ready = still.ready
  /-- The others go on at the same times. -/
  alarms : now.alarms = still.alarms
  /-- The stopwatch is the same. -/
  stopwatch : now.stopwatch = still.stopwatch
  /-- The sprites that are not bystanders are the same. -/
  cast : now.cast = still.cast.joinedBy more
  /-- Bystanders do not perform. -/
  ignores : ∀ id ∈ still.season.performers, id ∉ more.map (·.id)

variable {more : List Sprite} {still now : Theatre} {number : Nat} {p : Production}

/-- A theatre is beside itself, with nobody joining. -/
theorem Beside.refl (t : Theatre) : Beside [] t t :=
  ⟨rfl, rfl, rfl, rfl, rfl, rfl, t.cast.joinedBy_nil.symm, fun _ _ => List.not_mem_nil⟩

/-- Theatres beside each other have seasons beside each other. -/
theorem Beside.season (beside : Beside more still now) :
    Season.Beside more still.season now.season :=
  ⟨congrArg (List.map Production.run) beside.productions, beside.cast, beside.ignores⟩

/-- Bystanders do not perform in any run. -/
theorem Beside.ignored (beside : Beside more still now)
    (there : still.productions[number]? = some p) : p.run.Ignores more := fun id performs =>
  beside.ignores id
    (Season.mem_performers (List.mem_map_of_mem (List.mem_of_getElem? there)) performs)

/-- What the user does that spares the performers leaves the runs as they are. -/
theorem Beside.operates (beside : Beside more still now) {operation : Operation}
    (spares : operation.Spares still.season.performers) :
    ∃ later, Beside later still (now.act (.operates operation still.tickets)) := by
  obtain ⟨later, season⟩ := beside.season.operates spares
  exact ⟨later, { beside with tickets := rfl, cast := season.cast, ignores := season.ignores }⟩

/-- A step that is made with and without bystanders leads on, at whatever time and with whatever
alarms. -/
theorem Beside.setScene (beside : Beside more still now)
    (there : still.productions[number]? = some p) {step step' : Step}
    (matching : step.Matches more step') (kept : step.run.performers = p.run.performers)
    (ready : List Cue) (alarms : List Alarm) :
    Beside more
      { still.setScene number p { run := step.run, cast := step.cast } with ready, alarms }
      { now.setScene number p { run := step'.run, cast := step'.cast } with ready, alarms } := by
  refine ⟨beside.clock, ?_, beside.tickets, rfl, rfl, beside.stopwatch, matching.cast, ?_⟩
  · simp only [Theatre.setScene, beside.productions, matching.run]
  · have performers : (still.productions.set number { p with run := step.run }).map
        (Run.performers ∘ Production.run) =
          still.productions.map (Run.performers ∘ Production.run) :=
      map_set_of_same there kept
    have ignores := beside.ignores
    simp only [Theatre.season, Season.performers, List.map_map] at ignores ⊢
    exact performers ▸ ignores

/-- A stream that performs for a cue is resumed in its run, and waits for as long as it pauses. -/
theorem perform_of_resume {cue : Cue} {step : Step} (there : t.productions[cue.run]? = some p)
    (resumed : p.run.resume cue.stream t.clock t.cast = step) :
    (t.perform cue).state =
      { t.setScene cue.run p { run := step.run, cast := step.cast } with
        ready := t.ready, alarms := schedule t.alarms cue t.clock step.pause } := by
  subst resumed
  simp only [perform, there]
  rfl

/-- Theatres stay beside each other when a stream performs. -/
theorem Beside.perform (beside : Beside more still now) (cue : Cue) :
    Beside more (still.perform cue).state (now.perform cue).state := by
  cases there : still.productions[cue.run]? with
  | none =>
    have there' : now.productions[cue.run]? = none := beside.productions ▸ there
    simpa only [Theatre.perform, there, there'] using beside
  | some p =>
    have there' : now.productions[cue.run]? = some p := beside.productions ▸ there
    have matching := Run.resume_joinedBy (beside.ignored there) cue.stream still.clock still.cast
    rw [← beside.cast, ← beside.clock] at matching
    rw [perform_of_resume there rfl, perform_of_resume there' rfl, beside.ready, beside.alarms,
      matching.pause, beside.clock]
    rw [beside.clock] at matching
    exact beside.setScene there matching (Run.performers_resume ..) _ _

/-- Theatres stay beside each other when streams perform one after the other. -/
theorem Beside.performAll (beside : Beside more still now) (cues : List Cue) :
    Beside more (still.performAll cues).state (now.performAll cues).state := by
  induction cues generalizing still now with
  | nil => exact beside
  | cons cue rest ih => exact ih (beside.perform cue)

/-- Theatres stay beside each other when they settle. -/
theorem Beside.settle (beside : Beside more still now) :
    Beside more still.settle.state now.settle.state := by
  have quiet : Beside more { still with ready := [] } { now with ready := [] } :=
    { beside with ready := rfl }
  rw [Theatre.settle, Theatre.settle, beside.ready]
  exact quiet.performAll still.ready

/-- Theatres stay beside each other when an alarm goes off. -/
theorem Beside.fire (beside : Beside more still now) (alarm : Alarm) (others : List Alarm) :
    Beside more (still.fire alarm others).state (now.fire alarm others).state := by
  rw [Theatre.fire, Theatre.fire, beside.ready]
  exact Beside.settle { beside with clock := rfl, ready := rfl, alarms := rfl }

/-- A run has ended in both of two theatres beside each other or in neither. -/
theorem Beside.isFinished (beside : Beside more still now) (number : Nat) :
    now.isFinished number = still.isFinished number := by
  rw [Theatre.isFinished, Theatre.isFinished, beside.productions]

/-- Nobody waits for a run that has ended. -/
theorem fireUntilFinished_of_isFinished (finished : t.isFinished number = true) :
    (t.fireUntilFinished number).state = t := by
  rw [fireUntilFinished, if_pos finished]

/-- Without alarms there is nothing to wait for. -/
theorem fireUntilFinished_of_alarms_nil (none : t.alarms = []) :
    (t.fireUntilFinished number).state = t := by
  rw [fireUntilFinished]
  split
  · rfl
  · split
    · rfl
    · rename_i first
      simp [none] at first

/-- While a run goes on, the first alarm goes off. -/
theorem fireUntilFinished_of_alarms_cons {alarm : Alarm} {others : List Alarm}
    (going : ¬t.isFinished number = true) (first : t.alarms = alarm :: others) :
    (t.fireUntilFinished number).state =
      ((t.fire alarm others).state.fireUntilFinished number).state := by
  rw [fireUntilFinished, if_neg going]
  split
  · rename_i none
    simp [first] at none
  · rename_i alarm' others' first'
    obtain ⟨rfl, rfl⟩ := List.cons.inj (first.symm.trans first')
    rfl

/-- Alarms go off in both theatres alike until a run has ended. -/
theorem Beside.fireUntilFinished (beside : Beside more still now) (number : Nat) :
    Beside more (still.fireUntilFinished number).state (now.fireUntilFinished number).state := by
  fun_induction Theatre.fireUntilFinished still number generalizing now with
  | case1 still finished =>
    rw [fireUntilFinished_of_isFinished ((beside.isFinished number).trans finished)]
    exact beside
  | case2 still going none =>
    rw [fireUntilFinished_of_alarms_nil (beside.alarms.trans none)]
    exact beside
  | case3 still going alarm others first fired fewer =>
    rename_i ih
    have going' : ¬now.isFinished number = true := by rwa [beside.isFinished]
    rw [fireUntilFinished_of_alarms_cons going' (beside.alarms.trans first)]
    exact ih (beside.fire alarm others)

/-- Waiting for a run comes to the same, and the report on it is the same. -/
theorem Beside.await (beside : Beside more still now) (number : Nat) :
    Beside more (still.await number).state (now.await number).state ∧
      (now.await number).answer = (still.await number).answer := by
  have waited : Beside more (still.await number).state (now.await number).state :=
    beside.settle.fireUntilFinished number
  have asked (t : Theatre) : (t.await number).answer = (t.await number).state.report? number := rfl
  refine ⟨waited, ?_⟩
  rw [asked, asked, report?, report?, waited.productions]
  simp only [elapsed, waited.stopwatch, waited.clock]

/-- Waiting for the run of a ticket comes to the same, and the report on it is the same. -/
theorem Beside.join (beside : Beside more still now) (ticket : Nat) :
    Beside more (still.join ticket).state (now.join ticket).state ∧
      (now.join ticket).answer = (still.join ticket).answer := by
  have same : now.runNumber? ticket = still.runNumber? ticket := by
    rw [runNumber?, runNumber?, beside.tickets]
  simp only [Theatre.join, same]
  cases still.runNumber? ticket with
  | none => exact ⟨beside, rfl⟩
  | some number =>
    have given : Beside more (still.giveAway ticket) (now.giveAway ticket) :=
      { beside with tickets := congrArg (·.set ticket none) beside.tickets }
    exact given.await number

/-! ## Acts besides the user's -/

/-- The stream whose turn it is does the same with and without bystanders. -/
theorem Beside.moment? (beside : Beside more still now) (act : Act) (going : act.isGoing = true) :
    now.moment? act = still.moment? act := by
  cases act with
  | launch | host => exact nomatch going
  | wait time => rfl
  | goOn =>
    simp only [Theatre.moment?, beside.ready, beside.productions, beside.clock]
    cases still.ready with
    | nil => rfl
    | cons cue rest =>
      simp only [List.head?_cons, Option.bind_eq_bind, Option.bind_some]
      cases there : still.productions[cue.run]? with
      | none => rfl
      | some p =>
        have joined : now.scene p = (still.scene p).joinedBy more :=
          congrArg (Scene.mk p.run) beside.cast
        have apart : (still.scene p).run.Ignores more := beside.ignored there
        simp only [Option.bind_some, joined, Scene.beat?_joinedBy apart]

/-- Streams go on in both theatres alike. -/
theorem Beside.goOn (beside : Beside more still now) : Beside more still.goOn now.goOn := by
  cases turn : still.ready with
  | nil =>
    have turn' : now.ready = [] := beside.ready.trans turn
    cases first : still.alarms with
    | nil =>
      have first' : now.alarms = [] := beside.alarms.trans first
      simpa only [Theatre.goOn, turn, turn', first, first'] using beside
    | cons alarm others =>
      have first' : now.alarms = alarm :: others := beside.alarms.trans first
      simp only [Theatre.goOn, turn, turn', first, first']
      exact { beside with clock := rfl, ready := rfl, alarms := rfl }
  | cons cue rest =>
    have turn' : now.ready = cue :: rest := beside.ready.trans turn
    cases there : still.productions[cue.run]? with
    | none =>
      have there' : now.productions[cue.run]? = none := beside.productions ▸ there
      simp only [Theatre.goOn, step?, turn, turn', there, there', Option.bind_eq_bind,
        Option.bind_none]
      exact { beside with ready := rfl }
    | some p =>
      have there' : now.productions[cue.run]? = some p := beside.productions ▸ there
      have steps := Run.step?_joinedBy (beside.ignored there) cue.stream still.clock still.cast
      rw [← beside.cast, ← beside.clock] at steps
      obtain ⟨nothing, nothing'⟩ | ⟨step, step', made, made', matching⟩ := steps
      · rw [beside.clock] at nothing
        rw [goOn_of_step?_eq_none turn there nothing, goOn_of_step?_eq_none turn' there' nothing']
        exact { beside with ready := rfl }
      · rw [beside.clock] at made
        rw [goOn_of_step? turn there made, goOn_of_step? turn' there' made', beside.alarms,
          beside.clock, matching.pause]
        exact beside.setScene there matching (Run.performers_of_step? made) _ _

/-- Theatres stay beside each other when they go on. -/
theorem Beside.act (beside : Beside more still now) (act : Act) (going : act.isGoing = true) :
    Beside more (still.act act) (now.act act) := by
  cases act with
  | launch | host => exact nomatch going
  | goOn => exact beside.goOn
  | wait time =>
    simp only [Theatre.act, beside.ready, beside.clock, beside.alarms]
    split
    · exact { beside with clock := rfl, ready := rfl, alarms := rfl }
    · exact beside

/-- While streams go on and time passes, no stream gets another sprite, and the tickets stay as they
are. -/
theorem performers_and_tickets_act (t : Theatre) (act : Act) (going : act.isGoing = true) :
    (t.act act).season.performers = t.season.performers ∧ (t.act act).tickets = t.tickets := by
  have moves := t.moves_act act
  obtain ⟨happenings, same, -, steps⟩ := exists_happenings_of_moves moves (.of_isGoing going)
  rw [same]
  refine ⟨t.season.performers_after (steps going), ?_⟩
  generalize t.act act = next, t.moment? act = moment at moves
  cases moves with
  | rests | yields | performs | pauses | rings | waits => rfl
  | launches | hosts => exact nomatch going

/-- When the user only does what spares the performers, all runs are at all times as if nothing of
it was done. -/
theorem Beside.after (beside : Beside more still now) {acts : List Act}
    (spares : ∀ act ∈ acts, act.Spares still.season.performers still.tickets) :
    (∃ later, Beside later (still.after (acts.filter Act.isGoing)) (now.after acts)) ∧
      now.chronicle acts = still.chronicle (acts.filter Act.isGoing) := by
  induction acts generalizing still now more with
  | nil => exact ⟨⟨more, beside⟩, rfl⟩
  | cons act rest ih =>
    have others : ∀ a ∈ rest, a.Spares still.season.performers still.tickets :=
      fun a member => spares a (List.mem_cons_of_mem _ member)
    -- Streams that go on do so in both theatres.
    have goes (going : act.isGoing = true) :
        (∃ later, Beside later (still.after ((act :: rest).filter Act.isGoing))
          (now.after (act :: rest))) ∧
          now.chronicle (act :: rest) = still.chronicle ((act :: rest).filter Act.isGoing) := by
      obtain ⟨performers, tickets⟩ := still.performers_and_tickets_act act going
      rw [← performers, ← tickets] at others
      obtain ⟨onwards, same⟩ := ih (beside.act act going) others
      rw [List.filter_cons_of_pos going]
      refine ⟨onwards, ?_⟩
      rw [chronicle, chronicle, beside.moment? act going, same]
    cases spares act List.mem_cons_self with
    | goOn => exact goes rfl
    | wait time => exact goes rfl
    | @operates operation apart =>
      obtain ⟨later, beside'⟩ := beside.operates apart
      exact ih beside' others

/-! ## Workspaces besides the streams -/

/-- Streams that go on do nothing to the workspace but to the sprites on the stage, and keep them
there. -/
theorem exists_cast_after (t : Theatre) {acts : List Act}
    (going : ∀ act ∈ acts, act.isGoing = true) :
    ∃ cast, (t.after acts).workspace = { t.workspace with cast } ∧ cast.ids = t.cast.ids := by
  have session : ∀ act ∈ acts, act.OfSession :=
    fun act member => .of_isGoing (going act member)
  obtain ⟨happenings, same, -, steps⟩ := t.exists_happenings session
  obtain ⟨cast, workspace, ids⟩ := t.season.exists_cast_of_isStep (steps going)
  rw [← same] at workspace
  exact ⟨cast, workspace, ids⟩

/-- Neither does waiting for a run. -/
theorem exists_cast_join (t : Theatre) (ticket : Nat) :
    ∃ cast, (t.join ticket).state.workspace = { t.workspace with cast } ∧
      cast.ids = t.cast.ids := by
  simp only [join]
  cases t.runNumber? ticket with
  | none => exact ⟨_, rfl, rfl⟩
  | some number =>
    obtain ⟨⟨n, waits⟩, -⟩ := (t.giveAway ticket).goesOnTo_await number
    have going : ∀ act ∈ List.replicate n Act.goOn, act.isGoing = true := fun act member =>
      List.eq_of_mem_replicate member ▸ rfl
    obtain ⟨cast, workspace, ids⟩ := (t.giveAway ticket).exists_cast_after going
    rw [waits] at workspace
    exact ⟨cast, workspace, ids⟩

/-- Runs perform snapshots of scripts, and the user and the runs leave each other alone. Whatever
the user does that neither places nor removes a sprite, in between the steps of all streams in any
order, the runs are as if nothing of it was done: the streams do the same, and so they complete the
same blocks in the same order and make the same exchanges, and the sprites that were on the stage
are the same in the end. New sprites, whose identities no performer has, come after these. In time,
all this happens at the same times, and who waits for a run gets the same report. What the streams
do and who waits for them, on the other hand, changes the sprites and nothing else in the
workspace. -/
theorem runs_perform_snapshots (t : Theatre) :
    (∀ happenings : List Happening,
      (∀ happening ∈ happenings, happening.Spares t.season.performers) →
      let steps := happenings.filter Happening.isStep
      let still := t.season.after steps
      let now := t.season.after happenings
      now.runs = still.runs ∧ t.season.chronicle happenings = t.season.chronicle steps ∧
        (∃ more, now.workspace.cast = still.workspace.cast.joinedBy more) ∧
        ∃ cast, still.workspace = { t.workspace with cast } ∧ cast.ids = t.cast.ids) ∧
    ∀ acts : List Act, (∀ act ∈ acts, act.Spares t.season.performers t.tickets) →
      let goings := acts.filter Act.isGoing
      let still := t.after goings
      let now := t.after acts
      now.clock = still.clock ∧ now.productions = still.productions ∧
        t.chronicle acts = t.chronicle goings ∧
        (∃ more, now.cast = still.cast.joinedBy more) ∧
        (∃ cast, still.workspace = { t.workspace with cast } ∧ cast.ids = t.cast.ids) ∧
        ∀ ticket, (now.join ticket).answer = (still.join ticket).answer ∧
          (now.join ticket).state.productions = (still.join ticket).state.productions ∧
          (∃ more, (now.join ticket).state.cast = (still.join ticket).state.cast.joinedBy more) ∧
          ∃ cast, (now.join ticket).state.workspace = { now.workspace with cast } ∧
            cast.ids = now.cast.ids := by
  constructor
  · intro happenings spares steps still now
    obtain ⟨⟨more, beside⟩, same⟩ := (Beside.refl t).season.after spares
    exact ⟨beside.runs, same, ⟨more, beside.cast⟩,
      t.season.exists_cast_of_isStep fun happening member => (List.mem_filter.1 member).2⟩
  · intro acts spares goings still now
    obtain ⟨⟨more, beside⟩, same⟩ := (Beside.refl t).after spares
    refine ⟨beside.clock, beside.productions, same, ⟨more, beside.cast⟩,
      t.exists_cast_after fun act member => (List.mem_filter.1 member).2, fun ticket => ?_⟩
    obtain ⟨waited, report⟩ := beside.join ticket
    exact ⟨report, waited.productions, ⟨more, waited.cast⟩, now.exists_cast_join ticket⟩

/-- While a duet is performed, a robot comes on, gets a block, the cat is put down next to the dog,
hero mode is turned off and all scripts are emptied. The streams exchange their blocks as they would
have and complete all five. When only the dog goes on meanwhile, it completes two. -/
theorem runs_perform_snapshots_duet :
    let started := (ofWorkspace .duet id).start
    let meanwhile : List Operation :=
      [.add (.ofNat 2) .robot, .drop .turn, .release (.ofNat 0), .setHeroMode false, .reset]
    let happenings := meanwhile.flatMap fun operation =>
      [.steps 0 1 0, .steps 0 1 0, .operates operation]
    let acts := meanwhile.flatMap fun operation => [.goOn, .goOn, .operates operation [some 0]]
    let now := started.state.after acts
    (started.state.season.after happenings).runs.map (·.streams.map (·.executed)) = [[0, 2]] ∧
      now.workspace.heroMode = false ∧ now.workspace.castScripts.map (·.2.length) = [0, 0, 0] ∧
      (now.join 0).answer = some
        { streams := [⟨.ofNat 0, 3⟩, ⟨.ofNat 1, 2⟩], swaps := 1, duration := 1500 } := by
  intro started meanwhile happenings acts now
  obtain ⟨onSteps, onActs⟩ := runs_perform_snapshots started.state
  have apart : ∀ operation ∈ meanwhile, operation.Spares started.state.season.performers := by
    decide +kernel
  have happens : ∀ happening ∈ happenings,
      happening.Spares started.state.season.performers := by
    intro happening member
    obtain ⟨operation, there, own⟩ := List.mem_flatMap.1 member
    simp only [List.mem_cons, List.not_mem_nil, or_false] at own
    obtain rfl | rfl | rfl := own
    · exact trivial
    · exact trivial
    · exact apart operation there
  have done : ∀ act ∈ acts,
      act.Spares started.state.season.performers started.state.tickets := by
    intro act member
    obtain ⟨operation, there, own⟩ := List.mem_flatMap.1 member
    simp only [List.mem_cons, List.not_mem_nil, or_false] at own
    obtain rfl | rfl | rfl := own
    · exact .goOn
    · exact .goOn
    · exact .operates (apart operation there)
  refine ⟨?_, by decide +kernel, by decide +kernel, ?_⟩
  · rw [(onSteps happenings happens).1]
    decide +kernel
  · obtain ⟨-, -, -, -, -, waits⟩ := onActs acts done
    rw [(waits 0).1]
    decide +kernel

end Theatre

end Troupe
