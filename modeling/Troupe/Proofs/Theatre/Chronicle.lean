import Troupe.Proofs.Run.Scene
import Troupe.Theatre.Playing

/-!
# Chronicles

What happens in a theatre is a list of acts: the streams go on, time passes, the host starts a run
or does something else. `Theatre.after` is what comes of them, so a statement about every list of
acts holds for every session and for every moment in it. What the streams do meanwhile, and when, is
kept as a chronicle.

`Theatre.Moves` says once what an act can come to. The streams of a run make the moves of a scene
(`Scene.Moves`), and all that others do is, for that run, something that the host does
(`Theatre.exists_turns`). Settling, letting alarms go off, waiting for a run and playing are acts of
this kind and no others.
-/

namespace Troupe

/-- What a stream of a run did, and when. -/
structure Moment where
  /-- The time. -/
  clock : Nat
  /-- The number of the run. -/
  run : Nat
  /-- What the stream did. -/
  beat : Beat

/-- The stream that did something. -/
def Moment.cue (moment : Moment) : Cue := { run := moment.run, stream := moment.beat.place }

/-- What the streams of a theatre did, in order. -/
abbrev Chronicle := List Moment

/-- What the streams of a run did. -/
def Chronicle.ofRun (number : Nat) (chronicle : Chronicle) : History :=
  (chronicle.filter (·.run = number)).map (·.beat)

/-- What is told of a run goes on with what happens later. -/
theorem Chronicle.ofRun_append (number : Nat) (past later : Chronicle) :
    ofRun number (past ++ later) = ofRun number past ++ ofRun number later := by
  rw [ofRun, List.filter_append, List.map_append, ofRun, ofRun]

/-- Of a run that comes after all those of a chronicle, nothing is told. -/
theorem Chronicle.ofRun_eq_nil {number : Nat} {past : Chronicle}
    (heard : ∀ m ∈ past, m.run < number) : past.ofRun number = [] := by
  refine List.map_eq_nil_iff.2 (List.filter_eq_nil_iff.2 fun m member => ?_)
  simpa using Nat.ne_of_lt (heard m member)

/-- For how long a stream pauses after a beat. -/
def Beat.pause? (beat : Beat) : Option Nat := beat.action?.bind Action.pause?

/-- What may come next in a theatre. -/
inductive Act where
  /-- The stream whose turn it is makes its next step. When none may go on, the first alarm goes
  off. -/
  | goOn
  /-- Time passes, while no stream goes on. -/
  | wait (time : Nat)
  /-- The host starts a run of scripts. -/
  | launch (heroMode : Bool) (scripts : List (SpriteId × Script))
  /-- The host does something to the workspace and to the tickets. -/
  | host (edit : Workspace → Workspace) (tickets : List (Option Nat))

namespace Theatre

/-! ## Acts -/

/-- The scene of a run in a theatre. -/
def scene (t : Theatre) (p : Production) : Scene := { run := p.run, cast := t.cast }

/-- The theatre after something happened in the scene of a run. -/
def setScene (t : Theatre) (number : Nat) (p : Production) (scene : Scene) : Theatre :=
  { t.setCast scene.cast with productions := t.productions.set number { p with run := scene.run } }

/-- The next step of the stream of a cue. -/
def step? (t : Theatre) (cue : Cue) : Option (Production × Step) := do
  let p ← t.productions[cue.run]?
  let step ← p.run.step? cue.stream t.clock t.cast
  return (p, step)

/-- The theatre after its streams went on. A stream goes on until it pauses or has ended. -/
def goOn (t : Theatre) : Theatre :=
  match t.ready with
  | cue :: rest =>
    match t.step? cue with
    | some (p, step) =>
      { t.setScene cue.run p { run := step.run, cast := step.cast } with
        ready := if step.pause.isSome then rest else t.ready
        alarms := schedule t.alarms cue t.clock step.pause }
    | none => { t with ready := rest }
  | [] =>
    match t.alarms with
    | [] => t
    | alarm :: others =>
      { t with clock := alarm.due, ready := [alarm.cue], alarms := others }

/-- The theatre after an act. Time does not pass while a stream may go on, nor beyond an alarm. -/
def act (t : Theatre) : Act → Theatre
  | .goOn => t.goOn
  | .wait time =>
    if t.ready = [] ∧ t.clock ≤ time ∧ ∀ a ∈ t.alarms.head?, time ≤ a.due then
      { t with clock := time }
    else t
  | .launch heroMode scripts => (t.launch heroMode scripts).state
  | .host edit tickets => { t with workspace := edit t.workspace, tickets }

/-- The theatre after a number of acts. -/
def after (t : Theatre) (acts : List Act) : Theatre := acts.foldl act t

/-- What a stream does in an act. -/
def moment? (t : Theatre) : Act → Option Moment
  | .goOn => do
    let cue ← t.ready.head?
    let p ← t.productions[cue.run]?
    let beat ← (t.scene p).beat? (.stream cue.stream t.clock)
    return { clock := t.clock, run := cue.run, beat }
  | _ => none

/-- What the streams do in a number of acts, in order. -/
def chronicle (t : Theatre) : List Act → Chronicle
  | [] => []
  | act :: rest => (t.moment? act).toList ++ chronicle (t.act act) rest

/-- Without acts, nothing changes. -/
@[simp] theorem after_nil (t : Theatre) : t.after [] = t := rfl

/-- The first act is done before the others. -/
@[simp] theorem after_cons (t : Theatre) (act : Act) (rest : List Act) :
    t.after (act :: rest) = (t.act act).after rest := rfl

/-- Doing acts and then others is doing them all. -/
theorem after_append (t : Theatre) (acts later : List Act) :
    t.after (acts ++ later) = (t.after acts).after later :=
  List.foldl_append ..

/-- The chronicle of later acts is told from the theatre to which the earlier ones lead. -/
theorem chronicle_append (t : Theatre) (acts later : List Act) :
    t.chronicle (acts ++ later) = t.chronicle acts ++ (t.after acts).chronicle later := by
  induction acts generalizing t with
  | nil => rfl
  | cons act rest ih => simp only [List.cons_append, chronicle, ih, after_cons, List.append_assoc]

/-! ## What an act can come to -/

/-- The stream of a cue, in its production. -/
def Performs (t : Theatre) (cue : Cue) (p : Production) (s : Stream) : Prop :=
  t.productions[cue.run]? = some p ∧ p.run.streams[cue.stream]? = some s

/-- One act in a theatre: what a stream does in it, if one does anything, and the theatre after
it. -/
inductive Moves (t : Theatre) : Act → Option Moment → Theatre → Prop where
  /-- There is nothing to go on with, or nothing to wait for. -/
  | rests {act : Act} : Moves t act none t
  /-- The stream whose turn it is has ended. -/
  | yields {cue : Cue} {rest : List Cue} (turn : t.ready = cue :: rest)
      (gone : ∀ p s, t.Performs cue p s → s.ended = true) :
      Moves t .goOn none { t with ready := rest }
  /-- The stream whose turn it is does something and may go on. -/
  | performs {cue : Cue} {rest : List Cue} {p : Production} {beat : Beat}
      (turn : t.ready = cue :: rest) (there : t.productions[cue.run]? = some p)
      (did : (t.scene p).beat? (.stream cue.stream t.clock) = some beat)
      (going : beat.pause? = none) :
      Moves t .goOn (some { clock := t.clock, run := cue.run, beat })
        (t.setScene cue.run p ((t.scene p).turn (.stream cue.stream t.clock)))
  /-- The stream whose turn it is pauses. -/
  | pauses {cue : Cue} {rest : List Cue} {p : Production} {beat : Beat} {duration : Nat}
      (turn : t.ready = cue :: rest) (there : t.productions[cue.run]? = some p)
      (did : (t.scene p).beat? (.stream cue.stream t.clock) = some beat)
      (paused : beat.pause? = some duration) :
      Moves t .goOn (some { clock := t.clock, run := cue.run, beat })
        { t.setScene cue.run p ((t.scene p).turn (.stream cue.stream t.clock)) with
          ready := rest, alarms := Alarm.set { due := t.clock + duration, cue } t.alarms }
  /-- No stream may go on, and the first alarm goes off. -/
  | rings {alarm : Alarm} {others : List Alarm} (quiet : t.ready = [])
      (first : t.alarms = alarm :: others) :
      Moves t .goOn none { t with clock := alarm.due, ready := [alarm.cue], alarms := others }
  /-- Time passes, up to the first alarm at most. -/
  | waits {time : Nat} (quiet : t.ready = []) (later : t.clock ≤ time)
      (early : ∀ a ∈ t.alarms.head?, time ≤ a.due) :
      Moves t (.wait time) none { t with clock := time }
  /-- The host starts a run. -/
  | launches (heroMode : Bool) (scripts : List (SpriteId × Script)) :
      Moves t (.launch heroMode scripts) none (t.launch heroMode scripts).state
  /-- The host does something else. -/
  | hosts (edit : Workspace → Workspace) (tickets : List (Option Nat)) :
      Moves t (.host edit tickets) none { t with workspace := edit t.workspace, tickets }

end Theatre

/-- What is done in the turn of a stream is done by that stream. -/
theorem Scene.place_of_beat? {now : Scene} {i clock : Nat} {beat : Beat}
    (did : now.beat? (.stream i clock) = some beat) : beat.place = i := by
  have moves := now.moves_turn (.stream i clock)
  rw [did] at moves
  obtain ⟨_, own⟩ := turn_of_moves moves
  exact (Turn.stream.inj own).1.symm

/-- A stream that makes a step does something, and it pauses for as long as the step says. -/
theorem Scene.exists_beat_of_step? (now : Scene) {i clock : Nat} {step : Step}
    (h : now.run.step? i clock now.cast = some step) :
    now.turn (.stream i clock) = { run := step.run, cast := step.cast } ∧
      ∃ beat, now.beat? (.stream i clock) = some beat ∧ beat.pause? = step.pause := by
  obtain ⟨s, here, going, rfl⟩ := Run.step?_eq_some_iff.1 h
  have did : now.beat? (.stream i clock) = some
      { place := i, deed := s.deed now.run.movePause,
        partner := now.run.partnerAfter? now.cast i s (s.deed now.run.movePause) } := by
    simp [beat?, here, going]
  refine ⟨by simp only [turn, h], _, did, ?_⟩
  cases s.deed now.run.movePause with
  | begins b | ends => rfl
  | acts action rest => rfl
  | completes b =>
    simp only [Run.follow, Run.encounter, Beat.pause?, Beat.action?, Option.bind_none]
    split <;> rfl

/-- A stream that makes no step does nothing and has ended. -/
theorem Scene.ended_of_step?_eq_none (now : Scene) {i clock : Nat}
    (h : now.run.step? i clock now.cast = none) :
    now.beat? (.stream i clock) = none ∧
      ∀ s, now.run.streams[i]? = some s → s.ended = true := by
  simp only [Run.step?] at h
  split at h
  · rename_i absent
    exact ⟨by simp [beat?, absent], fun s here => by simp [absent] at here⟩
  · rename_i s here
    have ended : s.ended = true := by
      cases ended : s.ended with
      | true => rfl
      | false => simp [ended] at h
    refine ⟨by simp [beat?, here, ended], fun s' here' => ?_⟩
    obtain rfl : s = s' := by simpa [here] using here'
    exact ended

namespace Theatre

/-- Every act is one of the moves. -/
theorem moves_act (t : Theatre) (act : Act) : t.Moves act (t.moment? act) (t.act act) := by
  cases act with
  | launch heroMode scripts => exact .launches heroMode scripts
  | host edit tickets => exact .hosts edit tickets
  | wait time =>
    simp only [Theatre.act, moment?]
    split
    · rename_i allowed
      exact .waits allowed.1 allowed.2.1 allowed.2.2
    · exact .rests
  | goOn =>
    simp only [Theatre.act, goOn, moment?]
    cases turn : t.ready with
    | nil =>
      cases first : t.alarms with
      | nil => exact .rests
      | cons alarm others => exact .rings turn first
    | cons cue rest =>
      cases there : t.productions[cue.run]? with
      | none =>
        simp only [step?, there, List.head?_cons, Option.bind_eq_bind, Option.bind_some,
          Option.bind_none]
        exact .yields turn fun p s performs => by simpa [there] using performs.1
      | some p =>
        cases made : p.run.step? cue.stream t.clock t.cast with
        | none =>
          obtain ⟨nothing, gone⟩ := (t.scene p).ended_of_step?_eq_none made
          simp only [step?, there, made, nothing, List.head?_cons, Option.bind_eq_bind,
            Option.bind_some, Option.bind_none]
          refine .yields turn fun p' s performs => ?_
          obtain rfl : p = p' := by simpa [there] using performs.1
          exact gone s performs.2
        | some step =>
          obtain ⟨turned, beat, did, pause⟩ := (t.scene p).exists_beat_of_step? made
          simp only [step?, there, made, did, List.head?_cons, Option.bind_eq_bind,
            Option.bind_some, Option.pure_def]
          rw [← turned, ← pause]
          cases paused : beat.pause? with
          | none => exact turn ▸ .performs turn there did paused
          | some duration => exact .pauses turn there did paused

/-- What holds at the start and is kept by every move holds of every chronicle. -/
theorem chronicle_induction {motive : Chronicle → Theatre → Prop} {start : Theatre}
    {acts : List Act} (initial : motive [] start)
    (step : ∀ {past now act moment next}, act ∈ acts → motive past now →
      Moves now act moment next → motive (past ++ moment.toList) next) :
    motive (start.chronicle acts) (start.after acts) := by
  suffices onwards : ∀ past now, motive past now →
      motive (past ++ now.chronicle acts) (now.after acts) from onwards [] start initial
  clear initial
  induction acts with
  | nil => intro past now holds; simpa [chronicle] using holds
  | cons act rest ih =>
    intro past now holds
    have after := step List.mem_cons_self holds (now.moves_act act)
    have whole := ih (fun member => step (List.mem_cons_of_mem act member)) _ _ after
    simpa only [chronicle, after_cons, List.append_assoc] using whole

/-- The stopwatch stays the same. -/
theorem stopwatch_after (t : Theatre) (acts : List Act) : (t.after acts).stopwatch = t.stopwatch :=
  chronicle_induction (motive := fun _ now => now.stopwatch = t.stopwatch) rfl
    fun _ same moves => by cases moves <;> exact same

/-! ## Runs of a theatre -/

variable {t next : Theatre} {act : Act} {moment : Option Moment} {number : Nat} {p : Production}

/-- What happens in a theatre is a turn in the scene of each of its runs: a step of a stream, when
one of the run does something, and otherwise something that the host does. -/
theorem exists_turn_of_moves (moves : t.Moves act moment next)
    (here : t.productions[number]? = some p) :
    ∃ turn p', next.productions[number]? = some p' ∧ p'.start = p.start ∧
      (t.scene p).turn turn = next.scene p' ∧
      ((t.scene p).beat? turn).toList = Chronicle.ofRun number moment.toList := by
  -- A stream of this run or of another one does something.
  have steps {cue : Cue} {q : Production} {beat : Beat} {later : Theatre}
      (there : t.productions[cue.run]? = some q)
      (did : (t.scene q).beat? (.stream cue.stream t.clock) = some beat)
      (cast : later.cast = ((t.scene q).turn (.stream cue.stream t.clock)).cast)
      (productions : later.productions = t.productions.set cue.run
        { q with run := ((t.scene q).turn (.stream cue.stream t.clock)).run }) :
      ∃ turn p', later.productions[number]? = some p' ∧ p'.start = p.start ∧
        (t.scene p).turn turn = later.scene p' ∧
        ((t.scene p).beat? turn).toList =
          Chronicle.ofRun number [{ clock := t.clock, run := cue.run, beat }] := by
    by_cases own : cue.run = number
    · subst own
      obtain rfl : q = p := by simpa [there] using here
      refine ⟨.stream cue.stream t.clock,
        { q with run := ((t.scene q).turn (.stream cue.stream t.clock)).run }, ?_, rfl, ?_, ?_⟩
      · rw [productions, List.getElem?_set_self (List.getElem?_eq_some_iff.1 here).1]
      · exact congrArg (Scene.mk _) cast.symm
      · simp [did, Chronicle.ofRun]
    · refine ⟨.host fun _ => later.cast, p, ?_, rfl, rfl, ?_⟩
      · rw [productions, List.getElem?_set_ne own, here]
      · simp [Scene.beat?, Chronicle.ofRun, own]
  cases moves with
  | rests | yields | rings | waits => exact ⟨.host id, p, here, rfl, rfl, rfl⟩
  | performs turn there did going => exact steps there did rfl rfl
  | pauses turn there did paused => exact steps there did rfl rfl
  | launches heroMode scripts =>
    refine ⟨.host id, p, ?_, rfl, rfl, rfl⟩
    exact (List.getElem?_append_left (List.getElem?_eq_some_iff.1 here).1).trans here
  | hosts edit tickets => exact ⟨.host fun _ => (edit t.workspace).cast, p, here, rfl, rfl, rfl⟩

/-- What happens in a theatre comes, for each of its runs, to turns in the scene of the run, and the
chronicle of the run is their history. -/
theorem exists_turns (here : t.productions[number]? = some p) (acts : List Act) :
    ∃ turns p', (t.after acts).productions[number]? = some p' ∧ p'.start = p.start ∧
      (t.scene p).play turns = (t.after acts).scene p' ∧
      (t.scene p).beats turns = (t.chronicle acts).ofRun number := by
  induction acts generalizing t p with
  | nil => exact ⟨[], p, here, rfl, rfl, rfl⟩
  | cons act rest ih =>
    obtain ⟨turn, q, there, start, turned, did⟩ := exists_turn_of_moves (t.moves_act act) here
    obtain ⟨turns, p', there', start', played, past⟩ := ih there
    refine ⟨turn :: turns, p', there', start'.trans start, ?_, ?_⟩
    · rw [Scene.play_cons, turned, played, after_cons]
    · rw [Scene.beats, did, turned, past, chronicle, Chronicle.ofRun_append]

/-- Streams stay in their places. -/
theorem exists_performs_after {cue : Cue} {s : Stream} (performs : t.Performs cue p s)
    (acts : List Act) :
    ∃ p' s', (t.after acts).Performs cue p' s' ∧ p'.start = p.start := by
  obtain ⟨here, place⟩ := performs
  obtain ⟨turns, p', there, start, played, -⟩ := exists_turns here acts
  have streams := Scene.length_streams_play (t.scene p) turns
  rw [played] at streams
  have within : cue.stream < p'.run.streams.length :=
    Nat.lt_of_lt_of_eq (List.getElem?_eq_some_iff.1 place).1 streams.symm
  exact ⟨p', _, ⟨there, List.getElem?_eq_getElem within⟩, start⟩

/-- A run that is launched starts at once, after all others. -/
theorem productions_launch (t : Theatre) (heroMode : Bool) (scripts : List (SpriteId × Script)) :
    (t.launch heroMode scripts).state.productions[t.productions.length]? = some
      { run := .ofScripts t.workspace.settings heroMode scripts, start := t.clock } :=
  List.getElem?_concat_length

/-! ## Theatres that are reached -/

/-- A theatre that comes of a number of acts, with its chronicle from the start on. -/
def Reached (t : Theatre) (past : Chronicle) : Prop :=
  ∃ workspace stopwatch acts, (ofWorkspace workspace stopwatch).after acts = t ∧
    (ofWorkspace workspace stopwatch).chronicle acts = past

variable {past : Chronicle}

/-- Whatever acts lead to is reached. -/
theorem reached_after (workspace : Workspace) (stopwatch : Nat → Nat) (acts : List Act) :
    ((ofWorkspace workspace stopwatch).after acts).Reached
      ((ofWorkspace workspace stopwatch).chronicle acts) :=
  ⟨workspace, stopwatch, acts, rfl, rfl⟩

/-- More acts lead on to other theatres that are reached. -/
theorem Reached.after (reached : t.Reached past) (acts : List Act) :
    (t.after acts).Reached (past ++ t.chronicle acts) := by
  obtain ⟨workspace, stopwatch, earlier, rfl, rfl⟩ := reached
  exact ⟨workspace, stopwatch, earlier ++ acts, after_append _ _ _, chronicle_append _ _ _⟩

/-- No act takes a run away. -/
theorem length_productions_of_moves (moves : t.Moves act moment next) :
    t.productions.length ≤ next.productions.length := by
  cases moves with
  | rests | yields | rings | waits | hosts => exact Nat.le_refl _
  | performs | pauses => exact Nat.le_of_eq (List.length_set ..).symm
  | launches => simp [launch]

/-- What the streams do is heard only of runs that were started. -/
theorem heard_of_moves (heard : ∀ m ∈ past, m.run < t.productions.length)
    (moves : t.Moves act moment next) :
    ∀ m ∈ past ++ moment.toList, m.run < next.productions.length := by
  have more := length_productions_of_moves moves
  intro m member
  rcases List.mem_append.1 member with old | new
  · exact Nat.lt_of_lt_of_le (heard m old) more
  · cases moves with
    | rests | yields | rings | waits | launches | hosts => exact nomatch new
    | performs turn here did going | pauses turn here did paused =>
      obtain rfl := List.mem_singleton.1 new
      exact Nat.lt_of_lt_of_le (List.getElem?_eq_some_iff.1 here).1 more

/-- What holds where nothing happened yet and is kept by every move holds wherever one gets. -/
theorem Reached.induction {motive : Chronicle → Theatre → Prop} (reached : t.Reached past)
    (initial : ∀ workspace stopwatch, motive [] (ofWorkspace workspace stopwatch))
    (step : ∀ {past now act moment next}, (∀ m ∈ past, m.run < now.productions.length) →
      motive past now → Moves now act moment next → motive (past ++ moment.toList) next) :
    motive past t := by
  obtain ⟨workspace, stopwatch, acts, rfl, rfl⟩ := reached
  refine (chronicle_induction (motive := fun past now =>
    (∀ m ∈ past, m.run < now.productions.length) ∧ motive past now)
    ⟨nofun, initial workspace stopwatch⟩ ?_).2
  rintro past now act moment next - ⟨heard, holds⟩ moves
  exact ⟨heard_of_moves heard moves, step heard holds moves⟩

/-- What is told is told of runs that were started. -/
theorem Reached.heard (reached : t.Reached past) : ∀ m ∈ past, m.run < t.productions.length :=
  reached.induction (motive := fun past t => ∀ m ∈ past, m.run < t.productions.length)
    (fun _ _ => nofun) fun heard _ moves => heard_of_moves heard moves

/-- A production after a move is one that was there before, or it is launched. -/
theorem production_of_moves (moves : t.Moves act moment next) {p' : Production}
    (there : next.productions[number]? = some p') :
    (∃ p, t.productions[number]? = some p ∧ p'.start = p.start) ∨
      moment = none ∧ number = t.productions.length ∧ p'.start = next.clock ∧
        ∃ settings heroMode scripts,
          next.scene p' = Scene.opening settings heroMode scripts next.cast := by
  by_cases old : number < t.productions.length
  · obtain ⟨turn, p'', there', start, -⟩ :=
      exists_turn_of_moves moves (List.getElem?_eq_getElem old)
    obtain rfl : p'' = p' := by simpa [there'] using there
    exact .inl ⟨_, List.getElem?_eq_getElem old, start⟩
  right
  have within := (List.getElem?_eq_some_iff.1 there).1
  cases moves with
  | rests | yields | rings | waits | hosts => exact absurd within old
  | performs | pauses => exact absurd (Nat.lt_of_lt_of_eq within (List.length_set ..)) old
  | launches heroMode scripts =>
    obtain rfl : number = t.productions.length := by
      simp only [launch, List.length_append, List.length_cons, List.length_nil] at within
      omega
    obtain rfl := Option.some.inj (there.symm.trans (t.productions_launch heroMode scripts))
    exact ⟨rfl, rfl, rfl, _, heroMode, scripts, rfl⟩

/-- The runs of a theatre are runs of scripts, each with its chronicle as its history. -/
theorem Reached.exists_opening (reached : t.Reached past) :
    ∀ (number : Nat) (p : Production), t.productions[number]? = some p →
      ∃ settings heroMode scripts cast turns,
        (Scene.opening settings heroMode scripts cast).play turns = t.scene p ∧
          (Scene.opening settings heroMode scripts cast).beats turns = past.ofRun number := by
  refine reached.induction (motive := fun past t =>
    ∀ (number : Nat) (p : Production), t.productions[number]? = some p →
      ∃ settings heroMode scripts cast turns,
        (Scene.opening settings heroMode scripts cast).play turns = t.scene p ∧
          (Scene.opening settings heroMode scripts cast).beats turns = past.ofRun number)
    (fun workspace stopwatch => nofun) ?_
  intro past t act moment next heard openings moves number p' there
  rcases production_of_moves moves there with ⟨p, here, -⟩ | ⟨rfl, rfl, -, launched⟩
  · obtain ⟨settings, heroMode, scripts, cast, turns, played, history⟩ := openings number p here
    obtain ⟨turn, p'', there', -, turned, did⟩ := exists_turn_of_moves moves here
    obtain rfl : p'' = p' := by simpa [there'] using there
    refine ⟨settings, heroMode, scripts, cast, turns ++ [turn], ?_, ?_⟩
    · rw [Scene.play_append, played, Scene.play_cons, turned, Scene.play_nil]
    · rw [Scene.beats_append, played, history, Chronicle.ofRun_append, ← did, Scene.beats,
        Scene.beats, List.append_nil]
  · obtain ⟨settings, heroMode, scripts, opened⟩ := launched
    refine ⟨settings, heroMode, scripts, next.cast, [], opened.symm, ?_⟩
    rw [Option.toList_none, List.append_nil, Chronicle.ofRun_eq_nil heard, Scene.beats]

end Theatre

end Troupe
