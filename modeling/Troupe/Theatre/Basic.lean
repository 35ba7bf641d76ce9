import Troupe.Run.Resume
import Troupe.Theatre.Alarm
import Troupe.Workspace

/-!
# Theatres

A theatre has a workspace, a clock and the runs that were started. Its streams take turns: a stream
that may go on is resumed, the first one first, until all of them pause or have ended; then the
clock moves on to the first alarm. All streams act on the cast of the workspace, which the user may
change while they pause.

`Theatre.stepsLeft` counts what is still to happen. The main statement, `Theatre.stepsLeft_fire`,
says that every alarm that goes off brings it closer to its end.
-/

namespace Troupe

/-- A run in a theatre. -/
structure Production where
  /-- The run. -/
  run : Run
  /-- When it started. -/
  start : Nat

/-- A workspace whose scripts can be performed. -/
structure Theatre where
  /-- The workspace. -/
  workspace : Workspace
  /-- The time in milliseconds. -/
  clock : Nat := 0
  /-- The runs, in the order they were started. -/
  productions : List Production := []
  /-- The number of the run of every ticket; none if the ticket was given away. -/
  tickets : List (Option Nat) := []
  /-- The streams that may go on. -/
  ready : List Cue := []
  /-- When the other streams go on. -/
  alarms : List Alarm := []
  /-- What the stopwatch of the host shows at every time. -/
  stopwatch : Nat → Nat

namespace Theatre

/-- A theatre in which nothing happened yet. -/
def ofWorkspace (workspace : Workspace) (stopwatch : Nat → Nat) : Theatre :=
  { workspace, stopwatch }

/-- The sprites on the stage. -/
def cast (t : Theatre) : Cast := t.workspace.cast

/-- The milliseconds between two times, as far as the stopwatch shows them. -/
def elapsed (t : Theatre) (start finish : Nat) : Nat := t.stopwatch finish - t.stopwatch start

/-- The theatre with another cast. -/
def setCast (t : Theatre) (cast : Cast) : Theatre :=
  { t with workspace := { t.workspace with cast } }

/-- An operation on the workspace. -/
def edit {α : Type} (t : Theatre) (operation : Workspace → Outcome Workspace α) :
    Outcome Theatre α :=
  (operation t.workspace).lift fun workspace => { t with workspace }

/-- Alarms after the stream of a cue paused, if it did. -/
def schedule (alarms : List Alarm) (cue : Cue) (clock : Nat) : Option Nat → List Alarm
  | some duration => Alarm.set { due := clock + duration, cue } alarms
  | none => alarms

/-- The stream of a cue resumed. -/
def perform (t : Theatre) (cue : Cue) : Outcome Theatre Unit :=
  match t.productions[cue.run]? with
  | none => { answer := (), state := t }
  | some p =>
    let step := p.run.resume cue.stream t.clock t.cast
    { answer := ()
      state :=
        { t.setCast step.cast with
          productions := t.productions.set cue.run { p with run := step.run }
          alarms := schedule t.alarms cue t.clock step.pause }
      log := step.log }

/-- Resumes the given streams, one after the other. -/
def performAll (t : Theatre) : List Cue → Outcome Theatre Unit
  | [] => { answer := (), state := t }
  | cue :: rest =>
    let first := t.perform cue
    (performAll first.state rest).following first.log

/-- Resumes the streams that may go on. -/
def settle (t : Theatre) : Outcome Theatre Unit := performAll { t with ready := [] } t.ready

/-- Lets an alarm go off, the others being left. -/
def fire (t : Theatre) (alarm : Alarm) (others : List Alarm) : Outcome Theatre Unit :=
  settle { t with clock := alarm.due, ready := t.ready ++ [alarm.cue], alarms := others }

/-- What is still to happen: the steps that the streams have to do and the alarms that are set. -/
def stepsLeft (t : Theatre) : Nat :=
  tally (·.run.stepsLeft) t.productions + t.alarms.length

/-- A pause sets one alarm. -/
theorem length_schedule (alarms : List Alarm) (cue : Cue) (clock : Nat) (pause : Option Nat) :
    (schedule alarms cue clock pause).length = alarms.length + pause.toList.length := by
  cases pause <;> simp [schedule]

/-- Resuming a stream adds nothing to what is still to happen. -/
theorem stepsLeft_perform (t : Theatre) (cue : Cue) :
    (t.perform cue).state.stepsLeft ≤ t.stepsLeft := by
  simp only [perform]
  split
  · exact Nat.le_refl _
  · rename_i p hp
    have moved := tally_set (fun p : Production => p.run.stepsLeft)
      { p with run := (p.run.resume cue.stream t.clock t.cast).run } hp
    dsimp only at moved
    have done := Run.stepsLeft_resume p.run cue.stream t.clock t.cast
    simp only [stepsLeft, length_schedule]
    omega

/-- Resuming streams one after the other adds nothing to what is still to happen. -/
theorem stepsLeft_performAll (t : Theatre) (cues : List Cue) :
    (t.performAll cues).state.stepsLeft ≤ t.stepsLeft := by
  induction cues generalizing t with
  | nil => exact Nat.le_refl _
  | cons cue rest ih => exact Nat.le_trans (ih _) (stepsLeft_perform t cue)

/-- Settling adds nothing to what is still to happen. -/
theorem stepsLeft_settle (t : Theatre) : t.settle.state.stepsLeft ≤ t.stepsLeft :=
  stepsLeft_performAll _ _

/-- An alarm that goes off brings the end closer. -/
theorem stepsLeft_fire {t : Theatre} {alarm : Alarm} {others : List Alarm}
    (h : t.alarms = alarm :: others) : (t.fire alarm others).state.stepsLeft < t.stepsLeft := by
  refine Nat.lt_of_le_of_lt (stepsLeft_settle _) ?_
  simp [stepsLeft, h]

/-- Lets the alarms go off that are due by a time, also those that are set meanwhile. -/
def fireUntil (t : Theatre) (time : Nat) : Outcome Theatre Unit :=
  match h : t.alarms with
  | [] => { answer := (), state := t }
  | alarm :: others =>
    if alarm.due ≤ time then
      let fired := t.fire alarm others
      have : fired.state.stepsLeft < t.stepsLeft := stepsLeft_fire h
      (fireUntil fired.state time).following fired.log
    else { answer := (), state := t }
termination_by t.stepsLeft

/-- Whether a run has ended. -/
def isFinished (t : Theatre) (run : Nat) : Bool :=
  match t.productions[run]? with
  | some p => p.run.isFinished
  | none => true

/-- Lets alarms go off until a run has ended. -/
def fireUntilFinished (t : Theatre) (run : Nat) : Outcome Theatre Unit :=
  if t.isFinished run then { answer := (), state := t }
  else
    match h : t.alarms with
    | [] => { answer := (), state := t }
    | alarm :: others =>
      let fired := t.fire alarm others
      have : fired.state.stepsLeft < t.stepsLeft := stepsLeft_fire h
      (fireUntilFinished fired.state run).following fired.log
termination_by t.stepsLeft

end Theatre

end Troupe
