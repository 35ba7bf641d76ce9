import Troupe.Encounter
import Troupe.Performance.Work
import Troupe.Settings
import Troupe.Tally

/-!
# Runs

A run has one stream for each script it was started with. `Run.step?` is the smallest thing a stream
does without another one doing something in between: it begins its next block, performs one action
of the block it has begun, or completes that block. When it completes a block in hero mode, it also
exchanges its remaining blocks with the stream that it meets. A stream that finds no next block
ends.

`Run.stepsLeft` bounds the steps that all streams of a run still have to do. The main statement,
`Run.stepsLeft_of_step?`, says that every step uses one of them up, whatever is exchanged on the
way.
-/

namespace Troupe

/-- A block in performance. -/
structure Performing where
  /-- The copy of the block that the stream was given. -/
  block : Block
  /-- What it still has to do for it. -/
  work : Work

/-- What a stream does in a step. -/
inductive Deed where
  /-- It begins a block. -/
  | begins (block : Block)
  /-- It performs an action of its block, and the rest of the work is left. -/
  | acts (action : Action) (rest : Work)
  /-- It completes its block. -/
  | completes (block : Block)
  /-- It ends. -/
  | ends

/-- A stream of a run. -/
structure Stream where
  /-- Its blocks. -/
  agenda : Agenda
  /-- The block that it performs; none between two blocks. -/
  performing : Option Performing
  /-- Whether it has ended. -/
  ended : Bool
  /-- How many blocks it performed. -/
  executed : Nat

/-- Scripts performed at the same time. -/
structure Run where
  /-- The streams. -/
  streams : List Stream
  /-- How close sprites meet; outside hero mode they do not. -/
  radius : Option Binary64
  /-- The milliseconds that a sprite rests after a shift. -/
  movePause : Nat
  /-- How often two streams exchanged their remaining blocks. -/
  swaps : Nat

/-- What a step of a stream leads to. -/
structure Step where
  /-- The run after it. -/
  run : Run
  /-- The cast after it. -/
  cast : Cast
  /-- What happened. -/
  log : List Event
  /-- For how long the stream pauses, if it does. -/
  pause : Option Nat

namespace Stream

/-- The stream of a script. -/
def ofScript (sprite : SpriteId) (script : Script) : Stream where
  agenda := .ofScript sprite script
  performing := none
  ended := false
  executed := 0

/-- The stream with a block begun, the upcoming one of its agenda. -/
def begin (s : Stream) (b : Block) : Stream :=
  { s with agenda := s.agenda.begin, performing := some { block := b, work := .ofBlock b } }

/-- The stream with the rest of the work for its block left. -/
def continueWith (s : Stream) (rest : Work) : Stream :=
  { s with performing := s.performing.map fun p => { p with work := rest } }

/-- The stream with its block completed. -/
def complete (s : Stream) : Stream :=
  { s with agenda := s.agenda.advance, performing := none, executed := s.executed + 1 }

/-- The stream ended. -/
def finish (s : Stream) : Stream := { s with ended := true }

/-- A stream with the remaining blocks of another. -/
def takeRemaining (s other : Stream) : Stream :=
  { s with agenda := s.agenda.takeRemaining other.agenda }

/-- What the stream does next. If it performs a block, it does the next action or completes it;
otherwise it begins its next block or ends. -/
def deed (movePause : Nat) (s : Stream) : Deed :=
  match s.performing with
  | some p =>
    match p.work.next? movePause with
    | some (action, rest) => .acts action rest
    | none => .completes p.block
  | none =>
    match s.agenda.upcoming? with
    | some b => .begins b
    | none => .ends

/-- The blocks that a stream has yet to begin. -/
def ahead (s : Stream) : List Block :=
  match s.performing with
  | some _ => s.agenda.remaining
  | none => s.agenda.outstanding

/-- The steps that a block takes: to begin it, to do each of its actions, and to complete it. -/
def blockSteps (movePause : Nat) (b : Block) : Nat :=
  ((Work.ofBlock b).trace movePause).length + 2

/-- The steps until the stream may begin another block, or has ended. -/
def ownSteps (movePause : Nat) (s : Stream) : Nat :=
  (match s.performing with
    | some p => (p.work.trace movePause).length + 1
    | none => 0) + (!s.ended).toNat

/-- The steps that a stream still has to do when no other one exchanges blocks with it. -/
def stepsLeft (movePause : Nat) (s : Stream) : Nat :=
  s.ownSteps movePause + tally (blockSteps movePause) s.ahead

variable {movePause : Nat} {s : Stream}

/-- A stream begins a block when it performs none and one is to come. -/
theorem deed_eq_begins_iff {b : Block} :
    s.deed movePause = .begins b ↔ s.performing = none ∧ s.agenda.upcoming? = some b := by
  simp only [deed]
  split
  · split <;> simp [*]
  · split <;> simp [*]

/-- A stream does the next action of the block that it performs. -/
theorem deed_eq_acts_iff {action : Action} {rest : Work} :
    s.deed movePause = .acts action rest ↔
      ∃ p, s.performing = some p ∧ p.work.next? movePause = some (action, rest) := by
  simp only [deed]
  split
  · split <;> simp [*]
  · split <;> simp [*]

/-- A stream completes the block that it performs when no action is left. -/
theorem deed_eq_completes_iff {b : Block} :
    s.deed movePause = .completes b ↔
      ∃ p, s.performing = some p ∧ p.work.next? movePause = none ∧ p.block = b := by
  simp only [deed]
  split
  · split <;> simp [*]
  · split <;> simp [*]

/-- A stream ends when it performs no block and none is to come. -/
theorem deed_eq_ends_iff :
    s.deed movePause = .ends ↔ s.performing = none ∧ s.agenda.upcoming? = none := by
  simp only [deed]
  split
  · split <;> simp [*]
  · split <;> simp [*]

/-- Beginning a block takes one step. -/
theorem stepsLeft_begin {b : Block} (h : s.deed movePause = .begins b) :
    (s.begin b).stepsLeft movePause + 1 = s.stepsLeft movePause := by
  obtain ⟨idle, next⟩ := deed_eq_begins_iff.1 h
  have parts := Agenda.outstanding_eq_cons_of_upcoming? next
  simp only [stepsLeft, ownSteps, ahead, begin, idle, parts, tally_cons, blockSteps]
  omega

/-- An action takes one step. -/
theorem stepsLeft_continueWith {action : Action} {rest : Work}
    (h : s.deed movePause = .acts action rest) :
    (s.continueWith rest).stepsLeft movePause + 1 = s.stepsLeft movePause := by
  obtain ⟨p, performed, next⟩ := deed_eq_acts_iff.1 h
  have shorter := Work.length_trace_of_next? next
  simp only [stepsLeft, ownSteps, ahead, continueWith, performed, Option.map_some]
  omega

/-- Completing a block takes a step. -/
theorem stepsLeft_complete_lt {b : Block} (h : s.deed movePause = .completes b) :
    s.complete.stepsLeft movePause < s.stepsLeft movePause := by
  obtain ⟨p, performed, -, -⟩ := deed_eq_completes_iff.1 h
  have fewer := Agenda.tally_outstanding_advance_le (a := s.agenda) (blockSteps movePause)
  simp only [stepsLeft, ownSteps, ahead, complete, performed]
  omega

/-- Ending takes one step. -/
theorem stepsLeft_finish (movePause : Nat) (going : s.ended = false) :
    s.finish.stepsLeft movePause + 1 = s.stepsLeft movePause := by
  have same : s.finish.ahead = s.ahead := rfl
  have own : s.finish.ownSteps movePause + 1 = s.ownSteps movePause := by
    simp [ownSteps, finish, going]
  simp only [stepsLeft, same]
  omega

/-- Blocks from another stream replace the remaining ones, and nothing else comes ahead. -/
theorem tally_ahead_takeRemaining (f : Block → Nat) (s t : Stream) :
    tally f (s.takeRemaining t).ahead + tally f s.agenda.remaining ≤
      tally f s.ahead + tally f t.agenda.remaining := by
  cases performed : s.performing with
  | some p =>
    have given := Agenda.tally_remaining_takeRemaining_le (a := s.agenda) (b := t.agenda) f
    simp only [ahead, takeRemaining, performed]
    omega
  | none =>
    simpa only [ahead, takeRemaining, performed] using
      Agenda.tally_outstanding_takeRemaining_le (a := s.agenda) (b := t.agenda) f

/-- Of an exchange, a stream has at most the steps that the blocks given to it take. -/
theorem stepsLeft_takeRemaining (movePause : Nat) (s t : Stream) :
    (s.takeRemaining t).stepsLeft movePause + tally (blockSteps movePause) s.agenda.remaining ≤
      s.stepsLeft movePause + tally (blockSteps movePause) t.agenda.remaining := by
  have replaced := tally_ahead_takeRemaining (blockSteps movePause) s t
  have own : (s.takeRemaining t).ownSteps movePause = s.ownSteps movePause := rfl
  simp only [stepsLeft, own]
  omega

end Stream

namespace Run

/-- The run of scripts. -/
def ofScripts (settings : Settings) (heroMode : Bool) (scripts : List (SpriteId × Script)) :
    Run where
  streams := scripts.map fun (id, script) => .ofScript id script
  radius := if heroMode then some settings.radius else none
  movePause := settings.movePause.toNat
  swaps := 0

/-- Whether every stream has ended. -/
def isFinished (run : Run) : Bool := run.streams.all (·.ended)

/-- The agendas of the streams. -/
def agendas (run : Run) : List Agenda := run.streams.map (·.agenda)

/-- The blocks that each stream still has to perform. -/
def remaining (run : Run) : List (SpriteId × Script) :=
  run.agendas.map fun a => (a.sprite, a.remaining)

/-- The run with the stream at a place replaced. -/
def setStream (run : Run) (i : Nat) (s : Stream) : Run :=
  { run with streams := run.streams.set i s }

/-- Streams after the ones at two places exchanged their remaining blocks. -/
def exchangeAt (streams : List Stream) (i j : Nat) : List Stream :=
  match streams[i]?, streams[j]? with
  | some s, some t => (streams.set i (s.takeRemaining t)).set j (t.takeRemaining s)
  | _, _ => streams

/-- The stream with which the one at a place exchanges its remaining blocks, in hero mode. -/
def partner? (run : Run) (cast : Cast) (i : Nat) : Option Nat := do
  let radius ← run.radius
  Encounter.exchangePartner? radius cast.sprites run.agendas i

/-- The name of the sprite of the stream at a place. -/
def spriteName (run : Run) (cast : Cast) (i : Nat) : String :=
  match run.streams[i]? with
  | some s => cast.nameOf s.agenda.sprite
  | none => ""

/-- The run after the stream at a place exchanged its remaining blocks with the one it meets. -/
def encounter (run : Run) (cast : Cast) (i : Nat) : Step :=
  match run.partner? cast i with
  | none => { run, cast, log := [], pause := none }
  | some j =>
    { run := { run with streams := exchangeAt run.streams i j, swaps := run.swaps + 1 }
      cast
      log := [.remainingSwapped (run.spriteName cast i) (run.spriteName cast j)]
      pause := none }

/-- The step in which the stream `s` at a place does a deed. -/
def follow (run : Run) (i clock : Nat) (cast : Cast) (s : Stream) : Deed → Step
  | .begins b => { run := run.setStream i (s.begin b), cast, log := [], pause := none }
  | .acts action rest =>
    { run := run.setStream i (s.continueWith rest)
      cast := action.perform s.agenda.sprite cast
      log := action.events s.agenda.sprite clock cast
      pause := action.pause? }
  | .completes _ => (run.setStream i s.complete).encounter cast i
  | .ends => { run := run.setStream i s.finish, cast, log := [], pause := none }

/-- One step of the stream at a place, at a time and with a cast. A stream that has ended makes
none. -/
def step? (run : Run) (i : Nat) (clock : Nat) (cast : Cast) : Option Step :=
  match run.streams[i]? with
  | none => none
  | some s =>
    if s.ended then none else some (run.follow i clock cast s (s.deed run.movePause))

/-- The steps that the streams still have to do, at most. -/
def stepsLeft (run : Run) : Nat := tally (Stream.stepsLeft run.movePause) run.streams

/-- A step is what the stream at the place does next, unless it has ended. -/
theorem step?_eq_some_iff {run : Run} {i clock : Nat} {cast : Cast} {step : Step} :
    run.step? i clock cast = some step ↔
      ∃ s, run.streams[i]? = some s ∧ s.ended = false ∧
        run.follow i clock cast s (s.deed run.movePause) = step := by
  simp only [step?]
  cases run.streams[i]? with
  | none => simp
  | some s => cases ended : s.ended <;> simp [ended]

/-- A run gains and loses steps with the stream that changes. -/
theorem stepsLeft_setStream {run : Run} {i : Nat} {s t : Stream} (h : run.streams[i]? = some s) :
    (run.setStream i t).stepsLeft + s.stepsLeft run.movePause =
      run.stepsLeft + t.stepsLeft run.movePause :=
  tally_set _ _ h

/-- An exchange adds no steps. -/
theorem tally_stepsLeft_exchangeAt_le (movePause : Nat) (streams : List Stream) (i j : Nat) :
    tally (Stream.stepsLeft movePause) (exchangeAt streams i j) ≤
      tally (Stream.stepsLeft movePause) streams := by
  simp only [exchangeAt]
  split
  · rename_i s t hi hj
    have gained := Stream.stepsLeft_takeRemaining movePause s t
    have given := Stream.stepsLeft_takeRemaining movePause t s
    have first := tally_set (Stream.stepsLeft movePause) (s.takeRemaining t) hi
    by_cases same : i = j
    · subst same
      obtain rfl : s = t := by simpa [hi] using hj
      rw [List.set_set]
      omega
    · have other : (streams.set i (s.takeRemaining t))[j]? = some t := by
        rw [List.getElem?_set_ne same]
        exact hj
      have second := tally_set (Stream.stepsLeft movePause) (t.takeRemaining s) other
      omega
  · exact Nat.le_refl _

/-- An exchange between streams is one between their agendas. -/
theorem map_agenda_exchangeAt (streams : List Stream) (i j : Nat) :
    (exchangeAt streams i j).map (·.agenda) = Agenda.exchangeAt (streams.map (·.agenda)) i j := by
  simp only [exchangeAt, Agenda.exchangeAt, List.getElem?_map]
  cases streams[i]? <;> cases streams[j]? <;> simp [List.map_set, Stream.takeRemaining]

/-- An encounter adds no steps. -/
theorem stepsLeft_encounter_le (run : Run) (cast : Cast) (i : Nat) :
    (run.encounter cast i).run.stepsLeft ≤ run.stepsLeft := by
  simp only [encounter]
  split
  · exact Nat.le_refl _
  · exact tally_stepsLeft_exchangeAt_le _ _ _ _

/-- Every step is one of those that were left. -/
theorem stepsLeft_of_step? {run : Run} {i clock : Nat} {cast : Cast} {step : Step}
    (h : run.step? i clock cast = some step) : step.run.stepsLeft < run.stepsLeft := by
  obtain ⟨s, hs, going, rfl⟩ := step?_eq_some_iff.1 h
  cases deed : s.deed run.movePause with
  | begins b =>
    have moved := stepsLeft_setStream (t := s.begin b) hs
    have less := Stream.stepsLeft_begin deed
    simp only [follow]
    omega
  | acts action rest =>
    have moved := stepsLeft_setStream (t := s.continueWith rest) hs
    have less := Stream.stepsLeft_continueWith deed
    simp only [follow]
    omega
  | completes b =>
    have moved := stepsLeft_setStream (t := s.complete) hs
    have less := Stream.stepsLeft_complete_lt deed
    have met := stepsLeft_encounter_le (run.setStream i s.complete) cast i
    simp only [follow]
    omega
  | ends =>
    have moved := stepsLeft_setStream (t := s.finish) hs
    have less := Stream.stepsLeft_finish run.movePause going
    simp only [follow]
    omega

end Run

end Troupe
