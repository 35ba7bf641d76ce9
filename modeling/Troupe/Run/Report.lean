import Troupe.Run.Basic

/-!
# Reports of runs

A report tells of every stream of a run, in the order of the streams, how many blocks it performed,
and of the run how many exchanges there were and how long it took.
-/

namespace Troupe

/-- What is told of a stream. -/
structure StreamReport where
  /-- The sprite of the stream. -/
  sprite : SpriteId
  /-- How many blocks the stream performed. Blocks inside others do not count. -/
  executed : Nat
deriving DecidableEq, Repr

/-- What is told of a run. -/
structure Report where
  /-- The streams, in order. -/
  streams : List StreamReport
  /-- How many exchanges there were. -/
  swaps : Nat
  /-- How many milliseconds passed. -/
  duration : Nat
deriving DecidableEq, Repr

/-- The report of a run that took a number of milliseconds. -/
def Run.report (run : Run) (duration : Nat) : Report where
  streams := run.streams.map fun s => { sprite := s.agenda.sprite, executed := s.executed }
  swaps := run.swaps
  duration := duration

namespace Report

/-- How many blocks all streams performed. -/
def total (r : Report) : Nat := tally (·.executed) r.streams

/-- How many blocks the first stream of a sprite performed. -/
def executedBy? (r : Report) (id : SpriteId) : Option Nat :=
  (r.streams.find? (·.sprite = id)).map (·.executed)

/-- The event that tells that a run was waited for. -/
def event (r : Report) : Event := .runFinished r.total r.swaps r.duration

end Report

end Troupe
