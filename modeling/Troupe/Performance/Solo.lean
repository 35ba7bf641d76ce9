import Troupe.Performance.Work

/-!
# Solo performances

One sprite performs a script on its own, while the host may change the cast at every pause. The time
of a pause passes at once: the clock is part of the performance and moves by what is paused.
-/

namespace Troupe

/-- A performance that has ended. -/
structure Performance where
  /-- The cast at the end. -/
  cast : Cast
  /-- The time at the end, in milliseconds since the start. -/
  clock : Nat
  /-- What happened, in order. -/
  log : List Event

namespace Performance

/-- Performs work from a time on. `host n` is what the host does to the cast at the `n`-th pause. -/
def ofWork (movePause : Nat) (who : SpriteId) (host : Nat → Cast → Cast) (pauses clock : Nat)
    (cast : Cast) (work : Work) : Performance :=
  match h : work.next? movePause with
  | none => { cast, clock, log := [] }
  | some (action, rest) =>
    have : (rest.trace movePause).length < (work.trace movePause).length := by
      rw [Work.length_trace_of_next? h]; exact Nat.lt_succ_self _
    let told := action.events who clock cast
    let after := match action.pause? with
      | some duration =>
        ofWork movePause who host (pauses + 1) (clock + duration) (host pauses cast) rest
      | none => ofWork movePause who host pauses clock (action.perform who cast) rest
    { after with log := told ++ after.log }
termination_by (work.trace movePause).length

/-- Performs a script. -/
def ofScript (movePause : Nat) (who : SpriteId) (host : Nat → Cast → Cast) (cast : Cast)
    (script : Script) : Performance :=
  ofWork movePause who host 0 0 cast (.ofScript script)

end Performance

end Troupe
