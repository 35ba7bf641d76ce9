import Troupe.Run.Basic

/-!
# Resuming a stream

A stream that is resumed does one step after the other until it pauses or has ended; no other stream
does anything in between. The main statement, `Run.stepsLeft_resume`, says that a stream that pauses
has done at least one of the steps that were left.
-/

namespace Troupe.Run

/-- The steps of a stream up to its next pause, or to its end. -/
def resume (run : Run) (i : Nat) (clock : Nat) (cast : Cast) : Step :=
  match h : run.step? i clock cast with
  | none => { run, cast, log := [], pause := none }
  | some step =>
    match step.pause with
    | some _ => step
    | none =>
      have : step.run.stepsLeft < run.stepsLeft := stepsLeft_of_step? h
      let later := resume step.run i clock step.cast
      { later with log := step.log ++ later.log }
termination_by run.stepsLeft

/-- Resuming a stream adds no steps, and takes one away if the stream pauses. -/
theorem stepsLeft_resume (run : Run) (i clock : Nat) (cast : Cast) :
    (run.resume i clock cast).run.stepsLeft +
      (run.resume i clock cast).pause.toList.length ≤ run.stepsLeft := by
  fun_induction resume run i clock cast with
  | case1 => simp
  | case2 run cast step h duration paused =>
    have := stepsLeft_of_step? h
    simp only [paused, Option.toList_some, List.length_cons, List.length_nil]
    omega
  | case3 run cast step h going smaller later ih =>
    exact Nat.le_of_lt (Nat.lt_of_le_of_lt ih smaller)

end Troupe.Run
