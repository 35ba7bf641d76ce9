/-!
# Alarms

A stream that pauses sets an alarm for the time at which it goes on. Alarms are kept in the order in
which they go off: the earlier one first, and of two at the same time the one that was set first.
-/

namespace Troupe

/-- A stream of a run, by the number of the run and the place of the stream in it. -/
structure Cue where
  /-- The number of the run. -/
  run : Nat
  /-- The place of the stream. -/
  stream : Nat
deriving DecidableEq, Repr

/-- When a stream goes on. -/
structure Alarm where
  /-- The time. -/
  due : Nat
  /-- The stream. -/
  cue : Cue
deriving DecidableEq, Repr

namespace Alarm

/-- Alarms with another one set. -/
def set (alarm : Alarm) : List Alarm → List Alarm
  | [] => [alarm]
  | a :: rest => if a.due ≤ alarm.due then a :: set alarm rest else alarm :: a :: rest

/-- An alarm that is set is one more. -/
@[simp] theorem length_set (alarm : Alarm) (alarms : List Alarm) :
    (alarm.set alarms).length = alarms.length + 1 := by
  induction alarms with
  | nil => rfl
  | cons a rest ih => simp only [set]; split <;> simp [ih]

/-- The alarms are the one that is set and the others. -/
@[simp] theorem mem_set {a alarm : Alarm} {alarms : List Alarm} :
    a ∈ alarm.set alarms ↔ a = alarm ∨ a ∈ alarms := by
  induction alarms with
  | nil => simp [set]
  | cons b rest ih =>
    simp only [set]
    split
    · simp only [List.mem_cons, ih]
      exact or_left_comm
    · simp

/-- Setting an alarm adds it to the others. -/
theorem perm_set (alarm : Alarm) (alarms : List Alarm) :
    (alarm.set alarms).Perm (alarm :: alarms) := by
  induction alarms with
  | nil => exact .refl _
  | cons a rest ih =>
    simp only [set]
    split
    · exact (ih.cons a).trans (.swap alarm a rest)
    · exact .refl _

/-- The order in which alarms go off is kept. -/
theorem pairwise_set (alarm : Alarm) {alarms : List Alarm}
    (h : alarms.Pairwise fun a b => a.due ≤ b.due) :
    (alarm.set alarms).Pairwise fun a b => a.due ≤ b.due := by
  induction alarms with
  | nil => simp [set]
  | cons a rest ih =>
    obtain ⟨first, others⟩ := List.pairwise_cons.1 h
    simp only [set]
    split
    · rename_i early
      refine List.pairwise_cons.2 ⟨fun b hb => ?_, ih others⟩
      rcases mem_set.1 hb with rfl | old
      · exact early
      · exact first b old
    · rename_i late
      refine List.pairwise_cons.2 ⟨fun b hb => ?_, h⟩
      have : alarm.due ≤ a.due := Nat.le_of_lt (Nat.lt_of_not_le late)
      rcases List.mem_cons.1 hb with rfl | old
      · exact this
      · exact Nat.le_trans this (first b old)

end Alarm

end Troupe
