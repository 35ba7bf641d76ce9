import Troupe.Proofs.Theatre.Chronicle

/-!
# Operations as acts

Whatever is done with a theatre comes to acts. A stream that is resumed, the streams that settle and
the alarms that go off until a run has ended are streams that go on, a number of times
(`Theatre.GoesOnTo`); letting time pass also waits, after that. So what holds for every list of acts
holds whatever operations the host does, and in whatever order.
-/

namespace Troupe.Theatre

/-- The streams of a theatre go on to another state of it. -/
def GoesOnTo (t later : Theatre) : Prop := ∃ n, t.after (List.replicate n .goOn) = later

variable {t later : Theatre} {cue : Cue} {rest : List Cue} {p : Production}

/-- A theatre goes on to itself. -/
theorem GoesOnTo.refl (t : Theatre) : t.GoesOnTo t := ⟨0, rfl⟩

/-- Going on twice is going on. -/
theorem GoesOnTo.trans {last : Theatre} (first : t.GoesOnTo later) (second : later.GoesOnTo last) :
    t.GoesOnTo last := by
  obtain ⟨n, rfl⟩ := first
  obtain ⟨m, rfl⟩ := second
  exact ⟨n + m, by rw [← List.replicate_append_replicate, after_append]⟩

/-- A theatre goes on to where one turn leads. -/
theorem goesOnTo_goOn (t : Theatre) : t.GoesOnTo t.goOn := ⟨1, rfl⟩

/-! ## Resuming streams -/

/-- A stream that makes no step loses its turn. -/
theorem goOn_of_step?_eq_none (turn : t.ready = cue :: rest)
    (there : t.productions[cue.run]? = some p)
    (nothing : p.run.step? cue.stream t.clock t.cast = none) :
    t.goOn = { t with ready := rest } := by
  simp [goOn, turn, step?, there, nothing]

/-- A stream that makes a step keeps its turn unless it pauses; then it waits. -/
theorem goOn_of_step? {step : Step} (turn : t.ready = cue :: rest)
    (there : t.productions[cue.run]? = some p)
    (made : p.run.step? cue.stream t.clock t.cast = some step) :
    t.goOn =
      { t.setScene cue.run p { run := step.run, cast := step.cast } with
        ready := if step.pause.isSome then rest else cue :: rest
        alarms := schedule t.alarms cue t.clock step.pause } := by
  simp [goOn, turn, step?, there, made]

/-- A stream that is resumed makes its steps one after the other, up to its next pause or its
end. -/
theorem goesOnTo_perform (turn : t.ready = cue :: rest) :
    t.GoesOnTo { (t.perform cue).state with ready := rest } := by
  cases there : t.productions[cue.run]? with
  | none =>
    have gone : t.goOn = { t with ready := rest } := by simp [goOn, turn, step?, there]
    simpa only [perform, there, gone] using t.goesOnTo_goOn
  | some p =>
    simp only [perform, there]
    -- The steps that the run has left become fewer with every step of the stream.
    induction left : p.run.stepsLeft using Nat.strongRecOn generalizing t p with
    | ind n ih =>
      subst left
      rw [Run.resume]
      split
      · rename_i nothing
        obtain ⟨within, here⟩ := List.getElem?_eq_some_iff.1 there
        have unchanged : t.productions.set cue.run p = t.productions := by
          rw [← here, List.set_getElem_self within]
        have gone := goOn_of_step?_eq_none turn there nothing
        rw [unchanged]
        exact gone ▸ t.goesOnTo_goOn
      · rename_i step made
        have gone := goOn_of_step? turn there made
        split
        · rename_i duration paused
          rw [paused] at gone
          rw [paused]
          exact gone ▸ t.goesOnTo_goOn
        · rename_i going
          rw [going] at gone
          refine t.goesOnTo_goOn.trans ?_
          have turn' : t.goOn.ready = cue :: rest := by rw [gone]; rfl
          have there' : t.goOn.productions[cue.run]? = some { p with run := step.run } := by
            rw [gone]
            exact List.getElem?_set_self (List.getElem?_eq_some_iff.1 there).1
          have onwards := ih _ (Run.stepsLeft_of_step? made) turn' _ there' rfl
          rw [gone] at onwards ⊢
          simpa only [setScene, setCast, cast, schedule, List.set_set] using onwards

/-- Streams that are resumed one after the other go on. -/
theorem goesOnTo_performAll (quiet : t.ready = []) (cues : List Cue) :
    GoesOnTo { t with ready := cues } (t.performAll cues).state ∧
      (t.performAll cues).state.ready = [] ∧ (t.performAll cues).state.clock = t.clock := by
  induction cues generalizing t with
  | nil =>
    have same : { t with ready := [] } = t := by rw [← quiet]
    exact ⟨same.symm ▸ GoesOnTo.refl t, quiet, rfl⟩
  | cons cue rest ih =>
    have same : ({ t with ready := cue :: rest }.perform cue).state =
        { (t.perform cue).state with ready := cue :: rest } := by
      simp only [perform]
      cases t.productions[cue.run]? <;> rfl
    have kept : (t.perform cue).state.ready = [] ∧ (t.perform cue).state.clock = t.clock := by
      simp only [perform]
      cases t.productions[cue.run]? <;> exact ⟨quiet, rfl⟩
    have first := goesOnTo_perform (t := { t with ready := cue :: rest }) rfl
    obtain ⟨others, silent, clock⟩ := ih kept.1
    rw [same] at first
    exact ⟨first.trans others, silent, clock.trans kept.2⟩

/-- Streams that settle go on until all of them pause or have ended. -/
theorem goesOnTo_settle (t : Theatre) :
    t.GoesOnTo t.settle.state ∧ t.settle.state.ready = [] ∧ t.settle.state.clock = t.clock :=
  goesOnTo_performAll (t := { t with ready := [] }) rfl t.ready

/-! ## Letting alarms go off -/

/-- An alarm that goes off is one of the things that come when the streams go on. -/
theorem goesOnTo_fire {alarm : Alarm} {others : List Alarm} (quiet : t.ready = [])
    (first : t.alarms = alarm :: others) :
    t.GoesOnTo (t.fire alarm others).state ∧ (t.fire alarm others).state.ready = [] ∧
      (t.fire alarm others).state.clock = alarm.due := by
  have gone : t.goOn =
      { t with clock := alarm.due, ready := t.ready ++ [alarm.cue], alarms := others } := by
    simp [goOn, quiet, first]
  obtain ⟨settles, silent, clock⟩ := goesOnTo_settle t.goOn
  have onwards := t.goesOnTo_goOn.trans settles
  rw [gone] at onwards silent clock
  exact ⟨onwards, silent, clock⟩

/-- When a run is waited for, streams go on. -/
theorem goesOnTo_fireUntilFinished (quiet : t.ready = []) (number : Nat) :
    t.GoesOnTo (t.fireUntilFinished number).state ∧
      (t.fireUntilFinished number).state.ready = [] := by
  fun_induction fireUntilFinished t number with
  | case1 t finished => exact ⟨.refl t, quiet⟩
  | case2 t going none => exact ⟨.refl t, quiet⟩
  | case3 t going alarm others first fired fewer ih =>
    obtain ⟨fires, silent, -⟩ := goesOnTo_fire quiet first
    obtain ⟨onwards, last⟩ := ih silent
    exact ⟨fires.trans onwards, last⟩

/-- When time passes, the streams go on whose alarms are due by then. -/
theorem goesOnTo_fireUntil (quiet : t.ready = []) {time : Nat} (later : t.clock ≤ time) :
    t.GoesOnTo (t.fireUntil time).state ∧ (t.fireUntil time).state.ready = [] ∧
      (t.fireUntil time).state.clock ≤ time ∧
      ∀ a ∈ (t.fireUntil time).state.alarms.head?, time ≤ a.due := by
  fun_induction fireUntil t time with
  | case1 t none => exact ⟨.refl t, quiet, later, by simp [none]⟩
  | case2 t alarm others first due fired fewer ih =>
    obtain ⟨fires, silent, clock⟩ := goesOnTo_fire quiet first
    obtain ⟨onwards, last⟩ := ih silent (clock ▸ due)
    exact ⟨fires.trans onwards, last⟩
  | case3 t alarm others first early =>
    refine ⟨.refl t, quiet, later, fun a member => ?_⟩
    obtain rfl : alarm = a := by simpa [first] using member
    exact Nat.le_of_lt (Nat.lt_of_not_le early)

/-! ## The operations -/

/-- Waiting for a run comes to streams that go on. -/
theorem goesOnTo_await (t : Theatre) (number : Nat) :
    t.GoesOnTo (t.await number).state ∧ (t.await number).state.ready = [] := by
  obtain ⟨settles, silent, -⟩ := goesOnTo_settle t
  obtain ⟨onwards, last⟩ := goesOnTo_fireUntilFinished silent number
  exact ⟨settles.trans onwards, last⟩

/-- Letting time pass comes to streams that go on, and to waiting. -/
theorem exists_after_eq_advance (t : Theatre) (duration : Nat) :
    ∃ n, t.after (List.replicate n .goOn ++ [.wait (t.clock + duration)]) =
      (t.advance duration).state := by
  obtain ⟨settles, silent, clock⟩ := goesOnTo_settle t
  have later : t.settle.state.clock ≤ t.clock + duration := by omega
  obtain ⟨onwards, last, past, early⟩ := goesOnTo_fireUntil silent later
  obtain ⟨n, reached⟩ := settles.trans onwards
  refine ⟨n, ?_⟩
  rw [after_append, reached, after_cons, after_nil, act, if_pos ⟨last, past, early⟩]
  rfl

/-- Starting a run comes to a launch, for which the host keeps a ticket. -/
theorem after_eq_startScripts (t : Theatre) (heroMode : Bool)
    (scripts : List (SpriteId × Script)) :
    t.after [.launch heroMode scripts, .host id (t.tickets ++ [some t.productions.length])] =
      (t.startScripts heroMode scripts).state :=
  rfl

end Troupe.Theatre
