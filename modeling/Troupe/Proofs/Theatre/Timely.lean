import Troupe.Proofs.Run.Ending
import Troupe.Proofs.Theatre.Chronicle

/-!
# Streams are on time

Time goes on in a theatre and never back (`Theatre.Clocked`). A stream that pauses goes on as soon
as its pause is over: whatever a stream does, it does when as much time has passed since its run
started as the stream paused for (`Theatre.Timely`). So streams never idle, and a stream that has
ended did so when the time had passed that its completed blocks take (`Theatre.Reached.ends_eq`).
-/

namespace Troupe

/-- For how long the stream of a cue paused. -/
def Chronicle.paused (cue : Cue) (past : Chronicle) : Nat :=
  tally Action.duration (History.ofStream cue.stream (past.ofRun cue.run)).actions

namespace Chronicle

variable {cue : Cue} {m : Moment}

/-- Streams of a run that is still to come have not paused. -/
theorem paused_eq_zero {past : Chronicle} (heard : ∀ m ∈ past, m.run < cue.run) :
    paused cue past = 0 := by
  rw [paused, ofRun_eq_nil heard]
  rfl

/-- The pauses of a stream before and after a time add up. -/
@[simp] theorem paused_append (past later : Chronicle) :
    paused cue (past ++ later) = paused cue past + paused cue later := by
  simp only [paused, ofRun_append, History.ofStream_append, History.actions_append, tally_append]

/-- One moment adds the pause of its own stream. -/
@[simp] theorem paused_singleton :
    paused cue [m] = if m.cue = cue then m.beat.pause?.getD 0 else 0 := by
  by_cases own : m.cue = cue
  · subst own
    have single : (ofRun m.cue.run [m]).ofStream m.cue.stream = [m.beat] := by
      simp [ofRun, Moment.cue, History.ofStream]
    rw [paused, single, History.actions_singleton, if_pos rfl, Beat.pause?]
    cases m.beat.action? <;> rfl
  · have other : (ofRun cue.run [m]).ofStream cue.stream = [] := by
      by_cases run : m.run = cue.run
      · have apart : m.beat.place ≠ cue.stream := by
          intro stream
          exact own (by rw [Moment.cue, run, stream])
        simp [ofRun, run, History.ofStream, apart]
      · simp [ofRun, run, History.ofStream]
    rw [paused, other, if_neg own]
    rfl

/-- The times at which the stream of a cue ended. -/
def ends (cue : Cue) (past : Chronicle) : List Nat :=
  (past.filter fun m => decide (m.cue = cue) && m.beat.isEnd).map (·.clock)

/-- The ends of a stream that come later are told behind the others. -/
theorem ends_append (past later : Chronicle) :
    ends cue (past ++ later) = ends cue past ++ ends cue later := by
  rw [ends, List.filter_append, List.map_append, ends, ends]

/-- A stream without a history did nothing. -/
theorem cue_ne_of_silent {past : Chronicle}
    (silent : History.ofStream cue.stream (past.ofRun cue.run) = []) (member : m ∈ past) :
    m.cue ≠ cue := by
  rintro rfl
  have own : m.beat ∈ ofRun m.cue.run past :=
    List.mem_map_of_mem (List.mem_filter.2 ⟨member, decide_eq_true rfl⟩)
  have heard : m.beat ∈ History.ofStream m.cue.stream (ofRun m.cue.run past) :=
    List.mem_filter.2 ⟨own, decide_eq_true rfl⟩
  rw [silent] at heard
  exact nomatch heard

end Chronicle

namespace Theatre

variable {t next : Theatre} {act : Act} {moment : Option Moment} {past : Chronicle}

/-! ## The clock -/

/-- Alarms are to come, in order, and what happened is over, in order. -/
structure Clocked (t : Theatre) (past : Chronicle) : Prop where
  /-- Alarms go off in order. -/
  alarms : t.alarms.Pairwise fun a b => a.due ≤ b.due
  /-- Alarms are to come. -/
  ahead : ∀ a ∈ t.alarms, t.clock ≤ a.due
  /-- Moments are in order. -/
  moments : past.Pairwise fun m m' => m.clock ≤ m'.clock
  /-- Moments are over. -/
  behind : ∀ m ∈ past, m.clock ≤ t.clock

/-- In a move, time does not go back, and what a stream does is done before time goes on. -/
theorem Clocked.le_of_moves (clocked : t.Clocked past) (moves : t.Moves act moment next) :
    t.clock ≤ next.clock ∧ ∀ m ∈ moment, m.clock = t.clock := by
  cases moves with
  | rests | yields | launches | hosts => exact ⟨Nat.le_refl _, nofun⟩
  | performs | pauses =>
    refine ⟨Nat.le_refl _, fun m member => ?_⟩
    obtain rfl := Option.some.inj member
    rfl
  | rings quiet first => exact ⟨clocked.ahead _ (by simp [first]), nofun⟩
  | waits quiet later early => exact ⟨later, nofun⟩

/-- An act keeps what is told in line with the clock. -/
theorem Clocked.of_moves (clocked : t.Clocked past) (moves : t.Moves act moment next) :
    next.Clocked (past ++ moment.toList) := by
  obtain ⟨later, now⟩ := clocked.le_of_moves moves
  obtain ⟨inOrder, ahead⟩ : next.alarms.Pairwise (fun a b => a.due ≤ b.due) ∧
      ∀ a ∈ next.alarms, next.clock ≤ a.due := by
    cases moves with
    | rests | yields | performs | launches | hosts => exact ⟨clocked.alarms, clocked.ahead⟩
    | pauses turn there did paused =>
      refine ⟨Alarm.pairwise_set _ clocked.alarms, fun a member => ?_⟩
      rcases Alarm.mem_set.1 member with rfl | old
      · exact Nat.le_add_right _ _
      · exact clocked.ahead a old
    | rings quiet first =>
      have alarms := clocked.alarms
      rw [first] at alarms
      obtain ⟨before, others⟩ := List.pairwise_cons.1 alarms
      exact ⟨others, before⟩
    | @waits time quiet later early =>
      refine ⟨clocked.alarms, fun a member => ?_⟩
      have alarms := clocked.alarms
      cases all : t.alarms with
      | nil => simp [all] at member
      | cons first others =>
        have due : time ≤ first.due := early first (by simp [all])
        rw [all] at alarms
        rcases List.mem_cons.1 (all ▸ member) with rfl | other
        · exact due
        · exact Nat.le_trans due ((List.pairwise_cons.1 alarms).1 a other)
  refine ⟨inOrder, ahead, ?_, fun m member => ?_⟩
  · refine List.pairwise_append.2 ⟨clocked.moments, ?_, fun m old m' new => ?_⟩
    · cases moment <;> simp
    · rw [now m' (by simpa using new)]
      exact clocked.behind m old
  · rcases List.mem_append.1 member with old | new
    · exact Nat.le_trans (clocked.behind m old) later
    · rw [now m (by simpa using new)]
      exact later

/-- What is told in a theatre that is reached is in line with the clock. -/
theorem Reached.clocked (reached : t.Reached past) : t.Clocked past :=
  reached.induction (motive := fun past t => t.Clocked past)
    (fun _ _ => ⟨.nil, nofun, .nil, nofun⟩) fun _ => Clocked.of_moves

/-- What happens later happens at a later time. -/
theorem Reached.le_clock (reached : t.Reached past) (acts : List Act) :
    t.clock ≤ (t.after acts).clock ∧ ∀ m ∈ t.chronicle acts, t.clock ≤ m.clock := by
  induction acts generalizing t past with
  | nil => exact ⟨Nat.le_refl _, nofun⟩
  | cons act rest ih =>
    obtain ⟨later, now⟩ := reached.clocked.le_of_moves (t.moves_act act)
    obtain ⟨last, others⟩ := ih (reached.after [act])
    refine ⟨Nat.le_trans later last, fun m member => ?_⟩
    rcases List.mem_append.1 member with first | other
    · exact Nat.le_of_eq (now m (by simpa using first)).symm
    · exact Nat.le_trans later (others m other)

/-! ## Who waits for what -/

/-- When the streams go on that have not ended: at once, or when their alarms go off. -/
def waiting (t : Theatre) : List Alarm :=
  t.ready.map (fun cue => { due := t.clock, cue }) ++ t.alarms

/-- What a move does to the streams that wait, and for how long they pause in it. -/
inductive Requeues (t next : Theatre) (moment : Option Moment) : Prop where
  /-- All wait as before. -/
  | stays (runs : next.productions.length = t.productions.length)
      (same : next.waiting = t.waiting) (unpaused : ∀ cue, Chronicle.paused cue moment.toList = 0)
  /-- A stream that has ended leaves. -/
  | leaves {first : Alarm} (runs : next.productions.length = t.productions.length)
      (before : t.waiting = first :: next.waiting)
      (gone : ∀ p s, t.Performs first.cue p s → s.ended = true) (silent : moment = none)
  /-- A stream pauses. -/
  | pauses {first : Alarm} {others : List Alarm} {duration : Nat}
      (runs : next.productions.length = t.productions.length)
      (before : t.waiting = first :: others)
      (after : next.waiting.Perm ({ first with due := first.due + duration } :: others))
      (paused : ∀ cue, Chronicle.paused cue moment.toList = if first.cue = cue then duration else 0)
  /-- The streams of a new run join. -/
  | joins {heroMode : Bool} {scripts : List (SpriteId × Script)}
      (launched : next = (t.launch heroMode scripts).state)
      (after : next.waiting.Perm
        ((List.range scripts.length).map (fun stream =>
          { due := t.clock, cue := { run := t.productions.length, stream } }) ++ t.waiting))
      (silent : moment = none)

/-- An act tells who waits after it, and for how long. -/
theorem requeues_of_moves (moves : t.Moves act moment next) : t.Requeues next moment := by
  cases moves with
  | rests | hosts => exact .stays rfl rfl fun cue => rfl
  | @yields cue rest turn gone =>
    have before : t.waiting = ⟨t.clock, cue⟩ :: { t with ready := rest }.waiting := by
      simp [waiting, turn]
    exact .leaves rfl before gone rfl
  | performs turn there did going =>
    refine .stays (List.length_set ..) rfl fun cue => ?_
    simp [going]
  | @pauses cue rest p beat duration turn there did paused =>
    have place := Scene.place_of_beat? did
    have before : t.waiting = ⟨t.clock, cue⟩ :: (rest.map (⟨t.clock, ·⟩) ++ t.alarms) := by
      simp [waiting, turn]
    have pause (other : Cue) :
        Chronicle.paused other [{ clock := t.clock, run := cue.run, beat }] =
          if cue = other then duration else 0 := by
      simp [paused, Moment.cue, place]
    exact .pauses (List.length_set ..) before
      (((Alarm.perm_set _ _).append_left _).trans List.perm_middle) pause
  | rings quiet first => exact .stays rfl (by simp [waiting, quiet, first]) fun cue => rfl
  | waits quiet later early => exact .stays rfl (by simp [waiting, quiet]) fun cue => rfl
  | launches heroMode scripts =>
    refine .joins rfl ?_ rfl
    simp only [waiting, launch, List.map_append, List.map_map, List.append_assoc]
    exact List.perm_append_comm_assoc ..

/-- A stream that does something was waiting to go on at that time. -/
theorem mem_waiting_of_moves {m : Moment} (moves : t.Moves act (some m) next) :
    { due := m.clock, cue := m.cue } ∈ t.waiting := by
  cases moves with
  | performs turn there did going | pauses turn there did paused =>
    simp [waiting, turn, Moment.cue, Scene.place_of_beat? did]

/-! ## Streams on time -/

/-- Streams go on when the time has passed for which they paused. -/
structure Timely (t : Theatre) (past : Chronicle) : Prop where
  /-- A stream waits for one thing at a time. -/
  distinct : (t.waiting.map (·.cue)).Nodup
  /-- Streams wait that are there. -/
  known : ∀ a ∈ t.waiting, a.cue.run < t.productions.length
  /-- Streams go on when as much time has passed as they paused for. -/
  due : ∀ a ∈ t.waiting, ∀ p, t.productions[a.cue.run]? = some p →
    a.due = p.start + past.paused a.cue
  /-- Whatever a stream did, as much time had passed as it had paused for. -/
  prompt : ∀ before m after, past = before ++ m :: after →
    ∀ p, t.productions[m.run]? = some p → m.clock = p.start + Chronicle.paused m.cue before
  /-- Streams wait until they have ended. -/
  waits : ∀ cue p s, t.Performs cue p s → s.ended = false → cue ∈ t.waiting.map (·.cue)
  /-- Runs have started. -/
  started : ∀ (number : Nat) (p : Production), t.productions[number]? = some p → p.start ≤ t.clock

/-- A run keeps the time at which it started. -/
theorem exists_start_of_moves {number : Nat} {p' : Production} (moves : t.Moves act moment next)
    (old : number < t.productions.length) (there : next.productions[number]? = some p') :
    ∃ p, t.productions[number]? = some p ∧ p'.start = p.start := by
  rcases production_of_moves moves there with before | ⟨-, rfl, -⟩
  · exact before
  · exact absurd old (Nat.lt_irrefl _)

/-- A stream that has not ended after a move had not ended before it, unless its run is new. -/
theorem performs_of_moves {cue : Cue} {p' : Production} {s' : Stream}
    (moves : t.Moves act moment next) (old : cue.run < t.productions.length)
    (performs : next.Performs cue p' s') (going : s'.ended = false) :
    ∃ p s, t.Performs cue p s ∧ s.ended = false := by
  obtain ⟨there, here'⟩ := performs
  have here := List.getElem?_eq_getElem old
  obtain ⟨turn, p'', there', -, turned, -⟩ := exists_turn_of_moves moves here
  obtain rfl : p'' = p' := by simpa [there'] using there
  have step := Scene.moves_turn (t.scene t.productions[cue.run]) turn
  rw [turned] at step
  obtain ⟨s, before, becomes⟩ := Scene.became_of_moves step here'
  exact ⟨_, s, ⟨here, before⟩, Scene.going_of_becomes becomes going⟩

namespace Timely

/-- An act keeps the cues that wait distinct, and they are those of runs that were started. -/
theorem distinct_of_moves (timely : t.Timely past) (moves : t.Moves act moment next) :
    (next.waiting.map (·.cue)).Nodup ∧ ∀ a ∈ next.waiting, a.cue.run < next.productions.length := by
  obtain ⟨distinct, known, -⟩ := timely
  cases requeues_of_moves moves with
  | stays runs same unpaused =>
    rw [runs, same]
    exact ⟨distinct, known⟩
  | leaves runs before gone silent =>
    rw [before] at distinct known
    rw [runs]
    exact ⟨(List.nodup_cons.1 distinct).2, fun a member => known a (List.mem_cons_of_mem _ member)⟩
  | @pauses first others duration runs before after paused =>
    rw [before] at distinct known
    refine ⟨(after.map _).nodup_iff.2 distinct, fun a member => ?_⟩
    rw [runs]
    rcases List.mem_cons.1 (after.mem_iff.1 member) with rfl | other
    · exact known first List.mem_cons_self
    · exact known a (List.mem_cons_of_mem _ other)
  | @joins heroMode scripts launched after silent =>
    have more : next.productions.length = t.productions.length + 1 := by simp [launched, launch]
    refine ⟨(after.map _).nodup_iff.2 ?_, fun a member => ?_⟩
    · rw [List.map_append, List.map_map]
      refine List.nodup_append.2 ⟨?_, distinct, ?_⟩
      · exact List.pairwise_map.2
          (List.Pairwise.imp (fun apart same => apart (Cue.mk.inj same).2) List.nodup_range)
      · intro cue fresh cue' old same
        obtain ⟨i, -, rfl⟩ := List.mem_map.1 fresh
        obtain ⟨a, member, rfl⟩ := List.mem_map.1 old
        have inside := known a member
        rw [← same] at inside
        exact Nat.lt_irrefl _ inside
    · rw [more]
      rcases List.mem_append.1 (after.mem_iff.1 member) with fresh | old
      · obtain ⟨i, -, rfl⟩ := List.mem_map.1 fresh
        exact Nat.lt_succ_self _
      · exact Nat.lt_succ_of_lt (known a old)

/-- While a run is there, the times stay at which its streams go on. -/
theorem due_of_length (timely : t.Timely past) (moves : t.Moves act moment next) {a : Alarm}
    (member : a ∈ t.waiting) {p' : Production}
    (there : next.productions[a.cue.run]? = some p') : a.due = p'.start + past.paused a.cue := by
  obtain ⟨p, here, start⟩ := exists_start_of_moves moves (timely.known a member) there
  rw [start]
  exact timely.due a member p here

/-- An act keeps every cue waiting for the time at which its stream has paused so far. -/
theorem due_of_moves (timely : t.Timely past) (heard : ∀ m ∈ past, m.run < t.productions.length)
    (moves : t.Moves act moment next) :
    ∀ a ∈ next.waiting, ∀ p', next.productions[a.cue.run]? = some p' →
      a.due = p'.start + Chronicle.paused a.cue (past ++ moment.toList) := by
  intro a member p' there
  rw [Chronicle.paused_append]
  cases requeues_of_moves moves with
  | stays runs same unpaused =>
    rw [unpaused]
    exact timely.due_of_length moves (same ▸ member) there
  | leaves runs before gone silent =>
    subst silent
    exact timely.due_of_length moves (before ▸ List.mem_cons_of_mem _ member) there
  | @pauses first others duration runs before after paused =>
    have distinct := timely.distinct
    rw [before, List.map_cons, List.nodup_cons] at distinct
    rw [paused]
    rcases List.mem_cons.1 (after.mem_iff.1 member) with rfl | other
    · have due := timely.due_of_length moves (a := first) (by simp [before]) there
      rw [if_pos rfl, ← Nat.add_assoc, ← due]
    · have apart : first.cue ≠ a.cue := fun same =>
        distinct.1 (same ▸ List.mem_map_of_mem other)
      rw [if_neg apart]
      exact timely.due_of_length moves (before ▸ List.mem_cons_of_mem _ other) there
  | joins launched after silent =>
    subst silent launched
    rcases List.mem_append.1 (after.mem_iff.1 member) with fresh | old
    · obtain ⟨i, -, rfl⟩ := List.mem_map.1 fresh
      obtain rfl := Option.some.inj (there.symm.trans (t.productions_launch _ _))
      rw [ Chronicle.paused_eq_zero heard]
      rfl
    · exact timely.due_of_length moves old there

/-- An act keeps every moment at the time at which its stream has paused before it. -/
theorem prompt_of_moves (timely : t.Timely past) (heard : ∀ m ∈ past, m.run < t.productions.length)
    (moves : t.Moves act moment next) :
    ∀ before m after, past ++ moment.toList = before ++ m :: after →
      ∀ p', next.productions[m.run]? = some p' →
        m.clock = p'.start + Chronicle.paused m.cue before := by
  -- What was done before the move was done on time.
  have old {before after : Chronicle} {m : Moment} (split : past = before ++ m :: after)
      {p' : Production} (there : next.productions[m.run]? = some p') :
      m.clock = p'.start + Chronicle.paused m.cue before := by
    obtain ⟨p, here, start⟩ := exists_start_of_moves moves (heard m (by simp [split])) there
    rw [start]
    exact timely.prompt before m after split p here
  intro before m after split p' there
  cases moment with
  | none => exact old (by simpa using split) there
  | some new =>
    rcases List.eq_nil_or_concat after with rfl | ⟨earlier, last, rfl⟩
    · obtain ⟨rfl, single⟩ := List.append_inj' split rfl
      obtain rfl : new = m := by simpa using single
      exact timely.due_of_length moves (mem_waiting_of_moves moves) there
    · rw [List.concat_eq_append, ← List.cons_append, ← List.append_assoc] at split
      exact old (List.append_inj' split rfl).1 there

/-- An act keeps every stream waiting that has not ended. -/
theorem waits_of_moves (timely : t.Timely past) (moves : t.Moves act moment next) :
    ∀ cue p' s', next.Performs cue p' s' → s'.ended = false →
      cue ∈ next.waiting.map (·.cue) := by
  intro cue p' s' performs going
  -- A stream of a run that was there before waited, and had not ended.
  have old (before : cue.run < t.productions.length) :
      ∃ p s, t.Performs cue p s ∧ s.ended = false ∧ cue ∈ t.waiting.map (·.cue) := by
    obtain ⟨p, s, earlier, unended⟩ := performs_of_moves moves before performs going
    exact ⟨p, s, earlier, unended, timely.waits cue p s earlier unended⟩
  have within : cue.run < next.productions.length := (List.getElem?_eq_some_iff.1 performs.1).1
  cases requeues_of_moves moves with
  | stays runs same unpaused =>
    obtain ⟨p, s, -, -, waits⟩ := old (runs ▸ within)
    rwa [same]
  | leaves runs before gone silent =>
    obtain ⟨p, s, earlier, unended, waits⟩ := old (runs ▸ within)
    rw [before, List.map_cons, List.mem_cons] at waits
    rcases waits with rfl | other
    · simp [gone p s earlier] at unended
    · exact other
  | pauses runs before after paused =>
    obtain ⟨p, s, -, -, waits⟩ := old (runs ▸ within)
    rw [before] at waits
    exact (after.map _).mem_iff.2 waits
  | @joins heroMode scripts launched after silent =>
    subst launched
    refine (after.map _).mem_iff.2 ?_
    rw [List.map_append, List.map_map]
    by_cases before : cue.run < t.productions.length
    · obtain ⟨p, s, -, -, waits⟩ := old before
      exact List.mem_append_right _ waits
    · obtain ⟨there, here⟩ := performs
      have last : cue.run = t.productions.length := by
        simp only [launch, List.length_append, List.length_cons, List.length_nil] at within
        omega
      rw [last] at there
      obtain rfl := Option.some.inj (there.symm.trans (t.productions_launch heroMode scripts))
      have place : cue.stream < scripts.length :=
        Nat.lt_of_lt_of_eq (List.getElem?_eq_some_iff.1 here).1 (List.length_map _)
      refine List.mem_append_left _ (List.mem_map.2 ⟨cue.stream, List.mem_range.2 place, ?_⟩)
      rw [Function.comp_apply, ← last]

/-- An act keeps a theatre timely. -/
theorem of_moves (timely : t.Timely past) (clocked : t.Clocked past)
    (heard : ∀ m ∈ past, m.run < t.productions.length) (moves : t.Moves act moment next) :
    next.Timely (past ++ moment.toList) where
  distinct := (timely.distinct_of_moves moves).1
  known := (timely.distinct_of_moves moves).2
  due := timely.due_of_moves heard moves
  prompt := timely.prompt_of_moves heard moves
  waits := timely.waits_of_moves moves
  started number p' there := by
    have later := (clocked.le_of_moves moves).1
    rcases production_of_moves moves there with ⟨p, here, start⟩ | ⟨-, -, start, -⟩
    · have before := timely.started number p here
      omega
    · exact Nat.le_of_eq start

end Timely

/-- A theatre that is reached is timely. -/
theorem Reached.timely (reached : t.Reached past) : t.Timely past := by
  refine (reached.induction (motive := fun past t => t.Clocked past ∧ t.Timely past)
    (fun _ _ => ⟨⟨.nil, nofun, .nil, nofun⟩, ?_⟩) ?_).2
  · exact ⟨.nil, nofun, nofun, fun before m after split => by simp at split,
      fun cue p s performs => (nomatch performs.1), nofun⟩
  · rintro past now act moment next heard ⟨clocked, timely⟩ moves
    exact ⟨clocked.of_moves moves, timely.of_moves clocked heard moves⟩

/-! ## When streams end -/

section Ends

variable {cue : Cue} {p : Production} {s : Stream}

/-- The history of a stream of a theatre tells whether the stream has ended, and the stream paused
for what the blocks take that it completed. -/
theorem Reached.closed (reached : t.Reached past) (performs : t.Performs cue p s) :
    s.Closed (History.ofStream cue.stream (past.ofRun cue.run)) ∧
      (s.ended = true → past.paused cue = s.duration p.run.movePause) := by
  obtain ⟨there, here⟩ := performs
  obtain ⟨settings, heroMode, scripts, cast, turns, played, history⟩ :=
    reached.exists_opening cue.run p there
  have closed := Scene.closed_play settings heroMode scripts cast turns cue.stream s
  have taken := Scene.tally_duration_of_ended settings heroMode scripts cast turns cue.stream s
  rw [played, history] at closed taken
  exact ⟨closed here, taken here⟩

/-- What was done was done by streams that are there. -/
theorem Reached.performs_of_mem (reached : t.Reached past) {m : Moment} (member : m ∈ past)
    (there : t.productions[m.run]? = some p) : ∃ s, t.Performs m.cue p s := by
  obtain ⟨settings, heroMode, scripts, cast, turns, played, history⟩ :=
    reached.exists_opening m.run p there
  have heard : m.beat ∈ past.ofRun m.run :=
    List.mem_map_of_mem (List.mem_filter.2 ⟨member, decide_eq_true rfl⟩)
  rw [← history] at heard
  have within := Scene.place_lt_of_mem_beats heard
  rw [played] at within
  exact ⟨_, there, List.getElem?_eq_getElem within⟩

/-- A stream that has ended did so at some time. -/
theorem Reached.exists_isEnd (reached : t.Reached past) (performs : t.Performs cue p s)
    (ended : s.ended = true) : ∃ m ∈ past, m.cue = cue ∧ m.beat.isEnd = true := by
  obtain ⟨beat, own, ends⟩ := (reached.closed performs).1.ended ended
  obtain ⟨inRun, place⟩ := List.mem_filter.1 own
  obtain ⟨m, member, rfl⟩ := List.mem_map.1 inRun
  obtain ⟨inPast, run⟩ := List.mem_filter.1 member
  have same : m.cue = cue := by
    rw [Moment.cue, of_decide_eq_true run, of_decide_eq_true place]
  exact ⟨m, inPast, same, ends⟩

/-- When a stream ended, it has ended since, and did nothing after it. As much time had passed since
the start of its run as its completed blocks take. -/
theorem Reached.of_isEnd (reached : t.Reached past) {before after : Chronicle} {m : Moment}
    (split : past = before ++ m :: after) (ends : m.beat.isEnd = true)
    (performs : t.Performs m.cue p s) :
    s.ended = true ∧ m.clock = p.start + s.duration p.run.movePause ∧
      ∀ m' ∈ after, m'.cue ≠ m.cue := by
  subst split
  obtain ⟨closed, taken⟩ := reached.closed performs
  have parts : History.ofStream m.cue.stream (Chronicle.ofRun m.cue.run (before ++ m :: after)) =
      History.ofStream m.cue.stream (Chronicle.ofRun m.cue.run before) ++
        m.beat :: History.ofStream m.cue.stream (Chronicle.ofRun m.cue.run after) := by
    simp [Chronicle.ofRun, History.ofStream, Moment.cue]
  obtain ⟨ended, silent⟩ := closed.last _ _ _ parts ends
  have nothing : Chronicle.paused m.cue (m :: after) = 0 := by
    have later : Chronicle.paused m.cue after = 0 := by
      rw [Chronicle.paused, silent]
      rfl
    rw [← List.singleton_append, Chronicle.paused_append, Chronicle.paused_singleton, later]
    simp [Beat.pause?, Beat.action?_of_isEnd ends]
  have prompt := reached.timely.prompt before m after rfl p performs.1
  rw [← taken ended, Chronicle.paused_append, nothing, Nat.add_zero]
  exact ⟨ended, prompt, fun m' later => Chronicle.cue_ne_of_silent silent later⟩

/-- A stream that has ended did so once, when as much time had passed since the start of its run as
its completed blocks take. A stream that has not ended did not do so before. -/
theorem Reached.ends_eq (reached : t.Reached past) (performs : t.Performs cue p s) :
    past.ends cue = if s.ended then [p.start + s.duration p.run.movePause] else [] := by
  cases ended : s.ended with
  | false =>
    refine List.map_eq_nil_iff.2 (List.filter_eq_nil_iff.2 fun m member isEnd => ?_)
    simp only [Bool.and_eq_true, decide_eq_true_eq] at isEnd
    obtain ⟨rfl, ends⟩ := isEnd
    obtain ⟨before, after, split⟩ := List.append_of_mem member
    simp [(reached.of_isEnd split ends performs).1] at ended
  | true =>
    obtain ⟨m, member, rfl, ends⟩ := reached.exists_isEnd performs ended
    obtain ⟨before, after, rfl⟩ := List.append_of_mem member
    obtain ⟨-, clock, silent⟩ := reached.of_isEnd rfl ends performs
    have later : Chronicle.ends m.cue after = [] := by
      refine List.map_eq_nil_iff.2 (List.filter_eq_nil_iff.2 fun m' inside isEnd => ?_)
      simp only [Bool.and_eq_true, decide_eq_true_eq] at isEnd
      exact silent m' inside isEnd.1
    -- Had the stream ended before, it would have done nothing at this end.
    have earlier : Chronicle.ends m.cue before = [] := by
      refine List.map_eq_nil_iff.2 (List.filter_eq_nil_iff.2 fun m' inside isEnd => ?_)
      simp only [Bool.and_eq_true, decide_eq_true_eq] at isEnd
      obtain ⟨same, ends'⟩ := isEnd
      obtain ⟨first, second, rfl⟩ := List.append_of_mem inside
      have split : first ++ m' :: second ++ m :: after = first ++ m' :: (second ++ m :: after) := by
        simp
      have silent' := (reached.of_isEnd split ends' (same ▸ performs)).2.2
      exact silent' m (by simp) same.symm
    rw [← List.singleton_append, Chronicle.ends_append, Chronicle.ends_append, earlier, later]
    simp [Chronicle.ends, ends, clock]

/-- A stream that has ended did so by now. -/
theorem Reached.le_clock_of_ended (reached : t.Reached past) (performs : t.Performs cue p s)
    (ended : s.ended = true) : p.start + s.duration p.run.movePause ≤ t.clock := by
  obtain ⟨m, member, rfl, ends⟩ := reached.exists_isEnd performs ended
  obtain ⟨before, after, split⟩ := List.append_of_mem member
  rw [← (reached.of_isEnd split ends performs).2.1]
  exact reached.clocked.behind m member

end Ends

end Theatre

end Troupe
