import Mathlib.Data.List.Flatten
import Mathlib.Data.List.Induction
import Troupe.Proofs.Run.Absence
import Troupe.Proofs.Run.Conservation

/-!
# Runs end

An exchange may hand a stream more blocks than it had, so no stream on its own gets closer to its
end with every step. All streams together do: exchanges move blocks around, but the attempts that
the streams may still make to begin a block stay as many (`Scene.attempts_play`), and so do not grow
the steps they have left (`Scene.length_beats_add_stepsLeft_le`). So however the streams and the
host take turns, a stream that gets its turn often enough has ended (`Scene.every_run_ends`).
-/

namespace Troupe

/-- Whether a stream looked for its next block, be there one or not. -/
def Beat.isAttempt (beat : Beat) : Bool :=
  match beat.deed with
  | .begins _ | .ends => true
  | _ => false

/-- How often streams looked for their next block. -/
def History.attempts (history : History) : Nat := history.countP Beat.isAttempt

/-- One beat makes one attempt at most. -/
@[simp] theorem History.attempts_singleton {beat : Beat} :
    attempts [beat] = beat.isAttempt.toNat := by
  cases found : beat.isAttempt <;> simp [attempts, found]

/-- The attempts of a history and of what comes after it add up. -/
theorem History.attempts_append (past later : History) :
    attempts (past ++ later) = attempts past + attempts later :=
  List.countP_append ..

/-- How often a stream will look for its next block when no other one exchanges blocks with it: once
for each that remains, and once when there is none. -/
def Stream.attemptsLeft (s : Stream) : Nat := s.agenda.remaining.length + (!s.ended).toNat

/-- The steps that scripts take: those of their blocks, and one for each script to end. -/
def Run.stepsOf (movePause : Nat) (scripts : List (SpriteId × Script)) : Nat :=
  tally (fun part => tally (Stream.blockSteps movePause) part.2 + 1) scripts

/-- A run that starts has the steps of its scripts left. -/
theorem Run.stepsLeft_ofScripts (settings : Settings) (heroMode : Bool)
    (scripts : List (SpriteId × Script)) :
    (ofScripts settings heroMode scripts).stepsLeft = stepsOf settings.movePause.toNat scripts := by
  rw [stepsLeft, ofScripts, tally_map, stepsOf]
  refine tally_congr fun part _ => ?_
  simp [Stream.stepsLeft, Stream.ownSteps, Stream.ahead, Stream.ofScript, Agenda.ofScript,
    Agenda.outstanding, Nat.add_comm]

namespace Scene

variable {now next : Scene} {turn : Turn} {beat : Option Beat} {k : Nat} {s t : Stream}

/-! ## Attempts -/

/-- Every attempt is one of those that were left, and an exchange leaves as many. -/
theorem attemptsLeft_of_moves (sound : now.run.Sound) (moves : now.Moves turn beat next) :
    History.attempts beat.toList + tally Stream.attemptsLeft next.run.streams =
      tally Stream.attemptsLeft now.run.streams := by
  have alone {i : Nat} {s t : Stream} {b : Beat} (here : now.run.streams[i]? = some s)
      (own : b.isAttempt.toNat + t.attemptsLeft = s.attemptsLeft) :
      History.attempts [b] + tally Stream.attemptsLeft (now.run.streams.set i t) =
        tally Stream.attemptsLeft now.run.streams := by
    have replaced := tally_set Stream.attemptsLeft t here
    rw [History.attempts_singleton]
    omega
  cases moves with
  | rests | hosts => exact Nat.zero_add _
  | @begins i clock s b here going next =>
    refine alone here ?_
    have taken := (sound.of_getElem? here).remaining_begin next
    simp only [Stream.attemptsLeft, taken, List.length_cons, Beat.isAttempt, Bool.toNat_true]
    simp only [Stream.begin]
    omega
  | acts here going next => exact alone here (Nat.zero_add _)
  | completes here going next unmet =>
    refine alone here ?_
    have kept := (sound.of_getElem? here).remaining_complete next
    simp only [Stream.attemptsLeft, kept, Beat.isAttempt, Bool.toNat_false, Nat.zero_add]
    rfl
  | ends here going next =>
    refine alone here ?_
    simp only [Stream.attemptsLeft, going, Beat.isAttempt, Bool.not_false, Bool.toNat_true]
    simp only [Stream.finish, Bool.not_true, Bool.toNat_false]
    omega
  | @exchanges i j clock s t b radius here going next apart there hero met =>
    have second : (now.run.streams.set i (s.complete.takeRemaining t))[j]? = some t := by
      rw [List.getElem?_set_ne apart.symm, there]
    have replaced := tally_set Stream.attemptsLeft (s.complete.takeRemaining t) here
    have replaced' := tally_set Stream.attemptsLeft (t.takeRemaining s.complete) second
    -- What remains to either of the two is handed to the other one.
    have own := ((sound.of_getElem? here).complete going next).remaining_takeRemaining t
    have other := (sound.of_getElem? there).remaining_takeRemaining s.complete
    have kept := (sound.of_getElem? here).remaining_complete next
    rw [Option.toList_some, History.attempts_singleton]
    simp only [Stream.attemptsLeft, own, other, kept] at replaced replaced' ⊢
    simp only [Stream.takeRemaining, Stream.complete, Beat.isAttempt, Bool.toNat_false]
      at replaced replaced' ⊢
    omega

/-- In a run, streams look for a next block once for each block of the scripts, and once more each.
-/
theorem attempts_play (settings : Settings) (heroMode : Bool) (scripts : List (SpriteId × Script))
    (cast : Cast) (turns : List Turn) :
    let start := opening settings heroMode scripts cast
    (start.beats turns).attempts + tally Stream.attemptsLeft (start.play turns).run.streams =
      tally (·.2.length) scripts + scripts.length := by
  intro start
  have left : tally Stream.attemptsLeft start.run.streams =
      tally (·.2.length) scripts + scripts.length := by
    rw [← tally_add_one]
    exact tally_map ..
  rw [← left]
  refine (history_induction (motive := fun past now => now.run.Sound ∧
    past.attempts + tally Stream.attemptsLeft now.run.streams =
      tally Stream.attemptsLeft start.run.streams)
    ⟨sound_opening settings heroMode scripts cast, Nat.zero_add _⟩ ?_).2
  rintro past now turn beat next - ⟨sound, same⟩ moves
  have step := attemptsLeft_of_moves sound moves
  refine ⟨sound_of_moves sound moves, ?_⟩
  rw [History.attempts_append]
  omega

/-- No more blocks are performed to their end than there are in the scripts. -/
theorem length_performed_le (settings : Settings) (heroMode : Bool)
    (scripts : List (SpriteId × Script)) (cast : Cast) (turns : List Turn) :
    ((opening settings heroMode scripts cast).beats turns).performed.length ≤
      tally (·.2.length) scripts := by
  obtain ⟨-, blocks, completed⟩ := blocks_and_completed_play settings heroMode scripts cast turns
  rw [← length_flatMap_eq_tally, ← completed.length_eq, ← blocks.length_eq]
  exact (List.Sublist.flatMap_right _ fun s _ => List.take_sublist ..).length_le

/-! ## Steps -/

/-- What a stream does is one of the steps that were left. -/
theorem length_beat?_add_stepsLeft_le (now : Scene) (turn : Turn) :
    (now.beat? turn).toList.length + (now.turn turn).run.stepsLeft ≤ now.run.stepsLeft := by
  cases turn with
  | host edit => exact Nat.le_of_eq (Nat.zero_add _)
  | stream i clock =>
    simp only [Scene.turn]
    cases taken : now.run.step? i clock now.cast with
    | some step =>
      have single : (now.beat? (.stream i clock)).toList.length ≤ 1 := Option.length_toList_le
      have less := Run.stepsLeft_of_step? taken
      dsimp only
      omega
    | none =>
      have nothing : now.beat? (.stream i clock) = none := by
        simp only [Run.step?] at taken
        simp only [beat?]
        cases here : now.run.streams[i]? with
        | none => rfl
        | some s =>
          cases ended : s.ended with
          | true => simp [ended]
          | false => simp [here, ended] at taken
      rw [nothing]
      exact Nat.le_of_eq (Nat.zero_add _)

/-- What the streams do are steps that were left. -/
theorem length_beats_add_stepsLeft_le (start : Scene) (turns : List Turn) :
    (start.beats turns).length + (start.play turns).run.stepsLeft ≤ start.run.stepsLeft := by
  induction turns generalizing start with
  | nil => exact Nat.le_of_eq (Nat.zero_add _)
  | cons turn rest ih =>
    have first := length_beat?_add_stepsLeft_le start turn
    have others := ih (start.turn turn)
    rw [beats, List.length_append, play_cons]
    omega

/-- A stream that has not ended did something in each of its turns. -/
theorem countP_isOf_le_length_beats {start : Scene} {turns : List Turn}
    (here : (start.play turns).run.streams[k]? = some s) (going : s.ended = false) :
    turns.countP (Turn.isOf k) ≤ (start.beats turns).length := by
  induction turns using List.reverseRecOn generalizing s with
  | nil => exact Nat.le_refl _
  | append_singleton turns last ih =>
    rw [play_append] at here
    obtain ⟨t, there, becomes⟩ := became_of_moves ((start.play turns).moves_turn last) here
    have going' := going_of_becomes becomes going
    have earlier := ih there going'
    have own := isOf_le_length_ofStream there going' last
    have among : (History.ofStream k ((start.play turns).beat? last).toList).length ≤
        ((start.play turns).beat? last).toList.length := List.length_filter_le ..
    have counted : [last].countP (Turn.isOf k) = (last.isOf k).toNat := by
      cases isOf : last.isOf k <;> simp [isOf]
    rw [List.countP_append, counted, beats_append, List.length_append]
    simp only [beats, List.append_nil]
    omega

/-- A stream that had as many turns as all streams together had steps left has ended. -/
theorem ended_of_stepsLeft_le {start : Scene} {turns : List Turn}
    (here : (start.play turns).run.streams[k]? = some s)
    (enough : start.run.stepsLeft ≤ turns.countP (Turn.isOf k)) : s.ended = true := by
  cases ended : s.ended with
  | true => rfl
  | false =>
    have did := countP_isOf_le_length_beats here ended
    have done := length_beats_add_stepsLeft_le start turns
    have own : s.stepsLeft (start.play turns).run.movePause ≤ (start.play turns).run.stepsLeft :=
      le_tally_of_mem _ (List.mem_of_getElem? here)
    have none_left : s.stepsLeft (start.play turns).run.movePause = 0 := by omega
    simp [ended_of_stepsLeft_eq_zero none_left] at ended

end Scene

/-! ## Schedules -/

namespace Turn

/-- The first turns of a schedule. -/
def first (schedule : Nat → Turn) (n : Nat) : List Turn := (List.range n).map schedule

/-- Each of a number of streams gets its turn again and again. -/
def Fair (streams : Nat) (schedule : Nat → Turn) : Prop :=
  ∀ i < streams, ∀ n, ∃ later, n ≤ later ∧ (schedule later).isOf i = true

variable {schedule : Nat → Turn} {i streams : Nat}

/-- A stream has no fewer turns when a schedule goes on. -/
theorem countP_first_le {m n : Nat} (h : m ≤ n) :
    (first schedule m).countP (isOf i) ≤ (first schedule n).countP (isOf i) :=
  List.Sublist.countP_le ((List.range_sublist.2 h).map schedule)

/-- A stream that gets its turn again and again gets any number of them. -/
theorem exists_le_countP_first (again : ∀ n, ∃ later, n ≤ later ∧ (schedule later).isOf i = true)
    (count : Nat) : ∃ n, count ≤ (first schedule n).countP (isOf i) := by
  induction count with
  | zero => exact ⟨0, Nat.zero_le _⟩
  | succ count ih =>
    obtain ⟨n, enough⟩ := ih
    obtain ⟨later, after, own⟩ := again n
    refine ⟨later + 1, ?_⟩
    have before : (first schedule n).countP (isOf i) ≤ (first schedule later).countP (isOf i) :=
      countP_first_le after
    have last : (first schedule (later + 1)).countP (isOf i) =
        (first schedule later).countP (isOf i) + 1 := by
      simp [first, List.range_succ, own]
    omega

/-- In a fair schedule, all streams together get any number of turns each. -/
theorem Fair.exists_le_countP_first (fair : Fair streams schedule) (count : Nat) :
    ∃ n, ∀ i < streams, count ≤ (first schedule n).countP (isOf i) := by
  induction streams with
  | zero => exact ⟨0, nofun⟩
  | succ streams ih =>
    obtain ⟨n, others⟩ := ih fun i within => fair i (Nat.lt_succ_of_lt within)
    obtain ⟨m, own⟩ := Turn.exists_le_countP_first (fair streams (Nat.lt_succ_self _)) count
    refine ⟨max n m, fun i within => ?_⟩
    rcases Nat.lt_succ_iff_lt_or_eq.1 within with before | rfl
    · exact Nat.le_trans (others i before) (countP_first_le (Nat.le_max_left _ _))
    · exact Nat.le_trans own (countP_first_le (Nat.le_max_right _ _))

end Turn

namespace Scene

/-- Every run ends, whatever is exchanged in it and whatever the host does. Its streams complete no
more blocks than its scripts have, and look for a next one no more often than once for each block
and once for each stream. All steps together are bounded before the run starts, so a stream has
ended when it had so many turns, and when every stream gets its turn again and again, all have ended
after some time. -/
theorem every_run_ends (settings : Settings) (heroMode : Bool)
    (scripts : List (SpriteId × Script)) (cast : Cast) :
    let start := opening settings heroMode scripts cast
    let blocks := tally (·.2.length) scripts
    let most := Run.stepsOf settings.movePause.toNat scripts
    (∀ turns,
      let past := start.beats turns
      past.performed.length ≤ blocks ∧ past.attempts ≤ blocks + scripts.length ∧
        past.length ≤ most ∧
        ∀ i < scripts.length, most ≤ turns.countP (Turn.isOf i) →
          ∃ s, (start.play turns).run.streams[i]? = some s ∧ s.ended = true) ∧
      ∀ schedule, Turn.Fair scripts.length schedule →
        ∃ n, ∀ later, n ≤ later →
          (start.play (Turn.first schedule later)).run.isFinished = true := by
  intro start blocks most
  have steps : start.run.stepsLeft = most := Run.stepsLeft_ofScripts settings heroMode scripts
  have streams (turns : List Turn) :
      (start.play turns).run.streams.length = scripts.length :=
    length_streams_play_opening settings heroMode scripts cast turns
  refine ⟨fun turns => ⟨?_, ?_, ?_, fun i within enough => ?_⟩, fun schedule fair => ?_⟩
  · exact length_performed_le settings heroMode scripts cast turns
  · have all := attempts_play settings heroMode scripts cast turns
    exact Nat.le_of_add_right_le (Nat.le_of_eq all)
  · have all := length_beats_add_stepsLeft_le start turns
    omega
  · have there : i < (start.play turns).run.streams.length := by rwa [streams]
    refine ⟨_, List.getElem?_eq_getElem there, ?_⟩
    exact ended_of_stepsLeft_le (List.getElem?_eq_getElem there) (by rwa [steps])
  · obtain ⟨n, enough⟩ := fair.exists_le_countP_first most
    refine ⟨n, fun later after => List.all_eq_true.2 fun s member => ?_⟩
    obtain ⟨i, here⟩ := List.mem_iff_getElem?.1 member
    have within : i < scripts.length := by
      rw [← streams]
      exact (List.getElem?_eq_some_iff.1 here).1
    refine ended_of_stepsLeft_le here ?_
    rw [steps]
    exact Nat.le_trans (enough i within) (Turn.countP_first_le after)

/-- In a duet in which blocks are exchanged twice, the streams take turns. Together they have 28
steps and do all of them. -/
theorem every_run_ends_duet :
    let start := opening {} true Workspace.duet.castScripts Workspace.duet.cast
    let turns := Turn.alternating 28
    let past := start.beats turns
    past.length = 28 ∧ past.performed.length ≤ 5 ∧ past.attempts ≤ 7 ∧
      (∃ s, (start.play turns).run.streams[1]? = some s ∧ s.ended = true) ∧
      ∃ n, ∀ later, n ≤ later →
        (start.play (Turn.first (fun n => .stream (n % 2) 0) later)).run.isFinished = true := by
  intro start turns past
  have whole := every_run_ends {} true Workspace.duet.castScripts Workspace.duet.cast
  obtain ⟨performed, attempts, -, ended⟩ := whole.1 turns
  have blocks : tally (·.2.length) Workspace.duet.castScripts = 5 := by decide +kernel
  have streams : Workspace.duet.castScripts.length = 2 := by decide +kernel
  have most : Run.stepsOf ({} : Settings).movePause.toNat Workspace.duet.castScripts = 28 := by
    decide +kernel
  rw [blocks] at performed attempts
  rw [streams] at attempts
  rw [streams, most] at ended
  have fair : Turn.Fair 2 fun n => .stream (n % 2) 0 := by
    intro i within n
    have own : (2 * n + i) % 2 = i := by omega
    exact ⟨2 * n + i, by omega, by simp [Turn.isOf, own]⟩
  rw [← streams] at fair
  have enough : 28 ≤ turns.countP (Turn.isOf 1) := by decide +kernel
  have second := ended 1 (by decide) enough
  have length : past.length = 28 := by decide +kernel
  dsimp only [start]
  exact ⟨length, performed, attempts, second, whole.2 _ fair⟩

end Scene

end Troupe
