import Troupe.Proofs.Run.Refinement
import Troupe.Proofs.Theatre.Operations
import Troupe.Proofs.Theatre.Timely

/-!
# Waiting for runs

A run that is waited for ends, and it ends with its slowest stream: that is when as much time has
passed since its start as the blocks take that this stream completed. Its report tells how much time
passed from its start until the waiting was over. For a run that is played this is what the slowest
stream takes (`Theatre.play_lasts_as_slowest`). For a run that is waited for only after it has
ended, the report counts the time after its end as well (`Theatre.duration_of_join`).
-/

namespace Troupe

/-- The milliseconds that the completed blocks of the slowest stream take. -/
def Run.slowest (run : Run) : Nat := (run.streams.map (·.duration run.movePause)).max?.getD 0

namespace Run

variable {run : Run} {s : Stream}

/-- No stream takes longer than the slowest one. -/
theorem duration_le_slowest (member : s ∈ run.streams) :
    s.duration run.movePause ≤ run.slowest :=
  List.le_max?_getD_of_mem (List.mem_map_of_mem member)

/-- Without streams, nothing takes time. -/
theorem slowest_cases (run : Run) :
    run.slowest = 0 ∨ ∃ s ∈ run.streams, run.slowest = s.duration run.movePause := by
  rw [slowest]
  cases last : (run.streams.map (·.duration run.movePause)).max? with
  | none => exact .inl rfl
  | some time =>
    obtain ⟨s, member, same⟩ := List.mem_map.1 (List.max?_mem last)
    exact .inr ⟨s, member, same.symm⟩

/-- In a run that is not finished, a stream goes on. -/
theorem exists_going (going : run.isFinished = false) :
    ∃ (i : Nat) (s : Stream), run.streams[i]? = some s ∧ s.ended = false := by
  obtain ⟨s, member, unended⟩ := List.all_eq_false.1 going
  obtain ⟨i, here⟩ := List.mem_iff_getElem?.1 member
  exact ⟨i, s, here, Bool.eq_false_iff.2 unended⟩

end Run

/-- When the last stream of a run ended. Without streams, this is when the run started. -/
def Chronicle.finish (number start : Nat) (past : Chronicle) : Nat :=
  ((past.filter fun m => decide (m.run = number) && m.beat.isEnd).map (·.clock)).max?.getD start

namespace Theatre

variable {t : Theatre} {past : Chronicle} {number : Nat} {p : Production}

/-! ## When runs end -/

/-- A run that is finished ended by now. -/
theorem Reached.le_clock_of_isFinished (reached : t.Reached past)
    (here : t.productions[number]? = some p) (finished : p.run.isFinished = true) :
    p.start + p.run.slowest ≤ t.clock := by
  rcases p.run.slowest_cases with none | ⟨s, member, same⟩
  · rw [none]
    exact reached.timely.started number p here
  · obtain ⟨i, there⟩ := List.mem_iff_getElem?.1 member
    have performs : t.Performs ⟨number, i⟩ p s := ⟨here, there⟩
    rw [same]
    exact reached.le_clock_of_ended performs (Run.ended_of_isFinished finished member)

/-- A finished run ended with its slowest stream. -/
theorem Reached.finish_eq (reached : t.Reached past) (here : t.productions[number]? = some p)
    (finished : p.run.isFinished = true) :
    past.finish number p.start = p.start + p.run.slowest := by
  have ended {m : Moment} (member : m ∈ past) (own : m.run = number)
      (ends : m.beat.isEnd = true) :
      ∃ s ∈ p.run.streams, m.clock = p.start + s.duration p.run.movePause := by
    obtain ⟨before, after, split⟩ := List.append_of_mem member
    obtain ⟨s, performs⟩ := reached.performs_of_mem member (own ▸ here)
    exact ⟨s, List.mem_of_getElem? performs.2, (reached.of_isEnd split ends performs).2.1⟩
  have inside {m : Moment} (member : m ∈ past) (own : m.run = number)
      (ends : m.beat.isEnd = true) : m.clock ≤ past.finish number p.start :=
    List.le_max?_getD_of_mem
      (List.mem_map_of_mem (List.mem_filter.2 ⟨member, by simp [own, ends]⟩))
  have last : past.finish number p.start = p.start ∨
      ∃ s ∈ p.run.streams, past.finish number p.start = p.start + s.duration p.run.movePause := by
    rw [Chronicle.finish]
    cases last : ((past.filter fun m => decide (m.run = number) && m.beat.isEnd).map
        (·.clock)).max? with
    | none => exact .inl rfl
    | some time =>
      obtain ⟨m, member, rfl⟩ := List.mem_map.1 (List.max?_mem last)
      obtain ⟨heard, isEnd⟩ := List.mem_filter.1 member
      simp only [Bool.and_eq_true, decide_eq_true_eq] at isEnd
      exact .inr (ended heard isEnd.1 isEnd.2)
  have later : p.start ≤ past.finish number p.start := by
    rcases last with same | ⟨s, -, same⟩ <;> omega
  refine Nat.le_antisymm ?_ ?_
  · rcases last with same | ⟨s, member, same⟩
    · omega
    · have slow := Run.duration_le_slowest member
      omega
  · rcases p.run.slowest_cases with none | ⟨s, member, same⟩
    · omega
    · obtain ⟨i, there⟩ := List.mem_iff_getElem?.1 member
      have performs : t.Performs ⟨number, i⟩ p s := ⟨here, there⟩
      obtain ⟨m, heard, own, ends⟩ := reached.exists_isEnd performs
        (Run.ended_of_isFinished finished member)
      obtain ⟨before, after, split⟩ := List.append_of_mem heard
      rw [same, ← (reached.of_isEnd split ends (own ▸ performs)).2.1]
      exact inside heard (congrArg Cue.run own) ends

/-- While no stream may go on, a stream that has not ended will not end before the first alarm. -/
theorem Reached.due_le_of_ended (reached : t.Reached past) {alarm : Alarm} {others : List Alarm}
    (quiet : t.ready = []) (first : t.alarms = alarm :: others) {cue : Cue} {p' : Production}
    {s s' : Stream} {n : Nat} (before : t.Performs cue p s) (going : s.ended = false)
    (after : (t.after (List.replicate n .goOn)).Performs cue p' s') (ended : s'.ended = true) :
    alarm.due ≤ p'.start + s'.duration p'.run.movePause := by
  have onwards := reached.after (List.replicate n .goOn)
  obtain ⟨m, member, rfl, ends⟩ := onwards.exists_isEnd after ended
  obtain ⟨earlier, rest, split⟩ := List.append_of_mem member
  rw [← (onwards.of_isEnd split ends after).2.1]
  rcases List.mem_append.1 member with old | new
  · obtain ⟨earlier, rest, split⟩ := List.append_of_mem old
    simp [(reached.of_isEnd split ends before).1] at going
  · cases n with
    | zero => exact nomatch new
    | succ n =>
      have rings : t.goOn.clock = alarm.due := by simp [goOn, quiet, first]
      have silent : t.moment? .goOn = none := by simp [moment?, quiet]
      rw [List.replicate_succ, chronicle, silent] at new
      rw [← rings]
      exact ((reached.after [.goOn]).le_clock _).2 m new

/-- While no stream may go on, a run that is not finished will not be so before the first alarm. -/
theorem Reached.due_le_of_isFinished (reached : t.Reached past) {alarm : Alarm}
    {others : List Alarm} (quiet : t.ready = []) (first : t.alarms = alarm :: others)
    {p' : Production} {n : Nat} (here : t.productions[number]? = some p)
    (going : p.run.isFinished = false)
    (there : (t.after (List.replicate n .goOn)).productions[number]? = some p')
    (finished : p'.run.isFinished = true) : alarm.due ≤ p'.start + p'.run.slowest := by
  obtain ⟨i, s, now, unended⟩ := Run.exists_going going
  have before : t.Performs ⟨number, i⟩ p s := ⟨here, now⟩
  obtain ⟨q, s', after, -⟩ := exists_performs_after before (List.replicate n .goOn)
  obtain rfl : q = p' := Option.some.inj (after.1.symm.trans there)
  have member := List.mem_of_getElem? after.2
  have ends := reached.due_le_of_ended quiet first before unended after
    (Run.ended_of_isFinished finished member)
  exact Nat.le_trans ends (Nat.add_le_add_left (Run.duration_le_slowest member) _)

/-- When a run is waited for, it ends. The waiting is over when the slowest stream has ended, or at
once if that is already so. -/
theorem Reached.fireUntilFinished (reached : t.Reached past) (quiet : t.ready = [])
    (here : t.productions[number]? = some p) :
    ∃ p', (t.fireUntilFinished number).state.productions[number]? = some p' ∧
      p'.start = p.start ∧ p'.run.isFinished = true ∧
      (t.fireUntilFinished number).state.clock = max t.clock (p'.start + p'.run.slowest) := by
  have onwards := (goesOnTo_fireUntilFinished quiet number).1
  fun_induction Theatre.fireUntilFinished t number generalizing past p with
  | case1 t nothing =>
    have finished : p.run.isFinished = true := by simpa [isFinished, here] using nothing
    have ended := reached.le_clock_of_isFinished here finished
    exact ⟨p, here, rfl, finished, (Nat.max_eq_left ended).symm⟩
  | case2 t unfinished none =>
    have going : p.run.isFinished = false := by simpa [isFinished, here] using unfinished
    obtain ⟨i, s, there, unended⟩ := Run.exists_going going
    have waits := reached.timely.waits ⟨number, i⟩ p s ⟨here, there⟩ unended
    simp [waiting, quiet, none] at waits
  | case3 t unfinished alarm others first fired fewer =>
    rename_i ih
    have going : p.run.isFinished = false := by simpa [isFinished, here] using unfinished
    obtain ⟨⟨n, fires⟩, silent, clock⟩ := goesOnTo_fire quiet first
    obtain ⟨turns, q, there, start, -⟩ := exists_turns here (List.replicate n .goOn)
    have reached' := reached.after (List.replicate n .goOn)
    rw [fires] at there reached'
    obtain ⟨p', last, start', finished, ended⟩ :=
      ih reached' silent there (goesOnTo_fireUntilFinished silent number).1
    refine ⟨p', last, start'.trans start, finished, ?_⟩
    -- The alarm goes off before the run ends, so waiting for it makes nothing last longer.
    obtain ⟨m, later⟩ := onwards
    have due := reached.due_le_of_isFinished (n := m) quiet first here going
      (later ▸ last) finished
    have ahead := reached.clocked.ahead alarm (by simp [first])
    have waited : fired.state.clock = alarm.due := clock
    rw [Outcome.following, ended, waited]
    omega

/-- When a run is waited for, it takes turns until it has ended. Its report tells how much time
passed from its start until the waiting was over. -/
theorem Reached.await (reached : t.Reached past) (here : t.productions[number]? = some p) :
    ∃ n turns p', t.after (List.replicate n .goOn) = (t.await number).state ∧
      (t.await number).state.productions[number]? = some p' ∧ p'.start = p.start ∧
      p'.run = ((t.scene p).play turns).run ∧ p'.run.isFinished = true ∧
      (t.await number).answer =
        some (p'.run.report (t.elapsed p.start (max t.clock (p.start + p'.run.slowest)))) := by
  obtain ⟨⟨m, settles⟩, silent, clock⟩ := goesOnTo_settle t
  obtain ⟨-, q, there, start, -⟩ := exists_turns here (List.replicate m .goOn)
  have settled := reached.after (List.replicate m .goOn)
  rw [settles] at there settled
  obtain ⟨p', last, start', finished, ended⟩ := settled.fireUntilFinished silent there
  have there' : (t.await number).state.productions[number]? = some p' := last
  obtain ⟨n, waits⟩ := (goesOnTo_await t number).1
  obtain ⟨turns, p'', same, -, played, -⟩ := exists_turns here (List.replicate n .goOn)
  have stopwatch := t.stopwatch_after (List.replicate n .goOn)
  rw [waits] at same played stopwatch
  obtain rfl : p'' = p' := Option.some.inj (same.symm.trans there')
  have run := congrArg Scene.run played
  refine ⟨n, turns, p'', waits, there', start'.trans start, run.symm, finished, ?_⟩
  have asked : (t.await number).answer = (t.await number).state.report? number := rfl
  have clocked : (t.await number).state.clock = max t.clock (p.start + p''.run.slowest) := by
    rw [← start, ← start', ← clock]
    exact ended
  rw [asked, report?, there', Option.map_some, clocked, elapsed, elapsed, stopwatch, start', start]

/-- What is told last when a run was waited for is its report. -/
theorem getLast?_log_await {report : Report} (told : (t.await number).answer = some report) :
    (t.await number).log.getLast? = some report.event := by
  have asked : (t.await number).log =
      ((t.settle.state.fireUntilFinished number).following t.settle.log).log ++
        (t.await number).answer.toList.map Report.event := rfl
  rw [asked, told]
  simp

/-! ## Playing -/

/-- There is one stream for each sprite on the stage. -/
theorem performers_play (w : Workspace) (turns : List Turn) :
    ((Scene.ofWorkspace w).play turns).run.streams.map (·.agenda.sprite) = w.cast.ids := by
  rw [Scene.map_sprite_play]
  exact (Run.map_sprite_ofScripts ..).trans w.map_fst_castScripts

/-- Outside hero mode, the slowest stream is that of the longest script. -/
theorem slowest_of_heroMode_off (w : Workspace) (off : w.heroMode = false) (turns : List Turn) :
    let run := ((Scene.ofWorkspace w).play turns).run
    run.isFinished = true →
      run.slowest = ((w.castScripts.map fun (_, script) =>
        tally (Block.duration run.movePause) script).max?).getD 0 := by
  intro run finished
  have scripts := (Scene.castScripts_play w off turns).2
  rw [Run.slowest, ← scripts, List.map_map]
  refine congrArg (·.max?.getD 0) (List.map_congr_left fun s member => ?_)
  have ended := Run.ended_of_isFinished finished member
  rw [Stream.duration, (Scene.completed_of_heroMode_off w off turns s member ended).1]
  rfl

/-- A run that is played comes of turns from the scene in which it starts, and ends. Its report
tells what its slowest stream took. -/
theorem Reached.play (reached : t.Reached past) :
    ∃ n turns p,
      t.after (.launch t.workspace.heroMode t.workspace.castScripts :: List.replicate n .goOn) =
        t.play.state ∧
      t.play.state.productions[t.productions.length]? = some p ∧ p.start = t.clock ∧
      p.run = ((Scene.ofWorkspace t.workspace).play turns).run ∧ p.run.isFinished = true ∧
      t.play.answer =
        some (p.run.report (t.elapsed t.clock (t.clock + p.run.slowest))) := by
  let launch : Act := .launch t.workspace.heroMode t.workspace.castScripts
  have here := t.productions_launch t.workspace.heroMode t.workspace.castScripts
  obtain ⟨n, turns, p, ended, there, start, run, finished, told⟩ :=
    (reached.after [launch]).await here
  have told' : t.play.answer =
      some (p.run.report (t.elapsed t.clock (max t.clock (t.clock + p.run.slowest)))) := told
  rw [Nat.max_eq_right (Nat.le_add_right _ _)] at told'
  exact ⟨n, turns, p, ended, there, start, run, finished, told'⟩

/-- A run that is played lasts as long as its slowest stream, and no stream idles. Whatever is done
in a theatre, in any run, a stream that has ended did so once, when exactly the time had passed that
its completed blocks take. A run that is played ends, with one stream for each sprite on the stage,
and its report tells the time that the slowest of them took. Outside hero mode, this is the time
that the longest script of a sprite takes. -/
theorem play_lasts_as_slowest (workspace : Workspace) (stopwatch : Nat → Nat) (acts : List Act) :
    let start := ofWorkspace workspace stopwatch
    let t := start.after acts
    let scripts := t.workspace.castScripts
    (∀ cue p s, t.Performs cue p s → (start.chronicle acts).ends cue =
        if s.ended then [p.start + s.duration p.run.movePause] else []) ∧
      ∃ n p report,
        let all := acts ++ .launch t.workspace.heroMode scripts :: List.replicate n .goOn
        start.after all = t.play.state ∧
        t.play.state.productions[t.productions.length]? = some p ∧
        p.run.movePause = t.workspace.settings.movePause.toNat ∧
        p.run.streams.map (·.agenda.sprite) = t.workspace.cast.ids ∧
        (∀ (i : Nat) (s : Stream), p.run.streams[i]? = some s →
          (start.chronicle all).ends { run := t.productions.length, stream := i } =
            [t.clock + s.duration p.run.movePause]) ∧
        t.play.answer = some report ∧
        report.duration = stopwatch (t.clock + p.run.slowest) - stopwatch t.clock ∧
        (stopwatch = id → report.duration = p.run.slowest) ∧
        (t.workspace.heroMode = false → p.run.slowest = ((scripts.map fun (_, script) =>
          tally (Block.duration p.run.movePause) script).max?).getD 0) := by
  intro start t scripts
  have reached : t.Reached (start.chronicle acts) := reached_after workspace stopwatch acts
  refine ⟨fun cue p s performs => reached.ends_eq performs, ?_⟩
  obtain ⟨n, turns, p, ended, there, started, run, finished, told⟩ := reached.play
  have shown : t.stopwatch = stopwatch := stopwatch_after start acts
  rw [elapsed, shown] at told
  refine ⟨n, p, _, ?_, there, ?_, ?_, fun i s place => ?_, told, rfl, ?_, fun off => ?_⟩
  · rw [after_append]
    exact ended
  · rw [run]
    exact Scene.movePause_play _ turns
  · rw [run]
    exact performers_play t.workspace turns
  · have final := reached.after
      (.launch t.workspace.heroMode scripts :: List.replicate n .goOn)
    rw [ended, ← chronicle_append] at final
    have performs : t.play.state.Performs ⟨t.productions.length, i⟩ p s := ⟨there, place⟩
    have ends := final.ends_eq performs
    rwa [Run.ended_of_isFinished finished (List.mem_of_getElem? place), if_pos rfl, started] at ends
  · rintro rfl
    exact Nat.add_sub_cancel_left _ _
  · rw [run] at finished ⊢
    exact slowest_of_heroMode_off t.workspace off turns finished

/-- Outside hero mode, a duet in which the cat moves and speaks in nested repeats lasts as long as
the script of the cat. -/
theorem play_lasts_as_slowest_duet :
    let script : Script := [.loop 3 [.move 1, .loop 2 [.say "hi" 1], .loop (-1) [.move 1]]]
    let duet := (Workspace.duet.setHeroMode false).setScript (.ofNat 0) script
    ∃ report, (ofWorkspace duet id).play.answer = some report ∧
      report.duration = 3 * (500 + 2 * 1000) := by
  intro script duet
  obtain ⟨-, n, p, report, -, -, pause, -, -, told, -, lasts, longest⟩ :=
    play_lasts_as_slowest duet id []
  refine ⟨report, told, (lasts rfl).trans ((longest rfl).trans ?_)⟩
  rw [pause]
  decide +kernel

/-! ## Joining -/

end Theatre

/-- One sprite with a script of one shift. -/
def Workspace.solo : Workspace where
  cast := ⟨[.create (.ofNat 0) .cat ⟨50, 50⟩]⟩
  scripts _ := [.move 1]

namespace Theatre

variable {t : Theatre} {past : Chronicle} {number : Nat}

/-- What happened before a run was started tells nothing of its end. -/
theorem finish_append {later : Chronicle} (heard : ∀ m ∈ past, m.run < number) (start : Nat) :
    Chronicle.finish number start (past ++ later) = later.finish number start := by
  have nothing : past.filter (fun m => decide (m.run = number) && m.beat.isEnd) = [] := by
    refine List.filter_eq_nil_iff.2 fun m member isEnd => ?_
    simp only [Bool.and_eq_true, decide_eq_true_eq] at isEnd
    exact Nat.ne_of_lt (heard m member) isEnd.1
  rw [Chronicle.finish, List.filter_append, nothing, List.nil_append, Chronicle.finish]

/-- A run that is joined ends, and its report counts the time from its start until its last stream
has ended or until it is joined, whichever is later. -/
theorem Reached.join {p : Production} {ticket : Nat} (reached : t.Reached past)
    (held : t.runNumber? ticket = some number) (here : t.productions[number]? = some p) :
    ∃ later report,
      let finish := (past ++ t.chronicle later).finish number p.start
      t.after later = (t.join ticket).state ∧
      (t.join ticket).state.isFinished number = true ∧ (t.join ticket).answer = some report ∧
      (t.join ticket).log.getLast? = some report.event ∧ p.start ≤ finish ∧
      report.duration = t.elapsed p.start (max t.clock finish) := by
  -- Joining is waiting for the run after its ticket was given away.
  have waits : t.join ticket = (t.giveAway ticket).await number := by simp only [Theatre.join, held]
  let gives : Act := .host id (t.tickets.set ticket none)
  obtain ⟨n, -, q, ended, there, start, -, finished, told⟩ := (reached.after [gives]).await here
  have last : t.after (gives :: List.replicate n .goOn) = (t.join ticket).state := by
    rw [waits]
    exact ended
  have final := reached.after (gives :: List.replicate n .goOn)
  rw [last, waits] at final
  have finish := final.finish_eq there finished
  rw [start] at finish
  have told' : (t.join ticket).answer =
      some (q.run.report (t.elapsed p.start (max t.clock (p.start + q.run.slowest)))) := by
    rw [waits]
    exact told
  refine ⟨gives :: List.replicate n .goOn, _, last, ?_, told', ?_, ?_, ?_⟩
  · have there' : (t.join ticket).state.productions[number]? = some q := by
      rw [waits]
      exact there
    rw [isFinished, there']
    exact finished
  · rw [waits] at told' ⊢
    exact getLast?_log_await told'
  · rw [finish]
    exact Nat.le_add_right _ _
  · rw [finish]
    rfl

/-- A run that is joined ends, and its report, also the one that is told last, counts the time from
its start until its last stream has ended or until it is joined, whichever is later. So it tells how
long the run took when the run is joined before it has ended, and only then. -/
theorem duration_of_join (workspace : Workspace) (stopwatch : Nat → Nat) (acts : List Act)
    (heroMode : Bool) (scripts : List (SpriteId × Script)) (during : List Act) :
    let t := (ofWorkspace workspace stopwatch).after acts
    let number := t.productions.length
    let started := t.startScripts heroMode scripts
    let now := started.state.after during
    let joined := now.join started.answer
    now.runNumber? started.answer = some number →
      ∃ later report,
        let finish := (started.state.chronicle (during ++ later)).finish number t.clock
        now.after later = joined.state ∧ joined.state.isFinished number = true ∧
        joined.answer = some report ∧ joined.log.getLast? = some report.event ∧
        report.duration = stopwatch (max now.clock finish) - stopwatch t.clock ∧
        (stopwatch = id → (report.duration = finish - t.clock ↔ now.clock ≤ finish)) := by
  intro t number started now joined held
  have reached : t.Reached ((ofWorkspace workspace stopwatch).chronicle acts) :=
    reached_after workspace stopwatch acts
  have started' : started.state.Reached ((ofWorkspace workspace stopwatch).chronicle acts) := by
    rw [← List.append_nil (chronicle _ acts), ← after_eq_startScripts]
    exact reached.after [.launch heroMode scripts, .host id (t.tickets ++ [some number])]
  have here : started.state.productions[number]? = some
      { run := .ofScripts t.workspace.settings heroMode scripts, start := t.clock } :=
    t.productions_launch heroMode scripts
  obtain ⟨-, p, there, start, -⟩ := exists_turns here during
  obtain ⟨later, report, ended, finished, told, last, onwards, duration⟩ :=
    (started'.after during).join held there
  have shown : now.stopwatch = stopwatch :=
    (stopwatch_after _ during).trans (stopwatch_after _ acts)
  have began : p.start = t.clock := start
  rw [List.append_assoc, ← chronicle_append, finish_append reached.heard, began]
    at onwards duration
  rw [elapsed, shown] at duration
  refine ⟨later, report, ended, finished, told, last, duration, ?_⟩
  rintro rfl
  have in_time {start now finish : Nat} (onwards : start ≤ finish) :
      max now finish - start = finish - start ↔ now ≤ finish := by omega
  rw [duration]
  exact in_time onwards

/-- A run of one shift that is joined early, while it goes on, is reported to last until it
ended. -/
theorem duration_of_join_solo :
    let started := (ofWorkspace .solo id).start
    let during := List.replicate 4 .goOn ++ [.wait 200]
    ∃ later report,
      ((started.state.after during).join started.answer).answer = some report ∧
        report.duration = 500 ∧
        (started.state.chronicle (during ++ later)).finish 0 0 = 500 := by
  intro started during
  obtain ⟨later, report, -, -, told, -, lasts, -⟩ :=
    duration_of_join .solo id [] false Workspace.solo.castScripts during (by decide +kernel)
  have measured : ((started.state.after during).join started.answer).answer.map (·.duration) =
      some 500 := by decide +kernel
  have clock : (started.state.after during).clock = 200 := by decide +kernel
  have same : report.duration = 500 := by
    have told' : ((started.state.after during).join started.answer).answer = some report := told
    simpa [told'] using measured
  have whole : report.duration =
      max 200 ((started.state.chronicle (during ++ later)).finish 0 0) - 0 := by
    rw [← clock]
    exact lasts
  exact ⟨later, report, told, same, by omega⟩

/-- A run of one shift ends after half a second, also when it is joined later. Its report then tells
the time at which it was joined. -/
theorem late_join_lasts_longer :
    let started := (ofWorkspace .solo id).start
    let late := List.replicate 8 .goOn ++ [.wait 2000]
    (started.state.after late).isFinished 0 = true ∧
      (started.state.chronicle late).finish 0 0 = 500 ∧
      ((started.state.after late).join started.answer).answer.map (·.duration) = some 2000 ∧
      (started.state.join started.answer).answer.map (·.duration) = some 500 := by
  decide +kernel

end Theatre

end Troupe
