import Troupe.Proofs.Agenda.Bookkeeping
import Troupe.Proofs.Run.Sound
import Troupe.Run.Report

/-!
# No block is lost

Whatever streams exchange, the blocks of all of them together stay the blocks of the scripts that
the run was started with. A stream that has ended had nothing left to do and is never met again, so
no blocks are handed to it. So when all streams have ended, every block was performed once.
-/

namespace Troupe

/-! ## Blocks of a run -/

namespace Run

/-- The blocks of all streams. -/
def blocks (run : Run) : List Block := run.streams.flatMap (·.agenda.blocks)

/-- The blocks that the streams completed. -/
def completed (run : Run) : List Block := run.streams.flatMap (·.agenda.completed)

/-- A run that starts has the blocks of its scripts. -/
theorem blocks_ofScripts (settings : Settings) (heroMode : Bool)
    (scripts : List (SpriteId × Script)) :
    (ofScripts settings heroMode scripts).blocks = scripts.flatMap (·.2) := by
  simp [blocks, ofScripts, List.flatMap_map, Stream.ofScript, Agenda.ofScript]

/-- A run that starts has completed no block. -/
theorem completed_ofScripts (settings : Settings) (heroMode : Bool)
    (scripts : List (SpriteId × Script)) :
    (ofScripts settings heroMode scripts).completed = [] := by
  simp [completed, ofScripts, List.flatMap_map, Stream.ofScript, Agenda.ofScript,
    Agenda.completed]

/-- A stream may be replaced by one with the same blocks. -/
theorem perm_blocks_setStream {run : Run} {i : Nat} {s t : Stream}
    (here : run.streams[i]? = some s) (same : t.agenda.blocks = s.agenda.blocks) :
    (run.setStream i t).blocks.Perm run.blocks := by
  have gain : t.agenda.blocks.Perm (s.agenda.blocks ++ []) := by rw [same, List.append_nil]
  have parts := perm_flatMap_set (·.agenda.blocks) here gain
  rwa [List.append_nil] at parts

/-- Blocks that a stream completed in addition are completed in addition. -/
theorem perm_completed_setStream {run : Run} {i : Nat} {s t : Stream} {more : List Block}
    (here : run.streams[i]? = some s)
    (gain : t.agenda.completed = s.agenda.completed ++ more) :
    (run.setStream i t).completed.Perm (run.completed ++ more) :=
  perm_flatMap_set (fun s : Stream => s.agenda.completed) here (.of_eq gain)

/-- The three parts of the agendas of sound streams are all blocks. -/
theorem Sound.flatMap_parts {run : Run} (sound : run.Sound) :
    (run.agendas.flatMap fun a => a.completed ++ a.current.toList ++ a.remaining) = run.blocks := by
  rw [agendas, List.flatMap_map, blocks]
  refine List.flatMap_congr fun s member => ?_
  exact (sound s member).agenda.blocks_eq

/-- When all streams have ended, all blocks are completed. -/
theorem Sound.completed_of_isFinished {run : Run} (sound : run.Sound)
    (finished : run.isFinished = true) : run.completed = run.blocks := by
  refine List.flatMap_congr fun s member => ?_
  exact (sound s member).completed_of_ended (ended_of_isFinished finished member)

/-- The report counts the completed blocks. -/
theorem Sound.total_report {run : Run} (sound : run.Sound) (duration : Nat) :
    (run.report duration).total = run.completed.length := by
  rw [Report.total, report, tally_map, completed, length_flatMap_eq_tally]
  exact tally_congr fun s member => (sound s member).executed

end Run

namespace Scene

variable {now next : Scene} {turn : Turn} {beat : Option Beat}

/-- A move neither adds blocks nor takes any away. -/
theorem blocks_of_moves (moves : now.Moves turn beat next) :
    next.run.blocks.Perm now.run.blocks := by
  cases moves with
  | rests => exact .refl _
  | hosts edit => exact .refl _
  | begins here going next => exact Run.perm_blocks_setStream here Agenda.blocks_begin
  | acts here going next => exact Run.perm_blocks_setStream here rfl
  | completes here going next alone => exact Run.perm_blocks_setStream here rfl
  | ends here going next => exact Run.perm_blocks_setStream here rfl
  | @exchanges i j clock s t b radius here going next apart there hero met =>
    have gain : ((s.complete.takeRemaining t).agenda.blocks ++
        (t.takeRemaining s.complete).agenda.blocks).Perm
          (s.agenda.blocks ++ t.agenda.blocks ++ []) := by
      rw [List.append_nil]
      exact Agenda.perm_blocks_takeRemaining s.complete.agenda t.agenda
    have parts := perm_flatMap_set_set (·.agenda.blocks) here there apart gain
    rwa [List.append_nil] at parts

/-- A move completes the blocks that are performed to their end in it, and no others. -/
theorem completed_of_moves (sound : now.run.Sound) (moves : now.Moves turn beat next) :
    next.run.completed.Perm (now.run.completed ++ History.performed beat.toList) := by
  cases moves with
  | rests => simp [History.performed]
  | hosts edit => simp [History.performed, Run.completed]
  | begins here going next =>
    refine Run.perm_completed_setStream here ?_
    simp [Stream.begin, History.performed, Beat.performed?]
  | acts here going next =>
    refine Run.perm_completed_setStream here ?_
    simp [Stream.continueWith, History.performed, Beat.performed?]
  | ends here going next =>
    refine Run.perm_completed_setStream here ?_
    simp [Stream.finish, History.performed, Beat.performed?]
  | completes here going next alone =>
    exact Run.perm_completed_setStream here ((sound.of_getElem? here).completed_complete next)
  | @exchanges i j clock s t b radius here going next apart there hero met =>
    have own := (sound.of_getElem? here).complete going next
    have other := sound.of_getElem? there
    have gain := (sound.of_getElem? here).completed_complete next
    refine perm_flatMap_set_set (·.agenda.completed) here there apart ?_
    simp only [Stream.takeRemaining, own.agenda.completed_takeRemaining,
      other.agenda.completed_takeRemaining, gain, List.append_assoc]
    exact List.Perm.append_left _ List.perm_append_comm

/-- A stream that has ended stays as it is, whatever comes later. -/
theorem getElem?_play_of_ended {i : Nat} {s : Stream} (sound : s.Sound)
    (here : now.run.streams[i]? = some s) (ended : s.ended = true) (later : List Turn) :
    (now.play later).run.streams[i]? = some s := by
  refine play_induction (motive := fun now => now.run.streams[i]? = some s) here ?_
  intro now turn beat next here moves
  obtain ⟨t, there, becomes⟩ := becomes_of_moves moves here
  rwa [sound.eq_of_becomes_of_ended ended becomes] at there

/-- The blocks of all streams together are those of the scripts, and the completed ones among them
are those that were performed to their end. -/
theorem blocks_and_completed_play (settings : Settings) (heroMode : Bool)
    (scripts : List (SpriteId × Script)) (cast : Cast) (turns : List Turn) :
    let start := opening settings heroMode scripts cast
    (start.play turns).run.Sound ∧
      (start.play turns).run.blocks.Perm (scripts.flatMap (·.2)) ∧
      (start.play turns).run.completed.Perm (start.beats turns).performed := by
  intro start
  refine history_induction (motive := fun past now =>
    now.run.Sound ∧ now.run.blocks.Perm (scripts.flatMap (·.2)) ∧
      now.run.completed.Perm past.performed) ?_ ?_
  · refine ⟨sound_opening settings heroMode scripts cast, .of_eq ?_, .of_eq ?_⟩
    · exact Run.blocks_ofScripts ..
    · exact Run.completed_ofScripts ..
  · rintro past now turn beat next - ⟨sound, blocks, completed⟩ moves
    refine ⟨sound_of_moves sound moves, (blocks_of_moves moves).trans blocks, ?_⟩
    rw [History.performed_append]
    exact (completed_of_moves sound moves).trans (completed.append_right _)

/-- Every block of the scripts of a run is performed exactly once. At any time the blocks that are
completed, being performed or remaining are those of the scripts. A stream that has ended has
nothing left to do, and no exchange ever changes it again. When all streams have ended, the blocks
that were performed are those of the scripts, and the report counts as many. -/
theorem every_block_performed_once (settings : Settings) (heroMode : Bool)
    (scripts : List (SpriteId × Script)) (cast : Cast) (turns : List Turn) :
    let start := opening settings heroMode scripts cast
    let now := start.play turns
    (now.run.agendas.flatMap fun a => a.completed ++ a.current.toList ++ a.remaining).Perm
        (scripts.flatMap (·.2)) ∧
      (∀ (i : Nat) (s : Stream), now.run.streams[i]? = some s → s.ended = true →
        s.agenda.isExhausted = true ∧ ∀ later, (now.play later).run.streams[i]? = some s) ∧
      (now.run.isFinished = true →
        (start.beats turns).performed.Perm (scripts.flatMap (·.2)) ∧
          ∀ duration, (now.run.report duration).total = tally (·.2.length) scripts) := by
  intro start now
  obtain ⟨sound, blocks, completed⟩ :=
    blocks_and_completed_play settings heroMode scripts cast turns
  refine ⟨?_, fun i s here ended => ⟨?_, ?_⟩, fun finished => ⟨?_, fun duration => ?_⟩⟩
  · rw [sound.flatMap_parts]
    exact blocks
  · exact (sound.of_getElem? here).exhausted ended
  · exact getElem?_play_of_ended (sound.of_getElem? here) here ended
  · rw [sound.completed_of_isFinished finished] at completed
    exact completed.symm.trans blocks
  · rw [sound.total_report, sound.completed_of_isFinished finished, blocks.length_eq,
      length_flatMap_eq_tally]

/-- In a duet in which blocks are exchanged twice, all five blocks are performed. -/
theorem every_block_performed_once_duet :
    let now := (opening {} true Workspace.duet.castScripts Workspace.duet.cast).play
      (Turn.alternating 20)
    now.run.swaps = 2 ∧ now.run.isFinished = true ∧ (now.run.report 0).total = 5 ∧
      ∃ s, now.run.streams[0]? = some s ∧ s.ended = true ∧ s.agenda.isExhausted = true := by
  dsimp only
  have finished : ((opening {} true Workspace.duet.castScripts Workspace.duet.cast).play
      (Turn.alternating 20)).run.isFinished = true := by decide +kernel
  have left : ((opening {} true Workspace.duet.castScripts Workspace.duet.cast).play
      (Turn.alternating 20)).run.streams[0]?.any (·.ended) = true := by decide +kernel
  have whole := every_block_performed_once {} true Workspace.duet.castScripts Workspace.duet.cast
    (Turn.alternating 20)
  have total := (whole.2.2 finished).2 0
  obtain ⟨s, here, ended⟩ := (Option.any_eq_true _ _).1 left
  have exhausted := (whole.2.1 0 s here ended).1
  exact ⟨by decide +kernel, finished, total.trans (by decide +kernel), s, here, ended, exhausted⟩

end Scene

end Troupe
