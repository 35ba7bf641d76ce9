import Troupe.Proofs.Agenda
import Troupe.Proofs.Run.Scene

/-!
# Sound streams

A stream is sound when its agenda is, when the block it performs is the one that the agenda holds as
being performed, when it has ended only with nothing left to do, and when it counts the blocks that
are completed. Every stream of every scene that is reached from an opening is sound
(`Scene.sound_play`), whatever is exchanged and whatever the host does.
-/

namespace Troupe

variable {movePause : Nat}

namespace Stream

variable {s t : Stream} {b : Block}

/-- The agenda and the performance of a stream agree. -/
structure Sound (s : Stream) : Prop where
  /-- The agenda is sound. -/
  agenda : s.agenda.Sound
  /-- The copy that is being performed is the block that the agenda holds as being performed. -/
  current : s.agenda.current = s.performing.map (·.block)
  /-- A stream ends only with nothing left to do. -/
  exhausted : s.ended = true → s.agenda.isExhausted = true
  /-- Every completed block is counted. -/
  executed : s.executed = s.agenda.completed.length

/-- A stream made of a script is sound. -/
theorem sound_ofScript (sprite : SpriteId) (script : Script) : (ofScript sprite script).Sound where
  agenda := Agenda.sound_ofScript _ _
  current := rfl
  exhausted ended := nomatch ended
  executed := rfl

/-- The agenda is busy while, and only while, the stream performs a block. -/
theorem Sound.isBusy_eq (sound : s.Sound) : s.agenda.isBusy = s.performing.isSome := by
  rw [← sound.agenda.isSome_current, sound.current, Option.isSome_map]

/-- A stream that completes a block performs it, and its agenda holds it. -/
theorem Sound.of_completes (sound : s.Sound) (next : s.deed movePause = .completes b) :
    s.agenda.isBusy = true ∧ s.agenda.current = some b := by
  obtain ⟨p, performed, -, rfl⟩ := deed_eq_completes_iff.1 next
  constructor
  · rw [sound.isBusy_eq, performed, Option.isSome_some]
  · rw [sound.current, performed, Option.map_some]

/-- A stream that begins or ends performs nothing. -/
theorem Sound.isBusy_of_idle (sound : s.Sound) (idle : s.performing = none) :
    s.agenda.isBusy = false := by
  rw [sound.isBusy_eq, idle, Option.isSome_none]

/-- A sound stream is sound once it begins a block. -/
theorem Sound.begin (sound : s.Sound) (going : s.ended = false)
    (next : s.deed movePause = .begins b) : (s.begin b).Sound where
  agenda := sound.agenda.begin
  current := Agenda.current_begin (deed_eq_begins_iff.1 next).2
  exhausted ended := by simp [Stream.begin, going] at ended
  executed := by simpa [Stream.begin] using sound.executed

/-- Beginning a block takes it away from those that remain. -/
theorem Sound.remaining_begin (sound : s.Sound) (next : s.deed movePause = .begins b) :
    s.agenda.remaining = b :: (s.begin b).agenda.remaining := by
  obtain ⟨idle, upcoming⟩ := deed_eq_begins_iff.1 next
  exact sound.agenda.remaining_begin (sound.isBusy_of_idle idle) upcoming

/-- A sound stream is sound while it goes on with its block. -/
theorem Sound.continueWith (sound : s.Sound) (rest : Work) : (s.continueWith rest).Sound where
  agenda := sound.agenda
  current := by
    have held := sound.current
    cases performed : s.performing <;> simpa [Stream.continueWith, performed] using held
  exhausted := sound.exhausted
  executed := sound.executed

/-- Completing appends the block that was performed to the completed ones. -/
theorem Sound.completed_complete (sound : s.Sound) (next : s.deed movePause = .completes b) :
    s.complete.agenda.completed = s.agenda.completed ++ [b] := by
  obtain ⟨busy, held⟩ := sound.of_completes next
  simp only [Stream.complete]
  rw [Agenda.completed_advance, Agenda.upcoming?_eq_current busy, held]
  rfl

/-- Completing a block leaves those that remain. -/
theorem Sound.remaining_complete (sound : s.Sound) (next : s.deed movePause = .completes b) :
    s.complete.agenda.remaining = s.agenda.remaining :=
  sound.agenda.remaining_advance (sound.of_completes next).1

/-- A sound stream is sound once it completes a block. -/
theorem Sound.complete (sound : s.Sound) (going : s.ended = false)
    (next : s.deed movePause = .completes b) : s.complete.Sound where
  agenda := sound.agenda.advance
  current := rfl
  exhausted ended := by simp [Stream.complete, going] at ended
  executed := by
    rw [sound.completed_complete next, List.length_append, ← sound.executed]
    rfl

/-- A sound stream is sound once it ends. -/
theorem Sound.finish (sound : s.Sound) (next : s.deed movePause = .ends) : s.finish.Sound where
  agenda := sound.agenda
  current := sound.current
  exhausted _ := by
    have past : s.agenda.blocks.length ≤ s.agenda.position :=
      List.getElem?_eq_none_iff.1 (deed_eq_ends_iff.1 next).2
    exact decide_eq_true past
  executed := sound.executed

/-- An exchange leaves the completed blocks alone. -/
theorem Sound.completed_takeRemaining (sound : s.Sound) (t : Stream) :
    (s.takeRemaining t).agenda.completed = s.agenda.completed :=
  sound.agenda.completed_takeRemaining

/-- An exchange hands over what remains to the other stream. -/
theorem Sound.remaining_takeRemaining (sound : s.Sound) (t : Stream) :
    (s.takeRemaining t).agenda.remaining = t.agenda.remaining :=
  sound.agenda.remaining_takeRemaining

/-- A sound stream is sound once it takes over what remains of another one. -/
theorem Sound.takeRemaining (sound : s.Sound) (going : s.ended = false) :
    (s.takeRemaining t).Sound where
  agenda := sound.agenda.takeRemaining
  current := sound.agenda.current_takeRemaining.trans sound.current
  exhausted ended := by simp [Stream.takeRemaining, going] at ended
  executed := sound.executed.trans (congrArg _ (sound.completed_takeRemaining t).symm)

/-- A stream that has something to do has not ended. -/
theorem Sound.ended_of_going (sound : s.Sound) (going : s.agenda.isExhausted = false) :
    s.ended = false := by
  cases ended : s.ended with
  | false => rfl
  | true => exact absurd (sound.exhausted ended) (by simp [going])

/-- A stream that has ended performs nothing, and nothing remains to it. -/
theorem Sound.idle_of_ended (sound : s.Sound) (ended : s.ended = true) :
    s.agenda.isBusy = false ∧ s.agenda.remaining = [] :=
  sound.agenda.isExhausted_iff.1 (sound.exhausted ended)

/-- A stream that has ended completed all its blocks. -/
theorem Sound.completed_of_ended (sound : s.Sound) (ended : s.ended = true) :
    s.agenda.completed = s.agenda.blocks :=
  Agenda.completed_of_isExhausted (sound.exhausted ended)

/-- A sound stream becomes a sound one. -/
theorem Sound.of_becomes {now : Scene} {k : Nat} {beat : Option Beat}
    (sound : s.Sound) (becomes : Scene.Becomes now k s beat t) : t.Sound := by
  cases becomes with
  | stays elsewhere => exact sound
  | begins going next => exact sound.begin going next
  | acts going next => exact sound.continueWith _
  | completes going next => exact sound.complete going next
  | exchanges going next apart there => exact (sound.complete going next).takeRemaining going
  | met going fresh apart there next => exact sound.takeRemaining (sound.ended_of_going going)
  | ends going next => exact sound.finish next

/-- A stream that has ended stays as it is. -/
theorem Sound.eq_of_becomes_of_ended {now : Scene} {k : Nat} {beat : Option Beat} (sound : s.Sound)
    (ended : s.ended = true) (becomes : Scene.Becomes now k s beat t) : t = s := by
  cases becomes with
  | stays elsewhere => rfl
  | met going fresh apart there next => simp [sound.ended_of_going going] at ended
  | begins going next | acts going next | completes going next | exchanges going next apart there
  | ends going next => simp [going] at ended

end Stream

/-- In a run that is finished, every stream has ended. -/
theorem Run.ended_of_isFinished {run : Run} {s : Stream} (finished : run.isFinished = true)
    (member : s ∈ run.streams) : s.ended = true :=
  List.all_eq_true.1 finished s member

/-- All streams of a run are sound. -/
def Run.Sound (run : Run) : Prop := ∀ s ∈ run.streams, s.Sound

/-- The streams of a sound run are sound. -/
theorem Run.Sound.of_getElem? {run : Run} (sound : run.Sound) {i : Nat} {s : Stream}
    (here : run.streams[i]? = some s) : s.Sound :=
  sound s (List.mem_of_getElem? here)

namespace Scene

variable {now next : Scene} {turn : Turn} {beat : Option Beat}

/-- A run that starts is sound. -/
theorem sound_opening (settings : Settings) (heroMode : Bool) (scripts : List (SpriteId × Script))
    (cast : Cast) : (opening settings heroMode scripts cast).run.Sound := by
  intro s member
  obtain ⟨script, -, rfl⟩ := List.mem_map.1 member
  exact Stream.sound_ofScript _ _

/-- Every move keeps the streams sound. -/
theorem sound_of_moves (sound : now.run.Sound) (moves : now.Moves turn beat next) :
    next.run.Sound := by
  intro t member
  obtain ⟨i, there⟩ := List.mem_iff_getElem?.1 member
  obtain ⟨s, here, becomes⟩ := became_of_moves moves there
  exact (sound.of_getElem? here).of_becomes becomes

/-- The streams of every scene that is reached are sound. -/
theorem sound_play (settings : Settings) (heroMode : Bool) (scripts : List (SpriteId × Script))
    (cast : Cast) (turns : List Turn) :
    ((opening settings heroMode scripts cast).play turns).run.Sound :=
  play_induction (motive := fun now => now.run.Sound) (sound_opening settings heroMode scripts cast)
    sound_of_moves

end Scene

end Troupe
