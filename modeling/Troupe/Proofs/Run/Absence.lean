import Troupe.Proofs.Cast
import Troupe.Proofs.Run.Meetings
import Troupe.Proofs.Run.Record

/-!
# Streams whose sprites are not on the stage

A stream goes on without its sprite. Its actions reach nobody, and as nobody is near a sprite that
is not there, it takes part in no exchange. So it keeps its blocks and works them off
(`Stream.WorksOff`): it performs the rest of its block and all blocks that remained to it, in order
and with all their pauses, and ends after as many turns as it had steps left
(`Scene.play_of_absent`).
-/

namespace Troupe

variable {movePause k : Nat} {s t : Stream} {past earlier : History}

/-! ## Working off -/

/-- What a stream does that keeps its blocks: it goes on with the block that it performs and then
with those that remain to it, in order. -/
structure Stream.WorksOff (movePause : Nat) (s : Stream) (past : History) (t : Stream) : Prop where
  /-- The blocks that it begins are the first of those that remain. -/
  begun : past.begun ++ t.agenda.remaining = s.agenda.remaining
  /-- The blocks that it performs to their end are the one that it performs and the next ones. -/
  performed : past.performed ++ (t.agenda.current.toList ++ t.agenda.remaining) =
    s.agenda.current.toList ++ s.agenda.remaining
  /-- It does the actions that are left of its block, and then those of the blocks it begins. -/
  actions : past.actions ++ t.actionsLeft movePause =
    s.actionsLeft movePause ++ past.begun.flatMap (Block.actions movePause)
  /-- The blocks that it performs to their end are counted. -/
  executed : t.executed = s.executed + past.performed.length

/-- A stream that keeps its blocks works them off. -/
theorem Stream.Recorded.worksOff (before : s.Recorded movePause earlier)
    (after : t.Recorded movePause (earlier ++ past)) (sound : s.Sound) (sound' : t.Sound)
    (same : t.agenda.blocks = s.agenda.blocks) : s.WorksOff movePause past t := by
  have taken : s.taken ++ past.begun = t.taken := by
    rw [← before.begun, ← after.begun, History.begun_append]
  have completed : s.agenda.completed ++ past.performed = t.agenda.completed := by
    rw [← before.performed, ← after.performed, History.performed_append]
  have parts {u : Stream} (sound : u.Sound) : u.taken ++ u.agenda.remaining = u.agenda.blocks := by
    rw [Stream.taken, ← sound.current]
    exact sound.agenda.blocks_eq
  refine ⟨?_, ?_, ?_, ?_⟩
  · refine (List.append_right_inj s.taken).1 ?_
    rw [← List.append_assoc, taken, parts sound', same, parts sound]
  · refine (List.append_right_inj s.agenda.completed).1 ?_
    rw [← List.append_assoc, completed, ← List.append_assoc, ← List.append_assoc,
      sound'.agenda.blocks_eq, same, sound.agenda.blocks_eq]
  · refine (List.append_right_inj earlier.actions).1 ?_
    rw [← List.append_assoc, ← History.actions_append, after.actions, ← taken,
      List.flatMap_append, ← before.actions, List.append_assoc]
  · rw [sound'.executed, sound.executed, ← completed, List.length_append]

/-- A stream that has ended worked off everything. -/
theorem Stream.WorksOff.of_ended (worksOff : s.WorksOff movePause past t) (sound : t.Sound)
    (ended : t.ended = true) :
    past.performed = s.agenda.current.toList ++ s.agenda.remaining ∧
      past.actions = s.actionsLeft movePause ++
        s.agenda.remaining.flatMap (Block.actions movePause) := by
  obtain ⟨begun, performed, actions, -⟩ := worksOff
  obtain ⟨idle, nothing⟩ := sound.idle_of_ended ended
  have unheld : t.agenda.current = none := by simp [Agenda.current, idle]
  have rests : t.performing = none := by
    rwa [sound.isBusy_eq, Option.isSome_eq_false_iff, Option.isNone_iff_eq_none] at idle
  have done : t.actionsLeft movePause = [] := by simp only [Stream.actionsLeft, rests]
  rw [nothing, List.append_nil] at begun
  rw [unheld, nothing, Option.toList_none, List.append_nil, List.append_nil] at performed
  rw [done, List.append_nil, begun] at actions
  exact ⟨performed, actions⟩

namespace Scene

variable {now next : Scene} {turn : Turn} {beat : Option Beat}

/-! ## One turn -/

/-- A stream takes part in no exchange while its sprite is not on the stage. -/
theorem uninvolved_of_absent (moves : now.Moves turn beat next)
    (here : now.run.streams[k]? = some s) (absent : s.agenda.sprite ∉ now.cast.ids) :
    ∀ b ∈ beat, b.involves k = false := by
  have unfound {u : Sprite} : Cast.findIn? now.cast.sprites s.agenda.sprite ≠ some u := by
    have missing : now.cast.find? s.agenda.sprite = none := Cast.find?_eq_none_iff.2 absent
    rw [← Cast.find?, missing]
    exact (Option.some_ne_none u).symm
  intro b member
  cases moves with
  | rests | hosts => exact absurd member.symm (Option.some_ne_none b)
  | begins | acts | completes | ends =>
    obtain rfl := Option.some.inj member
    rfl
  | @exchanges i j clock u v block radius place going deed apart there hero met =>
    obtain rfl := Option.some.inj member
    obtain ⟨first, second, found, found', -⟩ := met.near
    have own : i ≠ k := by
      rintro rfl
      obtain rfl : s = u := by simpa [here] using place
      exact unfound found
    have other : j ≠ k := by
      rintro rfl
      obtain rfl : s = v := by simpa [here] using there
      exact unfound found'
    simp [Beat.involves, own, other]

/-- A stream that takes part in no exchange keeps its blocks, and whatever it does uses up a step
that it had left. -/
theorem of_becomes_uninvolved (becomes : Becomes now k s beat t)
    (alone : ∀ b ∈ beat, b.involves k = false) :
    t.agenda.blocks = s.agenda.blocks ∧
      t.stepsLeft now.run.movePause + (History.ofStream k beat.toList).length ≤
        s.stepsLeft now.run.movePause := by
  cases becomes with
  | stays elsewhere =>
    rw [History.ofStream_eq_nil fun b member => (elsewhere b member).1]
    exact ⟨rfl, Nat.le_refl _⟩
  | begins going deed =>
    rw [Option.toList_some, History.ofStream_own]
    exact ⟨Agenda.blocks_begin, Nat.le_of_eq (Stream.stepsLeft_begin deed)⟩
  | acts going deed =>
    rw [Option.toList_some, History.ofStream_own]
    exact ⟨rfl, Nat.le_of_eq (Stream.stepsLeft_continueWith deed)⟩
  | completes going deed =>
    rw [Option.toList_some, History.ofStream_own]
    exact ⟨rfl, Stream.stepsLeft_complete_lt deed⟩
  | ends going deed =>
    rw [Option.toList_some, History.ofStream_own]
    exact ⟨rfl, Nat.le_of_eq (Stream.stepsLeft_finish _ going)⟩
  | exchanges | met => simp [Beat.involves] at alone

/-- While its sprite is not on the stage, a stream changes nothing there. -/
theorem cast_turn_of_absent (here : now.run.streams[k]? = some s)
    (absent : s.agenda.sprite ∉ now.cast.ids) (clock : Nat) :
    (now.turn (.stream k clock)).cast = now.cast := by
  have moves := now.moves_turn (.stream k clock)
  generalize now.turn (.stream k clock) = later at moves ⊢
  generalize now.beat? (.stream k clock) = beat at moves
  cases moves with
  | rests | begins | completes | exchanges | ends => rfl
  | @acts _ _ u action rest place going deed =>
    obtain rfl : s = u := by simpa [here] using place
    exact Cast.perform_of_not_mem absent action

end Scene

/-- Whether it is the turn of the stream at a place. -/
def Turn.isOf (k : Nat) : Turn → Bool
  | .stream place _ => place = k
  | .host _ => false

namespace Scene

variable {now : Scene} {turns : List Turn}

/-- In its turn, a stream does something unless it has ended. -/
theorem isOf_le_length_ofStream (here : now.run.streams[k]? = some s) (going : s.ended = false)
    (turn : Turn) :
    (turn.isOf k).toNat ≤ (History.ofStream k (now.beat? turn).toList).length := by
  cases turn with
  | host edit => exact Nat.zero_le _
  | stream place clock =>
    by_cases own : place = k
    · subst own
      simp [beat?, here, going, History.ofStream, Turn.isOf]
    · simp [Turn.isOf, own]

/-- A stream without a step left has ended. -/
theorem ended_of_stepsLeft_eq_zero (none : s.stepsLeft movePause = 0) : s.ended = true := by
  cases ended : s.ended with
  | true => rfl
  | false => simp [Stream.stepsLeft, Stream.ownSteps, ended] at none

/-! ## Many turns -/

/-- As long as its sprite is not on the stage, a stream keeps its blocks and takes part in no
exchange. It has ended when it had as many turns as it had steps left. -/
theorem play_of_absent (here : now.run.streams[k]? = some s)
    (absent : ∀ n, s.agenda.sprite ∉ (now.play (turns.take n)).cast.ids) :
    ∃ t, (now.play turns).run.streams[k]? = some t ∧ t.agenda.sprite = s.agenda.sprite ∧
      t.agenda.blocks = s.agenda.blocks ∧ (∀ b ∈ now.beats turns, b.involves k = false) ∧
      (s.ended = true → t.ended = true) ∧
      (t.ended = true ∨ t.stepsLeft now.run.movePause + turns.countP (Turn.isOf k) ≤
        s.stepsLeft now.run.movePause) := by
  induction turns generalizing now s with
  | nil => exact ⟨s, here, rfl, rfl, nofun, id, .inr (Nat.le_refl _)⟩
  | cons turn rest ih =>
    have moves := now.moves_turn turn
    have uninvolved := uninvolved_of_absent moves here (absent 0)
    obtain ⟨u, there, becomes⟩ := becomes_of_moves moves here
    have same := sprite_of_becomes becomes
    have later (n : Nat) : u.agenda.sprite ∉ ((now.turn turn).play (rest.take n)).cast.ids := by
      rw [same]
      exact absent (n + 1)
    obtain ⟨kept, fewer⟩ := of_becomes_uninvolved becomes uninvolved
    obtain ⟨t, there', sprite, blocks, alone, closed, enough⟩ := ih there later
    rw [movePause_of_moves moves] at enough
    have onwards : s.ended = true → u.ended = true := by
      intro ended
      cases going : u.ended with
      | true => rfl
      | false => exact absurd ended (by simp [going_of_becomes becomes going])
    refine ⟨t, there', sprite.trans same, blocks.trans kept, ?_, closed ∘ onwards, ?_⟩
    · intro b member
      rcases List.mem_append.1 member with first | other
      · exact uninvolved b (by simpa using first)
      · exact alone b other
    · cases ended : s.ended with
      | true => exact .inl (closed (onwards ended))
      | false =>
        refine enough.imp_right fun enough => ?_
        have own := isOf_le_length_ofStream here ended turn
        have counted : (turn :: rest).countP (Turn.isOf k) =
            rest.countP (Turn.isOf k) + (turn.isOf k).toNat := by
          cases isOf : turn.isOf k <;> simp [isOf]
        omega

end Scene

end Troupe
