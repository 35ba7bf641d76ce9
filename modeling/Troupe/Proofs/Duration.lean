import Troupe.Proofs.Performance.Emission
import Troupe.Tally

/-!
# How long blocks take

A shift takes as long as the sprite rests after it, a bubble as long as it is shown, and a body that
is repeated as often as it is performed times what its blocks take. Nothing else takes time. The
main statement, `Block.tally_duration_actions`, says that this is what the actions of a block take,
however deep the blocks inside it are.
-/

namespace Troupe

/-- The milliseconds that an action takes: only pauses take time. -/
def Action.duration (action : Action) : Nat := action.pause?.getD 0

namespace Block

mutual

/-- The milliseconds that a block takes, read off its literal values. -/
def duration (movePause : Nat) : Block → Nat
  | ⟨.move, _, _⟩ => movePause
  | ⟨.say, params, _⟩ => 1000 * count (Literal.integerAt params 1 defaultSeconds)
  | ⟨.think, params, _⟩ => 1000 * count (Literal.integerAt params 1 defaultSeconds)
  | ⟨.turnLeft, _, _⟩ => 0
  | ⟨.turn, _, _⟩ => 0
  | ⟨.goTo, _, _⟩ => 0
  | ⟨.loop, params, children⟩ =>
    count (Literal.integerAt params 0 0) * durationAll movePause children
  | ⟨.unknown _, _, _⟩ => 0

/-- The milliseconds that a list of blocks takes. -/
def durationAll (movePause : Nat) : List Block → Nat
  | [] => 0
  | b :: rest => duration movePause b + durationAll movePause rest

end

variable {movePause : Nat}

mutual

/-- All that a block does takes what the block takes. -/
theorem tally_duration_expansion (b : Block) :
    tally Action.duration (b.expansion movePause) = b.duration movePause := by
  obtain ⟨kind, params, children⟩ := b
  cases kind with
  | loop =>
    have inside := tally_duration_expansionAll children
    rw [expansion, duration, tally_cons, tally_flatten_replicate, inside]
    exact Nat.zero_add _
  | move | say | think | turnLeft | turn | goTo | unknown name =>
    simp [expansion, duration, Action.duration, Action.pause?]

/-- All that a list of blocks does takes what the blocks take. -/
theorem tally_duration_expansionAll (blocks : List Block) :
    tally Action.duration (expansionAll movePause blocks) = durationAll movePause blocks := by
  cases blocks with
  | nil => rfl
  | cons b rest =>
    rw [expansionAll, durationAll, tally_append, tally_duration_expansion b,
      tally_duration_expansionAll rest]

end

/-- The actions of a block take what the block takes. -/
theorem tally_duration_actions (movePause : Nat) (b : Block) :
    tally Action.duration (b.actions movePause) = b.duration movePause := by
  rw [actions_eq_expansion, tally_duration_expansion]

end Block

end Troupe
