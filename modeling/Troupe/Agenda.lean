import Troupe.Block.Basic
import Troupe.Sprite.Identity
import Troupe.Tally

/-!
# Agendas

The agenda of a stream is the list of its blocks with a position in it: the blocks before the
position are completed, and the one at it may be in performance. The blocks after these remain. Only
they may be exchanged with another agenda: the completed ones and the one in performance stay where
they are.

An agenda that took part in an exchange is marked until its stream completes a block.
-/

namespace Troupe

/-- The blocks of a stream. -/
structure Agenda where
  /-- The sprite that performs them. -/
  sprite : SpriteId
  /-- All of them, in order. -/
  blocks : List Block
  /-- How many of them are completed. -/
  position : Nat
  /-- Whether the block at the position is being performed. -/
  isBusy : Bool
  /-- Whether it took part in an exchange since a block was last completed. -/
  exchanged : Bool

namespace Agenda

/-- The agenda of a script. -/
def ofScript (sprite : SpriteId) (script : Script) : Agenda where
  sprite := sprite
  blocks := script
  position := 0
  isBusy := false
  exchanged := false

/-- The block that is being performed or would be performed next. -/
def upcoming? (a : Agenda) : Option Block := a.blocks[a.position]?

/-- The block that is being performed. -/
def current (a : Agenda) : Option Block := if a.isBusy then a.upcoming? else none

/-- The blocks that were performed. -/
def completed (a : Agenda) : List Block := a.blocks.take a.position

/-- The blocks that are not completed. -/
def outstanding (a : Agenda) : List Block := a.blocks.drop a.position

/-- Where the blocks begin that may be exchanged. -/
def splitPoint (a : Agenda) : Nat := min (a.position + a.isBusy.toNat) a.blocks.length

/-- The blocks that no exchange takes away. -/
def kept (a : Agenda) : List Block := a.blocks.take a.splitPoint

/-- The blocks that are neither completed nor being performed. -/
def remaining (a : Agenda) : List Block := a.blocks.drop a.splitPoint

/-- Whether every block is completed. -/
def isExhausted (a : Agenda) : Bool := a.blocks.length ≤ a.position

/-- Begins the block at the position, if there is one. -/
def begin (a : Agenda) : Agenda := if a.upcoming?.isSome then { a with isBusy := true } else a

/-- Completes the block at the position, if there is one. -/
def advance (a : Agenda) : Agenda :=
  { a with
    position := if a.position < a.blocks.length then a.position + 1 else a.position
    isBusy := false
    exchanged := false }

/-- An agenda with the remaining blocks of another. -/
def takeRemaining (a b : Agenda) : Agenda :=
  { a with blocks := a.kept ++ b.remaining, exchanged := true }

/-- Agendas after the ones at two places exchanged their remaining blocks. -/
def exchangeAt (agendas : List Agenda) (i j : Nat) : List Agenda :=
  match agendas[i]?, agendas[j]? with
  | some a, some b => (agendas.set i (a.takeRemaining b)).set j (b.takeRemaining a)
  | _, _ => agendas

variable {a b : Agenda}

/-- Beginning a block neither adds blocks nor takes any away. -/
@[simp] theorem blocks_begin : a.begin.blocks = a.blocks := by
  simp only [begin]
  split <;> rfl

/-- Beginning a block leaves the agenda with its sprite. -/
@[simp] theorem sprite_begin : a.begin.sprite = a.sprite := by
  simp only [begin]
  split <;> rfl

/-- Beginning a block exchanges nothing. -/
@[simp] theorem exchanged_begin : a.begin.exchanged = a.exchanged := by
  simp only [begin]
  split <;> rfl

/-- Beginning a block completes none. -/
@[simp] theorem position_begin : a.begin.position = a.position := by
  simp only [begin]
  split <;> rfl

/-- Completing a block neither adds blocks nor takes any away. -/
@[simp] theorem blocks_advance : a.advance.blocks = a.blocks := rfl

/-- Taking over what remains of another agenda completes no block. -/
@[simp] theorem position_takeRemaining : (a.takeRemaining b).position = a.position := rfl

/-- Taking over what remains of another agenda does not touch the block that is being performed. -/
@[simp] theorem isBusy_takeRemaining : (a.takeRemaining b).isBusy = a.isBusy := rfl

/-- What remains has been exchanged once it is taken over. -/
@[simp] theorem exchanged_takeRemaining : (a.takeRemaining b).exchanged = true := rfl

/-- Taking over what remains of another agenda leaves the agenda with its sprite. -/
@[simp] theorem sprite_takeRemaining : (a.takeRemaining b).sprite = a.sprite := rfl

/-- What is kept and what remains are all blocks. -/
@[simp] theorem kept_append_remaining : a.kept ++ a.remaining = a.blocks :=
  List.take_append_drop ..

/-- What is kept goes up to the place at which the agenda is split. -/
@[simp] theorem length_kept : a.kept.length = a.splitPoint := by
  rw [kept, List.length_take]
  exact Nat.min_eq_left (Nat.min_le_right ..)

/-- The remaining blocks are the last of those that are not completed. -/
theorem outstanding_eq : a.outstanding = a.kept.drop a.position ++ a.remaining := by
  have parts : a.outstanding = (a.kept ++ a.remaining).drop a.position := by
    rw [kept_append_remaining, outstanding]
  rw [parts, List.drop_append, length_kept]
  by_cases within : a.position ≤ a.splitPoint
  · rw [Nat.sub_eq_zero_of_le within, List.drop_zero]
  · have none_remain : a.remaining = [] := by
      refine List.drop_of_length_le ?_
      simp only [splitPoint] at within ⊢
      omega
    rw [none_remain, List.drop_nil]

/-- When a block is begun, the ones after it remain. -/
theorem outstanding_eq_cons_of_upcoming? {block : Block} (h : a.upcoming? = some block) :
    a.outstanding = block :: a.begin.remaining := by
  obtain ⟨within, here⟩ := List.getElem?_eq_some_iff.1 h
  have after : a.begin.remaining = a.blocks.drop (a.position + 1) := by
    simp only [begin, h, Option.isSome_some, ↓reduceIte, remaining, splitPoint, Bool.toNat_true]
    rw [Nat.min_eq_left within]
  rw [after, outstanding, List.drop_eq_getElem_cons within, here]

/-- What is not completed after the completion of a block remained before. -/
theorem tally_outstanding_advance_le (f : Block → Nat) :
    tally f a.advance.outstanding ≤ tally f a.remaining := by
  have after : a.splitPoint ≤ a.advance.position := by
    simp only [splitPoint, advance]
    cases a.isBusy <;> simp only [Bool.toNat_true, Bool.toNat_false] <;> split <;> omega
  have later : a.advance.outstanding = a.remaining.drop (a.advance.position - a.splitPoint) := by
    rw [remaining, List.drop_drop, Nat.add_sub_cancel' after]
    rfl
  rw [later]
  exact tally_drop_le f _ _

/-- After an exchange no more remains than what the other agenda gave. -/
theorem tally_remaining_takeRemaining_le (f : Block → Nat) :
    tally f (a.takeRemaining b).remaining ≤ tally f b.remaining := by
  have whole : a.kept.length ≤ (a.takeRemaining b).splitPoint := by
    simp only [length_kept, splitPoint, takeRemaining, List.length_append]
    omega
  have given : (a.takeRemaining b).remaining =
      b.remaining.drop ((a.takeRemaining b).splitPoint - a.kept.length) := by
    change (a.kept ++ b.remaining).drop (a.takeRemaining b).splitPoint = _
    rw [List.drop_append, List.drop_of_length_le whole, List.nil_append]
  rw [given]
  exact tally_drop_le f _ _

/-- An exchange leaves the blocks between the completed ones and the remaining ones in place. -/
theorem tally_outstanding_takeRemaining_le (f : Block → Nat) :
    tally f (a.takeRemaining b).outstanding + tally f a.remaining ≤
      tally f a.outstanding + tally f b.remaining := by
  have given : (a.takeRemaining b).outstanding =
      a.kept.drop a.position ++ b.remaining.drop (a.position - a.kept.length) := by
    change (a.kept ++ b.remaining).drop a.position = _
    rw [List.drop_append]
  have fewer := tally_drop_le f b.remaining (a.position - a.kept.length)
  rw [given, outstanding_eq, tally_append, tally_append]
  omega

/-- An exchange neither adds agendas nor takes any away. -/
@[simp] theorem length_exchangeAt (agendas : List Agenda) (i j : Nat) :
    (exchangeAt agendas i j).length = agendas.length := by
  simp only [exchangeAt]
  split <;> simp

end Agenda

end Troupe
