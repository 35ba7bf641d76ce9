import Troupe.Block.Basic

/-!
# Instructions

Before a block is performed it is decoded into an instruction: its literal values are read as what
its kind needs, with defaults where they are missing or cannot be read, and counts below zero become
zero. A block of unknown kind keeps nothing but its name, and only repeated blocks keep their
children.
-/

namespace Troupe

/-- What a block does. -/
inductive Instruction where
  /-- Shifts the sprite along the first axis. -/
  | move (distance : Int64)
  /-- Shows a speech bubble for some seconds. -/
  | say (text : String) (seconds : Nat)
  /-- Shows a thought bubble for some seconds. -/
  | think (text : String) (seconds : Nat)
  /-- Turns the sprite counter-clockwise. -/
  | turnLeft (angle : Int64)
  /-- Turns the sprite clockwise. -/
  | turn (angle : Int64)
  /-- Places the sprite. -/
  | goTo (x y : Int64)
  /-- Performs a body some times. -/
  | loop (times : Nat) (body : List Instruction)
  /-- Does nothing, for a kind that is not known. -/
  | unknown (name : String)
deriving Repr, Inhabited

/-- The kind of block that an instruction comes from. -/
def Instruction.kind : Instruction → Kind
  | .move _ => .move
  | .say _ _ => .say
  | .think _ _ => .think
  | .turnLeft _ => .turnLeft
  | .turn _ => .turn
  | .goTo _ _ => .goTo
  | .loop _ _ => .loop
  | .unknown name => .unknown name

namespace Block

/-- How long a bubble is shown when its block does not tell. -/
def defaultSeconds : Int64 := 2

/-- A count, which is zero when the integer is below zero. -/
def count (n : Int64) : Nat := n.toInt.toNat

mutual

/-- The instruction of a block. -/
def decode : Block → Instruction
  | ⟨.move, params, _⟩ => .move (Literal.integerAt params 0 0)
  | ⟨.say, params, _⟩ =>
    .say (Literal.textAt params 0 "") (count (Literal.integerAt params 1 defaultSeconds))
  | ⟨.think, params, _⟩ =>
    .think (Literal.textAt params 0 "") (count (Literal.integerAt params 1 defaultSeconds))
  | ⟨.turnLeft, params, _⟩ => .turnLeft (Literal.integerAt params 0 0)
  | ⟨.turn, params, _⟩ => .turn (Literal.integerAt params 0 0)
  | ⟨.goTo, params, _⟩ => .goTo (Literal.integerAt params 0 0) (Literal.integerAt params 1 0)
  | ⟨.loop, params, children⟩ =>
    .loop (count (Literal.integerAt params 0 0)) (decodeAll children)
  | ⟨.unknown name, _, _⟩ => .unknown name

/-- The instructions of a list of blocks. -/
def decodeAll : List Block → List Instruction
  | [] => []
  | b :: rest => decode b :: decodeAll rest

end

/-- A list of blocks is decoded block by block. -/
@[simp] theorem decodeAll_eq_map (blocks : List Block) : decodeAll blocks = blocks.map decode := by
  induction blocks with
  | nil => rfl
  | cons b rest ih => simp [decodeAll, ih]

end Block

end Troupe
