import Troupe.Block.Literal

/-!
# Blocks

A script is a list of blocks. A block has a kind, literal values, and children, which matter to the
kind that repeats them and to no other.
-/

namespace Troupe

/-- The kinds of blocks. -/
inductive Kind where
  /-- Shifts the sprite. -/
  | move
  /-- Shows a speech bubble for a while. -/
  | say
  /-- Shows a thought bubble for a while. -/
  | think
  /-- Turns the sprite counter-clockwise. -/
  | turnLeft
  /-- Turns the sprite clockwise. -/
  | turn
  /-- Places the sprite. -/
  | goTo
  /-- Repeats its children. -/
  | loop
  /-- A kind that nothing is known about but its name. -/
  | unknown (name : String)
deriving DecidableEq, Repr, Inhabited

namespace Kind

/-- The kinds that are known, in no order that matters. -/
def known : List Kind := [.move, .say, .think, .turnLeft, .turn, .goTo, .loop]

/-- The name of a kind. -/
def name : Kind → String
  | .move => "move"
  | .say => "say"
  | .think => "think"
  | .turnLeft => "turnLeft"
  | .turn => "turn"
  | .goTo => "goTo"
  | .loop => "repeat"
  | .unknown name => name

/-- The kind with a given name. -/
def ofName (name : String) : Kind :=
  match known.find? (·.name = name) with
  | some kind => kind
  | none => .unknown name

/-- Whether a kind is known. -/
def isKnown : Kind → Bool
  | .unknown _ => false
  | _ => true

/-- Whether blocks of a kind are made of their children. -/
def nests (kind : Kind) : Bool := kind = .loop

end Kind

/-- A block of a script. -/
structure Block where
  /-- Its kind. -/
  kind : Kind
  /-- Its literal values, in the order of its parameters. -/
  params : List Literal
  /-- The blocks inside it. -/
  children : List Block
deriving Repr, Inhabited

/-- The blocks of a sprite, in order. -/
abbrev Script := List Block

namespace Block

/-- A block without children. -/
def leaf (kind : Kind) (params : List Literal) : Block := ⟨kind, params, []⟩

/-- The block that shifts a sprite. -/
def move (distance : Int64) : Block := leaf .move [.integer distance]

/-- The block that shows a speech bubble. -/
def say (text : String) (seconds : Int64) : Block := leaf .say [.text text, .integer seconds]

/-- The block that shows a thought bubble. -/
def think (text : String) (seconds : Int64) : Block := leaf .think [.text text, .integer seconds]

/-- The block that turns a sprite counter-clockwise. -/
def turnLeft (angle : Int64) : Block := leaf .turnLeft [.integer angle]

/-- The block that turns a sprite clockwise. -/
def turn (angle : Int64) : Block := leaf .turn [.integer angle]

/-- The block that places a sprite. -/
def goTo (x y : Int64) : Block := leaf .goTo [.integer x, .integer y]

/-- The block that repeats a body. -/
def loop (times : Int64) (body : List Block) : Block := ⟨.loop, [.integer times], body⟩

/-- A block with other children. -/
def withChildren (b : Block) (children : List Block) : Block := { b with children }

mutual

/-- How many blocks there are in a block, itself included. -/
def size : Block → Nat
  | ⟨_, _, children⟩ => 1 + sizeAll children

/-- How many blocks there are in a list of blocks. -/
def sizeAll : List Block → Nat
  | [] => 0
  | b :: rest => size b + sizeAll rest

end

end Block

end Troupe
