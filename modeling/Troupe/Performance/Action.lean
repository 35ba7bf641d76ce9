import Troupe.Event

/-!
# Actions

Performing an instruction comes down to single actions: telling of it, changing the sprite, pausing.
Changing a sprite that is not on the stage does nothing.
-/

namespace Troupe

/-- A change of a sprite. -/
inductive Effect where
  /-- Shifts it along the first axis. -/
  | shift (distance : Int64)
  /-- Places it. -/
  | place (position : Position)
  /-- Turns it clockwise. -/
  | turn (angle : Int64)
  /-- Turns it counter-clockwise. -/
  | turnLeft (angle : Int64)
  /-- Shows its speech bubble. -/
  | say (text : String)
  /-- Hides its speech bubble. -/
  | hush
  /-- Shows its thought bubble. -/
  | think (text : String)
  /-- Hides its thought bubble. -/
  | unthink
deriving DecidableEq, Repr

/-- The sprite after a change. -/
def Effect.apply : Effect → Sprite → Sprite
  | .shift distance, s => s.shift distance
  | .place position, s => s.place position
  | .turn angle, s => s.turn angle
  | .turnLeft angle, s => s.turnLeft angle
  | .say text, s => s.say text
  | .hush, s => s.hush
  | .think text, s => s.think text
  | .unthink, s => s.unthink

/-- A single action of a stream. -/
inductive Action where
  /-- Tells that a block is performed. -/
  | announce (kind : Kind)
  /-- Tells that a block is of unknown kind. -/
  | warn (name : String)
  /-- Changes the sprite. -/
  | change (effect : Effect)
  /-- Pauses for a number of milliseconds. -/
  | pause (duration : Nat)
deriving DecidableEq, Repr

namespace Action

/-- How long an action pauses, if it does. -/
def pause? : Action → Option Nat
  | .pause duration => some duration
  | _ => none

/-- The cast after an action of the stream of a sprite. -/
def perform (who : SpriteId) (cast : Cast) : Action → Cast
  | .change effect => cast.modify who effect.apply
  | _ => cast

/-- The events that tell of an action at a time, with the cast that it meets. -/
def events (who : SpriteId) (clock : Nat) (cast : Cast) : Action → List Event
  | .announce kind => [.performing who kind]
  | .warn name => [.unknownKind name]
  | .change _ => []
  | .pause duration => [.paused duration clock cast.sprites]

end Action

end Troupe
