import Troupe.Block.Basic
import Troupe.Cast

/-!
# Events and outcomes

Everything that happens in a workspace and during a run is told by events. `Event.line` gives the
wording, with the identities of sprites replaced by labels. An operation on a state has an outcome:
it answers, leads to another state, and tells what happened on the way.
-/

namespace Troupe

/-- Something that happened. -/
inductive Event where
  /-- A sprite came on. -/
  | added (avatar : Avatar) (id : SpriteId) (position : Position)
  /-- A stream begins to perform a block. -/
  | performing (id : SpriteId) (kind : Kind)
  /-- A block was of unknown kind. -/
  | unknownKind (name : String)
  /-- A definition was left out because its kind was defined before. -/
  | duplicateDefinition (kind : Kind)
  /-- Two sprites exchanged their scripts. -/
  | scriptsSwapped (first second : String)
  /-- A run started. -/
  | runStarted (streams : Nat) (heroMode : Bool)
  /-- Two streams exchanged the blocks they had not begun. -/
  | remainingSwapped (first second : String)
  /-- A run was waited for to its end. -/
  | runFinished (blocks swaps duration : Nat)
  /-- A stream pauses, at a time and with these sprites on the stage. -/
  | paused (duration clock : Nat) (sprites : List Sprite)
deriving DecidableEq, Repr

/-- A fraction of a second in thousandths, without zeros at its end. -/
def thousandthsText (n : Nat) : String :=
  let digits := (Nat.toDigits 10 (1000 + n)).drop 1
  String.ofList (digits.reverse.dropWhile (· = '0')).reverse

/-- The wording of a number of milliseconds: in the greatest unit of which there is one. -/
def durationText (milliseconds : Nat) : String :=
  if milliseconds = 0 then "0ns"
  else if milliseconds < 1000 then s!"{milliseconds}ms"
  else if milliseconds % 1000 = 0 then s!"{milliseconds / 1000}s"
  else s!"{milliseconds / 1000}." ++ thousandthsText (milliseconds % 1000) ++ "s"

/-- The wording for a sprite on the stage while a stream pauses. -/
def Sprite.snapshotText (label : SpriteId → String) (s : Sprite) : String :=
  let speech := if s.speech.visible then "S" else "-"
  let thought := if s.thought.visible then "T" else "-"
  let place := s!"{s.position.x.toInt},{s.position.y.toInt} {s.heading.toInt}"
  s!" | {label s.id} {place} {speech}{thought}"

/-- The line that tells of an event. -/
def Event.line (label : SpriteId → String) : Event → String
  | .added avatar id p =>
    s!"DEBUG Added sprite {avatar.emoji} {avatar.name} ({label id}) at {p.x.toInt},{p.y.toInt}"
  | .performing id kind => s!"DEBUG [{label id}] {kind.name}"
  | .unknownKind name => s!"WARN Unknown block type: {name}"
  | .duplicateDefinition kind => s!"WARN Duplicate block definition for '{kind.name}' ignored"
  | .scriptsSwapped first second => s!"INFO Swapped blocks between {first} and {second}"
  | .runStarted streams heroMode =>
    s!"INFO Starting run with {streams} streams (hero mode: {heroMode})"
  | .remainingSwapped first second =>
    s!"INFO Sprites {first} and {second} swapped remaining functions"
  | .runFinished blocks swaps duration =>
    s!"INFO Run finished: {blocks} blocks, {swaps} swaps in {durationText duration}"
  | .paused duration clock sprites =>
    s!"PAUSE {duration} @{clock}" ++ String.join (sprites.map (Sprite.snapshotText label))

/-- What an operation leads to. -/
structure Outcome (σ α : Type) where
  /-- The answer. -/
  answer : α
  /-- The state after it. -/
  state : σ
  /-- What happened, in order. -/
  log : List Event := []

namespace Outcome

variable {σ τ α β : Type}

/-- The outcome with another answer. -/
def map (f : α → β) (o : Outcome σ α) : Outcome σ β := { o with answer := f o.answer }

/-- The outcome of an operation on a part of a state. -/
def lift (put : σ → τ) (o : Outcome σ α) : Outcome τ α := { o with state := put o.state }

/-- The outcome of an operation before which something happened. -/
def following (o : Outcome σ α) (earlier : List Event) : Outcome σ α :=
  { o with log := earlier ++ o.log }

end Outcome

end Troupe
