import Troupe.Json.Record

/-!
# Settings

How long a sprite rests after a shift, how close sprites meet, and where they appear. Every setting
has a default, so a document may leave out any of them. The library has a version beside them.
-/

namespace Troupe

open Json

/-- The version of the library. -/
def version : String := "0.1.0"

/-- The settings of a workspace. -/
structure Settings where
  /-- The milliseconds that a sprite rests after a shift. -/
  movePause : UInt64 := 500
  /-- Sprites closer than this meet. -/
  radius : Binary64 := .ofNat 20
  /-- Both coordinates of the first sprite that appears. -/
  spawnOrigin : Int64 := 50
  /-- What is added to both coordinates for every sprite that is already there. -/
  spawnSpacing : Int64 := 50
deriving DecidableEq, Repr

namespace Settings

/-- The default settings. -/
def default : Settings := {}

/-- Whether every setting has its default. -/
def isDefault (s : Settings) : Bool := s = default

/-- Settings as a document. -/
def toTree (s : Settings) : Tree :=
  .ofFields [
    ("move_pause_ms", .ofInt s.movePause.toNat),
    ("collision_radius", .ofBinary64 s.radius),
    ("spawn_origin", .ofInt s.spawnOrigin.toInt),
    ("spawn_spacing", .ofInt s.spawnSpacing.toInt)]

/-- Settings of which some are read. -/
structure Draft where
  /-- The rest after a shift, if it is read. -/
  movePause : Option UInt64 := none
  /-- The distance at which sprites meet, if it is read. -/
  radius : Option Binary64 := none
  /-- The coordinates of the first sprite, if they are read. -/
  spawnOrigin : Option Int64 := none
  /-- The distance between sprites that appear, if it is read. -/
  spawnSpacing : Option Int64 := none

/-- How settings are read. -/
def shape : Shape Draft Settings where
  name := "SandboxConfig"
  slots := [
    .field "move_pause_ms" readUnsigned (·.movePause) fun a d => { d with movePause := some a },
    .field "collision_radius" readReal (·.radius) fun a d => { d with radius := some a },
    .field "spawn_origin" readSigned (·.spawnOrigin) fun a d => { d with spawnOrigin := some a },
    .field "spawn_spacing" readSigned (·.spawnSpacing) fun a d => { d with spawnSpacing := some a }]
  blank := {}
  finish _ d := .ok {
    movePause := d.movePause.getD default.movePause
    radius := d.radius.getD default.radius
    spawnOrigin := d.spawnOrigin.getD default.spawnOrigin
    spawnSpacing := d.spawnSpacing.getD default.spawnSpacing }

/-- Reads settings. -/
def read : Reader Settings := shape.read

/-- Why there are no settings. -/
inductive Failure where
  /-- The file is not there or its bytes are no text. -/
  | unreadable
  /-- The text of the file is refused. -/
  | refused (refusal : Refusal)
deriving DecidableEq, Repr

/-- Settings from a text. -/
def ofText (s : String) : Except Failure Settings :=
  match readDocument read s with
  | .ok settings => .ok settings
  | .error refusal => .error (.refused refusal)

/-- Settings from the bytes of a file, if there is one. -/
def ofFile (bytes : Option ByteArray) : Except Failure Settings :=
  match bytes.bind String.fromUTF8? with
  | some s => ofText s
  | none => .error .unreadable

/-- The wording of a failure to read a document of another shape. -/
def mismatchMessage (mismatch : Mismatch) : String := "Invalid configuration: " ++ mismatch.message

end Settings

end Troupe
