import Troupe.Encounter
import Troupe.Event
import Troupe.Palette.Standard
import Troupe.Run.Basic

/-!
# Workspaces

A workspace is what a user works on: a cast, a script for every sprite, the sprite that is selected,
and whether hero mode is on. A sprite without a script has the empty one. Editing blocks applies to
the script of the selected sprite and does nothing without a selection.

In hero mode, a sprite that is put down on another one exchanges scripts with it.
-/

namespace Troupe

/-- A workspace. -/
structure Workspace where
  /-- The settings. -/
  settings : Settings := .default
  /-- The kinds of blocks on offer. -/
  palette : Palette := .standard
  /-- The sprites on the stage. -/
  cast : Cast := ∅
  /-- The script of every sprite. -/
  scripts : SpriteId → Script := fun _ => []
  /-- The sprite that is selected. -/
  active : Option SpriteId := none
  /-- Whether hero mode is on. -/
  heroMode : Bool := false

/-- Why no sprite was added. -/
inductive AddFailure where
  /-- No avatar has the name. -/
  | unknownAvatar (name : String)
  /-- A sprite on the stage has the avatar. -/
  | avatarInUse (avatar : Avatar)
deriving DecidableEq, Repr

/-- The wording of a failure to add a sprite. -/
def AddFailure.message : AddFailure → String
  | .unknownAvatar name => s!"Unknown sprite kind: {name}"
  | .avatarInUse avatar => s!"Sprite kind already in use: {avatar.name}"

/-- The avatar with a given name, or why there is none. -/
def Avatar.named (name : String) : Except AddFailure Avatar :=
  match Avatar.ofName? name with
  | some avatar => .ok avatar
  | none => .error (.unknownAvatar name)

namespace Workspace

/-- The workspace with the script of a sprite replaced. -/
def setScript (w : Workspace) (id : SpriteId) (script : Script) : Workspace :=
  { w with scripts := fun other => if other = id then script else w.scripts other }

/-- The sprite whose script is replaced has the new one. -/
@[simp] theorem scripts_setScript_self (w : Workspace) (id : SpriteId) (script : Script) :
    (w.setScript id script).scripts id = script := by
  simp [setScript]

/-- The other sprites keep their scripts. -/
theorem scripts_setScript_of_ne (w : Workspace) {id other : SpriteId} (script : Script)
    (h : other ≠ id) : (w.setScript id script).scripts other = w.scripts other := by
  simp [setScript, h]

/-! ## Sprites -/

/-- Where the next sprite appears. -/
def spawnPosition (w : Workspace) : Position :=
  let coordinate := w.settings.spawnOrigin + w.settings.spawnSpacing * Int64.ofNat w.cast.size
  ⟨coordinate, coordinate⟩

/-- Adds a sprite with an identity that is new, and selects it. No avatar is there twice. -/
def add (w : Workspace) (id : SpriteId) (avatar : Avatar) :
    Outcome Workspace (Except AddFailure SpriteId) :=
  if w.cast.sprites.any (·.avatar = avatar) then
    { answer := .error (.avatarInUse avatar), state := w }
  else
    { answer := .ok id
      state := { w with cast := w.cast.push (.create id avatar w.spawnPosition), active := some id }
      log := [.added avatar id w.spawnPosition] }

/-- Adds a sprite whose avatar is given by its name. -/
def addNamed (w : Workspace) (id : SpriteId) (name : String) :
    Outcome Workspace (Except AddFailure SpriteId) :=
  match Avatar.named name with
  | .ok avatar => w.add id avatar
  | .error failure => { answer := .error failure, state := w }

/-- Adds a cat to an empty stage. -/
def ensure (w : Workspace) (id : SpriteId) : Outcome Workspace (Option SpriteId) :=
  if w.cast.isEmpty then (w.add id .cat).map Except.toOption else { answer := none, state := w }

/-- Places a sprite, and tells whether it is there. -/
def place (w : Workspace) (id : SpriteId) (position : Position) : Outcome Workspace Bool where
  answer := w.cast.has id
  state := { w with cast := w.cast.modify id (·.place position) }

/-- Removes a sprite, its script and its selection, and returns it. -/
def remove (w : Workspace) (id : SpriteId) : Outcome Workspace (Option Sprite) :=
  match w.cast.find? id with
  | some s =>
    { answer := some s
      state :=
        { w.setScript id [] with
          cast := w.cast.erase id
          active := if w.active = some id then none else w.active } }
  | none => { answer := none, state := w }

/-- Selects a sprite, and tells whether it is there. -/
def select (w : Workspace) (id : SpriteId) : Outcome Workspace Bool :=
  if w.cast.has id then { answer := true, state := { w with active := some id } }
  else { answer := false, state := w }

/-! ## Scripts -/

/-- Replaces the script of a sprite by one in line with the palette, and tells whether the sprite is
there. -/
def updateScript (w : Workspace) (id : SpriteId) (script : Script) : Outcome Workspace Bool :=
  if w.cast.has id then
    { answer := true, state := w.setScript id (script.map w.palette.normalize) }
  else { answer := false, state := w }

/-- Appends a new block of a kind on offer to the script of the selected sprite, and returns its
place. -/
def drop (w : Workspace) (kind : Kind) : Outcome Workspace (Option Nat) :=
  match w.active, w.palette.instantiate? kind with
  | some id, some b =>
    { answer := some (w.scripts id).length, state := w.setScript id (w.scripts id ++ [b]) }
  | _, _ => { answer := none, state := w }

/-- Removes the block at a place of the script of the selected sprite, and returns it. -/
def removeBlock (w : Workspace) (index : Nat) : Outcome Workspace (Option Block) :=
  match w.active with
  | some id =>
    { answer := (w.scripts id)[index]?, state := w.setScript id ((w.scripts id).eraseIdx index) }
  | none => { answer := none, state := w }

/-- Replaces a value of a block of the script of the selected sprite, and tells whether it is
there. -/
def setParameter (w : Workspace) (block parameter : Nat) (value : Literal) :
    Outcome Workspace Bool :=
  match w.active with
  | some id =>
    match (w.scripts id)[block]? with
    | some b =>
      { answer := parameter < b.params.length
        state := w.setScript id
          ((w.scripts id).set block { b with params := b.params.set parameter value }) }
    | none => { answer := false, state := w }
  | none => { answer := false, state := w }

/-- Empties every script. -/
def reset (w : Workspace) : Workspace := { w with scripts := fun _ => [] }

/-! ## Hero mode -/

/-- Turns hero mode on or off. -/
def setHeroMode (w : Workspace) (on : Bool) : Workspace := { w with heroMode := on }

/-- The workspace with the scripts of two sprites exchanged. -/
def exchangeScripts (w : Workspace) (id other : SpriteId) : Workspace :=
  (w.setScript id (w.scripts other)).setScript other (w.scripts id)

/-- Puts a sprite down. In hero mode, it exchanges scripts with the first sprite that it meets, and
that one is returned. -/
def release (w : Workspace) (id : SpriteId) : Outcome Workspace (Option SpriteId) :=
  if w.heroMode then
    match Encounter.partner? w.settings.radius w.cast.sprites id with
    | some other =>
      { answer := some other
        state := w.exchangeScripts id other
        log := [.scriptsSwapped (w.cast.nameOf id) (w.cast.nameOf other)] }
    | none => { answer := none, state := w }
  else { answer := none, state := w }

/-! ## Runs -/

/-- The scripts of all sprites on the stage. -/
def castScripts (w : Workspace) : List (SpriteId × Script) :=
  w.cast.ids.map fun id => (id, w.scripts id)

end Workspace

end Troupe
