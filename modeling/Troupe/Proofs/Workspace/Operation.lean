import Troupe.Proofs.Cast
import Troupe.Proofs.Palette
import Troupe.Workspace

/-!
# Operations on a workspace

What a user does in a workspace is a list of operations, each of which is answered. An operation and
its answer make an entry of a journal, from which it can be read who came on the stage, who left it
and who was selected, without looking at the workspace.

`Workspace.Moves` says once what an operation can come to. An operation that fails changes nothing,
one that succeeds changes the stage, the selection, the scripts or hero mode, and there are no
others.
-/

namespace Troupe

/-- What the user may do in a workspace. -/
inductive Operation where
  /-- Adds a sprite with an identity that is offered. -/
  | add (id : SpriteId) (avatar : Avatar)
  /-- Adds a sprite whose avatar is given by its name. -/
  | addNamed (id : SpriteId) (name : String)
  /-- Adds a cat to an empty stage. -/
  | ensure (id : SpriteId)
  /-- Places a sprite. -/
  | place (id : SpriteId) (position : Position)
  /-- Removes a sprite. -/
  | remove (id : SpriteId)
  /-- Selects a sprite. -/
  | select (id : SpriteId)
  /-- Replaces the script of a sprite. -/
  | updateScript (id : SpriteId) (script : Script)
  /-- Appends a new block. -/
  | drop (kind : Kind)
  /-- Removes a block. -/
  | removeBlock (index : Nat)
  /-- Replaces a literal of a block. -/
  | setParameter (block parameter : Nat) (value : Literal)
  /-- Empties every script. -/
  | reset
  /-- Turns hero mode on or off. -/
  | setHeroMode (on : Bool)
  /-- Puts a sprite down. -/
  | release (id : SpriteId)

namespace Operation

/-- What an operation is answered with. -/
def Answer : Operation → Type
  | .add _ _ | .addNamed _ _ => Except AddFailure SpriteId
  | .ensure _ | .release _ => Option SpriteId
  | .place _ _ | .select _ | .updateScript _ _ | .setParameter _ _ _ => Bool
  | .remove _ => Option Sprite
  | .drop _ => Option Nat
  | .removeBlock _ => Option Block
  | .reset | .setHeroMode _ => Unit

/-- The identity that a new sprite would get. -/
def newcomer? : Operation → Option SpriteId
  | .add id _ | .addNamed id _ | .ensure id => some id
  | _ => none

/-- Whether the sprites on the stage stay, and stay where they are. -/
def sparesSprites : Operation → Bool
  | .place _ _ | .remove _ => false
  | _ => true

end Operation

/-- An operation and the answer to it. -/
structure Entry where
  /-- The operation. -/
  operation : Operation
  /-- The answer. -/
  answer : operation.Answer

namespace Entry

/-- The sprite that came on. -/
def added? : Entry → Option (SpriteId × Avatar)
  | ⟨.add _ avatar, .ok id⟩ => some (id, avatar)
  | ⟨.addNamed _ name, .ok id⟩ => (Avatar.ofName? name).map (id, ·)
  | ⟨.ensure _, some id⟩ => some (id, .cat)
  | _ => none

/-- The sprite that left. -/
def removed? : Entry → Option SpriteId
  | ⟨.remove id, some _⟩ => some id
  | _ => none

/-- The sprite that was selected: by its user, or because it came on. -/
def selected? : Entry → Option SpriteId
  | ⟨.select id, true⟩ => some id
  | entry => entry.added?.map Prod.fst

/-- Nobody came on, left or was selected. -/
structure Quiet (entry : Entry) : Prop where
  /-- Nobody came on. -/
  added : entry.added? = none
  /-- Nobody left. -/
  removed : entry.removed? = none
  /-- Nobody was selected. -/
  selected : entry.selected? = none

end Entry

/-- What was done, in order, and the answers to it. -/
abbrev Journal := List Entry

namespace Workspace

/-- The outcome of an operation. -/
def operate (w : Workspace) : (operation : Operation) → Outcome Workspace operation.Answer
  | .add id avatar => w.add id avatar
  | .addNamed id name => w.addNamed id name
  | .ensure id => w.ensure id
  | .place id position => w.place id position
  | .remove id => w.remove id
  | .select id => w.select id
  | .updateScript id script => w.updateScript id script
  | .drop kind => w.drop kind
  | .removeBlock index => w.removeBlock index
  | .setParameter block parameter value => w.setParameter block parameter value
  | .reset => { answer := (), state := w.reset }
  | .setHeroMode on => { answer := (), state := w.setHeroMode on }
  | .release id => w.release id

/-- The entry that an operation makes in a journal. -/
def entry (w : Workspace) (operation : Operation) : Entry where
  operation := operation
  answer := (w.operate operation).answer

/-- The workspace without a sprite. -/
def without (w : Workspace) (id : SpriteId) : Workspace :=
  { w.setScript id [] with
    cast := w.cast.erase id
    active := if w.active = some id then none else w.active }

/-- The workspace with a sprite that came on and is selected. -/
def welcome (w : Workspace) (id : SpriteId) (avatar : Avatar) : Workspace :=
  { w with cast := w.cast.push (.create id avatar w.spawnPosition), active := some id }

/-- One operation: the entry that it makes, and the workspace after it. -/
inductive Moves (w : Workspace) : Entry → Workspace → Prop where
  /-- Nothing changes. -/
  | keeps {entry : Entry} (quiet : entry.Quiet) : Moves w entry w
  /-- A sprite comes on whose avatar is free, and is selected. -/
  | adds {entry : Entry} {id : SpriteId} {avatar : Avatar}
      (added : entry.added? = some (id, avatar)) (removed : entry.removed? = none)
      (selected : entry.selected? = some id) (offered : entry.operation.newcomer? = some id)
      (free : avatar ∈ w.cast.freeAvatars) : Moves w entry (w.welcome id avatar)
  /-- A sprite leaves. -/
  | removes {id : SpriteId} {s : Sprite} (there : w.cast.find? id = some s) :
      Moves w ⟨.remove id, some s⟩ (w.without id)
  /-- A sprite is selected. -/
  | selects {id : SpriteId} (there : id ∈ w.cast.ids) :
      Moves w ⟨.select id, true⟩ { w with active := some id }
  /-- A sprite is placed. -/
  | places (id : SpriteId) (position : Position) :
      Moves w ⟨.place id position, w.cast.has id⟩
        { w with cast := w.cast.modify id (·.place position) }
  /-- The script of a sprite is edited that is on the stage or selected. -/
  | edits {entry : Entry} {id : SpriteId} {script : Script} (quiet : entry.Quiet)
      (there : id ∈ w.cast.ids ∨ w.active = some id)
      (edits : w.palette.Edits (w.scripts id) script) : Moves w entry (w.setScript id script)
  /-- Two sprites exchange their scripts. -/
  | exchanges {id other : SpriteId}
      (partner : Encounter.partner? w.settings.radius w.cast.sprites id = some other) :
      Moves w ⟨.release id, some other⟩ (w.exchangeScripts id other)
  /-- Every script is emptied. -/
  | resets : Moves w ⟨.reset, ()⟩ w.reset
  /-- Hero mode is turned on or off. -/
  | turns (on : Bool) : Moves w ⟨.setHeroMode on, ()⟩ (w.setHeroMode on)

variable (w : Workspace)

/-- A sprite whose avatar is free comes on. -/
theorem add_of_free (id : SpriteId) {avatar : Avatar} (free : avatar ∈ w.cast.freeAvatars) :
    w.add id avatar =
      { answer := .ok id, state := w.welcome id avatar
        log := [.added avatar id w.spawnPosition] } := by
  have unused : w.cast.sprites.any (·.avatar = avatar) = false :=
    Cast.any_avatar_eq_false_iff.2 free
  rw [add, unused]
  rfl

/-- A sprite whose avatar is in use does not come on. -/
theorem add_of_used (id : SpriteId) {avatar : Avatar} (used : avatar ∉ w.cast.freeAvatars) :
    w.add id avatar = { answer := .error (.avatarInUse avatar), state := w } := by
  have found : w.cast.sprites.any (·.avatar = avatar) = true :=
    Bool.not_eq_false _ ▸ mt Cast.any_avatar_eq_false_iff.1 used
  rw [add, if_pos found]

/-- Every operation is one of the moves. -/
theorem moves_operate (operation : Operation) :
    w.Moves (w.entry operation) (w.operate operation).state := by
  cases operation with
  | add id avatar =>
    by_cases free : avatar ∈ w.cast.freeAvatars
    · simp only [entry, operate, w.add_of_free id free]
      exact .adds rfl rfl rfl rfl free
    · simp only [entry, operate, w.add_of_used id free]
      exact .keeps ⟨rfl, rfl, rfl⟩
  | addNamed id name =>
    simp only [entry, operate, addNamed, Avatar.named]
    cases named : Avatar.ofName? name with
    | none => exact .keeps ⟨rfl, rfl, rfl⟩
    | some avatar =>
      by_cases free : avatar ∈ w.cast.freeAvatars
      · have added : Entry.added? ⟨.addNamed id name, Except.ok id⟩ = some (id, avatar) := by
          simp [Entry.added?, named]
        simp only [w.add_of_free id free]
        exact .adds added rfl (congrArg (Option.map Prod.fst) added) rfl free
      · simp only [w.add_of_used id free]
        exact .keeps ⟨rfl, rfl, rfl⟩
  | ensure id =>
    by_cases empty : w.cast.isEmpty = true
    · have free : .cat ∈ w.cast.freeAvatars := Cast.mem_freeAvatars_of_isEmpty empty
      simp only [entry, operate, ensure, if_pos empty, w.add_of_free id free]
      exact .adds rfl rfl rfl rfl free
    · simp only [entry, operate, ensure, if_neg empty]
      exact .keeps ⟨rfl, rfl, rfl⟩
  | place id position => exact .places id position
  | remove id =>
    simp only [entry, operate, remove]
    cases there : w.cast.find? id with
    | none => exact .keeps ⟨rfl, rfl, rfl⟩
    | some s => exact .removes there
  | select id =>
    simp only [entry, operate, select]
    cases there : w.cast.has id with
    | false => exact .keeps ⟨rfl, rfl, rfl⟩
    | true => exact .selects (Cast.has_iff_mem_ids.1 there)
  | updateScript id script =>
    simp only [entry, operate, updateScript]
    cases there : w.cast.has id with
    | false => exact .keeps ⟨rfl, rfl, rfl⟩
    | true => exact .edits ⟨rfl, rfl, rfl⟩ (.inl (Cast.has_iff_mem_ids.1 there)) (.replaces script)
  | drop kind =>
    simp only [entry, operate, drop]
    cases active : w.active with
    | none => exact .keeps ⟨rfl, rfl, rfl⟩
    | some id =>
      cases offered : w.palette.instantiate? kind with
      | none => exact .keeps ⟨rfl, rfl, rfl⟩
      | some b => exact .edits ⟨rfl, rfl, rfl⟩ (.inr active) (.appends offered)
  | removeBlock index =>
    simp only [entry, operate, removeBlock]
    cases active : w.active with
    | none => exact .keeps ⟨rfl, rfl, rfl⟩
    | some id => exact .edits ⟨rfl, rfl, rfl⟩ (.inr active) (.removes index)
  | setParameter block parameter value =>
    simp only [entry, operate, setParameter]
    cases active : w.active with
    | none => exact .keeps ⟨rfl, rfl, rfl⟩
    | some id =>
      dsimp only
      cases there : (w.scripts id)[block]? with
      | none => exact .keeps ⟨rfl, rfl, rfl⟩
      | some b => exact .edits ⟨rfl, rfl, rfl⟩ (.inr active) (.adjusts there parameter value)
  | reset => exact .resets
  | setHeroMode on => exact .turns on
  | release id =>
    simp only [entry, operate, release]
    cases w.heroMode with
    | false => exact .keeps ⟨rfl, rfl, rfl⟩
    | true =>
      cases partner : Encounter.partner? w.settings.radius w.cast.sprites id with
      | none => exact .keeps ⟨rfl, rfl, rfl⟩
      | some other => exact .exchanges partner

end Workspace

end Troupe
