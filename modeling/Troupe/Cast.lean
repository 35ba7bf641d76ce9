import Troupe.Sprite.Basic

/-!
# The cast

The cast is the sprites that are on the stage, in the order they came on. Every operation that names
a sprite acts on the first one with that identity.
-/

namespace Troupe

/-- The sprites on the stage. -/
structure Cast where
  /-- The sprites, in the order they came on. -/
  sprites : List Sprite
deriving DecidableEq, Repr, Inhabited

namespace Cast

/-- Nobody on the stage. -/
instance : EmptyCollection Cast where
  emptyCollection := ⟨[]⟩

/-- The first sprite of a list with an identity. -/
def findIn? (sprites : List Sprite) (id : SpriteId) : Option Sprite := sprites.find? (·.id = id)

/-- A list of sprites with the first one of an identity changed. -/
def modifyIn (id : SpriteId) (change : Sprite → Sprite) : List Sprite → List Sprite
  | [] => []
  | s :: rest => if s.id = id then change s :: rest else s :: modifyIn id change rest

/-- How many sprites there are. -/
def size (cast : Cast) : Nat := cast.sprites.length

/-- Whether there is no sprite. -/
def isEmpty (cast : Cast) : Bool := cast.sprites.isEmpty

/-- The identities of the sprites. -/
def ids (cast : Cast) : List SpriteId := cast.sprites.map (·.id)

/-- The sprite with an identity. -/
def find? (cast : Cast) (id : SpriteId) : Option Sprite := findIn? cast.sprites id

/-- Whether there is a sprite with an identity. -/
def has (cast : Cast) (id : SpriteId) : Bool := (cast.find? id).isSome

/-- Where the sprite with an identity is. -/
def position? (cast : Cast) (id : SpriteId) : Option Position := (cast.find? id).map (·.position)

/-- The cast after a sprite came on. -/
def push (cast : Cast) (s : Sprite) : Cast := ⟨cast.sprites ++ [s]⟩

/-- The cast without the sprite with an identity. -/
def erase (cast : Cast) (id : SpriteId) : Cast := ⟨cast.sprites.eraseP (·.id = id)⟩

/-- The cast with the sprite of an identity changed. Without such a sprite, nothing changes. -/
def modify (cast : Cast) (id : SpriteId) (change : Sprite → Sprite) : Cast :=
  ⟨modifyIn id change cast.sprites⟩

/-- The avatars that no sprite has, in the order of the menu. -/
def freeAvatars (cast : Cast) : List Avatar :=
  Avatar.all.filter fun avatar => !cast.sprites.any (·.avatar = avatar)

/-- The name of a sprite, or the text of its identity when it is not there. -/
def nameOf (cast : Cast) (id : SpriteId) : String :=
  match cast.find? id with
  | some s => s.name
  | none => id.toText

end Cast

end Troupe
