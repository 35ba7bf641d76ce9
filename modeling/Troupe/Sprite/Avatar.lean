import Troupe.Text.Blank

/-!
# Avatars

An avatar is what a sprite looks like. There is a fixed set of them, in the order of a menu.
-/

namespace Troupe

/-- What a sprite looks like. -/
inductive Avatar where
  /-- A cat. -/
  | cat
  /-- A dog. -/
  | dog
  /-- A robot. -/
  | robot
deriving DecidableEq, Repr, Inhabited

namespace Avatar

/-- Every avatar, in the order of the menu. -/
def all : List Avatar := [.cat, .dog, .robot]

/-- The name of an avatar. -/
def name : Avatar → String
  | .cat => "cat"
  | .dog => "dog"
  | .robot => "robot"

/-- The picture of an avatar. -/
def emoji : Avatar → String
  | .cat => "🐱"
  | .dog => "🐶"
  | .robot => "🤖"

/-- The avatar with a given name. Blanks around the name do not matter, nor does the case of its
letters. -/
def ofName? (name : String) : Option Avatar :=
  let wanted := (trim name.toList).map Char.toLower
  all.find? fun avatar => avatar.name.toList = wanted

end Avatar

end Troupe
