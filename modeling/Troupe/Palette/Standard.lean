import Troupe.Palette.Basic

/-!
# The standard palette

Seven kinds of blocks in three groups, in the order they are shown.
-/

namespace Troupe

namespace Parameter

/-- A number, whose field shows a text while it is empty. -/
def number (name : String) (default : Int64) (placeholder : String) : Parameter :=
  { name, default := .integer default, input := .number, placeholder }

/-- A text, whose field shows another while it is empty. -/
def text (name default placeholder : String) : Parameter :=
  { name, default := .text default, input := .text, placeholder }

end Parameter

/-- The standard palette. -/
def Palette.standard : Palette where
  definitions := [
    ⟨.move, "Move", .motion, [.number "steps" 10 "steps"]⟩,
    ⟨.turnLeft, "Turn", .motion, [.number "degrees" 15 "deg"]⟩,
    ⟨.turn, "Turn Right", .motion, [.number "degrees" 15 "deg"]⟩,
    ⟨.goTo, "Go To", .motion, [.number "x" 0 "x", .number "y" 0 "y"]⟩,
    ⟨.loop, "Repeat", .control, [.number "times" 10 "times"]⟩,
    ⟨.say, "Say", .looks, [.text "text" "Hello!" "message", .number "sec" 2 "sec"]⟩,
    ⟨.think, "Think", .looks, [.text "text" "Hmm..." "thought", .number "sec" 2 "sec"]⟩]

/-- No kind is defined twice. -/
theorem Palette.ofList_standard :
    Palette.ofList Palette.standard.definitions = Palette.standard := by
  decide

end Troupe
