import Troupe.Event
import Troupe.Palette.Basic

/-!
# Indexed palettes

A palette that comes from outside is built from a list of definitions, one after the other. A
definition whose kind is there already is left out, and an event tells of it. Besides the
definitions there is an index, which has the place of each kind among them; by it a definition is
found.
-/

namespace Troupe

/-- A palette with the places of its definitions. -/
structure Palette.Indexed where
  /-- The palette. -/
  palette : Palette
  /-- The place of the definition of each kind. -/
  index : List (Kind × Nat)
deriving DecidableEq, Repr

namespace Palette.Indexed

/-- The palette without definitions. -/
def empty : Indexed := { palette := ⟨[]⟩, index := [] }

/-- Takes a definition in, unless its kind is there already. -/
def enter (p : Indexed) (d : Definition) : Outcome Indexed Unit :=
  match p.index.lookup d.kind with
  | some _ => { answer := (), state := p, log := [.duplicateDefinition d.kind] }
  | none => {
      answer := ()
      state := {
        palette := ⟨p.palette.definitions ++ [d]⟩
        index := p.index ++ [(d.kind, p.palette.definitions.length)] } }

/-- The palette of a list of definitions, taken in one after the other. -/
def build (definitions : List Definition) : Outcome Indexed Unit :=
  definitions.foldl (fun built d => (built.state.enter d).following built.log)
    { answer := (), state := empty }

/-- The definition of a kind, at its place. -/
def find? (p : Indexed) (kind : Kind) : Option Definition :=
  (p.index.lookup kind).bind fun place => p.palette.definitions[place]?

/-- A new block of a kind on offer. -/
def instantiate? (p : Indexed) (kind : Kind) : Option Block :=
  (p.find? kind).map (·.instantiate)

end Palette.Indexed

end Troupe
