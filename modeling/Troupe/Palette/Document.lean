import Troupe.Palette.Basic
import Troupe.Block.Document

/-!
# Definitions in documents

A definition is written as an object of its kind, label, group and parameters, and a parameter as an
object of its name, default, field and placeholder. None of them has a default when it is read.
-/

namespace Troupe

open Json

namespace Parameter

/-- The name of what a parameter is typed into. -/
def Input.name : Input → String
  | .text => "text"
  | .number => "number"

/-- Reads what a parameter is typed into. -/
def Input.read : Reader Input :=
  readAlternative ([Input.text, Input.number].map fun input => (input.name, input))

/-- A parameter as a document. -/
def toTree (p : Parameter) : Tree :=
  .ofFields [("name", .ofString p.name), ("default_value", p.default.toTree),
    ("input_kind", .ofString p.input.name), ("placeholder", .ofString p.placeholder)]

/-- A parameter of which some fields are read. -/
structure Draft where
  /-- The name, if it is read. -/
  name : Option String := none
  /-- The default, if it is read. -/
  default : Option Literal := none
  /-- What it is typed into, if that is read. -/
  input : Option Input := none
  /-- The placeholder, if it is read. -/
  placeholder : Option String := none

/-- How a parameter is read. -/
def shape : Shape Draft Parameter where
  name := "ParameterSpec"
  slots := [
    .field "name" readText (·.name) fun a d => { d with name := some a },
    .field "default_value" Literal.read (·.default) fun a d => { d with default := some a },
    .field "input_kind" Input.read (·.input) fun a d => { d with input := some a },
    .field "placeholder" readText (·.placeholder) fun a d => { d with placeholder := some a }]
  blank := {}
  finish lack d := do
    let name ← require lack 0 "name" d.name
    let default ← require lack 1 "default_value" d.default
    let input ← require lack 2 "input_kind" d.input
    let placeholder ← require lack 3 "placeholder" d.placeholder
    .ok { name, default, input, placeholder }

/-- Reads a parameter. -/
def read : Reader Parameter := shape.read

end Parameter

namespace Category

/-- The groups by their names. -/
def byName : List (String × Category) := all.map fun category => (category.name, category)

/-- Reads a group. -/
def read : Reader Category := readAlternative byName

end Category

namespace Definition

/-- A definition as a document. -/
def toTree (d : Definition) : Tree :=
  .ofFields [("kind", .ofString d.kind.name), ("label", .ofString d.label),
    ("category", .ofString d.category.name), ("params", .ofList (d.params.map Parameter.toTree))]

/-- A definition of which some fields are read. -/
structure Draft where
  /-- The kind, if it is read. -/
  kind : Option Kind := none
  /-- The label, if it is read. -/
  label : Option String := none
  /-- The group, if it is read. -/
  category : Option Category := none
  /-- The parameters, if they are read. -/
  params : Option (List Parameter) := none

/-- How a definition is read. -/
def shape : Shape Draft Definition where
  name := "BlockDefinition"
  slots := [
    .field "kind" Kind.read (·.kind) fun a d => { d with kind := some a },
    .field "label" readText (·.label) fun a d => { d with label := some a },
    .field "category" Category.read (·.category) fun a d => { d with category := some a },
    .field "params" (readList Parameter.read) (·.params) fun a d => { d with params := some a }]
  blank := {}
  finish lack d := do
    let kind ← require lack 0 "kind" d.kind
    let label ← require lack 1 "label" d.label
    let category ← require lack 2 "category" d.category
    let params ← require lack 3 "params" d.params
    .ok { kind, label, category, params }

/-- Reads a definition. -/
def read : Reader Definition := shape.read

end Definition

end Troupe
