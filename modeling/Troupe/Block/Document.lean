import Troupe.Block.Basic
import Troupe.Json.Record

/-!
# Blocks in documents

A block is written as an object of its kind, its values and its children; without children, the
field for them is left out. Read, the values and the children may be missing. The kind is any text.
-/

namespace Troupe

open Json

namespace Literal

/-- A literal as a document. -/
def toTree : Literal → Tree
  | .integer n => .ofInt n.toInt
  | .real x => .ofBinary64 x
  | .text s => .ofString s

/-- Reads a literal. An integer that is no signed word is read as another number. -/
def read : Reader Literal := fun room t => do
  t.check room
  match t with
  | .number n =>
    match n.value? with
    | some (.integer i) =>
      match signed? i with
      | some word => .ok (.integer word)
      | none => .ok (.real (Binary64.ofInt i))
    | some (.real x) => .ok (.real x)
    | none => failFlawed .malformed
  | .text (some s) => .ok (.text s)
  | _ => failMismatched .noLiteral

end Literal

/-- Reads the name of a kind. -/
def Kind.read : Reader Kind := fun room t => Kind.ofName <$> readText room t

namespace Block

mutual

/-- A block as a document. -/
def toTree : Block → Tree
  | ⟨kind, params, children⟩ =>
    .ofFields <|
      [("kind", .ofString kind.name), ("params", .ofList (params.map Literal.toTree))] ++
        if children.isEmpty then [] else [("children", .ofList (toTrees children))]

/-- A list of blocks as documents. -/
def toTrees : List Block → List Tree
  | [] => []
  | b :: rest => toTree b :: toTrees rest

end

/-- A block of which some fields are read. -/
structure Draft where
  /-- The kind, if it is read. -/
  kind : Option Kind := none
  /-- The values, if they are read. -/
  params : Option (List Literal) := none
  /-- The children, if they are read. -/
  children : Option (List Block) := none

/-- How a block is read, given a reader for its children. -/
def shape (child : Reader Block) : Shape Draft Block where
  name := "BlockInstance"
  slots := [
    .field "kind" Kind.read (·.kind) fun a d => { d with kind := some a },
    .field "params" (readList Literal.read) (·.params) fun a d => { d with params := some a },
    .field "children" (readList child) (·.children) fun a d => { d with children := some a }]
  blank := {}
  finish lack d := do
    let kind ← require lack 0 "kind" d.kind
    .ok { kind, params := d.params.getD [], children := d.children.getD [] }

/-- Reads a block. A block opens an object and, around its children, an array, so a child has two
openings less; where there is no room for them it cannot be read. -/
def read : Reader Block
  | 0, t => (shape fun _ _ => failFlawed .malformed).read 0 t
  | 1, t => (shape fun _ _ => failFlawed .malformed).read 1 t
  | room + 2, t => (shape fun _ => read room).read (room + 2) t

end Block

namespace Script

/-- A script as a document. -/
def toTree (script : Script) : Tree := .ofList (Block.toTrees script)

/-- Reads a script. -/
def read : Reader Script := readList Block.read

end Script

end Troupe
