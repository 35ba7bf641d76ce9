import Troupe.Palette.Document
import Troupe.Proofs.Block.Document

/-!
# Definitions are read as they are written

Definitions open three levels: the list of them, each definition, and its list of parameters with
their objects. So they are read back wherever they stand, when their kinds and defaults are.
-/

namespace Troupe

open Json

namespace Parameter

/-- A parameter whose document says all about it: its default is written exactly. -/
def IsPlain (p : Parameter) : Prop := p.default.IsExact

/-- What a parameter is typed into is read from its name. -/
theorem Input.read_name (input : Input) (room : Nat) :
    Input.read room (.ofString input.name) = .ok input := by
  cases input <;> rfl

variable {p : Parameter}

/-- A plain parameter is written without flaws. -/
theorem IsPlain.isFlawless (plain : p.IsPlain) : p.toTree.IsFlawless := by
  refine .object ?_
  simp only [List.forall_mem_cons]
  exact ⟨.text _, Literal.IsExact.isFlawless plain, .text _, .text _, nofun⟩

/-- A plain parameter is read back where an object may still be opened. -/
theorem IsPlain.read_toTree (plain : p.IsPlain) (room : Nat) :
    read (room + 1) p.toTree = .ok p := by
  have default : Literal.read room p.default.toTree = .ok p.default :=
    Literal.IsExact.read_toTree plain room
  have input := p.input.read_name room
  rw [toTree, Tree.ofFields_eq, read, Shape.read]
  simp only [Tree.keyFields, List.map_cons, List.map_nil]
  rw [Shape.readByName_cons_of_read rfl rfl rfl, Shape.readByName_cons_of_read rfl rfl default,
    Shape.readByName_cons_of_read rfl rfl input, Shape.readByName_cons_of_read rfl rfl rfl]
  rfl

end Parameter

/-- A group is read from its name. -/
theorem Category.read_name (category : Category) (room : Nat) :
    Category.read room (.ofString category.name) = .ok category := by
  cases category <;> rfl

namespace Definition

/-- A definition whose document says all about it: its kind is proper and its parameters are
plain. -/
structure IsPlain (d : Definition) : Prop where
  /-- The name of its kind is no other kind's. -/
  kind : d.kind.IsProper
  /-- The defaults are written exactly. -/
  params : ∀ p ∈ d.params, p.IsPlain

variable {d : Definition}

/-- A plain definition is written without flaws. -/
theorem IsPlain.isFlawless (plain : d.IsPlain) : d.toTree.IsFlawless := by
  have params : (Tree.ofList (d.params.map Parameter.toTree)).IsFlawless :=
    .array (List.forall_mem_map.2 fun p member => (plain.params p member).isFlawless)
  refine .object ?_
  simp only [List.forall_mem_cons]
  exact ⟨.text _, .text _, .text _, params, nofun⟩

/-- A plain definition is read back where three more levels may be opened. -/
theorem IsPlain.read_toTree (plain : d.IsPlain) (room : Nat) :
    read (room + 3) d.toTree = .ok d := by
  have kind := Kind.IsProper.read_name plain.kind (room + 2)
  have category := d.category.read_name (room + 2)
  have params : readList Parameter.read (room + 2) (.ofList (d.params.map Parameter.toTree)) =
      .ok d.params :=
    readList_map fun p member => (plain.params p member).read_toTree room
  rw [toTree, Tree.ofFields_eq, read, Shape.read]
  simp only [Tree.keyFields, List.map_cons, List.map_nil]
  rw [Shape.readByName_cons_of_read rfl rfl kind, Shape.readByName_cons_of_read rfl rfl rfl,
    Shape.readByName_cons_of_read rfl rfl category, Shape.readByName_cons_of_read rfl rfl params]
  rfl

/-- A list of plain definitions is read back from its document. -/
theorem readDocument_toText {definitions : List Definition}
    (plain : ∀ d ∈ definitions, d.IsPlain) :
    readDocument (readList read) (Tree.ofList (definitions.map toTree)).toText =
      .ok definitions := by
  have flawless : (Tree.ofList (definitions.map toTree)).IsFlawless :=
    .array (List.forall_mem_map.2 fun d member => (plain d member).isFlawless)
  rw [Json.readDocument_toText _ flawless, maxRoom]
  exact readList_map fun d member => (plain d member).read_toTree 123

end Definition

end Troupe
