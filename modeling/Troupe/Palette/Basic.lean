import Troupe.Block.Basic

/-!
# Palettes

A palette offers kinds of blocks, each with the parameters that its blocks take. It is built from a
list of definitions, of which the first one of each kind is kept. Blocks that come from outside are
brought in line with a palette by `Palette.normalize`.
-/

namespace Troupe

/-- What a parameter is typed into. -/
inductive Parameter.Input where
  /-- A field for a text. -/
  | text
  /-- A field for a number. -/
  | number
deriving DecidableEq, Repr

/-- A parameter of a kind of blocks. -/
structure Parameter where
  /-- Its name. -/
  name : String
  /-- The literal that a new block has. -/
  default : Literal
  /-- What it is typed into. -/
  input : Parameter.Input
  /-- The text in an empty field. -/
  placeholder : String
deriving DecidableEq, Repr

/-- The groups of a palette. -/
inductive Category where
  /-- Position and heading. -/
  | motion
  /-- Speech and thought bubbles. -/
  | looks
  /-- Repetition. -/
  | control
deriving DecidableEq, Repr

namespace Category

/-- Every group. -/
def all : List Category := [.motion, .looks, .control]

/-- The name of a group. -/
def name : Category → String
  | .motion => "Motion"
  | .looks => "Looks"
  | .control => "Control"

/-- The color of the blocks of a group. -/
def color : Category → String
  | .motion | .control => "bg-blue-500"
  | .looks => "bg-yellow-500"

end Category

/-- What a palette tells about a kind of blocks. -/
structure Definition where
  /-- The kind. -/
  kind : Kind
  /-- The text on its blocks. -/
  label : String
  /-- The group it belongs to. -/
  category : Category
  /-- The parameters of its blocks, in order. -/
  params : List Parameter
deriving DecidableEq, Repr

namespace Definition

/-- The literals of a new block. -/
def defaults (d : Definition) : List Literal := d.params.map (·.default)

/-- A new block, with the default of every parameter. -/
def instantiate (d : Definition) : Block := .leaf d.kind d.defaults

/-- A list of literals with one for every parameter: what is missing is filled in from the defaults,
and what is too much is left out. -/
def fit (d : Definition) (literals : List Literal) : List Literal :=
  literals.take d.params.length ++ d.defaults.drop literals.length

/-- A definition fits the values to its parameters, neither more nor fewer. -/
@[simp] theorem length_fit (d : Definition) (literals : List Literal) :
    (d.fit literals).length = d.params.length := by
  simp only [fit, defaults, List.length_append, List.length_take, List.length_drop, List.length_map]
  omega

end Definition

/-- The kinds of blocks on offer, in the order they are shown. -/
structure Palette where
  /-- The definitions. -/
  definitions : List Definition
deriving DecidableEq, Repr

namespace Palette

/-- Parts a list of definitions into those of kinds that were not seen before and the kinds of the
others. -/
def partFirst (seen : List Kind) : List Definition → List Definition × List Kind
  | [] => ([], [])
  | d :: rest =>
    if d.kind ∈ seen then
      let (kept, dropped) := partFirst seen rest
      (kept, d.kind :: dropped)
    else
      let (kept, dropped) := partFirst (d.kind :: seen) rest
      (d :: kept, dropped)

/-- The palette of the first definition of each kind. -/
def ofList (definitions : List Definition) : Palette := ⟨(partFirst [] definitions).1⟩

/-- The kinds of the definitions that `Palette.ofList` leaves out. -/
def duplicates (definitions : List Definition) : List Kind := (partFirst [] definitions).2

/-- The definition of a kind. -/
def find? (p : Palette) (kind : Kind) : Option Definition :=
  p.definitions.find? (·.kind = kind)

/-- The definitions of a group. -/
def inCategory (p : Palette) (category : Category) : List Definition :=
  p.definitions.filter (·.category = category)

/-- A new block of a kind on offer. -/
def instantiate? (p : Palette) (kind : Kind) : Option Block :=
  (p.find? kind).map (·.instantiate)

mutual

/-- A block in line with the palette: a block of a kind on offer has one literal for each parameter,
and children only if its kind is made of them. The other blocks stay as they are, up to their
children. -/
def normalize (p : Palette) : Block → Block
  | ⟨kind, params, children⟩ =>
    match p.find? kind with
    | some d => ⟨kind, d.fit params, if kind.nests then normalizeAll p children else []⟩
    | none => ⟨kind, params, normalizeAll p children⟩

/-- A list of blocks in line with the palette. -/
def normalizeAll (p : Palette) : List Block → List Block
  | [] => []
  | b :: rest => normalize p b :: normalizeAll p rest

end

/-- A list of blocks is normalized block by block. -/
@[simp] theorem normalizeAll_eq_map (p : Palette) (blocks : List Block) :
    p.normalizeAll blocks = blocks.map p.normalize := by
  induction blocks with
  | nil => rfl
  | cons b rest ih => simp [normalizeAll, ih]

end Palette

end Troupe
