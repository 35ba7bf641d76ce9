import Troupe.Palette.Standard
import Troupe.Proofs.Palette
import Troupe.Tally

/-!
# What normalizing makes of a block

Normalizing goes through a block from the top. At every place it gives a block of a kind on offer
one literal for each parameter, and takes its children away unless its kind is made of them. What it
was given it keeps (`Palette.normalizing_reaches_schema`).
-/

namespace Troupe

namespace Block

/-- The block at a place inside a block. The place tells which child to go to, on each level. -/
def inside? (b : Block) : List Nat → Option Block
  | [] => some b
  | i :: place => b.children[i]?.bind fun child => child.inside? place

/-- The blocks of a list are counted block by block. -/
theorem sizeAll_eq_tally (blocks : List Block) : sizeAll blocks = tally size blocks := by
  induction blocks with
  | nil => rfl
  | cons b rest ih => rw [sizeAll, ih, tally_cons]

/-- There is one block more in a block than in all its children. -/
theorem size_eq_tally (b : Block) : b.size = 1 + tally size b.children := by
  obtain ⟨kind, params, children⟩ := b
  rw [size, sizeAll_eq_tally]

end Block

namespace Definition

variable {d : Definition} {literals : List Literal} {i : Nat}

/-- A literal that is given for a parameter is kept. -/
theorem getElem?_fit_of_given {value : Literal} (within : i < d.params.length)
    (given : literals[i]? = some value) : (d.fit literals)[i]? = some value := by
  have inFront : i < (literals.take d.params.length).length := by
    have bound := (List.getElem?_eq_some_iff.1 given).1
    rw [List.length_take]
    omega
  rw [fit, List.getElem?_append_left inFront, List.getElem?_take_of_lt within, given]

/-- A parameter for which no literal is given has its default. -/
theorem getElem?_fit_of_missing {parameter : Parameter} (missing : literals.length ≤ i)
    (here : d.params[i]? = some parameter) : (d.fit literals)[i]? = some parameter.default := by
  have bound := (List.getElem?_eq_some_iff.1 here).1
  have all : literals.take d.params.length = literals := List.take_of_length_le (by omega)
  have place : literals.length + (i - literals.length) = i := by omega
  rw [fit, all, List.getElem?_append_right missing, List.getElem?_drop, place, defaults,
    List.getElem?_map, here, Option.map_some]

end Definition

namespace Palette

variable {p : Palette} {b : Block} {kind : Kind}

/-! ## The definitions of a palette -/

/-- Of the definitions of a kind that was not seen before, the first one is kept. -/
theorem find?_partFirst {definitions : List Definition} {seen : List Kind} (fresh : kind ∉ seen) :
    (partFirst seen definitions).1.find? (·.kind = kind) =
      definitions.find? (·.kind = kind) := by
  induction definitions generalizing seen with
  | nil => rfl
  | cons d rest ih =>
    rw [partFirst]
    by_cases known : d.kind ∈ seen
    -- A definition that is left out is of a kind that was seen, so not of the one looked for.
    · have other : d.kind ≠ kind := fun same => fresh (same ▸ known)
      rw [if_pos known, List.find?_cons_of_neg (by simpa using other)]
      exact ih fresh
    · rw [if_neg known]
      by_cases same : d.kind = kind
      · rw [List.find?_cons_of_pos (by simpa using same),
          List.find?_cons_of_pos (by simpa using same)]
      · rw [List.find?_cons_of_neg (by simpa using same),
          List.find?_cons_of_neg (by simpa using same)]
        exact ih (by simp [fresh, Ne.symm same])

/-- A palette has the first of the definitions of each kind. -/
theorem find?_ofList (definitions : List Definition) (kind : Kind) :
    (ofList definitions).find? kind = definitions.find? (·.kind = kind) :=
  find?_partFirst List.not_mem_nil

/-! ## Blocks in line with definitions -/

/-- What becomes of a block of a kind that is defined. -/
structure Fitted (d : Definition) (raw tidy : Block) : Prop where
  /-- It has one literal for each parameter. -/
  length : tidy.params.length = d.params.length
  /-- A literal that is given for a parameter stays where it is. -/
  given : ∀ i < d.params.length, ∀ value, raw.params[i]? = some value →
    tidy.params[i]? = some value
  /-- A parameter for which none is given has its own default. -/
  missing : ∀ i parameter, raw.params.length ≤ i → d.params[i]? = some parameter →
    tidy.params[i]? = some parameter.default
  /-- Unless its kind is made of children, it has none. -/
  childless : raw.kind.nests = false → tidy.children = []
  /-- If its kind is made of them, it has as many as before. -/
  nested : raw.kind.nests = true → tidy.children.length = raw.children.length

/-- What becomes of a block that is brought in line with a list of definitions, of which the first
one of each kind counts. -/
structure InLine (definitions : List Definition) (raw tidy : Block) : Prop where
  /-- The kind stays. -/
  kind : tidy.kind = raw.kind
  /-- A block of a kind that is defined is fitted to the definition. -/
  fitted : ∀ d, definitions.find? (·.kind = raw.kind) = some d → Fitted d raw tidy
  /-- A block of another kind keeps its literals and has as many children as before. -/
  other : definitions.find? (·.kind = raw.kind) = none →
    tidy.params = raw.params ∧ tidy.children.length = raw.children.length

/-- Normalizing fits a block to the definition of its kind. -/
theorem fitted_normalize {d : Definition} (found : p.find? b.kind = some d) :
    Fitted d b (p.normalize b) where
  length := by rw [params_normalize_of_find? found, Definition.length_fit]
  given i within value here := by
    rw [params_normalize_of_find? found]
    exact Definition.getElem?_fit_of_given within here
  missing i parameter beyond here := by
    rw [params_normalize_of_find? found]
    exact Definition.getElem?_fit_of_missing beyond here
  childless atomic := by simp [children_normalize, keepsChildren, found, atomic]
  nested nests := by simp [children_normalize, keepsChildren, nests]

/-- Normalizing brings a block in line with the definitions of the palette. -/
theorem inLine_normalize (definitions : List Definition) (b : Block) :
    InLine definitions b ((ofList definitions).normalize b) where
  kind := kind_normalize _ b
  fitted d found := fitted_normalize ((find?_ofList definitions b.kind).trans found)
  other absent := by
    rw [← find?_ofList] at absent
    refine ⟨params_normalize_of_find?_eq_none absent, ?_⟩
    simp [children_normalize, keepsChildren, absent]

/-- A block at a place inside a normalized block is what normalizing makes of the block at that
place. -/
theorem inside?_normalize {place : List Nat} {tidy : Block}
    (there : (p.normalize b).inside? place = some tidy) :
    ∃ raw, b.inside? place = some raw ∧ tidy = p.normalize raw := by
  induction place generalizing b with
  | nil => exact ⟨b, rfl, (Option.some.inj there).symm⟩
  | cons i place ih =>
    obtain ⟨child', here, there⟩ := Option.bind_eq_some_iff.1 there
    rw [children_normalize] at here
    -- There is a place below a normalized block only if its children were kept.
    by_cases keeps : p.keepsChildren b.kind = true
    · rw [if_pos keeps, List.getElem?_map] at here
      obtain ⟨child, same, rfl⟩ := Option.map_eq_some_iff.1 here
      obtain ⟨raw, inside, tidied⟩ := ih there
      refine ⟨raw, ?_, tidied⟩
      rw [Block.inside?, same]
      exact inside
    · rw [if_neg keeps] at here
      exact nomatch here

/-- Normalizing never makes a block larger. -/
theorem size_normalize_le (p : Palette) (b : Block) : (p.normalize b).size ≤ b.size := by
  induction b using Block.induction_on_children with
  | step b ih =>
    rw [Block.size_eq_tally, Block.size_eq_tally b, children_normalize]
    by_cases keeps : p.keepsChildren b.kind = true
    · have smaller :
          tally Block.size (b.children.map p.normalize) ≤ tally Block.size b.children := by
        rw [tally_map]
        exact tally_le_tally ih
      rw [if_pos keeps]
      omega
    · rw [if_neg keeps, tally_nil]
      omega

/-- For the palette of any list of definitions, every block inside a normalized block, however deep,
is the block that was there, brought in line with the definitions. Normalizing a second time changes
nothing, no block gets larger, and new blocks are normal already. -/
theorem normalizing_reaches_schema (definitions : List Definition) (b : Block) :
    let p := ofList definitions
    (∀ place tidy, (p.normalize b).inside? place = some tidy →
      ∃ raw, b.inside? place = some raw ∧ InLine definitions raw tidy) ∧
    p.normalize (p.normalize b) = p.normalize b ∧
    (p.normalize b).size ≤ b.size ∧
    ∀ kind new, p.instantiate? kind = some new → p.normalize new = new := by
  intro p
  refine ⟨fun place tidy there => ?_, ?_, size_normalize_le p b, fun kind new offered => ?_⟩
  · obtain ⟨raw, inside, rfl⟩ := inside?_normalize there
    exact ⟨raw, inside, inLine_normalize definitions raw⟩
  · exact normalize_eq_self_iff.2 (conforms_normalize b)
  · exact normalize_eq_self_iff.2 (conforms_of_instantiate? offered)

/-- Of two definitions of one kind the first one counts. A block of that kind, with a literal too
few and with a child, inside a block of a kind that is not on offer, gets the default that it lacks
and loses its child. -/
theorem normalizing_reaches_schema_spinning :
    let definitions : List Definition := [
      ⟨.unknown "spin", "Spin", .motion, [.number "times" 3 "", .text "mood" "glad" ""]⟩,
      ⟨.unknown "spin", "Spin more", .looks, []⟩]
    let b : Block := ⟨.unknown "fly", [.integer 1], [⟨.unknown "spin", [.text "5"], [.move 1]⟩]⟩
    ∃ tidy, ((ofList definitions).normalize b).inside? [0] = some tidy ∧
      tidy.params.length = 2 ∧ tidy.params[0]? = some (.text "5") ∧
      tidy.params[1]? = some (.text "glad") ∧ tidy.children = [] := by
  intro definitions b
  have some : (((ofList definitions).normalize b).inside? [0]).isSome = true := by decide +kernel
  obtain ⟨tidy, there⟩ := Option.isSome_iff_exists.1 some
  obtain ⟨raw, inside, inLine⟩ := (normalizing_reaches_schema definitions b).1 [0] tidy there
  obtain rfl : ⟨.unknown "spin", [.text "5"], [.move 1]⟩ = raw := Option.some.inj inside
  have found : definitions.find? (·.kind = .unknown "spin") = definitions[0]? := by decide +kernel
  have fitted := inLine.fitted _ found
  exact ⟨tidy, there, fitted.length, fitted.given 0 (by decide) _ rfl,
    fitted.missing 1 _ (by decide) rfl, fitted.childless rfl⟩

end Palette

end Troupe
