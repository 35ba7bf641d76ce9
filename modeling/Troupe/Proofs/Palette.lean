import Troupe.Palette.Basic
import Troupe.Proofs.Block.Nested

/-!
# Blocks that conform to a palette

A block conforms to a palette when each block in it, however deep, has what the palette tells of its
kind. Normalizing makes any block conform, and the blocks that it leaves alone are those that
conform already (`Palette.normalize_eq_self_iff`). Scripts that conform still do so after any edit
(`Palette.Edits.conforms`): the blocks that come in are normalized or new, and those that are there
keep as many literals as they have, and their children.
-/

namespace Troupe

namespace Palette

variable {p : Palette} {b : Block} {kind : Kind} {script : Script}

/-- The definition that is found is one of the kind that is looked for. -/
theorem kind_of_find? {d : Definition} (found : p.find? kind = some d) : d.kind = kind := by
  simpa using List.find?_some found

/-! ## Conforming blocks -/

/-- A block has what the palette tells of its kind: a literal for each parameter, and no children
unless its kind is made of them. Nothing is told of a kind that is not on offer. -/
def Fits (p : Palette) (b : Block) : Prop :=
  ∀ d, p.find? b.kind = some d →
    b.params.length = d.params.length ∧ (b.kind.nests = false → b.children = [])

/-- Every block in a block has what the palette tells of its kind. -/
def Conforms (p : Palette) (b : Block) : Prop := ∀ inner ∈ b.nested, p.Fits inner

/-- A block conforms when it has what the palette tells of its kind and its children conform. -/
theorem conforms_iff : p.Conforms b ↔ p.Fits b ∧ ∀ child ∈ b.children, p.Conforms child :=
  Block.forall_mem_nested

/-- Only its kind, the number of its literals and its children decide whether a block conforms. -/
theorem Conforms.withParams (conforms : p.Conforms b) {params : List Literal}
    (same : params.length = b.params.length) : p.Conforms { b with params } := by
  obtain ⟨fits, children⟩ := conforms_iff.1 conforms
  refine conforms_iff.2 ⟨fun d found => ?_, children⟩
  rw [same]
  exact fits d found

/-- A new block conforms. -/
theorem conforms_of_instantiate? (offered : p.instantiate? kind = some b) : p.Conforms b := by
  obtain ⟨d, found, rfl⟩ := Option.map_eq_some_iff.1 offered
  refine conforms_iff.2 ⟨fun d' found' => ?_, fun child member => nomatch member⟩
  have same : p.find? d.kind = some d := by rw [kind_of_find? found, found]
  obtain rfl : d = d' := Option.some.inj (same.symm.trans found')
  exact ⟨List.length_map .., fun _ => rfl⟩

/-! ## Normalizing -/

/-- Whether normalizing keeps the children of blocks of a kind. -/
def keepsChildren (p : Palette) (kind : Kind) : Bool := kind.nests || (p.find? kind).isNone

/-- Normalizing keeps the kind of a block. -/
@[simp] theorem kind_normalize (p : Palette) (b : Block) : (p.normalize b).kind = b.kind := by
  obtain ⟨kind, params, children⟩ := b
  rw [normalize]
  split <;> rfl

/-- Normalizing fits the literals of a block to the parameters of its kind. -/
theorem params_normalize_of_find? {d : Definition} (found : p.find? b.kind = some d) :
    (p.normalize b).params = d.fit b.params := by
  obtain ⟨kind, params, children⟩ := b
  have same : p.find? kind = some d := found
  rw [normalize, same]

/-- Normalizing keeps the literals of a block of a kind that is not on offer. -/
theorem params_normalize_of_find?_eq_none (absent : p.find? b.kind = none) :
    (p.normalize b).params = b.params := by
  obtain ⟨kind, params, children⟩ := b
  have none : p.find? kind = none := absent
  rw [normalize, none]

/-- Normalizing normalizes the children of a block, or takes them all away. -/
theorem children_normalize (p : Palette) (b : Block) :
    (p.normalize b).children =
      if p.keepsChildren b.kind then b.children.map p.normalize else [] := by
  obtain ⟨kind, params, children⟩ := b
  rw [normalize, normalizeAll_eq_map]
  cases found : p.find? kind with
  | none => simp [keepsChildren, found]
  | some d => simp [keepsChildren, found]

/-- Literals need no fitting when there is one for each parameter. -/
theorem fit_eq_self_iff {d : Definition} {literals : List Literal} :
    d.fit literals = literals ↔ literals.length = d.params.length := by
  constructor
  · intro same
    rw [← same, Definition.length_fit]
  · intro same
    have none_missing : d.defaults.drop literals.length = [] :=
      List.drop_of_length_le (by simp [same, Definition.defaults])
    rw [Definition.fit, none_missing, List.append_nil, ← same, List.take_length]

/-- A script stays as it is when normalizing leaves alone each of its blocks, and only then. -/
theorem map_normalize_eq_self_iff :
    script.map p.normalize = script ↔ ∀ b ∈ script, p.normalize b = b := by
  have same : script.map p.normalize = script ↔ script.map p.normalize = script.map id := by
    rw [List.map_id]
  exact same.trans List.map_inj_left

/-- Normalizing leaves alone the blocks that conform, and no others. -/
theorem normalize_eq_self_iff : p.normalize b = b ↔ p.Conforms b := by
  induction b using Block.induction_on_children with
  | step b ih =>
    obtain ⟨kind, params, children⟩ := b
    have inside : children.map p.normalize = children ↔ ∀ child ∈ children, p.Conforms child :=
      map_normalize_eq_self_iff.trans (forall₂_congr ih)
    rw [conforms_iff, ← inside, normalize, normalizeAll_eq_map]
    cases found : p.find? kind with
    | none => simp [Fits, found]
    | some d =>
      cases nests : kind.nests with
      | true => simp [Fits, found, nests, fit_eq_self_iff]
      | false =>
        -- Without children there is nothing left to normalize.
        suffices children = [] → children.map p.normalize = children by
          simpa [Fits, found, nests, fit_eq_self_iff] using fun _ => this
        rintro rfl
        rfl

/-- What is normalized conforms. -/
theorem conforms_normalize (b : Block) : p.Conforms (p.normalize b) := by
  induction b using Block.induction_on_children with
  | step b ih =>
    refine conforms_iff.2 ⟨fun d found => ?_, fun child member => ?_⟩
    · rw [kind_normalize] at found
      rw [params_normalize_of_find? found, kind_normalize]
      refine ⟨d.length_fit b.params, fun atomic => ?_⟩
      simp [children_normalize, keepsChildren, found, atomic]
    · rw [children_normalize] at member
      by_cases keeps : p.keepsChildren b.kind = true
      · rw [if_pos keeps] at member
        obtain ⟨raw, there, rfl⟩ := List.mem_map.1 member
        exact ih raw there
      · rw [if_neg keeps] at member
        exact nomatch member

/-! ## Editing scripts -/

/-- What an edit makes of a script. -/
inductive Edits (p : Palette) (script : Script) : Script → Prop where
  /-- Another script, brought in line with the palette, takes its place. -/
  | replaces (other : Script) : Edits p script (other.map p.normalize)
  /-- A new block comes to its end. -/
  | appends {kind : Kind} {b : Block} (offered : p.instantiate? kind = some b) :
      Edits p script (script ++ [b])
  /-- The block at a place is taken away. -/
  | removes (index : Nat) : Edits p script (script.eraseIdx index)
  /-- A literal of a block is replaced. -/
  | adjusts {index : Nat} {b : Block} (there : script[index]? = some b) (parameter : Nat)
      (value : Literal) :
      Edits p script (script.set index { b with params := b.params.set parameter value })

/-- A script of conforming blocks still consists of such after an edit. -/
theorem Edits.conforms {edited : Script} (edits : p.Edits script edited)
    (before : ∀ b ∈ script, p.Conforms b) : ∀ b ∈ edited, p.Conforms b := by
  intro b member
  cases edits with
  | replaces other =>
    obtain ⟨raw, -, rfl⟩ := List.mem_map.1 member
    exact conforms_normalize raw
  | appends offered =>
    rcases List.mem_append.1 member with old | new
    · exact before b old
    · obtain rfl := List.mem_singleton.1 new
      exact conforms_of_instantiate? offered
  | removes index => exact before b (List.mem_of_mem_eraseIdx member)
  | adjusts there parameter value =>
    rcases List.mem_or_eq_of_mem_set member with old | rfl
    · exact before b old
    · exact (before _ (List.mem_of_getElem? there)).withParams (List.length_set ..)

end Palette

end Troupe
