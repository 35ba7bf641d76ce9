import Troupe.Block.Basic

/-!
# Blocks inside blocks

A block is a tree. What holds of every block in it is shown along its children, and so is a bound of
how deep they are nested.
-/

namespace Troupe.Block

mutual

/-- The blocks in a block, however deep, itself included. -/
def nested : Block → List Block
  | ⟨kind, params, children⟩ => ⟨kind, params, children⟩ :: nestedAll children

/-- The blocks in a list of blocks, however deep, these included. -/
def nestedAll : List Block → List Block
  | [] => []
  | b :: rest => nested b ++ nestedAll rest

end

/-- The blocks inside a list of blocks are those inside each of them. -/
theorem nestedAll_eq_flatMap (blocks : List Block) : nestedAll blocks = blocks.flatMap nested := by
  induction blocks with
  | nil => rfl
  | cons b rest ih => rw [nestedAll, ih, List.flatMap_cons]

/-- A block in another one is that one, or it is in one of its children. -/
theorem mem_nested {b inner : Block} :
    inner ∈ b.nested ↔ inner = b ∨ ∃ child ∈ b.children, inner ∈ child.nested := by
  obtain ⟨kind, params, children⟩ := b
  rw [nested, List.mem_cons, nestedAll_eq_flatMap, List.mem_flatMap]

/-- Something holds of every block in a block when it holds of the block and of every block in its
children. -/
theorem forall_mem_nested {motive : Block → Prop} {b : Block} :
    (∀ inner ∈ b.nested, motive inner) ↔
      motive b ∧ ∀ child ∈ b.children, ∀ inner ∈ child.nested, motive inner := by
  constructor
  · intro all
    refine ⟨all b (mem_nested.2 (.inl rfl)), fun child member inner inside => ?_⟩
    exact all inner (mem_nested.2 (.inr ⟨child, member, inside⟩))
  · rintro ⟨own, children⟩ inner inside
    rcases mem_nested.1 inside with rfl | ⟨child, member, deeper⟩
    · exact own
    · exact children child member inner deeper

/-- What a block has whenever its children have it, every block has. -/
theorem induction_on_children {motive : Block → Prop}
    (step : ∀ b, (∀ child ∈ b.children, motive child) → motive b) : ∀ b, motive b
  | ⟨kind, params, children⟩ => step _ fun child _ => induction_on_children step child

mutual

/-- Whether two blocks are equal. -/
def decEq : (a b : Block) → Decidable (a = b)
  | ⟨kind, params, children⟩, ⟨kind', params', children'⟩ =>
    match decEqAll children children' with
    | .isTrue same =>
      if own : kind = kind' ∧ params = params' then .isTrue (by rw [own.1, own.2, same])
      else .isFalse fun equal => own (by cases equal; exact ⟨rfl, rfl⟩)
    | .isFalse other => .isFalse fun equal => other (congrArg Block.children equal)

/-- Whether two lists of blocks are equal. -/
def decEqAll : (as bs : List Block) → Decidable (as = bs)
  | [], [] => .isTrue rfl
  | [], _ :: _ => .isFalse nofun
  | _ :: _, [] => .isFalse nofun
  | a :: as, b :: bs =>
    match decEq a b, decEqAll as bs with
    | .isTrue first, .isTrue others => .isTrue (by rw [first, others])
    | .isFalse other, _ => .isFalse fun equal => other (List.cons.inj equal).1
    | _, .isFalse other => .isFalse fun equal => other (List.cons.inj equal).2

end

/-- Whether two blocks are equal is told by comparing them part by part. -/
instance : DecidableEq Block := decEq

mutual

/-- How many blocks there are above the deepest block in a block. -/
def depth : Block → Nat
  | ⟨_, _, children⟩ => depthAll children

/-- How many blocks there are above the deepest block in the children of a block. -/
def depthAll : List Block → Nat
  | [] => 0
  | b :: rest => max (depth b + 1) (depthAll rest)

end

/-- A block is nested no deeper than a bound when its children stay below the bound. -/
theorem depth_le_iff {b : Block} {bound : Nat} :
    b.depth ≤ bound ↔ ∀ child ∈ b.children, child.depth < bound := by
  obtain ⟨kind, params, children⟩ := b
  rw [depth]
  induction children with
  | nil => simp [depthAll]
  | cons child rest ih => rw [depthAll, Nat.max_le, ih, List.forall_mem_cons, Nat.succ_le_iff]

end Troupe.Block
