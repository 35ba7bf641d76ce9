import Troupe.Palette.Standard
import Troupe.Proofs.Palette.Schema
import Troupe.Proofs.Performance

/-!
# Normalizing blocks that lack nothing

Normalizing adds literals that are missing, and those can matter. What it takes away does not: a
block is decoded from the first literals of its parameters, from its children only if its kind is
made of them, and the standard palette has a parameter for each literal that is read. So a script in
which every block has its literals is performed the same before and after it is normalized
(`Palette.normalizing_keeps_performance`).
-/

namespace Troupe

/-- How many literals a block of a kind is decoded from, at most. -/
def Kind.arity : Kind → Nat
  | .move | .turnLeft | .turn | .loop => 1
  | .say | .think | .goTo => 2
  | .unknown _ => 0

/-- Blocks of one kind are decoded alike when they agree in the literals that are read and, if their
kind is made of them, in the instructions of their children. -/
theorem Block.decode_congr {a b : Block} (same : a.kind = b.kind)
    (literals : ∀ i < b.kind.arity, a.params[i]? = b.params[i]?)
    (children : b.kind.nests = true → a.children.map decode = b.children.map decode) :
    a.decode = b.decode := by
  obtain ⟨kind, params, inner⟩ := a
  obtain ⟨kind', params', inner'⟩ := b
  obtain rfl : kind = kind' := same
  have integer (i : Nat) (n : Int64) (read : i < kind.arity) :
      Literal.integerAt params i n = Literal.integerAt params' i n := by
    rw [Literal.integerAt, Literal.integerAt, literals i read]
  have text (i : Nat) (s : String) (read : i < kind.arity) :
      Literal.textAt params i s = Literal.textAt params' i s := by
    rw [Literal.textAt, Literal.textAt, literals i read]
  cases kind with
  | move | turnLeft | turn => simp only [decode, integer 0 _ (by decide)]
  | goTo => simp only [decode, integer 0 _ (by decide), integer 1 _ (by decide)]
  | say | think => simp only [decode, text 0 _ (by decide), integer 1 _ (by decide)]
  | loop =>
    have body : inner.map decode = inner'.map decode := children rfl
    simp only [decode, integer 0 _ (by decide), decodeAll_eq_map, body]
  | unknown name => rfl

namespace Palette

variable {p : Palette} {b : Block}

/-- A palette has a parameter for each literal that is read. -/
def Covers (p : Palette) : Prop :=
  ∀ kind d, p.find? kind = some d → kind.arity ≤ d.params.length

/-- Every block in a block, however deep, has a literal for each parameter, if its kind is on
offer. -/
def Supplied (p : Palette) (b : Block) : Prop :=
  ∀ inner ∈ b.nested, ∀ d ∈ p.find? inner.kind, d.params.length ≤ inner.params.length

/-- Whether a block is supplied is told by going through the blocks inside it. -/
instance (p : Palette) (b : Block) : Decidable (p.Supplied b) :=
  inferInstanceAs (Decidable (∀ inner ∈ b.nested, ∀ d ∈ p.find? inner.kind, _ ≤ _))

/-- A block is supplied when it has its own literals and its children are supplied. -/
theorem supplied_iff :
    p.Supplied b ↔ (∀ d ∈ p.find? b.kind, d.params.length ≤ b.params.length) ∧
      ∀ child ∈ b.children, p.Supplied child :=
  Block.forall_mem_nested

/-- The standard palette has a parameter for each literal that is read. -/
theorem covers_standard : standard.Covers := by
  intro kind d found
  have enough : ∀ d ∈ standard.definitions, d.kind.arity ≤ d.params.length := by decide
  rw [← kind_of_find? found]
  exact enough d (List.mem_of_find?_eq_some found)

/-- A block that lacks nothing is decoded alike before and after it is normalized. -/
theorem decode_normalize (covers : p.Covers) (supplied : p.Supplied b) :
    (p.normalize b).decode = b.decode := by
  induction b using Block.induction_on_children with
  | step b ih =>
    obtain ⟨own, children⟩ := supplied_iff.1 supplied
    refine Block.decode_congr (kind_normalize p b) (fun i read => ?_) (fun nests => ?_)
    · cases found : p.find? b.kind with
      | none => rw [params_normalize_of_find?_eq_none found]
      | some d =>
        -- What is read lies among the literals that are kept, and nothing there is filled in.
        have kept : i < d.params.length := Nat.lt_of_lt_of_le read (covers b.kind d found)
        have given : i < b.params.length := Nat.lt_of_lt_of_le kept (own d found)
        have here : b.params[i]? = some b.params[i] := List.getElem?_eq_getElem given
        rw [params_normalize_of_find? found, here]
        exact Definition.getElem?_fit_of_given kept here
    · have keeps : p.keepsChildren b.kind = true := by simp [keepsChildren, nests]
      rw [children_normalize, if_pos keeps, List.map_map]
      exact List.map_congr_left fun child member => ih child member (children child member)

/-- A script in which every block of a kind on offer, however deep, has at least as many literals as
its kind has parameters, is performed the same before and after it is normalized: on every stage,
whatever the host does at the pauses, it tells the same and leaves the same cast, and its actions
are the same and have the same effect on a sprite, one by one. -/
theorem normalizing_keeps_performance (script : Script)
    (supplied : ∀ b ∈ script, standard.Supplied b) :
    let normalized := script.map standard.normalize
    (∀ movePause who host cast,
      Performance.ofScript movePause who host cast normalized =
        Performance.ofScript movePause who host cast script) ∧
    ∀ movePause (s : Sprite),
      s.course ((Work.ofScript normalized).trace movePause) =
        s.course ((Work.ofScript script).trace movePause) := by
  intro normalized
  have instructions : normalized.map Block.decode = script.map Block.decode := by
    rw [List.map_map]
    exact List.map_congr_left fun b member => decode_normalize covers_standard (supplied b member)
  have work : Work.ofScript normalized = Work.ofScript script := by
    rw [Work.ofScript, Work.ofScript, instructions]
  refine ⟨fun movePause who host cast => ?_, fun movePause s => ?_⟩
  · rw [Performance.ofScript, Performance.ofScript, work]
  · rw [work]

/-- A loop with a literal too many holds a bubble with a child and a block of unknown kind with a
child. Normalizing takes a block away, and the script is performed the same. -/
theorem normalizing_keeps_performance_padded :
    let script : Script := [⟨.loop, [.integer 2, .text "more"],
      [⟨.say, [.text "hi", .integer 1, .integer 7], [.move 1]⟩, ⟨.unknown "fly", [], [.turn 5]⟩]⟩]
    let normalized := script.map standard.normalize
    (∀ b ∈ script, standard.Supplied b) ∧
      tally Block.size normalized < tally Block.size script ∧
      ∀ host cast, Performance.ofScript 500 (.ofNat 0) host cast normalized =
        Performance.ofScript 500 (.ofNat 0) host cast script := by
  intro script normalized
  have supplied : ∀ b ∈ script, standard.Supplied b := by decide +kernel
  have fewer : tally Block.size normalized < tally Block.size script := by decide +kernel
  have same := (normalizing_keeps_performance script supplied).1
  exact ⟨supplied, fewer, same 500 (.ofNat 0)⟩

end Palette

end Troupe
