import Troupe.Block.Document
import Troupe.Proofs.Block.Nested
import Troupe.Proofs.Json.Parser
import Troupe.Proofs.Json.Record

/-!
# Blocks are read back up to a depth

A block that is written opens an object for itself, an array for its values and, around its
children, another array; so each level of children takes two openings, and the last level takes one
more for its values. A text has room for 127, which is enough for blocks that are nested 62 deep and
for no more, on their own as well as in a script.

Integers, texts and the two zeros are written exactly. Of other numbers, no more is said here.
-/

namespace Troupe

open Json

namespace Kind

/-- A kind that is not known has a name that no known kind has. -/
def IsProper (kind : Kind) : Prop :=
  ∀ name, kind = .unknown name → name ∉ known.map Kind.name

/-- A proper kind is found by its name. -/
theorem IsProper.ofName_name {kind : Kind} (proper : kind.IsProper) : ofName kind.name = kind := by
  cases kind with
  | unknown name =>
    have missing : known.find? (·.name = name) = none := by
      rw [List.find?_eq_none]
      intro other member same
      exact proper name rfl (List.mem_map.2 ⟨other, member, of_decide_eq_true same⟩)
    change ofName name = .unknown name
    rw [ofName, missing]
  | move | say | think | turnLeft | turn | goTo | loop => decide

/-- A proper kind is read from its name. -/
theorem IsProper.read_name {kind : Kind} (proper : kind.IsProper) (room : Nat) :
    Kind.read room (.ofString kind.name) = .ok kind :=
  congrArg Except.ok proper.ofName_name

/-- A kind that is found by a name is proper. -/
theorem isProper_ofName (name : String) : (ofName name).IsProper := by
  intro given same member
  rw [ofName] at same
  split at same
  · rename_i kind found
    subst same
    have known := List.mem_of_find?_eq_some found
    simp [Kind.known] at known
  · rename_i missing
    obtain rfl : name = given := by simpa using same
    obtain ⟨other, known, rfl⟩ := List.mem_map.1 member
    exact List.find?_eq_none.1 missing other known (decide_eq_true rfl)

end Kind

namespace Literal

/-- A literal that is written exactly. -/
def IsExact : Literal → Prop
  | .integer _ => True
  | .real x => x.magnitude = 0
  | .text _ => True

/-- A zero is written as a number. -/
theorem toTree_zero {x : Binary64} (zero : x.magnitude = 0) :
    (Literal.real x).toTree = .number (documentStyle.numeral x) := by
  have finite : x.isFinite = true := by
    rw [Binary64.isFinite, zero]
    decide
  rw [toTree, Tree.ofBinary64, if_pos finite]

/-- An exact literal is written without flaws. -/
theorem IsExact.isFlawless {l : Literal} (precise : l.IsExact) : l.toTree.IsFlawless := by
  cases l with
  | integer n => exact .number (Numeral.isStrict_ofInt _)
  | real x =>
    rw [toTree_zero precise]
    exact .number (Numeral.isStrict_numeral precise)
  | text s => exact .text s

/-- An exact literal is read back. -/
theorem IsExact.read_toTree {l : Literal} (precise : l.IsExact) (room : Nat) :
    read room l.toTree = .ok l := by
  cases l with
  | integer n =>
    have least := n.minValue_le_toInt
    have most := n.toInt_le
    have word : n.toInt < UInt64.size := Int.lt_of_le_of_lt most (by decide)
    have value := Numeral.value_ofInt least word
    have signed : signed? n.toInt = some n := by
      rw [signed?, if_pos ⟨least, most⟩, Int64.ofInt_toInt]
    simp only [read, toTree, Tree.ofInt, Tree.check, Tree.describe, value, signed]
    rfl
  | real x =>
    have value := Numeral.value_numeral precise
    simp only [read, toTree_zero precise, Tree.check, Tree.describe, value]
    rfl
  | text s => rfl

end Literal

namespace Block

/-- A block whose text says all about it: in it, kinds are proper and literals are exact. -/
def IsPlain (b : Block) : Prop :=
  ∀ inner ∈ b.nested, inner.kind.IsProper ∧ ∀ l ∈ inner.params, l.IsExact

/-- A block is plain when its kind is proper, its literals are exact and its children are plain. -/
theorem isPlain_iff {b : Block} :
    b.IsPlain ↔
      (b.kind.IsProper ∧ ∀ l ∈ b.params, l.IsExact) ∧ ∀ child ∈ b.children, child.IsPlain :=
  forall_mem_nested

/-- A list of blocks is written block by block. -/
theorem toTrees_eq_map (blocks : List Block) : toTrees blocks = blocks.map toTree := by
  induction blocks with
  | nil => rfl
  | cons b rest ih => rw [toTrees, ih, List.map_cons]

/-- A list of blocks is written without flaws when each of them is. -/
theorem isFlawless_toTrees {blocks : List Block} (each : ∀ b ∈ blocks, b.toTree.IsFlawless) :
    (Tree.ofList (toTrees blocks)).IsFlawless := by
  rw [toTrees_eq_map]
  refine .array fun item member => ?_
  obtain ⟨b, given, rfl⟩ := List.mem_map.1 member
  exact each b given

/-- A plain block is written without flaws. -/
theorem IsPlain.isFlawless {b : Block} (plain : b.IsPlain) : b.toTree.IsFlawless := by
  induction b using induction_on_children with
  | step b ih =>
    obtain ⟨⟨-, literals⟩, children⟩ := isPlain_iff.1 plain
    obtain ⟨kind, params, inside⟩ := b
    have kept : ∀ item ∈ params.map Literal.toTree, item.IsFlawless := by
      intro item member
      obtain ⟨l, given, rfl⟩ := List.mem_map.1 member
      exact (literals l given).isFlawless
    have deeper : (Tree.ofList (toTrees inside)).IsFlawless :=
      isFlawless_toTrees fun child given => ih child given (children child given)
    rw [toTree]
    refine .object fun field member => ?_
    obtain always | sometimes := List.mem_append.1 member
    · obtain rfl | rfl : field = ("kind", _) ∨ field = ("params", _) := by simpa using always
      · exact .text _
      · exact .array kept
    · split at sometimes
      · exact absurd sometimes List.not_mem_nil
      · obtain rfl : field = ("children", _) := by simpa using sometimes
        exact deeper

/-- The name of a kind, its literals and, if there are any, its children are read in order. -/
theorem shape_read_toTree (child : Reader Block) {b : Block} (proper : b.kind.IsProper)
    (room : Nat) :
    (shape child).read (room + 1) b.toTree = (do
      let params ← readList Literal.read room (.ofList (b.params.map Literal.toTree))
      let children ← (if b.children.isEmpty then .ok []
        else readList child room (.ofList (toTrees b.children)))
      .ok ⟨b.kind, params, children⟩) := by
  obtain ⟨kind, params, children⟩ := b
  have named := proper.read_name room
  have first : (shape child).slots.find? (·.name = "kind") = some _ := rfl
  have second : (shape child).slots.find? (·.name = "params") = some _ := rfl
  have third : (shape child).slots.find? (·.name = "children") = some _ := rfl
  rw [toTree, Tree.ofFields_eq, Shape.read]
  simp only [Tree.keyFields, List.map_cons, List.cons_append, List.nil_append]
  rw [Shape.readByName_cons first rfl]
  simp only [Slot.field, named, bind, Except.bind]
  rw [Shape.readByName_cons second rfl]
  simp only [Slot.field]
  cases readList Literal.read room (.ofList (params.map Literal.toTree)) with
  | error refusal => rfl
  | ok literals =>
    cases children with
    | nil => rfl
    | cons b rest =>
      simp only [List.isEmpty_cons, Bool.false_eq_true, if_false, List.map_cons, bind,
        Except.bind]
      rw [Shape.readByName_cons third rfl]
      simp only [Slot.field]
      cases readList child room (.ofList (toTrees (b :: rest))) <;> rfl

/-- Exact literals are read back where an array may still be opened. -/
theorem readList_literals {params : List Literal} (literals : ∀ l ∈ params, l.IsExact)
    (room : Nat) :
    readList Literal.read (room + 1) (.ofList (params.map Literal.toTree)) = .ok params :=
  readList_map fun l given => (literals l given).read_toTree room

/-- Blocks are read back where an array may still be opened, if each of them is. -/
theorem readList_blocks {child : Reader Block} {blocks : List Block} {room : Nat}
    {readable : Block → Prop} [DecidablePred readable]
    (each : ∀ b ∈ blocks, child room b.toTree =
      if readable b then .ok b else failFlawed .malformed) :
    readList child (room + 1) (.ofList (toTrees blocks)) =
      if ∀ b ∈ blocks, readable b then .ok blocks else failFlawed .malformed := by
  rw [toTrees_eq_map, readList_ofList]
  exact readItems_map each

/-- Reading a written block takes two openings for each level of blocks in it, its own included. -/
theorem IsPlain.read_toTree {b : Block} (plain : b.IsPlain) (room : Nat) :
    read room b.toTree =
      if 2 * b.depth + 2 ≤ room then .ok b else failFlawed .malformed := by
  induction b using induction_on_children generalizing room with
  | step b ih =>
    obtain ⟨⟨proper, literals⟩, children⟩ := isPlain_iff.1 plain
    -- Without room the block itself is refused, and with room for one opening its literals are.
    match room with
    | 0 =>
      obtain ⟨kind, params, inside⟩ := b
      rfl
    | 1 =>
      rw [read, shape_read_toTree _ proper]
      rfl
    | room + 2 =>
      have inside : readList (fun _ => read room) (room + 1) (.ofList (toTrees b.children)) =
          if ∀ child ∈ b.children, 2 * child.depth + 2 ≤ room then .ok b.children
          else failFlawed .malformed :=
        readList_blocks fun child member => ih child member (children child member) room
      have levels : 2 * b.depth + 2 ≤ room + 2 ↔
          ∀ child ∈ b.children, 2 * child.depth + 2 ≤ room := by
        have bound : 2 * b.depth + 2 ≤ room + 2 ↔ b.depth ≤ room / 2 := by omega
        rw [bound, depth_le_iff]
        refine forall₂_congr fun child _ => ?_
        omega
      rw [read, shape_read_toTree _ proper, readList_literals literals, inside]
      obtain ⟨kind, params, blocks⟩ := b
      cases blocks with
      | nil => rfl
      | cons first rest =>
        by_cases fits : ∀ child ∈ first :: rest, 2 * child.depth + 2 ≤ room
        · rw [if_pos (levels.2 fits), if_pos fits]
          rfl
        · rw [if_neg fun whole => fits (levels.1 whole), if_neg fits]
          rfl

/-- The text of a plain block is read back when the block is nested no deeper than 62. -/
theorem IsPlain.readDocument_toText {b : Block} (plain : b.IsPlain) :
    readDocument read b.toTree.toText =
      if b.depth ≤ 62 then .ok b else .error (.flawed .malformed) := by
  have room : 2 * b.depth + 2 ≤ maxRoom ↔ b.depth ≤ 62 := by
    rw [maxRoom]
    omega
  rw [Json.readDocument_toText _ plain.isFlawless, plain.read_toTree]
  simp only [room, failFlawed]

/-- The text of a script of plain blocks is read back when none of them is nested deeper than 62. -/
theorem readDocument_script {script : Script} (plain : ∀ b ∈ script, b.IsPlain) :
    readDocument Script.read (Script.toTree script).toText =
      if ∀ b ∈ script, b.depth ≤ 62 then .ok script else .error (.flawed .malformed) := by
  have flawless : (Script.toTree script).IsFlawless :=
    isFlawless_toTrees fun b given => (plain b given).isFlawless
  have each : ∀ b ∈ script, read 126 b.toTree =
      if b.depth ≤ 62 then .ok b else failFlawed .malformed := by
    intro b member
    have room : 2 * b.depth + 2 ≤ 126 ↔ b.depth ≤ 62 := by omega
    rw [(plain b member).read_toTree]
    simp only [room]
  rw [Json.readDocument_toText _ flawless]
  exact readList_blocks each

/-- A block inside so many loops. -/
def inLoops (b : Block) : Nat → Block
  | 0 => b
  | n + 1 => loop 1 [b.inLoops n]

/-- Each loop around a block takes it one level deeper. -/
theorem depth_inLoops (b : Block) (n : Nat) : (b.inLoops n).depth = b.depth + n := by
  induction n with
  | zero => rfl
  | succ n ih =>
    have inner : (b.inLoops (n + 1)).depth = (b.inLoops n).depth + 1 := by
      simp [inLoops, loop, depth, depthAll]
    rw [inner, ih, Nat.add_assoc]

/-- A plain block stays plain inside loops. -/
theorem IsPlain.inLoops {b : Block} (plain : b.IsPlain) (n : Nat) : (b.inLoops n).IsPlain := by
  induction n with
  | zero => exact plain
  | succ n ih =>
    refine isPlain_iff.2 ⟨⟨nofun, ?_⟩, ?_⟩
    · simp [Block.inLoops, loop, Literal.IsExact]
    · simpa [Block.inLoops, loop] using ih

/-- Written plain blocks are read back exactly up to the depth that a text has room for. A block
that is nested no deeper than 62 is read as the same block, and a script of such blocks as the same
script; the text of a block that is nested deeper is refused, and so is the text of a script with
such a block in it. -/
theorem written_blocks_are_read_back :
    (∀ b : Block, b.IsPlain →
      readDocument read b.toTree.toText =
        if b.depth ≤ 62 then .ok b else .error (.flawed .malformed)) ∧
      ∀ script : Script, (∀ b ∈ script, b.IsPlain) →
        readDocument Script.read (Script.toTree script).toText =
          if ∀ b ∈ script, b.depth ≤ 62 then .ok script else .error (.flawed .malformed) :=
  ⟨fun _ plain => plain.readDocument_toText, fun _ plain => readDocument_script plain⟩

/-- A block of an unknown kind, with characters that are escaped in its name and its text and with
the least integer, is read back inside 62 loops and not inside 63. -/
theorem written_blocks_are_read_back_in_loops :
    let b : Block := ⟨.unknown "a \"b\"\\\n\x01", [.integer Int64.minValue, .text "/\tü"], []⟩
    readDocument read (b.inLoops 62).toTree.toText = .ok (b.inLoops 62) ∧
      readDocument read (b.inLoops 63).toTree.toText = .error (.flawed .malformed) ∧
      readDocument Script.read (Script.toTree [b, b.inLoops 62]).toText = .ok [b, b.inLoops 62] ∧
      readDocument Script.read (Script.toTree [b, b.inLoops 63]).toText =
        .error (.flawed .malformed) := by
  intro b
  have plain : b.IsPlain := by
    refine isPlain_iff.2 ⟨⟨?_, ?_⟩, nofun⟩
    · rintro name ⟨rfl⟩
      decide
    · simp [b, Literal.IsExact]
  have depth (n : Nat) : (b.inLoops n).depth = n := by
    rw [depth_inLoops]
    exact Nat.zero_add n
  have shallow := plain.inLoops 62
  have deep := plain.inLoops 63
  obtain ⟨alone, together⟩ := written_blocks_are_read_back
  refine ⟨?_, ?_, ?_, ?_⟩
  · rw [alone _ shallow, if_pos (Nat.le_of_eq (depth 62))]
  · rw [alone _ deep, if_neg (by rw [depth]; decide)]
  · rw [together _ (by simp [plain, shallow]), if_pos]
    simp only [List.forall_mem_cons, depth]
    exact ⟨by decide, by decide, nofun⟩
  · rw [together _ (by simp [plain, deep]), if_neg]
    simp [depth]

end Block

end Troupe
