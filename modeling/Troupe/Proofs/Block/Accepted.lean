import Troupe.Proofs.Block.Document

/-!
# Blocks that are read can be written and read again

A block may be spelled in many ways: its fields in any order, with unknown ones between them or none
for its values, or as an array. Whatever the spelling, each level of children that is read took two
openings and the last level one, so a block that is read is nested 63 deep at most. Written, it has
its values on each level, and one opening more is due on the last one: only a block that is nested
63 deep, which was spelled without values there, is not read again. In a script there is room for
62 levels in either case, so a script that is read can always be written and read again.
-/

namespace Troupe.Block

open Json

/-- A kind that is read is proper. -/
theorem isProper_of_read {room : Nat} {t : Tree} {kind : Kind}
    (read : Kind.read room t = .ok kind) : kind.IsProper := by
  unfold Kind.read at read
  cases text : readText room t with
  | error refusal =>
    rw [text] at read
    cases read
  | ok name =>
    rw [text] at read
    cases read
    exact Kind.isProper_ofName name

/-- A block that is read opens an object or an array, its kind is proper, and each of its children
is read where there is room for two openings less. -/
theorem of_shape_read {child : Reader Block} {room : Nat} {t : Tree} {b : Block}
    (accepted : (shape child).read room t = .ok b) :
    0 < room ∧ b.kind.IsProper ∧
      ∀ inner ∈ b.children, ∃ deeper t, room = deeper + 2 ∧ child deeper t = .ok inner := by
  obtain ⟨inside, rfl, ends⟩ := Shape.exists_draft_of_read accepted
  let motive (draft : Draft) : Prop :=
    (∀ kind, draft.kind = some kind → kind.IsProper) ∧
      ∀ children, draft.children = some children →
        ∀ inner ∈ children, ∃ deeper t, inside + 1 = deeper + 2 ∧ child deeper t = .ok inner
  have blank : motive (shape child).blank := ⟨nofun, nofun⟩
  have kept : ∀ slot ∈ (shape child).slots, slot.Keeps inside motive := by
    simp only [shape, List.forall_mem_cons]
    refine ⟨?_, ?_, ?_, nofun⟩
    · refine Slot.keeps_field fun t kind own draft holds => ⟨?_, holds.2⟩
      rintro _ ⟨rfl⟩
      exact isProper_of_read own
    · exact Slot.keeps_field fun t params own draft holds => holds
    · refine Slot.keeps_field fun t children own draft holds => ⟨holds.1, ?_⟩
      rintro _ ⟨rfl⟩ inner member
      obtain ⟨deeper, rfl, items⟩ := exists_item_of_readList own
      obtain ⟨t, item⟩ := items inner member
      exact ⟨deeper, t, rfl, item⟩
  obtain ⟨lack, draft, ⟨proper, children⟩, finished⟩ := ends motive blank kept
  obtain ⟨kind, given, same⟩ := bind_eq_ok.1 finished
  cases same
  refine ⟨Nat.succ_pos inside, proper kind (eq_some_of_require given), ?_⟩
  cases found : draft.children with
  | none => exact nofun
  | some inner => exact children inner found

/-- Where children took two openings each level and one for the last, so did the block. -/
theorem levels_of_children {b : Block} {room : Nat} (opened : 0 < room)
    (children : ∀ child ∈ b.children, 2 * child.depth + 3 ≤ room) : 2 * b.depth + 1 ≤ room := by
  have bound : b.depth ≤ (room - 1) / 2 := depth_le_iff.2 fun child member => by
    have := children child member
    omega
  omega

/-- Each level of blocks that is read takes two openings, the last one at least one, and all kinds
are proper. The recursion is that of the reader. -/
theorem of_read : ∀ {room : Nat} {t : Tree} {b : Block}, read room t = .ok b →
    2 * b.depth + 1 ≤ room ∧ ∀ inner ∈ b.nested, inner.kind.IsProper
  | 0, t, b, accepted => absurd (of_shape_read accepted).1 (Nat.lt_irrefl 0)
  | 1, t, b, accepted => by
    obtain ⟨opened, proper, children⟩ := of_shape_read accepted
    have childless : ∀ child, child ∉ b.children := by
      intro child member
      obtain ⟨deeper, t, room, -⟩ := children child member
      omega
    refine ⟨levels_of_children opened fun child member => absurd member (childless child), ?_⟩
    exact forall_mem_nested.2 ⟨proper, fun child member => absurd member (childless child)⟩
  | room + 2, t, b, accepted => by
    obtain ⟨opened, proper, children⟩ := of_shape_read accepted
    have inner : ∀ child ∈ b.children,
        2 * child.depth + 1 ≤ room ∧ ∀ inner ∈ child.nested, inner.kind.IsProper := by
      intro child member
      obtain ⟨deeper, t, same, item⟩ := children child member
      exact of_read item
    refine ⟨levels_of_children opened fun child member => ?_, ?_⟩
    · exact Nat.add_le_add_right (inner child member).1 2
    · exact forall_mem_nested.2 ⟨proper, fun child member => (inner child member).2⟩

/-- A block that is read is plain when its literals are exact. -/
theorem isPlain_of_read {room : Nat} {t : Tree} {b : Block} (accepted : read room t = .ok b)
    (literals : ∀ inner ∈ b.nested, ∀ l ∈ inner.params, l.IsExact) : b.IsPlain :=
  fun inner member => ⟨(of_read accepted).2 inner member, literals inner member⟩

/-- Whatever its spelling, a block that is read is nested 63 deep at most. When its numbers are
integers, its text is read as the same block again, unless it is nested 63 deep. -/
theorem accepted_block_is_read_back (text : String) (b : Block)
    (accepted : readDocument read text = .ok b)
    (literals : ∀ inner ∈ b.nested, ∀ l ∈ inner.params, l.IsExact) :
    b.depth ≤ 63 ∧
      readDocument read b.toTree.toText =
        if b.depth ≤ 62 then .ok b else .error (.flawed .malformed) := by
  obtain ⟨t, tree⟩ := exists_tree_of_readDocument accepted
  have levels := (of_read tree).1
  have plain := isPlain_of_read tree literals
  refine ⟨?_, plain.readDocument_toText⟩
  rw [maxRoom] at levels
  omega

/-- A loop that is spelled as an array, around a block whose fields stand in another order and with
an unknown one between them. -/
theorem accepted_block_is_read_back_spelled :
    let text := "[\"repeat\",[2],[\x7b\"params\":[-5],\"x\":[null],\"kind\":\"move\"\x7d]]"
    let b := loop 2 [move (-5)]
    readDocument read text = .ok b ∧ readDocument read b.toTree.toText = .ok b := by
  intro text b
  have accepted : readDocument read text = .ok b := eq_ok_of_toOption (by decide +kernel)
  have literals : ∀ inner ∈ b.nested, ∀ l ∈ inner.params, l.IsExact := by
    simp [b, loop, move, leaf, nested, nestedAll, Literal.IsExact]
  have back := (accepted_block_is_read_back text b accepted literals).2
  rw [if_pos (by decide)] at back
  exact ⟨accepted, back⟩

/-- A block of an unknown kind inside so many others of this kind, none of which has a value. -/
def valueless : Nat → Block
  | 0 => leaf (.unknown "a") []
  | n + 1 => ⟨.unknown "a", [], [valueless n]⟩

/-- A document for the same blocks that leaves out their values. -/
def valuelessTree : Nat → Tree
  | 0 => .ofFields [("kind", .ofString "a")]
  | n + 1 => .ofFields [("kind", .ofString "a"), ("children", .ofList [valuelessTree n])]

/-- A document that leaves out values has no flaws. -/
theorem isFlawless_valuelessTree (n : Nat) : (valuelessTree n).IsFlawless := by
  induction n with
  | zero => exact .object (by simpa using .text "a")
  | succ n ih =>
    have children : (Tree.ofList [valuelessTree n]).IsFlawless := .array (by simpa using ih)
    exact .object (by simpa using ⟨.text "a", children⟩)

/-- A document of blocks without values that are nested 63 deep is read, but what is written for
them is refused. -/
theorem accepted_block_is_refused_when_written :
    let text := (valuelessTree 63).toText
    let b := valueless 63
    readDocument read text = .ok b ∧ (∀ inner ∈ b.nested, inner.params = []) ∧
      readDocument read b.toTree.toText = .error (.flawed .malformed) := by
  intro text b
  have tree : read maxRoom (valuelessTree 63) = .ok b := eq_ok_of_toOption (by decide +kernel)
  have accepted : readDocument read text = .ok b := by
    rw [Json.readDocument_toText _ (isFlawless_valuelessTree 63), tree]
  have empty : ∀ inner ∈ b.nested, inner.params = [] := by decide +kernel
  have plain : b.IsPlain :=
    isPlain_of_read tree fun inner member l value => by simp [empty inner member] at value
  have refused : readDocument read b.toTree.toText = .error (.flawed .malformed) := by
    rw [plain.readDocument_toText, if_neg (by decide +kernel)]
  exact ⟨accepted, empty, refused⟩

/-- A script that is read is read again from its text when its literals are exact, whatever its
spelling was. -/
theorem accepted_script_is_read_back {text : String} {script : Script}
    (accepted : readDocument Script.read text = .ok script)
    (literals : ∀ b ∈ script, ∀ inner ∈ b.nested, ∀ l ∈ inner.params, l.IsExact) :
    readDocument Script.read (Script.toTree script).toText = .ok script := by
  obtain ⟨t, tree⟩ := exists_tree_of_readDocument accepted
  obtain ⟨inside, room, items⟩ := exists_item_of_readList tree
  obtain rfl : 126 = inside := Nat.succ.inj room
  have plain : ∀ b ∈ script, b.IsPlain := by
    intro b member
    obtain ⟨t, item⟩ := items b member
    exact isPlain_of_read item (literals b member)
  rw [readDocument_script plain, if_pos]
  intro b member
  obtain ⟨t, item⟩ := items b member
  have levels := (of_read item).1
  omega

end Troupe.Block
