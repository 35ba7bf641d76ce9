import Troupe.Proofs.Json.Field
import Troupe.Proofs.Json.Parser
import Troupe.Proofs.Sprite.Identity
import Troupe.Sprite.Document

/-!
# Sprites are read as they are written

What a document says about a sprite is said by `Sprite.WrittenIn`: each field is written in one
place, whatever the layout of the document and of the records in it. A sprite is read from the
documents that it is written in and from no others (`Sprite.readDocument_eq_ok_iff`), and its own
document is one of them. The heading is the one field that is not kept as it is written: of the
angle, only the remainder by a full turn is.
-/

namespace Troupe

open Json

namespace Heading

variable {m n : Int}

/-- No heading is negative. -/
theorem toInt_nonneg (h : Heading) : 0 ≤ h.toInt := Int.natCast_nonneg _

/-- Every heading is below a full turn. -/
theorem toInt_lt (h : Heading) : h.toInt < 360 := Int.ofNat_lt.2 h.degrees.isLt

/-- Only the remainder by a full turn matters. -/
theorem ofInt_congr (same : m % 360 = n % 360) : ofInt m = ofInt n := by
  rw [ofInt, ofInt, same]

/-- A heading is the one of its own degrees. -/
@[simp] theorem ofInt_toInt (h : Heading) : ofInt h.toInt = h := by
  have below := h.degrees.isLt
  have degrees : (h.toInt % 360).toNat = h.degrees.val := by
    rw [toInt]
    omega
  rw [ofInt, degrees, Fin.ofNat_val_eq_self]

/-- A heading is what a tree has as an angle, up to full turns. -/
def WrittenIn (h : Heading) (t : Tree) : Prop :=
  ∃ angle : Int64, t.IsInteger angle.toInt ∧ h.toInt = angle.toInt % 360

/-- A heading is read from the angles that it is written as. -/
theorem read_eq_ok_iff {room : Nat} {t : Tree} {h : Heading} :
    Heading.read room t = .ok h ↔ h.WrittenIn t := by
  constructor
  · intro read
    obtain ⟨angle, signed, same⟩ := bind_eq_ok.1 read
    cases same
    exact ⟨angle, readSigned_eq_ok_iff.1 signed, toInt_ofInt angle.toInt⟩
  · rintro ⟨angle, written, remainder⟩
    refine bind_eq_ok.2 ⟨angle, readSigned_eq_ok_iff.2 written, congrArg Except.ok ?_⟩
    have same : angle.toInt % 360 = h.toInt % 360 := by omega
    rw [ofInt_congr same, ofInt_toInt]

/-- A heading is written as its degrees. -/
theorem writtenIn_ofInt (h : Heading) : h.WrittenIn (.ofInt h.toInt) := by
  have below := h.toInt_lt
  have atLeast := h.toInt_nonneg
  have word : (Int64.ofInt h.toInt).toInt = h.toInt :=
    Int64.toInt_ofInt_of_le (by omega) (by omega)
  refine ⟨.ofInt h.toInt, ?_, ?_⟩
  · rw [word]
    exact Tree.isInteger_ofInt _
  · rw [word]
    omega

end Heading

/-- An identity is what a tree spells. -/
def SpriteId.WrittenIn (id : SpriteId) (t : Tree) : Prop :=
  ∃ text, t = .ofString text ∧ id.Spelled text

/-- An identity is read from the texts that spell it. -/
theorem SpriteId.read_eq_ok_iff {room : Nat} {t : Tree} {id : SpriteId} :
    SpriteId.read room t = .ok id ↔ id.WrittenIn t := by
  unfold SpriteId.read
  constructor
  · intro read
    split at read
    · rename_i text
      split at read
      · rename_i found
        cases read
        exact ⟨text, rfl, ofText?_eq_some_iff.1 found⟩
      · cases read
    · exact absurd read (refuse_ne_ok _ _ _)
  · rintro ⟨text, rfl, spelled⟩
    simp only [Tree.ofString, ofText?_eq_some_iff.2 spelled]

/-- An avatar is what a tree names, by itself or in an object. -/
def Avatar.WrittenIn (avatar : Avatar) (t : Tree) : Prop :=
  t = .ofString avatar.name ∨ t = .ofFields [(avatar.name, .null)]

/-- An avatar is read from its name. -/
theorem Avatar.read_eq_ok_iff {room : Nat} {t : Tree} {avatar : Avatar} :
    Avatar.read (room + 1) t = .ok avatar ↔ avatar.WrittenIn t := by
  have member : avatar ∈ Avatar.all := by cases avatar <;> decide
  have positive : 0 < room + 1 := Nat.succ_pos room
  rw [Avatar.read, readAlternative_map_eq_ok_iff (by decide)]
  simp only [member, positive, true_and, Avatar.WrittenIn]

/-! ## Positions -/

namespace Position

/-- A position is what a tree has for both coordinates. -/
structure WrittenIn (p : Position) (t : Tree) : Prop where
  /-- The tree lays out both fields. -/
  layout : t.LaysOut 2
  /-- The first coordinate. -/
  x : ∃ value, t.written 0 "x" = [value] ∧ value.IsInteger p.x.toInt
  /-- The second coordinate. -/
  y : ∃ value, t.written 1 "y" = [value] ∧ value.IsInteger p.y.toInt

/-- The parts of a draft of a position. -/
def parts : List (Portion Draft) := [
  ⟨Int64, "x", readSigned, (·.x), fun a d => { d with x := some a }⟩,
  ⟨Int64, "y", readSigned, (·.y), fun a d => { d with y := some a }⟩]

/-- Positions are read part by part. -/
theorem hasParts : shape.HasParts parts where
  slots := rfl
  apart := { distinct := by decide, own := by simp [parts], others := by simp [parts] }
  blank := by simp [parts, shape]
  ext d e same := by
    cases d
    cases e
    simpa [parts] using same

variable {room : Nat} {t : Tree} {p : Position}

/-- A position is that of a draft with both coordinates. -/
theorem draft_eq_of_finish {lack : Nat → String → Refusal} {d : Draft}
    (finished : shape.finish lack d = .ok p) : d = { x := some p.x, y := some p.y } := by
  obtain ⟨x, first, finished⟩ := bind_eq_ok.1 finished
  obtain ⟨y, second, finished⟩ := bind_eq_ok.1 finished
  cases finished
  cases d
  rw [Draft.mk.injEq]
  exact ⟨eq_some_of_require first, eq_some_of_require second⟩

/-- A position is read from the trees that it is written in. -/
theorem read_eq_ok_iff (passed : t.pass = .ok ()) :
    shape.read (room + 1) t = .ok p ↔ p.WrittenIn t := by
  constructor
  · intro read
    obtain ⟨inside, lack, d, same, fills, finished⟩ := Shape.exists_fills_of_read read
    obtain rfl := draft_eq_of_finish finished
    exact {
      layout := fills.laysOut hasParts
      x := (fills.given hasParts 0 rfl).exists_value fun _ _ => readSigned_eq_ok_iff.1
      y := (fills.given hasParts 1 rfl).exists_value fun _ _ => readSigned_eq_ok_iff.1 }
  · intro written
    have fills : shape.Fills room { x := some p.x, y := some p.y } t := by
      refine Shape.fills_of_given hasParts passed written.layout fun {index q} here => ?_
      match index with
      | 0 => cases here; exact given_of_value written.x fun _ _ => readSigned_eq_ok_iff.2
      | 1 => cases here; exact given_of_value written.y fun _ _ => readSigned_eq_ok_iff.2
    obtain ⟨lack, read⟩ := fills.read_eq
    rw [read]
    rfl

/-- A position is written in its own tree. -/
theorem writtenIn_toTree (p : Position) : p.WrittenIn p.toTree where
  layout := Tree.laysOut_ofFields _ _
  x := ⟨_, rfl, Tree.isInteger_ofInt _⟩
  y := ⟨_, rfl, Tree.isInteger_ofInt _⟩

/-- The tree of a position holds no flaw. -/
theorem isFlawless_toTree (p : Position) : p.toTree.IsFlawless :=
  .object (List.forall_mem_cons.2 ⟨.number (Numeral.isStrict_ofInt _),
    List.forall_mem_singleton.2 (.number (Numeral.isStrict_ofInt _))⟩)

end Position

/-! ## Bubbles -/

namespace Bubble

/-- A bubble is what a tree has for its text and whether it is shown. -/
structure WrittenIn (b : Bubble) (t : Tree) : Prop where
  /-- The tree lays out both fields. -/
  layout : t.LaysOut 2
  /-- The text. -/
  text : t.written 0 "text" = [.ofString b.text]
  /-- Whether it is shown. -/
  visible : t.written 1 "visible" = [.bool b.visible]

/-- The parts of a draft of a bubble. -/
def parts : List (Portion Draft) := [
  ⟨String, "text", readText, (·.text), fun a d => { d with text := some a }⟩,
  ⟨Bool, "visible", readBool, (·.visible), fun a d => { d with visible := some a }⟩]

/-- Bubbles are read part by part. -/
theorem hasParts : shape.HasParts parts where
  slots := rfl
  apart := { distinct := by decide, own := by simp [parts], others := by simp [parts] }
  blank := by simp [parts, shape]
  ext d e same := by
    cases d
    cases e
    simpa [parts] using same

variable {room : Nat} {t : Tree} {b : Bubble}

/-- A bubble is that of a draft with both fields. -/
theorem draft_eq_of_finish {lack : Nat → String → Refusal} {d : Draft}
    (finished : shape.finish lack d = .ok b) :
    d = { text := some b.text, visible := some b.visible } := by
  obtain ⟨text, first, finished⟩ := bind_eq_ok.1 finished
  obtain ⟨visible, second, finished⟩ := bind_eq_ok.1 finished
  cases finished
  cases d
  rw [Draft.mk.injEq]
  exact ⟨eq_some_of_require first, eq_some_of_require second⟩

/-- A bubble is read from the trees that it is written in. -/
theorem read_eq_ok_iff (passed : t.pass = .ok ()) :
    shape.read (room + 1) t = .ok b ↔ b.WrittenIn t := by
  constructor
  · intro read
    obtain ⟨inside, lack, d, same, fills, finished⟩ := Shape.exists_fills_of_read read
    obtain rfl := draft_eq_of_finish finished
    obtain ⟨text, once, own⟩ := fills.given hasParts 0 rfl
    obtain ⟨visible, once', own'⟩ := fills.given hasParts 1 rfl
    obtain rfl := readText_eq_ok_iff.1 own
    obtain rfl := readBool_eq_ok_iff.1 own'
    exact ⟨fills.laysOut hasParts, once, once'⟩
  · rintro ⟨layout, text, visible⟩
    have fills : shape.Fills room { text := some b.text, visible := some b.visible } t := by
      refine Shape.fills_of_given hasParts passed layout fun {index q} here => ?_
      match index with
      | 0 => cases here; exact ⟨_, text, rfl⟩
      | 1 => cases here; exact ⟨_, visible, rfl⟩
    obtain ⟨lack, read⟩ := fills.read_eq
    rw [read]
    rfl

/-- A bubble is written in its own tree. -/
theorem writtenIn_toTree (b : Bubble) : b.WrittenIn b.toTree where
  layout := Tree.laysOut_ofFields _ _
  text := rfl
  visible := rfl

/-- The tree of a bubble holds no flaw. -/
theorem isFlawless_toTree (b : Bubble) : b.toTree.IsFlawless :=
  .object (List.forall_mem_cons.2 ⟨.text _, List.forall_mem_singleton.2 (.bool _)⟩)

end Bubble

/-! ## Sprites -/

namespace Sprite

/-- A sprite is what a tree has for its fields. -/
structure WrittenIn (s : Sprite) (t : Tree) : Prop where
  /-- The tree lays out all fields. -/
  layout : t.LaysOut 7
  /-- The identity. -/
  id : ∃ value, t.written 0 "id" = [value] ∧ s.id.WrittenIn value
  /-- The avatar. -/
  avatar : ∃ value, t.written 1 "kind" = [value] ∧ s.avatar.WrittenIn value
  /-- The name. -/
  name : t.written 2 "name" = [.ofString s.name]
  /-- The position. -/
  position : ∃ value, t.written 3 "position" = [value] ∧ s.position.WrittenIn value
  /-- The heading. -/
  heading : ∃ value, t.written 4 "rotation" = [value] ∧ s.heading.WrittenIn value
  /-- The speech bubble. -/
  speech : ∃ value, t.written 5 "speech" = [value] ∧ s.speech.WrittenIn value
  /-- The thought bubble. -/
  thought : ∃ value, t.written 6 "thought" = [value] ∧ s.thought.WrittenIn value

/-- The parts of a draft of a sprite. -/
def parts : List (Portion Draft) := [
  ⟨SpriteId, "id", SpriteId.read, (·.id), fun a d => { d with id := some a }⟩,
  ⟨Avatar, "kind", Avatar.read, (·.avatar), fun a d => { d with avatar := some a }⟩,
  ⟨String, "name", readText, (·.name), fun a d => { d with name := some a }⟩,
  ⟨Position, "position", Position.shape.read, (·.position),
    fun a d => { d with position := some a }⟩,
  ⟨Heading, "rotation", Heading.read, (·.heading), fun a d => { d with heading := some a }⟩,
  ⟨Bubble, "speech", Bubble.shape.read, (·.speech), fun a d => { d with speech := some a }⟩,
  ⟨Bubble, "thought", Bubble.shape.read, (·.thought), fun a d => { d with thought := some a }⟩]

/-- Sprites are read part by part. -/
theorem hasParts : shape.HasParts parts where
  slots := rfl
  apart := { distinct := by decide, own := by simp [parts], others := by simp [parts] }
  blank := by simp [parts, shape]
  ext d e same := by
    cases d
    cases e
    simpa [parts] using same

variable {room : Nat} {t : Tree} {s : Sprite}

/-- The draft with all fields of a sprite. -/
def draft (s : Sprite) : Draft where
  id := some s.id
  avatar := some s.avatar
  name := some s.name
  position := some s.position
  heading := some s.heading
  speech := some s.speech
  thought := some s.thought

/-- A sprite is that of a draft with all fields. -/
theorem draft_eq_of_finish {lack : Nat → String → Refusal} {d : Draft}
    (finished : shape.finish lack d = .ok s) : d = s.draft := by
  obtain ⟨id, first, finished⟩ := bind_eq_ok.1 finished
  obtain ⟨avatar, second, finished⟩ := bind_eq_ok.1 finished
  obtain ⟨name, third, finished⟩ := bind_eq_ok.1 finished
  obtain ⟨position, fourth, finished⟩ := bind_eq_ok.1 finished
  obtain ⟨heading, fifth, finished⟩ := bind_eq_ok.1 finished
  obtain ⟨speech, sixth, finished⟩ := bind_eq_ok.1 finished
  obtain ⟨thought, seventh, finished⟩ := bind_eq_ok.1 finished
  cases finished
  cases d
  rw [draft, Draft.mk.injEq]
  exact ⟨eq_some_of_require first, eq_some_of_require second, eq_some_of_require third,
    eq_some_of_require fourth, eq_some_of_require fifth, eq_some_of_require sixth,
    eq_some_of_require seventh⟩

/-- A sprite is read from the trees that it is written in. -/
theorem read_eq_ok_iff (passed : t.pass = .ok ()) :
    read (room + 2) t = .ok s ↔ s.WrittenIn t := by
  have inner {index : Nat} {name : String} : ∀ value ∈ t.written index name, value.pass = .ok () :=
    pass_of_mem_written passed
  constructor
  · intro read
    obtain ⟨inside, lack, d, same, fills, finished⟩ := Shape.exists_fills_of_read read
    obtain rfl := draft_eq_of_finish finished
    obtain rfl : inside = room + 1 := by omega
    obtain ⟨name, once, own⟩ := fills.given hasParts 2 rfl
    obtain rfl := readText_eq_ok_iff.1 own
    exact {
      layout := fills.laysOut hasParts
      id := (fills.given hasParts 0 rfl).exists_value fun _ _ => SpriteId.read_eq_ok_iff.1
      avatar := (fills.given hasParts 1 rfl).exists_value fun _ _ => Avatar.read_eq_ok_iff.1
      name := once
      position := (fills.given hasParts 3 rfl).exists_value fun value member =>
        (Position.read_eq_ok_iff (inner value member)).1
      heading := (fills.given hasParts 4 rfl).exists_value fun _ _ => Heading.read_eq_ok_iff.1
      speech := (fills.given hasParts 5 rfl).exists_value fun value member =>
        (Bubble.read_eq_ok_iff (inner value member)).1
      thought := (fills.given hasParts 6 rfl).exists_value fun value member =>
        (Bubble.read_eq_ok_iff (inner value member)).1 }
  · intro written
    have fills : shape.Fills (room + 1) s.draft t := by
      refine Shape.fills_of_given hasParts passed written.layout fun {index q} here => ?_
      match index with
      | 0 => cases here; exact given_of_value written.id fun _ _ => SpriteId.read_eq_ok_iff.2
      | 1 => cases here; exact given_of_value written.avatar fun _ _ => Avatar.read_eq_ok_iff.2
      | 2 => cases here; exact ⟨_, written.name, rfl⟩
      | 3 =>
        cases here
        exact given_of_value written.position fun value member =>
          (Position.read_eq_ok_iff (inner value member)).2
      | 4 => cases here; exact given_of_value written.heading fun _ _ => Heading.read_eq_ok_iff.2
      | 5 =>
        cases here
        exact given_of_value written.speech fun value member =>
          (Bubble.read_eq_ok_iff (inner value member)).2
      | 6 =>
        cases here
        exact given_of_value written.thought fun value member =>
          (Bubble.read_eq_ok_iff (inner value member)).2
    obtain ⟨lack, read⟩ := fills.read_eq
    rw [Sprite.read, read]
    rfl

/-- A sprite is read from the texts that spell a tree that it is written in, and from no others. -/
theorem readDocument_eq_ok_iff {text : String} :
    readDocument read text = .ok s ↔ ∃ t, Tree.Spells text.toList t ∧ s.WrittenIn t := by
  rw [Json.readDocument_eq_ok_iff]
  refine exists_congr fun t => and_congr_right fun spells => ?_
  exact @read_eq_ok_iff 125 t s spells.pass_eq_ok

/-- A sprite is written in its own tree. -/
theorem writtenIn_toTree (s : Sprite) : s.WrittenIn s.toTree where
  layout := Tree.laysOut_ofFields _ _
  id := ⟨_, rfl, _, rfl, s.id.spelled_toText⟩
  avatar := ⟨_, rfl, .inl rfl⟩
  name := rfl
  position := ⟨_, rfl, s.position.writtenIn_toTree⟩
  heading := ⟨_, rfl, s.heading.writtenIn_ofInt⟩
  speech := ⟨_, rfl, s.speech.writtenIn_toTree⟩
  thought := ⟨_, rfl, s.thought.writtenIn_toTree⟩

/-- The tree of a sprite holds no flaw. -/
theorem isFlawless_toTree (s : Sprite) : s.toTree.IsFlawless := by
  refine .object ?_
  simp only [List.forall_mem_cons]
  exact ⟨.text _, .text _, .text _, s.position.isFlawless_toTree,
    .number (Numeral.isStrict_ofInt _), s.speech.isFlawless_toTree, s.thought.isFlawless_toTree,
    nofun⟩

/-- A sprite is read back from its own document. -/
theorem readDocument_toText (s : Sprite) : readDocument read s.toTree.toText = .ok s := by
  refine readDocument_eq_ok_iff.2 ⟨s.toTree, ?_, s.writtenIn_toTree⟩
  rw [Tree.toText, String.toList_ofList]
  exact s.isFlawless_toTree.spells_toChars

/-- Documents are faithful to sprites. Every sprite is read back from its own document, wherever it
is, whatever it is called and whatever its bubbles hold. A document is read as a sprite when the
sprite is written in it, and only then: as an object of the fields in any order, with others between
them, or as an array of them, with the position and the bubbles in either layout, too, and with any
spelling of the identity. All fields are as they are written, but for the angle of the heading, of
which the remainder by a full turn is kept; and the sprite is read back from its own document. -/
theorem documents_are_faithful :
    (∀ s : Sprite, readDocument read s.toTree.toText = .ok s) ∧
    (∀ (text : String) (s : Sprite),
      readDocument read text = .ok s ↔ ∃ t, Tree.Spells text.toList t ∧ s.WrittenIn t) ∧
    ∀ (text : String) (s : Sprite), readDocument read text = .ok s →
      0 ≤ s.heading.toInt ∧ s.heading.toInt < 360 ∧
      readDocument read s.toTree.toText = .ok s :=
  ⟨readDocument_toText, fun _ _ => readDocument_eq_ok_iff, fun _ s _ =>
    ⟨s.heading.toInt_nonneg, s.heading.toInt_lt, s.readDocument_toText⟩⟩

/-- A sprite that is spelled with fields out of order, others between them, arrays for its position
and a bubble, and the least 64-bit word as its angle. -/
theorem documents_are_faithful_disordered :
    let text := " \x7b\"thought\":[\"\\u0041\",true],\"hat\":[1e999,\x7b\x7d],\"name\":\"\"," ++
      "\"rotation\":-9223372036854775808,\"kind\":\x7b\"dog\":null\x7d,\"position\":[-1,2]," ++
      "\"id\":\"\x7b00000000-0000-0000-0000-0000000000AF\x7d\",\n" ++
      "\"speech\":\x7b\"visible\":false,\"text\":\"\\\"\"\x7d\x7d"
    ∃ s, readDocument read text = .ok s ∧
      s.id = .ofNat 175 ∧ s.heading.toInt = 352 ∧ s.thought = .shown "A" ∧
      (∃ t, Tree.Spells text.toList t ∧ s.WrittenIn t) ∧
      readDocument read s.toTree.toText = .ok s := by
  intro text
  obtain ⟨-, written, normal⟩ := documents_are_faithful
  have accepted : (readDocument read text).toOption.map
      (fun s => (s.id, s.heading.toInt, s.thought)) =
      some (.ofNat 175, 352, .shown "A") := by
    decide +kernel
  obtain ⟨s, found, start⟩ := Option.map_eq_some_iff.1 accepted
  have read : readDocument Sprite.read text = .ok s := eq_ok_of_toOption found
  obtain ⟨id, heading, thought⟩ := by simpa only [Prod.mk.injEq] using start
  exact ⟨s, read, id, heading, thought, (written text s).1 read, (normal text s read).2.2⟩

end Sprite

end Troupe
