import Troupe.Proofs.Palette.Schema
import Troupe.Proofs.Performance
import Troupe.Proofs.Text.LeadingInteger

/-!
# Numbers typed as text

An integer among the literals of a block may as well be the text of its digits. Where no text is
read, there may also be blanks in front of the digits and anything but another digit behind them.
Such a script is the same script respelled: `Script.Respelled` relates the two block by block, and
`Block.typed` types every integer in a block. The main statement,
`Script.respelled_scripts_perform_alike`, says that the two are decoded and performed alike.
-/

namespace Troupe

/-! ## Respelling -/

/-- Whether a text is read from the literal at an index of a block of a kind. -/
def Kind.readsText : Kind → Nat → Bool
  | .say, 0 | .think, 0 => true
  | _, _ => false

/-- A literal and what it may be respelled as, at a place where a text is read or not. -/
inductive Literal.Respelled (readsText : Bool) : Literal → Literal → Prop where
  /-- It stays as it is. -/
  | same (l : Literal) : Respelled readsText l l
  /-- An integer is typed as text. -/
  | typed (n : Int64) : Respelled readsText (.integer n) (.text (integer n).display)
  /-- An integer is typed as text with blanks in front of it and something behind it. -/
  | padded (n : Int64) {front back : List Char} (unread : readsText = false)
    (blank : ∀ c ∈ front, isBlank c = true) (stops : ∀ c ∈ back.head?, c.isDigit = false) :
    Respelled readsText (.integer n)
      (.text (String.ofList (front ++ (integer n).display.toList ++ back)))

/-- The literals of a block of a kind from an index on, and what they may be respelled as. -/
inductive Literal.AllRespelled (kind : Kind) : Nat → List Literal → List Literal → Prop where
  /-- There are none left. -/
  | nil {index : Nat} : AllRespelled kind index [] []
  /-- One is respelled, and so are those behind it. -/
  | cons {index : Nat} {l l' : Literal} {rest rest' : List Literal}
    (first : Respelled (kind.readsText index) l l')
    (others : AllRespelled kind (index + 1) rest rest') :
    AllRespelled kind index (l :: rest) (l' :: rest')

mutual

/-- A block and what it may be respelled as. -/
inductive Block.Respelled : Block → Block → Prop where
  /-- Its literals are respelled, and so are its children. -/
  | intro {kind : Kind} {params params' : List Literal} {children children' : List Block}
    (literals : Literal.AllRespelled kind 0 params params')
    (inside : Script.Respelled children children') :
    Block.Respelled ⟨kind, params, children⟩ ⟨kind, params', children'⟩

/-- A list of blocks and what it may be respelled as. -/
inductive Script.Respelled : List Block → List Block → Prop where
  /-- There are none left. -/
  | nil : Script.Respelled [] []
  /-- One is respelled, and so are those behind it. -/
  | cons {b b' : Block} {rest rest' : List Block} (first : Block.Respelled b b')
    (others : Script.Respelled rest rest') : Script.Respelled (b :: rest) (b' :: rest')

end

/-- A literal with an integer typed as text. -/
def Literal.typed : Literal → Literal
  | .integer n => .text (integer n).display
  | l => l

mutual

/-- A block with every integer in it typed as text, however deep. -/
def Block.typed : Block → Block
  | ⟨kind, params, children⟩ => ⟨kind, params.map Literal.typed, typedAll children⟩

/-- A list of blocks with every integer in it typed as text, however deep. -/
def Block.typedAll : List Block → List Block
  | [] => []
  | b :: rest => typed b :: typedAll rest

end

namespace Literal

variable {readsText : Bool} {l l' : Literal} {kind : Kind} {index i : Nat}
  {params params' : List Literal}

/-- A literal may be typed. -/
theorem respelled_typed (readsText : Bool) (l : Literal) : l.Respelled readsText l.typed := by
  cases l with
  | integer n => exact .typed n
  | real x => exact .same (.real x)
  | text s => exact .same (.text s)

/-- Literals may be typed. -/
theorem allRespelled_typed (kind : Kind) (index : Nat) (params : List Literal) :
    AllRespelled kind index params (params.map typed) := by
  induction params generalizing index with
  | nil => exact .nil
  | cons l rest ih => exact .cons (respelled_typed _ l) (ih (index + 1))

/-- An integer that is typed as text is read from the text. -/
theorem toInteger?_typed (n : Int64) : (text (integer n).display).toInteger? = some n := by
  have blank : ∀ c ∈ ([] : List Char), isBlank c = true := nofun
  have stops : ∀ c ∈ ([] : List Char).head?, c.isDigit = false := nofun
  have plain := toInteger?_display blank stops n
  rwa [List.nil_append, List.append_nil, String.ofList_toList] at plain

/-- A literal is the same integer however it is spelled. -/
theorem Respelled.toInteger?_eq (respelled : l.Respelled readsText l') :
    l'.toInteger? = l.toInteger? := by
  cases respelled with
  | same => rfl
  | typed n => exact toInteger?_typed n
  | padded n unread blank stops => exact toInteger?_display blank stops n

/-- An integer that is typed as text is not typed as nothing, from which no integer is read. -/
theorem isEmptyText_typed (n : Int64) : (text (integer n).display).isEmptyText = false := by
  rw [Bool.eq_false_iff]
  intro empty
  have typed : (integer n).display = "" := String.isEmpty_iff.1 empty
  have nothing : (text "").toInteger? = none := by
    rw [toInteger?_text]
    rfl
  have read := toInteger?_typed n
  rw [typed, nothing] at read
  exact nomatch read

/-- Where a text is read, a literal is the same text however it is spelled. -/
theorem Respelled.text_eq (respelled : l.Respelled true l') :
    l'.isEmptyText = l.isEmptyText ∧ l'.display = l.display := by
  cases respelled with
  | same => exact ⟨rfl, rfl⟩
  | typed n => exact ⟨isEmptyText_typed n, rfl⟩
  | padded n unread => exact nomatch unread

/-- At every index there is a literal and what it is respelled as, or there is none in either
list. -/
theorem AllRespelled.getElem? (respelled : AllRespelled kind index params params') (i : Nat) :
    (params[i]? = none ∧ params'[i]? = none) ∨
      ∃ l l', params[i]? = some l ∧ params'[i]? = some l' ∧
        l.Respelled (kind.readsText (index + i)) l' := by
  induction respelled generalizing i with
  | nil => exact .inl ⟨rfl, rfl⟩
  | @cons index l l' rest rest' first others ih =>
    cases i with
    | zero => exact .inr ⟨l, l', rfl, rfl, first⟩
    | succ i =>
      have place : index + (i + 1) = index + 1 + i := by omega
      rw [place]
      exact ih i

/-- The integer at an index is the same however the literals are spelled. -/
theorem AllRespelled.integerAt_eq (respelled : AllRespelled kind 0 params params') (i : Nat)
    (default : Int64) : integerAt params' i default = integerAt params i default := by
  unfold integerAt
  obtain ⟨none, none'⟩ | ⟨l, l', here, here', own⟩ := respelled.getElem? i
  · rw [none, none']
  · rw [here, here']
    simp only [toIntegerD, own.toInteger?_eq]

/-- The text at an index where one is read is the same however the literals are spelled. -/
theorem AllRespelled.textAt_eq (respelled : AllRespelled kind 0 params params') {i : Nat}
    (reads : kind.readsText i = true) (default : String) :
    textAt params' i default = textAt params i default := by
  unfold textAt
  obtain ⟨none, none'⟩ | ⟨l, l', here, here', own⟩ := respelled.getElem? i
  · rw [none, none']
  · rw [Nat.zero_add, reads] at own
    rw [here, here']
    simp only [own.text_eq]

end Literal

/-! ## What respelled blocks are decoded to -/

mutual

/-- A block may be typed. -/
theorem Block.respelled_typed : ∀ b : Block, b.Respelled b.typed
  | ⟨kind, params, children⟩ =>
    .intro (Literal.allRespelled_typed kind 0 params) (Script.respelled_typedAll children)

/-- Blocks may be typed. -/
theorem Script.respelled_typedAll :
    ∀ blocks : List Block, Script.Respelled blocks (Block.typedAll blocks)
  | [] => .nil
  | b :: rest => .cons (Block.respelled_typed b) (Script.respelled_typedAll rest)

end

mutual

/-- A block is decoded alike however it is spelled. -/
theorem Block.Respelled.decode_eq : ∀ {b b' : Block}, b.Respelled b' → b'.decode = b.decode
  | ⟨kind, _, _⟩, _, .intro literals inside => by
    have body := inside.decodeAll_eq
    cases kind with
    | move | turnLeft | turn | goTo => simp only [Block.decode, literals.integerAt_eq]
    | say | think =>
      simp only [Block.decode, literals.integerAt_eq, literals.textAt_eq (i := 0) rfl]
    | loop => simp only [Block.decode, literals.integerAt_eq, body]
    | unknown name => rfl

/-- Blocks are decoded alike however they are spelled. -/
theorem Script.Respelled.decodeAll_eq :
    ∀ {blocks blocks' : List Block}, Script.Respelled blocks blocks' →
      Block.decodeAll blocks' = Block.decodeAll blocks
  | _, _, .nil => rfl
  | _, _, .cons first others => by
    rw [Block.decodeAll, Block.decodeAll, first.decode_eq, others.decodeAll_eq]

end

/-- At every index there is a block and what it is respelled as, or there is none in either list. -/
theorem Script.Respelled.getElem? {blocks blocks' : List Block} :
    Script.Respelled blocks blocks' → ∀ i : Nat,
      (blocks[i]? = none ∧ blocks'[i]? = none) ∨
        ∃ b b' : Block, blocks[i]? = some b ∧ blocks'[i]? = some b' ∧ b.Respelled b'
  | .nil, _ => .inl ⟨rfl, rfl⟩
  | .cons first _, 0 => .inr ⟨_, _, rfl, rfl, first⟩
  | .cons _ others, i + 1 => others.getElem? i

/-- At every place inside a block there is an instruction, which does not depend on the spelling, or
there is none in either spelling. -/
theorem Block.Respelled.decode_inside? {b b' : Block} (respelled : b.Respelled b')
    (place : List Nat) :
    (b'.inside? place).map Block.decode = (b.inside? place).map Block.decode := by
  induction place generalizing b b' with
  | nil => exact congrArg some respelled.decode_eq
  | cons i place ih =>
    obtain ⟨literals, children⟩ := respelled
    rw [Block.inside?, Block.inside?]
    obtain ⟨none, none'⟩ | ⟨child, child', here, here', own⟩ := children.getElem? i
    · rw [none, none']
    · rw [here, here']
      exact ih own

/-! ## What respelled scripts do -/

namespace Script

/-- Two scripts that differ in nothing that matters. -/
structure Alike (script script' : List Block) : Prop where
  /-- At every place, however deep, there are blocks in both that are decoded alike, or in none. -/
  decoded : ∀ (i : Nat) (place : List Nat),
    (script'[i]?.bind (Block.inside? · place)).map Block.decode =
      (script[i]?.bind (Block.inside? · place)).map Block.decode
  /-- On every stage, whatever the host does at the pauses, both tell the same and leave the same
  cast. -/
  performed : ∀ movePause who host cast,
    Performance.ofScript movePause who host cast script' =
      Performance.ofScript movePause who host cast script
  /-- Both do the same to a sprite, action by action. -/
  course : ∀ movePause (s : Sprite),
    s.course ((Work.ofScript script').trace movePause) =
      s.course ((Work.ofScript script).trace movePause)

/-- A respelled script differs in nothing that matters. -/
theorem Respelled.alike {script script' : List Block} (respelled : Respelled script script') :
    Alike script script' := by
  have instructions : script'.map Block.decode = script.map Block.decode := by
    simpa only [Block.decodeAll_eq_map] using respelled.decodeAll_eq
  have work : Work.ofScript script' = Work.ofScript script := by
    rw [Work.ofScript, Work.ofScript, instructions]
  refine ⟨fun i place => ?_, fun movePause who host cast => ?_, fun movePause s => ?_⟩
  · obtain ⟨none, none'⟩ | ⟨b, b', here, here', own⟩ := respelled.getElem? i
    · rw [none, none']
    · rw [here, here']
      exact own.decode_inside? place
  · rw [Performance.ofScript, Performance.ofScript, work]
  · rw [work]

/-- A script does the same when every integer in it, however deep, is typed as text. It does the
same, too, when only some of them are, and those from which no text is read have blanks in front of
them and anything but a digit behind them. -/
theorem respelled_scripts_perform_alike :
    (∀ script, Alike script (Block.typedAll script)) ∧
      ∀ script script', Respelled script script' → Alike script script' :=
  ⟨fun script => (respelled_typedAll script).alike, fun _ _ respelled => respelled.alike⟩

/-- A loop has its integer typed behind an ideographic space and in front of a letter, with a bubble
and a block of unknown kind in it. -/
theorem respelled_scripts_perform_alike_padded :
    let script : Script := [.loop 3
      [⟨.say, [.integer 7, .integer (-1)], []⟩, ⟨.unknown "fly", [.integer 5], [.turn 1]⟩]]
    let script' : Script := [⟨.loop, [.text "\u30003x"],
      [⟨.say, [.text "7", .text "\t-1 s"], []⟩, ⟨.unknown "fly", [.text "5"], [.turn 1]⟩]⟩]
    Respelled script script' ∧ Alike script script' := by
  intro script script'
  have blank : ∀ c ∈ ['\u3000'], isBlank c = true := List.forall_mem_singleton.2 (by decide)
  have stops : ∀ c ∈ ['x'].head?, c.isDigit = false := by rintro c ⟨⟩; rfl
  have times : Literal.Respelled false (.integer 3) (.text "\u30003x") :=
    .padded 3 rfl blank stops
  have blank' : ∀ c ∈ ['\t'], isBlank c = true := List.forall_mem_singleton.2 (by decide)
  have stops' : ∀ c ∈ [' ', 's'].head?, c.isDigit = false := by rintro c ⟨⟩; rfl
  have seconds : Literal.Respelled false (.integer (-1)) (.text "\t-1 s") :=
    .padded (-1) rfl blank' stops'
  have say : Block.Respelled ⟨.say, [.integer 7, .integer (-1)], []⟩
      ⟨.say, [.text "7", .text "\t-1 s"], []⟩ :=
    .intro (.cons (.typed 7) (.cons seconds .nil)) .nil
  have fly : Block.Respelled ⟨.unknown "fly", [.integer 5], [.turn 1]⟩
      ⟨.unknown "fly", [.text "5"], [.turn 1]⟩ :=
    .intro (.cons (.typed 5) .nil) (.cons (.intro (.cons (.same _) .nil) .nil) .nil)
  have respelled : Respelled script script' :=
    .cons (.intro (.cons times .nil) (.cons say (.cons fly .nil))) .nil
  exact ⟨respelled, respelled_scripts_perform_alike.2 script script' respelled⟩

end Script

end Troupe
