import Troupe.Proofs.Block.Nested
import Troupe.Proofs.Cast
import Troupe.Proofs.Performance.Emission

/-!
# Repeats written out

A script can be written out: every block that repeats others makes way for as many copies of its
body, itself written out, and blocks of unknown kind are left out. `Block.effect` says what each of
the remaining blocks makes of a sprite. The main statement, `Performance.unrolled_same`, says that
a script and the one written out pause alike, with the same sprites on the stage, and end with the
same cast, in which the sprite is what the effects of the blocks make of it, one after the other.
-/

namespace Troupe

/-! ## Writing out -/

namespace Block

mutual

/-- A block written out. Inside the blocks that stay, repeats are written out as well. -/
def unroll : Block → List Block
  | ⟨.loop, params, children⟩ =>
    (List.replicate (count (Literal.integerAt params 0 0)) (unrollAll children)).flatten
  | ⟨.unknown _, _, _⟩ => []
  | ⟨.move, params, children⟩ => [⟨.move, params, unrollAll children⟩]
  | ⟨.say, params, children⟩ => [⟨.say, params, unrollAll children⟩]
  | ⟨.think, params, children⟩ => [⟨.think, params, unrollAll children⟩]
  | ⟨.turnLeft, params, children⟩ => [⟨.turnLeft, params, unrollAll children⟩]
  | ⟨.turn, params, children⟩ => [⟨.turn, params, unrollAll children⟩]
  | ⟨.goTo, params, children⟩ => [⟨.goTo, params, unrollAll children⟩]

/-- A list of blocks written out. -/
def unrollAll : List Block → List Block
  | [] => []
  | b :: rest => unroll b ++ unrollAll rest

end

/-- What a block makes of a sprite once it is performed, if it is neither made of others nor of
unknown kind. -/
def effect (b : Block) (s : Sprite) : Sprite :=
  let first := Literal.integerAt b.params 0 0
  match b.kind with
  | .move =>
    { s with position := { s.position with x := .ofIntClamp (s.position.x.toInt + first.toInt) } }
  | .goTo => { s with position := ⟨first, Literal.integerAt b.params 1 0⟩ }
  | .turn => { s with heading := .ofInt (s.heading.toInt + first.toInt) }
  | .turnLeft => { s with heading := .ofInt (s.heading.toInt - first.toInt) }
  | .say => { s with speech := { text := Literal.textAt b.params 0 "", visible := false } }
  | .think => { s with thought := { text := Literal.textAt b.params 0 "", visible := false } }
  | .loop | .unknown _ => s

/-- Whether a block is of a known kind and not made of others. -/
def IsSimple (b : Block) : Prop := b.kind.isKnown = true ∧ b.kind.nests = false

/-- A list of blocks is written out block by block. -/
theorem unrollAll_eq_flatMap (blocks : List Block) : unrollAll blocks = blocks.flatMap unroll := by
  induction blocks with
  | nil => rfl
  | cons b rest ih => rw [unrollAll, ih, List.flatMap_cons]

/-- A block that repeats others is written out as copies of its children written out. -/
theorem unroll_loop (params : List Literal) (children : List Block) :
    unroll ⟨.loop, params, children⟩ =
      (List.replicate (count (Literal.integerAt params 0 0))
        (children.flatMap unroll)).flatten := by
  rw [unroll, unrollAll_eq_flatMap]

/-- A simple block stays, with its children written out. -/
theorem unroll_of_isSimple {b : Block} (simple : b.IsSimple) :
    b.unroll = [b.withChildren (b.children.flatMap unroll)] := by
  obtain ⟨kind, params, children⟩ := b
  obtain ⟨known, single⟩ := simple
  cases kind with
  | loop => exact nomatch single
  | unknown name => exact nomatch known
  | move | say | think | turnLeft | turn | goTo =>
    rw [unroll, unrollAll_eq_flatMap, withChildren]

/-- A block is simple, made of others, or of unknown kind. -/
theorem isSimple_cases (b : Block) :
    b.IsSimple ∨ b.kind = .loop ∨ ∃ name, b.kind = .unknown name := by
  obtain ⟨kind, params, children⟩ := b
  cases kind with
  | loop => exact .inr (.inl rfl)
  | unknown name => exact .inr (.inr ⟨name, rfl⟩)
  | move | say | think | turnLeft | turn | goTo => exact .inl ⟨rfl, rfl⟩

/-- Of a block written out, every block is simple, however deep it is. -/
theorem isSimple_of_mem_unroll (b : Block) :
    ∀ kept ∈ b.unroll, ∀ inner ∈ kept.nested, inner.IsSimple := by
  induction b using induction_on_children with
  | step b ih =>
  have below : ∀ kept ∈ b.children.flatMap unroll, ∀ inner ∈ kept.nested, inner.IsSimple := by
    intro kept member
    obtain ⟨child, there, written⟩ := List.mem_flatMap.1 member
    exact ih child there kept written
  intro kept member
  obtain ⟨kind, params, children⟩ := b
  rcases isSimple_cases ⟨kind, params, children⟩ with simple | looped | ⟨name, strange⟩
  · rw [unroll_of_isSimple simple, List.mem_singleton] at member
    subst member
    exact forall_mem_nested.2 ⟨simple, below⟩
  · obtain rfl : kind = .loop := looped
    rw [unroll_loop] at member
    obtain ⟨body, copied, inside⟩ := List.mem_flatten.1 member
    rw [List.eq_of_mem_replicate copied] at inside
    exact below kept inside
  · obtain rfl : kind = .unknown name := strange
    exact nomatch member

end Block

/-! ## What pauses show -/

/-- Whether an action is more than words: it changes the sprite or pauses. -/
def Action.isStaged : Action → Bool
  | .announce _ | .warn _ => false
  | .change _ | .pause _ => true

namespace Block

variable {movePause : Nat}

/-- What a block does is what its kind and its literal values say, unless it is made of others. -/
theorem expansion_withChildren {b : Block} (simple : b.IsSimple) (children : List Block) :
    (b.withChildren children).expansion movePause = b.expansion movePause := by
  obtain ⟨kind, params, own⟩ := b
  obtain ⟨known, single⟩ := simple
  cases kind with
  | loop => exact nomatch single
  | unknown name => exact nomatch known
  | move | say | think | turnLeft | turn | goTo => simp [withChildren, expansion]

/-- A list of blocks is expanded block by block. -/
theorem expansionAll_eq_flatMap (blocks : List Block) :
    expansionAll movePause blocks = blocks.flatMap (expansion movePause) := by
  induction blocks with
  | nil => rfl
  | cons b rest ih => rw [expansionAll, ih, List.flatMap_cons]

/-- A block that repeats others is told of and then expanded as copies of its children. -/
theorem expansion_loop (params : List Literal) (children : List Block) :
    expansion movePause ⟨.loop, params, children⟩ =
      .announce .loop ::
        (List.replicate (count (Literal.integerAt params 0 0))
          (children.flatMap (expansion movePause))).flatten := by
  rw [expansion, expansionAll_eq_flatMap]

/-- But for words, a block does what the blocks do that it is written out as. -/
theorem staged_unroll (b : Block) :
    (b.unroll.flatMap (expansion movePause)).filter Action.isStaged =
      (b.expansion movePause).filter Action.isStaged := by
  induction b using induction_on_children with
  | step b ih =>
  obtain ⟨kind, params, children⟩ := b
  rcases isSimple_cases ⟨kind, params, children⟩ with simple | looped | ⟨name, strange⟩
  · rw [unroll_of_isSimple simple, List.flatMap_singleton, expansion_withChildren simple]
  · obtain rfl : kind = .loop := looped
    have body : ((children.flatMap unroll).flatMap (expansion movePause)).filter Action.isStaged =
        (children.flatMap (expansion movePause)).filter Action.isStaged := by
      rw [List.flatMap_assoc, List.filter_flatMap, List.filter_flatMap, List.flatMap_def,
        List.flatMap_def, List.map_congr_left ih]
    rw [unroll_loop, expansion_loop, flatMap_flatten_replicate,
      List.filter_cons_of_neg (by simp [Action.isStaged]), List.filter_flatten,
      List.filter_flatten, List.map_replicate, List.map_replicate, body]
  · obtain rfl : kind = .unknown name := strange
    simp [unroll, expansion, Action.isStaged]

/-- But for words, a script does what the script written out does. -/
theorem staged_unrollAll (script : Script) :
    ((unrollAll script).flatMap (expansion movePause)).filter Action.isStaged =
      (script.flatMap (expansion movePause)).filter Action.isStaged := by
  rw [unrollAll_eq_flatMap, List.flatMap_assoc, List.filter_flatMap, List.filter_flatMap]
  exact congrArg (script.flatMap ·) (funext staged_unroll)

/-- What a simple block does comes to its effect on the sprite. -/
theorem after_expansion {b : Block} (simple : b.IsSimple) (s : Sprite) :
    s.after (b.expansion movePause) = b.effect s := by
  obtain ⟨kind, params, children⟩ := b
  obtain ⟨known, single⟩ := simple
  cases kind with
  | loop => exact nomatch single
  | unknown name => exact nomatch known
  | turn => exact Sprite.turn_eq s _
  | turnLeft => exact Sprite.turnLeft_eq s _
  | move | say | think | goTo => rfl

/-- What simple blocks do comes to their effects on the sprite, one after the other. -/
theorem after_flatMap_expansion {blocks : List Block} (simple : ∀ b ∈ blocks, b.IsSimple)
    (s : Sprite) :
    s.after (blocks.flatMap (expansion movePause)) = blocks.foldl (fun s b => b.effect s) s := by
  induction blocks generalizing s with
  | nil => rfl
  | cons b rest ih =>
    obtain ⟨first, others⟩ := List.forall_mem_cons.1 simple
    rw [List.flatMap_cons, Sprite.after_append, after_expansion first, ih others, List.foldl_cons]

/-- Whatever blocks make of a sprite, it stays who it is. -/
theorem id_foldl_effect (blocks : List Block) (s : Sprite) :
    (blocks.foldl (fun s b => b.effect s) s).id = s.id := by
  induction blocks generalizing s with
  | nil => rfl
  | cons b rest ih =>
    have kept : (b.effect s).id = s.id := by
      rw [effect]
      cases b.kind <;> rfl
    rw [List.foldl_cons, ih, kept]

/-- Of a script written out, every block is simple, however deep it is. -/
theorem isSimple_of_mem_nestedAll_unrollAll {script : Script} {inner : Block}
    (member : inner ∈ nestedAll (unrollAll script)) : inner.IsSimple := by
  rw [nestedAll_eq_flatMap, unrollAll_eq_flatMap] at member
  obtain ⟨kept, written, inside⟩ := List.mem_flatMap.1 member
  obtain ⟨b, -, here⟩ := List.mem_flatMap.1 written
  exact isSimple_of_mem_unroll b kept here inner inside

end Block

/-- How long an event pauses, when, and with which sprites on the stage, if it is a pause. -/
def Event.pause? : Event → Option (Nat × Nat × List Sprite)
  | .paused duration clock sprites => some (duration, clock, sprites)
  | _ => none

namespace Performance

/-- The pauses of a performance, in order. -/
def pauses (p : Performance) : List (Nat × Nat × List Sprite) := p.log.filterMap Event.pause?

/-- What a performance shows: its pauses, and the cast and the time at its end. -/
def shows (p : Performance) : List (Nat × Nat × List Sprite) × Cast × Nat :=
  (p.pauses, p.cast, p.clock)

variable {movePause : Nat} {who : SpriteId} {host : Nat → Cast → Cast}

/-- A performance shows the same without the words. -/
theorem shows_along_staged (pauses clock : Nat) (cast : Cast) (actions : List Action) :
    (along who host pauses clock cast (actions.filter Action.isStaged)).shows =
      (along who host pauses clock cast actions).shows := by
  induction actions generalizing pauses clock cast with
  | nil => rfl
  | cons action rest ih =>
    cases action with
    | announce kind | warn name => exact ih pauses clock cast
    | change effect => exact ih pauses clock (cast.modify who effect.apply)
    | pause duration =>
      have later := ih (pauses + 1) (clock + duration) (host pauses cast)
      exact congrArg (fun shown => ((duration, clock, cast.sprites) :: shown.1, shown.2)) later

/-- A script shows what it shows written out. -/
theorem shows_unrollAll (host : Nat → Cast → Cast) (cast : Cast) (script : Script) :
    (ofScript movePause who host cast (Block.unrollAll script)).shows =
      (ofScript movePause who host cast script).shows := by
  rw [ofScript_eq_along, ofScript_eq_along, ← shows_along_staged, Block.staged_unrollAll,
    shows_along_staged]

/-- When the host does nothing, a script comes to the effects of the blocks that it is written out
as. -/
theorem cast_ofScript_eq_modify (cast : Cast) (script : Script) :
    (ofScript movePause who (fun _ cast => cast) cast script).cast =
      cast.modify who fun s => (Block.unrollAll script).foldl (fun s b => b.effect s) s := by
  have same : (ofScript movePause who (fun _ cast => cast) cast script).cast =
      (ofScript movePause who (fun _ cast => cast) cast (Block.unrollAll script)).cast :=
    congrArg (·.2.1) (shows_unrollAll _ cast script).symm
  have simple : ∀ b ∈ Block.unrollAll script, b.IsSimple := by
    intro b member
    have within : b ∈ Block.nestedAll (Block.unrollAll script) := by
      rw [Block.nestedAll_eq_flatMap]
      exact List.mem_flatMap.2 ⟨b, member, Block.mem_nested.2 (.inl rfl)⟩
    exact Block.isSimple_of_mem_nestedAll_unrollAll within
  rw [same, ofScript, cast_ofWork, Block.trace_ofScript_eq_expansion,
    Cast.foldl_perform_eq_modify]
  exact congrArg (cast.modify who) (funext (Block.after_flatMap_expansion simple))

/-- A script is as good as the script written out, in which every block is simple, however deep it
is. Whatever the host does, both have the same pauses with the same sprites on the stage, and come
to the same cast at the same time. When the host does nothing, the sprite is at the end what the
effects of the blocks written out make of it, one after the other. -/
theorem unrolled_same (movePause : Nat) (who : SpriteId) (script : Script) :
    (∀ inner ∈ Block.nestedAll (Block.unrollAll script), inner.IsSimple) ∧
    (∀ host cast,
      let written := ofScript movePause who host cast (Block.unrollAll script)
      let whole := ofScript movePause who host cast script
      written.pauses = whole.pauses ∧ written.cast = whole.cast ∧ written.clock = whole.clock) ∧
    ∀ cast,
      let final (s : Sprite) : Sprite :=
        (Block.unrollAll script).foldl (fun s b => b.effect s) s
      let whole := ofScript movePause who (fun _ cast => cast) cast script
      whole.cast = cast.modify who final ∧
        whole.cast.find? who = (cast.find? who).map final := by
  refine ⟨fun inner => Block.isSimple_of_mem_nestedAll_unrollAll, fun host cast => ?_,
    fun cast => ?_⟩
  · have same : (ofScript movePause who host cast (Block.unrollAll script)).shows =
        (ofScript movePause who host cast script).shows := shows_unrollAll host cast script
    exact ⟨congrArg (·.1) same, congrArg (·.2.1) same, congrArg (·.2.2) same⟩
  · have comes : (ofScript movePause who (fun _ cast => cast) cast script).cast =
        cast.modify who fun s => (Block.unrollAll script).foldl (fun s b => b.effect s) s :=
      cast_ofScript_eq_modify cast script
    refine ⟨comes, ?_⟩
    rw [comes]
    exact Cast.findIn?_modifyIn (Block.id_foldl_effect (Block.unrollAll script))

/-- A cat moves and speaks in nested repeats. Nothing is repeated a negative number of times or a
number of times that is no number, and a block of unknown kind makes no difference. -/
theorem unrolled_same_nested :
    let script : Script := [
      .loop 2 [.move 10, .loop 2 [.say "hi" 1]], .loop (-3) [.move 1],
      ⟨.loop, [.text "many"], [.move 1]⟩, ⟨.unknown "jump", [], [.move 1]⟩, .turnLeft 90]
    let cat : Sprite := .create (.ofNat 0) .cat ⟨50, 50⟩
    let whole := ofScript 500 cat.id (fun _ cast => cast) ⟨[cat]⟩ script
    Block.unrollAll script =
        [.move 10, .say "hi" 1, .say "hi" 1, .move 10, .say "hi" 1, .say "hi" 1, .turnLeft 90] ∧
      whole.pauses.map (·.1) = [500, 1000, 1000, 500, 1000, 1000] ∧ whole.clock = 5000 ∧
      whole.cast.find? cat.id = some { cat with
        position := ⟨70, 50⟩
        heading := .ofInt 270
        speech := { text := "hi", visible := false } } := by
  intro script cat whole
  obtain ⟨-, same, final⟩ := unrolled_same 500 cat.id script
  have written : Block.unrollAll script =
      [.move 10, .say "hi" 1, .say "hi" 1, .move 10, .say "hi" 1, .say "hi" 1, .turnLeft 90] := by
    decide +kernel
  obtain ⟨pauses, -, clock⟩ := same (fun _ cast => cast) ⟨[cat]⟩
  refine ⟨written, ?_, ?_, ?_⟩
  · rw [← pauses, written]
    decide +kernel
  · rw [← clock, written]
    decide +kernel
  · rw [(final ⟨[cat]⟩).2, written]
    decide +kernel

end Performance

end Troupe
