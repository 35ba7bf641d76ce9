import Troupe.Proofs.Performance

/-!
# What a script emits

A script tells of its blocks, warns of unknown ones and pauses. None of this is read off the stage:
`Block.expansion` writes out what a block does from its literal values alone, and a performance goes
along the expansions of its blocks whatever the host does at the pauses. The main statement,
`Performance.emits_expansion`, says that any two performances of a script emit the same, also when
one of them is given by a sprite that left the stage.
-/

namespace Troupe

/-! ## Expansions -/

namespace Block

mutual

/-- All that a block does, in order. It is told of before anything else, a body that is repeated is
expanded each time, and what is inside a block of unknown kind is left alone. -/
def expansion (movePause : Nat) : Block → List Action
  | ⟨.move, params, _⟩ =>
    [.announce .move, .change (.shift (Literal.integerAt params 0 0)), .pause movePause]
  | ⟨.say, params, _⟩ =>
    [.announce .say, .change (.say (Literal.textAt params 0 "")),
      .pause (1000 * count (Literal.integerAt params 1 defaultSeconds)), .change .hush]
  | ⟨.think, params, _⟩ =>
    [.announce .think, .change (.think (Literal.textAt params 0 "")),
      .pause (1000 * count (Literal.integerAt params 1 defaultSeconds)), .change .unthink]
  | ⟨.turnLeft, params, _⟩ =>
    [.announce .turnLeft, .change (.turnLeft (Literal.integerAt params 0 0))]
  | ⟨.turn, params, _⟩ => [.announce .turn, .change (.turn (Literal.integerAt params 0 0))]
  | ⟨.goTo, params, _⟩ =>
    [.announce .goTo,
      .change (.place ⟨Literal.integerAt params 0 0, Literal.integerAt params 1 0⟩)]
  | ⟨.loop, params, children⟩ =>
    .announce .loop ::
      (List.replicate (count (Literal.integerAt params 0 0))
        (expansionAll movePause children)).flatten
  | ⟨.unknown name, _, _⟩ => [.announce (.unknown name), .warn name]

/-- All that a list of blocks does, in order. -/
def expansionAll (movePause : Nat) : List Block → List Action
  | [] => []
  | b :: rest => expansion movePause b ++ expansionAll movePause rest

end

variable {movePause : Nat}

mutual

/-- The expansion of a block is the trace of what it is decoded to. -/
theorem expansion_eq_trace (b : Block) : b.expansion movePause = b.decode.trace movePause := by
  obtain ⟨kind, params, children⟩ := b
  cases kind with
  | loop =>
    rw [expansion, decode, Instruction.trace, expansionAll_eq_traceAll children]
  | move | say | think | turnLeft | turn | goTo | unknown name => rfl

/-- The expansion of a list of blocks is the trace of what they are decoded to. -/
theorem expansionAll_eq_traceAll (blocks : List Block) :
    expansionAll movePause blocks = Instruction.traceAll movePause (decodeAll blocks) := by
  cases blocks with
  | nil => rfl
  | cons b rest =>
    rw [expansionAll, decodeAll, Instruction.traceAll, expansion_eq_trace b,
      expansionAll_eq_traceAll rest]

end

/-- What is done for each block of a body, a repeated body has done for it as often. -/
theorem flatMap_flatten_replicate {α : Type} (f : Block → List α) (times : Nat)
    (body : List Block) :
    (List.replicate times body).flatten.flatMap f =
      (List.replicate times (body.flatMap f)).flatten := by
  rw [List.flatMap_def, List.map_flatten, List.flatten_flatten, List.map_map, List.map_replicate]
  rfl

/-- A stream does what the expansion of its block says. -/
theorem actions_eq_expansion (b : Block) : b.actions movePause = b.expansion movePause := by
  rw [expansion_eq_trace]
  simp [actions, Work.ofBlock, Task.trace, Instruction.traceAll]

/-- The work of a script has the expansions of its blocks for its trace. -/
theorem trace_ofScript_eq_expansion (script : Script) :
    (Work.ofScript script).trace movePause = script.flatMap (expansion movePause) := by
  have expanded : actions movePause = expansion movePause := funext actions_eq_expansion
  rw [Work.trace_ofScript, expanded]

end Block

/-! ## Performances along actions -/

namespace Performance

/-- Performs actions from a time on, one after the other. `host n` is what the host does to the cast
at the `n`-th pause. -/
def along (who : SpriteId) (host : Nat → Cast → Cast) (pauses clock : Nat) (cast : Cast) :
    List Action → Performance
  | [] => { cast, clock, log := [] }
  | action :: rest =>
    let after := match action.pause? with
      | some duration => along who host (pauses + 1) (clock + duration) (host pauses cast) rest
      | none => along who host pauses clock (action.perform who cast) rest
    { after with log := action.events who clock cast ++ after.log }

variable {movePause : Nat} {who : SpriteId} {host : Nat → Cast → Cast}

/-- Work is performed along its trace. -/
theorem ofWork_eq_along (pauses clock : Nat) (cast : Cast) (work : Work) :
    ofWork movePause who host pauses clock cast work =
      along who host pauses clock cast (work.trace movePause) := by
  fun_induction ofWork movePause who host pauses clock cast work with
  | case1 pauses clock cast work nothing =>
    rw [Work.next?_eq_none_iff.1 nothing]
    rfl
  | case2 pauses clock cast work action rest first shorter told after later now =>
    rw [Work.trace_of_next? first, along]
    cases action with
    | pause duration => simp only [after, told, Action.pause?, later duration]
    | announce kind | warn name | change effect => simp only [after, told, Action.pause?, now]

/-- A script is performed along the expansions of its blocks. -/
theorem ofScript_eq_along (cast : Cast) (script : Script) :
    ofScript movePause who host cast script =
      along who host 0 0 cast (script.flatMap (Block.expansion movePause)) := by
  rw [ofScript, ofWork_eq_along, Block.trace_ofScript_eq_expansion]

end Performance

/-! ## Emissions -/

/-- What comes out of a performance for whoever does not see the stage. -/
inductive Emission where
  /-- It is told that a sprite performs a block. -/
  | tells (id : SpriteId) (kind : Kind)
  /-- It is warned of a block of unknown kind. -/
  | warns (name : String)
  /-- There is a pause of a number of milliseconds. -/
  | pauses (duration : Nat)
deriving DecidableEq, Repr

/-- What an event emits, if it is one of a performance. -/
def Event.emission? : Event → Option Emission
  | .performing id kind => some (.tells id kind)
  | .unknownKind name => some (.warns name)
  | .paused duration _ _ => some (.pauses duration)
  | _ => none

/-- What an action of a sprite emits. Changes emit nothing. -/
def Action.emission? (who : SpriteId) : Action → Option Emission
  | .announce kind => some (.tells who kind)
  | .warn name => some (.warns name)
  | .change _ => none
  | .pause duration => some (.pauses duration)

/-- An action is told of by what it emits, whatever the time and the cast are. -/
theorem Action.map_emission?_events (who : SpriteId) (clock : Nat) (cast : Cast)
    (action : Action) :
    (action.events who clock cast).map Event.emission? =
      (action.emission? who).toList.map some := by
  cases action <;> rfl

namespace Performance

/-- Along actions, what they emit is emitted, and nothing else. -/
theorem map_emission?_along (who : SpriteId) (host : Nat → Cast → Cast) (pauses clock : Nat)
    (cast : Cast) (actions : List Action) :
    (along who host pauses clock cast actions).log.map Event.emission? =
      (actions.filterMap (Action.emission? who)).map some := by
  induction actions generalizing pauses clock cast with
  | nil => rfl
  | cons action rest ih =>
    have first := action.map_emission?_events who clock cast
    have emitted : (action :: rest).filterMap (Action.emission? who) =
        (action.emission? who).toList ++ rest.filterMap (Action.emission? who) := by
      rw [List.filterMap_cons]
      cases action <;> rfl
    rw [along, List.map_append, first, emitted, List.map_append]
    refine congrArg (_ ++ ·) ?_
    cases action with
    | pause duration => exact ih (pauses + 1) (clock + duration) (host pauses cast)
    | announce kind | warn name | change effect => exact ih pauses clock _

/-- What a script emits is a matter of its blocks: any two performances of it emit the same, each
goes along the expansions of the blocks, and what it emits is what these emit. -/
theorem emits_expansion (movePause : Nat) (who : SpriteId) (script : Script) :
    (∀ host host' cast cast',
      (ofScript movePause who host cast script).log.map Event.emission? =
        (ofScript movePause who host' cast' script).log.map Event.emission?) ∧
    ∀ host cast,
      ofScript movePause who host cast script =
        along who host 0 0 cast (script.flatMap (Block.expansion movePause)) ∧
      (ofScript movePause who host cast script).log.map Event.emission? =
        ((script.flatMap (Block.expansion movePause)).filterMap (Action.emission? who)).map
          some := by
  have emitted : ∀ host cast,
      (ofScript movePause who host cast script).log.map Event.emission? =
        ((script.flatMap (Block.expansion movePause)).filterMap (Action.emission? who)).map
          some := by
    intro host cast
    rw [ofScript_eq_along, map_emission?_along]
  refine ⟨fun host host' cast cast' => ?_, fun host cast => ⟨?_, emitted host cast⟩⟩
  · rw [emitted host cast, emitted host' cast']
  · exact ofScript_eq_along cast script

/-- A cat that leaves the stage at its first pause is told of to the end: it moves and speaks twice,
repeats a turn a negative number of times, speaks for a negative number of seconds, which is no
time, and comes upon a block of unknown kind, whose children are left alone. -/
theorem emits_expansion_nested :
    let script : Script := [
      .loop 2 [.move 1, .loop (-1) [.turn 1], .say "hi" (-5)], ⟨.unknown "jump", [], [.move 1]⟩]
    let cat : Sprite := .create (.ofNat 0) .cat ⟨50, 50⟩
    let leaves (n : Nat) (cast : Cast) : Cast := if n = 0 then cast.erase cat.id else cast
    (ofScript 500 cat.id leaves ⟨[cat]⟩ script).log.map Event.emission? =
      [.tells cat.id .loop,
        .tells cat.id .move, .pauses 500, .tells cat.id .loop, .tells cat.id .say, .pauses 0,
        .tells cat.id .move, .pauses 500, .tells cat.id .loop, .tells cat.id .say, .pauses 0,
        .tells cat.id (.unknown "jump"), .warns "jump"].map some := by
  intro script cat leaves
  rw [((emits_expansion 500 cat.id script).2 leaves ⟨[cat]⟩).2]
  decide +kernel

end Performance

end Troupe
