import Troupe.Performance.Solo

/-!
# What actions do to the cast

Only changes do anything to a sprite, and they keep its identity, its avatar and its name. On a
stage where identities are distinct, an action changes the sprite that it is done by and no other
one. The main statement, `Performance.cast_ofScript_alone`, says what a script makes of a sprite
that is alone on the stage: all actions of its blocks, one after the other.
-/

namespace Troupe

/-! ## One sprite -/

/-- What a sprite keeps, whatever it does. -/
def Sprite.role (s : Sprite) : SpriteId × Avatar × String := (s.id, s.avatar, s.name)

/-- The sprite after an action of its own. -/
def Action.apply : Action → Sprite → Sprite
  | .change effect, s => effect.apply s
  | _, s => s

/-- An action keeps the identity, the avatar and the name of its sprite. -/
@[simp] theorem Action.role_apply (action : Action) (s : Sprite) :
    (action.apply s).role = s.role := by
  cases action with
  | change effect =>
    cases effect with
    | turn angle => rw [apply, Effect.apply, Sprite.turn_eq, Sprite.role, Sprite.role]
    | turnLeft angle => rw [apply, Effect.apply, Sprite.turnLeft_eq, Sprite.role, Sprite.role]
    | shift _ | place _ | say _ | hush | think _ | unthink => rfl
  | announce kind | warn name | pause duration => rfl

/-- The sprite after actions of its own, one after the other. -/
def Sprite.after (s : Sprite) (actions : List Action) : Sprite :=
  actions.foldl (fun s action => action.apply s) s

/-- Actions of a sprite, one after the other, each with the sprite after it. -/
def Sprite.course (s : Sprite) : List Action → List (Action × Sprite)
  | [] => []
  | action :: rest => (action, action.apply s) :: course (action.apply s) rest

namespace Sprite

variable {s : Sprite} {action : Action} {actions later : List Action}

/-- The first action is done before the others. -/
@[simp] theorem after_cons : s.after (action :: actions) = (action.apply s).after actions := rfl

/-- Doing actions and then others is doing them all. -/
theorem after_append : s.after (actions ++ later) = (s.after actions).after later :=
  List.foldl_append ..

/-- Actions keep the identity, the avatar and the name of their sprite. -/
@[simp] theorem role_after (s : Sprite) (actions : List Action) :
    (s.after actions).role = s.role := by
  induction actions generalizing s with
  | nil => rfl
  | cons action rest ih => rw [after_cons, ih, Action.role_apply]

end Sprite

/-! ## The cast -/

/-- Among distinct identities, a change for one of them reaches the sprite at its place. -/
theorem Cast.modifyIn_eq_set {sprites : List Sprite} {i : Nat} {s : Sprite}
    (change : Sprite → Sprite) (distinct : (sprites.map (·.id)).Nodup)
    (here : sprites[i]? = some s) :
    modifyIn s.id change sprites = sprites.set i (change s) := by
  induction sprites generalizing i with
  | nil => exact nomatch here
  | cons t rest ih =>
    obtain ⟨fresh, later⟩ := List.nodup_cons.1 distinct
    cases i with
    | zero =>
      obtain rfl : t = s := by simpa using here
      simp [modifyIn]
    | succ i =>
      have there : rest[i]? = some s := here
      have apart : t.id ≠ s.id := by
        intro same
        exact fresh (List.mem_map.2 ⟨s, List.mem_of_getElem? there, same.symm⟩)
      simp only [modifyIn, if_neg apart, ih later there, List.set_cons_succ]

/-- An action changes the sprite it is done by and no other one. -/
theorem Action.sprites_perform {cast : Cast} {i : Nat} {s : Sprite} (action : Action)
    (distinct : cast.ids.Nodup) (here : cast.sprites[i]? = some s) :
    (action.perform s.id cast).sprites = cast.sprites.set i (action.apply s) := by
  obtain ⟨within, rfl⟩ := List.getElem?_eq_some_iff.1 here
  cases action with
  | change effect => exact Cast.modifyIn_eq_set effect.apply distinct here
  | announce kind | warn name | pause duration => exact (List.set_getElem_self within).symm

/-! ## Solo performances -/

/-- All actions of a block, in order. -/
def Block.actions (movePause : Nat) (b : Block) : List Action := (Work.ofBlock b).trace movePause

/-- The trace of a script is made of the actions of its blocks. -/
theorem Work.trace_ofScript (movePause : Nat) (script : Script) :
    (ofScript script).trace movePause = script.flatMap (Block.actions movePause) := by
  suffices all : Instruction.traceAll movePause (script.map Block.decode) =
      script.flatMap (Block.actions movePause) by simpa [ofScript, Task.trace] using all
  induction script with
  | nil => rfl
  | cons b rest ih =>
    simp [Instruction.traceAll, ih, Block.actions, ofBlock, Task.trace]

namespace Performance

variable {movePause : Nat} {who : SpriteId}

/-- When the host does nothing, work comes to its actions, one after the other. -/
theorem cast_ofWork (pauses clock : Nat) (cast : Cast) (work : Work) :
    (ofWork movePause who (fun _ cast => cast) pauses clock cast work).cast =
      (work.trace movePause).foldl (Action.perform who) cast := by
  fun_induction ofWork movePause who (fun _ cast => cast) pauses clock cast work with
  | case1 pauses clock cast work nothing =>
    rw [Work.next?_eq_none_iff.1 nothing]
    rfl
  | case2 pauses clock cast work action rest first shorter told after later now =>
    rw [Work.trace_of_next? first, List.foldl_cons]
    cases action with
    | pause duration => exact later duration
    | announce kind | warn name | change effect => exact now

/-- Actions of a sprite that is alone on the stage. -/
theorem foldl_perform_alone (s : Sprite) (actions : List Action) :
    actions.foldl (Action.perform s.id) ⟨[s]⟩ = ⟨[s.after actions]⟩ := by
  induction actions generalizing s with
  | nil => rfl
  | cons action rest ih =>
    have first : action.perform s.id ⟨[s]⟩ = ⟨[action.apply s]⟩ :=
      congrArg Cast.mk (@Action.sprites_perform ⟨[s]⟩ 0 s action (by simp [Cast.ids]) rfl)
    have same : (action.apply s).id = s.id := congrArg Prod.fst (action.role_apply s)
    rw [List.foldl_cons, first, Sprite.after_cons, ← ih, same]

/-- What a script makes of a sprite that is alone on the stage. -/
theorem cast_ofScript_alone (s : Sprite) (script : Script) :
    (ofScript movePause s.id (fun _ cast => cast) ⟨[s]⟩ script).cast =
      ⟨[s.after (script.flatMap (Block.actions movePause))]⟩ := by
  rw [ofScript, cast_ofWork, Work.trace_ofScript, foldl_perform_alone]

end Performance

end Troupe
