import Troupe.Proofs.Performance
import Troupe.Proofs.Sprite.Document

/-!
# Headings are exact

Only the remainder of a heading by a full turn is kept, and it is taken anew at every step. Nothing
is lost by that: the heading is the remainder of the exact sum of all turns since it was last set.
The main statement, `Sprite.headings_are_exact`, holds for turns by any 64-bit words, from wherever
a sprite comes.
-/

namespace Troupe

open Json

/-! ## Steering -/

/-- A step that changes nothing but a heading. -/
inductive Steering where
  /-- A clockwise turn. -/
  | turn (angle : Int64)
  /-- A counter-clockwise turn. -/
  | turnLeft (angle : Int64)
  /-- A new heading. -/
  | face (angle : Int64)
deriving DecidableEq, Repr

namespace Steering

/-- Whether a step turns a sprite from the heading it has. -/
def isTurn : Steering → Bool
  | .turn _ | .turnLeft _ => true
  | .face _ => false

/-- Steers a sprite. -/
def attempt (s : Sprite) : Steering → Except Fault Sprite
  | .turn angle => s.tryTurn angle
  | .turnLeft angle => s.tryTurnLeft angle
  | .face angle => .ok (s.face angle)

/-- The sprite steered. There is always one, by `Steering.attempt_eq_ok`. -/
def apply (s : Sprite) : Steering → Sprite
  | .turn angle => s.turn angle
  | .turnLeft angle => s.turnLeft angle
  | .face angle => s.face angle

/-- The exact sum after a step. -/
def bearing (sum : Int) : Steering → Int
  | .turn angle => sum + angle.toInt
  | .turnLeft angle => sum - angle.toInt
  | .face angle => angle.toInt

/-- A sprite can be steered by any 64-bit word. -/
theorem attempt_eq_ok (s : Sprite) (step : Steering) : attempt s step = .ok (apply s step) := by
  cases step with
  | turn angle => exact s.tryTurn_eq_ok angle
  | turnLeft angle => exact s.tryTurnLeft_eq_ok angle
  | face angle => rfl

/-- A step takes the exact sum of the heading. -/
theorem apply_eq (s : Sprite) (step : Steering) :
    apply s step = { s with heading := .ofInt (bearing s.heading.toInt step) } := by
  cases step with
  | turn angle => exact s.turn_eq angle
  | turnLeft angle => exact s.turnLeft_eq angle
  | face angle => rfl

/-- Of the sum before a step only the remainder by a full turn matters. -/
theorem bearing_emod (sum : Int) (step : Steering) :
    bearing (sum % 360) step % 360 = bearing sum step % 360 := by
  cases step <;> simp only [bearing] <;> omega

/-- Turns commute. -/
theorem apply_comm {x y : Steering} (first : x.isTurn = true) (second : y.isTurn = true)
    (s : Sprite) : apply (apply s x) y = apply (apply s y) x := by
  have sums (sum : Int) : bearing (bearing sum x % 360) y % 360 =
      bearing (bearing sum y % 360) x % 360 := by
    rw [bearing_emod, bearing_emod]
    cases x with
    | face => cases first
    | turn | turnLeft =>
      cases y with
      | face => cases second
      | turn | turnLeft => simp only [bearing]; omega
  simp only [apply_eq, Heading.toInt_ofInt]
  rw [Heading.ofInt_congr (sums _)]

end Steering

namespace Sprite

/-- The sprite after steps that steer it, one after the other. -/
def steered (s : Sprite) (steps : List Steering) : Sprite := steps.foldl Steering.apply s

variable {s : Sprite} {steps later xs ys : List Steering}

/-- Steering and then steering further is steering all along. -/
theorem steered_append : s.steered (steps ++ later) = (s.steered steps).steered later :=
  List.foldl_append ..

/-- A sprite can be steered by any 64-bit words, one after the other. -/
theorem foldlM_attempt (s : Sprite) (steps : List Steering) :
    steps.foldlM Steering.attempt s = .ok (s.steered steps) := by
  have each : Steering.attempt = fun s step => pure (Steering.apply s step) :=
    funext fun s => funext fun step => Steering.attempt_eq_ok s step
  rw [each, List.foldlM_pure]
  rfl

/-- Steps take the exact sum of the heading, and nothing else. -/
theorem steered_eq (s : Sprite) (steps : List Steering) :
    s.steered steps =
      { s with heading := .ofInt (steps.foldl Steering.bearing s.heading.toInt) } := by
  suffices sums : ∀ sum, (({ s with heading := .ofInt sum } : Sprite).steered steps) =
      { s with heading := .ofInt (steps.foldl Steering.bearing sum) } by
    simpa using sums s.heading.toInt
  induction steps with
  | nil => exact fun sum => rfl
  | cons step rest ih =>
    intro sum
    have first : Steering.apply { s with heading := .ofInt sum } step =
        { s with heading := .ofInt (Steering.bearing sum step) } := by
      rw [Steering.apply_eq]
      simp only [Heading.toInt_ofInt]
      rw [Heading.ofInt_congr (Steering.bearing_emod sum step)]
    rw [steered, List.foldl_cons, first]
    exact ih _

/-- Turns may be taken in any order. -/
theorem steered_perm (order : xs.Perm ys) (turns : ∀ x ∈ xs, x.isTurn = true) (s : Sprite) :
    s.steered xs = s.steered ys :=
  order.foldl_eq' (fun x first y second s =>
    Steering.apply_comm (turns x first) (turns y second) s) s

/-- A turn and the same turn counter-clockwise leave the sprite as it was. -/
theorem turnLeft_turn (s : Sprite) (angle : Int64) : (s.turn angle).turnLeft angle = s := by
  have back : ((s.heading.toInt + angle.toInt) % 360 - angle.toInt) % 360 =
      s.heading.toInt % 360 := by omega
  rw [turnLeft_eq, turn_eq]
  simp only [Heading.toInt_ofInt]
  rw [Heading.ofInt_congr back, Heading.ofInt_toInt]

/-- So do a turn counter-clockwise and the same turn. -/
theorem turn_turnLeft (s : Sprite) (angle : Int64) : (s.turnLeft angle).turn angle = s := by
  have back : ((s.heading.toInt - angle.toInt) % 360 + angle.toInt) % 360 =
      s.heading.toInt % 360 := by omega
  rw [turn_eq, turnLeft_eq]
  simp only [Heading.toInt_ofInt]
  rw [Heading.ofInt_congr back, Heading.ofInt_toInt]

end Sprite

/-! ## Performed turns -/

/-- The step that an action steers by, if it does. -/
def Action.steering? : Action → Option Steering
  | .change (.turn angle) => some (.turn angle)
  | .change (.turnLeft angle) => some (.turnLeft angle)
  | _ => none

/-- An action steers a sprite or keeps its heading. -/
theorem Action.heading_apply (action : Action) (s : Sprite) :
    (action.apply s).heading = (s.steered action.steering?.toList).heading := by
  cases action with
  | change effect => cases effect <;> rfl
  | announce kind | warn name | pause duration => rfl

namespace Sprite

/-- Actions take the exact sum of their turns. -/
theorem heading_after (s : Sprite) (actions : List Action) :
    (s.after actions).heading =
      .ofInt ((actions.filterMap Action.steering?).foldl Steering.bearing s.heading.toInt) := by
  have sums : (s.after actions).heading =
      (s.steered (actions.filterMap Action.steering?)).heading := by
    induction actions generalizing s with
    | nil => rfl
    | cons action rest ih =>
      have split : (action :: rest).filterMap Action.steering? =
          action.steering?.toList ++ rest.filterMap Action.steering? := by
        rw [List.filterMap_cons]
        cases action.steering? <;> rfl
      -- The heading after the rest depends on the sprite in nothing but its heading.
      rw [after_cons, ih, split, steered_append, steered_eq, steered_eq (s.steered _),
        action.heading_apply]
  rw [sums, steered_eq]

/-! ## Headings in documents -/

/-- The heading that is read is the remainder of the number that is written for it. -/
theorem heading_of_read {text : String} (read : readDocument Sprite.read text = .ok s) :
    ∃ (numeral : Numeral) (n : Int64),
      (parse text.toList).tree.written 4 "rotation" = [.number numeral] ∧
      numeral.value? = some (.integer n.toInt) ∧ s.heading.toInt = n.toInt % 360 := by
  obtain ⟨t, spells, written⟩ := readDocument_eq_ok_iff.1 read
  obtain ⟨value, once, n, ⟨numeral, rfl, digits⟩, remainder⟩ := written.heading
  have fits : n.toInt < UInt64.size := Int.lt_of_le_of_lt n.toInt_le (by decide)
  refine ⟨numeral, n, ?_, ?_, remainder⟩
  · rw [parse_eq_iff.2 spells]
    exact once
  · exact Numeral.value_eq_integer_iff.2 ⟨digits, n.minValue_le_toInt, fits⟩

/-- Headings are exact. A new sprite heads for zero, and one that is read from a document for the
remainder of the number that is written there, which may be any 64-bit word. From wherever it
heads, it is steered without a fault by any 64-bit words, one after the other; its heading stays
below a full turn and is the remainder of the exact sum of its turns since its heading was last set.
So turns that follow each other may be taken in any order, and the same turn in both directions
leaves the sprite as it was. The turns that a sprite performs take the exact sum, too. -/
theorem headings_are_exact :
    (∀ id avatar position, (create id avatar position).heading.toInt = 0) ∧
    (∀ room (n : Int64), Heading.read room (.ofInt n.toInt) = .ok (.ofInt n.toInt)) ∧
    (∀ text s, readDocument Sprite.read text = .ok s →
      ∃ (numeral : Numeral) (n : Int64),
        (parse text.toList).tree.written 4 "rotation" = [.number numeral] ∧
        numeral.value? = some (.integer n.toInt) ∧ s.heading.toInt = n.toInt % 360) ∧
    (∀ (s : Sprite) (steps : List Steering),
      steps.foldlM Steering.attempt s = .ok (s.steered steps) ∧
      0 ≤ (s.steered steps).heading.toInt ∧ (s.steered steps).heading.toInt < 360 ∧
      (s.steered steps).heading.toInt = steps.foldl Steering.bearing s.heading.toInt % 360) ∧
    (∀ (s : Sprite) (before xs ys after : List Steering), xs.Perm ys →
      (∀ x ∈ xs, x.isTurn = true) →
        s.steered (before ++ xs ++ after) = s.steered (before ++ ys ++ after)) ∧
    (∀ (s : Sprite) (angle : Int64),
      (s.turn angle).turnLeft angle = s ∧ (s.turnLeft angle).turn angle = s) ∧
    ∀ (s : Sprite) (actions : List Action),
      (s.after actions).heading.toInt =
        (actions.filterMap Action.steering?).foldl Steering.bearing s.heading.toInt % 360 := by
  refine ⟨fun id avatar position => rfl, fun room n => ?_, fun text s read => heading_of_read read,
    fun s steps => ⟨foldlM_attempt s steps, Heading.toInt_nonneg _, Heading.toInt_lt _, ?_⟩,
    fun s before xs ys after order turns => ?_,
    fun s angle => ⟨turnLeft_turn s angle, turn_turnLeft s angle⟩, fun s actions => ?_⟩
  · rw [Heading.read, readSigned_ofInt]
    rfl
  · rw [steered_eq]
    exact Heading.toInt_ofInt _
  · rw [steered_append, steered_append, steered_perm order turns, steered_append, steered_append]
  · rw [heading_after]
    exact Heading.toInt_ofInt _

/-- A sprite that is spelled as an array heads for the remainder of the least 64-bit word. It is
steered by the least and the greatest ones, in two orders. -/
theorem headings_are_exact_least :
    let text := "[\"00000000-0000-0000-0000-000000000001\",\"cat\",\"Tom\",[1,2]," ++
      "-9223372036854775808,[\"\",false],[\"\",false]]"
    let least := Int64.minValue
    let greatest := Int64.maxValue
    let xs := [Steering.turnLeft least, .turn greatest, .turn least]
    let ys := [Steering.turn least, .turnLeft least, .turn greatest]
    ∃ s, readDocument Sprite.read text = .ok s ∧
      (∃ (numeral : Numeral) (n : Int64),
        (parse text.toList).tree.written 4 "rotation" = [.number numeral] ∧
        numeral.value? = some (.integer n.toInt) ∧ s.heading.toInt = n.toInt % 360) ∧
      s.heading.toInt = 352 ∧ (s.steered xs).heading.toInt = 359 ∧
      s.steered ([.face 5] ++ xs ++ []) = s.steered ([.face 5] ++ ys ++ []) := by
  intro text least greatest xs ys
  obtain ⟨-, -, documents, sums, orders, -⟩ := headings_are_exact
  have accepted : (readDocument Sprite.read text).toOption.map (·.heading.toInt) = some 352 := by
    decide +kernel
  obtain ⟨s, found, start⟩ := Option.map_eq_some_iff.1 accepted
  have read : readDocument Sprite.read text = .ok s := eq_ok_of_toOption found
  have turns : ∀ x ∈ xs, x.isTurn = true := by decide
  have order : xs.Perm ys := by decide
  refine ⟨s, read, documents text s read, start, ?_, orders s [.face 5] xs ys [] order turns⟩
  rw [(sums s xs).2.2.2, start]
  decide

end Sprite

end Troupe
