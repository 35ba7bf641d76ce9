import Troupe.Proofs.Performance.Emission

/-!
# Bubbles during a block

A block that shows a bubble does four things: it is told of, shows the bubble, pauses and hides the
bubble. What a block does altogether is what the blocks do that it comes to (`Block.visits`), one
after the other, so from the actions that are done it can be read what a bubble shows. The main
statement, `Block.shownBy_eq_some_iff`, says that a bubble is shown, with a text, exactly in the
midst of a block that shows it with that text, however deep that block is.
-/

namespace Troupe

/-! ## The two bubbles -/

/-- The bubbles of a sprite. -/
inductive BubbleKind where
  /-- The one for what it says. -/
  | speech
  /-- The one for what it thinks. -/
  | thought
deriving DecidableEq, Repr

namespace BubbleKind

/-- The bubble of a sprite. -/
def bubble : BubbleKind → Sprite → Bubble
  | .speech, s => s.speech
  | .thought, s => s.thought

/-- The kind of the blocks that show the bubble. -/
def blocks : BubbleKind → Kind
  | .speech => .say
  | .thought => .think

/-- The change that shows the bubble. -/
def shows (text : String) : BubbleKind → Effect
  | .speech => .say text
  | .thought => .think text

/-- The change that hides the bubble. -/
def hides : BubbleKind → Effect
  | .speech => .hush
  | .thought => .unthink

/-- The text that the bubble of a sprite shows, if it is shown. -/
def shown? (kind : BubbleKind) (s : Sprite) : Option String :=
  if (kind.bubble s).visible then some (kind.bubble s).text else none

/-- What the bubble shows after an action, by what it showed before. -/
def shownAfter : BubbleKind → Option String → Action → Option String
  | .speech, _, .change (.say text) | .thought, _, .change (.think text) => some text
  | .speech, _, .change .hush | .thought, _, .change .unthink => none
  | _, shown, _ => shown

/-- What the bubble shows after actions, when it was hidden before them. -/
def shownBy (kind : BubbleKind) (actions : List Action) : Option String :=
  actions.foldl kind.shownAfter none

variable {kind : BubbleKind} {s : Sprite} {text : String}

/-- A bubble shows a text when it is visible and the text is its own. -/
theorem shown?_eq_some_iff :
    kind.shown? s = some text ↔ (kind.bubble s).visible = true ∧ (kind.bubble s).text = text := by
  cases visible : (kind.bubble s).visible <;> simp [shown?, visible]

/-- A bubble shows nothing when it is not visible. -/
theorem shown?_eq_none_iff : kind.shown? s = none ↔ (kind.bubble s).visible = false := by
  cases visible : (kind.bubble s).visible <;> simp [shown?, visible]

/-- An action does to the bubble what is told of it. -/
theorem shown?_apply (action : Action) :
    kind.shown? (action.apply s) = kind.shownAfter (kind.shown? s) action := by
  cases action with
  | change effect =>
    cases effect with
    | turn angle =>
      rw [Action.apply, Effect.apply, Sprite.turn_eq]
      cases kind <;> rfl
    | turnLeft angle =>
      rw [Action.apply, Effect.apply, Sprite.turnLeft_eq]
      cases kind <;> rfl
    | shift _ | place _ | say _ | hush | think _ | unthink => cases kind <;> rfl
  | announce kind' | warn name | pause duration => cases kind <;> rfl

/-- Further actions go on with what the bubble shows. -/
theorem shownBy_append (actions later : List Action) :
    kind.shownBy (actions ++ later) = later.foldl kind.shownAfter (kind.shownBy actions) :=
  List.foldl_append ..

/-- One further action goes on with what the bubble shows. -/
theorem shownBy_concat (actions : List Action) (action : Action) :
    kind.shownBy (actions ++ [action]) = kind.shownAfter (kind.shownBy actions) action :=
  shownBy_append ..

/-- Actions that leave a hidden bubble hidden do so one after the other. -/
theorem shownBy_eq_none {actions : List Action}
    (still : ∀ action ∈ actions, kind.shownAfter none action = none) :
    kind.shownBy actions = none := by
  induction actions with
  | nil => rfl
  | cons action rest ih =>
    obtain ⟨first, others⟩ := List.forall_mem_cons.1 still
    rw [shownBy, List.foldl_cons, first]
    exact ih others

end BubbleKind

/-! ## The blocks that a block comes to -/

namespace Block

/-- The text that a block shows. -/
def text (b : Block) : String := Literal.textAt b.params 0 ""

/-- The seconds for which a block shows its text. -/
def seconds (b : Block) : Nat := count (Literal.integerAt b.params 1 defaultSeconds)

mutual

/-- The blocks that performing a block comes to, in the order in which they are begun: the block
itself and, if it repeats others, these, each time. -/
def visits : Block → List Block
  | ⟨kind, params, children⟩ =>
    ⟨kind, params, children⟩ ::
      if kind.nests then
        (List.replicate (count (Literal.integerAt params 0 0)) (visitsAll children)).flatten
      else []

/-- The blocks that performing a list of blocks comes to, in the order in which they are begun. -/
def visitsAll : List Block → List Block
  | [] => []
  | b :: rest => visits b ++ visitsAll rest

end

/-- What a block does itself, without the blocks inside it. -/
def own (movePause : Nat) (b : Block) : List Action :=
  if b.kind.nests then [.announce b.kind] else b.actions movePause

variable {movePause : Nat} {kind : BubbleKind}

mutual

/-- A block does what the blocks do that it comes to, one after the other. -/
theorem flatMap_own_visits (b : Block) :
    b.visits.flatMap (own movePause) = b.actions movePause := by
  obtain ⟨kind, params, children⟩ := b
  rw [visits, List.flatMap_cons, own]
  by_cases nests : kind.nests = true
  · obtain rfl : kind = .loop := by simpa [Kind.nests] using nests
    have inside := flatMap_own_visitsAll children
    rw [if_pos nests, if_pos nests, flatMap_flatten_replicate, inside, actions_eq_expansion,
      expansion]
    rfl
  · rw [if_neg nests, if_neg nests, List.flatMap_nil, List.append_nil]

/-- A list of blocks does what the blocks do that it comes to, one after the other. -/
theorem flatMap_own_visitsAll (blocks : List Block) :
    (visitsAll blocks).flatMap (own movePause) = expansionAll movePause blocks := by
  cases blocks with
  | nil => rfl
  | cons b rest =>
    rw [visitsAll, List.flatMap_append, flatMap_own_visits b, flatMap_own_visitsAll rest,
      expansionAll, actions_eq_expansion]

end

/-! ## In the midst of a block -/

/-- What a block does that shows a bubble. -/
theorem own_of_kind_eq {b : Block} (shows : b.kind = kind.blocks) :
    b.own movePause =
      [.announce kind.blocks, .change (kind.shows b.text), .pause (1000 * b.seconds),
        .change kind.hides] := by
  obtain ⟨own, params, children⟩ := b
  obtain rfl : own = kind.blocks := shows
  cases kind <;> rfl

/-- What a block does itself leaves a bubble hidden that it is not for. -/
theorem shownAfter_of_mem_own {b : Block} (other : b.kind ≠ kind.blocks) :
    ∀ action ∈ b.own movePause, kind.shownAfter none action = none := by
  obtain ⟨own, params, children⟩ := b
  rw [Block.own, actions_eq_expansion]
  cases own <;> cases kind <;>
    simp_all [Kind.nests, expansion, BubbleKind.blocks, BubbleKind.shownAfter]

/-- Once a block has done some of its own actions, a bubble shows its text if it is a block for the
bubble and is in between showing and hiding it; otherwise the bubble is hidden. -/
theorem shownBy_take_own (b : Block) (n : Nat) :
    kind.shownBy ((b.own movePause).take n) =
      if b.kind = kind.blocks ∧ (n = 2 ∨ n = 3) then some b.text else none := by
  by_cases shows : b.kind = kind.blocks
  · rw [own_of_kind_eq shows]
    rcases n with _ | _ | _ | _ | n <;> cases kind <;>
      simp [shows, BubbleKind.shownBy, BubbleKind.shownAfter, BubbleKind.shows, BubbleKind.hides]
  · rw [if_neg fun both => shows both.1]
    exact BubbleKind.shownBy_eq_none fun action member =>
      shownAfter_of_mem_own shows action (List.mem_of_mem_take member)

/-- A block that has done all that it does itself leaves the bubbles hidden. -/
theorem shownBy_own (b : Block) : kind.shownBy (b.own movePause) = none := by
  have short : (b.own movePause).length ≤ (b.own movePause).length + 4 := Nat.le_add_right ..
  rw [← List.take_of_length_le short, shownBy_take_own, if_neg]
  rintro ⟨-, two | three⟩ <;> omega

/-- Blocks that are done leave the bubbles as if they had not been. -/
theorem shownBy_flatMap_own_append (before : List Block) (actions : List Action) :
    kind.shownBy (before.flatMap (own movePause) ++ actions) = kind.shownBy actions := by
  induction before with
  | nil => rfl
  | cons b rest ih =>
    rw [List.flatMap_cons, List.append_assoc, BubbleKind.shownBy_append, shownBy_own]
    exact ih

/-- All that a block does leaves the bubbles hidden. -/
theorem shownBy_actions (b : Block) : kind.shownBy (b.actions movePause) = none := by
  rw [← flatMap_own_visits, ← List.append_nil (List.flatMap _ _), shownBy_flatMap_own_append]
  rfl

/-- What blocks do, cut in two: either between two blocks, or after some actions of one of them. -/
theorem of_append_eq_flatMap_own {blocks : List Block} {done left : List Action}
    (whole : done ++ left = blocks.flatMap (own movePause)) :
    (∃ before : List Block, done = before.flatMap (own movePause)) ∨
      ∃ before b after n, blocks = before ++ b :: after ∧
        done = before.flatMap (own movePause) ++ (b.own movePause).take n ∧
        left = (b.own movePause).drop n ++ after.flatMap (own movePause) := by
  induction blocks generalizing done with
  | nil => exact .inl ⟨[], (List.append_eq_nil_iff.1 whole).1⟩
  | cons b rest ih =>
    rw [List.flatMap_cons] at whole
    rcases List.append_eq_append_iff.1 whole with ⟨more, own, rfl⟩ | ⟨more, rfl, others⟩
    · refine .inr ⟨[], b, rest, done.length, rfl, ?_, ?_⟩
      · rw [own, List.take_left]
        rfl
      · rw [own, List.drop_left]
    · rcases ih others.symm with ⟨before, rfl⟩ | ⟨before, inner, after, n, rfl, rfl, rfl⟩
      · exact .inl ⟨b :: before, rfl⟩
      · exact .inr ⟨b :: before, inner, after, n, rfl,
          (List.append_assoc ..).symm, rfl⟩

/-- The first `n` own actions of a block are done, which is one of those that another one comes to,
and this is what is left. -/
def IsCutAt (movePause : Nat) (whole b : Block) (n : Nat) (left : List Action) : Prop :=
  ∃ before after, whole.visits = before ++ b :: after ∧
    left = (b.own movePause).drop n ++ after.flatMap (own movePause)

/-- What is done before a block is in the midst of another one. -/
theorem IsCutAt.exists_done {whole b : Block} {n : Nat} {done left : List Action}
    (cut : IsCutAt movePause whole b n left) (all : done ++ left = whole.actions movePause) :
    ∃ before : List Block, done = before.flatMap (own movePause) ++ (b.own movePause).take n := by
  obtain ⟨before, after, parts, rfl⟩ := cut
  refine ⟨before, List.append_cancel_right (all.trans ?_)⟩
  rw [← flatMap_own_visits, parts, List.flatMap_append, List.flatMap_cons, List.append_assoc,
    ← List.append_assoc (List.take n _), List.take_append_drop]

/-- In the course of a block, a bubble shows a text exactly in between showing and hiding it in a
block that shows that text. -/
theorem shownBy_eq_some_iff {whole : Block} {done left : List Action} {text : String}
    (all : done ++ left = whole.actions movePause) :
    kind.shownBy done = some text ↔
      ∃ b n, b.kind = kind.blocks ∧ b.text = text ∧ (n = 2 ∨ n = 3) ∧
        IsCutAt movePause whole b n left := by
  constructor
  · intro shown
    rw [← flatMap_own_visits] at all
    rcases of_append_eq_flatMap_own all with ⟨before, rfl⟩ | ⟨before, b, after, n, parts, rfl, rest⟩
    · rw [← List.append_nil (List.flatMap _ _), shownBy_flatMap_own_append] at shown
      exact nomatch shown
    · rw [shownBy_flatMap_own_append, shownBy_take_own] at shown
      by_cases inside : b.kind = kind.blocks ∧ (n = 2 ∨ n = 3)
      · rw [if_pos inside] at shown
        exact ⟨b, n, inside.1, Option.some.inj shown, inside.2, before, after, parts, rest⟩
      · rw [if_neg inside] at shown
        exact nomatch shown
  · rintro ⟨b, n, shows, rfl, inside, cut⟩
    obtain ⟨before, rfl⟩ := cut.exists_done all
    rw [shownBy_flatMap_own_append, shownBy_take_own, if_pos ⟨shows, inside⟩]

end Block

end Troupe
