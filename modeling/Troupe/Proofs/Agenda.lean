import Troupe.Agenda

/-!
# Sound agendas

An agenda is sound when its position, and the block that is being performed, lie within its blocks.
Agendas of scripts are sound, and beginning, completing and exchanging keep them so. In a sound
agenda every block is in exactly one part: it is completed, being performed, or remaining
(`Sound.blocks_eq`). An exchange replaces the last part and no other. Whatever is done with agendas
that come from scripts, they are sound (`FromScript.sound`).
-/

namespace Troupe.Agenda

variable {a b : Agenda} {block : Block}

/-- The completed blocks and the one being performed lie within the blocks. -/
def Sound (a : Agenda) : Prop := a.position + a.isBusy.toNat ≤ a.blocks.length

/-- An agenda made of a script is sound. -/
theorem sound_ofScript (sprite : SpriteId) (script : Script) : (ofScript sprite script).Sound :=
  Nat.zero_le _

/-! ## The parts of a sound agenda -/

/-- The limit in the split point never applies. -/
theorem Sound.splitPoint_eq (sound : a.Sound) : a.splitPoint = a.position + a.isBusy.toNat :=
  Nat.min_eq_left sound

/-- There are not more completed blocks than blocks. -/
theorem Sound.position_le (sound : a.Sound) : a.position ≤ a.blocks.length :=
  Nat.le_trans (Nat.le_add_right _ _) sound

/-- A block that is being performed is there. -/
theorem Sound.position_lt (sound : a.Sound) (busy : a.isBusy = true) :
    a.position < a.blocks.length := by
  have bound : a.position + a.isBusy.toNat ≤ a.blocks.length := sound
  rwa [busy] at bound

/-- A block is current while the agenda is busy. -/
theorem Sound.isSome_current (sound : a.Sound) : a.current.isSome = a.isBusy := by
  simp only [current]
  cases busy : a.isBusy with
  | false => rfl
  | true => simp [upcoming?, sound.position_lt busy]

/-- While a block is being performed, it is the one at the position. -/
theorem upcoming?_eq_current (busy : a.isBusy = true) : a.upcoming? = a.current := by
  simp only [current, busy, ↓reduceIte]

/-- The blocks that are kept are the completed ones and the current one. -/
theorem Sound.kept_eq (sound : a.Sound) : a.kept = a.completed ++ a.current.toList := by
  rw [kept, sound.splitPoint_eq]
  cases busy : a.isBusy with
  | false => simp [completed, current, busy]
  | true =>
    rw [← upcoming?_eq_current busy, Bool.toNat_true, List.take_add_one]
    rfl

/-- Every block is in exactly one of the three parts. -/
theorem Sound.blocks_eq (sound : a.Sound) :
    a.completed ++ a.current.toList ++ a.remaining = a.blocks := by
  rw [← sound.kept_eq, kept_append_remaining]

/-- An agenda is exhausted if nothing is being performed and nothing remains. -/
theorem Sound.isExhausted_iff (sound : a.Sound) :
    a.isExhausted = true ↔ a.isBusy = false ∧ a.remaining = [] := by
  simp only [isExhausted, decide_eq_true_eq, remaining, List.drop_eq_nil_iff, sound.splitPoint_eq]
  cases busy : a.isBusy with
  | false => simp
  | true => simpa using sound.position_lt busy

/-- In an exhausted agenda every block is completed. -/
theorem completed_of_isExhausted (exhausted : a.isExhausted = true) : a.completed = a.blocks :=
  List.take_of_length_le (by simpa [isExhausted] using exhausted)

/-! ## Beginning and completing -/

/-- Where a block is to come, beginning it makes the agenda busy. -/
theorem begin_of_upcoming? (next : a.upcoming? = some block) :
    a.begin = { a with isBusy := true } := by
  simp [begin, next]

/-- A sound agenda is sound once it begins a block. -/
theorem Sound.begin (sound : a.Sound) : a.begin.Sound := by
  simp only [Agenda.begin]
  split
  · rename_i there
    obtain ⟨block, next⟩ := Option.isSome_iff_exists.1 there
    exact (List.getElem?_eq_some_iff.1 next).1
  · exact sound

/-- The block that is begun is the one that was to come. -/
theorem current_begin (next : a.upcoming? = some block) : a.begin.current = some block := by
  rw [begin_of_upcoming? next]
  simpa [current, upcoming?] using next

/-- Beginning takes the next block away from those that remain. -/
theorem Sound.remaining_begin (sound : a.Sound) (idle : a.isBusy = false)
    (next : a.upcoming? = some block) : a.remaining = block :: a.begin.remaining := by
  obtain ⟨within, here⟩ := List.getElem?_eq_some_iff.1 next
  rw [remaining, remaining, sound.splitPoint_eq, sound.begin.splitPoint_eq,
    begin_of_upcoming? next, idle]
  exact (List.drop_eq_getElem_cons within).trans (by rw [here]; rfl)

/-- Beginning a block leaves the completed ones as they are. -/
@[simp] theorem completed_begin : a.begin.completed = a.completed := by
  simp [completed]

/-- A sound agenda is sound once it completes a block. -/
theorem Sound.advance (sound : a.Sound) : a.advance.Sound := by
  have within := sound.position_le
  simp only [Sound, Agenda.advance, Bool.toNat_false]
  split <;> omega

/-- The block that was to come joins the completed ones. -/
theorem completed_advance : a.advance.completed = a.completed ++ a.upcoming?.toList := by
  simp only [completed, advance]
  split
  · rw [List.take_add_one]
    rfl
  · rename_i beyond
    have absent : a.upcoming? = none := List.getElem?_eq_none (Nat.le_of_not_lt beyond)
    rw [absent, Option.toList_none, List.append_nil]

/-- Completing the block that is being performed leaves what remains. -/
theorem Sound.remaining_advance (sound : a.Sound) (busy : a.isBusy = true) :
    a.advance.remaining = a.remaining := by
  have within := sound.position_lt busy
  have after : a.advance.splitPoint = a.splitPoint := by
    rw [sound.splitPoint_eq, sound.advance.splitPoint_eq]
    simp [Agenda.advance, within, busy]
  rw [remaining, after]
  rfl

/-! ## Exchanging -/

/-- The blocks before the split point are where they were. -/
theorem kept_takeRemaining_take (n : Nat) (within : n ≤ a.splitPoint) :
    (a.takeRemaining b).blocks.take n = a.blocks.take n := by
  change (a.kept ++ b.remaining).take n = a.blocks.take n
  rw [List.take_append_of_le_length (by simpa using within), kept, List.take_take,
    Nat.min_eq_left within]

/-- An agenda is split behind its completed blocks. -/
theorem Sound.position_le_splitPoint (sound : a.Sound) : a.position ≤ a.splitPoint := by
  rw [sound.splitPoint_eq]
  exact Nat.le_add_right _ _

/-- A sound agenda is sound once it takes over what remains of another one. -/
theorem Sound.takeRemaining (sound : a.Sound) : (a.takeRemaining b).Sound := by
  simp only [Sound, position_takeRemaining, isBusy_takeRemaining]
  rw [← sound.splitPoint_eq, ← length_kept]
  simp [Agenda.takeRemaining]

/-- An exchange leaves the history alone. -/
theorem Sound.completed_takeRemaining (sound : a.Sound) :
    (a.takeRemaining b).completed = a.completed :=
  kept_takeRemaining_take _ sound.position_le_splitPoint

/-- An exchange leaves the block in performance alone. -/
theorem Sound.current_takeRemaining (sound : a.Sound) :
    (a.takeRemaining b).current = a.current := by
  by_cases busy : a.isBusy = true
  · have inFront : a.position < a.kept.length := by
      rw [length_kept, sound.splitPoint_eq, busy]
      exact Nat.lt_succ_self _
    have same : (a.kept ++ b.remaining)[a.position]? = (a.kept ++ a.remaining)[a.position]? := by
      rw [List.getElem?_append_left inFront, List.getElem?_append_left inFront]
    rw [kept_append_remaining] at same
    rw [← upcoming?_eq_current busy, ← upcoming?_eq_current (a := a.takeRemaining b) busy]
    exact same
  · simp [current, busy]

/-- After an exchange, what remains is what remained to the other agenda. -/
theorem Sound.remaining_takeRemaining (sound : a.Sound) :
    (a.takeRemaining b).remaining = b.remaining := by
  have split : (a.takeRemaining b).splitPoint = a.kept.length := by
    rw [length_kept, sound.splitPoint_eq, sound.takeRemaining.splitPoint_eq]
    rfl
  rw [remaining, split]
  exact List.drop_left ..

/-! ## Agendas that come from scripts -/

/-- Agendas that scripts turn into when blocks are begun, completed and exchanged, in any order. -/
inductive FromScript : Agenda → Prop where
  /-- Nothing was done yet. -/
  | ofScript (sprite : SpriteId) (script : Script) : FromScript (.ofScript sprite script)
  /-- The block at the position is begun. -/
  | begin {a : Agenda} (before : FromScript a) : FromScript a.begin
  /-- The block at the position is completed. -/
  | advance {a : Agenda} (before : FromScript a) : FromScript a.advance
  /-- The remaining blocks are exchanged for those of another agenda. -/
  | takeRemaining {a b : Agenda} (before : FromScript a) (other : FromScript b) :
      FromScript (a.takeRemaining b)

/-- Every agenda that comes from a script is sound. -/
theorem FromScript.sound (made : a.FromScript) : a.Sound := by
  induction made with
  | ofScript sprite script => exact sound_ofScript sprite script
  | begin _ ih => exact ih.begin
  | advance _ ih => exact ih.advance
  | takeRemaining _ _ ih _ => exact ih.takeRemaining

end Troupe.Agenda
