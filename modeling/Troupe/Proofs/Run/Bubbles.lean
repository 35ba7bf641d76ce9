import Troupe.Proofs.Cast
import Troupe.Proofs.Performance.Bubbles
import Troupe.Proofs.Run.Bystanders
import Troupe.Proofs.Run.Record

/-!
# Bubbles during a run

While a stream performs a block, what it has done for it and what is left make up the block
(`Stream.Whole`). So the bubbles of its sprite show what these actions made them show
(`Scene.Voiced`), whatever the other streams do meanwhile, as they have sprites of their own: a
bubble is shown while the stream is inside a block that shows it (`Stream.Inside`). The stream gets
inside with the step in which it shows the bubble and leaves with the step in which it hides it, and
does nothing in between but pause.
-/

namespace Troupe

variable {movePause k n : Nat} {s t : Stream} {kind : BubbleKind} {b : Block}

/-! ## One stream -/

namespace Stream

/-- The actions that a stream has done for the block that it performs. -/
def done (movePause : Nat) (s : Stream) : List Action :=
  match s.performing with
  | some p =>
    (p.block.actions movePause).take
      ((p.block.actions movePause).length - (p.work.trace movePause).length)
  | none => []

/-- What a stream has done for its block and what is left make up the block. -/
def Whole (movePause : Nat) (s : Stream) : Prop :=
  ∀ p, s.performing = some p →
    s.done movePause ++ p.work.trace movePause = p.block.actions movePause

/-- A stream has done the first `n` own actions of a block: the one that it performs, or one of
those that this one comes to. -/
def IsAt (movePause : Nat) (s : Stream) (b : Block) (n : Nat) : Prop :=
  ∃ p, s.performing = some p ∧ Block.IsCutAt movePause p.block b n (p.work.trace movePause)

/-- A stream is inside a block that shows a bubble: it has told of the block and shown the bubble,
which it does in one go, and has yet to hide it. -/
def Inside (movePause : Nat) (s : Stream) (kind : BubbleKind) (b : Block) : Prop :=
  b.kind = kind.blocks ∧ (s.IsAt movePause b 2 ∨ s.IsAt movePause b 3)

/-- Inside a block, two or three of its own actions are done. -/
theorem inside_iff : s.Inside movePause kind b ↔
    b.kind = kind.blocks ∧ ∃ n, (n = 2 ∨ n = 3) ∧ s.IsAt movePause b n := by
  simp [Inside]

/-- A stream that is in the midst of a block performs one. -/
theorem IsAt.isBusy (cut : s.IsAt movePause b n) : s.performing.isSome = true := by
  obtain ⟨p, performed, -⟩ := cut
  rw [performed, Option.isSome_some]

/-- A stream that performs no block has done nothing of one. -/
theorem done_of_idle (idle : s.performing = none) : s.done movePause = [] := by
  rw [done, idle]

/-- What is done is what comes before the rest of the block. -/
theorem done_eq {p : Performing} {actions : List Action} (performed : s.performing = some p)
    (whole : actions ++ p.work.trace movePause = p.block.actions movePause) :
    s.done movePause = actions := by
  rw [done, performed]
  dsimp only
  rw [← whole, List.length_append, Nat.add_sub_cancel, List.take_left]

/-- When a block is begun, nothing is done for it yet. -/
theorem done_begin (b : Block) : (s.begin b).done movePause = [] :=
  done_eq rfl (List.nil_append _)

/-- A stream that goes on performs the same block, with other work left. -/
theorem performing_continueWith {p : Performing} {rest : Work} (performed : s.performing = some p) :
    (s.continueWith rest).performing = some { p with work := rest } := by
  simp [continueWith, performed]

/-- An action that is done is one of those that are done for the block. -/
theorem Whole.done_continueWith {action : Action} {rest : Work} (whole : s.Whole movePause)
    (next : s.deed movePause = .acts action rest) :
    (s.continueWith rest).done movePause = s.done movePause ++ [action] := by
  obtain ⟨p, performed, first⟩ := deed_eq_acts_iff.1 next
  refine done_eq (performing_continueWith performed) ?_
  rw [List.append_assoc, List.singleton_append, ← Work.trace_of_next? first, whole p performed]

/-- When a stream completes its block, all of it is done. -/
theorem Whole.done_of_completes (whole : s.Whole movePause)
    (next : s.deed movePause = .completes b) : s.done movePause = b.actions movePause := by
  obtain ⟨p, performed, nothing, rfl⟩ := deed_eq_completes_iff.1 next
  have all := whole p performed
  rwa [Work.next?_eq_none_iff.1 nothing, List.append_nil] at all

namespace Whole

/-- A stream that performs no block has nothing to make up. -/
theorem of_idle (idle : s.performing = none) : s.Whole movePause := by
  intro p performed
  simp [idle] at performed

/-- What a stream does next for its block leaves the block whole. -/
theorem of_becomes {now : Scene} {beat : Option Beat} (whole : s.Whole now.run.movePause)
    (becomes : Scene.Becomes now k s beat t) : t.Whole now.run.movePause := by
  cases becomes with
  | stays | met => exact whole
  | @begins b going next =>
    intro p performed
    obtain rfl : { block := b, work := .ofBlock b } = p := Option.some.inj performed
    rw [done_begin]
    rfl
  | @acts action rest going next =>
    intro p' performed'
    obtain ⟨p, performed, first⟩ := deed_eq_acts_iff.1 next
    obtain rfl : { p with work := rest } = p' := by
      simpa [performing_continueWith performed] using performed'
    rw [whole.done_continueWith next, List.append_assoc, List.singleton_append,
      ← Work.trace_of_next? first]
    exact whole p performed
  | completes | exchanges => exact of_idle rfl
  | ends going next =>
    have idle : s.finish.performing = none := (deed_eq_ends_iff.1 next).1
    exact of_idle idle

/-- What is done when a stream is in the midst of a block. -/
theorem exists_done (whole : s.Whole movePause) (cut : s.IsAt movePause b n) :
    ∃ before : List Block,
      s.done movePause = before.flatMap (Block.own movePause) ++ (b.own movePause).take n := by
  obtain ⟨p, performed, cut⟩ := cut
  exact cut.exists_done (whole p performed)

/-- What a stream has done for its block shows a text in a bubble exactly when the stream is inside
a block with that text. -/
theorem shownBy_done_eq_some_iff {text : String} (whole : s.Whole movePause) :
    kind.shownBy (s.done movePause) = some text ↔
      ∃ b, s.Inside movePause kind b ∧ b.text = text := by
  cases performed : s.performing with
  | none =>
    rw [done_of_idle performed]
    refine iff_of_false nofun ?_
    rintro ⟨b, inside, -⟩
    obtain ⟨-, n, -, cut⟩ := inside_iff.1 inside
    exact absurd cut.isBusy (by simp [performed])
  | some p =>
    rw [Block.shownBy_eq_some_iff (whole p performed)]
    constructor
    · rintro ⟨b, n, shows, same, between, cut⟩
      exact ⟨b, inside_iff.2 ⟨shows, n, between, p, performed, cut⟩, same⟩
    · rintro ⟨b, inside, same⟩
      obtain ⟨shows, n, between, p', performed', cut⟩ := inside_iff.1 inside
      obtain rfl : p = p' := by simpa [performed] using performed'
      exact ⟨b, n, shows, same, between, cut⟩

/-- In a move, a stream does to its bubbles what it does in the move. -/
theorem shownBy_done_of_becomes {now : Scene} {beat : Option Beat}
    (whole : s.Whole now.run.movePause) (becomes : Scene.Becomes now k s beat t) :
    kind.shownBy (t.done now.run.movePause) =
      (History.ofStream k beat.toList).actions.foldl kind.shownAfter
        (kind.shownBy (s.done now.run.movePause)) := by
  cases becomes with
  | stays elsewhere =>
    rw [History.ofStream_eq_nil fun b member => (elsewhere b member).1]
    rfl
  | met going fresh apart there next =>
    rw [History.ofStream_eq_nil (by simpa using apart)]
    rfl
  | @begins b going next =>
    rw [done_begin, done_of_idle (deed_eq_begins_iff.1 next).1, Option.toList_some,
      History.ofStream_own]
    rfl
  | @acts action rest going next =>
    rw [whole.done_continueWith next, BubbleKind.shownBy_concat, Option.toList_some,
      History.ofStream_own]
    rfl
  | completes going next | exchanges going next apart there =>
    rw [whole.done_of_completes next, Block.shownBy_actions, Option.toList_some,
      History.ofStream_own]
    rfl
  | ends going next =>
    rw [Option.toList_some, History.ofStream_own]
    rfl

end Whole

/-! ## Getting inside and leaving -/

/-- In the midst of a block, its next own action is the next one that the stream does. -/
theorem IsAt.exists_acts {action : Action} (cut : s.IsAt movePause b n)
    (here : (b.own movePause)[n]? = some action) :
    ∃ rest, s.deed movePause = .acts action rest ∧
      (s.continueWith rest).IsAt movePause b (n + 1) := by
  obtain ⟨p, performed, before, after, parts, left⟩ := cut
  obtain ⟨within, rfl⟩ := List.getElem?_eq_some_iff.1 here
  rw [List.drop_eq_getElem_cons within, List.cons_append] at left
  cases next : p.work.next? movePause with
  | none =>
    rw [Work.next?_eq_none_iff.1 next] at left
    exact nomatch left
  | some first =>
    obtain ⟨first, rest⟩ := first
    rw [Work.trace_of_next? next] at left
    obtain ⟨rfl, later⟩ := List.cons.inj left
    exact ⟨rest, deed_eq_acts_iff.2 ⟨p, performed, next⟩, _, performing_continueWith performed,
      before, after, parts, later⟩

/-- A stream that has come to be in the midst of a block by an action did the last own action of the
block that is done. -/
theorem IsAt.of_acts {action : Action} {rest : Work} (whole : s.Whole movePause)
    (whole' : (s.continueWith rest).Whole movePause) (next : s.deed movePause = .acts action rest)
    (cut : (s.continueWith rest).IsAt movePause b (n + 1))
    (within : n < (b.own movePause).length) :
    (b.own movePause)[n]? = some action ∧ s.IsAt movePause b n := by
  obtain ⟨earlier, done⟩ := whole'.exists_done cut
  rw [whole.done_continueWith next, List.take_succ_eq_append_getElem within,
    ← List.append_assoc] at done
  obtain ⟨-, last⟩ := List.append_inj' done rfl
  obtain rfl : action = (b.own movePause)[n] := by simpa using last
  refine ⟨List.getElem?_eq_getElem within, ?_⟩
  obtain ⟨p, performed, first⟩ := deed_eq_acts_iff.1 next
  obtain ⟨p', performed', before, after, parts, left⟩ := cut
  obtain rfl : { p with work := rest } = p' := by
    simpa [performing_continueWith performed] using performed'
  refine ⟨p, performed, before, after, parts, ?_⟩
  rw [Work.trace_of_next? first, List.drop_eq_getElem_cons within, List.cons_append, ← left]

/-- Before a block shows its bubble and after it hides it, a stream is inside no block. -/
theorem Whole.not_inside_of_isAt (whole : s.Whole movePause) (cut : s.IsAt movePause b n)
    (outside : n ≠ 2 ∧ n ≠ 3) (other : Block) : ¬s.Inside movePause kind other := by
  intro inside
  obtain ⟨before, done⟩ := whole.exists_done cut
  have shown := whole.shownBy_done_eq_some_iff.2 ⟨other, inside, rfl⟩
  have hidden : ¬(b.kind = kind.blocks ∧ (n = 2 ∨ n = 3)) := by omega
  rw [done, Block.shownBy_flatMap_own_append, Block.shownBy_take_own, if_neg hidden] at shown
  exact nomatch shown

/-- A stream that performs a block after a move performed it before and did nothing in the move, or
it has just begun it, or it has just done an action of it. -/
theorem busy_of_becomes {now : Scene} {beat : Option Beat} (becomes : Scene.Becomes now k s beat t)
    (busy : t.performing.isSome = true) :
    (t.performing = s.performing ∧ ∀ m ∈ beat, m.place ≠ k) ∨ t.done now.run.movePause = [] ∨
      ∃ action rest, s.deed now.run.movePause = .acts action rest ∧ t = s.continueWith rest ∧
        beat = some { place := k, deed := .acts action rest, partner := none } := by
  cases becomes with
  | stays elsewhere => exact .inl ⟨rfl, fun m member => (elsewhere m member).1⟩
  | met going fresh apart there next =>
    refine .inl ⟨rfl, fun m member => ?_⟩
    obtain rfl := Option.some.inj member
    exact apart
  | begins going next => exact .inr (.inl (done_begin _))
  | acts going next => exact .inr (.inr ⟨_, _, next, rfl, rfl⟩)
  | completes | exchanges => exact nomatch busy
  | ends going next =>
    have idle : s.finish.performing = none := (deed_eq_ends_iff.1 next).1
    rw [idle] at busy
    exact nomatch busy

/-- A stream that has ended is inside no block. -/
theorem Sound.not_inside_of_ended (sound : s.Sound) (ended : s.ended = true) (b : Block) :
    ¬s.Inside movePause kind b := by
  intro inside
  obtain ⟨-, n, -, cut⟩ := inside_iff.1 inside
  have busy := sound.isBusy_eq
  rw [(sound.idle_of_ended ended).1, cut.isBusy] at busy
  exact nomatch busy

end Stream

/-! ## A run and its sprites -/

namespace Scene

/-- The bubbles of a kind show what the streams made them show for the blocks that they perform. -/
structure Voiced (kind : BubbleKind) (now : Scene) : Prop where
  /-- The bubble of a sprite shows what its stream made it show. -/
  performer : ∀ t ∈ now.run.streams, ∀ s ∈ now.cast.sprites, s.id = t.agenda.sprite →
    kind.shown? s = kind.shownBy (t.done now.run.movePause)
  /-- The bubble of a sprite without a stream is hidden. -/
  bystander : ∀ s ∈ now.cast.sprites, s.id ∉ now.run.performers → kind.shown? s = none

variable {now next : Scene} {i clock : Nat} {beat : Option Beat}

/-- A turn of a stream leaves the cast as it is, or its sprite does the action that it performs. -/
theorem cast_of_moves (moves : now.Moves (.stream i clock) beat next) :
    (next.cast = now.cast ∧ ∀ b ∈ beat, b.action? = none) ∨
      ∃ u action, now.run.streams[i]? = some u ∧
        next.cast = action.perform u.agenda.sprite now.cast ∧
        ∃ rest, beat = some { place := i, deed := .acts action rest, partner := none } := by
  cases moves with
  | rests => exact .inl ⟨rfl, nofun⟩
  | acts here going next => exact .inr ⟨_, _, here, rfl, _, rfl⟩
  | begins | completes | exchanges | ends =>
    refine .inl ⟨rfl, fun b member => ?_⟩
    obtain rfl := Option.some.inj member
    rfl

/-- The streams of a run that is finished do nothing. -/
theorem rests_of_isFinished (moves : now.Moves (.stream i clock) beat next)
    (finished : now.run.isFinished = true) : beat = none ∧ next = now := by
  cases moves with
  | rests => exact ⟨rfl, rfl⟩
  | begins here going | acts here going | completes here going | exchanges here going
  | ends here going =>
    simp [Run.ended_of_isFinished finished (List.mem_of_getElem? here)] at going

/-- When a sprite does an action, it is what the action makes of it, and all others stay as they
are. -/
theorem eq_of_mem_perform {cast : Cast} (distinct : cast.ids.Nodup) {who : SpriteId}
    {action : Action} {s : Sprite} (there : s ∈ (action.perform who cast).sprites) :
    (s ∈ cast.sprites ∧ s.id ≠ who) ∨
      ∃ u ∈ cast.sprites, u.id = who ∧ s.id = who ∧ s = action.apply u := by
  rw [Cast.perform_eq_modify, Cast.modify, Cast.modifyIn_eq_map distinct] at there
  obtain ⟨u, member, rfl⟩ := List.mem_map.1 there
  by_cases own : u.id = who
  · have kept : (action.apply u).id = u.id := congrArg Prod.fst (action.role_apply u)
    rw [if_pos own]
    exact .inr ⟨u, member, own, kept.trans own, rfl⟩
  · rw [if_neg own]
    exact .inl ⟨member, own⟩

/-- When every sprite has one stream at most, the streams at different places have different
sprites. -/
theorem place_eq_of_sprite_eq {run : Run} (single : run.performers.Nodup) {j : Nat}
    {u : Stream} (here : run.streams[k]? = some t) (there : run.streams[j]? = some u)
    (same : t.agenda.sprite = u.agenda.sprite) : k = j := by
  have first : run.performers[k]? = some t.agenda.sprite := by simp [Run.performers, here]
  have second : run.performers[j]? = some u.agenda.sprite := by simp [Run.performers, there]
  have within := (List.getElem?_eq_some_iff.1 first).1
  exact (List.getElem?_inj within single).1 (by rw [first, second, same])

/-- A turn leaves blocks whole that are being performed. -/
theorem whole_of_moves {turn : Turn}
    (whole : ∀ t ∈ now.run.streams, t.Whole now.run.movePause) (moves : now.Moves turn beat next) :
    ∀ t ∈ next.run.streams, t.Whole next.run.movePause := by
  intro t member
  obtain ⟨k, here⟩ := List.mem_iff_getElem?.1 member
  obtain ⟨u, before, becomes⟩ := became_of_moves moves here
  rw [movePause_of_moves moves]
  exact (whole u (List.mem_of_getElem? before)).of_becomes becomes

/-- A turn of a stream keeps the bubbles as the streams made them, when every sprite is there once
and has one stream at most. -/
theorem Voiced.of_moves (voiced : now.Voiced kind)
    (whole : ∀ t ∈ now.run.streams, t.Whole now.run.movePause)
    (distinct : now.cast.ids.Nodup) (single : now.run.performers.Nodup)
    (moves : now.Moves (.stream i clock) beat next) : next.Voiced kind := by
  have performers : next.run.performers = now.run.performers :=
    map_streams_of_moves moves sprite_of_becomes
  refine ⟨fun t member s there own => ?_, fun s there apart => ?_⟩
  · obtain ⟨k, here⟩ := List.mem_iff_getElem?.1 member
    obtain ⟨u, before, becomes⟩ := became_of_moves moves here
    have shown := voiced.performer u (List.mem_of_getElem? before)
    rw [sprite_of_becomes becomes] at own
    rw [movePause_of_moves moves,
      (whole u (List.mem_of_getElem? before)).shownBy_done_of_becomes becomes]
    rcases cast_of_moves moves with ⟨still, quiet⟩ | ⟨v, action, acts, cast, rest, rfl⟩
    · have nothing : (History.ofStream k beat.toList).actions = [] := by
        refine List.filterMap_eq_nil_iff.2 fun b member => quiet b ?_
        simpa using (List.mem_filter.1 member).1
      rw [nothing]
      exact shown s (still ▸ there) own
    · rw [cast] at there
      rcases eq_of_mem_perform distinct there with ⟨stayed, apart⟩ | ⟨w, stage, same, acted, rfl⟩
      · have elsewhere : i ≠ k := by
          rintro rfl
          obtain rfl : u = v := by simpa [before] using acts
          exact apart own
        rw [Option.toList_some, History.ofStream_singleton, if_neg elsewhere]
        exact shown s stayed own
      · obtain rfl : i = k := place_eq_of_sprite_eq single acts before (acted.symm.trans own)
        obtain rfl : u = v := by simpa [before] using acts
        rw [Option.toList_some, History.ofStream_own, BubbleKind.shown?_apply,
          shown w stage same]
        rfl
  · rw [performers] at apart
    rcases cast_of_moves moves with ⟨still, quiet⟩ | ⟨v, action, acts, cast, -⟩
    · exact voiced.bystander s (still ▸ there) apart
    · rw [cast] at there
      rcases eq_of_mem_perform distinct there with ⟨stayed, -⟩ | ⟨w, stage, sprite, own, rfl⟩
      · exact voiced.bystander s stayed apart
      · refine absurd ?_ apart
        rw [own]
        exact List.mem_map_of_mem (List.mem_of_getElem? acts)

/-- While all bubbles are hidden, a run may start. -/
theorem voiced_opening (settings : Settings) (heroMode : Bool)
    (scripts : List (SpriteId × Script)) {cast : Cast}
    (hidden : ∀ s ∈ cast.sprites, kind.shown? s = none) :
    (opening settings heroMode scripts cast).Voiced kind := by
  refine ⟨fun t member s there _ => ?_, fun s there _ => hidden s there⟩
  obtain ⟨script, -, rfl⟩ := List.mem_map.1 member
  exact hidden s there

/-- The bubbles stay as the streams made them when the sprites on the stage keep theirs, and others
that come on have theirs hidden and no streams. -/
theorem Voiced.of_cast (voiced : now.Voiced kind) {cast : Cast}
    (each : ∀ s ∈ cast.sprites,
      (∃ u ∈ now.cast.sprites, u.id = s.id ∧ kind.shown? u = kind.shown? s) ∨
        (s.id ∉ now.run.performers ∧ kind.shown? s = none)) :
    Voiced kind { now with cast } := by
  refine ⟨fun t member s there own => ?_, fun s there apart => ?_⟩
  · rcases each s there with ⟨u, stage, same, shown⟩ | ⟨apart, -⟩
    · rw [← shown]
      exact voiced.performer t member u stage (same.trans own)
    · exact absurd (own ▸ List.mem_map_of_mem member) apart
  · rcases each s there with ⟨u, stage, same, shown⟩ | ⟨-, hidden⟩
    · rw [← shown]
      exact voiced.bystander u stage (same ▸ apart)
    · exact hidden

/-- When a run is finished, all bubbles are hidden. -/
theorem Voiced.hidden_of_isFinished (voiced : now.Voiced kind) (sound : now.run.Sound)
    (finished : now.run.isFinished = true) {s : Sprite} (there : s ∈ now.cast.sprites) :
    kind.shown? s = none := by
  by_cases performs : s.id ∈ now.run.performers
  · obtain ⟨t, member, own⟩ := List.mem_map.1 performs
    have busy := (sound t member).isBusy_eq
    rw [((sound t member).idle_of_ended (Run.ended_of_isFinished finished member)).1] at busy
    have idle : t.performing = none := by simpa using busy.symm
    rw [voiced.performer t member s there own.symm, Stream.done_of_idle idle]
    rfl
  · exact voiced.bystander s there performs

end Scene

end Troupe
