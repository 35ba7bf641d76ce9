import Troupe.Proofs.Run.Record

/-!
# Runs and solo performances

While the host leaves the cast alone, a stream of a run changes its own sprite and no other one. So
what becomes of a sprite depends on the history of its own stream alone (`Cast.following`), however
the streams are interleaved. The main statement, `Scene.run_refines_solo`, says that in the end each
sprite is what performing the completed blocks of its stream makes of it when it is alone on the
stage. Outside hero mode these blocks are its script, so all interleavings come to the same.
-/

namespace Troupe

/-! ## Following the streams -/

/-- What is done in a beat adds to the history of its own stream. -/
theorem History.actions_ofStream_concat (i : Nat) (past : History) (beat : Beat) :
    actions (ofStream i (past ++ [beat])) =
      actions (ofStream i past) ++ if beat.place = i then beat.action?.toList else [] := by
  rw [ofStream_append, actions_append, ofStream_singleton]
  split
  · rw [actions_singleton]
  · rfl

/-- The cast after every sprite did what the stream at its place did. -/
def Cast.following (cast : Cast) (past : History) : Cast :=
  ⟨cast.sprites.mapIdx fun i s => s.after (History.actions (History.ofStream i past))⟩

namespace Cast

variable {cast : Cast} {past : History} {beat : Beat} {i : Nat} {s : Sprite}

/-- Each sprite follows what the stream at its place has done. -/
theorem getElem?_following (cast : Cast) (past : History) (i : Nat) :
    (cast.following past).sprites[i]? =
      (cast.sprites[i]?).map (·.after (History.actions (History.ofStream i past))) :=
  List.getElem?_mapIdx

/-- Without a history, nothing is followed. -/
theorem following_nil (cast : Cast) : cast.following [] = cast := by
  refine congrArg Cast.mk (List.ext_getElem? fun i => ?_)
  rw [List.getElem?_mapIdx]
  exact congrFun Option.map_id _

/-- Whatever the streams do, the sprites stay in order and keep their roles. -/
theorem map_role_following (cast : Cast) (past : History) :
    (cast.following past).sprites.map Sprite.role = cast.sprites.map Sprite.role := by
  refine List.ext_getElem? fun i => ?_
  rw [List.getElem?_map, getElem?_following, List.getElem?_map, Option.map_map]
  exact congrArg (Option.map · _) (funext fun s => s.role_after _)

/-- Following a history keeps the identities. -/
theorem ids_following (cast : Cast) (past : History) : (cast.following past).ids = cast.ids := by
  have firsts := congrArg (List.map Prod.fst) (map_role_following cast past)
  rwa [List.map_map, List.map_map] at firsts

/-- A beat without an action changes no sprite. -/
theorem following_concat_of_idle (idle : beat.action? = none) :
    cast.following (past ++ [beat]) = cast.following past := by
  simp only [following, History.actions_ofStream_concat, idle, Option.toList_none, ite_self,
    List.append_nil]

/-- An action is done by the sprite of its stream, and by no other one. -/
theorem following_concat_of_acts (beat : Beat) {action : Action}
    (acts : beat.action? = some action)
    (here : (cast.following past).sprites[beat.place]? = some s) :
    (cast.following (past ++ [beat])).sprites =
      (cast.following past).sprites.set beat.place (action.apply s) := by
  refine List.ext_getElem? fun i => ?_
  rw [getElem?_following, History.actions_ofStream_concat, acts]
  by_cases own : beat.place = i
  · subst own
    rw [List.getElem?_set_self (List.getElem?_eq_some_iff.1 here).1]
    rw [getElem?_following] at here
    obtain ⟨before, there, rfl⟩ := Option.map_eq_some_iff.1 here
    rw [there, if_pos rfl, Option.map_some, Sprite.after_append]
    rfl
  · rw [List.getElem?_set_ne own, getElem?_following, if_neg own, List.append_nil]

end Cast

namespace Scene

variable {now next : Scene} {turn : Turn} {beat : Option Beat} {past : History} {cast : Cast}
  {order : List (Nat × Nat)}

/-- When the host does nothing, the sprites go on following the streams. -/
theorem following_of_moves (unedited : turn ∈ Turn.inOrder order) (distinct : cast.ids.Nodup)
    (performers : now.run.streams.map (·.agenda.sprite) = cast.ids)
    (before : now.cast = cast.following past) (moves : now.Moves turn beat next) :
    next.cast = cast.following (past ++ beat.toList) := by
  cases moves with
  | rests => rwa [Option.toList_none, List.append_nil]
  | hosts edit => simp [Turn.inOrder] at unedited
  | begins | completes | exchanges | ends =>
    rw [Option.toList_some, Cast.following_concat_of_idle rfl]
    exact before
  | @acts i clock s action rest here going next =>
    have own : (cast.following past).ids[i]? = some s.agenda.sprite := by
      rw [Cast.ids_following, ← performers, List.getElem?_map, here]
      rfl
    rw [Cast.ids, List.getElem?_map] at own
    obtain ⟨sprite, there, same⟩ := Option.map_eq_some_iff.1 own
    have unique : (cast.following past).ids.Nodup := by rwa [Cast.ids_following]
    have changed := action.sprites_perform unique there
    rw [same, ← before] at changed
    refine congrArg Cast.mk (changed.trans ?_)
    rw [before]
    exact (Cast.following_concat_of_acts ⟨i, .acts action rest, none⟩ rfl there).symm

/-- While the host does nothing, every stream performs with its sprite, and the sprites follow the
streams. -/
theorem following_play (w : Workspace) (distinct : w.cast.ids.Nodup) (order : List (Nat × Nat)) :
    let start := ofWorkspace w
    let now := start.play (Turn.inOrder order)
    now.run.streams.map (·.agenda.sprite) = w.cast.ids ∧
      now.cast = w.cast.following (start.beats (Turn.inOrder order)) := by
  intro start
  refine history_induction (motive := fun past now =>
    now.run.streams.map (·.agenda.sprite) = w.cast.ids ∧ now.cast = w.cast.following past) ?_ ?_
  · refine ⟨?_, (Cast.following_nil w.cast).symm⟩
    exact (Run.map_sprite_ofScripts ..).trans w.map_fst_castScripts
  · rintro past now turn beat next unedited ⟨performers, following⟩ moves
    refine ⟨(map_streams_of_moves moves sprite_of_becomes).trans performers, ?_⟩
    exact following_of_moves unedited distinct performers following moves

/-! ## Outside hero mode -/

/-- Outside hero mode there are no exchanges. -/
theorem alone_of_moves (off : now.run.radius = none) (moves : now.Moves turn beat next) :
    next.run.swaps = now.run.swaps ∧ ∀ b ∈ beat, b.partner = none := by
  cases moves with
  | rests | hosts => exact ⟨rfl, fun b member => nomatch member⟩
  | begins | acts | completes | ends =>
    refine ⟨rfl, fun b member => ?_⟩
    obtain rfl := Option.some.inj member
    rfl
  | exchanges here going next apart there hero met => simp [off] at hero

/-- Outside hero mode every stream keeps its script. -/
theorem castScripts_play (w : Workspace) (off : w.heroMode = false) (turns : List Turn) :
    let now := (ofWorkspace w).play turns
    now.run.swaps = 0 ∧
      now.run.streams.map (fun s => (s.agenda.sprite, s.agenda.blocks)) = w.castScripts := by
  suffices all : ((ofWorkspace w).play turns).run.radius = none ∧ _ from all.2
  refine play_induction (motive := fun now => now.run.radius = none ∧ now.run.swaps = 0 ∧
    now.run.streams.map (fun s => (s.agenda.sprite, s.agenda.blocks)) = w.castScripts) ?_ ?_
  · refine ⟨by simp [ofWorkspace, opening, Run.ofScripts, off], rfl, ?_⟩
    simp only [ofWorkspace, opening, Run.ofScripts, List.map_map]
    exact List.map_id'' (fun _ => rfl) _
  · rintro now turn beat next ⟨never, same, scripts⟩ moves
    obtain ⟨swaps, alone⟩ := alone_of_moves never moves
    refine ⟨(radius_of_moves moves).trans never, swaps.trans same, Eq.trans ?_ scripts⟩
    refine map_streams_of_moves moves fun becomes => ?_
    rw [sprite_of_becomes becomes, blocks_of_becomes becomes alone]

/-- When all streams have ended, each sprite did what the completed blocks of its stream say. -/
theorem sprites_of_isFinished (w : Workspace) (distinct : w.cast.ids.Nodup)
    (order : List (Nat × Nat)) :
    let start := ofWorkspace w
    let now := start.play (Turn.inOrder order)
    now.run.isFinished = true → ∀ (i : Nat) (before : Sprite), w.cast.sprites[i]? = some before →
      ∃ s, now.run.streams[i]? = some s ∧ s.agenda.sprite = before.id ∧
        now.cast.sprites[i]? = some (before.after
          (s.agenda.completed.flatMap (Block.actions start.run.movePause))) := by
  intro start now finished i before there
  obtain ⟨performers, following⟩ := following_play w distinct order
  obtain ⟨sound, -, recorded⟩ := recorded_play w.settings w.heroMode w.castScripts w.cast
    (Turn.inOrder order)
  have own : (now.run.streams[i]?).map (·.agenda.sprite) = some before.id := by
    rw [← List.getElem?_map, performers, Cast.ids, List.getElem?_map, there]
    rfl
  obtain ⟨s, here, same⟩ := Option.map_eq_some_iff.1 own
  have ended := Run.ended_of_isFinished finished (List.mem_of_getElem? here)
  have actions := (recorded i s here).actions_of_ended (sound.of_getElem? here) ended
  refine ⟨s, here, same, ?_⟩
  rw [following, Cast.getElem?_following, there, Option.map_some]
  exact congrArg (some <| before.after ·) actions

/-- Outside hero mode every stream that has ended completed the script of its sprite. -/
theorem completed_of_heroMode_off (w : Workspace) (off : w.heroMode = false) (turns : List Turn) :
    let now := (ofWorkspace w).play turns
    ∀ s ∈ now.run.streams, s.ended = true →
      s.agenda.completed = s.agenda.blocks ∧ s.agenda.blocks = w.scripts s.agenda.sprite := by
  intro now s member ended
  have sound := sound_play w.settings w.heroMode w.castScripts w.cast turns s member
  have listed : (s.agenda.sprite, s.agenda.blocks) ∈ w.castScripts := by
    rw [← (castScripts_play w off turns).2]
    exact List.mem_map_of_mem member
  obtain ⟨id, -, same⟩ := List.mem_map.1 listed
  obtain ⟨rfl, script⟩ := Prod.mk.inj same
  exact ⟨sound.completed_of_ended ended, script.symm⟩

/-- Outside hero mode a run always ends in the same way: each sprite performed its script. -/
theorem ending_of_heroMode_off (w : Workspace) (distinct : w.cast.ids.Nodup)
    (off : w.heroMode = false) (order : List (Nat × Nat)) :
    let start := ofWorkspace w
    let now := start.play (Turn.inOrder order)
    now.run.isFinished = true →
      now.cast.sprites = w.cast.sprites.map (fun s =>
        s.after ((w.scripts s.id).flatMap (Block.actions start.run.movePause))) ∧
      ∀ duration, now.run.report duration =
        { streams := w.castScripts.map fun (id, script) => ⟨id, script.length⟩
          swaps := 0
          duration } := by
  intro start now finished
  have whole := completed_of_heroMode_off w off (Turn.inOrder order)
  constructor
  · refine List.ext_getElem? fun i => ?_
    rw [List.getElem?_map]
    cases there : w.cast.sprites[i]? with
    | none => rw [(following_play w distinct order).2, Cast.getElem?_following, there]; rfl
    | some before =>
      obtain ⟨s, here, same, after⟩ :=
        sprites_of_isFinished w distinct order finished i before there
      have member := List.mem_of_getElem? here
      obtain ⟨completed, script⟩ := whole s member (Run.ended_of_isFinished finished member)
      rw [after, completed, script, same]
      rfl
  · intro duration
    obtain ⟨swaps, scripts⟩ := castScripts_play w off (Turn.inOrder order)
    rw [Run.report, swaps, ← scripts, List.map_map]
    refine congrArg (Report.mk · 0 duration) (List.map_congr_left fun s member => ?_)
    have sound := sound_play w.settings w.heroMode w.castScripts w.cast (Turn.inOrder order)
    have completed := (whole s member (Run.ended_of_isFinished finished member)).1
    rw [(sound s member).executed, completed]
    rfl

/-- A run refines solo performances. While the host leaves the sprites alone, whatever the order in
which the streams make their steps, each sprite is in the end what performing the completed blocks
of its stream on its own makes of it. No stream ever changes the sprite of another one, and the
sprites stay in order and keep their identities, avatars and names. Outside hero mode nothing is
exchanged, every stream completes the script of its sprite, and the sprites and the report at the
end are the same for every order. -/
theorem run_refines_solo (w : Workspace) (distinct : w.cast.ids.Nodup)
    (order : List (Nat × Nat)) :
    let start := ofWorkspace w
    let now := start.play (Turn.inOrder order)
    (now.run.isFinished = true →
      ∀ (i : Nat) (before : Sprite), w.cast.sprites[i]? = some before →
        ∃ s after, now.run.streams[i]? = some s ∧ s.agenda.sprite = before.id ∧
          now.cast.sprites[i]? = some after ∧
          (Performance.ofScript start.run.movePause before.id (fun _ cast => cast) ⟨[before]⟩
            s.agenda.completed).cast = ⟨[after]⟩) ∧
      (∀ i clock k, k ≠ i →
        (now.turn (.stream i clock)).cast.sprites[k]? = now.cast.sprites[k]?) ∧
      now.cast.sprites.map Sprite.role = w.cast.sprites.map Sprite.role ∧
      (w.heroMode = false → now.run.swaps = 0 ∧
        (now.run.isFinished = true →
          (∀ s ∈ now.run.streams, s.agenda.completed = w.scripts s.agenda.sprite) ∧
          ∀ other, (start.play (Turn.inOrder other)).run.isFinished = true →
            (start.play (Turn.inOrder other)).cast = now.cast ∧ ∀ duration,
              (start.play (Turn.inOrder other)).run.report duration =
                now.run.report duration)) := by
  intro start now
  obtain ⟨performers, following⟩ := following_play w distinct order
  refine ⟨fun finished i before there => ?_, fun i clock k other => ?_, ?_, fun off => ⟨?_, ?_⟩⟩
  · obtain ⟨s, here, same, after⟩ := sprites_of_isFinished w distinct order finished i before there
    exact ⟨s, _, here, same, after, Performance.cast_ofScript_alone before s.agenda.completed⟩
  · have moves := now.moves_turn (.stream i clock)
    have unedited : Turn.stream i clock ∈ Turn.inOrder [(i, clock)] := List.mem_cons_self
    have onwards := following_of_moves unedited distinct performers following moves
    rw [onwards, following, Cast.getElem?_following, Cast.getElem?_following]
    cases did : now.beat? (.stream i clock) with
    | none => rw [Option.toList_none, List.append_nil]
    | some beat =>
      rw [did] at moves
      obtain ⟨_, own⟩ := turn_of_moves moves
      have apart : beat.place ≠ k := by
        rw [← (Turn.stream.inj own).1]
        exact other.symm
      rw [Option.toList_some, History.actions_ofStream_concat, if_neg apart, List.append_nil]
  · rw [following, Cast.map_role_following]
  · exact (castScripts_play w off _).1
  · intro finished
    refine ⟨fun s member => ?_, fun other finished' => ?_⟩
    · have ended := Run.ended_of_isFinished finished member
      obtain ⟨completed, script⟩ := completed_of_heroMode_off w off _ s member ended
      exact completed.trans script
    · obtain ⟨sprites, report⟩ := ending_of_heroMode_off w distinct off order finished
      obtain ⟨sprites', report'⟩ := ending_of_heroMode_off w distinct off other finished'
      exact ⟨congrArg Cast.mk (sprites'.trans sprites.symm), fun duration =>
        (report' duration).trans (report duration).symm⟩

/-- Outside hero mode, a duet comes to an end in which the second sprite performed its script. -/
theorem run_refines_solo_duet :
    ∃ s after,
      ((ofWorkspace (Workspace.duet.setHeroMode false)).play
        (Turn.inOrder (List.replicate 20 [(0, 0), (1, 0)]).flatten)).run.streams[1]? = some s ∧
      ((ofWorkspace (Workspace.duet.setHeroMode false)).play
        (Turn.inOrder (List.replicate 20 [(0, 0), (1, 0)]).flatten)).cast.sprites[1]? =
          some after ∧
      s.agenda.completed = Workspace.duet.scripts s.agenda.sprite ∧
      (Performance.ofScript 500 (.ofNat 1) (fun _ cast => cast)
        ⟨[.create (.ofNat 1) .dog ⟨105, 100⟩]⟩ s.agenda.completed).cast = ⟨[after]⟩ := by
  have whole := run_refines_solo (Workspace.duet.setHeroMode false) (by decide +kernel)
    (List.replicate 20 [(0, 0), (1, 0)]).flatten
  have finished : ((ofWorkspace (Workspace.duet.setHeroMode false)).play
      (Turn.inOrder (List.replicate 20 [(0, 0), (1, 0)]).flatten)).run.isFinished = true := by
    decide +kernel
  obtain ⟨s, after, here, same, there, alone⟩ := whole.1 finished 1 _ rfl
  have script := ((whole.2.2.2 rfl).2 finished).1 s (List.mem_of_getElem? here)
  exact ⟨s, after, here, there, script, alone⟩

end Scene

end Troupe
