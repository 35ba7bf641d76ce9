import Troupe.Proofs.Duration
import Troupe.Proofs.Run.Record

/-!
# How streams end

A stream that has ended ended once, and that is the last thing it did. Until then it paused for what
the blocks take that it completed (`Scene.tally_duration_of_ended`), whatever was exchanged on the
way.
-/

namespace Troupe

/-- Whether a stream ended. -/
def Beat.isEnd (beat : Beat) : Bool :=
  match beat.deed with
  | .ends => true
  | _ => false

/-- A stream that ends performs no action. -/
theorem Beat.action?_of_isEnd {beat : Beat} (ends : beat.isEnd = true) : beat.action? = none := by
  obtain ⟨place, deed, partner⟩ := beat
  cases deed with
  | ends => rfl
  | begins | acts | completes => exact nomatch ends

/-- The milliseconds that the blocks take which a stream completed. -/
def Stream.duration (movePause : Nat) (s : Stream) : Nat :=
  tally (Block.duration movePause) s.agenda.completed

variable {k : Nat} {s t : Stream} {past : History} {beat : Option Beat}

/-- A history of one stream agrees with whether the stream has ended. -/
structure Stream.Closed (s : Stream) (past : History) : Prop where
  /-- The stream did nothing after it ended. -/
  last : ∀ before b after, past = before ++ b :: after → b.isEnd = true →
    s.ended = true ∧ after = []
  /-- A stream that has ended did so in its history. -/
  ended : s.ended = true → ∃ b ∈ past, b.isEnd = true

namespace Stream.Closed

/-- Something that a stream does before it has ended goes on from a history without an end. -/
theorem concat {b : Beat} (closed : s.Closed past) (going : s.ended = false)
    (same : t.ended = b.isEnd) : t.Closed (past ++ [b]) where
  last := by
    intro before b' after split ends
    rcases List.eq_nil_or_concat after with rfl | ⟨earlier, final, rfl⟩
    · obtain ⟨-, single⟩ := List.append_inj' split rfl
      obtain rfl : b = b' := by simpa using single
      exact ⟨same.trans ends, rfl⟩
    · rw [List.concat_eq_append, ← List.cons_append, ← List.append_assoc] at split
      have inside := (closed.last before b' earlier (List.append_inj' split rfl).1 ends).1
      simp [going] at inside
  ended gone := ⟨b, by simp, same.symm.trans gone⟩

/-- What a stream becomes agrees with its history, continued by what it did. -/
theorem of_becomes {now : Scene} (closed : s.Closed past)
    (becomes : Scene.Becomes now k s beat t) :
    t.Closed (past ++ History.ofStream k beat.toList) := by
  cases becomes with
  | stays elsewhere =>
    rwa [History.ofStream_eq_nil fun b member => (elsewhere b member).1, List.append_nil]
  | met going fresh apart there next =>
    rw [History.ofStream_eq_nil (by simpa using apart), List.append_nil]
    exact ⟨closed.last, closed.ended⟩
  | begins going next | acts going next | completes going next
  | exchanges going next apart there =>
    rw [Option.toList_some, History.ofStream_own]
    exact closed.concat going going
  | ends going next =>
    rw [Option.toList_some, History.ofStream_own]
    exact closed.concat going rfl

end Stream.Closed

namespace Scene

/-- What is done is done by streams that are there. -/
theorem place_lt_of_mem_beats {start : Scene} {turns : List Turn} {b : Beat}
    (member : b ∈ start.beats turns) : b.place < (start.play turns).run.streams.length := by
  refine history_induction (motive := fun past now =>
    ∀ b ∈ past, b.place < now.run.streams.length) nofun ?_ b member
  intro past now turn beat next _ there moves b member
  rw [length_streams_of_moves moves]
  rcases List.mem_append.1 member with old | new
  · exact there b old
  · cases moves with
    | rests | hosts => exact nomatch new
    | begins here | acts here | completes here | exchanges here | ends here =>
      obtain rfl := List.mem_singleton.1 new
      exact (List.getElem?_eq_some_iff.1 here).1

/-- Whether a stream has ended can be read from its history. -/
theorem closed_play (settings : Settings) (heroMode : Bool) (scripts : List (SpriteId × Script))
    (cast : Cast) (turns : List Turn) :
    let start := opening settings heroMode scripts cast
    ∀ (i : Nat) (s : Stream), (start.play turns).run.streams[i]? = some s →
      s.Closed (History.ofStream i (start.beats turns)) := by
  intro start
  refine history_induction (motive := fun past now =>
    ∀ (i : Nat) (s : Stream), now.run.streams[i]? = some s →
      s.Closed (History.ofStream i past)) ?_ ?_
  · intro i s here
    obtain ⟨script, -, rfl⟩ := List.mem_map.1 (List.mem_of_getElem? here)
    exact ⟨fun before b after split => by simp [History.ofStream] at split, nofun⟩
  · intro past now turn beat next _ closed moves i t there
    obtain ⟨s, here, becomes⟩ := became_of_moves moves there
    rw [History.ofStream_append]
    exact (closed i s here).of_becomes becomes

/-- A stream that has ended paused for what the blocks take that it completed. -/
theorem tally_duration_of_ended (settings : Settings) (heroMode : Bool)
    (scripts : List (SpriteId × Script)) (cast : Cast) (turns : List Turn) :
    let start := opening settings heroMode scripts cast
    let now := start.play turns
    ∀ (i : Nat) (s : Stream), now.run.streams[i]? = some s → s.ended = true →
      tally Action.duration (History.ofStream i (start.beats turns)).actions =
        s.duration now.run.movePause := by
  intro start now i s here ended
  obtain ⟨sound, same, recorded⟩ := recorded_play settings heroMode scripts cast turns
  rw [(recorded i s here).actions_of_ended (sound.of_getElem? here) ended, tally_flatMap,
    Stream.duration, same]
  exact tally_congr fun b _ => b.tally_duration_actions _

end Scene

end Troupe
