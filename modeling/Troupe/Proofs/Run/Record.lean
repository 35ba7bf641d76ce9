import Troupe.Proofs.Performance
import Troupe.Proofs.Run.Sound
import Troupe.Run.Report

/-!
# What is performed is what is recorded

While a stream performs the copy of a block that it was given, its agenda holds the same block as
being performed, whatever other streams exchange meanwhile. Completed blocks are never touched
again: a stream appends the block that it performed when it completes it, and nothing else changes
the record. So the record of a stream is what it performed, in order.
-/

namespace Troupe

variable {movePause k : Nat} {s t : Stream} {past : History}

/-- The actions that a stream still has to perform for its block. -/
def Stream.actionsLeft (movePause : Nat) (s : Stream) : List Action :=
  match s.performing with
  | some p => p.work.trace movePause
  | none => []

/-- The blocks of a stream from which its history was made: those that it completed and the one that
it performs. -/
def Stream.taken (s : Stream) : List Block :=
  s.agenda.completed ++ (s.performing.map (·.block)).toList

/-- A history of one stream agrees with the state of that stream. -/
structure Stream.Recorded (movePause : Nat) (s : Stream) (past : History) : Prop where
  /-- The blocks that were begun are those that are completed and the one that is performed. -/
  begun : past.begun = s.taken
  /-- The blocks that were performed to their end are those that are completed. -/
  performed : past.performed = s.agenda.completed
  /-- The actions that were performed are those of the blocks that were begun, up to the ones that
  are left. -/
  actions : past.actions ++ s.actionsLeft movePause = s.taken.flatMap (Block.actions movePause)

/-! ## What the deeds do to the record -/

namespace Stream

variable {b : Block} {action : Action} {rest : Work}

/-- A block is taken up when it is begun. -/
theorem taken_begin (next : s.deed movePause = .begins b) : (s.begin b).taken = s.taken ++ [b] := by
  have idle := (deed_eq_begins_iff.1 next).1
  simp [taken, begin, idle]

/-- Going on with a block takes up no other one. -/
theorem taken_continueWith : (s.continueWith rest).taken = s.taken := by
  cases performed : s.performing <;> simp [taken, continueWith, performed]

/-- Completing a block takes up no other one. -/
theorem Sound.taken_complete (sound : s.Sound) (next : s.deed movePause = .completes b) :
    s.complete.taken = s.taken := by
  obtain ⟨p, performed, -, rfl⟩ := deed_eq_completes_iff.1 next
  have idle : s.complete.performing = none := rfl
  simp [taken, sound.completed_complete next, performed, idle]

/-- Where a stream begins a block, no action is left of another one. -/
theorem actionsLeft_of_begins (next : s.deed movePause = .begins b) :
    s.actionsLeft movePause = [] := by
  simp only [actionsLeft, (deed_eq_begins_iff.1 next).1]

/-- An action that is done is the first of those that were left. -/
theorem actionsLeft_of_acts (next : s.deed movePause = .acts action rest) :
    s.actionsLeft movePause = action :: (s.continueWith rest).actionsLeft movePause := by
  obtain ⟨p, performed, first⟩ := deed_eq_acts_iff.1 next
  simpa [actionsLeft, continueWith, performed] using Work.trace_of_next? first

/-- Where a stream completes a block, no action is left of it. -/
theorem actionsLeft_of_completes (next : s.deed movePause = .completes b) :
    s.actionsLeft movePause = [] := by
  obtain ⟨p, performed, nothing, -⟩ := deed_eq_completes_iff.1 next
  simpa only [actionsLeft, performed] using Work.next?_eq_none_iff.1 nothing

end Stream

/-! ## Histories of one stream -/

/-- A beat in which a stream does nothing adds nothing to its history. -/
theorem History.ofStream_eq_nil {beat : Option Beat} (elsewhere : ∀ b ∈ beat, b.place ≠ k) :
    ofStream k beat.toList = [] := by
  cases beat with
  | none => rfl
  | some b => exact ofStream_singleton.trans (if_neg (elsewhere b rfl))

/-- A beat in which a stream does something is added to its history. -/
theorem History.ofStream_own {deed : Deed} {partner : Option Nat} :
    ofStream k [{ place := k, deed, partner }] = [{ place := k, deed, partner }] :=
  ofStream_singleton.trans (if_pos rfl)

namespace Stream.Recorded

variable {beat : Option Beat} {partner : Option Nat}

/-- An exchange changes nothing that is recorded. -/
theorem takeRemaining (recorded : s.Recorded movePause past) (sound : s.Sound) (other : Stream) :
    (s.takeRemaining other).Recorded movePause past := by
  have completed := sound.completed_takeRemaining other
  have taken : (s.takeRemaining other).taken = s.taken := by
    rw [Stream.taken, completed]
    rfl
  obtain ⟨begun, performed, actions⟩ := recorded
  exact ⟨begun.trans taken.symm, performed.trans completed.symm, by rw [taken]; exact actions⟩

/-- A deed of the stream is recorded when the history gains what the stream gains by it. -/
theorem concat {beat : Beat} (recorded : s.Recorded movePause past)
    (begun : t.taken = s.taken ++ beat.begun?.toList)
    (performed : t.agenda.completed = s.agenda.completed ++ beat.performed?.toList)
    (actions : s.actionsLeft movePause ++ beat.begun?.toList.flatMap (Block.actions movePause) =
      beat.action?.toList ++ t.actionsLeft movePause) :
    t.Recorded movePause (past ++ [beat]) where
  begun := by rw [History.begun_append, History.begun_singleton, recorded.begun, begun]
  performed := by
    rw [History.performed_append, History.performed_singleton, recorded.performed, performed]
  actions := by
    calc
      History.actions (past ++ [beat]) ++ t.actionsLeft movePause =
          History.actions past ++ (beat.action?.toList ++ t.actionsLeft movePause) := by
        rw [History.actions_append, History.actions_singleton, List.append_assoc]
      _ = History.actions past ++ s.actionsLeft movePause ++
          beat.begun?.toList.flatMap (Block.actions movePause) := by
        rw [← actions, List.append_assoc]
      _ = t.taken.flatMap (Block.actions movePause) := by
        rw [recorded.actions, begun, List.flatMap_append]

/-- The record is kept when a block is begun. -/
theorem begin {b : Block} (recorded : s.Recorded movePause past)
    (next : s.deed movePause = .begins b) :
    (s.begin b).Recorded movePause (past ++ [{ place := k, deed := .begins b, partner }]) := by
  have completed : (s.begin b).agenda.completed = s.agenda.completed := Agenda.completed_begin
  refine recorded.concat (taken_begin next) ?_ ?_
  · rw [completed]
    exact (List.append_nil _).symm
  · rw [actionsLeft_of_begins next]
    exact List.append_nil _

/-- The record is kept when an action is done. -/
theorem act {action : Action} {rest : Work} (recorded : s.Recorded movePause past)
    (next : s.deed movePause = .acts action rest) :
    (s.continueWith rest).Recorded movePause
      (past ++ [{ place := k, deed := .acts action rest, partner }]) := by
  refine recorded.concat ?_ ?_ ?_
  · rw [taken_continueWith]
    exact (List.append_nil _).symm
  · exact (List.append_nil _).symm
  · rw [actionsLeft_of_acts next]
    exact List.append_nil _

/-- The record is kept when a block is completed. -/
theorem complete {b : Block} (recorded : s.Recorded movePause past) (sound : s.Sound)
    (next : s.deed movePause = .completes b) :
    s.complete.Recorded movePause (past ++ [{ place := k, deed := .completes b, partner }]) := by
  refine recorded.concat ?_ (sound.completed_complete next) ?_
  · rw [sound.taken_complete next]
    exact (List.append_nil _).symm
  · rw [actionsLeft_of_completes next]
    rfl

/-- The record is kept when the stream ends. -/
theorem finish (recorded : s.Recorded movePause past) :
    s.finish.Recorded movePause (past ++ [{ place := k, deed := .ends, partner }]) :=
  recorded.concat (List.append_nil _).symm (List.append_nil _).symm (List.append_nil _)

/-- What a stream becomes agrees with its history, continued by what it did. -/
theorem of_becomes {now : Scene} (recorded : s.Recorded now.run.movePause past) (sound : s.Sound)
    (becomes : Scene.Becomes now k s beat t) :
    t.Recorded now.run.movePause (past ++ History.ofStream k beat.toList) := by
  cases becomes with
  | stays elsewhere =>
    rwa [History.ofStream_eq_nil fun b member => (elsewhere b member).1, List.append_nil]
  | met going fresh apart there next =>
    rw [History.ofStream_eq_nil (by simpa using apart), List.append_nil]
    exact recorded.takeRemaining sound _
  | begins going next => rw [Option.toList_some, History.ofStream_own]; exact recorded.begin next
  | acts going next => rw [Option.toList_some, History.ofStream_own]; exact recorded.act next
  | completes going next =>
    rw [Option.toList_some, History.ofStream_own]
    exact recorded.complete sound next
  | exchanges going next apart there =>
    rw [Option.toList_some, History.ofStream_own]
    exact (recorded.complete sound next).takeRemaining (sound.complete going next) _
  | ends going next => rw [Option.toList_some, History.ofStream_own]; exact recorded.finish

/-- A stream that has ended did the actions of the blocks that it completed, and no others. -/
theorem actions_of_ended (recorded : s.Recorded movePause past) (sound : s.Sound)
    (ended : s.ended = true) :
    past.actions = s.agenda.completed.flatMap (Block.actions movePause) := by
  have idle := (sound.idle_of_ended ended).1
  rw [sound.isBusy_eq, Option.isSome_eq_false_iff, Option.isNone_iff_eq_none] at idle
  have actions := recorded.actions
  simp only [Stream.actionsLeft, Stream.taken, idle, Option.map_none, Option.toList_none,
    List.append_nil] at actions
  exact actions

end Stream.Recorded

/-- A completed block stays completed. Only in a turn of its own does a stream complete another one,
and that is the one it performs. -/
theorem Stream.Sound.completed_of_becomes {now : Scene} {beat : Option Beat} (sound : s.Sound)
    (becomes : Scene.Becomes now k s beat t) :
    t.agenda.completed = s.agenda.completed ∨
      ∃ p partner, beat = some { place := k, deed := .completes p.block, partner } ∧
        s.performing = some p ∧ s.deed now.run.movePause = .completes p.block ∧
        t.agenda.completed = s.agenda.completed ++ [p.block] := by
  cases becomes with
  | stays elsewhere => exact .inl rfl
  | begins going next => exact .inl Agenda.completed_begin
  | acts going next => exact .inl rfl
  | ends going next => exact .inl rfl
  | met going fresh apart there next => exact .inl (sound.completed_takeRemaining _)
  | completes going next =>
    have extended := sound.completed_complete next
    obtain ⟨p, performed, -, rfl⟩ := deed_eq_completes_iff.1 next
    exact .inr ⟨p, none, rfl, performed, next, extended⟩
  | @exchanges j b u going next apart there =>
    have extended := sound.completed_complete next
    have kept := (sound.complete going next).completed_takeRemaining u
    obtain ⟨p, performed, -, rfl⟩ := deed_eq_completes_iff.1 next
    exact .inr ⟨p, _, rfl, performed, next, kept.trans extended⟩

namespace Scene

/-- The streams of every scene that is reached are sound and agree with their histories. -/
theorem recorded_play (settings : Settings) (heroMode : Bool) (scripts : List (SpriteId × Script))
    (cast : Cast) (turns : List Turn) :
    let start := opening settings heroMode scripts cast
    let now := start.play turns
    now.run.Sound ∧ now.run.movePause = start.run.movePause ∧
      ∀ (i : Nat) (s : Stream), now.run.streams[i]? = some s →
        s.Recorded start.run.movePause (History.ofStream i (start.beats turns)) := by
  intro start
  refine history_induction (motive := fun past now =>
    now.run.Sound ∧ now.run.movePause = start.run.movePause ∧
      ∀ (i : Nat) (s : Stream), now.run.streams[i]? = some s →
        s.Recorded start.run.movePause (History.ofStream i past)) ?_ ?_
  · refine ⟨sound_opening settings heroMode scripts cast, rfl, fun i s here => ?_⟩
    obtain ⟨script, -, rfl⟩ := List.mem_map.1 (List.mem_of_getElem? here)
    exact ⟨rfl, rfl, rfl⟩
  · rintro past now turn beat next - ⟨sound, same, recorded⟩ moves
    refine ⟨sound_of_moves sound moves, (movePause_of_moves moves).trans same, fun i t there => ?_⟩
    obtain ⟨s, here, becomes⟩ := became_of_moves moves there
    rw [History.ofStream_append, ← same]
    rw [← same] at recorded
    exact (recorded i s here).of_becomes (sound.of_getElem? here) becomes

/-- The block that a stream performs is the one that gets recorded, and what is recorded stays. A
stream is busy while it performs a block, and its agenda holds that block, whatever is exchanged.
It began the blocks that it completed and the one it performs, performed the completed ones to
their end, and did the actions of these blocks and no others, in order. In any turn, what a stream
completed stays the same, or it is the stream's own turn and the block that it performs is added
at the end. The report counts the completed blocks. -/
theorem completed_is_performed (settings : Settings) (heroMode : Bool)
    (scripts : List (SpriteId × Script)) (cast : Cast) (turns : List Turn) :
    let start := opening settings heroMode scripts cast
    let now := start.play turns
    ∀ (i : Nat) (s : Stream), now.run.streams[i]? = some s →
      let past := History.ofStream i (start.beats turns)
      let taken := s.agenda.completed ++ s.agenda.current.toList
      s.agenda.isBusy = s.performing.isSome ∧
      s.agenda.current = s.performing.map (·.block) ∧
      past.begun = taken ∧
      past.performed = s.agenda.completed ∧
      past.actions ++ s.actionsLeft start.run.movePause =
        taken.flatMap (Block.actions start.run.movePause) ∧
      (∀ turn, ∃ t, (now.turn turn).run.streams[i]? = some t ∧
        (t.agenda.completed = s.agenda.completed ∨
          ∃ clock p, turn = .stream i clock ∧ s.performing = some p ∧
            s.deed start.run.movePause = .completes p.block ∧
            t.agenda.completed = s.agenda.completed ++ [p.block])) ∧
      ∀ duration, (now.run.report duration).streams[i]? =
        some { sprite := s.agenda.sprite, executed := s.agenda.completed.length } := by
  intro start now i s here past taken
  obtain ⟨sounds, same, all⟩ := recorded_play settings heroMode scripts cast turns
  have sound : s.Sound := sounds.of_getElem? here
  have recorded := all i s here
  have split : taken = s.taken := by
    rw [Stream.taken, ← sound.current]
  refine ⟨sound.isBusy_eq, sound.current, ?_, recorded.performed, ?_, fun turn => ?_, ?_⟩
  · rw [split]
    exact recorded.begun
  · rw [split]
    exact recorded.actions
  · have moves := now.moves_turn turn
    obtain ⟨t, there, becomes⟩ := becomes_of_moves moves here
    refine ⟨t, there, ?_⟩
    rw [← same]
    obtain kept | ⟨p, partner, did, performed, next, extended⟩ :=
      sound.completed_of_becomes becomes
    · exact .inl kept
    · rw [did] at moves
      obtain ⟨clock, rfl⟩ := turn_of_moves moves
      exact .inr ⟨clock, p, rfl, performed, next, extended⟩
  · intro duration
    have counted : (now.run.report duration).streams[i]? =
        some { sprite := s.agenda.sprite, executed := s.executed } := by
      simp [Run.report, here]
    rw [counted, sound.executed]

/-- In the middle of a duet, the first stream performs a block that it got from the second one. -/
theorem completed_is_performed_duet :
    ∃ s, ((opening {} true Workspace.duet.castScripts Workspace.duet.cast).play
        (Turn.alternating 6)).run.streams[0]? = some s ∧
      s.agenda.isBusy = s.performing.isSome ∧
      (s.agenda.completed ++ s.agenda.current.toList).map (·.kind) = [.move, .loop] := by
  have there : ((opening {} true Workspace.duet.castScripts Workspace.duet.cast).play
      (Turn.alternating 6)).run.streams[0]?.isSome = true := by decide +kernel
  obtain ⟨s, here⟩ := Option.isSome_iff_exists.1 there
  have whole := completed_is_performed {} true Workspace.duet.castScripts Workspace.duet.cast
    (Turn.alternating 6) 0 s here
  refine ⟨s, here, whole.1, ?_⟩
  rw [← whole.2.2.1]
  decide +kernel

end Scene

end Troupe
