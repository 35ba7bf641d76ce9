import Troupe.Proofs.Run.Sound
import Troupe.Run.Report

/-!
# How often streams are met

A stream that took part in an exchange is marked until it completes a block. It is not met while it
is marked, and it meets others only when it completes a block, which takes the mark away. So between
two of its completions it takes part in at most one exchange (`Scene.met_once_in_a_step`). As every
exchange leaves two marks, and only completions take marks away, there are at most half as many
exchanges as there are completed blocks and streams together.
-/

namespace Troupe

namespace Beat

/-- Whether the stream at a place took part in an exchange. -/
def involves (k : Nat) (beat : Beat) : Bool :=
  match beat.partner with
  | some j => decide (beat.place = k) || decide (j = k)
  | none => false

/-- Whether the stream at a place completed a block. -/
def completes (k : Nat) (beat : Beat) : Bool :=
  decide (beat.place = k) && beat.performed?.isSome

end Beat

namespace History

/-- How many exchanges there were. -/
def exchanges (history : History) : Nat := history.countP (·.partner.isSome)

/-- In how many exchanges the stream at a place took part. -/
def meetings (k : Nat) (history : History) : Nat := history.countP (Beat.involves k)

/-- The stream at a place completes no block, except perhaps in the first beat. So what happened is
between two completions of the stream, or before the first one. -/
def WithinStep (k : Nat) (history : History) : Prop :=
  ∀ beat ∈ history.tail, beat.completes k = false

/-- Whether a history lies within a step is told by its beats. -/
instance (k : Nat) (history : History) : Decidable (history.WithinStep k) :=
  inferInstanceAs (Decidable (∀ beat ∈ history.tail, beat.completes k = false))

variable {past : History} {beat : Beat} {k : Nat}

/-- One beat makes one exchange at most. -/
@[simp] theorem exchanges_singleton : exchanges [beat] = beat.partner.isSome.toNat := by
  cases met : beat.partner <;> simp [exchanges, met]

/-- The exchanges of a history and of what comes after it add up. -/
theorem exchanges_append (past later : History) :
    exchanges (past ++ later) = exchanges past + exchanges later :=
  List.countP_append ..

/-- One further beat adds a meeting if it involves the stream. -/
@[simp] theorem meetings_concat :
    meetings k (past ++ [beat]) = meetings k past + (beat.involves k).toNat := by
  cases met : beat.involves k <;> simp [meetings, List.countP_append, met]

/-- What happened before the last beat of a step is within the step as well. -/
theorem WithinStep.of_concat (within : WithinStep k (past ++ [beat])) : WithinStep k past := by
  cases past with
  | nil => exact fun beat member => nomatch member
  | cons first rest => exact fun b member => within b (List.mem_append_left _ member)

/-- In a beat within a step that is not the first one, the stream completes no block. -/
theorem WithinStep.completes_eq_false (within : WithinStep k (past ++ [beat]))
    (later : past ≠ []) : beat.completes k = false := by
  obtain ⟨first, rest, rfl⟩ := List.exists_cons_of_ne_nil later
  exact within beat (List.mem_append_right _ List.mem_cons_self)

end History

/-! ## Marks -/

/-- The marks of a stream agree with a history: since it last completed a block, it took part in an
exchange only if it is marked, and then only in one. -/
def Stream.Marked (k : Nat) (s : Stream) (past : History) : Prop :=
  ∀ before during, past = before ++ during → History.WithinStep k during →
    during.meetings k ≤ s.agenda.exchanged.toNat

/-- Every block that a stream completed, and its mark, may stand for one exchange. -/
def Stream.marks (s : Stream) : Nat := s.executed + s.agenda.exchanged.toNat

/-- A stream keeps at least the marks that it has. -/
theorem Stream.le_marks (s : Stream) : s.executed ≤ s.marks ∧ s.marks ≤ s.executed + 1 := by
  have bound := Bool.toNat_le s.agenda.exchanged
  simp only [marks]
  omega

namespace Scene

variable {now next : Scene} {turn : Turn} {beat : Option Beat} {past : History} {k : Nat}
  {s t : Stream}

/-- A stream that takes part in an exchange is marked after it, and it was not marked before unless
it completed a block. -/
theorem mark_of_becomes {b : Beat} (becomes : Becomes now k s (some b) t) :
    (b.involves k).toNat ≤ t.agenda.exchanged.toNat ∧
      (b.completes k = false →
        s.agenda.exchanged.toNat + (b.involves k).toNat ≤ t.agenda.exchanged.toNat) := by
  cases becomes with
  | stays elsewhere =>
    obtain ⟨other, apart⟩ := elsewhere b rfl
    have alone : b.involves k = false := by
      cases met : b.partner with
      | none => simp [Beat.involves, met]
      | some j =>
        have beside : j ≠ k := fun same => apart (met.trans (congrArg some same))
        simp [Beat.involves, met, other, beside]
    simp [alone]
  | begins going next => simp [Beat.involves, Stream.begin]
  | acts going next => simp [Beat.involves, Stream.continueWith]
  | completes going next => simp [Beat.involves, Beat.completes, Beat.performed?]
  | exchanges going next apart there =>
    simp [Beat.involves, Beat.completes, Beat.performed?, Stream.takeRemaining]
  | met going fresh apart there next => simp [Beat.involves, Stream.takeRemaining, fresh]
  | ends going next => simp [Beat.involves, Stream.finish]

/-- The marks of a stream go on agreeing with the history. -/
theorem marked_of_becomes (marked : s.Marked k past) (becomes : Becomes now k s beat t) :
    t.Marked k (past ++ beat.toList) := by
  cases beat with
  | none =>
    obtain rfl : t = s := by
      cases becomes
      rfl
    simpa using marked
  | some b =>
    obtain ⟨after, kept⟩ := mark_of_becomes becomes
    intro before during split within
    -- The stretch is empty, consists of the beat alone, or extends one that was there before.
    rcases List.eq_nil_or_concat during with rfl | ⟨earlier, last, rfl⟩
    · exact Nat.zero_le _
    rw [List.concat_eq_append] at within split ⊢
    obtain ⟨before_eq, last_eq⟩ := List.append_inj' (split.trans (List.append_assoc ..).symm) rfl
    obtain rfl : b = last := by simpa using last_eq
    rw [History.meetings_concat]
    by_cases first : earlier = []
    · subst first
      simpa [History.meetings] using after
    · have same := kept (within.completes_eq_false first)
      have bound := marked before earlier before_eq within.of_concat
      omega

/-- An exchange leaves two marks more, and no other move takes any away. -/
theorem marks_of_moves (moves : now.Moves turn beat next) :
    tally Stream.marks now.run.streams + 2 * History.exchanges beat.toList ≤
      tally Stream.marks next.run.streams := by
  -- A stream that does something on its own has no fewer marks after it.
  have alone {i : Nat} {s t : Stream} (here : now.run.streams[i]? = some s)
      (more : s.marks ≤ t.marks) :
      tally Stream.marks now.run.streams ≤ tally Stream.marks (now.run.streams.set i t) := by
    have replaced := tally_set Stream.marks t here
    omega
  cases moves with
  | rests | hosts => exact Nat.le_refl _
  | begins here going next =>
    refine alone here (Nat.le_of_eq ?_)
    simp [Stream.marks, Stream.begin]
  | acts here going next => exact alone here (Nat.le_refl _)
  | ends here going next => exact alone here (Nat.le_refl _)
  | @completes i clock s b here going next unmet =>
    exact alone here (Nat.le_trans s.le_marks.2 s.complete.le_marks.1)
  | @exchanges i j clock s t b radius here going next apart there hero met =>
    have second : (now.run.streams.set i (s.complete.takeRemaining t))[j]? = some t := by
      rw [List.getElem?_set_ne apart.symm, there]
    have replaced := tally_set Stream.marks (s.complete.takeRemaining t) here
    have replaced' := tally_set Stream.marks (t.takeRemaining s.complete) second
    have own : (s.complete.takeRemaining t).marks = s.executed + 2 := rfl
    have other : (t.takeRemaining s.complete).marks = t.marks + 1 := by
      simp [Stream.marks, Stream.takeRemaining, met.fresh]
    have bound := s.le_marks.2
    rw [Option.toList_some, History.exchanges_singleton, Option.isSome_some, Bool.toNat_true]
    dsimp only
    omega

/-- A run counts the exchange that is made in a turn. -/
theorem swaps_of_moves (moves : now.Moves turn beat next) :
    next.run.swaps = now.run.swaps + History.exchanges beat.toList := by
  cases moves <;> rfl

/-! ## Whole runs -/

section Runs

variable (settings : Settings) (heroMode : Bool) (scripts : List (SpriteId × Script)) (cast : Cast)
  (turns : List Turn)

/-- The marks of the streams of every scene that is reached agree with the history. -/
theorem marked_play :
    let start := opening settings heroMode scripts cast
    ∀ (i : Nat) (s : Stream), (start.play turns).run.streams[i]? = some s →
      s.Marked i (start.beats turns) := by
  intro start
  refine history_induction (motive := fun past now =>
    ∀ (i : Nat) (s : Stream), now.run.streams[i]? = some s → s.Marked i past) ?_ ?_
  · intro i s here before during split within
    obtain ⟨rfl, rfl⟩ := List.nil_eq_append_iff.1 split
    exact Nat.zero_le _
  · intro past now turn beat next _ marked moves i t there
    obtain ⟨s, here, becomes⟩ := became_of_moves moves there
    exact marked_of_becomes (marked i s here) becomes

/-- Every exchange is counted, and for each there are two marks. -/
theorem swaps_play :
    let start := opening settings heroMode scripts cast
    let now := start.play turns
    now.run.swaps = (start.beats turns).exchanges ∧
      2 * now.run.swaps ≤ tally Stream.marks now.run.streams := by
  intro start
  refine history_induction (motive := fun past now => now.run.swaps = past.exchanges ∧
    2 * now.run.swaps ≤ tally Stream.marks now.run.streams) ⟨rfl, Nat.zero_le _⟩ ?_
  rintro past now turn beat next - ⟨counted, enough⟩ moves
  have more := swaps_of_moves moves
  have marks := marks_of_moves moves
  refine ⟨?_, by omega⟩
  rw [History.exchanges_append, more, counted]

/-- There is one stream for each script. -/
theorem length_streams_play_opening :
    ((opening settings heroMode scripts cast).play turns).run.streams.length = scripts.length :=
  (length_streams_play _ _).trans (List.length_map _)

/-- In one step a stream takes part in at most one exchange, whether it completes its block or is
met: between two of its completions, the first one included, and before its first one. So a report
counts at most half as many exchanges as there are performed blocks and streams. -/
theorem met_once_in_a_step :
    let start := opening settings heroMode scripts cast
    let now := start.play turns
    let past := start.beats turns
    (∀ k < scripts.length, ∀ before during after, past = before ++ during ++ after →
        History.WithinStep k during → during.meetings k ≤ 1) ∧
      now.run.swaps = past.exchanges ∧
      ∀ duration,
        2 * (now.run.report duration).swaps ≤ (now.run.report duration).total + scripts.length := by
  intro start now past
  obtain ⟨counted, enough⟩ := swaps_play settings heroMode scripts cast turns
  refine ⟨fun k within before during after split step => ?_, counted, fun duration => ?_⟩
  · -- At the end of the stretch, the mark of the stream bounds its meetings.
    obtain ⟨earlier, later, rfl, first, -⟩ := exists_turns_of_beats_eq split
    have there : k < (start.play earlier).run.streams.length := by
      rwa [length_streams_play_opening]
    have marked := marked_play settings heroMode scripts cast earlier k _
      (List.getElem?_eq_getElem there)
    exact Nat.le_trans (marked before during first step) (Bool.toNat_le _)
  · have most : tally Stream.marks now.run.streams ≤
        tally (·.executed) now.run.streams + now.run.streams.length :=
      tally_le_tally_add_length fun s _ => s.le_marks.2
    rw [length_streams_play_opening] at most
    have total : (now.run.report duration).total = tally (·.executed) now.run.streams :=
      tally_map ..
    rw [total]
    exact Nat.le_trans enough most

end Runs

/-- In a duet, the first stream is met once before it completes its first block, and once between
its two completions. -/
theorem met_once_in_a_step_duet :
    let past := (opening {} true Workspace.duet.castScripts Workspace.duet.cast).beats
      (Turn.alternating 20)
    History.meetings 0 (past.take 8) = 1 ∧ History.meetings 0 ((past.drop 8).take 14) = 1 ∧
      past.exchanges = 2 := by
  intro past
  have whole := met_once_in_a_step {} true Workspace.duet.castScripts Workspace.duet.cast
    (Turn.alternating 20)
  have first := whole.1 0 (by decide +kernel) [] (past.take 8) (past.drop 8)
    (List.take_append_drop 8 past).symm (by decide +kernel)
  have second := whole.1 0 (by decide +kernel) (past.take 8) ((past.drop 8).take 14)
    ((past.drop 8).drop 14) (by rw [List.append_assoc, List.take_append_drop,
      List.take_append_drop]) (by decide +kernel)
  have met : 0 < History.meetings 0 (past.take 8) := by decide +kernel
  have met' : 0 < History.meetings 0 ((past.drop 8).take 14) := by decide +kernel
  exact ⟨by omega, by omega, whole.2.1.symm.trans (by decide +kernel)⟩

end Scene

end Troupe
