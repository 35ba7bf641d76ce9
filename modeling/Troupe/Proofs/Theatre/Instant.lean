import Troupe.Proofs.Run.Meetings
import Troupe.Proofs.Theatre.Timely

/-!
# Exchanges at one instant

At one instant a stream may complete several blocks, as blocks without a pause take no time. Each
completion takes the mark of the stream away, so that it may be met again. So two streams may
exchange their remaining blocks more than once at an instant, but then one of them completes as many
blocks at that instant, and the other one all but one of these (`Theatre.exchanges_at_an_instant`).
In particular they do so at most once when neither of them completes a second block.
-/

namespace Troupe

/-- Whether the streams at two places exchanged their remaining blocks. -/
def Beat.isBetween (i j : Nat) (beat : Beat) : Bool :=
  (decide (beat.place = i) && decide (beat.partner = some j)) ||
    (decide (beat.place = j) && decide (beat.partner = some i))

namespace History

/-- How often the streams at two places exchanged their remaining blocks with each other. -/
def exchangesBetween (i j : Nat) (history : History) : Nat := history.countP (Beat.isBetween i j)

/-- How many blocks the stream at a place completed. -/
def completions (k : Nat) (history : History) : Nat := history.countP (Beat.completes k)

variable {past : History} {beat : Beat} {i j k : Nat}

/-- One further beat adds an exchange between two streams if it makes one. -/
theorem exchangesBetween_concat :
    exchangesBetween i j (past ++ [beat]) =
      exchangesBetween i j past + (beat.isBetween i j).toNat := by
  cases between : beat.isBetween i j <;> simp [exchangesBetween, List.countP_append, between]

/-- One further beat adds a completion if it completes a block of the stream. -/
theorem completions_concat :
    completions k (past ++ [beat]) = completions k past + (beat.completes k).toNat := by
  cases completes : beat.completes k <;> simp [completions, List.countP_append, completes]

end History

/-- What happened at a time. -/
def Chronicle.at (time : Nat) (chronicle : Chronicle) : Chronicle :=
  chronicle.filter (·.clock = time)

/-! ## Two streams -/

/-- A stream completed as many blocks as it had exchanges with another one, and `spare` more. If it
is marked, it may still have to complete one of them. -/
def Stream.Paid (spare i j k : Nat) (s : Stream) (past : History) : Prop :=
  past.exchangesBetween i j + spare ≤ past.completions k + s.agenda.exchanged.toNat

namespace Scene

variable {now next : Scene} {turn : Turn} {beat : Option Beat} {past : History} {i j k : Nat}
  {s t : Stream}

/-- Both streams take part in an exchange between them. -/
theorem involves_of_isBetween {b : Beat} (between : b.isBetween i j = true) :
    b.involves i = true ∧ b.involves j = true := by
  simp only [Beat.isBetween, Bool.or_eq_true, Bool.and_eq_true, decide_eq_true_eq] at between
  rcases between with ⟨place, partner⟩ | ⟨place, partner⟩ <;>
    simp [Beat.involves, place, partner]

/-- One of two streams that exchange their remaining blocks completes a block. -/
theorem completes_of_isBetween {b : Beat} (moves : now.Moves turn (some b) next)
    (between : b.isBetween i j = true) : b.completes i = true ∨ b.completes j = true := by
  simp only [Beat.isBetween, Bool.or_eq_true, Bool.and_eq_true, decide_eq_true_eq] at between
  cases moves with
  | begins | acts | completes | ends => simp at between
  | exchanges here going next apart there hero met =>
    rcases between with ⟨rfl, -⟩ | ⟨rfl, -⟩ <;> simp [Beat.completes, Beat.performed?]

/-- Whatever a stream becomes, its exchanges are paid for. -/
theorem paid_of_becomes {spare : Nat} (paid : s.Paid spare i j k past)
    (becomes : Becomes now k s beat t)
    (part : ∀ b ∈ beat, b.isBetween i j = true → b.involves k = true) :
    t.Paid spare i j k (past ++ beat.toList) := by
  cases beat with
  | none =>
    obtain rfl : t = s := by
      cases becomes
      rfl
    simpa using paid
  | some b =>
    obtain ⟨after, kept⟩ := mark_of_becomes becomes
    have share : (b.isBetween i j).toNat ≤ (b.involves k).toNat := by
      cases between : b.isBetween i j with
      | false => exact Nat.zero_le _
      | true => exact Nat.le_of_eq (congrArg Bool.toNat (part b rfl between).symm)
    have bound := Bool.toNat_le s.agenda.exchanged
    simp only [Stream.Paid] at paid ⊢
    rw [Option.toList_some, History.exchangesBetween_concat, History.completions_concat]
    cases completes : b.completes k with
    | false =>
      have same := kept completes
      rw [Bool.toNat_false]
      omega
    | true =>
      rw [Bool.toNat_true]
      omega

/-- The first exchange between two streams is paid for, with one to spare, by the one that completes
a block. -/
theorem paid_of_first {b : Beat} (none : past.exchangesBetween i j = 0)
    (becomes : Becomes now k s (some b) t) (completes : b.completes k = true)
    (involves : b.involves k = true) : t.Paid 1 i j k (past ++ [b]) := by
  have marked := (mark_of_becomes becomes).1
  have once := Bool.toNat_le (b.isBetween i j)
  rw [involves, Bool.toNat_true] at marked
  rw [Stream.Paid, History.exchangesBetween_concat, History.completions_concat, completes, none,
    Bool.toNat_true]
  omega

/-- In any stretch of a run, two streams exchange their remaining blocks with each other at most as
often as one of them completes a block, and at most once more than the other one does. -/
theorem exchangesBetween_beats (start : Scene) (turns : List Turn)
    (first : i < start.run.streams.length) (second : j < start.run.streams.length) :
    (start.beats turns).exchangesBetween i j ≤
        max ((start.beats turns).completions i) ((start.beats turns).completions j) ∧
      (start.beats turns).exchangesBetween i j ≤
        min ((start.beats turns).completions i) ((start.beats turns).completions j) + 1 := by
  rw [← length_streams_play start turns] at first second
  suffices all : ∀ s t, (start.play turns).run.streams[i]? = some s →
      (start.play turns).run.streams[j]? = some t →
      s.Paid 0 i j i (start.beats turns) ∧ t.Paid 0 i j j (start.beats turns) ∧
        ((start.beats turns).exchangesBetween i j = 0 ∨ s.Paid 1 i j i (start.beats turns) ∨
          t.Paid 1 i j j (start.beats turns)) by
    have bounds := all _ _ (List.getElem?_eq_getElem first) (List.getElem?_eq_getElem second)
    have mark := Bool.toNat_le ((start.play turns).run.streams[i]).agenda.exchanged
    have mark' := Bool.toNat_le ((start.play turns).run.streams[j]).agenda.exchanged
    simp only [Stream.Paid] at bounds
    omega
  refine history_induction (motive := fun past now =>
    ∀ s t, now.run.streams[i]? = some s → now.run.streams[j]? = some t →
      s.Paid 0 i j i past ∧ t.Paid 0 i j j past ∧
        (past.exchangesBetween i j = 0 ∨ s.Paid 1 i j i past ∨ t.Paid 1 i j j past)) ?_ ?_
  · intro s t here there
    exact ⟨Nat.zero_le _, Nat.zero_le _, .inl rfl⟩
  · intro past now turn beat next _ paid moves s' t' here' there'
    obtain ⟨s, here, becomes⟩ := became_of_moves moves here'
    obtain ⟨t, there, becomes'⟩ := became_of_moves moves there'
    obtain ⟨own, other, more⟩ := paid s t here there
    have part : ∀ b ∈ beat, b.isBetween i j = true → b.involves i = true :=
      fun b _ between => (involves_of_isBetween between).1
    have part' : ∀ b ∈ beat, b.isBetween i j = true → b.involves j = true :=
      fun b _ between => (involves_of_isBetween between).2
    refine ⟨paid_of_becomes own becomes part, paid_of_becomes other becomes' part', ?_⟩
    rcases more with none | spare | spare
    · cases beat with
      | none => exact .inl (by simpa using none)
      | some b =>
        cases between : b.isBetween i j with
        | false =>
          refine .inl ?_
          rw [Option.toList_some, History.exchangesBetween_concat, none, between]
          rfl
        | true =>
          rcases completes_of_isBetween moves between with completes | completes
          · exact .inr (.inl (paid_of_first none becomes completes (part b rfl between)))
          · exact .inr (.inr (paid_of_first none becomes' completes (part' b rfl between)))
    · exact .inr (.inl (paid_of_becomes spare becomes part))
    · exact .inr (.inr (paid_of_becomes spare becomes' part'))

end Scene

/-! ## One instant -/

/-- When nothing that meets a condition follows on something that does not, what meets it comes
first. -/
theorem eq_filter_append_filter_not {α : Type} {meets : α → Bool} {l : List α}
    (ordered : l.Pairwise fun x y => meets y → meets x) :
    l = l.filter meets ++ l.filter (!meets ·) := by
  induction l with
  | nil => rfl
  | cons x rest ih =>
    obtain ⟨first, others⟩ := List.pairwise_cons.1 ordered
    cases own : meets x with
    | true =>
      rw [List.filter_cons_of_pos own, List.filter_cons_of_neg (by simp [own]), List.cons_append]
      exact congrArg (x :: ·) (ih others)
    | false =>
      have fails (y : α) (member : y ∈ rest) : ¬meets y :=
        fun later => by simp [first y member later] at own
      rw [List.filter_cons_of_neg (by simp [own]), List.filter_cons_of_pos (by simp [own]),
        List.filter_eq_nil_iff.2 fails, List.nil_append]
      exact congrArg (x :: ·) (List.filter_eq_self.2 fun y member => by simp [fails y member]).symm

/-- What happened in order consists of what happened before a time, at it, and after it. -/
theorem Chronicle.eq_append_at {chronicle : Chronicle}
    (sorted : chronicle.Pairwise fun m m' => m.clock ≤ m'.clock) (time : Nat) :
    chronicle = chronicle.filter (·.clock < time) ++
      (chronicle.at time ++ chronicle.filter (time < ·.clock)) := by
  have earlier : chronicle.Pairwise fun m m' =>
      decide (m'.clock < time) → decide (m.clock < time) :=
    sorted.imp fun before => by simpa using Nat.lt_of_le_of_lt before
  have sooner : chronicle.Pairwise fun m m' =>
      decide (m'.clock ≤ time) → decide (m.clock ≤ time) :=
    sorted.imp fun before => by simpa using Nat.le_trans before
  have now := eq_filter_append_filter_not (sooner.filter fun m => !decide (m.clock < time))
  simp only [List.filter_filter] at now
  refine (eq_filter_append_filter_not earlier).trans (congrArg _ (now.trans ?_))
  congr 1
  · exact List.filter_congr fun m _ => by grind
  · exact List.filter_congr fun m _ => by grind

namespace Theatre

/-- Two streams exchange their remaining blocks with each other at one instant at most as often as
one of them completes a block at that instant, and at most once more than the other one does. So
when neither of them completes a second block, they do so at most once. -/
theorem exchanges_at_an_instant (workspace : Workspace) (stopwatch : Nat → Nat) (acts : List Act)
    (heroMode : Bool) (scripts : List (SpriteId × Script)) (later : List Act) (time : Nat) :
    let t := (ofWorkspace workspace stopwatch).after acts
    let launched := (t.launch heroMode scripts).state
    let instant := ((launched.chronicle later).at time).ofRun t.productions.length
    ∀ i < scripts.length, ∀ j < scripts.length,
      instant.exchangesBetween i j ≤ max (instant.completions i) (instant.completions j) ∧
        instant.exchangesBetween i j ≤ min (instant.completions i) (instant.completions j) + 1 := by
  intro t launched instant i first j second
  have reached : t.Reached _ := reached_after workspace stopwatch acts
  have ordered := ((reached.after [.launch heroMode scripts]).after later).clocked.moments
  have sorted : (launched.chronicle later).Pairwise fun m m' => m.clock ≤ m'.clock :=
    (List.pairwise_append.1 ordered).2.1
  let opened : Production :=
    { run := .ofScripts t.workspace.settings heroMode scripts, start := t.clock }
  have here : launched.productions[t.productions.length]? = some opened :=
    t.productions_launch heroMode scripts
  obtain ⟨turns, p, -, -, -, past⟩ := exists_turns here later
  -- The instant is a stretch of the history of the run.
  have parts := Chronicle.eq_append_at sorted time
  rw [parts, Chronicle.ofRun_append, Chronicle.ofRun_append] at past
  obtain ⟨before, after, rfl, -, rest⟩ := Scene.exists_turns_of_beats_eq past
  obtain ⟨during, last, rfl, did, -⟩ := Scene.exists_turns_of_beats_eq rest
  have streams : ((launched.scene opened).play before).run.streams.length = scripts.length :=
    (Scene.length_streams_play _ _).trans (List.length_map _)
  rw [← streams] at first second
  have bounds := Scene.exchangesBetween_beats _ during first second
  rw [did] at bounds
  exact bounds

end Theatre

/-- Two sprites on one spot, in hero mode. Both start with a shift. -/
def Workspace.pair : Workspace where
  cast := ⟨[.create (.ofNat 0) .cat ⟨100, 100⟩, .create (.ofNat 1) .dog ⟨100, 100⟩]⟩
  scripts id := if id = .ofNat 0 then [.move 0, .turn 1] else [.move 0, .turn 2, .move 0]
  heroMode := true

namespace Theatre

/-- When the rests of a pair are over, the first sprite completes two blocks and the second one
completes one, so they exchange their remaining blocks twice at most. -/
theorem exchanges_at_an_instant_pair :
    let launched := ((ofWorkspace .pair id).launch true Workspace.pair.castScripts).state
    let instant := ((launched.chronicle (List.replicate 30 .goOn)).at 500).ofRun 0
    instant.completions 0 = 2 ∧ instant.completions 1 = 1 ∧ instant.exchangesBetween 0 1 ≤ 2 := by
  intro launched instant
  have first : instant.completions 0 = 2 := by decide +kernel
  have second : instant.completions 1 = 1 := by decide +kernel
  have whole := exchanges_at_an_instant .pair id [] true Workspace.pair.castScripts
    (List.replicate 30 .goOn) 500 0 (by decide +kernel) 1 (by decide +kernel)
  have bound : instant.exchangesBetween 0 1 ≤
      max (instant.completions 0) (instant.completions 1) := whole.1
  exact ⟨first, second, by omega⟩

/-- Both sprites of a pair rest after a shift, up to the same instant. Then they exchange their
remaining blocks, and exchange them again at that instant: the first sprite turns at once, as the
second one would have, and may be met again before the second one has done anything else. -/
theorem pair_exchanges_twice_at_an_instant :
    let launched := ((ofWorkspace .pair id).launch true Workspace.pair.castScripts).state
    let past := launched.chronicle (List.replicate 30 .goOn)
    let instant := (past.at 500).ofRun 0
    ((past.at 0).ofRun 0).actions.filterMap Action.pause? = [500, 500] ∧
      (instant.ofStream 0).performed.map (·.kind) = [.move, .turn] ∧
      (instant.ofStream 1).performed.map (·.kind) = [.move] ∧
      instant.exchangesBetween 0 1 = 2 ∧
      (ofWorkspace .pair id).play.answer.map (·.swaps) = some 2 := by
  decide +kernel

end Theatre

end Troupe
