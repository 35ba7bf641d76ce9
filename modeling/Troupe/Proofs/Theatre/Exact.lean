import Troupe.Proofs.Theatre.Timely

/-!
# Exact clocks

On an exact clock, pauses last exactly as long as they are asked for, and nothing else takes time
(`Chronicle.Exact`). The clock of a theatre is exact (`Theatre.Reached.exact`).
-/

namespace Troupe

namespace Chronicle

/-- The moments of the stream of a cue. -/
def ofCue (cue : Cue) (past : Chronicle) : Chronicle := past.filter (·.cue = cue)

/-- Between two moments of a stream, one right after the other, as much time passes as the stream
pauses for at the first one. -/
def Exact (past : Chronicle) : Prop :=
  ∀ cue ∈ past.map (·.cue), ∀ pair ∈ (past.ofCue cue).zip (past.ofCue cue).tail,
    pair.2.clock = pair.1.clock + pair.1.beat.pause?.getD 0

/-- Whether a chronicle is on an exact clock is told moment by moment. -/
instance (past : Chronicle) : Decidable past.Exact :=
  inferInstanceAs (Decidable (∀ cue ∈ past.map (·.cue),
    ∀ pair ∈ (past.ofCue cue).zip (past.ofCue cue).tail,
      pair.2.clock = pair.1.clock + pair.1.beat.pause?.getD 0))

variable {cue : Cue} {past before after : Chronicle} {m m' : Moment}

/-- What is told of a stream goes on with what happens later. -/
theorem ofCue_append (cue : Cue) (past later : Chronicle) :
    ofCue cue (past ++ later) = ofCue cue past ++ ofCue cue later :=
  List.filter_append ..

/-- Of other streams, nothing is told about the one of a cue. -/
theorem ofCue_eq_nil (elsewhere : ∀ m ∈ past, m.cue ≠ cue) : past.ofCue cue = [] :=
  List.filter_eq_nil_iff.2 fun m member => by simpa using elsewhere m member

/-- What the stream of a cue did. -/
theorem map_beat_ofCue (cue : Cue) (past : Chronicle) :
    (past.ofCue cue).map (·.beat) = (past.ofRun cue.run).ofStream cue.stream := by
  rw [ofRun, History.ofStream, List.filter_map, List.filter_filter, ofCue]
  refine congrArg _ (List.filter_congr fun m _ => ?_)
  obtain ⟨run, stream⟩ := cue
  simp [Moment.cue, Bool.and_comm]

/-- A stream of which nothing is told has not paused. -/
theorem paused_of_ofCue_eq_nil (silent : past.ofCue cue = []) : past.paused cue = 0 := by
  rw [paused, ← map_beat_ofCue, silent]
  rfl

/-- Two moments are next to each other in a chronicle when one is told of right after the other. -/
theorem mem_zip_tail_iff :
    (m, m') ∈ past.zip past.tail ↔ ∃ before after, past = before ++ m :: m' :: after := by
  constructor
  · intro adjacent
    induction past with
    | nil => exact nomatch adjacent
    | cons first rest ih =>
      cases rest with
      | nil => exact nomatch adjacent
      | cons second rest =>
        rcases List.mem_cons.1 adjacent with same | later
        · obtain ⟨rfl, rfl⟩ := Prod.mk.inj same
          exact ⟨[], rest, rfl⟩
        · obtain ⟨before, after, parts⟩ := ih later
          exact ⟨first :: before, after, congrArg (first :: ·) parts⟩
  · rintro ⟨before, after, rfl⟩
    induction before with
    | nil => exact List.mem_cons_self
    | cons first rest ih => cases rest <;> exact List.mem_cons_of_mem _ ih

/-- On an exact clock, a stream goes on as soon as its pause is over. -/
theorem Exact.clock_eq (exact : past.Exact) (told : past.ofCue cue = before ++ m :: m' :: after) :
    m'.clock = m.clock + m.beat.pause?.getD 0 := by
  have member : m ∈ past.ofCue cue := by simp [told]
  obtain ⟨there, own⟩ := List.mem_filter.1 member
  obtain rfl : m.cue = cue := by simpa using own
  refine exact m.cue (List.mem_map_of_mem there) (m, m') ?_
  exact mem_zip_tail_iff.2 ⟨before, after, told⟩

/-- Between two moments of a stream, one right after the other, only other streams do something. -/
theorem exists_of_mem_zip_tail
    (adjacent : (m, m') ∈ (past.ofCue cue).zip (past.ofCue cue).tail) :
    ∃ before between after, past = before ++ m :: (between ++ m' :: after) ∧ m.cue = cue ∧
      m'.cue = cue ∧ ofCue cue between = [] := by
  obtain ⟨earlier, later, told⟩ := mem_zip_tail_iff.1 adjacent
  obtain ⟨first, others, rfl, -, told⟩ := List.filter_eq_append_iff.1 told
  obtain ⟨before, others, rfl, -, own, told⟩ := List.filter_eq_cons_iff.1 told
  obtain ⟨between, after, rfl, silent, own', -⟩ := List.filter_eq_cons_iff.1 told
  exact ⟨first ++ before, between, after, by simp, by simpa using own, by simpa using own',
    List.filter_eq_nil_iff.2 silent⟩

end Chronicle

/-- The clock of a theatre is exact. -/
theorem Theatre.Reached.exact {t : Theatre} {past : Chronicle} (reached : t.Reached past) :
    past.Exact := by
  rintro cue - ⟨m, m'⟩ adjacent
  obtain ⟨before, between, after, rfl, own, own', silent⟩ :=
    Chronicle.exists_of_mem_zip_tail adjacent
  have number : m'.run = m.run := by
    rw [← own'] at own
    exact (congrArg Cue.run own).symm
  obtain ⟨p, there⟩ : ∃ p, t.productions[m.run]? = some p :=
    ⟨_, List.getElem?_eq_getElem (reached.heard m (by simp))⟩
  have first := reached.timely.prompt before m (between ++ m' :: after) rfl p there
  have second := reached.timely.prompt (before ++ m :: between) m' after (by simp) p
    (number ▸ there)
  have still : Chronicle.paused cue [m] = m.beat.pause?.getD 0 := by
    rw [Chronicle.paused_singleton, if_pos own]
  have parts : before ++ m :: between = before ++ [m] ++ between := by simp
  rw [own] at first
  rw [own', parts, Chronicle.paused_append, Chronicle.paused_append, still,
    Chronicle.paused_of_ofCue_eq_nil silent, Nat.add_zero, ← Nat.add_assoc, ← first] at second
  exact second

end Troupe
