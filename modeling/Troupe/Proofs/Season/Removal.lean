import Troupe.Proofs.Run.Absence
import Troupe.Proofs.Season.Ledger

/-!
# Sprites that leave during a run

A sprite that leaves never comes back, as no identity is given twice. So its streams go on without
it: each works off its block and those that remained to it when its sprite left, meets nobody,
changes nothing and is reported in its place (`Season.works_off_after_leaving`).
-/

namespace Troupe

/-! ## Sprites that left -/

/-- A sprite that left is not on the stage later, when no identity is given twice. -/
theorem Journal.Fresh.left {journal later : Journal} {entry : Entry} {id : SpriteId}
    (fresh : Fresh (journal ++ entry :: later)) (there : id ∈ journal.onStage.map Prod.fst)
    (left : entry.removed? = some id) :
    id ∉ (onStage (journal ++ entry :: later)).map Prod.fst := by
  intro back
  obtain ⟨part, member, rfl⟩ := List.mem_map.1 back
  rw [onStage_append] at member
  rcases List.mem_append.1 member with old | new
  · -- It was there before, and the entry tells that it left.
    have stays := (List.mem_filter.1 old).2
    simp [left] at stays
  · -- It came on later, with an identity that was given before.
    have first : part.1 ∈ journal.added.map Prod.fst :=
      (journal.onStage_sublist.map Prod.fst).subset there
    have second : part.1 ∈ (added (entry :: later)).map Prod.fst :=
      List.mem_map_of_mem ((onStage_sublist _).subset new)
    rw [Fresh, added_append, List.map_append] at fresh
    exact (List.nodup_append.1 fresh).2.2 _ first _ second rfl

/-- When a sprite on the stage is removed, the journal tells that it left. -/
theorem Workspace.removed?_entry_remove {w : Workspace} {id : SpriteId} (there : id ∈ w.cast.ids) :
    (w.entry (.remove id)).removed? = some id := by
  obtain ⟨s, found⟩ := Option.isSome_iff_exists.1 (Cast.find?_isSome_iff.2 there)
  simp only [entry, operate, remove, found]
  rfl

/-- Whether the stream at a place of a run makes its next step. -/
def Happening.isOf (number k : Nat) : Happening → Bool
  | .steps own place _ => own = number && place = k
  | _ => false

namespace Season

variable {now : Season} {number : Nat}

/-- After a sprite left, it is not on the stage at any time. -/
theorem not_mem_ids_of_left (settings : Settings) (palette : Palette)
    (happenings later : List Happening) {id : SpriteId}
    (there : id ∈ ((opening settings palette).after happenings).workspace.cast.ids)
    (fresh : ((opening settings palette).journal
      (happenings ++ .operates (.remove id) :: later)).Fresh) (n : Nat) :
    id ∉ ((opening settings palette).after
      (happenings ++ .operates (.remove id) :: later.take n)).workspace.cast.ids := by
  have whole : happenings ++ .operates (.remove id) :: later =
      (happenings ++ .operates (.remove id) :: later.take n) ++ later.drop n := by
    rw [List.append_assoc, List.cons_append, List.take_append_drop]
  rw [whole, journal_append] at fresh
  have fresh := fresh.of_append
  have agrees := agrees_after settings palette _ fresh
  have before : ((opening settings palette).journal happenings).Fresh := by
    rw [journal_append] at fresh
    exact fresh.of_append
  rw [Cast.ids_eq_map_part, agrees.stage, journal_append]
  rw [journal_append] at fresh
  refine fresh.left ?_ (Workspace.removed?_entry_remove there)
  rwa [← (agrees_after settings palette happenings before).stage, ← Cast.ids_eq_map_part]

/-! ## Turns of a stream -/

/-- The turns of the first happenings are the first turns. -/
theorem turnsOf_take (now : Season) (number n : Nat) (happenings : List Happening) :
    now.turnsOf number (happenings.take n) = (now.turnsOf number happenings).take n := by
  induction happenings generalizing now n with
  | nil => simp [turnsOf]
  | cons happening rest ih =>
    cases n with
    | zero => rfl
    | succ n => rw [List.take_succ_cons, turnsOf, turnsOf, List.take_succ_cons, ih]

/-- A stream has as many turns in the scene of its run as it makes steps. -/
theorem countP_turnsOf (now : Season) (number k : Nat) (happenings : List Happening) :
    (now.turnsOf number happenings).countP (Turn.isOf k) =
      happenings.countP (Happening.isOf number k) := by
  induction happenings generalizing now with
  | nil => rfl
  | cons happening rest ih =>
    have same : (now.turnOf number happening).isOf k = happening.isOf number k := by
      cases happening with
      | operates | launches => rfl
      | steps own place clock =>
        by_cases run : own = number <;> simp [turnOf, Turn.isOf, Happening.isOf, run]
    rw [turnsOf, List.countP_cons, List.countP_cons, same, ih]

/-- A run that is launched goes on with one stream for each script, in order, and its streams agree
with what they did. -/
theorem exists_run_of_launches (now : Season) (heroMode : Bool)
    (scripts : List (SpriteId × Script)) (happenings : List Happening) :
    let launched := now.next (.launches heroMode scripts)
    ∃ run, (launched.after happenings).runs[now.runs.length]? = some run ∧ run.Sound ∧
      run.movePause = now.workspace.settings.movePause.toNat ∧
      run.streams.map (·.agenda.sprite) = scripts.map Prod.fst ∧
      ∀ (k : Nat) (s : Stream), run.streams[k]? = some s →
        s.Recorded run.movePause
          (((launched.chronicle happenings).ofRun now.runs.length).ofStream k) := by
  intro launched
  let start := Scene.opening now.workspace.settings heroMode scripts now.workspace.cast
  obtain ⟨run, there, played, past⟩ :=
    exists_run_after (now.runs_launches heroMode scripts) happenings
  have reached : (start.play (launched.turnsOf now.runs.length happenings)).run = run :=
    congrArg Scene.run played
  have history : start.beats (launched.turnsOf now.runs.length happenings) =
    (launched.chronicle happenings).ofRun now.runs.length := past
  obtain ⟨sound, same, recorded⟩ := Scene.recorded_play now.workspace.settings heroMode scripts
    now.workspace.cast (launched.turnsOf now.runs.length happenings)
  have performers := start.map_sprite_play (launched.turnsOf now.runs.length happenings)
  rw [reached] at sound same recorded performers
  refine ⟨run, there, sound, same, performers.trans (Run.map_sprite_ofScripts ..),
    fun k s here => ?_⟩
  rw [← history, same]
  exact recorded k s here

/-- While its sprite is not on the stage, a stream of a run in a season keeps its blocks, takes part
in no exchange, and has ended when it made as many steps as it had left. -/
theorem exists_stream_of_absent {gone : Season} {run : Run} {k : Nat} {s : Stream}
    {later : List Happening} (here : gone.runs[number]? = some run)
    (place : run.streams[k]? = some s)
    (absent : ∀ n, s.agenda.sprite ∉ (gone.after (later.take n)).workspace.cast.ids) :
    ∃ run' t, (gone.after later).runs[number]? = some run' ∧ run'.streams[k]? = some t ∧
      t.agenda.sprite = s.agenda.sprite ∧ t.agenda.blocks = s.agenda.blocks ∧
      (∀ b ∈ (gone.chronicle later).ofRun number, b.involves k = false) ∧
      (s.stepsLeft run.movePause ≤ later.countP (Happening.isOf number k) → t.ended = true) := by
  have apart (n : Nat) : s.agenda.sprite ∉
      ((gone.scene run).play ((gone.turnsOf number later).take n)).cast.ids := by
    obtain ⟨_, -, played, -⟩ := exists_run_after here (later.take n)
    rw [← turnsOf_take, played]
    exact absent n
  obtain ⟨run', there, played, past⟩ := exists_run_after here later
  obtain ⟨t, place', sprite, blocks, alone, -, enough⟩ := Scene.play_of_absent place apart
  rw [played] at place'
  rw [past] at alone
  rw [countP_turnsOf] at enough
  refine ⟨run', t, there, place', sprite, blocks, alone, fun turns => ?_⟩
  rcases enough with ended | fewer
  · exact ended
  · have bound : t.stepsLeft run.movePause + later.countP (Happening.isOf number k) ≤
      s.stepsLeft run.movePause := fewer
    have none : t.stepsLeft run.movePause = 0 := by omega
    exact Scene.ended_of_stepsLeft_eq_zero none

/-- What a stream does for a sprite that is not on the stage changes nothing in the workspace. -/
theorem workspace_steps_of_absent {run : Run} {k : Nat} {s : Stream}
    (here : now.runs[number]? = some run) (place : run.streams[k]? = some s)
    (absent : s.agenda.sprite ∉ now.workspace.cast.ids) (clock : Nat) :
    (now.next (.steps number k clock)).workspace = now.workspace := by
  have still : ((now.scene run).turn (.stream k clock)).cast = now.workspace.cast :=
    Scene.cast_turn_of_absent place absent clock
  simp only [next, here, setScene, still]

/-- The scripts to perform are listed in the order in which their sprites came on. -/
theorem castScripts_sublist (settings : Settings) (palette : Palette) (happenings : List Happening)
    (fresh : ((opening settings palette).journal happenings).Fresh) :
    (((opening settings palette).after happenings).workspace.castScripts.map Prod.fst).Sublist
      (((opening settings palette).journal happenings).added.map Prod.fst) := by
  rw [Workspace.map_fst_castScripts, Cast.ids_eq_map_part,
    (agrees_after settings palette happenings fresh).stage]
  exact (Journal.onStage_sublist _).map Prod.fst

/-- A sprite that leaves while a run is going on takes its streams out of all exchanges, but their
work is not lost. The sprite never comes back. A stream of it takes part in no exchange from then
on, neither when it completes a block nor by being met. It performs the rest of the block that it
was performing, and then the blocks that remained to it, in order and with all their actions and
pauses, and no others; when it has had as many turns as it had steps left, it has performed them
all. None of its steps changes anything in the workspace. The report tells of all streams in the
order in which the run was given their scripts, which is the order in which the sprites came on, and
counts the blocks that the stream performed before and after. -/
theorem works_off_after_leaving (settings : Settings) (palette : Palette)
    (before : List Happening) (heroMode : Bool) (scripts : List (SpriteId × Script))
    (during later : List Happening) (id : SpriteId) :
    let start := opening settings palette
    let now := start.after before
    let number := now.runs.length
    let left := (now.next (.launches heroMode scripts)).after during
    let gone := left.next (.operates (.remove id))
    let last := gone.after later
    let past := (gone.chronicle later).ofRun number
    id ∈ left.workspace.cast.ids →
    (start.journal (before ++ .launches heroMode scripts :: during ++
      .operates (.remove id) :: later)).Fresh →
      id ∉ last.workspace.cast.ids ∧
      ∃ run run', left.runs[number]? = some run ∧ last.runs[number]? = some run' ∧
        (∀ duration, (run'.report duration).streams.map (·.sprite) = scripts.map Prod.fst) ∧
        (scripts = now.workspace.castScripts →
          (scripts.map Prod.fst).Sublist ((start.journal before).added.map Prod.fst)) ∧
        ∀ (k : Nat) (s : Stream), run.streams[k]? = some s → s.agenda.sprite = id →
          ∃ t, run'.streams[k]? = some t ∧
            (∀ beat ∈ past, beat.involves k = false) ∧
            s.WorksOff run.movePause (past.ofStream k) t ∧
            (s.stepsLeft run.movePause ≤ later.countP (Happening.isOf number k) →
              t.ended = true) ∧
            (t.ended = true →
              (past.ofStream k).performed = s.agenda.current.toList ++ s.agenda.remaining ∧
              (past.ofStream k).actions = s.actionsLeft run.movePause ++
                s.agenda.remaining.flatMap (Block.actions run.movePause)) ∧
            (∀ clock, (last.next (.steps number k clock)).workspace = last.workspace) ∧
            ∀ duration, (run'.report duration).streams[k]? = some
              { sprite := id
                executed := s.agenda.completed.length + (past.ofStream k).performed.length } := by
  intro start now number left gone last past there fresh
  obtain ⟨run, here, sound, pause, -, recorded⟩ :=
    now.exists_run_of_launches heroMode scripts during
  obtain ⟨run', here', sound', pause', performers, recorded'⟩ :=
    now.exists_run_of_launches heroMode scripts (during ++ .operates (.remove id) :: later)
  have reached : left = start.after (before ++ .launches heroMode scripts :: during) := by
    rw [after_append, after_cons]
  rw [after_append, after_cons] at here'
  rw [chronicle_append] at recorded'
  have absent (n : Nat) : id ∉ (gone.after (later.take n)).workspace.cast.ids := by
    have away := not_mem_ids_of_left settings palette _ later (reached ▸ there) fresh n
    rwa [after_append, ← reached, after_cons] at away
  have missing : id ∉ last.workspace.cast.ids := by
    have away := absent later.length
    rwa [List.take_length] at away
  refine ⟨missing, run, run', here, here', fun duration => ?_, fun own => ?_,
    fun k s place sprite => ?_⟩
  · rw [← performers, Run.report, List.map_map]
    rfl
  · have fresh' : (start.journal before).Fresh := by
      rw [List.append_assoc, journal_append] at fresh
      exact fresh.of_append
    exact own ▸ castScripts_sublist settings palette before fresh'
  · have onwards : gone.runs[number]? = some run := here
    obtain ⟨run'', t, there', place', same, blocks, alone, enough⟩ :=
      exists_stream_of_absent onwards place (sprite ▸ absent)
    obtain rfl : run' = run'' := Option.some.inj (here'.symm.trans there')
    have soundS := sound.of_getElem? place
    have soundT := sound'.of_getElem? place'
    have earlier := recorded k s place
    have later' := recorded' k t place'
    rw [pause'.trans pause.symm, Chronicle.ofRun_append, History.ofStream_append] at later'
    have worksOff : s.WorksOff run.movePause (past.ofStream k) t :=
      earlier.worksOff later' soundS soundT blocks
    refine ⟨t, place', alone, worksOff, enough, worksOff.of_ended soundT, fun clock => ?_,
      fun duration => ?_⟩
    · have away : t.agenda.sprite ∉ last.workspace.cast.ids := by rwa [same, sprite]
      exact workspace_steps_of_absent here' place' away clock
    · have told : (run'.report duration).streams[k]? =
          some { sprite := t.agenda.sprite, executed := t.executed } := by
        simp [Run.report, place']
      rw [told, same, sprite, worksOff.executed, soundS.executed]

/-- The cat and the dog of an overture perform, and the cat leaves in the middle of a block that it
got from the dog and repeats. It repeats it to the end, performs the one that remained, and is
reported with three blocks. -/
theorem works_off_after_leaving_overture :
    let steps (n : Nat) := (List.replicate n [Happening.steps 0 0 0, .steps 0 1 0]).flatten
    let now := (opening {} .standard).after overture
    let left := (now.next (.launches true now.workspace.castScripts)).after (steps 7)
    let gone := left.next (.operates (.remove (.ofNat 0)))
    let past := (gone.chronicle (steps 20)).ofRun 0
    (∀ beat ∈ past, beat.involves 0 = false) ∧
      (past.ofStream 0).performed.map (·.kind) = [.loop, .say] ∧
      ∃ run, (gone.after (steps 20)).runs[0]? = some run ∧
        (run.report 0).streams[0]? = some { sprite := .ofNat 0, executed := 3 } := by
  intro steps now left gone past
  obtain ⟨-, run, run', here, here', -, -, each⟩ := works_off_after_leaving {} .standard overture
    true now.workspace.castScripts (steps 7) (steps 20) (.ofNat 0) (by decide +kernel)
    (by decide +kernel)
  have own : (left.runs[0]?.bind fun run => run.streams[0]?.map fun s => (s.agenda.sprite,
      (s.agenda.current.toList ++ s.agenda.remaining).map (·.kind), s.agenda.completed.length,
      s.stepsLeft run.movePause)) = some (.ofNat 0, [.loop, .say], 1, 12) := by
    decide +kernel
  have first : left.runs[0]? = some run := here
  rw [first, Option.bind_some] at own
  obtain ⟨s, place, facts⟩ := Option.map_eq_some_iff.1 own
  simp only [Prod.mk.injEq] at facts
  obtain ⟨sprite, blocks, completed, enough⟩ := facts
  have turns : 12 ≤ (steps 20).countP (Happening.isOf 0 0) := by decide +kernel
  obtain ⟨t, -, alone, -, ends, all, -, told⟩ := each 0 s place sprite
  have performed := congrArg (List.map (·.kind)) (all (ends (by rw [enough]; exact turns))).1
  rw [blocks] at performed
  refine ⟨alone, performed, run', here', (told 0).trans ?_⟩
  have count := congrArg List.length performed
  rw [List.length_map] at count
  rw [completed, count]
  rfl

end Season

end Troupe
