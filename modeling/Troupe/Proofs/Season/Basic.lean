import Troupe.Proofs.Theatre.Chronicle
import Troupe.Proofs.Workspace.Operation

/-!
# Seasons

A season is a workspace with the runs that were started in it. In it the user does operations, runs
start, and streams of any of the runs make their steps, one thing after the other. A list of such
happenings is one interleaving of the user with all streams of all runs, so a statement about every
list of happenings holds for every session, whatever the order in which the streams take turns.

What the operations were and how they were answered is kept as a journal, and what the streams did
as a chronicle. `Season.journal_induction` turns a property that every operation keeps, and every
action of a stream, into one of every session. For each of the runs, a season is a scene in which
all that others do is done by the host (`Season.turnsOf`).
-/

namespace Troupe

/-- A workspace with the runs that were started in it. -/
structure Season where
  /-- The workspace. -/
  workspace : Workspace
  /-- The runs, in the order they were started. -/
  runs : List Run

/-- What may come next in a season. -/
inductive Happening where
  /-- The user does an operation. -/
  | operates (operation : Operation)
  /-- A run of scripts starts. -/
  | launches (heroMode : Bool) (scripts : List (SpriteId × Script))
  /-- The stream at a place of a run makes its next step, at a time. -/
  | steps (number place clock : Nat)

namespace Season

/-- A season in which nothing happened yet. -/
def opening (settings : Settings) (palette : Palette) : Season where
  workspace := { settings, palette }
  runs := []

/-- The scene of a run in a season. -/
def scene (now : Season) (run : Run) : Scene := { run, cast := now.workspace.cast }

/-- The season after something happened in the scene of a run. -/
def setScene (now : Season) (number : Nat) (scene : Scene) : Season where
  workspace := { now.workspace with cast := scene.cast }
  runs := now.runs.set number scene.run

/-- The season after a happening. -/
def next (now : Season) : Happening → Season
  | .operates operation => { now with workspace := (now.workspace.operate operation).state }
  | .launches heroMode scripts =>
    { now with runs := now.runs ++ [.ofScripts now.workspace.settings heroMode scripts] }
  | .steps number place clock =>
    match now.runs[number]? with
    | some run => now.setScene number ((now.scene run).turn (.stream place clock))
    | none => now

/-- The entry that a happening makes in the journal. -/
def noted? (now : Season) : Happening → Option Entry
  | .operates operation => some (now.workspace.entry operation)
  | _ => none

/-- What a stream does in a happening. -/
def moment? (now : Season) : Happening → Option Moment
  | .steps number place clock => do
    let run ← now.runs[number]?
    let beat ← (now.scene run).beat? (.stream place clock)
    return { clock, run := number, beat }
  | _ => none

/-- The season after a number of happenings. -/
def after (now : Season) (happenings : List Happening) : Season := happenings.foldl next now

/-- What was done by operations in a number of happenings, in order. -/
def journal (now : Season) : List Happening → Journal
  | [] => []
  | happening :: rest => (now.noted? happening).toList ++ journal (now.next happening) rest

/-- What the streams did in a number of happenings, in order. -/
def chronicle (now : Season) : List Happening → Chronicle
  | [] => []
  | happening :: rest => (now.moment? happening).toList ++ chronicle (now.next happening) rest

/-- When nothing happens, nothing changes. -/
@[simp] theorem after_nil (now : Season) : now.after [] = now := rfl

/-- The first happening comes before the others. -/
@[simp] theorem after_cons (now : Season) (happening : Happening) (rest : List Happening) :
    now.after (happening :: rest) = (now.next happening).after rest := rfl

/-- Happenings and then others lead to where all of them lead. -/
theorem after_append (now : Season) (happenings later : List Happening) :
    now.after (happenings ++ later) = (now.after happenings).after later :=
  List.foldl_append ..

/-- The journal of later happenings is told from the season to which the earlier ones lead. -/
theorem journal_append (now : Season) (happenings later : List Happening) :
    now.journal (happenings ++ later) =
      now.journal happenings ++ (now.after happenings).journal later := by
  induction happenings generalizing now with
  | nil => rfl
  | cons happening rest ih =>
    simp only [List.cons_append, journal, ih, after_cons, List.append_assoc]

/-- The chronicle of later happenings is told from the season to which the earlier ones lead. -/
theorem chronicle_append (now : Season) (happenings later : List Happening) :
    now.chronicle (happenings ++ later) =
      now.chronicle happenings ++ (now.after happenings).chronicle later := by
  induction happenings generalizing now with
  | nil => rfl
  | cons happening rest ih =>
    simp only [List.cons_append, chronicle, ih, after_cons, List.append_assoc]

variable {now : Season} {happening : Happening} {number : Nat} {run : Run}

/-! ## The workspace of a season -/

/-- A stream does nothing to the stage but one action of its sprite. -/
theorem exists_cast_of_steps (now : Season) (number place clock : Nat) :
    ∃ cast, (now.next (.steps number place clock)).workspace = { now.workspace with cast } ∧
      (cast = now.workspace.cast ∨
        ∃ who action, cast = Action.perform who now.workspace.cast action) := by
  simp only [next]
  cases now.runs[number]? with
  | none => exact ⟨_, rfl, .inl rfl⟩
  | some run =>
    refine ⟨_, rfl, ?_⟩
    have moves := (now.scene run).moves_turn (.stream place clock)
    generalize (now.scene run).turn (.stream place clock) = later at moves ⊢
    generalize (now.scene run).beat? (.stream place clock) = beat at moves
    cases moves with
    | rests | begins | completes | exchanges | ends => exact .inl rfl
    | acts => exact .inr ⟨_, _, rfl⟩

/-- What holds at the start and is kept by every operation and by every action of a stream holds of
every journal and the workspace it leads to. -/
theorem journal_induction {motive : Journal → Workspace → Prop} {start : Season}
    (initial : motive [] start.workspace)
    (operates : ∀ {journal w entry w'}, motive journal w → Workspace.Moves w entry w' →
      motive (journal ++ [entry]) w')
    (performs : ∀ {journal w} (who : SpriteId) (action : Action), motive journal w →
      motive journal { w with cast := action.perform who w.cast })
    (happenings : List Happening) :
    motive (start.journal happenings) (start.after happenings).workspace := by
  suffices onwards : ∀ past now, motive past (workspace now) →
      motive (past ++ now.journal happenings) (now.after happenings).workspace from
    onwards [] start initial
  clear initial
  induction happenings with
  | nil => intro past now holds; simpa [journal] using holds
  | cons happening rest ih =>
    intro past now holds
    have kept : motive (past ++ (now.noted? happening).toList) (now.next happening).workspace := by
      cases happening with
      | operates operation => exact operates holds (now.workspace.moves_operate operation)
      | launches heroMode scripts => simpa [noted?, next] using holds
      | steps number place clock =>
        obtain ⟨cast, same, rfl | ⟨who, action, rfl⟩⟩ := now.exists_cast_of_steps number place clock
        · rw [same]
          simpa [noted?] using holds
        · rw [same]
          simpa [noted?] using performs who action holds
    simpa only [journal, after_cons, List.append_assoc] using ih _ _ kept

/-! ## The runs of a season -/

/-- A happening as a turn in the scene of a run: a step of a stream, when one of the run makes it,
and otherwise something that the host does. -/
def turnOf (now : Season) (number : Nat) (happening : Happening) : Turn :=
  match happening with
  | .steps own place clock =>
    if own = number then .stream place clock else .host fun _ => (now.next happening).workspace.cast
  | _ => .host fun _ => (now.next happening).workspace.cast

/-- Happenings as turns in the scene of a run. -/
def turnsOf (now : Season) (number : Nat) : List Happening → List Turn
  | [] => []
  | happening :: rest => now.turnOf number happening :: turnsOf (now.next happening) number rest

/-- A happening is a turn in the scene of each of the runs. -/
theorem exists_run_of_next (here : now.runs[number]? = some run) (happening : Happening) :
    ∃ run', (now.next happening).runs[number]? = some run' ∧
      (now.scene run).turn (now.turnOf number happening) = (now.next happening).scene run' ∧
      ((now.scene run).beat? (now.turnOf number happening)).toList =
        Chronicle.ofRun number (now.moment? happening).toList := by
  cases happening with
  | operates operation => exact ⟨run, here, rfl, rfl⟩
  | launches heroMode scripts =>
    refine ⟨run, ?_, rfl, rfl⟩
    exact (List.getElem?_append_left (List.getElem?_eq_some_iff.1 here).1).trans here
  | steps own place clock =>
    by_cases same : own = number
    · subst same
      have within := (List.getElem?_eq_some_iff.1 here).1
      refine ⟨((now.scene run).turn (.stream place clock)).run, ?_, ?_, ?_⟩
      · simp only [next, here, setScene, List.getElem?_set_self within]
      · simp [turnOf, next, here, setScene, scene]
      · simp only [turnOf, moment?, here, if_pos, Option.bind_eq_bind, Option.bind_some]
        cases (now.scene run).beat? (.stream place clock) <;> simp [Chronicle.ofRun]
    · refine ⟨run, ?_, ?_, ?_⟩
      · simp only [next]
        cases now.runs[own]? with
        | none => exact here
        | some other => exact (List.getElem?_set_ne same).trans here
      · simp [turnOf, same, Scene.turn, scene]
      · simp only [turnOf, if_neg same, moment?]
        cases now.runs[own]? with
        | none => rfl
        | some other =>
          rw [Option.bind_eq_bind, Option.bind_some]
          cases (now.scene other).beat? (.stream place clock) with
          | none => rfl
          | some beat => simp [Scene.beat?, Chronicle.ofRun, same]

/-- What happens in a season comes, for each of its runs, to turns in the scene of the run, and the
chronicle of the run is their history. -/
theorem exists_run_after (here : now.runs[number]? = some run) (happenings : List Happening) :
    ∃ run', (now.after happenings).runs[number]? = some run' ∧
      (now.scene run).play (now.turnsOf number happenings) = (now.after happenings).scene run' ∧
      (now.scene run).beats (now.turnsOf number happenings) =
        (now.chronicle happenings).ofRun number := by
  induction happenings generalizing now run with
  | nil => exact ⟨run, here, rfl, rfl⟩
  | cons happening rest ih =>
    obtain ⟨between, there, turned, did⟩ := exists_run_of_next here happening
    obtain ⟨run', there', played, past⟩ := ih there
    refine ⟨run', there', ?_, ?_⟩
    · rw [turnsOf, Scene.play_cons, turned, played, after_cons]
    · rw [turnsOf, Scene.beats, did, turned, past, chronicle, Chronicle.ofRun_append]

/-- A run that is launched comes after all others. -/
theorem runs_launches (now : Season) (heroMode : Bool) (scripts : List (SpriteId × Script)) :
    (now.next (.launches heroMode scripts)).runs[now.runs.length]? =
      some (.ofScripts now.workspace.settings heroMode scripts) :=
  List.getElem?_concat_length

/-! ## An overture -/

/-- A cat and a dog come on, near each other, and get scripts. Hero mode is turned on. -/
def overture : List Happening := [
  .operates (.add (.ofNat 0) .cat),
  .operates (.updateScript (.ofNat 0) [.move 1, .turn 2]),
  .operates (.addNamed (.ofNat 1) " Dog "),
  .operates (.updateScript (.ofNat 1) [.turn 3, .loop 2 [.turnLeft 4], .say "hi" 1]),
  .operates (.place (.ofNat 1) ⟨55, 50⟩),
  .operates (.setHeroMode true)]

end Season

end Troupe
