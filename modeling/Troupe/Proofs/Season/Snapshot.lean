import Troupe.Proofs.Run.Bystanders
import Troupe.Proofs.Season.Basic

/-!
# Runs and what the user does meanwhile

A run performs the scripts that it was given, so what the user does to scripts, to the selection and
to hero mode does not matter to it, and sprites that come on meanwhile are bystanders. Only who
places or removes a sprite does something to a run that is going on. So the operations that do
neither may be left out of a season, and the runs are the same (`Season.Beside.after`). What the
streams do, on the other hand, is done to the sprites and to nothing else in the workspace.
-/

namespace Troupe

/-- The operation leaves all performers where they are, and gives none of their identities to a new
sprite. -/
structure Operation.Spares (performers : List SpriteId) (operation : Operation) : Prop where
  /-- No sprite is placed or removed. -/
  sprites : operation.sparesSprites = true
  /-- A new sprite is not a performer. -/
  newcomer : ∀ id ∈ operation.newcomer?, id ∉ performers

/-- Whether an operation spares the performers is told by the operation. -/
instance (performers : List SpriteId) (operation : Operation) :
    Decidable (operation.Spares performers) :=
  decidable_of_iff
    (operation.sparesSprites = true ∧ ∀ id ∈ operation.newcomer?, id ∉ performers)
    ⟨fun ⟨sprites, newcomer⟩ => ⟨sprites, newcomer⟩, fun spares => ⟨spares.1, spares.2⟩⟩

/-- A cast that nobody joins stays the same. -/
@[simp] theorem Cast.joinedBy_nil (cast : Cast) : cast.joinedBy [] = cast :=
  congrArg Cast.mk (List.append_nil _)

/-- Sprites join a cast one group after the other. -/
theorem Cast.joinedBy_append (cast : Cast) (more later : List Sprite) :
    (cast.joinedBy more).joinedBy later = cast.joinedBy (more ++ later) :=
  congrArg Cast.mk (List.append_assoc ..)

/-- After an operation that spares the performers, the sprites on the stage are the same, and others
after them that do not perform. -/
theorem Workspace.exists_joinedBy_of_moves {w w' : Workspace} {entry : Entry}
    {performers : List SpriteId} (moves : w.Moves entry w')
    (spares : entry.operation.Spares performers) :
    ∃ more, w'.cast = w.cast.joinedBy more ∧ ∀ id ∈ performers, id ∉ more.map (·.id) := by
  obtain ⟨sprites, newcomer⟩ := spares
  have stays : w.cast = w.cast.joinedBy [] ∧
      ∀ id ∈ performers, id ∉ ([] : List Sprite).map (·.id) :=
    ⟨w.cast.joinedBy_nil.symm, fun _ _ => List.not_mem_nil⟩
  cases moves with
  | keeps | selects | edits | exchanges | resets | turns => exact ⟨[], stays⟩
  | @adds _ id avatar added removed selected offered free =>
    refine ⟨[.create id avatar w.spawnPosition], rfl, fun other performs same => ?_⟩
    obtain rfl : other = id := by simpa [Sprite.create] using same
    exact newcomer other offered performs
  | removes | places => exact nomatch sprites

/-- Whether a stream makes a step. -/
def Happening.isStep : Happening → Bool
  | .steps _ _ _ => true
  | _ => false

/-- Streams make their steps, or the user does something that spares the performers. -/
def Happening.Spares (performers : List SpriteId) : Happening → Prop
  | .steps _ _ _ => True
  | .operates operation => operation.Spares performers
  | .launches _ _ => False

namespace Season

/-- The sprites that have streams. -/
def performers (now : Season) : List SpriteId := (now.runs.map Run.performers).flatten

/-- Two seasons in which the runs are the same, while bystanders came on in the second one and the
user did there what does not matter to the runs. -/
structure Beside (more : List Sprite) (still now : Season) : Prop where
  /-- The runs are the same. -/
  runs : now.runs = still.runs
  /-- The sprites that are not bystanders are the same. -/
  cast : now.workspace.cast = still.workspace.cast.joinedBy more
  /-- Bystanders have no streams. -/
  ignores : ∀ id ∈ still.performers, id ∉ more.map (·.id)

variable {more : List Sprite} {still now : Season}

/-- Who performs in a run of a season performs in the season. -/
theorem mem_performers {run : Run} {id : SpriteId} (there : run ∈ now.runs)
    (performs : id ∈ run.performers) : id ∈ now.performers :=
  List.mem_flatten.2 ⟨_, List.mem_map_of_mem there, performs⟩

/-- A step changes nothing about who performs. -/
theorem performers_steps (now : Season) (number place clock : Nat) :
    (now.next (.steps number place clock)).performers = now.performers := by
  simp only [next]
  cases here : now.runs[number]? with
  | none => rfl
  | some run =>
    exact congrArg List.flatten
      (map_set_of_same here (Scene.map_sprite_play (now.scene run) [.stream place clock]))

/-- Steps change nothing about who performs. -/
theorem performers_after (now : Season) {happenings : List Happening}
    (steps : ∀ happening ∈ happenings, happening.isStep = true) :
    (now.after happenings).performers = now.performers := by
  induction happenings generalizing now with
  | nil => rfl
  | cons happening rest ih =>
    have others := ih (now.next happening) fun h member => steps h (List.mem_cons_of_mem _ member)
    cases happening with
    | operates | launches => exact nomatch steps _ List.mem_cons_self
    | steps number place clock => exact others.trans (now.performers_steps number place clock)

/-- Streams do the same with and without bystanders. -/
theorem Beside.steps (beside : Beside more still now) (number place clock : Nat) :
    Beside more (still.next (.steps number place clock)) (now.next (.steps number place clock)) ∧
      now.moment? (.steps number place clock) = still.moment? (.steps number place clock) := by
  obtain ⟨runs, cast, ignores⟩ := beside
  have performs := still.performers_steps number place clock
  simp only [next, moment?, runs] at performs ⊢
  cases here : still.runs[number]? with
  | none => exact ⟨⟨runs, cast, ignores⟩, rfl⟩
  | some run =>
    have apart : (still.scene run).run.Ignores more := fun id performs =>
      ignores id (mem_performers (List.mem_of_getElem? here) performs)
    have joined : now.scene run = (still.scene run).joinedBy more := congrArg (Scene.mk run) cast
    rw [here] at performs
    simp only [joined, Scene.beat?_joinedBy apart, Option.bind_eq_bind, Option.bind_some, and_true]
    refine ⟨?_, ?_, performs ▸ ignores⟩
    · simp only [setScene, Scene.turn_joinedBy apart, runs]
      rfl
    · simp only [setScene, Scene.turn_joinedBy apart]
      rfl

/-- What spares the performers leaves the runs as they are. -/
theorem Beside.operates (beside : Beside more still now) {operation : Operation}
    (spares : operation.Spares still.performers) :
    ∃ later, Beside later still (now.next (.operates operation)) := by
  obtain ⟨runs, cast, ignores⟩ := beside
  obtain ⟨newcomers, joined, apart⟩ :=
    Workspace.exists_joinedBy_of_moves (now.workspace.moves_operate operation) spares
  refine ⟨more ++ newcomers, runs, ?_, fun id performs => ?_⟩
  · rw [← Cast.joinedBy_append, ← cast]
    exact joined
  · rw [List.map_append, List.mem_append]
    exact not_or.2 ⟨ignores id performs, apart id performs⟩

/-- When the user only does what spares the performers, all runs are as if nothing of it was
done. -/
theorem Beside.after (beside : Beside more still now) {happenings : List Happening}
    (spares : ∀ happening ∈ happenings, happening.Spares still.performers) :
    (∃ later, Beside later (still.after (happenings.filter Happening.isStep))
      (now.after happenings)) ∧
      now.chronicle happenings = still.chronicle (happenings.filter Happening.isStep) := by
  induction happenings generalizing still now more with
  | nil => exact ⟨⟨more, beside⟩, rfl⟩
  | cons happening rest ih =>
    have first := spares happening List.mem_cons_self
    have others : ∀ h ∈ rest, h.Spares still.performers :=
      fun h member => spares h (List.mem_cons_of_mem _ member)
    cases happening with
    | launches heroMode scripts => exact first.elim
    | operates operation =>
      obtain ⟨later, beside'⟩ := beside.operates first
      obtain ⟨onwards, same⟩ := ih beside' others
      exact ⟨onwards, same⟩
    | steps number place clock =>
      obtain ⟨beside', did⟩ := beside.steps number place clock
      rw [← still.performers_steps number place clock] at others
      obtain ⟨onwards, same⟩ := ih beside' others
      refine ⟨onwards, ?_⟩
      rw [List.filter_cons_of_pos rfl, chronicle, chronicle, did, same]

/-- Steps of streams do nothing to the workspace but to the sprites on the stage, and keep them
there. -/
theorem exists_cast_of_isStep (now : Season) {happenings : List Happening}
    (steps : ∀ happening ∈ happenings, happening.isStep = true) :
    ∃ cast, (now.after happenings).workspace = { now.workspace with cast } ∧
      cast.ids = now.workspace.cast.ids := by
  induction happenings generalizing now with
  | nil => exact ⟨_, rfl, rfl⟩
  | cons happening rest ih =>
    cases happening with
    | operates | launches => exact nomatch steps _ List.mem_cons_self
    | steps number place clock =>
      obtain ⟨between, first, did⟩ := now.exists_cast_of_steps number place clock
      obtain ⟨cast, others, stay⟩ := ih (now.next (.steps number place clock))
        fun h member => steps h (List.mem_cons_of_mem _ member)
      rw [first] at others stay
      refine ⟨cast, others, stay.trans ?_⟩
      obtain rfl | ⟨who, action, rfl⟩ := did
      · rfl
      · exact Cast.ids_perform ..

end Season

end Troupe
