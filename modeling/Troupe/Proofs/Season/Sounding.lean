import Troupe.Proofs.Run.Bubbles
import Troupe.Proofs.Season.Ledger

/-!
# One run at a time

In a session in which one run goes on at a time (`Season.OneAtATime`), the bubbles of the sprites on
the stage show what the streams of that run made them show, and are hidden when no run is going on
(`Season.Sounding`): operations leave bubbles alone, sprites come on with their bubbles hidden, and
each sprite has one stream at most.
-/

namespace Troupe

/-! ## Bubbles and operations -/

/-- After an operation, a sprite on the stage was there before with the same bubbles, or it came on,
with both bubbles hidden. -/
theorem Workspace.bubbles_of_moves {w w' : Workspace} {entry : Entry} (moves : w.Moves entry w')
    {s : Sprite} (there : s ∈ w'.cast.sprites) :
    (∃ u ∈ w.cast.sprites, u.id = s.id ∧ ∀ kind : BubbleKind, kind.shown? u = kind.shown? s) ∨
      ((∃ avatar, entry.added? = some (s.id, avatar)) ∧
        ∀ kind : BubbleKind, kind.shown? s = none) := by
  cases moves with
  | keeps | selects | edits | exchanges | resets | turns =>
    exact .inl ⟨s, there, rfl, fun _ => rfl⟩
  | @adds _ id avatar added removed selected offered free =>
    rcases List.mem_append.1 there with old | new
    · exact .inl ⟨s, old, rfl, fun _ => rfl⟩
    · obtain rfl := List.mem_singleton.1 new
      refine .inr ⟨⟨avatar, added⟩, fun kind => ?_⟩
      cases kind <;> rfl
  | removes => exact .inl ⟨s, List.eraseP_subset there, rfl, fun _ => rfl⟩
  | places id position =>
    let view (s : Sprite) : SpriteId × (BubbleKind → Option String) := (s.id, (·.shown? s))
    have same : (w.cast.modify id (·.place position)).sprites.map view =
        w.cast.sprites.map view := by
      refine Cast.map_modifyIn fun s => Prod.ext rfl (funext fun kind => ?_)
      cases kind <;> rfl
    have seen : view s ∈ w.cast.sprites.map view := same ▸ List.mem_map_of_mem there
    obtain ⟨u, stage, equal⟩ := List.mem_map.1 seen
    refine .inl ⟨u, stage, congrArg Prod.fst equal, fun kind => ?_⟩
    exact congrFun (congrArg Prod.snd equal) kind

namespace Season

variable {now : Season} {journal : Journal}

/-! ## Blocks in performance -/

/-- For every stream, what is done for its block and what is left make up the block. -/
def Whole (now : Season) : Prop := ∀ run ∈ now.runs, ∀ t ∈ run.streams, t.Whole run.movePause

/-- The streams of a run that starts perform nothing yet. -/
theorem performing_of_mem_ofScripts {settings : Settings} {heroMode : Bool}
    {scripts : List (SpriteId × Script)} {t : Stream}
    (member : t ∈ (Run.ofScripts settings heroMode scripts).streams) : t.performing = none := by
  obtain ⟨script, -, rfl⟩ := List.mem_map.1 member
  rfl

/-- Whatever happens, blocks stay whole that are being performed. -/
theorem Whole.next (whole : now.Whole) (happening : Happening) : (now.next happening).Whole := by
  cases happening with
  | operates operation => exact whole
  | launches heroMode scripts =>
    intro run there t member
    rcases List.mem_append.1 there with old | new
    · exact whole run old t member
    · obtain rfl := List.mem_singleton.1 new
      exact .of_idle (performing_of_mem_ofScripts member)
  | steps number place clock =>
    cases here : now.runs[number]? with
    | none => simpa only [Season.next, here] using whole
    | some run =>
      have moves := (now.scene run).moves_turn (.stream place clock)
      have before : ∀ t ∈ run.streams, t.Whole run.movePause :=
        whole run (List.mem_of_getElem? here)
      simp only [Season.next, here]
      generalize (now.scene run).turn (.stream place clock) = later at moves ⊢
      intro other there
      rcases List.mem_or_eq_of_mem_set there with old | rfl
      · exact whole other old
      · exact Scene.whole_of_moves before moves

/-- In every session, blocks are whole that are being performed. -/
theorem whole_after (settings : Settings) (palette : Palette) (happenings : List Happening) :
    ((opening settings palette).after happenings).Whole := by
  suffices onwards : ∀ now : Season, now.Whole → (now.after happenings).Whole from
    onwards _ nofun
  induction happenings with
  | nil => exact fun now whole => whole
  | cons happening rest ih => exact fun now whole => ih _ (whole.next happening)

/-! ## One run at a time -/

/-- Of any two runs, one is finished. -/
def OneRun (now : Season) : Prop :=
  now.runs.Pairwise fun a b => a.isFinished = true ∨ b.isFinished = true

/-- A run that starts performs the scripts of the workspace. -/
def Stages (now : Season) : Happening → Prop
  | .launches _ scripts => scripts = now.workspace.castScripts
  | _ => True

/-- Runs perform the scripts of the workspace, and at no time are two of them going on. -/
def OneAtATime (now : Season) : List Happening → Prop
  | [] => now.OneRun
  | happening :: rest => now.OneRun ∧ now.Stages happening ∧ OneAtATime (now.next happening) rest

/-- Whether one run goes on at most is told by the runs. -/
instance (now : Season) : Decidable now.OneRun :=
  inferInstanceAs (Decidable (now.runs.Pairwise fun a b =>
    a.isFinished = true ∨ b.isFinished = true))

/-- Whether a launch is staged is told by comparing its scripts with those of the workspace. -/
instance (now : Season) (happening : Happening) : Decidable (now.Stages happening) :=
  match happening with
  | .launches _ scripts => inferInstanceAs (Decidable (scripts = now.workspace.castScripts))
  | .operates _ | .steps _ _ _ => .isTrue trivial

/-- Whether one run goes on at a time is told happening by happening. -/
instance decidableOneAtATime (now : Season) :
    (happenings : List Happening) → Decidable (now.OneAtATime happenings)
  | [] => inferInstanceAs (Decidable now.OneRun)
  | happening :: rest =>
    have := decidableOneAtATime (now.next happening) rest
    inferInstanceAs (Decidable (now.OneRun ∧ now.Stages happening ∧
      (now.next happening).OneAtATime rest))

/-- What a season keeps of runs and bubbles while one run goes on at a time. -/
structure Sounding (now : Season) (journal : Journal) : Prop where
  /-- The workspace agrees with what was done. -/
  agrees : now.workspace.Agrees journal
  /-- All streams are sound. -/
  sound : ∀ run ∈ now.runs, run.Sound
  /-- In each run, a sprite has one stream at most. -/
  single : ∀ run ∈ now.runs, run.performers.Nodup
  /-- Only sprites perform that came on. -/
  known : ∀ run ∈ now.runs, ∀ id ∈ run.performers, id ∈ journal.added.map Prod.fst
  /-- While a run is going on, the bubbles show what its streams made them show. -/
  voiced : ∀ kind, ∀ run ∈ now.runs, run.isFinished = false → (now.scene run).Voiced kind
  /-- When no run is going on, the bubbles are hidden. -/
  hidden : (∀ run ∈ now.runs, run.isFinished = true) →
    ∀ kind : BubbleKind, ∀ s ∈ now.workspace.cast.sprites, kind.shown? s = none

/-- Two runs that are both going on are one. -/
theorem OneRun.eq_of_going (one : now.OneRun) {i j : Nat} {a b : Run}
    (first : now.runs[i]? = some a) (second : now.runs[j]? = some b)
    (going : a.isFinished = false) (going' : b.isFinished = false) : i = j := by
  obtain ⟨inside, rfl⟩ := List.getElem?_eq_some_iff.1 first
  obtain ⟨within, rfl⟩ := List.getElem?_eq_some_iff.1 second
  have pairs := List.pairwise_iff_getElem.1 one
  rcases Nat.lt_trichotomy i j with before | same | after
  · simpa [going, going'] using pairs i j inside within before
  · exact same
  · simpa [going, going'] using pairs j i within inside after

/-- After a step of the run that is going on, no other run is going on. -/
theorem OneRun.eq_run_of_mem_setScene (one : now.OneRun) {number : Nat} {run other : Run}
    {later : Scene} (here : now.runs[number]? = some run) (going : run.isFinished = false)
    (there : other ∈ (now.setScene number later).runs) (going' : other.isFinished = false) :
    other = later.run := by
  obtain ⟨j, there⟩ := List.mem_iff_getElem?.1 there
  have there : (now.runs.set number later.run)[j]? = some other := there
  by_cases same : number = j
  · subst same
    have within := (List.getElem?_eq_some_iff.1 here).1
    rw [List.getElem?_set_self within] at there
    exact (Option.some.inj there).symm
  · rw [List.getElem?_set_ne same] at there
    exact absurd (one.eq_of_going here there going going') same

/-- Setting the scene of a run that is there changes nothing. -/
theorem setScene_scene {number : Nat} {run : Run} (here : now.runs[number]? = some run) :
    now.setScene number (now.scene run) = now := by
  have same : now.runs.set number run = now.runs := by
    obtain ⟨_, rfl⟩ := List.getElem?_eq_some_iff.1 here
    exact List.set_getElem_self _
  simp only [setScene, scene, same]

namespace Sounding

/-- A season in which nothing happened yet has no sprites and no runs. -/
theorem opening (settings : Settings) (palette : Palette) :
    Sounding (opening settings palette) [] :=
  ⟨.opening settings palette, nofun, nofun, nofun, fun _ => nofun, fun _ _ => nofun⟩

/-- Operations leave the bubbles as the streams made them. -/
theorem operates (sounding : now.Sounding journal) (operation : Operation)
    (fresh : Journal.Fresh (journal ++ [now.workspace.entry operation])) :
    (now.next (.operates operation)).Sounding (journal ++ [now.workspace.entry operation]) := by
  have moves := now.workspace.moves_operate operation
  have apart (s : Sprite) (avatar : Avatar)
      (added : (now.workspace.entry operation).added? = some (s.id, avatar)) (run : Run)
      (there : run ∈ now.runs) : s.id ∉ run.performers := by
    intro performs
    have before := sounding.known run there s.id performs
    rw [Journal.Fresh, Journal.added_append, List.map_append] at fresh
    refine (List.nodup_append.1 fresh).2.2 _ before _ ?_ rfl
    simp [Journal.added, added]
  refine ⟨sounding.agrees.of_moves fresh.of_append moves, sounding.sound, sounding.single,
    fun run there id performs => ?_, fun kind run there going => ?_,
    fun finished kind s there => ?_⟩
  · rw [Journal.added_append, List.map_append]
    exact List.mem_append_left _ (sounding.known run there id performs)
  · refine (sounding.voiced kind run there going).of_cast fun s stage => ?_
    rcases Workspace.bubbles_of_moves moves stage with
      ⟨u, before, same, shown⟩ | ⟨⟨avatar, added⟩, hidden⟩
    · exact .inl ⟨u, before, same, shown kind⟩
    · exact .inr ⟨apart s avatar added run there, hidden kind⟩
  · rcases Workspace.bubbles_of_moves moves there with ⟨u, before, -, shown⟩ | ⟨-, hidden⟩
    · rw [← shown]
      exact sounding.hidden finished kind u before
    · exact hidden kind

/-- A run may start while no other one is going on. -/
theorem launches (sounding : now.Sounding journal) (fresh : journal.Fresh)
    (heroMode : Bool) {scripts : List (SpriteId × Script)}
    (one : (now.next (.launches heroMode scripts)).OneRun)
    (staged : scripts = now.workspace.castScripts) :
    (now.next (.launches heroMode scripts)).Sounding journal := by
  let run := Run.ofScripts now.workspace.settings heroMode scripts
  have performers : run.performers = now.workspace.cast.ids := by
    rw [Run.performers, Run.map_sprite_ofScripts, staged, Workspace.map_fst_castScripts]
  have new (other : Run) (there : other ∈ now.runs ++ [run]) : other ∈ now.runs ∨ other = run := by
    simpa using there
  refine ⟨sounding.agrees, fun other there => ?_, fun other there => ?_, fun other there => ?_,
    fun kind other there going => ?_, fun finished => ?_⟩
  · rcases new other there with old | rfl
    · exact sounding.sound other old
    · exact Scene.sound_opening now.workspace.settings heroMode scripts now.workspace.cast
  · rcases new other there with old | rfl
    · exact sounding.single other old
    · rw [performers]
      exact sounding.agrees.nodup_ids fresh
  · rcases new other there with old | rfl
    · exact sounding.known other old
    · intro id performs
      rw [performers, Cast.ids_eq_map_part, sounding.agrees.stage] at performs
      exact (journal.onStage_sublist.map Prod.fst).subset performs
  · rcases new other there with old | rfl
    · exact sounding.voiced kind other old going
    · have others : ∀ other ∈ now.runs, other.isFinished = true := by
        intro other old
        have pairs := (List.pairwise_append.1 one).2.2 other old run List.mem_cons_self
        exact pairs.resolve_right (by simp [going])
      exact Scene.voiced_opening _ _ _ (sounding.hidden others kind)
  · exact sounding.hidden fun other old => finished other (List.mem_append_left _ old)

/-- What a stream does leaves the bubbles as the streams made them. -/
theorem of_moves (sounding : now.Sounding journal) (whole : now.Whole) (fresh : journal.Fresh)
    (one : now.OneRun)
    {number place clock : Nat} {run : Run} {beat : Option Beat} {later : Scene}
    (here : now.runs[number]? = some run)
    (moves : (now.scene run).Moves (.stream place clock) beat later) :
    (now.setScene number later).Sounding journal := by
  have member := List.mem_of_getElem? here
  cases ended : run.isFinished with
  | true =>
    obtain ⟨-, rfl⟩ := Scene.rests_of_isFinished moves ended
    rwa [setScene_scene here]
  | false =>
    have distinct := sounding.agrees.nodup_ids fresh
    have performers : later.run.performers = run.performers :=
      Scene.map_streams_of_moves moves Scene.sprite_of_becomes
    have sound : later.run.Sound := Scene.sound_of_moves (sounding.sound run member) moves
    have voiced (kind : BubbleKind) : later.Voiced kind :=
      (sounding.voiced kind run member ended).of_moves (whole run member) distinct
        (sounding.single run member) moves
    have new (other : Run) (there : other ∈ (now.setScene number later).runs) :
        other ∈ now.runs ∨ other = later.run := List.mem_or_eq_of_mem_set there
    refine ⟨?_, fun other there => ?_, fun other there => ?_, fun other there => ?_,
      fun kind other there going => ?_, fun finished kind s there => ?_⟩
    · refine sounding.agrees.of_cast ?_
      rcases Scene.cast_of_moves moves with ⟨still, -⟩ | ⟨u, action, -, acted, -⟩
      · rw [still]
        rfl
      · rw [acted]
        exact Cast.map_part_perform ..
    · rcases new other there with old | rfl
      · exact sounding.sound other old
      · exact sound
    · rcases new other there with old | rfl
      · exact sounding.single other old
      · rw [performers]
        exact sounding.single run member
    · rcases new other there with old | rfl
      · exact sounding.known other old
      · rw [performers]
        exact sounding.known run member
    · -- Only the run of the stream is going on.
      obtain rfl := one.eq_run_of_mem_setScene here ended there going
      exact voiced kind
    · have last : later.run ∈ (now.setScene number later).runs :=
        List.mem_set (List.getElem?_eq_some_iff.1 here).1 later.run
      exact (voiced kind).hidden_of_isFinished sound (finished later.run last) there

/-- The streams go on and leave the bubbles as they made them. -/
theorem steps (sounding : now.Sounding journal) (whole : now.Whole) (fresh : journal.Fresh)
    (one : now.OneRun) (number place clock : Nat) :
    (now.next (.steps number place clock)).Sounding journal := by
  simp only [next]
  cases here : now.runs[number]? with
  | none => exact sounding
  | some run =>
    exact sounding.of_moves whole fresh one here ((now.scene run).moves_turn (.stream place clock))

/-- In a session in which one run goes on at a time, the bubbles stay as the streams made them. -/
theorem after (sounding : now.Sounding journal) (whole : now.Whole)
    {happenings : List Happening}
    (fresh : Journal.Fresh (journal ++ now.journal happenings))
    (one : now.OneAtATime happenings) :
    (now.after happenings).Sounding (journal ++ now.journal happenings) := by
  induction happenings generalizing now journal with
  | nil => simpa [Season.journal] using sounding
  | cons happening rest ih =>
    obtain ⟨first, staged, others⟩ := one
    have noted : journal ++ now.journal (happening :: rest) =
        journal ++ (now.noted? happening).toList ++ (now.next happening).journal rest := by
      rw [Season.journal, List.append_assoc]
    rw [noted] at fresh ⊢
    have still : Journal.Fresh (journal ++ (now.noted? happening).toList) := fresh.of_append
    refine ih ?_ (whole.next happening) fresh others
    cases happening with
    | operates operation => exact sounding.operates operation still
    | launches heroMode scripts =>
      have second : (now.next (.launches heroMode scripts)).OneRun := by
        cases rest with
        | nil => exact others
        | cons => exact others.1
      simpa [noted?] using sounding.launches still.of_append heroMode second staged
    | steps number place clock =>
      simpa [noted?] using sounding.steps whole still.of_append first number place clock

end Sounding

end Season

end Troupe
