import Troupe.Proofs.Cast
import Troupe.Proofs.Run.Scene

/-!
# Bystanders

Sprites that come on later than others and have no streams in a run are bystanders: the streams do
what they would do without them, and leave the other sprites as they would be without them. Streams
look for their own sprite and for those of other streams, and find the first of an identity, so it
does not matter who comes after these.
-/

namespace Troupe

/-- The cast with other sprites after those that are there. -/
def Cast.joinedBy (cast : Cast) (more : List Sprite) : Cast := ⟨cast.sprites ++ more⟩

/-- The sprites that have streams in a run, in order. -/
def Run.performers (run : Run) : List SpriteId := run.streams.map (·.agenda.sprite)

/-- None of the sprites has a stream in the run. -/
def Run.Ignores (run : Run) (more : List Sprite) : Prop :=
  ∀ id ∈ run.performers, id ∉ more.map (·.id)

/-- Replacing an element by one of the same value leaves the list of the values as it is. -/
theorem map_set_of_same {α β : Type} {f : α → β} {l : List α} {i : Nat} {a b : α}
    (here : l[i]? = some a) (same : f b = f a) : (l.set i b).map f = l.map f := by
  obtain ⟨within, rfl⟩ := List.getElem?_eq_some_iff.1 here
  have inside : i < (l.map f).length := by rwa [List.length_map]
  have own : f l[i] = (l.map f)[i] := (List.getElem_map f).symm
  rw [List.map_set, same, own, List.set_getElem_self]

variable {cast : Cast} {more : List Sprite} {run : Run} {i clock : Nat}

/-! ## Who is met -/

namespace Encounter

variable {radius : Binary64} {sprites : List Sprite} {agendas : List Agenda}

/-- Conditions that agree on all agendas find the same place. -/
theorem findOther?_congr {p q : Agenda → Bool} (same : ∀ a ∈ agendas, p a = q a) (index : Nat) :
    findOther? i p index agendas = findOther? i q index agendas := by
  induction agendas generalizing index with
  | nil => rfl
  | cons a rest ih =>
    have others := ih fun b member => same b (List.mem_cons_of_mem _ member)
    rw [findOther?, findOther?, same a List.mem_cons_self, others]

/-- Bystanders are not met, and do not change who is. -/
theorem exchangePartner?_append (apart : ∀ a ∈ agendas, a.sprite ∉ more.map (·.id)) :
    exchangePartner? radius (sprites ++ more) agendas i =
      exchangePartner? radius sprites agendas i := by
  have near (origin : Position) (a : Agenda) (member : a ∈ agendas) :
      isCandidate radius (sprites ++ more) origin a = isCandidate radius sprites origin a := by
    rw [isCandidate, Cast.findIn?_append (apart a member), isCandidate]
  have found : candidate? radius (sprites ++ more) agendas i =
      candidate? radius sprites agendas i := by
    simp only [candidate?]
    cases here : agendas[i]? with
    | none => rfl
    | some a =>
      simp only [Option.bind_eq_bind, Option.bind_some]
      rw [Cast.findIn?_append (apart a (List.mem_of_getElem? here))]
      exact congrArg _ (funext fun s => findOther?_congr (near s.position) 0)
  rw [exchangePartner?, found, exchangePartner?]

end Encounter

/-! ## Steps -/

/-- An action reaches the same sprite with and without bystanders. -/
theorem Action.perform_joinedBy {who : SpriteId} (apart : who ∉ more.map (·.id))
    (action : Action) :
    action.perform who (cast.joinedBy more) = (action.perform who cast).joinedBy more := by
  cases action with
  | change effect => exact congrArg Cast.mk (Cast.modifyIn_append apart)
  | announce kind | warn name | pause duration => rfl

namespace Run

/-- Whom a stream exchanges with does not depend on sprites that the run ignores. -/
theorem partner?_joinedBy (ignores : run.Ignores more) :
    run.partner? (cast.joinedBy more) i = run.partner? cast i := by
  have apart : ∀ a ∈ run.agendas, a.sprite ∉ more.map (·.id) := by
    intro a member
    obtain ⟨s, there, rfl⟩ := List.mem_map.1 member
    exact ignores _ (List.mem_map_of_mem there)
  simp only [partner?, Cast.joinedBy, Encounter.exchangePartner?_append apart]

/-- A stream that goes on with its sprite leaves the performers as they are. -/
theorem performers_setStream {s t : Stream} (here : run.streams[i]? = some s)
    (same : t.agenda.sprite = s.agenda.sprite) : (run.setStream i t).performers = run.performers :=
  map_set_of_same here same

/-- A run that ignores sprites does so once a stream of it completes a block. -/
theorem Ignores.complete {s : Stream} (ignores : run.Ignores more)
    (here : run.streams[i]? = some s) : (run.setStream i s.complete).Ignores more := by
  have same : (run.setStream i s.complete).performers = run.performers :=
    performers_setStream here rfl
  rwa [Ignores, same]

/-- A step leaves the performers as they are. -/
theorem performers_of_step? {step : Step} (made : run.step? i clock cast = some step) :
    step.run.performers = run.performers := by
  have turned : Scene.turn { run, cast } (.stream i clock) =
      { run := step.run, cast := step.cast } := by
    simp only [Scene.turn, made]
  have moves := Scene.moves_turn { run, cast } (.stream i clock)
  rw [turned] at moves
  exact Scene.map_streams_of_moves moves Scene.sprite_of_becomes

/-- Resuming a stream changes nothing about who performs. -/
theorem performers_resume (run : Run) (i clock : Nat) (cast : Cast) :
    (run.resume i clock cast).run.performers = run.performers := by
  fun_induction resume run i clock cast with
  | case1 => rfl
  | case2 run cast step made duration paused => exact performers_of_step? made
  | case3 run cast step made going smaller later ih => exact ih.trans (performers_of_step? made)

end Run

/-- Two steps come to the same, except that there are bystanders in the second one. -/
structure Step.Matches (more : List Sprite) (step step' : Step) : Prop where
  /-- The runs are the same. -/
  run : step'.run = step.run
  /-- The sprites that are not bystanders are the same. -/
  cast : step'.cast = step.cast.joinedBy more
  /-- The pauses are the same. -/
  pause : step'.pause = step.pause

namespace Run

/-- Whatever a stream does, it does with and without bystanders. -/
theorem follow_joinedBy {s : Stream} (ignores : run.Ignores more) (here : run.streams[i]? = some s)
    (deed : Deed) :
    (run.follow i clock cast s deed).Matches more
      (run.follow i clock (cast.joinedBy more) s deed) := by
  cases deed with
  | begins b | ends => exact ⟨rfl, rfl, rfl⟩
  | acts action rest =>
    have apart := ignores _ (List.mem_map_of_mem (List.mem_of_getElem? here))
    exact ⟨rfl, action.perform_joinedBy apart, rfl⟩
  | completes b =>
    simp only [follow, encounter, partner?_joinedBy (ignores.complete here)]
    cases (run.setStream i s.complete).partner? cast i <;> exact ⟨rfl, rfl, rfl⟩

/-- A stream makes a step if and only if it makes one with bystanders, and then a matching one. -/
theorem step?_joinedBy (ignores : run.Ignores more) (i clock : Nat) (cast : Cast) :
    (run.step? i clock cast = none ∧ run.step? i clock (cast.joinedBy more) = none) ∨
      ∃ step step', run.step? i clock cast = some step ∧
        run.step? i clock (cast.joinedBy more) = some step' ∧ step.Matches more step' := by
  simp only [step?]
  cases here : run.streams[i]? with
  | none => exact .inl ⟨rfl, rfl⟩
  | some s =>
    cases ended : s.ended with
    | true => exact .inl ⟨if_pos ended, if_pos ended⟩
    | false =>
      have going : ¬s.ended = true := by simp [ended]
      exact .inr ⟨_, _, if_neg going, if_neg going, follow_joinedBy ignores here _⟩

/-- Resuming a stream that makes no step changes nothing. -/
theorem resume_of_rests (rests : run.step? i clock cast = none) :
    run.resume i clock cast = { run, cast, log := [], pause := none } := by
  rw [resume]
  split
  · rfl
  · rename_i made
    simp [rests] at made

/-- A stream that pauses with its step is resumed for this step only. -/
theorem resume_of_pauses {step : Step} {duration : Nat} (made : run.step? i clock cast = some step)
    (paused : step.pause = some duration) : run.resume i clock cast = step := by
  rw [resume]
  split
  · rename_i none
    simp [made] at none
  · rename_i step' made'
    obtain rfl : step = step' := Option.some.inj (made.symm.trans made')
    simp only [paused]

/-- A stream that does not pause with its step is resumed after it. -/
theorem resume_of_goesOn {step : Step} (made : run.step? i clock cast = some step)
    (going : step.pause = none) :
    run.resume i clock cast =
      { step.run.resume i clock step.cast with
        log := step.log ++ (step.run.resume i clock step.cast).log } := by
  rw [resume]
  split
  · rename_i none
    simp [made] at none
  · rename_i step' made'
    obtain rfl : step = step' := Option.some.inj (made.symm.trans made')
    simp only [going]

/-- A stream goes on up to its next pause in the same way with and without bystanders. -/
theorem resume_joinedBy (ignores : run.Ignores more) (i clock : Nat) (cast : Cast) :
    (run.resume i clock cast).Matches more (run.resume i clock (cast.joinedBy more)) := by
  fun_induction resume run i clock cast with
  | case1 run cast none =>
    obtain ⟨-, none'⟩ | ⟨step, step', made, -⟩ := step?_joinedBy ignores i clock cast
    · rw [resume_of_rests none']
      exact ⟨rfl, rfl, rfl⟩
    · simp [none] at made
  | case2 run cast step made duration paused =>
    obtain ⟨none, -⟩ | ⟨step₁, step', made₁, made', same⟩ := step?_joinedBy ignores i clock cast
    · simp [none] at made
    · obtain rfl : step = step₁ := Option.some.inj (made.symm.trans made₁)
      rw [resume_of_pauses made' (same.pause.trans paused)]
      exact same
  | case3 run cast step made going smaller later ih =>
    obtain ⟨none, -⟩ | ⟨step₁, step', made₁, made', same⟩ := step?_joinedBy ignores i clock cast
    · simp [none] at made
    · obtain rfl : step = step₁ := Option.some.inj (made.symm.trans made₁)
      have ignores' : step.run.Ignores more := by
        rw [Ignores, performers_of_step? made]
        exact ignores
      rw [resume_of_goesOn made' (same.pause.trans going), same.run, same.cast]
      exact ⟨(ih ignores').run, (ih ignores').cast, (ih ignores').pause⟩

end Run

/-! ## Turns -/

/-- The scene with bystanders. -/
def Scene.joinedBy (now : Scene) (more : List Sprite) : Scene :=
  { now with cast := now.cast.joinedBy more }

namespace Scene

variable {now : Scene}

/-- A turn of a stream comes to the same with and without bystanders. -/
theorem turn_joinedBy (ignores : now.run.Ignores more) (i clock : Nat) :
    (now.joinedBy more).turn (.stream i clock) = (now.turn (.stream i clock)).joinedBy more := by
  simp only [turn, joinedBy]
  obtain ⟨none, none'⟩ | ⟨step, step', made, made', run, cast, -⟩ :=
    Run.step?_joinedBy ignores i clock now.cast
  · rw [none, none']
  · simp only [made, made', run, cast]

/-- A stream does the same with and without bystanders. -/
theorem beat?_joinedBy (ignores : now.run.Ignores more) (i clock : Nat) :
    (now.joinedBy more).beat? (.stream i clock) = now.beat? (.stream i clock) := by
  simp only [beat?, joinedBy]
  cases here : now.run.streams[i]? with
  | none => rfl
  | some s =>
    have same (deed : Deed) : now.run.partnerAfter? (now.cast.joinedBy more) i s deed =
        now.run.partnerAfter? now.cast i s deed := by
      cases deed with
      | completes b => exact Run.partner?_joinedBy (ignores.complete here)
      | begins | acts | ends => rfl
    simp only [Option.bind_eq_bind, Option.bind_some, same]

end Scene

end Troupe
