import Troupe.Proofs.Encounter
import Troupe.Run.Resume
import Troupe.Workspace

/-!
# Scenes

A scene is a run together with the cast it is performed with. It goes on in turns: either a stream
makes its next step, or the host does something to the cast. A list of turns is one interleaving of
the streams with each other and with the host, and `Scene.play` is what comes of it, so a statement
about every list of turns holds for every interleaving.

What the streams do in the turns is kept as a list of beats, from which the history of every stream
can be read. `Scene.Moves` says once what a turn can come to, and `Scene.history_induction` turns a
property that every move keeps into one of every history. `Scene.exists_play_eq_resume` says that
a stream that goes on up to its next pause takes turns of this kind and no others.
-/

namespace Troupe

/-- A run and the cast it is performed with. -/
structure Scene where
  /-- The run. -/
  run : Run
  /-- The sprites on the stage. -/
  cast : Cast

/-- What may come next in a scene. -/
inductive Turn where
  /-- The stream at a place makes its next step, at a time. -/
  | stream (place clock : Nat)
  /-- The host does something to the cast. -/
  | host (edit : Cast → Cast)

/-- The turns in which streams make their steps, each at a time, while the host does nothing. -/
def Turn.inOrder (order : List (Nat × Nat)) : List Turn :=
  order.map fun (place, clock) => .stream place clock

/-- What a stream did in a turn. -/
structure Beat where
  /-- The place of the stream. -/
  place : Nat
  /-- What it did. -/
  deed : Deed
  /-- The place of the stream with which it then exchanged its remaining blocks. -/
  partner : Option Nat

namespace Beat

/-- The block that was begun. -/
def begun? (beat : Beat) : Option Block :=
  match beat.deed with
  | .begins b => some b
  | _ => none

/-- The block that was performed to its end. -/
def performed? (beat : Beat) : Option Block :=
  match beat.deed with
  | .completes b => some b
  | _ => none

/-- The action that was performed. -/
def action? (beat : Beat) : Option Action :=
  match beat.deed with
  | .acts action _ => some action
  | _ => none

end Beat

/-- What the streams of a scene did, in order. -/
abbrev History := List Beat

namespace History

/-- What the stream at a place did. -/
def ofStream (i : Nat) (history : History) : History := history.filter (·.place = i)

/-- The blocks that were begun. -/
def begun (history : History) : List Block := history.filterMap Beat.begun?

/-- The blocks that were performed to their end. -/
def performed (history : History) : List Block := history.filterMap Beat.performed?

/-- The actions that were performed. -/
def actions (history : History) : List Action := history.filterMap Beat.action?

variable {past later : History} {beat : Beat} {i : Nat}

/-- One beat is part of the history of its own stream. -/
theorem ofStream_singleton : ofStream i [beat] = if beat.place = i then [beat] else [] := by
  by_cases own : beat.place = i <;> simp [ofStream, own]

/-- One beat begins one block at most. -/
@[simp] theorem begun_singleton : begun [beat] = beat.begun?.toList := by
  rw [begun, List.filterMap_cons]
  cases beat.begun? <;> rfl

/-- One beat performs one block at most. -/
@[simp] theorem performed_singleton : performed [beat] = beat.performed?.toList := by
  rw [performed, List.filterMap_cons]
  cases beat.performed? <;> rfl

/-- One beat does one action at most. -/
@[simp] theorem actions_singleton : actions [beat] = beat.action?.toList := by
  rw [actions, List.filterMap_cons]
  cases beat.action? <;> rfl

/-- The history of a stream goes on with what it does later. -/
@[simp] theorem ofStream_append :
    ofStream i (past ++ later) = ofStream i past ++ ofStream i later :=
  List.filter_append ..

/-- Blocks that are begun later come behind the others. -/
@[simp] theorem begun_append : begun (past ++ later) = begun past ++ begun later :=
  List.filterMap_append ..

/-- Blocks that are performed later come behind the others. -/
@[simp] theorem performed_append :
    performed (past ++ later) = performed past ++ performed later :=
  List.filterMap_append ..

/-- Actions that are done later come behind the others. -/
@[simp] theorem actions_append : actions (past ++ later) = actions past ++ actions later :=
  List.filterMap_append ..

end History

/-- The stream with which the one at a place exchanges its remaining blocks after a deed. -/
def Run.partnerAfter? (run : Run) (cast : Cast) (i : Nat) (s : Stream) : Deed → Option Nat
  | .completes _ => (run.setStream i s.complete).partner? cast i
  | _ => none

/-- A run has one stream for each script, in order. -/
theorem Run.map_sprite_ofScripts (settings : Settings) (heroMode : Bool)
    (scripts : List (SpriteId × Script)) :
    (Run.ofScripts settings heroMode scripts).streams.map (·.agenda.sprite) =
      scripts.map Prod.fst := by
  rw [Run.ofScripts, List.map_map]
  rfl

/-- The scripts to perform are those of the sprites on the stage, in order. -/
theorem Workspace.map_fst_castScripts (w : Workspace) :
    w.castScripts.map Prod.fst = w.cast.ids := by
  rw [castScripts, List.map_map]
  exact List.map_id'' (fun _ => rfl) _

namespace Scene

/-- The scene in which a run of scripts starts. -/
def opening (settings : Settings) (heroMode : Bool) (scripts : List (SpriteId × Script))
    (cast : Cast) : Scene where
  run := .ofScripts settings heroMode scripts
  cast := cast

/-- The scene in which the run of a workspace starts. -/
def ofWorkspace (w : Workspace) : Scene := opening w.settings w.heroMode w.castScripts w.cast

/-- The scene after a turn. A stream that has ended makes no step. -/
def turn (now : Scene) : Turn → Scene
  | .stream i clock =>
    match now.run.step? i clock now.cast with
    | some step => { run := step.run, cast := step.cast }
    | none => now
  | .host edit => { now with cast := edit now.cast }

/-- The scene after a number of turns. -/
def play (start : Scene) (turns : List Turn) : Scene := turns.foldl turn start

/-- What a stream does in a turn. -/
def beat? (now : Scene) : Turn → Option Beat
  | .stream i _ => do
    let s ← now.run.streams[i]?
    if s.ended then none
    else
      let deed := s.deed now.run.movePause
      some { place := i, deed, partner := now.run.partnerAfter? now.cast i s deed }
  | .host _ => none

/-- What the streams do in a number of turns, in order. -/
def beats (start : Scene) : List Turn → History
  | [] => []
  | turn :: rest => (start.beat? turn).toList ++ beats (start.turn turn) rest

/-- Without turns, nothing changes. -/
@[simp] theorem play_nil (start : Scene) : start.play [] = start := rfl

/-- The first turn is taken before the others. -/
@[simp] theorem play_cons (start : Scene) (turn : Turn) (rest : List Turn) :
    start.play (turn :: rest) = (start.turn turn).play rest := rfl

/-- Taking turns and then others is taking them all. -/
theorem play_append (start : Scene) (turns later : List Turn) :
    start.play (turns ++ later) = (start.play turns).play later :=
  List.foldl_append ..

/-! ## What a turn can come to -/

/-- One turn of a scene: what a stream does in it, if one does anything, and the scene after it. -/
inductive Moves (now : Scene) : Turn → Option Beat → Scene → Prop where
  /-- There is no stream at the place, or it has ended. -/
  | rests {i clock : Nat} : Moves now (.stream i clock) none now
  /-- The host changes the cast. -/
  | hosts (edit : Cast → Cast) : Moves now (.host edit) none { now with cast := edit now.cast }
  /-- A stream begins a block. -/
  | begins {i clock : Nat} {s : Stream} {b : Block} (here : now.run.streams[i]? = some s)
      (going : s.ended = false) (next : s.deed now.run.movePause = .begins b) :
      Moves now (.stream i clock) (some { place := i, deed := .begins b, partner := none })
        { now with run := now.run.setStream i (s.begin b) }
  /-- A stream performs an action of its block. -/
  | acts {i clock : Nat} {s : Stream} {action : Action} {rest : Work}
      (here : now.run.streams[i]? = some s) (going : s.ended = false)
      (next : s.deed now.run.movePause = .acts action rest) :
      Moves now (.stream i clock) (some { place := i, deed := .acts action rest, partner := none })
        { run := now.run.setStream i (s.continueWith rest)
          cast := action.perform s.agenda.sprite now.cast }
  /-- A stream completes its block and meets none. -/
  | completes {i clock : Nat} {s : Stream} {b : Block} (here : now.run.streams[i]? = some s)
      (going : s.ended = false) (next : s.deed now.run.movePause = .completes b)
      (alone : (now.run.setStream i s.complete).partner? now.cast i = none) :
      Moves now (.stream i clock) (some { place := i, deed := .completes b, partner := none })
        { now with run := now.run.setStream i s.complete }
  /-- A stream completes its block and exchanges its remaining blocks with another one. -/
  | exchanges {i j clock : Nat} {s t : Stream} {b : Block} {radius : Binary64}
      (here : now.run.streams[i]? = some s) (going : s.ended = false)
      (next : s.deed now.run.movePause = .completes b) (apart : j ≠ i)
      (there : now.run.streams[j]? = some t) (hero : now.run.radius = some radius)
      (met : Encounter.Met radius now.cast.sprites s.complete.agenda t.agenda) :
      Moves now (.stream i clock) (some { place := i, deed := .completes b, partner := some j })
        { now with
          run := { now.run with
            streams :=
              (now.run.streams.set i (s.complete.takeRemaining t)).set j
                (t.takeRemaining s.complete)
            swaps := now.run.swaps + 1 } }
  /-- A stream finds no next block and ends. -/
  | ends {i clock : Nat} {s : Stream} (here : now.run.streams[i]? = some s)
      (going : s.ended = false) (next : s.deed now.run.movePause = .ends) :
      Moves now (.stream i clock) (some { place := i, deed := .ends, partner := none })
        { now with run := now.run.setStream i s.finish }

/-- The stream that a completing one meets is another one, which the completion did not change. -/
theorem of_partner?_eq_some {run : Run} {cast : Cast} {i j : Nat} {s : Stream}
    (here : run.streams[i]? = some s)
    (h : (run.setStream i s.complete).partner? cast i = some j) :
    j ≠ i ∧ ∃ radius t, run.radius = some radius ∧ run.streams[j]? = some t ∧
      Encounter.Met radius cast.sprites s.complete.agenda t.agenda := by
  obtain ⟨radius, hero, found⟩ := Option.bind_eq_some_iff.1 h
  obtain ⟨apart, a, b, first, second, met⟩ := Encounter.of_exchangePartner?_eq_some found
  simp only [Run.agendas, Run.setStream, List.getElem?_map] at first second
  rw [List.getElem?_set_ne apart.symm] at second
  obtain ⟨t, there, rfl⟩ := Option.map_eq_some_iff.1 second
  have within := (List.getElem?_eq_some_iff.1 here).1
  rw [List.getElem?_set_self within] at first
  obtain rfl : s.complete.agenda = a := by simpa using first
  exact ⟨apart, radius, t, hero, there, met⟩

/-- A stream that changed exchanges what remains with another one, both at their places. -/
theorem exchangeAt_set {streams : List Stream} {i j : Nat} {s t : Stream}
    (within : i < streams.length) (apart : j ≠ i) (there : streams[j]? = some t) :
    Run.exchangeAt (streams.set i s) i j =
      (streams.set i (s.takeRemaining t)).set j (t.takeRemaining s) := by
  have first : (streams.set i s)[i]? = some s := List.getElem?_set_self within
  have second : (streams.set i s)[j]? = some t := by rw [List.getElem?_set_ne apart.symm, there]
  simp only [Run.exchangeAt, first, second, List.set_set]

/-- Every turn is one of the moves. -/
theorem moves_turn (now : Scene) (turn : Turn) :
    now.Moves turn (now.beat? turn) (now.turn turn) := by
  cases turn with
  | host edit => exact .hosts _
  | stream i clock =>
    simp only [Scene.turn, beat?, Run.step?]
    cases here : now.run.streams[i]? with
    | none => exact .rests
    | some s =>
      cases ended : s.ended with
      | true => simpa [ended] using Moves.rests
      | false =>
        simp only [Option.bind_eq_bind, Option.bind_some, ended, Bool.false_eq_true, ↓reduceIte]
        cases next : s.deed now.run.movePause with
        | begins b => exact .begins here ended next
        | acts action rest => exact .acts here ended next
        | ends => exact .ends here ended next
        | completes b =>
          simp only [Run.follow, Run.encounter, Run.partnerAfter?]
          cases found : (now.run.setStream i s.complete).partner? now.cast i with
          | none => exact .completes here ended next found
          | some j =>
            obtain ⟨apart, radius, t, hero, there, met⟩ := of_partner?_eq_some here found
            have within := (List.getElem?_eq_some_iff.1 here).1
            simp only [Run.setStream, exchangeAt_set within apart there]
            exact .exchanges here ended next apart there hero met

/-- What is done in a turn is done by the stream whose turn it is. -/
theorem turn_of_moves {now next : Scene} {turn : Turn} {beat : Beat}
    (moves : now.Moves turn (some beat) next) : ∃ clock, turn = .stream beat.place clock := by
  cases moves <;> exact ⟨_, rfl⟩

/-! ## What a move comes to for one stream -/

/-- What a stream at a place becomes in a move, by what was done in it. -/
inductive Becomes (now : Scene) (k : Nat) (s : Stream) : Option Beat → Stream → Prop where
  /-- Neither does it do anything nor is it met. -/
  | stays {beat : Option Beat} (elsewhere : ∀ b ∈ beat, b.place ≠ k ∧ b.partner ≠ some k) :
      Becomes now k s beat s
  /-- It begins a block. -/
  | begins {b : Block} (going : s.ended = false) (next : s.deed now.run.movePause = .begins b) :
      Becomes now k s (some { place := k, deed := .begins b, partner := none }) (s.begin b)
  /-- It performs an action of its block. -/
  | acts {action : Action} {rest : Work} (going : s.ended = false)
      (next : s.deed now.run.movePause = .acts action rest) :
      Becomes now k s (some { place := k, deed := .acts action rest, partner := none })
        (s.continueWith rest)
  /-- It completes its block and meets none. -/
  | completes {b : Block} (going : s.ended = false)
      (next : s.deed now.run.movePause = .completes b) :
      Becomes now k s (some { place := k, deed := .completes b, partner := none }) s.complete
  /-- It completes its block and takes the remaining blocks of the one that it meets. -/
  | exchanges {j : Nat} {b : Block} {t : Stream} (going : s.ended = false)
      (next : s.deed now.run.movePause = .completes b) (apart : j ≠ k)
      (there : now.run.streams[j]? = some t) :
      Becomes now k s (some { place := k, deed := .completes b, partner := some j })
        (s.complete.takeRemaining t)
  /-- It is met, and takes the remaining blocks of the one that completed its block. -/
  | met {i : Nat} {b : Block} {t : Stream} (going : s.agenda.isExhausted = false)
      (fresh : s.agenda.exchanged = false) (apart : i ≠ k)
      (there : now.run.streams[i]? = some t) (next : t.deed now.run.movePause = .completes b) :
      Becomes now k s (some { place := i, deed := .completes b, partner := some k })
        (s.takeRemaining t.complete)
  /-- It ends. -/
  | ends (going : s.ended = false) (next : s.deed now.run.movePause = .ends) :
      Becomes now k s (some { place := k, deed := .ends, partner := none }) s.finish

variable {now next : Scene} {turn : Turn} {beat : Option Beat} {k : Nat} {s t : Stream}

/-- A stream goes on with the sprite it has. -/
theorem sprite_of_becomes (becomes : Becomes now k s beat t) :
    t.agenda.sprite = s.agenda.sprite := by
  cases becomes with
  | begins going next => exact Agenda.sprite_begin
  | stays | acts | completes | exchanges | met | ends => rfl

/-- A stream that has not ended had not ended before. -/
theorem going_of_becomes (becomes : Becomes now k s beat t) (going : t.ended = false) :
    s.ended = false := by
  cases becomes with
  | ends => exact nomatch going
  | stays | begins | acts | completes | exchanges | met => exact going

/-- Without a partner, a stream keeps its blocks. -/
theorem blocks_of_becomes (becomes : Becomes now k s beat t)
    (alone : ∀ b ∈ beat, b.partner = none) : t.agenda.blocks = s.agenda.blocks := by
  cases becomes with
  | begins going next => exact Agenda.blocks_begin
  | stays | acts | completes | ends => rfl
  | exchanges | met => exact nomatch alone _ rfl

/-- A turn keeps the number of streams. -/
@[simp] theorem length_streams_of_moves (moves : now.Moves turn beat next) :
    next.run.streams.length = now.run.streams.length := by
  cases moves <;> simp [Run.setStream]

/-- A turn keeps the rest after a shift. -/
theorem movePause_of_moves (moves : now.Moves turn beat next) :
    next.run.movePause = now.run.movePause := by
  cases moves <;> rfl

/-- A turn keeps the distance at which sprites meet. -/
theorem radius_of_moves (moves : now.Moves turn beat next) : next.run.radius = now.run.radius := by
  cases moves <;> rfl

/-- When one stream is replaced, the stream at a place is the new one or the one that was there. -/
theorem getElem?_set_cases {streams : List Stream} (i : Nat) (u : Stream)
    (here : streams[k]? = some s) :
    (i = k ∧ (streams.set i u)[k]? = some u) ∨ (i ≠ k ∧ (streams.set i u)[k]? = some s) := by
  by_cases same : i = k
  · subst same
    exact .inl ⟨rfl, List.getElem?_set_self (List.getElem?_eq_some_iff.1 here).1⟩
  · exact .inr ⟨same, (List.getElem?_set_ne same).trans here⟩

/-- When a stream does something on its own, all others stay as they are. -/
theorem becomes_of_set {i : Nat} {u : Stream} {deed : Deed}
    (here : now.run.streams[k]? = some s) (there : now.run.streams[i]? = some u)
    (own : Becomes now i u (some { place := i, deed, partner := none }) t) :
    ∃ s', (now.run.streams.set i t)[k]? = some s' ∧
      Becomes now k s (some { place := i, deed, partner := none }) s' := by
  rcases getElem?_set_cases i t here with ⟨rfl, set⟩ | ⟨other, set⟩
  · obtain rfl : s = u := by simpa [here] using there
    exact ⟨t, set, own⟩
  · exact ⟨s, set, .stays (by simpa using other)⟩

/-- In a move, every stream becomes what `Becomes` says. -/
theorem becomes_of_moves (moves : now.Moves turn beat next) (here : now.run.streams[k]? = some s) :
    ∃ t, next.run.streams[k]? = some t ∧ Becomes now k s beat t := by
  cases moves with
  | rests => exact ⟨s, here, .stays (by simp)⟩
  | hosts cast => exact ⟨s, here, .stays (by simp)⟩
  | begins there going next => exact becomes_of_set here there (.begins going next)
  | acts there going next => exact becomes_of_set here there (.acts going next)
  | completes there going next => exact becomes_of_set here there (.completes going next)
  | ends there going next => exact becomes_of_set here there (.ends going next)
  | @exchanges i j clock u v b radius there going next apart beside hero met =>
    rcases getElem?_set_cases i (u.complete.takeRemaining v) here with ⟨rfl, set⟩ | ⟨other, set⟩
    · obtain rfl : s = u := by simpa [here] using there
      exact ⟨_, (List.getElem?_set_ne apart).trans set, .exchanges going next apart beside⟩
    · rcases getElem?_set_cases j (v.takeRemaining u.complete) set with
        ⟨rfl, set'⟩ | ⟨other', set'⟩
      · obtain rfl : s = v := by simpa [here] using beside
        exact ⟨_, set', .met met.going met.fresh other there next⟩
      · exact ⟨s, set', .stays (by simpa using ⟨other, other'⟩)⟩

/-- Every stream after a move is what one before it became. -/
theorem became_of_moves (moves : now.Moves turn beat next) (there : next.run.streams[k]? = some t) :
    ∃ s, now.run.streams[k]? = some s ∧ Becomes now k s beat t := by
  have within : k < now.run.streams.length := by
    rw [← length_streams_of_moves moves]
    exact (List.getElem?_eq_some_iff.1 there).1
  obtain ⟨t', there', becomes⟩ := becomes_of_moves moves (List.getElem?_eq_getElem within)
  obtain rfl : t' = t := by simpa [there'] using there
  exact ⟨_, List.getElem?_eq_getElem within, becomes⟩

/-- What every stream keeps in a move, they all keep in order. -/
theorem map_streams_of_moves {α : Type} {f : Stream → α} (moves : now.Moves turn beat next)
    (same : ∀ {k s t}, Becomes now k s beat t → f t = f s) :
    next.run.streams.map f = now.run.streams.map f := by
  refine List.ext_getElem? fun k => ?_
  rw [List.getElem?_map, List.getElem?_map]
  cases here : now.run.streams[k]? with
  | none =>
    have beyond : next.run.streams.length ≤ k := by
      rw [length_streams_of_moves moves]
      exact List.getElem?_eq_none_iff.1 here
    rw [List.getElem?_eq_none beyond]
  | some s =>
    obtain ⟨t, there, becomes⟩ := becomes_of_moves moves here
    rw [there, Option.map_some, Option.map_some, same becomes]

/-! ## Histories -/

/-- The beats of later turns are told from the scene to which the earlier ones lead. -/
theorem beats_append (start : Scene) (turns later : List Turn) :
    start.beats (turns ++ later) = start.beats turns ++ (start.play turns).beats later := by
  induction turns generalizing start with
  | nil => rfl
  | cons turn rest ih => simp only [List.cons_append, beats, ih, play_cons, List.append_assoc]

/-- The first part of a history is what the streams did in the first part of the turns. -/
theorem exists_turns_of_beats_eq {start : Scene} {turns : List Turn} {past later : History}
    (split : start.beats turns = past ++ later) :
    ∃ before after, turns = before ++ after ∧ start.beats before = past ∧
      (start.play before).beats after = later := by
  induction turns generalizing start past with
  | nil =>
    obtain ⟨rfl, rfl⟩ := List.nil_eq_append_iff.1 split
    exact ⟨[], [], rfl, rfl, rfl⟩
  | cons turn rest ih =>
    cases past with
    | nil => exact ⟨[], turn :: rest, rfl, rfl, split⟩
    | cons beat past =>
      cases did : start.beat? turn with
      | none =>
        have same : (start.turn turn).beats rest = beat :: past ++ later := by
          simpa [beats, did] using split
        obtain ⟨before, after, rfl, first, second⟩ := ih same
        exact ⟨turn :: before, after, rfl, by simp [beats, did, first], second⟩
      | some own =>
        obtain ⟨rfl, others⟩ : own = beat ∧ (start.turn turn).beats rest = past ++ later := by
          simpa [beats, did] using split
        obtain ⟨before, after, rfl, first, second⟩ := ih others
        exact ⟨turn :: before, after, rfl, by simp [beats, did, first], second⟩

/-- What holds at the start and is kept by every move holds in every history. -/
theorem history_induction {motive : History → Scene → Prop} {start : Scene} {turns : List Turn}
    (initial : motive [] start)
    (step : ∀ {past now turn beat next}, turn ∈ turns → motive past now →
      Moves now turn beat next → motive (past ++ beat.toList) next) :
    motive (start.beats turns) (start.play turns) := by
  suffices onwards : ∀ past now, motive past now →
      motive (past ++ now.beats turns) (now.play turns) from onwards [] start initial
  clear initial
  induction turns with
  | nil => intro past now holds; simpa [beats] using holds
  | cons turn rest ih =>
    intro past now holds
    have after := step List.mem_cons_self holds (now.moves_turn turn)
    have whole := ih (fun member => step (List.mem_cons_of_mem turn member)) _ _ after
    simpa only [beats, play_cons, List.append_assoc] using whole

/-- What holds at the start and is kept by every move holds in every scene that is reached. -/
theorem play_induction {motive : Scene → Prop} {start : Scene} {turns : List Turn}
    (initial : motive start)
    (step : ∀ {now turn beat next}, motive now → Moves now turn beat next → motive next) :
    motive (start.play turns) :=
  history_induction (motive := fun _ now => motive now) initial
    (fun _ holds moves => step holds moves)

/-- No streams come or go. -/
theorem length_streams_play (start : Scene) (turns : List Turn) :
    (start.play turns).run.streams.length = start.run.streams.length :=
  play_induction (motive := fun now => now.run.streams.length = start.run.streams.length) rfl
    (fun same moves => (length_streams_of_moves moves).trans same)

/-- Turns keep the rest after a shift. -/
theorem movePause_play (start : Scene) (turns : List Turn) :
    (start.play turns).run.movePause = start.run.movePause :=
  play_induction (motive := fun now => now.run.movePause = start.run.movePause) rfl
    (fun same moves => (movePause_of_moves moves).trans same)

/-- Streams go on with the sprites they have. -/
theorem map_sprite_play (start : Scene) (turns : List Turn) :
    (start.play turns).run.streams.map (·.agenda.sprite) =
      start.run.streams.map (·.agenda.sprite) :=
  play_induction (motive := fun now =>
      now.run.streams.map (·.agenda.sprite) = start.run.streams.map (·.agenda.sprite)) rfl
    (fun same moves => (map_streams_of_moves moves sprite_of_becomes).trans same)

/-- A stream that goes on up to its next pause, or to its end, takes turns of its own. -/
theorem exists_play_eq_resume (now : Scene) (i clock : Nat) :
    ∃ n, now.play (List.replicate n (.stream i clock)) =
      { run := (now.run.resume i clock now.cast).run
        cast := (now.run.resume i clock now.cast).cast } := by
  obtain ⟨run, cast⟩ := now
  fun_induction Run.resume run i clock cast with
  | case1 => exact ⟨0, rfl⟩
  | case2 run cast step h duration paused =>
    exact ⟨1, by simp [Scene.turn, h]⟩
  | case3 run cast step h going smaller later ih =>
    obtain ⟨n, rest⟩ := ih
    refine ⟨n + 1, ?_⟩
    rw [List.replicate_succ, play_cons]
    simpa only [Scene.turn, h] using rest

end Scene

/-! ## A duet -/

/-- Two sprites near each other, in hero mode, each with a script. -/
def Workspace.duet : Workspace where
  cast := ⟨[.create (.ofNat 0) .cat ⟨100, 100⟩, .create (.ofNat 1) .dog ⟨105, 100⟩]⟩
  scripts id :=
    if id = .ofNat 0 then [.move 1, .turn 2] else [.turn 3, .loop 2 [.turnLeft 4], .say "hi" 1]
  heroMode := true

/-- Two streams take turns, a number of times each. -/
def Turn.alternating (n : Nat) : List Turn := (List.replicate n [.stream 0 0, .stream 1 0]).flatten

end Troupe
