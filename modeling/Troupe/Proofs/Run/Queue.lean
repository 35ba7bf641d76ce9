import Troupe.Proofs.Run.Sound
import Mathlib.Algebra.Group.End
import Mathlib.Algebra.BigOperators.Group.List.Basic
import Mathlib.Data.Fintype.EquivFin

/-!
# Every script stays one queue

Remaining blocks are only exchanged as a whole. So the blocks of one script stay together, in the
order of the script, and one stream at a time holds those that are not begun yet. Which one that is
depends on the exchanges alone: `History.queue` is a permutation of the streams, and each exchange
multiplies it by a transposition. With it, every block that is begun can be traced to the script it
comes from (`History.origins`), and `Scene.each_script_is_one_queue` says that the blocks of a
script are begun in its order, whichever streams begin them.
-/

namespace Troupe

/-- In an exchange, a stream and its partner get what the other one held. -/
def Beat.exchange (beat : Beat) : Equiv.Perm Nat :=
  match beat.partner with
  | some j => Equiv.swap beat.place j
  | none => 1

/-- An exchange changes nothing for the other streams. -/
theorem Beat.exchange_apply_of_ne {beat : Beat} {k : Nat} (other : beat.place ≠ k)
    (apart : beat.partner ≠ some k) : beat.exchange k = k := by
  unfold exchange
  split
  · rename_i j partner
    have beside : k ≠ j := by
      rintro rfl
      exact apart partner
    exact Equiv.swap_apply_of_ne_of_ne other.symm beside
  · rfl

namespace History

/-- Whose script the remaining blocks of each stream belong to. -/
def queue (history : History) : Equiv.Perm Nat := (history.map Beat.exchange).prod

/-- The blocks that are begun, each with the place of the script it belongs to, when it is known
for each stream whose script its remaining blocks belong to at first. -/
def originsFrom (held : Equiv.Perm Nat) : History → List (Nat × Block)
  | [] => []
  | beat :: rest =>
    (beat.begun?.map (held beat.place, ·)).toList ++ originsFrom (held * beat.exchange) rest

/-- The blocks that were begun, in order, each with the place of the script it belongs to. -/
def origins (history : History) : List (Nat × Block) := originsFrom 1 history

/-- The blocks of the script at a place that were begun, in order. -/
def begunOf (q : Nat) (history : History) : List Block :=
  (history.origins.filter (·.1 = q)).map (·.2)

variable {past later : History} {beat : Beat}

/-- The queues after one further beat are those before it, exchanged as the beat says. -/
theorem queue_concat : queue (past ++ [beat]) = queue past * beat.exchange := by
  rw [queue, List.map_append, List.prod_append]
  exact congrArg _ List.prod_singleton

/-- The origins of what comes later are told with the queues at that time. -/
theorem originsFrom_append (held : Equiv.Perm Nat) :
    originsFrom held (past ++ later) =
      originsFrom held past ++ originsFrom (held * past.queue) later := by
  induction past generalizing held with
  | nil => simp [originsFrom, queue]
  | cons beat rest ih =>
    have whole : held * beat.exchange * queue rest = held * queue (beat :: rest) := by
      simp only [queue, List.map_cons, List.prod_cons, mul_assoc]
    simp only [List.cons_append, originsFrom, ih, whole, List.append_assoc]

/-- A block that is begun belongs to the script that its stream holds at that time. -/
theorem origins_concat :
    origins (past ++ [beat]) =
      origins past ++ (beat.begun?.map (past.queue beat.place, ·)).toList := by
  simp only [origins, originsFrom_append, originsFrom, one_mul, List.append_nil]

/-- Every block that was begun has one origin. -/
theorem map_snd_origins (history : History) : history.origins.map (·.2) = history.begun := by
  suffices all : ∀ held, (originsFrom held history).map (·.2) = history.begun from all 1
  induction history with
  | nil => exact fun held => rfl
  | cons beat rest ih =>
    intro held
    have first : begun (beat :: rest) = beat.begun?.toList ++ begun rest := by
      rw [← begun_singleton, ← begun_append]
      rfl
    rw [originsFrom, List.map_append, ih, first, ← Option.toList_map]
    simp

/-- One further beat begins a block of a queue if its stream holds this queue. -/
theorem begunOf_concat (q : Nat) :
    begunOf q (past ++ [beat]) =
      begunOf q past ++ if past.queue beat.place = q then beat.begun?.toList else [] := by
  rw [begunOf, origins_concat, List.filter_append, List.map_append, begunOf]
  cases beat.begun? with
  | none => simp
  | some b => by_cases own : past.queue beat.place = q <;> simp [own]

end History

/-- The remaining blocks of a stream are what is left of the script that it holds, when the blocks
of that script that were begun are taken away at the front. -/
def Stream.Holds (scripts : List (SpriteId × Script)) (past : History) (k : Nat) (s : Stream) :
    Prop :=
  (scripts[past.queue k]?).map (·.2) = some (past.begunOf (past.queue k) ++ s.agenda.remaining)

/-- A stream holds in the end what another one held before a beat, except for the block that is
begun in it. -/
theorem Stream.Holds.concat {scripts : List (SpriteId × Script)} {past : History} {beat : Beat}
    {j k : Nat} {s t : Stream} (before : s.Holds scripts past j) (moved : beat.exchange k = j)
    (rest : s.agenda.remaining =
      (if past.queue beat.place = past.queue j then beat.begun?.toList else []) ++
        t.agenda.remaining) : t.Holds scripts (past ++ [beat]) k := by
  rw [Stream.Holds, History.queue_concat, Equiv.Perm.mul_apply, moved, History.begunOf_concat,
    List.append_assoc, ← rest]
  exact before

namespace Scene

variable {scripts : List (SpriteId × Script)} {past : History} {now next : Scene}
  {turn : Turn} {beat : Option Beat} {k : Nat} {s t : Stream}

/-- In a move, every stream goes on holding what is left of a script. -/
theorem holds_of_becomes (sound : now.run.Sound)
    (holds : ∀ (i : Nat) (u : Stream), now.run.streams[i]? = some u → u.Holds scripts past i)
    (here : now.run.streams[k]? = some s) (becomes : Becomes now k s beat t) :
    t.Holds scripts (past ++ beat.toList) k := by
  have own := holds k s here
  have ownSound := sound.of_getElem? here
  cases becomes with
  | stays elsewhere =>
    cases beat with
    | none => simpa using own
    | some b =>
      obtain ⟨other, apart⟩ := elsewhere b rfl
      have differ : past.queue b.place ≠ past.queue k := past.queue.injective.ne other
      exact own.concat (Beat.exchange_apply_of_ne other apart) (by rw [if_neg differ]; rfl)
  | begins going next =>
    exact own.concat rfl (by rw [if_pos rfl]; exact ownSound.remaining_begin next)
  | acts going next => exact own.concat rfl (by rw [if_pos rfl]; rfl)
  | ends going next => exact own.concat rfl (by rw [if_pos rfl]; rfl)
  | completes going next =>
    exact own.concat rfl (by rw [if_pos rfl]; exact (ownSound.remaining_complete next).symm)
  | @exchanges j b u going next apart there =>
    have taken := (ownSound.complete going next).remaining_takeRemaining u
    refine (holds j u there).concat (Equiv.swap_apply_left ..) ?_
    simpa [Beat.begun?] using taken.symm
  | @met i b u going fresh apart there next =>
    have taken := ownSound.remaining_takeRemaining u.complete
    have kept := (sound.of_getElem? there).remaining_complete next
    refine (holds i u there).concat (Equiv.swap_apply_right ..) ?_
    simpa [Beat.begun?] using (taken.trans kept).symm

/-- A block that is begun belongs to a script. -/
theorem origin_lt_of_moves (moves : now.Moves turn beat next)
    (holds : ∀ (i : Nat) (u : Stream), now.run.streams[i]? = some u → u.Holds scripts past i)
    (known : ∀ origin ∈ past.origins, origin.1 < scripts.length) :
    ∀ origin ∈ (past ++ beat.toList : History).origins, origin.1 < scripts.length := by
  cases moves with
  | rests | hosts => simpa using known
  | acts here going next | completes here going next | exchanges here going next
  | ends here going next => simpa [History.origins_concat, Beat.begun?] using known
  | @begins i clock s b here going next =>
    have held : (scripts[past.queue i]?).isSome = true := by
      rw [← Option.isSome_map, holds i s here]
      rfl
    have within : past.queue i < scripts.length := by simpa using held
    rw [Option.toList_some, History.origins_concat]
    intro origin member
    obtain before | new := List.mem_append.1 member
    · exact known origin before
    · obtain rfl : origin = (past.queue i, b) := by simpa [Beat.begun?] using new
      exact within

/-- In every scene that is reached, every stream holds what is left of a script. -/
theorem holds_play (settings : Settings) (heroMode : Bool) (scripts : List (SpriteId × Script))
    (cast : Cast) (turns : List Turn) :
    let start := opening settings heroMode scripts cast
    let now := start.play turns
    now.run.Sound ∧ now.run.streams.length = scripts.length ∧
      (∀ (i : Nat) (s : Stream), now.run.streams[i]? = some s →
        s.Holds scripts (start.beats turns) i) ∧
      ∀ origin ∈ (start.beats turns).origins, origin.1 < scripts.length := by
  intro start
  refine history_induction (motive := fun past now =>
    now.run.Sound ∧ now.run.streams.length = scripts.length ∧
      (∀ (i : Nat) (s : Stream), now.run.streams[i]? = some s → s.Holds scripts past i) ∧
      ∀ origin ∈ past.origins, origin.1 < scripts.length) ?_ ?_
  · refine ⟨sound_opening settings heroMode scripts cast, List.length_map .., fun i s here => ?_,
      fun origin member => nomatch member⟩
    simp only [start, opening, Run.ofScripts, List.getElem?_map] at here
    obtain ⟨⟨id, script⟩, there, rfl⟩ := Option.map_eq_some_iff.1 here
    have whole : (Stream.ofScript id script).agenda.remaining = script := by
      simp [Stream.ofScript, Agenda.ofScript, Agenda.remaining, Agenda.splitPoint]
    have own : scripts[History.queue [] i]? = some (id, script) := there
    rw [Stream.Holds, own, whole]
    rfl
  · rintro past now turn beat next - ⟨sound, same, holds, known⟩ moves
    refine ⟨sound_of_moves sound moves, (length_streams_of_moves moves).trans same,
      fun i t there => ?_, origin_lt_of_moves moves holds known⟩
    obtain ⟨s, here, becomes⟩ := became_of_moves moves there
    exact holds_of_becomes sound holds here becomes

/-- Every script stays one ordered queue with one holder. At any time there is a permutation of the
streams such that the remaining blocks of each one are the end of the script that it is mapped to,
and the blocks of that script before them are those that were begun of it, in order. So the blocks
of a script are begun in its order, each once, whichever streams begin them, and all of them are
begun when all streams have ended. -/
theorem each_script_is_one_queue (settings : Settings) (heroMode : Bool)
    (scripts : List (SpriteId × Script)) (cast : Cast) (turns : List Turn) :
    let start := opening settings heroMode scripts cast
    let now := start.play turns
    let past := start.beats turns
    (∃ queue : Equiv.Perm (Fin scripts.length), ∀ i : Fin scripts.length,
        (queue i : Nat) = past.queue i ∧ ∃ s, now.run.streams[(i : Nat)]? = some s ∧
          scripts[queue i].2 = past.begunOf (queue i) ++ s.agenda.remaining) ∧
      past.origins.map (·.2) = past.begun ∧
      (∀ origin ∈ past.origins, origin.1 < scripts.length) ∧
      (∀ q : Fin scripts.length, past.begunOf q <+: scripts[q].2) ∧
      (now.run.isFinished = true → ∀ q : Fin scripts.length, past.begunOf q = scripts[q].2) := by
  intro start now past
  obtain ⟨sound, same, holds, known⟩ := holds_play settings heroMode scripts cast turns
  -- The queue of a stream is that of a script, and two streams have different ones.
  have held (i : Fin scripts.length) : ∃ s, now.run.streams[(i : Nat)]? = some s ∧
      ∃ q : Fin scripts.length, (q : Nat) = past.queue i ∧
        scripts[q].2 = past.begunOf q ++ s.agenda.remaining := by
    have within : (i : Nat) < now.run.streams.length := by
      rw [same]
      exact i.isLt
    refine ⟨_, List.getElem?_eq_getElem within, ?_⟩
    obtain ⟨entry, there, parts⟩ :=
      Option.map_eq_some_iff.1 (holds i _ (List.getElem?_eq_getElem within))
    obtain ⟨bound, rfl⟩ := List.getElem?_eq_some_iff.1 there
    exact ⟨⟨past.queue i, bound⟩, rfl, parts⟩
  choose stream here queue value parts using held
  have injective : Function.Injective queue := by
    intro i j equal
    have traced : past.queue i = past.queue j := by rw [← value i, ← value j, equal]
    exact Fin.ext (past.queue.injective traced)
  have bijective := Finite.injective_iff_bijective.1 injective
  have remaining (q : Fin scripts.length) : ∃ s ∈ now.run.streams,
      scripts[q].2 = past.begunOf q ++ s.agenda.remaining := by
    obtain ⟨i, rfl⟩ := bijective.surjective q
    exact ⟨stream i, List.mem_of_getElem? (here i), parts i⟩
  refine ⟨⟨Equiv.ofBijective queue bijective, fun i => ?_⟩, History.map_snd_origins past, known,
    fun q => ?_, fun finished q => ?_⟩
  · exact ⟨value i, stream i, here i, parts i⟩
  · obtain ⟨s, -, split⟩ := remaining q
    exact ⟨_, split.symm⟩
  · obtain ⟨s, member, split⟩ := remaining q
    have ended := Run.ended_of_isFinished finished member
    have nothing := ((sound s member).idle_of_ended ended).2
    rw [split, nothing, List.append_nil]

/-- In a duet, the second script is begun by both streams, and in its order. -/
theorem each_script_is_one_queue_duet :
    ((opening {} true Workspace.duet.castScripts Workspace.duet.cast).play
        (Turn.alternating 20)).run.isFinished = true ∧
      ((opening {} true Workspace.duet.castScripts Workspace.duet.cast).beats
        (Turn.alternating 20)).begunOf 1 = Workspace.duet.scripts (.ofNat 1) ∧
      (((opening {} true Workspace.duet.castScripts Workspace.duet.cast).beats
        (Turn.alternating 20)).ofStream 0).begun.map (·.kind) = [.move, .loop] := by
  have finished : ((opening {} true Workspace.duet.castScripts Workspace.duet.cast).play
      (Turn.alternating 20)).run.isFinished = true := by decide +kernel
  have whole := each_script_is_one_queue {} true Workspace.duet.castScripts Workspace.duet.cast
    (Turn.alternating 20)
  have second := whole.2.2.2.2 finished ⟨1, by decide +kernel⟩
  exact ⟨finished, second, by decide +kernel⟩

end Scene

end Troupe
