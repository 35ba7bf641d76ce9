import Troupe.Proofs.Season.Sounding
import Troupe.Proofs.Theatre.Exact

/-!
# Bubbles during a session

In a session in which one run goes on at a time, a bubble is shown exactly while the stream of its
sprite is inside a block that shows it, and then with the text of that block and for as long as the
block says (`Season.bubbles_while_inside`).
-/

namespace Troupe

namespace Season

variable {now : Season} {cue : Cue} {run run' : Run} {t t' : Stream} {kind : BubbleKind} {b : Block}

/-! ## One step of one stream -/

/-- The stream of a cue, in its run. -/
def Performs (now : Season) (cue : Cue) (run : Run) (t : Stream) : Prop :=
  now.runs[cue.run]? = some run ∧ run.streams[cue.stream]? = some t

/-- The moment at which the stream of a cue does an action. -/
def momentOf (cue : Cue) (clock : Nat) (action : Action) (rest : Work) : Moment where
  clock := clock
  run := cue.run
  beat := { place := cue.stream, deed := .acts action rest, partner := none }

/-- At most one stream performs for a cue. -/
theorem Performs.unique (there : now.Performs cue run t) (other : now.Performs cue run' t') :
    run = run' ∧ t = t' := by
  obtain rfl : run = run' := Option.some.inj (there.1.symm.trans other.1)
  exact ⟨rfl, Option.some.inj (there.2.symm.trans other.2)⟩

/-- What the stream of a cue has done for its block and what is left make up the block. -/
theorem Whole.performs (whole : now.Whole) (there : now.Performs cue run t) :
    t.Whole run.movePause :=
  whole run (List.mem_of_getElem? there.1) t (List.mem_of_getElem? there.2)

/-- The moment is one of the stream of the cue. -/
theorem ofCue_momentOf (clock : Nat) (action : Action) (rest : Work) :
    Chronicle.ofCue cue [momentOf cue clock action rest] = [momentOf cue clock action rest] := by
  simp [Chronicle.ofCue, momentOf, Moment.cue]

/-- What is told of the stream of a cue once more has happened. -/
theorem ofCue_chronicle_concat (start : Season) (happenings : List Happening)
    (happening : Happening) :
    (start.chronicle (happenings ++ [happening])).ofCue cue =
      (start.chronicle happenings).ofCue cue ++
        Chronicle.ofCue cue ((start.after happenings).moment? happening).toList := by
  rw [chronicle_append, Chronicle.ofCue_append, chronicle, chronicle, List.append_nil]

/-- What a stream does in a step, told with the time and the run. -/
theorem moment?_steps {number : Nat} (here : now.runs[number]? = some run) (place clock : Nat) :
    now.moment? (.steps number place clock) =
      ((now.scene run).beat? (.stream place clock)).map fun beat =>
        { clock, run := number, beat } := by
  rw [Option.map_eq_bind]
  simp only [moment?, here]
  rfl

/-- A stream that goes on with its block does so in the next step that it makes. -/
theorem performs_of_acts {action : Action} {rest : Work} (there : now.Performs cue run t)
    (going : t.ended = false) (acts : t.deed run.movePause = .acts action rest) (clock : Nat) :
    now.moment? (.steps cue.run cue.stream clock) = some (momentOf cue clock action rest) ∧
      ∃ run', (now.next (.steps cue.run cue.stream clock)).Performs cue run'
        (t.continueWith rest) ∧ run'.movePause = run.movePause := by
  obtain ⟨here, place⟩ := there
  have within := (List.getElem?_eq_some_iff.1 here).1
  have inside := (List.getElem?_eq_some_iff.1 place).1
  constructor
  · rw [moment?_steps here]
    simp [Scene.beat?, scene, place, going, acts, Run.partnerAfter?, momentOf]
  · have turned : ((now.scene run).turn (.stream cue.stream clock)).run =
        run.setStream cue.stream (t.continueWith rest) := by
      simp [Scene.turn, scene, Run.step?, place, going, acts, Run.follow]
    refine ⟨run.setStream cue.stream (t.continueWith rest), ⟨?_, ?_⟩, rfl⟩
    · simp only [next, here, setScene, turned, List.getElem?_set_self within]
    · simp only [Run.setStream, List.getElem?_set_self inside]

/-- A stream that performs a block after something happened performed it before, or it has just
begun it, or it has just done an action of it. -/
theorem exists_performs_of_next {happening : Happening}
    (there : (now.next happening).Performs cue run' t') (busy : t'.performing.isSome = true) :
    ∃ run t, now.Performs cue run t ∧ run'.movePause = run.movePause ∧
      ((t'.performing = t.performing ∧
          Chronicle.ofCue cue (now.moment? happening).toList = []) ∨
        t'.done run.movePause = [] ∨
        ∃ clock action rest, happening = .steps cue.run cue.stream clock ∧
          t.deed run.movePause = .acts action rest ∧ t' = t.continueWith rest ∧
          now.moment? happening = some (momentOf cue clock action rest)) := by
  obtain ⟨there, place⟩ := there
  cases happening with
  | operates operation => exact ⟨run', t', ⟨there, place⟩, rfl, .inl ⟨rfl, rfl⟩⟩
  | launches heroMode scripts =>
    have there : (now.runs ++ [.ofScripts now.workspace.settings heroMode scripts])[cue.run]? =
        some run' := there
    by_cases old : cue.run < now.runs.length
    · rw [List.getElem?_append_left old] at there
      exact ⟨run', t', ⟨there, place⟩, rfl, .inl ⟨rfl, rfl⟩⟩
    · -- The run has just started, and its streams perform nothing yet.
      rw [List.getElem?_append_right (Nat.le_of_not_lt old)] at there
      obtain rfl := List.mem_singleton.1 (List.mem_of_getElem? there)
      obtain ⟨script, -, rfl⟩ := List.mem_map.1 (List.mem_of_getElem? place)
      exact nomatch busy
  | steps number spot clock =>
    cases here : now.runs[number]? with
    | none =>
      simp only [next, here] at there
      exact ⟨run', t', ⟨there, place⟩, rfl, .inl ⟨rfl, by simp [moment?, here]; rfl⟩⟩
    | some run =>
      have told := moment?_steps here spot clock
      have moves := (now.scene run).moves_turn (.stream spot clock)
      simp only [next, here, setScene] at there
      rw [told]
      generalize (now.scene run).turn (.stream spot clock) = later at moves there
      generalize (now.scene run).beat? (.stream spot clock) = beat at moves
      by_cases same : number = cue.run
      · subst same
        have within := (List.getElem?_eq_some_iff.1 here).1
        obtain rfl : later.run = run' := by simpa [within] using there
        obtain ⟨t, before, becomes⟩ := Scene.became_of_moves moves place
        refine ⟨run, t, ⟨here, before⟩, Scene.movePause_of_moves moves, ?_⟩
        rcases Stream.busy_of_becomes becomes busy with
          ⟨stays, elsewhere⟩ | fresh | ⟨action, rest, acts, rfl, rfl⟩
        · refine .inl ⟨stays, Chronicle.ofCue_eq_nil fun m member same => ?_⟩
          obtain ⟨beat', did, rfl⟩ : ∃ beat', beat = some beat' ∧ _ = m := by simpa using member
          exact elsewhere beat' did (congrArg Cue.stream same)
        · exact .inr (.inl fresh)
        · obtain ⟨_, turn⟩ := Scene.turn_of_moves moves
          obtain ⟨rfl, -⟩ := Turn.stream.inj turn
          exact .inr (.inr ⟨clock, action, rest, rfl, acts, rfl, rfl⟩)
      · rw [List.getElem?_set_ne same] at there
        refine ⟨run', t', ⟨there, place⟩, rfl, .inl ⟨rfl, Chronicle.ofCue_eq_nil ?_⟩⟩
        intro m member own
        obtain ⟨beat', -, rfl⟩ : ∃ beat', beat = some beat' ∧ _ = m := by simpa using member
        exact same (congrArg Cue.run own)

/-! ## Getting inside a block -/

/-- The stream of a cue is inside a block that shows a bubble. -/
def Inside (now : Season) (cue : Cue) (kind : BubbleKind) (b : Block) : Prop :=
  ∃ run t, now.Performs cue run t ∧ t.Inside run.movePause kind b

/-- A stream that is in the midst of a block, but not in between showing and hiding its bubble, is
inside no block. -/
theorem Performs.not_inside (there : now.Performs cue run t) (whole : now.Whole) {n : Nat}
    (cut : t.IsAt run.movePause b n) (outside : n ≠ 2 ∧ n ≠ 3) (other : Block) :
    ¬now.Inside cue kind other := by
  rintro ⟨run', t', there', inside⟩
  obtain ⟨rfl, rfl⟩ := there.unique there'
  exact (whole.performs there).not_inside_of_isAt cut outside other inside

/-- The stream of a cue got inside a block with a step at a time, and has been inside it since. -/
def Entered (start : Season) (happenings : List Happening) (cue : Cue) (kind : BubbleKind)
    (b : Block) (clock : Nat) : Prop :=
  ∃ early late, happenings = early ++ .steps cue.run cue.stream clock :: late ∧
    (∀ other, ¬(start.after early).Inside cue kind other) ∧
    ∀ n, (start.after (early ++ .steps cue.run cue.stream clock :: late.take n)).Inside cue kind b

/-- A stream that is still inside a block has been inside it since it got there. -/
theorem Entered.concat {start : Season} {happenings : List Happening} {clock : Nat}
    (entered : start.Entered happenings cue kind b clock) {happening : Happening}
    (still : (start.after (happenings ++ [happening])).Inside cue kind b) :
    start.Entered (happenings ++ [happening]) cue kind b clock := by
  obtain ⟨early, late, rfl, outside, inside⟩ := entered
  refine ⟨early, late ++ [happening], by simp, outside, fun n => ?_⟩
  by_cases short : n ≤ late.length
  · rw [List.take_append_of_le_length short]
    exact inside n
  · have all : (late ++ [happening]).length ≤ n := by
      rw [List.length_append]
      exact Nat.lt_of_not_le short
    rw [List.take_of_length_le all]
    simpa using still

/-- What a stream inside a block did since it got there: it has done `n` own actions of the block,
and nothing since it showed the bubble but pause, if it has done anything. -/
structure Since (start : Season) (happenings : List Happening) (cue : Cue) (kind : BubbleKind)
    (b : Block) (n clock : Nat) : Prop where
  /-- It got inside at that time, and has been inside since. -/
  entered : start.Entered happenings cue kind b clock
  /-- It showed the bubble at that time, and then it paused for the seconds of the block if it has
  done more. -/
  told : ∃ before m rest, (start.chronicle happenings).ofCue cue = before ++ m :: rest ∧
    m.clock = clock ∧ m.beat.pause? = none ∧
    rest.map (·.beat.pause?) = if n = 2 then [] else [some (1000 * b.seconds)]

section

variable {start : Season} {happenings : List Happening} {happening : Happening} {n clock : Nat}
  {rest : Work}

/-- A stream that does nothing stays inside. -/
theorem Since.of_silent (since : start.Since happenings cue kind b n clock)
    (still : (start.after (happenings ++ [happening])).Inside cue kind b)
    (silent : Chronicle.ofCue cue ((start.after happenings).moment? happening).toList = []) :
    start.Since (happenings ++ [happening]) cue kind b n clock := by
  refine ⟨since.entered.concat still, ?_⟩
  rw [ofCue_chronicle_concat, silent, List.append_nil]
  exact since.told

/-- A stream gets inside with the step in which it shows the bubble. -/
theorem Since.of_shows (outside : ∀ other, ¬(start.after happenings).Inside cue kind other)
    (still : (start.after (happenings ++ [.steps cue.run cue.stream clock])).Inside cue kind b)
    (moment : (start.after happenings).moment? (.steps cue.run cue.stream clock) =
      some (momentOf cue clock (.change (kind.shows b.text)) rest)) :
    start.Since (happenings ++ [.steps cue.run cue.stream clock]) cue kind b 2 clock := by
  refine ⟨⟨happenings, [], rfl, outside, fun _ => ?_⟩, (start.chronicle happenings).ofCue cue,
    momentOf cue clock (.change (kind.shows b.text)) rest, [], ?_, rfl, rfl, rfl⟩
  · rw [List.take_nil]
    exact still
  · rw [ofCue_chronicle_concat, moment, Option.toList_some, ofCue_momentOf]

/-- A stream that has shown the bubble pauses for the seconds of the block, and stays inside. -/
theorem Since.of_pauses {later : Nat} (since : start.Since happenings cue kind b 2 clock)
    (still : (start.after (happenings ++ [.steps cue.run cue.stream later])).Inside cue kind b)
    (moment : (start.after happenings).moment? (.steps cue.run cue.stream later) =
      some (momentOf cue later (.pause (1000 * b.seconds)) rest)) :
    start.Since (happenings ++ [.steps cue.run cue.stream later]) cue kind b 3 clock := by
  obtain ⟨before, m, others, told, shown, quiet, pauses⟩ := since.told
  obtain rfl : others = [] := by simpa using pauses
  refine ⟨since.entered.concat still, before, m,
    [momentOf cue later (.pause (1000 * b.seconds)) rest], ?_, shown, quiet, rfl⟩
  rw [ofCue_chronicle_concat, told, moment, Option.toList_some, ofCue_momentOf, List.append_assoc]
  rfl

/-- A stream that is inside a block was there before, or gets there with its own step. -/
theorem Since.of_next (whole : (start.after happenings).Whole) (shows : b.kind = kind.blocks)
    (between : n = 2 ∨ n = 3)
    (there : (start.after (happenings ++ [happening])).Performs cue run' t')
    (cut : t'.IsAt run'.movePause b n)
    (before : ∀ run t m, (start.after happenings).Performs cue run t → m = 2 ∨ m = 3 →
      t.IsAt run.movePause b m → ∃ clock, start.Since happenings cue kind b m clock) :
    ∃ clock, start.Since (happenings ++ [happening]) cue kind b n clock := by
  have still : (start.after (happenings ++ [happening])).Inside cue kind b :=
    ⟨run', t', there, Stream.inside_iff.2 ⟨shows, n, between, cut⟩⟩
  rw [after_append] at there
  have whole' : t'.Whole run'.movePause := (whole.next happening).performs there
  obtain ⟨run, t, here, pause, cases⟩ := exists_performs_of_next there cut.isBusy
  have own : b.own run.movePause =
      [.announce kind.blocks, .change (kind.shows b.text), .pause (1000 * b.seconds),
        .change kind.hides] := Block.own_of_kind_eq shows
  rw [pause] at cut whole'
  rcases cases with ⟨stays, silent⟩ | nothing | ⟨clock, action, rest, rfl, acts, rfl, moment⟩
  · -- The stream did nothing.
    have cut : t.IsAt run.movePause b n := by
      obtain ⟨p, performed, cut⟩ := cut
      exact ⟨p, stays ▸ performed, cut⟩
    obtain ⟨clock, since⟩ := before run t n here between cut
    exact ⟨clock, since.of_silent still silent⟩
  · -- It has just begun its block, so nothing is done of it.
    obtain ⟨earlier, done⟩ := whole'.exists_done cut
    rw [nothing, own] at done
    rcases between with rfl | rfl <;> simp at done
  · rcases between with rfl | rfl
    · -- It has just shown the bubble, and was inside no block before.
      obtain ⟨second, cut⟩ :=
        Stream.IsAt.of_acts (whole.performs here) whole' acts cut (by simp [own])
      obtain rfl : .change (kind.shows b.text) = action := by simpa [own] using second
      exact ⟨clock, .of_shows (here.not_inside whole cut (by decide)) still moment⟩
    · -- It has just paused.
      obtain ⟨third, cut⟩ :=
        Stream.IsAt.of_acts (whole.performs here) whole' acts cut (by simp [own])
      obtain rfl : .pause (1000 * b.seconds) = action := by simpa [own] using third
      obtain ⟨clock', since⟩ := before run t 2 here (.inl rfl) cut
      exact ⟨clock', since.of_pauses still moment⟩

end

/-- A stream that is inside a block got there with a step that showed the bubble, and has been there
since. -/
theorem exists_since (settings : Settings) (palette : Palette) (happenings : List Happening)
    (shows : b.kind = kind.blocks) {n : Nat} (between : n = 2 ∨ n = 3)
    (there : ((opening settings palette).after happenings).Performs cue run t)
    (cut : t.IsAt run.movePause b n) :
    ∃ clock, (opening settings palette).Since happenings cue kind b n clock := by
  obtain ⟨reversed, rfl⟩ : ∃ reversed : List Happening, happenings = reversed.reverse :=
    ⟨happenings.reverse, by simp⟩
  induction reversed generalizing run t n with
  | nil => exact nomatch there.1
  | cons happening earlier ih =>
    rw [List.reverse_cons] at there ⊢
    exact Since.of_next (whole_after settings palette _) shows between there cut
      fun run t m here between cut => ih between cut here

/-! ## Leaving a block -/

/-- With the next step after it paused, a stream leaves the block that it is inside: it hides the
bubble when the seconds of the block are over. Before that it pauses, at once. -/
theorem Since.leaves {start : Season} {happenings : List Happening} {n clock : Nat}
    (since : start.Since happenings cue kind b n clock) (whole : (start.after happenings).Whole)
    (shows : b.kind = kind.blocks) (between : n = 2 ∨ n = 3)
    (here : (start.after happenings).Performs cue run t) (going : t.ended = false)
    (cut : t.IsAt run.movePause b n) (later : Nat)
    (exact : (start.chronicle (happenings ++ [.steps cue.run cue.stream later])).Exact) :
    let next := (start.after happenings).next (.steps cue.run cue.stream later)
    (next.Inside cue kind b ∧ later = clock) ∨
      ((∀ other, ¬next.Inside cue kind other) ∧ later = clock + 1000 * b.seconds) := by
  intro next
  have own : b.own run.movePause =
      [.announce kind.blocks, .change (kind.shows b.text), .pause (1000 * b.seconds),
        .change kind.hides] := Block.own_of_kind_eq shows
  obtain ⟨before, m, rest, told, rfl, quiet, pauses⟩ := since.told
  have acted {action : Action} (nth : (b.own run.movePause)[n]? = some action) :
      ∃ after run' t', next.Performs cue run' t' ∧ t'.IsAt run'.movePause b (n + 1) ∧
        (start.chronicle (happenings ++ [.steps cue.run cue.stream later])).ofCue cue =
          before ++ m :: (rest ++ [momentOf cue later action after]) := by
    obtain ⟨after, acts, cut'⟩ := cut.exists_acts nth
    obtain ⟨moment, run', there, pause⟩ := performs_of_acts here going acts later
    refine ⟨after, run', _, there, pause ▸ cut', ?_⟩
    rw [ofCue_chronicle_concat, told, moment, Option.toList_some, ofCue_momentOf,
      List.append_assoc, List.cons_append]
  rcases between with rfl | rfl
  · have third : (b.own run.movePause)[2]? = some (.pause (1000 * b.seconds)) := by
      rw [own]
      rfl
    obtain ⟨after, run', t', there, cut', past⟩ := acted third
    obtain rfl : rest = [] := by simpa using pauses
    have first := exact.clock_eq past
    rw [quiet] at first
    exact .inl ⟨⟨run', t', there, shows, .inr cut'⟩, first⟩
  · have last : (b.own run.movePause)[3]? = some (.change kind.hides) := by
      rw [own]
      rfl
    obtain ⟨after, run', t', there, cut', past⟩ := acted last
    obtain ⟨m', rfl, paused⟩ : ∃ m', rest = [m'] ∧ m'.beat.pause? = some (1000 * b.seconds) := by
      simpa using pauses
    have first : m'.clock = m.clock + m.beat.pause?.getD 0 := exact.clock_eq past
    have second : later = m'.clock + m'.beat.pause?.getD 0 :=
      exact.clock_eq (past.trans (List.append_cons before m _))
    rw [quiet, Option.getD_none, Nat.add_zero] at first
    rw [paused, Option.getD_some, first] at second
    have whole' : next.Whole := whole.next (.steps cue.run cue.stream later)
    exact .inr ⟨there.not_inside whole' cut' (by decide), second⟩

/-! ## Every session -/

/-- While a bubble of a sprite on the stage is shown, a stream of the sprite is inside a block with
the text that is shown, in the run that is going on. -/
theorem Sounding.exists_inside {journal : Journal} (sounding : now.Sounding journal)
    (whole : now.Whole) {s : Sprite} (stage : s ∈ now.workspace.cast.sprites) {text : String}
    (shown : kind.shown? s = some text) :
    ∃ cue run t b, now.Performs cue run t ∧ run.isFinished = false ∧ t.agenda.sprite = s.id ∧
      t.Inside run.movePause kind b ∧ b.text = text := by
  cases all : now.runs.all (·.isFinished) with
  | true =>
    rw [sounding.hidden (List.all_eq_true.1 all) kind s stage] at shown
    exact nomatch shown
  | false =>
    obtain ⟨run, member, going⟩ := List.all_eq_false.1 all
    rw [Bool.not_eq_true] at going
    have voiced := sounding.voiced kind run member going
    by_cases performs : s.id ∈ run.performers
    · obtain ⟨t, performer, own⟩ := List.mem_map.1 performs
      rw [voiced.performer t performer s stage own.symm] at shown
      obtain ⟨b, inside, same⟩ :=
        (whole run member t performer).shownBy_done_eq_some_iff.1 shown
      obtain ⟨number, here⟩ := List.mem_iff_getElem?.1 member
      obtain ⟨place, spot⟩ := List.mem_iff_getElem?.1 performer
      exact ⟨⟨number, place⟩, run, t, b, ⟨here, spot⟩, going, own, inside, same⟩
    · rw [voiced.bystander s stage performs] at shown
      exact nomatch shown

/-- In every session in which one run goes on at a time, a bubble of a sprite on the stage is shown
exactly while the stream of the sprite is inside a block that shows it, however deep the block is:
then it is visible, and its text is the one of that block. When no run is going on, all bubbles are
hidden. A stream gets inside a block with one of its steps and stays there until, with another step,
it leaves all blocks that show the bubble; on an exact clock, the seconds of the block pass from the
one to the other. -/
theorem bubbles_while_inside (settings : Settings) (palette : Palette)
    (happenings : List Happening) :
    let start := opening settings palette
    let now := start.after happenings
    (start.journal happenings).Fresh → start.OneAtATime happenings →
      (∀ s ∈ now.workspace.cast.sprites, ∀ kind : BubbleKind,
        (∀ cue run t b, now.Performs cue run t → t.agenda.sprite = s.id →
          t.Inside run.movePause kind b →
            (kind.bubble s).visible = true ∧ (kind.bubble s).text = b.text) ∧
        ((∀ cue run t b, now.Performs cue run t → run.isFinished = false →
          t.agenda.sprite = s.id → ¬t.Inside run.movePause kind b) →
            (kind.bubble s).visible = false)) ∧
      ((∀ run ∈ now.runs, run.isFinished = true) → ∀ s ∈ now.workspace.cast.sprites,
        s.speech.visible = false ∧ s.thought.visible = false) ∧
      ∀ cue kind b, now.Inside cue kind b →
        ∃ clock, start.Entered happenings cue kind b clock ∧
          ∀ later, (start.chronicle (happenings ++ [.steps cue.run cue.stream later])).Exact →
            let next := now.next (.steps cue.run cue.stream later)
            (next.Inside cue kind b ∧ later = clock) ∨
              ((∀ other, ¬next.Inside cue kind other) ∧ later = clock + 1000 * b.seconds) := by
  intro start now fresh one
  have whole : now.Whole := whole_after settings palette happenings
  have sounding : now.Sounding (start.journal happenings) :=
    (Sounding.opening settings palette).after nofun fresh one
  refine ⟨fun s stage kind => ⟨fun cue run t b there own inside => ?_, fun outside => ?_⟩,
    fun finished s stage => ?_, fun cue kind b inside => ?_⟩
  · have member := List.mem_of_getElem? there.1
    have performer := List.mem_of_getElem? there.2
    have going : run.isFinished = false := by
      refine Bool.eq_false_iff.2 fun finished => ?_
      have ended := Run.ended_of_isFinished finished performer
      exact (sounding.sound run member t performer).not_inside_of_ended ended b inside
    have shown : kind.shown? s = kind.shownBy (t.done run.movePause) :=
      (sounding.voiced kind run member going).performer t performer s stage own.symm
    rw [(whole.performs there).shownBy_done_eq_some_iff.2 ⟨b, inside, rfl⟩] at shown
    exact BubbleKind.shown?_eq_some_iff.1 shown
  · refine BubbleKind.shown?_eq_none_iff.1 (Option.eq_none_iff_forall_ne_some.2 ?_)
    intro text shown
    obtain ⟨cue, run, t, b, there, going, own, inside, -⟩ :=
      sounding.exists_inside whole stage shown
    exact outside cue run t b there going own inside
  · exact ⟨BubbleKind.shown?_eq_none_iff.1 (sounding.hidden finished .speech s stage),
      BubbleKind.shown?_eq_none_iff.1 (sounding.hidden finished .thought s stage)⟩
  · obtain ⟨run, t, here, inside⟩ := inside
    have going : t.ended = false := by
      refine Bool.eq_false_iff.2 fun ended => ?_
      have sound := sounding.sound run (List.mem_of_getElem? here.1) t
        (List.mem_of_getElem? here.2)
      exact sound.not_inside_of_ended ended b inside
    obtain ⟨shows, n, between, cut⟩ := Stream.inside_iff.1 inside
    obtain ⟨clock, since⟩ := exists_since settings palette happenings shows between here cut
    exact ⟨clock, since.entered, since.leaves whole shows between here going cut⟩

/-- A cat says something twice, for a second each time. In the midst of the first time its bubble is
shown, and after that second it is hidden. -/
theorem bubbles_while_inside_twice :
    let b := Block.say "hi" 1
    let happenings := [
      .operates (.add (.ofNat 0) .cat), .operates (.updateScript (.ofNat 0) [.loop 2 [b]]),
      .launches true [(.ofNat 0, [.loop 2 [b]])], .steps 0 0 0, .steps 0 0 0, .steps 0 0 0,
      .steps 0 0 0, .steps 0 0 0]
    let start := opening {} .standard
    let now := start.after happenings
    let cue : Cue := { run := 0, stream := 0 }
    now.workspace.cast.sprites.map (fun s => (s.speech.visible, s.speech.text)) = [(true, "hi")] ∧
      start.Entered happenings cue .speech b 0 ∧
      ∀ other, ¬(now.next (.steps 0 0 1000)).Inside cue .speech other := by
  intro b happenings start now cue
  obtain ⟨shown, -, timed⟩ :=
    bubbles_while_inside {} .standard happenings (by decide +kernel) (by decide +kernel)
  have facts : (now.runs[0]?.bind fun run => run.streams[0]?.bind fun t =>
      t.performing.map fun p => (t.agenda.sprite, run.movePause, p.block.visits,
        p.work.trace run.movePause)) =
          some (.ofNat 0, 500, [.loop 2 [b], b, b], .change .hush :: b.own 500) := by
    decide +kernel
  obtain ⟨run, here, facts⟩ := Option.bind_eq_some_iff.1 facts
  obtain ⟨t, place, facts⟩ := Option.bind_eq_some_iff.1 facts
  obtain ⟨p, performed, facts⟩ := Option.map_eq_some_iff.1 facts
  simp only [Prod.mk.injEq] at facts
  obtain ⟨own, pause, visits, left⟩ := facts
  have cut : Block.IsCutAt run.movePause p.block b 3 (p.work.trace run.movePause) := by
    refine ⟨[.loop 2 [b]], [b], visits, ?_⟩
    rw [left, pause]
    decide +kernel
  have inside : t.Inside run.movePause .speech b := ⟨rfl, .inr ⟨p, performed, cut⟩⟩
  have stage : now.workspace.cast.ids = [.ofNat 0] := by decide +kernel
  obtain ⟨s, only, same⟩ := List.map_eq_singleton_iff.1 stage
  have there : s ∈ now.workspace.cast.sprites := only ▸ List.mem_cons_self
  obtain ⟨visible, text⟩ : s.speech.visible = true ∧ s.speech.text = "hi" :=
    (shown s there .speech).1 cue run t b ⟨here, place⟩ (own.trans same.symm) inside
  obtain ⟨clock, entered, leaves⟩ := timed cue .speech b ⟨run, t, ⟨here, place⟩, inside⟩
  have first : clock = 0 := by
    obtain ⟨early, late, parts, -⟩ := entered
    have member : Happening.steps 0 0 clock ∈ happenings := by
      rw [parts]
      exact List.mem_append_right _ List.mem_cons_self
    simpa [happenings] using member
  subst first
  refine ⟨by rw [only, List.map_singleton, visible, text], entered, ?_⟩
  rcases leaves 1000 (by decide +kernel) with ⟨-, soon⟩ | ⟨outside, -⟩
  · exact nomatch soon
  · exact outside

end Season

end Troupe
