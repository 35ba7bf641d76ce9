import Troupe.Proofs.Season.Basic

/-!
# What the journal tells of the workspace

Who is on the stage and who is selected can be read from the journal alone: on the stage are those
who came on and did not leave later, in the order they came, and selected is who was selected last,
unless that sprite left. All parts of a workspace agree with it (`Workspace.Agrees`), and every
operation keeps it so, as does every action of a stream. So they agree in every session
(`Season.workspace_agrees_with_journal`).
-/

namespace Troupe

namespace Journal

/-- The sprites that came on, in order. -/
def added (journal : Journal) : List (SpriteId × Avatar) := journal.filterMap Entry.added?

/-- No identity was given to two sprites. -/
def Fresh (journal : Journal) : Prop := (journal.added.map Prod.fst).Nodup

/-- Whether identities are fresh is told by the journal. -/
instance (journal : Journal) : Decidable journal.Fresh :=
  inferInstanceAs (Decidable (journal.added.map Prod.fst).Nodup)

/-- The sprites that came on and did not leave later, in the order they came. -/
def onStage : Journal → List (SpriteId × Avatar)
  | [] => []
  | entry :: rest =>
    entry.added?.toList.filter (fun part => rest.all (·.removed? ≠ some part.1)) ++ onStage rest

/-- A sprite was selected, and later no other one was, nor did the sprite leave. -/
def Selects (journal : Journal) (id : SpriteId) : Prop :=
  ∃ before entry after, journal = before ++ entry :: after ∧ entry.selected? = some id ∧
    ∀ later ∈ after, later.selected? = none ∧ later.removed? ≠ some id

variable {journal : Journal} {entry : Entry} {id : SpriteId}

/-- Whoever is added later comes behind the others. -/
theorem added_append (journal later : Journal) :
    added (journal ++ later) = journal.added ++ later.added :=
  List.filterMap_append ..

/-- Identities that are fresh in a journal are so in its beginning. -/
theorem Fresh.of_append {later : Journal} (fresh : Fresh (journal ++ later)) : Fresh journal := by
  rw [Fresh, added_append, List.map_append] at fresh
  exact (List.nodup_append.1 fresh).1

/-- Who was on the stage stays there, unless a later entry tells that it left. -/
theorem onStage_append (journal later : Journal) :
    onStage (journal ++ later) =
      journal.onStage.filter (fun part => later.all (·.removed? ≠ some part.1)) ++
        later.onStage := by
  induction journal with
  | nil => rfl
  | cons first rest ih =>
    rw [List.cons_append, onStage, ih, onStage, List.filter_append, List.filter_filter,
      List.append_assoc]
    refine congrArg (· ++ _) (List.filter_congr fun part _ => ?_)
    simp [List.all_append, Bool.and_comm]

/-- With one further entry, whoever it removes is off the stage, and whoever it adds is the last one
there. -/
theorem onStage_concat :
    onStage (journal ++ [entry]) =
      journal.onStage.filter (entry.removed? ≠ some ·.1) ++ entry.added?.toList := by
  simp [onStage_append, onStage]

/-- Only sprites that came on are on the stage. -/
theorem onStage_sublist (journal : Journal) : journal.onStage.Sublist journal.added := by
  induction journal with
  | nil => exact .slnil
  | cons first rest ih =>
    have split : added (first :: rest) = first.added?.toList ++ added rest := by
      cases came : first.added? <;> simp [added, came]
    rw [onStage, split]
    exact List.filter_sublist.append ih

/-- When no identity was given twice, no two sprites on the stage have the same one. -/
theorem Fresh.nodup_onStage (fresh : journal.Fresh) : (journal.onStage.map Prod.fst).Nodup :=
  List.Nodup.sublist (journal.onStage_sublist.map Prod.fst) fresh

/-- At first nobody is selected. -/
theorem not_selects_nil : ¬Selects [] id := by
  rintro ⟨before, entry, after, split, -⟩
  simp at split

/-- A sprite is selected by the last entry, or it was before and the last entry leaves it so. -/
theorem selects_concat :
    Selects (journal ++ [entry]) id ↔
      entry.selected? = some id ∨
        entry.selected? = none ∧ entry.removed? ≠ some id ∧ journal.Selects id := by
  constructor
  · rintro ⟨before, chosen, after, split, own, undone⟩
    rcases List.eq_nil_or_concat after with rfl | ⟨earlier, last, rfl⟩
    · obtain ⟨-, same⟩ := List.append_inj' split rfl
      obtain rfl : entry = chosen := by simpa using same
      exact .inl own
    · rw [List.concat_eq_append] at split undone
      rw [← List.cons_append, ← List.append_assoc] at split
      obtain ⟨front, same⟩ := List.append_inj' split rfl
      obtain rfl : entry = last := by simpa using same
      obtain ⟨none, stays⟩ := undone entry (by simp)
      refine .inr ⟨none, stays, before, chosen, earlier, front, own, fun later member => ?_⟩
      exact undone later (List.mem_append_left _ member)
  · rintro (own | ⟨none, stays, before, chosen, after, rfl, own, undone⟩)
    · exact ⟨journal, entry, [], rfl, own, nofun⟩
    · refine ⟨before, chosen, after ++ [entry], by simp, own, fun later member => ?_⟩
      rcases List.mem_append.1 member with old | new
      · exact undone later old
      · obtain rfl := List.mem_singleton.1 new
        exact ⟨none, stays⟩

/-- An entry in which nobody came on, left or was selected leaves everything as it was. -/
theorem of_quiet (journal : Journal) (quiet : entry.Quiet) :
    onStage (journal ++ [entry]) = journal.onStage ∧
      ∀ id, Selects (journal ++ [entry]) id ↔ journal.Selects id := by
  obtain ⟨added, removed, selected⟩ := quiet
  refine ⟨?_, fun id => ?_⟩
  · rw [onStage_concat, added, removed]
    simp
  · simp [selects_concat, removed, selected]

end Journal

namespace Workspace

/-- All parts of a workspace agree with a journal. -/
structure Agrees (w : Workspace) (journal : Journal) : Prop where
  /-- On the stage are those who came on and did not leave. -/
  stage : w.cast.sprites.map Sprite.part = journal.onStage
  /-- No two sprites have the same avatar. -/
  avatars : (journal.onStage.map Prod.snd).Nodup
  /-- Only sprites on the stage have scripts. -/
  scripts : ∀ id, w.scripts id ≠ [] → id ∈ w.cast.ids
  /-- Selected is who was selected last and did not leave. -/
  active : ∀ id, w.active = some id ↔ journal.Selects id
  /-- The selected sprite is on the stage. -/
  present : ∀ id, w.active = some id → id ∈ w.cast.ids

variable {w w' : Workspace} {journal : Journal} {entry : Entry} {id other : SpriteId}

/-- Who has a script after it was set for a sprite is that sprite or had one before. -/
theorem eq_or_scripts_ne_nil {script : Script}
    (written : (w.setScript id script).scripts other ≠ []) :
    other = id ∨ w.scripts other ≠ [] := by
  by_cases same : other = id
  · exact .inl same
  · rw [scripts_setScript_of_ne w script same] at written
    exact .inr written

namespace Agrees

/-- At first nobody is there and nothing was done. -/
theorem opening (settings : Settings) (palette : Palette) : Agrees { settings, palette } [] :=
  ⟨rfl, .nil, fun _ written => absurd rfl written,
    fun _ => iff_of_false nofun Journal.not_selects_nil, nofun⟩

/-- When no identity was given twice, no two sprites have the same one. -/
theorem nodup_ids (agrees : w.Agrees journal) (fresh : journal.Fresh) : w.cast.ids.Nodup := by
  rw [Cast.ids_eq_map_part, agrees.stage]
  exact fresh.nodup_onStage

/-- Only who is on the stage matters, not what these sprites do. -/
theorem of_cast (agrees : w.Agrees journal) {cast : Cast}
    (same : cast.sprites.map Sprite.part = w.cast.sprites.map Sprite.part) :
    Agrees { w with cast } journal := by
  have ids : cast.ids = w.cast.ids := by rw [Cast.ids_eq_map_part, same, ← Cast.ids_eq_map_part]
  refine ⟨same.trans agrees.stage, agrees.avatars, fun id written => ?_, agrees.active,
    fun id active => ?_⟩
  · exact ids ▸ agrees.scripts id written
  · exact ids ▸ agrees.present id active

/-- Scripts of sprites on the stage may be replaced by others. -/
theorem of_scripts (agrees : w.Agrees journal) {scripts : SpriteId → Script}
    (there : ∀ id, scripts id ≠ [] → id ∈ w.cast.ids) : Agrees { w with scripts } journal :=
  ⟨agrees.stage, agrees.avatars, there, agrees.active, agrees.present⟩

/-- An entry in which nobody came on, left or was selected tells nothing new. -/
theorem of_quiet (agrees : w.Agrees journal) (quiet : entry.Quiet) :
    w.Agrees (journal ++ [entry]) := by
  obtain ⟨onStage, selects⟩ := Journal.of_quiet journal quiet
  obtain ⟨stage, avatars, scripts, active, present⟩ := agrees
  refine ⟨stage.trans onStage.symm, ?_, scripts, fun id => ?_, present⟩
  · rwa [onStage]
  · rw [selects]
    exact active id

/-- A workspace agrees with its journal once a sprite comes on whose avatar is free. -/
theorem welcome (agrees : w.Agrees journal) {avatar : Avatar}
    (added : entry.added? = some (id, avatar)) (removed : entry.removed? = none)
    (selected : entry.selected? = some id) (free : avatar ∈ w.cast.freeAvatars) :
    (w.welcome id avatar).Agrees (journal ++ [entry]) := by
  have onStage : Journal.onStage (journal ++ [entry]) = journal.onStage ++ [(id, avatar)] := by
    rw [Journal.onStage_concat, added, removed]
    simp
  have ids : (w.welcome id avatar).cast.ids = w.cast.ids ++ [id] := Cast.ids_push ..
  refine ⟨?_, ?_, fun other written => ?_, fun other => ?_, fun other active => ?_⟩
  · rw [onStage, ← agrees.stage]
    exact List.map_append ..
  · rw [onStage, List.map_append]
    refine List.nodup_append.2 ⟨agrees.avatars, by simp, fun kind old new fresh => ?_⟩
    obtain rfl : new = avatar := by simpa using fresh
    rintro rfl
    rw [Cast.mem_freeAvatars, agrees.stage] at free
    exact free old
  · rw [ids]
    exact List.mem_append_left _ (agrees.scripts other written)
  · rw [Journal.selects_concat, selected]
    simp [Workspace.welcome]
  · obtain rfl : id = other := Option.some.inj active
    rw [ids]
    exact List.mem_append_right _ List.mem_cons_self

/-- A workspace agrees with its journal once a sprite leaves. -/
theorem without (agrees : w.Agrees journal) (fresh : journal.Fresh) (s : Sprite) :
    (w.without id).Agrees (journal ++ [⟨.remove id, some s⟩]) := by
  have removed : Entry.removed? ⟨.remove id, some s⟩ = some id := rfl
  have onStage : Journal.onStage (journal ++ [⟨.remove id, some s⟩]) =
      journal.onStage.filter (·.1 ≠ id) := by
    rw [Journal.onStage_concat, removed]
    simp [Entry.added?, eq_comm]
  have parts : (w.without id).cast.sprites.map Sprite.part = journal.onStage.filter (·.1 ≠ id) := by
    rw [← agrees.stage]
    exact Cast.map_part_erase (agrees.nodup_ids fresh) id
  have stays {other : SpriteId} (there : other ∈ w.cast.ids) (apart : other ≠ id) :
      other ∈ (w.without id).cast.ids := by
    rw [Cast.ids_eq_map_part, agrees.stage] at there
    rw [Cast.ids_eq_map_part, parts]
    obtain ⟨part, member, rfl⟩ := List.mem_map.1 there
    exact List.mem_map.2 ⟨part, List.mem_filter.2 ⟨member, by simpa using apart⟩, rfl⟩
  have active (other : SpriteId) :
      (w.without id).active = some other ↔ w.active = some other ∧ other ≠ id := by
    by_cases own : w.active = some id
    · simp [Workspace.without, own, eq_comm]
    · simp only [Workspace.without, if_neg own]
      refine (and_iff_left_of_imp fun held => ?_).symm
      rintro rfl
      exact own held
  refine ⟨parts.trans onStage.symm, ?_, fun other written => ?_, fun other => ?_,
    fun other held => ?_⟩
  · rw [onStage]
    exact agrees.avatars.sublist (List.filter_sublist.map _)
  · have apart : other ≠ id := by
      rintro rfl
      exact written (w.scripts_setScript_self other [])
    exact stays (agrees.scripts other ((eq_or_scripts_ne_nil written).resolve_left apart)) apart
  · have unselected : Entry.selected? ⟨.remove id, some s⟩ = none := rfl
    rw [active, agrees.active, Journal.selects_concat, removed, unselected]
    simp [and_comm, eq_comm]
  · obtain ⟨before, apart⟩ := (active other).1 held
    exact stays (agrees.present other before) apart

/-- A workspace agrees with its journal once a sprite on the stage is selected. -/
theorem select (agrees : w.Agrees journal) (there : id ∈ w.cast.ids) :
    Agrees { w with active := some id } (journal ++ [⟨.select id, true⟩]) := by
  have onStage : Journal.onStage (journal ++ [⟨.select id, true⟩]) = journal.onStage := by
    simp [Journal.onStage_concat, Entry.added?, Entry.removed?]
  refine ⟨agrees.stage.trans onStage.symm, ?_, agrees.scripts, fun other => ?_,
    fun other held => ?_⟩
  · rw [onStage]
    exact agrees.avatars
  · simp [Journal.selects_concat, Entry.selected?]
  · obtain rfl : id = other := Option.some.inj held
    exact there

/-- A script may be set for a sprite on the stage. -/
theorem setScript (agrees : w.Agrees journal) (there : id ∈ w.cast.ids) (script : Script) :
    (w.setScript id script).Agrees journal := by
  refine agrees.of_scripts fun other written => ?_
  rcases eq_or_scripts_ne_nil written with rfl | before
  · exact there
  · exact agrees.scripts other before

/-- Every operation keeps the workspace in agreement with the journal. -/
theorem of_moves (agrees : w.Agrees journal) (fresh : journal.Fresh)
    (moves : w.Moves entry w') : w'.Agrees (journal ++ [entry]) := by
  cases moves with
  | keeps quiet => exact agrees.of_quiet quiet
  | adds added removed selected offered free => exact agrees.welcome added removed selected free
  | @removes id s there => exact agrees.without fresh s
  | selects there => exact agrees.select there
  | places id position =>
    exact (agrees.of_cast (Cast.map_part_place w.cast id position)).of_quiet ⟨rfl, rfl, rfl⟩
  | edits quiet there edits =>
    have onStage : _ ∈ w.cast.ids := there.elim (fun there => there) (agrees.present _)
    exact (agrees.setScript onStage _).of_quiet quiet
  | exchanges partner =>
    obtain ⟨there, beside⟩ := Encounter.mem_of_partner?_eq_some partner
    exact ((agrees.setScript there _).setScript beside _).of_quiet ⟨rfl, rfl, rfl⟩
  | resets =>
    exact (agrees.of_scripts fun id written => absurd rfl written).of_quiet ⟨rfl, rfl, rfl⟩
  | turns on =>
    have same : (w.setHeroMode on).Agrees journal :=
      ⟨agrees.stage, agrees.avatars, agrees.scripts, agrees.active, agrees.present⟩
    exact same.of_quiet ⟨rfl, rfl, rfl⟩

end Agrees

/-- A sprite comes on if and only if its avatar is free. -/
theorem isOk_add_iff {avatar : Avatar} :
    (w.add id avatar).answer.isOk = true ↔ avatar ∈ w.cast.freeAvatars := by
  by_cases free : avatar ∈ w.cast.freeAvatars
  · rw [w.add_of_free id free]
    exact iff_of_true rfl free
  · rw [w.add_of_used id free]
    exact iff_of_false Bool.false_ne_true free

/-- On an empty stage, making sure of a sprite adds a cat. -/
theorem ensure_of_isEmpty (id : SpriteId) (empty : w.cast.isEmpty = true) :
    (w.ensure id).answer = some id ∧ (w.ensure id).state = w.welcome id .cat := by
  have free : .cat ∈ w.cast.freeAvatars := Cast.mem_freeAvatars_of_isEmpty empty
  rw [ensure, if_pos empty, w.add_of_free id free]
  exact ⟨rfl, rfl⟩

/-- After a sprite is made sure of the stage is not empty, and one came on if and only if it was. -/
theorem isEmpty_ensure :
    (w.ensure id).state.cast.isEmpty = false ∧
      ((w.ensure id).answer.isSome = true ↔ w.cast.isEmpty = true) := by
  by_cases empty : w.cast.isEmpty = true
  · obtain ⟨answer, state⟩ := ensure_of_isEmpty id empty
    rw [answer, state]
    exact ⟨by simp [welcome, Cast.push, Cast.isEmpty], iff_of_true rfl empty⟩
  · simp [ensure, empty]

end Workspace

namespace Season

/-- In every session in which no identity is given twice, the workspace agrees with the journal. -/
theorem agrees_after (settings : Settings) (palette : Palette) (happenings : List Happening)
    (fresh : ((opening settings palette).journal happenings).Fresh) :
    ((opening settings palette).after happenings).workspace.Agrees
      ((opening settings palette).journal happenings) := by
  refine journal_induction (motive := fun journal w => journal.Fresh → w.Agrees journal)
    (fun _ => .opening settings palette) (fun holds moves fresh => ?_)
    (fun who action holds fresh => ?_) happenings fresh
  · exact (holds fresh.of_append).of_moves fresh.of_append moves
  · exact (holds fresh).of_cast (Cast.map_part_perform _ who action)

/-- In every session, the parts of the workspace agree with each other and with what was done. On
the stage are exactly the sprites that came on and did not leave, in the order they came, with
distinct identities and distinct avatars. Only they have scripts. Selected is who came on or was
selected last, unless that sprite left. The free avatars are those that nobody on the stage has, in
the order of the menu, and a sprite comes on if and only if its avatar is one of them. After a
sprite is made sure of the stage is not empty, and one came on if and only if it was. -/
theorem workspace_agrees_with_journal (settings : Settings) (palette : Palette)
    (happenings : List Happening) :
    let start := opening settings palette
    let journal := start.journal happenings
    let w := (start.after happenings).workspace
    journal.Fresh →
      w.cast.sprites.map Sprite.part = journal.onStage ∧
      w.cast.ids.Nodup ∧ (w.cast.sprites.map (·.avatar)).Nodup ∧
      (∀ id, w.scripts id ≠ [] → id ∈ w.cast.ids) ∧
      (∀ id, w.active = some id ↔ journal.Selects id) ∧
      w.cast.freeAvatars = Avatar.all.filter (· ∉ journal.onStage.map Prod.snd) ∧
      (∀ id avatar, (w.add id avatar).answer.isOk = true ↔ avatar ∈ w.cast.freeAvatars) ∧
      ∀ id, (w.ensure id).state.cast.isEmpty = false ∧
        ((w.ensure id).answer.isSome = true ↔ w.cast.isEmpty = true) := by
  intro start journal w fresh
  have agrees := agrees_after settings palette happenings fresh
  have avatars : w.cast.sprites.map (·.avatar) = journal.onStage.map Prod.snd := by
    rw [← agrees.stage, List.map_map]
    rfl
  refine ⟨agrees.stage, agrees.nodup_ids fresh, ?_, agrees.scripts, agrees.active, ?_,
    fun id avatar => w.isOk_add_iff, fun id => w.isEmpty_ensure⟩
  · rw [avatars]
    exact agrees.avatars
  · rw [Cast.freeAvatars_eq, agrees.stage]

/-- After an overture a run starts, the cat leaves in the middle of it, the dog is selected, and
another cat comes on. -/
theorem workspace_agrees_with_journal_overture :
    let happenings := overture ++ [
      .launches true [(.ofNat 0, [.move 1]), (.ofNat 1, [.turn 3])], .steps 0 0 0, .steps 0 1 0,
      .operates (.remove (.ofNat 0)), .operates (.select (.ofNat 1)),
      .operates (.ensure (.ofNat 2)), .steps 0 0 0, .operates (.addNamed (.ofNat 3) "cat"),
      .operates (.add (.ofNat 4) .dog)]
    let journal := (opening {} .standard).journal happenings
    let w := ((opening {} .standard).after happenings).workspace
    journal.Fresh ∧ w.cast.sprites.map Sprite.part = [(.ofNat 1, .dog), (.ofNat 3, .cat)] ∧
      w.cast.freeAvatars = [.robot] ∧ w.active = some (.ofNat 3) := by
  intro happenings journal w
  have fresh : journal.Fresh := by decide +kernel
  have whole := workspace_agrees_with_journal {} .standard happenings fresh
  have onStage : journal.onStage = [(.ofNat 1, .dog), (.ofNat 3, .cat)] := by decide +kernel
  have long : 9 < journal.length := by decide +kernel
  have split : journal = journal.take 9 ++ journal[9] :: journal.drop 10 := by
    rw [← List.drop_eq_getElem_cons long, List.take_append_drop]
  have selected : journal.Selects (.ofNat 3) :=
    ⟨_, _, _, split, rfl, by decide +kernel⟩
  refine ⟨fresh, whole.1.trans onStage, ?_, (whole.2.2.2.2.1 _).2 selected⟩
  rw [whole.2.2.2.2.2.1]
  decide +kernel

end Season

end Troupe
