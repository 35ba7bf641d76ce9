import Troupe.Proofs.Performance

/-!
# Who is on the stage

What is done on the stage changes sprites, but not who they are: changing one of them keeps all
identities and avatars in their places, and a change for a sprite that is not there does nothing.
Sprites that come on are added at the end, and an avatar is free when no sprite has it.
-/

namespace Troupe

/-- Who a sprite is and what it looks like. -/
def Sprite.part (s : Sprite) : SpriteId × Avatar := (s.id, s.avatar)

/-- An action keeps the identity and the avatar of its sprite. -/
theorem Action.part_apply (action : Action) (s : Sprite) : (action.apply s).part = s.part :=
  congrArg (fun role => (role.1, role.2.1)) (action.role_apply s)

namespace Cast

variable {cast : Cast} {id : SpriteId} {avatar : Avatar} {sprites more : List Sprite}
  {change : Sprite → Sprite}

/-! ## Changes of one sprite -/

/-- What a change keeps, it keeps in the whole cast. -/
theorem map_modifyIn {α : Type} {f : Sprite → α} (same : ∀ s, f (change s) = f s) :
    (modifyIn id change sprites).map f = sprites.map f := by
  induction sprites with
  | nil => rfl
  | cons s rest ih =>
    by_cases own : s.id = id
    · simp [modifyIn, own, same]
    · simp [modifyIn, own, ih]

/-- A change for a sprite that is not there does nothing. -/
theorem modifyIn_of_not_mem (absent : id ∉ sprites.map (·.id)) :
    modifyIn id change sprites = sprites := by
  induction sprites with
  | nil => rfl
  | cons s rest ih =>
    obtain ⟨other, later⟩ : id ≠ s.id ∧ id ∉ rest.map (·.id) := by simpa using absent
    rw [modifyIn, if_neg other.symm, ih later]

/-- A change for a sprite that is not among those at the end happens before them. -/
theorem modifyIn_append (apart : id ∉ more.map (·.id)) :
    modifyIn id change (sprites ++ more) = modifyIn id change sprites ++ more := by
  induction sprites with
  | nil => exact modifyIn_of_not_mem apart
  | cons s rest ih =>
    by_cases own : s.id = id
    · simp [modifyIn, own]
    · simp [modifyIn, own, ih]

/-- A change that does nothing to sprites does nothing to the cast. -/
theorem modifyIn_of_same (same : ∀ s, change s = s) : modifyIn id change sprites = sprites := by
  have mapped : (modifyIn id change sprites).map (fun s => s) = sprites.map fun s => s :=
    map_modifyIn same
  simpa using mapped

/-- Two changes of the same sprite come to one. -/
theorem modifyIn_modifyIn {first second : Sprite → Sprite} (same : ∀ s, (first s).id = s.id) :
    modifyIn id second (modifyIn id first sprites) =
      modifyIn id (fun s => second (first s)) sprites := by
  induction sprites with
  | nil => rfl
  | cons s rest ih =>
    by_cases own : s.id = id
    · simp [modifyIn, own, same]
    · simp [modifyIn, own, ih]

/-- Among distinct identities, a change for one of them reaches every sprite that has it. -/
theorem modifyIn_eq_map (distinct : (sprites.map (·.id)).Nodup) :
    modifyIn id change sprites = sprites.map fun s => if s.id = id then change s else s := by
  induction sprites with
  | nil => rfl
  | cons s rest ih =>
    obtain ⟨fresh, later⟩ := List.nodup_cons.1 distinct
    by_cases own : s.id = id
    · have others : rest.map (fun t => if t.id = id then change t else t) = rest := by
        refine (List.map_congr_left fun t member => if_neg fun same => ?_).trans (List.map_id _)
        exact fresh (List.mem_map.2 ⟨t, member, same.trans own.symm⟩)
      rw [modifyIn, if_pos own, List.map_cons, if_pos own, others]
    · rw [modifyIn, if_neg own, List.map_cons, if_neg own, ih later]

/-- Who looks for a changed sprite finds it changed. -/
theorem findIn?_modifyIn (same : ∀ s, (change s).id = s.id) :
    findIn? (modifyIn id change sprites) id = (findIn? sprites id).map change := by
  induction sprites with
  | nil => rfl
  | cons s rest ih =>
    simp only [findIn?] at ih ⊢
    by_cases own : s.id = id
    · simp [modifyIn, own, same]
    · simp [modifyIn, own, ih]

/-- Sprites at the end do not matter to who looks for another one. -/
theorem findIn?_append (apart : id ∉ more.map (·.id)) :
    findIn? (sprites ++ more) id = findIn? sprites id := by
  have beyond : findIn? more id = none := by
    refine List.find?_eq_none.2 fun s member => ?_
    have other : s.id ≠ id := fun same => apart (List.mem_map.2 ⟨s, member, same⟩)
    simpa using other
  rw [findIn?, List.find?_append]
  exact (congrArg _ beyond).trans (Option.or_none ..)

/-! ## Who is there -/

/-- The identities on the stage, read off the pairs of identities and avatars. -/
theorem ids_eq_map_part (cast : Cast) : cast.ids = (cast.sprites.map Sprite.part).map Prod.fst := by
  rw [List.map_map]
  rfl

/-- A sprite is found if and only if its identity is on the stage. -/
theorem find?_isSome_iff : (cast.find? id).isSome = true ↔ id ∈ cast.ids := by
  simp [find?, findIn?, ids]

/-- A sprite is there if and only if its identity is on the stage. -/
theorem has_iff_mem_ids : cast.has id = true ↔ id ∈ cast.ids := find?_isSome_iff

/-- No sprite is found if and only if the identity is not on the stage. -/
theorem find?_eq_none_iff : cast.find? id = none ↔ id ∉ cast.ids := by
  rw [← find?_isSome_iff, Bool.not_eq_true, Option.isSome_eq_false_iff, Option.isNone_iff_eq_none]

/-- Whoever comes on has the last identity on the stage. -/
@[simp] theorem ids_push (cast : Cast) (s : Sprite) : (cast.push s).ids = cast.ids ++ [s.id] := by
  simp [push, ids]

/-- Placing a sprite leaves everyone who they are. -/
theorem map_part_place (cast : Cast) (id : SpriteId) (position : Position) :
    (cast.modify id (·.place position)).sprites.map Sprite.part = cast.sprites.map Sprite.part :=
  map_modifyIn fun _ => rfl

/-- An action leaves everyone who they are. -/
theorem map_part_perform (cast : Cast) (who : SpriteId) (action : Action) :
    (action.perform who cast).sprites.map Sprite.part = cast.sprites.map Sprite.part := by
  cases action with
  | change effect => exact map_modifyIn (Action.part_apply (.change effect))
  | announce kind | warn name | pause duration => rfl

/-- An action keeps the identities on the stage. -/
@[simp] theorem ids_perform (cast : Cast) (who : SpriteId) (action : Action) :
    (action.perform who cast).ids = cast.ids := by
  rw [ids_eq_map_part, map_part_perform, ← ids_eq_map_part]

/-- An action is a change of the sprite that it is done by. -/
theorem perform_eq_modify (cast : Cast) (who : SpriteId) (action : Action) :
    action.perform who cast = cast.modify who action.apply := by
  cases action with
  | change effect => rfl
  | announce kind | warn name | pause duration =>
    exact congrArg Cast.mk (modifyIn_of_same fun _ => rfl).symm

/-- Actions of a sprite are one change of it. -/
theorem foldl_perform_eq_modify (who : SpriteId) (actions : List Action) (cast : Cast) :
    actions.foldl (Action.perform who) cast = cast.modify who (·.after actions) := by
  induction actions generalizing cast with
  | nil => exact congrArg Cast.mk (modifyIn_of_same fun _ => rfl).symm
  | cons action rest ih =>
    have kept : ∀ s, (action.apply s).id = s.id := fun s => congrArg Prod.fst (action.role_apply s)
    rw [List.foldl_cons, ih, perform_eq_modify]
    exact congrArg Cast.mk (modifyIn_modifyIn kept)

/-- An action of a sprite that is not there does nothing. -/
theorem perform_of_not_mem {who : SpriteId} (absent : who ∉ cast.ids) (action : Action) :
    action.perform who cast = cast := by
  cases action with
  | change effect => exact congrArg Cast.mk (modifyIn_of_not_mem absent)
  | announce kind | warn name | pause duration => rfl

/-- Among distinct identities, removing one leaves all others. -/
theorem map_part_erase (distinct : cast.ids.Nodup) (id : SpriteId) :
    (cast.erase id).sprites.map Sprite.part =
      (cast.sprites.map Sprite.part).filter (·.1 ≠ id) := by
  obtain ⟨sprites⟩ := cast
  simp only [erase, ids] at distinct ⊢
  induction sprites with
  | nil => rfl
  | cons s rest ih =>
    obtain ⟨fresh, later⟩ := List.nodup_cons.1 distinct
    by_cases own : s.id = id
    · subst own
      have others : (rest.map Sprite.part).filter (·.1 ≠ s.id) = rest.map Sprite.part := by
        refine List.filter_eq_self.2 fun part member => ?_
        obtain ⟨t, there, rfl⟩ := List.mem_map.1 member
        have apart : t.id ≠ s.id := fun same => fresh (List.mem_map.2 ⟨t, there, same⟩)
        exact decide_eq_true apart
      rw [List.eraseP_cons_of_pos (by simp), List.map_cons,
        List.filter_cons_of_neg (by simp [Sprite.part]), others]
    · have kept : ((s :: rest).map Sprite.part).filter (·.1 ≠ id) =
          s.part :: (rest.map Sprite.part).filter (·.1 ≠ id) :=
        List.filter_cons_of_pos (decide_eq_true own)
      rw [List.eraseP_cons_of_neg (by simpa using own), List.map_cons, ih later, kept]

/-! ## Free avatars -/

/-- The free avatars are those that nobody has. -/
theorem freeAvatars_eq (cast : Cast) :
    cast.freeAvatars =
      Avatar.all.filter fun avatar => avatar ∉ (cast.sprites.map Sprite.part).map Prod.snd := by
  refine List.filter_congr fun avatar _ => ?_
  rw [Bool.eq_iff_iff]
  simp [Sprite.part]

/-- An avatar is free if and only if it is not among those on the stage. -/
theorem mem_freeAvatars :
    avatar ∈ cast.freeAvatars ↔ avatar ∉ (cast.sprites.map Sprite.part).map Prod.snd := by
  have listed : avatar ∈ Avatar.all := by cases avatar <;> decide
  rw [freeAvatars_eq, List.mem_filter, decide_eq_true_eq]
  exact and_iff_right listed

/-- An avatar is free if and only if no sprite on the stage has it. -/
theorem any_avatar_eq_false_iff :
    cast.sprites.any (·.avatar = avatar) = false ↔ avatar ∈ cast.freeAvatars := by
  rw [mem_freeAvatars, List.map_map, List.any_eq_false]
  simp [Sprite.part]

/-- On an empty stage every avatar is free. -/
theorem mem_freeAvatars_of_isEmpty (empty : cast.isEmpty = true) : avatar ∈ cast.freeAvatars := by
  rw [mem_freeAvatars, List.isEmpty_iff.1 empty]
  exact List.not_mem_nil

end Cast

end Troupe
