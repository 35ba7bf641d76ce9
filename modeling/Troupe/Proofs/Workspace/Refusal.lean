import Troupe.Proofs.Run.Scene
import Troupe.Proofs.Workspace.Operation
import Troupe.Theatre.Playing

/-!
# Refused operations

An operation may be refused: there is no sprite, block or literal that it is about, a sprite cannot
come on, or nobody is met. `Workspace.Refuses` says when, without looking at what operations do. An
operation that is refused leaves everything as it was and tells nothing
(`Theatre.refused_changes_nothing`).
-/

namespace Troupe

/-- Whether an operation was answered with a failure. -/
def Entry.isRefused : Entry → Bool
  | ⟨.add _ _, .error _⟩ | ⟨.addNamed _ _, .error _⟩ | ⟨.ensure _, none⟩ => true
  | ⟨.place _ _, false⟩ | ⟨.remove _, none⟩ | ⟨.select _, false⟩ => true
  | ⟨.updateScript _ _, false⟩ | ⟨.drop _, none⟩ | ⟨.removeBlock _, none⟩ => true
  | ⟨.setParameter _ _ _, false⟩ | ⟨.release _, none⟩ => true
  | _ => false

namespace Workspace

/-- A sprite on the stage has an avatar. -/
def Uses (w : Workspace) (avatar : Avatar) : Prop := ∃ s ∈ w.cast.sprites, s.avatar = avatar

/-- A sprite on the stage meets another one. -/
def Meets (w : Workspace) (id : SpriteId) : Prop :=
  ∃ s, w.cast.find? id = some s ∧ ∃ other ∈ w.cast.sprites, other.id ≠ id ∧
    Encounter.meets w.settings.radius s.position other.position = true

/-- What keeps an operation from being done. -/
def Refuses (w : Workspace) : Operation → Prop
  | .add _ avatar => w.Uses avatar
  | .addNamed _ name => ∀ avatar, Avatar.ofName? name = some avatar → w.Uses avatar
  | .ensure _ => w.cast.sprites ≠ []
  | .place id _ | .remove id | .select id | .updateScript id _ => id ∉ w.cast.ids
  | .drop kind => w.active = none ∨ w.palette.find? kind = none
  | .removeBlock index => ∀ id, w.active = some id → (w.scripts id).length ≤ index
  | .setParameter block parameter _ =>
    ∀ id b, w.active = some id → (w.scripts id)[block]? = some b → b.params.length ≤ parameter
  | .release id => w.heroMode = true → ¬w.Meets id
  | .reset | .setHeroMode _ => False

/-- An operation is refused, and then nothing else happens, or it is done. -/
inductive Verdict (w : Workspace) (operation : Operation) : Prop where
  /-- It is refused. -/
  | refused (why : w.Refuses operation) (told : (w.entry operation).isRefused = true)
      (state : (w.operate operation).state = w) (log : (w.operate operation).log = [])
  /-- It is done. -/
  | done (free : ¬w.Refuses operation) (told : (w.entry operation).isRefused = false)

variable {w : Workspace} {id : SpriteId} {avatar : Avatar} {operation : Operation}

/-- What is answered with a failure and does nothing else is refused. -/
theorem Verdict.of_refused {answer : operation.Answer} (why : w.Refuses operation)
    (same : w.operate operation = { answer, state := w })
    (told : Entry.isRefused ⟨operation, answer⟩ = true) : w.Verdict operation := by
  refine .refused why ?_ ?_ ?_
  · rw [entry, same]
    exact told
  · rw [same]
  · rw [same]

/-- What is not answered with a failure is done. -/
theorem Verdict.of_done {answer : operation.Answer} (free : ¬w.Refuses operation)
    (same : (w.operate operation).answer = answer)
    (told : Entry.isRefused ⟨operation, answer⟩ = false) : w.Verdict operation := by
  refine .done free ?_
  rw [entry, same]
  exact told

/-! ## What there is -/

/-- An avatar is not free when it is in use. -/
theorem not_mem_freeAvatars_iff : avatar ∉ w.cast.freeAvatars ↔ w.Uses avatar := by
  simp [Cast.mem_freeAvatars, Uses, Sprite.part]

/-- Who meets nobody has no partner to exchange scripts with. -/
theorem partner?_eq_none_iff :
    Encounter.partner? w.settings.radius w.cast.sprites id = none ↔ ¬w.Meets id := by
  simp only [Encounter.partner?, Meets, Cast.find?]
  cases Cast.findIn? w.cast.sprites id with
  | none => simp
  | some s => simp [Option.bind_eq_none_iff, ← Option.eq_none_iff_forall_ne_some]

/-- A script may be set to what it is. -/
@[simp] theorem setScript_self (w : Workspace) (id : SpriteId) :
    w.setScript id (w.scripts id) = w := by
  have same : (fun other => if other = id then w.scripts id else w.scripts other) = w.scripts := by
    funext other
    split <;> simp_all
  rw [setScript, same]

/-- A literal that is not there cannot be replaced. -/
theorem set_params_eq_self {script : Script} {index parameter : Nat} {b : Block} (value : Literal)
    (here : script[index]? = some b) (beyond : b.params.length ≤ parameter) :
    script.set index { b with params := b.params.set parameter value } = script := by
  obtain ⟨kind, params, children⟩ := b
  obtain ⟨within, same⟩ := List.getElem?_eq_some_iff.1 here
  rw [List.set_eq_of_length_le beyond, ← same]
  exact List.set_getElem_self within

/-! ## Sprites -/

/-- A sprite comes on unless its avatar is in use. -/
theorem verdict_add (w : Workspace) (id : SpriteId) (avatar : Avatar) :
    w.Verdict (.add id avatar) := by
  by_cases free : avatar ∈ w.cast.freeAvatars
  · have told : (w.add id avatar).answer = .ok id := by rw [w.add_of_free id free]
    exact .of_done (fun used => not_mem_freeAvatars_iff.2 used free) told rfl
  · exact .of_refused (not_mem_freeAvatars_iff.1 free) (w.add_of_used id free) rfl

/-- A sprite comes on unless no avatar has the given name or the avatar is in use. -/
theorem verdict_addNamed (w : Workspace) (id : SpriteId) (name : String) :
    w.Verdict (.addNamed id name) := by
  cases named : Avatar.ofName? name with
  | none =>
    have same : w.addNamed id name = { answer := .error (.unknownAvatar name), state := w } := by
      simp only [addNamed, Avatar.named, named]
    exact .of_refused (fun avatar found => by simp [named] at found) same rfl
  | some avatar =>
    have same : w.addNamed id name = w.add id avatar := by
      simp only [addNamed, Avatar.named, named]
    by_cases free : avatar ∈ w.cast.freeAvatars
    · have told : (w.addNamed id name).answer = .ok id := by rw [same, w.add_of_free id free]
      exact .of_done (fun used => not_mem_freeAvatars_iff.2 (used avatar named) free) told rfl
    · refine .of_refused (fun other found => ?_) (same.trans (w.add_of_used id free)) rfl
      obtain rfl : avatar = other := by simpa [named] using found
      exact not_mem_freeAvatars_iff.1 free

/-- A cat comes on unless somebody is there. -/
theorem verdict_ensure (w : Workspace) (id : SpriteId) : w.Verdict (.ensure id) := by
  by_cases empty : w.cast.isEmpty = true
  · have free : .cat ∈ w.cast.freeAvatars := Cast.mem_freeAvatars_of_isEmpty empty
    have same : (w.ensure id).answer = some id := by
      simp only [ensure, if_pos empty, Outcome.map, w.add_of_free id free, Except.toOption]
    exact .of_done (fun some => some (List.isEmpty_iff.1 empty)) same rfl
  · exact .of_refused (fun none => empty (List.isEmpty_iff.2 none)) (if_neg empty) rfl

/-- A sprite that is not there cannot be placed. -/
theorem place_of_not_mem (absent : id ∉ w.cast.ids) (position : Position) :
    w.place id position = { answer := false, state := w } := by
  have same : w.cast.modify id (·.place position) = w.cast :=
    congrArg Cast.mk (Cast.modifyIn_of_not_mem absent)
  have missing : w.cast.has id = false := by
    rwa [← Bool.not_eq_true, Cast.has_iff_mem_ids]
  rw [place, same, missing]

/-- A sprite is placed unless it is not there. -/
theorem verdict_place (w : Workspace) (id : SpriteId) (position : Position) :
    w.Verdict (.place id position) := by
  by_cases there : id ∈ w.cast.ids
  · exact .of_done (not_not_intro there) (Cast.has_iff_mem_ids.2 there) rfl
  · exact .of_refused there (place_of_not_mem there position) rfl

/-- A sprite is removed unless it is not there. -/
theorem verdict_remove (w : Workspace) (id : SpriteId) : w.Verdict (.remove id) := by
  cases there : w.cast.find? id with
  | none =>
    have same : w.remove id = { answer := none, state := w } := by simp only [remove, there]
    exact .of_refused (Cast.find?_eq_none_iff.1 there) same rfl
  | some s =>
    have present : id ∈ w.cast.ids := Cast.find?_isSome_iff.1 (congrArg Option.isSome there)
    have same : (w.remove id).answer = some s := by simp only [remove, there]
    exact .of_done (not_not_intro present) same rfl

/-- A sprite is selected unless it is not there. -/
theorem verdict_select (w : Workspace) (id : SpriteId) : w.Verdict (.select id) := by
  by_cases there : id ∈ w.cast.ids
  · have same : (w.select id).answer = true := by
      rw [select, if_pos (Cast.has_iff_mem_ids.2 there)]
    exact .of_done (not_not_intro there) same rfl
  · exact .of_refused there (if_neg fun has => there (Cast.has_iff_mem_ids.1 has)) rfl

/-! ## Scripts -/

/-- A script is replaced unless its sprite is not there. -/
theorem verdict_updateScript (w : Workspace) (id : SpriteId) (script : Script) :
    w.Verdict (.updateScript id script) := by
  by_cases there : id ∈ w.cast.ids
  · have same : (w.updateScript id script).answer = true := by
      rw [updateScript, if_pos (Cast.has_iff_mem_ids.2 there)]
    exact .of_done (not_not_intro there) same rfl
  · exact .of_refused there (if_neg fun has => there (Cast.has_iff_mem_ids.1 has)) rfl

/-- A block comes in unless nobody is selected or its kind is not on offer. -/
theorem verdict_drop (w : Workspace) (kind : Kind) : w.Verdict (.drop kind) := by
  cases active : w.active with
  | none =>
    have same : w.drop kind = { answer := none, state := w } := by simp only [drop, active]
    exact .of_refused (.inl active) same rfl
  | some id =>
    cases found : w.palette.find? kind with
    | none =>
      have same : w.drop kind = { answer := none, state := w } := by
        simp only [drop, active, Palette.instantiate?, found, Option.map_none]
      exact .of_refused (.inr found) same rfl
    | some d =>
      have same : (w.drop kind).answer = some (w.scripts id).length := by
        simp only [drop, active, Palette.instantiate?, found, Option.map_some]
      exact .of_done (by simp [Refuses, active, found]) same rfl

/-- A block is removed unless nobody is selected or it is not there. -/
theorem verdict_removeBlock (w : Workspace) (index : Nat) : w.Verdict (.removeBlock index) := by
  cases active : w.active with
  | none =>
    have same : w.removeBlock index = { answer := none, state := w } := by
      simp only [removeBlock, active]
    exact .of_refused (fun id selected => by simp [active] at selected) same rfl
  | some id =>
    by_cases within : index < (w.scripts id).length
    · have same : (w.removeBlock index).answer = some (w.scripts id)[index] := by
        simp only [removeBlock, active, List.getElem?_eq_getElem within]
      exact .of_done (fun why => Nat.not_le.2 within (why id active)) same rfl
    · have beyond := Nat.not_lt.1 within
      have same : w.removeBlock index = { answer := none, state := w } := by
        simp only [removeBlock, active, List.getElem?_eq_none beyond,
          List.eraseIdx_of_length_le beyond, setScript_self]
      refine .of_refused (fun other selected => ?_) same rfl
      obtain rfl : id = other := by simpa [active] using selected
      exact beyond

/-- A literal is replaced unless nobody is selected or the block or the literal is not there. -/
theorem verdict_setParameter (w : Workspace) (block parameter : Nat) (value : Literal) :
    w.Verdict (.setParameter block parameter value) := by
  cases active : w.active with
  | none =>
    have same : w.setParameter block parameter value = { answer := false, state := w } := by
      simp only [setParameter, active]
    exact .of_refused (fun id b selected => by simp [active] at selected) same rfl
  | some id =>
    cases here : (w.scripts id)[block]? with
    | none =>
      have same : w.setParameter block parameter value = { answer := false, state := w } := by
        simp only [setParameter, active, here]
      refine .of_refused (fun other b selected found => ?_) same rfl
      obtain rfl : id = other := by simpa [active] using selected
      simp [here] at found
    | some b =>
      by_cases within : parameter < b.params.length
      · have same : (w.setParameter block parameter value).answer = true := by
          simp only [setParameter, active, here, decide_eq_true within]
        exact .of_done (fun why => Nat.not_le.2 within (why id b active here)) same rfl
      · have beyond := Nat.not_lt.1 within
        have same : w.setParameter block parameter value = { answer := false, state := w } := by
          simp only [setParameter, active, here, decide_eq_false within,
            set_params_eq_self value here beyond, setScript_self]
        refine .of_refused (fun other c selected found => ?_) same rfl
        obtain rfl : id = other := by simpa [active] using selected
        obtain rfl : b = c := by simpa [here] using found
        exact beyond

/-- A sprite that is put down outside hero mode, or meets nobody, leaves everything as it is. -/
theorem release_of_alone (alone : w.heroMode = true → ¬w.Meets id) :
    w.release id = { answer := none, state := w } := by
  by_cases hero : w.heroMode = true
  · have nobody := partner?_eq_none_iff.2 (alone hero)
    simp only [release, if_pos hero, nobody]
  · exact if_neg hero

/-- A sprite that is put down in hero mode exchanges its script with the one that it meets. -/
theorem release_of_partner {other : SpriteId} (hero : w.heroMode = true)
    (partner : Encounter.partner? w.settings.radius w.cast.sprites id = some other) :
    w.release id =
      { answer := some other
        state := w.exchangeScripts id other
        log := [.scriptsSwapped (w.cast.nameOf id) (w.cast.nameOf other)] } := by
  simp only [release, if_pos hero, partner]

/-- A sprite that is put down exchanges its script unless hero mode is off or it meets nobody. -/
theorem verdict_release (w : Workspace) (id : SpriteId) : w.Verdict (.release id) := by
  by_cases alone : w.heroMode = true → ¬w.Meets id
  · exact .of_refused alone (release_of_alone alone) rfl
  · obtain ⟨hero, meets⟩ := Classical.not_imp.1 alone
    obtain ⟨other, partner⟩ := Option.ne_none_iff_exists'.1 (mt partner?_eq_none_iff.1 meets)
    have same : (w.release id).answer = some other := by rw [release_of_partner hero partner]
    exact .of_done alone same rfl

/-! ## All operations -/

/-- Every operation is refused, and then nothing else happens, or it is done. -/
theorem verdict (w : Workspace) (operation : Operation) : w.Verdict operation := by
  cases operation with
  | add id avatar => exact w.verdict_add id avatar
  | addNamed id name => exact w.verdict_addNamed id name
  | ensure id => exact w.verdict_ensure id
  | place id position => exact w.verdict_place id position
  | remove id => exact w.verdict_remove id
  | select id => exact w.verdict_select id
  | updateScript id script => exact w.verdict_updateScript id script
  | drop kind => exact w.verdict_drop kind
  | removeBlock index => exact w.verdict_removeBlock index
  | setParameter block parameter value => exact w.verdict_setParameter block parameter value
  | reset => exact .done (fun none => none) rfl
  | setHeroMode on => exact .done (fun none => none) rfl
  | release id => exact w.verdict_release id

end Workspace

namespace Theatre

/-- An operation is answered with a failure if and only if something keeps it from being done. Then
it changes nothing, neither in the workspace nor in the runs, and nothing is told. -/
theorem refused_changes_nothing (t : Theatre) (operation : Operation) :
    let outcome := t.edit (·.operate operation)
    let refused := (t.workspace.entry operation).isRefused
    (refused = true ↔ t.workspace.Refuses operation) ∧
      (refused = true → outcome.state = t ∧ outcome.log = []) := by
  intro outcome refused
  cases t.workspace.verdict operation with
  | refused why told state log =>
    refine ⟨iff_of_true told why, fun _ => ⟨?_, log⟩⟩
    exact congrArg (fun workspace => { t with workspace }) state
  | done free told =>
    have accepted : ¬refused = true := Bool.eq_false_iff.1 told
    exact ⟨iff_of_false accepted free, fun failed => absurd failed accepted⟩

/-- While a duet is performed, the dog being selected, a second cat does not come on, a literal is
not replaced that its block does not have, and a sprite is not put down that is not there. -/
theorem refused_changes_nothing_duet :
    let w : Workspace := { Workspace.duet with active := some (.ofNat 1) }
    let t := (ofWorkspace w id).start.state
    let operations : List Operation :=
      [.addNamed (.ofNat 2) "Cat", .setParameter 1 1 (.integer 5), .release (.ofNat 2)]
    ∀ operation ∈ operations, (t.workspace.entry operation).isRefused = true ∧
      (t.edit (·.operate operation)).state = t ∧ (t.edit (·.operate operation)).log = [] := by
  intro w t operations operation member
  have refused : operations.all (fun o => (t.workspace.entry o).isRefused) = true := by
    decide +kernel
  have told := List.all_eq_true.1 refused operation member
  exact ⟨told, (refused_changes_nothing t operation).2 told⟩

end Theatre

end Troupe
