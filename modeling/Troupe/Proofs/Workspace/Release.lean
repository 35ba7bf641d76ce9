import Troupe.Proofs.Workspace.Refusal

/-!
# Putting a sprite down

In hero mode a sprite that is put down exchanges its whole script with the first sprite that it
meets, and nothing else changes. Putting it down once more while everyone is where they were takes
the exchange back (`Theatre.release_exchanges_two_scripts`).
-/

namespace Troupe

/-- Who a sprite is and where it is. -/
def Sprite.spot (s : Sprite) : SpriteId × Position := (s.id, s.position)

/-- Who is met depends on who is where, and on nothing else. -/
theorem Encounter.partner?_eq_of_spots {radius : Binary64} {sprites sprites' : List Sprite}
    (same : sprites'.map Sprite.spot = sprites.map Sprite.spot) (moved : SpriteId) :
    partner? radius sprites' moved = partner? radius sprites moved := by
  have spots (sprites : List Sprite) : partner? radius sprites moved =
      ((sprites.map Sprite.spot).find? fun spot => decide (spot.1 = moved)).bind fun own =>
        ((sprites.map Sprite.spot).find? fun spot =>
          decide (spot.1 ≠ moved) && meets radius own.2 spot.2).map Prod.fst := by
    simp only [partner?, Cast.findIn?, bind_pure_comp, Option.map_eq_map, Option.bind_eq_bind,
      List.find?_map, Option.bind_map, Option.map_map]
    rfl
  rw [spots, spots, same]

namespace Workspace

variable {w : Workspace} {id other : SpriteId}

/-! ## Who is met -/

/-- A sprite on the stage meets another one, and none that came on before it. -/
structure FirstMet (w : Workspace) (id other : SpriteId) : Prop where
  /-- It is another sprite. -/
  apart : other ≠ id
  /-- It is near, and those that came on before it are not. -/
  first : ∃ s before t later, w.cast.find? id = some s ∧
    w.cast.sprites = before ++ t :: later ∧ t.id = other ∧
    Encounter.meets w.settings.radius s.position t.position = true ∧
    ∀ u ∈ before, u.id ≠ id → Encounter.meets w.settings.radius s.position u.position = false

/-- A partner is the first sprite that is met. -/
theorem partner?_eq_some_iff :
    Encounter.partner? w.settings.radius w.cast.sprites id = some other ↔ w.FirstMet id other := by
  simp only [Encounter.partner?, Option.bind_eq_bind, Option.bind_eq_some_iff,
    List.find?_eq_some_iff_append]
  constructor
  · rintro ⟨s, there, t, ⟨fits, before, later, parts, earlier⟩, same⟩
    obtain rfl : t.id = other := Option.some.inj same
    obtain ⟨apart, near⟩ : t.id ≠ id ∧
        Encounter.meets w.settings.radius s.position t.position = true := by simpa using fits
    refine ⟨apart, s, before, t, later, there, parts, rfl, near, fun u member different => ?_⟩
    simpa [different] using earlier u member
  · rintro ⟨apart, s, before, t, later, there, parts, rfl, near, earlier⟩
    refine ⟨s, there, t, ⟨by simp [apart, near], before, later, parts, fun u member => ?_⟩, rfl⟩
    by_cases own : u.id = id
    · simp [own]
    · simp [earlier u member own]

/-! ## What is exchanged -/

/-- Two sprites exchange their scripts, and nothing else in a workspace changes. -/
structure ScriptsExchanged (w : Workspace) (id other : SpriteId) (after : Workspace) : Prop where
  /-- The one sprite has the script of the other. -/
  own : after.scripts id = w.scripts other
  /-- The other sprite has the script of the one. -/
  others : after.scripts other = w.scripts id
  /-- All others have theirs. -/
  rest : ∀ third, third ≠ id → third ≠ other → after.scripts third = w.scripts third
  /-- The sprites, the selection and all else stay as they are. -/
  unchanged : after = { w with scripts := after.scripts }

/-- Exchanging the scripts of two sprites exchanges them and nothing else. -/
theorem scriptsExchanged_exchangeScripts (w : Workspace) (apart : other ≠ id) :
    w.ScriptsExchanged id other (w.exchangeScripts id other) where
  own := by
    rw [exchangeScripts, scripts_setScript_of_ne _ _ apart.symm, scripts_setScript_self]
  others := by rw [exchangeScripts, scripts_setScript_self]
  rest third notOwn notOther := by
    rw [exchangeScripts, scripts_setScript_of_ne _ _ notOther, scripts_setScript_of_ne _ _ notOwn]
  unchanged := rfl

/-- Exchanging the scripts of two sprites twice gives every sprite its script back, whatever else
changed in between. -/
theorem ScriptsExchanged.twice {after again final : Workspace}
    (first : w.ScriptsExchanged id other after) (same : again.scripts = after.scripts)
    (second : again.ScriptsExchanged id other final) : final.scripts = w.scripts := by
  funext third
  by_cases own : third = id
  · rw [own, second.own, same, first.others]
  · by_cases others : third = other
    · rw [others, second.others, same, first.own]
    · rw [second.rest third own others, same, first.rest third own others]

end Workspace

namespace Theatre

/-- Putting down a sprite does nothing outside hero mode, or when it is not on the stage or meets
nobody. Otherwise it and the first sprite that it meets exchange their whole scripts, and nothing
else changes, neither in the workspace nor in the runs. Putting it down once more, when everyone is
still where they were, it meets the same sprite, and every sprite gets its script back, whatever
else happened to the sprites and the selection in between. -/
theorem release_exchanges_two_scripts (t : Theatre) (id : SpriteId) :
    let w := t.workspace
    let released := t.edit (·.release id)
    let after := released.state.workspace
    (w.heroMode = false ∨ id ∉ w.cast.ids ∨ ¬w.Meets id →
      released.answer = none ∧ released.state = t ∧ released.log = []) ∧
    (w.heroMode = true → w.Meets id →
      ∃ other, released.answer = some other ∧ w.FirstMet id other ∧
        w.ScriptsExchanged id other after ∧ released.state = { t with workspace := after } ∧
        ∀ again : Workspace, again.heroMode = true → again.settings = w.settings →
          again.cast.sprites.map Sprite.spot = w.cast.sprites.map Sprite.spot →
          again.scripts = after.scripts →
          (again.release id).answer = some other ∧
            (again.release id).state.scripts = w.scripts) := by
  intro w released after
  constructor
  · intro why
    have alone : w.heroMode = true → ¬w.Meets id := by
      rintro hero ⟨s, there, meets⟩
      rcases why with off | absent | nobody
      · simp [hero] at off
      · exact absurd (Cast.find?_eq_none_iff.2 absent) (by simp [there])
      · exact nobody ⟨s, there, meets⟩
    have same : released = { answer := none, state := t } := by
      simp only [released, edit, Workspace.release_of_alone alone, Outcome.lift, w]
    rw [same]
    exact ⟨rfl, rfl, rfl⟩
  · intro hero meets
    obtain ⟨other, partner⟩ :=
      Option.ne_none_iff_exists'.1 (mt Workspace.partner?_eq_none_iff.1 (not_not_intro meets))
    have met : w.FirstMet id other := Workspace.partner?_eq_some_iff.1 partner
    have outcome := Workspace.release_of_partner hero partner
    have exchanged : w.ScriptsExchanged id other (w.release id).state := by
      rw [outcome]
      exact w.scriptsExchanged_exchangeScripts met.apart
    refine ⟨other, congrArg Outcome.answer outcome, met, exchanged, rfl, ?_⟩
    intro again heroAgain settings spots scripts
    have partnerAgain :
        Encounter.partner? again.settings.radius again.cast.sprites id = some other := by
      rw [settings, Encounter.partner?_eq_of_spots spots]
      exact partner
    rw [Workspace.release_of_partner heroAgain partnerAgain]
    have back := again.scriptsExchanged_exchangeScripts met.apart
    exact ⟨rfl, exchanged.twice scripts back⟩

/-- In a duet in performance the cat is put down on the dog. When it is put down once more, after it
turned and the dog was selected, both have their scripts again. -/
theorem release_exchanges_two_scripts_duet :
    let t := (ofWorkspace .duet id).start.state
    t.workspace.Meets (.ofNat 0) ∧ ∃ after,
      (t.edit (·.release (.ofNat 0))).state = { t with workspace := after } ∧
      after.scripts (.ofNat 1) = t.workspace.scripts (.ofNat 0) ∧
      let again : Workspace :=
        { after with cast := after.cast.modify (.ofNat 0) (·.turn 90), active := some (.ofNat 1) }
      (again.release (.ofNat 0)).state.scripts = t.workspace.scripts := by
  intro t
  have near : Encounter.partner? t.workspace.settings.radius t.workspace.cast.sprites (.ofNat 0) ≠
      none := by decide +kernel
  have meets : t.workspace.Meets (.ofNat 0) :=
    Classical.not_not.1 (mt Workspace.partner?_eq_none_iff.2 near)
  obtain ⟨other, answered, -, exchanged, state, twice⟩ :=
    (release_exchanges_two_scripts t (.ofNat 0)).2 rfl meets
  have dog : (t.edit (·.release (.ofNat 0))).answer = some (.ofNat 1) := by decide +kernel
  obtain rfl : other = .ofNat 1 := Option.some.inj (answered.symm.trans dog)
  have hero : (t.edit (·.release (.ofNat 0))).state.workspace.heroMode = true := by
    decide +kernel
  have settings : (t.edit (·.release (.ofNat 0))).state.workspace.settings =
      t.workspace.settings := by decide +kernel
  have spots : ((t.edit (·.release (.ofNat 0))).state.workspace.cast.modify (.ofNat 0)
      (·.turn 90)).sprites.map Sprite.spot = t.workspace.cast.sprites.map Sprite.spot := by
    decide +kernel
  generalize (t.edit (·.release (.ofNat 0))).state.workspace = after at *
  let again : Workspace :=
    { after with cast := after.cast.modify (.ofNat 0) (·.turn 90), active := some (.ofNat 1) }
  exact ⟨meets, after, state, exchanged.others, (twice again hero settings spots rfl).2⟩

end Theatre

end Troupe
