import Troupe.Proofs.Season.Basic

/-!
# Scripts conform to the palette

Scripts come into a workspace by being normalized or by taking new blocks of the palette, they are
edited in place, and they are exchanged. In every session all blocks of all scripts conform to the
palette, however deep they are (`Season.scripts_conform`).
-/

namespace Troupe

namespace Workspace

variable {w w' : Workspace} {entry : Entry}

/-- All blocks of all scripts conform to the palette. -/
def Conforms (w : Workspace) : Prop := ∀ id, ∀ b ∈ w.scripts id, w.palette.Conforms b

/-- A script of conforming blocks may be set for any sprite. -/
theorem Conforms.setScript (conforms : w.Conforms) (id : SpriteId) {script : Script}
    (blocks : ∀ b ∈ script, w.palette.Conforms b) : (w.setScript id script).Conforms := by
  intro other b member
  by_cases same : other = id
  · subst same
    rw [scripts_setScript_self] at member
    exact blocks b member
  · rw [scripts_setScript_of_ne w script same] at member
    exact conforms other b member

/-- Every operation keeps the palette, and the scripts in line with it. -/
theorem Conforms.of_moves (conforms : w.Conforms) (moves : w.Moves entry w') :
    w'.palette = w.palette ∧ w'.Conforms := by
  cases moves with
  | keeps | adds | selects | places | turns => exact ⟨rfl, conforms⟩
  | removes there => exact ⟨rfl, conforms.setScript _ nofun⟩
  | edits quiet there edits => exact ⟨rfl, conforms.setScript _ (edits.conforms (conforms _))⟩
  | exchanges partner =>
    exact ⟨rfl, (conforms.setScript _ (conforms _)).setScript _ (conforms _)⟩
  | resets => exact ⟨rfl, fun id b member => nomatch member⟩

end Workspace

namespace Season

/-- In every session, all blocks of all scripts conform to the palette, however deep they are: a
block of a kind on offer has one literal for each parameter, and no children unless its kind is made
of them. So normalizing changes no script. For any script at all these two come to the same. -/
theorem scripts_conform (settings : Settings) (palette : Palette) (happenings : List Happening) :
    let w := ((opening settings palette).after happenings).workspace
    (∀ id, ∀ b ∈ w.scripts id, ∀ inner ∈ b.nested, ∀ d, palette.find? inner.kind = some d →
        inner.params.length = d.params.length ∧
          (inner.kind.nests = false → inner.children = [])) ∧
      (∀ id, (w.scripts id).map palette.normalize = w.scripts id) ∧
      ∀ script : Script,
        script.map palette.normalize = script ↔ ∀ b ∈ script, palette.Conforms b := by
  intro w
  have same (script : Script) :
      script.map palette.normalize = script ↔ ∀ b ∈ script, palette.Conforms b :=
    Palette.map_normalize_eq_self_iff.trans
      (forall₂_congr fun _ _ => Palette.normalize_eq_self_iff)
  have conform : w.palette = palette ∧ w.Conforms := by
    refine journal_induction (motive := fun _ w => w.palette = palette ∧ w.Conforms)
      ⟨rfl, fun _ _ member => absurd member List.not_mem_nil⟩ (fun before moves => ?_)
      (fun _ _ before => before) happenings
    obtain ⟨kept, conforms⟩ := before.2.of_moves moves
    exact ⟨kept.trans before.1, conforms⟩
  obtain ⟨kept, conforms⟩ := conform
  rw [Workspace.Conforms, kept] at conforms
  exact ⟨conforms, fun id => (same _).2 (conforms id), same⟩

/-- After an overture the cat gets a script with literals that are missing or too many, and with a
child of a block that has none. It gets a new block and exchanges its script with the dog. What the
dog has then is in line with the palette. -/
theorem scripts_conform_overture :
    let happenings := overture ++ [
      .operates (.select (.ofNat 0)),
      .operates (.updateScript (.ofNat 0)
        [⟨.loop, [], [⟨.say, [.text "hi"], []⟩, ⟨.move, [.integer 1, .integer 2], [.move 1]⟩]⟩]),
      .operates (.drop .goTo), .operates (.setParameter 1 1 (.text "far")),
      .operates (.release (.ofNat 0))]
    ∃ b ∈ ((opening {} .standard).after happenings).workspace.scripts (.ofNat 1),
      ∃ child ∈ b.children, child.kind = .move ∧ child.params.length = 1 ∧ child.children = [] := by
  intro happenings
  have kind : ((((opening {} .standard).after happenings).workspace.scripts
      (.ofNat 1))[0]?.bind (·.children[1]?)).map (·.kind) = some .move := by decide +kernel
  obtain ⟨child, found, move⟩ := Option.map_eq_some_iff.1 kind
  obtain ⟨b, here, inside⟩ := Option.bind_eq_some_iff.1 found
  have script := List.mem_of_getElem? here
  have member := List.mem_of_getElem? inside
  have nested : child ∈ b.nested :=
    Block.mem_nested.2 (.inr ⟨child, member, Block.mem_nested.2 (.inl rfl)⟩)
  have offered : Palette.standard.find? child.kind =
      some ⟨.move, "Move", .motion, [.number "steps" 10 "steps"]⟩ := by
    rw [move]
    rfl
  have conforms := (scripts_conform {} .standard happenings).1 _ b script child nested _ offered
  exact ⟨b, script, child, member, move, conforms.1, conforms.2 (by rw [move]; rfl)⟩

end Season

end Troupe
