import Mathlib.Data.List.Induction
import Mathlib.Data.List.Nodup
import Troupe.Palette.Indexed
import Troupe.Proofs.Palette.Document
import Troupe.Proofs.Palette.Schema

/-!
# The index of a palette agrees with its definitions

While a palette is built, its index has the place of each definition that was kept, and not its
place in the list it comes from: each definition that is left out moves those behind it up by one.
What is there after some definitions is said by `firsts` and `places`, and `enter_firsts` is the
step to one definition more. All else is read off what is there at the end (`build_eq`).
-/

namespace Troupe

open Json

namespace Palette

variable {definitions : List Definition} {d : Definition} {kind : Kind}

/-! ## The first definition of each kind -/

/-- The definitions of kinds that no definition in front of them has. -/
def firsts (definitions : List Definition) : List Definition :=
  (definitions.zipIdx.filter fun entry =>
    entry.1.kind ∉ (definitions.take entry.2).map (·.kind)).map (·.1)

/-- The definitions of kinds that a definition in front of them has. -/
def repeats (definitions : List Definition) : List Definition :=
  (definitions.zipIdx.filter fun entry =>
    entry.1.kind ∈ (definitions.take entry.2).map (·.kind)).map (·.1)

/-- What a list with one more definition selects by what stands in front of each. -/
theorem filter_zipIdx_concat (selects : Definition → List Definition → Bool)
    (definitions : List Definition) (d : Definition) :
    (definitions ++ [d]).zipIdx.filter (fun entry =>
        selects entry.1 ((definitions ++ [d]).take entry.2)) =
      definitions.zipIdx.filter (fun entry => selects entry.1 (definitions.take entry.2)) ++
        if selects d definitions then [(d, definitions.length)] else [] := by
  have front : ∀ entry ∈ definitions.zipIdx,
      selects entry.1 ((definitions ++ [d]).take entry.2) =
        selects entry.1 (definitions.take entry.2) := by
    intro entry member
    have below := List.snd_lt_of_mem_zipIdx member
    rw [List.take_append_of_le_length (by omega)]
  rw [List.zipIdx_append, List.filter_append, List.filter_congr front]
  simp [List.filter_cons]

/-- A definition that is added is a first one unless its kind is there already. -/
theorem firsts_concat (definitions : List Definition) (d : Definition) :
    firsts (definitions ++ [d]) =
      firsts definitions ++ if d.kind ∈ definitions.map (·.kind) then [] else [d] := by
  have selected := filter_zipIdx_concat
    (fun e inFront => e.kind ∉ inFront.map (·.kind)) definitions d
  rw [firsts, selected, List.map_append]
  by_cases known : d.kind ∈ definitions.map (·.kind) <;> simp [known, firsts]

/-- A definition that is added is a repeat when its kind is there already. -/
theorem repeats_concat (definitions : List Definition) (d : Definition) :
    repeats (definitions ++ [d]) =
      repeats definitions ++ if d.kind ∈ definitions.map (·.kind) then [d] else [] := by
  have selected := filter_zipIdx_concat
    (fun e inFront => e.kind ∈ inFront.map (·.kind)) definitions d
  rw [repeats, selected, List.map_append]
  by_cases known : d.kind ∈ definitions.map (·.kind) <;> simp [known, repeats]

/-- The first definitions have all kinds that are there. -/
theorem mem_kinds_firsts :
    kind ∈ (firsts definitions).map (·.kind) ↔ kind ∈ definitions.map (·.kind) := by
  induction definitions using List.reverseRecOn with
  | nil => rfl
  | append_singleton definitions d ih =>
    rw [firsts_concat, List.map_append, List.map_append, List.mem_append, List.mem_append, ih]
    by_cases known : d.kind ∈ definitions.map (·.kind)
    -- If the kind of the last one is there already, it adds no other kind.
    · rw [if_pos known, List.map_nil, List.map_singleton, List.mem_singleton]
      exact ⟨fun there => .inl (there.resolve_right List.not_mem_nil), fun there =>
        .inl (there.elim id fun same => same ▸ known)⟩
    · rw [if_neg known]

/-- No two first definitions are of one kind. -/
theorem nodup_kinds_firsts (definitions : List Definition) :
    ((firsts definitions).map (·.kind)).Nodup := by
  induction definitions using List.reverseRecOn with
  | nil => exact List.nodup_nil
  | append_singleton definitions d ih =>
    rw [firsts_concat]
    by_cases known : d.kind ∈ definitions.map (·.kind)
    · rwa [if_pos known, List.append_nil]
    · rw [if_neg known, List.map_append, List.map_singleton, ← List.concat_eq_append,
        List.nodup_concat]
      exact ⟨fun there => known (mem_kinds_firsts.1 there), ih⟩

/-- In a list without two definitions of one kind, each definition is a first one. -/
theorem firsts_eq_self (distinct : (definitions.map (·.kind)).Nodup) :
    firsts definitions = definitions ∧ repeats definitions = [] := by
  induction definitions using List.reverseRecOn with
  | nil => exact ⟨rfl, rfl⟩
  | append_singleton definitions d ih =>
    rw [List.map_append, List.map_singleton, ← List.concat_eq_append, List.nodup_concat] at distinct
    obtain ⟨fresh, distinct⟩ := distinct
    obtain ⟨kept, left⟩ := ih distinct
    rw [firsts_concat, repeats_concat, if_neg fresh, if_neg fresh, kept, left]
    exact ⟨rfl, rfl⟩

/-- Parting a list with one more definition: it is kept when its kind was not seen and is not in
front of it. -/
theorem partFirst_concat (seen : List Kind) (definitions : List Definition) (d : Definition) :
    partFirst seen (definitions ++ [d]) =
      if d.kind ∈ seen ++ definitions.map (·.kind) then
        ((partFirst seen definitions).1, (partFirst seen definitions).2 ++ [d.kind])
      else ((partFirst seen definitions).1 ++ [d], (partFirst seen definitions).2) := by
  induction definitions generalizing seen with
  | nil => by_cases known : d.kind ∈ seen <;> simp [partFirst, known]
  | cons e rest ih =>
    rw [List.cons_append, partFirst, partFirst]
    by_cases known : e.kind ∈ seen
    · have alike : d.kind ∈ seen ++ (e :: rest).map (·.kind) ↔
          d.kind ∈ seen ++ rest.map (·.kind) := by
        simp only [List.map_cons, List.mem_append, List.mem_cons]
        exact ⟨fun there => there.elim .inl fun there =>
          there.elim (fun same => .inl (same ▸ known)) .inr, Or.imp_right .inr⟩
      rw [if_pos known, if_pos known, ih]
      simp only [alike]
      split <;> rfl
    · have alike : d.kind ∈ seen ++ (e :: rest).map (·.kind) ↔
          d.kind ∈ e.kind :: seen ++ rest.map (·.kind) := by
        simp only [List.map_cons, List.mem_append, List.mem_cons]
        tauto
      rw [if_neg known, if_neg known, ih]
      simp only [alike]
      split <;> rfl

/-- The palette of a list of definitions has the first ones, and its duplicates are the kinds of the
repeats. -/
theorem partFirst_nil (definitions : List Definition) :
    partFirst [] definitions = (firsts definitions, (repeats definitions).map (·.kind)) := by
  induction definitions using List.reverseRecOn with
  | nil => rfl
  | append_singleton definitions d ih =>
    rw [partFirst_concat, ih, firsts_concat, repeats_concat, List.nil_append]
    by_cases known : d.kind ∈ definitions.map (·.kind)
    · simp [known]
    · simp [known]

/-- The first definitions have the first one of each kind. -/
theorem find?_firsts (definitions : List Definition) (kind : Kind) :
    (firsts definitions).find? (·.kind = kind) = definitions.find? (·.kind = kind) := by
  have kept : (ofList definitions).definitions = firsts definitions :=
    congrArg Prod.fst (partFirst_nil definitions)
  rw [← kept]
  exact find?_ofList definitions kind

/-! ## The groups -/

/-- The parts of a list by distinct groups, one behind the other, are the definitions of these
groups. -/
theorem flatMap_filter_perm {groups : List Category} (distinct : groups.Nodup)
    (definitions : List Definition) :
    (groups.flatMap fun category => definitions.filter (·.category = category)).Perm
      (definitions.filter (·.category ∈ groups)) := by
  induction groups with
  | nil => simp
  | cons category rest ih =>
    obtain ⟨fresh, distinct⟩ := List.nodup_cons.1 distinct
    have here : (definitions.filter (·.category ∈ category :: rest)).filter
        (·.category = category) = definitions.filter (·.category = category) := by
      rw [List.filter_filter]
      refine List.filter_congr fun d _ => ?_
      by_cases same : d.category = category <;> simp [same]
    have elsewhere : (definitions.filter (·.category ∈ category :: rest)).filter
        (fun d => !decide (d.category = category)) = definitions.filter (·.category ∈ rest) := by
      rw [List.filter_filter]
      refine List.filter_congr fun d _ => ?_
      by_cases same : d.category = category <;> simp [same, fresh]
    have parted := List.filter_append_perm (fun d => decide (d.category = category))
      (definitions.filter (·.category ∈ category :: rest))
    rw [here, elsewhere] at parted
    rw [List.flatMap_cons]
    exact ((ih distinct).append_left _).trans parted

/-- The groups of a palette together have each of its definitions once. -/
theorem flatMap_inCategory_perm (p : Palette) :
    (Category.all.flatMap p.inCategory).Perm p.definitions := by
  have every : p.definitions.filter (·.category ∈ Category.all) = p.definitions := by
    refine List.filter_eq_self.2 fun d _ => decide_eq_true ?_
    cases d.category <;> decide
  have parted := flatMap_filter_perm (by decide : Category.all.Nodup) p.definitions
  rwa [every] at parted

end Palette

namespace Palette.Indexed

variable {definitions : List Definition} {kind : Kind}

/-! ## The index -/

/-- The kinds of definitions with their places. -/
def places (definitions : List Definition) : List (Kind × Nat) :=
  definitions.zipIdx.map fun entry => (entry.1.kind, entry.2)

/-- The place of a definition that is added comes last. -/
theorem places_concat (definitions : List Definition) (d : Definition) :
    places (definitions ++ [d]) = places definitions ++ [(d.kind, definitions.length)] := by
  simp [places, List.zipIdx_append]

/-- A kind has a place when the definition at that place is of this kind. -/
theorem mem_places {place : Nat} :
    (kind, place) ∈ places definitions ↔ ∃ d, definitions[place]? = some d ∧ d.kind = kind := by
  simp only [places, List.mem_map, List.mem_zipIdx_iff_getElem?, Prod.exists, Prod.mk.injEq]
  constructor
  · rintro ⟨d, _, here, same, rfl⟩
    exact ⟨d, here, same⟩
  · rintro ⟨d, here, same⟩
    exact ⟨d, place, here, same, rfl⟩

/-- The place of a kind is that of its first definition. -/
theorem lookup_places (definitions : List Definition) (kind : Kind) :
    (places definitions).lookup kind = definitions.findIdx? (·.kind = kind) := by
  induction definitions using List.reverseRecOn with
  | nil => rfl
  | append_singleton definitions d ih =>
    rw [places_concat, List.lookup_append, List.findIdx?_append, ih]
    by_cases same : d.kind = kind
    · simp [same]
    · have other : (kind == d.kind) = false := beq_eq_false_iff_ne.2 (Ne.symm same)
      simp [same, List.lookup_cons, other]

/-- A kind has no place when no definition is of this kind. -/
theorem lookup_places_eq_none_iff :
    (places definitions).lookup kind = none ↔ kind ∉ definitions.map (·.kind) := by
  rw [lookup_places, List.findIdx?_eq_none_iff]
  simp

/-- Taking in a definition after others adds it to the first ones, with its place, or tells that its
kind is there already. -/
theorem enter_firsts (definitions : List Definition) (d : Definition) :
    enter ⟨⟨firsts definitions⟩, places (firsts definitions)⟩ d =
      { answer := ()
        state := ⟨⟨firsts (definitions ++ [d])⟩, places (firsts (definitions ++ [d]))⟩
        log :=
          if d.kind ∈ definitions.map (·.kind) then [.duplicateDefinition d.kind] else [] } := by
  have absent : (places (firsts definitions)).lookup d.kind = none ↔
      d.kind ∉ definitions.map (·.kind) := by
    rw [lookup_places_eq_none_iff, mem_kinds_firsts]
  rw [enter, firsts_concat]
  by_cases known : d.kind ∈ definitions.map (·.kind)
  · obtain ⟨place, found⟩ := Option.ne_none_iff_exists'.1 fun missing => absent.1 missing known
    rw [found, if_pos known, if_pos known, List.append_nil]
  · rw [absent.2 known, if_neg known, if_neg known, places_concat]

/-- What is built from a list of definitions: the first ones with their places, and an event for
each repeat. -/
theorem build_eq (definitions : List Definition) :
    build definitions = {
      answer := ()
      state := ⟨⟨firsts definitions⟩, places (firsts definitions)⟩
      log := (repeats definitions).map (.duplicateDefinition ·.kind) } := by
  induction definitions using List.reverseRecOn with
  | nil => rfl
  | append_singleton definitions d ih =>
    rw [build] at ih
    rw [build, List.foldl_append, ih, List.foldl_cons, List.foldl_nil, enter_firsts, repeats_concat]
    by_cases known : d.kind ∈ definitions.map (·.kind) <;> simp [Outcome.following, known]

/-- What is built is the palette of the list, with its places and an event for each duplicate. -/
theorem build_eq_ofList (definitions : List Definition) :
    build definitions = {
      answer := ()
      state := ⟨ofList definitions, places (ofList definitions).definitions⟩
      log := (duplicates definitions).map .duplicateDefinition } := by
  rw [build_eq, ofList, duplicates, partFirst_nil, List.map_map]
  rfl

/-- What a palette with an index is to the definitions that it is built from. -/
structure Holds (p : Indexed) (definitions : List Definition) : Prop where
  /-- It has the first one of each kind, in order. -/
  kept : p.palette.definitions = firsts definitions
  /-- No two that it has are of one kind. -/
  distinct : (p.palette.definitions.map (·.kind)).Nodup
  /-- Its index has the place of each, and no others. -/
  indexed : ∀ kind place, (kind, place) ∈ p.index ↔
    ∃ d, p.palette.definitions[place]? = some d ∧ d.kind = kind
  /-- It finds the first definition of a kind. -/
  found : ∀ kind, p.find? kind = definitions.find? (·.kind = kind)
  /-- It finds none of a kind just when there is none. -/
  missing : ∀ kind, p.find? kind = none ↔ ∀ d ∈ definitions, d.kind ≠ kind
  /-- Its groups together have each of its definitions once. -/
  grouped : (Category.all.flatMap p.palette.inCategory).Perm p.palette.definitions
  /-- In each group they are in the order of the palette. -/
  ordered : ∀ category, (p.palette.inCategory category).Sublist p.palette.definitions

/-- What is built from a list of definitions holds them. -/
theorem holds_build (definitions : List Definition) :
    (build definitions).state.Holds definitions := by
  have found (kind : Kind) :
      (build definitions).state.find? kind = definitions.find? (·.kind = kind) := by
    rw [build_eq, find?, lookup_places, ← List.find?_eq_bind_findIdx?_getElem?, find?_firsts]
  refine ⟨?_, ?_, ?_, found, fun kind => ?_, flatMap_inCategory_perm _, fun _ =>
    List.filter_sublist⟩
  · rw [build_eq]
  · rw [build_eq]
    exact nodup_kinds_firsts definitions
  · rw [build_eq]
    exact fun _ _ => mem_places
  · rw [found, List.find?_eq_none]
    simp

/-- Building again from what is kept changes nothing, and there is nothing to tell. -/
theorem build_firsts (definitions : List Definition) :
    build (firsts definitions) = { answer := (), state := (build definitions).state } := by
  obtain ⟨kept, left⟩ := firsts_eq_self (nodup_kinds_firsts definitions)
  rw [build_eq, build_eq, kept, left, List.map_nil]

/-- The palette of any list of definitions has the first one of each kind, and its index agrees with
it; one event tells of each definition that is left out, in order. Built again from its own
definitions, or from what is read from their document when they are plain, the palette is the same,
index included, and there is no event. -/
theorem index_agrees_with_definitions (definitions : List Definition) :
    let built := build definitions
    let kept := built.state.palette.definitions
    built.state.Holds definitions ∧
    built.log = (repeats definitions).map (.duplicateDefinition ·.kind) ∧
    build kept = { answer := (), state := built.state } ∧
    ((∀ d ∈ kept, d.IsPlain) →
      ∃ again,
        readDocument (readList Definition.read) (Tree.ofList (kept.map Definition.toTree)).toText =
          .ok again ∧
        build again = { answer := (), state := built.state }) := by
  intro built kept
  have holds := holds_build definitions
  have rebuilt : build kept = { answer := (), state := built.state } := by
    rw [← build_firsts, ← holds.kept]
  refine ⟨holds, ?_, rebuilt, fun plain => ⟨kept, ?_, rebuilt⟩⟩
  · exact congrArg Outcome.log (build_eq definitions)
  · exact Definition.readDocument_toText plain

/-- Of five definitions the second ones of two kinds are left out, so that the last one moves up to
the third place. -/
theorem index_agrees_with_definitions_spinning :
    let definitions : List Definition := [
      ⟨.unknown "spin", "Spin", .motion, [.number "times" 3 "", .text "mood" "\"" ""]⟩,
      ⟨.say, "Say", .looks, []⟩,
      ⟨.unknown "spin", "Spin more", .looks, []⟩,
      ⟨.say, "Shout", .control, [.number "sec" 1 "sec"]⟩,
      ⟨.unknown "hop", "Hop", .motion, [.number "height" (-1) ""]⟩]
    let built := build definitions
    let kept := built.state.palette.definitions
    (.unknown "hop", 2) ∈ built.state.index ∧
    built.state.find? (.unknown "hop") = definitions[4]? ∧
    built.state.find? .move = none ∧
    built.log = [.duplicateDefinition (.unknown "spin"), .duplicateDefinition .say] ∧
    ∃ again,
      readDocument (readList Definition.read) (Tree.ofList (kept.map Definition.toTree)).toText =
        .ok again ∧
      build again = { answer := (), state := built.state } := by
  intro definitions built kept
  obtain ⟨holds, log, -, reread⟩ := index_agrees_with_definitions definitions
  have few : (build definitions).state.palette.definitions =
      [definitions[0], definitions[1], definitions[4]] :=
    holds.kept.trans (by decide +kernel)
  have plain : ∀ d ∈ [definitions[0], definitions[1], definitions[4]], d.IsPlain := by
    simp only [List.forall_mem_cons]
    refine ⟨⟨?_, ?_⟩, ⟨nofun, nofun⟩, ⟨?_, ?_⟩, nofun⟩
    · rintro name ⟨rfl⟩
      decide
    · simp [definitions, Parameter.number, Parameter.text, Parameter.IsPlain, Literal.IsExact]
    · rintro name ⟨rfl⟩
      decide
    · simp [definitions, Parameter.number, Parameter.IsPlain, Literal.IsExact]
  refine ⟨(holds.indexed _ _).2 ⟨definitions[4], by rw [few]; rfl, rfl⟩, ?_, ?_, ?_, reread ?_⟩
  · rw [holds.found]
    decide +kernel
  · exact (holds.missing .move).2 (by decide +kernel)
  · rw [log]
    decide +kernel
  · rwa [few]

end Palette.Indexed

end Troupe
