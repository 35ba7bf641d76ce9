import Troupe.Proofs.Json.Grammar

/-!
# A written tree is read back

The text of a tree without flaws spells the tree, so the tree is taken apart from its text again.
The proof follows the tree.
-/

namespace Troupe.Json

namespace Tree

/-- The fields of an object with their names as keys. -/
def keyFields (fields : List (String × Tree)) : List (Tree × Tree) :=
  fields.map fun (name, value) => (.ofString name, value)

/-- An object without flaws holds its fields and is closed. -/
theorem ofFields_eq (fields : List (String × Tree)) :
    ofFields fields = .object (keyFields fields) none := rfl

/-- A tree that the text of a document can have: it holds no flaw, and its numbers are written as
documents have them. -/
inductive IsFlawless : Tree → Prop where
  /-- The value `null`. -/
  | null : IsFlawless .null
  /-- A truth value. -/
  | bool (b : Bool) : IsFlawless (.bool b)
  /-- A number. -/
  | number {n : Numeral} (strict : n.IsStrict) : IsFlawless (.number n)
  /-- A text. -/
  | text (s : String) : IsFlawless (.ofString s)
  /-- An array. -/
  | array {items : List Tree} (flawless : ∀ item ∈ items, IsFlawless item) :
    IsFlawless (.ofList items)
  /-- An object. -/
  | object {fields : List (String × Tree)} (flawless : ∀ field ∈ fields, IsFlawless field.2) :
    IsFlawless (.ofFields fields)

/-- A tree as it is written. -/
def spelling (t : Tree) : Spelling := ⟨t.toChars, t⟩

/-- Items are written with commas between them. -/
theorem itemChars_eq (items : List Tree) :
    itemChars items = commas (items.map (·.spelling.chars)) := by
  induction items with
  | nil => rfl
  | cons item others ih =>
    cases others with
    | nil => simp [itemChars, commas, spelling]
    | cons next others =>
      rw [itemChars, ih, List.map_cons, List.map_cons, List.map_cons, commas_cons_cons]
      rfl

/-- Fields are written with commas between them. -/
theorem fieldChars_eq (fields : List (Tree × Tree)) :
    fieldChars fields =
      commas (fields.map fun field => fieldSpelling (field.1.spelling, field.2.spelling)) := by
  induction fields with
  | nil => rfl
  | cons field others ih =>
    cases others with
    | nil => simp [fieldChars, commas, fieldSpelling, spelling]
    | cons next others =>
      rw [fieldChars, ih, List.map_cons, List.map_cons, List.map_cons, commas_cons_cons]
      simp [fieldSpelling, spelling]

/-- A text is spelled as it is written. -/
theorem spells_ofString (s : String) : Spells (ofString s).toChars (ofString s) := by
  have written := Spells.text (Quoted.spells_flatMap_encodeChar s.toList)
  rw [Quoted.join_map_pieceOf, Option.map_some, String.ofList_toList] at written
  rw [ofString, toChars, Quoted.encode]
  exact written

/-- An array is spelled as it is written when its items are. -/
theorem spells_ofList {items : List Tree} (each : ∀ item ∈ items, Spells item.toChars item) :
    Spells (ofList items).toChars (ofList items) := by
  have blank : IsBlank [] := nofun
  have spelled : ∀ item ∈ items.map spelling, Spells item.chars item.tree :=
    List.forall_mem_map.2 each
  have written := Spells.array blank spelled
  have unchanged : (fun part : Spelling => part.tree) ∘ spelling = id := rfl
  rw [List.map_map, List.map_map, unchanged, List.map_id] at written
  rw [ofList, toChars, itemChars_eq]
  exact written

/-- An object is spelled as it is written when its values are. -/
theorem spells_ofFields {fields : List (String × Tree)}
    (each : ∀ field ∈ fields, Spells field.2.toChars field.2) :
    Spells (ofFields fields).toChars (ofFields fields) := by
  let spelled := fields.map fun field => ((ofString field.1).spelling, field.2.spelling)
  have blank : IsBlank [] := nofun
  have named : ∀ field ∈ spelled, ∃ name, field.1.tree = .text name :=
    List.forall_mem_map.2 fun field _ => ⟨some field.1, rfl⟩
  have written := Spells.object blank named
    (List.forall_mem_map.2 fun field _ => spells_ofString field.1)
    (List.forall_mem_map.2 each)
  rw [List.map_map, List.map_map] at written
  rw [ofFields, toChars, fieldChars_eq, List.map_map]
  exact written

/-- A tree without flaws is spelled as it is written. -/
theorem IsFlawless.spells_toChars {t : Tree} (flawless : t.IsFlawless) : Spells t.toChars t := by
  induction flawless with
  | null => exact .null
  | bool b => cases b with
    | true => exact .bool true
    | false => exact .bool false
  | number strict => exact .number strict.spells_toChars
  | text s => exact spells_ofString s
  | array flawless each => exact spells_ofList each
  | object flawless each => exact spells_ofFields each

end Tree

/-- The text of a tree without flaws is taken apart into the tree, and nothing is left of it. -/
theorem parse_toChars {t : Tree} (flawless : t.IsFlawless) : parse t.toChars = ⟨t, false⟩ :=
  parse_eq_iff.2 flawless.spells_toChars

/-- What is read from the text of a tree without flaws is what is read from the tree. -/
theorem readDocument_toText {α : Type} (reader : Reader α) {t : Tree} (flawless : t.IsFlawless) :
    readDocument reader t.toText = reader maxRoom t := by
  rw [readDocument, Tree.toText, String.toList_ofList, parse_toChars flawless]
  cases reader maxRoom t <;> rfl

end Troupe.Json
