import Troupe.Json.Record
import Troupe.Proofs.Json.Numeral

/-!
# What is read from lists and records

A list is read when each of its items is. A record is read field by field into a draft: what holds
of the draft without fields and is kept by each field holds of the draft that becomes the record.
-/

namespace Troupe.Json

/-- What an outcome holds, if it holds anything, is what is read. -/
theorem eq_ok_of_toOption {α : Type} {outcome : Except Refusal α} {a : α}
    (found : outcome.toOption = some a) : outcome = .ok a := by
  cases outcome with
  | error refusal => cases found
  | ok b => exact congrArg Except.ok (Option.some.inj found)

/-- What is read from a text is read from a tree with all the room there is. -/
theorem exists_tree_of_readDocument {α : Type} {reader : Reader α} {text : String} {a : α}
    (read : readDocument reader text = .ok a) : ∃ t, reader maxRoom t = .ok a := by
  obtain ⟨found, tree, rest⟩ := bind_eq_ok.1 read
  split at rest
  · cases rest
  · cases rest
    exact ⟨_, tree⟩

/-- No tree is refused with a value. -/
theorem refuse_ne_ok {α : Type} (t : Tree) (expected : Expected) (a : α) :
    t.refuse expected ≠ .ok a := by
  intro same
  obtain ⟨found, -, mismatched⟩ := bind_eq_ok.1 same
  cases mismatched

/-- A list without flaws is read as its items are, where an array may still be opened. -/
theorem readList_ofList {α : Type} (item : Reader α) (room : Nat) (items : List Tree) :
    readList item (room + 1) (.ofList items) = readItems (item room) items := by
  rw [Tree.ofList, readList]
  cases readItems (item room) items <;> rfl

/-- Where each item is either read or refused for the same reason, a list is read when all its items
are, and else refused for that reason. -/
theorem readItems_map {α : Type} {item : Tree → Except Refusal α} {tree : α → Tree}
    {readable : α → Prop} [DecidablePred readable] {refusal : Refusal} {as : List α}
    (each : ∀ a ∈ as, item (tree a) = if readable a then .ok a else .error refusal) :
    readItems item (as.map tree) =
      if ∀ a ∈ as, readable a then .ok as else .error refusal := by
  induction as with
  | nil => simp [readItems]
  | cons a rest ih =>
    have first := each a List.mem_cons_self
    have others := ih fun a member => each a (List.mem_cons_of_mem _ member)
    rw [List.map_cons, readItems, first, others]
    by_cases own : readable a
    · by_cases all : ∀ a ∈ rest, readable a
      · rw [if_pos own, if_pos all, if_pos (List.forall_mem_cons.2 ⟨own, all⟩)]
        rfl
      · rw [if_pos own, if_neg all, if_neg fun whole => all (List.forall_mem_cons.1 whole).2]
        rfl
    · rw [if_neg own, if_neg fun whole => own (List.forall_mem_cons.1 whole).1]
      rfl

/-- A list is read back, where an array may still be opened, when each of its items is. -/
theorem readList_map {α : Type} {item : Reader α} {tree : α → Tree} {room : Nat} {as : List α}
    (each : ∀ a ∈ as, item room (tree a) = .ok a) :
    readList item (room + 1) (.ofList (as.map tree)) = .ok as := by
  have readable : ∀ a ∈ as, item room (tree a) =
      if True then .ok a else .error (.flawed .malformed) := by
    intro a member
    rw [if_pos trivial, each a member]
  rw [readList_ofList, readItems_map readable, if_pos fun _ _ => trivial]

/-- Each item of a list that is read is read from a tree. -/
theorem exists_item_of_readItems {α : Type} {item : Tree → Except Refusal α} {items : List Tree}
    {as : List α} (read : readItems item items = .ok as) : ∀ a ∈ as, ∃ t, item t = .ok a := by
  induction items generalizing as with
  | nil =>
    cases read
    exact nofun
  | cons t rest ih =>
    obtain ⟨first, own, tail⟩ := bind_eq_ok.1 read
    obtain ⟨others, readable, same⟩ := bind_eq_ok.1 tail
    cases same
    exact List.forall_mem_cons.2 ⟨⟨t, own⟩, ih readable⟩

/-- A list that is read opens an array, and each of its items is read where there is room for one
opening less. -/
theorem exists_item_of_readList {α : Type} {item : Reader α} {room : Nat} {t : Tree} {as : List α}
    (read : readList item room t = .ok as) :
    ∃ inside, room = inside + 1 ∧ ∀ a ∈ as, ∃ t, item inside t = .ok a := by
  unfold readList at read
  split at read
  · cases read
  · obtain ⟨found, readable, closed⟩ := bind_eq_ok.1 read
    obtain ⟨-, -, same⟩ := bind_eq_ok.1 closed
    cases same
    exact ⟨_, rfl, exists_item_of_readItems readable⟩
  · exact absurd read (refuse_ne_ok _ _ _)

/-- A field without default that is there has its content. -/
theorem eq_some_of_require {α : Type} {lack : Nat → String → Refusal} {index : Nat} {name : String}
    {content : Option α} {a : α} (given : require lack index name content = .ok a) :
    content = some a := by
  cases content with
  | none => cases given
  | some found => cases given; rfl

/-- What holds of a draft holds of it with the field that is read, where there is so much room. -/
def Slot.Keeps {δ : Type} (slot : Slot δ) (room : Nat) (motive : δ → Prop) : Prop :=
  ∀ t set, slot.set room t = .ok set → ∀ draft, motive draft → motive (set draft)

/-- A field keeps what putting in any content that is read keeps. -/
theorem Slot.keeps_field {δ β : Type} {name : String} {reader : Reader β} {get : δ → Option β}
    {put : β → δ → δ} {room : Nat} {motive : δ → Prop}
    (kept : ∀ t b, reader room t = .ok b → ∀ draft, motive draft → motive (put b draft)) :
    (Slot.field name reader get put).Keeps room motive := by
  intro t set read
  obtain ⟨b, own, same⟩ := bind_eq_ok.1 read
  cases same
  exact kept t b own

namespace Shape

variable {δ α : Type} {slots : List (Slot δ)} {slot : Slot δ} {room : Nat} {draft : δ}

/-- A field that the draft lacks is read before those that follow it. -/
theorem readByName_cons {name : String} {value : Tree} {rest : List (Tree × Tree)}
    (found : slots.find? (·.name = name) = some slot) (unset : slot.isSet draft = false) :
    readByName slots room ((.ofString name, value) :: rest) draft = (do
      let set ← slot.set room value
      readByName slots room rest (set draft)) := by
  simp only [readByName, readField, Tree.key, Tree.ofString, found, unset, bind, Except.bind]
  cases slot.set room value <;> rfl

/-- A field that the draft lacks, and that is read, is put into it before those that follow. -/
theorem readByName_cons_of_read {β : Type} {name : String} {reader : Reader β}
    {get : δ → Option β} {put : β → δ → δ} {value : Tree} {content : β} {rest : List (Tree × Tree)}
    (found : slots.find? (·.name = name) = some (.field name reader get put))
    (lacking : get draft = none) (own : reader room value = .ok content) :
    readByName slots room ((.ofString name, value) :: rest) draft =
      readByName slots room rest (put content draft) := by
  have unset : (Slot.field name reader get put).isSet draft = false :=
    congrArg Option.isSome lacking
  rw [readByName_cons found unset]
  simp only [Slot.field, own, bind, Except.bind]

/-- What holds of a draft and is kept by each field holds when a field of an object is read. -/
theorem readField_kept {motive : δ → Prop} {key value : Tree} {after : δ}
    (kept : ∀ slot ∈ slots, slot.Keeps room motive)
    (before : motive draft) (read : readField slots room key value draft = .ok after) :
    motive after := by
  obtain ⟨name, -, read⟩ := bind_eq_ok.1 read
  split at read
  · obtain ⟨-, -, same⟩ := bind_eq_ok.1 read
    cases same
    exact before
  · rename_i slot found
    split at read
    · cases read
    · obtain ⟨set, own, same⟩ := bind_eq_ok.1 read
      cases same
      exact kept slot (List.mem_of_find?_eq_some found) _ _ own _ before

/-- What is kept by each field holds when the fields of an object are read. -/
theorem readByName_kept {motive : δ → Prop} {fields : List (Tree × Tree)} {after : δ}
    (kept : ∀ slot ∈ slots, slot.Keeps room motive)
    (before : motive draft) (read : readByName slots room fields draft = .ok after) :
    motive after := by
  induction fields generalizing draft with
  | nil =>
    cases read
    exact before
  | cons field rest ih =>
    obtain ⟨between, first, others⟩ := bind_eq_ok.1 read
    exact ih (readField_kept kept before first) others

/-- What is kept by each field holds when fields are read in order. -/
theorem readInOrder_kept {motive : δ → Prop} {ending : Option Flaw} {items : List Tree} {after : δ}
    (kept : ∀ slot ∈ slots, slot.Keeps room motive)
    (before : motive draft) (read : readInOrder room ending slots items draft = .ok after) :
    motive after := by
  induction slots generalizing draft items with
  | nil =>
    cases items with
    | nil =>
      obtain ⟨-, -, same⟩ := bind_eq_ok.1 read
      cases same
      exact before
    | cons item rest => cases read
  | cons slot slots ih =>
    cases items with
    | nil =>
      obtain ⟨-, -, same⟩ := bind_eq_ok.1 read
      cases same
      exact before
    | cons item rest =>
      obtain ⟨set, own, others⟩ := bind_eq_ok.1 read
      exact ih (fun slot member => kept slot (List.mem_cons_of_mem _ member))
        (kept slot List.mem_cons_self _ _ own _ before) others

/-- A record that is read opens an object or an array and is the record of a draft, which has what
the blank draft has and each field keeps where there is room for one opening less. -/
theorem exists_draft_of_read {shape : Shape δ α} {t : Tree} {a : α}
    (read : shape.read room t = .ok a) :
    ∃ inside, room = inside + 1 ∧ ∀ motive : δ → Prop, motive shape.blank →
      (∀ slot ∈ shape.slots, slot.Keeps inside motive) →
        ∃ lack draft, motive draft ∧ shape.finish lack draft = .ok a := by
  unfold Shape.read at read
  split at read
  · cases read
  · cases read
  · obtain ⟨draft, fields, finished⟩ := bind_eq_ok.1 read
    exact ⟨_, rfl, fun motive blank kept =>
      ⟨_, draft, readInOrder_kept kept blank fields, finished⟩⟩
  · obtain ⟨draft, fields, closed⟩ := bind_eq_ok.1 read
    obtain ⟨-, -, finished⟩ := bind_eq_ok.1 closed
    exact ⟨_, rfl, fun motive blank kept =>
      ⟨_, draft, readByName_kept kept blank fields, finished⟩⟩
  · exact absurd read (refuse_ne_ok _ _ _)

end Shape

end Troupe.Json
