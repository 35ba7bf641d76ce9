import Mathlib.Data.List.Nodup
import Troupe.Proofs.Json.Value

/-!
# Where a field is written

A field of a record is written at its index if the record is an array, and behind its name if the
record is an object (`Tree.written`). A record is read from a tree that lays it out, whatever stands
between its fields (`Shape.exists_fills`), and each field is read from the one place where it is
written (`Shape.Fills.given`): an array has no index twice, and a name that stands twice in an
object is refused.

The parts of a draft do not touch each other. That is said once for a record, in `Shape.HasParts`,
and what holds of its fields in any order follows from it.
-/

namespace Troupe.Json

/-! ## Fields -/

/-- The values behind a name among the fields of an object. -/
def behind (name : String) (fields : List (Tree × Tree)) : List Tree :=
  (fields.filter fun field => field.1.key.toOption = some name).map (·.2)

/-- The values that a tree has for the field with an index and a name. -/
def Tree.written (index : Nat) (name : String) : Tree → List Tree
  | .array items _ => items[index]?.toList
  | .object fields _ => behind name fields
  | _ => []

/-- A tree lays out a record with so many fields: it is an array that goes on no further, or an
object with texts as keys. -/
def Tree.LaysOut (size : Nat) : Tree → Prop
  | .array items none => items.length ≤ size
  | .object fields none => ∀ field ∈ fields, ∃ name, field.1 = .ofString name
  | _ => False

/-- A field is given by the values that are written for it: not at all if there are none, else by
the only one. -/
def Given {α : Type} (reads : Tree → α → Prop) (values : List Tree) : Option α → Prop
  | none => values = []
  | some a => ∃ value, values = [value] ∧ reads value a

variable {name : String} {key value : Tree} {rest : List (Tree × Tree)}

/-- An object with texts as keys lays out any record. -/
theorem Tree.laysOut_ofFields (size : Nat) (fields : List (String × Tree)) :
    (Tree.ofFields fields).LaysOut size :=
  List.forall_mem_map.2 fun field _ => ⟨field.1, rfl⟩

/-- In an object with texts as keys, the values of a field are those behind its name. -/
theorem Tree.written_ofFields (index : Nat) (name : String) (fields : List (String × Tree)) :
    (Tree.ofFields fields).written index name =
      (fields.filter fun field => field.1 = name).map (·.2) := by
  rw [Tree.ofFields, Tree.written, behind, List.filter_map, List.map_map]
  refine congrArg (List.map _) (List.filter_congr fun field _ => ?_)
  simp [Tree.key, Tree.ofString, Except.toOption]

/-- There is nothing written for a field that is given, or one value that is read. -/
theorem Given.absent_or_read {α : Type} {reads : Tree → α → Prop} {values : List Tree}
    {content : Option α} (given : Given reads values content) :
    values = [] ∨ ∃ value a, values = [value] ∧ reads value a := by
  cases content with
  | none => exact .inl given
  | some a =>
    obtain ⟨value, once, own⟩ := given
    exact .inr ⟨value, a, once, own⟩

/-- What is written for a field is given when there is no more than one value, and that is read. -/
theorem exists_given_iff {α : Type} {reads : Tree → α → Prop} {values : List Tree} :
    (∃ content, Given reads values content) ↔
      values.length ≤ 1 ∧ ∀ value ∈ values, ∃ a, reads value a := by
  constructor
  · rintro ⟨content, given⟩
    obtain rfl | ⟨value, a, rfl, own⟩ := given.absent_or_read
    · exact ⟨Nat.zero_le 1, nofun⟩
    · exact ⟨Nat.le_refl 1, List.forall_mem_singleton.2 ⟨a, own⟩⟩
  · rintro ⟨few, each⟩
    match values with
    | [] => exact ⟨none, rfl⟩
    | [value] =>
      obtain ⟨a, own⟩ := each value List.mem_cons_self
      exact ⟨some a, value, rfl, own⟩

/-- What is given for a field as one thing is given as another that follows from it. -/
theorem Given.imp {α : Type} {reads reads' : Tree → α → Prop} {values : List Tree}
    {content : Option α} (given : Given reads values content)
    (follows : ∀ value a, reads value a → reads' value a) : Given reads' values content := by
  cases content with
  | none => exact given
  | some a =>
    obtain ⟨value, once, own⟩ := given
    exact ⟨value, once, follows value a own⟩

/-- Where a field is given, one value is written for it, and what follows from reading it holds. -/
theorem Given.exists_value {α : Type} {reads : Tree → α → Prop} {holds : Tree → Prop}
    {values : List Tree} {a : α} (given : Given reads values (some a))
    (follows : ∀ value ∈ values, reads value a → holds value) :
    ∃ value, values = [value] ∧ holds value := by
  obtain ⟨value, once, own⟩ := given
  exact ⟨value, once, follows value (once ▸ List.mem_singleton_self value) own⟩

/-- A field is given where one value is written for it that is read. -/
theorem given_of_value {α : Type} {reads : Tree → α → Prop} {holds : Tree → Prop}
    {values : List Tree} {a : α} (only : ∃ value, values = [value] ∧ holds value)
    (follows : ∀ value ∈ values, holds value → reads value a) : Given reads values (some a) := by
  obtain ⟨value, once, own⟩ := only
  exact ⟨value, once, follows value (once ▸ List.mem_singleton_self value) own⟩

/-- The order of what is written for a field does not matter where it is given. -/
theorem Given.perm {α : Type} {reads : Tree → α → Prop} {values values' : List Tree}
    {content : Option α} (given : Given reads values content) (same : values.Perm values') :
    Given reads values' content := by
  cases content with
  | none =>
    rw [show values = [] from given] at same
    exact List.nil_perm.1 same
  | some a =>
    obtain ⟨value, rfl, own⟩ := given
    exact ⟨value, (List.singleton_perm.1 same).symm, own⟩

/-- A field is given in one way. -/
theorem Given.unique {α : Type} {reads : Tree → α → Prop} {values : List Tree}
    {first second : Option α}
    (one : ∀ value a b, reads value a → reads value b → a = b)
    (given : Given reads values first) (again : Given reads values second) : first = second := by
  cases first with
  | none =>
    cases second with
    | none => rfl
    | some b =>
      obtain ⟨value, same, -⟩ := again
      rw [show values = [] from given] at same
      cases same
  | some a =>
    obtain ⟨value, rfl, own⟩ := given
    cases second with
    | none => cases again
    | some b =>
      obtain ⟨other, ⟨⟩, also⟩ := again
      rw [one value a b own also]

/-- The value of a field with the name stands behind it. -/
theorem behind_cons_self :
    behind name ((.ofString name, value) :: rest) = value :: behind name rest := by
  simp [behind, Tree.key, Tree.ofString, Except.toOption]

/-- The value of a field with another name does not. -/
theorem behind_cons_of_ne {other : String} (apart : other ≠ name) :
    behind name ((.ofString other, value) :: rest) = behind name rest := by
  simp [behind, Tree.key, Tree.ofString, Except.toOption, apart]

/-- The ending of an array or an object that is closed is no flaw. -/
theorem closed_of_checkEnding {ending : Option Flaw} (checked : checkEnding ending = .ok ()) :
    ending = none := by
  cases ending with
  | none => rfl
  | some flaw => cases checked

/-- The values in an object that is passed over hold no flaws. -/
theorem pass_of_mem_fields {fields : List (Tree × Tree)} {ending : Option Flaw}
    (passed : (Tree.object fields ending).pass = .ok ()) :
    ∀ field ∈ fields, field.2.pass = .ok () := by
  rw [Tree.pass] at passed
  obtain ⟨⟨⟩, inside, -⟩ := bind_eq_ok.1 passed
  clear passed
  induction fields with
  | nil => exact nofun
  | cons field rest ih =>
    rw [Tree.passFields] at inside
    obtain ⟨⟨⟩, -, behind⟩ := bind_eq_ok.1 inside
    obtain ⟨⟨⟩, value, others⟩ := bind_eq_ok.1 behind
    exact List.forall_mem_cons.2 ⟨value, ih others⟩

/-- The items of an array that is passed over hold no flaws. -/
theorem pass_of_mem_items {items : List Tree} {ending : Option Flaw}
    (passed : (Tree.array items ending).pass = .ok ()) : ∀ item ∈ items, item.pass = .ok () := by
  rw [Tree.pass] at passed
  obtain ⟨⟨⟩, inside, -⟩ := bind_eq_ok.1 passed
  clear passed
  induction items with
  | nil => exact nofun
  | cons item rest ih =>
    rw [Tree.passItems] at inside
    obtain ⟨⟨⟩, first, others⟩ := bind_eq_ok.1 inside
    exact List.forall_mem_cons.2 ⟨first, ih others⟩

/-- What is written for a field in a tree that is passed over holds no flaws. -/
theorem pass_of_mem_written {t : Tree} {index : Nat} (passed : t.pass = .ok ()) :
    ∀ value ∈ t.written index name, value.pass = .ok () := by
  intro value member
  unfold Tree.written at member
  split at member
  · exact pass_of_mem_items passed value (List.mem_of_getElem? (Option.mem_toList.1 member))
  · obtain ⟨field, within, rfl⟩ := List.mem_map.1 member
    exact pass_of_mem_fields passed field (List.mem_of_mem_filter within)
  · cases member

/-! ## Parts of a draft -/

/-- A part of a draft of type `δ` with the field that it is read from. -/
structure Portion (δ : Type) where
  /-- What the part holds. -/
  Content : Type
  /-- The name of the field. -/
  name : String
  /-- Reads the field. -/
  reader : Reader Content
  /-- The part in a draft. -/
  get : δ → Option Content
  /-- The draft with the part put in. -/
  put : Content → δ → δ

/-- The field that a part is read from. -/
def Portion.slot {δ : Type} (part : Portion δ) : Slot δ :=
  .field part.name part.reader part.get part.put

/-- Parts with fields of different names, which do not touch each other. -/
structure Portion.Apart {δ : Type} (parts : List (Portion δ)) : Prop where
  /-- No two fields have the same name. -/
  distinct : (parts.map Portion.name).Nodup
  /-- What is put into a part is there. -/
  own : ∀ p ∈ parts, ∀ content draft, p.get (p.put content draft) = some content
  /-- What is put into one part leaves the others. -/
  others : ∀ p ∈ parts, ∀ q ∈ parts, p.name ≠ q.name →
    ∀ content draft, p.get (q.put content draft) = p.get draft

namespace Portion.Apart

variable {δ : Type} {parts : List (Portion δ)} {p q : Portion δ} {draft : δ}

/-- A part is known by the name of its field. -/
theorem eq_of_name (apart : Apart parts) (member : p ∈ parts) (other : q ∈ parts)
    (same : p.name = q.name) : p = q :=
  List.inj_on_of_nodup_map apart.distinct member other same

/-- Parts that are left when others are taken away are apart from each other. -/
theorem sublist {fewer : List (Portion δ)} (apart : Apart parts) (left : fewer.Sublist parts) :
    Apart fewer where
  distinct := apart.distinct.sublist (left.map Portion.name)
  own q member := apart.own q (left.subset member)
  others q member q' member' := apart.others q (left.subset member) q' (left.subset member')

/-- The part behind the first one has another name. -/
theorem name_ne (apart : Apart (p :: parts)) (member : q ∈ parts) : q.name ≠ p.name := by
  intro same
  have there : q.name ∈ parts.map Portion.name := List.mem_map_of_mem member
  exact (List.nodup_cons.1 apart.distinct).1 (same ▸ there)

/-- What is put into the first part leaves those behind it. -/
theorem get_put (apart : Apart (p :: parts)) (member : q ∈ parts) (content : p.Content) :
    q.get (p.put content draft) = q.get draft :=
  apart.others q (List.mem_cons_of_mem _ member) p List.mem_cons_self (apart.name_ne member) _ _

/-- The field with the name of a part is found. -/
theorem find?_slot (apart : Apart parts) (member : p ∈ parts) :
    (parts.map slot).find? (·.name = p.name) = some p.slot := by
  rw [List.find?_map, Option.map_eq_some_iff]
  refine ⟨p, ?_, rfl⟩
  cases found : parts.find? ((fun slot => decide (slot.name = p.name)) ∘ slot) with
  | none =>
    have absent := List.find?_eq_none.1 found p member
    simp [slot, Slot.field] at absent
  | some q =>
    have holds := List.find?_some found
    have named : q.name = p.name := of_decide_eq_true holds
    rw [apart.eq_of_name (List.mem_of_find?_eq_some found) member named]

/-- No field is found under a name that no part has. -/
theorem find?_eq_none (unknown : ∀ p ∈ parts, p.name ≠ name) :
    (parts.map slot).find? (·.name = name) = none := by
  rw [List.find?_eq_none]
  exact List.forall_mem_map.2 fun p member same => unknown p member (of_decide_eq_true same)

end Portion.Apart

namespace Shape

open Portion (Apart)

variable {δ α : Type} {parts : List (Portion δ)} {p : Portion δ} {room : Nat} {draft result : δ}

/-! ## Objects -/

/-- What reading a field of an object does: its key is a text. Under a name that no part has, the
value is passed over; a part that was not set is read from it. -/
theorem readField_eq_ok_iff (apart : Apart parts) :
    readField (parts.map Portion.slot) room key value draft = .ok result ↔
      ∃ name, key = .ofString name ∧
        (((∀ p ∈ parts, p.name ≠ name) ∧ value.pass = .ok () ∧ draft = result) ∨
          ∃ p ∈ parts, p.name = name ∧ p.get draft = none ∧
            ∃ content, p.reader room value = .ok content ∧ p.put content draft = result) := by
  rw [readField, bind_eq_ok]
  simp only [key_eq_ok_iff]
  refine exists_congr fun name => and_congr_right fun _ => ?_
  by_cases known : ∃ p ∈ parts, p.name = name
  · obtain ⟨p, member, rfl⟩ := known
    have unique (q : Portion δ) (other : q ∈ parts) (same : q.name = p.name) : q = p :=
      apart.eq_of_name other member same
    rw [apart.find?_slot member]
    constructor
    · intro read
      refine .inr ⟨p, member, rfl, ?_⟩
      cases there : p.get draft with
      | some content =>
        simp [Portion.slot, Slot.field, there, failMismatched, bind, Except.bind] at read
      | none =>
        simp only [Portion.slot, Slot.field, there] at read
        obtain ⟨set, content, same⟩ := bind_eq_ok.1 read
        obtain ⟨c, own, ⟨⟩⟩ := bind_eq_ok.1 content
        cases same
        exact ⟨rfl, c, own, rfl⟩
    · rintro (⟨unknown, -⟩ | ⟨q, other, same, lacking, content, own, rfl⟩)
      · exact absurd rfl (unknown p member)
      · obtain rfl := unique q other same
        simp [Portion.slot, Slot.field, lacking, own, bind, Except.bind]
  · have unknown : ∀ p ∈ parts, p.name ≠ name := fun p member same => known ⟨p, member, same⟩
    rw [Apart.find?_eq_none unknown]
    constructor
    · intro read
      obtain ⟨⟨⟩, passed, same⟩ := bind_eq_ok.1 read
      cases same
      exact .inl ⟨unknown, passed, rfl⟩
    · rintro (⟨-, passed, rfl⟩ | ⟨q, other, same, -⟩)
      · exact bind_eq_ok.2 ⟨(), passed, rfl⟩
      · exact absurd same (unknown q other)

/-- When the fields of an object are read, their keys are texts. -/
theorem keys_of_readByName {fields : List (Tree × Tree)} (apart : Apart parts)
    (read : readByName (parts.map Portion.slot) room fields draft = .ok result) :
    ∀ field ∈ fields, ∃ name, field.1 = .ofString name := by
  induction fields generalizing draft with
  | nil => exact nofun
  | cons field rest ih =>
    obtain ⟨between, first, others⟩ := bind_eq_ok.1 read
    obtain ⟨name, named, -⟩ := (readField_eq_ok_iff apart).1 first
    exact List.forall_mem_cons.2 ⟨⟨name, named⟩, ih others⟩

/-- When the fields of an object are read, a part is as it was and its name is not there, or it was
not set and is read from the only value behind its name. -/
theorem readByName_get {fields : List (Tree × Tree)} (apart : Apart parts) (member : p ∈ parts)
    (read : readByName (parts.map Portion.slot) room fields draft = .ok result) :
    (behind p.name fields = [] ∧ p.get result = p.get draft) ∨
      (p.get draft = none ∧ ∃ value content, behind p.name fields = [value] ∧
        p.reader room value = .ok content ∧ p.get result = some content) := by
  induction fields generalizing draft with
  | nil =>
    cases read
    exact .inl ⟨rfl, rfl⟩
  | cons field rest ih =>
    obtain ⟨key, value⟩ := field
    obtain ⟨between, first, others⟩ := bind_eq_ok.1 read
    obtain ⟨name, rfl, ⟨unknown, -, rfl⟩ | ⟨q, other, rfl, lacking, content, own, rfl⟩⟩ :=
      (readField_eq_ok_iff apart).1 first
    · rw [behind_cons_of_ne (unknown p member).symm]
      exact ih others
    · by_cases same : p.name = q.name
      · obtain rfl := apart.eq_of_name member other same
        rw [behind_cons_self]
        have set := apart.own p member content draft
        obtain ⟨once, kept⟩ | ⟨unset, -⟩ := ih others
        · exact .inr ⟨lacking, value, content, by rw [once], own, by rw [kept, set]⟩
        · rw [set] at unset
          cases unset
      · rw [behind_cons_of_ne (Ne.symm same),
          ← apart.others p member q other same content draft]
        exact ih others

/-- The fields of an object are read when their keys are texts, their values hold no flaw, and each
part is named at most once, in front of a value that is read, and was not set. -/
theorem exists_readByName {fields : List (Tree × Tree)} (apart : Apart parts)
    (keys : ∀ field ∈ fields, ∃ name, field.1 = .ofString name)
    (passed : ∀ field ∈ fields, field.2.pass = .ok ())
    (given : ∀ p ∈ parts, behind p.name fields = [] ∨ (p.get draft = none ∧
      ∃ value content, behind p.name fields = [value] ∧ p.reader room value = .ok content)) :
    ∃ result, readByName (parts.map Portion.slot) room fields draft = .ok result := by
  induction fields generalizing draft with
  | nil => exact ⟨draft, rfl⟩
  | cons field rest ih =>
    obtain ⟨key, value⟩ := field
    obtain ⟨⟨name, rfl⟩, texts⟩ := List.forall_mem_cons.1 keys
    obtain ⟨flawless, others⟩ := List.forall_mem_cons.1 passed
    suffices goesOn : ∃ between,
        readField (parts.map Portion.slot) room (.ofString name) value draft = .ok between ∧
        ∀ p ∈ parts, behind p.name rest = [] ∨ (p.get between = none ∧
          ∃ value content, behind p.name rest = [value] ∧ p.reader room value = .ok content) by
      obtain ⟨between, first, given⟩ := goesOn
      obtain ⟨result, later⟩ := ih texts others given
      exact ⟨result, bind_eq_ok.2 ⟨between, first, later⟩⟩
    by_cases known : ∃ p ∈ parts, p.name = name
    · obtain ⟨p, member, rfl⟩ := known
      have own := given p member
      rw [behind_cons_self] at own
      obtain nothing | ⟨lacking, found, content, once, read⟩ := own
      · cases nothing
      obtain ⟨rfl, alone⟩ := List.cons.inj once
      refine ⟨p.put content draft, (readField_eq_ok_iff apart).2
        ⟨_, rfl, .inr ⟨p, member, rfl, lacking, content, read, rfl⟩⟩, fun q other => ?_⟩
      by_cases same : q.name = p.name
      · obtain rfl := apart.eq_of_name other member same
        exact .inl alone
      · rw [apart.others q other p member same]
        have behind := given q other
        rwa [behind_cons_of_ne (Ne.symm same)] at behind
    · have unknown : ∀ p ∈ parts, p.name ≠ name := fun p member same => known ⟨p, member, same⟩
      refine ⟨draft, (readField_eq_ok_iff apart).2
        ⟨name, rfl, .inl ⟨unknown, flawless, rfl⟩⟩, fun q other => ?_⟩
      have behind := given q other
      rwa [behind_cons_of_ne (unknown q other).symm] at behind

/-! ## Arrays -/

/-- When fields are read in order, the array is closed and goes on no further than they do. -/
theorem closed_of_readInOrder {slots : List (Slot δ)} {ending : Option Flaw} {items : List Tree}
    (read : readInOrder room ending slots items draft = .ok result) :
    ending = none ∧ items.length ≤ slots.length := by
  induction slots generalizing draft items with
  | nil =>
    cases items with
    | nil =>
      obtain ⟨⟨⟩, checked, -⟩ := bind_eq_ok.1 read
      exact ⟨closed_of_checkEnding checked, Nat.le_refl _⟩
    | cons item rest => cases read
  | cons slot slots ih =>
    cases items with
    | nil =>
      obtain ⟨⟨⟩, checked, -⟩ := bind_eq_ok.1 read
      exact ⟨closed_of_checkEnding checked, Nat.zero_le _⟩
    | cons item rest =>
      obtain ⟨set, -, others⟩ := bind_eq_ok.1 read
      obtain ⟨last, fits⟩ := ih others
      exact ⟨last, Nat.succ_le_succ fits⟩

/-- When fields are read in order, a part is as it was where the array has no item for it, and else
is read from the item at its index. -/
theorem readInOrder_get {ending : Option Flaw} {items : List Tree} {index : Nat}
    (apart : Apart parts) (here : parts[index]? = some p)
    (read : readInOrder room ending (parts.map Portion.slot) items draft = .ok result) :
    (items[index]? = none ∧ p.get result = p.get draft) ∨
      ∃ value content, items[index]? = some value ∧ p.reader room value = .ok content ∧
        p.get result = some content := by
  induction parts generalizing index items draft with
  | nil => cases here
  | cons q parts ih =>
    cases items with
    | nil =>
      obtain ⟨-, -, same⟩ := bind_eq_ok.1 read
      cases same
      exact .inl ⟨rfl, rfl⟩
    | cons item rest =>
      obtain ⟨set, content, others⟩ := bind_eq_ok.1 read
      obtain ⟨c, own, ⟨⟩⟩ := bind_eq_ok.1 content
      cases index with
      | zero =>
        obtain rfl : q = p := Option.some.inj here
        -- The fields behind the first one leave it.
        have kept : q.get result = some c := by
          refine readInOrder_kept (motive := fun draft => q.get draft = some c)
            (List.forall_mem_map.2 fun other member => Slot.keeps_field ?_)
            (apart.own q List.mem_cons_self c draft) others
          intro t content read draft held
          rw [apart.others q List.mem_cons_self other (List.mem_cons_of_mem _ member)
            (apart.name_ne member).symm, held]
        exact .inr ⟨item, c, rfl, own, kept⟩
      | succ index =>
        rw [List.getElem?_cons_succ] at here ⊢
        have member : p ∈ parts := List.mem_of_getElem? here
        have later := ih (apart.sublist (List.sublist_cons_self q parts)) here others
        rwa [show p.get (q.put c draft) = p.get draft from apart.get_put member c] at later

/-- The fields of an array are read when each of its items is, and there are not too many. -/
theorem exists_readInOrder {items : List Tree} (fits : items.length ≤ parts.length)
    (each : ∀ (index : Nat) (p : Portion δ) value, parts[index]? = some p →
      items[index]? = some value → ∃ content, p.reader room value = .ok content) :
    ∃ result, readInOrder room none (parts.map Portion.slot) items draft = .ok result := by
  induction parts generalizing items draft with
  | nil =>
    cases items with
    | nil => exact ⟨draft, rfl⟩
    | cons item rest => exact absurd fits (Nat.not_succ_le_zero _)
  | cons p parts ih =>
    cases items with
    | nil => exact ⟨draft, rfl⟩
    | cons item rest =>
      obtain ⟨content, own⟩ := each 0 p item rfl rfl
      obtain ⟨result, others⟩ := @ih (p.put content draft) rest (Nat.le_of_succ_le_succ fits)
        fun index q value here there => each (index + 1) q value here there
      refine ⟨result, bind_eq_ok.2 ⟨p.put content, ?_, others⟩⟩
      exact bind_eq_ok.2 ⟨content, own, rfl⟩

/-- Fields that are read in order from an array are read as from the object in which their names
stand in front of them. -/
theorem readInOrder_eq_readByName {all : List (Portion δ)} {items : List Tree} (apart : Apart all)
    (known : parts.Sublist all) (fits : items.length ≤ parts.length)
    (lacking : ∀ p ∈ parts, p.get draft = none) :
    readInOrder room none (parts.map Portion.slot) items draft =
      readByName (all.map Portion.slot) room
        ((parts.map fun part => Tree.ofString part.name).zip items) draft := by
  induction parts generalizing items draft with
  | nil =>
    cases items with
    | nil => rfl
    | cons item rest => exact absurd fits (Nat.not_succ_le_zero _)
  | cons p parts ih =>
    cases items with
    | nil => rfl
    | cons item rest =>
      have member : p ∈ all := known.subset List.mem_cons_self
      have unset : p.slot.isSet draft = false := by
        simp [Portion.slot, Slot.field, lacking p List.mem_cons_self]
      have own := apart.sublist known
      rw [List.map_cons, List.map_cons, List.zip_cons_cons,
        readByName_cons (apart.find?_slot member) unset, readInOrder]
      cases read : p.reader room item with
      | error refusal => simp [Portion.slot, Slot.field, read, bind, Except.bind]
      | ok content =>
        simp only [Portion.slot, Slot.field, read, bind, Except.bind]
        refine ih (List.Sublist.trans (List.sublist_cons_self p parts) known)
          (Nat.le_of_succ_le_succ fits) fun q other => ?_
        rw [own.get_put other, lacking q (List.mem_cons_of_mem _ other)]

/-! ## Records -/

/-- The parts of the drafts of a record, one for each of its fields. -/
structure HasParts (shape : Shape δ α) (parts : List (Portion δ)) : Prop where
  /-- The fields are those of the parts. -/
  slots : shape.slots = parts.map Portion.slot
  /-- The parts do not touch each other. -/
  apart : Apart parts
  /-- No part of the blank draft is set. -/
  blank : ∀ p ∈ parts, p.get shape.blank = none
  /-- A draft has no other parts. -/
  ext : ∀ draft other, (∀ p ∈ parts, p.get draft = p.get other) → draft = other

/-- A tree fills a draft, where so many more arrays and objects may be opened inside it. -/
def Fills (shape : Shape δ α) (room : Nat) (draft : δ) : Tree → Prop
  | .array items ending => readInOrder room ending shape.slots items shape.blank = .ok draft
  | .object fields ending =>
    readByName shape.slots room fields shape.blank = .ok draft ∧ ending = none
  | _ => False

variable {shape : Shape δ α} {t : Tree} {a : α}

/-- A record that is read is the record of a draft that its tree fills. -/
theorem exists_fills_of_read (read : shape.read room t = .ok a) :
    ∃ inside lack draft, room = inside + 1 ∧ shape.Fills inside draft t ∧
      shape.finish lack draft = .ok a := by
  unfold Shape.read at read
  split at read
  · cases read
  · cases read
  · obtain ⟨draft, fields, finished⟩ := bind_eq_ok.1 read
    exact ⟨_, _, draft, rfl, fields, finished⟩
  · obtain ⟨draft, fields, closed⟩ := bind_eq_ok.1 read
    obtain ⟨⟨⟩, checked, finished⟩ := bind_eq_ok.1 closed
    exact ⟨_, _, draft, rfl, ⟨fields, closed_of_checkEnding checked⟩, finished⟩
  · exact absurd read (refuse_ne_ok _ _ _)

/-- From a tree that fills a draft, the record of the draft is read. -/
theorem Fills.read_eq (fills : shape.Fills room draft t) :
    ∃ lack, shape.read (room + 1) t = shape.finish lack draft := by
  unfold Fills at fills
  split at fills
  · rw [Shape.read, fills]
    exact ⟨_, rfl⟩
  · obtain ⟨fields, rfl⟩ := fills
    rw [Shape.read, fields]
    exact ⟨_, rfl⟩
  · cases fills

/-- A tree that fills a draft lays out the record. -/
theorem Fills.laysOut (parted : shape.HasParts parts) (fills : shape.Fills room draft t) :
    t.LaysOut parts.length := by
  unfold Fills at fills
  rw [parted.slots] at fills
  split at fills
  · obtain ⟨rfl, fits⟩ := closed_of_readInOrder fills
    rwa [List.length_map] at fits
  · obtain ⟨fields, rfl⟩ := fills
    exact keys_of_readByName parted.apart fields
  · cases fills

/-- Each part of a draft that a tree fills is read from what is written for it. -/
theorem Fills.given (parted : shape.HasParts parts) (fills : shape.Fills room draft t) (index : Nat)
    (here : parts[index]? = some p) :
    Given (fun value content => p.reader room value = .ok content) (t.written index p.name)
      (p.get draft) := by
  have member : p ∈ parts := List.mem_of_getElem? here
  unfold Fills at fills
  rw [parted.slots] at fills
  split at fills
  · rename_i items ending
    obtain ⟨absent, unset⟩ | ⟨value, content, there, own, set⟩ :=
      readInOrder_get parted.apart here fills
    · rw [unset, parted.blank p member, Tree.written, absent]
      exact rfl
    · rw [set, Tree.written, there]
      exact ⟨value, rfl, own⟩
  · obtain ⟨fields, -⟩ := fills
    obtain ⟨absent, unset⟩ | ⟨-, value, content, once, own, set⟩ :=
      readByName_get parted.apart member fields
    · rw [unset, parted.blank p member, Tree.written, absent]
      exact rfl
    · rw [set]
      exact ⟨value, once, own⟩
  · cases fills

/-- A tree without flaws that lays out a record fills the draft that is given by what is written for
each part. -/
theorem fills_of_given (parted : shape.HasParts parts) (passed : t.pass = .ok ())
    (layout : t.LaysOut parts.length)
    (given : ∀ {index : Nat} {p : Portion δ}, parts[index]? = some p →
      Given (fun value content => p.reader room value = .ok content) (t.written index p.name)
        (p.get draft)) :
    shape.Fills room draft t := by
  suffices filled : ∃ found, shape.Fills room found t by
    obtain ⟨found, fills⟩ := filled
    rwa [← parted.ext found draft fun p member => ?_]
    obtain ⟨index, here⟩ := List.mem_iff_getElem?.1 member
    refine Given.unique (fun value a b own also => ?_) (fills.given parted index here) (given here)
    exact Except.ok.inj (own.symm.trans also)
  unfold Tree.LaysOut at layout
  split at layout
  · rename_i items
    unfold Fills
    rw [parted.slots]
    refine exists_readInOrder layout fun index p value here there => ?_
    obtain absent | ⟨found, content, once, own⟩ := (given here).absent_or_read
    · rw [Tree.written, there] at absent
      cases absent
    · rw [Tree.written, there] at once
      cases once
      exact ⟨content, own⟩
  · rename_i fields
    have read : ∃ found,
        readByName (parts.map Portion.slot) room fields shape.blank = .ok found := by
      refine exists_readByName parted.apart layout (pass_of_mem_fields passed) fun p member => ?_
      obtain ⟨index, here⟩ := List.mem_iff_getElem?.1 member
      exact (given here).absent_or_read.imp_right fun ⟨value, content, once, own⟩ =>
        ⟨parted.blank p member, value, content, once, own⟩
    obtain ⟨found, read⟩ := read
    exact ⟨found, by rw [parted.slots]; exact read, rfl⟩
  · cases layout

end Shape

end Troupe.Json
