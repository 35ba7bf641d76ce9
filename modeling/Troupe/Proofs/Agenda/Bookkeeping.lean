import Mathlib.Algebra.Order.Group.Multiset
import Mathlib.Tactic.Abel
import Troupe.Proofs.Agenda

/-!
# Bookkeeping of agendas

Whoever holds agendas may begin and complete blocks of them and have them exchange what remains, in
an order that no stream would choose: a block may be begun twice, completed without being begun, or
completed beyond the last one, and agendas may exchange blocks while one of them is exhausted or
performs a block. Whatever the order of these calls, every agenda stays sound, the blocks of all of
them together stay the same, and an exchange that is done twice is undone
(`Agenda.bookkeeping_of_calls`).
-/

namespace Troupe

/-! ## Replacing elements of a list -/

section Replacing

variable {α β : Type} {l : List α} {i j : Nat} {a b c d : α} {more : List β}

/-- The parts of a list's elements, counted with multiplicity, when one element is replaced. -/
theorem coe_flatMap_set (f : α → List β) (c : α) (here : l[i]? = some a) :
    (((l.set i c).flatMap f : List β) : Multiset β) + f a = (l.flatMap f : List β) + f c := by
  induction l generalizing i with
  | nil => simp at here
  | cons first rest ih =>
    cases i with
    | zero =>
      obtain rfl : first = a := by simpa using here
      simp only [List.set_cons_zero, List.flatMap_cons, ← Multiset.coe_add]
      abel
    | succ i =>
      have inner := ih (by simpa using here)
      simp only [List.set_cons_succ, List.flatMap_cons, ← Multiset.coe_add, add_assoc, inner]

/-- Replacing an element by one that has more parts adds these. -/
theorem perm_flatMap_set (f : α → List β) (here : l[i]? = some a)
    (gain : (f c).Perm (f a ++ more)) :
    ((l.set i c).flatMap f).Perm (l.flatMap f ++ more) := by
  have parts := coe_flatMap_set f c here
  rw [Multiset.coe_eq_coe.2 gain, ← Multiset.coe_add] at parts
  rw [← Multiset.coe_eq_coe, ← Multiset.coe_add]
  refine add_right_cancel (b := (f a : Multiset β)) (parts.trans ?_)
  abel

/-- Replacing two elements by ones that together have more parts adds these. -/
theorem perm_flatMap_set_set (f : α → List β) (here : l[i]? = some a) (there : l[j]? = some b)
    (apart : j ≠ i) (gain : (f c ++ f d).Perm (f a ++ f b ++ more)) :
    (((l.set i c).set j d).flatMap f).Perm (l.flatMap f ++ more) := by
  have second : (l.set i c)[j]? = some b := by rw [List.getElem?_set_ne apart.symm, there]
  have inner := coe_flatMap_set f c here
  have outer := coe_flatMap_set f d second
  have total := Multiset.coe_eq_coe.2 gain
  simp only [← Multiset.coe_add] at total
  rw [← Multiset.coe_eq_coe, ← Multiset.coe_add]
  refine add_right_cancel (b := (f a + f b : Multiset β)) ?_
  calc
    _ = (((l.set i c).set j d).flatMap f : Multiset β) + f b + f a := by abel
    _ = ((l.set i c).flatMap f : Multiset β) + f a + f d := by rw [outer]; abel
    _ = (l.flatMap f : Multiset β) + (f c + f d) := by rw [inner]; abel
    _ = _ := by rw [total]; abel

end Replacing

namespace Agenda

variable {a b : Agenda} {agendas : List Agenda} {i j : Nat}

/-! ## Exchanges between two agendas -/

/-- Two agendas that exchange what remains have the same blocks together as before. -/
theorem perm_blocks_takeRemaining (a b : Agenda) :
    ((a.takeRemaining b).blocks ++ (b.takeRemaining a).blocks).Perm (a.blocks ++ b.blocks) := by
  have own : a.blocks = a.kept ++ a.remaining := kept_append_remaining.symm
  have other : b.blocks = b.kept ++ b.remaining := kept_append_remaining.symm
  rw [own, other, ← Multiset.coe_eq_coe]
  simp only [takeRemaining, ← Multiset.coe_add]
  abel

/-- What an exchange does not take away stays in place. -/
theorem Sound.kept_takeRemaining (sound : a.Sound) : (a.takeRemaining b).kept = a.kept := by
  have same : (a.takeRemaining b).splitPoint = a.splitPoint := by
    rw [sound.splitPoint_eq, sound.takeRemaining.splitPoint_eq]
    rfl
  rw [kept, same]
  exact kept_takeRemaining_take _ (Nat.le_refl _)

/-- An agenda that exchanges what remains twice with the same other one has its blocks back. -/
theorem Sound.blocks_takeRemaining_twice (sound : a.Sound) (other : b.Sound) :
    ((a.takeRemaining b).takeRemaining (b.takeRemaining a)).blocks = a.blocks := by
  calc
    _ = (a.takeRemaining b).kept ++ (b.takeRemaining a).remaining := rfl
    _ = a.kept ++ a.remaining := by
      rw [sound.kept_takeRemaining, other.remaining_takeRemaining]
    _ = a.blocks := kept_append_remaining

/-- What an exchange between two places leaves at any place. -/
theorem getElem?_exchangeAt (here : agendas[i]? = some a) (there : agendas[j]? = some b) (k : Nat) :
    (exchangeAt agendas i j)[k]? =
      if k = j then some (b.takeRemaining a)
      else if k = i then some (a.takeRemaining b) else agendas[k]? := by
  have within := (List.getElem?_eq_some_iff.1 here).1
  have withinToo := (List.getElem?_eq_some_iff.1 there).1
  simp only [exchangeAt, here, there]
  by_cases second : k = j
  · subst second
    rw [if_pos rfl, List.getElem?_set_self (by rwa [List.length_set])]
  · rw [if_neg second, List.getElem?_set_ne (Ne.symm second)]
    by_cases first : k = i
    · subst first
      rw [if_pos rfl, List.getElem?_set_self within]
    · rw [if_neg first, List.getElem?_set_ne (Ne.symm first)]

/-- Without an agenda at one of the places, nothing is exchanged. -/
theorem exchangeAt_of_missing (missing : agendas[i]? = none ∨ agendas[j]? = none) :
    exchangeAt agendas i j = agendas := by
  simp only [exchangeAt]
  split
  · rename_i here there
    simp [here, there] at missing
  · rfl

/-- An exchange between two places neither adds blocks nor takes any away. -/
theorem perm_blocks_exchangeAt (agendas : List Agenda) (i j : Nat) :
    ((exchangeAt agendas i j).flatMap (·.blocks)).Perm (agendas.flatMap (·.blocks)) := by
  simp only [exchangeAt]
  split
  · rename_i a b here there
    by_cases same : j = i
    · subst same
      obtain rfl : a = b := Option.some.inj (here.symm.trans there)
      have gain : (a.takeRemaining a).blocks.Perm (a.blocks ++ []) := by
        rw [List.append_nil]
        exact .of_eq kept_append_remaining
      rw [List.set_set, ← List.append_nil (agendas.flatMap _)]
      exact perm_flatMap_set (·.blocks) here gain
    · have gain : ((a.takeRemaining b).blocks ++ (b.takeRemaining a).blocks).Perm
          (a.blocks ++ b.blocks ++ []) := by
        rw [List.append_nil]
        exact perm_blocks_takeRemaining a b
      rw [← List.append_nil (agendas.flatMap _)]
      exact perm_flatMap_set_set (·.blocks) here there same gain
  · exact .refl _

/-- Agendas that exchange what remains twice, at the same two places, have their blocks back. -/
theorem map_blocks_exchangeAt_twice (sound : ∀ a ∈ agendas, a.Sound) (i j : Nat) :
    (exchangeAt (exchangeAt agendas i j) i j).map (·.blocks) = agendas.map (·.blocks) := by
  cases here : agendas[i]? with
  | none => rw [exchangeAt_of_missing (.inl here), exchangeAt_of_missing (.inl here)]
  | some a =>
    cases there : agendas[j]? with
    | none => rw [exchangeAt_of_missing (.inr there), exchangeAt_of_missing (.inr there)]
    | some b =>
      have soundHere := sound a (List.mem_of_getElem? here)
      have soundThere := sound b (List.mem_of_getElem? there)
      have once := getElem?_exchangeAt here there
      -- What is at the two places after the first exchange. They may be one place.
      have first : (exchangeAt agendas i j)[i]? = some (a.takeRemaining b) := by
        rw [once]
        split
        · rename_i same
          subst same
          obtain rfl : a = b := Option.some.inj (here.symm.trans there)
          rfl
        · exact if_pos rfl
      have second : (exchangeAt agendas i j)[j]? = some (b.takeRemaining a) := by
        rw [once, if_pos rfl]
      refine List.ext_getElem? fun k => ?_
      rw [List.getElem?_map, List.getElem?_map, getElem?_exchangeAt first second]
      split
      · rename_i own
        rw [own, there, Option.map_some, Option.map_some,
          soundThere.blocks_takeRemaining_twice soundHere]
      · rename_i notSecond
        split
        · rename_i own
          rw [own, here, Option.map_some, Option.map_some,
            soundHere.blocks_takeRemaining_twice soundThere]
        · rename_i notFirst
          rw [once, if_neg notSecond, if_neg notFirst]

/-! ## Calls in any order -/

/-- What may be done with agendas. -/
inductive Call where
  /-- The block at the position of an agenda is begun. -/
  | begins (place : Nat)
  /-- The block at the position of an agenda is completed. -/
  | advances (place : Nat)
  /-- Two agendas exchange what remains. -/
  | exchanges (first second : Nat)

/-- Agendas after a call. Without an agenda at a place that is called for, nothing is done. -/
def call (agendas : List Agenda) : Call → List Agenda
  | .begins i => agendas.modify i begin
  | .advances i => agendas.modify i advance
  | .exchanges i j => exchangeAt agendas i j

/-- Agendas after a number of calls. -/
def callAll (agendas : List Agenda) (calls : List Call) : List Agenda := calls.foldl call agendas

/-- Replacing an agenda by one with the same blocks neither adds blocks nor takes any away. -/
theorem map_blocks_modify {f : Agenda → Agenda} (same : ∀ a, (f a).blocks = a.blocks)
    (agendas : List Agenda) (i : Nat) :
    (agendas.modify i f).map (·.blocks) = agendas.map (·.blocks) := by
  refine List.ext_getElem? fun k => ?_
  rw [List.getElem?_map, List.getElem?_map, List.getElem?_modify]
  cases agendas[k]? with
  | none => rfl
  | some a =>
    by_cases own : i = k <;> simp [own, same]

/-- A call neither adds blocks nor takes any away. -/
theorem perm_blocks_call (agendas : List Agenda) (c : Call) :
    ((call agendas c).flatMap (·.blocks)).Perm (agendas.flatMap (·.blocks)) := by
  cases c with
  | begins i =>
    refine .of_eq ?_
    rw [List.flatMap_def, List.flatMap_def, call, map_blocks_modify fun _ => blocks_begin]
  | advances i =>
    refine .of_eq ?_
    rw [List.flatMap_def, List.flatMap_def, call, map_blocks_modify fun _ => blocks_advance]
  | exchanges i j => exact perm_blocks_exchangeAt agendas i j

/-- After a call, every agenda comes from a script if every one did before. -/
theorem fromScript_call (made : ∀ a ∈ agendas, a.FromScript) (c : Call) :
    ∀ a ∈ call agendas c, a.FromScript := by
  intro a member
  obtain ⟨k, here⟩ := List.mem_iff_getElem?.1 member
  have old {b : Agenda} (there : agendas[k]? = some b) : b.FromScript :=
    made b (List.mem_of_getElem? there)
  cases c with
  | begins i =>
    obtain ⟨b, there, rfl⟩ := Option.map_eq_some_iff.1 ((List.getElem?_modify ..).symm.trans here)
    split
    · exact (old there).begin
    · exact old there
  | advances i =>
    obtain ⟨b, there, rfl⟩ := Option.map_eq_some_iff.1 ((List.getElem?_modify ..).symm.trans here)
    split
    · exact (old there).advance
    · exact old there
  | exchanges i j =>
    simp only [call, exchangeAt] at member
    split at member
    · rename_i b c first second
      have madeFirst := made b (List.mem_of_getElem? first)
      have madeSecond := made c (List.mem_of_getElem? second)
      rcases List.mem_or_eq_of_mem_set member with other | rfl
      · rcases List.mem_or_eq_of_mem_set other with unmoved | rfl
        · exact made a unmoved
        · exact madeFirst.takeRemaining madeSecond
      · exact madeSecond.takeRemaining madeFirst
    · exact made a member

/-- What holds of agendas and is kept by every call holds after any number of calls. -/
theorem callAll_induction {motive : List Agenda → Prop} {agendas : List Agenda}
    (initial : motive agendas) (step : ∀ {now} (c : Call), motive now → motive (call now c))
    (calls : List Call) : motive (callAll agendas calls) := by
  induction calls generalizing agendas with
  | nil => exact initial
  | cons c rest ih => exact ih (step c initial)

/-- Whatever is done with agendas that come from scripts, and in whatever order, every agenda is
sound: at most all of its blocks are completed, a block that is being performed is there, so that
the limit in the split point never applies, and the completed blocks, the one being performed and
the remaining ones are all of its blocks, in order. All agendas together have the blocks that they
had at first. Two agendas that exchange what remains twice in a row have their blocks back. -/
theorem bookkeeping_of_calls (agendas : List Agenda) (made : ∀ a ∈ agendas, a.FromScript)
    (calls : List Call) :
    let later := callAll agendas calls
    (∀ a ∈ later, a.position ≤ a.blocks.length ∧
        (a.isBusy = true → a.position < a.blocks.length) ∧
        a.splitPoint = a.position + a.isBusy.toNat ∧
        a.completed ++ (if a.isBusy then a.upcoming?.toList else []) ++ a.remaining = a.blocks) ∧
      (later.flatMap (·.blocks)).Perm (agendas.flatMap (·.blocks)) ∧
      ∀ i j, (exchangeAt (exchangeAt later i j) i j).map (·.blocks) = later.map (·.blocks) := by
  intro later
  have whole : (∀ a ∈ later, a.FromScript) ∧
      (later.flatMap (·.blocks)).Perm (agendas.flatMap (·.blocks)) := by
    refine callAll_induction (motive := fun now => (∀ a ∈ now, a.FromScript) ∧
      (now.flatMap (·.blocks)).Perm (agendas.flatMap (·.blocks))) ⟨made, .refl _⟩ ?_ calls
    rintro now c ⟨made, same⟩
    exact ⟨fromScript_call made c, (perm_blocks_call now c).trans same⟩
  obtain ⟨made', same⟩ := whole
  have sound : ∀ a ∈ later, a.Sound := fun a member => (made' a member).sound
  refine ⟨fun a member => ?_, same, map_blocks_exchangeAt_twice sound⟩
  have soundA := sound a member
  refine ⟨soundA.position_le, soundA.position_lt, soundA.splitPoint_eq, ?_⟩
  have current : (if a.isBusy then a.upcoming?.toList else []) = a.current.toList := by
    simp only [Agenda.current]
    split <;> rfl
  rw [current]
  exact soundA.blocks_eq

/-- One agenda performs a block, and the other one is exhausted. They exchange what remains, the
first one begins its block again, and the second one completes more blocks than it has. -/
theorem bookkeeping_of_calls_duet :
    let agendas := [(ofScript (.ofNat 0) [.say "hi" 5, .turn 20]).begin,
      (ofScript (.ofNat 1) [.move 3]).begin.advance]
    let calls : List Call := [.exchanges 0 1, .begins 0, .advances 1, .advances 1, .advances 1,
      .begins 1, .exchanges 1 0]
    let later := callAll agendas calls
    (∀ a ∈ agendas, a.FromScript) ∧
      (later.flatMap (·.blocks)).Perm (agendas.flatMap (·.blocks)) ∧
      ∀ a ∈ later,
        a.completed ++ (if a.isBusy then a.upcoming?.toList else []) ++ a.remaining = a.blocks := by
  intro agendas calls later
  have made : ∀ a ∈ agendas, a.FromScript := by
    intro a member
    simp only [agendas, List.mem_cons, List.not_mem_nil, or_false] at member
    rcases member with rfl | rfl
    · exact (FromScript.ofScript _ _).begin
    · exact (FromScript.ofScript _ _).begin.advance
  obtain ⟨each, same, -⟩ := bookkeeping_of_calls agendas made calls
  exact ⟨made, same, fun a member => (each a member).2.2.2⟩

end Agenda

end Troupe
