import Troupe.Proofs.Agenda
import Troupe.Proofs.Encounter
import Troupe.Run.Basic

/-!
# What an encounter comes to

When a stream completes a block, it exchanges its remaining blocks with the first stream that it may
meet, unless nothing remains to either of them. `Encounter.exchange_with_first_candidate` says in
full who that is and what becomes of all agendas. The streams of a run in hero mode do just that
(`Run.agendas_encounter`).
-/

namespace Troupe

namespace Agenda

/-- What becomes of the agenda `a` of a stream that gets the remaining blocks of the agenda `b` in
place of its own. -/
structure GetsRemaining (a b after : Agenda) : Prop where
  /-- It is performed by the same sprite. -/
  sprite : after.sprite = a.sprite
  /-- As many blocks are completed as before. -/
  position : after.position = a.position
  /-- These are the same blocks. -/
  completed : after.completed = a.completed
  /-- A block is being performed if one was before. -/
  isBusy : after.isBusy = a.isBusy
  /-- This is the same block. -/
  current : after.current = a.current
  /-- What remained to the other agenda remains to it. -/
  remaining : after.remaining = b.remaining
  /-- It is marked. -/
  exchanged : after.exchanged = true

/-- Of all agendas, the ones at two places have exchanged their remaining blocks. -/
structure Exchange (agendas : List Agenda) (i j : Nat) (after : List Agenda) : Prop where
  /-- No agenda was added or taken away. -/
  length : after.length = agendas.length
  /-- The agendas at other places are what they were. -/
  others : ∀ k, k ≠ i → k ≠ j → after[k]? = agendas[k]?
  /-- The two agendas differ in their remaining blocks and their marks only. -/
  both : ∃ a b a' b', agendas[i]? = some a ∧ agendas[j]? = some b ∧
    after[i]? = some a' ∧ after[j]? = some b' ∧ a.GetsRemaining b a' ∧ b.GetsRemaining a b'

variable {a b : Agenda} {agendas : List Agenda} {i j : Nat}

/-- A sound agenda keeps everything but what remains, and gets what is given to it. -/
theorem Sound.getsRemaining (sound : a.Sound) (b : Agenda) :
    a.GetsRemaining b (a.takeRemaining b) where
  sprite := sprite_takeRemaining
  position := position_takeRemaining
  completed := sound.completed_takeRemaining
  isBusy := isBusy_takeRemaining
  current := sound.current_takeRemaining
  remaining := sound.remaining_takeRemaining
  exchanged := exchanged_takeRemaining

/-- When sound agendas at two places exchange their remaining blocks, nothing else changes. -/
theorem exchange_exchangeAt (apart : j ≠ i) (here : agendas[i]? = some a)
    (there : agendas[j]? = some b) (soundHere : a.Sound) (soundThere : b.Sound) :
    Exchange agendas i j (exchangeAt agendas i j) := by
  obtain ⟨within, -⟩ := List.getElem?_eq_some_iff.1 here
  obtain ⟨withinToo, -⟩ := List.getElem?_eq_some_iff.1 there
  have same : exchangeAt agendas i j =
      (agendas.set i (a.takeRemaining b)).set j (b.takeRemaining a) := by
    simp only [exchangeAt, here, there]
  have first : (exchangeAt agendas i j)[i]? = some (a.takeRemaining b) := by
    rw [same, List.getElem?_set_ne apart, List.getElem?_set_self within]
  have second : (exchangeAt agendas i j)[j]? = some (b.takeRemaining a) := by
    rw [same, List.getElem?_set_self (by rwa [List.length_set])]
  refine ⟨length_exchangeAt agendas i j, fun k notFirst notSecond => ?_, ?_⟩
  · rw [same, List.getElem?_set_ne notSecond.symm, List.getElem?_set_ne notFirst.symm]
  · exact ⟨a, b, _, _, here, there, first, second, soundHere.getsRemaining b,
      soundThere.getsRemaining a⟩

end Agenda

namespace Encounter

/-- Agendas that come from scripts, when the stream at a place has completed a block. Its partner is
the first other stream that has something to do, was not met since it last completed a block, and
whose sprite is on the stage and near its own, which must be there too; and there is none if nothing
remains to either of them. With a partner, these two exchange their remaining blocks and are marked,
the blocks that are completed or being performed stay, and all other agendas are as before. Without
one, so are all. -/
theorem exchange_with_first_candidate (radius : Binary64) (sprites : List Sprite)
    (agendas : List Agenda) (i : Nat) (made : ∀ a ∈ agendas, a.FromScript) :
    let result := exchange? radius sprites agendas i
    let partner := result.map Prod.fst
    let after := (result.map Prod.snd).getD agendas
    (∀ j, partner = some j ↔
      FirstCandidate radius sprites agendas i j ∧ SomethingRemains agendas i j) ∧
    (∀ j, partner = some j → Agenda.Exchange agendas i j after) ∧
    (partner = none → after = agendas) := by
  intro result partner after
  have same : partner = exchangePartner? radius sprites agendas i := by
    simp only [partner, result, exchange?, Option.map_map]
    exact Option.map_id'
  refine ⟨fun j => ?_, fun j met => ?_, fun alone => ?_⟩
  · rw [same]
    exact exchangePartner?_eq_some_iff
  · rw [same] at met
    obtain ⟨apart, a, b, here, there, -⟩ := of_exchangePartner?_eq_some met
    have exchanged : after = Agenda.exchangeAt agendas i j := by
      simp only [after, result, exchange?, met, Option.map_some, Option.getD_some]
    rw [exchanged]
    exact Agenda.exchange_exchangeAt apart here there (made a (List.mem_of_getElem? here)).sound
      (made b (List.mem_of_getElem? there)).sound
  · have nothing : result = none := Option.map_eq_none_iff.1 alone
    simp only [after, nothing, Option.map_none, Option.getD_none]

/-- Three sprites are at one place. The first one has nothing to do any more, the second one is
speaking, and the third one completes a block: it gets the turn that remained to the second one. -/
theorem exchange_with_first_candidate_trio :
    let sprites : List Sprite := [
      .create (.ofNat 0) .cat ⟨100, 100⟩, .create (.ofNat 1) .dog ⟨100, 100⟩,
      .create (.ofNat 2) .robot ⟨100, 100⟩]
    let agendas : List Agenda := [
      (Agenda.ofScript (.ofNat 0) [.move 1]).begin.advance,
      (Agenda.ofScript (.ofNat 1) [.say "hi" 5, .turn 20]).begin,
      (Agenda.ofScript (.ofNat 2) [.move 3, .goTo 30 0, .move 4]).begin.advance]
    ∃ after, exchange? (.ofNat 20) sprites agendas 2 = some (1, after) ∧
      Agenda.Exchange agendas 2 1 after := by
  intro sprites agendas
  have made : ∀ a ∈ agendas, a.FromScript := by
    intro a member
    simp only [agendas, List.mem_cons, List.not_mem_nil, or_false] at member
    rcases member with rfl | rfl | rfl
    · exact (Agenda.FromScript.ofScript _ _).begin.advance
    · exact (Agenda.FromScript.ofScript _ _).begin
    · exact (Agenda.FromScript.ofScript _ _).begin.advance
  have partner : (exchange? (.ofNat 20) sprites agendas 2).map Prod.fst = some 1 := by
    decide +kernel
  obtain ⟨⟨other, after⟩, found, rfl⟩ := Option.map_eq_some_iff.1 partner
  have whole := exchange_with_first_candidate (.ofNat 20) sprites agendas 2 made
  refine ⟨after, found, ?_⟩
  have exchanged := whole.2.1 1 partner
  rwa [found] at exchanged

end Encounter

/-- In hero mode, the agendas of a run after an encounter are those after the exchange. -/
theorem Run.agendas_encounter {run : Run} {radius : Binary64} (hero : run.radius = some radius)
    (cast : Cast) (i : Nat) :
    (run.encounter cast i).run.agendas =
      ((Encounter.exchange? radius cast.sprites run.agendas i).map Prod.snd).getD run.agendas := by
  have partner : run.partner? cast i =
      Encounter.exchangePartner? radius cast.sprites run.agendas i := by
    rw [partner?, hero]
    rfl
  rw [encounter, partner, Encounter.exchange?]
  cases Encounter.exchangePartner? radius cast.sprites run.agendas i with
  | none => rfl
  | some j => exact map_agenda_exchangeAt run.streams i j

end Troupe
