import Troupe.Encounter

/-!
# Who is met

The stream that another one meets is a different one that still has something to do and was not met
since it last completed a block, and the sprites of both are on the stage and near each other. Of
all such streams it is the first one (`Encounter.exchangePartner?_eq_some_iff`).
-/

namespace Troupe.Encounter

variable {radius : Binary64} {sprites : List Sprite} {agendas : List Agenda} {i j : Nat}

/-! ## The search -/

/-- The place found is not the one left out, and its agenda fulfils the condition. -/
theorem of_findOther?_eq_some {p : Agenda → Bool} {index found : Nat}
    (h : findOther? i p index agendas = some found) :
    index ≤ found ∧ found ≠ i ∧ ∃ a, agendas[found - index]? = some a ∧ p a = true := by
  induction agendas generalizing index with
  | nil => simp [findOther?] at h
  | cons a rest ih =>
    simp only [findOther?] at h
    split at h
    · rename_i fits
      obtain rfl : index = found := by simpa using h
      exact ⟨Nat.le_refl _, fits.1, a, by simp, fits.2⟩
    · obtain ⟨after, other, b, here, holds⟩ := ih h
      refine ⟨by omega, other, b, ?_, holds⟩
      have place : found - index = found - (index + 1) + 1 := by omega
      rw [place, List.getElem?_cons_succ]
      exact here

/-- The search finds a place no later than any other one whose agenda fulfils the condition. -/
theorem exists_findOther?_le {p : Agenda → Bool} (index : Nat) {k : Nat} {a : Agenda}
    (apart : index + k ≠ i) (here : agendas[k]? = some a) (holds : p a = true) :
    ∃ found ≤ index + k, findOther? i p index agendas = some found := by
  induction agendas generalizing index k with
  | nil => simp at here
  | cons b rest ih =>
    rw [findOther?]
    by_cases fits : index ≠ i ∧ p b = true
    · rw [if_pos fits]
      exact ⟨index, Nat.le_add_right _ _, rfl⟩
    · rw [if_neg fits]
      cases k with
      | zero =>
        obtain rfl : b = a := by simpa using here
        exact absurd ⟨apart, holds⟩ fits
      | succ k =>
        have next : index + (k + 1) = index + 1 + k := by omega
        rw [next] at apart ⊢
        exact ih (index + 1) apart here

/-- The search finds the first place, other than the one left out, whose agenda fulfils the
condition. -/
theorem findOther?_eq_some_iff {p : Agenda → Bool} :
    findOther? i p 0 agendas = some j ↔
      (j ≠ i ∧ ∃ a, agendas[j]? = some a ∧ p a = true) ∧
        ∀ k < j, ¬(k ≠ i ∧ ∃ a, agendas[k]? = some a ∧ p a = true) := by
  constructor
  · intro found
    refine ⟨(of_findOther?_eq_some found).2, fun k earlier ⟨apart, a, here, holds⟩ => ?_⟩
    obtain ⟨first, bound, found'⟩ :=
      exists_findOther?_le 0 (by rwa [Nat.zero_add]) here holds
    have same : j = first := Option.some.inj (found.symm.trans found')
    omega
  · rintro ⟨⟨apart, a, here, holds⟩, before⟩
    obtain ⟨first, bound, found⟩ :=
      exists_findOther?_le 0 (by rwa [Nat.zero_add]) here holds
    -- What the search found is no later than `j`, and nothing before `j` fits.
    have fits := (of_findOther?_eq_some found).2
    have later : ¬first < j := fun earlier => before first earlier fits
    have same : first = j := by omega
    rw [found, same]

/-- A stream may be met when it has something to do, was not met, and its sprite is near. -/
theorem isCandidate_iff {origin : Position} {a : Agenda} :
    isCandidate radius sprites origin a = true ↔
      a.isExhausted = false ∧ a.exchanged = false ∧
        ∃ s, Cast.findIn? sprites a.sprite = some s ∧ meets radius origin s.position = true := by
  simp only [isCandidate, Bool.and_eq_true, Bool.not_eq_true', and_assoc]
  cases Cast.findIn? sprites a.sprite <;> simp

/-! ## Who may be met -/

/-- The stream at one place may be met by the one at another place. -/
structure Candidate (radius : Binary64) (sprites : List Sprite) (agendas : List Agenda)
    (i j : Nat) : Prop where
  /-- It is another stream. -/
  apart : j ≠ i
  /-- It has something to do and was not met since it last completed a block. The sprites of both
  are on the stage and near each other. -/
  near : ∃ a b s t, agendas[i]? = some a ∧ agendas[j]? = some b ∧
    b.isExhausted = false ∧ b.exchanged = false ∧
    Cast.findIn? sprites a.sprite = some s ∧ Cast.findIn? sprites b.sprite = some t ∧
    meets radius s.position t.position = true

/-- The stream at one place is the first one that the stream at another place may meet. -/
structure FirstCandidate (radius : Binary64) (sprites : List Sprite) (agendas : List Agenda)
    (i j : Nat) : Prop where
  /-- It may be met. -/
  candidate : Candidate radius sprites agendas i j
  /-- None before it may be met. -/
  first : ∀ earlier < j, ¬Candidate radius sprites agendas i earlier

/-- Something remains to one of the streams at two places. -/
def SomethingRemains (agendas : List Agenda) (i j : Nat) : Prop :=
  ∃ a b, agendas[i]? = some a ∧ agendas[j]? = some b ∧ (a.remaining ≠ [] ∨ b.remaining ≠ [])

/-- For a stream whose sprite is on the stage, a place is that of a candidate when the search for
one stops there. -/
theorem candidate_iff {a : Agenda} {s : Sprite} (here : agendas[i]? = some a)
    (onStage : Cast.findIn? sprites a.sprite = some s) :
    Candidate radius sprites agendas i j ↔
      j ≠ i ∧ ∃ b, agendas[j]? = some b ∧ isCandidate radius sprites s.position b = true := by
  simp only [isCandidate_iff]
  constructor
  · rintro ⟨apart, a', b, s', t, here', there, going, fresh, onStage', onStageToo, near⟩
    obtain rfl : a = a' := Option.some.inj (here.symm.trans here')
    obtain rfl : s = s' := Option.some.inj (onStage.symm.trans onStage')
    exact ⟨apart, b, there, going, fresh, t, onStageToo, near⟩
  · rintro ⟨apart, b, there, going, fresh, t, onStageToo, near⟩
    exact ⟨apart, a, b, s, t, here, there, going, fresh, onStage, onStageToo, near⟩

/-- The stream that is met is the first one that may be met. -/
theorem candidate?_eq_some_iff :
    candidate? radius sprites agendas i = some j ↔ FirstCandidate radius sprites agendas i j := by
  simp only [candidate?, Option.bind_eq_bind, Option.bind_eq_some_iff]
  constructor
  · rintro ⟨a, here, s, onStage, found⟩
    obtain ⟨fits, before⟩ := findOther?_eq_some_iff.1 found
    refine ⟨(candidate_iff here onStage).2 fits, fun k earlier candidate => ?_⟩
    exact before k earlier ((candidate_iff here onStage).1 candidate)
  · intro met
    obtain ⟨a, b, s, t, here, -, -, -, onStage, -, -⟩ := met.candidate.near
    refine ⟨a, here, s, onStage, findOther?_eq_some_iff.2 ⟨?_, fun k earlier fits => ?_⟩⟩
    · exact (candidate_iff here onStage).1 met.candidate
    · exact met.first k earlier ((candidate_iff here onStage).2 fits)

/-- Blocks are exchanged with the first stream that may be met, if something remains to one of the
two. -/
theorem exchangePartner?_eq_some_iff :
    exchangePartner? radius sprites agendas i = some j ↔
      FirstCandidate radius sprites agendas i j ∧ SomethingRemains agendas i j := by
  simp only [exchangePartner?, Option.bind_eq_bind, Option.bind_eq_some_iff]
  constructor
  · rintro ⟨other, found, a, here, b, there, chosen⟩
    split at chosen
    · simp at chosen
    rename_i nonempty
    obtain rfl : other = j := Option.some.inj chosen
    have something : a.remaining ≠ [] ∨ b.remaining ≠ [] := by
      simpa only [Bool.and_eq_true, List.isEmpty_iff, Classical.not_and_iff_not_or_not]
        using nonempty
    exact ⟨candidate?_eq_some_iff.1 found, a, b, here, there, something⟩
  · rintro ⟨met, a, b, here, there, something⟩
    have nonempty : ¬(a.remaining.isEmpty && b.remaining.isEmpty) = true := by
      simpa only [Bool.and_eq_true, List.isEmpty_iff, Classical.not_and_iff_not_or_not]
        using something
    exact ⟨j, candidate?_eq_some_iff.2 met, a, here, b, there, if_neg nonempty⟩

/-- What is known of two streams that exchange their remaining blocks. -/
structure Met (radius : Binary64) (sprites : List Sprite) (a b : Agenda) : Prop where
  /-- The stream that is met has something to do. -/
  going : b.isExhausted = false
  /-- It was not met since it last completed a block. -/
  fresh : b.exchanged = false
  /-- Something remains to one of them. -/
  something : a.remaining ≠ [] ∨ b.remaining ≠ []
  /-- Both sprites are on the stage and near each other. -/
  near : ∃ s t, Cast.findIn? sprites a.sprite = some s ∧ Cast.findIn? sprites b.sprite = some t ∧
    meets radius s.position t.position = true

/-- A partner for an exchange is somebody else who is met. -/
theorem of_exchangePartner?_eq_some (h : exchangePartner? radius sprites agendas i = some j) :
    j ≠ i ∧ ∃ a b, agendas[i]? = some a ∧ agendas[j]? = some b ∧ Met radius sprites a b := by
  obtain ⟨⟨candidate, -⟩, a, b, here, there, something⟩ := exchangePartner?_eq_some_iff.1 h
  obtain ⟨apart, a', b', s, t, here', there', going, fresh, onStage, onStageToo, near⟩ := candidate
  obtain rfl : a = a' := Option.some.inj (here.symm.trans here')
  obtain rfl : b = b' := Option.some.inj (there.symm.trans there')
  exact ⟨apart, a, b, here, there, going, fresh, something, s, t, onStage, onStageToo, near⟩

/-! ## Putting a sprite down -/

/-- A sprite that is put down and the one it meets are both on the stage. -/
theorem mem_of_partner?_eq_some {moved other : SpriteId}
    (h : partner? radius sprites moved = some other) :
    moved ∈ sprites.map (·.id) ∧ other ∈ sprites.map (·.id) := by
  simp only [partner?, Option.bind_eq_bind, Option.bind_eq_some_iff] at h
  obtain ⟨s, there, t, found, same⟩ := h
  obtain rfl : t.id = other := Option.some.inj same
  have own : s.id = moved := by simpa using List.find?_some there
  exact ⟨own ▸ List.mem_map_of_mem (List.mem_of_find?_eq_some there),
    List.mem_map_of_mem (List.mem_of_find?_eq_some found)⟩

end Troupe.Encounter
