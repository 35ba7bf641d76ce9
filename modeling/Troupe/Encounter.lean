import Troupe.Agenda
import Troupe.Cast

/-!
# Encounters

Two sprites meet when they are closer to each other than a given radius. Who exchanges what on a
meeting is decided here: a sprite that is put down meets the first other sprite that came on the
stage, and a stream that completes a block meets the first other stream that still has something to
do and was not met since it last completed a block.
-/

namespace Troupe.Encounter

/-- Whether two positions are closer than a radius. Nothing is closer than a radius that is no
number. -/
def meets (radius : Binary64) (p q : Position) : Bool := p.distance q < radius

/-- The first sprite that another one meets. -/
def partner? (radius : Binary64) (sprites : List Sprite) (moved : SpriteId) : Option SpriteId := do
  let s ← Cast.findIn? sprites moved
  let other ← sprites.find? fun other =>
    decide (other.id ≠ moved) && meets radius s.position other.position
  return other.id

/-- Whether the stream of an agenda may be met by a sprite at a position: it has something to do,
was not met, and its sprite is on the stage and near. -/
def isCandidate (radius : Binary64) (sprites : List Sprite) (origin : Position) (a : Agenda) :
    Bool :=
  !a.isExhausted && !a.exchanged &&
    match Cast.findIn? sprites a.sprite with
    | some s => meets radius origin s.position
    | none => false

/-- The first place from `index` on, other than `self`, whose agenda fulfils a condition. -/
def findOther? (self : Nat) (p : Agenda → Bool) (index : Nat) : List Agenda → Option Nat
  | [] => none
  | a :: rest =>
    if index ≠ self ∧ p a = true then some index else findOther? self p (index + 1) rest

/-- The place of the first stream that the one at another place meets. -/
def candidate? (radius : Binary64) (sprites : List Sprite) (agendas : List Agenda) (self : Nat) :
    Option Nat := do
  let a ← agendas[self]?
  let s ← Cast.findIn? sprites a.sprite
  findOther? self (isCandidate radius sprites s.position) 0 agendas

/-- The place of the stream with which the one at another place exchanges its remaining blocks: the
first it meets, unless nothing remains to either of them. -/
def exchangePartner? (radius : Binary64) (sprites : List Sprite) (agendas : List Agenda)
    (self : Nat) : Option Nat := do
  let other ← candidate? radius sprites agendas self
  let a ← agendas[self]?
  let b ← agendas[other]?
  if a.remaining.isEmpty && b.remaining.isEmpty then none else some other

/-- Agendas after the stream at one place completed a block and exchanged its remaining blocks with
the one it meets, and the place of that one; nothing if it meets none. -/
def exchange? (radius : Binary64) (sprites : List Sprite) (agendas : List Agenda) (self : Nat) :
    Option (Nat × List Agenda) :=
  (exchangePartner? radius sprites agendas self).map fun other =>
    (other, Agenda.exchangeAt agendas self other)

end Troupe.Encounter
