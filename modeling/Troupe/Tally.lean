/-!
# Tallies

The tally of a list is the sum of a number that each of its elements has. The main statement,
`tally_set`, says what replacing an element does to it.
-/

namespace Troupe

variable {α β : Type}

/-- The sum of a number over the elements of a list. -/
def tally (f : α → Nat) : List α → Nat
  | [] => 0
  | a :: rest => f a + tally f rest

/-- Nothing sums up to nothing. -/
@[simp] theorem tally_nil (f : α → Nat) : tally f [] = 0 := rfl

/-- The sum along a list is that of its first item and of the others. -/
@[simp] theorem tally_cons (f : α → Nat) (a : α) (rest : List α) :
    tally f (a :: rest) = f a + tally f rest := rfl

/-- The sum along two lists, one behind the other, is that of both. -/
@[simp] theorem tally_append (f : α → Nat) (l m : List α) :
    tally f (l ++ m) = tally f l + tally f m := by
  induction l with
  | nil => simp
  | cons a rest ih => simp only [List.cons_append, tally_cons, ih]; omega

/-- Summing up what items become is summing up by what they become. -/
theorem tally_map (f : β → Nat) (g : α → β) (l : List α) :
    tally f (l.map g) = tally (fun a => f (g a)) l := by
  induction l with
  | nil => rfl
  | cons a rest ih => simp only [List.map_cons, tally_cons, ih]

/-- The sum is the same for what is the same of each item. -/
theorem tally_congr {f g : α → Nat} {l : List α} (same : ∀ a ∈ l, f a = g a) :
    tally f l = tally g l := by
  induction l with
  | nil => rfl
  | cons a rest ih =>
    simp only [tally_cons, same a List.mem_cons_self]
    rw [ih fun b member => same b (List.mem_cons_of_mem _ member)]

/-- One more for each element is as many more as there are elements. -/
theorem tally_add_one (f : α → Nat) (l : List α) :
    tally (fun a => f a + 1) l = tally f l + l.length := by
  induction l with
  | nil => rfl
  | cons a rest ih => simp only [tally_cons, ih, List.length_cons]; omega

/-- The sum is at least the number of each element. -/
theorem le_tally_of_mem (f : α → Nat) {l : List α} {a : α} (member : a ∈ l) : f a ≤ tally f l := by
  induction member with
  | head rest => exact Nat.le_add_right _ _
  | tail b _ ih => exact Nat.le_trans ih (Nat.le_add_left _ _)

/-- The length of lists in a row is the sum of their lengths. -/
theorem length_flatMap_eq_tally (f : α → List β) (l : List α) :
    (l.flatMap f).length = tally (fun a => (f a).length) l := by
  induction l with
  | nil => rfl
  | cons a rest ih => simp only [List.flatMap_cons, List.length_append, tally_cons, ih]

/-- The sum over lists in a row is the sum of their sums. -/
theorem tally_flatMap (f : β → Nat) (g : α → List β) (l : List α) :
    tally f (l.flatMap g) = tally (fun a => tally f (g a)) l := by
  induction l with
  | nil => rfl
  | cons a rest ih => simp only [List.flatMap_cons, tally_append, tally_cons, ih]

/-- What is repeated a number of times adds up to as many times its sum. -/
theorem tally_flatten_replicate (f : α → Nat) (n : Nat) (l : List α) :
    tally f (List.replicate n l).flatten = n * tally f l := by
  induction n with
  | zero => simp
  | succ n ih =>
    rw [List.replicate_succ, List.flatten_cons, tally_append, ih, Nat.succ_mul, Nat.add_comm]

/-- Leaving out elements at the front makes the sum no greater. -/
theorem tally_drop_le (f : α → Nat) (l : List α) (n : Nat) : tally f (l.drop n) ≤ tally f l := by
  have parts := tally_append f (l.take n) (l.drop n)
  rw [List.take_append_drop] at parts
  omega

/-- When one number of every element is at most another, so is their sum. -/
theorem tally_le_tally {f g : α → Nat} {l : List α} (h : ∀ a ∈ l, f a ≤ g a) :
    tally f l ≤ tally g l := by
  induction l with
  | nil => exact Nat.le_refl _
  | cons a rest ih =>
    have first := h a List.mem_cons_self
    have others := ih fun b member => h b (List.mem_cons_of_mem _ member)
    simp only [tally_cons]
    omega

/-- When one number of every element is at most one more than another, so is their sum up to the
length of the list. -/
theorem tally_le_tally_add_length {f g : α → Nat} {l : List α} (h : ∀ a ∈ l, f a ≤ g a + 1) :
    tally f l ≤ tally g l + l.length := by
  induction l with
  | nil => exact Nat.le_refl _
  | cons a rest ih =>
    have first := h a List.mem_cons_self
    have others := ih fun b member => h b (List.mem_cons_of_mem _ member)
    simp only [tally_cons, List.length_cons]
    omega

/-- Replacing an element takes its number away and adds that of the new one. -/
theorem tally_set (f : α → Nat) {l : List α} {i : Nat} {a : α} (b : α) (h : l[i]? = some a) :
    tally f (l.set i b) + f a = tally f l + f b := by
  induction l generalizing i with
  | nil => simp at h
  | cons c rest ih =>
    cases i with
    | zero =>
      simp only [List.getElem?_cons_zero, Option.some.injEq] at h
      subst h
      simp only [List.set_cons_zero, tally_cons]
      omega
    | succ i =>
      simp only [List.getElem?_cons_succ] at h
      have := ih h
      simp only [List.set_cons_succ, tally_cons]
      omega

end Troupe
