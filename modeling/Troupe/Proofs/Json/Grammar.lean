import Troupe.Json.Reading
import Troupe.Proofs.Json.Numeral
import Troupe.Proofs.Json.Quoted

/-!
# Which texts are documents

`Tree.Spells` is the grammar of documents: the texts that a tree is spelled by, with blanks between
their tokens. The parser takes exactly these texts apart, each into the tree that it is spelled for
(`parse_eq_iff`), so what is read from a text is what is read from the tree it is spelled for
(`readDocument_eq_ok_iff`).

Towards the parser, the induction is on the spelling. The bound of the parser's calls is twice the
length of the text: a value takes one call for itself and leaves two for each of its brackets. From
the parser, the induction is on that bound.
-/

namespace Troupe.Json

/-! ## Grammar -/

/-- A tree with a text. -/
structure Spelling where
  /-- The text. -/
  chars : List Char
  /-- The tree. -/
  tree : Tree

/-- Texts with commas between them. -/
def commas (texts : List (List Char)) : List Char := List.intercalate [','] texts

/-- A field as it is spelled: its key, a colon and its value. -/
def fieldSpelling (field : Spelling × Spelling) : List Char :=
  field.1.chars ++ ':' :: field.2.chars

/-- A text consists of blanks. -/
def IsBlank (s : List Char) : Prop := ∀ c ∈ s, isGap c = true

/-- The texts that a tree is spelled by. There may be blanks between all tokens and around them. -/
inductive Tree.Spells : List Char → Tree → Prop where
  /-- The value `null`. -/
  | null : Spells "null".toList .null
  /-- A truth value. -/
  | bool (b : Bool) : Spells (if b then "true".toList else "false".toList) (.bool b)
  /-- A number. -/
  | number {s : List Char} {n : Numeral} (spells : n.Spells s) : Spells s (.number n)
  /-- A text between quotes. -/
  | text {s : List Char} {pieces : List Quoted.Piece} (spells : Quoted.Spells s pieces) :
    Spells ('"' :: (s ++ ['"'])) (.text ((Quoted.join? pieces).map String.ofList))
  /-- An array. -/
  | array {gap : List Char} {items : List Spelling} (blank : IsBlank gap)
    (each : ∀ item ∈ items, Spells item.chars item.tree) :
    Spells ('[' :: (gap ++ commas (items.map (·.chars)) ++ [']']))
      (.array (items.map (·.tree)) none)
  /-- An object, the keys of which are texts. -/
  | object {gap : List Char} {fields : List (Spelling × Spelling)} (blank : IsBlank gap)
    (named : ∀ field ∈ fields, ∃ name, field.1.tree = .text name)
    (keys : ∀ field ∈ fields, Spells field.1.chars field.1.tree)
    (values : ∀ field ∈ fields, Spells field.2.chars field.2.tree) :
    Spells ('\x7b' :: (gap ++ commas (fields.map fieldSpelling) ++ ['\x7d']))
      (.object (fields.map fun field => (field.1.tree, field.2.tree)) none)
  /-- Blanks before and behind a value. -/
  | padded {before s after : List Char} {t : Tree} (front : IsBlank before) (back : IsBlank after)
    (spells : Spells s t) : Spells (before ++ s ++ after) t

/-! ## Blanks -/

-- Its equation takes a while to be proved: it is here, once, and not in each proof below.
attribute [local simp] Parsed.value

variable {c : Char} {s after gap : List Char} {t : Tree} {bound : Nat}

/-- No blank is dropped where there is none. -/
theorem dropGap_cons (visible : isGap c = false) (s : List Char) : dropGap (c :: s) = c :: s := by
  simp [dropGap, visible]

/-- Blanks in front are dropped. -/
theorem dropGap_append (blank : IsBlank gap) (s : List Char) : dropGap (gap ++ s) = dropGap s :=
  List.dropWhile_append_of_pos blank

/-- What is left starts with no blank. -/
theorem dropGap_dropGap (s : List Char) : dropGap (dropGap s) = dropGap s := by
  cases left : dropGap s with
  | nil => rfl
  | cons c rest =>
    have visible := List.head?_dropWhile_not isGap s
    rw [← dropGap, left] at visible
    exact dropGap_cons visible rest

/-- What follows a character that is left is left, too. -/
theorem dropGap_append_of_cons {rest : List Char} (left : dropGap s = c :: rest)
    (after : List Char) : dropGap (s ++ after) = c :: (rest ++ after) := by
  rw [dropGap] at left
  simp [dropGap, List.dropWhile_append, left]

/-- A text is its blanks in front and what is left. -/
theorem exists_gap (s : List Char) : ∃ gap, IsBlank gap ∧ s = gap ++ dropGap s :=
  ⟨s.takeWhile isGap, List.all_eq_true.1 List.all_takeWhile,
    List.takeWhile_append_dropWhile.symm⟩

/-- A digit is no blank. -/
theorem isGap_of_isDigit (digit : c.isDigit = true) : isGap c = false := by
  cases gap : isGap c with
  | false => rfl
  | true =>
    simp only [isGap, Bool.or_eq_true, decide_eq_true_eq] at gap
    obtain ((rfl | rfl) | rfl) | rfl := gap <;> exact absurd digit (by decide)

/-- A blank cannot go on a number. -/
theorem stops_append (blank : IsBlank gap) (stops : Numeral.Stops after) :
    Numeral.Stops (gap ++ after) := by
  cases gap with
  | nil => exact stops
  | cons c gap =>
    intro d head
    obtain rfl : c = d := by simpa using head
    have blank : isGap c = true := blank c List.mem_cons_self
    simp only [isGap, Bool.or_eq_true, decide_eq_true_eq] at blank
    obtain ((rfl | rfl) | rfl) | rfl := blank <;> decide

/-- A text that starts with another character cannot go on a number. -/
theorem stops_cons (other : Numeral.goesOn c = false) : Numeral.Stops (c :: after) := by
  intro d head
  obtain rfl : c = d := by simpa using head
  exact other

/-- Behind every text but the last one there is a comma. -/
theorem commas_cons_cons (first second : List Char) (rest : List (List Char)) :
    commas (first :: second :: rest) = first ++ ',' :: commas (second :: rest) := by
  simp [commas]

/-- A text in front of commas is left where it starts. -/
theorem dropGap_commas {rest : List Char} (left : dropGap s = c :: rest)
    (others : List (List Char)) (after : List Char) :
    ∃ rest, dropGap (commas (s :: others) ++ after) = c :: rest := by
  cases others with
  | nil =>
    rw [commas, List.intercalate_singleton]
    exact ⟨_, dropGap_append_of_cons left _⟩
  | cons next others =>
    rw [commas_cons_cons, List.append_assoc]
    exact ⟨_, dropGap_append_of_cons left _⟩

/-! ## Spelled documents are taken apart -/

/-- A value is spelled with a first character that is no blank and closes nothing. -/
theorem Tree.Spells.dropGap_eq_cons (spells : Spells s t) :
    ∃ c rest, dropGap s = c :: rest ∧ c ≠ ']' ∧ c ≠ '\x7d' := by
  induction spells with
  | null => exact ⟨'n', _, rfl, by decide, by decide⟩
  | bool b => cases b with
    | true => exact ⟨'t', _, rfl, by decide, by decide⟩
    | false => exact ⟨'f', _, rfl, by decide, by decide⟩
  | @number s n spells =>
    obtain ⟨behind, ⟨strict, exponent, -, rfl⟩, rfl⟩ := spells
    obtain ⟨c, digits, whole⟩ := List.exists_cons_of_ne_nil strict.whole_ne_nil
    have digit : c.isDigit = true := strict.isDigit_of_mem_whole c (by simp [whole])
    cases negative : n.negative with
    | true =>
      rw [Numeral.signChars, if_pos negative]
      exact ⟨'-', _, dropGap_cons (by decide) _, by decide, by decide⟩
    | false =>
      rw [Numeral.signChars, if_neg (by simp [negative]), whole]
      refine ⟨c, _, dropGap_cons (isGap_of_isDigit digit) _, ?_, ?_⟩ <;>
        · rintro rfl
          exact absurd digit (by decide)
  | text => exact ⟨'"', _, dropGap_cons (by decide) _, by decide, by decide⟩
  | array => exact ⟨'[', _, dropGap_cons (by decide) _, by decide, by decide⟩
  | object => exact ⟨'\x7b', _, dropGap_cons (by decide) _, by decide, by decide⟩
  | @padded before s after t front back spells ih =>
    obtain ⟨c, rest, visible, apart⟩ := ih
    refine ⟨c, rest ++ after, ?_, apart⟩
    rw [List.append_assoc, dropGap_append front, dropGap_append_of_cons visible]

/-- A value takes at least one character. -/
theorem Tree.Spells.length_pos (spells : Spells s t) : 0 < s.length := by
  obtain ⟨c, rest, visible, -⟩ := spells.dropGap_eq_cons
  cases s with
  | nil => cases visible
  | cons c s => exact Nat.succ_pos _

/-- An array without items may hold blanks. -/
theorem Tree.Spells.emptyArray (blank : IsBlank gap) :
    Spells ('[' :: (gap ++ [']'])) (.array [] none) := by
  have each : ∀ item ∈ ([] : List Spelling), Spells item.chars item.tree := nofun
  simpa [commas] using Spells.array blank each

/-- An object without fields may hold blanks. -/
theorem Tree.Spells.emptyObject (blank : IsBlank gap) :
    Spells ('\x7b' :: (gap ++ ['\x7d'])) (.object [] none) := by
  have named : ∀ field ∈ ([] : List (Spelling × Spelling)), ∃ name, field.1.tree = .text name :=
    nofun
  simpa [commas] using Spells.object blank named nofun nofun

/-- Blanks may stand in front of a value. -/
theorem Tree.Spells.behind (spells : Spells s t) (blank : IsBlank gap) : Spells (gap ++ s) t := by
  have nothing : IsBlank [] := nofun
  simpa using spells.padded blank nothing

/-- Blanks may stand behind a value. -/
theorem Tree.Spells.before (spells : Spells s t) (blank : IsBlank gap) : Spells (s ++ gap) t := by
  have nothing : IsBlank [] := nofun
  simpa using spells.padded nothing blank

namespace Parsed

/-- Blanks in front of a value do not matter. -/
theorem value_congr {s s' : List Char} (same : dropGap s = dropGap s') :
    value bound s = value bound s' := by
  cases bound with
  | zero => rfl
  | succ bound => rw [value, value, same]

/-- Blanks in front of the items of an array do not matter. -/
theorem items_congr {s s' : List Char} (same : dropGap s = dropGap s') :
    items bound s = items bound s' := by
  cases bound with
  | zero => rfl
  | succ bound => rw [items, items, value_congr same]

/-- Blanks in front of the fields of an object do not matter. -/
theorem fields_congr {s s' : List Char} (same : dropGap s = dropGap s') :
    fields bound s = fields bound s' := by
  cases bound with
  | zero => rfl
  | succ bound => rw [fields, fields, value_congr same]

/-- A value that starts with a digit is a number. -/
theorem value_digit (digit : c.isDigit = true) :
    value (bound + 1) (c :: s) = number false (c :: s) := by
  rw [value, dropGap_cons (isGap_of_isDigit digit)]
  split <;> simp_all

/-- An array that is not closed at once has items. -/
theorem value_bracket (start : ∃ c rest, dropGap s = c :: rest ∧ c ≠ ']') :
    value (bound + 1) ('[' :: s) =
      ⟨.array (items bound s).found.1 (items bound s).found.2, (items bound s).rest⟩ := by
  obtain ⟨c, rest, visible, more⟩ := start
  rw [← items_congr (dropGap_dropGap s), value, dropGap_cons (by decide)]
  simp [visible, more]

/-- An object that is not closed at once has fields. -/
theorem value_brace (start : ∃ c rest, dropGap s = c :: rest ∧ c ≠ '\x7d') :
    value (bound + 1) ('\x7b' :: s) =
      ⟨.object (fields bound s).found.1 (fields bound s).found.2, (fields bound s).rest⟩ := by
  obtain ⟨c, rest, visible, more⟩ := start
  rw [← fields_congr (dropGap_dropGap s), value, dropGap_cons (by decide)]
  simp [visible, more]

/-- A text is taken apart into a tree, given calls enough, where what follows cannot go on a number.
Blanks behind the value may be left. -/
def ReadsAs (s : List Char) (t : Tree) : Prop :=
  ∀ bound after, 2 * s.length ≤ bound + 1 → Numeral.Stops after →
    ∃ rest, value bound (s ++ after) = ⟨t, some rest⟩ ∧ dropGap rest = dropGap after

/-- The items of an array are taken apart up to its closing bracket. -/
theorem items_commas {parts : List Spelling} (each : ∀ p ∈ parts, ReadsAs p.chars p.tree)
    (visible : ∀ p ∈ parts, 0 < p.chars.length) (nonempty : parts ≠ [])
    (enough : 2 * (commas (parts.map (·.chars))).length ≤ bound) :
    items bound (commas (parts.map (·.chars)) ++ ']' :: after) =
      ⟨(parts.map (·.tree), none), some after⟩ := by
  induction parts generalizing bound with
  | nil => exact absurd rfl nonempty
  | cons part others ih =>
    have length := visible part List.mem_cons_self
    -- One call reads the item and one more goes on behind the comma, which pays for both.
    cases others with
    | nil =>
      have alone : commas ([part].map (·.chars)) = part.chars := by simp [commas]
      rw [alone] at enough ⊢
      obtain ⟨bound, rfl⟩ := Nat.exists_eq_add_one.2 (show 0 < bound by omega)
      obtain ⟨rest, read, left⟩ :=
        each part List.mem_cons_self bound (']' :: after) (by omega) (stops_cons (by decide))
      rw [items, read]
      simp [left, dropGap_cons, isGap]
    | cons next others =>
      rw [List.map_cons, List.map_cons, commas_cons_cons] at enough ⊢
      rw [List.length_append, List.length_cons] at enough
      obtain ⟨bound, rfl⟩ := Nat.exists_eq_add_one.2 (show 0 < bound by omega)
      have later := ih (fun p member => each p (List.mem_cons_of_mem _ member))
        (fun p member => visible p (List.mem_cons_of_mem _ member)) (List.cons_ne_nil _ _)
        (show 2 * (commas ((next :: others).map (·.chars))).length ≤ bound by
          rw [List.map_cons]; omega)
      obtain ⟨rest, read, left⟩ := each part List.mem_cons_self bound
        (',' :: (commas ((next :: others).map (·.chars)) ++ ']' :: after)) (by omega)
        (stops_cons (by decide))
      rw [List.map_cons] at later read left
      rw [List.append_assoc, List.cons_append, items, read]
      simp [left, dropGap_cons, isGap, later]

/-- A field is taken apart into its key and its value, up to the mark behind it. -/
theorem fields_field {field : Spelling × Spelling} (named : ∃ name, field.1.tree = .text name)
    (key : ReadsAs field.1.chars field.1.tree) (content : ReadsAs field.2.chars field.2.tree)
    (mark : c = ',' ∨ c = '\x7d') (enough : 2 * (fieldSpelling field).length ≤ bound + 1) :
    fields (bound + 1) (fieldSpelling field ++ c :: after) =
      if c = ',' then
        ⟨((field.1.tree, field.2.tree) :: (fields bound after).found.1,
          (fields bound after).found.2), (fields bound after).rest⟩
      else ⟨([(field.1.tree, field.2.tree)], none), some after⟩ := by
  rw [fieldSpelling, List.length_append, List.length_cons] at enough
  have stops : Numeral.Stops (c :: after) := by
    obtain rfl | rfl := mark <;> exact stops_cons (by decide)
  obtain ⟨rest, read, left⟩ := key bound (':' :: (field.2.chars ++ c :: after)) (by omega)
    (stops_cons (by decide))
  obtain ⟨rest', item, behind⟩ := content bound (c :: after) (by omega) stops
  obtain ⟨name, isText⟩ := named
  rw [isText] at read ⊢
  rw [fieldSpelling, List.append_assoc, List.cons_append, fields, read]
  obtain rfl | rfl := mark <;> simp [left, behind, item, dropGap_cons, isGap]

/-- The fields of an object are taken apart up to its closing brace. -/
theorem fields_commas {parts : List (Spelling × Spelling)}
    (named : ∀ p ∈ parts, ∃ name, p.1.tree = .text name)
    (keys : ∀ p ∈ parts, ReadsAs p.1.chars p.1.tree)
    (values : ∀ p ∈ parts, ReadsAs p.2.chars p.2.tree)
    (nonempty : parts ≠ []) (enough : 2 * (commas (parts.map fieldSpelling)).length ≤ bound) :
    fields bound (commas (parts.map fieldSpelling) ++ '\x7d' :: after) =
      ⟨(parts.map fun p => (p.1.tree, p.2.tree), none), some after⟩ := by
  induction parts generalizing bound with
  | nil => exact absurd rfl nonempty
  | cons part others ih =>
    have isText := named part List.mem_cons_self
    have key := keys part List.mem_cons_self
    have content := values part List.mem_cons_self
    have length : 0 < (fieldSpelling part).length := by
      rw [fieldSpelling, List.length_append, List.length_cons]
      omega
    cases others with
    | nil =>
      have alone : commas ([part].map fieldSpelling) = fieldSpelling part := by simp [commas]
      rw [alone] at enough ⊢
      obtain ⟨bound, rfl⟩ := Nat.exists_eq_add_one.2 (show 0 < bound by omega)
      rw [fields_field isText key content (.inr rfl) (by omega)]
      rfl
    | cons next others =>
      rw [List.map_cons, List.map_cons, commas_cons_cons] at enough ⊢
      rw [List.length_append, List.length_cons] at enough
      obtain ⟨bound, rfl⟩ := Nat.exists_eq_add_one.2 (show 0 < bound by omega)
      have later := ih (fun p member => named p (List.mem_cons_of_mem _ member))
        (fun p member => keys p (List.mem_cons_of_mem _ member))
        (fun p member => values p (List.mem_cons_of_mem _ member)) (List.cons_ne_nil _ _)
        (show 2 * (commas ((next :: others).map fieldSpelling)).length ≤ bound by
          rw [List.map_cons]; omega)
      rw [List.map_cons] at later
      rw [List.append_assoc, List.cons_append,
        fields_field isText key content (.inl rfl) (by omega), later]
      rfl

/-- A spelled text is taken apart into the tree that it is spelled for. -/
theorem readsAs {s : List Char} {t : Tree} (spells : Tree.Spells s t) : ReadsAs s t := by
  induction spells with
  | null =>
    intro bound after enough stops
    obtain ⟨bound, rfl⟩ := Nat.exists_eq_add_one.2
      (show 0 < bound by have := Tree.Spells.null.length_pos; omega)
    exact ⟨after, by simp [dropGap, isGap, word], rfl⟩
  | bool b =>
    intro bound after enough stops
    obtain ⟨bound, rfl⟩ := Nat.exists_eq_add_one.2
      (show 0 < bound by have := (Tree.Spells.bool b).length_pos; omega)
    exact ⟨after, by cases b <;> simp [dropGap, isGap, word], rfl⟩
  | @number s n spells =>
    intro bound after enough stops
    obtain ⟨bound, rfl⟩ := Nat.exists_eq_add_one.2
      (show 0 < bound by have := (Tree.Spells.number spells).length_pos; omega)
    obtain ⟨behind, unsigned, rfl⟩ := spells
    have read := Parsed.numeral_append unsigned stops
    refine ⟨after, ?_, rfl⟩
    cases negative : n.negative with
    | true =>
      rw [negative] at read
      simp [Numeral.signChars, negative, dropGap, isGap, number, read]
    | false =>
      obtain ⟨strict, exponent, -, rfl⟩ := unsigned
      obtain ⟨c, digits, whole⟩ := List.exists_cons_of_ne_nil strict.whole_ne_nil
      have digit : c.isDigit = true := strict.isDigit_of_mem_whole c (by simp [whole])
      rw [negative] at read
      rw [Numeral.signChars, if_neg (by simp [negative])]
      simp only [whole, List.nil_append, List.append_assoc, List.cons_append] at read ⊢
      simp [-value, value_digit digit, number, read]
  | @text s pieces spells =>
    intro bound after enough stops
    obtain ⟨bound, rfl⟩ := Nat.exists_eq_add_one.2
      (show 0 < bound by have := (Tree.Spells.text spells).length_pos; omega)
    have scanned := spells.scan_append after
    exact ⟨after, by simp [dropGap, isGap, text, scanned], rfl⟩
  | @array gap items blank each ih =>
    intro bound after enough stops
    obtain ⟨bound, rfl⟩ := Nat.exists_eq_add_one.2
      (show 0 < bound by have := (Tree.Spells.array blank each).length_pos; omega)
    refine ⟨after, ?_, rfl⟩
    rw [List.length_cons, List.length_append, List.length_append] at enough
    rw [List.cons_append, List.append_assoc, List.append_assoc, List.singleton_append]
    cases items with
    | nil => simp [commas, dropGap_cons, dropGap_append blank, isGap]
    | cons item others =>
      obtain ⟨c, rest, visible, more, -⟩ := (each item List.mem_cons_self).dropGap_eq_cons
      obtain ⟨behind, start⟩ := dropGap_commas visible (others.map (·.chars)) (']' :: after)
      rw [← dropGap_append blank, ← List.map_cons] at start
      rw [value_bracket ⟨c, behind, start, more⟩, items_congr (dropGap_append blank _),
        items_commas ih (fun p member => (each p member).length_pos) (List.cons_ne_nil _ _)
          (by omega)]
  | @object gap fields blank named keys values first second =>
    intro bound after enough stops
    obtain ⟨bound, rfl⟩ := Nat.exists_eq_add_one.2
      (show 0 < bound by have := (Tree.Spells.object blank named keys values).length_pos; omega)
    refine ⟨after, ?_, rfl⟩
    rw [List.length_cons, List.length_append, List.length_append] at enough
    rw [List.cons_append, List.append_assoc, List.append_assoc, List.singleton_append]
    cases fields with
    | nil => simp [commas, dropGap_cons, dropGap_append blank, isGap]
    | cons field others =>
      obtain ⟨c, rest, visible, -, more⟩ := (keys field List.mem_cons_self).dropGap_eq_cons
      obtain ⟨behind, start⟩ := dropGap_commas
        (dropGap_append_of_cons visible (':' :: field.2.chars)) (others.map fieldSpelling)
        ('\x7d' :: after)
      rw [← dropGap_append blank, ← fieldSpelling, ← List.map_cons] at start
      rw [value_brace ⟨c, behind, start, more⟩, fields_congr (dropGap_append blank _),
        fields_commas named first second (List.cons_ne_nil _ _) (by omega)]
  | @padded before s behind t front back spells ih =>
    intro bound after enough stops
    rw [List.length_append, List.length_append] at enough
    obtain ⟨rest, read, left⟩ := ih bound (behind ++ after) (by omega) (stops_append back stops)
    refine ⟨rest, ?_, by rw [left, dropGap_append back]⟩
    rw [← read, List.append_assoc, List.append_assoc]
    exact value_congr (dropGap_append front _)

/-! ## What is taken apart is spelled -/

/-- What values are taken apart into, with so many calls, is spelled at the start of the text. -/
def ValuesSpelled (bound : Nat) : Prop :=
  ∀ s t rest, value bound s = ⟨t, some rest⟩ → ∃ found, Tree.Spells found t ∧ s = found ++ rest

/-- What the items of an array are taken apart into is spelled in front of a closing bracket. -/
def ItemsSpelled (bound : Nat) : Prop :=
  ∀ s trees ending rest, items bound s = ⟨(trees, ending), some rest⟩ →
    ending = none ∧ ∃ parts : List Spelling, (∀ p ∈ parts, Tree.Spells p.chars p.tree) ∧
      trees = parts.map (·.tree) ∧ parts ≠ [] ∧ s = commas (parts.map (·.chars)) ++ ']' :: rest

/-- What the fields of an object are taken apart into is spelled in front of a closing brace. -/
def FieldsSpelled (bound : Nat) : Prop :=
  ∀ s trees ending rest, fields bound s = ⟨(trees, ending), some rest⟩ →
    ending = none ∧ ∃ parts : List (Spelling × Spelling),
      (∀ p ∈ parts, ∃ name, p.1.tree = .text name) ∧
      (∀ p ∈ parts, Tree.Spells p.1.chars p.1.tree) ∧
      (∀ p ∈ parts, Tree.Spells p.2.chars p.2.tree) ∧
      trees = parts.map (fun p => (p.1.tree, p.2.tree)) ∧ parts ≠ [] ∧
      s = commas (parts.map fieldSpelling) ++ '\x7d' :: rest

/-- A fixed word that is found stands at the start of the text. -/
theorem of_word_eq {found : Tree} {due s rest : List Char}
    (read : word found due s = ⟨t, some rest⟩) : t = found ∧ s = due ++ rest := by
  induction due generalizing s with
  | nil =>
    cases read
    exact ⟨rfl, rfl⟩
  | cons c due ih =>
    cases s with
    | nil => cases read
    | cons d s =>
      rw [word] at read
      split at read
      · rename_i same
        obtain ⟨rfl, rfl⟩ := ih read
        exact ⟨rfl, by rw [same]; rfl⟩
      · cases read

/-- A text that is found is spelled up to its closing quote. -/
theorem exists_spells_of_text {s rest : List Char} (read : text s = ⟨t, some rest⟩) :
    ∃ found, Tree.Spells found t ∧ '"' :: s = found ++ rest := by
  unfold text at read
  split at read
  · rename_i pieces after scanned
    cases read
    obtain ⟨found, rfl, spells⟩ := Quoted.exists_spells_of_scan scanned
    exact ⟨_, .text spells, by simp⟩
  · cases read

/-- A number that is found is spelled at the start of the text. -/
theorem exists_spells_of_number {negative : Bool} {s rest : List Char}
    (read : number negative s = ⟨t, some rest⟩) :
    ∃ found, Tree.Spells found t ∧ (if negative then ['-'] else []) ++ s = found ++ rest := by
  unfold number at read
  split at read
  · rename_i n after numeral
    cases read
    obtain ⟨rfl, found, spells, rfl⟩ := exists_spells_of_numeral numeral
    exact ⟨_, .number ⟨found, spells, rfl⟩, by simp [Numeral.signChars]⟩
  · cases read

/-- Values are spelled when the items and fields in them are. -/
theorem valuesSpelled_succ (itemsSpelled : ItemsSpelled bound)
    (fieldsSpelled : FieldsSpelled bound) : ValuesSpelled (bound + 1) := by
  intro s t rest read
  obtain ⟨gap, blank, front⟩ := exists_gap s
  suffices token : ∃ found, Tree.Spells found t ∧ dropGap s = found ++ rest by
    obtain ⟨found, spells, left⟩ := token
    exact ⟨gap ++ found, spells.behind blank, by rw [front, left, List.append_assoc]⟩
  rw [value] at read
  split at read
  · cases read
  · obtain ⟨rfl, rfl⟩ := of_word_eq read
    exact ⟨_, .null, ‹_›⟩
  · obtain ⟨rfl, rfl⟩ := of_word_eq read
    exact ⟨_, .bool true, ‹_›⟩
  · obtain ⟨rfl, rfl⟩ := of_word_eq read
    exact ⟨_, .bool false, ‹_›⟩
  · rename_i left
    rw [left]
    exact exists_spells_of_text read
  · rename_i left
    rw [left]
    exact exists_spells_of_number read
  · rename_i after left
    rw [left]
    obtain ⟨gap, blank, inside⟩ := exists_gap after
    split at read
    · rename_i more
      cases read
      exact ⟨_, .emptyArray blank, by rw [inside, more]; simp⟩
    · cases read
    · split at read
      rename_i trees ending behind found
      cases read
      obtain ⟨rfl, parts, each, rfl, -, split⟩ := itemsSpelled _ _ _ _ found
      refine ⟨_, .array blank each, ?_⟩
      rw [inside, split]
      simp
  · rename_i after left
    rw [left]
    obtain ⟨gap, blank, inside⟩ := exists_gap after
    split at read
    · rename_i more
      cases read
      exact ⟨_, .emptyObject blank, by rw [inside, more]; simp⟩
    · cases read
    · split at read
      rename_i trees ending behind found
      cases read
      obtain ⟨rfl, parts, named, keys, values, rfl, -, split⟩ := fieldsSpelled _ _ _ _ found
      refine ⟨_, .object blank named keys values, ?_⟩
      rw [inside, split]
      simp
  · rename_i left
    rw [left]
    split at read
    · exact exists_spells_of_number read
    · cases read

/-- Items are spelled when the values and items in them are. -/
theorem itemsSpelled_succ (valuesSpelled : ValuesSpelled bound)
    (itemsSpelled : ItemsSpelled bound) : ItemsSpelled (bound + 1) := by
  intro s trees ending rest read
  rw [items] at read
  split at read
  · cases read
  · rename_i item after value
    obtain ⟨found, spells, rfl⟩ := valuesSpelled _ _ _ value
    obtain ⟨gap, blank, behind⟩ := exists_gap after
    have spells := spells.before blank
    split at read
    · rename_i left
      split at read
      rename_i others ending rest items
      cases read
      obtain ⟨rfl, parts, each, rfl, nonempty, split⟩ := itemsSpelled _ _ _ _ items
      obtain ⟨next, parts, rfl⟩ := List.exists_cons_of_ne_nil nonempty
      refine ⟨rfl, ⟨_, item⟩ :: next :: parts, List.forall_mem_cons.2 ⟨spells, each⟩, rfl,
        List.cons_ne_nil _ _, ?_⟩
      rw [behind, left, split]
      simp [commas_cons_cons]
    · rename_i left
      cases read
      refine ⟨rfl, [⟨_, item⟩], by simpa using spells, rfl, List.cons_ne_nil _ _, ?_⟩
      rw [behind, left]
      simp [commas]
    · cases read
    · cases read

/-- Fields are spelled when the values and fields in them are. -/
theorem fieldsSpelled_succ (valuesSpelled : ValuesSpelled bound)
    (fieldsSpelled : FieldsSpelled bound) : FieldsSpelled (bound + 1) := by
  intro s trees ending rest read
  rw [fields] at read
  split at read
  · rename_i key after text
    obtain ⟨found, name, rfl⟩ := valuesSpelled _ _ _ text
    obtain ⟨gap, blank, behind⟩ := exists_gap after
    have name := name.before blank
    split at read
    · rename_i after left
      split at read
      · cases read
      · rename_i item after value
        obtain ⟨content, spells, rfl⟩ := valuesSpelled _ _ _ value
        obtain ⟨gap, blank, further⟩ := exists_gap after
        have spells := spells.before blank
        split at read
        · rename_i last
          split at read
          rename_i others ending rest fields
          cases read
          obtain ⟨rfl, parts, named, keys, values, rfl, nonempty, split⟩ :=
            fieldsSpelled _ _ _ _ fields
          obtain ⟨next, parts, rfl⟩ := List.exists_cons_of_ne_nil nonempty
          refine ⟨rfl, (⟨_, .text key⟩, ⟨_, item⟩) :: next :: parts,
            List.forall_mem_cons.2 ⟨⟨key, rfl⟩, named⟩, List.forall_mem_cons.2 ⟨name, keys⟩,
            List.forall_mem_cons.2 ⟨spells, values⟩, rfl, List.cons_ne_nil _ _, ?_⟩
          rw [behind, left, further, last, split]
          simp [commas_cons_cons, fieldSpelling]
        · rename_i last
          cases read
          refine ⟨rfl, [(⟨_, .text key⟩, ⟨_, item⟩)], by simp, by simpa using name,
            by simpa using spells, rfl, List.cons_ne_nil _ _, ?_⟩
          rw [behind, left, further, last]
          simp [commas, fieldSpelling]
        · cases read
        · cases read
    · cases read
    · cases read
  · cases read

/-- Whatever is taken apart is spelled. -/
theorem spelled (bound : Nat) :
    ValuesSpelled bound ∧ ItemsSpelled bound ∧ FieldsSpelled bound := by
  induction bound with
  | zero =>
    refine ⟨fun s t rest read => ?_, fun s trees ending rest read => ?_,
      fun s trees ending rest read => ?_⟩
    · rw [value] at read
      cases read
    · rw [items] at read
      cases read
    · rw [fields] at read
      cases read
  | succ bound ih =>
    obtain ⟨valuesSpelled, itemsSpelled, fieldsSpelled⟩ := ih
    exact ⟨valuesSpelled_succ itemsSpelled fieldsSpelled,
      itemsSpelled_succ valuesSpelled itemsSpelled,
      fieldsSpelled_succ valuesSpelled fieldsSpelled⟩

end Parsed

/-! ## Spelled documents are passed over -/

/-- A list is passed over when each of its items is. -/
theorem passItems_eq_ok {items : List Tree} (each : ∀ item ∈ items, item.pass = .ok ()) :
    Tree.passItems items = .ok () := by
  induction items with
  | nil => rfl
  | cons item rest ih =>
    obtain ⟨first, others⟩ := List.forall_mem_cons.1 each
    exact bind_eq_ok.2 ⟨(), first, ih others⟩

/-- Fields are passed over when their keys are texts and each of their values is. -/
theorem passFields_eq_ok {fields : List (Tree × Tree)}
    (named : ∀ field ∈ fields, ∃ name, field.1 = .text name)
    (each : ∀ field ∈ fields, field.2.pass = .ok ()) : Tree.passFields fields = .ok () := by
  induction fields with
  | nil => rfl
  | cons field rest ih =>
    obtain ⟨key, value⟩ := field
    obtain ⟨⟨name, rfl⟩, texts⟩ := List.forall_mem_cons.1 named
    obtain ⟨first, others⟩ := List.forall_mem_cons.1 each
    exact bind_eq_ok.2 ⟨(), rfl, bind_eq_ok.2 ⟨(), first, ih texts others⟩⟩

/-- A tree that is spelled is passed over, however deep it is. -/
theorem Tree.Spells.pass_eq_ok (spells : Spells s t) : t.pass = .ok () := by
  induction spells with
  | null | bool | number | text => rfl
  | array blank each ih =>
    exact bind_eq_ok.2 ⟨(), passItems_eq_ok (List.forall_mem_map.2 ih), rfl⟩
  | object blank named keys values first second =>
    exact bind_eq_ok.2 ⟨(), passFields_eq_ok (List.forall_mem_map.2 named)
      (List.forall_mem_map.2 second), rfl⟩
  | padded front back spells ih => exact ih

/-! ## Documents -/

/-- A text with nothing left of it consists of blanks. -/
theorem isBlank_of_dropGap (left : dropGap s = []) : IsBlank s := by
  obtain ⟨gap, blank, split⟩ := exists_gap s
  rwa [split, left, List.append_nil]

/-- A text is taken apart into a tree, with nothing left, when it spells the tree and only then. -/
theorem parse_eq_iff {text : List Char} {t : Tree} :
    parse text = ⟨t, false⟩ ↔ Tree.Spells text t := by
  constructor
  · intro same
    cases read : Parsed.value (2 * text.length + 1) text with
    | mk found rest =>
      rw [parse, read] at same
      cases rest with
      | none => cases same
      | some rest =>
        obtain ⟨rfl, empty⟩ : found = t ∧ (dropGap rest).isEmpty = true := by simpa using same
        obtain ⟨s, spells, rfl⟩ := (Parsed.spelled _).1 _ _ _ read
        exact spells.before (isBlank_of_dropGap (List.isEmpty_iff.1 empty))
  · intro spells
    obtain ⟨rest, read, left⟩ := Parsed.readsAs spells (2 * text.length + 1) [] (by omega) nofun
    rw [List.append_nil] at read
    have left : dropGap rest = [] := left
    rw [parse, read]
    simp only [left, List.isEmpty_nil, Bool.not_true]

/-- A text spells one tree at most. -/
theorem Tree.Spells.unique {text : List Char} {t t' : Tree} (spells : Spells text t)
    (spells' : Spells text t') : t = t' := by
  have same := (parse_eq_iff.2 spells).symm.trans (parse_eq_iff.2 spells')
  exact congrArg Document.tree same

/-- What is read from a text is what is read, with all the room there is, from the tree that the
text spells. -/
theorem readDocument_eq_ok_iff {α : Type} {reader : Reader α} {text : String} {a : α} :
    readDocument reader text = .ok a ↔
      ∃ t, Tree.Spells text.toList t ∧ reader maxRoom t = .ok a := by
  simp only [← parse_eq_iff, readDocument]
  cases parse text.toList with
  | mk tree hasMore =>
    constructor
    · intro same
      obtain ⟨found, read, same⟩ := bind_eq_ok.1 same
      cases hasMore with
      | true => cases same
      | false =>
        cases same
        exact ⟨tree, rfl, read⟩
    · rintro ⟨t, ⟨⟩, read⟩
      dsimp only
      rw [read]
      rfl

end Troupe.Json
