import Troupe.Proofs.Json.Field
import Troupe.Proofs.Json.Parser
import Troupe.Settings

/-!
# Partial settings are completed by the defaults

What a document says about the settings is said by `Settings.Draft.WrittenIn`: each setting is given
once, by a value of its type, or not at all. Settings are read from the documents in which a draft
is written and from no others (`Settings.ofText_eq_ok_iff`); those that the draft lacks have their
defaults. Neither the order of the fields matters nor what stands under other names, and an array of
values is read like the object in which the names stand in front of them.
-/

namespace Troupe

open Json

namespace Settings

/-- The settings of a draft: what it lacks has its default. -/
def Draft.settings (d : Draft) : Settings where
  movePause := d.movePause.getD default.movePause
  radius := d.radius.getD default.radius
  spawnOrigin := d.spawnOrigin.getD default.spawnOrigin
  spawnSpacing := d.spawnSpacing.getD default.spawnSpacing

/-- A draft is what a tree has for the settings: each is given by one value of its type or not at
all. -/
structure Draft.WrittenIn (d : Draft) (t : Tree) : Prop where
  /-- The tree lays out the fields. -/
  layout : t.LaysOut 4
  /-- The rest after a shift. -/
  movePause : Given (fun value (w : UInt64) => value.IsInteger w.toNat)
    (t.written 0 "move_pause_ms") d.movePause
  /-- The distance at which sprites meet. -/
  radius : Given Tree.IsReal (t.written 1 "collision_radius") d.radius
  /-- The coordinates of the first sprite. -/
  spawnOrigin : Given (fun value (w : Int64) => value.IsInteger w.toInt)
    (t.written 2 "spawn_origin") d.spawnOrigin
  /-- The distance between sprites that appear. -/
  spawnSpacing : Given (fun value (w : Int64) => value.IsInteger w.toInt)
    (t.written 3 "spawn_spacing") d.spawnSpacing

/-- The parts of a draft of settings. -/
def parts : List (Portion Draft) := [
  ⟨UInt64, "move_pause_ms", readUnsigned, (·.movePause),
    fun a d => { d with movePause := some a }⟩,
  ⟨Binary64, "collision_radius", readReal, (·.radius), fun a d => { d with radius := some a }⟩,
  ⟨Int64, "spawn_origin", readSigned, (·.spawnOrigin),
    fun a d => { d with spawnOrigin := some a }⟩,
  ⟨Int64, "spawn_spacing", readSigned, (·.spawnSpacing),
    fun a d => { d with spawnSpacing := some a }⟩]

/-- Settings are read part by part. -/
theorem hasParts : shape.HasParts parts where
  slots := rfl
  apart := { distinct := by decide, own := by simp [parts], others := by simp [parts] }
  blank := by simp [parts, shape]
  ext d e same := by
    cases d
    cases e
    simpa [parts] using same

variable {room : Nat} {t : Tree} {s : Settings} {d : Draft}

/-- A tree without flaws fills the drafts that are written in it. -/
theorem fills_iff (passed : t.pass = .ok ()) : shape.Fills room d t ↔ d.WrittenIn t := by
  constructor
  · intro fills
    exact {
      layout := fills.laysOut hasParts
      movePause := (fills.given hasParts 0 rfl).imp fun _ _ => readUnsigned_eq_ok_iff.1
      radius := (fills.given hasParts 1 rfl).imp fun _ _ => readReal_eq_ok_iff.1
      spawnOrigin := (fills.given hasParts 2 rfl).imp fun _ _ => readSigned_eq_ok_iff.1
      spawnSpacing := (fills.given hasParts 3 rfl).imp fun _ _ => readSigned_eq_ok_iff.1 }
  · intro written
    refine Shape.fills_of_given hasParts passed written.layout fun {index q} here => ?_
    match index with
    | 0 => cases here; exact written.movePause.imp fun _ _ => readUnsigned_eq_ok_iff.2
    | 1 => cases here; exact written.radius.imp fun _ _ => readReal_eq_ok_iff.2
    | 2 => cases here; exact written.spawnOrigin.imp fun _ _ => readSigned_eq_ok_iff.2
    | 3 => cases here; exact written.spawnSpacing.imp fun _ _ => readSigned_eq_ok_iff.2

/-- Settings are read from the trees that a draft of them is written in. -/
theorem read_eq_ok_iff (passed : t.pass = .ok ()) :
    read (room + 1) t = .ok s ↔ ∃ d : Draft, d.WrittenIn t ∧ d.settings = s := by
  constructor
  · intro read
    obtain ⟨inside, lack, d, -, fills, finished⟩ := Shape.exists_fills_of_read read
    exact ⟨d, (fills_iff passed).1 fills, Except.ok.inj finished⟩
  · rintro ⟨d, written, rfl⟩
    have fills : shape.Fills room d t := (fills_iff passed).2 written
    obtain ⟨lack, read⟩ := fills.read_eq
    exact read

/-- Settings are found in a text when they are read from it. -/
theorem ofText_eq_ok_iff_read {text : String} :
    ofText text = .ok s ↔ readDocument read text = .ok s := by
  unfold ofText
  cases readDocument read text <;> simp

/-- Settings are found in the texts that spell a tree with a draft of them, and in no others. -/
theorem ofText_eq_ok_iff {text : String} :
    ofText text = .ok s ↔
      ∃ t, Tree.Spells text.toList t ∧ ∃ d : Draft, d.WrittenIn t ∧ d.settings = s := by
  rw [ofText_eq_ok_iff_read, readDocument_eq_ok_iff]
  refine exists_congr fun t => and_congr_right fun spells => ?_
  exact @read_eq_ok_iff 126 t s spells.pass_eq_ok

/-- A text without settings is refused. -/
theorem exists_refusal {text : String} (none : ∀ s, ofText text ≠ .ok s) :
    ∃ refusal, ofText text = .error (.refused refusal) := by
  unfold ofText at none ⊢
  cases read : readDocument Settings.read text with
  | ok s =>
    rw [read] at none
    exact absurd rfl (none s)
  | error refusal => exact ⟨refusal, rfl⟩

/-! ## Legal values -/

/-- The fields of settings in order, with the values that are legal for them: an unsigned word, a
number that is read as a finite one, and two signed words. -/
def legalValues : List (String × (Tree → Prop)) := [
  ("move_pause_ms", fun value => ∃ w : UInt64, value.IsInteger w.toNat),
  ("collision_radius", fun value => ∃ x, value.IsReal x),
  ("spawn_origin", fun value => ∃ w : Int64, value.IsInteger w.toInt),
  ("spawn_spacing", fun value => ∃ w : Int64, value.IsInteger w.toInt)]

/-- The names of the fields in order. -/
def names : List String := legalValues.map (·.1)

/-- The fields of an object that settings have. -/
def known (fields : List (String × Tree)) : List (String × Tree) :=
  fields.filter fun field => field.1 ∈ names

/-- A tree has each field at most once, with a legal value. -/
def IsLegal (t : Tree) : Prop :=
  ∀ index name legal, legalValues[index]? = some (name, legal) →
    (t.written index name).length ≤ 1 ∧ ∀ value ∈ t.written index name, legal value

/-- A draft is written in the trees that lay out the fields and have each of them at most once, with
a legal value. -/
theorem exists_writtenIn_iff : (∃ d : Draft, d.WrittenIn t) ↔ t.LaysOut 4 ∧ IsLegal t := by
  constructor
  · rintro ⟨d, written⟩
    refine ⟨written.layout, fun index name legal here => ?_⟩
    match index with
    | 0 => cases here; exact exists_given_iff.1 ⟨_, written.movePause⟩
    | 1 => cases here; exact exists_given_iff.1 ⟨_, written.radius⟩
    | 2 => cases here; exact exists_given_iff.1 ⟨_, written.spawnOrigin⟩
    | 3 => cases here; exact exists_given_iff.1 ⟨_, written.spawnSpacing⟩
  · rintro ⟨layout, legal⟩
    obtain ⟨movePause, first⟩ := exists_given_iff.2 (legal 0 _ _ rfl)
    obtain ⟨radius, second⟩ := exists_given_iff.2 (legal 1 _ _ rfl)
    obtain ⟨spawnOrigin, third⟩ := exists_given_iff.2 (legal 2 _ _ rfl)
    obtain ⟨spawnSpacing, fourth⟩ := exists_given_iff.2 (legal 3 _ _ rfl)
    exact ⟨⟨movePause, radius, spawnOrigin, spawnSpacing⟩, layout, first, second, third, fourth⟩

/-- A text that spells a tree with a field twice or with a value that is not legal is refused. -/
theorem exists_refusal_of_not_isLegal {text : String} (spells : Tree.Spells text.toList t)
    (illegal : ¬ IsLegal t) : ∃ refusal, ofText text = .error (.refused refusal) := by
  refine exists_refusal fun s found => ?_
  obtain ⟨t', spells', d, written, -⟩ := ofText_eq_ok_iff.1 found
  obtain rfl := spells.unique spells'
  exact illegal (exists_writtenIn_iff.1 ⟨d, written⟩).2

/-! ## Order and layout -/

/-- The order of the fields does not matter for what is written of one of them, nor do fields with
other names. -/
theorem written_perm {fields fields' : List (String × Tree)} {index : Nat} {name : String}
    (among : name ∈ names) (same : (known fields).Perm (known fields')) :
    ((Tree.ofFields fields).written index name).Perm
      ((Tree.ofFields fields').written index name) := by
  have filtered (fields : List (String × Tree)) : fields.filter (fun field => field.1 = name) =
      (known fields).filter fun field => field.1 = name := by
    rw [known, List.filter_filter]
    refine List.filter_congr fun field _ => ?_
    by_cases named : field.1 = name
    · simp [named, among]
    · simp [named]
  rw [Tree.written_ofFields, Tree.written_ofFields, filtered, filtered fields']
  exact (same.filter _).map _

/-- A draft that is written in an object is written in any other one with the same known fields. -/
theorem Draft.WrittenIn.perm {fields fields' : List (String × Tree)}
    (written : d.WrittenIn (.ofFields fields))
    (same : (known fields).Perm (known fields')) : d.WrittenIn (.ofFields fields') where
  layout := Tree.laysOut_ofFields 4 fields'
  movePause := written.movePause.perm (written_perm (by decide) same)
  radius := written.radius.perm (written_perm (by decide) same)
  spawnOrigin := written.spawnOrigin.perm (written_perm (by decide) same)
  spawnSpacing := written.spawnSpacing.perm (written_perm (by decide) same)

/-- Settings are read from an array as from the object in which the names of the fields stand in
front of its items. -/
theorem read_ofList {values : List Tree} (few : values.length ≤ 4) :
    read room (.ofList values) = read room (.ofFields (names.zip values)) := by
  have keyed : Tree.keyFields (names.zip values) =
      (parts.map fun part => Tree.ofString part.name).zip values := by
    rw [show (parts.map fun part => Tree.ofString part.name) = names.map Tree.ofString from rfl,
      List.zip_map_left]
    rfl
  cases room with
  | zero => rfl
  | succ room =>
    have same : Shape.readInOrder room none (parts.map Portion.slot) values shape.blank = _ :=
      Shape.readInOrder_eq_readByName hasParts.apart (List.Sublist.refl parts) few hasParts.blank
    rw [read, Tree.ofList, Tree.ofFields_eq, Shape.read, Shape.read, hasParts.slots, keyed, same]
    cases Shape.readByName (parts.map Portion.slot) room _ shape.blank <;> rfl

/-- Of texts that spell trees from which the same is read, the same settings are found, and both are
refused for the same reason. -/
theorem ofText_congr {text text' : String} {t t' : Tree} (spells : Tree.Spells text.toList t)
    (spells' : Tree.Spells text'.toList t') (same : read maxRoom t = read maxRoom t') :
    ofText text = ofText text' := by
  have document : readDocument read text = readDocument read text' := by
    rw [readDocument, readDocument, parse_eq_iff.2 spells, parse_eq_iff.2 spells']
    dsimp only
    rw [same]
  rw [ofText, ofText, document]

/-- What is found in an object is found in any other one with the same known fields. -/
theorem ofText_perm {text text' : String} {fields fields' : List (String × Tree)}
    (spells : Tree.Spells text.toList (.ofFields fields))
    (spells' : Tree.Spells text'.toList (.ofFields fields'))
    (same : (known fields).Perm (known fields')) (found : ofText text = .ok s) :
    ofText text' = .ok s := by
  obtain ⟨t, spelled, d, written, rfl⟩ := ofText_eq_ok_iff.1 found
  obtain rfl := spells.unique spelled
  exact ofText_eq_ok_iff.2 ⟨_, spells', d, written.perm same, rfl⟩

/-- Partial settings are completed by the defaults. From a document that lays out the fields as an
object or as an array, with each of them at most once and with a legal value, the settings that are
given are read, and the others have their defaults. The distance is a finite number then, and every
number is legal for it that is no more than the greatest finite one cut off behind fifteen digits. A
short number that stands for a finite one is read as this one. If a field is there twice, or has
another value, the document is refused. Of an object, neither the order of the fields matters nor
what stands under other names. An array of values is read like the object in which the names of as
many fields stand in front of them. -/
theorem partial_settings_are_completed :
    (∀ (text : String) (t : Tree), Tree.Spells text.toList t → t.LaysOut 4 → IsLegal t →
      ∃ d : Draft, d.WrittenIn t ∧ ofText text = .ok d.settings ∧
        ∀ x, d.radius = some x → x.isFinite = true) ∧
    (∀ n : Numeral, n.IsStrict → n.AtMost (179769313486231 * Nat.pow 10 294) →
      ∃ x, (Tree.number n).IsReal x) ∧
    (∀ (n : Numeral) (x : Binary64), n.IsShort → n.Denotes x →
      ∀ y, (Tree.number n).IsReal y ↔ y = x) ∧
    (∀ (text : String) (t : Tree), Tree.Spells text.toList t → ¬ IsLegal t →
      ∃ refusal, ofText text = .error (.refused refusal)) ∧
    (∀ (text text' : String) (fields fields' : List (String × Tree)),
      Tree.Spells text.toList (.ofFields fields) → Tree.Spells text'.toList (.ofFields fields') →
      (known fields).Perm (known fields') → (ofText text).toOption = (ofText text').toOption) ∧
    ∀ (text text' : String) (values : List Tree), values.length ≤ 4 →
      Tree.Spells text.toList (.ofList values) →
      Tree.Spells text'.toList (.ofFields (names.zip values)) → ofText text = ofText text' := by
  refine ⟨fun text t spells layout legal => ?_,
    fun n strict small => (Numeral.exists_real? strict small).imp fun x real => ⟨n, rfl, real⟩,
    fun n x short denotes y => Tree.isReal_iff_of_denotes short denotes,
    fun text t spells illegal => exists_refusal_of_not_isLegal spells illegal,
    fun text text' fields fields' spells spells' same => ?_,
    fun text text' values few spells spells' => ofText_congr spells spells' (read_ofList few)⟩
  · obtain ⟨d, written⟩ := exists_writtenIn_iff.2 ⟨layout, legal⟩
    refine ⟨d, written, ofText_eq_ok_iff.2 ⟨t, spells, d, written, rfl⟩, fun x given => ?_⟩
    have radius := written.radius
    rw [given] at radius
    obtain ⟨-, -, n, -, real⟩ := radius
    exact Numeral.isFinite_of_real? real
  · have there (s : Settings) : ofText text = .ok s ↔ ofText text' = .ok s :=
      ⟨ofText_perm spells spells' same, ofText_perm spells' spells same.symm⟩
    cases found : ofText text with
    | ok s => rw [(there s).1 found]
    | error failure =>
      cases found' : ofText text' with
      | ok s =>
        rw [(there s).2 found'] at found
        cases found
      | error failure' => rfl

/-- The greatest finite number is refused when it is written with all its digits: the twenty of them
that are kept are rounded up, and so is the power of ten behind them. -/
theorem greatest_number_is_refused :
    let n : Nat := 9007199254740991 * 2 ^ 971
    let t := Tree.ofFields [("collision_radius", .ofInt n)]
    (∃ x : Binary64, x.isFinite = true ∧ x.units = n * Binary64.unitsPerOne) ∧
      Tree.Spells t.toText.toList t ∧
      ∃ refusal, ofText t.toText = .error (.refused refusal) := by
  intro n t
  have flawless : t.IsFlawless :=
    .object (List.forall_mem_singleton.2 (.number (Numeral.isStrict_ofInt _)))
  have spells : Tree.Spells t.toText.toList t := by
    rw [Tree.toText, String.toList_ofList]
    exact flawless.spells_toChars
  have large : (Numeral.ofInt n).real? = none := by decide +kernel
  refine ⟨⟨⟨0x7fefffffffffffff⟩, by decide +kernel, by decide +kernel⟩, spells,
    exists_refusal_of_not_isLegal spells fun legal => ?_⟩
  obtain ⟨x, m, same, read⟩ := (legal 1 _ _ rfl).2 _ List.mem_cons_self
  cases same
  rw [large] at read
  cases read

/-- An object with two of the settings out of order, and with a value under another name that is no
number of binary64. A number with a sign and a point and one with an exponent are read as they are
written. An object with a text for a number is refused. -/
theorem partial_settings_are_completed_two :
    let radius : Numeral := ⟨false, ['3', '5'], ['5'], none⟩
    let t := Tree.ofFields [("spawn_origin", .ofInt (-7)),
      ("note", .ofList [.number ⟨false, ['1'], [], some 999⟩]),
      ("collision_radius", .number radius)]
    let text := "\x7b\"spawn_origin\":-7,\"note\":[1e+999],\"collision_radius\":35.5\x7d"
    (∃ d : Draft, d.WrittenIn t ∧ ofText text = .ok d.settings) ∧
      (ofText text).toOption = some { radius := ⟨0x4041c00000000000⟩, spawnOrigin := -7 } ∧
      (∀ y, (Tree.number ⟨true, ['3', '5'], ['5'], none⟩).IsReal y ↔ y = ⟨0xc041c00000000000⟩) ∧
      (∀ y, (Tree.number ⟨false, ['2'], [], some 1⟩).IsReal y ↔ y = ⟨0x4034000000000000⟩) ∧
      ∃ refusal, ofText "\x7b\"spawn_origin\":\"7\"\x7d" = .error (.refused refusal) := by
  intro radius t text
  obtain ⟨completed, -, exact, refused, -⟩ := partial_settings_are_completed
  refine ⟨?_, by decide +kernel, exact _ _ ?_ ?_, exact _ _ ?_ ?_, ?_⟩
  · have strict : radius.IsStrict :=
      ⟨nofun, List.forall_mem_cons.2 ⟨rfl, List.forall_mem_singleton.2 rfl⟩, nofun,
        List.forall_mem_singleton.2 rfl⟩
    have large : (⟨false, ['1'], [], some 999⟩ : Numeral).IsStrict :=
      ⟨nofun, List.forall_mem_singleton.2 rfl, nofun, nofun⟩
    have flawless : t.IsFlawless := by
      refine .object ?_
      simp only [List.forall_mem_cons]
      exact ⟨.number (Numeral.isStrict_ofInt _),
        .array (List.forall_mem_singleton.2 (.number large)), .number strict, nofun⟩
    have spells : Tree.Spells text.toList t := by
      have written : text.toList = t.toChars := by decide +kernel
      rw [written]
      exact flawless.spells_toChars
    have real : radius.real? = some ⟨0x4041c00000000000⟩ := by decide +kernel
    have legal : t.LaysOut 4 ∧ IsLegal t := exists_writtenIn_iff.1
      ⟨{ radius := some ⟨0x4041c00000000000⟩, spawnOrigin := some (-7) }, {
        layout := Tree.laysOut_ofFields 4 _
        movePause := rfl
        radius := ⟨_, rfl, radius, rfl, real⟩
        spawnOrigin := ⟨_, rfl, Tree.isInteger_ofInt (-7)⟩
        spawnSpacing := rfl }⟩
    obtain ⟨d, written, found, -⟩ := completed text t spells legal.1 legal.2
    exact ⟨d, written, found⟩
  · exact ⟨by decide, by decide, by decide⟩
  · exact ⟨by decide, by decide, by decide +kernel⟩
  · exact ⟨by decide, by decide, by decide⟩
  · exact ⟨by decide, by decide, by decide +kernel⟩
  · refine refused _ (.ofFields [("spawn_origin", .ofString "7")]) ?_ fun legal => ?_
    · have flawless : (Tree.ofFields [("spawn_origin", .ofString "7")]).IsFlawless :=
        .object (List.forall_mem_singleton.2 (.text "7"))
      have written : "\x7b\"spawn_origin\":\"7\"\x7d".toList =
        (Tree.ofFields [("spawn_origin", .ofString "7")]).toChars := by decide +kernel
      rw [written]
      exact flawless.spells_toChars
    · have number : ∃ w : Int64, (Tree.ofString "7").IsInteger w.toInt :=
        (legal 2 _ _ rfl).2 _ List.mem_cons_self
      obtain ⟨w, n, same, -⟩ := number
      cases same

end Settings

end Troupe
