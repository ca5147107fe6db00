import Shakedown.Proofs.Record.Normalization
import Shakedown.Record.Probe

/-!
What comes back for an attribute is decided by the JSON that was sent for it.

The service never sees whether a text was meant as a date, or a list as one of dates and texts.
`Json.normalized` is what it makes of the JSON alone. With JSON payloads that are objects this is
what is expected back, because the text of a date spells no boolean. A payload that is a scalar or a
list is another matter: it is sent like an attribute, but stays as it is.
-/

namespace Shakedown

lemma Date.hyphen_mem_text (d : Date) : '-' ∈ d.text.toList := by
  simp [Date.text]

lemma DateTime.hyphen_mem_text (t : DateTime) : '-' ∈ t.text.toList := by
  simp [DateTime.text, t.date.hyphen_mem_text]

lemma Text.not_spellsBool_of_hyphen {s : String} (hyphen : '-' ∈ s.toList) (b : Bool) :
    ¬ Text.SpellsBool s b := by
  intro spelled
  have lowered : '-' ∈ s.toLower.toList := by
    rw [Text.toList_toLower]
    exact List.mem_map.mpr ⟨'-', hyphen, rfl⟩
  rw [spelled] at lowered
  cases b <;> simp at lowered

lemma Attribute.spelledBool?_of_hyphen {s : String} (hyphen : '-' ∈ s.toList) :
    Attribute.spelledBool? s = none := by
  rw [Option.eq_none_iff_forall_ne_some]
  intro b spelled
  exact Text.not_spellsBool_of_hyphen hyphen b (Attribute.spelledBool?_eq_some_iff.mp spelled)

namespace Json

def spelledBool? : Json → Option Bool
  | .string s => Attribute.spelledBool? s
  | _ => none

/-- A string that spells a boolean becomes it, and anything else stays. -/
def coerced (j : Json) : Json :=
  match j.spelledBool? with
  | some b => .bool b
  | none => j

lemma coerced_of_hyphen {s : String} (hyphen : '-' ∈ s.toList) :
    (Json.string s).coerced = .string s := by
  simp only [coerced, spelledBool?, Attribute.spelledBool?_of_hyphen hyphen]

/-- A string or null stays, and anything else becomes its text. -/
def asText : Json → Json
  | .null => .null
  | .string s => .string s
  | j => .string j.text

/-- Items other than null that are all numbers or all booleans stay, those that are all words for
booleans become booleans, and any others become texts. -/
def normalizedItems (items : List Json) : List Json :=
  if (∀ j ∈ items, j ≠ .null → j.kind = .number) ∨ (∀ j ∈ items, j ≠ .null → j.kind = .bool) ∨
      (∀ j ∈ items, j ≠ .null → j.spelledBool?.isSome = true) then
    items.map coerced
  else items.map asText

/-- What the service makes of the JSON that it is sent. -/
def normalized : Json → Json
  | .list items => .list (normalizedItems items)
  | j => j.coerced

end Json

namespace Attribute

mutual

/-- The JSON payloads of an attribute, at any depth of its lists. -/
def payloads : Attribute → List Json
  | .json j => [j]
  | .list items => itemPayloads items
  | _ => []

def itemPayloads : List Attribute → List Json
  | [] => []
  | item :: rest => payloads item ++ itemPayloads rest

end

lemma itemPayloads_eq_flatMap (items : List Attribute) :
    itemPayloads items = items.flatMap payloads := by
  induction items with
  | nil => rfl
  | cons item rest ih => rw [itemPayloads, ih, List.flatMap_cons]

lemma mem_payloads_of_item {items : List Attribute} {item : Attribute} {j : Json}
    (mem : item ∈ items) (payload : j ∈ item.payloads) : j ∈ (Attribute.list items).payloads := by
  rw [payloads, itemPayloads_eq_flatMap, List.mem_flatMap]
  exact ⟨item, mem, payload⟩

/-- Every JSON payload is an object. -/
def HoldsObjects (a : Attribute) : Prop := ∀ j ∈ a.payloads, j.kind = .object

section Wire
variable {a : Attribute}

lemma HoldsObjects.exists_members {j : Json} (objects : (Attribute.json j).HoldsObjects) :
    ∃ members, j = .object members := by
  have kind_eq : j.kind = .object := objects j (by simp [payloads])
  cases j with
  | object members => exact ⟨members, rfl⟩
  | _ => cases kind_eq

lemma HoldsObjects.item {items : List Attribute} (objects : (Attribute.list items).HoldsObjects)
    {item : Attribute} (mem : item ∈ items) : item.HoldsObjects :=
  fun j payload => objects j (mem_payloads_of_item mem payload)

lemma wire_eq_null_iff (objects : a.HoldsObjects) : a.wire = .null ↔ a = .null := by
  cases a with
  | json j => obtain ⟨members, rfl⟩ := objects.exists_members; simp [wire]
  | _ => simp [wire]

lemma wire_kind_eq_number_iff (objects : a.HoldsObjects) : a.wire.kind = .number ↔ a.IsNumber := by
  cases a with
  | json j => obtain ⟨members, rfl⟩ := objects.exists_members; simp [wire, Json.kind, IsNumber]
  | _ => simp [wire, Json.kind, IsNumber]

lemma wire_kind_eq_bool_iff (objects : a.HoldsObjects) : a.wire.kind = .bool ↔ a.IsBool := by
  cases a with
  | json j => obtain ⟨members, rfl⟩ := objects.exists_members; simp [wire, Json.kind, IsBool]
  | _ => simp [wire, Json.kind, IsBool]

lemma wire_spelled_iff (objects : a.HoldsObjects) :
    a.wire.spelledBool?.isSome = true ↔ a.SpellsBool := by
  cases a with
  | json j =>
    obtain ⟨members, rfl⟩ := objects.exists_members
    simp [wire, Json.spelledBool?, SpellsBool]
  | string s =>
    simp [wire, Json.spelledBool?, SpellsBool, Option.isSome_iff_exists, spelledBool?_eq_some_iff]
  | date d => simp [wire, Json.spelledBool?, SpellsBool, spelledBool?_of_hyphen d.hyphen_mem_text]
  | dateTime t =>
    simp [wire, Json.spelledBool?, SpellsBool, spelledBool?_of_hyphen t.hyphen_mem_text]
  | _ => simp [wire, Json.spelledBool?, SpellsBool]

lemma asText_wire (objects : a.HoldsObjects) : a.wire.asText = a.asText := by
  cases a with
  | json j => obtain ⟨members, rfl⟩ := objects.exists_members; rfl
  | _ => rfl

/-- All items of a list are such just when all of the values sent for them are. -/
lemma forall_wire_iff {items : List Attribute} (objects : (Attribute.list items).HoldsObjects)
    (p : Attribute → Prop) (q : Json → Prop)
    (same : ∀ {a : Attribute}, a.HoldsObjects → (q a.wire ↔ p a)) :
    (∀ j ∈ items.map wire, j ≠ .null → q j) ↔ Each p items := by
  rw [List.forall_mem_map]
  refine forall₂_congr fun item mem => ?_
  have item_objects := objects.item mem
  rw [Ne, wire_eq_null_iff item_objects, same item_objects]

/-- What comes back for a list. -/
lemma normalizedItems_wire {items : List Attribute}
    (objects : (Attribute.list items).HoldsObjects) :
    (Attribute.list items).returned = .list (Json.normalizedItems (items.map wire)) := by
  have numbers_iff := forall_wire_iff objects IsNumber (·.kind = .number) wire_kind_eq_number_iff
  have bools_iff := forall_wire_iff objects IsBool (·.kind = .bool) wire_kind_eq_bool_iff
  have spelled_iff :=
    forall_wire_iff objects SpellsBool (·.spelledBool?.isSome = true) wire_spelled_iff
  have kept_iff := or_congr numbers_iff (or_congr bools_iff spelled_iff)
  obtain ⟨become, treatment, returned_eq⟩ := exists_treatment items
  rw [returned_eq, Json.normalizedItems, List.map_map, List.map_map]
  refine congrArg Json.list ?_
  -- Numbers and booleans are coerced to themselves, so one branch serves the first three.
  cases treatment with
  | numbers each =>
    rw [if_pos (kept_iff.mpr (.inl each))]
    refine map_eq_of_each rfl fun item mem present => ?_
    obtain ⟨n, rfl⟩ := each item mem present
    rfl
  | bools each =>
    rw [if_pos (kept_iff.mpr (.inr (.inl each)))]
    refine map_eq_of_each rfl fun item mem present => ?_
    obtain ⟨b, rfl⟩ := each item mem present
    rfl
  | spelled each =>
    rw [if_pos (kept_iff.mpr (.inr (.inr each)))]
    refine map_eq_of_each rfl fun item mem present => ?_
    obtain ⟨s, b, rfl, _⟩ := each item mem present
    rfl
  | texts no_numbers no_bools not_spelled =>
    have no_kind := not_or.mpr ⟨no_numbers, not_or.mpr ⟨no_bools, not_spelled⟩⟩
    rw [if_neg (mt kept_iff.mp no_kind)]
    exact List.map_congr_left fun item mem => (asText_wire (objects.item mem)).symm

lemma returned_eq_normalized (objects : a.HoldsObjects) : a.returned = a.wire.normalized := by
  cases a with
  | list items => rw [normalizedItems_wire objects, wire, wireItems_eq_map, Json.normalized]
  | json j => obtain ⟨members, rfl⟩ := objects.exists_members; rfl
  | date d => exact (Json.coerced_of_hyphen d.hyphen_mem_text).symm
  | dateTime t => exact (Json.coerced_of_hyphen t.hyphen_mem_text).symm
  | _ => rfl

end Wire

/-- Attributes for which the same JSON is sent are expected to come back as the same JSON. -/
theorem returned_determined_by_wire {a b : Attribute} (a_objects : a.HoldsObjects)
    (b_objects : b.HoldsObjects) (sent_alike : a.wire = b.wire) : a.returned = b.returned := by
  rw [returned_eq_normalized a_objects, returned_eq_normalized b_objects, sent_alike]

/-- A list of a date, a word for a boolean, a null and an object. -/
private def dated : Attribute :=
  .list [.date Record.probeDay, .string "TRUE", .null,
    .json (.object [("key", .null)])]

/-- The same list with a text in place of the date. -/
private def spelledOut : Attribute :=
  .list [.string "2023-08-03", .string "TRUE", .null, .json (.object [("key", .null)])]

theorem dated_returned_determined_by_wire : dated.HoldsObjects ∧ spelledOut.HoldsObjects ∧
    dated.wire = spelledOut.wire ∧ dated.returned = spelledOut.returned := by
  have dated_objects : dated.HoldsObjects := by unfold HoldsObjects; decide
  have spelled_objects : spelledOut.HoldsObjects := by unfold HoldsObjects; decide
  have sent_alike : dated.wire = spelledOut.wire := by decide +kernel
  exact ⟨dated_objects, spelled_objects, sent_alike,
    returned_determined_by_wire dated_objects spelled_objects sent_alike⟩

end Attribute
end Shakedown
