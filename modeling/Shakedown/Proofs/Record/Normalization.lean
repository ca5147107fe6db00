import Mathlib.Tactic.Lemma
import Shakedown.Record.Attribute

/-!
What comes back for a list of attributes.

The items other than nulls decide it. If all of them are numbers, or all booleans, they stay; if all
of them are texts that spell booleans, they become these booleans; in every other case each becomes
its own text. So what comes back is of one kind, and nulls stay where they are.
-/

namespace Shakedown

namespace Json

inductive Kind where
  | null
  | bool
  | number
  | string
  | list
  | object
deriving DecidableEq

def kind : Json → Kind
  | .null => .null
  | .bool _ => .bool
  | .number _ => .number
  | .string _ => .string
  | .list _ => .list
  | .object _ => .object

end Json

/-- The text is the word for a boolean, in some letter case. -/
def Text.SpellsBool (s : String) (b : Bool) : Prop := s.toLower = if b then "true" else "false"

namespace Attribute

def IsNumber (a : Attribute) : Prop := ∃ n, a = .number n

def IsBool (a : Attribute) : Prop := ∃ b, a = .bool b

def SpellsBool (a : Attribute) : Prop := ∃ s b, a = .string s ∧ Text.SpellsBool s b

/-- An attribute that is sent as text. -/
inductive IsText : Attribute → Prop
  | string (s : String) : IsText (.string s)
  | date (d : Date) : IsText (.date d)
  | dateTime (t : DateTime) : IsText (.dateTime t)
  | json (s : String) : IsText (.json (.string s))

/-- Every item other than null is such. -/
def Each (p : Attribute → Prop) (items : List Attribute) : Prop :=
  ∀ item ∈ items, item ≠ .null → p item

/-- The text of an attribute: its own, its date in ISO form, or that of the JSON sent for it. -/
def ownText : Attribute → String
  | .string s => s
  | .date d => d.text
  | .dateTime t => t.text
  | a =>
    match a.wire with
    | .string s => s
    | j => j.text

lemma spelledBool?_eq_some_iff {s : String} {b : Bool} :
    spelledBool? s = some b ↔ Text.SpellsBool s b := by
  have spelled (word : String) : Text.spells word.toList s.toList = true ↔ s.toLower = word := by
    rw [Text.spells_iff, ← String.toList_inj, Text.toList_toLower]
  have spelled_true : Text.spells ['t', 'r', 'u', 'e'] s.toList = true ↔ s.toLower = "true" :=
    spelled "true"
  have spelled_false : Text.spells ['f', 'a', 'l', 's', 'e'] s.toList = true ↔
      s.toLower = "false" := spelled "false"
  simp only [spelledBool?, spelled_true, spelled_false, Text.SpellsBool]
  by_cases as_true : s.toLower = "true"
  · cases b <;> simp [as_true]
  · by_cases as_false : s.toLower = "false" <;> cases b <;> simp [as_true, as_false]

lemma isNull_eq_false_iff {a : Attribute} : a.isNull = false ↔ a ≠ .null := by
  cases a <;> simp [isNull]

lemma kind?_eq_number_iff {a : Attribute} : a.kind? = some .number ↔ a.IsNumber := by
  cases a <;> simp [kind?, IsNumber]

lemma kind?_eq_bool_iff {a : Attribute} : a.kind? = some .bool ↔ a.IsBool := by
  cases a <;> simp [kind?, IsBool]

lemma kind?_eq_string_iff {a : Attribute} : a.kind? = some .string ↔ ∃ s, a = .string s := by
  cases a <;> simp [kind?]

/-- The scalars other than numbers and booleans are texts. -/
lemma isText_of_kind? {a : Attribute} {kind : Kind} (kind_eq : a.kind? = some kind)
    (no_number : kind ≠ .number) (no_bool : kind ≠ .bool) : a.IsText := by
  cases a with
  | string s => exact .string s
  | date d => exact .date d
  | dateTime t => exact .dateTime t
  | number n => exact absurd (Option.some.inj kind_eq).symm no_number
  | bool b => exact absurd (Option.some.inj kind_eq).symm no_bool
  | _ => cases kind_eq

lemma IsText.asText_eq_wire {a : Attribute} (text : a.IsText) : a.asText = a.wire := by
  cases text <;> rfl

lemma asText_eq {a : Attribute} (present : a ≠ .null) : a.asText = .string a.ownText := by
  cases a with
  | null => exact absurd rfl present
  | string s => rfl
  | date d => rfl
  | dateTime t => rfl
  | number n => rfl
  | bool b => rfl
  | list items => rfl
  | json j => cases j <;> rfl

/-- A list is not mixed when one scalar kind takes in all of its items that are not null. -/
lemma isMixed_eq_false_iff {items : List Attribute} :
    isMixed items = false ↔ ∃ kind, Each (fun item => item.kind? = some kind) items := by
  have mem_kinds : ∀ x, x ∈ (items.filter (!·.isNull)).map kind? ↔
      ∃ item ∈ items, item ≠ .null ∧ item.kind? = x := by
    simp [isNull_eq_false_iff, and_assoc]
  have each_iff (kind : Kind) : Each (fun item => item.kind? = some kind) items ↔
      ∀ x ∈ (items.filter (!·.isNull)).map kind?, x = some kind := by
    simp only [mem_kinds, Each]
    constructor
    · rintro each _ ⟨item, mem, present, rfl⟩
      exact each item mem present
    · intro each item mem present
      exact each _ ⟨item, mem, present, rfl⟩
  simp only [each_iff, isMixed]
  -- The first of the kinds is the one that all the others have to be.
  cases (items.filter (!·.isNull)).map kind? with
  | nil => exact iff_of_true rfl ⟨.string, List.forall_mem_nil _⟩
  | cons first rest =>
    cases first with
    | none => simp
    | some kind => simp

lemma spellBooleans_iff {items : List Attribute} : spellBooleans items = true ↔
    ∀ s, .string s ∈ items → ∃ b, Text.SpellsBool s b := by
  have mem_texts (s : String) : s ∈ items.filterMap text? ↔ .string s ∈ items := by
    rw [List.mem_filterMap]
    constructor
    · rintro ⟨item, mem, text_eq⟩
      cases item <;> cases text_eq
      exact mem
    · exact fun mem => ⟨_, mem, rfl⟩
  simp only [spellBooleans, List.all_eq_true, mem_texts, Option.isSome_iff_exists,
    spelledBool?_eq_some_iff]

section Lists
variable {items : List Attribute}

/-- What the items of a list are turned into, by what all of those that are not null are. -/
inductive Treatment (items : List Attribute) : (Attribute → Json) → Prop
  | numbers (each : Each IsNumber items) : Treatment items wire
  | bools (each : Each IsBool items) : Treatment items wire
  | spelled (each : Each SpellsBool items) : Treatment items returned
  | texts (no_numbers : ¬ Each IsNumber items) (no_bools : ¬ Each IsBool items)
      (not_spelled : ¬ Each SpellsBool items) : Treatment items asText

lemma each_congr {p q : Attribute → Prop} (same : ∀ a, p a ↔ q a) :
    Each p items ↔ Each q items := by
  simp only [Each, same]

lemma map_eq_of_each {f g : Attribute → Json} (null_eq : f .null = g .null)
    (each : Each (fun item => f item = g item) items) : items.map f = items.map g := by
  refine List.map_congr_left fun item mem => ?_
  by_cases gone : item = .null
  · rw [gone, null_eq]
  · exact each item mem gone

/-- A list of one scalar kind is turned into what its items become on their own, if each text among
them spells a boolean. -/
lemma returned_of_kind {kind : Kind} (each : Each (fun item => item.kind? = some kind) items)
    (spelled : ∀ s, .string s ∈ items → ∃ b, Text.SpellsBool s b) :
    (Attribute.list items).returned = .list (items.map returned) := by
  have unmixed : isMixed items = false := isMixed_eq_false_iff.mpr ⟨kind, each⟩
  have all_spelled : spellBooleans items = true := spellBooleans_iff.mpr spelled
  simp [returned, unmixed, all_spelled, returnedItems_eq_map]

/-- A list of one scalar kind other than plain texts comes back as it was sent. -/
lemma returned_of_scalars {kind : Kind} (each : Each (fun item => item.kind? = some kind) items)
    (no_string : kind ≠ .string) : (Attribute.list items).returned = .list (items.map wire) := by
  have notMem (s : String) : .string s ∉ items := by
    intro mem
    have kind_eq : some Kind.string = some kind := each _ mem nofun
    exact no_string (Option.some.inj kind_eq).symm
  rw [returned_of_kind each fun s mem => absurd mem (notMem s)]
  refine congrArg Json.list (map_eq_of_each rfl fun item mem present => ?_)
  cases item with
  | string s => exact absurd mem (notMem s)
  | list inner => exact absurd (each _ mem nofun) nofun
  | _ => rfl

/-- Where the items are neither all numbers nor all booleans nor all words for booleans, they become
texts: either they are mixed, or a text spells no boolean, or they are all dates or all times. -/
lemma returned_of_rest (no_numbers : ¬ Each IsNumber items) (no_bools : ¬ Each IsBool items)
    (not_spelled : ¬ Each SpellsBool items) :
    (Attribute.list items).returned = .list (items.map asText) := by
  by_cases mixed : isMixed items || !spellBooleans items
  · simp [returned, mixed]
  · obtain ⟨unmixed, all_spelled⟩ : isMixed items = false ∧ spellBooleans items = true := by
      simpa using mixed
    obtain ⟨kind, each⟩ := isMixed_eq_false_iff.mp unmixed
    have as_sent (no_string : kind ≠ .string) (no_number : kind ≠ .number)
        (no_bool : kind ≠ .bool) :
        (Attribute.list items).returned = .list (items.map asText) := by
      rw [returned_of_scalars each no_string]
      refine congrArg Json.list (map_eq_of_each rfl fun item mem present => ?_)
      exact (isText_of_kind? (each item mem present) no_number no_bool).asText_eq_wire.symm
    cases kind with
    | string =>
      refine absurd (fun item mem present => ?_) not_spelled
      obtain ⟨s, rfl⟩ := kind?_eq_string_iff.mp (each item mem present)
      obtain ⟨b, spelled⟩ := spellBooleans_iff.mp all_spelled s mem
      exact ⟨s, b, rfl, spelled⟩
    | number => exact absurd ((each_congr fun _ => kind?_eq_number_iff).mp each) no_numbers
    | bool => exact absurd ((each_congr fun _ => kind?_eq_bool_iff).mp each) no_bools
    | date => exact as_sent nofun nofun nofun
    | dateTime => exact as_sent nofun nofun nofun

lemma exists_treatment (items : List Attribute) : ∃ become, Treatment items become ∧
    (Attribute.list items).returned = .list (items.map become) := by
  by_cases numbers : Each IsNumber items
  · have each := (each_congr fun _ => kind?_eq_number_iff).mpr numbers
    exact ⟨_, .numbers numbers, returned_of_scalars each nofun⟩
  by_cases bools : Each IsBool items
  · have each := (each_congr fun _ => kind?_eq_bool_iff).mpr bools
    exact ⟨_, .bools bools, returned_of_scalars each nofun⟩
  by_cases spelled : Each SpellsBool items
  · have each : Each (fun item => item.kind? = some .string) items := by
      intro item mem present
      obtain ⟨s, b, rfl, _⟩ := spelled item mem present
      rfl
    refine ⟨_, .spelled spelled, returned_of_kind each fun s mem => ?_⟩
    obtain ⟨_, b, same, spells⟩ := spelled _ mem nofun
    cases same
    exact ⟨b, spells⟩
  · exact ⟨_, .texts numbers bools spelled, returned_of_rest numbers bools spelled⟩

lemma returned_of_spellsBool {s : String} {b : Bool} (spelled : Text.SpellsBool s b) :
    (Attribute.string s).returned = .bool b := by
  simp [returned, spelledBool?_eq_some_iff.mpr spelled]

/-- What the items that are not null become is of one kind of scalar, and not null. -/
lemma Treatment.exists_kind {become : Attribute → Json} (treatment : Treatment items become) :
    ∃ kind, kind ≠ Json.Kind.null ∧ kind ≠ .list ∧ kind ≠ .object ∧
      ∀ item ∈ items, item ≠ .null → (become item).kind = kind := by
  cases treatment with
  | numbers each =>
    refine ⟨.number, nofun, nofun, nofun, fun item mem present => ?_⟩
    obtain ⟨n, rfl⟩ := each item mem present
    rfl
  | bools each =>
    refine ⟨.bool, nofun, nofun, nofun, fun item mem present => ?_⟩
    obtain ⟨b, rfl⟩ := each item mem present
    rfl
  | spelled each =>
    refine ⟨.bool, nofun, nofun, nofun, fun item mem present => ?_⟩
    obtain ⟨s, b, rfl, spelled⟩ := each item mem present
    rw [returned_of_spellsBool spelled]
    rfl
  | texts =>
    refine ⟨.string, nofun, nofun, nofun, fun item _ present => ?_⟩
    rw [asText_eq present]
    rfl

lemma Treatment.become_null {become : Attribute → Json} (treatment : Treatment items become) :
    become .null = .null := by
  cases treatment <;> rfl

lemma Treatment.become_eq_null_iff {become : Attribute → Json} (treatment : Treatment items become)
    {item : Attribute} (mem : item ∈ items) : become item = .null ↔ item = .null := by
  by_cases gone : item = .null
  · subst gone
    exact iff_of_true treatment.become_null rfl
  · obtain ⟨kind, not_null, _, _, kind_eq⟩ := treatment.exists_kind
    refine iff_of_false (fun become_eq => ?_) gone
    have : Json.Kind.null = kind := by rw [← kind_eq item mem gone, become_eq]; rfl
    exact not_null this.symm

/-- A list with a text in which every text is a word for a boolean is read word by word. -/
lemma Treatment.eq_returned {become : Attribute → Json} (treatment : Treatment items become)
    {s : String} (mem : .string s ∈ items) (words : Each SpellsBool items) : become = returned := by
  cases treatment with
  | numbers each => obtain ⟨n, differ⟩ := each _ mem nofun; cases differ
  | bools each => obtain ⟨b, differ⟩ := each _ mem nofun; cases differ
  | spelled => rfl
  | texts _ _ not_spelled => exact absurd words not_spelled

lemma Treatment.eq_asText {become : Attribute → Json} (treatment : Treatment items become)
    (no_numbers : ¬ Each IsNumber items) (no_bools : ¬ Each IsBool items)
    (not_spelled : ¬ Each SpellsBool items) : become = asText := by
  cases treatment with
  | numbers each => exact absurd each no_numbers
  | bools each => exact absurd each no_bools
  | spelled each => exact absurd each not_spelled
  | texts => rfl

/-- What comes back for the items of a list. -/
structure Normalized (items : List Attribute) (elements : List Json) : Prop where
  length_eq : elements.length = items.length
  null_iff : ∀ i : Nat, elements[i]? = some .null ↔ items[i]? = some .null
  one_kind : ∀ x ∈ elements, ∀ y ∈ elements, x ≠ .null → y ≠ .null → x.kind = y.kind
  numbers : Each IsNumber items → ∀ (i : Nat) n,
    items[i]? = some (.number n) → elements[i]? = some (.number n)
  bools : Each IsBool items → ∀ (i : Nat) b,
    items[i]? = some (.bool b) → elements[i]? = some (.bool b)
  spelled : Each SpellsBool items → ∀ (i : Nat) s b,
    items[i]? = some (.string s) → Text.SpellsBool s b → elements[i]? = some (.bool b)
  texts : ¬ Each IsNumber items → ¬ Each IsBool items → ¬ Each SpellsBool items →
    ∀ (i : Nat) item, items[i]? = some item → item ≠ .null →
      elements[i]? = some (.string item.ownText)

/-- A list comes back as a list of the same length with its nulls in place and everything else of
one kind: numbers and booleans as they were, words for booleans as booleans, all else as texts. -/
theorem list_comes_back_normalized (items : List Attribute) :
    ∃ elements, (Attribute.list items).returned = .list elements ∧ Normalized items elements := by
  obtain ⟨become, treatment, returned_eq⟩ := exists_treatment items
  have element {i : Nat} {item : Attribute} (at_i : items[i]? = some item) :
      (items.map become)[i]? = some (become item) := by rw [List.getElem?_map, at_i]; rfl
  refine ⟨items.map become, returned_eq, ?_⟩
  exact {
    length_eq := List.length_map become
    null_iff := by
      intro i
      rw [List.getElem?_map, Option.map_eq_some_iff]
      constructor
      · rintro ⟨item, at_i, gone⟩
        rwa [← (treatment.become_eq_null_iff (List.mem_of_getElem? at_i)).mp gone]
      · exact fun at_i => ⟨_, at_i, treatment.become_null⟩
    one_kind := by
      obtain ⟨kind, _, _, _, kind_eq⟩ := treatment.exists_kind
      have of_kind : ∀ x ∈ items.map become, x ≠ .null → x.kind = kind := by
        intro x mem present
        obtain ⟨item, item_mem, rfl⟩ := List.mem_map.mp mem
        exact kind_eq item item_mem (mt (treatment.become_eq_null_iff item_mem).mpr present)
      intro x x_mem y y_mem x_present y_present
      rw [of_kind x x_mem x_present, of_kind y y_mem y_present]
    numbers := by
      intro each i n at_i
      rw [element at_i]
      cases treatment with
      | texts no_numbers => exact absurd each no_numbers
      | _ => rfl
    bools := by
      intro each i b at_i
      rw [element at_i]
      cases treatment with
      | texts _ no_bools => exact absurd each no_bools
      | _ => rfl
    spelled := by
      intro each i s b at_i spelled
      have become_eq := treatment.eq_returned (List.mem_of_getElem? at_i) each
      rw [element at_i, become_eq, returned_of_spellsBool spelled]
    texts := by
      intro no_numbers no_bools not_spelled i item at_i present
      have become_eq := treatment.eq_asText no_numbers no_bools not_spelled
      rw [element at_i, become_eq, asText_eq present] }

end Lists
end Attribute
end Shakedown
