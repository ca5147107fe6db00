import Shakedown.Proofs.Agreement
import Shakedown.Proofs.Record.Wire
import Shakedown.Record.Basic

/-!
What the comparison of a record with what was read back finds.

It lists exactly the written attributes for which no value came back that agrees with the expected
one, in the order of their names. Nothing else that came back matters, and a record that came back
as expected has no mismatches.
-/

namespace Shakedown

lemma Json.wellFormed_of_kind {j : Json} (no_list : j.kind ≠ .list) (no_object : j.kind ≠ .object) :
    j.WellFormed := by
  cases j with
  | list items => exact absurd rfl no_list
  | object members => exact absurd rfl no_object
  | _ => trivial

namespace Attribute

/-- The objects in every JSON payload hold each name once, as those do that are made of named
members. -/
def WellFormed (a : Attribute) : Prop := ∀ j ∈ a.payloads, j.WellFormed

/-- A list comes back as scalars, and anything that is not a payload as one. -/
lemma returned_wellFormed {a : Attribute} (wellFormed : a.WellFormed) : a.returned.WellFormed := by
  cases a with
  | json j => exact wellFormed j (by simp [payloads])
  | list items =>
    obtain ⟨become, treatment, returned_eq⟩ := exists_treatment items
    obtain ⟨kind, _, no_list, no_object, kind_eq⟩ := treatment.exists_kind
    rw [returned_eq, Json.WellFormed, Json.wellFormedItems_iff, List.forall_mem_map]
    intro item mem
    by_cases gone : item = .null
    · rw [gone, treatment.become_null]
      trivial
    · rw [← kind_eq item mem gone] at no_list no_object
      exact Json.wellFormed_of_kind no_list no_object
  | string s =>
    rw [returned]
    split <;> trivial
  | _ => trivial

lemma returned_agrees_self {a : Attribute} (wellFormed : a.WellFormed) :
    a.returned.agrees a.returned = true :=
  Json.agrees_self (returned_wellFormed wellFormed)

end Attribute

namespace Record

def WellFormed (r : Record) : Prop := ∀ a ∈ r.attributes, a.2.WellFormed

/-- The JSON has an object of attributes, with a value under a name. -/
def ReadBack (retrieved : Json) (name : String) (v : Json) : Prop :=
  ∃ members, retrieved.get? "attributes" = some (.object members) ∧ members.lookup name = some v

/-- The JSON has no attributes, or no object of them, or none of a name. -/
def Missing (retrieved : Json) (name : String) : Prop :=
  retrieved.get? "attributes" = none ∨
    (∃ j, retrieved.get? "attributes" = some j ∧ j.kind ≠ .object) ∨
    ∃ members, retrieved.get? "attributes" = some (.object members) ∧ ∀ v, (name, v) ∉ members

variable {r : Record} {retrieved : Json}

lemma attributesOf_of_object {members : List (String × Json)}
    (found : retrieved.get? "attributes" = some (.object members)) :
    attributesOf retrieved = members := by
  rw [attributesOf, found]
  rfl

lemma attributesOf_of_no_object
    (no_object : ∀ members, retrieved.get? "attributes" ≠ some (.object members)) :
    attributesOf retrieved = [] := by
  unfold attributesOf
  cases found : retrieved.get? "attributes" with
  | none => rfl
  | some j =>
    cases j with
    | object members => exact absurd found (no_object members)
    | _ => rfl

lemma lookup_attributesOf_eq_some_iff {name : String} {v : Json} :
    (attributesOf retrieved).lookup name = some v ↔ ReadBack retrieved name v := by
  by_cases object : ∃ members, retrieved.get? "attributes" = some (.object members)
  · obtain ⟨members, found⟩ := object
    rw [attributesOf_of_object found]
    constructor
    · exact fun held => ⟨members, found, held⟩
    · rintro ⟨others, also_found, held⟩
      cases found.symm.trans also_found
      exact held
  · rw [attributesOf_of_no_object (not_exists.mp object)]
    exact iff_of_false nofun fun ⟨members, found, _⟩ => object ⟨members, found⟩

lemma lookup_attributesOf_eq_none_iff {name : String} :
    (attributesOf retrieved).lookup name = none ↔ Missing retrieved name := by
  have none_iff (members : List (String × Json)) :
      members.lookup name = none ↔ ∀ v, (name, v) ∉ members := by
    rw [List.lookup_eq_none_iff]
    constructor
    · intro others v mem
      simpa using others _ mem
    · intro absent p mem
      exact bne_iff_ne.mpr fun same => absent p.2 (same ▸ mem)
  unfold Missing
  cases found : retrieved.get? "attributes" with
  | none => simp [attributesOf, found]
  | some j =>
    cases j with
    | object members => simp [attributesOf_of_object found, none_iff, Json.kind]
    | _ => simp [attributesOf, found, Json.members?, Json.kind]

/-- A written attribute is a mismatch unless a value came back that agrees with the expected one. -/
lemma mismatch?_eq_some_iff {a : String × Attribute} {m : Mismatch} :
    mismatch? (attributesOf retrieved) a = some m ↔
      ⟨a.1, a.2.returned, (attributesOf retrieved).lookup a.1⟩ = m ∧
        ¬ ∃ v, ReadBack retrieved a.1 v ∧ a.2.returned.agrees v = true := by
  simp only [← lookup_attributesOf_eq_some_iff]
  unfold mismatch?
  cases held : (attributesOf retrieved).lookup a.1 with
  | none => simp
  | some got => by_cases agrees : a.2.returned.agrees got = true <;> simp [agrees]

lemma mem_mismatches_iff {m : Mismatch} : m ∈ r.mismatches retrieved ↔
    ∃ value, (m.name, value) ∈ r.attributes ∧ m.expected = value.returned ∧
      m.actual = (attributesOf retrieved).lookup m.name ∧
      ¬ ∃ v, ReadBack retrieved m.name v ∧ value.returned.agrees v = true := by
  simp only [mismatches, List.mem_filterMap, mismatch?_eq_some_iff]
  constructor
  · rintro ⟨⟨name, value⟩, mem, rfl, missed⟩
    exact ⟨value, mem, rfl, rfl, missed⟩
  · rintro ⟨value, mem, expected_eq, actual_eq, missed⟩
    refine ⟨(m.name, value), mem, ?_, missed⟩
    rw [← expected_eq, ← actual_eq]

lemma mem_names_iff {name : String} : name ∈ (r.mismatches retrieved).map Mismatch.name ↔
    ∃ value, (name, value) ∈ r.attributes ∧
      ¬ ∃ v, ReadBack retrieved name v ∧ value.returned.agrees v = true := by
  rw [List.mem_map]
  constructor
  · rintro ⟨m, mem, rfl⟩
    obtain ⟨value, written, _, _, missed⟩ := mem_mismatches_iff.mp mem
    exact ⟨value, written, missed⟩
  · rintro ⟨value, written, missed⟩
    exact ⟨⟨name, value.returned, (attributesOf retrieved).lookup name⟩,
      mem_mismatches_iff.mpr ⟨value, written, rfl, rfl, missed⟩, rfl⟩

lemma ReadBack.unique {name : String} {v w : Json} (back : ReadBack retrieved name v)
    (also_back : ReadBack retrieved name w) : v = w := by
  rw [← lookup_attributesOf_eq_some_iff] at back also_back
  exact Option.some.inj (back.symm.trans also_back)

/-- An attribute that came back is listed when what came back does not agree with it. -/
lemma mem_names_iff_of_readBack {name : String} {value : Attribute} {v : Json}
    (written : (name, value) ∈ r.attributes) (back : ReadBack retrieved name v) :
    name ∈ (r.mismatches retrieved).map Mismatch.name ↔ value.returned.agrees v ≠ true := by
  rw [mem_names_iff]
  constructor
  · rintro ⟨other, also_written, missed⟩ agree
    have same := (Named.lookup_eq_some_iff r.ascending).mpr written
    rw [(Named.lookup_eq_some_iff r.ascending).mpr also_written, Option.some.injEq] at same
    exact missed ⟨v, back, by rwa [same]⟩
  · intro disagree
    refine ⟨value, written, ?_⟩
    rintro ⟨w, also_back, agree⟩
    rw [also_back.unique back] at agree
    exact disagree agree

lemma mismatches_ascending : (r.mismatches retrieved).Pairwise fun m n => m.name < n.name := by
  refine List.pairwise_filterMap.mpr (r.ascending.imp fun before m m_eq n n_eq => ?_)
  obtain ⟨rfl, _⟩ := mismatch?_eq_some_iff.mp m_eq
  obtain ⟨rfl, _⟩ := mismatch?_eq_some_iff.mp n_eq
  exact before

/-- What a comparison finds: the attributes that did not come back as expected, and nothing else. -/
structure Compares (r : Record) (retrieved : Json) (found : List Mismatch) : Prop where
  ascending : found.Pairwise fun m n => m.name < n.name
  listed_iff : ∀ name, name ∈ found.map Mismatch.name ↔ ∃ value, (name, value) ∈ r.attributes ∧
    ¬ ∃ v, ReadBack retrieved name v ∧ value.returned.agrees v = true
  expected_eq : ∀ m ∈ found, ∀ value, (m.name, value) ∈ r.attributes → m.expected = value.returned
  actual_eq_some_iff : ∀ m ∈ found, ∀ v, m.actual = some v ↔ ReadBack retrieved m.name v
  actual_eq_none_iff : ∀ m ∈ found, m.actual = none ↔ Missing retrieved m.name

lemma compares_mismatches : r.Compares retrieved (r.mismatches retrieved) where
  ascending := mismatches_ascending
  listed_iff := fun _ => mem_names_iff
  expected_eq := by
    intro m mem value written
    obtain ⟨other, also_written, expected_eq, _⟩ := mem_mismatches_iff.mp mem
    have same := (Named.lookup_eq_some_iff r.ascending).mpr written
    rw [(Named.lookup_eq_some_iff r.ascending).mpr also_written, Option.some.injEq] at same
    rw [expected_eq, same]
  actual_eq_some_iff := by
    intro m mem v
    obtain ⟨_, _, _, actual_eq, _⟩ := mem_mismatches_iff.mp mem
    rw [actual_eq, lookup_attributesOf_eq_some_iff]
  actual_eq_none_iff := by
    intro m mem
    obtain ⟨_, _, _, actual_eq, _⟩ := mem_mismatches_iff.mp mem
    rw [actual_eq, lookup_attributesOf_eq_none_iff]

/-- Only what came back under the written names counts. -/
lemma mismatches_congr {other : Json} (alike : ∀ a ∈ r.attributes, ∀ v,
    ReadBack retrieved a.1 v ↔ ReadBack other a.1 v) :
    r.mismatches retrieved = r.mismatches other := by
  refine List.filterMap_congr fun a mem => ?_
  have lookup_eq : (attributesOf retrieved).lookup a.1 = (attributesOf other).lookup a.1 := by
    refine Option.ext fun v => ?_
    rw [lookup_attributesOf_eq_some_iff, lookup_attributesOf_eq_some_iff, alike a mem]
  rw [mismatch?, mismatch?, lookup_eq]

lemma mismatches_eq_nil (wellFormed : r.WellFormed)
    (as_expected : ∀ a ∈ r.attributes, ReadBack retrieved a.1 a.2.returned) :
    r.mismatches retrieved = [] := by
  rw [List.eq_nil_iff_forall_not_mem]
  intro m mem
  obtain ⟨value, written, _, _, missed⟩ := mem_mismatches_iff.mp mem
  exact missed ⟨_, as_expected _ written,
    Attribute.returned_agrees_self (wellFormed _ written)⟩

/-- A comparison finds what did not come back as expected, whatever else came back, and nothing
where everything came back as expected. -/
theorem mismatches_sound_and_complete (r : Record) :
    (∀ retrieved, r.Compares retrieved (r.mismatches retrieved)) ∧
      (∀ retrieved other, (∀ a ∈ r.attributes, ∀ v,
        ReadBack retrieved a.1 v ↔ ReadBack other a.1 v) →
          r.mismatches retrieved = r.mismatches other) ∧
      (r.WellFormed → ∀ retrieved, (∀ a ∈ r.attributes, ReadBack retrieved a.1 a.2.returned) →
        r.mismatches retrieved = []) :=
  ⟨fun _ => compares_mismatches, fun _ _ => mismatches_congr,
    fun wellFormed _ => mismatches_eq_nil wellFormed⟩

private def place : Json := .object [("at", .list [.null, .string "x"]), ("floor", .bool true)]

private def trip : Record where
  recordType := "trip"
  id := "1"
  attributes := [("flags", .list [.string "True", .null]), ("place", .json place)]
  ascending := by unfold Named.Ascending; decide

private def tripBack : Json :=
  .object [("attributes", .object [("flags", .list [.bool true, .null]), ("id", .string "1"),
    ("place", place)]), ("type", .string "trip")]

/-- The flags come back as booleans and the place as it was; the id comes back besides. -/
theorem mismatches_sound_and_complete_trip : trip.WellFormed ∧
    (∀ a ∈ trip.attributes, ReadBack tripBack a.1 a.2.returned) ∧
    trip.mismatches tripBack = [] := by
  have ascending :
      Named.Ascending [("at", Json.list [.null, .string "x"]), ("floor", .bool true)] := by
    unfold Named.Ascending
    decide
  have wellFormed : trip.WellFormed := by
    simp [WellFormed, trip, Attribute.WellFormed, Attribute.payloads, Attribute.itemPayloads, place,
      Json.WellFormed, Json.WellFormedItems, Json.WellFormedMembers, ascending]
  have as_expected : ∀ a ∈ trip.attributes, ReadBack tripBack a.1 a.2.returned := by
    refine List.forall_mem_cons.mpr ⟨⟨_, rfl, by decide +kernel⟩, ?_⟩
    exact List.forall_mem_singleton.mpr ⟨_, rfl, by decide +kernel⟩
  exact ⟨wellFormed, as_expected,
    (mismatches_sound_and_complete trip).2.2 wellFormed tripBack as_expected⟩

end Record
end Shakedown
