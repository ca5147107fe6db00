import Shakedown.Proofs.Record.Comparison

/-!
A record compared with the very JSON that was sent for it.

A service that gives back what it was sent is told of exactly those attributes that it should have
changed: words for booleans, alone or in a list with nothing else, and lists in which something
other than text should have become text.
-/

namespace Shakedown

namespace Attribute

/-- What is expected back for the attribute differs from what is sent. -/
inductive NormalizationDue : Attribute → Prop
  | word {s : String} {b : Bool} (spelled : Text.SpellsBool s b) : NormalizationDue (.string s)
  | words {items : List Attribute} {s : String} (mem : .string s ∈ items)
      (each : Each SpellsBool items) : NormalizationDue (.list items)
  | mixture {items : List Attribute} {item : Attribute} (mem : item ∈ items)
      (present : item ≠ .null) (no_text : ¬ item.IsText) (no_numbers : ¬ Each IsNumber items)
      (no_bools : ¬ Each IsBool items) : NormalizationDue (.list items)

lemma isText_iff {a : Attribute} : a.IsText ↔ ∃ s, a.wire = .string s := by
  constructor
  · rintro (s | d | t | s)
    · exact ⟨s, rfl⟩
    · exact ⟨d.text, rfl⟩
    · exact ⟨t.text, rfl⟩
    · exact ⟨s, rfl⟩
  · rintro ⟨text, sent⟩
    cases a with
    | string s => exact .string s
    | date d => exact .date d
    | dateTime t => exact .dateTime t
    | json j => cases sent; exact .json text
    | _ => cases sent

lemma returned_eq_wire {a : Attribute} (not_due : ¬ a.NormalizationDue) : a.returned = a.wire := by
  cases a with
  | string s =>
    cases word : spelledBool? s with
    | none => simp only [returned, wire, word]
    | some b => exact absurd (.word (spelledBool?_eq_some_iff.mp word)) not_due
  | list items =>
    obtain ⟨become, treatment, returned_eq⟩ := exists_treatment items
    rw [returned_eq, wire, wireItems_eq_map]
    refine congrArg Json.list ?_
    cases treatment with
    | numbers => rfl
    | bools => rfl
    | spelled each =>
      refine map_eq_of_each rfl fun item mem present => ?_
      obtain ⟨s, b, rfl, _⟩ := each item mem present
      exact absurd (.words mem each) not_due
    | texts no_numbers no_bools =>
      refine map_eq_of_each rfl fun item mem present => ?_
      by_cases text : item.IsText
      · exact text.asText_eq_wire
      · exact absurd (.mixture mem present text no_numbers no_bools) not_due
  | _ => rfl

/-- A list that came back as it was sent is noticed by any item that should have changed. -/
lemma list_disagrees {items : List Attribute} {become : Attribute → Json}
    (returned_eq : (Attribute.list items).returned = .list (items.map become)) {item : Attribute}
    (mem : item ∈ items) (changed : (become item).agrees item.wire = false) :
    (Attribute.list items).returned.agrees (Attribute.list items).wire = false := by
  rw [returned_eq, wire, wireItems_eq_map, Json.agrees, ← Bool.not_eq_true,
    Json.agreeItems_map_iff]
  intro agree
  rw [agree item mem] at changed
  cases changed

lemma NormalizationDue.disagrees {a : Attribute} (due : a.NormalizationDue) :
    a.returned.agrees a.wire = false := by
  cases due with
  | word spelled =>
    rw [returned_of_spellsBool spelled]
    rfl
  | @words items s mem each =>
    obtain ⟨become, treatment, returned_eq⟩ := exists_treatment items
    refine list_disagrees returned_eq mem ?_
    obtain ⟨_, b, same, spelled⟩ := each _ mem nofun
    cases same
    rw [treatment.eq_returned mem each, returned_of_spellsBool spelled]
    rfl
  | @mixture items item mem present no_text no_numbers no_bools =>
    obtain ⟨become, treatment, returned_eq⟩ := exists_treatment items
    refine list_disagrees returned_eq mem ?_
    have not_spelled : ¬ Each SpellsBool items := by
      intro each
      obtain ⟨s, b, rfl, _⟩ := each item mem present
      exact no_text (.string s)
    rw [treatment.eq_asText no_numbers no_bools not_spelled, asText_eq present]
    cases sent : item.wire with
    | string s => exact absurd (isText_iff.mpr ⟨s, sent⟩) no_text
    | _ => rfl

lemma agrees_wire_iff {a : Attribute} (wellFormed : a.WellFormed) :
    a.returned.agrees a.wire = true ↔ ¬ a.NormalizationDue := by
  constructor
  · intro agree due
    rw [due.disagrees] at agree
    cases agree
  · intro not_due
    rw [← returned_eq_wire not_due]
    exact returned_agrees_self wellFormed

end Attribute

namespace Record
variable {r : Record}

lemma readBack_requestBody_iff {name : String} {value : Attribute} {v : Json}
    (written : (name, value) ∈ r.attributes) :
    ReadBack r.requestBody name v ↔ v = value.wire := by
  have sent : r.requestBody.get? "attributes" =
      some (.object (r.attributes.map fun a => (a.1, a.2.wire))) := rfl
  have ascending : Named.Ascending (r.attributes.map fun a => (a.1, a.2.wire)) :=
    List.pairwise_map.mpr r.ascending
  have held := (Named.lookup_eq_some_iff ascending).mpr (List.mem_map_of_mem written)
  constructor
  · rintro ⟨members, found, held'⟩
    cases sent.symm.trans found
    rw [held] at held'
    exact (Option.some.inj held').symm
  · rintro rfl
    exact ⟨_, sent, held⟩

/-- A record compared with what was sent for it has the mismatches that normalization was due for;
for every other attribute just what was sent is expected. -/
theorem echo_flagged_where_normalization_due (r : Record) (wellFormed : r.WellFormed) :
    (∀ name, name ∈ (r.mismatches r.requestBody).map Mismatch.name ↔
      ∃ value, (name, value) ∈ r.attributes ∧ value.NormalizationDue) ∧
      ∀ a ∈ r.attributes, ¬ a.2.NormalizationDue → a.2.returned = a.2.wire := by
  refine ⟨fun name => ?_, fun a _ => Attribute.returned_eq_wire⟩
  rw [mem_names_iff]
  refine exists_congr fun value => and_congr_right fun written => ?_
  simp only [readBack_requestBody_iff written, exists_eq_left]
  rw [Attribute.agrees_wire_iff (wellFormed _ written), not_not]

private def voyage : Record where
  recordType := "voyage"
  id := "1"
  attributes := [("days", .list [.date probeDay, .null]), ("words", .list [.null, .string "tRuE"]),
    ("x", .json (.list [.string "true", .null])), ("y", .list [.json .null, .string "true"])]
  ascending := by unfold Named.Ascending; decide

/-- Words for booleans are due, and so is a null payload among texts; dates are not, and a payload
on its own is not. -/
theorem echo_flagged_where_normalization_due_voyage : voyage.WellFormed ∧
    (∀ name, name ∈ (voyage.mismatches voyage.requestBody).map Mismatch.name ↔
      ∃ value, (name, value) ∈ voyage.attributes ∧ value.NormalizationDue) ∧
    (voyage.mismatches voyage.requestBody).map Mismatch.name = ["words", "y"] := by
  have wellFormed : voyage.WellFormed := by
    simp [WellFormed, voyage, Attribute.WellFormed, Attribute.payloads, Attribute.itemPayloads,
      Json.WellFormed, Json.WellFormedItems]
  exact ⟨wellFormed, (echo_flagged_where_normalization_due voyage wellFormed).1,
    by decide +kernel⟩

end Record
end Shakedown
