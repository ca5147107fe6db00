import Shakedown.Proofs.Calendar
import Shakedown.Proofs.Record.Comparison
import Shakedown.Record.Probe

/-!
Dates and times as attributes.

They are sent as their ISO text and expected back as that text, on their own and in a list of any
kind. The text keeps everything but the fractions of a second, so a date that came back as the text
of another one is reported.
-/

namespace Shakedown

namespace Attribute

/-- A date, with a time of day or without. -/
inductive Dated : Attribute → Prop
  | date (d : Date) : Dated (.date d)
  | dateTime (t : DateTime) : Dated (.dateTime t)

/-- The same date, or times that are the same but for fractions of a second. -/
inductive SameToTheSecond : Attribute → Attribute → Prop
  | date (d : Date) : SameToTheSecond (.date d) (.date d)
  | dateTime {t u : DateTime} (same : t.SameToTheSecond u) :
      SameToTheSecond (.dateTime t) (.dateTime u)

section Dates
variable {a b : Attribute}

lemma wire_date_eq_iff {d e : Date} :
    (Attribute.date d).wire = (Attribute.date e).wire ↔ d = e := by
  constructor
  · intro sent_alike
    exact Date.eq_of_text_eq (Json.string.inj sent_alike)
  · rintro rfl
    rfl

lemma wire_dateTime_eq_iff {t u : DateTime} :
    (Attribute.dateTime t).wire = (Attribute.dateTime u).wire ↔ t.SameToTheSecond u := by
  rw [← DateTime.text_eq_iff]
  exact ⟨fun sent_alike => Json.string.inj sent_alike, fun same => congrArg Json.string same⟩

lemma wire_date_ne_dateTime (d : Date) (t : DateTime) :
    (Attribute.date d).wire ≠ (Attribute.dateTime t).wire := by
  intro sent_alike
  exact DateTime.date_text_ne_text d t (Json.string.inj sent_alike)

lemma Dated.wire_eq_iff (a_dated : a.Dated) (b_dated : b.Dated) :
    a.wire = b.wire ↔ a.SameToTheSecond b := by
  constructor
  · intro sent_alike
    cases a_dated with
    | date d =>
      cases b_dated with
      | date e =>
        obtain rfl := wire_date_eq_iff.mp sent_alike
        exact .date d
      | dateTime u => exact absurd sent_alike (wire_date_ne_dateTime d u)
    | dateTime t =>
      cases b_dated with
      | date e => exact absurd sent_alike.symm (wire_date_ne_dateTime e t)
      | dateTime u => exact .dateTime (wire_dateTime_eq_iff.mp sent_alike)
  · intro same
    cases same with
    | date d => rfl
    | dateTime same => exact wire_dateTime_eq_iff.mpr same

lemma Dated.exists_text (dated : a.Dated) :
    ∃ s, a.wire = .string s ∧ ∀ word, ¬ Text.SpellsBool s word := by
  cases dated with
  | date d => exact ⟨d.text, rfl, Text.not_spellsBool_of_hyphen d.hyphen_mem_text⟩
  | dateTime t => exact ⟨t.text, rfl, Text.not_spellsBool_of_hyphen t.hyphen_mem_text⟩

lemma Dated.returned_eq_wire (dated : a.Dated) : a.returned = a.wire := by
  cases dated <;> rfl

lemma Dated.isText (dated : a.Dated) : a.IsText := by
  cases dated with
  | date d => exact .date d
  | dateTime t => exact .dateTime t

/-- A list keeps a date as its text, whatever its other items are. -/
lemma Treatment.become_dated {items : List Attribute} {become : Attribute → Json}
    (treatment : Treatment items become) (dated : a.Dated) : become a = a.wire := by
  cases treatment with
  | numbers => rfl
  | bools => rfl
  | spelled => exact dated.returned_eq_wire
  | texts => exact dated.isText.asText_eq_wire

lemma Dated.returned_item (dated : a.Dated) {items : List Attribute} {i : Nat}
    (here : items[i]? = some a) : (Attribute.list items).returned.at? [.item i] = some a.wire := by
  obtain ⟨become, treatment, returned_eq⟩ := exists_treatment items
  have element : (items.map become)[i]? = some a.wire := by
    rw [List.getElem?_map, here, Option.map_some, treatment.become_dated dated]
  rw [returned_eq, Json.at?, element]
  rfl

/-- Two texts agree only if they are the same. -/
lemma Dated.agrees_wire_iff (a_dated : a.Dated) (b_dated : b.Dated) :
    a.wire.agrees b.wire = true ↔ a.SameToTheSecond b := by
  rw [← a_dated.wire_eq_iff b_dated]
  obtain ⟨s, a_sent, _⟩ := a_dated.exists_text
  obtain ⟨s', b_sent, _⟩ := b_dated.exists_text
  rw [a_sent, b_sent, Json.agrees, beq_iff_eq, Json.string.injEq]

end Dates
end Attribute

namespace Record

open Attribute

variable {r : Record} {retrieved : Json} {name : String} {a b : Attribute}

/-- A date that came back as the text of one is reported unless both are the same. -/
lemma mem_names_iff_of_dated (a_dated : a.Dated) (b_dated : b.Dated)
    (written : (name, a) ∈ r.attributes) (back : ReadBack retrieved name b.wire) :
    name ∈ (r.mismatches retrieved).map Mismatch.name ↔ ¬ a.SameToTheSecond b := by
  rw [mem_names_iff_of_readBack written back, a_dated.returned_eq_wire, Ne,
    a_dated.agrees_wire_iff b_dated]

/-- So is a list in which a date came back as the text of another one. -/
lemma mem_names_of_dated_item (a_dated : a.Dated) (b_dated : b.Dated) {items : List Attribute}
    {i : Nat} {v : Json} (written : (name, .list items) ∈ r.attributes) (here : items[i]? = some a)
    (back : ReadBack retrieved name v) (there : v.at? [.item i] = some b.wire)
    (differ : ¬ a.SameToTheSecond b) : name ∈ (r.mismatches retrieved).map Mismatch.name := by
  rw [mem_names_iff_of_readBack written back]
  intro agree
  obtain ⟨partner, partner_eq, texts_agree⟩ := Json.agrees_at agree (a_dated.returned_item here)
  obtain rfl : b.wire = partner := Option.some.inj (there.symm.trans partner_eq)
  exact differ ((a_dated.agrees_wire_iff b_dated).mp texts_agree)

/-- The text of a date keeps all of it and that of a time all but the fractions of its second. No
text is that of a date and of a time, or a word for a boolean, and each is expected back as it was
sent. So a date is reported that came back as the text of another one. -/
theorem dates_lose_only_fractions :
    (∀ d e : Date, (Attribute.date d).wire = (Attribute.date e).wire ↔ d = e) ∧
    (∀ t u : DateTime, (Attribute.dateTime t).wire = (Attribute.dateTime u).wire ↔
      t.SameToTheSecond u) ∧
    (∀ t : DateTime,
      t.shownSecond = if t.nanosecond < 1000000000 then t.second else t.second + 1) ∧
    (∀ t : DateTime, t.second = 59 → 1000000000 ≤ t.nanosecond → t.shownSecond = 60) ∧
    (∀ (d : Date) (t : DateTime), (Attribute.date d).wire ≠ (Attribute.dateTime t).wire) ∧
    (∀ a : Attribute, a.Dated → a.returned = a.wire ∧
      ∃ s, a.wire = .string s ∧ ∀ word, ¬ Text.SpellsBool s word) ∧
    ∀ (r : Record) (retrieved : Json) (name : String) (a b : Attribute), a.Dated → b.Dated →
      ((name, a) ∈ r.attributes → ReadBack retrieved name b.wire →
        (name ∈ (r.mismatches retrieved).map Mismatch.name ↔ ¬ a.SameToTheSecond b)) ∧
      ∀ (items : List Attribute) (i : Nat) (v : Json), (name, .list items) ∈ r.attributes →
        items[i]? = some a → ReadBack retrieved name v → v.at? [.item i] = some b.wire →
          ¬ a.SameToTheSecond b → name ∈ (r.mismatches retrieved).map Mismatch.name := by
  refine ⟨fun _ _ => wire_date_eq_iff, fun _ _ => wire_dateTime_eq_iff,
    DateTime.shownSecond_eq, fun _ => DateTime.shownSecond_of_last, wire_date_ne_dateTime,
    fun _ dated => ⟨dated.returned_eq_wire, dated.exists_text⟩, ?_⟩
  intro r retrieved name a b a_dated b_dated
  constructor
  · exact mem_names_iff_of_dated a_dated b_dated
  · intro items i v written here back there differ
    exact mem_names_of_dated_item a_dated b_dated written here back there differ

/-- Half a second into a leap second. -/
private def leapMoment : DateTime :=
  { probeMoment with
    nanosecond := 1500000000
    nanosecond_range := by decide }

private def ancientDay : Date := ⟨-12345, 3, 9, by decide, by decide, by decide⟩

private def distantDay : Date := ⟨12345, 3, 9, by decide, by decide, by decide⟩

private def logbook : Record where
  recordType := "logbook"
  id := "1"
  attributes := [("closed", .dateTime leapMoment), ("days", .list [.bool true, .date ancientDay])]
  ascending := by unfold Named.Ascending; decide

private def logbookBack : Json :=
  .object [("attributes", .object [("closed", .string "2023-08-03T20:10:59"),
    ("days", .list [.string "true", .string "+12345-03-09"])])]

/-- A leap second that came back as the second before it is reported, and so is a list in which a
year came back with the other sign. -/
theorem dates_lose_only_fractions_logbook :
    ReadBack logbookBack "closed" (Attribute.dateTime probeMoment).wire ∧
      ¬ (Attribute.dateTime leapMoment).SameToTheSecond (.dateTime probeMoment) ∧
      ¬ (Attribute.date ancientDay).SameToTheSecond (.date distantDay) ∧
      "closed" ∈ (logbook.mismatches logbookBack).map Mismatch.name ∧
      "days" ∈ (logbook.mismatches logbookBack).map Mismatch.name := by
  obtain ⟨date_iff, _, _, _, _, _, reported⟩ := dates_lose_only_fractions
  have closed_back : ReadBack logbookBack "closed" (Attribute.dateTime probeMoment).wire :=
    ⟨_, rfl, by decide +kernel⟩
  have days_back : ReadBack logbookBack "days"
      (.list [.string "true", .string "+12345-03-09"]) := ⟨_, rfl, rfl⟩
  have day_back : (Json.list [.string "true", .string "+12345-03-09"]).at? [.item 1] =
      some (Attribute.date distantDay).wire := by decide +kernel
  have moments_differ :
      ¬ (Attribute.dateTime leapMoment).SameToTheSecond (.dateTime probeMoment) := by
    intro same
    cases same with
    | dateTime same => exact absurd same.second_eq (by decide)
  have days_differ : ¬ (Attribute.date ancientDay).SameToTheSecond (.date distantDay) := by
    intro same
    have sent_alike := ((Dated.date ancientDay).wire_eq_iff (.date distantDay)).mpr same
    exact absurd ((date_iff _ _).mp sent_alike) (by decide)
  have closed_written : ("closed", .dateTime leapMoment) ∈ logbook.attributes := .head _
  have days_written : ("days", .list [.bool true, .date ancientDay]) ∈ logbook.attributes :=
    .tail _ (.head _)
  have moments := reported logbook logbookBack "closed" _ _ (.dateTime leapMoment)
    (.dateTime probeMoment)
  have days := reported logbook logbookBack "days" _ _ (.date ancientDay) (.date distantDay)
  exact ⟨closed_back, moments_differ, days_differ,
    (moments.1 closed_written closed_back).mpr moments_differ,
    days.2 _ 1 _ days_written rfl days_back day_back days_differ⟩

end Record
end Shakedown
