import Mathlib.Logic.Relation
import Mathlib.Tactic.Lemma
import Shakedown.Load.App

/-!
What a listing says of an app.

The first entry that can be used for the app decides on its state, and nothing else in the listing
does. So entries that cannot be used may come, go and change places without changing that state.
-/

namespace Shakedown

namespace App
variable {app : App} {entry : Json} {state : AppState}

/-- The entry is of the app's type and gives this address under the app's key. -/
structure Offers (app : App) (entry : Json) (url : String) : Prop where
  type_eq : entry.get? "appType" = some (.string app.appType)
  url_eq : ∃ urls, entry.get? "proxyUrls" = some urls ∧
    urls.get? app.proxyKey = some (.string url)

/-- The entry counts for the app. -/
def Usable (app : App) (entry : Json) : Prop := ∃ url, app.Offers entry url

/-- The state that a usable entry tells of. -/
inductive Tells (app : App) (entry : Json) : AppState → Prop
  | provisioning (usable : app.Usable entry)
      (status : entry.get? "status" = some (.string "PROVISIONING")) : Tells app entry .provisioning
  | ready {url : String} (offers : app.Offers entry url)
      (status : entry.get? "status" ≠ some (.string "PROVISIONING")) : Tells app entry (.ready url)

/-- The entry is no object, is of another app's type, or gives no address under the app's key. -/
inductive Useless (app : App) (entry : Json) : Prop
  | noObject (no_members : entry.members? = none)
  | otherApp {other : App} (differs : other ≠ app)
      (type_eq : entry.get? "appType" = some (.string other.appType))
  | noAddress (nowhere : ∀ urls url, entry.get? "proxyUrls" = some urls →
      urls.get? app.proxyKey ≠ some (.string url))

/-- One change of a listing that leaves every entry usable for the app, and the order of these, as
they are. -/
inductive Edit (app : App) : List Json → List Json → Prop
  | insert (front back : List Json) {entry : Json} (unusable : ¬ app.Usable entry) :
      Edit app (front ++ back) (front ++ entry :: back)
  | delete (front back : List Json) {entry : Json} (unusable : ¬ app.Usable entry) :
      Edit app (front ++ entry :: back) (front ++ back)
  | swap (front back : List Json) {entry other : Json}
      (unusable : ¬ app.Usable entry ∨ ¬ app.Usable other) :
      Edit app (front ++ entry :: other :: back) (front ++ other :: entry :: back)

lemma proxyUrl?_eq_some_iff {url : String} :
    app.proxyUrl? entry = some url ↔ app.Offers entry url := by
  unfold proxyUrl?
  constructor
  · intro given
    split at given
    · next typed =>
      obtain ⟨urls, listed, found⟩ := Option.bind_eq_some_iff.mp given
      exact ⟨Json.text?_eq_some_iff.mp typed, urls, listed, Json.text?_eq_some_iff.mp found⟩
    · cases given
  · rintro ⟨typed, urls, listed, found⟩
    rw [if_pos (Json.text?_eq_some_iff.mpr typed), listed]
    exact Json.text?_eq_some_iff.mpr found

lemma entryState?_eq_some_iff : app.entryState? entry = some state ↔ app.Tells entry state := by
  unfold entryState?
  rw [Option.map_eq_some_iff]
  constructor
  · rintro ⟨url, given, rfl⟩
    have offers := proxyUrl?_eq_some_iff.mp given
    split
    · next status => exact .provisioning ⟨url, offers⟩ (Json.text?_eq_some_iff.mp status)
    · next status => exact .ready offers (mt Json.text?_eq_some_iff.mpr status)
  · intro tells
    cases tells with
    | provisioning usable status =>
      obtain ⟨url, offers⟩ := usable
      exact ⟨url, proxyUrl?_eq_some_iff.mpr offers, if_pos (Json.text?_eq_some_iff.mpr status)⟩
    | ready offers status =>
      exact ⟨_, proxyUrl?_eq_some_iff.mpr offers, if_neg (mt Json.text?_eq_some_iff.mp status)⟩

lemma entryState?_eq_none_iff : app.entryState? entry = none ↔ ¬ app.Usable entry := by
  rw [entryState?, Option.map_eq_none_iff, Option.eq_none_iff_forall_ne_some, Usable, not_exists]
  exact forall_congr' fun url => not_congr proxyUrl?_eq_some_iff

lemma Tells.ne_missing (tells : app.Tells entry state) : state ≠ .missing := by
  cases tells <;> nofun

lemma Usable.exists_tells (usable : app.Usable entry) : ∃ state, app.Tells entry state := by
  by_cases status : entry.get? "status" = some (.string "PROVISIONING")
  · exact ⟨.provisioning, .provisioning usable status⟩
  · obtain ⟨url, offers⟩ := usable
    exact ⟨.ready url, .ready offers status⟩

lemma appType_injective : Function.Injective appType := by
  intro one other same
  revert same
  cases one <;> cases other <;> decide

lemma Useless.not_usable (useless : app.Useless entry) : ¬ app.Usable entry := by
  rintro ⟨url, typed, urls, listed, found⟩
  cases useless with
  | noObject no_members =>
    rw [Json.get?_of_no_members no_members] at typed
    cases typed
  | otherApp differs other_typed =>
    have same_type := Json.string.inj (Option.some.inj (other_typed.symm.trans typed))
    exact differs (appType_injective same_type)
  | noAddress nowhere => exact nowhere urls url listed found

/-- What the usable entries of a listing tell, in their order. -/
def statesOf (app : App) (entries : List Json) : List AppState := entries.filterMap app.entryState?

lemma find_list (entries : List Json) :
    app.find (.list entries) = ((app.statesOf entries).head?).getD .missing := by
  rw [statesOf, List.head?_filterMap]
  rfl

lemma statesOf_append (front back : List Json) :
    app.statesOf (front ++ back) = app.statesOf front ++ app.statesOf back :=
  List.filterMap_append

lemma statesOf_cons_of_not_usable (unusable : ¬ app.Usable entry) (back : List Json) :
    app.statesOf (entry :: back) = app.statesOf back :=
  List.filterMap_cons_none (entryState?_eq_none_iff.mpr unusable)

lemma statesOf_cons_of_tells (tells : app.Tells entry state) (back : List Json) :
    app.statesOf (entry :: back) = state :: app.statesOf back :=
  List.filterMap_cons_some (entryState?_eq_some_iff.mpr tells)

lemma statesOf_eq_nil_iff {entries : List Json} :
    app.statesOf entries = [] ↔ ∀ entry ∈ entries, ¬ app.Usable entry := by
  rw [statesOf, List.filterMap_eq_nil_iff]
  exact forall₂_congr fun _ _ => entryState?_eq_none_iff

/-- Two entries of which one is not usable tell the same in either order. -/
lemma statesOf_swap {other : Json} (unusable : ¬ app.Usable entry ∨ ¬ app.Usable other)
    (back : List Json) :
    app.statesOf (entry :: other :: back) = app.statesOf (other :: entry :: back) := by
  have past {skipped : Json} (useless : ¬ app.Usable skipped) (kept : Json) :
      app.statesOf (kept :: skipped :: back) = app.statesOf (kept :: back) := by
    rw [← List.singleton_append, statesOf_append, statesOf_cons_of_not_usable useless,
      ← statesOf_append, List.singleton_append]
  rcases unusable with useless | useless
  · rw [statesOf_cons_of_not_usable useless, past useless]
  · rw [past useless, statesOf_cons_of_not_usable useless]

/-- One change keeps what the usable entries tell. -/
lemma Edit.statesOf_eq {entries others : List Json} (edit : app.Edit entries others) :
    app.statesOf entries = app.statesOf others := by
  cases edit with
  | insert front back unusable =>
    rw [statesOf_append, statesOf_append, statesOf_cons_of_not_usable unusable]
  | delete front back unusable =>
    rw [statesOf_append, statesOf_append, statesOf_cons_of_not_usable unusable]
  | swap front back unusable =>
    rw [statesOf_append, statesOf_append, statesOf_swap unusable]

/-- Any number of changes do. -/
lemma statesOf_eq_of_edits {entries others : List Json}
    (edits : Relation.ReflTransGen app.Edit entries others) :
    app.statesOf entries = app.statesOf others := by
  induction edits with
  | refl => rfl
  | tail _ edit ih => exact ih.trans edit.statesOf_eq

lemma find_eq_missing_iff (listing : Json) : app.find listing = .missing ↔
    ∀ entries, listing = .list entries → ∀ entry ∈ entries, ¬ app.Usable entry := by
  cases listing with
  | list entries =>
    rw [find_list]
    constructor
    · rintro missing _ ⟨⟩
      rw [← statesOf_eq_nil_iff]
      cases told : app.statesOf entries with
      | nil => rfl
      | cons state rest =>
        rw [told] at missing
        have listed : state ∈ app.statesOf entries := told ▸ List.mem_cons_self
        obtain ⟨entry, _, tells⟩ := List.mem_filterMap.mp listed
        exact absurd missing (entryState?_eq_some_iff.mp tells).ne_missing
    · intro unusable
      rw [statesOf_eq_nil_iff.mpr (unusable entries rfl)]
      rfl
  | _ => exact iff_of_true rfl nofun

/-- The first usable entry tells what is found. -/
lemma tells_find {front back : List Json} (unusable : ∀ skipped ∈ front, ¬ app.Usable skipped)
    (usable : app.Usable entry) : app.Tells entry (app.find (.list (front ++ entry :: back))) := by
  obtain ⟨state, tells⟩ := usable.exists_tells
  have found : app.find (.list (front ++ entry :: back)) = state := by
    rw [find_list, statesOf_append, statesOf_eq_nil_iff.mpr unusable, statesOf_cons_of_tells tells]
    rfl
  rwa [found]

/-- An app is missing just when no entry of the listing can be used for it, and else the first entry
that can tells its state. Changes that leave the usable entries as they are leave the state as it is;
an entry that is no object, is of another app's type or has no address under the app's key is not
usable. -/
theorem find_decided_by_first_usable (app : App) :
    (∀ listing, app.find listing = .missing ↔
      ∀ entries, listing = .list entries → ∀ entry ∈ entries, ¬ app.Usable entry) ∧
    (∀ front entry back, (∀ skipped ∈ front, ¬ app.Usable skipped) → app.Usable entry →
      app.Tells entry (app.find (.list (front ++ entry :: back)))) ∧
    (∀ entries others, Relation.ReflTransGen app.Edit entries others →
      app.find (.list entries) = app.find (.list others)) ∧
    (∀ entry, app.Useless entry → ¬ app.Usable entry) := by
  refine ⟨find_eq_missing_iff, ?_, ?_, ?_⟩
  · intro front entry back unusable usable
    exact tells_find unusable usable
  · intro entries others edits
    rw [find_list, find_list, statesOf_eq_of_edits edits]
  · intro entry useless
    exact useless.not_usable

end App
end Shakedown
