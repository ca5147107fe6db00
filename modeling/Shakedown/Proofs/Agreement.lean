import Mathlib.Data.List.Forall2
import Mathlib.Data.List.Perm.Subperm
import Mathlib.Tactic.Lemma
import Shakedown.Json.Agreement
import Shakedown.Proofs.Rounding

/-!
When JSON values agree.

Lists agree when they are as long and agree item by item, and objects when they have the same names
and agree name by name: one has as many members as the other, and each of its names, which all
differ, stands in the other. Numbers agree when they are rounded to the same double. So values
agree just when they become the same value once every number is rounded, and agreement is an
equivalence.
-/

namespace Shakedown

namespace Named

variable {α β : Type}

lemma Ascending.names {things : List (String × α)} (ascending : Ascending things) :
    (things.map Prod.fst).Pairwise (· < ·) :=
  List.pairwise_map.mpr ascending

/-- As many names, all different, that include all of the others are the same ones. -/
lemma names_eq {things : List (String × α)} {others : List (String × β)}
    (ascending : Ascending things) (others_ascending : Ascending others)
    (length_eq : things.length = others.length)
    (known : ∀ thing ∈ things, thing.1 ∈ others.map Prod.fst) :
    things.map Prod.fst = others.map Prod.fst := by
  have differ : (things.map Prod.fst).Nodup := by
    refine ascending.names.imp ?_
    rintro name _ before rfl
    exact String.lt_irrefl name before
  have among : things.map Prod.fst ⊆ others.map Prod.fst := by
    intro name mem
    obtain ⟨thing, thing_mem, rfl⟩ := List.mem_map.mp mem
    exact known thing thing_mem
  have perm : (things.map Prod.fst).Perm (others.map Prod.fst) :=
    (List.subperm_of_subset differ among).perm_of_length_le (by simp [length_eq])
  exact perm.eq_of_pairwise (fun _ _ _ _ before after => absurd after (String.lt_asymm before))
    ascending.names others_ascending.names

end Named

namespace Json

lemma agreeItems_iff {as bs : List Json} :
    agreeItems as bs = true ↔ List.Forall₂ (fun a b => a.agrees b = true) as bs := by
  induction as generalizing bs with
  | nil => cases bs <;> simp [agreeItems]
  | cons a as ih => cases bs <;> simp [agreeItems, ih]

/-- Two lists made of the same things agree when each thing makes values that agree. -/
lemma agreeItems_map_iff {α : Type} {f g : α → Json} {things : List α} :
    agreeItems (things.map f) (things.map g) = true ↔
      ∀ thing ∈ things, (f thing).agrees (g thing) = true := by
  rw [agreeItems_iff, List.forall₂_map_left_iff, List.forall₂_map_right_iff, List.forall₂_same]

lemma agreeMembers_iff {as bs : List (String × Json)} :
    agreeMembers as bs = true ↔
      ∀ a ∈ as, ∃ b, bs.lookup a.1 = some b ∧ a.2.agrees b = true := by
  induction as with
  | nil => simp [agreeMembers]
  | cons a as ih =>
    obtain ⟨name, a⟩ := a
    rw [agreeMembers, Bool.and_eq_true, ih, List.forall_mem_cons]
    refine and_congr_left fun _ => ?_
    cases bs.lookup name <;> simp

/-- A step into a value: to an item of a list, or to a member of an object. -/
inductive Step where
  | item (index : Nat)
  | member (name : String)

/-- What stands at the end of a path into a value. -/
def at? : List Step → Json → Option Json
  | [], j => some j
  | .item index :: path, .list items => (items[index]?).bind (at? path)
  | .member name :: path, .object members => (members.lookup name).bind (at? path)
  | _ :: _, _ => none

lemma exists_item_of_agreeItems {as bs : List Json} (agree : agreeItems as bs = true) {index : Nat}
    {item : Json} (here : as[index]? = some item) :
    ∃ partner, bs[index]? = some partner ∧ item.agrees partner = true := by
  have side_by_side := agreeItems_iff.mp agree
  clear agree
  induction side_by_side generalizing index with
  | nil => cases here
  | cons first _ ih =>
    cases index with
    | zero =>
      cases here
      exact ⟨_, rfl, first⟩
    | succ index => exact ih here

lemma exists_member_of_agreeMembers {as bs : List (String × Json)}
    (agree : agreeMembers as bs = true) {name : String} {value : Json}
    (here : as.lookup name = some value) :
    ∃ partner, bs.lookup name = some partner ∧ value.agrees partner = true := by
  obtain ⟨before, after, rfl, _⟩ := List.lookup_eq_some_iff.mp here
  exact agreeMembers_iff.mp agree (name, value) (by simp)

/-- Wherever a value has something, one that it agrees with has something that this agrees with. -/
lemma agrees_at {path : List Step} {a b found : Json} (agree : a.agrees b = true)
    (here : a.at? path = some found) :
    ∃ partner, b.at? path = some partner ∧ found.agrees partner = true := by
  induction path generalizing a b with
  | nil =>
    obtain rfl : a = found := Option.some.inj here
    exact ⟨b, rfl, agree⟩
  | cons step path ih =>
    cases step with
    | item index =>
      cases a with
      | list as =>
        cases b with
        | list bs =>
          obtain ⟨item, item_eq, inside⟩ := Option.bind_eq_some_iff.mp here
          obtain ⟨partner, partner_eq, items_agree⟩ := exists_item_of_agreeItems agree item_eq
          obtain ⟨deep, deep_eq, deep_agree⟩ := ih items_agree inside
          exact ⟨deep, Option.bind_eq_some_iff.mpr ⟨partner, partner_eq, deep_eq⟩, deep_agree⟩
        | _ => cases agree
      | _ => cases here
    | member name =>
      cases a with
      | object as =>
        cases b with
        | object bs =>
          rw [agrees, Bool.and_eq_true] at agree
          obtain ⟨value, value_eq, inside⟩ := Option.bind_eq_some_iff.mp here
          obtain ⟨partner, partner_eq, values_agree⟩ :=
            exists_member_of_agreeMembers agree.2 value_eq
          obtain ⟨deep, deep_eq, deep_agree⟩ := ih values_agree inside
          exact ⟨deep, Option.bind_eq_some_iff.mpr ⟨partner, partner_eq, deep_eq⟩, deep_agree⟩
        | _ => cases agree
      | _ => cases here

/-- Members agree side by side when they have the same name and their values agree. -/
def PairsAgree (as bs : List (String × Json)) : Prop :=
  List.Forall₂ (fun a b => a.1 = b.1 ∧ a.2.agrees b.2 = true) as bs

lemma PairsAgree.exists_partner {as bs : List (String × Json)} (pairs : PairsAgree as bs) :
    ∀ a ∈ as, ∃ b ∈ bs, a.1 = b.1 ∧ a.2.agrees b.2 = true := by
  induction pairs with
  | nil => nofun
  | cons first _ ih =>
    rw [List.forall_mem_cons]
    refine ⟨⟨_, List.mem_cons_self, first⟩, ?_⟩
    intro a mem
    obtain ⟨b, b_mem, agree⟩ := ih a mem
    exact ⟨b, List.mem_cons_of_mem _ b_mem, agree⟩

/-- Objects with their names in order agree side by side. -/
lemma agreeMembers_iff_pairs {as bs : List (String × Json)} (ascending : Named.Ascending as)
    (others_ascending : Named.Ascending bs) :
    as.length = bs.length ∧ agreeMembers as bs = true ↔ PairsAgree as bs := by
  rw [agreeMembers_iff]
  constructor
  · rintro ⟨length_eq, partners⟩
    have known : ∀ a ∈ as, a.1 ∈ bs.map Prod.fst := by
      intro a mem
      obtain ⟨b, held, _⟩ := partners a mem
      exact List.mem_map.mpr ⟨_, (Named.lookup_eq_some_iff others_ascending).mp held, rfl⟩
    have names := Named.names_eq ascending others_ascending length_eq known
    have side_by_side : List.Forall₂ (fun a b => a.1 = b.1) as bs := by
      rw [← List.forall₂_eq_eq_eq, List.forall₂_map_left_iff, List.forall₂_map_right_iff] at names
      exact names
    obtain ⟨_, same_name⟩ := List.forall₂_iff_zip.mp side_by_side
    refine List.forall₂_iff_zip.mpr ⟨length_eq, ?_⟩
    intro a b mem
    obtain ⟨a_mem, b_mem⟩ := List.of_mem_zip mem
    obtain ⟨found, held, agree⟩ := partners a a_mem
    have its_own : bs.lookup a.1 = some b.2 := by
      rw [same_name mem]
      exact (Named.lookup_eq_some_iff others_ascending).mpr b_mem
    obtain rfl : found = b.2 := Option.some.inj (held.symm.trans its_own)
    exact ⟨same_name mem, agree⟩
  · intro pairs
    refine ⟨pairs.length_eq, ?_⟩
    intro a mem
    obtain ⟨b, b_mem, same_name, agree⟩ := pairs.exists_partner a mem
    refine ⟨b.2, ?_, agree⟩
    rw [same_name]
    exact (Named.lookup_eq_some_iff others_ascending).mpr b_mem

lemma wellFormedItems_iff {items : List Json} :
    WellFormedItems items ↔ ∀ item ∈ items, item.WellFormed := by
  induction items with
  | nil => simp [WellFormedItems]
  | cons item rest ih => simp [WellFormedItems, ih]

/-- The double nearest to a number, zero without its sign. -/
def Number.rounded (n : Number) : Number := .double n.toBinary64.plain

/-- Numbers of one kind that are the same are rounded alike, so only the rounded ones count. -/
lemma Number.agrees_iff {a b : Number} : a.agrees b = true ↔ a.rounded = b.rounded := by
  have same_rounds : a.same b = true → a.toBinary64.sameValue b.toBinary64 = true := by
    intro same
    cases a with
    | integer i =>
      cases b with
      | integer j =>
        obtain rfl : i = j := by simpa [Number.same] using same
        exact beq_self_eq_true _
      | double y => cases same
    | double x =>
      cases b with
      | integer j => cases same
      | double y => exact same
  rw [Number.agrees, Bool.or_eq_true, or_iff_right_of_imp same_rounds, Binary64.sameValue_iff,
    Number.rounded, Number.rounded, Number.double.injEq]

mutual

/-- The value with every number rounded. -/
def rounded : Json → Json
  | .number n => .number n.rounded
  | .list items => .list (roundedItems items)
  | .object members => .object (roundedMembers members)
  | j => j

def roundedItems : List Json → List Json
  | [] => []
  | item :: rest => rounded item :: roundedItems rest

def roundedMembers : List (String × Json) → List (String × Json)
  | [] => []
  | (name, value) :: rest => (name, rounded value) :: roundedMembers rest

end

mutual

/-- Values agree when they become the same once every number is rounded. -/
lemma agrees_iff_rounded_eq : ∀ {a b : Json}, a.WellFormed → b.WellFormed →
    (a.agrees b = true ↔ a.rounded = b.rounded)
  | .null, b, _, _ => by cases b <;> simp [agrees, rounded]
  | .bool _, b, _, _ => by cases b <;> simp [agrees, rounded]
  | .number _, b, _, _ => by cases b <;> simp [agrees, rounded, Number.agrees_iff]
  | .string _, b, _, _ => by cases b <;> simp [agrees, rounded]
  | .list _, b, wellFormed, others => by
    cases b with
    | list items => simp [agrees, rounded, items_agree_iff wellFormed others]
    | _ => simp [agrees, rounded]
  | .object _, b, ⟨ascending, wellFormed⟩, others => by
    cases b with
    | object members =>
      simp only [agrees, rounded, Bool.and_eq_true, beq_iff_eq, object.injEq,
        agreeMembers_iff_pairs ascending others.1, pairs_agree_iff wellFormed others.2]
    | _ => simp [agrees, rounded]

lemma items_agree_iff : ∀ {as bs : List Json}, WellFormedItems as → WellFormedItems bs →
    (agreeItems as bs = true ↔ roundedItems as = roundedItems bs)
  | [], bs, _, _ => by cases bs <;> simp [agreeItems, roundedItems]
  | a :: as, [], _, _ => by simp [agreeItems, roundedItems]
  | a :: as, b :: bs, ⟨wellFormed, rest⟩, ⟨other, others⟩ => by
    simp [agreeItems, roundedItems, agrees_iff_rounded_eq wellFormed other,
      items_agree_iff rest others]

lemma pairs_agree_iff : ∀ {as bs : List (String × Json)}, WellFormedMembers as →
    WellFormedMembers bs → (PairsAgree as bs ↔ roundedMembers as = roundedMembers bs)
  | [], bs, _, _ => by cases bs <;> simp [PairsAgree, roundedMembers]
  | a :: as, [], _, _ => by simp [PairsAgree, roundedMembers]
  | (m, a) :: as, (n, b) :: bs, ⟨wellFormed, rest⟩, ⟨other, others⟩ => by
    have tail := pairs_agree_iff rest others
    unfold PairsAgree at tail ⊢
    simp [roundedMembers, agrees_iff_rounded_eq wellFormed other, tail]

end

lemma agrees_self {j : Json} (wellFormed : j.WellFormed) : j.agrees j = true :=
  (agrees_iff_rounded_eq wellFormed wellFormed).mpr rfl

/-- A value whose objects hold each name once. -/
def Proper : Type := { j : Json // j.WellFormed }

/-- Among values whose objects hold each name once, every value agrees with itself, with those that
agree with it, and with what they agree with. -/
theorem agreement_is_equivalence :
    Equivalence fun a b : Proper => a.val.agrees b.val = true := by
  have same_rounded (a b : Proper) : a.val.agrees b.val = true ↔ a.val.rounded = b.val.rounded :=
    agrees_iff_rounded_eq a.property b.property
  refine ⟨?_, ?_, ?_⟩
  · intro a
    exact (same_rounded a a).mpr rfl
  · intro a b agree
    exact (same_rounded b a).mpr ((same_rounded a b).mp agree).symm
  · intro a b c agree also_agree
    exact (same_rounded a c).mpr
      (((same_rounded a b).mp agree).trans ((same_rounded b c).mp also_agree))

end Json
end Shakedown
