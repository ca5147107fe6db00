import Shakedown.Json.Number
import Shakedown.Named

/-!
JSON values.

The members of an object stand in ascending order of their names, each name once; `WellFormed` says
it of a whole value.
-/

namespace Shakedown

inductive Json where
  | null
  | bool (value : Bool)
  | number (value : Json.Number)
  | string (value : String)
  | list (items : List Json)
  | object (members : List (String × Json))
deriving Inhabited

namespace Json

/-- The object with the given members, in whatever order they come. -/
def ofMembers (members : List (String × Json)) : Json :=
  .object (Named.ofList members)

def ofInt (i : Int) : Json :=
  match Number.ofInt? i with
  | some n => .number n
  | none => .number (.double (Binary64.ofInt i))

def ofNat (n : Nat) : Json := ofInt n

/-- The value of a member of an object. -/
def get? (name : String) : Json → Option Json
  | .object members => members.lookup name
  | _ => none

def string? : Json → Option String
  | .string s => some s
  | _ => none

def list? : Json → Option (List Json)
  | .list items => some items
  | _ => none

def members? : Json → Option (List (String × Json))
  | .object members => some members
  | _ => none

/-- The text of a member of an object. -/
def text? (name : String) (j : Json) : Option String := (j.get? name).bind string?

theorem get?_of_no_members {name : String} {j : Json} (no_object : j.members? = none) :
    j.get? name = none := by
  cases j with
  | object members => cases no_object
  | _ => rfl

theorem text?_eq_some_iff {name text : String} {j : Json} :
    j.text? name = some text ↔ j.get? name = some (.string text) := by
  rw [text?, Option.bind_eq_some_iff]
  constructor
  · rintro ⟨value, found, read⟩
    cases value with
    | string s =>
      cases read
      exact found
    | _ => cases read
  · intro found
    exact ⟨_, found, rfl⟩

mutual

/-- Every object in the value has strictly ascending names. -/
def WellFormed : Json → Prop
  | .list items => WellFormedItems items
  | .object members => Named.Ascending members ∧ WellFormedMembers members
  | _ => True

def WellFormedItems : List Json → Prop
  | [] => True
  | item :: rest => WellFormed item ∧ WellFormedItems rest

def WellFormedMembers : List (String × Json) → Prop
  | [] => True
  | (_, value) :: rest => WellFormed value ∧ WellFormedMembers rest

end

mutual

/-- Identity of values, numbers included. -/
def beq : Json → Json → Bool
  | .null, .null => true
  | .bool a, .bool b => a == b
  | .number a, .number b => a == b
  | .string a, .string b => a == b
  | .list a, .list b => beqItems a b
  | .object a, .object b => beqMembers a b
  | _, _ => false

def beqItems : List Json → List Json → Bool
  | [], [] => true
  | a :: as, b :: bs => beq a b && beqItems as bs
  | _, _ => false

def beqMembers : List (String × Json) → List (String × Json) → Bool
  | [], [] => true
  | (m, a) :: as, (n, b) :: bs => m == n && beq a b && beqMembers as bs
  | _, _ => false

end

mutual

theorem beq_iff : ∀ a b : Json, beq a b = true ↔ a = b
  | .null, b => by cases b <;> simp [beq]
  | .bool _, b => by cases b <;> simp [beq]
  | .number _, b => by cases b <;> simp [beq]
  | .string _, b => by cases b <;> simp [beq]
  | .list as, b => by cases b <;> simp [beq, beqItems_iff as]
  | .object as, b => by cases b <;> simp [beq, beqMembers_iff as]

theorem beqItems_iff : ∀ as bs : List Json, beqItems as bs = true ↔ as = bs
  | [], bs => by cases bs <;> simp [beqItems]
  | a :: as, bs => by cases bs <;> simp [beqItems, beq_iff a, beqItems_iff as]

theorem beqMembers_iff : ∀ as bs : List (String × Json), beqMembers as bs = true ↔ as = bs
  | [], bs => by cases bs <;> simp [beqMembers]
  | (m, a) :: as, bs => by
    cases bs with
    | nil => simp [beqMembers]
    | cons b bs =>
      obtain ⟨n, b⟩ := b
      simp [beqMembers, beq_iff a, beqMembers_iff as, and_assoc]

end

instance : DecidableEq Json := fun a b => decidable_of_iff _ (beq_iff a b)

example : ofMembers [("b", .null), ("a", .null), ("b", .bool true)] =
    .object [("a", .null), ("b", .bool true)] := by decide

end Json
end Shakedown
