import Shakedown.Calendar
import Shakedown.Json.Printer
import Shakedown.Text.Blank

/-!
Attributes of a record: what is sent for one, and what the service gives back.

The service makes booleans of texts that spell one, dates come back as their ISO text, and a list
keeps its items as they are only if they are all of one kind; of any other list each item comes
back as text.
-/

namespace Shakedown

inductive Attribute where
  | string (text : String)
  | number (value : Json.Number)
  | bool (value : Bool)
  | date (value : Date)
  | dateTime (value : DateTime)
  | list (items : List Attribute)
  | json (value : Json)
  | null

namespace Attribute

/-- A number as an attribute; nothing stands for one that is not finite. -/
def ofDouble? : Option Binary64 → Attribute
  | some x => .number (.double x)
  | none => .null

mutual

/-- The JSON sent for an attribute. -/
def wire : Attribute → Json
  | .string s => .string s
  | .number n => .number n
  | .bool b => .bool b
  | .date d => .string d.text
  | .dateTime t => .string t.text
  | .list items => .list (wireItems items)
  | .json j => j
  | .null => .null

def wireItems : List Attribute → List Json
  | [] => []
  | item :: rest => wire item :: wireItems rest

end

theorem wireItems_eq_map (items : List Attribute) : wireItems items = items.map wire := by
  induction items with
  | nil => rfl
  | cons item rest ih => simp [wireItems, ih]

inductive Kind where
  | string
  | number
  | bool
  | date
  | dateTime
deriving DecidableEq, Repr

def kind? : Attribute → Option Kind
  | .string _ => some .string
  | .number _ => some .number
  | .bool _ => some .bool
  | .date _ => some .date
  | .dateTime _ => some .dateTime
  | _ => none

def isNull : Attribute → Bool
  | .null => true
  | _ => false

def text? : Attribute → Option String
  | .string s => some s
  | _ => none

/-- The boolean that a text spells in any letter case. -/
def spelledBool? (s : String) : Option Bool :=
  if Text.spells ['t', 'r', 'u', 'e'] s.toList then some true
  else if Text.spells ['f', 'a', 'l', 's', 'e'] s.toList then some false
  else none

/-- Whether the items that are not null are of more than one kind, or of one that is no scalar. -/
def isMixed (items : List Attribute) : Bool :=
  match (items.filter (!·.isNull)).map kind? with
  | [] => false
  | none :: _ => true
  | some first :: rest => rest.any (· ≠ some first)

/-- Whether each text among the items spells a boolean. -/
def spellBooleans (items : List Attribute) : Bool :=
  (items.filterMap text?).all fun s => (spelledBool? s).isSome

/-- An item of a list that comes back as text. -/
def asText (item : Attribute) : Json :=
  match item with
  | .null => .null
  | .string s => .string s
  | other =>
    match other.wire with
    | .string s => .string s
    | j => .string j.text

mutual

/-- The JSON that the service is expected to give back for an attribute. -/
def returned : Attribute → Json
  | .string s =>
    match spelledBool? s with
    | some b => .bool b
    | none => .string s
  | .list items =>
    if isMixed items || !spellBooleans items then .list (items.map asText)
    else .list (returnedItems items)
  | other => other.wire

def returnedItems : List Attribute → List Json
  | [] => []
  | item :: rest => returned item :: returnedItems rest

end

theorem returnedItems_eq_map (items : List Attribute) :
    returnedItems items = items.map returned := by
  induction items with
  | nil => rfl
  | cons item rest ih => simp [returnedItems, ih]

example : (Attribute.list [.string "True", .null]).returned = .list [.bool true, .null] := by
  decide +kernel
example : (Attribute.list [.string "true", .bool true]).returned =
    .list [.string "true", .string "true"] := by decide +kernel

end Attribute
end Shakedown
