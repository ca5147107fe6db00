import Shakedown.Json.Agreement
import Shakedown.Record.Attribute

/-!
Records, and the comparison of one that was written with what was read back.
-/

namespace Shakedown

/-- A record under its type and id, with named attributes. -/
structure Record where
  recordType : String
  id : String
  attributes : List (String × Attribute) := []
  ascending : Named.Ascending attributes := by exact List.Pairwise.nil

/-- An attribute that did not come back as expected; nothing came back for a missing one. -/
structure Mismatch where
  name : String
  expected : Json
  actual : Option Json

namespace Record

/-- Adds an attribute, or gives an existing one a new value. -/
def set (r : Record) (name : String) (value : Attribute) : Record :=
  { r with
    attributes := Named.insert name value r.attributes
    ascending := Named.ascending_insert name value r.ascending }

/-- What is sent to write the record. -/
def requestBody (r : Record) : Json :=
  .object [("attributes", .object (r.attributes.map fun a => (a.1, a.2.wire)))]

/-- The attributes of a record read back; none if the JSON is no record. -/
def attributesOf (retrieved : Json) : List (String × Json) :=
  ((retrieved.get? "attributes").bind Json.members?).getD []

/-- The mismatch of one attribute, if there is one. -/
def mismatch? (actual : List (String × Json)) (written : String × Attribute) : Option Mismatch :=
  let expected := written.2.returned
  match actual.lookup written.1 with
  | some got => if expected.agrees got then none else some ⟨written.1, expected, some got⟩
  | none => some ⟨written.1, expected, none⟩

/-- The written attributes that did not come back as expected. Others that came back besides them
do not matter. -/
def mismatches (written : Record) (retrieved : Json) : List Mismatch :=
  written.attributes.filterMap (mismatch? (attributesOf retrieved))

end Record

def Mismatch.text (m : Mismatch) : String :=
  match m.actual with
  | some actual => m.name ++ ": expected " ++ m.expected.text ++ " got " ++ actual.text
  | none => m.name ++ ": expected " ++ m.expected.text ++ " but it is missing"

end Shakedown
