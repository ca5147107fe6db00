import Shakedown.Record.Basic

/-!
A record with an attribute for every way in which the service treats one.
-/

namespace Shakedown.Record

private def count (i : Fin 100) : Attribute := .number (.integer i (by omega))

/-- One quarter. -/
def quarter : Binary64 := ⟨false, 1021 * Binary64.groupSize, by decide⟩

def probeDay : Date := ⟨2023, 8, 3, by decide, by decide, by decide⟩

def probeMoment : DateTime :=
  ⟨probeDay, 20, 10, 59, 0, by decide, by decide, by decide, by decide⟩

def probe (recordType id : String) : Record :=
  { recordType, id : Record }
    |>.set "text" (.string "hello world")
    |>.set "count" (count 42)
    |>.set "ratio" (.number (.double quarter))
    |>.set "flag" (.bool true)
    |>.set "flag_as_text" (.string "False")
    |>.set "numbers" (.list [count 1, count 2, count 3])
    |>.set "mixed" (.list [.string "a", count 1, .bool true])
    |>.set "nested" (.json (.object [("key",
        .list [.string "value", .object [("deep", .number (.integer 1 (by decide)))]])]))
    |>.set "day" (.date probeDay)
    |>.set "moment" (.dateTime probeMoment)

end Shakedown.Record
