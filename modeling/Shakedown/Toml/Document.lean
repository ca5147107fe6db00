import Shakedown.Named
import Shakedown.Toml.Basic

/-!
Tables of a TOML document, put together statement by statement.

A table may be given by a header, by dotted keys, or by being on the way to another one. Only a
table that was merely on the way may still get a header, and dotted keys extend only tables that
dotted keys made.
-/

namespace Shakedown.Toml

inductive Statement where
  | pair (path : List String) (key : String) (value : Toml)
  | header (path : List String) (key : String)
  | arrayHeader (path : List String) (key : String)

/-- How a table came about. -/
inductive Origin where
  | onTheWay
  | dotted
  | given
deriving DecidableEq, Repr

/-- A table still open to statements; those of an array stand newest first. -/
inductive Item where
  | value (value : Toml)
  | table (origin : Origin) (members : List (String × Item))
  | tables (newest : List (String × Item)) (older : List (List (String × Item)))

abbrev Members := List (String × Item)

namespace Members

/-- Changes the table at the end of a path. Tables missing on the way are made with the origin
`how`. -/
def change (how : Origin) (f : Origin → Members → Option Members) :
    (path : List String) → Origin → Members → Option Members
  | [], origin, members => f origin members
  | key :: path, _, members =>
    match members.lookup key with
    | none =>
      (change how f path how []).map fun inner => Named.insert key (.table how inner) members
    | some (.value _) => none
    | some (.table origin inner) =>
      if how = .dotted && origin = .given then none
      else (change how f path origin inner).map fun inner =>
        Named.insert key (.table origin inner) members
    | some (.tables newest older) =>
      (change how f path .given newest).map fun newest =>
        Named.insert key (.tables newest older) members

/-- Adds a pair under a dotted key. -/
def addPair (path : List String) (key : String) (value : Toml) (origin : Origin)
    (members : Members) : Option Members :=
  change .dotted (fun last inner =>
    if (path ≠ [] && last ≠ .dotted) || (inner.lookup key).isSome then none
    else some (Named.insert key (.value value) inner)) path origin members

/-- Gives a table by its header. -/
def addTable (key : String) (members : Members) : Option Members :=
  match members.lookup key with
  | none => some (Named.insert key (.table .given []) members)
  | some (.table .onTheWay inner) => some (Named.insert key (.table .given inner) members)
  | _ => none

/-- Adds a table to an array of tables. -/
def addToArray (key : String) (members : Members) : Option Members :=
  match members.lookup key with
  | none => some (Named.insert key (.tables [] []) members)
  | some (.tables newest older) => some (Named.insert key (.tables [] (newest :: older)) members)
  | _ => none

end Members

mutual

/-- The value that a finished item is. -/
def Item.finish : Item → Toml
  | .value v => v
  | .table _ members => .table (finishMembers members)
  | .tables newest older => .array (finishTables older [.table (finishMembers newest)])

def finishMembers : List (String × Item) → List (String × Toml)
  | [] => []
  | (key, item) :: rest => (key, item.finish) :: finishMembers rest

/-- Finishes tables that stand newest first, in front of those already finished. -/
def finishTables : List (List (String × Item)) → List Toml → List Toml
  | [], done => done
  | members :: older, done => finishTables older (.table (finishMembers members) :: done)

end

/-- A document part way through: its tables, and the path of the one that pairs now go to. -/
structure Document where
  root : Members := []
  current : List String := []

namespace Document

def add (d : Document) : Statement → Option Document
  | .pair path key value =>
    (Members.change .onTheWay (fun origin inner => inner.addPair path key value origin)
      d.current .given d.root).map fun root => { d with root }
  | .header path key =>
    (Members.change .onTheWay (fun _ inner => inner.addTable key) path .given d.root).map
      fun root => ⟨root, path ++ [key]⟩
  | .arrayHeader path key =>
    (Members.change .onTheWay (fun _ inner => inner.addToArray key) path .given d.root).map
      fun root => ⟨root, path ++ [key]⟩

/-- The table that statements make, unless one of them contradicts an earlier one. -/
def ofStatements (statements : List Statement) : Option (List (String × Toml)) :=
  (statements.foldlM add {}).map fun d => finishMembers d.root

end Document

/-- The table between braces that pairs make. -/
def inlineTable (pairs : List (List String × String × Toml)) : Option Toml :=
  (pairs.foldlM (fun (members : Members) p => members.addPair p.1 p.2.1 p.2.2 .given) []).map
    fun members => .table (finishMembers members)

end Shakedown.Toml
