import Pagewise.Toml.Basic

/-!
# Putting TOML tables together

A document defines its tables in pieces: by headers, by keys with points, and as arrays of tables.
A table that is written in one piece is closed. How a table came to be (`Origin`) decides which
pieces may still be added:

* a header may define a table only if it was met on the way to another header and no more;
* keys with points may add to tables that such keys made, and pass through tables that were only
  met on the way, but never through one that a header defined;
* no key is written twice.
-/

namespace Pagewise.Toml

/-- How a table came to be. -/
inductive Origin where
  /-- By its own header. -/
  | header
  /-- On the way to the header of another table. -/
  | passed
  /-- By a key with points. -/
  | pointed
deriving DecidableEq, Repr

/-- What stands at a key of a document that is being read. -/
inductive Item where
  /-- A value in one piece. -/
  | value (value : Toml)
  | table (origin : Origin) (entries : List (String × Item))
  /-- An array of tables; pieces are added to the last one. -/
  | tables (closed : List Toml) (last : List (String × Item))

/-- The entries of a table that is being read. -/
abbrev Entries := List (String × Item)

mutual

/-- The value of what was read. -/
def Item.toToml : Item → Toml
  | .value v => v
  | .table _ entries => .table (Item.valuesOf entries)
  | .tables closed last => .array (closed ++ [.table (Item.valuesOf last)])

/-- The values of entries. -/
def Item.valuesOf : List (String × Item) → List (String × Toml)
  | [] => []
  | (key, item) :: rest => (key, item.toToml) :: Item.valuesOf rest

end

namespace Entries

/-- Changes the table at the end of a path. Tables that are missing are made; `pointed` says that
the path belongs to a key with points. The change is told how its table came to be. -/
def within? (pointed : Bool) (change : Origin → Entries → Option Entries) :
    Origin → List String → Entries → Option Entries
  | origin, [], entries => change origin entries
  | _, key :: path, entries =>
    let put (item : Item) : Entries := Keyed.insert key item entries
    match Keyed.get? key entries with
    | none =>
      let origin := if pointed then .pointed else .passed
      (within? pointed change origin path []).map fun inner => put (.table origin inner)
    | some (.table origin inner) =>
      if pointed && origin = .header then none
      else (within? pointed change origin path inner).map fun inner => put (.table origin inner)
    | some (.tables closed last) =>
      (within? pointed change .header path last).map fun last => put (.tables closed last)
    | some (.value _) => none

/-- Writes a value at a key that is not written yet. A key without points may not add to a table
that keys with points made, nor the other way round. -/
def put? (isPointed : Bool) (key : String) (value : Toml) (origin : Origin) (entries : Entries) :
    Option Entries :=
  if isPointed != (origin == .pointed) then none
  else match Keyed.get? key entries with
    | some _ => none
    | none => some (Keyed.insert key (.value value) entries)

/-- Writes a value at the end of a path of keys with points. -/
def assign? (path : List String) (value : Toml) (entries : Entries) : Option Entries :=
  match path.getLast? with
  | none => none
  | some key =>
    let front := path.dropLast
    within? true (put? (!front.isEmpty) key value) .header front entries

/-- Defines the table at the end of a path by its header. -/
def define? (path : List String) (entries : Entries) : Option Entries :=
  match path.getLast? with
  | none => none
  | some key =>
    within? false (fun _ parent =>
      match Keyed.get? key parent with
      | none => some (Keyed.insert key (.table .header []) parent)
      | some (.table .passed inner) => some (Keyed.insert key (.table .header inner) parent)
      | _ => none) .header path.dropLast entries

/-- Adds a table to the array of tables at the end of a path. -/
def append? (path : List String) (entries : Entries) : Option Entries :=
  match path.getLast? with
  | none => none
  | some key =>
    within? false (fun _ parent =>
      match Keyed.get? key parent with
      | none => some (Keyed.insert key (.tables [] []) parent)
      | some (.tables closed last) =>
        some (Keyed.insert key (.tables (closed ++ [.table (Item.valuesOf last)]) []) parent)
      | _ => none) .header path.dropLast entries

/-- Writes a value at a path within the table of a header. -/
def assignUnder? (header path : List String) (value : Toml) (entries : Entries) : Option Entries :=
  within? false (fun _ table => table.assign? path value) .header header entries

end Entries

end Pagewise.Toml
