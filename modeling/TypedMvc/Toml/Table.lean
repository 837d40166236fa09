import TypedMvc.Data.Value

/-!
# Tables of configuration documents

The tables of a document while it is read. A table may be defined by its header, by keys with dots,
or only be implied because something inside it is defined. No table is defined twice, and what is
written as a value is never added to.
-/

namespace TypedMvc.Toml

open Data

/-- How a table came about. -/
inductive Origin where
  /-- Something inside the table has a header. -/
  | implied
  /-- A key with dots goes through the table. -/
  | dotted
  /-- The table has a header, or is the whole document. -/
  | headed
  deriving Repr, DecidableEq, Inhabited

/-- What stands under a key. -/
inductive Item where
  /-- A value, tables in braces included. -/
  | value (value : Value)
  /-- A table. -/
  | table (origin : Origin) (entries : List (String × Item))
  /-- Tables that share a header in double brackets. -/
  | tables (elements : List (List (String × Item)))
  deriving Repr, Inhabited

/-- What stands under the keys of a table, in order. -/
abbrev Entries := List (String × Item)

/-- Changes what stands under a key; a new key is put last. The change may be refused. -/
def modifyKey? (key : String) (change : Option Item → Option Item) : Entries → Option Entries
  | [] => (change none).map fun item => [(key, item)]
  | (other, item) :: rest =>
    if other = key then (change (some item)).map fun item => (other, item) :: rest
    else (modifyKey? key change rest).map ((other, item) :: ·)

/-- Changes the table at a path. Tables on the way that are not there yet come about. Keys with
dots do not go through tables that have a header. Of tables that share a header the last one
counts. -/
def modifyTable? (dotted : Bool) (change : Origin → Entries → Option Entries) :
    (path : List String) → Origin → Entries → Option Entries
  | [], origin, entries => change origin entries
  | key :: path, _, entries =>
    modifyKey? key (fun item =>
      match item with
      | none =>
        let origin := if dotted then Origin.dotted else Origin.implied
        (modifyTable? dotted change path origin []).map (Item.table origin)
      | some (.table origin inner) =>
        if dotted ∧ origin = .headed then none
        else (modifyTable? dotted change path origin inner).map (Item.table origin)
      | some (.tables elements) =>
        match elements.getLast? with
        | some last =>
          (modifyTable? dotted change path .headed last).map fun last =>
            .tables (elements.dropLast ++ [last])
        | none => none
      | some (.value _) => none) entries

/-- Defines the table of a header. -/
def defineTable? (path : List String) (root : Entries) : Option Entries :=
  match path.getLast? with
  | none => none
  | some key =>
    modifyTable? false (fun _ entries =>
      modifyKey? key (fun item =>
        match item with
        | none => some (.table .headed [])
        | some (.table .implied inner) => some (.table .headed inner)
        | _ => none) entries) path.dropLast .headed root

/-- Adds a table to those that share a header in double brackets. -/
def appendTable? (path : List String) (root : Entries) : Option Entries :=
  match path.getLast? with
  | none => none
  | some key =>
    modifyTable? false (fun _ entries =>
      modifyKey? key (fun item =>
        match item with
        | none => some (.tables [[]])
        | some (.tables elements) => some (.tables (elements ++ [[]]))
        | _ => none) entries) path.dropLast .headed root

/-- Sets a key, which may have dots, of a table. -/
def setKey? (path : List String) (value : Value) (entries : Entries) : Option Entries :=
  match path.getLast? with
  | none => none
  | some key =>
    modifyTable? true (fun origin entries =>
      if path.length = 1 ∨ origin = .dotted then
        modifyKey? key (fun item => if item.isNone then some (.value value) else none) entries
      else none) path.dropLast .headed entries

/-- Sets a key of the table at a path. -/
def setKeyIn? (table path : List String) (value : Value) (root : Entries) : Option Entries :=
  modifyTable? false (fun _ entries => setKey? path value entries) table .headed root

mutual
/-- The value of an item. -/
def Item.toValue : Item → Value
  | .value value => value
  | .table _ entries => .object (fieldsOf entries)
  | .tables elements => .array (objectsOf elements)

/-- The fields of a table. -/
def fieldsOf : List (String × Item) → List (String × Value)
  | [] => []
  | (key, item) :: rest => (key, item.toValue) :: fieldsOf rest

/-- The values of tables that share a header. -/
def objectsOf : List (List (String × Item)) → List Value
  | [] => []
  | entries :: rest => .object (fieldsOf entries) :: objectsOf rest
end

end TypedMvc.Toml
