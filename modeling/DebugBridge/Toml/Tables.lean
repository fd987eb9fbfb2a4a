import DebugBridge.Json.Value
import DebugBridge.Toml.Value

/-!
# Building the tables of a document

While a document is read, its tables remember how they came about: by a header, by a dotted key, or
only on the way to another table.  Whether a later header or key may still add to them depends on
that.  Nothing is ever defined twice.
-/

namespace DebugBridge.Toml

/-- What a name stands for while the document is read. -/
inductive Item
  /-- A value that nothing can be added to. -/
  | value (value : Toml)
  /-- A table; `implicit` when no header has named it yet, `dotted` when dotted keys made it. -/
  | table (implicit dotted : Bool) (entries : List (String × Item))
  /-- The tables of one repeated header. -/
  | tables (items : List (List (String × Item)))
deriving Inhabited

abbrev Entries := List (String × Item)

mutual

/-- The value of an item. -/
def Item.toValue : Item → Toml
  | .value value => value
  | .table _ _ entries => .table (entryValues entries)
  | .tables items => .array (tableValues items)

def entryValues : List (String × Item) → List (String × Toml)
  | [] => []
  | (name, item) :: entries => (name, item.toValue) :: entryValues entries

def tableValues : List (List (String × Item)) → List Toml
  | [] => []
  | entries :: items => .table (entryValues entries) :: tableValues items

end

namespace Entries

/-- Puts an item in the place of the one of this name, or at the end. -/
def put (name : String) (item : Item) : Entries → Entries
  | [] => [(name, item)]
  | (other, old) :: entries =>
    if name = other then (name, item) :: entries else (other, old) :: put name item entries

def erase (name : String) (entries : Entries) : Entries :=
  entries.filter fun entry => entry.1 != name

/-- Adds a value under a dotted key.  `viaDots` tells whether the key has dots, `dotted` whether
these entries were made by dotted keys: only then may a dotted key end here. -/
def addKey (viaDots : Bool) (value : Toml) (name : String) : (path : List String) →
    (dotted : Bool) → Entries → Option Entries
  | [], dotted, entries =>
    if dotted != viaDots then none
    else match Json.lookup name entries with
      | some _ => none
      | none => some (entries ++ [(name, .value value)])
  | step :: path, _, entries =>
    match Json.lookup step entries with
    | none =>
      (addKey viaDots value name path true []).map fun inner =>
        entries ++ [(step, .table true true inner)]
    | some (.table implicit dotted inner) =>
      if implicit then
        (addKey viaDots value name path dotted inner).map fun inner =>
          put step (.table implicit dotted inner) entries
      else none
    | some (.tables items) =>
      match items.getLast? with
      | some last =>
        (addKey viaDots value name path false last).map fun last =>
          put step (.tables (items.dropLast ++ [last])) entries
      | none => none
    | some (.value _) => none

/-- Adds a value under the parts of a key. -/
def add (key : List String) (value : Toml) (entries : Entries) : Option Entries :=
  match key.getLast? with
  | some name => addKey (1 < key.length) value name key.dropLast false entries
  | none => none

/-- Changes the entries of the table that a header path leads to; of repeated tables, the last
one.  Tables on the way that do not exist are made. -/
def under {α : Type} (change : Entries → Option (α × Entries)) : List String → Entries →
    Option (α × Entries)
  | [], entries => change entries
  | step :: path, entries =>
    match Json.lookup step entries with
    | none =>
      (under change path []).map fun (result, inner) =>
        (result, entries ++ [(step, .table true false inner)])
    | some (.table implicit dotted inner) =>
      (under change path inner).map fun (result, inner) =>
        (result, put step (.table implicit dotted inner) entries)
    | some (.tables items) =>
      match items.getLast? with
      | some last =>
        (under change path last).map fun (result, last) =>
          (result, put step (.tables (items.dropLast ++ [last])) entries)
      | none => none
    | some (.value _) => none

end Entries

/-- Which table the keys being read belong to. -/
inductive OpenTable
  | root
  | header (parent : List String) (name : String)
  | repeated (parent : List String) (name : String)

/-- A document being read. -/
structure Draft where
  root : Entries := []
  opened : OpenTable := .root
  /-- The entries of the open table. -/
  current : Entries := []

namespace Draft

/-- Puts the open table into the document. -/
def closeTable (draft : Draft) : Option Entries :=
  match draft.opened with
  | .root => some draft.current
  | .header parent name =>
    (Entries.under (fun entries => some ((), entries.put name (.table false false draft.current)))
      parent draft.root).map (·.2)
  | .repeated parent name =>
    (Entries.under (fun entries =>
      match Json.lookup name entries with
      | some (.tables items) => some ((), entries.put name (.tables (items ++ [draft.current])))
      | _ => none) parent draft.root).map (·.2)

/-- Takes a table out that no header has named yet; it becomes the open table. -/
def takeImplicit (name : String) (entries : Entries) : Option (Entries × Entries) :=
  match Json.lookup name entries with
  | none => some ([], entries)
  | some (.table true false inner) => some (inner, entries.erase name)
  | some _ => none

/-- Opens the table of a header. -/
def openHeader (path : List String) (draft : Draft) : Option Draft := do
  let name ← path.getLast?
  let root ← draft.closeTable
  let (current, root) ← Entries.under (takeImplicit name) path.dropLast root
  return { root, opened := .header path.dropLast name, current }

/-- Makes room for repeated tables. -/
def reserveRepeated (name : String) (entries : Entries) : Option (Unit × Entries) :=
  match Json.lookup name entries with
  | none => some ((), entries ++ [(name, .tables [])])
  | some (.tables _) => some ((), entries)
  | some _ => none

/-- Opens one more table of a repeated header. -/
def openRepeated (path : List String) (draft : Draft) : Option Draft := do
  let name ← path.getLast?
  let root ← draft.closeTable
  let ((), root) ← Entries.under (reserveRepeated name) path.dropLast root
  return { root, opened := .repeated path.dropLast name, current := [] }

def addKey (key : List String) (value : Toml) (draft : Draft) : Option Draft :=
  (draft.current.add key value).map fun current => { draft with current }

/-- The whole document as a table. -/
def finish (draft : Draft) : Option Toml :=
  draft.closeTable.map fun root => .table (entryValues root)

end Draft

end DebugBridge.Toml
