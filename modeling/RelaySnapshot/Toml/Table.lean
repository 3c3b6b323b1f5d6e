import RelaySnapshot.Text.Quoted
import RelaySnapshot.Toml.Failure
import RelaySnapshot.Toml.Value

/-!
# TOML tables

The tables of a document while it is read. A table may be named by a header or by the first part of
a dotted key, and it may be there only because of a header for a table in it. Each of the three can
be extended in some ways and not in others, and no key is given twice.
-/

namespace RelaySnapshot.Toml

structure Origin where
  /-- It is there for the sake of what is in it. -/
  isImplicit : Bool := false
  /-- It was named by a part of a dotted key. -/
  isDotted : Bool := false
  deriving DecidableEq, Repr

inductive Item where
  | value (v : Value)
  | table (origin : Origin) (entries : List (String × Item))
  /-- Tables whose headers have double brackets. -/
  | tables (items : List (List (String × Item)))
  deriving Inhabited

abbrev Entries := List (String × Item)

namespace Entries

/-- The entries with the item of a key changed, or with the key added at the end. -/
def put (key : String) (item : Item) : Entries → Entries
  | [] => [(key, item)]
  | (other, old) :: rest =>
    if other = key then (key, item) :: rest else (other, old) :: put key item rest

def remove (key : String) (entries : Entries) : Entries :=
  entries.filter (·.1 != key)

end Entries

mutual

def Item.toValue : Item → Value
  | .value v => v
  | .table _ entries => .table (Entries.toValues entries)
  | .tables items => .array (Entries.toArray items)

def Entries.toValues : Entries → List (String × Value)
  | [] => []
  | (key, item) :: rest => (key, item.toValue) :: Entries.toValues rest

def Entries.toArray : List Entries → List Value
  | [] => []
  | entries :: rest => .table (Entries.toValues entries) :: Entries.toArray rest

end

/-- Who extends a table: the keys and headers of a document, or the keys of an inline table. -/
inductive Extension where
  | dottedKey
  | header
  | inlineKey
  deriving DecidableEq, Repr

/--
Changes the table at the end of a path, making tables that are not there, and returns what the
change finds there as well; `above` is the path to where this one begins. Through tables in double
brackets, a path leads to the last of them.
-/
def changeAt {α : Type} (extension : Extension)
    (change : Origin → Entries → Except Fault (α × Entries)) (above : List String) :
    (path : List String) → Origin → Entries → Except Fault (α × Entries)
  | [], origin, entries => change origin entries
  | key :: path, _, entries => do
    let isDotted := extension != .header
    let inner := changeAt extension change (above ++ [key]) path
    match entries.lookup key with
    | none =>
      let origin : Origin := { isImplicit := true, isDotted }
      let (found, new) ← inner origin []
      return (found, entries.put key (.table origin new))
    | some (.table origin old) =>
      if isDotted && !origin.isImplicit then throw (.duplicateKey key none)
      let (found, new) ← inner origin old
      return (found, entries.put key (.table origin new))
    | some (.tables items) =>
      let (found, new) ← inner {} (items.getLastD [])
      return (found, entries.put key (.tables (items.dropLast ++ [new])))
    | some (.value v) =>
      match extension, v with
      | .inlineKey, .table _ => throw (.duplicateKey key none)
      | _, _ => throw (.extendsValue (above ++ [key]) v.kind)

/-- Adds a value whose key has not been given before; `table` is the path to the table, if known. -/
def addValue (extension : Extension) (table : Option (List String)) (path : List String)
    (value : Value) (entries : Entries) : Except Fault Entries := do
  let above := path.dropLast
  let key := path.getLastD ""
  let add (origin : Origin) (entries : Entries) : Except Fault (Unit × Entries) :=
    if origin.isDotted == above.isEmpty then .error (.duplicateKey key none)
    else if (entries.lookup key).isSome then .error (.duplicateKey key table)
    else .ok ((), entries.put key (.value value))
  return (← changeAt extension add [] above {} entries).2

def inlineTable (pairs : List (List String × Value)) : Except Fault Value := do
  let entries : Entries ← pairs.foldlM (fun (entries : Entries) (path, value) =>
    addValue .inlineKey none path value entries) []
  return .table (Entries.toValues entries)

structure Draft where
  root : Entries := []
  /-- The path in the header of the table that is being filled. -/
  path : List String := []
  /-- Whether that header has double brackets. -/
  isRepeated : Bool := false
  entries : Entries := []

namespace Draft

def withValue (draft : Draft) (path : List String) (value : Value) : Except Fault Draft := do
  let entries ← addValue .dottedKey (some draft.path) path value draft.entries
  return { draft with entries }

def clash (path : List String) : Fault :=
  .duplicateKey (Text.quoted (path.getLastD "")) (some path.dropLast)

def closed (draft : Draft) : Except Fault Entries := do
  match draft.path.getLast? with
  | none => return draft.entries
  | some key =>
    let close (_ : Origin) (entries : Entries) : Except Fault (Unit × Entries) :=
      match entries.lookup key, draft.isRepeated with
      | some (.tables items), true =>
        .ok ((), entries.put key (.tables (items ++ [draft.entries])))
      | none, false => .ok ((), entries.put key (.table {} draft.entries))
      | _, _ => .error (clash draft.path)
    return (← changeAt .header close [] draft.path.dropLast {} draft.root).2

/--
Begins the table of a header. A table that is there for the sake of what is in it is carried on, and
is taken out of its place until it is closed.
-/
def withHeader (draft : Draft) (path : List String) (isRepeated : Bool) :
    Except Fault Draft := do
  let key := path.getLastD ""
  let start (_ : Origin) (parent : Entries) : Except Fault (Entries × Entries) :=
    match parent.lookup key, isRepeated with
    | none, false => .ok ([], parent)
    | some (.table ⟨true, false⟩ entries), false => .ok (entries, parent.remove key)
    | none, true => .ok ([], parent.put key (.tables []))
    | some (.tables _), true => .ok ([], parent)
    | _, _ => .error (clash path)
  let (entries, root) ← changeAt .header start [] path.dropLast {} (← draft.closed)
  return { root, path, isRepeated, entries }

end Draft

end RelaySnapshot.Toml
