import RelaySnapshot.Address.Printer
import RelaySnapshot.Record
import RelaySnapshot.Store.Error

namespace RelaySnapshot

structure Column where
  name : String
  affinity : Cell.Affinity
  required : Bool := false

def RecordKind.columns : RecordKind → List Column
  | .nodes => [⟨"id", .number, false⟩, ⟨"fingerprint", .text, false⟩]
  | .descriptors => [
    ⟨"node_id", .number, true⟩, ⟨"nickname", .text, true⟩, ⟨"address", .text, true⟩,
    ⟨"bandwidth_avg", .number, false⟩, ⟨"bandwidth_burst", .number, false⟩,
    ⟨"bandwidth_observed", .number, false⟩, ⟨"platform", .text, false⟩,
    ⟨"version", .text, false⟩, ⟨"hibernating", .number, true⟩, ⟨"exit_policy", .text, false⟩,
    ⟨"start_time", .number, true⟩, ⟨"end_time", .number, true⟩]
  | .families => [
    ⟨"ida", .number, false⟩, ⟨"idb", .number, false⟩, ⟨"start_time", .number, false⟩,
    ⟨"end_time", .number, false⟩]
  | .addresses => [
    ⟨"ip", .text, false⟩, ⟨"country", .text, false⟩, ⟨"lat", .real, false⟩,
    ⟨"long", .real, false⟩, ⟨"as_number", .number, false⟩, ⟨"as_name", .text, false⟩]

abbrev Row := List Cell

structure Database where
  rows : RecordKind → List Row

namespace Database

def empty : Database :=
  ⟨fun _ => []⟩

instance : Inhabited Database := ⟨empty⟩

def append (db : Database) (kind : RecordKind) (row : Row) : Database :=
  ⟨fun k => if k = kind then db.rows k ++ [row] else db.rows k⟩

def nodeIds (db : Database) : List Cell :=
  (db.rows .nodes).filterMap List.head?

/-- The number for a node that comes without one: the next after the greatest. -/
def nextNodeId (db : Database) : Int :=
  db.nodeIds.foldl (fun n cell => match cell with
    | .integer i => max n (i + 1)
    | _ => n) 1

def checkRequired (kind : RecordKind) (row : Row) : Except DatabaseError Unit :=
  match (kind.columns.zip row).find? fun (column, cell) => column.required && cell == .null with
  | some (column, _) => .error (.missingValue kind.name column.name)
  | none => .ok ()

def insert (db : Database) (kind : RecordKind) (values : Row) : Except DatabaseError Database := do
  let row := List.zipWith (fun column cell => Cell.prefer column.affinity cell) kind.columns values
  checkRequired kind row
  match kind, row with
  | .nodes, .null :: rest => return db.append .nodes (.integer db.nextNodeId :: rest)
  | .nodes, .integer i :: rest =>
    if Cell.integer i ∈ db.nodeIds then throw .repeatedNode
    return db.append .nodes (.integer i :: rest)
  | .nodes, _ => throw .mismatch
  | kind, row => return db.append kind row

end Database

/-- Bandwidths are stored as signed numbers; larger ones become the largest of these. -/
def storedBandwidth (n : UInt64) : Cell :=
  .integer (min n.toNat (Nat.pow 2 63 - 1))

def storedInstant (t : Instant) : Cell :=
  .text (String.ofList (Timestamp.write t))

def storedCoordinate (x : Option Double) : Cell :=
  x.elim .null Cell.ofDouble

def Record.values : Record → Row
  | .node r => [.integer r.id, .text r.fingerprint.text]
  | .descriptor r =>
    let d := r.descriptor
    [.integer r.node, .text d.nickname, .text d.address.text, storedBandwidth d.bandwidth.average,
      storedBandwidth d.bandwidth.burst, storedBandwidth d.bandwidth.observed, .text d.platform,
      .text d.version, .integer (if d.hibernating then 1 else 0), .text d.exitPolicy.lines,
      storedInstant r.validity.start, storedInstant r.validity.stop]
  | .family e => [.integer e.first, .integer e.second, storedInstant e.time.start,
      storedInstant e.time.stop]
  | .address r =>
    [.text r.address.text, r.location.country.elim .null .text,
      storedCoordinate r.location.latitude, storedCoordinate r.location.longitude,
      .integer r.systemNumber.toNat, .text r.systemName]

/-- What a database file can hold. -/
inductive Medium where
  /-- Nothing yet, not even tables. -/
  | blank
  | tables (db : Database)
  /-- Tables beside which no journal can be kept of a change. -/
  | readOnly (db : Database)
  /-- Something that is no database. -/
  | foreign

namespace Medium

def rows (medium : Medium) (kind : RecordKind) : Except DatabaseError (List Row) :=
  match medium with
  | .blank => .error (.noSuchTable kind.name)
  | .tables db | .readOnly db => .ok (db.rows kind)
  | .foreign => .error .notADatabase

def insert (medium : Medium) (kind : RecordKind) (values : Row) :
    Except DatabaseError Medium :=
  match medium with
  | .blank => .error (.noSuchTable kind.name)
  | .tables db => (db.insert kind values).map .tables
  | .readOnly db => db.insert kind values >>= fun _ => .error .noJournal
  | .foreign => .error .notADatabase

end Medium

end RelaySnapshot
