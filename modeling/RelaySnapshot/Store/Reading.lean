import RelaySnapshot.Address.Parser
import RelaySnapshot.Store.Session

namespace RelaySnapshot

structure StoredDescriptor where
  node : NodeId
  nickname : String
  address : String
  average : Int
  burst : Int
  observed : Int
  platform : String
  version : String
  hibernating : Bool
  exitPolicy : String
  validity : Interval
  deriving DecidableEq

namespace Row

def wrongType (kind : RecordKind) (index : Nat) (found : Cell) : StoreError :=
  .database (.wrongType found.typeName index ((kind.columns[index]?.map (·.name)).getD ""))

def cell (row : Row) (index : Nat) : Cell :=
  row[index]?.getD .null

def integer (kind : RecordKind) (row : Row) (index : Nat) : Except StoreError Int :=
  match Row.cell row index with
  | .integer i => .ok i
  | found => .error (wrongType kind index found)

def text (kind : RecordKind) (row : Row) (index : Nat) : Except StoreError String :=
  match Row.cell row index with
  | .text s => .ok s
  | found => .error (wrongType kind index found)

def text? (kind : RecordKind) (row : Row) (index : Nat) : Except StoreError (Option String) :=
  match Row.cell row index with
  | .null => .ok none
  | .text s => .ok (some s)
  | found => .error (wrongType kind index found)

def real? (kind : RecordKind) (row : Row) (index : Nat) : Except StoreError (Option Double) :=
  match Row.cell row index with
  | .null => .ok none
  | .real x => .ok (some x)
  | .integer i => .ok (some (.ofInt i))
  | found => .error (wrongType kind index found)

/-- Compares the cells at the given places, the first of them foremost. -/
def leAt : (keys : List Nat) → (a b : Row) → Bool
  | [], _, _ => true
  | key :: keys, a, b =>
    let x := Row.cell a key
    let y := Row.cell b key
    if x.le y && y.le x then leAt keys a b else x.le y

end Row

namespace Medium

def sortedRows (medium : Medium) (kind : RecordKind) (keys : List Nat) :
    Except StoreError (List Row) :=
  match medium.rows kind with
  | .ok rows => .ok (rows.mergeSort (Row.leAt keys))
  | .error e => .error (.database e)

def readInstant (s : String) : Except StoreError Instant :=
  match Timestamp.read s.toList with
  | .ok t => .ok t
  | .error e => .error (.timestamp s e)

def readInterval (start stop : String) : Except StoreError Interval := do
  return ⟨← readInstant start, ← readInstant stop⟩

def count (medium : Medium) (kind : RecordKind) : Except StoreError Nat :=
  match medium.rows kind with
  | .ok rows => .ok rows.length
  | .error e => .error (.database e)

def rowCounts (medium : Medium) : Except StoreError RowCounts := do
  return {
    nodes := ← medium.count .nodes
    descriptors := ← medium.count .descriptors
    families := ← medium.count .families
    addresses := ← medium.count .addresses }

/-- All rows are taken from the table before the first one is looked at more closely. -/
def readRows {β γ : Type} (medium : Medium) (kind : RecordKind) (keys : List Nat)
    (fetch : Row → Except StoreError β) (decode : β → Except StoreError γ) :
    Except StoreError (List γ) := do
  let raw ← (← medium.sortedRows kind keys).mapM fetch
  raw.mapM decode

def nodes (medium : Medium) : Except StoreError (List NodeRecord) :=
  medium.readRows .nodes [0]
    (fun row => do return (← Row.integer .nodes row 0, ← Row.text .nodes row 1))
    fun (id, text) =>
      match Fingerprint.parse text with
      | .ok fingerprint => .ok ⟨id, fingerprint⟩
      | .error e => .error (.fingerprint e)

/-- Takes a row of the table of descriptors, with its two instants still as text. -/
def fetchDescriptor (row : Row) :
    Except StoreError ((Interval → StoredDescriptor) × String × String) := do
  let k := RecordKind.descriptors
  let node ← Row.integer k row 0
  let nickname ← Row.text k row 1
  let address ← Row.text k row 2
  let average ← Row.integer k row 3
  let burst ← Row.integer k row 4
  let observed ← Row.integer k row 5
  let platform ← Row.text k row 6
  let version ← Row.text k row 7
  let hibernating ← Row.integer k row 8
  let exitPolicy ← Row.text k row 9
  let start ← Row.text k row 10
  let stop ← Row.text k row 11
  return (fun validity => {
    node, nickname, address, average, burst, observed, platform, version, exitPolicy, validity
    hibernating := hibernating != 0 }, start, stop)

def descriptors (medium : Medium) : Except StoreError (List StoredDescriptor) :=
  medium.readRows .descriptors [0, 10] fetchDescriptor fun (complete, start, stop) =>
    (readInterval start stop).map complete

def families (medium : Medium) : Except StoreError (List FamilyEdge) :=
  medium.readRows .families [0, 1, 2]
    (fun row => do
      let k := RecordKind.families
      return (← Row.integer k row 0, ← Row.integer k row 1, ← Row.text k row 2,
        ← Row.text k row 3))
    fun (first, second, start, stop) =>
      (readInterval start stop).map fun time => ⟨first, second, time⟩

def readAddress (address : String) (location : Location) (number : Int) (name : String) :
    Except StoreError AddressRecord :=
  match Address.parse? address with
  | none => .error .address
  | some address =>
    if 0 ≤ number ∧ number < Nat.pow 2 32 then
      .ok ⟨address, .ofNat number.toNat, name, location⟩
    else .error (.outOfRange "as_number" number)

def addresses (medium : Medium) : Except StoreError (List AddressRecord) :=
  medium.readRows .addresses [0]
    (fun row => do
      let k := RecordKind.addresses
      let address ← Row.text k row 0
      let country ← Row.text? k row 1
      let latitude ← Row.real? k row 2
      let longitude ← Row.real? k row 3
      let number ← Row.integer k row 4
      let name ← Row.text k row 5
      return (address, (⟨country, latitude, longitude⟩ : Location), number, name))
    fun (address, location, number, name) => readAddress address location number name

end Medium

end RelaySnapshot
