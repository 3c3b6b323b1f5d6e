import RelaySnapshot.Address
import RelaySnapshot.IoError
import RelaySnapshot.Record

namespace RelaySnapshot.Geo

inductive Value where
  | map (entries : List (String × Value))
  | list (items : List Value)
  | text (s : String)
  | number (n : UInt32)
  | flag (b : Bool)
  | double (x : Double)
  deriving Inhabited

inductive Error where
  | io (cause : IoError)
  | notADatabase
  /-- The value of an address has another shape than that of a city. -/
  | malformedValue
  deriving DecidableEq, Repr

def Error.message : Error → String
  | .io cause => s!"IoError: {cause.message}"
  | .notADatabase =>
    "InvalidDatabaseError: Could not find MaxMind DB metadata in file."
  | .malformedValue => "DecodingError: invalid type"

/-- The addresses whose first `length` bits are those of `base`. -/
structure Network where
  base : BitVec 128
  length : Nat

/-- Addresses of version 4 take the places of the words below `2 ^ 32`. -/
def position : Address → BitVec 128
  | .v4 word => word.zeroExtend 128
  | .v6 word => word

def Network.ofAddress (address : Address) (length : Nat) : Network :=
  match address with
  | .v4 _ => ⟨position address, length + 96⟩
  | .v6 word => ⟨word, length⟩

def Network.contains (network : Network) (address : Address) : Bool :=
  let shift := 128 - network.length
  network.base.toNat / Nat.pow 2 shift == (position address).toNat / Nat.pow 2 shift

structure Database where
  networks : List (Network × Value)

/-- Of two networks the one that is longer; of two equally long ones the later. -/
def longer (found : Option (Network × Value)) (next : Network × Value) :
    Option (Network × Value) :=
  match found with
  | some (network, value) =>
    if network.length ≤ next.1.length then some next else some (network, value)
  | none => some next

def Database.value? (db : Database) (address : Address) : Option Value :=
  ((db.networks.filter (·.1.contains address)).foldl longer none).map (·.2)

namespace Value

/-- The parts of a record, by name in a map and by position in a list that is long enough. -/
def parts (names : List String) : Value → Except Error (List (Option Value))
  | .map entries => .ok (names.map fun name => entries.lookup name)
  | .list items =>
    if names.length ≤ items.length then .ok ((items.take names.length).map some)
    else .error .malformedValue
  | _ => .error .malformedValue

def asText : Value → Except Error String
  | .text s => .ok s
  | _ => .error .malformedValue

def asDouble : Value → Except Error Double
  | .double x => .ok x
  | .number n => .ok (.ofNat n.toNat)
  | _ => .error .malformedValue

def optional {α : Type} (read : Value → Except Error α) :
    Option Value → Except Error (Option α)
  | some value => (read value).map some
  | none => .ok none

def part (parts : List (Option Value)) (index : Nat) : Option Value :=
  (parts[index]?).join

def asCountry (value : Value) : Except Error (Option String) := do
  let parts ← value.parts ["iso_code"]
  optional asText (part parts 0)

def asCoordinates (value : Value) : Except Error (Option Double × Option Double) := do
  let parts ← value.parts ["latitude", "longitude"]
  return (← optional asDouble (part parts 0), ← optional asDouble (part parts 1))

def asCity (value : Value) : Except Error Location := do
  let parts ← value.parts ["country", "location"]
  let country ← optional asCountry (part parts 0)
  let coordinates ← optional asCoordinates (part parts 1)
  let (latitude, longitude) := coordinates.getD (none, none)
  return ⟨country.join, latitude, longitude⟩

end Value

/-- Where an address lies, if the database holds a network that it lies in. -/
def Database.lookup (db : Database) (address : Address) : Except Error (Option Location) :=
  match db.value? address with
  | some value => value.asCity.map some
  | none => .ok none

end RelaySnapshot.Geo
