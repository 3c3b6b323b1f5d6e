import RelaySnapshot.Calendar.Timestamp
import RelaySnapshot.Fingerprint
import RelaySnapshot.IoError
import RelaySnapshot.Store.Cell

namespace RelaySnapshot

inductive DatabaseError where
  | cannotOpen (path : String)
  /-- The journal of a change cannot be kept beside the database. -/
  | noJournal
  /-- A path has a zero byte, before which there are `position` others. -/
  | nulInPath (position : Nat)
  | notADatabase
  | noSuchTable (table : String)
  /-- The node has the number of one that is there already. -/
  | repeatedNode
  | missingValue (table column : String)
  /-- The number of a node is no integer. -/
  | mismatch
  /-- A cell does not hold the kind of value that is read from its column. -/
  | wrongType (found : String) (index : Nat) (column : String)
  deriving DecidableEq, Repr

def DatabaseError.message : DatabaseError → String
  | .cannotOpen path => s!"unable to open database file: {path}"
  | .noJournal => "unable to open database file"
  | .nulInPath position => s!"nul byte found in provided data at position: {position}"
  | .notADatabase => "file is not a database"
  | .noSuchTable table => s!"no such table: {table}"
  | .repeatedNode => "UNIQUE constraint failed: nodes.id"
  | .missingValue table column => s!"NOT NULL constraint failed: {table}.{column}"
  | .mismatch => "datatype mismatch"
  | .wrongType found index column =>
    s!"Invalid column type {found} at index: {index}, name: {column}"

inductive StoreError where
  | fingerprint (cause : Fingerprint.Invalid)
  | database (cause : DatabaseError)
  | io (cause : IoError)
  | timestamp (text : String) (cause : Timestamp.ReadError)
  | address
  | outOfRange (column : String) (value : Int)
  /-- A producer gave the snapshot up. -/
  | abandoned
  deriving DecidableEq, Repr

def DatabaseError.quotedMessage (e : DatabaseError) : String :=
  "Rusqlite(\"" ++ e.message ++ "\")"

def StoreError.message : StoreError → String
  | .fingerprint cause => s!"core error: {cause.message}"
  | .database cause => s!"database error: {cause.quotedMessage}"
  | .io cause => s!"io error: {cause.message}"
  | .timestamp text cause => s!"date/time parse error: {Text.quoted text}: {cause.message}"
  | .address => "address parse error: invalid IP address syntax"
  | .outOfRange column value => s!"stored {column} {value} is out of range"
  | .abandoned => "snapshot abandoned before commit"

end RelaySnapshot
