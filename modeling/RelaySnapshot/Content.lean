import RelaySnapshot.FileTree
import RelaySnapshot.Geo
import RelaySnapshot.Store.Database

/-!
# Contents of files

A file is a row of bytes. What those of a packed file or of a geographic database stand for is known
to their formats; of a database its tables are kept beside its bytes.
-/

namespace RelaySnapshot

inductive Content where
  | bytes (data : List UInt8)
  | database (image : List UInt8) (db : Database)

namespace Content

instance : Inhabited Content := ⟨.bytes []⟩

def data : Content → List UInt8
  | .bytes data => data
  | .database image _ => image

def medium : Content → Medium
  | .bytes [] => .blank
  | .bytes _ => .foreign
  | .database _ db => .tables db

end Content

inductive EntryKind where
  | file
  | directory
  | hardLink
  | symbolicLink
  | continuous
  | fifo
  deriving DecidableEq, Repr

structure ArchiveEntry where
  name : String
  kind : EntryKind
  body : List UInt8

/-- The formats in which the bytes of files are packed or laid out. -/
structure Formats where
  /-- What a reader of compressed files makes of one. -/
  gunzip : List UInt8 → Except IoError (List UInt8)
  /-- The entries of an archive, and what is wrong after them if it cannot be read to its end. -/
  entries : List UInt8 → List ArchiveEntry × Option IoError
  geo : List UInt8 → Option Geo.Database
  /-- The bytes of a database file with new tables, given those that it had. -/
  image : List UInt8 → Database → List UInt8

/-- The content of a file that holds what a store wrote; what cannot be written stays as it is. -/
def Medium.content (formats : Formats) (old : Content) : Medium → Content
  | .blank => .bytes []
  | .tables db => .database (formats.image old.data db) db
  | .readOnly _ | .foreign => old

abbrev Files := FileTree Content

end RelaySnapshot
