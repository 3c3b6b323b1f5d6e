import RelaySnapshot.Content
import RelaySnapshot.Store.Reading

/-!
# Stores

A store is a database in memory or in a file. It is created empty in place of what was there, or it
is opened as it is.
-/

namespace RelaySnapshot

inductive Store where
  | memory (medium : Medium)
  | file (place : Place)

namespace Store

def inMemory : Store :=
  .memory (.tables .empty)

/-- What stands at the end of the name of a journal, which else has the name of its database. -/
def journalEnding : String :=
  "-journal"

/-- A database can be changed if the name of its journal is not too long for a file. -/
def keepsJournal : Store → Bool
  | .memory _ => true
  | .file place => !FileTree.isTooLong (place.getLastD "" ++ journalEnding)

def medium (files : Files) (store : Store) : Medium :=
  match store with
  | .memory medium => medium
  | .file place =>
    match files.find? place with
    | some (.file content) =>
      match content.medium with
      | .tables db => if store.keepsJournal then .tables db else .readOnly db
      | medium => medium
    | _ => .blank

def write (formats : Formats) (files : Files) (new : Medium) : Store → Store × Files
  | .memory _ => (.memory new, files)
  | .file place =>
    let old := match files.find? place with
      | some (.file content) => content
      | _ => .bytes []
    (.file place, files.put place (.file (new.content formats old)))

/-- The number of bytes in the longest path of a database file, with a zero byte that ends it. -/
def maxPath : Nat :=
  512

/-- The number of bytes before the first zero byte in a path. -/
def nulPosition? (path : String) : Option Nat :=
  let before := path.toList.takeWhile (· != '\x00')
  if before.length < path.length then some (String.ofList before).utf8ByteSize else none

/-- Opens a database; where there is no file, an empty one is made. -/
def «open» (files : Files) (path : String) : Except StoreError (Store × Files) :=
  let refused : Except StoreError (Store × Files) := .error (.database (.cannotOpen path))
  if let some position := nulPosition? path then .error (.database (.nulInPath position))
  else if path = "" ∨ path = ":memory:" then .ok (.memory .blank, files)
  else if maxPath ≤ FileTree.pathLength (files.origin path) then refused
  else
    match files.settle (maxPath - 1) 201 (files.origin path) (Path.components path) with
    | none => refused
    | some place =>
      -- There is to be room for the path of the journal as well.
      if maxPath < FileTree.pathLength place + journalEnding.utf8ByteSize then refused else
      match files.find? place, files.find? place.dropLast with
      | some (.file _), _ => .ok (.file place, files)
      | none, some .directory => .ok (.file place, files.put place (.file (.bytes [])))
      | _, _ => refused

/-- Makes room for a new file at `path`, where there may be another. -/
def clear (files : Files) (path : String) : Except IoError Files :=
  match files.resolve path with
  | .error .notFound => .ok files
  | .error e => .error e
  | .ok _ => files.unlink path

def setUp (formats : Formats) (files : Files) (store : Store) :
    Except StoreError (Store × Files) :=
  match store.medium files with
  | .blank =>
    if store.keepsJournal then .ok (store.write formats files (.tables .empty))
    else .error (.database .noJournal)
  | .tables _ => .ok (store, files)
  | .readOnly _ => .error (.database .noJournal)
  | .foreign => .error (.database .notADatabase)

/--
Creates an empty store in place of any file at `path`. If that fails, the files are left as they are
by then: what was at the path may be gone, and an empty file may be there.
-/
def create (formats : Formats) (files : Files) (path : String) :
    Except StoreError Store × Files :=
  match clear files path with
  | .error e => (.error (.io e), files)
  | .ok files =>
    match Store.open files path with
    | .error e => (.error e, files)
    | .ok (store, files) =>
      match store.setUp formats files with
      | .error e => (.error e, files)
      | .ok (store, files) => (.ok store, files)

end Store

end RelaySnapshot
