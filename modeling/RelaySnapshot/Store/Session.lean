import RelaySnapshot.Store.Database

/-!
# Sessions

All records of a snapshot are written in one transaction. A session takes records from four queues
until each of them is closed, and only then are the records kept. If a record cannot be written, or
if the session is abandoned while a queue is open, nothing of it is kept.
-/

namespace RelaySnapshot

/-- The number of rows of each kind. -/
structure RowCounts where
  nodes : Nat := 0
  descriptors : Nat := 0
  families : Nat := 0
  addresses : Nat := 0
  deriving DecidableEq, Repr

def RowCounts.increment (counts : RowCounts) : RecordKind → RowCounts
  | .nodes => { counts with nodes := counts.nodes + 1 }
  | .descriptors => { counts with descriptors := counts.descriptors + 1 }
  | .families => { counts with families := counts.families + 1 }
  | .addresses => { counts with addresses := counts.addresses + 1 }

/-- A queue is to have room for more records than any queue can have. -/
structure CapacityError where
  deriving DecidableEq, Repr

def CapacityError.message (_ : CapacityError) : String :=
  "a semaphore may not have more than MAX_PERMITS permits (2305843009213693951)"

def checkCapacity (capacity : Nat) : Except CapacityError Unit :=
  if capacity < Nat.pow 2 61 then .ok () else .error ⟨⟩

inductive Signal where
  | record (record : Record)
  | close (queue : RecordKind)
  | abandon
  /-- From now on nobody can abandon the session. -/
  | release

/-- A session that goes on. -/
structure Session where
  /-- What has been written, to be kept or dropped in the end. -/
  written : Medium
  counts : RowCounts := {}
  openQueues : List RecordKind := [.nodes, .descriptors, .families, .addresses]
  abandonable : Bool := true

namespace Session

def take (session : Session) (record : Record) : Except StoreError Session :=
  if record.kind ∈ session.openQueues then
    match session.written.insert record.kind record.values with
    | .ok written => .ok { session with written, counts := session.counts.increment record.kind }
    | .error e => .error (.database e)
  else .ok session

def step (session : Session) : Signal → Except StoreError Session
  | .record record => session.take record
  | .close queue => .ok { session with openQueues := session.openQueues.erase queue }
  | .abandon => if session.abandonable then .error .abandoned else .ok session
  | .release => .ok { session with abandonable := false }

/-- Ends the session after its last queue is closed; it may have been abandoned by then. -/
def finish (session : Session) (abandoned : Bool) : Except StoreError Session :=
  if session.abandonable && abandoned then .error .abandoned else .ok session

/-- Goes on until all queues are closed; the end of the signals closes those that are open. -/
def follow (session : Session) : List Signal → Except StoreError Session
  | [] => .ok session
  | signal :: rest =>
    if session.openQueues.isEmpty then .ok session
    else do
      let session ← session.step signal
      session.follow rest

/-- Runs one session: how many records were kept or why none were, and what the store holds then. -/
def run (medium : Medium) (signals : List Signal) : Except StoreError RowCounts × Medium :=
  match Session.follow { written := medium } signals with
  | .ok session => (.ok session.counts, session.written)
  | .error e => (.error e, medium)

end Session

end RelaySnapshot
