import RelaySnapshot.Build

/-!
# The parties of a build

Three producers send records into four queues of limited room, a sink writes them in one session,
and a driver waits for the producers and then for the sink. The driver holds a handle by which it
can abandon the session, and a guard that keeps the queue of addresses open. The parties take their
steps in any order.
-/

namespace RelaySnapshot.Build

inductive Producer where
  | emitter
  | deriver
  | enricher
  deriving DecidableEq, Repr

def Producer.of : RecordKind → Producer
  | .nodes | .descriptors => .emitter
  | .families => .deriver
  | .addresses => .enricher

/-- What a producer does: it sends records, and a failed lookup ends it. -/
def Production.plan (production : Production) (producer : Producer) :
    List (Except LookupError Record) :=
  (production.records.filter fun record => Producer.of record.kind = producer).map .ok ++
    if producer = .enricher then production.failure.toList.map .error else []

inductive Task where
  | running (rest : List (Except LookupError Record))
  | ended (result : Except BuildError Unit)

/-- What has become of the handle by which the session can be abandoned. -/
inductive Handle where
  | held
  | fired
  | dropped
  deriving DecidableEq, Repr

/-- A failure fires the handle; without one it is dropped. -/
def Handle.used (failure : Option BuildError) : Handle :=
  if failure.isSome then .fired else .dropped

inductive Sink where
  | beginning
  | draining (session : Session)
  | committing (session : Session)
  | rollingBack (cause : StoreError)
  /-- The sink has returned, and with it the receiving ends of the queues are gone. -/
  | ended (result : Except StoreError RowCounts)

inductive Driver where
  /-- It waits for the producers, until one of them has failed or all have succeeded. -/
  | joining
  | judged (failure : Option BuildError)
  /-- The handle is used up, the guard is still held. -/
  | signalled (failure : Option BuildError)
  /-- The guard is gone as well, and the driver waits for the sink. -/
  | waiting (failure : Option BuildError)
  | ended (failure : Option BuildError) (written : Except StoreError RowCounts)

def Driver.holdsGuard : Driver → Bool
  | .joining | .judged _ | .signalled _ => true
  | .waiting _ | .ended _ _ => false

structure World where
  tasks : Producer → Task
  queues : RecordKind → List Record
  handle : Handle
  sink : Sink
  driver : Driver
  store : Medium

namespace World

def start (production : Production) (medium : Medium) : World where
  tasks producer := .running (production.plan producer)
  queues _ := []
  handle := .held
  sink := .beginning
  driver := .joining
  store := medium

def result? (w : World) : Option (Except BuildError RowCounts) :=
  match w.driver with
  | .ended failure written => some (verdict failure written)
  | _ => none

def Closed (w : World) (kind : RecordKind) : Prop :=
  (∃ result, w.tasks (.of kind) = .ended result) ∧
    (kind = .addresses → w.driver.holdsGuard = false)

def setTask (w : World) (producer : Producer) (task : Task) : World :=
  { w with tasks := fun other => if other = producer then task else w.tasks other }

def setQueue (w : World) (kind : RecordKind) (records : List Record) : World :=
  { w with queues := fun other => if other = kind then records else w.queues other }

end World

def Sink.after : Except StoreError Session → Sink
  | .ok session => .draining session
  | .error e => .rollingBack e

def Sink.drained : Except StoreError Session → Sink
  | .ok session => .committing session
  | .error e => .rollingBack e

inductive TaskStep (capacity : Nat) (producer : Producer) : World → World → Prop
  | send {w : World} {record : Record} {rest : List (Except LookupError Record)}
      (htask : w.tasks producer = .running (.ok record :: rest))
      (hreceived : ∀ result, w.sink ≠ .ended result)
      (hroom : (w.queues record.kind).length < max 1 capacity) :
      TaskStep capacity producer w
        ((w.setTask producer (.running rest)).setQueue record.kind
          (w.queues record.kind ++ [record]))
  | refused {w : World} {record : Record} {rest : List (Except LookupError Record)}
      {result : Except StoreError RowCounts}
      (htask : w.tasks producer = .running (.ok record :: rest))
      (hgone : w.sink = .ended result) :
      TaskStep capacity producer w
        (w.setTask producer (.ended (.error (.queueClosed record.kind))))
  | fail {w : World} {cause : LookupError} {rest : List (Except LookupError Record)}
      (htask : w.tasks producer = .running (.error cause :: rest)) :
      TaskStep capacity producer w (w.setTask producer (.ended (.error (.enrichment cause))))
  | succeed {w : World} (htask : w.tasks producer = .running []) :
      TaskStep capacity producer w (w.setTask producer (.ended (.ok ())))

/--
The steps of the sink. Beginning the transaction and inserting a record may fail for reasons that
lie in the database; ending the transaction does not fail.
-/
inductive SinkStep : World → World → Prop
  | begin {w : World} (hsink : w.sink = .beginning) :
      SinkStep w { w with sink := .draining { written := w.store } }
  | beginFails {w : World} (hsink : w.sink = .beginning) (cause : DatabaseError) :
      SinkStep w { w with sink := .ended (.error (.database cause)) }
  | receive {w : World} {session : Session} {kind : RecordKind} {record : Record}
      {rest : List Record} (hsink : w.sink = .draining session)
      (hopen : kind ∈ session.openQueues) (hqueue : w.queues kind = record :: rest) :
      SinkStep w { w.setQueue kind rest with sink := .after (session.step (.record record)) }
  | insertFails {w : World} {session : Session} {kind : RecordKind} {record : Record}
      {rest : List Record} (hsink : w.sink = .draining session)
      (hopen : kind ∈ session.openQueues) (hqueue : w.queues kind = record :: rest)
      (cause : DatabaseError) :
      SinkStep w { w.setQueue kind rest with sink := .rollingBack (.database cause) }
  | close {w : World} {session : Session} {kind : RecordKind}
      (hsink : w.sink = .draining session) (hopen : kind ∈ session.openQueues)
      (hqueue : w.queues kind = []) (hclosed : w.Closed kind) :
      SinkStep w { w with sink := .after (session.step (.close kind)) }
  | abandon {w : World} {session : Session} (hsink : w.sink = .draining session)
      (hopen : session.openQueues ≠ []) (habandonable : session.abandonable = true)
      (hfired : w.handle = .fired) :
      SinkStep w { w with sink := .after (session.step .abandon) }
  | release {w : World} {session : Session} (hsink : w.sink = .draining session)
      (hopen : session.openQueues ≠ []) (habandonable : session.abandonable = true)
      (hdropped : w.handle = .dropped) :
      SinkStep w { w with sink := .after (session.step .release) }
  | finish {w : World} {session : Session} (hsink : w.sink = .draining session)
      (hopen : session.openQueues = []) :
      SinkStep w { w with sink := .drained (session.finish (w.handle = .fired)) }
  | commit {w : World} {session : Session} (hsink : w.sink = .committing session) :
      SinkStep w { w with store := session.written, sink := .ended (.ok session.counts) }
  | rollback {w : World} {cause : StoreError} (hsink : w.sink = .rollingBack cause) :
      SinkStep w { w with sink := .ended (.error cause) }

inductive DriverStep : World → World → Prop
  | joined {w : World} (hdriver : w.driver = .joining)
      (hended : ∀ producer, w.tasks producer = .ended (.ok ())) :
      DriverStep w { w with driver := .judged none }
  | joinFailed {w : World} {producer : Producer} {cause : BuildError}
      (hdriver : w.driver = .joining) (hended : w.tasks producer = .ended (.error cause)) :
      DriverStep w { w with driver := .judged (some cause) }
  | signal {w : World} {failure : Option BuildError} (hdriver : w.driver = .judged failure) :
      DriverStep w { w with handle := .used failure, driver := .signalled failure }
  | release {w : World} {failure : Option BuildError} (hdriver : w.driver = .signalled failure) :
      DriverStep w { w with driver := .waiting failure }
  | await {w : World} {failure : Option BuildError} {written : Except StoreError RowCounts}
      (hdriver : w.driver = .waiting failure) (hsink : w.sink = .ended written) :
      DriverStep w { w with driver := .ended failure written }

inductive Step (capacity : Nat) : World → World → Prop
  | task {w w' : World} (producer : Producer) (h : TaskStep capacity producer w w') :
      Step capacity w w'
  | sink {w w' : World} (h : SinkStep w w') : Step capacity w w'
  | driver {w w' : World} (h : DriverStep w w') : Step capacity w w'

inductive Steps (capacity : Nat) : Nat → World → World → Prop
  | none (w : World) : Steps capacity 0 w w
  | more {n : Nat} {w w' w'' : World} (hsteps : Steps capacity n w w')
      (hstep : Step capacity w' w'') : Steps capacity (n + 1) w w''

/-- The parties of a build can come to be in a state. -/
def Reachable (capacity : Nat) (production : Production) (medium : Medium) (w : World) : Prop :=
  ∃ n, Steps capacity n (.start production medium) w

end RelaySnapshot.Build
