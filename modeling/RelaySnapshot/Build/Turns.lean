import RelaySnapshot.Build.Parties

/-!
# Turns of a sink

A store is written turn by turn. In each turn records are sent into four new queues, and each queue
is shut at some time. While one is open the session can be abandoned by a handle; the handle can
also be dropped. Who sends, in which order and when is left open, and so is what the sink sees
first. The database refuses nothing but the number of a node that is there already.
-/

namespace RelaySnapshot.Build

inductive Event where
  | send (record : Record)
  /-- The last sender of a queue is gone. -/
  | shut (queue : RecordKind)
  /-- The handle is used to abandon the session. -/
  | fire
  | drop
  | begin
  | see (signal : Signal)
  | finish
  | commit
  | rollback

namespace Event

def ofSink : Event → Bool
  | .send _ | .shut _ | .fire | .drop => false
  | .begin | .see _ | .finish | .commit | .rollback => true

def sent? : Event → Option Record
  | .send record => some record
  | _ => none

def seen? : Event → Option Signal
  | .see signal => some signal
  | _ => none

def received? : Event → Option Record
  | .see (.record record) => some record
  | _ => none

def sent (events : List Event) : List Record :=
  events.filterMap sent?

def seen (events : List Event) : List Signal :=
  events.filterMap seen?

def received (events : List Event) : List Record :=
  events.filterMap received?

end Event

def Sink.Waits : Sink → Prop
  | .beginning => True
  | .draining session => session.openQueues ≠ []
  | .committing _ | .rollingBack _ | .ended _ => False

structure Turn where
  queues : RecordKind → List Record
  /-- The queues that still have a sender. -/
  senders : List RecordKind
  handle : Handle
  sink : Sink
  store : Medium

namespace Turn

def start (medium : Medium) : Turn where
  queues _ := []
  senders := [.nodes, .descriptors, .families, .addresses]
  handle := .held
  sink := .beginning
  store := medium

def setQueue (t : Turn) (kind : RecordKind) (records : List Record) : Turn :=
  { t with queues := fun other => if other = kind then records else t.queues other }

inductive Step (capacity : Nat) : Turn → Event → Turn → Prop
  | send {t : Turn} {record : Record} (hsender : record.kind ∈ t.senders)
      (hreceived : ∀ result, t.sink ≠ .ended result)
      (hroom : (t.queues record.kind).length < max 1 capacity) :
      Step capacity t (.send record)
        (t.setQueue record.kind (t.queues record.kind ++ [record]))
  | shut {t : Turn} {queue : RecordKind} (hsender : queue ∈ t.senders) :
      Step capacity t (.shut queue) { t with senders := t.senders.erase queue }
  | fire {t : Turn} (hheld : t.handle = .held) (hopen : t.senders ≠ [] ∨ t.sink.Waits) :
      Step capacity t .fire { t with handle := .fired }
  | drop {t : Turn} (hheld : t.handle = .held) :
      Step capacity t .drop { t with handle := .dropped }
  | begin {t : Turn} (hsink : t.sink = .beginning) :
      Step capacity t .begin { t with sink := .draining { written := t.store } }
  | receive {t : Turn} {session : Session} {record : Record} {rest : List Record}
      (hsink : t.sink = .draining session) (hopen : record.kind ∈ session.openQueues)
      (hqueue : t.queues record.kind = record :: rest) :
      Step capacity t (.see (.record record))
        { t.setQueue record.kind rest with sink := .after (session.step (.record record)) }
  | close {t : Turn} {session : Session} {queue : RecordKind} (hsink : t.sink = .draining session)
      (hopen : queue ∈ session.openQueues) (hqueue : t.queues queue = [])
      (hshut : queue ∉ t.senders) :
      Step capacity t (.see (.close queue))
        { t with sink := .after (session.step (.close queue)) }
  | abandon {t : Turn} {session : Session} (hsink : t.sink = .draining session)
      (hopen : session.openQueues ≠ []) (habandonable : session.abandonable = true)
      (hfired : t.handle = .fired) :
      Step capacity t (.see .abandon) { t with sink := .after (session.step .abandon) }
  | release {t : Turn} {session : Session} (hsink : t.sink = .draining session)
      (hopen : session.openQueues ≠ []) (habandonable : session.abandonable = true)
      (hdropped : t.handle = .dropped) :
      Step capacity t (.see .release) { t with sink := .after (session.step .release) }
  | finish {t : Turn} {session : Session} (hsink : t.sink = .draining session)
      (hopen : session.openQueues = []) :
      Step capacity t .finish { t with sink := .drained (session.finish (t.handle = .fired)) }
  | commit {t : Turn} {session : Session} (hsink : t.sink = .committing session) :
      Step capacity t .commit
        { t with store := session.written, sink := .ended (.ok session.counts) }
  | rollback {t : Turn} {cause : StoreError} (hsink : t.sink = .rollingBack cause) :
      Step capacity t .rollback { t with sink := .ended (.error cause) }

inductive Steps (capacity : Nat) : Turn → List Event → Turn → Prop
  | none (t : Turn) : Steps capacity t [] t
  | more {t t' t'' : Turn} {events : List Event} {event : Event}
      (hsteps : Steps capacity t events t') (hstep : Step capacity t' event t'') :
      Steps capacity t (events ++ [event]) t''

end Turn

structure Entry where
  capacity : Nat
  events : List Event
  result : Except StoreError RowCounts

namespace Entry

def succeeded (entry : Entry) : Bool :=
  entry.result.isOk

/-- The turn leads from one state of the store to another. -/
def Leads (entry : Entry) (medium medium' : Medium) : Prop :=
  ∃ t, Turn.Steps entry.capacity (.start medium) entry.events t ∧ t.sink = .ended entry.result ∧
    t.store = medium'

end Entry

inductive History : Medium → List Entry → Medium → Prop
  | nil (medium : Medium) : History medium [] medium
  | cons {medium medium' medium'' : Medium} {entry : Entry} {entries : List Entry}
      (hentry : entry.Leads medium medium') (hrest : History medium' entries medium'') :
      History medium (entry :: entries) medium''

end RelaySnapshot.Build
