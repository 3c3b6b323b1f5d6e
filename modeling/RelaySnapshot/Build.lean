import RelaySnapshot.Emission
import RelaySnapshot.Enrichment
import RelaySnapshot.Family
import RelaySnapshot.Source
import RelaySnapshot.Store.Session

/-!
# Builds

A build reads all sources, reconciles what they hand on, and then writes nodes, descriptors,
families and addresses into the store in one session. If anything fails, the store stays as it was.
-/

namespace RelaySnapshot

inductive SourceError where
  | io (cause : IoError)
  | other (text : String)
  deriving DecidableEq, Repr

def SourceError.message : SourceError → String
  | .io cause => cause.message
  | .other text => text

inductive BuildError where
  | source (name : String) (cause : SourceError)
  | missingArchive (path : String)
  | enrichment (cause : LookupError)
  | persistence (cause : StoreError)
  | settings (text : String)
  | queueClosed (queue : RecordKind)
  deriving DecidableEq, Repr

def BuildError.message : BuildError → String
  | .source name cause => s!"reading source {name}: {cause.message}"
  | .missingArchive path => s!"main archive not found at {path}"
  | .enrichment cause => s!"enrichment phase failed: {cause.message}"
  | .persistence cause => s!"persistence phase failed: {cause.message}"
  | .settings text => s!"configuration error: {text}"
  | .queueClosed queue => s!"sink closed the {queue.name} queue"

/-- The number of records that an enrichment has sent, or why it has ended before. -/
def Enrichment.Outcome.report (outcome : Enrichment.Outcome) : Except BuildError Nat :=
  match outcome.ending with
  | .finished => .ok outcome.sent.length
  | .failed cause => .error (.enrichment cause)
  | .queueClosed => .error (.queueClosed .addresses)

inductive FeedEnd where
  | finished (stats : Stats)
  | failed (cause : SourceError)
  | never

/-- A source as a build sees it: what it hands on, and how it ends. -/
structure Feed where
  name : String
  descriptors : List Descriptor
  ending : FeedEnd

namespace Feed

def ofFiles (formats : Formats) (files : Files) (name root : String) : Feed :=
  match Source.read formats files root none with
  | .ok pass => ⟨name, pass.handed, .finished pass.stats⟩
  | .error e => ⟨name, [], .failed (.io e)⟩

theorem ending_ofFiles (formats : Formats) (files : Files) (name root : String) :
    (ofFiles formats files name root).ending ≠ .never := by
  unfold ofFiles
  split <;> simp

def ofBatch (batch : List Descriptor) : Feed :=
  let pass := Source.readBatch batch none
  ⟨"in-memory", pass.handed, .finished pass.stats⟩

def failure? (feed : Feed) : Option BuildError :=
  match feed.ending with
  | .failed cause => some (.source feed.name cause)
  | _ => none

def stats? (feed : Feed) : Option Stats :=
  match feed.ending with
  | .finished stats => some stats
  | _ => none

end Feed

structure Feeds where
  main : Option Feed := none
  complementary : Option Feed := none
  recent : List Feed := []

namespace Feeds

def all (feeds : Feeds) : List (Stream × Feed) :=
  feeds.main.toList.map (.main, ·) ++ feeds.complementary.toList.map (.complementary, ·) ++
    feeds.recent.map (.recent, ·)

def lists (feeds : Feeds) : List (List (Stream × Descriptor)) :=
  feeds.all.map fun (stream, feed) => feed.descriptors.map (stream, ·)

end Feeds

/-- A list is made up of others, of which each keeps its own order. -/
inductive Merges {α : Type} : List (List α) → List α → Prop where
  | done {lists} (h : ∀ list ∈ lists, list = []) : Merges lists []
  | next {before list after a merged} (h : Merges (before ++ list :: after) merged) :
      Merges (before ++ (a :: list) :: after) (a :: merged)

namespace Merges

variable {α : Type} {lists : List (List α)} {merged : List α}

theorem cons_nil (h : Merges lists merged) : Merges ([] :: lists) merged := by
  induction h with
  | done h => exact .done (List.forall_mem_cons.mpr ⟨rfl, h⟩)
  | @next before list after _ _ _ ih => exact @Merges.next _ ([] :: before) list after _ _ ih

theorem cons_append (h : Merges lists merged) (list : List α) :
    Merges (list :: lists) (list ++ merged) := by
  induction list with
  | nil => exact h.cons_nil
  | cons a list ih => exact @Merges.next _ [] list lists _ _ ih

theorem flatten (lists : List (List α)) : Merges lists lists.flatten := by
  induction lists with
  | nil => exact .done (by simp)
  | cons list lists ih => exact ih.cons_append list

end Merges

/--
How feeds are read side by side: what has been collected in the end, in the order in which the
readers came to hand it on, and the feeds in the order in which they came to their ends.
-/
structure Feeds.Reading (feeds : Feeds) where
  fed : List (Stream × Descriptor)
  merges : Merges feeds.lists fed
  ended : List (Stream × Feed)
  perm : ended.Perm feeds.all

namespace Feeds.Reading

variable {feeds : Feeds}

def inTurn (feeds : Feeds) : feeds.Reading where
  fed := feeds.lists.flatten
  merges := .flatten _
  ended := feeds.all
  perm := .refl _

/--
The sum of what has been read, or the first failure of a feed. A failure stops the other feeds;
without one, a feed that never ends keeps the reading from ending.
-/
def outcome (reading : feeds.Reading) : Option (Except BuildError Stats) :=
  match reading.ended.findSome? fun (_, feed) => feed.failure? with
  | some e => some (.error e)
  | none => (reading.ended.mapM fun (entry : Stream × Feed) => entry.2.stats?).map fun stats =>
    .ok (stats.foldl Stats.add {})

/-- Reading comes to an end if each feed does. -/
theorem isSome_outcome (reading : feeds.Reading)
    (ends : ∀ entry ∈ feeds.all, entry.2.ending ≠ .never) : reading.outcome.isSome := by
  have stats (l : List (Stream × Feed)) (ends : ∀ entry ∈ l, entry.2.ending ≠ .never)
      (sound : ∀ entry ∈ l, entry.2.failure? = none) :
      (l.mapM fun (entry : Stream × Feed) => entry.2.stats?).isSome := by
    induction l with
    | nil => rfl
    | cons entry rest ih =>
      obtain ⟨stream, name, descriptors, ending⟩ := entry
      simp only [List.mem_cons, forall_eq_or_imp] at ends sound
      have tail := ih ends.2 sound.2
      cases ending with
      | finished stats =>
        obtain ⟨more, read⟩ := Option.isSome_iff_exists.mp tail
        rw [List.mapM_cons, read]
        rfl
      | failed cause => simp [Feed.failure?] at sound
      | never => simp at ends
  unfold outcome
  split
  · rfl
  next h =>
    rw [Option.isSome_map]
    refine stats _ (fun entry mem => ends entry (reading.perm.mem_iff.mp mem)) ?_
    simpa using List.findSome?_eq_none_iff.mp h

end Feeds.Reading

inductive BuildFault where
  /-- The reckoning of dates has left the calendar. -/
  | calendar (cause : CalendarError)
  | capacity (cause : CapacityError)
  deriving DecidableEq, Repr

def BuildFault.message : BuildFault → String
  | .calendar cause => cause.message
  | .capacity cause => cause.message

structure Summary where
  sources : Stats
  relays : Nat
  rows : RowCounts
  deriving DecidableEq

namespace Build

/-- The records that the three producers send when no queue is closed, and why one failed, if so. -/
structure Production where
  records : List Record
  failure : Option LookupError

def produce (lookups : Lookups) (capacity : Nat) (r : Reconciliation) :
    Except BuildFault Production := do
  let histories ← (r.timelines.mapM (Family.History.ofTimeline r.month)).mapError .calendar
  (checkCapacity capacity).mapError .capacity
  let emitted ← (Timeline.emit r.month (fun _ => false)
    (r.timelines.map (·.withoutFamilies))).mapError .calendar
  let edges ← (Family.edges r.month histories).mapError .calendar
  let enriched := Enrichment.run lookups none r.addresses
  return {
    records := emitted.sent ++ edges.map .family ++ enriched.sent.map .address
    failure := match enriched.ending with
      | .failed cause => some cause
      | _ => none }

/--
What a build says of the failure of a producer, if one failed, and of the end of the session. A
producer that failed at a closed queue has only met the failure of the session.
-/
def verdict : (failure : Option BuildError) → Except StoreError RowCounts →
    Except BuildError RowCounts
  | none, .ok rows => .ok rows
  | none, .error e => .error (.persistence e)
  | some (.queueClosed queue), .error e =>
    if e = .abandoned then .error (.queueClosed queue) else .error (.persistence e)
  | some e, _ => .error e

/-- Writes what is produced into a store; a producer that fails abandons the session. -/
def write (production : Production) (medium : Medium) :
    Except BuildError RowCounts × Medium :=
  let abandonment := production.failure.toList.map fun _ => Signal.abandon
  let (written, medium) := Session.run medium (production.records.map .record ++ abandonment)
  (verdict (production.failure.map .enrichment) written, medium)

/--
Runs a build on a store with queues of a capacity. It has no result if a source never ends.
-/
def run (month : Month) (lookups : Lookups) (capacity : Nat) {feeds : Feeds}
    (reading : feeds.Reading) (medium : Medium) :
    Option (Except BuildFault (Except BuildError Summary × Medium)) :=
  reading.outcome.map fun
    | .error e => .ok (.error e, medium)
    | .ok sources => do
      let r := Reconciliation.ofCollection month (Collection.addAll {} reading.fed)
      let (written, medium) := write (← produce lookups capacity r) medium
      return (written.map fun rows => ⟨sources, r.timelines.length, rows⟩, medium)

theorem isSome_run {month : Month} {lookups : Lookups} {capacity : Nat} {feeds : Feeds}
    {medium : Medium} (reading : feeds.Reading)
    (ends : ∀ entry ∈ feeds.all, entry.2.ending ≠ .never) :
    (run month lookups capacity reading medium).isSome := by
  rw [run, Option.isSome_map]
  exact reading.isSome_outcome ends

end Build

end RelaySnapshot
