import RelaySnapshot.Proofs.Build.Plan
import RelaySnapshot.Proofs.Store.Session

/-!
# What the parties of a build maintain

No record is lost between a producer and the store: those of a kind that have been inserted, those
in the queue and those still ahead are all that are planned, unless the producer has failed. The
driver has used the handle and dropped the guard only after all producers have been judged, so when
the last queue is closed a failure is known to the sink.
-/

namespace RelaySnapshot.Build

/-- A task has carried out its plan, up to what is still before it. -/
def Task.Follows (plan : List (Except LookupError Record)) : Task → Prop
  | .running rest => ∃ sent : List Record, plan = sent.map .ok ++ rest
  | .ended (.ok ()) => ∃ sent : List Record, plan = sent.map .ok
  | .ended (.error _) => True

/-- Which records of a kind a task may still have before it. -/
def Task.Ahead (kind : RecordKind) (ahead : List Record) : Task → Prop
  | .running rest => ahead = kind.among (given rest)
  | .ended (.ok ()) => ahead = []
  | .ended (.error _) => True

/-- What the driver has done with the handle. -/
def Driver.handle : Driver → Handle
  | .joining | .judged _ => .held
  | .signalled failure | .waiting failure | .ended failure _ => .used failure

/-- Whether a producer has failed, once the driver knows. -/
def Driver.failure? : Driver → Option (Option BuildError)
  | .joining => none
  | .judged failure | .signalled failure | .waiting failure | .ended failure _ => some failure

namespace World

def Judged (w : World) : Option BuildError → Prop
  | none => ∀ producer, w.tasks producer = .ended (.ok ())
  | some cause => ∃ producer, w.tasks producer = .ended (.error cause)

/-- No record is lost. -/
def Keeps (production : Production) (w : World) (inserted : List Record) : Prop :=
  ∀ kind : RecordKind, ∃ ahead, (w.tasks (.of kind)).Ahead kind ahead ∧
    kind.among production.records = kind.among inserted ++ w.queues kind ++ ahead

structure Draining (production : Production) (medium : Medium) (w : World) (session : Session) :
    Prop where
  wrote : ∃ inserted, Wrote medium inserted session.written session.counts ∧
    w.Keeps production inserted
  closed : ∀ kind, kind ∉ session.openQueues → w.queues kind = [] ∧ w.Closed kind
  dropped : session.abandonable = false → w.handle = .dropped

/-- All producers have succeeded, and all records have been written. -/
structure Complete (production : Production) (medium : Medium) (w : World) (written : Medium)
    (counts : RowCounts) : Prop where
  succeeded : ∀ producer, w.tasks producer = .ended (.ok ())
  empty : ∀ kind, w.queues kind = []
  wrote : Wrote medium production.records written counts

def SinkSound (production : Production) (medium : Medium) (w : World) : Prop :=
  match w.sink with
  | .beginning => w.store = medium ∧ w.Keeps production []
  | .draining session => w.store = medium ∧ w.Draining production medium session
  | .committing session => w.store = medium ∧
      w.Complete production medium session.written session.counts
  | .rollingBack _ => w.store = medium
  | .ended (.ok rows) => w.Complete production medium w.store rows
  | .ended (.error _) => w.store = medium

/-- What every step of a party maintains. -/
structure Sound (production : Production) (medium : Medium) (w : World) : Prop where
  follows : ∀ producer, (w.tasks producer).Follows (production.plan producer)
  handle : w.handle = w.driver.handle
  judged : ∀ failure, w.driver.failure? = some failure → w.Judged failure
  awaited : ∀ failure written, w.driver = .ended failure written → w.sink = .ended written
  sink : w.SinkSound production medium

@[simp]
theorem tasks_setTask_self (w : World) (producer : Producer) (task : Task) :
    (w.setTask producer task).tasks producer = task := if_pos rfl

theorem tasks_setTask_of_ne (w : World) {producer other : Producer} (hne : other ≠ producer)
    (task : Task) : (w.setTask producer task).tasks other = w.tasks other := if_neg hne

@[simp]
theorem tasks_setQueue (w : World) (kind : RecordKind) (records : List Record) :
    (w.setQueue kind records).tasks = w.tasks := rfl

@[simp]
theorem queues_setQueue_self (w : World) (kind : RecordKind) (records : List Record) :
    (w.setQueue kind records).queues kind = records := if_pos rfl

theorem queues_setQueue_of_ne (w : World) {kind other : RecordKind} (hne : other ≠ kind)
    (records : List Record) : (w.setQueue kind records).queues other = w.queues other :=
  if_neg hne

end World

open World

variable {production : Production} {medium : Medium} {capacity : Nat} {producer : Producer}
variable {w w' : World}

/-! ### Steps of a producer -/

namespace TaskStep

theorem running (hstep : TaskStep capacity producer w w') :
    ∃ rest, w.tasks producer = .running rest := by
  cases hstep with
  | send htask => exact ⟨_, htask⟩
  | refused htask => exact ⟨_, htask⟩
  | fail htask => exact ⟨_, htask⟩
  | succeed htask => exact ⟨_, htask⟩

/-- A producer touches nothing but its own task and the queues. -/
theorem unchanged (hstep : TaskStep capacity producer w w') :
    w'.sink = w.sink ∧ w'.store = w.store ∧ w'.handle = w.handle ∧ w'.driver = w.driver := by
  cases hstep <;> exact ⟨rfl, rfl, rfl, rfl⟩

theorem tasks_of_ne (hstep : TaskStep capacity producer w w') {other : Producer}
    (hne : other ≠ producer) : w'.tasks other = w.tasks other := by
  cases hstep <;> exact tasks_setTask_of_ne w hne _

theorem ended (hstep : TaskStep capacity producer w w') {other : Producer}
    {result : Except BuildError Unit} (hended : w.tasks other = .ended result) :
    w'.tasks other = .ended result := by
  have hne : other ≠ producer := by
    rintro rfl
    obtain ⟨rest, hrest⟩ := hstep.running
    rw [hended] at hrest
    cases hrest
  rw [hstep.tasks_of_ne hne, hended]

theorem follows (hstep : TaskStep capacity producer w w')
    {plan : List (Except LookupError Record)} (h : (w.tasks producer).Follows plan) :
    (w'.tasks producer).Follows plan := by
  cases hstep with
  | @send record rest htask =>
      rw [htask] at h
      obtain ⟨sent, hsent⟩ := h
      rw [tasks_setQueue, tasks_setTask_self]
      exact ⟨sent ++ [record], by simp [hsent]⟩
  | refused => simp [Task.Follows]
  | fail => simp [Task.Follows]
  | succeed htask =>
      rw [htask] at h
      obtain ⟨sent, hsent⟩ := h
      rw [tasks_setTask_self]
      exact ⟨sent, by simp [hsent]⟩

/-- What a producer sends is of a kind of its own. -/
theorem of_kind {record : Record} {rest : List (Except LookupError Record)}
    (h : (w.tasks producer).Follows (production.plan producer))
    (htask : w.tasks producer = .running (.ok record :: rest)) :
    Producer.of record.kind = producer := by
  rw [htask] at h
  obtain ⟨sent, hsent⟩ := h
  have hmem : .ok record ∈ production.plan producer := by
    rw [hsent]
    simp
  exact Production.of_kind_of_mem_plan hmem

theorem queues_of_ended (hstep : TaskStep capacity producer w w')
    (hfollows : (w.tasks producer).Follows (production.plan producer)) {kind : RecordKind}
    {result : Except BuildError Unit} (hended : w.tasks (.of kind) = .ended result) :
    w'.queues kind = w.queues kind := by
  cases hstep with
  | @send record rest htask =>
      refine queues_setQueue_of_ne _ ?_ _
      rintro rfl
      rw [of_kind hfollows htask, htask] at hended
      cases hended
  | _ => rfl

theorem keeps (hstep : TaskStep capacity producer w w')
    (hfollows : (w.tasks producer).Follows (production.plan producer)) {inserted : List Record}
    (h : w.Keeps production inserted) : w'.Keeps production inserted := by
  intro kind
  obtain ⟨ahead, hahead, hall⟩ := h kind
  by_cases howner : Producer.of kind = producer
  · subst howner
    cases hstep with
    | @send record rest htask =>
        rw [htask, Task.Ahead, given_cons_ok] at hahead
        rw [tasks_setQueue, tasks_setTask_self]
        refine ⟨_, rfl, ?_⟩
        by_cases hkind : record.kind = kind
        · rw [hall, hahead, RecordKind.among_cons_of_eq hkind]
          subst hkind
          simp
        · rw [hall, hahead, RecordKind.among_cons_of_ne hkind,
            queues_setQueue_of_ne _ (Ne.symm hkind)]
          rfl
    | refused => exact ⟨ahead, by simp [Task.Ahead], hall⟩
    | fail => exact ⟨ahead, by simp [Task.Ahead], hall⟩
    | succeed htask =>
        rw [htask] at hahead
        refine ⟨ahead, ?_, hall⟩
        rw [tasks_setTask_self]
        exact hahead
  · refine ⟨ahead, by rwa [hstep.tasks_of_ne howner], ?_⟩
    cases hstep with
    | @send record rest htask =>
        have hkind : kind ≠ record.kind := by
          rintro rfl
          exact howner (of_kind hfollows htask)
        rw [hall, queues_setQueue_of_ne _ hkind]
        rfl
    | _ => exact hall

theorem judged (hstep : TaskStep capacity producer w w') {failure : Option BuildError}
    (h : w.Judged failure) : w'.Judged failure := by
  cases failure with
  | none => exact fun other => hstep.ended (h other)
  | some cause =>
      obtain ⟨other, hother⟩ := h
      exact ⟨other, hstep.ended hother⟩

theorem closed (hstep : TaskStep capacity producer w w') {kind : RecordKind}
    (h : w.Closed kind) : w'.Closed kind := by
  obtain ⟨⟨result, hended⟩, hguard⟩ := h
  obtain ⟨-, -, -, hdriver⟩ := hstep.unchanged
  exact ⟨⟨result, hstep.ended hended⟩, by rwa [hdriver]⟩

theorem draining (hstep : TaskStep capacity producer w w')
    (hfollows : (w.tasks producer).Follows (production.plan producer)) {session : Session}
    (h : w.Draining production medium session) : w'.Draining production medium session where
  wrote := by
    obtain ⟨inserted, hwrote, hkeeps⟩ := h.wrote
    exact ⟨inserted, hwrote, hstep.keeps hfollows hkeeps⟩
  closed kind hkind := by
    obtain ⟨hempty, hclosed⟩ := h.closed kind hkind
    obtain ⟨result, hended⟩ := hclosed.1
    exact ⟨by rw [hstep.queues_of_ended hfollows hended, hempty], hstep.closed hclosed⟩
  dropped habandonable := by
    obtain ⟨-, -, hhandle, -⟩ := hstep.unchanged
    rw [hhandle, h.dropped habandonable]

/-- When all producers have ended, none of them takes a step. -/
theorem not_complete (hstep : TaskStep capacity producer w w') {written : Medium}
    {counts : RowCounts} : ¬ w.Complete production medium written counts := by
  intro h
  obtain ⟨rest, hrest⟩ := hstep.running
  rw [h.succeeded producer] at hrest
  cases hrest

theorem sound (hstep : TaskStep capacity producer w w') (h : w.Sound production medium) :
    w'.Sound production medium := by
  obtain ⟨hsink, hstore, hhandle, hdriver⟩ := hstep.unchanged
  have hfollows := h.follows producer
  refine ⟨fun other => ?_, ?_, fun failure hfailure => ?_, fun failure written hended => ?_, ?_⟩
  · by_cases hne : other = producer
    · subst hne
      exact hstep.follows hfollows
    · rw [hstep.tasks_of_ne hne]
      exact h.follows other
  · rw [hhandle, hdriver, h.handle]
  · rw [hdriver] at hfailure
    exact hstep.judged (h.judged failure hfailure)
  · rw [hdriver] at hended
    rw [hsink, h.awaited failure written hended]
  · have hsound := h.sink
    rw [SinkSound, hsink, hstore]
    rw [SinkSound] at hsound
    split at hsound
    · exact ⟨hsound.1, hstep.keeps hfollows hsound.2⟩
    · exact ⟨hsound.1, hstep.draining hfollows hsound.2⟩
    · exact absurd hsound.2 hstep.not_complete
    · exact hsound
    · exact absurd hsound hstep.not_complete
    · exact hsound

end TaskStep

/-! ### Steps of the sink -/

namespace SinkStep

/-- The sink touches nothing but itself, the queues and the store. -/
theorem unchanged (hstep : SinkStep w w') :
    w'.tasks = w.tasks ∧ w'.handle = w.handle ∧ w'.driver = w.driver := by
  cases hstep <;> exact ⟨rfl, rfl, rfl⟩

theorem not_ended (hstep : SinkStep w w') (result : Except StoreError RowCounts) :
    w.sink ≠ .ended result := by
  intro hended
  cases hstep <;> simp_all

variable {session session' : Session} {kind : RecordKind} {record : Record} {rest : List Record}

theorem kind_of_queue {inserted : List Record} (h : w.Keeps production inserted)
    (hqueue : w.queues kind = record :: rest) : record.kind = kind := by
  obtain ⟨ahead, -, hall⟩ := h kind
  have hmem : record ∈ kind.among production.records := by
    rw [hall, hqueue]
    simp
  exact (RecordKind.mem_among.mp hmem).2

theorem keeps_receive {inserted : List Record} (h : w.Keeps production inserted)
    (hqueue : w.queues kind = record :: rest) :
    (w.setQueue kind rest).Keeps production (inserted ++ [record]) := by
  intro other
  obtain ⟨ahead, hahead, hall⟩ := h other
  refine ⟨ahead, hahead, ?_⟩
  have hkind := kind_of_queue h hqueue
  rw [hall, RecordKind.among_append]
  by_cases hother : other = kind
  · subst hother
    rw [hqueue, RecordKind.among_cons_of_eq hkind, queues_setQueue_self]
    simp
  · rw [queues_setQueue_of_ne _ hother,
      RecordKind.among_cons_of_ne (by rw [hkind]; exact Ne.symm hother)]
    simp

theorem draining_receive (h : w.Draining production medium session)
    (hopen : kind ∈ session.openQueues) (hqueue : w.queues kind = record :: rest)
    (hstep : session.step (.record record) = .ok session') :
    (w.setQueue kind rest).Draining production medium session' := by
  obtain ⟨inserted, hwrote, hkeeps⟩ := h.wrote
  have hkind := kind_of_queue hkeeps hqueue
  obtain ⟨written, hinsert, rfl⟩ := Session.take_of_mem (by rwa [hkind]) hstep
  refine ⟨⟨inserted ++ [record], hwrote.more hinsert, keeps_receive hkeeps hqueue⟩,
    fun other hother => ?_, h.dropped⟩
  have hne : other ≠ kind := by
    rintro rfl
    exact hother hopen
  obtain ⟨hempty, hclosed⟩ := h.closed other hother
  exact ⟨by rw [queues_setQueue_of_ne _ hne, hempty], hclosed⟩

theorem draining_close (h : w.Draining production medium session) (hqueue : w.queues kind = [])
    (hclosed : w.Closed kind) :
    w.Draining production medium
      { session with openQueues := session.openQueues.erase kind } := by
  refine ⟨h.wrote, fun other hother => ?_, h.dropped⟩
  by_cases hne : other = kind
  · subst hne
    exact ⟨hqueue, hclosed⟩
  · exact h.closed other fun hmem => hother ((List.mem_erase_of_ne hne).mpr hmem)

/-- What comes next out of a queue can be inserted, if all that is produced can. -/
theorem exists_insert {all : Medium} (h : w.Draining production medium session)
    (hall : medium.insertAll production.records = .ok all)
    (hqueue : w.queues kind = record :: rest) :
    ∃ written, session.written.insert record.kind record.values = .ok written := by
  obtain ⟨inserted, hwrote, hkeeps⟩ := h.wrote
  have hkind := kind_of_queue hkeeps hqueue
  have hprefixes (other : RecordKind) :
      other.among (inserted ++ [record]) <+: other.among production.records := by
    obtain ⟨ahead, -, hplanned⟩ := hkeeps other
    rw [hplanned, RecordKind.among_append]
    by_cases hother : other = kind
    · subst hother
      rw [hqueue, RecordKind.among_cons_of_eq hkind]
      exact ⟨rest ++ ahead, by simp⟩
    · rw [RecordKind.among_cons_of_ne (by rw [hkind]; exact Ne.symm hother)]
      exact ⟨w.queues other ++ ahead, by simp⟩
  obtain ⟨written, hwritten⟩ := Medium.exists_insertAll_of_prefixes hprefixes hall
  rw [Medium.insertAll_append, hwrote.inserted] at hwritten
  change (session.written.insert record.kind record.values >>= fun medium => medium.insertAll []) =
    _ at hwritten
  cases hinsert : session.written.insert record.kind record.values with
  | error e =>
      rw [hinsert] at hwritten
      cases hwritten
  | ok next => exact ⟨next, rfl⟩

/-- Once the guard is gone, a session that nobody abandons is one of producers that succeed. -/
theorem succeeded_of_not_abandoned (h : w.Sound production medium)
    (hsink : w.sink = .draining session) (hguard : w.driver.holdsGuard = false)
    (hdropped : session.abandonable = false → w.handle = .dropped)
    (hkept : ¬ (session.abandonable = true ∧ w.handle = .fired)) :
    ∀ producer, w.tasks producer = .ended (.ok ()) := by
  cases hdriver : w.driver with
  | waiting failure =>
      have hjudged := h.judged failure (by rw [hdriver]; rfl)
      have hhandle := h.handle
      rw [hdriver] at hhandle
      cases failure with
      | none => exact hjudged
      | some cause =>
          -- The signal has been sent before the guard was dropped, so it would be seen.
          have hfired : w.handle = .fired := hhandle
          cases habandonable : session.abandonable with
          | true => exact absurd ⟨habandonable, hfired⟩ hkept
          | false =>
              rw [hdropped habandonable] at hfired
              cases hfired
  | ended failure written =>
      rw [h.awaited failure written hdriver] at hsink
      cases hsink
  | _ =>
      rw [hdriver] at hguard
      cases hguard

/-- When the last queue has been closed and the session has not been abandoned, all is written. -/
theorem complete_of_finish (h : w.Sound production medium) (hsink : w.sink = .draining session)
    (hdraining : w.Draining production medium session) (hopen : session.openQueues = [])
    (hfinish : session.finish (w.handle = .fired) = .ok session') :
    w.Complete production medium session'.written session'.counts := by
  have hclosed (kind : RecordKind) := hdraining.closed kind (by simp [hopen])
  rw [Session.finish] at hfinish
  split at hfinish
  next => cases hfinish
  next hkept =>
    obtain rfl := Except.ok.inj hfinish
    have hsucceeded := succeeded_of_not_abandoned h hsink ((hclosed .addresses).2.2 rfl)
      hdraining.dropped (by simpa using hkept)
    obtain ⟨inserted, hwrote, hkeeps⟩ := hdraining.wrote
    refine ⟨hsucceeded, fun kind => (hclosed kind).1, hwrote.congr fun kind => ?_⟩
    obtain ⟨ahead, hahead, hall⟩ := hkeeps kind
    rw [hsucceeded] at hahead
    rw [hall, (hclosed kind).1, hahead]
    simp

theorem sinkSound (hstep : SinkStep w w') (h : w.Sound production medium) :
    w'.SinkSound production medium := by
  have hsound := h.sink
  rw [SinkSound] at hsound
  cases hstep with
  | begin hsink =>
      rw [hsink] at hsound
      obtain ⟨hstore, hkeeps⟩ := hsound
      refine ⟨hstore, ⟨[], ?_, hkeeps⟩, fun kind hkind => ?_, fun habandonable => ?_⟩
      · rw [hstore]
        exact .nothing medium
      · cases kind <;> simp at hkind
      · cases habandonable
  | beginFails hsink cause =>
      rw [hsink] at hsound
      exact hsound.1
  | @receive session kind record rest hsink hopen hqueue =>
      rw [hsink] at hsound
      obtain ⟨hstore, hdraining⟩ := hsound
      cases hstep : session.step (.record record) with
      | error e => exact hstore
      | ok session' =>
          have h' := draining_receive hdraining hopen hqueue hstep
          exact ⟨hstore, h'.wrote, h'.closed, h'.dropped⟩
  | insertFails hsink hopen hqueue cause =>
      rw [hsink] at hsound
      exact hsound.1
  | close hsink hopen hqueue hclosed =>
      rw [hsink] at hsound
      have h' := draining_close hsound.2 hqueue hclosed
      exact ⟨hsound.1, h'.wrote, h'.closed, h'.dropped⟩
  | @abandon session hsink hopen habandonable hfired =>
      rw [hsink] at hsound
      rw [SinkSound, Session.step, if_pos habandonable]
      exact hsound.1
  | release hsink hopen habandonable hdropped =>
      rw [hsink] at hsound
      exact ⟨hsound.1, hsound.2.wrote, hsound.2.closed, fun _ => hdropped⟩
  | @finish session hsink hopen =>
      rw [hsink] at hsound
      obtain ⟨hstore, hdraining⟩ := hsound
      rw [SinkSound]
      cases hfinish : session.finish (w.handle = .fired) with
      | error e => exact hstore
      | ok session' =>
          have hcomplete := complete_of_finish h hsink hdraining hopen hfinish
          exact ⟨hstore, hcomplete.succeeded, hcomplete.empty, hcomplete.wrote⟩
  | commit hsink =>
      rw [hsink] at hsound
      exact ⟨hsound.2.succeeded, hsound.2.empty, hsound.2.wrote⟩
  | rollback hsink =>
      rw [hsink] at hsound
      exact hsound

theorem sound (hstep : SinkStep w w') (h : w.Sound production medium) :
    w'.Sound production medium := by
  obtain ⟨htasks, hhandle, hdriver⟩ := hstep.unchanged
  refine ⟨?_, ?_, fun failure hfailure => ?_, fun failure written hended => ?_,
    hstep.sinkSound h⟩
  · rw [htasks]
    exact h.follows
  · rw [hhandle, hdriver, h.handle]
  · rw [hdriver] at hfailure
    have hjudged := h.judged failure hfailure
    cases failure <;> simpa [Judged, htasks] using hjudged
  · rw [hdriver] at hended
    exact absurd (h.awaited failure written hended) (hstep.not_ended written)

end SinkStep

/-! ### Steps of the driver -/

namespace DriverStep

/-- The driver touches nothing but itself and the handle. -/
theorem unchanged (hstep : DriverStep w w') :
    w'.tasks = w.tasks ∧ w'.queues = w.queues ∧ w'.sink = w.sink ∧ w'.store = w.store := by
  cases hstep <;> exact ⟨rfl, rfl, rfl, rfl⟩

theorem handle (hstep : DriverStep w w') (h : w.handle = w.driver.handle) :
    w'.handle = w'.driver.handle := by
  cases hstep with
  | signal hdriver => rfl
  | _ hdriver => simpa [hdriver, Driver.handle] using h

theorem judged (hstep : DriverStep w w')
    (h : ∀ failure, w.driver.failure? = some failure → w.Judged failure) :
    ∀ failure, w'.driver.failure? = some failure → w'.Judged failure := by
  intro failure hfailure
  cases hstep with
  | joined hdriver hended =>
      obtain rfl := Option.some.inj hfailure
      exact hended
  | joinFailed hdriver hended =>
      obtain rfl := Option.some.inj hfailure
      exact ⟨_, hended⟩
  | _ hdriver =>
      obtain rfl := Option.some.inj hfailure
      have hjudged := h _ (by rw [hdriver]; rfl)
      exact hjudged

/-- The guard is not taken up again. -/
theorem closed (hstep : DriverStep w w') {kind : RecordKind} (h : w.Closed kind) :
    w'.Closed kind := by
  refine ⟨by rw [hstep.unchanged.1]; exact h.1, fun hkind => ?_⟩
  have hguard := h.2 hkind
  cases hstep with
  | release => rfl
  | await => rfl
  | _ hdriver =>
      rw [hdriver] at hguard
      cases hguard

/-- A handle that has been dropped stays so. -/
theorem dropped (hstep : DriverStep w w') (h : w.handle = w.driver.handle)
    (hdropped : w.handle = .dropped) : w'.handle = .dropped := by
  cases hstep with
  | signal hdriver =>
      rw [hdropped, hdriver] at h
      cases h
  | _ => exact hdropped

theorem sinkSound (hstep : DriverStep w w') (h : w.Sound production medium) :
    w'.SinkSound production medium := by
  have hsound := h.sink
  obtain ⟨htasks, hqueues, hsink, hstore⟩ := hstep.unchanged
  have hkeeps {inserted : List Record} (hkeeps : w.Keeps production inserted) :
      w'.Keeps production inserted := by
    rw [Keeps, htasks, hqueues]
    exact hkeeps
  have hcomplete {written : Medium} {counts : RowCounts}
      (hcomplete : w.Complete production medium written counts) :
      w'.Complete production medium written counts :=
    ⟨by rw [htasks]; exact hcomplete.succeeded, by rw [hqueues]; exact hcomplete.empty,
      hcomplete.wrote⟩
  rw [SinkSound, hsink, hstore]
  rw [SinkSound] at hsound
  split at hsound
  · exact ⟨hsound.1, hkeeps hsound.2⟩
  · obtain ⟨hmedium, ⟨inserted, hwrote, hkept⟩, hclosed, hdropped⟩ := hsound
    refine ⟨hmedium, ⟨inserted, hwrote, hkeeps hkept⟩, fun kind hkind => ?_, fun habandonable => ?_⟩
    · obtain ⟨hempty, hclosed⟩ := hclosed kind hkind
      exact ⟨by rw [hqueues, hempty], hstep.closed hclosed⟩
    · exact hstep.dropped h.handle (hdropped habandonable)
  · exact ⟨hsound.1, hcomplete hsound.2⟩
  · exact hsound
  · exact hcomplete hsound
  · exact hsound

theorem sound (hstep : DriverStep w w') (h : w.Sound production medium) :
    w'.Sound production medium := by
  obtain ⟨htasks, -, hsink, -⟩ := hstep.unchanged
  refine ⟨by rw [htasks]; exact h.follows, hstep.handle h.handle, hstep.judged h.judged,
    fun failure written hended => ?_, hstep.sinkSound h⟩
  rw [hsink]
  cases hstep with
  | await hdriver hsink' =>
      cases hended
      exact hsink'
  | _ => cases hended

end DriverStep

/-! ### Runs -/

theorem World.Complete.not_failed {written : Medium} {counts : RowCounts}
    (h : w.Complete production medium written counts) (cause : BuildError) :
    w.tasks producer ≠ .ended (.error cause) := by
  rw [h.succeeded producer]
  simp

theorem World.Sound.complete_of_committing (h : w.Sound production medium) {session : Session}
    (hsink : w.sink = .committing session) :
    w.Complete production medium session.written session.counts := by
  have hsound := h.sink
  rw [SinkSound, hsink] at hsound
  exact hsound.2

theorem World.Sound.complete_of_ended (h : w.Sound production medium) {rows : RowCounts}
    (hsink : w.sink = .ended (.ok rows)) : w.Complete production medium w.store rows := by
  have hsound := h.sink
  rw [SinkSound, hsink] at hsound
  exact hsound

theorem sound_start (production : Production) (medium : Medium) :
    (start production medium).Sound production medium where
  follows _ := ⟨[], rfl⟩
  handle := rfl
  judged _ h := by cases h
  awaited _ _ h := by cases h
  sink := ⟨rfl, fun kind => ⟨_, rfl, (production.among_given_plan kind).symm⟩⟩

theorem Step.sound (hstep : Step capacity w w') (h : w.Sound production medium) :
    w'.Sound production medium := by
  cases hstep with
  | task producer hstep => exact hstep.sound h
  | sink hstep => exact hstep.sound h
  | driver hstep => exact hstep.sound h

theorem Steps.sound {n : Nat} (hsteps : Steps capacity n w w') (h : w.Sound production medium) :
    w'.Sound production medium := by
  induction hsteps with
  | none => exact h
  | more _ hstep ih => exact hstep.sound (ih h)

theorem Reachable.step (h : Reachable capacity production medium w) (hstep : Step capacity w w') :
    Reachable capacity production medium w' := by
  obtain ⟨n, hsteps⟩ := h
  exact ⟨n + 1, hsteps.more hstep⟩

theorem Reachable.sound (h : Reachable capacity production medium w) :
    w.Sound production medium := by
  obtain ⟨n, hsteps⟩ := h
  exact hsteps.sound (sound_start production medium)

end RelaySnapshot.Build
