import RelaySnapshot.Proofs.Build.Turns
import RelaySnapshot.Proofs.Store.Gaining

/-!
# Turns on one store

A store that was new before any number of turns holds what the turns that succeeded have received,
and nothing of the others. So a turn succeeds if nobody abandons it and no node it is given has the
number of another one of that turn or of one that is there.
-/

namespace RelaySnapshot

instance : Zero RowCounts := ⟨{}⟩

instance : Add RowCounts :=
  ⟨fun a b => ⟨a.nodes + b.nodes, a.descriptors + b.descriptors, a.families + b.families,
    a.addresses + b.addresses⟩⟩

namespace Database

theorem newIds_eq_map (records : List Record) :
    newIds records = (Record.nodeIds records).map .integer := by
  induction records with
  | nil => rfl
  | cons record records ih =>
      rw [newIds_cons, ih]
      cases record <;> rfl

theorem accepts_gain_empty {before records : List Record} :
    (empty.gain before).Accepts records ↔
      (Record.nodeIds records).Nodup ∧
        ∀ id ∈ Record.nodeIds records, id ∉ Record.nodeIds before := by
  have hinjective : Function.Injective Cell.integer := fun _ _ => Cell.integer.inj
  have hold : empty.nodeIds = [] := rfl
  rw [Accepts, nodeIds_gain, newIds_eq_map, newIds_eq_map, hold, List.nil_append,
    List.nodup_map_iff hinjective, List.forall_mem_map]
  simp only [List.mem_map_of_injective hinjective]

theorem insert_eq_error {db : Database} {record : Record} {e : DatabaseError}
    (h : db.insert record.kind record.values = .error e) : e = .repeatedNode := by
  by_cases hkind : record.kind = .nodes
  · cases record with
    | node node =>
        change db.insert .nodes (Record.node node).values = .error e at h
        rw [insert_node] at h
        split at h
        · exact (Except.error.inj h).symm
        · cases h
    | _ => cases hkind
  · rw [insert_of_ne db hkind] at h
    cases h

end Database

namespace Medium

theorem insertAll_eq_error {db : Database} {records : List Record} {e : DatabaseError}
    (h : (Medium.tables db).insertAll records = .error e) :
    ¬ db.Accepts records ∧ e = .repeatedNode := by
  refine ⟨fun haccepts => ?_, ?_⟩
  · rw [insertAll_tables.mpr ⟨haccepts, rfl⟩] at h
    cases h
  · induction records generalizing db with
    | nil => cases h
    | cons record records ih =>
        rw [insertAll, insert] at h
        cases hinsert : db.insert record.kind record.values with
        | error e' =>
            rw [hinsert] at h
            rw [← Except.error.inj h]
            exact Database.insert_eq_error hinsert
        | ok db' =>
            rw [hinsert] at h
            exact ih h

theorem rowCounts_gain_empty (records : List Record) :
    (Medium.tables (Database.empty.gain records)).rowCounts = .ok (.of records) := by
  have hcount (kind : RecordKind) : (Medium.tables (Database.empty.gain records)).count kind =
      .ok (kind.among records).length := by
    simp [count, rows, Database.gain, Database.empty]
  rw [rowCounts, hcount, hcount, hcount, hcount]
  rfl

end Medium

theorem RecordKind.length_eq_sum (records : List Record) :
    records.length = (nodes.among records).length + (descriptors.among records).length +
      (families.among records).length + (addresses.among records).length := by
  induction records with
  | nil => rfl
  | cons record records ih =>
      rw [List.length_cons, ih]
      cases record <;> simp [among, Record.kind] <;> omega

theorem RowCounts.of_append (before after : List Record) :
    of (before ++ after) = of before + of after := by
  simp only [of, RecordKind.among_append, List.length_append]
  rfl

namespace Build

open Event

/-! ### One turn -/

namespace Turn

variable {medium : Medium} {capacity : Nat} {events : List Event} {event : Event} {t t' : Turn}

namespace Sound

theorem received_prefix (h : t.Sound medium events) (kind : RecordKind) :
    kind.among (received events) <+: kind.among (sent events) :=
  ⟨t.queues kind, (h.keeps kind).symm⟩

theorem complete_of_ended (h : t.Sound medium events) {counts : RowCounts}
    (hended : t.sink = .ended (.ok counts)) :
    ∃ session, t.Complete medium events session ∧ t.store = session.written ∧
      counts = session.counts := by
  have hsink := h.sink
  rw [SinkSound, hended] at hsink
  exact hsink

theorem failed_of_ended (h : t.Sound medium events) {cause : StoreError}
    (hended : t.sink = .ended (.error cause)) :
    t.store = medium ∧ t.Failed medium events cause := by
  have hsink := h.sink
  rw [SinkSound, hended] at hsink
  exact hsink

theorem received_length_le (h : t.Sound medium events) :
    (received events).length ≤ (sent events).length := by
  have hlength (kind : RecordKind) := (h.received_prefix kind).length_le
  have hnodes := hlength .nodes
  have hdescriptors := hlength .descriptors
  have hfamilies := hlength .families
  have haddresses := hlength .addresses
  rw [RecordKind.length_eq_sum, RecordKind.length_eq_sum (sent events)]
  omega

/-- Without senders the sink goes on until it has ended. -/
theorem exists_step (h : t.Sound medium events) (hsenders : t.senders = [])
    (hended : ∀ result, t.sink ≠ .ended result) :
    ∃ event t', event.ofSink = true ∧ Step capacity t event t' := by
  cases hsink : t.sink with
  | beginning => exact ⟨_, _, rfl, .begin hsink⟩
  | draining session =>
      by_cases hopen : session.openQueues = []
      · exact ⟨_, _, rfl, .finish hsink hopen⟩
      obtain ⟨kind, hkind⟩ := List.exists_mem_of_ne_nil _ hopen
      cases hqueue : t.queues kind with
      | nil => exact ⟨_, _, rfl, .close hsink hkind hqueue (by simp [hsenders])⟩
      | cons record rest =>
          have hmem : record ∈ kind.among (sent events) := by
            rw [h.keeps kind, hqueue]
            simp
          obtain ⟨-, rfl⟩ := RecordKind.mem_among.mp hmem
          exact ⟨_, _, rfl, .receive hsink hkind hqueue⟩
  | committing session => exact ⟨_, _, rfl, .commit hsink⟩
  | rollingBack cause => exact ⟨_, _, rfl, .rollback hsink⟩
  | ended result => exact absurd hsink (hended result)

end Sound

theorem Step.weight_le (hstep : Step capacity t event t') :
    event.ofSink.toNat + t'.sink.weight ≤ t.sink.weight + event.received?.toList.length := by
  cases hstep with
  | send | shut | fire | drop => simp [ofSink, setQueue]
  | begin hsink =>
      rw [hsink]
      simp [ofSink, Sink.weight]
  | @receive session record rest hsink hopen hqueue =>
      have hweight := Sink.weight_after_record session record
      rw [hsink]
      simp only [ofSink, received?, Bool.toNat_true, Option.toList_some, List.length_singleton]
      omega
  | @close session queue hsink hopen hqueue hshut =>
      have hlength := List.length_erase_of_mem hopen
      have hpos := List.length_pos_of_mem hopen
      rw [hsink]
      simp only [ofSink, Session.step, Sink.after, Sink.weight, Bool.toNat_true]
      omega
  | @abandon session hsink hopen habandonable hfired =>
      have hweight := Sink.two_le_weight_draining session
      rw [hsink, Session.step, if_pos habandonable]
      exact hweight.trans (Nat.le_add_right _ _)
  | @release session hsink hopen habandonable hdropped =>
      rw [hsink]
      simp [ofSink, Session.step, Sink.after, Sink.weight, habandonable]
      omega
  | @finish session hsink hopen =>
      have hweight := Sink.two_le_weight_draining session
      have hdrained : (Sink.drained (session.finish (t.handle = .fired))).weight = 1 := by
        cases session.finish (t.handle = .fired) <;> rfl
      rw [hsink]
      simp only [ofSink, hdrained, Bool.toNat_true]
      omega
  | commit hsink | rollback hsink =>
      rw [hsink]
      simp [ofSink, Sink.weight]

theorem Steps.weight_le (hsteps : Steps capacity (.start medium) events t) :
    (events.filter ofSink).length + t.sink.weight ≤ (received events).length + 8 := by
  generalize hstart : start medium = first at hsteps
  induction hsteps with
  | none =>
      subst hstart
      exact le_rfl
  | @more t' t'' events event _ hstep ih =>
      subst hstart
      have hweight := hstep.weight_le
      have hcount : ([event].filter ofSink).length = event.ofSink.toNat := by
        cases hevent : event.ofSink <;> simp [hevent]
      rw [List.filter_append, List.length_append, received_snoc, List.length_append, hcount]
      omega

end Turn

namespace Entry

variable {entry : Entry} {medium medium' : Medium} {counts : RowCounts} {cause : StoreError}

/-- A turn that succeeds has received all that was sent. -/
theorem Leads.ok (h : entry.Leads medium medium') (hresult : entry.result = .ok counts) :
    .fire ∉ entry.events ∧ Wrote medium (received entry.events) medium' counts ∧
      (∀ kind : RecordKind,
        kind.among (received entry.events) = kind.among (sent entry.events)) ∧
      Session.run medium (seen entry.events) = (.ok counts, medium') := by
  obtain ⟨t, hsteps, hended, rfl⟩ := h
  rw [hresult] at hended
  have hsound := hsteps.sound
  obtain ⟨session, hcomplete, hstore, rfl⟩ := hsound.complete_of_ended hended
  refine ⟨fun hfire => hcomplete.unfired (hsound.fired.mp hfire), ?_, fun kind => ?_, ?_⟩
  · rw [hstore]
    exact hcomplete.wrote
  · rw [hsound.keeps kind, (hcomplete.closed kind).1, List.append_nil]
  · rw [Session.run, hcomplete.followed, hstore]

theorem Leads.error (h : entry.Leads medium medium') (hresult : entry.result = .error cause) :
    medium' = medium ∧
      (.fire ∈ entry.events ∧ cause = .abandoned ∨
        Session.run medium (seen entry.events) = (.error cause, medium) ∧
          ∃ e, cause = .database e ∧ medium.insertAll (received entry.events) = .error e) := by
  obtain ⟨t, hsteps, hended, rfl⟩ := h
  rw [hresult] at hended
  have hsound := hsteps.sound
  obtain ⟨hstore, ⟨hfired, hcause⟩ | ⟨hfollow, hrefused⟩⟩ := hsound.failed_of_ended hended
  · exact ⟨hstore, .inl ⟨hsound.fired.mpr hfired, hcause⟩⟩
  · exact ⟨hstore, .inr ⟨by rw [Session.run, hfollow], hrefused⟩⟩

theorem Leads.received_prefix (h : entry.Leads medium medium') (kind : RecordKind) :
    kind.among (received entry.events) <+: kind.among (sent entry.events) := by
  obtain ⟨t, hsteps, -, -⟩ := h
  exact hsteps.sound.received_prefix kind

/-- Without a failure of others, a turn does what a session does with the signals it has seen. -/
theorem Leads.run (h : entry.Leads medium medium') (hfire : .fire ∉ entry.events) :
    Session.run medium (seen entry.events) = (entry.result, medium') := by
  cases hresult : entry.result with
  | ok counts => exact (h.ok hresult).2.2.2
  | error cause =>
      obtain ⟨rfl, ⟨hfired, -⟩ | ⟨hrun, -⟩⟩ := h.error hresult
      · exact absurd hfired hfire
      · exact hrun

/-- A turn fails only if it is abandoned or if what it has received cannot be inserted. -/
theorem Leads.succeeded_of_insertAll {written : Medium} (h : entry.Leads medium medium')
    (hfire : .fire ∉ entry.events)
    (hinserted : medium.insertAll (received entry.events) = .ok written) :
    entry.succeeded = true := by
  cases hresult : entry.result with
  | ok counts =>
      rw [succeeded, hresult]
      rfl
  | error cause =>
      obtain ⟨-, ⟨hfired, -⟩ | ⟨-, e, -, hrefused⟩⟩ := h.error hresult
      · exact absurd hfired hfire
      · rw [hinserted] at hrefused
        cases hrefused

theorem exists_counts_of_succeeded (h : entry.succeeded = true) :
    ∃ counts, entry.result = .ok counts := by
  cases hresult : entry.result with
  | ok counts => exact ⟨counts, rfl⟩
  | error cause =>
      rw [succeeded, hresult] at h
      cases h

theorem Leads.inserted (h : entry.Leads medium medium') :
    medium.insertAll (if entry.succeeded then received entry.events else []) = .ok medium' := by
  cases hresult : entry.result with
  | ok counts =>
      obtain ⟨-, hwrote, -⟩ := h.ok hresult
      rw [succeeded, hresult]
      exact hwrote.inserted
  | error cause =>
      rw [succeeded, hresult, (h.error hresult).1]
      rfl

def counts? (entry : Entry) : Option RowCounts :=
  entry.result.toOption

end Entry

/-! ### Many turns -/

def kept (entries : List Entry) : List Record :=
  (entries.filter Entry.succeeded).flatMap fun entry => received entry.events

theorem kept_cons (entry : Entry) (entries : List Entry) :
    kept (entry :: entries) =
      (if entry.succeeded then received entry.events else []) ++ kept entries := by
  rw [kept, kept, List.filter_cons]
  split <;> simp

namespace History

variable {medium medium' : Medium} {entries : List Entry}

/-- Some turns do what one turn does that receives all they have received. -/
theorem inserted (h : History medium entries medium') :
    medium.insertAll (kept entries) = .ok medium' := by
  induction h with
  | nil => rfl
  | cons hentry _ ih =>
      rw [kept_cons, Medium.insertAll_append, hentry.inserted]
      exact ih

/-- A turn that fails might as well not have been. -/
theorem filter_succeeded (h : History medium entries medium') :
    History medium (entries.filter Entry.succeeded) medium' := by
  induction h with
  | nil medium => exact .nil medium
  | @cons medium medium' medium'' entry entries hentry _ ih =>
      rw [List.filter_cons]
      split
      next => exact .cons hentry ih
      next hfailed =>
        cases hresult : entry.result with
        | ok counts => simp [Entry.succeeded, hresult, Except.isOk, Except.toBool] at hfailed
        | error cause => rwa [(hentry.error hresult).1] at ih

theorem counts (h : History medium entries medium') :
    (entries.filterMap Entry.counts?).sum = .of (kept entries) := by
  induction h with
  | nil => rfl
  | @cons medium medium' medium'' entry entries hentry _ ih =>
      rw [kept_cons]
      cases hresult : entry.result with
      | ok counts =>
          have hsucceeded : entry.succeeded = true := by rw [Entry.succeeded, hresult]; rfl
          have hcounts : entry.counts? = some counts := by rw [Entry.counts?, hresult]; rfl
          obtain ⟨-, hwrote, -⟩ := hentry.ok hresult
          rw [if_pos hsucceeded, RowCounts.of_append, ← ih, ← hwrote.counted,
            List.filterMap_cons_some hcounts, List.sum_cons]
      | error cause =>
          have hfailed : entry.succeeded = false := by rw [Entry.succeeded, hresult]; rfl
          have hcounts : entry.counts? = none := by rw [Entry.counts?, hresult]; rfl
          rw [if_neg (by simp [hfailed]), List.nil_append, ← ih, List.filterMap_cons_none hcounts]

end History

/-! ### A turn without delay -/

namespace Turn

variable {medium written all : Medium} {capacity : Nat} {counts : RowCounts}
variable {first : Turn} {events : List Event} {taken records : List Record}
variable {openQueues : List RecordKind}

/-- The sink has received all that has been sent, and some queues are open. -/
def taking (medium written : Medium) (counts : RowCounts) (openQueues : List RecordKind) : Turn :=
  { start medium with
    senders := openQueues
    sink := .draining { written, counts, openQueues } }

theorem Steps.send_receive {record : Record} {next : Medium}
    (hsteps : Steps capacity first events (.taking medium written counts openQueues))
    (hopen : record.kind ∈ openQueues)
    (hinsert : written.insert record.kind record.values = .ok next) :
    Steps capacity first (events ++ [.send record] ++ [.see (.record record)])
      (.taking medium next (counts.increment record.kind) openQueues) := by
  have hsend : Step capacity (.taking medium written counts openQueues) (.send record) _ :=
    .send hopen (fun _ => by simp [taking]) (by simp [taking, start])
  have hsent := hsteps.more hsend
  have hqueue := queues_setQueue_self (.taking medium written counts openQueues) record.kind
    [record]
  have hreceived := hsent.more (.receive rfl hopen hqueue)
  have hstep : ({ written, counts, openQueues } : Session).step (.record record) =
      .ok { written := next, counts := counts.increment record.kind, openQueues } := by
    rw [Session.step, Session.take, if_pos hopen, hinsert]
  rw [hstep] at hreceived
  convert hreceived using 1
  simp only [taking, start, setQueue, Sink.after]
  congr 1
  funext kind
  split <;> rfl

theorem Steps.send_receive_all
    (hsteps : Steps capacity first events (.taking medium written counts openQueues))
    (hopen : ∀ kind, kind ∈ openQueues) (hwrote : Wrote medium taken written counts)
    (hall : medium.insertAll (taken ++ records) = .ok all) :
    ∃ more, Steps capacity first (events ++ more)
      (.taking medium all (.of (taken ++ records)) openQueues) ∧ received more = records := by
  induction records generalizing events taken written counts with
  | nil =>
      rw [List.append_nil, hwrote.inserted] at hall
      obtain rfl := Except.ok.inj hall
      refine ⟨[], ?_, rfl⟩
      rw [List.append_nil, List.append_nil, ← hwrote.counted]
      exact hsteps
  | cons record records ih =>
      have hinserted := hall
      rw [Medium.insertAll_append, hwrote.inserted] at hinserted
      change (written.insert record.kind record.values >>=
        fun next => next.insertAll records) = _ at hinserted
      cases hinsert : written.insert record.kind record.values with
      | error e =>
          rw [hinsert] at hinserted
          cases hinserted
      | ok next =>
          rw [List.append_cons] at hall ⊢
          obtain ⟨more, hmore, hreceived⟩ :=
            ih (hsteps.send_receive (hopen _) hinsert) (hwrote.more hinsert) hall
          refine ⟨[.send record, .see (.record record)] ++ more, by simpa using hmore, ?_⟩
          exact congrArg (record :: ·) hreceived

theorem Steps.close_all
    (hsteps : Steps capacity first events (.taking medium written counts openQueues))
    (hnodup : openQueues.Nodup) :
    ∃ more, Steps capacity first (events ++ more) (.taking medium written counts []) ∧
      received more = [] := by
  induction openQueues generalizing events with
  | nil => exact ⟨[], by rwa [List.append_nil], rfl⟩
  | cons queue openQueues ih =>
      obtain ⟨hnew, hnodup⟩ := List.nodup_cons.mp hnodup
      have herase : (queue :: openQueues).erase queue = openQueues := List.erase_cons_head _ _
      have hshut := hsteps.more (.shut List.mem_cons_self)
      have hgone : queue ∉ (queue :: openQueues).erase queue := by rwa [herase]
      have hclosed := hshut.more (.close rfl List.mem_cons_self rfl hgone)
      have hless : Steps capacity first (events ++ [.shut queue] ++ [.see (.close queue)])
          (.taking medium written counts openQueues) := by
        simpa [taking, start, Session.step, Sink.after, herase] using hclosed
      obtain ⟨more, hmore, hreceived⟩ := ih hless hnodup
      exact ⟨[.shut queue, .see (.close queue)] ++ more, by simpa using hmore, hreceived⟩

end Turn

/-- Records that can be inserted can be received in the order in which they come. -/
theorem Entry.exists_leads (capacity : Nat) (medium : Medium) (records : List Record)
    {all : Medium} (hall : medium.insertAll records = .ok all) :
    ∃ entry : Entry, entry.capacity = capacity ∧ received entry.events = records ∧
      entry.result = .ok (.of records) ∧ entry.Leads medium all := by
  have hbegun : Turn.Steps capacity (.start medium) ([] ++ [.begin])
      (.taking medium medium {} [.nodes, .descriptors, .families, .addresses]) :=
    (Turn.Steps.none _).more (.begin rfl)
  obtain ⟨taking, htaken, hreceived⟩ := hbegun.send_receive_all (by intro kind; cases kind <;> simp)
    (.nothing medium) hall
  obtain ⟨closing, hclosed, hnothing⟩ := htaken.close_all (by decide)
  have hended := (hclosed.more (.finish rfl rfl)).more (.commit rfl)
  refine ⟨⟨capacity, _, _⟩, rfl, ?_, rfl, _, hended, rfl, rfl⟩
  calc
    received ([] ++ [.begin] ++ taking ++ closing ++ [.finish] ++ [.commit])
    _ = [] ++ received taking ++ received closing ++ [] ++ [] := by
      rw [received_append, received_append, received_append, received_append]
      rfl
    _ = records := by simp [hreceived, hnothing]

/-! ### All turns -/

/-- The nodes among some records have numbers of their own, also beside those of earlier turns. -/
def Fresh (before : List Entry) (records : List Record) : Prop :=
  (Record.nodeIds records).Nodup ∧
    ∀ id ∈ Record.nodeIds records, id ∉ Record.nodeIds (kept before)

/-- What is true of a store after some turns, and of any turn that is the next. -/
structure AtomicAfter (before : List Entry) (medium : Medium) : Prop where
  /-- The tables hold what has been received in the turns that succeeded. -/
  rows : (Medium.tables .empty).Gained (kept before) medium
  reads : ReadsBack (kept before) medium
  rowCounts : medium.rowCounts = .ok (before.filterMap Entry.counts?).sum
  /-- The turns that failed might as well not have been. -/
  forgets : History (.tables .empty) (before.filter Entry.succeeded) medium
  /-- It is the same to ask for what has been received and for what has been sent. -/
  succeeds_iff : ∀ (entry : Entry) (medium' : Medium), entry.Leads medium medium' →
    (entry.succeeded = true ↔ .fire ∉ entry.events ∧ Fresh before (received entry.events)) ∧
      (entry.succeeded = true ↔ .fire ∉ entry.events ∧ Fresh before (sent entry.events))
  ok : ∀ (entry : Entry) (medium' : Medium) (counts : RowCounts), entry.Leads medium medium' →
    entry.result = .ok counts →
      (∀ kind : RecordKind,
        kind.among (received entry.events) = kind.among (sent entry.events)) ∧
      medium.Gained (received entry.events) medium' ∧ counts = .of (received entry.events)
  error : ∀ (entry : Entry) (medium' : Medium) (cause : StoreError), entry.Leads medium medium' →
    entry.result = .error cause →
      medium' = medium ∧
        (.fire ∈ entry.events ∧ cause = .abandoned ∨ cause = .database .repeatedNode)
  /-- A turn that nobody abandons does what one session does with the same signals. -/
  as_session : ∀ (entry : Entry) (medium' : Medium), entry.Leads medium medium' →
    .fire ∉ entry.events → Session.run medium (seen entry.events) = (entry.result, medium')
  /-- The sink does not go on forever. -/
  finite : ∀ (capacity : Nat) (events : List Event) (t : Turn),
    Turn.Steps capacity (.start medium) events t →
      (events.filter ofSink).length ≤ (sent events).length + 8
  /-- The sink does not get stuck once all senders are gone. -/
  goes_on : ∀ (capacity : Nat) (events : List Event) (t : Turn),
    Turn.Steps capacity (.start medium) events t → t.senders = [] →
      (∀ result, t.sink ≠ .ended result) →
        ∃ event t', event.ofSink = true ∧ Turn.Step capacity t event t'
  /-- Records that can be written can be received in any order. -/
  attained : ∀ (capacity : Nat) (records : List Record), Fresh before records →
    ∃ (entry : Entry) (medium' : Medium), entry.capacity = capacity ∧
      received entry.events = records ∧ entry.succeeded = true ∧ entry.Leads medium medium'

/-- Each turn of a sink on a store that was new keeps everything or nothing, whatever the earlier
turns have been, whoever sends what in which order, and whenever queues are shut and the handle is
used. -/
theorem atomic_after {before : List Entry} {medium : Medium}
    (h : History (.tables .empty) before medium) : AtomicAfter before medium := by
  obtain ⟨haccepts, hstore⟩ := Medium.insertAll_tables.mp h.inserted
  have hfresh (records : List Record) :
      (∃ written, medium.insertAll records = .ok written) ↔ Fresh before records := by
    rw [hstore, Fresh, ← Database.accepts_gain_empty]
    simp [Medium.insertAll_tables]
  refine {
    rows := Medium.gained_of_insertAll h.inserted
    reads := ?_
    rowCounts := ?_
    forgets := h.filter_succeeded
    succeeds_iff := fun entry medium' hentry => ⟨⟨fun hsucceeded => ?_, ?_⟩,
      ⟨fun hsucceeded => ?_, ?_⟩⟩
    ok := fun entry medium' counts hentry hresult => ?_
    error := fun entry medium' cause hentry hresult => ?_
    as_session := fun entry medium' hentry => hentry.run
    finite := fun capacity events t hsteps => ?_
    goes_on := fun capacity events t hsteps => hsteps.sound.exists_step
    attained := fun capacity records hrecords => ?_ }
  · rw [← Database.gain_nil .empty, Database.accepts_gain_empty] at haccepts
    exact hstore ▸ readsBack_gain haccepts.1
  · rw [hstore, h.counts]
    exact Medium.rowCounts_gain_empty _
  · obtain ⟨counts, hresult⟩ := Entry.exists_counts_of_succeeded hsucceeded
    obtain ⟨hfire, hwrote, -⟩ := hentry.ok hresult
    exact ⟨hfire, (hfresh _).mp ⟨_, hwrote.inserted⟩⟩
  · rintro ⟨hfire, hrecords⟩
    obtain ⟨written, hwritten⟩ := (hfresh _).mpr hrecords
    exact hentry.succeeded_of_insertAll hfire hwritten
  · obtain ⟨counts, hresult⟩ := Entry.exists_counts_of_succeeded hsucceeded
    obtain ⟨hfire, hwrote, hall, -⟩ := hentry.ok hresult
    exact ⟨hfire, (hfresh _).mp ⟨_, (hwrote.congr hall).inserted⟩⟩
  · rintro ⟨hfire, hrecords⟩
    obtain ⟨all, hall⟩ := (hfresh _).mpr hrecords
    obtain ⟨written, hwritten⟩ := Medium.exists_insertAll_of_prefixes hentry.received_prefix hall
    exact hentry.succeeded_of_insertAll hfire hwritten
  · obtain ⟨-, hwrote, hall, -⟩ := hentry.ok hresult
    exact ⟨hall, Medium.gained_of_insertAll hwrote.inserted, hwrote.counted⟩
  · obtain ⟨hsame, hfired | ⟨-, e, rfl, hrefused⟩⟩ := hentry.error hresult
    · exact ⟨hsame, .inl hfired⟩
    · rw [hstore] at hrefused
      exact ⟨hsame, .inr (congrArg _ (Medium.insertAll_eq_error hrefused).2)⟩
  · have hweight := hsteps.weight_le
    have hreceived := hsteps.sound.received_length_le
    omega
  · obtain ⟨all, hall⟩ := (hfresh _).mpr hrecords
    obtain ⟨entry, hcapacity, hreceived, hresult, hentry⟩ :=
      Entry.exists_leads capacity medium records hall
    exact ⟨entry, all, hcapacity, hreceived, by rw [Entry.succeeded, hresult]; rfl, hentry⟩

/-- After a turn that has written a node, a turn with a node of that number fails. -/
theorem atomic_after_node : ∃ (entry : Entry) (medium : Medium),
    History (.tables .empty) [entry] medium ∧ entry.result = .ok ⟨1, 0, 0, 0⟩ ∧
      AtomicAfter [entry] medium ∧ medium.rowCounts = .ok ⟨1, 0, 0, 0⟩ ∧
      ∀ (next : Entry) (medium' : Medium), next.Leads medium medium' →
        sent next.events = [.node ⟨1, ⟨9, by decide⟩⟩] →
          next.succeeded = false ∧ medium' = medium := by
  obtain ⟨entry, -, hreceived, hresult, hentry⟩ :=
    Entry.exists_leads 1 (.tables .empty) [.node ⟨1, ⟨7, by decide⟩⟩] rfl
  have hatomic := atomic_after (.cons hentry (.nil _))
  have hcounts : entry.counts? = some ⟨1, 0, 0, 0⟩ := by
    rw [Entry.counts?, hresult]
    rfl
  have hsucceeded : entry.succeeded = true := by
    rw [Entry.succeeded, hresult]
    rfl
  refine ⟨entry, _, .cons hentry (.nil _), hresult, hatomic, ?_, fun next medium' hnext hsent => ?_⟩
  · rw [hatomic.rowCounts, List.filterMap_cons_some hcounts]
    rfl
  · have hfailed : next.succeeded = false := by
      by_contra hnot
      obtain ⟨-, -, hnew⟩ :=
        ((hatomic.succeeds_iff next medium' hnext).2.mp (Bool.eq_true_of_not_eq_false hnot))
      rw [hsent, kept_cons, if_pos hsucceeded, hreceived] at hnew
      have hold := hnew 1 (by simp [Record.nodeIds, Record.node?])
      exact absurd (by simp [kept, Record.nodeIds, Record.node?]) hold
    refine ⟨hfailed, ?_⟩
    cases hresult : next.result with
    | ok counts =>
        rw [Entry.succeeded, hresult] at hfailed
        cases hfailed
    | error cause => exact (hatomic.error next medium' cause hnext hresult).1

end Build

end RelaySnapshot
