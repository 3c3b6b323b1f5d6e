import RelaySnapshot.Build.Turns
import RelaySnapshot.Proofs.Build.Completion

/-!
# What a turn of a sink maintains

What has been received of a kind and what is in its queue are all that has been sent. A queue that
the sink takes for closed is empty and has lost its senders, so once all are closed the handle
cannot be fired any more.
-/

namespace RelaySnapshot

namespace Session

variable {session : Session}

theorem follow_of_closed (hopen : session.openQueues = []) (signals : List Signal) :
    session.follow signals = .ok session := by
  cases signals with
  | nil => rfl
  | cons signal rest =>
      rw [follow, hopen]
      rfl

theorem follow_cons (hopen : session.openQueues ≠ []) (signal : Signal) (rest : List Signal) :
    session.follow (signal :: rest) = (session.step signal >>= fun next => next.follow rest) := by
  rw [follow, List.isEmpty_eq_false_iff.mpr hopen]
  rfl

theorem follow_append (before after : List Signal) :
    session.follow (before ++ after) =
      (session.follow before >>= fun next => next.follow after) := by
  induction before generalizing session with
  | nil => rfl
  | cons signal before ih =>
      by_cases hopen : session.openQueues = []
      · rw [follow_of_closed hopen, follow_of_closed hopen]
        exact (follow_of_closed hopen after).symm
      · rw [List.cons_append, follow_cons hopen, follow_cons hopen]
        cases session.step signal with
        | error e => rfl
        | ok next => exact ih

theorem follow_snoc {session' : Session} {signals : List Signal}
    (hfollow : session.follow signals = .ok session') (hopen : session'.openQueues ≠ [])
    (signal : Signal) : session.follow (signals ++ [signal]) = session'.step signal := by
  rw [follow_append, hfollow]
  change session'.follow [signal] = _
  rw [follow_cons hopen]
  cases session'.step signal with
  | error e => rfl
  | ok next => rfl

end Session

namespace Build

namespace Event

theorem filterMap_snoc {α : Type} (select : Event → Option α) (events : List Event)
    (event : Event) :
    (events ++ [event]).filterMap select = events.filterMap select ++ (select event).toList := by
  cases h : select event <;> simp [h]

theorem sent_snoc (events : List Event) (event : Event) :
    sent (events ++ [event]) = sent events ++ event.sent?.toList :=
  filterMap_snoc sent? events event

theorem seen_snoc (events : List Event) (event : Event) :
    seen (events ++ [event]) = seen events ++ event.seen?.toList :=
  filterMap_snoc seen? events event

theorem received_append (before after : List Event) :
    received (before ++ after) = received before ++ received after :=
  List.filterMap_append

theorem received_snoc (events : List Event) (event : Event) :
    received (events ++ [event]) = received events ++ event.received?.toList :=
  filterMap_snoc received? events event

end Event

namespace Turn

open Event

/-- No record is lost. -/
def Keeps (events : List Event) (t : Turn) : Prop :=
  ∀ kind : RecordKind,
    kind.among (sent events) = kind.among (received events) ++ t.queues kind

structure Draining (medium : Medium) (events : List Event) (t : Turn) (session : Session) :
    Prop where
  followed : Session.follow { written := medium } (seen events) = .ok session
  wrote : Wrote medium (received events) session.written session.counts
  closed : ∀ kind, kind ∉ session.openQueues → t.queues kind = [] ∧ kind ∉ t.senders
  dropped : session.abandonable = false → t.handle = .dropped

/-- All that has been sent has been written, and nobody can abandon the session any more. -/
structure Complete (medium : Medium) (events : List Event) (t : Turn) (session : Session) :
    Prop where
  followed : Session.follow { written := medium } (seen events) = .ok session
  wrote : Wrote medium (received events) session.written session.counts
  closed : ∀ kind, t.queues kind = [] ∧ kind ∉ t.senders
  unfired : t.handle ≠ .fired

/-- The session has been abandoned, or a record could not be inserted. -/
def Failed (medium : Medium) (events : List Event) (t : Turn) (cause : StoreError) : Prop :=
  t.handle = .fired ∧ cause = .abandoned ∨
    Session.follow { written := medium } (seen events) = .error cause ∧
      ∃ e, cause = .database e ∧ medium.insertAll (received events) = .error e

def SinkSound (medium : Medium) (events : List Event) (t : Turn) : Prop :=
  match t.sink with
  | .beginning => t.store = medium ∧ seen events = [] ∧ received events = []
  | .draining session => t.store = medium ∧ t.Draining medium events session
  | .committing session => t.store = medium ∧ t.Complete medium events session
  | .rollingBack cause => t.store = medium ∧ t.Failed medium events cause
  | .ended (.ok counts) => ∃ session, t.Complete medium events session ∧
      t.store = session.written ∧ counts = session.counts
  | .ended (.error cause) => t.store = medium ∧ t.Failed medium events cause

/-- What every event of a turn maintains. -/
structure Sound (medium : Medium) (events : List Event) (t : Turn) : Prop where
  keeps : t.Keeps events
  fired : .fire ∈ events ↔ t.handle = .fired
  sink : t.SinkSound medium events

@[simp]
theorem queues_setQueue_self (t : Turn) (kind : RecordKind) (records : List Record) :
    (t.setQueue kind records).queues kind = records := if_pos rfl

theorem queues_setQueue_of_ne (t : Turn) {kind other : RecordKind} (hne : other ≠ kind)
    (records : List Record) : (t.setQueue kind records).queues other = t.queues other :=
  if_neg hne

variable {medium : Medium} {capacity : Nat} {events : List Event} {event : Event} {t t' : Turn}
variable {session session' : Session} {record : Record} {rest : List Record}

/-! ### Those who send -/

theorem Step.sink_of_outside (hstep : Step capacity t event t') (hevent : event.ofSink = false) :
    t'.sink = t.sink ∧ t'.store = t.store := by
  cases hstep with
  | send | shut | fire | drop => exact ⟨rfl, rfl⟩
  | _ => cases hevent

theorem Step.log_of_outside (hstep : Step capacity t event t') (hevent : event.ofSink = false)
    (events : List Event) :
    seen (events ++ [event]) = seen events ∧ received (events ++ [event]) = received events := by
  rw [seen_snoc, received_snoc]
  cases hstep with
  | send | shut | fire | drop => exact ⟨List.append_nil _, List.append_nil _⟩
  | _ => cases hevent

/-- Nothing comes into a queue that has no sender. -/
theorem Step.shut_of_outside (hstep : Step capacity t event t') (hevent : event.ofSink = false)
    {kind : RecordKind} (hshut : kind ∉ t.senders) :
    t'.queues kind = t.queues kind ∧ kind ∉ t'.senders := by
  cases hstep with
  | @send record hsender =>
      have hne : kind ≠ record.kind := by
        rintro rfl
        exact hshut hsender
      exact ⟨queues_setQueue_of_ne t hne _, hshut⟩
  | shut => exact ⟨rfl, fun hmem => hshut (List.mem_of_mem_erase hmem)⟩
  | fire | drop => exact ⟨rfl, hshut⟩
  | _ => cases hevent

theorem Step.handle_of_outside (hstep : Step capacity t event t') (hevent : event.ofSink = false) :
    t'.handle = t.handle ∨
      t.handle = .held ∧ (t'.handle = .dropped ∨ t.senders ≠ [] ∨ t.sink.Waits) := by
  cases hstep with
  | send | shut => exact .inl rfl
  | fire hheld hopen => exact .inr ⟨hheld, .inr hopen⟩
  | drop hheld => exact .inr ⟨hheld, .inl rfl⟩
  | _ => cases hevent

theorem Draining.outside (h : t.Draining medium events session)
    (hstep : Step capacity t event t') (hevent : event.ofSink = false) :
    t'.Draining medium (events ++ [event]) session := by
  obtain ⟨hseen, hreceived⟩ := hstep.log_of_outside hevent events
  refine ⟨by rw [hseen, h.followed], by rw [hreceived]; exact h.wrote, fun kind hkind => ?_,
    fun habandonable => ?_⟩
  · obtain ⟨hempty, hshut⟩ := h.closed kind hkind
    rw [← hempty]
    exact hstep.shut_of_outside hevent hshut
  · have hdropped := h.dropped habandonable
    rcases hstep.handle_of_outside hevent with hsame | ⟨hheld, -⟩
    · rw [hsame, hdropped]
    · rw [hdropped] at hheld
      cases hheld

theorem Complete.outside (h : t.Complete medium events session) (hwaits : ¬ t.sink.Waits)
    (hstep : Step capacity t event t') (hevent : event.ofSink = false) :
    t'.Complete medium (events ++ [event]) session := by
  obtain ⟨hseen, hreceived⟩ := hstep.log_of_outside hevent events
  refine ⟨by rw [hseen, h.followed], by rw [hreceived]; exact h.wrote, fun kind => ?_, ?_⟩
  · obtain ⟨hempty, hshut⟩ := h.closed kind
    rw [← hempty]
    exact hstep.shut_of_outside hevent hshut
  · rcases hstep.handle_of_outside hevent with hsame | ⟨-, hdropped | hsenders | hopen⟩
    · rw [hsame]
      exact h.unfired
    · rw [hdropped]
      simp
    · obtain ⟨kind, hkind⟩ := List.exists_mem_of_ne_nil _ hsenders
      exact absurd hkind (h.closed kind).2
    · exact absurd hopen hwaits

theorem Failed.outside {cause : StoreError} (h : t.Failed medium events cause)
    (hstep : Step capacity t event t') (hevent : event.ofSink = false) :
    t'.Failed medium (events ++ [event]) cause := by
  obtain ⟨hseen, hreceived⟩ := hstep.log_of_outside hevent events
  rw [Failed, hseen, hreceived]
  rcases h with ⟨hfired, hcause⟩ | hrefused
  · refine .inl ⟨?_, hcause⟩
    rcases hstep.handle_of_outside hevent with hsame | ⟨hheld, -⟩
    · rw [hsame, hfired]
    · rw [hfired] at hheld
      cases hheld
  · exact .inr hrefused

theorem SinkSound.outside (h : t.SinkSound medium events) (hstep : Step capacity t event t')
    (hevent : event.ofSink = false) : t'.SinkSound medium (events ++ [event]) := by
  obtain ⟨hsink, hstore⟩ := hstep.sink_of_outside hevent
  obtain ⟨hseen, hreceived⟩ := hstep.log_of_outside hevent events
  rw [SinkSound, hsink, hstore]
  rw [SinkSound] at h
  split at h
  · exact ⟨h.1, by rw [hseen, h.2.1], by rw [hreceived, h.2.2]⟩
  · exact ⟨h.1, h.2.outside hstep hevent⟩
  next hcommitting => exact ⟨h.1, h.2.outside (by rw [hcommitting]; exact id) hstep hevent⟩
  · exact ⟨h.1, h.2.outside hstep hevent⟩
  next hended =>
    obtain ⟨session, hcomplete, hwritten⟩ := h
    exact ⟨session, hcomplete.outside (by rw [hended]; exact id) hstep hevent, hwritten⟩
  · exact ⟨h.1, h.2.outside hstep hevent⟩

/-! ### The sink -/

theorem Draining.receive (h : t.Draining medium events session)
    (hopen : record.kind ∈ session.openQueues)
    (hstep : session.step (.record record) = .ok session') :
    ({ t.setQueue record.kind rest with sink := .draining session' } : Turn).Draining medium
      (events ++ [.see (.record record)]) session' := by
  obtain ⟨written, hinsert, rfl⟩ := Session.take_of_mem hopen hstep
  refine ⟨?_, ?_, fun kind hkind => ?_, h.dropped⟩
  · rw [seen_snoc, ← hstep]
    exact Session.follow_snoc h.followed (List.ne_nil_of_mem hopen) _
  · rw [received_snoc]
    exact h.wrote.more hinsert
  · have hne : kind ≠ record.kind := by
      rintro rfl
      exact hkind hopen
    obtain ⟨hempty, hshut⟩ := h.closed kind hkind
    exact ⟨(queues_setQueue_of_ne t hne rest).trans hempty, hshut⟩

theorem Draining.refuse (h : t.Draining medium events session) {cause : StoreError}
    (hopen : record.kind ∈ session.openQueues)
    (hstep : session.step (.record record) = .error cause) :
    Session.follow { written := medium } (seen (events ++ [.see (.record record)])) =
        .error cause ∧
      ∃ e, cause = .database e ∧
        medium.insertAll (received (events ++ [.see (.record record)])) = .error e := by
  constructor
  · rw [seen_snoc, ← hstep]
    exact Session.follow_snoc h.followed (List.ne_nil_of_mem hopen) _
  · rw [Session.step, Session.take, if_pos hopen] at hstep
    cases hinsert : session.written.insert record.kind record.values with
    | ok written =>
        rw [hinsert] at hstep
        cases hstep
    | error e =>
        rw [hinsert] at hstep
        refine ⟨e, (Except.error.inj hstep).symm, ?_⟩
        rw [received_snoc, Medium.insertAll_append, h.wrote.inserted]
        change (session.written.insert record.kind record.values >>=
          fun medium => medium.insertAll []) = _
        rw [hinsert]
        rfl

theorem Draining.close (h : t.Draining medium events session) {queue : RecordKind}
    (hopen : queue ∈ session.openQueues) (hqueue : t.queues queue = [])
    (hshut : queue ∉ t.senders) (hstep : session.step (.close queue) = .ok session') :
    ({ t with sink := .draining session' } : Turn).Draining medium
      (events ++ [.see (.close queue)]) session' := by
  obtain rfl := Except.ok.inj hstep
  refine ⟨?_, ?_, fun kind hkind => ?_, h.dropped⟩
  · rw [seen_snoc, ← hstep]
    exact Session.follow_snoc h.followed (List.ne_nil_of_mem hopen) _
  · rw [received_snoc]
    exact (List.append_nil (received events)).symm ▸ h.wrote
  · by_cases hne : kind = queue
    · subst hne
      exact ⟨hqueue, hshut⟩
    · exact h.closed kind fun hmem => hkind ((List.mem_erase_of_ne hne).mpr hmem)

theorem Draining.release (h : t.Draining medium events session) (hopen : session.openQueues ≠ [])
    (hdropped : t.handle = .dropped) (hstep : session.step .release = .ok session') :
    ({ t with sink := .draining session' } : Turn).Draining medium (events ++ [.see .release])
      session' := by
  obtain rfl := Except.ok.inj hstep
  refine ⟨?_, ?_, h.closed, fun _ => hdropped⟩
  · rw [seen_snoc, ← hstep]
    exact Session.follow_snoc h.followed hopen _
  · rw [received_snoc]
    exact (List.append_nil (received events)).symm ▸ h.wrote

theorem Draining.complete (h : t.Draining medium events session) (hopen : session.openQueues = [])
    (hfinish : session.finish (t.handle = .fired) = .ok session') :
    ({ t with sink := .committing session' } : Turn).Complete medium (events ++ [.finish])
      session' := by
  rw [Session.finish] at hfinish
  split at hfinish
  next => cases hfinish
  next hkept =>
    obtain rfl := Except.ok.inj hfinish
    refine ⟨?_, ?_, fun kind => h.closed kind (by simp [hopen]), fun hfired => hkept ?_⟩
    · rw [seen_snoc]
      exact (List.append_nil (seen events)).symm ▸ h.followed
    · rw [received_snoc]
      exact (List.append_nil (received events)).symm ▸ h.wrote
    · have habandonable : session.abandonable = true := by
        by_contra hreleased
        have hdropped := h.dropped (Bool.eq_false_iff.mpr hreleased)
        rw [hfired] at hdropped
        cases hdropped
      simpa [habandonable] using hfired

theorem Step.sinkSound (hstep : Step capacity t event t') (h : t.SinkSound medium events)
    (hevent : event.ofSink = true) : t'.SinkSound medium (events ++ [event]) := by
  rw [SinkSound] at h
  cases hstep with
  | send | shut | fire | drop => cases hevent
  | begin hsink =>
      rw [hsink] at h
      obtain ⟨hstore, hseen, hreceived⟩ := h
      refine ⟨hstore, ?_, ?_, fun kind hkind => ?_, fun habandonable => ?_⟩
      · rw [seen_snoc, hseen, hstore]
        rfl
      · rw [received_snoc, hreceived, hstore]
        exact .nothing medium
      · cases kind <;> simp at hkind
      · cases habandonable
  | @receive session record rest hsink hopen hqueue =>
      rw [hsink] at h
      obtain ⟨hstore, hdraining⟩ := h
      cases hstep : session.step (.record record) with
      | ok session' => exact ⟨hstore, hdraining.receive hopen hstep⟩
      | error cause => exact ⟨hstore, .inr (hdraining.refuse hopen hstep)⟩
  | close hsink hopen hqueue hshut =>
      rw [hsink] at h
      exact ⟨h.1, h.2.close hopen hqueue hshut rfl⟩
  | abandon hsink hopen habandonable hfired =>
      rw [hsink] at h
      rw [SinkSound, Session.step, if_pos habandonable]
      exact ⟨h.1, .inl ⟨hfired, rfl⟩⟩
  | release hsink hopen habandonable hdropped =>
      rw [hsink] at h
      exact ⟨h.1, h.2.release hopen hdropped rfl⟩
  | @finish session hsink hopen =>
      rw [hsink] at h
      rw [SinkSound]
      cases hfinish : session.finish (t.handle = .fired) with
      | ok session' => exact ⟨h.1, h.2.complete hopen hfinish⟩
      | error cause =>
          rw [Session.finish] at hfinish
          split at hfinish
          next hpending =>
            simp only [Bool.and_eq_true, decide_eq_true_eq] at hpending
            exact ⟨h.1, .inl ⟨hpending.2, (Except.error.inj hfinish).symm⟩⟩
          next => cases hfinish
  | @commit session hsink =>
      rw [hsink] at h
      obtain ⟨-, hcomplete⟩ := h
      refine ⟨session, ⟨?_, ?_, hcomplete.closed, hcomplete.unfired⟩, rfl, rfl⟩
      · rw [seen_snoc]
        exact (List.append_nil (seen events)).symm ▸ hcomplete.followed
      · rw [received_snoc]
        exact (List.append_nil (received events)).symm ▸ hcomplete.wrote
  | @rollback cause hsink =>
      rw [hsink] at h
      refine ⟨h.1, ?_⟩
      change _ ∨ _
      rw [seen_snoc, received_snoc]
      simpa [seen?, received?, Failed] using h.2

/-! ### Runs -/

theorem Step.keeps (hstep : Step capacity t event t') (h : t.Keeps events) :
    t'.Keeps (events ++ [event]) := by
  intro kind
  rw [sent_snoc, received_snoc, RecordKind.among_append, RecordKind.among_append, h kind]
  cases hstep with
  | @send record =>
      by_cases hkind : record.kind = kind
      · subst hkind
        simp [sent?, received?, RecordKind.among]
      · rw [queues_setQueue_of_ne t (Ne.symm hkind)]
        simp [sent?, received?, RecordKind.among, hkind]
  | @receive session record rest hsink hopen hqueue =>
      by_cases hkind : record.kind = kind
      · subst hkind
        simp [sent?, received?, RecordKind.among, hqueue]
      · rw [show ({ t.setQueue record.kind rest with sink := _ } : Turn).queues kind =
          t.queues kind from queues_setQueue_of_ne t (Ne.symm hkind) rest]
        simp [sent?, received?, RecordKind.among, hkind]
  | _ => simp [sent?, received?]

theorem Step.fired (hstep : Step capacity t event t') (h : .fire ∈ events ↔ t.handle = .fired) :
    .fire ∈ events ++ [event] ↔ t'.handle = .fired := by
  rw [List.mem_append, List.mem_singleton, h]
  cases hstep with
  | fire => simp
  | drop hheld => simp [hheld]
  | _ => simp [setQueue]

theorem Step.sound (hstep : Step capacity t event t') (h : t.Sound medium events) :
    t'.Sound medium (events ++ [event]) where
  keeps := hstep.keeps h.keeps
  fired := hstep.fired h.fired
  sink := by
    cases hevent : event.ofSink with
    | false => exact h.sink.outside hstep hevent
    | true => exact hstep.sinkSound h.sink hevent

theorem sound_start (medium : Medium) : (start medium).Sound medium [] where
  keeps _ := rfl
  fired := by simp [start]
  sink := ⟨rfl, rfl, rfl⟩

theorem Steps.sound (hsteps : Steps capacity (.start medium) events t) : t.Sound medium events := by
  generalize hstart : start medium = first at hsteps
  induction hsteps with
  | none =>
      subst hstart
      exact sound_start medium
  | more _ hstep ih =>
      subst hstart
      exact hstep.sound ih

end Turn

end Build

end RelaySnapshot
