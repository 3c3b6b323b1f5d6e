import RelaySnapshot.Proofs.Build.Causes

/-!
# The parties of a build come to an end

Each step uses up something of what is left to do, so no run goes on forever. And as long as the
driver has no result some party can take a step: a full queue is waited for by the sink, and a sink
that waits for a queue waits for a producer or for the driver. That step need not be a failure if
all that is produced can be written.
-/

namespace RelaySnapshot.Build

/-! ### Runs are finite -/

def Task.weight : Task → Nat
  | .running rest => 2 * rest.length + 1
  | .ended _ => 0

def Sink.weight : Sink → Nat
  | .beginning => 8
  | .draining session => session.openQueues.length + (if session.abandonable then 1 else 0) + 2
  | .committing _ | .rollingBack _ => 1
  | .ended _ => 0

def Driver.weight : Driver → Nat
  | .joining => 4
  | .judged _ => 3
  | .signalled _ => 2
  | .waiting _ => 1
  | .ended _ _ => 0

namespace World

def taskWeight (w : World) : Nat :=
  (w.tasks .emitter).weight + (w.tasks .deriver).weight + (w.tasks .enricher).weight

def queueWeight (w : World) : Nat :=
  (w.queues .nodes).length + (w.queues .descriptors).length + (w.queues .families).length +
    (w.queues .addresses).length

/-- How much is left to do. A record has two steps before it until it is sent, and then one. -/
def weight (w : World) : Nat :=
  w.taskWeight + w.queueWeight + w.sink.weight + w.driver.weight

theorem taskWeight_setTask (w : World) (producer : Producer) (task : Task) :
    (w.setTask producer task).taskWeight + (w.tasks producer).weight =
      w.taskWeight + task.weight := by
  cases producer <;> simp [taskWeight, setTask] <;> omega

theorem queueWeight_setQueue (w : World) (kind : RecordKind) (records : List Record) :
    (w.setQueue kind records).queueWeight + (w.queues kind).length =
      w.queueWeight + records.length := by
  cases kind <;> simp [queueWeight, setQueue] <;> omega

end World

open World

variable {production : Production} {medium : Medium} {capacity : Nat} {producer : Producer}
variable {w w' : World}

theorem World.weight_ended_lt {rest : List (Except LookupError Record)}
    (htask : w.tasks producer = .running rest) (result : Except BuildError Unit) :
    (w.setTask producer (.ended result)).weight < w.weight := by
  have htasks := w.taskWeight_setTask producer (.ended result)
  rw [htask, Task.weight, Task.weight] at htasks
  change (w.setTask producer (.ended result)).taskWeight + w.queueWeight + w.sink.weight +
    w.driver.weight < w.taskWeight + w.queueWeight + w.sink.weight + w.driver.weight
  omega

theorem World.weight_sent_lt {record : Record} {rest : List (Except LookupError Record)}
    (htask : w.tasks producer = .running (.ok record :: rest)) :
    ((w.setTask producer (.running rest)).setQueue record.kind
      (w.queues record.kind ++ [record])).weight < w.weight := by
  have htasks := w.taskWeight_setTask producer (.running rest)
  have hqueues := w.queueWeight_setQueue record.kind (w.queues record.kind ++ [record])
  rw [htask, Task.weight, Task.weight, List.length_cons] at htasks
  rw [List.length_append, List.length_singleton] at hqueues
  change (w.setTask producer (.running rest)).taskWeight +
    (w.setQueue record.kind (w.queues record.kind ++ [record])).queueWeight + w.sink.weight +
      w.driver.weight < w.taskWeight + w.queueWeight + w.sink.weight + w.driver.weight
  omega

theorem TaskStep.weight_lt (hstep : TaskStep capacity producer w w') : w'.weight < w.weight := by
  cases hstep with
  | send htask => exact weight_sent_lt htask
  | refused htask => exact weight_ended_lt htask _
  | fail htask => exact weight_ended_lt htask _
  | succeed htask => exact weight_ended_lt htask _

theorem Sink.two_le_weight_draining (session : Session) : 2 ≤ (Sink.draining session).weight := by
  simp [weight]

/-- A session that takes a record waits for as much as before. -/
theorem Sink.weight_after_record (session : Session) (record : Record) :
    (Sink.after (session.step (.record record))).weight ≤ (Sink.draining session).weight := by
  rw [Session.step, Session.take]
  split
  · cases session.written.insert record.kind record.values with
    | ok written => exact le_rfl
    | error e => exact (Sink.two_le_weight_draining session).trans' one_le_two
  · exact le_rfl

theorem World.weight_setSink_lt {sink : Sink} (hlt : sink.weight < w.sink.weight) :
    ({ w with sink } : World).weight < w.weight := by
  change w.taskWeight + w.queueWeight + sink.weight + w.driver.weight <
    w.taskWeight + w.queueWeight + w.sink.weight + w.driver.weight
  omega

theorem World.weight_receive_lt {kind : RecordKind} {record : Record} {rest : List Record}
    {sink : Sink} (hqueue : w.queues kind = record :: rest) (hle : sink.weight ≤ w.sink.weight) :
    ({ w.setQueue kind rest with sink } : World).weight < w.weight := by
  have hqueues := w.queueWeight_setQueue kind rest
  rw [hqueue, List.length_cons] at hqueues
  change w.taskWeight + (w.setQueue kind rest).queueWeight + sink.weight + w.driver.weight <
    w.taskWeight + w.queueWeight + w.sink.weight + w.driver.weight
  omega

theorem SinkStep.weight_lt (hstep : SinkStep w w') : w'.weight < w.weight := by
  cases hstep with
  | begin hsink =>
      refine weight_setSink_lt ?_
      rw [hsink]
      simp [Sink.weight]
  | beginFails hsink cause =>
      refine weight_setSink_lt ?_
      rw [hsink]
      simp [Sink.weight]
  | @receive session kind record rest hsink hopen hqueue =>
      refine weight_receive_lt hqueue ?_
      rw [hsink]
      exact Sink.weight_after_record session record
  | @insertFails session kind record rest hsink hopen hqueue cause =>
      refine weight_receive_lt hqueue ?_
      rw [hsink]
      exact (Sink.two_le_weight_draining session).trans' one_le_two
  | @close session kind hsink hopen hqueue hclosed =>
      refine weight_setSink_lt ?_
      have hlength := List.length_erase_of_mem hopen
      have hpos := List.length_pos_of_mem hopen
      rw [hsink]
      simp only [Session.step, Sink.after, Sink.weight]
      omega
  | @abandon session hsink hopen habandonable hfired =>
      refine weight_setSink_lt ?_
      rw [hsink, Session.step, if_pos habandonable]
      exact Sink.two_le_weight_draining session
  | @release session hsink hopen habandonable hdropped =>
      refine weight_setSink_lt ?_
      rw [hsink]
      simp [Session.step, Sink.after, Sink.weight, habandonable]
  | @finish session hsink hopen =>
      refine weight_setSink_lt ?_
      rw [hsink]
      refine lt_of_lt_of_le ?_ (Sink.two_le_weight_draining session)
      cases session.finish (w.handle = .fired) <;> exact one_lt_two
  | commit hsink =>
      change w.taskWeight + w.queueWeight + 0 + w.driver.weight < w.taskWeight + w.queueWeight +
        w.sink.weight + w.driver.weight
      rw [hsink, Sink.weight]
      omega
  | rollback hsink =>
      refine weight_setSink_lt ?_
      rw [hsink]
      exact one_pos

theorem DriverStep.weight_lt (hstep : DriverStep w w') : w'.weight < w.weight := by
  obtain ⟨htasks, hqueues, hsink, -⟩ := hstep.unchanged
  have hdriver : w'.driver.weight < w.driver.weight := by
    cases hstep with
    | _ hdriver =>
        rw [hdriver]
        simp [Driver.weight]
  rw [World.weight, World.weight, taskWeight, taskWeight, queueWeight, queueWeight, htasks, hqueues,
    hsink]
  omega

theorem Step.weight_lt (hstep : Step capacity w w') : w'.weight < w.weight := by
  cases hstep with
  | task producer hstep => exact hstep.weight_lt
  | sink hstep => exact hstep.weight_lt
  | driver hstep => exact hstep.weight_lt

theorem Steps.length_le {n : Nat} (hsteps : Steps capacity n w w') : n + w'.weight ≤ w.weight := by
  induction hsteps with
  | none => simp
  | more _ hstep ih =>
      have hlt := hstep.weight_lt
      omega

/-! ### Somebody can go on -/

/-- A producer that runs can take a step, or the sink has a record before it. -/
theorem exists_taskStep (capacity : Nat) {rest : List (Except LookupError Record)}
    (htask : w.tasks producer = .running rest) :
    (∃ w', TaskStep capacity producer w w') ∨
      (∀ result, w.sink ≠ .ended result) ∧ ∃ kind, w.queues kind ≠ [] := by
  cases rest with
  | nil => exact .inl ⟨_, .succeed htask⟩
  | cons next rest =>
      cases next with
      | error cause => exact .inl ⟨_, .fail htask⟩
      | ok record =>
          by_cases hgone : ∃ result, w.sink = .ended result
          · obtain ⟨result, hgone⟩ := hgone
            exact .inl ⟨_, .refused htask hgone⟩
          have hreceived (result : Except StoreError RowCounts) : w.sink ≠ .ended result :=
            fun hended => hgone ⟨result, hended⟩
          by_cases hroom : (w.queues record.kind).length < max 1 capacity
          · exact .inl ⟨_, .send htask hreceived hroom⟩
          · refine .inr ⟨hreceived, record.kind, fun hempty => hroom ?_⟩
            rw [hempty]
            simp

/-- No lookup has failed, and a store takes all that is produced. -/
def Production.Fits (production : Production) (medium : Medium) : Prop :=
  production.failure = none ∧ ∃ written, medium.insertAll production.records = .ok written

/-- The sink does not fail between two states unless it has a reason. -/
def World.Harmless (production : Production) (medium : Medium) (w w' : World) : Prop :=
  production.Fits medium → ¬ w.sink.Failed → ¬ w'.sink.Failed

theorem Sink.not_failed_draining (session : Session) : ¬ (Sink.draining session).Failed := by
  rintro (⟨cause, h⟩ | ⟨cause, h⟩) <;> cases h

theorem harmless_of_sink_eq (hsink : w'.sink = w.sink) : w.Harmless production medium w' := by
  intro _ hnot
  rwa [hsink]

namespace World.Sound

variable {session : Session}

theorem draining (h : w.Sound production medium) (hsink : w.sink = .draining session) :
    w.Draining production medium session := by
  have hsound := h.sink
  rw [SinkSound, hsink] at hsound
  exact hsound.2

theorem not_failed_receive (h : w.Sound production medium) (hsink : w.sink = .draining session)
    {kind : RecordKind} {record : Record} {rest : List Record}
    (hopen : kind ∈ session.openQueues) (hqueue : w.queues kind = record :: rest)
    (hfits : production.Fits medium) :
    ¬ (Sink.after (session.step (.record record))).Failed := by
  obtain ⟨-, all, hall⟩ := hfits
  have hdraining := h.draining hsink
  obtain ⟨inserted, -, hkeeps⟩ := hdraining.wrote
  have hkind := SinkStep.kind_of_queue hkeeps hqueue
  obtain ⟨written, hinsert⟩ := SinkStep.exists_insert hdraining hall hqueue
  rw [Session.step, Session.take, hkind, if_pos hopen, ← hkind, hinsert]
  exact Sink.not_failed_draining _

theorem not_failed_finish (h : w.Sound production medium) (hcaused : w.Caused production)
    (hsink : w.sink = .draining session) (hfits : production.Fits medium) :
    ¬ (Sink.drained (session.finish (w.handle = .fired))).Failed := by
  have hended (result : Except StoreError RowCounts) : w.sink ≠ .ended result := by
    rw [hsink]
    simp
  have hfired := h.not_fired hcaused hfits.1 hended
  rw [Session.finish, if_neg (by simp [hfired])]
  rintro (⟨cause, h⟩ | ⟨cause, h⟩) <;> cases h

/-- A sink that has not ended can take a step, or it waits for a queue that others hold open. -/
theorem exists_sinkStep (h : w.Sound production medium) (hcaused : w.Caused production)
    (hended : ∀ result, w.sink ≠ .ended result) :
    (∃ w', SinkStep w w' ∧ w.Harmless production medium w') ∨
      ∃ session, w.sink = .draining session ∧ session.openQueues ≠ [] ∧
        ∀ kind ∈ session.openQueues, w.queues kind = [] ∧ ¬ w.Closed kind := by
  cases hsink : w.sink with
  | beginning => exact .inl ⟨_, .begin hsink, fun _ _ => Sink.not_failed_draining _⟩
  | draining session =>
      by_cases hopen : session.openQueues = []
      · exact .inl ⟨_, .finish hsink hopen, fun hfits _ => h.not_failed_finish hcaused hsink hfits⟩
      by_cases hwaits : ∀ kind ∈ session.openQueues, w.queues kind = [] ∧ ¬ w.Closed kind
      · exact .inr ⟨session, rfl, hopen, hwaits⟩
      · push Not at hwaits
        obtain ⟨kind, hkind, hready⟩ := hwaits
        cases hqueue : w.queues kind with
        | nil =>
            exact .inl ⟨_, .close hsink hkind hqueue (hready hqueue),
              fun _ _ => Sink.not_failed_draining _⟩
        | cons record rest =>
            exact .inl ⟨_, .receive hsink hkind hqueue,
              fun hfits _ => h.not_failed_receive hsink hkind hqueue hfits⟩
  | committing session =>
      refine .inl ⟨_, .commit hsink, fun _ _ => ?_⟩
      rintro (⟨cause, h⟩ | ⟨cause, h⟩) <;> cases h
  | rollingBack cause =>
      exact .inl ⟨_, .rollback hsink, fun _ hnot => absurd (.inl ⟨cause, hsink⟩) hnot⟩
  | ended result => exact absurd hsink (hended result)

theorem exists_step_of_running (h : w.Sound production medium) (hcaused : w.Caused production)
    {rest : List (Except LookupError Record)} (htask : w.tasks producer = .running rest) :
    ∃ w', Step capacity w w' ∧ w.Harmless production medium w' := by
  rcases exists_taskStep capacity htask with ⟨w', hstep⟩ | ⟨hended, kind, hqueue⟩
  · exact ⟨w', .task producer hstep, harmless_of_sink_eq hstep.unchanged.1⟩
  rcases h.exists_sinkStep hcaused hended with ⟨w', hstep, hharmless⟩ | ⟨session, hsink, -, hwaits⟩
  · exact ⟨w', .sink hstep, hharmless⟩
  by_cases hkind : kind ∈ session.openQueues
  · exact absurd (hwaits kind hkind).1 hqueue
  · exact absurd ((h.draining hsink).closed kind hkind).1 hqueue

/-- As long as the driver has no result, some party can take a step. -/
theorem exists_step (h : w.Sound production medium) (hcaused : w.Caused production)
    (hresult : w.result? = none) :
    ∃ w', Step capacity w w' ∧ w.Harmless production medium w' := by
  by_cases hrunning : ∃ producer rest, w.tasks producer = .running rest
  · obtain ⟨producer, rest, htask⟩ := hrunning
    exact h.exists_step_of_running hcaused htask
  have hended (producer : Producer) : ∃ result, w.tasks producer = .ended result := by
    cases htask : w.tasks producer with
    | running rest => exact absurd ⟨producer, rest, htask⟩ hrunning
    | ended result => exact ⟨result, rfl⟩
  have hdrives {w' : World} (hstep : DriverStep w w') :
      ∃ w', Step capacity w w' ∧ w.Harmless production medium w' :=
    ⟨w', .driver hstep, harmless_of_sink_eq hstep.unchanged.2.2.1⟩
  cases hdriver : w.driver with
  | joining =>
      by_cases hfailed : ∃ producer cause, w.tasks producer = .ended (.error cause)
      · obtain ⟨producer, cause, hcause⟩ := hfailed
        exact hdrives (.joinFailed hdriver hcause)
      · refine hdrives (.joined hdriver fun producer => ?_)
        obtain ⟨result, hresult⟩ := hended producer
        cases result with
        | ok => exact hresult
        | error cause => exact absurd ⟨producer, cause, hresult⟩ hfailed
  | judged failure => exact hdrives (.signal hdriver)
  | signalled failure => exact hdrives (.release hdriver)
  | waiting failure =>
      by_cases hsunk : ∃ written, w.sink = .ended written
      · obtain ⟨written, hsink⟩ := hsunk
        exact hdrives (.await hdriver hsink)
      rcases h.exists_sinkStep hcaused (not_exists.mp hsunk) with
        ⟨w', hstep, hharmless⟩ | ⟨session, -, hopen, hwaits⟩
      · exact ⟨w', .sink hstep, hharmless⟩
      -- All producers have ended and the guard is gone, so no queue is held open.
      · obtain ⟨kind, hkind⟩ := List.exists_mem_of_ne_nil _ hopen
        refine absurd ⟨hended _, fun _ => ?_⟩ (hwaits kind hkind).2
        rw [hdriver]
        rfl
  | ended failure written =>
      rw [result?, hdriver] at hresult
      cases hresult

end World.Sound

/-- If all that is produced can be written, there is a way to a result without a failure. -/
theorem Reachable.exists_result (hfits : production.Fits medium)
    (hreachable : Reachable capacity production medium w) (hnot : ¬ w.sink.Failed) :
    ∃ w', Reachable capacity production medium w' ∧ ¬ w'.sink.Failed ∧
      ∃ result, w'.result? = some result := by
  induction hweight : w.weight using Nat.strong_induction_on generalizing w with
  | _ weight ih =>
      cases hresult : w.result? with
      | some result => exact ⟨w, hreachable, hnot, result, hresult⟩
      | none =>
          have hstep : ∃ w', Step capacity w w' ∧ w.Harmless production medium w' :=
            hreachable.sound.exists_step hreachable.caused hresult
          obtain ⟨w', hstep, hharmless⟩ := hstep
          exact ih w'.weight (hweight ▸ hstep.weight_lt) (hreachable.step hstep)
            (hharmless hfits hnot) rfl

end RelaySnapshot.Build
