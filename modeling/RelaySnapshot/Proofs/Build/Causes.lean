import RelaySnapshot.Proofs.Build.Soundness

/-!
# Why a build fails

In the end it is a lookup or the database that has failed. A producer that meets a closed queue and
a sink that is abandoned only pass on the failure of another party.
-/

namespace RelaySnapshot.Build

namespace World

/-- Each failure goes back to a lookup or to the database. -/
structure Caused (production : Production) (w : World) : Prop where
  task : ∀ producer cause, w.tasks producer = .ended (.error cause) →
    (∃ e, production.failure = some e ∧ cause = .enrichment e) ∨
      ∃ kind result, cause = .queueClosed kind ∧ w.sink = .ended result
  sink : ∀ cause, w.sink = .rollingBack cause ∨ w.sink = .ended (.error cause) →
    (∃ e, cause = .database e) ∨
      cause = .abandoned ∧ ∃ e, w.driver.failure? = some (some (.enrichment e))

end World

/-- The sink has failed, whether or not it has ended. -/
def Sink.Failed (sink : Sink) : Prop :=
  (∃ cause, sink = .rollingBack cause) ∨ ∃ cause, sink = .ended (.error cause)

def World.Failed (w : World) : Prop :=
  (∃ producer cause, w.tasks producer = .ended (.error cause)) ∨ w.sink.Failed

open World

variable {production : Production} {medium : Medium} {capacity : Nat} {producer : Producer}
variable {w w' : World}

theorem TaskStep.caused (hstep : TaskStep capacity producer w w')
    (hfollows : (w.tasks producer).Follows (production.plan producer)) (h : w.Caused production) :
    w'.Caused production := by
  obtain ⟨hsink, -, -, hdriver⟩ := hstep.unchanged
  refine ⟨fun other cause hended => ?_, by rw [hsink, hdriver]; exact h.sink⟩
  rw [hsink]
  by_cases hne : other = producer
  · subst hne
    cases hstep with
    | send htask =>
        rw [tasks_setQueue, tasks_setTask_self] at hended
        cases hended
    | @refused record rest result htask hgone =>
        rw [tasks_setTask_self] at hended
        cases hended
        exact .inr ⟨record.kind, result, rfl, hgone⟩
    | @fail e rest htask =>
        rw [tasks_setTask_self] at hended
        cases hended
        rw [htask] at hfollows
        obtain ⟨sent, hsent⟩ := hfollows
        have hmem : .error e ∈ production.plan other := by
          rw [hsent]
          simp
        exact .inl ⟨e, Production.failure_of_mem_plan hmem, rfl⟩
    | succeed htask =>
        rw [tasks_setTask_self] at hended
        cases hended
  · rw [hstep.tasks_of_ne hne] at hended
    exact h.task other cause hended

theorem Driver.exists_failure_of_fired {driver : Driver} (hfired : driver.handle = .fired) :
    ∃ cause, driver.failure? = some (some cause) := by
  have hused (failure : Option BuildError) (hfired : Handle.used failure = .fired) :
      ∃ cause, failure = some cause := by
    cases failure with
    | none => cases hfired
    | some cause => exact ⟨cause, rfl⟩
  cases driver with
  | joining | judged => cases hfired
  | signalled failure | waiting failure | ended failure =>
      obtain ⟨cause, rfl⟩ := hused failure hfired
      exact ⟨cause, rfl⟩

/-- While the sink goes on, it can be abandoned only for a failed lookup. -/
theorem World.Caused.of_fired (h : w.Caused production) (hsound : w.Sound production medium)
    (hended : ∀ result, w.sink ≠ .ended result) (hfired : w.handle = .fired) :
    ∃ e, w.driver.failure? = some (some (.enrichment e)) := by
  rw [hsound.handle] at hfired
  obtain ⟨cause, hfailure⟩ := Driver.exists_failure_of_fired hfired
  obtain ⟨producer, htask⟩ := hsound.judged _ hfailure
  rcases h.task producer cause htask with ⟨e, -, rfl⟩ | ⟨_, result, -, hsink⟩
  · exact ⟨e, hfailure⟩
  · exact absurd hsink (hended result)

theorem database_of_step_record {session : Session} {record : Record} {cause : StoreError}
    (h : session.step (.record record) = .error cause) : ∃ e, cause = .database e := by
  rw [Session.step, Session.take] at h
  split at h
  · split at h
    · cases h
    next e _ => exact ⟨e, (Except.error.inj h).symm⟩
  · cases h

theorem SinkStep.caused (hstep : SinkStep w w') (hsound : w.Sound production medium)
    (h : w.Caused production) : w'.Caused production := by
  obtain ⟨htasks, -, hdriver⟩ := hstep.unchanged
  have hended := hstep.not_ended
  refine ⟨fun producer cause htask => ?_, fun cause hsink' => ?_⟩
  · rw [htasks] at htask
    rcases h.task producer cause htask with hlookup | ⟨_, result, -, hsink⟩
    · exact .inl hlookup
    · exact absurd hsink (hended result)
  · rw [hdriver]
    cases hstep with
    | begin => simp at hsink'
    | beginFails hsink e =>
        obtain rfl : StoreError.database e = cause := by simpa using hsink'
        exact .inl ⟨e, rfl⟩
    | @receive session kind record rest hsink hopen hqueue =>
        cases hstep : session.step (.record record) with
        | ok session' => simp [hstep, Sink.after] at hsink'
        | error e =>
            obtain rfl : e = cause := by simpa [hstep, Sink.after] using hsink'
            exact .inl (database_of_step_record hstep)
    | insertFails hsink hopen hqueue e =>
        obtain rfl : StoreError.database e = cause := by simpa using hsink'
        exact .inl ⟨e, rfl⟩
    | close => simp [Session.step, Sink.after] at hsink'
    | abandon hsink hopen habandonable hfired =>
        obtain rfl : StoreError.abandoned = cause := by
          simpa [Session.step, habandonable, Sink.after] using hsink'
        exact .inr ⟨rfl, h.of_fired hsound hended hfired⟩
    | release => simp [Session.step, Sink.after] at hsink'
    | @finish session hsink hopen =>
        cases hfinish : session.finish (w.handle = .fired) with
        | ok session' => simp [hfinish, Sink.drained] at hsink'
        | error e =>
            obtain rfl : e = cause := by simpa [hfinish, Sink.drained] using hsink'
            rw [Session.finish] at hfinish
            split at hfinish
            next hpending =>
              have hfired : w.handle = .fired := by simp at hpending; exact hpending.2
              exact .inr ⟨(Except.error.inj hfinish).symm, h.of_fired hsound hended hfired⟩
            next => cases hfinish
    | commit => simp at hsink'
    | rollback hsink =>
        obtain rfl : _ = cause := by simpa using hsink'
        exact h.sink _ (.inl hsink)

/-- The driver does not change its mind. -/
theorem DriverStep.failure?_eq (hstep : DriverStep w w') {failure : Option BuildError}
    (h : w.driver.failure? = some failure) : w'.driver.failure? = some failure := by
  cases hstep with
  | joined hdriver | joinFailed hdriver =>
      rw [hdriver] at h
      cases h
  | signal hdriver | release hdriver | await hdriver =>
      rw [hdriver] at h
      exact h

theorem DriverStep.caused (hstep : DriverStep w w') (h : w.Caused production) :
    w'.Caused production := by
  obtain ⟨htasks, -, hsink, -⟩ := hstep.unchanged
  refine ⟨by rw [htasks, hsink]; exact h.task, fun cause hsink' => ?_⟩
  rw [hsink] at hsink'
  rcases h.sink cause hsink' with hdatabase | ⟨habandoned, e, hfailure⟩
  · exact .inl hdatabase
  · exact .inr ⟨habandoned, e, hstep.failure?_eq hfailure⟩

theorem Step.caused (hstep : Step capacity w w') (hsound : w.Sound production medium)
    (h : w.Caused production) : w'.Caused production := by
  cases hstep with
  | task producer hstep => exact hstep.caused (hsound.follows producer) h
  | sink hstep => exact hstep.caused hsound h
  | driver hstep => exact hstep.caused h

theorem caused_start (production : Production) (medium : Medium) :
    (start production medium).Caused production where
  task _ _ htask := by cases htask
  sink cause hsink := by
    rcases hsink with hsink | hsink
    · cases hsink
    · cases hsink

theorem Steps.caused {n : Nat} (hsteps : Steps capacity n w w')
    (hsound : w.Sound production medium) (h : w.Caused production) : w'.Caused production := by
  induction hsteps with
  | none => exact h
  | more hsteps hstep ih => exact hstep.caused (hsteps.sound hsound) (ih hsound h)

theorem Reachable.caused (h : Reachable capacity production medium w) : w.Caused production := by
  obtain ⟨n, hsteps⟩ := h
  exact hsteps.caused (sound_start production medium) (caused_start production medium)

/-! ### Builds without a failed lookup -/

/-- If no lookup has failed, nobody abandons the session. -/
theorem World.Sound.not_fired (hsound : w.Sound production medium) (hcaused : w.Caused production)
    (hlookup : production.failure = none) (hended : ∀ result, w.sink ≠ .ended result) :
    w.handle ≠ .fired := by
  intro hfired
  obtain ⟨e, hfailure⟩ := hcaused.of_fired hsound hended hfired
  obtain ⟨producer, htask⟩ := hsound.judged _ hfailure
  rcases hcaused.task producer _ htask with ⟨e', hfailed, -⟩ | ⟨_, _, hcause, -⟩
  · rw [hlookup] at hfailed
    cases hfailed
  · cases hcause

end RelaySnapshot.Build
