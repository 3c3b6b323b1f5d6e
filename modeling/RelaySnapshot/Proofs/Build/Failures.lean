import RelaySnapshot.Proofs.Build.Outcome
import RelaySnapshot.Proofs.Enrichment.Records
import RelaySnapshot.Proofs.Reconciliation.Timelines

/-!
# A failure is reported as itself

A statement of the sink can fail, and so can a lookup. The other parties meet such a failure as a
closed queue or as an abandoned session, but if it is the only one it is what the build reports.
-/

namespace RelaySnapshot.Build

/-- What fails of itself, and not for another party. -/
inductive Failure where
  | statement (cause : DatabaseError)
  | lookup (cause : LookupError)

def Failure.report : Failure → BuildError
  | .statement cause => .persistence (.database cause)
  | .lookup cause => .enrichment cause

/-- The steps in which something fails of itself. -/
inductive Fails : World → World → Failure → Prop
  | begin {w : World} {cause : DatabaseError} (hsink : w.sink = .beginning) :
      Fails w { w with sink := .ended (.error (.database cause)) } (.statement cause)
  | insert {w : World} {session : Session} {kind : RecordKind} {record : Record}
      {rest : List Record} {cause : DatabaseError} (hsink : w.sink = .draining session)
      (hqueue : w.queues kind = record :: rest) :
      Fails w { w.setQueue kind rest with sink := .rollingBack (.database cause) }
        (.statement cause)
  | lookup {w : World} {producer : Producer} {cause : LookupError}
      {rest : List (Except LookupError Record)}
      (htask : w.tasks producer = .running (.error cause :: rest)) :
      Fails w (w.setTask producer (.ended (.error (.enrichment cause)))) (.lookup cause)

/-- Steps one after the other, with what fails of itself in them. -/
inductive Run (capacity : Nat) : World → List Failure → World → Prop
  | none (w : World) : Run capacity w [] w
  | goesOn {w w' w'' : World} {failures : List Failure} (hrun : Run capacity w failures w')
      (hstep : Step capacity w' w'') (hsound : ∀ failure, ¬ Fails w' w'' failure) :
      Run capacity w failures w''
  | fails {w w' w'' : World} {failures : List Failure} {failure : Failure}
      (hrun : Run capacity w failures w') (hstep : Step capacity w' w'')
      (hfails : Fails w' w'' failure) : Run capacity w (failures ++ [failure]) w''

/-- A failure has left its trace in the party that it has ended. -/
def World.HasFailed (w : World) : Failure → Prop
  | .statement cause =>
      w.sink = .rollingBack (.database cause) ∨ w.sink = .ended (.error (.database cause))
  | .lookup cause => ∃ producer, w.tasks producer = .ended (.error (.enrichment cause))

open World

variable {production : Production} {medium : Medium} {capacity : Nat} {producer : Producer}
variable {w w' : World} {failure : Failure}

/-! ### Traces of failures -/

theorem hasFailed_congr (htasks : w'.tasks = w.tasks) (hsink : w'.sink = w.sink)
    (failure : Failure) : w'.HasFailed failure ↔ w.HasFailed failure := by
  cases failure with
  | statement cause => rw [HasFailed, hsink, HasFailed]
  | lookup cause => rw [HasFailed, htasks, HasFailed]

theorem Fails.hasFailed (h : Fails w w' failure) : w'.HasFailed failure := by
  cases h with
  | begin => exact .inr rfl
  | insert => exact .inl rfl
  | @lookup producer => exact ⟨producer, tasks_setTask_self w producer _⟩

theorem Fails.of_statement {cause : DatabaseError} (h : Fails w w' (.statement cause)) :
    w.sink = .beginning ∧ w'.sink = .ended (.error (.database cause)) ∨
      (∃ session, w.sink = .draining session) ∧ w'.sink = .rollingBack (.database cause) := by
  cases h with
  | begin hsink => exact .inl ⟨hsink, rfl⟩
  | insert hsink => exact .inr ⟨⟨_, hsink⟩, rfl⟩

theorem Fails.of_lookup {cause : LookupError} (h : Fails w w' (.lookup cause)) :
    ∃ producer rest, w.tasks producer = .running (.error cause :: rest) ∧
      w' = w.setTask producer (.ended (.error (.enrichment cause))) := by
  cases h with
  | lookup htask => exact ⟨_, _, htask, rfl⟩

/-- In one step no more than one thing fails. -/
theorem Fails.eq {other : Failure} (h : Fails w w' failure) (hother : Fails w w' other) :
    failure = other := by
  have hapart {cause : DatabaseError} {e : LookupError} (hstatement : Fails w w' (.statement cause))
      (hlookup : Fails w w' (.lookup e)) : False := by
    obtain ⟨producer, rest, -, rfl⟩ := hlookup.of_lookup
    rcases hstatement.of_statement with ⟨hsink, hsink'⟩ | ⟨⟨session, hsink⟩, hsink'⟩
    · cases hsink.symm.trans hsink'
    · cases hsink.symm.trans hsink'
  cases failure with
  | statement cause =>
      cases other with
      | statement cause' =>
          rcases h.of_statement with ⟨hsink, hsink'⟩ | ⟨⟨session, hsink⟩, hsink'⟩ <;>
            rcases hother.of_statement with ⟨hother, hother'⟩ | ⟨⟨session', hother⟩, hother'⟩ <;>
            cases hsink.symm.trans hother <;> cases hsink'.symm.trans hother' <;> rfl
      | lookup e => exact (hapart h hother).elim
  | lookup e =>
      cases other with
      | statement cause => exact (hapart hother h).elim
      | lookup e' =>
          obtain ⟨producer, rest, htask, rfl⟩ := h.of_lookup
          obtain ⟨producer', rest', htask', heq⟩ := hother.of_lookup
          -- Only the task of the first producer has changed, so it is that of the second as well.
          have hended := congrArg (fun w => w.tasks producer') heq
          rw [tasks_setTask_self] at hended
          by_cases hsame : producer' = producer
          · subst hsame
            rw [tasks_setTask_self] at hended
            cases hended
            rfl
          · rw [tasks_setTask_of_ne w hsame, htask'] at hended
            cases hended

theorem TaskStep.hasFailed_iff (hstep : TaskStep capacity producer w w') :
    w'.HasFailed failure ↔ w.HasFailed failure ∨ Fails w w' failure := by
  constructor
  · intro h
    cases failure with
    | statement cause =>
        rw [HasFailed, hstep.unchanged.1] at h
        exact .inl h
    | lookup cause =>
        obtain ⟨other, hended⟩ := h
        by_cases hne : other = producer
        · subst hne
          cases hstep with
          | send htask =>
              rw [tasks_setQueue, tasks_setTask_self] at hended
              cases hended
          | refused htask hgone =>
              rw [tasks_setTask_self] at hended
              cases hended
          | fail htask =>
              rw [tasks_setTask_self] at hended
              cases hended
              exact .inr (.lookup htask)
          | succeed htask =>
              rw [tasks_setTask_self] at hended
              cases hended
        · rw [hstep.tasks_of_ne hne] at hended
          exact .inl ⟨other, hended⟩
  · rintro (h | h)
    · cases failure with
      | statement cause =>
          rw [HasFailed, hstep.unchanged.1]
          exact h
      | lookup cause =>
          obtain ⟨other, hended⟩ := h
          exact ⟨other, hstep.ended hended⟩
    · exact h.hasFailed

theorem SinkStep.fails_of_statement (hstep : SinkStep w w') {cause : DatabaseError}
    (h : w'.HasFailed (.statement cause)) :
    w.HasFailed (.statement cause) ∨ Fails w w' (.statement cause) := by
  cases hstep with
  | begin => simp [HasFailed] at h
  | beginFails hsink e =>
      obtain rfl : e = cause := by simpa [HasFailed] using h
      exact .inr (.begin hsink)
  | @receive session kind record rest hsink hopen hqueue =>
      cases hinsert : session.step (.record record) with
      | ok session' => simp [HasFailed, hinsert, Sink.after] at h
      | error e =>
          obtain rfl : e = .database cause := by simpa [HasFailed, hinsert, Sink.after] using h
          exact .inr (.insert hsink hqueue)
  | insertFails hsink hopen hqueue e =>
      obtain rfl : e = cause := by simpa [HasFailed] using h
      exact .inr (.insert hsink hqueue)
  | close => simp [HasFailed, Session.step, Sink.after] at h
  | abandon hsink hopen habandonable hfired =>
      simp [HasFailed, Session.step, Sink.after, habandonable] at h
  | release => simp [HasFailed, Session.step, Sink.after] at h
  | @finish session hsink hopen =>
      rw [HasFailed, Session.finish] at h
      split at h <;> simp [Sink.drained] at h
  | commit => simp [HasFailed] at h
  | rollback hsink =>
      obtain rfl : _ = StoreError.database cause := by simpa [HasFailed] using h
      exact .inl (.inl hsink)

theorem SinkStep.hasFailed_iff (hstep : SinkStep w w') :
    w'.HasFailed failure ↔ w.HasFailed failure ∨ Fails w w' failure := by
  obtain ⟨htasks, -⟩ := hstep.unchanged
  constructor
  · intro h
    cases failure with
    | statement cause => exact hstep.fails_of_statement h
    | lookup cause =>
        rw [HasFailed, htasks] at h
        exact .inl h
  · rintro (h | h)
    · cases failure with
      | statement cause =>
          rcases h with hsink | hsink
          · cases hstep with
            | rollback hsink' =>
                cases hsink.symm.trans hsink'
                exact .inr rfl
            | _ hsink' => simp [hsink] at hsink'
          · exact absurd hsink (hstep.not_ended _)
      | lookup cause =>
          rw [HasFailed, htasks]
          exact h
    · exact h.hasFailed

theorem DriverStep.hasFailed_iff (hstep : DriverStep w w') :
    w'.HasFailed failure ↔ w.HasFailed failure ∨ Fails w w' failure := by
  obtain ⟨htasks, -, hsink, -⟩ := hstep.unchanged
  have hsame := hasFailed_congr htasks hsink failure
  exact ⟨fun h => .inl (hsame.mp h), fun h => h.elim hsame.mpr Fails.hasFailed⟩

/-- A step leaves the traces of what fails in it, and none is lost. -/
theorem Step.hasFailed_iff (hstep : Step capacity w w') :
    w'.HasFailed failure ↔ w.HasFailed failure ∨ Fails w w' failure := by
  cases hstep with
  | task producer hstep => exact hstep.hasFailed_iff
  | sink hstep => exact hstep.hasFailed_iff
  | driver hstep => exact hstep.hasFailed_iff

/-! ### Runs with what fails in them -/

namespace Run

variable {failures : List Failure}

theorem steps (hrun : Run capacity w failures w') : ∃ n, Steps capacity n w w' := by
  induction hrun with
  | none => exact ⟨0, .none _⟩
  | goesOn _ hstep _ ih | fails _ hstep _ ih =>
      obtain ⟨n, hsteps⟩ := ih
      exact ⟨n + 1, .more hsteps hstep⟩

theorem reachable (hrun : Run capacity (start production medium) failures w) :
    Reachable capacity production medium w := hrun.steps

theorem exists_step {w'' : World} (hrun : Run capacity w failures w')
    (hstep : Step capacity w' w'') : ∃ failures, Run capacity w failures w'' := by
  by_cases hfails : ∃ failure, Fails w' w'' failure
  · obtain ⟨failure, hfails⟩ := hfails
    exact ⟨_, .fails hrun hstep hfails⟩
  · exact ⟨_, .goesOn hrun hstep (not_exists.mp hfails)⟩

/-- What has left a trace is what had done so before, and what fails on the way. -/
theorem hasFailed_iff (hrun : Run capacity w failures w') :
    w'.HasFailed failure ↔ w.HasFailed failure ∨ failure ∈ failures := by
  induction hrun with
  | none => simp
  | goesOn _ hstep hsound ih => rw [hstep.hasFailed_iff, ih, or_iff_left (hsound failure)]
  | fails _ hstep hfails ih =>
      rw [hstep.hasFailed_iff, ih, List.mem_append, List.mem_singleton, or_assoc]
      exact or_congr_right (or_congr_right ⟨fun h => h.eq hfails, fun h => h ▸ hfails⟩)

end Run

theorem Steps.exists_run {n : Nat} (hsteps : Steps capacity n w w') :
    ∃ failures, Run capacity w failures w' := by
  induction hsteps with
  | none => exact ⟨[], .none _⟩
  | more _ hstep ih =>
      obtain ⟨failures, hrun⟩ := ih
      exact hrun.exists_step hstep

theorem not_hasFailed_start (production : Production) (medium : Medium) (failure : Failure) :
    ¬ (start production medium).HasFailed failure := by
  cases failure with
  | statement cause => rintro (h | h) <;> cases h
  | lookup cause =>
      rintro ⟨producer, h⟩
      cases h

theorem Run.hasFailed_iff_mem {failures : List Failure}
    (hrun : Run capacity (start production medium) failures w) :
    w.HasFailed failure ↔ failure ∈ failures := by
  rw [hrun.hasFailed_iff, or_iff_right (not_hasFailed_start production medium failure)]

/-! ### Results -/

namespace World

/-- If the sink fails, then something has failed of itself. -/
theorem Sound.exists_hasFailed (h : w.Sound production medium) (hcaused : w.Caused production)
    (hfailed : w.sink.Failed) : ∃ failure, w.HasFailed failure := by
  obtain ⟨cause, hsink⟩ :
      ∃ cause, w.sink = .rollingBack cause ∨ w.sink = .ended (.error cause) := by
    rcases hfailed with ⟨cause, hsink⟩ | ⟨cause, hsink⟩
    · exact ⟨cause, .inl hsink⟩
    · exact ⟨cause, .inr hsink⟩
  rcases hcaused.sink cause hsink with ⟨e, rfl⟩ | ⟨-, e, hfailure⟩
  · exact ⟨.statement e, hsink⟩
  · exact ⟨.lookup e, h.judged _ hfailure⟩

theorem Sound.result_of_none (h : w.Sound production medium) (hcaused : w.Caused production)
    (hnone : ∀ failure, ¬ w.HasFailed failure) {result : Except BuildError RowCounts}
    (hresult : w.result? = some result) : result = .ok (.of production.records) := by
  refine h.result_of_not_failed (fun hfailed => ?_) hresult
  obtain ⟨failure, hfailure⟩ := h.exists_hasFailed hcaused hfailed
  exact hnone failure hfailure

/-- What has failed alone is what is reported. -/
theorem Sound.result_of_alone (h : w.Sound production medium) (hcaused : w.Caused production)
    (halone : ∀ other, w.HasFailed other ↔ other = failure) {result : Except BuildError RowCounts}
    (hresult : w.result? = some result) : result = .error failure.report := by
  obtain ⟨judged, written, hdriver, rfl⟩ := result?_eq_some_iff.mp hresult
  have hjudged : w.Judged judged := h.judged judged (by rw [hdriver]; rfl)
  have hended : w.sink = .ended written := h.awaited judged written hdriver
  cases written with
  | ok rows =>
      have hcomplete := h.complete_of_ended hended
      have hfailed := (halone failure).mpr rfl
      cases failure with
      | statement cause => simp [HasFailed, hended] at hfailed
      | lookup cause =>
          obtain ⟨producer, htask⟩ := hfailed
          exact absurd htask (hcomplete.not_failed _)
  | error cause =>
      rcases hcaused.sink cause (.inr hended) with ⟨e, rfl⟩ | ⟨rfl, e, hfailure⟩
      · obtain rfl := (halone (.statement e)).mp (.inr hended)
        cases judged with
        | none => rfl
        | some failed =>
            obtain ⟨producer, htask⟩ := hjudged
            -- A producer that has failed can only have met the end of the sink.
            rcases hcaused.task producer failed htask with ⟨e', -, rfl⟩ | ⟨kind, _, rfl, -⟩
            · cases (halone (.lookup e')).mp ⟨producer, htask⟩
            · rfl
      · rw [hdriver] at hfailure
        obtain rfl : judged = some (.enrichment e) := Option.some.inj hfailure
        obtain rfl := (halone (.lookup e)).mp hjudged
        rfl

end World

namespace Run

variable {result : Except BuildError RowCounts}

theorem result_of_none (hrun : Run capacity (start production medium) [] w)
    (hresult : w.result? = some result) : result = .ok (.of production.records) := by
  refine hrun.reachable.sound.result_of_none hrun.reachable.caused (fun failure => ?_) hresult
  rw [hrun.hasFailed_iff_mem]
  exact List.not_mem_nil

theorem result_of_alone (hrun : Run capacity (start production medium) [failure] w)
    (hresult : w.result? = some result) : result = .error failure.report := by
  refine hrun.reachable.sound.result_of_alone hrun.reachable.caused (fun other => ?_) hresult
  rw [hrun.hasFailed_iff_mem, List.mem_singleton]

end Run

/-! ### Where a lookup fails -/

theorem failure_of_produce {lookups : Lookups} {r : Reconciliation} {cause : LookupError}
    (hproduce : produce lookups capacity r = .ok production) :
    production.failure = some cause ↔
      (Enrichment.run lookups none r.addresses).ending = .failed cause := by
  obtain ⟨_, _, _, -, -, -, -, -, henricher⟩ := plan_of_produce hproduce
  constructor
  · intro hfailure
    have hmem : .error cause ∈ production.plan .enricher := by
      simp [Production.plan, hfailure]
    rw [henricher] at hmem
    cases hending : (Enrichment.run lookups none r.addresses).ending with
    | failed e =>
        obtain rfl : cause = e := by simpa [hending] using hmem
        rfl
    | finished | queueClosed => simp [hending] at hmem
  · intro hending
    have hmem : .error cause ∈ production.plan .enricher := by
      rw [henricher, hending]
      simp
    exact Production.failure_of_mem_plan hmem

namespace Run

variable {failures : List Failure} {cause : LookupError}

theorem failure_of_mem (hrun : Run capacity (start production medium) failures w)
    (hmem : .lookup cause ∈ failures) : production.failure = some cause := by
  obtain ⟨producer, htask⟩ := hrun.hasFailed_iff_mem.mpr hmem
  rcases hrun.reachable.caused.task producer _ htask with ⟨e, hfailure, hcause⟩ | ⟨_, _, hcause, -⟩
  · cases hcause
    exact hfailure
  · cases hcause

/-- If a lookup is going to fail and no statement fails, then the lookup has failed in the end. -/
theorem mem_of_failure (hrun : Run capacity (start production medium) failures w)
    (hfailure : production.failure = some cause)
    (hstatements : ∀ e, .statement e ∉ failures) {result : Except BuildError RowCounts}
    (hresult : w.result? = some result) : .lookup cause ∈ failures := by
  by_contra hnot
  have hnone (failure : Failure) : ¬ w.HasFailed failure := by
    rw [hrun.hasFailed_iff_mem]
    intro hmem
    cases failure with
    | statement e => exact hstatements e hmem
    | lookup e =>
        obtain rfl : cause = e := Option.some.inj (hfailure.symm.trans (hrun.failure_of_mem hmem))
        exact hnot hmem
  have hsound := hrun.reachable.sound
  obtain rfl := hsound.result_of_none hrun.reachable.caused hnone hresult
  have hcomplete := hsound.complete_of_ended (hsound.sink_of_result_ok hresult)
  cases hfailure.symm.trans (hsound.failure_eq_none hcomplete.succeeded)

/-- A lookup that is going to fail is reported, if no statement fails. -/
theorem result_of_failure (hrun : Run capacity (start production medium) failures w)
    (hfailure : production.failure = some cause)
    (hstatements : ∀ e, .statement e ∉ failures) {result : Except BuildError RowCounts}
    (hresult : w.result? = some result) : result = .error (.enrichment cause) := by
  have hmem := hrun.mem_of_failure hfailure hstatements hresult
  have halone (other : Failure) : w.HasFailed other ↔ other = .lookup cause := by
    rw [hrun.hasFailed_iff_mem]
    constructor
    · intro hother
      cases other with
      | statement e => exact absurd hother (hstatements e)
      | lookup e => rw [Option.some.inj (hfailure.symm.trans (hrun.failure_of_mem hother))]
    · rintro rfl
      exact hmem
  exact hrun.reachable.sound.result_of_alone hrun.reachable.caused halone hresult

end Run

/-! ### What the others see of a failure -/

/-- Something fails of itself only where the sink or a producer goes on to another state. -/
theorem Fails.unsettled (h : Fails w w' failure) :
    ((w.sink = .beginning ∨ ∃ session, w.sink = .draining session) ∧
        ∃ cause, w'.sink = .rollingBack (.database cause) ∨
          w'.sink = .ended (.error (.database cause))) ∨
      w'.sink = w.sink ∧ ∃ producer cause rest, w.tasks producer = .running (.error cause :: rest) ∧
        w'.tasks producer = .ended (.error (.enrichment cause)) := by
  cases failure with
  | statement cause =>
      rcases h.of_statement with ⟨hsink, hsink'⟩ | ⟨hsink, hsink'⟩
      · exact .inl ⟨.inl hsink, cause, .inr hsink'⟩
      · exact .inl ⟨.inr hsink, cause, .inl hsink'⟩
  | lookup cause =>
      obtain ⟨producer, rest, htask, rfl⟩ := h.of_lookup
      exact .inr ⟨rfl, producer, cause, rest, htask, tasks_setTask_self w producer _⟩

theorem DriverStep.not_fails (hstep : DriverStep w w') : ¬ Fails w w' failure := by
  obtain ⟨htasks, -, hsink, -⟩ := hstep.unchanged
  intro h
  rcases h.unsettled with ⟨hbefore, cause, hafter⟩ | ⟨-, producer, cause, rest, hbefore, hafter⟩
  · rw [hsink] at hafter
    rcases hbefore with hbefore | ⟨session, hbefore⟩ <;> simp [hbefore] at hafter
  · rw [htasks, hbefore] at hafter
    cases hafter

theorem not_fails_task {record : Record} {rest : List (Except LookupError Record)}
    (htask : w.tasks producer = .running (.ok record :: rest)) (hsink : w'.sink = w.sink)
    (htasks : ∀ other, other ≠ producer → w'.tasks other = w.tasks other) :
    ¬ Fails w w' failure := by
  intro h
  rcases h.unsettled with ⟨hbefore, cause, hafter⟩ | ⟨-, other, cause, later, hbefore, hafter⟩
  · rcases hbefore with hbefore | ⟨session, hbefore⟩ <;> simp [hsink, hbefore] at hafter
  · by_cases hsame : other = producer
    · subst hsame
      cases htask.symm.trans hbefore
    · rw [htasks other hsame, hbefore] at hafter
      cases hafter

theorem not_fails_setSink {sink : Sink} (hchanged : sink ≠ w.sink)
    (hsound : (∃ cause, w.sink = .rollingBack cause) ∨
      ∀ cause, sink ≠ .rollingBack (.database cause) ∧ sink ≠ .ended (.error (.database cause))) :
    ¬ Fails w { w with sink := sink } failure := by
  intro h
  rcases h.unsettled with ⟨hbefore, cause, hafter⟩ | ⟨hsame, -⟩
  · rcases hsound with ⟨e, hsink⟩ | hnot
    · rcases hbefore with hbefore | ⟨session, hbefore⟩ <;> cases hsink.symm.trans hbefore
    · rcases hafter with hafter | hafter
      · exact (hnot cause).1 hafter
      · exact (hnot cause).2 hafter
  · exact hchanged hsame

namespace Run

variable {failures : List Failure} {w₀ : World}

theorem driven (hrun : Run capacity w₀ failures w) (hstep : DriverStep w w') :
    Run capacity w₀ failures w' :=
  hrun.goesOn (.driver hstep) fun _ => hstep.not_fails

/-- When a producer has failed, the driver may fire the handle at once. -/
theorem signalled {cause : BuildError} (hrun : Run capacity w₀ failures w)
    (hdriver : w.driver = .joining) (htask : w.tasks producer = .ended (.error cause)) :
    Run capacity w₀ failures { w with handle := .fired, driver := .signalled (some cause) } := by
  have hsignal := DriverStep.signal (w := { w with driver := .judged (some cause) }) rfl
  exact (hrun.driven (.joinFailed hdriver htask)).driven hsignal

/-- A producer may send its next record while the sink drains the queues. -/
theorem sent (producer : Producer) {record : Record} {rest : List (Except LookupError Record)}
    {session : Session} (hrun : Run capacity w₀ failures w) (hsink : w.sink = .draining session)
    (htask : w.tasks producer = .running (.ok record :: rest))
    (hqueue : w.queues record.kind = []) :
    Run capacity w₀ failures
      ((w.setTask producer (.running rest)).setQueue record.kind [record]) := by
  have hroom : (w.queues record.kind).length < max 1 capacity := by
    rw [hqueue, List.length_nil]
    omega
  have hsend : TaskStep capacity producer w _ :=
    .send htask (fun result hended => by cases hsink.symm.trans hended) hroom
  rw [hqueue, List.nil_append] at hsend
  exact hrun.goesOn (.task producer hsend) fun _ =>
    not_fails_task htask rfl fun _ hother => tasks_setTask_of_ne w hother _

/-- When the sink has ended, the driver may return at once. -/
theorem exists_result {judged : Option BuildError} {written : Except StoreError RowCounts}
    (hrun : Run capacity w₀ failures w) (hdriver : w.driver = .signalled judged)
    (hsink : w.sink = .ended written) :
    ∃ w', Run capacity w₀ failures w' ∧ w'.tasks = w.tasks ∧ w'.sink = w.sink ∧
      w'.result? = some (verdict judged written) :=
  ⟨_, (hrun.driven (.release hdriver)).driven (.await rfl hsink), rfl, rfl, rfl⟩

/-- A producer may meet the closed queues of a sink that has failed. -/
theorem exists_refused {record : Record} {rest : List (Except LookupError Record)}
    {cause : DatabaseError} (hrun : Run capacity w₀ failures w) (hdriver : w.driver = .joining)
    (hsink : w.sink = .ended (.error (.database cause)))
    (htask : w.tasks producer = .running (.ok record :: rest)) :
    ∃ w', Run capacity w₀ failures w' ∧
      w'.tasks producer = .ended (.error (.queueClosed record.kind)) ∧
      w'.result? = some (.error (.persistence (.database cause))) := by
  have hrefused : Run capacity w₀ failures
      (w.setTask producer (.ended (.error (.queueClosed record.kind)))) :=
    hrun.goesOn (.task producer (.refused htask hsink)) fun _ =>
      not_fails_task htask rfl fun _ hother => tasks_setTask_of_ne w hother _
  have hsignalled := hrefused.signalled hdriver (tasks_setTask_self w producer _)
  obtain ⟨w', hrun', htasks, -, hresult⟩ := hsignalled.exists_result rfl hsink
  refine ⟨w', hrun', ?_, hresult⟩
  rw [htasks]
  exact tasks_setTask_self w producer _

/-- A sink may be abandoned for a lookup that has failed. -/
theorem exists_abandoned {session : Session} {cause : LookupError}
    (hrun : Run capacity (start production medium) failures w) (hdriver : w.driver = .joining)
    (hsink : w.sink = .draining session)
    (htask : w.tasks producer = .ended (.error (.enrichment cause))) :
    ∃ w', Run capacity (start production medium) failures w' ∧
      w'.sink = .ended (.error .abandoned) ∧
      w'.result? = some (.error (.enrichment cause)) := by
  have hsound := hrun.reachable.sound
  have hdraining := hsound.draining hsink
  -- The driver has not yet used the handle or dropped the guard.
  have habandonable : session.abandonable = true := by
    by_contra hreleased
    have hdropped := hdraining.dropped (Bool.eq_false_iff.mpr hreleased)
    rw [hsound.handle, hdriver] at hdropped
    cases hdropped
  have hopen : session.openQueues ≠ [] := by
    intro hclosed
    have hguard := (hdraining.closed .addresses (by simp [hclosed])).2.2 rfl
    rw [hdriver] at hguard
    cases hguard
  have hsignalled := hrun.signalled hdriver htask
  have habandon : SinkStep
      { w with handle := .fired, driver := .signalled (some (.enrichment cause)) } _ :=
    .abandon hsink hopen habandonable rfl
  rw [Session.step, if_pos habandonable] at habandon
  have habandoned := hsignalled.goesOn (.sink habandon) fun _ =>
    not_fails_setSink (by simp [hsink, Sink.after]) (.inr fun _ => by simp [Sink.after])
  have hended := habandoned.goesOn (.sink (.rollback rfl)) fun _ =>
    not_fails_setSink (by simp [Sink.after]) (.inl ⟨_, rfl⟩)
  obtain ⟨w', hrun', -, hsink', hresult⟩ := hended.exists_result rfl rfl
  exact ⟨w', hrun', hsink', hresult⟩

end Run

/-- What is true of what fails in a build, in every run of its parties. -/
structure ReportsFailures (lookups : Lookups) (capacity : Nat) (r : Reconciliation)
    (production : Production) (medium : Medium) : Prop where
  /-- No run goes on forever. -/
  finite : ∃ bound, ∀ n w, Steps capacity n (.start production medium) w → n ≤ bound
  /-- No run gets stuck before there is a result. -/
  goes_on : ∀ w, Reachable capacity production medium w → w.result? = none →
    ∃ w', Step capacity w w'
  /-- Of every run it can be said what has failed in it. -/
  recorded : ∀ n w, Steps capacity n (.start production medium) w →
    ∃ failures, Run capacity (.start production medium) failures w
  /-- A failure without another one is reported as itself. -/
  alone : ∀ failure w result, Run capacity (.start production medium) [failure] w →
    w.result? = some result → result = .error failure.report
  /-- Without a failure a build succeeds. -/
  unharmed : ∀ w result, Run capacity (.start production medium) [] w →
    w.result? = some result → result = .ok (.of production.records)
  /-- A lookup that fails is one that the enrichment of the addresses asks for. -/
  lookup : ∀ failures w cause, Run capacity (.start production medium) failures w →
    .lookup cause ∈ failures → Enrichment.LookupFails lookups r.addresses cause
  /-- If one of these fails and no statement does, then it is reported. -/
  looked_up : ∀ failures w result, Run capacity (.start production medium) failures w →
    (∀ e, .statement e ∉ failures) → w.result? = some result →
      (∃ cause, Enrichment.LookupFails lookups r.addresses cause) →
        ∃ cause, Enrichment.LookupFails lookups r.addresses cause ∧
          result = .error (.enrichment cause)
  /-- A producer may see a closed queue, and yet it is the failed statement that is reported. -/
  refused : ∀ failures w producer record rest cause,
    Run capacity (.start production medium) failures w → w.driver = .joining →
      w.sink = .ended (.error (.database cause)) →
        w.tasks producer = .running (.ok record :: rest) →
          ∃ w', Run capacity (.start production medium) failures w' ∧
            w'.tasks producer = .ended (.error (.queueClosed record.kind)) ∧
            w'.result? = some (.error (.persistence (.database cause)))
  /-- The sink may end as abandoned, and yet it is the failed lookup that is reported. -/
  abandoned : ∀ failures w session producer cause,
    Run capacity (.start production medium) failures w → w.driver = .joining →
      w.sink = .draining session → w.tasks producer = .ended (.error (.enrichment cause)) →
        ∃ w', Run capacity (.start production medium) failures w' ∧
          w'.sink = .ended (.error .abandoned) ∧
          w'.result? = some (.error (.enrichment cause))

/-- A build reports what has failed, and not what the other parties have seen of it. -/
theorem reports_failures {lookups : Lookups} {capacity : Nat} {r : Reconciliation}
    {production : Production} (hproduce : produce lookups capacity r = .ok production)
    (medium : Medium) : ReportsFailures lookups capacity r production medium where
  finite := by
    refine ⟨(start production medium).weight, fun n w hsteps => ?_⟩
    have hlength := hsteps.length_le
    omega
  goes_on w hreachable hresult := by
    obtain ⟨w', hstep, -⟩ := hreachable.sound.exists_step hreachable.caused hresult
    exact ⟨w', hstep⟩
  recorded _ _ hsteps := hsteps.exists_run
  alone _ _ _ hrun hresult := hrun.result_of_alone hresult
  unharmed _ _ hrun hresult := hrun.result_of_none hresult
  lookup _ _ _ hrun hmem :=
    Enrichment.lookupFails_of_ending ((failure_of_produce hproduce).mp (hrun.failure_of_mem hmem))
  looked_up _ _ _ hrun hstatements hresult hfails := by
    obtain ⟨_, hlookup⟩ := hfails
    obtain ⟨cause, hending⟩ := Enrichment.exists_failed hlookup
    have hfailure := (failure_of_produce hproduce).mpr hending
    exact ⟨cause, Enrichment.lookupFails_of_ending hending,
      hrun.result_of_failure hfailure hstatements hresult⟩
  refused _ _ _ _ _ _ hrun hdriver hsink htask := hrun.exists_refused hdriver hsink htask
  abandoned _ _ _ _ _ hrun hdriver hsink htask := hrun.exists_abandoned hdriver hsink htask

/-- What two relays at two addresses publish that declare each other. -/
def firstOfPair : Descriptor :=
  .bare alpha fifthOfMarch (.ofList [beta])

def secondOfPair : Descriptor :=
  { Descriptor.bare beta fifthOfMarch (.ofList [alpha]) with address := .v4 9 }

def pair : Reconciliation :=
  .ofCollection ⟨12 * 2020 + 2⟩ (.addAll {} [(.main, firstOfPair), (.main, secondOfPair)])

theorem timelines_pair :
    pair.timelines = [⟨alpha, 1, [firstOfPair]⟩, ⟨beta, 2, [secondOfPair]⟩] := by
  cbv

theorem addresses_pair : pair.addresses = [.v4 0, .v4 9] := by
  cbv

theorem month_pair : pair.month = ⟨12 * 2020 + 2⟩ := by
  cbv

theorem edges_pair {last : Instant} (hlast : pair.month.lastInstant = .ok last) :
    pair.timelines.mapM (Family.History.ofTimeline pair.month) >>= Family.edges pair.month =
      .ok [⟨1, 2, ⟨midnight 3 4, last⟩⟩] := by
  rw [month_pair] at hlast
  cases hlast
  cbv

def sentOfPair (last : Instant) : List Record := [
  .node ⟨1, alpha⟩, .descriptor ⟨1, { firstOfPair with family := .empty }, ⟨midnight 3 4, last⟩⟩,
  .node ⟨2, beta⟩, .descriptor ⟨2, { secondOfPair with family := .empty }, ⟨midnight 3 4, last⟩⟩,
  .family ⟨1, 2, ⟨midnight 3 4, last⟩⟩]

theorem produce_pair (lookups : Lookups) {sent : List AddressRecord} {cause : LookupError}
    {last : Instant} (hlast : pair.month.lastInstant = .ok last)
    (hrun : Enrichment.run lookups none [.v4 0, .v4 9] = ⟨sent, .failed cause⟩) :
    produce lookups 16 pair = .ok ⟨sentOfPair last ++ sent.map .address, some cause⟩ := by
  obtain ⟨histories, hhistories, hedges⟩ := exists_of_bind_eq_ok (edges_pair hlast)
  have hemitted : Timeline.emit pair.month (fun _ => false)
      (pair.timelines.map (·.withoutFamilies)) = .ok ⟨(sentOfPair last).take 4, none⟩ := by
    rw [timelines_pair, month_pair]
    rw [month_pair] at hlast
    cases hlast
    rfl
  have hcapacity : checkCapacity 16 = .ok () := rfl
  simp only [produce, hhistories, hcapacity, hedges, hemitted, addresses_pair, hrun, bind,
    Except.bind, Except.mapError]
  rfl

def unanswered : Lookups where
  registry _ := .error (.other "timeout")
  geo _ := .ok none

/-- Nobody knows where the second relay is. -/
def unplaced : Lookups where
  registry addresses := .ok (addresses.map (⟨64500, "EXAMPLE", ·⟩))
  geo address := if address = .v4 9 then .error (.other "damaged") else .ok none

def unansweredPair (last : Instant) : Production :=
  ⟨sentOfPair last, some (.other "timeout")⟩

def unplacedPair (last : Instant) : Production :=
  ⟨sentOfPair last ++ [.address ⟨.v4 0, 64500, "EXAMPLE", {}⟩], some (.other "damaged")⟩

/-- Tables with a node that has the number of the first relay of the pair. -/
def occupied : Medium :=
  .tables (Database.empty.append .nodes [.integer 1, .text beta.text])

theorem run_begun (production : Production) (medium : Medium) :
    Run 16 (start production medium) []
      { start production medium with sink := .draining { written := medium } } :=
  (Run.none _).goesOn (.sink (.begin rfl)) fun _ =>
    not_fails_setSink (by simp [start]) (.inr (by simp))

/-- The registry fails and then a location, each after the first node was sent; the session is
abandoned. In tables that have this node the statement fails, and the emitter is refused. -/
theorem reports_failures_of_pair : ∃ last,
    (produce unanswered 16 pair = .ok (unansweredPair last) ∧
      ∃ w, Run 16 (start (unansweredPair last) (.tables .empty)) [.lookup (.other "timeout")] w ∧
        w.sink = .ended (.error .abandoned) ∧
        w.result? = some (.error (.enrichment (.other "timeout")))) ∧
    produce unplaced 16 pair = .ok (unplacedPair last) ∧
      (∃ w, Run 16 (start (unplacedPair last) (.tables .empty)) [.lookup (.other "damaged")] w ∧
        w.sink = .ended (.error .abandoned) ∧
        w.result? = some (.error (.enrichment (.other "damaged")))) ∧
      ∃ w, Run 16 (start (unplacedPair last) occupied) [.statement .repeatedNode] w ∧
        w.tasks .emitter = .ended (.error (.queueClosed .descriptors)) ∧
        w.result? = some (.error (.persistence (.database .repeatedNode))) := by
  obtain ⟨last, hlast⟩ : ∃ last, pair.month.lastInstant = .ok last := by
    rw [month_pair]
    exact ⟨_, rfl⟩
  have hunanswered : produce unanswered 16 pair = .ok (unansweredPair last) :=
    produce_pair unanswered hlast rfl
  have hlooked : Enrichment.run unplaced none [.v4 0, .v4 9] =
      ⟨[⟨.v4 0, 64500, "EXAMPLE", {}⟩], .failed (.other "damaged")⟩ := rfl
  have hunplaced : produce unplaced 16 pair = .ok (unplacedPair last) :=
    produce_pair unplaced hlast hlooked
  refine ⟨last, ⟨hunanswered, ?registry⟩, hunplaced, ?location, ?statement⟩
  case registry =>
    have hsent := (run_begun (unansweredPair last) (.tables .empty)).sent .emitter rfl rfl rfl
    have hfails := hsent.fails (.task .enricher (.fail rfl)) (.lookup rfl)
    exact (reports_failures hunanswered _).abandoned _ _ _ _ _ hfails rfl rfl
      (tasks_setTask_self _ _ _)
  case location =>
    have hsent := (run_begun (unplacedPair last) (.tables .empty)).sent .emitter rfl rfl rfl
    have hfound := hsent.sent .enricher rfl rfl rfl
    have hfails := hfound.fails (.task .enricher (.fail rfl)) (.lookup rfl)
    exact (reports_failures hunplaced _).abandoned _ _ _ _ _ hfails rfl rfl
      (tasks_setTask_self _ _ _)
  case statement =>
    have hsent := (run_begun (unplacedPair last) occupied).sent .emitter rfl rfl rfl
    have hopen : RecordKind.nodes ∈ ({ written := occupied } : Session).openQueues := by decide
    obtain ⟨w, hfailed, hsink, hdriver, htask⟩ :
        ∃ w, Run 16 (start (unplacedPair last) occupied) [.statement .repeatedNode] w ∧
          w.sink = .rollingBack (.database .repeatedNode) ∧ w.driver = .joining ∧
          w.tasks .emitter = .running ((unplacedPair last).plan .emitter).tail :=
      ⟨_, hsent.fails (.sink (.receive rfl hopen rfl)) (.insert rfl rfl), rfl, rfl, rfl⟩
    have hended := hfailed.goesOn (.sink (.rollback hsink)) fun _ =>
      not_fails_setSink (by simp [hsink]) (.inl ⟨_, hsink⟩)
    exact (reports_failures hunplaced _).refused _ _ .emitter _ _ _ hended hdriver rfl htask

end RelaySnapshot.Build
