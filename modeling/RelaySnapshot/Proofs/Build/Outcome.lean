import RelaySnapshot.Proofs.Build.Completion
import RelaySnapshot.Proofs.Store.Gaining

/-!
# All or nothing

Whatever the order of the steps, a build that fails leaves the store as it was, and one that
succeeds has written all that was produced. What can succeed in one sequence does succeed in some
order of the steps.
-/

namespace RelaySnapshot.Build

variable {production : Production} {medium : Medium} {capacity : Nat} {w w' : World}

/-- A build succeeds only if no producer has failed and the session has been committed. -/
theorem verdict_eq_ok_iff {failure : Option BuildError} {written : Except StoreError RowCounts}
    {rows : RowCounts} :
    verdict failure written = .ok rows ↔ failure = none ∧ written = .ok rows := by
  constructor
  · intro h
    unfold verdict at h
    split at h
    · exact ⟨rfl, congrArg Except.ok (Except.ok.inj h)⟩
    · cases h
    · split at h <;> cases h
    · cases h
  · rintro ⟨rfl, rfl⟩
    rfl

theorem write_of_failure_eq_none (medium : Medium) (hlookup : production.failure = none) :
    write production medium =
      match medium.insertAll production.records with
      | .ok written => (.ok (.of production.records), written)
      | .error e => (.error (.persistence (.database e)), medium) := by
  have hrun := Session.run_records medium production.records
  simp only [write, hlookup, Option.toList_none, List.map_nil, List.append_nil, Option.map_none,
    hrun]
  cases medium.insertAll production.records with
  | ok written => rfl
  | error e => rfl

/-- In one sequence, a build succeeds if no lookup has failed and each record can be inserted. -/
theorem write_eq_ok_iff {rows : RowCounts} {written : Medium} :
    write production medium = (.ok rows, written) ↔
      production.failure = none ∧ Wrote medium production.records written rows := by
  cases hlookup : production.failure with
  | some e =>
      constructor
      · intro h
        obtain ⟨hfailure, -⟩ := verdict_eq_ok_iff.mp (congrArg Prod.fst h)
        rw [hlookup] at hfailure
        cases hfailure
      · rintro ⟨⟨⟩, -⟩
  | none =>
      rw [write_of_failure_eq_none medium hlookup, and_iff_right rfl]
      cases hall : medium.insertAll production.records with
      | ok all =>
          constructor
          · intro h
            cases h
            exact ⟨hall, rfl⟩
          · rintro ⟨hinserted, rfl⟩
            rw [hall] at hinserted
            rw [Except.ok.inj hinserted]
      | error e =>
          constructor
          · intro h
            cases h
          · rintro ⟨hinserted, -⟩
            rw [hall] at hinserted
            cases hinserted

namespace World

theorem result?_eq_some_iff {result : Except BuildError RowCounts} :
    w.result? = some result ↔
      ∃ failure written, w.driver = .ended failure written ∧ verdict failure written = result := by
  cases hdriver : w.driver <;> simp [result?, hdriver]

namespace Sound

/-- Nothing is seen of a session that has not been committed. -/
theorem store_eq (h : w.Sound production medium)
    (hsink : ∀ rows, w.sink ≠ .ended (.ok rows)) : w.store = medium := by
  have hsound := h.sink
  rw [SinkSound] at hsound
  split at hsound
  · exact hsound.1
  · exact hsound.1
  · exact hsound.1
  · exact hsound
  next rows hended => exact absurd hended (hsink rows)
  · exact hsound

/-- If all producers have succeeded, no lookup has failed. -/
theorem failure_eq_none (h : w.Sound production medium)
    (hsucceeded : ∀ producer, w.tasks producer = .ended (.ok ())) : production.failure = none := by
  have hfollows := h.follows .enricher
  rw [hsucceeded] at hfollows
  obtain ⟨sent, hplan⟩ := hfollows
  exact Production.failure_eq_none_of_plan hplan

theorem not_committed_of_failed (h : w.Sound production medium) (hfailed : w.Failed)
    (rows : RowCounts) : w.sink ≠ .ended (.ok rows) := by
  intro hended
  rcases hfailed with ⟨producer, cause, htask⟩ | ⟨cause, hsink⟩ | ⟨cause, hsink⟩
  · exact (h.complete_of_ended hended).not_failed cause htask
  · rw [hsink] at hended
    cases hended
  · rw [hsink] at hended
    cases hended

theorem sink_of_result_ok (h : w.Sound production medium) {rows : RowCounts}
    (hresult : w.result? = some (.ok rows)) : w.sink = .ended (.ok rows) := by
  obtain ⟨failure, written, hdriver, hverdict⟩ := result?_eq_some_iff.mp hresult
  obtain ⟨rfl, rfl⟩ := verdict_eq_ok_iff.mp hverdict
  exact h.awaited none (.ok rows) hdriver

theorem not_committed_of_result_error (h : w.Sound production medium) {cause : BuildError}
    (hresult : w.result? = some (.error cause)) (rows : RowCounts) :
    w.sink ≠ .ended (.ok rows) := by
  intro hended
  obtain ⟨failure, written, hdriver, hverdict⟩ := result?_eq_some_iff.mp hresult
  have hjudged := h.judged failure (by rw [hdriver]; rfl)
  have hwritten := h.awaited failure written hdriver
  rw [hended] at hwritten
  cases hwritten
  cases failure with
  | none => cases hverdict
  | some cause =>
      obtain ⟨producer, htask⟩ := hjudged
      exact (h.complete_of_ended hended).not_failed cause htask

/-- A result without a failure of the sink counts all that was produced. -/
theorem result_of_not_failed (h : w.Sound production medium) (hnot : ¬ w.sink.Failed)
    {result : Except BuildError RowCounts} (hresult : w.result? = some result) :
    result = .ok (.of production.records) := by
  obtain ⟨failure, written, hdriver, hverdict⟩ := result?_eq_some_iff.mp hresult
  have hended := h.awaited failure written hdriver
  cases written with
  | error e => exact absurd (.inr ⟨e, hended⟩) hnot
  | ok rows =>
      have hcounted := (h.complete_of_ended hended).wrote.counted
      cases result with
      | error cause => exact absurd hended (h.not_committed_of_result_error hresult rows)
      | ok rows' =>
          obtain ⟨-, hrows⟩ := verdict_eq_ok_iff.mp hverdict
          rw [← Except.ok.inj hrows, hcounted]

/-- What a build reports is the failed lookup or the database's own error. -/
theorem cause_of_result_error (h : w.Sound production medium) (hcaused : w.Caused production)
    {cause : BuildError} (hresult : w.result? = some (.error cause)) :
    (∃ e, production.failure = some e ∧ cause = .enrichment e) ∨
      ∃ e, cause = .persistence (.database e) := by
  have hnot := h.not_committed_of_result_error hresult
  obtain ⟨failure, written, hdriver, hverdict⟩ := result?_eq_some_iff.mp hresult
  have hjudged := h.judged failure (by rw [hdriver]; rfl)
  have hended := h.awaited failure written hdriver
  cases written with
  | ok rows => exact absurd hended (hnot rows)
  | error sunk =>
      have hsunk := hcaused.sink sunk (.inr hended)
      rw [hdriver] at hsunk
      cases failure with
      | none =>
          obtain rfl := Except.error.inj hverdict
          rcases hsunk with ⟨e, rfl⟩ | ⟨-, e, hfailure⟩
          · exact .inr ⟨e, rfl⟩
          · cases hfailure
      | some failed =>
          obtain ⟨producer, htask⟩ := hjudged
          rcases hcaused.task producer failed htask with ⟨e, hlookup, rfl⟩ | ⟨kind, _, rfl, -⟩
          · exact .inl ⟨e, hlookup, (Except.error.inj hverdict).symm⟩
          · rcases hsunk with ⟨e, rfl⟩ | ⟨-, e, hfailure⟩
            · exact .inr ⟨e, (Except.error.inj hverdict).symm⟩
            · cases hfailure

end Sound

end World

open World

/-- A failure is never taken back. -/
theorem Step.failed (hstep : Step capacity w w') (hfailed : w.Failed) : w'.Failed := by
  cases hstep with
  | task producer hstep =>
      obtain ⟨hsink, -⟩ := hstep.unchanged
      rcases hfailed with ⟨other, cause, htask⟩ | hsunk
      · exact .inl ⟨other, cause, hstep.ended htask⟩
      · rw [← hsink] at hsunk
        exact .inr hsunk
  | sink hstep =>
      obtain ⟨htasks, -⟩ := hstep.unchanged
      rcases hfailed with htask | ⟨cause, hsink⟩ | ⟨cause, hsink⟩
      · rw [← htasks] at htask
        exact .inl htask
      · cases hstep with
        | rollback hsink' => exact .inr (.inr ⟨_, rfl⟩)
        | _ hsink' => simp [hsink] at hsink'
      · exact absurd hsink (hstep.not_ended _)
  | driver hstep =>
      obtain ⟨htasks, -, hsink, -⟩ := hstep.unchanged
      rw [Failed, htasks, hsink]
      exact hfailed

theorem Steps.failed {n : Nat} (hsteps : Steps capacity n w w') (hfailed : w.Failed) :
    w'.Failed := by
  induction hsteps with
  | none => exact hfailed
  | more _ hstep ih => exact hstep.failed (ih hfailed)

/-- What is true of a build of whatever has been produced, in every run of its parties. -/
structure AllOrNothing (capacity : Nat) (production : Production) (medium : Medium) : Prop where
  /-- No run goes on forever. -/
  finite : ∃ bound, ∀ n w, Steps capacity n (.start production medium) w → n ≤ bound
  /-- No run gets stuck before there is a result. -/
  goes_on : ∀ w, Reachable capacity production medium w → w.result? = none →
    ∃ w', Step capacity w w'
  /-- What is committed is complete, and by then all producers have succeeded. -/
  committed : ∀ w session, Reachable capacity production medium w →
    w.sink = .committing session →
      (∀ producer, w.tasks producer = .ended (.ok ())) ∧ (∀ kind, w.queues kind = []) ∧
        production.failure = none ∧ medium.Gained production.records session.written
  /-- After a failure, of a producer or of the sink, there is only failure. -/
  failed : ∀ w, Reachable capacity production medium w → w.Failed →
    ∀ n w', Steps capacity n w w' → w'.store = medium ∧ ∀ rows, w'.result? ≠ some (.ok rows)
  /-- What fails has failed for a lookup or for the database, and has left nothing behind. -/
  result_error : ∀ w cause, Reachable capacity production medium w →
    w.result? = some (.error cause) → w.store = medium ∧
      ((∃ e, production.failure = some e ∧ cause = .enrichment e) ∨
        ∃ e, cause = .persistence (.database e))
  /-- What succeeds has written all that was produced, as if it had come in one sequence. -/
  result_ok : ∀ w rows, Reachable capacity production medium w → w.result? = some (.ok rows) →
    (∀ producer, w.tasks producer = .ended (.ok ())) ∧ production.failure = none ∧
      medium.Gained production.records w.store ∧ rows = .of production.records ∧
        write production medium = (.ok rows, w.store)
  /-- What succeeds in one sequence can succeed. -/
  attained : ∀ rows written, write production medium = (.ok rows, written) →
    ∃ w, Reachable capacity production medium w ∧ w.result? = some (.ok rows)

/-- A build keeps everything or nothing, whatever is produced, whatever the store holds, however
much room the queues have, and in whatever order the parties take their steps. -/
theorem all_or_nothing (capacity : Nat) (production : Production) (medium : Medium) :
    AllOrNothing capacity production medium where
  finite := by
    refine ⟨(start production medium).weight, fun n w hsteps => ?_⟩
    have hlength := hsteps.length_le
    omega
  goes_on w hreachable hresult := by
    obtain ⟨w', hstep, -⟩ := hreachable.sound.exists_step hreachable.caused hresult
    exact ⟨w', hstep⟩
  committed w session hreachable hsink := by
    have hcomplete := hreachable.sound.complete_of_committing hsink
    exact ⟨hcomplete.succeeded, hcomplete.empty,
      hreachable.sound.failure_eq_none hcomplete.succeeded,
      Medium.gained_of_insertAll hcomplete.wrote.inserted⟩
  failed w hreachable hfailed n w' hsteps := by
    have hsound := hsteps.sound hreachable.sound
    have hnot := hsound.not_committed_of_failed (hsteps.failed hfailed)
    exact ⟨hsound.store_eq hnot, fun rows hresult => hnot rows (hsound.sink_of_result_ok hresult)⟩
  result_error w cause hreachable hresult := by
    have hnot := hreachable.sound.not_committed_of_result_error hresult
    exact ⟨hreachable.sound.store_eq hnot,
      hreachable.sound.cause_of_result_error hreachable.caused hresult⟩
  result_ok w rows hreachable hresult := by
    have hsink := hreachable.sound.sink_of_result_ok hresult
    have hcomplete := hreachable.sound.complete_of_ended hsink
    have hfailure := hreachable.sound.failure_eq_none hcomplete.succeeded
    exact ⟨hcomplete.succeeded, hfailure, Medium.gained_of_insertAll hcomplete.wrote.inserted,
      hcomplete.wrote.counted, write_eq_ok_iff.mpr ⟨hfailure, hcomplete.wrote⟩⟩
  attained rows written hwrite := by
    obtain ⟨hfailure, hwrote⟩ := write_eq_ok_iff.mp hwrite
    have hstart : Reachable capacity production medium (start production medium) := ⟨0, .none _⟩
    have hbeginning : ¬ (start production medium).sink.Failed := by
      rintro (⟨_, h⟩ | ⟨_, h⟩) <;> cases h
    obtain ⟨w, hreachable, hnot, result, hresult⟩ :=
      hstart.exists_result ⟨hfailure, written, hwrote.inserted⟩ hbeginning
    refine ⟨w, hreachable, ?_⟩
    rw [hresult, hreachable.sound.result_of_not_failed hnot hresult, hwrote.counted]

end RelaySnapshot.Build
