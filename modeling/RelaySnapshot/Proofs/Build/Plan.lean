import RelaySnapshot.Build.Parties
import RelaySnapshot.Proofs.Emission.Coverage
import RelaySnapshot.Proofs.Store.Insertion

namespace RelaySnapshot.Build

def given (plan : List (Except LookupError Record)) : List Record :=
  plan.filterMap Except.toOption

@[simp]
theorem given_nil : given [] = [] := rfl

@[simp]
theorem given_cons_ok (record : Record) (rest : List (Except LookupError Record)) :
    given (.ok record :: rest) = record :: given rest := rfl

@[simp]
theorem given_append (before after : List (Except LookupError Record)) :
    given (before ++ after) = given before ++ given after := by
  simp [given]

@[simp]
theorem given_map_ok (records : List Record) : given (records.map .ok) = records := by
  simp [given, List.filterMap_map, Function.comp_def, Except.toOption]

theorem given_map_error (causes : List LookupError) :
    given (causes.map .error) = [] := by
  simp [given, List.filterMap_map, Function.comp_def, Except.toOption]

namespace Production

variable {production : Production} {producer : Producer}

theorem given_plan (production : Production) (producer : Producer) :
    given (production.plan producer) =
      production.records.filter fun record => Producer.of record.kind = producer := by
  rw [plan, given_append, given_map_ok]
  split <;> simp [given_map_error]

/-- The producer of a kind sends all its records. -/
theorem among_given_plan (production : Production) (kind : RecordKind) :
    kind.among (given (production.plan (.of kind))) = kind.among production.records := by
  rw [given_plan, RecordKind.among, List.filter_filter]
  refine List.filter_congr fun record _ => ?_
  by_cases hkind : record.kind = kind <;> simp [hkind]

theorem of_kind_of_mem_plan {record : Record} (hmem : .ok record ∈ production.plan producer) :
    Producer.of record.kind = producer := by
  have hgiven : record ∈ given (production.plan producer) :=
    List.mem_filterMap.mpr ⟨_, hmem, rfl⟩
  rw [given_plan] at hgiven
  simpa using (List.mem_filter.mp hgiven).2

/-- A failed lookup is the one that has been produced. -/
theorem failure_of_mem_plan {cause : LookupError} (hmem : .error cause ∈ production.plan producer) :
    production.failure = some cause := by
  rw [plan] at hmem
  rcases List.mem_append.mp hmem with hmem | hmem
  · simp at hmem
  · split at hmem
    · simpa using hmem
    · cases hmem

theorem failure_eq_none_of_plan {sent : List Record}
    (hplan : production.plan .enricher = sent.map .ok) : production.failure = none := by
  rw [plan, if_pos rfl] at hplan
  cases hfailure : production.failure with
  | none => rfl
  | some cause =>
      have hmem : Except.error cause ∈ sent.map Except.ok := by
        rw [← hplan, hfailure]
        simp
      simp at hmem

end Production

/-! ### The producers of a build -/

theorem of_kind_of_mem_records {timeline : Timeline} {month : Month} {records : List Record}
    (h : timeline.records month = .ok records) :
    ∀ record ∈ records, Producer.of record.kind = .emitter := by
  rw [Timeline.records] at h
  cases hvalidity : timeline.validity month with
  | error e =>
      rw [hvalidity] at h
      cases h
  | ok intervals =>
      rw [hvalidity] at h
      obtain rfl := Except.ok.inj h
      intro record hmem
      rcases List.mem_cons.mp hmem with rfl | hmem
      · rfl
      · rw [← List.map_uncurry_zip_eq_zipWith] at hmem
        obtain ⟨_, -, rfl⟩ := List.mem_map.mp hmem
        rfl

theorem of_kind_of_mem_emit {month : Month} {timelines : List Timeline} {sending : Sending}
    (h : Timeline.emit month (fun _ => false) timelines = .ok sending) :
    ∀ record ∈ sending.sent, Producer.of record.kind = .emitter := by
  induction timelines generalizing sending with
  | nil =>
      obtain rfl := Except.ok.inj h
      simp
  | cons timeline rest ih =>
      rw [Timeline.emit] at h
      cases hrecords : timeline.records month with
      | error e =>
          rw [hrecords] at h
          cases h
      | ok records =>
          cases hlater : Timeline.emit month (fun _ => false) rest with
          | error e =>
              simp only [hrecords, hlater, Sending.ofRecords_open] at h
              cases h
          | ok later =>
              simp only [hrecords, hlater, Sending.ofRecords_open] at h
              obtain rfl := Except.ok.inj h
              intro record hmem
              rcases List.mem_append.mp hmem with hmem | hmem
              · exact of_kind_of_mem_records hrecords record hmem
              · exact ih hlater record hmem

theorem filter_of_kind {producer : Producer} {records : List Record}
    (h : ∀ record ∈ records, Producer.of record.kind = producer) (other : Producer) :
    (records.filter fun record => Producer.of record.kind = other) =
      if producer = other then records else [] := by
  split
  next heq => exact List.filter_eq_self.mpr fun record hmem => by simp [h record hmem, heq]
  next hne => exact List.filter_eq_nil_iff.mpr fun record hmem => by simp [h record hmem, hne]

theorem ok_of_mapError_bind {α β ε ε' : Type} {x : Except ε α} {f : ε → ε'}
    {next : α → Except ε' β} {b : β} (h : (x.mapError f >>= next) = .ok b) :
    ∃ a, x = .ok a ∧ next a = .ok b := by
  cases x with
  | error e => cases h
  | ok a => exact ⟨a, rfl, h⟩

/-- Each producer of a build does what its plan says. -/
theorem plan_of_produce {lookups : Lookups} {capacity : Nat} {r : Reconciliation}
    {production : Production} (h : produce lookups capacity r = .ok production) :
    ∃ histories emitted edges,
      r.timelines.mapM (Family.History.ofTimeline r.month) = .ok histories ∧
      Timeline.emit r.month (fun _ => false) (r.timelines.map (·.withoutFamilies)) = .ok emitted ∧
      Family.edges r.month histories = .ok edges ∧
      production.plan .emitter = emitted.sent.map .ok ∧
      production.plan .deriver = edges.map (fun edge => .ok (.family edge)) ∧
      production.plan .enricher =
        (Enrichment.run lookups none r.addresses).sent.map (fun record => .ok (.address record)) ++
          match (Enrichment.run lookups none r.addresses).ending with
          | .failed cause => [.error cause]
          | _ => [] := by
  obtain ⟨histories, hhistories, h⟩ := ok_of_mapError_bind h
  obtain ⟨_, -, h⟩ := ok_of_mapError_bind h
  obtain ⟨emitted, hemitted, h⟩ := ok_of_mapError_bind h
  obtain ⟨edges, hedges, h⟩ := ok_of_mapError_bind h
  obtain rfl := Except.ok.inj h
  have hemitter := filter_of_kind (of_kind_of_mem_emit hemitted)
  have hderiver : ∀ record ∈ edges.map Record.family, Producer.of record.kind = .deriver := by
    simp [Record.kind, Producer.of]
  have henricher : ∀ record ∈ (Enrichment.run lookups none r.addresses).sent.map Record.address,
      Producer.of record.kind = .enricher := by
    simp [Record.kind, Producer.of]
  refine ⟨histories, emitted, edges, hhistories, hemitted, hedges, ?_, ?_, ?_⟩
  · simp [Production.plan, List.filter_append, hemitter, filter_of_kind hderiver,
      filter_of_kind henricher]
  · simp [Production.plan, List.filter_append, hemitter, filter_of_kind hderiver,
      filter_of_kind henricher]
  · simp only [Production.plan, List.filter_append, hemitter, filter_of_kind hderiver,
      filter_of_kind henricher]
    cases (Enrichment.run lookups none r.addresses).ending <;> simp

end RelaySnapshot.Build
