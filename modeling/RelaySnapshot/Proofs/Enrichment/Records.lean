import RelaySnapshot.Build
import RelaySnapshot.Proofs.Enrichment.Answers

/-!
# What enrichment sends

The registry is asked once, or not at all. Each address that it answers for has one record, at the
place of the first answer for it, and the records are sent in order up to a failed lookup or a
closed queue.
-/

namespace RelaySnapshot.Enrichment

variable {lookups : Lookups} {geo : Address → Except LookupError (Option Location)}
variable {answers : List Whois.Answer}

/-! ### The first answer for each address -/

theorem map_address_firstOfEach (seen : List Address) (answers : List Whois.Answer) :
    (firstOfEach seen answers).map (·.address) =
      ((answers.map (·.address)).filter (· ∉ seen)).eraseDups := by
  induction answers generalizing seen with
  | nil => rfl
  | cons first rest ih =>
      rw [firstOfEach, List.map_cons]
      split
      next hold => rw [ih, List.filter_cons_of_neg (by simpa using hold)]
      next hnew =>
        rw [List.filter_cons_of_pos (by simpa using hnew), List.eraseDups_cons, List.map_cons, ih,
          List.filter_filter]
        congr 3
        funext address
        by_cases hsame : address = first.address <;> simp [hsame]

/-- The addresses of the answers, each at the place where it comes first. -/
def distinct (answers : List Whois.Answer) : List Address :=
  (answers.map (·.address)).eraseDups

theorem distinct_eq (answers : List Whois.Answer) :
    distinct answers = (firstOfEach [] answers).map (·.address) := by
  rw [map_address_firstOfEach, distinct]
  simp

theorem find?_of_mem_firstOfEach {seen : List Address} {answer : Whois.Answer}
    (hmem : answer ∈ firstOfEach seen answers) :
    answers.find? (·.address = answer.address) = some answer := by
  induction answers generalizing seen with
  | nil => cases hmem
  | cons first rest ih =>
      have hseen := notMem_of_mem_firstOfEach hmem
      rw [firstOfEach] at hmem
      split at hmem
      next hold =>
        have hne : first.address ≠ answer.address := fun heq => hseen (heq ▸ hold)
        rw [List.find?_cons_of_neg (by simpa using hne), ih hmem]
      next hnew =>
        rcases List.mem_cons.mp hmem with rfl | hmem
        · exact List.find?_cons_of_pos (by simp)
        · have hne : first.address ≠ answer.address := fun heq =>
            notMem_of_mem_firstOfEach hmem (heq ▸ List.mem_cons_self)
          rw [List.find?_cons_of_neg (by simpa using hne), ih hmem]

theorem find?_of_mem_firsts {firsts rest : List Whois.Answer}
    (hsplit : firstOfEach [] answers = firsts ++ rest) :
    ∀ answer ∈ firsts, answers.find? (·.address = answer.address) = some answer := by
  intro answer hmem
  apply find?_of_mem_firstOfEach
  rw [hsplit]
  exact List.mem_append_left rest hmem

/-! ### The records of answers -/

/--
A record says of an address what the registry says first, and what the geographic database says, or
nothing if it has not heard of the address.
-/
structure Describes (geo : Address → Except LookupError (Option Location))
    (answers : List Whois.Answer) (address : Address) (record : AddressRecord) : Prop where
  of_address : record.address = address
  system : ∃ first, answers.find? (·.address = address) = some first ∧
    record.systemNumber = first.number ∧ record.systemName = first.name
  location : ∃ found, geo address = .ok found ∧ record.location = found.getD {}

theorem record_of_geo {answer : Whois.Answer} {found : Option Location}
    (h : geo answer.address = .ok found) : record geo answer =
      .ok ⟨answer.address, answer.number, answer.name, found.getD {}⟩ := by
  rw [record, h]
  rfl

theorem record_of_geo_error {answer : Whois.Answer} {e : LookupError}
    (h : geo answer.address = .error e) : record geo answer = .error e := by
  rw [record, h]
  rfl

theorem describes_iff {answer : Whois.Answer} {r : AddressRecord}
    (hfirst : answers.find? (·.address = answer.address) = some answer) :
    Describes geo answers answer.address r ↔ record geo answer = .ok r := by
  constructor
  · rintro ⟨haddress, ⟨first, hfound, hnumber, hname⟩, found, hgeo, hlocation⟩
    obtain rfl := Option.some.inj (hfirst.symm.trans hfound)
    rw [record_of_geo hgeo, ← hnumber, ← hname, ← hlocation, ← haddress]
  · intro h
    cases hgeo : geo answer.address with
    | error e =>
        rw [record_of_geo_error hgeo] at h
        cases h
    | ok found =>
        rw [record_of_geo hgeo] at h
        cases h
        exact ⟨rfl, ⟨answer, hfirst, rfl, rfl⟩, found, hgeo, rfl⟩

theorem forall₂_describes_iff {firsts : List Whois.Answer} {records : List AddressRecord}
    (hfirsts : ∀ answer ∈ firsts, answers.find? (·.address = answer.address) = some answer) :
    List.Forall₂ (Describes geo answers) (firsts.map (·.address)) records ↔
      firsts.map (record geo) = records.map .ok := by
  induction firsts generalizing records with
  | nil => cases records <;> simp
  | cons answer firsts ih =>
      have hhead (r : AddressRecord) :
          Describes geo answers answer.address r ↔ record geo answer = .ok r :=
        describes_iff (hfirsts answer List.mem_cons_self)
      cases records with
      | nil => simp
      | cons r records =>
          have htail : _ ↔ firsts.map (record geo) = records.map .ok :=
            ih fun other hmem => hfirsts other (List.mem_cons_of_mem _ hmem)
          simp [hhead, htail]

/-! ### Sending -/

/-- Into a queue with room for them records are sent before all else. -/
theorem send_append {room : Option Nat} {records : List AddressRecord}
    (hroom : ∀ n ∈ room, records.length ≤ n) (rest : List (Except LookupError AddressRecord)) :
    send room (records.map .ok ++ rest) =
      let later := send (room.map (· - records.length)) rest
      { later with sent := records ++ later.sent } := by
  induction records generalizing room with
  | nil => cases room <;> rfl
  | cons r records ih =>
      cases room with
      | none =>
          have hrest : send none (records.map .ok ++ rest) = _ := ih (by simp)
          simp [send, hrest]
      | some n =>
          have hlength : records.length + 1 ≤ n := hroom n rfl
          obtain ⟨n, rfl⟩ : ∃ k, n = k + 1 := ⟨n - 1, by omega⟩
          have hrest : send (some n) (records.map .ok ++ rest) = _ := ih (by simp; omega)
          simp [send, hrest]

variable {room : Option Nat} {records : List AddressRecord}

theorem send_all (hroom : ∀ n ∈ room, records.length ≤ n) :
    send room (records.map .ok) = ⟨records, .finished⟩ := by
  simpa [send] using send_append hroom []

theorem send_failed (hroom : ∀ n ∈ room, records.length ≤ n) (e : LookupError)
    (rest : List (Except LookupError AddressRecord)) :
    send room (records.map .ok ++ .error e :: rest) = ⟨records, .failed e⟩ := by
  simp [send_append hroom, send]

theorem send_closed (r : AddressRecord) (rest : List (Except LookupError AddressRecord)) :
    send (some records.length) (records.map .ok ++ .ok r :: rest) = ⟨records, .queueClosed⟩ := by
  rw [send_append (by simp)]
  simp [send]

/-- Sending goes on to the end, or until a lookup has failed or a record has no room. -/
theorem exists_stop (room : Option Nat) (items : List (Except LookupError AddressRecord)) :
    ∃ (records : List AddressRecord) (rest : List (Except LookupError AddressRecord)),
      items = records.map .ok ++ rest ∧ (∀ n ∈ room, records.length ≤ n) ∧
        ∀ r later, rest = .ok r :: later → room = some records.length := by
  induction items generalizing room with
  | nil => exact ⟨[], [], rfl, by simp, by simp⟩
  | cons item items ih =>
      cases item with
      | error e => exact ⟨[], .error e :: items, rfl, by simp, by simp⟩
      | ok r =>
          by_cases hfull : room = some 0
          · exact ⟨[], .ok r :: items, rfl, by simp, fun _ _ _ => hfull⟩
          obtain ⟨records, rest, rfl, hroom, hstop⟩ := ih (room.map (· - 1))
          refine ⟨r :: records, rest, rfl, ?_, fun r' later hrest => ?_⟩
          · rintro n rfl
            have hle := hroom (n - 1) rfl
            have hpos : n ≠ 0 := fun hzero => hfull (by rw [hzero])
            rw [List.length_cons]
            omega
          · obtain ⟨n, rfl, hlast⟩ := Option.map_eq_some_iff.mp (hstop r' later hrest)
            have hpos : n ≠ 0 := fun hzero => hfull (by rw [hzero])
            rw [List.length_cons, Option.some.injEq]
            omega

/-! ### Enrichment -/

/-- What may come of an enrichment: what the registry is asked, what is sent, and what is said. -/
inductive Enriches (lookups : Lookups) (room : Option Nat) (addresses : List Address) :
    (asked : List (List Address)) → (sent : List AddressRecord) →
      (result : Except BuildError Nat) → Prop
  | nothing (hnone : addresses = []) : Enriches lookups room addresses [] [] (.ok 0)
  | unanswered {e : LookupError} (hsome : addresses ≠ [])
      (hanswers : lookups.registry addresses = .error e) :
      Enriches lookups room addresses [addresses] [] (.error (.enrichment e))
  /-- Each address that is answered has its record. -/
  | all {answers : List Whois.Answer} {records : List AddressRecord} (hsome : addresses ≠ [])
      (hanswers : lookups.registry addresses = .ok answers)
      (hrecords : List.Forall₂ (Describes lookups.geo answers) (distinct answers) records)
      (hroom : ∀ n ∈ room, records.length ≤ n) :
      Enriches lookups room addresses [addresses] records (.ok records.length)
  /-- The addresses before one whose place cannot be looked up have their records. -/
  | failed {answers : List Whois.Answer} {before after : List Address} {address : Address}
      {records : List AddressRecord} {e : LookupError} (hsome : addresses ≠ [])
      (hanswers : lookups.registry addresses = .ok answers)
      (hdistinct : distinct answers = before ++ address :: after)
      (hrecords : List.Forall₂ (Describes lookups.geo answers) before records)
      (hgeo : lookups.geo address = .error e) (hroom : ∀ n ∈ room, records.length ≤ n) :
      Enriches lookups room addresses [addresses] records (.error (.enrichment e))
  /-- The queue is closed when the record of an address is due. -/
  | closed {answers : List Whois.Answer} {before after : List Address} {address : Address}
      {records : List AddressRecord} {found : Option Location} (hsome : addresses ≠ [])
      (hanswers : lookups.registry addresses = .ok answers)
      (hdistinct : distinct answers = before ++ address :: after)
      (hrecords : List.Forall₂ (Describes lookups.geo answers) before records)
      (hgeo : lookups.geo address = .ok found) (hroom : room = some records.length) :
      Enriches lookups room addresses [addresses] records (.error (.queueClosed .addresses))

variable {addresses : List Address}

theorem run_of_error {e : LookupError} (hsome : addresses ≠ [])
    (hanswers : lookups.registry addresses = .error e) (room : Option Nat) :
    run lookups room addresses = ⟨[], .failed e⟩ := by
  rw [run, inquire, if_neg (by simpa using hsome), hanswers]
  rfl

theorem run_of_ok (hsome : addresses ≠ [])
    (hanswers : lookups.registry addresses = .ok answers) (room : Option Nat) :
    run lookups room addresses =
      send room ((firstOfEach [] answers).map (record lookups.geo)) := by
  rw [run, inquire, if_neg (by simpa using hsome), hanswers]
  rfl

/-- That the registry is observed does not change what comes of the enrichment. -/
theorem converse_eq (lookups : Lookups) (room : Option Nat) (addresses : List Address) :
    converse lookups room addresses =
      (run lookups room addresses, if addresses = [] then [] else [addresses]) := by
  by_cases hnone : addresses = []
  · subst hnone
    rfl
  · rw [if_neg hnone, converse, inquire, if_neg (by simpa using hnone)]
    cases hanswers : lookups.registry addresses with
    | error e =>
        rw [run_of_error hnone hanswers]
        simp [noting, hanswers]
        rfl
    | ok answers =>
        rw [run_of_ok hnone hanswers]
        simp [noting, hanswers]
        rfl

theorem exists_map_record {before after : List Address} {address : Address}
    (hdistinct : distinct answers = before ++ address :: after)
    (hrecords : List.Forall₂ (Describes geo answers) before records) :
    ∃ answer later, answer.address = address ∧
      (firstOfEach [] answers).map (record geo) =
        records.map .ok ++ record geo answer :: later := by
  rw [distinct_eq] at hdistinct
  obtain ⟨firsts, rest, hsplit, rfl, hrest⟩ := List.map_eq_append_iff.mp hdistinct
  obtain ⟨answer, later, rfl, haddress, -⟩ := List.map_eq_cons_iff.mp hrest
  have hfirsts := (forall₂_describes_iff (find?_of_mem_firsts hsplit)).mp hrecords
  refine ⟨answer, later.map (record geo), haddress, ?_⟩
  rw [hsplit, List.map_append, hfirsts, List.map_cons]

theorem Enriches.run_eq {asked : List (List Address)} {sent : List AddressRecord}
    {result : Except BuildError Nat} (h : Enriches lookups room addresses asked sent result) :
    asked = (if addresses = [] then [] else [addresses]) ∧
      (run lookups room addresses).sent = sent ∧ (run lookups room addresses).report = result := by
  cases h with
  | nothing hnone =>
      subst hnone
      exact ⟨rfl, rfl, rfl⟩
  | unanswered hsome hanswers =>
      rw [if_neg hsome, run_of_error hsome hanswers]
      exact ⟨rfl, rfl, rfl⟩
  | all hsome hanswers hrecords hroom =>
      rw [distinct_eq] at hrecords
      have hitems := (forall₂_describes_iff fun _ => find?_of_mem_firstOfEach).mp hrecords
      rw [if_neg hsome, run_of_ok hsome hanswers, hitems, send_all hroom]
      exact ⟨rfl, rfl, rfl⟩
  | failed hsome hanswers hdistinct hrecords hgeo hroom =>
      obtain ⟨answer, later, rfl, hitems⟩ := exists_map_record hdistinct hrecords
      rw [if_neg hsome, run_of_ok hsome hanswers, hitems, record_of_geo_error hgeo,
        send_failed hroom]
      exact ⟨rfl, rfl, rfl⟩
  | closed hsome hanswers hdistinct hrecords hgeo hroom =>
      obtain ⟨answer, later, rfl, hitems⟩ := exists_map_record hdistinct hrecords
      rw [if_neg hsome, run_of_ok hsome hanswers, hitems, record_of_geo hgeo, hroom, send_closed]
      exact ⟨rfl, rfl, rfl⟩

theorem exists_enriches (lookups : Lookups) (room : Option Nat) (addresses : List Address) :
    ∃ asked sent result, Enriches lookups room addresses asked sent result := by
  by_cases hsome : addresses = []
  · exact ⟨_, _, _, .nothing hsome⟩
  cases hanswers : lookups.registry addresses with
  | error e => exact ⟨_, _, _, .unanswered hsome hanswers⟩
  | ok answers =>
      obtain ⟨records, rest, hitems, hroom, hstop⟩ :=
        exists_stop room ((firstOfEach [] answers).map (record lookups.geo))
      obtain ⟨firsts, others, hsplit, hfirsts, rfl⟩ := List.map_eq_append_iff.mp hitems
      have hrecords : List.Forall₂ (Describes lookups.geo answers) (firsts.map (·.address))
          records := (forall₂_describes_iff (find?_of_mem_firsts hsplit)).mpr hfirsts
      have hdistinct : distinct answers = firsts.map (·.address) ++ others.map (·.address) := by
        rw [distinct_eq, hsplit, List.map_append]
      cases others with
      | nil =>
          rw [List.map_nil, List.append_nil] at hdistinct
          exact ⟨_, _, _, .all hsome hanswers (hdistinct ▸ hrecords) hroom⟩
      | cons answer others =>
          rw [List.map_cons] at hdistinct
          cases hgeo : lookups.geo answer.address with
          | error e => exact ⟨_, _, _, .failed hsome hanswers hdistinct hrecords hgeo hroom⟩
          | ok found =>
              have hfull := hstop _ _ (by rw [List.map_cons, record_of_geo hgeo])
              exact ⟨_, _, _, .closed hsome hanswers hdistinct hrecords hgeo hfull⟩

/-- One of the lookups that an enrichment asks for fails. -/
def LookupFails (lookups : Lookups) (addresses : List Address) (cause : LookupError) : Prop :=
  addresses ≠ [] ∧ (lookups.registry addresses = .error cause ∨
    ∃ answers, lookups.registry addresses = .ok answers ∧
      ∃ answer ∈ answers, lookups.geo answer.address = .error cause)

theorem report_eq_error_iff {outcome : Outcome} {cause : LookupError} :
    outcome.report = .error (.enrichment cause) ↔ outcome.ending = .failed cause := by
  rw [Outcome.report]
  cases outcome.ending <;> simp

theorem lookupFails_of_ending {cause : LookupError}
    (h : (run lookups room addresses).ending = .failed cause) :
    LookupFails lookups addresses cause := by
  obtain ⟨asked, sent, result, henriches⟩ := exists_enriches lookups room addresses
  obtain ⟨-, -, hresult⟩ := henriches.run_eq
  rw [report_eq_error_iff.mpr h] at hresult
  cases henriches with
  | nothing | all | closed => cases hresult
  | unanswered hsome hanswers =>
      cases hresult
      exact ⟨hsome, .inl hanswers⟩
  | @failed answers before after address _ e hsome hanswers hdistinct hrecords hgeo hroom =>
      cases hresult
      have hmem : address ∈ distinct answers := by
        rw [hdistinct]
        simp
      rw [distinct, List.mem_eraseDups] at hmem
      obtain ⟨answer, hanswer, rfl⟩ := List.mem_map.mp hmem
      exact ⟨hsome, .inr ⟨answers, hanswers, answer, hanswer, hgeo⟩⟩

/-- If all addresses are described, no lookup fails. -/
theorem not_lookupFails {records : List AddressRecord} {cause : LookupError}
    (hanswers : lookups.registry addresses = .ok answers)
    (hrecords : List.Forall₂ (Describes lookups.geo answers) (distinct answers) records) :
    ¬ LookupFails lookups addresses cause := by
  rintro ⟨-, hregistry | ⟨answers', hanswers', answer, hanswer, hgeo⟩⟩
  · cases hanswers.symm.trans hregistry
  · cases hanswers.symm.trans hanswers'
    have hmem : answer.address ∈ distinct answers := by
      rw [distinct, List.mem_eraseDups]
      exact List.mem_map_of_mem hanswer
    obtain ⟨i, hi, haddress⟩ := List.getElem_of_mem hmem
    have hdescribes := hrecords.get hi (hrecords.length_eq ▸ hi)
    obtain ⟨found, hfound, -⟩ := hdescribes.location
    rw [List.get_eq_getElem, haddress, hgeo] at hfound
    cases hfound

/-- A lookup that fails fails the enrichment, unless the queue is closed before. -/
theorem exists_failed {cause : LookupError} (h : LookupFails lookups addresses cause) :
    ∃ e, (run lookups none addresses).ending = .failed e := by
  obtain ⟨asked, sent, result, henriches⟩ := exists_enriches lookups none addresses
  obtain ⟨-, -, hresult⟩ := henriches.run_eq
  cases henriches with
  | nothing hnone => exact absurd hnone h.1
  | unanswered | failed => exact ⟨_, report_eq_error_iff.mp hresult⟩
  | all hsome hanswers hrecords hroom => exact absurd h (not_lookupFails hanswers hrecords)
  | closed hsome hanswers hdistinct hrecords hgeo hroom => cases hroom

/--
What comes of an enrichment is what may come of it: one question or none, one record for each
address that is answered up to a failure or a closed queue, and the number of these or the failure.
-/
theorem enriches_iff (lookups : Lookups) (room : Option Nat) (addresses : List Address)
    (asked : List (List Address)) (sent : List AddressRecord) (result : Except BuildError Nat) :
    Enriches lookups room addresses asked sent result ↔
      converse lookups room addresses = (run lookups room addresses, asked) ∧
        (run lookups room addresses).sent = sent ∧
        (run lookups room addresses).report = result := by
  rw [converse_eq, Prod.mk.injEq, and_iff_right rfl]
  constructor
  · intro h
    obtain ⟨hasked, hrun⟩ := h.run_eq
    exact ⟨hasked.symm, hrun⟩
  · rintro ⟨rfl, rfl, rfl⟩
    obtain ⟨asked, sent, result, h⟩ := exists_enriches lookups room addresses
    obtain ⟨rfl, rfl, rfl⟩ := h.run_eq
    exact h

/-- Of two answers for an address the second counts for nothing, not even for the room it needs. -/
example :
    let lookups : Lookups :=
      ⟨fun _ => .ok [⟨1, "A", .v4 7⟩, ⟨2, "B", .v4 7⟩, ⟨3, "C", .v4 8⟩], fun _ => .ok none⟩
    run lookups (some 1) [.v4 7, .v4 8] = ⟨[⟨.v4 7, 1, "A", {}⟩], .queueClosed⟩ := by
  decide

end RelaySnapshot.Enrichment
