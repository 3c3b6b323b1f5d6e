import RelaySnapshot.Enrichment
import RelaySnapshot.Proofs.Store.Reading

namespace RelaySnapshot

/-- Nobody who is asked fails, and coordinates are such as a store keeps. -/
structure Lookups.Answer (lookups : Lookups) : Prop where
  registry : ∀ addresses, ∃ answers, lookups.registry addresses = .ok answers
  geo : ∀ address, ∃ location, lookups.geo address = .ok location ∧ ∀ l ∈ location, l.Plain

theorem Location.plain_unknown : ({} : Location).Plain where
  latitude := by simp
  longitude := by simp

namespace Enrichment

theorem notMem_of_mem_firstOfEach {seen : List Address} {answers : List Whois.Answer}
    {answer : Whois.Answer} (hmem : answer ∈ firstOfEach seen answers) : answer.address ∉ seen := by
  induction answers generalizing seen with
  | nil => cases hmem
  | cons first rest ih =>
      rw [firstOfEach] at hmem
      split at hmem
      · exact ih hmem
      next hnew =>
        rcases List.mem_cons.mp hmem with rfl | hmem
        · exact hnew
        · exact fun hold => ih hmem (List.mem_cons_of_mem _ hold)

theorem nodup_firstOfEach (seen : List Address) (answers : List Whois.Answer) :
    ((firstOfEach seen answers).map (·.address)).Nodup := by
  induction answers generalizing seen with
  | nil => exact .nil
  | cons first rest ih =>
      rw [firstOfEach]
      split
      · exact ih seen
      · rw [List.map_cons, List.nodup_cons]
        refine ⟨fun hmem => ?_, ih _⟩
        obtain ⟨answer, hanswer, heq⟩ := List.mem_map.mp hmem
        exact notMem_of_mem_firstOfEach hanswer (heq ▸ List.mem_cons_self)

/-- Into a queue with room for everything all records are sent. -/
theorem send_none (records : List AddressRecord) :
    send none (records.map .ok) = ⟨records, .finished⟩ := by
  induction records with
  | nil => rfl
  | cons record records ih => simp [send, ih]

variable {lookups : Lookups}

theorem exists_record (h : lookups.Answer) (answer : Whois.Answer) :
    ∃ found, record lookups.geo answer = .ok found ∧ found.address = answer.address ∧
      found.location.Plain := by
  obtain ⟨location, hlocation, hplain⟩ := h.geo answer.address
  refine ⟨⟨answer.address, answer.number, answer.name, location.getD {}⟩, ?_, rfl, ?_⟩
  · rw [record, hlocation]
    rfl
  · cases location with
    | none => exact Location.plain_unknown
    | some l => exact hplain l rfl

theorem exists_records (h : lookups.Answer) (answers : List Whois.Answer) :
    ∃ found : List AddressRecord, answers.map (record lookups.geo) = found.map .ok ∧
      found.map (·.address) = answers.map (·.address) ∧ ∀ r ∈ found, r.location.Plain := by
  induction answers with
  | nil => exact ⟨[], rfl, rfl, by simp⟩
  | cons answer answers ih =>
      obtain ⟨first, hfirst, haddress, hplain⟩ := exists_record h answer
      obtain ⟨later, hlater, haddresses, hplains⟩ := ih
      refine ⟨first :: later, ?_, ?_, List.forall_mem_cons.mpr ⟨hplain, hplains⟩⟩
      · rw [List.map_cons, List.map_cons, hfirst, hlater]
      · rw [List.map_cons, List.map_cons, haddress, haddresses]

/-- With answers, enrichment comes to its end and has sent no address twice. -/
theorem exists_run (h : lookups.Answer) (addresses : List Address) :
    ∃ found, run lookups none addresses = ⟨found, .finished⟩ ∧
      (found.map (·.address)).Nodup ∧ ∀ r ∈ found, r.location.Plain := by
  rw [run, inquire]
  split
  · exact ⟨[], rfl, .nil, by simp⟩
  · obtain ⟨answers, hanswers⟩ := h.registry addresses
    obtain ⟨found, hfound, haddresses, hplain⟩ := exists_records h (firstOfEach [] answers)
    refine ⟨found, ?_, ?_, hplain⟩
    · rw [hanswers]
      change send none ((firstOfEach [] answers).map (record lookups.geo)) = _
      rw [hfound, send_none]
    · rw [haddresses]
      exact nodup_firstOfEach [] answers

end Enrichment

end RelaySnapshot
