import RelaySnapshot.Reconciliation

/-!
# Emission

Timelines become records: for each relay its node, then its descriptors with the time in which each
is current. A record whose queue is closed ends the emission.
-/

namespace RelaySnapshot

/-- The records that were sent, and the closed queue that ended the sending, if one did. -/
structure Sending where
  sent : List Record
  stopped : Option RecordKind
  deriving DecidableEq

namespace Sending

/-- Sends records one after the other until one of them meets a closed queue. -/
def ofRecords (closed : RecordKind → Bool) : List Record → Sending
  | [] => ⟨[], none⟩
  | record :: rest =>
    if closed record.kind then ⟨[], some record.kind⟩
    else
      let later := ofRecords closed rest
      { later with sent := record :: later.sent }

end Sending

namespace Timeline

def records (timeline : Timeline) (month : Month) : Except CalendarError (List Record) := do
  let intervals ← timeline.validity month
  let descriptors := List.zipWith (fun d i => Record.descriptor ⟨timeline.id, d, i⟩)
    timeline.descriptors intervals
  return .node ⟨timeline.id, timeline.fingerprint⟩ :: descriptors

/-- Sends the records of timelines; those after a closed queue are not even computed. -/
def emit (month : Month) (closed : RecordKind → Bool) : List Timeline → Except CalendarError Sending
  | [] => .ok ⟨[], none⟩
  | timeline :: rest => do
    let sending := Sending.ofRecords closed (← timeline.records month)
    match sending.stopped with
    | some _ => return sending
    | none =>
      let later ← emit month closed rest
      return { later with sent := sending.sent ++ later.sent }

end Timeline

end RelaySnapshot
