import RelaySnapshot.Calendar.Month
import RelaySnapshot.Record

/-!
# Timelines

The descriptors of one relay in the order of their publication. Each is current until the next one;
the first is taken to be current a day before its publication, and the last until the month ends.
-/

namespace RelaySnapshot

structure Timeline where
  fingerprint : Fingerprint
  id : NodeId
  descriptors : List Descriptor

namespace Timeline

/-- The intervals between successive instants, the last of which ends at `finish`. -/
def intervals (finish : Instant) : List Instant → List Interval
  | [] => []
  | [t] => [⟨t, finish⟩]
  | t :: u :: rest => ⟨t, u⟩ :: intervals finish (u :: rest)

/-- The intervals, with the first one begun a day earlier. -/
def backdated : List Interval → Except CalendarError (List Interval)
  | [] => .ok []
  | first :: rest => do
    let start ← first.start.dayBefore
    return { first with start } :: rest

/-- For each descriptor the time in which it is the current one. -/
def validity (timeline : Timeline) (month : Month) : Except CalendarError (List Interval) := do
  let finish ← month.lastInstant
  backdated (intervals finish (timeline.descriptors.map (·.published)))

/-- The timeline with no family declared in its descriptors. -/
def withoutFamilies (timeline : Timeline) : Timeline :=
  { timeline with
    descriptors := timeline.descriptors.map fun d => { d with family := .empty } }

end Timeline

end RelaySnapshot
