import RelaySnapshot.Fingerprint.Map
import RelaySnapshot.Timeline

/-!
# Reconciliation

Descriptors arrive in three streams: those of the month itself, those of the month before, of which
only the newest of each relay counts, and recent ones that are in no archive yet. They are collected
by relay and become one timeline for each relay, numbered in the order of fingerprints.
-/

namespace RelaySnapshot

inductive Stream where
  | main
  | complementary
  | recent
  deriving DecidableEq, Repr

structure Collection where
  main : FingerprintMap (List Descriptor) := .empty
  complementary : FingerprintMap Descriptor := .empty
  recent : FingerprintMap (List Descriptor) := .empty

namespace Collection

/-- The newer of a held descriptor, if there is one, and a new one; it stays at equal times. -/
def newest (d : Descriptor) : Option Descriptor → Descriptor
  | some held => if held.published < d.published then d else held
  | none => d

/-- Adds descriptors at the end of those that are held. -/
def appended (more : List Descriptor) (held : Option (List Descriptor)) : List Descriptor :=
  held.getD [] ++ more

def add (c : Collection) (stream : Stream) (d : Descriptor) : Collection :=
  match stream with
  | .main => { c with main := c.main.alter d.fingerprint (appended [d]) }
  | .complementary =>
    { c with complementary := c.complementary.alter d.fingerprint (newest d) }
  | .recent => { c with recent := c.recent.alter d.fingerprint (appended [d]) }

def addAll (c : Collection) (fed : List (Stream × Descriptor)) : Collection :=
  fed.foldl (fun c (stream, d) => c.add stream d) c

def extend (m : FingerprintMap (List Descriptor)) (entries : List (Fingerprint × List Descriptor)) :
    FingerprintMap (List Descriptor) :=
  entries.foldl (fun m (fingerprint, ds) => m.alter fingerprint (appended ds)) m

/-- All descriptors of each relay: main ones, then the complementary one, then recent ones. -/
def merged (c : Collection) : FingerprintMap (List Descriptor) :=
  let withComplementary := extend c.main (c.complementary.entries.map fun (fp, d) => (fp, [d]))
  extend withComplementary c.recent.entries

end Collection

/-- The timelines of the relays of a month, in the order of their fingerprints. -/
structure Reconciliation where
  month : Month
  timelines : List Timeline := []
  /-- The number of each relay. -/
  ids : FingerprintMap NodeId := .empty
  /-- The addresses of all descriptors, in the order in which they are first seen. -/
  addresses : List Address := []

namespace Reconciliation

def sortedByTime (ds : List Descriptor) : List Descriptor :=
  Instant.sortBy Descriptor.published ds

/-- Puts an address behind those seen so far, unless it is one of them. -/
def see (seen : List Address) (address : Address) : List Address :=
  if address ∈ seen then seen else seen ++ [address]

/-- Takes in the next relay and gives it the next number. -/
def enroll (r : Reconciliation) (fingerprint : Fingerprint) (ds : List Descriptor) :
    Reconciliation :=
  let descriptors := sortedByTime ds
  let id : NodeId := r.timelines.length + 1
  { r with
    timelines := r.timelines ++ [⟨fingerprint, id, descriptors⟩]
    ids := r.ids.alter fingerprint fun _ => id
    addresses := (descriptors.map (·.address)).foldl see r.addresses }

def ofCollection (month : Month) (c : Collection) : Reconciliation :=
  c.merged.entries.foldl (fun r (fingerprint, ds) => r.enroll fingerprint ds) { month }

def id? (r : Reconciliation) (fingerprint : Fingerprint) : Option NodeId :=
  r.ids.get? fingerprint

end Reconciliation

end RelaySnapshot
