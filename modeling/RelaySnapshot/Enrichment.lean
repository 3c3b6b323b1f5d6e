import RelaySnapshot.Geo
import RelaySnapshot.Whois

namespace RelaySnapshot

inductive LookupError where
  | whois (cause : Whois.Error)
  | geo (cause : Geo.Error)
  | other (text : String)
  deriving DecidableEq, Repr

def LookupError.message : LookupError → String
  | .whois cause => cause.message
  | .geo cause => s!"geo database error: {cause.message}"
  | .other text => text

structure Lookups where
  registry : List Address → Except LookupError (List Whois.Answer)
  geo : Address → Except LookupError (Option Location)

namespace Enrichment

/-- Of several answers for an address the first, given the addresses that were answered before. -/
def firstOfEach : (seen : List Address) → List Whois.Answer → List Whois.Answer
  | _, [] => []
  | seen, answer :: rest =>
    if answer.address ∈ seen then firstOfEach seen rest
    else answer :: firstOfEach (answer.address :: seen) rest

def record (geo : Address → Except LookupError (Option Location)) (answer : Whois.Answer) :
    Except LookupError AddressRecord := do
  let location ← geo answer.address
  return ⟨answer.address, answer.number, answer.name, location.getD {}⟩

inductive Ending where
  | finished
  | failed (cause : LookupError)
  | queueClosed
  deriving DecidableEq, Repr

structure Outcome where
  sent : List AddressRecord
  ending : Ending
  deriving DecidableEq

/-- Sends records into a queue that takes `room` more of them, or any number. -/
def send (room : Option Nat) : List (Except LookupError AddressRecord) → Outcome
  | [] => ⟨[], .finished⟩
  | .error e :: _ => ⟨[], .failed e⟩
  | .ok record :: rest =>
    match room with
    | some 0 => ⟨[], .queueClosed⟩
    | room =>
      let later := send (room.map (· - 1)) rest
      { later with sent := record :: later.sent }

/--
Asks a registry for the addresses, if there are any, and sends a record for each one that is
answered. The asking may be of any kind, so that it can be observed.
-/
def inquire {m : Type → Type} [Monad m]
    (registry : List Address → m (Except LookupError (List Whois.Answer)))
    (geo : Address → Except LookupError (Option Location)) (room : Option Nat)
    (addresses : List Address) : m Outcome :=
  if addresses.isEmpty then return ⟨[], .finished⟩
  else do
    match ← registry addresses with
    | .error e => return ⟨[], .failed e⟩
    | .ok answers => return send room ((firstOfEach [] answers).map (record geo))

def run (lookups : Lookups) (room : Option Nat) (addresses : List Address) : Outcome :=
  inquire (m := Id) lookups.registry lookups.geo room addresses

/-- Asks a registry and keeps a list of what it has been asked. -/
def noting (registry : List Address → Except LookupError (List Whois.Answer))
    (addresses : List Address) :
    StateM (List (List Address)) (Except LookupError (List Whois.Answer)) := do
  modify (· ++ [addresses])
  return registry addresses

/-- What comes of the enrichment of addresses, and what the registry has been asked for it. -/
def converse (lookups : Lookups) (room : Option Nat) (addresses : List Address) :
    Outcome × List (List Address) :=
  (inquire (noting lookups.registry) lookups.geo room addresses).run []

end Enrichment

end RelaySnapshot
