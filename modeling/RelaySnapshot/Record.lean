import RelaySnapshot.Descriptor
import RelaySnapshot.Double

namespace RelaySnapshot

abbrev NodeId := Int

/-- The instants from `start` up to but without `stop`. -/
structure Interval where
  start : Instant
  stop : Instant
  deriving DecidableEq

def Interval.contains (i : Interval) (t : Instant) : Bool :=
  decide (i.start ≤ t) && decide (t < i.stop)

structure NodeRecord where
  id : NodeId
  fingerprint : Fingerprint
  deriving DecidableEq

/-- A descriptor and the time in which it is the current one of its relay. -/
structure DescriptorRecord where
  node : NodeId
  descriptor : Descriptor
  validity : Interval
  deriving DecidableEq

/-- A time in which two relays declare each other as family. -/
structure FamilyEdge where
  first : NodeId
  second : NodeId
  time : Interval
  deriving DecidableEq

/-- Where an address lies: a country code and coordinates, as far as they are known. -/
structure Location where
  country : Option String := none
  latitude : Option Double := none
  longitude : Option Double := none
  deriving DecidableEq

/-- The autonomous system that announces an address, and where the address lies. -/
structure AddressRecord where
  address : Address
  systemNumber : UInt32
  systemName : String
  location : Location
  deriving DecidableEq

inductive RecordKind where
  | nodes
  | descriptors
  | families
  | addresses
  deriving DecidableEq, Repr

def RecordKind.name : RecordKind → String
  | .nodes => "nodes"
  | .descriptors => "descriptors"
  | .families => "families"
  | .addresses => "geoip"

inductive Record where
  | node (record : NodeRecord)
  | descriptor (record : DescriptorRecord)
  | family (record : FamilyEdge)
  | address (record : AddressRecord)
  deriving DecidableEq

namespace Record

def kind : Record → RecordKind
  | .node _ => .nodes
  | .descriptor _ => .descriptors
  | .family _ => .families
  | .address _ => .addresses

def node? : Record → Option NodeRecord
  | .node record => some record
  | _ => none

def descriptor? : Record → Option DescriptorRecord
  | .descriptor record => some record
  | _ => none

def family? : Record → Option FamilyEdge
  | .family record => some record
  | _ => none

def address? : Record → Option AddressRecord
  | .address record => some record
  | _ => none

end Record

end RelaySnapshot
