import RelaySnapshot.Address
import RelaySnapshot.Calendar.Instant
import RelaySnapshot.ExitPolicy
import RelaySnapshot.Fingerprint.Set

namespace RelaySnapshot

/-- Bytes per second that a relay offers on average, in bursts, and has been seen to carry. -/
structure Bandwidth where
  average : UInt64 := 0
  burst : UInt64 := 0
  observed : UInt64 := 0
  deriving DecidableEq, Repr

structure Descriptor where
  fingerprint : Fingerprint
  nickname : String
  published : Instant
  address : Address
  bandwidth : Bandwidth
  platform : String
  /-- The version of the relay's software. -/
  version : String
  hibernating : Bool
  exitPolicy : ExitPolicy
  /-- The relays that this one says it shares an operator with. -/
  family : FingerprintSet
  deriving DecidableEq

def Descriptor.declares (d : Descriptor) (other : Fingerprint) : Bool :=
  d.family.contains other

end RelaySnapshot
