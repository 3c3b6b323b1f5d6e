namespace RelaySnapshot

inductive Address where
  | v4 (word : BitVec 32)
  | v6 (word : BitVec 128)
  deriving DecidableEq, Repr

namespace Address

def bytes (word : BitVec 32) : List Nat :=
  [24, 16, 8, 0].map fun shift => word.toNat / Nat.pow 2 shift % 256

def groups (word : BitVec 128) : List Nat :=
  [112, 96, 80, 64, 48, 32, 16, 0].map fun shift => word.toNat / Nat.pow 2 shift % 65536

/-- The word of `width` bits whose digits in base `base` are given, the highest first. -/
def ofParts (width base : Nat) (parts : List Nat) : BitVec width :=
  BitVec.ofNat width (parts.foldl (fun n part => base * n + part) 0)

/-- The version 4 address that a version 6 word stands for, if it is in the range mapped to them. -/
def mapped? (word : BitVec 128) : Option (BitVec 32) :=
  if word.toNat / Nat.pow 2 32 = 0xFFFF then some (BitVec.ofNat 32 word.toNat) else none

end Address

end RelaySnapshot
