import RelaySnapshot.Address
import RelaySnapshot.Text.Decimal
import RelaySnapshot.Text.Hexadecimal

namespace RelaySnapshot.Address

open Text

def joined (mark : Char) (parts : List Text) : Text :=
  [mark].intercalate parts

def writeBytes (word : BitVec 32) : Text :=
  joined '.' ((bytes word).map Decimal.write)

/-- The start and the length of the first longest run of zeros. -/
def longestZeros (groups : List Nat) : Nat × Nat :=
  go 0 groups
where
  go (start : Nat) : List Nat → Nat × Nat
    | [] => (start, 0)
    | g :: rest =>
      let here := ((g :: rest).takeWhile (· == 0)).length
      let later := go (start + 1) rest
      if later.2 ≤ here then (start, here) else later

def writeGroups (groups : List Nat) : Text :=
  joined ':' (groups.map Hexadecimal.write)

def writeWord (word : BitVec 128) : Text :=
  match mapped? word with
  | some word => "::ffff:".toList ++ writeBytes word
  | none =>
    let all := groups word
    let (start, length) := longestZeros all
    if length ≤ 1 then writeGroups all
    else writeGroups (all.take start) ++ "::".toList ++ writeGroups (all.drop (start + length))

def write : Address → Text
  | .v4 word => writeBytes word
  | .v6 word => writeWord word

def text (address : Address) : String :=
  String.ofList address.write

instance : ToString Address := ⟨text⟩

end RelaySnapshot.Address
