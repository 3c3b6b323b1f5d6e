import RelaySnapshot.Text.Basic

/-!
# UTF-8

Reading bytes as text. Bytes that are no character are replaced: each longest beginning of a
character that is not carried on counts as one replacement character, and the byte after it is read
afresh.
-/

namespace RelaySnapshot.Utf8

/-- How a character goes on after its first byte. -/
structure Lead where
  /-- What the first byte contributes. -/
  bits : Nat
  /-- How many bytes follow. -/
  more : Nat
  /-- The least and the greatest second byte. -/
  low : Nat := 0x80
  high : Nat := 0xBF

def lead? (b : Nat) : Option Lead :=
  if b < 0x80 then some ⟨b, 0, 0x80, 0xBF⟩
  else if b < 0xC2 then none
  else if b < 0xE0 then some ⟨b - 0xC0, 1, 0x80, 0xBF⟩
  else if b = 0xE0 then some ⟨0, 2, 0xA0, 0xBF⟩
  else if b = 0xED then some ⟨13, 2, 0x80, 0x9F⟩
  else if b < 0xF0 then some ⟨b - 0xE0, 2, 0x80, 0xBF⟩
  else if b = 0xF0 then some ⟨0, 3, 0x90, 0xBF⟩
  else if b < 0xF4 then some ⟨b - 0xF0, 3, 0x80, 0xBF⟩
  else if b = 0xF4 then some ⟨4, 3, 0x80, 0x8F⟩
  else none

/-- Reads `more` further bytes, the first of them between `low` and `high`. -/
def readTail : (more low high bits : Nat) → List UInt8 → Option Nat × List UInt8
  | 0, _, _, bits, rest => (some bits, rest)
  | _ + 1, _, _, _, [] => (none, [])
  | more + 1, low, high, bits, c :: rest =>
    if low ≤ c.toNat ∧ c.toNat ≤ high then
      readTail more 0x80 0xBF (64 * bits + (c.toNat - 0x80)) rest
    else (none, c :: rest)

/-- Reads a character whose first byte is given; the bytes after it are left. -/
def readChar (b : UInt8) (rest : List UInt8) : Option Char × List UInt8 :=
  match lead? b.toNat with
  | none => (none, rest)
  | some lead =>
    let (value, rest) := readTail lead.more lead.low lead.high lead.bits rest
    (value.map Char.ofNat, rest)

theorem length_readTail_le (more low high bits : Nat) (rest : List UInt8) :
    (readTail more low high bits rest).2.length ≤ rest.length := by
  induction more generalizing low high bits rest with
  | zero => simp [readTail]
  | succ more ih =>
    cases rest with
    | nil => simp [readTail]
    | cons c rest =>
      simp only [readTail]
      split
      · exact Nat.le_succ_of_le (ih ..)
      · simp

theorem length_readChar_le (b : UInt8) (rest : List UInt8) :
    (readChar b rest).2.length ≤ rest.length := by
  unfold readChar
  split
  · simp
  · exact length_readTail_le ..

/-- The characters that the bytes are, and nothing in place of what is none. -/
def decodeEach : List UInt8 → List (Option Char)
  | [] => []
  | b :: rest =>
    (readChar b rest).1 :: decodeEach (readChar b rest).2
termination_by bytes => bytes.length
decreasing_by
  have := length_readChar_le b rest
  simp only [List.length_cons]
  omega

def replacement : Char := Char.ofNat 0xFFFD

def decodeLossy (bytes : List UInt8) : Text :=
  (decodeEach bytes).map (·.getD replacement)

/-- The text that the bytes are, if all of them belong to a character. -/
def decode? (bytes : List UInt8) : Option Text :=
  (decodeEach bytes).mapM id

end RelaySnapshot.Utf8
