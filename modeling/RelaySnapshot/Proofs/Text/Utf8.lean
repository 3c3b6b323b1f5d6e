import Mathlib.Tactic.IntervalCases
import RelaySnapshot.Text.Utf8

namespace RelaySnapshot.Utf8

def encode (s : Text) : List UInt8 :=
  s.flatMap String.utf8EncodeChar

theorem encode_cons (c : Char) (s : Text) : encode (c :: s) = String.utf8EncodeChar c ++ encode s :=
  List.flatMap_cons

theorem encode_append (s s' : Text) : encode (s ++ s') = encode s ++ encode s' :=
  List.flatMap_append

/-! ### First bytes -/

theorem lead?_two {k : Nat} (hlow : 2 ≤ k) (hhigh : k < 32) :
    lead? (k + 192) = some ⟨k, 1, 0x80, 0xBF⟩ := by
  interval_cases k <;> rfl

theorem lead?_three {k : Nat} (hk : k < 16) :
    lead? (k + 224) =
      some ⟨k, 2, if k = 0 then 0xA0 else 0x80, if k = 13 then 0x9F else 0xBF⟩ := by
  interval_cases k <;> rfl

theorem lead?_four {k : Nat} (hk : k < 5) :
    lead? (k + 240) = some ⟨k, 3, if k = 0 then 0x90 else 0x80, if k = 4 then 0x8F else 0xBF⟩ := by
  interval_cases k <;> rfl

/-! ### Characters -/

theorem readTail_cons {x low high : Nat} (more bits : Nat) (hx : x < 64) (hlow : low ≤ x + 128)
    (hhigh : x + 128 ≤ high) (rest : List UInt8) :
    readTail (more + 1) low high bits (UInt8.ofNat (x + 128) :: rest) =
      readTail more 0x80 0xBF (64 * bits + x) rest := by
  have hbyte : (UInt8.ofNat (x + 128)).toNat = x + 128 := by
    rw [UInt8.toNat_ofNat']
    omega
  rw [readTail, hbyte, if_pos ⟨hlow, hhigh⟩, Nat.add_sub_cancel]

theorem readChar_of_lead? {b bits more low high : Nat} (hb : b < 256)
    (h : lead? b = some ⟨bits, more, low, high⟩) {tail rest : List UInt8} {c : Char}
    (htail : readTail more low high bits (tail ++ rest) = (some c.toNat, rest)) :
    readChar (UInt8.ofNat b) (tail ++ rest) = (some c, rest) := by
  have hbyte : (UInt8.ofNat b).toNat = b := by
    rw [UInt8.toNat_ofNat']
    omega
  rw [readChar, hbyte, h]
  dsimp only
  rw [htail, Option.map_some, Char.ofNat_toNat]

/-- A character is read from its bytes, and what comes after them is left. -/
theorem exists_readChar (c : Char) (rest : List UInt8) :
    ∃ b tail, String.utf8EncodeChar c = b :: tail ∧ readChar b (tail ++ rest) = (some c, rest) := by
  have hvalid : c.toNat < 0xD800 ∨ 0xDFFF < c.toNat ∧ c.toNat < 0x110000 := c.valid
  have hvalue : c.val.toNat = c.toNat := rfl
  rw [String.utf8EncodeChar]
  simp only [hvalue]
  split
  next hone =>
    have hlead : lead? c.toNat = some ⟨c.toNat, 0, 0x80, 0xBF⟩ := by
      rw [lead?, if_pos (by omega)]
    exact ⟨_, _, rfl, readChar_of_lead? (by omega) hlead rfl⟩
  next hone =>
    split
    next htwo =>
      refine ⟨_, _, rfl, readChar_of_lead? (by omega) (lead?_two (by omega) (by omega)) ?_⟩
      rw [List.singleton_append, readTail_cons 0 _ (by omega) (by omega) (by omega), readTail]
      congr 2
      omega
    next htwo =>
      split
      next hthree =>
        refine ⟨_, _, rfl, readChar_of_lead? (by omega) (lead?_three (by omega)) ?_⟩
        rw [List.cons_append, List.singleton_append,
          readTail_cons 1 _ (by omega) (by split <;> omega) (by split <;> omega),
          readTail_cons 0 _ (by omega) (by omega) (by omega), readTail]
        congr 2
        omega
      next hthree =>
        refine ⟨_, _, rfl, readChar_of_lead? (by omega) (lead?_four (by omega)) ?_⟩
        rw [List.cons_append, List.cons_append, List.singleton_append,
          readTail_cons 2 _ (by omega) (by split <;> omega) (by split <;> omega),
          readTail_cons 1 _ (by omega) (by omega) (by omega),
          readTail_cons 0 _ (by omega) (by omega) (by omega), readTail]
        congr 2
        omega

/-! ### Texts -/

theorem decodeEach_encode_append (s : Text) (rest : List UInt8) :
    decodeEach (encode s ++ rest) = s.map some ++ decodeEach rest := by
  induction s with
  | nil => rfl
  | cons c s ih =>
      obtain ⟨b, tail, hbytes, hread⟩ := exists_readChar c (encode s ++ rest)
      have hencode : encode (c :: s) ++ rest = b :: (tail ++ (encode s ++ rest)) := by
        rw [encode_cons, hbytes, List.append_assoc, List.cons_append]
      rw [hencode, decodeEach, hread, ih, List.map_cons, List.cons_append]

theorem decodeEach_encode (s : Text) : decodeEach (encode s) = s.map some := by
  have happend := decodeEach_encode_append s []
  rw [List.append_nil] at happend
  rw [happend, decodeEach, List.append_nil]

theorem decodeLossy_encode (s : Text) : decodeLossy (encode s) = s := by
  rw [decodeLossy, decodeEach_encode, List.map_map]
  exact List.map_id s

theorem decode?_encode (s : Text) : decode? (encode s) = some s := by
  rw [decode?, decodeEach_encode, List.mapM_map]
  induction s with
  | nil => rfl
  | cons c s ih =>
      rw [List.mapM_cons, ih]
      rfl

end RelaySnapshot.Utf8
