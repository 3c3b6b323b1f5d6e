import Mathlib.Data.String.Basic
import RelaySnapshot.Proofs.Text.Utf8

namespace RelaySnapshot.Utf8

variable {x y : List UInt8}

/-- Two bytes decide the order, or they are equal and what follows them decides it. -/
theorem cons_lt_cons_of_le {n m : Nat} (hle : n ≤ m) (hm : m < 256) (htail : n = m → x < y) :
    UInt8.ofNat n :: x < UInt8.ofNat m :: y := by
  rw [List.cons_lt_cons_iff, UInt8.lt_iff_toNat_lt, UInt8.toNat_ofNat_of_lt' hm,
    UInt8.toNat_ofNat_of_lt' (hle.trans_lt hm)]
  rcases hle.lt_or_eq with hlt | heq
  · exact .inl hlt
  · exact .inr ⟨by rw [heq], htail heq⟩

theorem utf8EncodeChar_append_lt {c d : Char} (h : c < d) (x y : List UInt8) :
    String.utf8EncodeChar c ++ x < String.utf8EncodeChar d ++ y := by
  have hlt : c.val.toNat < d.val.toNat := h
  have hvalid : d.val.toNat < 0xD800 ∨ 0xDFFF < d.val.toNat ∧ d.val.toNat < 0x110000 := d.valid
  -- Either the first byte tells two lengths apart, or the bytes are digits of the two numbers.
  rw [String.utf8EncodeChar, String.utf8EncodeChar]
  repeat' split
  all_goals
    simp only [List.cons_append, List.nil_append]
    repeat refine cons_lt_cons_of_le (by omega) (by omega) fun _ => ?_
    omega

theorem encode_lt_encode {s t : Text} (h : s < t) : encode s < encode t := by
  induction h with
  | nil =>
      rw [encode_cons]
      obtain ⟨b, tail, hbytes, -⟩ := exists_readChar _ []
      rw [hbytes]
      exact List.Lex.nil
  | rel hlt =>
      rw [encode_cons, encode_cons]
      exact utf8EncodeChar_append_lt hlt _ _
  | cons _ ih =>
      rw [encode_cons, encode_cons]
      exact List.append_left_lt ih

theorem encode_lt_encode_iff {s t : Text} : encode s < encode t ↔ s < t := by
  refine ⟨fun h => ?_, encode_lt_encode⟩
  rcases lt_trichotomy s t with hlt | rfl | hgt
  · exact hlt
  · exact absurd h (List.lt_irrefl _)
  · exact absurd h (List.lt_asymm (encode_lt_encode hgt))

end RelaySnapshot.Utf8
