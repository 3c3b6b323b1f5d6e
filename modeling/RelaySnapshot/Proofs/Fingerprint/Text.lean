import RelaySnapshot.Fingerprint
import RelaySnapshot.Proofs.Text.Numerals

namespace RelaySnapshot.Fingerprint

open Hexadecimal

theorem digitValue?_upperHexDigit (d : Fin 16) :
    digitValue? (upperHexDigit d) = some d ∧ Text.isBlank (upperHexDigit d) = false := by
  revert d
  decide

/-- The digits that are written of a number denote it, as far as they reach. -/
theorem exists_digits (count n : Nat) :
    ∃ values : List (Fin 16), digits count n = values.map (fun d => upperHexDigit d.val) ∧
      values.length = count ∧ Hexadecimal.value values = n % 16 ^ count := by
  induction count generalizing n with
  | zero => exact ⟨[], rfl, rfl, by simp [Hexadecimal.value, Nat.mod_one]⟩
  | succ count ih =>
      obtain ⟨values, hdigits, hlength, hvalue⟩ := ih (n / 16)
      refine ⟨values ++ [⟨n % 16, Nat.mod_lt n (by decide)⟩], ?_, by simp [hlength], ?_⟩
      · rw [digits, hdigits, List.map_append]
        rfl
      · rw [Hexadecimal.value_append, hvalue, Nat.pow_succ', Nat.mod_mul, Nat.add_comm]

theorem mapM_digitValue? (values : List (Fin 16)) :
    (values.map fun d => upperHexDigit d.val).mapM digitValue? = some values := by
  induction values with
  | nil => rfl
  | cons d values ih =>
      rw [List.map_cons, List.mapM_cons, ih, (digitValue?_upperHexDigit d).1]
      rfl

theorem ofText?_write (fingerprint : Fingerprint) :
    ofText? fingerprint.write = some fingerprint := by
  obtain ⟨values, hdigits, hlength, hvalue⟩ := exists_digits 40 fingerprint.value
  replace hvalue := hvalue.trans (Nat.mod_eq_of_lt fingerprint.value_lt)
  have hkept : fingerprint.write.filter (!Text.isBlank ·) = fingerprint.write := by
    rw [List.filter_eq_self, write, hdigits]
    intro c hc
    obtain ⟨d, -, rfl⟩ := List.mem_map.mp hc
    simp [(digitValue?_upperHexDigit d).2]
  rw [ofText?, hkept, write, hdigits, mapM_digitValue?]
  simp only [hlength, dif_pos, hvalue]

/-- A fingerprint is read from its own text. -/
theorem parse_text (fingerprint : Fingerprint) : parse fingerprint.text = .ok fingerprint := by
  rw [parse, text, String.toList_ofList, ofText?_write]

end RelaySnapshot.Fingerprint
