import Mathlib.Algebra.Group.Nat.Defs
import Mathlib.Data.Nat.Init
import Mathlib.Data.List.Induction
import Mathlib.Data.List.TakeWhile
import RelaySnapshot.Text.Decimal
import RelaySnapshot.Text.Hexadecimal

namespace RelaySnapshot

namespace Text

variable {p : Char → Bool} {digits rest : Text}

/-- A run of characters ends where the first other one stands. -/
theorem takeWhile_append (hdigits : ∀ c ∈ digits, p c = true)
    (hrest : ∀ c ∈ rest.head?, p c = false) : (digits ++ rest).takeWhile p = digits := by
  rw [List.takeWhile_append_of_pos hdigits]
  cases rest with
  | nil => simp
  | cons c rest => simp [hrest c rfl]

/-- Texts of one length are ordered by their beginnings, if these differ. -/
theorem append_lt_append {a b : Text} (hlength : a.length = b.length) (hlt : a < b) (c d : Text) :
    a ++ c < b ++ d := by
  induction a generalizing b with
  | nil =>
      cases b with
      | nil => exact absurd hlt (List.lt_irrefl _)
      | cons => cases hlength
  | cons x a ih =>
      cases b with
      | nil => cases hlength
      | cons y b =>
          rw [List.cons_append, List.cons_append, List.cons_lt_cons_iff]
          rcases List.cons_lt_cons_iff.mp hlt with hxy | ⟨rfl, hab⟩
          · exact .inl hxy
          · exact .inr ⟨rfl, ih (Nat.succ.inj hlength) hab⟩

theorem append_lt_append_left (a : Text) {b c : Text} (hlt : b < c) : a ++ b < a ++ c := by
  induction a with
  | nil => exact hlt
  | cons x a ih => exact List.cons_lt_cons_iff.mpr (.inr ⟨rfl, ih⟩)

/-- A numeral with one digit for each power of the base is no longer than its number allows. -/
theorem length_le_of_digits {write : Nat → Text} {base : Nat}
    (hone : ∀ n < base, (write n).length = 1)
    (hmore : ∀ n, base ≤ n → (write n).length = (write (n / base)).length + 1) {n k : Nat}
    (hk : 0 < k) (hn : n < base ^ k) : (write n).length ≤ k := by
  induction k generalizing n with
  | zero => cases hk
  | succ k ih =>
      by_cases hsmall : n < base
      · rw [hone n hsmall]
        omega
      · have hpos : 0 < k := by
          rcases Nat.eq_zero_or_pos k with rfl | hpos
          · exact absurd (by simpa using hn) hsmall
          · exact hpos
        rw [Nat.pow_succ'] at hn
        rw [hmore n (Nat.le_of_not_lt hsmall)]
        exact Nat.succ_le_succ (ih hpos (Nat.div_lt_of_lt_mul hn))

end Text

namespace Decimal

theorem toNat_of_isDigit {c : Char} (hc : c.isDigit = true) : 48 ≤ c.toNat ∧ c.toNat ≤ 57 := by
  simpa [Char.isDigit, UInt32.le_iff_toNat_le] using hc

theorem digit_eq {n : Nat} (hn : n < 10) :
    (digit n).isDigit = true ∧ (digit n).toNat - 48 = n ∧ (digit n = '0' → n = 0) := by
  revert n
  decide

theorem digit_mod (n : Nat) : digit (n % 10) = digit n := by
  rw [digit, digit, Nat.mod_mod]

theorem digit_of_isDigit {c : Char} (hc : c.isDigit = true) : digit (c.toNat - 48) = c := by
  have hrange := toNat_of_isDigit hc
  have hsum : 48 + (c.toNat - 48) % 10 = c.toNat := by omega
  rw [digit, hsum, Char.ofNat_toNat]

theorem digit_lt {n m : Nat} (hlt : n < m) (hm : m < 10) : digit n < digit m := by
  have hall : ∀ m < 10, ∀ n < m, digit n < digit m := by decide
  exact hall m hm n hlt

theorem write_of_lt {n : Nat} (hn : n < 10) : write n = [digit n] := by
  rw [write, if_pos hn]

theorem write_of_le {n : Nat} (hn : 10 ≤ n) : write n = write (n / 10) ++ [digit n] := by
  rw [write, if_neg (by omega)]

theorem value_append (digits : Text) (c : Char) :
    value (digits ++ [c]) = 10 * value digits + (c.toNat - 48) := by
  simp [value]

theorem isDigit_write (n : Nat) : ∀ c ∈ write n, c.isDigit = true := by
  induction n using Nat.strong_induction_on with
  | _ n ih =>
      have hdigit : (digit n).isDigit = true := by
        rw [← digit_mod]
        exact (digit_eq (Nat.mod_lt n (by decide))).1
      by_cases hn : n < 10
      · simp [write_of_lt hn, hdigit]
      · rw [write_of_le (by omega)]
        intro c hc
        rcases List.mem_append.mp hc with hc | hc
        · exact ih (n / 10) (by omega) c hc
        · rwa [List.mem_singleton.mp hc]

@[simp]
theorem value_write (n : Nat) : value (write n) = n := by
  induction n using Nat.strong_induction_on with
  | _ n ih =>
      by_cases hn : n < 10
      · rw [write_of_lt hn]
        simpa [value] using (digit_eq hn).2.1
      · have hdigit := (digit_eq (Nat.mod_lt n (show 10 > 0 by decide))).2.1
        rw [write_of_le (by omega), value_append, ih (n / 10) (by omega), ← digit_mod, hdigit]
        omega

theorem write_ne_nil (n : Nat) : write n ≠ [] := by
  rw [write]
  split <;> simp

/-- A numeral begins with zero only if it is that of zero. -/
theorem eq_zero_of_head? {n : Nat} (h : (write n).head? = some '0') : n = 0 := by
  induction n using Nat.strong_induction_on with
  | _ n ih =>
      by_cases hn : n < 10
      · rw [write_of_lt hn] at h
        exact (digit_eq hn).2.2 (Option.some.inj h)
      · obtain ⟨c, rest, hwrite⟩ := List.exists_cons_of_ne_nil (write_ne_nil (n / 10))
        rw [write_of_le (by omega), hwrite] at h
        have hzero := ih (n / 10) (by omega) (by rwa [hwrite])
        omega

theorem length_write_le {n k : Nat} (hk : 0 < k) (hn : n < 10 ^ k) : (write n).length ≤ k :=
  Text.length_le_of_digits (fun n hn => by simp [write_of_lt hn])
    (fun n hn => by simp [write_of_le hn]) hk hn

/-! ### Numerals of one width -/

theorem isDigit_writePadded (width n : Nat) : ∀ c ∈ writePadded width n, c.isDigit = true := by
  intro c hc
  rcases List.mem_append.mp hc with hc | hc
  · rw [List.eq_of_mem_replicate hc]
    rfl
  · exact isDigit_write n c hc

@[simp]
theorem value_writePadded (width n : Nat) : value (writePadded width n) = n := by
  have hzeros (count : Nat) : value (List.replicate count '0' ++ write n) = value (write n) := by
    induction count with
    | zero => rfl
    | succ count ih => exact ih
  rw [writePadded, hzeros, value_write]

theorem writePadded_ne_nil (width n : Nat) : writePadded width n ≠ [] := by
  simp [writePadded, write_ne_nil]

theorem length_writePadded {width n : Nat} (hwidth : 0 < width) (hn : n < 10 ^ width) :
    (writePadded width n).length = width := by
  have hlength := length_write_le hwidth hn
  rw [writePadded, List.length_append, List.length_replicate]
  omega

theorem writePadded_one {n : Nat} (hn : n < 10) : writePadded 1 n = [digit n] := by
  rw [writePadded, write_of_lt hn]
  rfl

theorem writePadded_succ {width : Nat} (hwidth : 0 < width) (n : Nat) :
    writePadded (width + 1) n = writePadded width (n / 10) ++ [digit n] := by
  by_cases hn : n < 10
  · obtain ⟨k, rfl⟩ : ∃ k, width = k + 1 := ⟨width - 1, by omega⟩
    have hzero : n / 10 = 0 := by omega
    rw [writePadded, writePadded, write_of_lt hn, hzero, write_of_lt (by decide)]
    simp [List.replicate_succ', digit]
  · rw [writePadded, writePadded, write_of_le (by omega), List.length_append,
      List.length_singleton, ← List.append_assoc, Nat.add_sub_add_right]

theorem writePadded_lt {width n m : Nat} (hwidth : 0 < width) (hlt : n < m)
    (hm : m < 10 ^ width) : writePadded width n < writePadded width m := by
  induction width, hwidth using Nat.le_induction generalizing n m with
  | base =>
      have hm : m < 10 := hm
      rw [writePadded_one hm, writePadded_one (by omega), List.cons_lt_cons_iff]
      exact .inl (digit_lt hlt hm)
  | succ width hwidth ih =>
      rw [Nat.pow_succ] at hm
      have hwidth : 0 < width := hwidth
      rw [writePadded_succ hwidth, writePadded_succ hwidth]
      rcases Nat.lt_or_eq_of_le (Nat.div_le_div_right hlt.le : n / 10 ≤ m / 10) with hprefix | heq
      · refine Text.append_lt_append ?_ (ih hprefix (by omega)) _ _
        rw [length_writePadded hwidth (by omega), length_writePadded hwidth (by omega)]
      · rw [heq, ← digit_mod n, ← digit_mod m]
        refine Text.append_lt_append_left _ (List.cons_lt_cons_iff.mpr (.inl (digit_lt ?_ ?_)))
        · omega
        · omega

theorem writePadded_append_lt {width n m : Nat} (hwidth : 0 < width) (hlt : n < m)
    (hm : m < 10 ^ width) (rest rest' : Text) :
    writePadded width n ++ rest < writePadded width m ++ rest' := by
  refine Text.append_lt_append ?_ (writePadded_lt hwidth hlt hm) rest rest'
  rw [length_writePadded hwidth hm, length_writePadded hwidth (hlt.trans hm)]

/-! ### Reading numerals -/

theorem value_lt {digits : Text} (hdigits : ∀ c ∈ digits, c.isDigit = true) :
    value digits < 10 ^ digits.length := by
  induction digits using List.reverseRecOn with
  | nil => exact Nat.one_pos
  | append_singleton digits c ih =>
      rw [List.forall_mem_append, List.forall_mem_singleton] at hdigits
      have hrange := toNat_of_isDigit hdigits.2
      have hlt := ih hdigits.1
      rw [value_append, List.length_append, List.length_singleton, Nat.pow_succ]
      omega

/-- Digits are the numeral of their number, filled up to as many digits. -/
theorem writePadded_value {width : Nat} {digits : Text} (hwidth : 0 < width)
    (hlength : digits.length = width) (hdigits : ∀ c ∈ digits, c.isDigit = true) :
    writePadded width (value digits) = digits := by
  subst hlength
  induction digits using List.reverseRecOn with
  | nil => cases hwidth
  | append_singleton digits c ih =>
      rw [List.forall_mem_append, List.forall_mem_singleton] at hdigits
      have hrange := toNat_of_isDigit hdigits.2
      have hlast : digit (value (digits ++ [c])) = c := by
        rw [← digit_mod, value_append, Nat.mul_add_mod, digit_mod, digit_of_isDigit hdigits.2]
      have hfront : value (digits ++ [c]) / 10 = value digits := by
        rw [value_append]
        omega
      rw [List.length_append, List.length_singleton]
      -- A single digit has no front to which the induction applies.
      by_cases hnil : digits = []
      · subst hnil
        have hsmall : value [c] < 10 ^ 1 := value_lt (by simpa using hdigits.2)
        rw [List.nil_append] at hlast ⊢
        rw [List.length_nil, Nat.zero_add, writePadded_one hsmall, hlast]
      · have hpos := List.length_pos_iff.mpr hnil
        rw [writePadded_succ hpos, hfront, ih hdigits.1 hpos, hlast]

theorem read?_of_isDigit {bound : Nat} {digits : Text} (hne : digits ≠ [])
    (hdigits : ∀ c ∈ digits, c.isDigit = true) :
    read? bound digits = if value digits < bound then some (value digits) else none := by
  have hplus : Text.dropLeading? ['+'] digits = none := by
    cases digits with
    | nil => exact absurd rfl hne
    | cons c digits =>
        rw [Text.dropLeading?, if_neg]
        intro hc
        have hdigit := hdigits c List.mem_cons_self
        rw [← beq_iff_eq.mp hc] at hdigit
        cases hdigit
  have hall : digits.all Char.isDigit = true := List.all_eq_true.mpr hdigits
  rw [read?, hplus]
  simp [hall, hne]

theorem read?_of_length {bound width : Nat} {digits : Text} (hwidth : 0 < width)
    (hlength : digits.length = width) (hdigits : ∀ c ∈ digits, c.isDigit = true)
    (hbound : 10 ^ width ≤ bound) : read? bound digits = some (value digits) := by
  have hne : digits ≠ [] := by
    rw [← List.length_pos_iff, hlength]
    exact hwidth
  have hlt := value_lt hdigits
  rw [hlength] at hlt
  rw [read?_of_isDigit hne hdigits, if_pos (hlt.trans_le hbound)]

end Decimal

namespace Hexadecimal

theorem digitValue?_digit (n : Fin 16) : digitValue? (digit n) = some n := by
  revert n
  decide

theorem value_append (digits : List (Fin 16)) (d : Fin 16) :
    value (digits ++ [d]) = 16 * value digits + d := by
  simp [value]

theorem write_of_lt {n : Nat} (hn : n < 16) : write n = [digit n] := by
  rw [write, if_pos hn]

theorem write_of_le {n : Nat} (hn : 16 ≤ n) : write n = write (n / 16) ++ [digit (n % 16)] := by
  rw [write, if_neg (by omega)]

/-- The digits that a number is written with. -/
theorem exists_digits (n : Nat) :
    ∃ digits : List (Fin 16), write n = digits.map (fun d => digit d.val) ∧ digits ≠ [] ∧
      value digits = n := by
  induction n using Nat.strong_induction_on with
  | _ n ih =>
      by_cases hn : n < 16
      · exact ⟨[⟨n, hn⟩], write_of_lt hn, List.cons_ne_nil _ _, by simp [value]⟩
      · obtain ⟨digits, hwrite, -, hvalue⟩ := ih (n / 16) (by omega)
        refine ⟨digits ++ [⟨n % 16, Nat.mod_lt n (by decide)⟩], ?_, by simp, ?_⟩
        · rw [write_of_le (by omega), hwrite, List.map_append]
          rfl
        · rw [value_append, hvalue]
          exact Nat.div_add_mod n 16

theorem length_write_le {n k : Nat} (hk : 0 < k) (hn : n < 16 ^ k) : (write n).length ≤ k :=
  Text.length_le_of_digits (fun n hn => by simp [write_of_lt hn])
    (fun n hn => by simp [write_of_le hn]) hk hn

end Hexadecimal

end RelaySnapshot
