import RelaySnapshot.Text.Basic

namespace RelaySnapshot.Hexadecimal

def digitValue? (c : Char) : Option (Fin 16) :=
  let n := c.toNat
  if h : 48 ≤ n ∧ n ≤ 57 then some ⟨n - 48, by omega⟩
  else if h : 65 ≤ n ∧ n ≤ 70 then some ⟨n - 55, by omega⟩
  else if h : 97 ≤ n ∧ n ≤ 102 then some ⟨n - 87, by omega⟩
  else none

/-- The number whose digits, the first one foremost, are given. -/
def value (digits : List (Fin 16)) : Nat :=
  digits.foldl (fun n d => 16 * n + d.val) 0

theorem foldl_digits_lt (digits : List (Fin 16)) (n k : Nat) (h : n < Nat.pow 16 k) :
    digits.foldl (fun n d => 16 * n + d.val) n < Nat.pow 16 (k + digits.length) := by
  induction digits generalizing n k with
  | nil => simpa using h
  | cons d rest ih =>
    have hd := d.isLt
    have hnext : 16 * n + d.val < Nat.pow 16 (k + 1) := by
      change 16 * n + d.val < Nat.pow 16 k * 16
      omega
    have := ih (16 * n + d.val) (k + 1) hnext
    simpa [Nat.add_assoc, Nat.add_comm 1] using this

theorem value_lt (digits : List (Fin 16)) : value digits < Nat.pow 16 digits.length := by
  simpa [value] using foldl_digits_lt digits 0 0 (by decide)

def read? (s : Text) : Option Nat :=
  (s.mapM digitValue?).map value

def digit (n : Nat) : Char :=
  if n < 10 then Char.ofNat (48 + n) else Char.ofNat (87 + n % 16)

def write (n : Nat) : Text :=
  if n < 16 then [digit n] else write (n / 16) ++ [digit (n % 16)]
termination_by n
decreasing_by omega

end RelaySnapshot.Hexadecimal
