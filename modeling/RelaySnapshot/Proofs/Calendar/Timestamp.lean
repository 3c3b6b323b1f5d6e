import Mathlib.Data.String.Basic
import RelaySnapshot.Calendar.Timestamp
import RelaySnapshot.Proofs.Calendar.Order
import RelaySnapshot.Proofs.Text.Numerals
import RelaySnapshot.Store.Cell

/-!
# Timestamps as texts

What is written of an instant is read as that instant, and a column of numbers leaves it a text. In
the years of four digits, and in the last one before them, the order of texts is that of time.
-/

namespace RelaySnapshot

namespace Text

theorem isBlank_of_isDigit {c : Char} (hc : c.isDigit = true) : isBlank c = false := by
  have hrange := Decimal.toNat_of_isDigit hc
  simp [isBlank]
  omega

theorem trimStart_of_head? {s : Text} (hs : ∀ c ∈ s.head?, isBlank c = false) :
    trimStart s = s := by
  cases s with
  | nil => rfl
  | cons c rest => rw [trimStart, List.dropWhile_cons_of_neg (by simp [hs c rfl])]

theorem trimStart_append_of_isDigit {digits : Text} (hne : digits ≠ [])
    (hdigits : ∀ c ∈ digits, c.isDigit = true) (rest : Text) :
    trimStart (digits ++ rest) = digits ++ rest := by
  refine trimStart_of_head? fun c hc => isBlank_of_isDigit (hdigits c ?_)
  cases digits with
  | nil => exact absurd rfl hne
  | cons d digits =>
      cases hc
      exact List.mem_cons_self

end Text

theorem daysInMonth_le (year : Int) (month : Nat) : daysInMonth year month ≤ 31 := by
  unfold daysInMonth
  split <;> (try split) <;> decide

theorem Date.of?_self (date : Date) : of? date.year date.month date.day = some date := by
  rw [of?, dif_pos date.year_mem, dif_pos date.month_mem, dif_pos date.day_mem]

/-- The hour, the minute and the second of an instant lead back to it. -/
theorem Instant.of?_self (t : Instant) :
    of? t.date (t.second / 3600) (t.second / 60 % 60)
      (t.second % 60 + if t.leap then 1 else 0) = some t := by
  obtain ⟨date, second, leap, hsecond, hend⟩ := t
  have hclock : 3600 * (second / 3600) + 60 * (second / 60 % 60) + second % 60 = second := by omega
  cases leap with
  | true =>
      have hlast : second % 60 = 59 := hend rfl
      rw [hlast] at hclock
      rw [of?, dif_pos (by simp [hlast]; omega), dif_pos (by simp [hlast])]
      simp [hclock]
  | false =>
      rw [of?, dif_pos (by simp; omega), dif_neg (by simp; omega)]
      simp [hclock]

namespace Timestamp

open Text

variable {digits rest : Text}

/-! ### Reading what has been written -/

theorem readDigits_of_leadingDigits (negative : Bool) (low high : Int) {s : Text}
    {width : Option Nat}
    (hleading : leadingDigits width s = (digits, rest)) (hne : digits ≠ []) {n : Int}
    (hn : n = if negative then -(Decimal.value digits : Int) else Decimal.value digits)
    (hrange : low ≤ n ∧ n ≤ high) : readDigits width negative low high s = .ok (n, rest) := by
  rw [readDigits, hleading]
  cases digits with
  | nil => exact absurd rfl hne
  | cons d digits =>
      subst hn
      exact if_pos hrange

theorem leadingDigits_width (hdigits : ∀ c ∈ digits, c.isDigit = true) (rest : Text) :
    leadingDigits (some digits.length) (digits ++ rest) = (digits, rest) := by
  simp only [leadingDigits, List.take_left, List.takeWhile_eq_self_iff.mpr hdigits, List.drop_left]

theorem leadingDigits_none (hdigits : ∀ c ∈ digits, c.isDigit = true) (rest : Text)
    (hrest : ∀ c ∈ rest.head?, c.isDigit = false) :
    leadingDigits none (digits ++ rest) = (digits, rest) := by
  simp only [leadingDigits, takeWhile_append hdigits hrest, List.drop_left]

theorem readNumber_writePadded (low high n : Nat) (hrange : low ≤ n ∧ n ≤ high)
    (hhigh : high < 100) (rest : Text) :
    readNumber low high (Decimal.writePadded 2 n ++ rest) = .ok (n, rest) := by
  have hdigits := Decimal.isDigit_writePadded 2 n
  have hlength := Decimal.length_writePadded (n := n) (by decide : 0 < 2) (by omega)
  have hleading := leadingDigits_width hdigits rest
  rw [hlength] at hleading
  have hread := readDigits_of_leadingDigits false low high hleading
    (Decimal.writePadded_ne_nil 2 n) rfl (by simpa using hrange)
  rw [readNumber, trimStart_append_of_isDigit (Decimal.writePadded_ne_nil 2 n) hdigits, hread]
  simp

theorem readYear_writeYear {year : Int} (hyear : Date.firstYear ≤ year ∧ year ≤ Date.lastYear)
    (rest : Text) : readYear (writeYear year ++ '-' :: rest) = .ok (year, '-' :: rest) := by
  obtain ⟨hfirst, hlast⟩ := hyear
  rw [Date.firstYear] at hfirst
  rw [Date.lastYear] at hlast
  have hrange : -(Nat.pow 2 31 : Int) ≤ year ∧ year ≤ (Nat.pow 2 31 : Int) - 1 := by
    norm_num
    omega
  rw [writeYear]
  split
  next hfour =>
    obtain ⟨c, digits, hwritten⟩ := List.exists_cons_of_ne_nil
      (Decimal.writePadded_ne_nil 4 year.toNat)
    have hdigits := Decimal.isDigit_writePadded 4 year.toNat
    have hlength := Decimal.length_writePadded (n := year.toNat) (by decide : 0 < 4) (by omega)
    have hleading := leadingDigits_width hdigits ('-' :: rest)
    rw [hlength] at hleading
    have hread := readDigits_of_leadingDigits false _ _ hleading
      (Decimal.writePadded_ne_nil 4 year.toNat) (n := year)
      (by simpa using (Int.toNat_of_nonneg hfour.1).symm) hrange
    have hsign : c ≠ '-' ∧ c ≠ '+' := by
      have hdigit := hdigits c (by simp [hwritten])
      constructor <;> rintro rfl <;> cases hdigit
    rw [readYear, trimStart_append_of_isDigit (Decimal.writePadded_ne_nil 4 year.toNat) hdigits]
    rw [hwritten] at hread ⊢
    simpa [hsign.1, hsign.2] using hread
  next hsigned =>
    have hdigits := Decimal.isDigit_writePadded 4 year.natAbs
    have hleading := leadingDigits_none hdigits ('-' :: rest) (by simp)
    have hne := Decimal.writePadded_ne_nil 4 year.natAbs
    have hread (negative : Bool) (hnegative : negative = decide (year < 0)) :=
      readDigits_of_leadingDigits negative _ _ hleading hne (n := year)
        (by
          rw [hnegative, Decimal.value_writePadded]
          by_cases hneg : year < 0
          · simp [hneg, abs_of_neg hneg]
          · simp [hneg, abs_of_nonneg (not_lt.mp hneg)]) hrange
    by_cases hneg : year < 0
    · rw [if_pos hneg, List.cons_append, readYear, trimStart_of_head? (by simp [isBlank])]
      exact hread true (by simp [hneg])
    · rw [if_neg hneg, List.cons_append, readYear, trimStart_of_head? (by simp [isBlank])]
      exact hread false (by simp [hneg])

theorem write_eq (t : Instant) :
    write t = writeYear t.date.year ++ '-' :: (Decimal.writePadded 2 t.date.month ++
      '-' :: (Decimal.writePadded 2 t.date.day ++ ' ' :: writeTime t.second t.leap)) := by
  simp [write, writeDate]

theorem read_write (t : Instant) : read (write t) = .ok t := by
  have hmonth := t.date.month_mem
  have hday := t.date.day_mem
  have hlength := daysInMonth_le t.date.year t.date.month
  have hsecond := t.second_lt
  have hclock := Instant.of?_self t
  set second := t.second % 60 + if t.leap then 1 else 0 with hdef
  have hsixty : second ≤ 60 := by
    rw [hdef]
    split <;> omega
  have hmonths := readNumber_writePadded 1 12 t.date.month hmonth (by decide)
  have hdays := readNumber_writePadded 1 31 t.date.day (by omega) (by decide)
  have hhours := readNumber_writePadded 0 23 (t.second / 3600) (by omega) (by decide)
  have hminutes := readNumber_writePadded 0 59 (t.second / 60 % 60) (by omega) (by decide)
  have hseconds := readNumber_writePadded 0 60 second (by omega) (by decide) []
  rw [List.append_nil] at hseconds
  have hskip (c : Char) (rest : Text) : skip c (c :: rest) = .ok rest := if_pos rfl
  have hspace (rest : Text) : trimStart (' ' :: (Decimal.writePadded 2 (t.second / 3600) ++ rest)) =
      Decimal.writePadded 2 (t.second / 3600) ++ rest :=
    trimStart_append_of_isDigit (Decimal.writePadded_ne_nil _ _) (Decimal.isDigit_writePadded _ _) _
  rw [write_eq, writeTime, ← hdef, List.append_assoc, read]
  simp only [readYear_writeYear t.date.year_mem, hskip, hmonths, hdays, hspace, hhours, hminutes,
    hseconds, List.cons_append, Date.of?_self, hclock, bind, Except.bind]
  rfl

/-! ### A timestamp is no number -/

theorem isSpace_of_isDigit {c : Char} (hc : c.isDigit = true) : Cell.isSpace c = false := by
  have hrange := Decimal.toNat_of_isDigit hc
  have hblank : c ≠ ' ' := by
    rintro rfl
    cases hc
  simp [Cell.isSpace, hblank]
  omega

theorem splitSign_append (hne : digits ≠ []) (hdigits : ∀ c ∈ digits, c.isDigit = true)
    (rest : Text) : Cell.splitSign (digits ++ rest) = (false, digits ++ rest) := by
  cases digits with
  | nil => exact absurd rfl hne
  | cons c digits =>
      have hc := hdigits c List.mem_cons_self
      rw [List.cons_append, Cell.splitSign.eq_def]
      split
      next heq =>
        cases heq
        cases hc
      next heq =>
        cases heq
        cases hc
      next => rfl

/-- A sign, or none, and digits are no number with a dash behind them. -/
theorem ofNumeral?_of_dash {sign : Text} (hsign : sign = [] ∨ sign = ['-'] ∨ sign = ['+'])
    (hne : digits ≠ []) (hdigits : ∀ c ∈ digits, c.isDigit = true) (rest : Text) :
    Cell.ofNumeral? (sign ++ (digits ++ '-' :: rest)) = none := by
  have hsplit : ∃ negative, Cell.splitSign (sign ++ (digits ++ '-' :: rest)) =
      (negative, digits ++ '-' :: rest) := by
    rcases hsign with rfl | rfl | rfl
    · exact ⟨false, splitSign_append hne hdigits _⟩
    · exact ⟨true, rfl⟩
    · exact ⟨false, rfl⟩
  have hspace : ∀ c ∈ (sign ++ (digits ++ '-' :: rest)).head?, Cell.isSpace c = false := by
    rcases hsign with rfl | rfl | rfl
    · cases digits with
      | nil => exact absurd rfl hne
      | cons d digits =>
          rintro c ⟨⟩
          exact isSpace_of_isDigit (hdigits d List.mem_cons_self)
    · rintro c ⟨⟩
      rfl
    · rintro c ⟨⟩
      rfl
  have hstart : (sign ++ (digits ++ '-' :: rest)).dropWhile Cell.isSpace =
      sign ++ (digits ++ '-' :: rest) := by
    cases hhead : sign ++ (digits ++ '-' :: rest) with
    | nil => rfl
    | cons c later => exact List.dropWhile_cons_of_neg (by simp [hspace c (by simp [hhead])])
  obtain ⟨negative, hsplit⟩ := hsplit
  have htaken : (digits ++ '-' :: rest).takeWhile Char.isDigit = digits :=
    takeWhile_append hdigits (by simp)
  simp only [Cell.ofNumeral?, hstart, hsplit, htaken, List.drop_left]
  change (if ((digits ++ []).isEmpty || !('-' :: rest).all Cell.isSpace) = true
    then none else _) = _
  rw [if_pos (by simp [Cell.isSpace])]

theorem exists_writeYear (year : Int) :
    ∃ sign digits, writeYear year = sign ++ digits ∧
      (sign = [] ∨ sign = ['-'] ∨ sign = ['+']) ∧ digits ≠ [] ∧
        ∀ c ∈ digits, c.isDigit = true := by
  rw [writeYear]
  split
  · exact ⟨[], _, rfl, .inl rfl, Decimal.writePadded_ne_nil 4 _, Decimal.isDigit_writePadded 4 _⟩
  · refine ⟨[if year < 0 then '-' else '+'], _, rfl, .inr ?_, Decimal.writePadded_ne_nil 4 _,
      Decimal.isDigit_writePadded 4 _⟩
    split <;> simp

theorem ofNumeral?_write (t : Instant) : Cell.ofNumeral? (write t) = none := by
  obtain ⟨sign, digits, hyear, hsign, hne, hdigits⟩ := exists_writeYear t.date.year
  rw [write_eq, hyear, List.append_assoc]
  exact ofNumeral?_of_dash hsign hne hdigits _

/-! ### The order of timestamps -/

theorem writeYear_lt_append {year year' : Int} (hfirst : -1 ≤ year) (hlt : year < year')
    (hlast : year' ≤ 9999) (rest rest' : Text) :
    writeYear year ++ rest < writeYear year' ++ rest' := by
  rw [writeYear, writeYear, if_pos (by omega : 0 ≤ year' ∧ year' ≤ 9999)]
  split
  · exact Decimal.writePadded_append_lt (by decide) (by omega) (by omega) _ _
  · obtain ⟨c, digits, hwritten⟩ := List.exists_cons_of_ne_nil
      (Decimal.writePadded_ne_nil 4 year'.toNat)
    have hc := Decimal.isDigit_writePadded 4 year'.toNat c (by simp [hwritten])
    have hdash : '-' < c := by
      rw [Char.lt_def, UInt32.lt_iff_toNat_lt]
      exact (Decimal.toNat_of_isDigit hc).1.trans_lt' (by decide)
    rw [if_pos (by omega), hwritten, List.cons_append, List.cons_append, List.cons_lt_cons_iff]
    exact .inl hdash

/-- Of two times of a day the earlier one has the smaller text. -/
theorem writeTime_lt {second second' : Nat} {leap leap' : Bool} (hsecond' : second' < 86400)
    (hend : leap = true → second % 60 = 59)
    (hlt : 2 * second + leap.toNat < 2 * second' + leap'.toNat) :
    writeTime second leap < writeTime second' leap' := by
  have hleap : leap.toNat ≤ 1 := Bool.toNat_le leap
  have hleap' : leap'.toNat ≤ 1 := Bool.toNat_le leap'
  have hsum (leap : Bool) : (if leap then 1 else 0) = leap.toNat := by cases leap <;> rfl
  rw [writeTime, writeTime, hsum, hsum, List.append_assoc, List.append_assoc]
  rcases Nat.lt_trichotomy (second / 3600) (second' / 3600) with hhour | hhour | hhour
  · exact Decimal.writePadded_append_lt (by decide) hhour (by omega) _ _
  · rw [hhour]
    refine append_lt_append_left _ (List.cons_lt_cons_iff.mpr (.inr ⟨rfl, ?_⟩))
    rcases Nat.lt_trichotomy (second / 60 % 60) (second' / 60 % 60) with hminute | hminute | hminute
    · exact Decimal.writePadded_append_lt (by decide) hminute (by omega) _ _
    · rw [hminute]
      refine append_lt_append_left _ (List.cons_lt_cons_iff.mpr (.inr ⟨rfl, ?_⟩))
      refine Decimal.writePadded_lt (by decide) ?_ ?_
      · cases leap with
        | true =>
            have hlast := hend rfl
            simp only [Bool.toNat_true] at hlt ⊢
            omega
        | false =>
            simp only [Bool.toNat_false] at hlt ⊢
            omega
      · omega
    · omega
  · omega

/-- From the last year before the year 0 to the year 9999 an earlier instant has a smaller text. -/
theorem write_lt_write {a b : Instant} (hfirst : -1 ≤ a.date.year) (hlast : b.date.year ≤ 9999)
    (hlt : a < b) : write a < write b := by
  have hrank : a.rank < b.rank := hlt
  have hsecond := a.second_lt
  have hsecond' := b.second_lt
  have hranks (t : Instant) : t.rank = 2 * (86400 * t.date.number + t.second) + t.leap.toNat := by
    rw [Instant.rank]
    cases t.leap <;> rfl
  have hleap : a.leap.toNat ≤ 1 := Bool.toNat_le a.leap
  have hleap' : b.leap.toNat ≤ 1 := Bool.toNat_le b.leap
  rw [hranks, hranks] at hrank
  have hnumber : a.date.number ≤ b.date.number := by omega
  rw [write_eq, write_eq]
  rcases Int.lt_trichotomy a.date.year b.date.year with hyear | hyear | hyear
  · exact writeYear_lt_append hfirst hyear hlast _ _
  · rw [hyear]
    refine append_lt_append_left _ (List.cons_lt_cons_iff.mpr (.inr ⟨rfl, ?_⟩))
    have hmonths := b.date.month_mem
    rcases Nat.lt_trichotomy a.date.month b.date.month with hmonth | hmonth | hmonth
    · exact Decimal.writePadded_append_lt (by decide) hmonth (by omega) _ _
    · rw [hmonth]
      refine append_lt_append_left _ (List.cons_lt_cons_iff.mpr (.inr ⟨rfl, ?_⟩))
      have hdays : a.date.number - a.date.day = b.date.number - b.date.day := by
        rw [Date.number, Date.number, hyear, hmonth]
        omega
      have hlength := daysInMonth_le b.date.year b.date.month
      have hday' := b.date.day_mem
      rcases Nat.lt_trichotomy a.date.day b.date.day with hday | hday | hday
      · exact Decimal.writePadded_append_lt (by decide) hday (by omega) _ _
      · rw [hday]
        refine append_lt_append_left _ (List.cons_lt_cons_iff.mpr (.inr ⟨rfl, ?_⟩))
        exact writeTime_lt hsecond' a.leap_at_end (by omega)
      · omega
    · have := Date.number_lt_of_month_lt hyear.symm hmonth
      omega
  · have := Date.number_lt_of_year_lt hyear
    omega

theorem write_le_write {a b : Instant} (hfirst : -1 ≤ a.date.year) (hlast : b.date.year ≤ 9999)
    (hle : a ≤ b) : write a ≤ write b := by
  by_cases hlt : a < b
  · exact (write_lt_write hfirst hlast hlt).le
  · rw [Instant.le_antisymm hle (Instant.not_lt.mp hlt)]

end Timestamp

end RelaySnapshot
