import RelaySnapshot.Proofs.Calendar.Tiling
import RelaySnapshot.Proofs.Text.ByteOrder
import RelaySnapshot.Proofs.Text.Cutting

/-!
# Months as texts

No two months have one text. A text is read only if it is that of a month in the years from 0 to
9999, and then as that month; the bytes of these texts have the order of their months.
-/

namespace RelaySnapshot

theorem Text.byteLength_of_isDigit {digits : Text} (hdigits : ∀ c ∈ digits, c.isDigit = true) :
    byteLength digits = digits.length := by
  induction digits with
  | nil => rfl
  | cons c digits ih =>
      rw [List.forall_mem_cons] at hdigits
      have hrange := Decimal.toNat_of_isDigit hdigits.1
      have hone : c.utf8Size = 1 := by
        rw [Char.utf8Size_eq_one_iff, UInt32.le_iff_toNat_le]
        exact hrange.2.trans (by decide)
      rw [byteLength, hone, ih hdigits.2, List.length_cons, Nat.add_comm]

namespace Month

variable {m m' : Month} {s year number : Text}

/-- The year is written with four digits. -/
def Plain (m : Month) : Prop :=
  0 ≤ m.year ∧ m.year ≤ 9999

instance : Decidable m.Plain :=
  inferInstanceAs (Decidable (_ ∧ _))

def bytes (m : Month) : List UInt8 :=
  Utf8.encode m.write

/-! ### What is written -/

theorem length_writePadded_number (m : Month) : (Decimal.writePadded 2 m.number).length = 2 := by
  have hnumber := m.number_mem
  exact Decimal.length_writePadded (by decide) (by omega)

theorem head?_writePadded_ne_dash (width n : Nat) :
    (Decimal.writePadded width n).head? ≠ some '-' := by
  intro hhead
  cases Decimal.isDigit_writePadded width n _ (List.mem_of_mem_head? hhead)

theorem write_of_nonneg (h : 0 ≤ m.year) :
    m.write = Decimal.writePadded 4 m.year.toNat ++ '-' :: Decimal.writePadded 2 m.number := by
  rw [write, writeNumbers, if_neg (not_lt.mpr h)]

/-- Different months have different texts, whatever their years are. -/
theorem write_injective : Function.Injective write := by
  intro m m' h
  have hvalue {width width' n n' : Nat}
      (heq : Decimal.writePadded width n = Decimal.writePadded width' n') : n = n' := by
    simpa using congrArg Decimal.value heq
  -- The dash and the number take three places in each text.
  obtain ⟨hyear, hnumber⟩ := List.append_inj' h (by
    rw [List.length_cons, List.length_cons, length_writePadded_number, length_writePadded_number])
  have hnumber := hvalue (List.cons.inj hnumber).2
  have hyear : m.year = m'.year := by
    split_ifs at hyear with hneg hneg' hneg'
    · have heq := hvalue (List.cons.inj hyear).2
      omega
    · exact absurd (congrArg List.head? hyear).symm (head?_writePadded_ne_dash 4 _)
    · exact absurd (congrArg List.head? hyear) (head?_writePadded_ne_dash 4 _)
    · have heq := hvalue hyear
      omega
  apply ext_index
  rw [m.index_eq, m'.index_eq, hyear, hnumber]

/-! ### What is read -/

/-- Four digits, a dash and two digits. -/
structure Spells (s year number : Text) : Prop where
  eq : s = year ++ '-' :: number
  length_year : year.length = 4
  length_number : number.length = 2
  isDigit : ∀ c ∈ year ++ number, c.isDigit = true

/-- Digits take one byte each, and none of them is a dash. -/
theorem spells_iff : Spells s year number ↔
    Text.cutAt ['-'] s = some (year, number) ∧ Text.byteLength year = 4 ∧
      Text.byteLength number = 2 ∧ (year ++ number).all Char.isDigit = true := by
  rw [Text.cutAt_singleton_eq_some_iff, List.all_eq_true]
  constructor
  · rintro ⟨heq, hlength, hlength', hdigits⟩
    obtain ⟨hyear, hnumber⟩ := List.forall_mem_append.mp hdigits
    refine ⟨⟨heq, fun hdash => ?_⟩, ?_, ?_, hdigits⟩
    · cases hyear _ hdash
    · rw [Text.byteLength_of_isDigit hyear, hlength]
    · rw [Text.byteLength_of_isDigit hnumber, hlength']
  · rintro ⟨⟨heq, -⟩, hlength, hlength', hdigits⟩
    obtain ⟨hyear, hnumber⟩ := List.forall_mem_append.mp hdigits
    rw [Text.byteLength_of_isDigit hyear] at hlength
    rw [Text.byteLength_of_isDigit hnumber] at hlength'
    exact ⟨heq, hlength, hlength', hdigits⟩

theorem Spells.read?_eq (h : Spells s year number) :
    read? s = (of? (Decimal.value year) (Decimal.value number)).toOption := by
  obtain ⟨hcut, hguard⟩ := spells_iff.mp h
  obtain ⟨hyear, hnumber⟩ := List.forall_mem_append.mp h.isDigit
  have hyear_read := Decimal.read?_of_length (by decide) h.length_year hyear
    (by decide : _ ≤ Nat.pow 2 31)
  have hnumber_read := Decimal.read?_of_length (by decide) h.length_number hnumber
    (by decide : _ ≤ Nat.pow 2 32)
  rw [read?, hcut]
  refine (if_pos hguard).trans ?_
  rw [hyear_read, hnumber_read]
  rfl

theorem toOption_of?_eq_some_iff {year : Int} {number : Nat} :
    (of? year number).toOption = some m ↔ m.year = year ∧ m.number = number := by
  rw [of?]
  constructor
  · intro h
    split_ifs at h with hnumber
    · obtain rfl := Option.some.inj h
      simp only [Month.year, Month.number]
      omega
    · cases h
  · rintro ⟨rfl, rfl⟩
    rw [if_pos m.number_mem]
    exact congrArg some (ext_index m.index_eq.symm)

theorem exists_spells_of_read? (h : read? s = some m) : ∃ year number, Spells s year number := by
  obtain ⟨⟨year, number⟩, hcut, h⟩ := Option.bind_eq_some_iff.mp h
  dsimp only at h
  split_ifs at h with hguard
  exact ⟨year, number, spells_iff.mpr ⟨hcut, hguard⟩⟩

theorem read?_eq_some_iff : read? s = some m ↔ ∃ year number, Spells s year number ∧
    m.year = Decimal.value year ∧ m.number = Decimal.value number := by
  constructor
  · intro h
    obtain ⟨year, number, hspells⟩ := exists_spells_of_read? h
    rw [hspells.read?_eq] at h
    exact ⟨year, number, hspells, toOption_of?_eq_some_iff.mp h⟩
  · rintro ⟨year, number, hspells, hm⟩
    rw [hspells.read?_eq]
    exact toOption_of?_eq_some_iff.mpr hm

/-! ### What is read is what has been written -/

theorem read?_write (h : m.Plain) : read? m.write = some m := by
  obtain ⟨hlow, hhigh⟩ := h
  refine read?_eq_some_iff.mpr ⟨_, _, ⟨write_of_nonneg hlow, ?_, m.length_writePadded_number, ?_⟩,
    ?_, (Decimal.value_writePadded 2 m.number).symm⟩
  · exact Decimal.length_writePadded (by decide) (by omega)
  · exact List.forall_mem_append.mpr
      ⟨Decimal.isDigit_writePadded 4 _, Decimal.isDigit_writePadded 2 _⟩
  · rw [Decimal.value_writePadded, Int.toNat_of_nonneg hlow]

theorem plain_and_write_of_read? (h : read? s = some m) : m.Plain ∧ m.write = s := by
  obtain ⟨year, number, hspells, hyear, hnumber⟩ := read?_eq_some_iff.mp h
  obtain ⟨hyear_digits, hnumber_digits⟩ := List.forall_mem_append.mp hspells.isDigit
  have hlow : 0 ≤ m.year := by omega
  have hlt := Decimal.value_lt hyear_digits
  rw [hspells.length_year] at hlt
  have hdigits : m.year.toNat = Decimal.value year := by omega
  refine ⟨⟨hlow, by omega⟩, ?_⟩
  rw [write_of_nonneg hlow, hdigits, hnumber, hspells.eq,
    Decimal.writePadded_value (by decide) hspells.length_year hyear_digits,
    Decimal.writePadded_value (by decide) hspells.length_number hnumber_digits]

theorem parse_eq_ok_iff {text : String} :
    parse text = .ok m ↔ m.Plain ∧ m.text = text := by
  have hread : parse text = .ok m ↔ read? text.toList = some m := by
    rw [parse]
    cases read? text.toList <;> simp
  have htext : m.text = text ↔ m.write = text.toList := by
    rw [← String.toList_inj, Month.text, String.toList_ofList]
  rw [hread, htext]
  constructor
  · exact plain_and_write_of_read?
  · rintro ⟨hplain, hwrite⟩
    rw [← hwrite, read?_write hplain]

theorem parse_of_forall_ne_ok {text : String} (h : ∀ m, parse text ≠ .ok m) :
    parse text = .error (.malformed text) := by
  have hread : ∀ m, read? text.toList ≠ some m := by
    intro m hm
    exact h m (by rw [parse, hm])
  rw [parse, Option.eq_none_iff_forall_ne_some.mpr hread]

theorem parse_text_of_not_plain (h : ¬m.Plain) : parse m.text = .error (.malformed m.text) := by
  refine parse_of_forall_ne_ok fun m' hm' => h ?_
  obtain ⟨hplain, htext⟩ := parse_eq_ok_iff.mp hm'
  rw [Month.text, Month.text, String.ofList_inj] at htext
  rwa [← write_injective htext]

/-! ### The order of texts -/

theorem write_lt_write (h : m.Plain) (h' : m'.Plain) (hlt : m < m') : m.write < m'.write := by
  have hnumber' := m'.number_mem
  obtain ⟨hlow, hhigh⟩ := h
  obtain ⟨hlow', hhigh'⟩ := h'
  rw [write_of_nonneg hlow, write_of_nonneg hlow']
  rcases Prod.Lex.toLex_lt_toLex.mp ((lt_iff_toLex m m').mp hlt) with hyear | ⟨hyear, hnumber⟩
  · exact Decimal.writePadded_append_lt (by decide) (by omega) (by omega) _ _
  · dsimp only at hyear hnumber
    rw [hyear]
    refine Text.append_lt_append_left _ (List.cons_lt_cons_iff.mpr (.inr ⟨rfl, ?_⟩))
    exact Decimal.writePadded_lt (by decide) hnumber (by omega)

theorem bytes_lt_bytes_iff (h : m.Plain) (h' : m'.Plain) : m.bytes < m'.bytes ↔ m < m' := by
  rw [bytes, bytes, Utf8.encode_lt_encode_iff]
  refine ⟨fun hlt => ?_, write_lt_write h h'⟩
  rcases Int.lt_trichotomy m.index m'.index with hindex | hindex | hindex
  · exact hindex
  · rw [ext_index hindex] at hlt
    exact absurd hlt (List.lt_irrefl _)
  · exact absurd hlt (List.lt_asymm (write_lt_write h' h hindex))

/-! ### The main statement -/

/-- Reading and writing undo each other between the months of four-digit years and their texts, all
other texts are refused, and the bytes of the texts have the order of the months. -/
theorem canonical_text :
    (∀ (text : String) (m : Month), parse text = .ok m ↔ m.Plain ∧ m.text = text) ∧
    (∀ text : String, (∀ m : Month, m.Plain → m.text ≠ text) →
      parse text = .error (.malformed text)) ∧
    (∀ m : Month, parse m.text = if m.Plain then .ok m else .error (.malformed m.text)) ∧
    ∀ m m' : Month, m.Plain → m'.Plain → (m.bytes < m'.bytes ↔ m < m') := by
  refine ⟨fun _ _ => parse_eq_ok_iff, fun text hother => ?_, fun m => ?_,
    fun _ _ => bytes_lt_bytes_iff⟩
  · apply parse_of_forall_ne_ok
    intro m hm
    obtain ⟨hplain, htext⟩ := parse_eq_ok_iff.mp hm
    exact hother m hplain htext
  · split_ifs with hplain
    · exact parse_eq_ok_iff.mpr ⟨hplain, rfl⟩
    · exact parse_text_of_not_plain hplain

/-- The text of the year 10000 is one digit too long, and a leading zero keeps the order. -/
theorem canonical_text_thousand :
    let last : Month := ⟨12 * 999 + 11⟩
    let first : Month := ⟨12 * 1000⟩
    let long : Month := ⟨12 * 10000⟩
    last.Plain ∧ first.Plain ∧ ¬long.Plain ∧ parse "0999-12" = .ok last ∧
      parse "10000-01" = .error (.malformed "10000-01") ∧ last.bytes < first.bytes := by
  intro last first long
  have hlast : last.text = "0999-12" := by
    rw [← String.toList_inj, Month.text, String.toList_ofList]
    decide +kernel
  have hlong : long.text = "10000-01" := by
    rw [← String.toList_inj, Month.text, String.toList_ofList]
    decide +kernel
  obtain ⟨hparse, -, htext, horder⟩ := canonical_text
  refine ⟨by decide, by decide, by decide, ?_, ?_, ?_⟩
  · exact (hparse "0999-12" last).mpr ⟨by decide, hlast⟩
  · have hrefused := htext long
    rwa [if_neg (by decide), hlong] at hrefused
  · exact (horder last first (by decide) (by decide)).mpr (by decide)

end Month

end RelaySnapshot
