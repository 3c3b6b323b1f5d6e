import RelaySnapshot.Proofs.Text.Lines
import RelaySnapshot.Proofs.Text.Utf8

/-!
# Bytes that are no text stay on their line

A byte below 0x80 never carries on a character, so reading begins afresh with it, whatever comes
before. And no other byte is read as a line feed. So the lines of a text are those of its bytes,
even where the bytes are no text.
-/

namespace RelaySnapshot.Utf8

variable {b : UInt8}

/-! ### Single bytes begin afresh -/

theorem readTail_append (hb : b.toNat < 0x80) (more : Nat) {low : Nat} (hlow : 0x80 ≤ low)
    (high bits : Nat) (bytes rest : List UInt8) :
    readTail more low high bits (bytes ++ b :: rest) =
      ((readTail more low high bits bytes).1,
        (readTail more low high bits bytes).2 ++ b :: rest) := by
  induction more generalizing low high bits bytes with
  | zero => rfl
  | succ more ih =>
      cases bytes with
      | nil =>
          have hnot : ¬(low ≤ b.toNat ∧ b.toNat ≤ high) := fun hin =>
            Nat.not_lt.mpr (Nat.le_trans hlow hin.1) hb
          rw [List.nil_append, readTail, readTail, if_neg hnot]
          rfl
      | cons c bytes =>
          rw [List.cons_append, readTail, readTail]
          split
          · exact ih (Nat.le_refl 0x80) 0xBF _ bytes
          · rfl

/-- A first byte is a character of its own, or it begins one that is not among the first 16. -/
theorem lead?_eq_some {n : Nat} {lead : Lead} (h : lead? n = some lead) :
    0x80 ≤ lead.low ∧ (lead.more = 0 ∧ lead.bits = n ∨
      0 < lead.more ∧ 16 ≤ 64 * lead.bits + (lead.low - 0x80)) := by
  have hall : ∀ found ∈ lead? n, 0x80 ≤ found.low ∧ (found.more = 0 ∧ found.bits = n ∨
      0 < found.more ∧ 16 ≤ 64 * found.bits + (found.low - 0x80)) := by
    unfold lead?
    split_ifs <;> simp <;> omega
  exact hall lead h

theorem readChar_append (hb : b.toNat < 0x80) (a : UInt8) (bytes rest : List UInt8) :
    readChar a (bytes ++ b :: rest) =
      ((readChar a bytes).1, (readChar a bytes).2 ++ b :: rest) := by
  rw [readChar, readChar]
  split
  · rfl
  next hlead =>
    dsimp only
    rw [readTail_append hb _ (lead?_eq_some hlead).1]

theorem decodeEach_cons (b : UInt8) (rest : List UInt8) :
    decodeEach (b :: rest) = (readChar b rest).1 :: decodeEach (readChar b rest).2 := by
  rw [decodeEach]

theorem decodeEach_append (hb : b.toNat < 0x80) (bytes rest : List UInt8) :
    decodeEach (bytes ++ b :: rest) = decodeEach bytes ++ decodeEach (b :: rest) := by
  induction bytes using decodeEach.induct with
  | case1 => rw [List.nil_append, decodeEach, List.nil_append]
  | case2 a bytes ih =>
      rw [List.cons_append, decodeEach_cons a, readChar_append hb, ih, decodeEach_cons a,
        List.cons_append]

theorem readChar_of_lt (hb : b.toNat < 0x80) (rest : List UInt8) :
    readChar b rest = (some (Char.ofNat b.toNat), rest) := by
  rw [readChar, lead?, if_pos hb]
  rfl

/-! ### Lines -/

theorem decodeLossy_append_newline (bytes rest : List UInt8) :
    decodeLossy (bytes ++ 10 :: rest) = decodeLossy bytes ++ '\n' :: decodeLossy rest := by
  have hnewline : decodeEach (10 :: rest) = some '\n' :: decodeEach rest := by
    rw [decodeEach_cons, readChar_of_lt (by decide)]
    rfl
  rw [decodeLossy, decodeEach_append (by decide), hnewline, List.map_append, List.map_cons]
  rfl

/-- A value grows with every byte that is read. -/
theorem le_of_readTail {more low high bits value : Nat} {bytes : List UInt8}
    (hread : (readTail more low high bits bytes).1 = some value) : bits ≤ value := by
  induction more generalizing low high bits bytes with
  | zero =>
      cases hread
      exact Nat.le_refl _
  | succ more ih =>
      cases bytes with
      | nil => cases hread
      | cons c bytes =>
          rw [readTail] at hread
          split at hread
          · have hle := ih hread
            omega
          · cases hread

theorem readTail_suffix (more low high bits : Nat) (bytes : List UInt8) :
    (readTail more low high bits bytes).2 <:+ bytes := by
  induction more generalizing low high bits bytes with
  | zero => exact List.suffix_rfl
  | succ more ih =>
      cases bytes with
      | nil => exact List.suffix_rfl
      | cons c bytes =>
          rw [readTail]
          split
          · exact (ih ..).trans (List.suffix_cons c bytes)
          · exact List.suffix_rfl

theorem readChar_suffix (b : UInt8) (rest : List UInt8) : (readChar b rest).2 <:+ rest := by
  rw [readChar]
  split
  · exact List.suffix_rfl
  · exact readTail_suffix ..

theorem readChar_ne_newline (hb : b ≠ 10) (rest : List UInt8) :
    (readChar b rest).1 ≠ some '\n' := by
  intro hread
  rw [readChar] at hread
  split at hread
  · cases hread
  next lead hlead =>
    obtain ⟨value, hvalue, hnewline⟩ := Option.map_eq_some_iff.mp hread
    obtain rfl : value = 10 := by
      have htoNat : (Char.ofNat value).toNat = 10 := congrArg Char.toNat hnewline
      by_cases hvalid : value.isValidChar
      · rw [Char.ofNat, dif_pos hvalid] at htoNat
        exact htoNat
      · rw [Char.ofNat, dif_neg hvalid] at htoNat
        cases htoNat
    rcases (lead?_eq_some hlead).2 with ⟨hmore, hbits⟩ | ⟨hmore, hlarge⟩
    · rw [hmore, hbits] at hvalue
      exact hb (UInt8.toNat_inj.mp (Option.some.inj hvalue))
    · obtain ⟨more, hmore⟩ := Nat.exists_eq_succ_of_ne_zero (Nat.ne_of_gt hmore)
      rw [hmore] at hvalue
      cases rest with
      | nil => cases hvalue
      | cons c rest =>
          rw [readTail] at hvalue
          split at hvalue
          · have hle := le_of_readTail hvalue
            omega
          · cases hvalue

/-- Only the byte of a line feed is read as one. -/
theorem not_mem_decodeLossy {bytes : List UInt8} (h : 10 ∉ bytes) : '\n' ∉ decodeLossy bytes := by
  rw [decodeLossy, List.mem_map]
  rintro ⟨c, hmem, hc⟩
  induction bytes using decodeEach.induct with
  | case1 =>
      rw [decodeEach] at hmem
      cases hmem
  | case2 b bytes ih =>
      rw [List.mem_cons, not_or] at h
      rw [decodeEach_cons] at hmem
      rcases List.mem_cons.mp hmem with rfl | hmem
      · have hne := readChar_ne_newline (Ne.symm h.1) bytes
        cases hread : (readChar b bytes).1 with
        | none =>
            rw [hread] at hc
            exact absurd hc (by decide)
        | some c =>
            rw [hread] at hc hne
            exact hne (congrArg some hc)
      · exact ih (fun hin => h.2 ((readChar_suffix b bytes).mem hin)) hmem

/-- A line of bytes is a line of the text, and the other lines of the text do not change with it. -/
theorem exists_lines_decodeLossy {before after : List UInt8}
    (hbefore : before = [] ∨ before.getLast? = some 10)
    (hafter : after = [] ∨ after.head? = some 10) :
    ∃ ls ls', ∀ line, 10 ∉ line →
      Text.lines (decodeLossy (before ++ line ++ after)) = ls ++ decodeLossy line :: ls' := by
  have hlast : ∃ ls', ∀ line, 10 ∉ line →
      Text.lines (decodeLossy (line ++ after)) = decodeLossy line :: ls' := by
    rcases hafter with rfl | hafter
    · refine ⟨[], fun line hline => ?_⟩
      rw [List.append_nil, Text.lines_of_not_mem (not_mem_decodeLossy hline)]
    · obtain ⟨rest, rfl⟩ := List.head?_eq_some_iff.mp hafter
      refine ⟨Text.lines (decodeLossy rest), fun line hline => ?_⟩
      rw [decodeLossy_append_newline, Text.lines_append_cons (not_mem_decodeLossy hline)]
  obtain ⟨ls', hls'⟩ := hlast
  rcases hbefore with rfl | hbefore
  · exact ⟨[], ls', fun line hline => hls' line hline⟩
  · obtain ⟨first, rfl⟩ := List.getLast?_eq_some_iff.mp hbefore
    refine ⟨Text.lines (decodeLossy first), ls', fun line hline => ?_⟩
    rw [List.append_assoc, List.append_assoc, List.singleton_append, decodeLossy_append_newline,
      Text.lines_append, hls' line hline]

end RelaySnapshot.Utf8
