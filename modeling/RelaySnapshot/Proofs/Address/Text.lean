import Mathlib.Tactic.Set
import RelaySnapshot.Address.Parser
import RelaySnapshot.Address.Printer
import RelaySnapshot.Proofs.Text.Numerals

namespace RelaySnapshot.Address

open Text

variable {rest : Text}

/-! ### Parts with a mark between them -/

theorem joined_cons (mark : Char) (part : Text) (parts : List Text) :
    joined mark (part :: parts) = part ++ parts.flatMap (mark :: ·) := by
  induction parts generalizing part with
  | nil => simp [joined, List.intercalate]
  | cons next parts ih =>
      rw [List.flatMap_cons, List.cons_append, ← ih]
      simp [joined, List.intercalate]

/-- After the first part stands a mark, or what stands behind all parts. -/
theorem head?_flatMap_append {α : Type} {p : Char → Bool} (mark : Char) (hmark : p mark = false)
    (hrest : ∀ c ∈ rest.head?, p c = false) (write : α → Text) (parts : List α) :
    ∀ c ∈ (parts.flatMap (fun part => mark :: write part) ++ rest).head?, p c = false := by
  cases parts with
  | nil => exact hrest
  | cons part parts =>
      rintro c ⟨⟩
      exact hmark

theorem dropLeading?_singleton (c : Char) (s : Text) :
    dropLeading? [c] (c :: s) = some s := by
  simp [dropLeading?]

/-! ### Bytes -/

theorem readByte_write {n : Nat} (hn : n < 256) (hrest : ∀ c ∈ rest.head?, c.isDigit = false) :
    readByte (Decimal.write n ++ rest) = some (n, rest) := by
  have hlength := Decimal.length_write_le (k := 3) (n := n) (by decide) (by omega)
  have hzero : (Decimal.write n).head? = some '0' → (Decimal.write n).length = 1 := by
    intro hhead
    rw [Decimal.eq_zero_of_head? hhead, Decimal.write_of_lt (by decide)]
    rfl
  simp only [readByte, takeWhile_append (Decimal.isDigit_write n) hrest, Decimal.value_write,
    List.drop_left]
  rw [if_neg]
  simp only [Bool.or_eq_true, not_or, decide_eq_true_eq, Bool.and_eq_true, beq_iff_eq, bne_iff_ne,
    List.isEmpty_iff]
  refine ⟨⟨⟨Decimal.write_ne_nil n, by omega⟩, ?_⟩, by omega⟩
  rintro ⟨hhead, hne⟩
  exact hne (hzero hhead)

theorem readBytes_later {bytes : List Nat} (hbytes : ∀ n ∈ bytes, n < 256)
    (hrest : ∀ c ∈ rest.head?, c.isDigit = false) :
    readBytes bytes.length false (bytes.flatMap (fun n => '.' :: Decimal.write n) ++ rest) =
      some (bytes, rest) := by
  induction bytes with
  | nil => rfl
  | cons n bytes ih =>
      have hnext := head?_flatMap_append (p := Char.isDigit) '.' rfl hrest Decimal.write
        bytes
      have ih := ih fun m hm => hbytes m (List.mem_cons_of_mem _ hm)
      rw [List.flatMap_cons, List.cons_append, List.cons_append, List.append_assoc,
        List.length_cons, readBytes]
      simp [dropLeading?_singleton, readByte_write (hbytes n List.mem_cons_self) hnext, ih]

theorem readBytes_joined {first : Nat} {bytes : List Nat} (hfirst : first < 256)
    (hbytes : ∀ n ∈ bytes, n < 256) (hrest : ∀ c ∈ rest.head?, c.isDigit = false) :
    readBytes (bytes.length + 1) true (joined '.' ((first :: bytes).map Decimal.write) ++ rest) =
      some (first :: bytes, rest) := by
  have hnext := head?_flatMap_append (p := Char.isDigit) '.' rfl hrest Decimal.write bytes
  rw [List.map_cons, joined_cons, List.flatMap_map, List.append_assoc, readBytes]
  simp [readByte_write hfirst hnext, readBytes_later hbytes hrest]

theorem bytes_lt (word : BitVec 32) : ∀ n ∈ bytes word, n < 256 := by
  intro n hn
  obtain ⟨shift, -, rfl⟩ := List.mem_map.mp hn
  exact Nat.mod_lt _ (by decide)

theorem ofParts_bytes (word : BitVec 32) : ofParts 32 256 (bytes word) = word := by
  have hword := word.isLt
  refine BitVec.eq_of_toNat_eq ?_
  simp [ofParts, bytes]
  omega

theorem readBytes_writeBytes (word : BitVec 32) :
    readBytes 4 true (writeBytes word) = some (bytes word, []) := by
  have hbytes := bytes_lt word
  have hnil : ∀ c ∈ ([] : Text).head?, c.isDigit = false := by simp
  have hread := readBytes_joined (hbytes _ List.mem_cons_self)
    (fun n hn => hbytes n (List.mem_cons_of_mem _ hn)) hnil
  rw [List.append_nil] at hread
  exact hread

/-! ### Groups -/

def isHex (c : Char) : Bool :=
  (Hexadecimal.digitValue? c).isSome

theorem isHex_write (n : Nat) : ∀ c ∈ Hexadecimal.write n, isHex c = true := by
  obtain ⟨digits, hwrite, -, -⟩ := Hexadecimal.exists_digits n
  rw [hwrite]
  intro c hc
  obtain ⟨d, -, rfl⟩ := List.mem_map.mp hc
  rw [isHex, Hexadecimal.digitValue?_digit]
  rfl

theorem readGroup_write {n : Nat} (hn : n < 65536) (hrest : ∀ c ∈ rest.head?, isHex c = false) :
    readGroup (Hexadecimal.write n ++ rest) = some (n, rest) := by
  have hlength := Hexadecimal.length_write_le (k := 4) (n := n) (by decide) (by omega)
  have htaken : (Hexadecimal.write n ++ rest).takeWhile
      (fun c => (Hexadecimal.digitValue? c).isSome) = Hexadecimal.write n :=
    takeWhile_append (isHex_write n) hrest
  obtain ⟨digits, hwrite, hne, hvalue⟩ := Hexadecimal.exists_digits n
  have hdigits : (Hexadecimal.write n).filterMap Hexadecimal.digitValue? = digits := by
    have hselect : Hexadecimal.digitValue? ∘ (fun d : Fin 16 => Hexadecimal.digit d.val) = some :=
      funext Hexadecimal.digitValue?_digit
    rw [hwrite, List.filterMap_map, hselect, List.filterMap_some]
  simp only [readGroup, htaken, hdigits, hvalue, List.drop_left]
  rw [if_neg]
  simp only [Bool.or_eq_true, not_or, decide_eq_true_eq, List.isEmpty_iff]
  refine ⟨fun hnil => hne ?_, by omega⟩
  rw [hwrite] at hnil
  exact List.map_eq_nil_iff.mp hnil

/-- Without a point there are no four bytes. -/
theorem readBytes_of_no_point {s : Text} (hpoint : '.' ∉ s) : readBytes 4 true s = none := by
  have hlater {s : Text} (hpoint : '.' ∉ s) (count : Nat) :
      readBytes (count + 1) false s = none := by
    cases s with
    | nil => rfl
    | cons c s =>
        have hne : ('.' == c) = false := by
          simp only [beq_eq_false_iff_ne]
          rintro rfl
          exact hpoint List.mem_cons_self
        simp [readBytes, dropLeading?, hne]
  rw [readBytes]
  simp only [if_true, Option.bind_eq_bind, Option.bind_some]
  cases hbyte : readByte s with
  | none => rfl
  | some found =>
      obtain ⟨byte, after⟩ := found
      have hafter : '.' ∉ after := by
        simp only [readByte] at hbyte
        split at hbyte
        · cases hbyte
        · cases hbyte
          exact fun hmem => hpoint (List.mem_of_mem_drop hmem)
      simp [hlater hafter]

/-- Here no further group begins. -/
def Stops (rest : Text) : Prop :=
  rest = [] ∨ ∃ more, rest = ':' :: ':' :: more

theorem Stops.head?_not_isHex (h : Stops rest) : ∀ c ∈ rest.head?, isHex c = false := by
  rcases h with rfl | ⟨more, rfl⟩
  · simp
  · rintro c ⟨⟩
    rfl

theorem readGroup_colon (s : Text) : readGroup (':' :: s) = none := rfl

theorem readByte_colon (s : Text) : readByte (':' :: s) = none := rfl

theorem readGroups_colon (room : Nat) (s : Text) :
    readGroups room true (':' :: s) = ⟨[], false, ':' :: s⟩ := by
  cases room with
  | zero => rfl
  | succ room => simp [readGroups, readBytes, readByte_colon, readGroup_colon]

theorem readGroups_stop (h : Stops rest) (room : Nat) :
    readGroups room false rest = ⟨[], false, rest⟩ := by
  cases room with
  | zero => rfl
  | succ room =>
      rcases h with rfl | ⟨more, rfl⟩
      · simp [readGroups, dropLeading?]
      · simp [readGroups, dropLeading?, readBytes, readByte_colon, readGroup_colon]

theorem readGroups_cons {s : Text} {n : Nat} (hn : n < 65536) (room : Nat) (first : Bool)
    (hstart : (if first then some s else dropLeading? [':'] s) = some (Hexadecimal.write n ++ rest))
    (hrest : ∀ c ∈ rest.head?, isHex c = false) (hpoint : '.' ∉ Hexadecimal.write n ++ rest) :
    readGroups (room + 1) first s =
      ⟨n :: (readGroups room false rest).values, (readGroups room false rest).endsWithBytes,
        (readGroups room false rest).rest⟩ := by
  have hbytes : (if room = 0 then none else
      (some (Hexadecimal.write n ++ rest)).bind (readBytes 4 true)) = none := by
    split
    · rfl
    · exact readBytes_of_no_point hpoint
  rw [readGroups, hstart]
  simp only [hbytes]
  simp [readGroup_write hn hrest]

/-- Four bytes are two groups, and the last ones. -/
theorem readGroups_bytes {s bytes : Text} {a b c d : Nat} (room : Nat) (first : Bool)
    (hstart : (if first then some s else dropLeading? [':'] s) = some bytes)
    (hread : readBytes 4 true bytes = some ([a, b, c, d], rest)) :
    readGroups (room + 2) first s = ⟨[256 * a + b, 256 * c + d], true, rest⟩ := by
  have hbytes : (if room + 1 = 0 then none else (some bytes).bind (readBytes 4 true)) =
      some ([a, b, c, d], rest) := by
    rw [if_neg (Nat.succ_ne_zero room)]
    exact hread
  rw [readGroups, hstart]
  simp only [hbytes]

theorem readGroups_later {groups : List Nat} (hgroups : ∀ n ∈ groups, n < 65536)
    (hstops : Stops rest)
    (hpoint : '.' ∉ groups.flatMap (fun n => ':' :: Hexadecimal.write n) ++ rest) {room : Nat}
    (hroom : groups.length ≤ room) :
    readGroups room false (groups.flatMap (fun n => ':' :: Hexadecimal.write n) ++ rest) =
      ⟨groups, false, rest⟩ := by
  induction groups generalizing room with
  | nil => exact readGroups_stop hstops room
  | cons n groups ih =>
      cases room with
      | zero => cases hroom
      | succ room =>
          rw [List.flatMap_cons, List.cons_append, List.cons_append, List.append_assoc] at hpoint ⊢
          have hnext := head?_flatMap_append ':' rfl hstops.head?_not_isHex
            Hexadecimal.write groups
          have hpoint : '.' ∉ Hexadecimal.write n ++
              (groups.flatMap (fun n => ':' :: Hexadecimal.write n) ++ rest) :=
            fun hmem => hpoint (List.mem_cons_of_mem _ hmem)
          have ih := ih (fun m hm => hgroups m (List.mem_cons_of_mem _ hm))
            (fun hmem => hpoint (List.mem_append_right _ hmem)) (Nat.le_of_succ_le_succ hroom)
          set later := groups.flatMap (fun n => ':' :: Hexadecimal.write n) ++ rest
          have hcons := readGroups_cons (s := ':' :: (Hexadecimal.write n ++ later))
            (hgroups n List.mem_cons_self) room false (by simp [dropLeading?_singleton]) hnext
            hpoint
          rw [hcons, ih]

theorem readGroups_writeGroups {groups : List Nat} (hgroups : ∀ n ∈ groups, n < 65536)
    (hstops : Stops rest) (hpoint : '.' ∉ writeGroups groups ++ rest) (room : Nat)
    (hroom : groups.length ≤ room) :
    readGroups room true (writeGroups groups ++ rest) = ⟨groups, false, rest⟩ := by
  cases groups with
  | nil =>
      rcases hstops with rfl | ⟨more, rfl⟩
      · cases room with
        | zero => rfl
        | succ room =>
            simp [readGroups, writeGroups, joined, List.intercalate, readBytes, readByte, readGroup]
      · exact readGroups_colon room (':' :: more)
  | cons n groups =>
      cases room with
      | zero => cases hroom
      | succ room =>
          rw [writeGroups, List.map_cons, joined_cons, List.flatMap_map, List.append_assoc]
            at hpoint ⊢
          have hnext := head?_flatMap_append ':' rfl hstops.head?_not_isHex
            Hexadecimal.write groups
          rw [readGroups_cons (hgroups n List.mem_cons_self) room true rfl hnext hpoint,
            readGroups_later (fun m hm => hgroups m (List.mem_cons_of_mem _ hm)) hstops
              (fun hmem => hpoint (List.mem_append_right _ hmem)) (Nat.le_of_succ_le_succ hroom)]

theorem not_point_of_mem_writeGroups (groups : List Nat) : '.' ∉ writeGroups groups := by
  have hwrite (n : Nat) : '.' ∉ Hexadecimal.write n := fun hmem => by
    have hhex := isHex_write n '.' hmem
    cases hhex
  cases groups with
  | nil => simp [writeGroups, joined, List.intercalate]
  | cons n groups =>
      rw [writeGroups, List.map_cons, joined_cons]
      simp [hwrite]

/-! ### Words -/

theorem takeWhile_zeros (groups : List Nat) :
    groups = List.replicate (groups.takeWhile (· == 0)).length 0 ++ groups.dropWhile (· == 0) := by
  have hzeros : groups.takeWhile (· == 0) =
      List.replicate (groups.takeWhile (· == 0)).length 0 :=
    List.eq_replicate_iff.mpr ⟨rfl, fun n hn => by simpa using List.mem_takeWhile_imp hn⟩
  rw [← hzeros, List.takeWhile_append_dropWhile]

/-- The run that is found has groups before it and after it, and consists of zeros. -/
theorem exists_go_longestZeros (start : Nat) (groups : List Nat) :
    ∃ before zeros after, longestZeros.go start groups = (start + before.length, zeros) ∧
      groups = before ++ (List.replicate zeros 0 ++ after) := by
  induction groups generalizing start with
  | nil => exact ⟨[], 0, [], rfl, rfl⟩
  | cons g rest ih =>
      obtain ⟨before, zeros, after, hlater, hsplit⟩ := ih (start + 1)
      rw [longestZeros.go, hlater]
      dsimp only
      split
      · exact ⟨[], _, _, rfl, takeWhile_zeros (g :: rest)⟩
      · refine ⟨g :: before, zeros, after, ?_, ?_⟩
        · rw [List.length_cons, Nat.add_assoc, Nat.add_comm 1]
        · rw [List.cons_append, ← hsplit]

theorem groups_lt (word : BitVec 128) : ∀ n ∈ groups word, n < 65536 := by
  intro n hn
  obtain ⟨shift, -, rfl⟩ := List.mem_map.mp hn
  exact Nat.mod_lt _ (by decide)

theorem ofParts_groups (word : BitVec 128) : ofParts 128 65536 (groups word) = word := by
  have hword := word.isLt
  refine BitVec.eq_of_toNat_eq ?_
  simp [ofParts, groups]
  omega

theorem readWord_writeGroups {all : List Nat} (hall : ∀ n ∈ all, n < 65536)
    (hlength : all.length = 8) : readWord (writeGroups all) = some (all, []) := by
  have hread := readGroups_writeGroups hall (.inl rfl)
    (by rw [List.append_nil]; exact not_point_of_mem_writeGroups all) 8 hlength.le
  rw [List.append_nil] at hread
  rw [readWord, hread]
  exact if_pos hlength

/-- At least two groups of zero may be left out. -/
theorem readWord_compressed {before after : List Nat} {zeros : Nat}
    (hall : ∀ n ∈ before ++ (List.replicate zeros 0 ++ after), n < 65536)
    (hlength : (before ++ (List.replicate zeros 0 ++ after)).length = 8) (hzeros : 1 < zeros) :
    readWord (writeGroups before ++ "::".toList ++ writeGroups after) =
      some (before ++ (List.replicate zeros 0 ++ after), []) := by
  simp only [List.length_append, List.length_replicate] at hlength
  have hbefore : ∀ n ∈ before, n < 65536 := fun n hn => hall n (List.mem_append_left _ hn)
  have hafter : ∀ n ∈ after, n < 65536 :=
    fun n hn => hall n (List.mem_append_right _ (List.mem_append_right _ hn))
  have hpoint := not_point_of_mem_writeGroups after
  have hstops : Stops ("::".toList ++ writeGroups after) := .inr ⟨_, rfl⟩
  have hhead := readGroups_writeGroups hbefore hstops
    (by simp [not_point_of_mem_writeGroups, hpoint]) 8 (by omega)
  have htail := readGroups_writeGroups hafter (.inl rfl) (by rwa [List.append_nil])
    (7 - before.length) (by omega)
  rw [List.append_nil] at htail
  have hmissing : 8 - before.length - after.length = zeros := by omega
  have hmark : dropLeading? [':', ':'] ("::".toList ++ writeGroups after) =
      some (writeGroups after) := by simp [dropLeading?]
  rw [readWord, List.append_assoc, hhead]
  dsimp only
  rw [if_neg (by omega), if_neg (by decide), hmark]
  simp [htail, hmissing]

theorem readWord_writeWord_of_not_mapped {word : BitVec 128} (hmapped : mapped? word = none) :
    readWord (writeWord word) = some (groups word, []) := by
  have hlength : (groups word).length = 8 := by simp [groups]
  obtain ⟨before, zeros, after, hrun, hsplit⟩ := exists_go_longestZeros 0 (groups word)
  rw [writeWord, hmapped]
  simp only [longestZeros, hrun, Nat.zero_add]
  split
  · exact readWord_writeGroups (groups_lt word) hlength
  next hlong =>
    have hall := groups_lt word
    have htake : (groups word).take before.length = before := by rw [hsplit, List.take_left]
    have hdrop : (groups word).drop (before.length + zeros) = after := by
      rw [hsplit, ← List.append_assoc]
      exact List.drop_left' (by simp)
    rw [htake, hdrop]
    rw [hsplit] at hall hlength ⊢
    exact readWord_compressed hall hlength (by omega)

/-- The groups of an address that ends with four bytes. -/
def mappedGroups (word : BitVec 32) : List Nat :=
  [0, 0, 0, 0, 0, 65535, word.toNat / 65536, word.toNat % 65536]

theorem readGroup_mapped (s : Text) :
    readGroup ("ffff:".toList ++ s) = some (65535, ':' :: s) := rfl

theorem readByte_mapped (s : Text) : readByte ("ffff:".toList ++ s) = none := rfl

theorem readGroups_mapped (word : BitVec 32) :
    readGroups 7 true ("ffff:".toList ++ writeBytes word) =
      ⟨[65535, word.toNat / 65536, word.toNat % 65536], true, []⟩ := by
  have hword := word.isLt
  have hbytes : bytes word = [word.toNat / 16777216 % 256, word.toNat / 65536 % 256,
      word.toNat / 256 % 256, word.toNat % 256] := by simp [bytes]
  have hread := readBytes_writeBytes word
  rw [hbytes] at hread
  have hhigh : 256 * (word.toNat / 16777216 % 256) + word.toNat / 65536 % 256 =
      word.toNat / 65536 := by omega
  have hlow : 256 * (word.toNat / 256 % 256) + word.toNat % 256 = word.toNat % 65536 := by omega
  have hlast : readGroups 6 false (':' :: writeBytes word) =
      ⟨[word.toNat / 65536, word.toNat % 65536], true, []⟩ := by
    rw [readGroups_bytes 4 false (by simp [dropLeading?_singleton]) hread, hhigh, hlow]
  have hfirst : readBytes 4 true ("ffff:".toList ++ writeBytes word) = none := by
    rw [readBytes]
    simp only [if_true, Option.bind_eq_bind, Option.bind_some, readByte_mapped, Option.bind_none]
  rw [readGroups]
  simp only [if_true, Option.bind_some, hfirst, readGroup_mapped, ite_self, hlast]

theorem readWord_mapped (word : BitVec 32) :
    readWord ("::ffff:".toList ++ writeBytes word) = some (mappedGroups word, []) := by
  have hhead := readGroups_colon 8 (":ffff:".toList ++ writeBytes word)
  change readGroups 8 true ("::ffff:".toList ++ writeBytes word) =
    ⟨[], false, "::ffff:".toList ++ writeBytes word⟩ at hhead
  have hmark : dropLeading? [':', ':'] ("::ffff:".toList ++ writeBytes word) =
      some ("ffff:".toList ++ writeBytes word) := by simp [dropLeading?]
  rw [readWord, hhead]
  dsimp only
  rw [if_neg (by decide), if_neg (by decide), hmark]
  simp only [Option.bind_eq_bind, Option.bind_some, List.length_nil, Nat.sub_zero,
    readGroups_mapped]
  rfl

theorem ofParts_mappedGroups {word : BitVec 128} {short : BitVec 32}
    (hmapped : mapped? word = some short) : ofParts 128 65536 (mappedGroups short) = word := by
  have hword := word.isLt
  rw [mapped?] at hmapped
  split at hmapped
  next hprefix =>
    obtain rfl := Option.some.inj hmapped
    refine BitVec.eq_of_toNat_eq ?_
    simp [ofParts, mappedGroups] at hprefix ⊢
    omega
  next => cases hmapped

/-! ### All addresses -/

theorem readBytes_writeWord (word : BitVec 128) : readBytes 4 true (writeWord word) = none := by
  cases hmapped : mapped? word with
  | some short =>
      rw [writeWord, hmapped]
      rfl
  | none =>
      refine readBytes_of_no_point ?_
      rw [writeWord, hmapped]
      dsimp only
      split
      · exact not_point_of_mem_writeGroups _
      · simp [not_point_of_mem_writeGroups]

/-- An address is read from its own text. -/
theorem parse?_text (address : Address) : parse? address.text = some address := by
  rw [parse?, text, String.toList_ofList]
  cases address with
  | v4 word =>
      rw [write, read?, readBytes_writeBytes]
      simp [ofParts_bytes]
  | v6 word =>
      rw [write, read?, readBytes_writeWord]
      cases hmapped : mapped? word with
      | some short =>
          rw [writeWord, hmapped]
          simp only [readWord_mapped, ofParts_mappedGroups hmapped]
      | none => simp only [readWord_writeWord_of_not_mapped hmapped, ofParts_groups]

end RelaySnapshot.Address
