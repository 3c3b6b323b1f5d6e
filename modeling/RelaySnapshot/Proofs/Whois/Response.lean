import Mathlib.Data.List.Destutter
import RelaySnapshot.Proofs.Address.Text
import RelaySnapshot.Proofs.Calendar.Timestamp
import RelaySnapshot.Proofs.Text.Columns
import RelaySnapshot.Whois

namespace RelaySnapshot

open Text

/-! ### Numbers and addresses as columns -/

namespace Decimal

def IsNumeral (s : Text) : Prop :=
  ∃ digits, digits ≠ [] ∧ (∀ c ∈ digits, c.isDigit = true) ∧ (s = digits ∨ s = '+' :: digits)

theorem bare_write (n : Nat) : Bare (write n) := by
  refine bare_of_forall fun c hc => ⟨isBlank_of_isDigit (isDigit_write n c hc), ?_⟩
  rintro rfl
  cases isDigit_write n _ hc

theorem read?_write {bound n : Nat} (hn : n < bound) : read? bound (write n) = some n := by
  rw [read?_of_isDigit (write_ne_nil n) (isDigit_write n), value_write, if_pos hn]

theorem read?_of_not_numeral {s : Text} (hs : ¬IsNumeral s) (bound : Nat) :
    read? bound s = none := by
  rw [read?]
  refine if_pos ?_
  by_contra hnot
  simp only [Bool.or_eq_true, List.isEmpty_iff, Bool.not_eq_true', not_or, Bool.not_eq_false,
    List.all_eq_true] at hnot
  refine hs ⟨_, hnot.1, hnot.2, ?_⟩
  cases hdrop : dropLeading? ['+'] s with
  | none => exact .inl rfl
  | some rest =>
      cases s with
      | nil => cases hdrop
      | cons c s =>
          rw [dropLeading?] at hdrop
          split at hdrop
          next hc =>
            cases beq_iff_eq.mp hc
            cases hdrop
            exact .inr rfl
          next => cases hdrop

end Decimal

namespace Address

def isAddressChar (c : Char) : Bool :=
  isHex c || c == ':' || c == '.'

theorem isAddressChar_decimal (n : Nat) : ∀ c ∈ Decimal.write n, isAddressChar c = true := by
  intro c hc
  have hrange := Decimal.toNat_of_isDigit (Decimal.isDigit_write n c hc)
  simp [isAddressChar, isHex, Hexadecimal.digitValue?, hrange]

theorem isAddressChar_hexadecimal (n : Nat) :
    ∀ c ∈ Hexadecimal.write n, isAddressChar c = true := by
  intro c hc
  rw [isAddressChar, isHex_write n c hc]
  rfl

theorem isAddressChar_joined {mark : Char} (hmark : isAddressChar mark = true) {parts : List Text}
    (hparts : ∀ part ∈ parts, ∀ c ∈ part, isAddressChar c = true) :
    ∀ c ∈ joined mark parts, isAddressChar c = true := by
  cases parts with
  | nil => simp [joined, List.intercalate]
  | cons part parts =>
      rw [joined_cons]
      intro c hc
      rcases List.mem_append.mp hc with hc | hc
      · exact hparts part List.mem_cons_self c hc
      · obtain ⟨later, hlater, hc⟩ := List.mem_flatMap.mp hc
        rcases List.mem_cons.mp hc with rfl | hc
        · exact hmark
        · exact hparts later (List.mem_cons_of_mem part hlater) c hc

theorem isAddressChar_writeGroups (groups : List Nat) :
    ∀ c ∈ writeGroups groups, isAddressChar c = true :=
  isAddressChar_joined rfl (List.forall_mem_map.mpr fun n _ => isAddressChar_hexadecimal n)

theorem isAddressChar_writeBytes (word : BitVec 32) :
    ∀ c ∈ writeBytes word, isAddressChar c = true :=
  isAddressChar_joined rfl (List.forall_mem_map.mpr fun n _ => isAddressChar_decimal n)

theorem isAddressChar_write (address : Address) : ∀ c ∈ address.write, isAddressChar c = true := by
  have hmapped : ∀ c ∈ "::ffff:".toList, isAddressChar c = true :=
    List.all_eq_true.mp (by decide)
  have hzeros : ∀ c ∈ "::".toList, isAddressChar c = true := List.all_eq_true.mp (by decide)
  cases address with
  | v4 word => exact isAddressChar_writeBytes word
  | v6 word =>
      rw [write, writeWord]
      split
      · exact List.forall_mem_append.mpr ⟨hmapped, isAddressChar_writeBytes _⟩
      · dsimp only
        split
        · exact isAddressChar_writeGroups _
        · rw [List.forall_mem_append, List.forall_mem_append]
          exact ⟨⟨isAddressChar_writeGroups _, hzeros⟩, isAddressChar_writeGroups _⟩

theorem isBlank_of_isAddressChar {c : Char} (hc : isAddressChar c = true) :
    isBlank c = false ∧ c ≠ '|' := by
  have hrange : 46 ≤ c.toNat ∧ c.toNat ≤ 102 := by
    rw [isAddressChar, Bool.or_eq_true, Bool.or_eq_true, beq_iff_eq, beq_iff_eq] at hc
    rcases hc with (hc | rfl) | rfl
    · rw [isHex, Hexadecimal.digitValue?] at hc
      split_ifs at hc
      · omega
      · omega
      · omega
      · cases hc
    · decide
    · decide
  refine ⟨?_, ?_⟩
  · simp [isBlank]
    omega
  · rintro rfl
    exact absurd hrange.2 (by decide)

theorem bare_write (address : Address) : Bare address.write :=
  bare_of_forall fun c hc => isBlank_of_isAddressChar (isAddressChar_write address c hc)

theorem read?_write (address : Address) : read? address.write = some address := by
  have hparse := parse?_text address
  rwa [parse?, text, String.toList_ofList] at hparse

end Address

namespace Whois

/-! ### Servers -/

/-- Which systems announce which addresses. -/
structure Directory where
  announced : Address → Option (UInt32 × Text)
  bare : ∀ address number name, announced address = some (number, name) → Bare name

namespace Directory

variable {directory : Directory}

def answer? (directory : Directory) (address : Address) : Option Answer :=
  (directory.announced address).map fun (number, name) => ⟨number, String.ofList name, address⟩

/-- The line that says what is known of an address; without a system it has no number. -/
inductive Says (directory : Directory) (address : Address) (line : Text) : Prop where
  | announced {number : UInt32} {name : Text} :
      directory.announced address = some (number, name) →
      Shows (Decimal.write number.toNat) address.write name line → Says directory address line
  | unannounced {note name : Text} :
      directory.announced address = none → Bare note → ¬Decimal.IsNumeral note →
      Bare name → Shows note address.write name line → Says directory address line

/-- A line that is about no address. -/
structure Extra (line : Text) : Prop where
  no_feed : '\n' ∉ line
  no_address : ∀ first second third, split (· == '|') line = [first, second, third] →
    Address.read? (trim second) = none

/-- One line for each address, and extra lines anywhere between them. -/
inductive Body (directory : Directory) : List Address → List Text → Prop where
  | nil : Body directory [] []
  | line {address : Address} {addresses : List Address} {line : Text} {rest : List Text} :
      Says directory address line → Body directory addresses rest →
      Body directory (address :: addresses) (line :: rest)
  | extra {addresses : List Address} {line : Text} {rest : List Text} :
      Extra line → Body directory addresses rest → Body directory addresses (line :: rest)

def Responds (directory : Directory) (batch : List Address) (response : Text) : Prop :=
  ∃ banner body, '\n' ∉ banner ∧ Body directory batch body ∧ response = ended (banner :: body)

/-! ### Reading lines -/

theorem readLine_of_announced {address : Address} {number : UInt32} {name line : Text}
    (h : directory.announced address = some (number, name))
    (hline : Shows (Decimal.write number.toNat) address.write name line) :
    readLine line = .announced ⟨number, String.ofList name, address⟩ := by
  have hcolumns := hline.map_trim_split (Decimal.bare_write _) address.bare_write
    (directory.bare _ _ _ h)
  have hnumber : Decimal.read? (Nat.pow 2 32) (Decimal.write number.toNat) = some number.toNat :=
    Decimal.read?_write number.toNat_lt
  rw [readLine, hcolumns]
  simp only [address.read?_write, hnumber, UInt32.ofNat_toNat]

theorem readLine_of_unannounced {address : Address} {note name line : Text} (hnote : Bare note)
    (hnumeral : ¬Decimal.IsNumeral note) (hname : Bare name)
    (hline : Shows note address.write name line) : readLine line = .unannounced address := by
  have hcolumns := hline.map_trim_split hnote address.bare_write hname
  rw [readLine, hcolumns]
  simp only [address.read?_write, Decimal.read?_of_not_numeral hnumeral]

theorem Extra.readLine_eq {line : Text} (h : Extra line) : readLine line = .other := by
  rw [readLine]
  split
  next number address name hcolumns =>
    obtain ⟨first, seconds, hsplit, -, hseconds⟩ := List.map_eq_cons_iff.mp hcolumns
    obtain ⟨second, thirds, rfl, rfl, hthirds⟩ := List.map_eq_cons_iff.mp hseconds
    obtain ⟨third, rest, rfl, -, hrest⟩ := List.map_eq_cons_iff.mp hthirds
    cases List.map_eq_nil_iff.mp hrest
    rw [h.no_address first second third hsplit]
  next => rfl

theorem Says.no_feed {address : Address} {line : Text} (h : Says directory address line) :
    '\n' ∉ line := by
  cases h with
  | announced hannounced hline =>
      exact hline.no_feed (Decimal.bare_write _) address.bare_write
        (directory.bare _ _ _ hannounced)
  | unannounced _ hnote _ hname hline => exact hline.no_feed hnote address.bare_write hname

theorem Body.no_feed {addresses : List Address} {body : List Text}
    (h : Body directory addresses body) : ∀ line ∈ body, '\n' ∉ line := by
  induction h with
  | nil => simp
  | line hline _ ih => exact List.forall_mem_cons.mpr ⟨hline.no_feed, ih⟩
  | extra hextra _ ih => exact List.forall_mem_cons.mpr ⟨hextra.no_feed, ih⟩

end Directory

/-! ### Repeated answers -/

/-- The answers that say something new, given the address of the one before the first. -/
def fresh : (last : Option Address) → List Answer → List Answer
  | _, [] => []
  | last, answer :: rest =>
    if last = some answer.address then fresh last rest
    else answer :: fresh (some answer.address) rest

theorem answers_of_body {directory : Directory} {addresses : List Address} {body : List Text}
    (h : directory.Body addresses body) (last : Option Address) :
    answers last body = fresh last (addresses.filterMap directory.answer?) := by
  induction h generalizing last with
  | nil => rfl
  | @line address addresses line rest hline _ ih =>
      cases hline with
      | announced hannounced hline =>
          rw [answers, Directory.readLine_of_announced hannounced hline, List.filterMap_cons,
            Directory.answer?, hannounced]
          dsimp only [Option.map_some]
          rw [fresh, ih, ih]
      | unannounced hannounced hnote hnumeral hname hline =>
          rw [answers, Directory.readLine_of_unannounced hnote hnumeral hname hline,
            List.filterMap_cons, Directory.answer?, hannounced]
          exact ih last
  | extra hextra _ ih =>
      rw [answers, hextra.readLine_eq]
      exact ih last

theorem readResponse_of_responds {directory : Directory} {batch : List Address} {response : Text}
    (h : directory.Responds batch response) :
    readResponse response = fresh none (batch.filterMap directory.answer?) := by
  obtain ⟨banner, body, hbanner, hbody, rfl⟩ := h
  have hlines := lines_ended_append (List.forall_mem_cons.mpr ⟨hbanner, hbody.no_feed⟩) []
  rw [List.append_nil] at hlines
  rw [readResponse, hlines, lines_nil, List.cons_append, List.tail_cons, List.dropLast_concat,
    answers_of_body hbody]

end Whois

end RelaySnapshot
