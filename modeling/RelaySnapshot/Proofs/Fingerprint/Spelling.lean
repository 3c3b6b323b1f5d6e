import Mathlib.Data.List.Induction
import RelaySnapshot.Proofs.Descriptor.Arguments
import RelaySnapshot.Proofs.Fingerprint.Lookup
import RelaySnapshot.Proofs.Store.Reading

/-!
# Spellings of a fingerprint

A fingerprint can be written with blanks between its digits and with letters of either case. All
places where a relay is named go by the same reading: the fingerprint line of a descriptor, the
tokens of a family line, and the table of nodes. So a relay is found under one key, however it is
spelled.
-/

namespace RelaySnapshot

namespace Hexadecimal

def digitChars : Text :=
  "0123456789abcdefABCDEF".toList

/-- A digit is one of these characters, and without its case it is the digit that is written. -/
theorem of_digitValue? {c : Char} {d : Fin 16} (h : digitValue? c = some d) :
    c ∈ digitChars ∧ c.toLower = digit d.val := by
  have hall : ∀ n < 128, ∀ d ∈ digitValue? (Char.ofNat n),
      Char.ofNat n ∈ digitChars ∧ (Char.ofNat n).toLower = digit d.val := by
    decide +kernel
  have hlt : c.toNat < 128 := by
    unfold digitValue? at h
    dsimp only at h
    split_ifs at h <;> omega
  have hc := hall c.toNat hlt
  rw [Char.ofNat_toNat] at hc
  exact hc d h

theorem mem_digitChars_iff {c : Char} : c ∈ digitChars ↔ ∃ d, digitValue? c = some d := by
  constructor
  · have hall : digitChars.all (digitValue? · |>.isSome) = true := by decide
    exact fun hc => Option.isSome_iff_exists.mp (List.all_eq_true.mp hall c hc)
  · rintro ⟨d, hd⟩
    exact (of_digitValue? hd).1

theorem digit_injective {d d' : Fin 16} (h : digit d.val = digit d'.val) : d = d' := by
  have hd := digitValue?_digit d
  rw [h, digitValue?_digit] at hd
  exact (Option.some.inj hd).symm

/-- Numerals of one length denote different numbers unless they are the same. -/
theorem value_injective {digits digits' : List (Fin 16)}
    (hlength : digits.length = digits'.length) (hvalue : value digits = value digits') :
    digits = digits' := by
  induction digits using List.reverseRecOn generalizing digits' with
  | nil => exact (List.length_eq_zero_iff.mp hlength.symm).symm
  | append_singleton digits d ih =>
      obtain ⟨front, d', rfl⟩ := List.eq_nil_or_concat' digits' |>.resolve_left (by
        rintro rfl
        simp at hlength)
      rw [value_append, value_append] at hvalue
      have hlast : d = d' := Fin.ext (by omega)
      have hfront : digits = front := ih (by simpa using hlength) (by omega)
      rw [hfront, hlast]

end Hexadecimal

namespace Fingerprint

open Text Hexadecimal

/-! ### Spellings -/

/-- The text without blanks and with its ASCII letters in lower case. -/
def bare (raw : Text) : Text :=
  lowerCaseAscii (raw.filter (!isBlank ·))

/-- Without blanks there are forty hexadecimal digits. -/
def IsSpelling (raw : Text) : Prop :=
  (raw.filter (!isBlank ·)).length = 40 ∧ ∀ c ∈ raw, isBlank c = false → c ∈ digitChars

theorem ofText?_eq_some_iff {raw : Text} {fp : Fingerprint} :
    ofText? raw = some fp ↔ ∃ digits : List (Fin 16),
      (raw.filter (!isBlank ·)).map digitValue? = digits.map some ∧ digits.length = 40 ∧
        Hexadecimal.value digits = fp.value := by
  rw [ofText?]
  constructor
  · intro h
    split at h
    next => cases h
    next digits hdigits =>
      split_ifs at h with hlength
      cases h
      exact ⟨digits, mapM_eq_some_iff.mp hdigits, hlength, rfl⟩
  · rintro ⟨digits, hdigits, hlength, hvalue⟩
    rw [mapM_eq_some_iff.mpr hdigits]
    obtain ⟨value, hlt⟩ := fp
    simp only [hlength, dif_pos, Option.some.injEq, mk.injEq]
    exact hvalue

theorem parse_eq_ok_iff {raw : String} {fp : Fingerprint} :
    parse raw = .ok fp ↔ ofText? raw.toList = some fp := by
  rw [parse]
  cases ofText? raw.toList <;> simp

theorem exists_digits_iff {l : Text} :
    (∃ digits : List (Fin 16), l.map digitValue? = digits.map some) ↔ ∀ c ∈ l, c ∈ digitChars := by
  simp only [mem_digitChars_iff]
  induction l with
  | nil => exact ⟨fun _ _ hc => (List.not_mem_nil hc).elim, fun _ => ⟨[], rfl⟩⟩
  | cons c l ih =>
      rw [List.forall_mem_cons, ← ih]
      constructor
      · rintro ⟨_ | ⟨d, digits⟩, h⟩
        · cases h
        · obtain ⟨hd, hdigits⟩ := List.cons.inj h
          exact ⟨⟨d, hd⟩, digits, hdigits⟩
      · rintro ⟨⟨d, hd⟩, digits, hdigits⟩
        exact ⟨d :: digits, by rw [List.map_cons, List.map_cons, hd, hdigits]⟩

theorem exists_parse_iff {raw : String} :
    (∃ fp, parse raw = .ok fp) ↔ IsSpelling raw.toList := by
  have hdigits : (∀ c ∈ raw.toList, isBlank c = false → c ∈ digitChars) ↔
      ∀ c ∈ raw.toList.filter (!isBlank ·), c ∈ digitChars := by
    simp only [List.mem_filter, Bool.not_eq_true', and_imp]
  simp only [parse_eq_ok_iff, ofText?_eq_some_iff, IsSpelling, hdigits, ← exists_digits_iff]
  constructor
  · rintro ⟨fp, digits, hread, hlength, -⟩
    refine ⟨?_, digits, hread⟩
    simpa [hlength] using congrArg List.length hread
  · rintro ⟨hforty, digits, hread⟩
    have hlength : digits.length = 40 := by
      rw [← hforty]
      simpa using (congrArg List.length hread).symm
    exact ⟨⟨Hexadecimal.value digits, hlength ▸ Hexadecimal.value_lt digits⟩, digits, hread,
      hlength, rfl⟩

/-- A text without its blanks and case consists of the digits that are read of it. -/
theorem bare_eq {raw : Text} {digits : List (Fin 16)}
    (h : (raw.filter (!isBlank ·)).map digitValue? = digits.map some) :
    bare raw = digits.map fun d => digit d.val := by
  rw [bare, lowerCaseAscii]
  generalize raw.filter (!isBlank ·) = l at h ⊢
  induction l generalizing digits with
  | nil =>
      cases digits with
      | nil => rfl
      | cons d digits => cases h
  | cons c l ih =>
      cases digits with
      | nil => cases h
      | cons d digits =>
          obtain ⟨hd, hdigits⟩ := List.cons.inj h
          rw [List.map_cons, List.map_cons, (of_digitValue? hd).2, ih hdigits]

theorem parse_eq_parse_iff {raw raw' : String} {fp fp' : Fingerprint} (h : parse raw = .ok fp)
    (h' : parse raw' = .ok fp') : fp = fp' ↔ bare raw.toList = bare raw'.toList := by
  obtain ⟨digits, hdigits, hlength, hvalue⟩ := ofText?_eq_some_iff.mp (parse_eq_ok_iff.mp h)
  obtain ⟨digits', hdigits', hlength', hvalue'⟩ := ofText?_eq_some_iff.mp (parse_eq_ok_iff.mp h')
  rw [bare_eq hdigits, bare_eq hdigits']
  constructor
  · rintro rfl
    rw [value_injective (hlength.trans hlength'.symm) (hvalue.trans hvalue'.symm)]
  · intro hbare
    have hinjective : Function.Injective fun d : Fin 16 => digit d.val := fun _ _ => digit_injective
    obtain rfl := hinjective.list_map hbare
    have heq := hvalue.symm.trans hvalue'
    cases fp
    cases fp'
    simpa using heq

/-! ### Family tokens -/

/-- What may come after the fingerprint in a token: nothing, or a nickname that is set off. -/
def EndsName (suffix : Text) : Prop :=
  suffix = [] ∨ suffix.head? = some '=' ∨ suffix.head? = some '~'

theorem isSpelling_of_parse {raw : String} {fp : Fingerprint} (h : parse raw = .ok fp) :
    IsSpelling raw.toList :=
  exists_parse_iff.mp ⟨fp, h⟩

/-- No mark that sets off a nickname is a part of a fingerprint. -/
theorem takeWhile_spelling {raw suffix : Text} (hraw : IsSpelling raw) (hsuffix : EndsName suffix) :
    (raw ++ suffix).takeWhile (fun c => c != '=' && c != '~') = raw := by
  have hmarks : ∀ c ∈ raw, (c != '=' && c != '~') = true := by
    intro c hc
    rw [Bool.and_eq_true, bne_iff_ne, bne_iff_ne]
    constructor
    · rintro rfl
      exact absurd (hraw.2 '=' hc (by decide)) (by decide)
    · rintro rfl
      exact absurd (hraw.2 '~' hc (by decide)) (by decide)
  rw [List.takeWhile_append_of_pos hmarks]
  rcases hsuffix with rfl | hhead | hhead
  · simp
  · obtain ⟨rest, rfl⟩ := List.head?_eq_some_iff.mp hhead
    simp
  · obtain ⟨rest, rfl⟩ := List.head?_eq_some_iff.mp hhead
    simp

theorem endsName_dropWhile (rest : Text) :
    EndsName (rest.dropWhile fun c => c != '=' && c != '~') := by
  induction rest with
  | nil => exact .inl rfl
  | cons c rest ih =>
      rw [List.dropWhile_cons]
      split
      next => exact ih
      next hmark =>
        rw [Bool.and_eq_true, bne_iff_ne, bne_iff_ne, not_and_or, not_not, not_not] at hmark
        exact .inr (hmark.imp (congrArg some) (congrArg some))

theorem ofFamilyToken?_eq_some_iff {token : Text} {fp : Fingerprint} :
    ofFamilyToken? token = some fp ↔ ∃ raw suffix, token = '$' :: (raw ++ suffix) ∧
      EndsName suffix ∧ parse (String.ofList raw) = .ok fp := by
  constructor
  · intro h
    unfold ofFamilyToken? at h
    split at h
    next rest =>
      refine ⟨rest.takeWhile fun c => c != '=' && c != '~',
        rest.dropWhile fun c => c != '=' && c != '~', ?_, endsName_dropWhile rest, ?_⟩
      · rw [List.takeWhile_append_dropWhile]
      · rw [parse_eq_ok_iff, String.toList_ofList]
        exact h
    next => cases h
  · rintro ⟨raw, suffix, rfl, hsuffix, hparse⟩
    have hspelling := isSpelling_of_parse hparse
    rw [String.toList_ofList] at hspelling
    rw [ofFamilyToken?, takeWhile_spelling hspelling hsuffix]
    rwa [parse_eq_ok_iff, String.toList_ofList] at hparse

/-! ### Where relays are named -/

/-- Each place where a relay is named reads the spelling that stands there. -/
structure Named : Prop where
  /-- The line in which a relay names itself. -/
  line : ∀ (draft next : Descriptor.Draft) (arguments : Text),
    draft.add .fingerprint arguments = .ok next ↔
      ∃ fp, parse (String.ofList arguments) = .ok fp ∧ next = { draft with fingerprint := some fp }
  /-- A family line adds the relays that its tokens name. -/
  family : ∀ (draft : Descriptor.Draft) (arguments : Text), ∃ next,
    draft.add .family arguments = .ok next ∧ ∀ fp, fp ∈ next.family ↔ fp ∈ draft.family ∨
      ∃ raw suffix, '$' :: (raw ++ suffix) ∈ words arguments ∧ EndsName suffix ∧
        parse (String.ofList raw) = .ok fp
  /-- The texts in the table of nodes. -/
  nodes : ∀ (medium : Medium) (items : List (String × NodeRecord)),
    (∀ item ∈ items, parse item.1 = .ok item.2.fingerprint) →
    medium.rows .nodes = .ok (items.map fun item => [.integer item.2.id, .text item.1]) →
    ∃ found, medium.nodes = .ok found ∧ found.Perm (items.map Prod.snd)

theorem named : Named where
  line draft next arguments := by
    cases hread : parse (String.ofList arguments) with
    | error e => simp [Descriptor.Draft.add, hread]
    | ok fp => simp [Descriptor.Draft.add, hread, eq_comm]
  family draft arguments := by
    refine ⟨_, rfl, fun fp => ?_⟩
    rw [FingerprintSet.mem_insertAll, List.mem_filterMap, or_comm]
    refine or_congr_right ?_
    simp only [ofFamilyToken?_eq_some_iff]
    constructor
    · rintro ⟨_, hmem, raw, suffix, rfl, hread⟩
      exact ⟨raw, suffix, hmem, hread⟩
    · rintro ⟨raw, suffix, hmem, hread⟩
      exact ⟨_, hmem, raw, suffix, rfl, hread⟩
  nodes medium items hread hrows := by
    refine ⟨_, Medium.readRows_eq Prod.snd hrows fun item hitem => ?_,
      (List.mergeSort_perm _ _).map Prod.snd⟩
    refine ⟨(item.2.id, item.1), rfl, ?_⟩
    simp only [hread item hitem]

/-! ### The main statement -/

/-- All spellings of a fingerprint denote it. -/
structure Identifies : Prop where
  accepts : ∀ raw : String, (∃ fp, parse raw = .ok fp) ↔ IsSpelling raw.toList
  /-- Two spellings are of one fingerprint if they differ in blanks and case only. -/
  same : ∀ (raw raw' : String) (fp fp' : Fingerprint), parse raw = .ok fp → parse raw' = .ok fp' →
    (fp = fp' ↔ bare raw.toList = bare raw'.toList)
  own : ∀ fp : Fingerprint, parse fp.text = .ok fp
  tokens : ∀ (token : Text) (fp : Fingerprint), ofFamilyToken? token = some fp ↔
    ∃ raw suffix, token = '$' :: (raw ++ suffix) ∧ EndsName suffix ∧
      parse (String.ofList raw) = .ok fp
  /-- So relays meet under one key, wherever they are named. -/
  named : Named

/--
Forty hexadecimal digits, with blanks between them and in either case, are one fingerprint wherever
they stand.
-/
theorem all_spellings : Identifies where
  accepts _ := exists_parse_iff
  same _ _ _ _ := parse_eq_parse_iff
  own := parse_text
  tokens _ _ := ofFamilyToken?_eq_some_iff
  named := named

end Fingerprint

end RelaySnapshot
