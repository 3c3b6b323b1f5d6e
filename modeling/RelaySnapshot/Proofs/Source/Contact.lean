import RelaySnapshot.Proofs.Descriptor.Idle
import RelaySnapshot.Proofs.Text.Separation
import RelaySnapshot.Source

namespace RelaySnapshot

namespace Descriptor

open Text

def isContact (line : Text) : Bool :=
  startsWith "contact ".toList line

/-- An empty line in the place of a contact line. -/
def withoutContact (line : Text) : Text :=
  if isContact line then [] else line

theorem isContact_iff {line : Text} :
    isContact line = true ↔ ∃ rest, line = "contact ".toList ++ rest := by
  rw [isContact, startsWith_iff]
  exact ⟨fun ⟨rest, h⟩ => ⟨rest, h.symm⟩, fun ⟨rest, h⟩ => ⟨rest, h.symm⟩⟩

theorem isContact_dropReturns (line : Text) : isContact (dropReturns line) = isContact line :=
  startsWith_dropReturns (by decide) line

variable {line : Text}

theorem opensBlock_of_isContact (h : isContact line = true) : opensBlock line = false := by
  obtain ⟨rest, rfl⟩ := isContact_iff.mp h
  rfl

theorem endsBlock_of_isContact (h : isContact line = true) : endsBlock line = false := by
  rw [← isContact_dropReturns] at h
  obtain ⟨rest, hrest⟩ := isContact_iff.mp h
  rw [endsBlock, hrest]
  rfl

theorem isKnown_of_isContact (h : isContact line = true) :
    (Line.ofText line).isKnown = false := by
  obtain ⟨rest, rfl⟩ := isContact_iff.mp h
  rfl

/-- A contact line is passed over, inside an object and outside. -/
theorem filter_isKnown_keywordLines_of_isContact (h : isContact line = true) (inObject : Bool)
    (rest : List Text) :
    (keywordLines inObject (line :: rest)).filter Line.isKnown =
      (keywordLines inObject rest).filter Line.isKnown := by
  rw [← isContact_dropReturns] at h
  have hunknown := isKnown_of_isContact h
  obtain ⟨text, htext⟩ := isContact_iff.mp h
  have hbegins : beginsObject (dropReturns line) = false := by
    rw [htext]
    rfl
  have hends : endsObject (dropReturns line) = false := by
    rw [htext]
    rfl
  rw [keywordLines, hbegins, hends, if_neg Bool.false_ne_true, if_neg Bool.false_ne_true]
  split
  · rfl
  · rw [List.filter_cons, hunknown]
    rfl

theorem keywordLines_nil_cons (inObject : Bool) (rest : List Text) :
    keywordLines inObject ([] :: rest) = keywordLines inObject rest := by
  cases inObject <;> rfl

theorem filter_isKnown_keywordLines_withoutContact (inObject : Bool) (ls : List Text) :
    (keywordLines inObject (ls.map withoutContact)).filter Line.isKnown =
      (keywordLines inObject ls).filter Line.isKnown := by
  induction ls generalizing inObject with
  | nil => rfl
  | cons line ls ih =>
      rw [List.map_cons, withoutContact]
      split
      next hcontact =>
        rw [keywordLines_nil_cons, ih, filter_isKnown_keywordLines_of_isContact hcontact]
      next =>
        simp only [keywordLines]
        split
        · exact ih true
        · split
          · exact ih false
          · split
            · exact ih inObject
            · rw [List.filter_cons, List.filter_cons, ih]

theorem unseen_withoutContact : Unseen withoutContact where
  opens line := by
    rw [withoutContact]
    split
    next hcontact => exact (opensBlock_of_isContact hcontact).symm
    next => rfl
  ends line := by
    rw [withoutContact]
    split
    next hcontact => exact (endsBlock_of_isContact hcontact).symm
    next => rfl
  reads ls := ofLines_congr (filter_isKnown_keywordLines_withoutContact false ls)

end Descriptor

namespace Source

open Descriptor

/-- The bytes of a contact line without its line feed. -/
def contactLine (text : List UInt8) : List UInt8 :=
  Utf8.encode "contact ".toList ++ text

theorem decodeLossy_contactLine (text : List UInt8) :
    Utf8.decodeLossy (contactLine text) = "contact ".toList ++ Utf8.decodeLossy text := by
  rw [contactLine, Utf8.decodeLossy, Utf8.decodeEach_encode_append, List.map_append, List.map_map]
  rfl

theorem withoutContact_decodeLossy_contactLine (text : List UInt8) :
    withoutContact (Utf8.decodeLossy (contactLine text)) = [] := by
  rw [withoutContact, if_pos (isContact_iff.mpr ⟨_, decodeLossy_contactLine text⟩)]

theorem newline_notMem_contactLine {text : List UInt8} (h : 10 ∉ text) : 10 ∉ contactLine text := by
  rw [contactLine, List.mem_append, not_or]
  exact ⟨by decide, h⟩

/-- The lines of a document do not change with the bytes on a contact line, but for that line. -/
theorem exists_lines_contactLine {before after : List UInt8}
    (hbefore : before = [] ∨ before.getLast? = some 10)
    (hafter : after = [] ∨ after.head? = some 10) :
    ∃ ls ls', ∀ text, 10 ∉ text →
      Text.lines (Utf8.decodeLossy (before ++ contactLine text ++ after)) =
        ls ++ ("contact ".toList ++ Utf8.decodeLossy text) :: ls' := by
  obtain ⟨ls, ls', hlines⟩ := Utf8.exists_lines_decodeLossy hbefore hafter
  refine ⟨ls, ls', fun text htext => ?_⟩
  rw [hlines _ (newline_notMem_contactLine htext), decodeLossy_contactLine]

/--
The bytes on a contact line, of whatever kind they are, stay on this line, and nothing else comes of
the document for them: neither other results, nor another order or other counts, nor another end.
-/
theorem contact_unread {before after old new : List UInt8}
    (hbefore : before = [] ∨ before.getLast? = some 10)
    (hafter : after = [] ∨ after.head? = some 10) (hold : 10 ∉ old) (hnew : 10 ∉ new) :
    (∃ ls ls', ∀ text ∈ [old, new],
      Text.lines (Utf8.decodeLossy (before ++ contactLine text ++ after)) =
        ls ++ ("contact ".toList ++ Utf8.decodeLossy text) :: ls') ∧
    readDocument (before ++ contactLine old ++ after) =
      readDocument (before ++ contactLine new ++ after) ∧
    ∀ pass : Pass, pass.takeDocument (before ++ contactLine old ++ after) =
      pass.takeDocument (before ++ contactLine new ++ after) := by
  obtain ⟨ls, ls', hlines⟩ := exists_lines_contactLine hbefore hafter
  have hresults : readDocument (before ++ contactLine old ++ after) =
      readDocument (before ++ contactLine new ++ after) := by
    apply unseen_withoutContact.readAll_eq
    rw [hlines old hold, hlines new hnew]
    simp only [List.map_append, List.map_cons, ← decodeLossy_contactLine,
      withoutContact_decodeLossy_contactLine]
  refine ⟨⟨ls, ls', fun text hmem => ?_⟩, hresults, fun pass => ?_⟩
  · rcases List.mem_pair.mp hmem with rfl | rfl
    · exact hlines text hold
    · exact hlines text hnew
  · rw [Pass.takeDocument, Pass.takeDocument, hresults]

/-- The first two bytes of a character of three stand right before the line feed. -/
theorem contact_unread_truncated :
    let before := Utf8.encode (Text.ended (["router a 1.2.3.4 9001 0 0",
      "published 2020-03-02 10:00:00"].map String.toList))
    let after := Utf8.encode ('\n' :: Text.ended (["bandwidth 1000 2000 500",
      "fingerprint AAAAAAAAAAAAAAAAAAAAAAAAAAAAAAAAAAAAAAAA",
      "-----END SIGNATURE-----"].map String.toList))
    let new : List UInt8 := [0xE2, 0x82]
    (before = [] ∨ before.getLast? = some 10) ∧ (after = [] ∨ after.head? = some 10) ∧
      10 ∉ ([] : List UInt8) ∧ 10 ∉ new ∧
      (readDocument (before ++ contactLine new ++ after)).map (·.isOk) = [true] := by
  intro before after new
  have hbefore : before = [] ∨ before.getLast? = some 10 := .inr (by decide +kernel)
  have hafter : after = [] ∨ after.head? = some 10 := .inr (by decide +kernel)
  have hnew : 10 ∉ new := by decide
  have hempty : (readDocument (before ++ contactLine [] ++ after)).map (·.isOk) = [true] := by
    rw [contactLine, List.append_nil, ← Utf8.encode_append, ← Utf8.encode_append, readDocument,
      Utf8.decodeLossy_encode]
    decide +kernel
  refine ⟨hbefore, hafter, List.not_mem_nil, hnew, ?_⟩
  rw [← (contact_unread hbefore hafter List.not_mem_nil hnew).2.1, hempty]

end Source

end RelaySnapshot
