import Mathlib.Data.List.DropRight
import RelaySnapshot.Proofs.Descriptor.Reading

/-!
# Text that says nothing

Lines without a known keyword and whole objects can be put between any two lines outside of objects,
and lines can end with carriage returns: what is read, or why nothing is, stays the same.
-/

namespace RelaySnapshot

namespace Text

/-- The text with a carriage return before each line feed. -/
def withReturns (s : Text) : Text :=
  s.flatMap fun c => if c = '\n' then ['\r', '\n'] else [c]

theorem dropReturns_append_return (line : Text) :
    dropReturns (line ++ ['\r']) = dropReturns line := by
  simp [dropReturns]

theorem dropReturns_dropReturns (line : Text) :
    dropReturns (dropReturns line) = dropReturns line :=
  List.rdropWhile_idempotent _ line

theorem dropReturns_subset (line : Text) : dropReturns line ⊆ line := by
  obtain ⟨returns, hline, -⟩ := exists_eq_dropReturns_append line
  nth_rewrite 2 [hline]
  exact List.subset_append_left _ _

theorem head?_dropReturns {line : Text} {c : Char} (hc : c ≠ '\r') (h : line.head? = some c) :
    (dropReturns line).head? = some c := by
  obtain ⟨rest, rfl⟩ := List.head?_eq_some_iff.mp h
  have hstart : startsWith [c] (dropReturns (c :: rest)) = true := by
    rw [startsWith_dropReturns (by simpa using hc.symm), startsWith_iff]
    exact ⟨rest, rfl⟩
  obtain ⟨rest', hrest'⟩ := startsWith_iff.mp hstart
  rw [← hrest']
  rfl

theorem withReturns_of_not_mem {line : Text} (h : '\n' ∉ line) : withReturns line = line := by
  induction line with
  | nil => rfl
  | cons c line ih =>
      rw [List.mem_cons, not_or] at h
      have hrest := ih h.2
      rw [withReturns] at hrest
      rw [withReturns, List.flatMap_cons, if_neg (Ne.symm h.1), hrest, List.singleton_append]

theorem map_dropReturns_lines_withReturns (s : Text) :
    (lines (withReturns s)).map dropReturns = (lines s).map dropReturns := by
  induction s using induction_lines with
  | last line h => rw [withReturns_of_not_mem h]
  | more line s h ih =>
      have heq : withReturns (line ++ '\n' :: s) = (line ++ ['\r']) ++ '\n' :: withReturns s := by
        have hline := withReturns_of_not_mem h
        rw [withReturns] at hline
        rw [withReturns, List.flatMap_append, hline]
        simp [withReturns]
      rw [heq, lines_append_cons (by simpa using h), lines_append_cons h, List.map_cons,
        List.map_cons, ih, dropReturns_append_return]

end Text

namespace Descriptor

open Text

/-! ### Carriage returns -/

theorem keywordLines_map_dropReturns (inObject : Bool) (ls : List Text) :
    keywordLines inObject (ls.map dropReturns) = keywordLines inObject ls := by
  induction ls generalizing inObject with
  | nil => cases inObject <;> rfl
  | cons line ls ih => simp only [List.map_cons, keywordLines, dropReturns_dropReturns, ih]

theorem ofLines_map_dropReturns (ls : List Text) : ofLines (ls.map dropReturns) = ofLines ls := by
  rw [ofLines, keywordLines_map_dropReturns]
  rfl

theorem endsBlock_dropReturns (line : Text) : endsBlock (dropReturns line) = endsBlock line := by
  rw [endsBlock, endsBlock, dropReturns_dropReturns]

/-! ### Changes that are not seen -/

/-- A change of lines that shows neither in where blocks begin and end nor in what is read. -/
structure Unseen (f : Text → Text) : Prop where
  opens : ∀ line, opensBlock (f line) = opensBlock line
  ends : ∀ line, endsBlock (f line) = endsBlock line
  reads : ∀ ls, ofLines (ls.map f) = ofLines ls

namespace Unseen

variable {f : Text → Text}

theorem endAfter?_map (h : Unseen f) (ls : List Text) :
    endAfter? (ls.map f) = endAfter? ls := by
  induction ls with
  | nil => rfl
  | cons line ls ih =>
      rw [List.map_cons, endAfter?_cons, endAfter?_cons, h.opens, h.ends, ih]

theorem read_blockAt (h : Unseen f) (number : Nat) (line : Text) (rest : List Text) :
    (blockAt number (f line) (rest.map f)).read = (blockAt number line rest).read := by
  rw [blockAt, blockAt, h.endAfter?_map]
  cases endAfter? rest with
  | none => rfl
  | some k =>
      change ofLines _ = ofLines _
      rw [← List.map_take, ← List.map_cons, h.reads]

theorem map_read_found (h : Unseen f) (number : Nat) (ls : List Text) :
    (found number (ls.map f)).map Block.read = (found number ls).map Block.read := by
  induction ls generalizing number with
  | nil => rfl
  | cons line ls ih =>
      rw [List.map_cons, found, found, h.opens]
      split
      · rw [List.map_cons, List.map_cons, h.read_blockAt, ih]
      · exact ih (number + 1)

/-- Texts whose lines are the same after the change hold the same descriptors. -/
theorem readAll_eq (h : Unseen f) {s s' : Text}
    (hlines : (lines s).map f = (lines s').map f) : readAll s = readAll s' := by
  rw [readAll_eq_found, readAll_eq_found, ← h.map_read_found, hlines, h.map_read_found]

end Unseen

theorem unseen_dropReturns : Unseen dropReturns :=
  ⟨opensBlock_dropReturns, endsBlock_dropReturns, ofLines_map_dropReturns⟩

/-- Texts whose lines differ in carriage returns at their ends hold the same descriptors. -/
theorem readAll_congr {s s' : Text}
    (h : (lines s).map dropReturns = (lines s').map dropReturns) : readAll s = readAll s' :=
  unseen_dropReturns.readAll_eq h

/-! ### Lines between others -/

theorem beginsObject_dropReturns (line : Text) :
    beginsObject (dropReturns line) = beginsObject line :=
  startsWith_dropReturns (by decide) line

theorem endsObject_dropReturns (line : Text) : endsObject (dropReturns line) = endsObject line :=
  startsWith_dropReturns (by decide) line

theorem beginsObject_of_endsObject {line : Text} (h : endsObject line = true) :
    beginsObject line = false := by
  obtain ⟨rest, rfl⟩ := startsWith_iff.mp h
  rfl

theorem Line.isKnown_of_forall_ne {line : Line}
    (h : ∀ keyword : Keyword, line.word ≠ keyword.text.toList) : line.isKnown = false := by
  rw [isKnown, Option.isSome_eq_false_iff, Option.isNone_iff_eq_none,
    Option.eq_none_iff_forall_ne_some]
  intro keyword hkeyword
  exact h keyword (Keyword.ofText?_eq_some_iff.mp hkeyword)

/-- Lines that say nothing of a relay, one after the other, and objects as a whole. -/
inductive Idle : List Text → Prop where
  | nil : Idle []
  | blank {line : Text} {rest : List Text} :
      (∀ c ∈ line, isBlank c = true) → Idle rest → Idle (line :: rest)
  | remark {line : Text} {rest : List Text} :
      line.head? = some '@' → Idle rest → Idle (line :: rest)
  | unknown {line : Text} {rest : List Text} :
      beginsObject line = false → endsObject line = false →
      (∀ keyword : Keyword, (Line.reading (dropReturns line)).word ≠ keyword.text.toList) →
      Idle rest → Idle (line :: rest)
  | object {first last : Text} {inside rest : List Text} :
      beginsObject first = true → (∀ line ∈ inside, endsObject line = false) →
      endsObject last = true → Idle rest → Idle (first :: inside ++ last :: rest)

theorem filter_isKnown_keywordLines_of_silent {line : Text} (hbegins : beginsObject line = false)
    (hends : endsObject line = false)
    (hsilent : line.head? = some '@' ∨ (Line.reading (dropReturns line)).isKnown = false)
    (rest : List Text) :
    (keywordLines false (line :: rest)).filter Line.isKnown =
      (keywordLines false rest).filter Line.isKnown := by
  rw [keywordLines, beginsObject_dropReturns, endsObject_dropReturns, hbegins, hends,
    Line.ofText_eq_reading]
  rcases hsilent with hat | hunknown
  · simp [head?_dropReturns (by decide) hat]
  · rw [if_neg Bool.false_ne_true, if_neg Bool.false_ne_true]
    split
    · rfl
    · rw [List.filter_cons, hunknown]
      rfl

/-- Inside an object all is passed over up to the line that ends it. -/
theorem keywordLines_object {inside : List Text} {last : Text}
    (hinside : ∀ line ∈ inside, endsObject line = false) (hlast : endsObject last = true)
    (rest : List Text) : keywordLines true (inside ++ last :: rest) = keywordLines false rest := by
  induction inside with
  | nil =>
      have hnot := beginsObject_of_endsObject hlast
      rw [List.nil_append, keywordLines, beginsObject_dropReturns, endsObject_dropReturns, hnot,
        hlast]
      rfl
  | cons line inside ih =>
      have hline := hinside line List.mem_cons_self
      have hrest := ih fun other hmem => hinside other (List.mem_cons_of_mem line hmem)
      rw [List.cons_append, keywordLines, beginsObject_dropReturns, endsObject_dropReturns, hline,
        hrest]
      split <;> rfl

theorem filter_isKnown_keywordLines_of_idle {ls : List Text} (h : Idle ls) (rest : List Text) :
    (keywordLines false (ls ++ rest)).filter Line.isKnown =
      (keywordLines false rest).filter Line.isKnown := by
  induction h with
  | nil => rfl
  | @blank line _ hblank _ ih =>
      have hnot {start : Text} (hstart : '-' ∈ start) : startsWith start line = false := by
        rw [← Bool.not_eq_true, startsWith_iff]
        intro hbegins
        exact absurd (hblank '-' (hbegins.subset hstart)) (by decide)
      have hsilent : (Line.reading (dropReturns line)).isKnown = false :=
        Line.isKnown_reading_of_blank fun c hc => hblank c (dropReturns_subset line hc)
      rw [List.cons_append, filter_isKnown_keywordLines_of_silent (hnot (by decide))
        (hnot (by decide)) (.inr hsilent), ih]
  | @remark line _ hat _ ih =>
      obtain ⟨text, rfl⟩ := List.head?_eq_some_iff.mp hat
      rw [List.cons_append, filter_isKnown_keywordLines_of_silent rfl rfl (.inl hat), ih]
  | unknown hbegins hends hunknown _ ih =>
      have hsilent := Line.isKnown_of_forall_ne hunknown
      rw [List.cons_append, filter_isKnown_keywordLines_of_silent hbegins hends (.inr hsilent), ih]
  | @object first last inside rest' hfirst hinside hlast _ ih =>
      rw [List.cons_append, List.cons_append, List.append_assoc, List.cons_append, keywordLines,
        beginsObject_dropReturns, hfirst]
      change List.filter _ (keywordLines true _) = _
      rw [keywordLines_object hinside hlast, ih]

theorem filter_isKnown_keywordLines_append (before ls rest : List Text) :
    (keywordLines (leavesOpen before) (ls ++ rest)).filter Line.isKnown =
      (keywordLines (leavesOpen before) ls).filter Line.isKnown ++
        (keywordLines (leavesOpen (before ++ ls.map dropReturns)) rest).filter Line.isKnown := by
  -- Whether an object is open is computed from the lines before, so they vary.
  induction ls generalizing before with
  | nil => cases h : leavesOpen before <;> simp [keywordLines, h]
  | cons line ls ih =>
      rw [List.cons_append, filter_isKnown_keywordLines_cons, filter_isKnown_keywordLines_cons, ih,
        List.append_assoc, List.append_assoc, List.map_cons, List.singleton_append]

/-- Reading depends on nothing but the lines with a known keyword. -/
theorem ofLines_congr {ls ls' : List Text}
    (h : (keywordLines false ls).filter Line.isKnown =
      (keywordLines false ls').filter Line.isKnown) : ofLines ls = ofLines ls' := by
  rw [ofLines, ofLines, ← foldlM_filter_isKnown, h, foldlM_filter_isKnown]

theorem ofLines_insert {before ls : List Text}
    (hclosed : leavesOpen (before.map dropReturns) = false) (hidle : Idle ls) (after : List Text) :
    ofLines (before ++ (ls ++ after)) = ofLines (before ++ after) := by
  have happend := filter_isKnown_keywordLines_append [] before
  rw [List.nil_append, hclosed] at happend
  apply ofLines_congr
  exact (happend (ls ++ after)).trans
    ((congrArg _ (filter_isKnown_keywordLines_of_idle hidle after)).trans (happend after).symm)

/-! ### Places in a text -/

/-- After this text a new line begins. -/
def EndsLine (before : Text) : Prop :=
  before = [] ∨ before.getLast? = some '\n'

/-- After this text no object is open. -/
def OutsideObject (before : Text) : Prop :=
  leavesOpen ((lines before).map dropReturns) = false

/-- The lines that are complete before a new line begins. -/
theorem exists_lines_append {before : Text} (h : EndsLine before) :
    ∃ ls, (∀ s, lines (before ++ s) = ls ++ lines s) ∧
      (OutsideObject before ↔ leavesOpen (ls.map dropReturns) = false) := by
  rcases h with rfl | hlast
  · exact ⟨[], fun s => rfl, Iff.rfl⟩
  · obtain ⟨text, rfl⟩ := List.getLast?_eq_some_iff.mp hlast
    refine ⟨lines text, fun s => ?_, ?_⟩
    · rw [List.append_assoc, List.singleton_append, lines_append]
    · have hempty : leavesOpen ((lines text).map dropReturns ++ [[]]) =
          leavesOpen ((lines text).map dropReturns) := by
        rw [leavesOpen_append]
        rfl
      rw [OutsideObject, lines_append, lines_nil, List.map_append, List.map_singleton]
      exact Eq.congr_left hempty

/-! ### The main statement -/

/--
Text that says nothing changes nothing where it is put between two lines outside of objects, and
neither do carriage returns at the ends of all lines.
-/
theorem parse_unmoved :
    (∀ (before after : String) (inserted : List Text), EndsLine before.toList →
      OutsideObject before.toList → (∀ line ∈ inserted, '\n' ∉ line) → Idle inserted →
      parse (before ++ String.ofList (ended inserted) ++ after) = parse (before ++ after)) ∧
    ∀ text : String,
      parse (String.ofList (withReturns text.toList)) = parse text ∧
      parseAll (String.ofList (withReturns text.toList)) = parseAll text := by
  refine ⟨fun before after inserted hends houtside hlines hidle => ?_, fun text => ⟨?_, ?_⟩⟩
  · obtain ⟨ls, happend, hopen⟩ := exists_lines_append hends
    rw [parse, parse, String.toList_append, String.toList_append, String.toList_append,
      String.toList_ofList, List.append_assoc, happend, happend, lines_ended_append hlines,
      ofLines_insert (hopen.mp houtside) hidle]
  · rw [parse, parse, String.toList_ofList, ← ofLines_map_dropReturns,
      map_dropReturns_lines_withReturns, ofLines_map_dropReturns]
  · rw [parseAll, parseAll, String.toList_ofList]
    exact readAll_congr (map_dropReturns_lines_withReturns text.toList)

/-- The policy line inside the object and the second beginning in it are not looked at. -/
theorem parse_unmoved_object :
    let before := "router a 1.2.3.4 9001 0 0\r\n"
    let after := "opt published 2020-03-02 10:00:00\nreject *:*"
    let inserted := ["", "@type x", "opt uptime 3\r", "-----BEGIN X", "accept *:*", "-----BEGIN Y",
      "-----END Z\r"].map String.toList
    EndsLine before.toList ∧ OutsideObject before.toList ∧
      (∀ line ∈ inserted, '\n' ∉ line) ∧ Idle inserted ∧
      parse (before ++ String.ofList (ended inserted) ++ after) = parse (before ++ after) := by
  intro before after inserted
  have hends : EndsLine before.toList := .inr (by decide)
  have houtside : OutsideObject before.toList := by
    rw [OutsideObject]
    decide
  have hlines : ∀ line ∈ inserted, '\n' ∉ line := by decide
  have huptime (keyword : Keyword) : (Line.reading (dropReturns "opt uptime 3\r".toList)).word ≠
      keyword.text.toList := by
    cases keyword <;> decide
  have hobject : Idle ("-----BEGIN X".toList ::
      ["accept *:*", "-----BEGIN Y"].map String.toList ++ ["-----END Z\r".toList]) :=
    .object rfl (by decide) rfl .nil
  have hidle : Idle inserted :=
    .blank (by simp) (.remark rfl (.unknown rfl rfl huptime hobject))
  exact ⟨hends, houtside, hlines, hidle,
    parse_unmoved.1 before after inserted hends houtside hlines hidle⟩

end Descriptor

end RelaySnapshot
