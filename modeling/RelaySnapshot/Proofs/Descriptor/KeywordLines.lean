import Mathlib.Data.List.TakeWhile
import RelaySnapshot.Proofs.Descriptor.Blocks

namespace RelaySnapshot

namespace Descriptor

open Text

/-! ### Keywords and arguments -/

/-- The line without `opt ` at its beginning, up to its first space and after it. -/
def Line.reading (text : Text) : Line :=
  let text := if "opt ".toList <+: text then text.drop 4 else text
  ⟨text.takeWhile (· != ' '), (text.dropWhile (· != ' ')).tail⟩

theorem Line.ofText_eq_reading (text : Text) : Line.ofText text = Line.reading text := by
  have hopt : (dropLeading? "opt ".toList text).getD text =
      if "opt ".toList <+: text then text.drop 4 else text := by
    cases hdrop : dropLeading? "opt ".toList text with
    | none =>
        have hnot : ¬"opt ".toList <+: text := by
          rw [← startsWith_iff, startsWith, hdrop]
          exact Bool.false_ne_true
        rw [if_neg hnot]
        rfl
    | some rest =>
        rw [dropLeading?_eq_some_iff.mp hdrop, if_pos (List.prefix_append _ _)]
        rfl
  rw [ofText, reading, hopt]
  generalize (if "opt ".toList <+: text then text.drop 4 else text) = text
  rw [cutAt_singleton]
  by_cases hspace : ' ' ∈ text
  · rw [if_pos hspace]
  · -- Without a space all is keyword.
    have hall : ∀ c ∈ text, (c != ' ') = true := by
      intro c hc
      rw [bne_iff_ne]
      rintro rfl
      exact hspace hc
    rw [if_neg hspace, List.takeWhile_eq_self_iff.mpr hall, List.dropWhile_eq_nil_iff.mpr hall]
    rfl

theorem Keyword.ofText?_eq_some_iff {word : Text} {keyword : Keyword} :
    Keyword.ofText? word = some keyword ↔ word = keyword.text.toList := by
  constructor
  · intro h
    exact (by simpa using List.find?_some h : keyword.text.toList = word).symm
  · rintro rfl
    cases keyword <;> rfl

theorem Keyword.any_text_not_isBlank (keyword : Keyword) :
    keyword.text.toList.any (!isBlank ·) = true := by
  cases keyword <;> rfl

def Line.isKnown (line : Line) : Bool :=
  (Keyword.ofText? line.word).isSome

theorem Line.isKnown_reading_of_blank {text : Text} (h : ∀ c ∈ text, isBlank c = true) :
    (Line.reading text).isKnown = false := by
  have hopt : ¬"opt ".toList <+: text := by
    intro hopt
    exact absurd (h 'o' (hopt.subset (by simp))) (by decide)
  rw [isKnown, Option.isSome_eq_false_iff, Option.isNone_iff_eq_none,
    Option.eq_none_iff_forall_ne_some]
  intro keyword hkeyword
  rw [Keyword.ofText?_eq_some_iff, reading, if_neg hopt] at hkeyword
  have hword : ∀ c ∈ keyword.text.toList, isBlank c = true := by
    rw [← hkeyword]
    exact fun c hc => h c (List.takeWhile_prefix _ |>.subset hc)
  obtain ⟨c, hc, hmark⟩ := List.any_eq_true.mp keyword.any_text_not_isBlank
  simp [hword c hc] at hmark

/-! ### Lines that count -/

/-- The last of the lines that begin or end an object begins one. -/
def leavesOpen (before : List Text) : Bool :=
  (before.reverse.find? fun line => beginsObject line || endsObject line).any beginsObject

def speaks (before : List Text) (line : Text) : Bool :=
  !beginsObject line && !endsObject line && !leavesOpen before && line.any (!isBlank ·) &&
    line.head? != some '@'

/-- What a line with its place among some lines says, if it counts. -/
def counted? (ls : List Text) (p : Text × Nat) : Option Line :=
  if speaks (ls.take p.2) p.1 then some (Line.reading p.1) else none

/-- The lines of a text that count, without the carriage returns at their ends. -/
def spoken (s : Text) : List Line :=
  let ls := (lines s).map dropReturns
  ls.zipIdx.filterMap (counted? ls)

theorem leavesOpen_append (before : List Text) (line : Text) :
    leavesOpen (before ++ [line]) =
      (beginsObject line || !endsObject line && leavesOpen before) := by
  rw [leavesOpen, List.reverse_append, List.reverse_singleton, List.singleton_append,
    List.find?_cons]
  cases hbegins : beginsObject line <;> cases hends : endsObject line <;>
    simp [hbegins, leavesOpen]

/-- The keyword that a line says after some others, if it counts and has one. -/
def spokenAfter (before : List Text) (line : Text) : List Line :=
  if speaks before line then [Line.reading line].filter Line.isKnown else []

theorem filter_isKnown_keywordLines_cons (before : List Text) (line : Text) (rest : List Text) :
    (keywordLines (leavesOpen before) (line :: rest)).filter Line.isKnown =
      spokenAfter before (dropReturns line) ++
        (keywordLines (leavesOpen (before ++ [dropReturns line])) rest).filter Line.isKnown := by
  rw [keywordLines, leavesOpen_append, spokenAfter, speaks]
  generalize dropReturns line = line
  cases hbegins : beginsObject line with
  | true => simp
  | false =>
      cases hends : endsObject line with
      | true => simp
      | false =>
          cases hopen : leavesOpen before with
          | true => simp
          | false =>
              rw [Line.ofText_eq_reading]
              by_cases hany : line.any (!isBlank ·) = true
              · have hne : line.isEmpty = false := by
                  cases line with
                  | nil => cases hany
                  | cons c line => rfl
                by_cases hat : line.head? = some '@' <;> simp [hany, hne, hat, List.filter_cons]
                split <;> rfl
              · -- A line of blanks may count, but it has no keyword.
                have hblank : (Line.reading line).isKnown = false := by
                  apply Line.isKnown_reading_of_blank
                  simpa using hany
                by_cases hskip : line = [] ∨ line.head? = some '@' <;> simp [hany, hskip, hblank]

theorem filter_isKnown_keywordLines (before rest : List Text) :
    (keywordLines (leavesOpen before) rest).filter Line.isKnown =
      (((rest.map dropReturns).zipIdx before.length).filterMap
        (counted? (before ++ rest.map dropReturns))).filter Line.isKnown := by
  -- Whether an object is open is computed from the lines before, so they vary.
  induction rest generalizing before with
  | nil => cases leavesOpen before <;> rfl
  | cons line rest ih =>
      have hcounted : counted? (before ++ dropReturns line :: rest.map dropReturns)
          (dropReturns line, before.length) =
            if speaks before (dropReturns line) then some (Line.reading (dropReturns line))
            else none := by
        rw [counted?, List.take_left]
      rw [filter_isKnown_keywordLines_cons, ih, List.map_cons, List.zipIdx_cons,
        List.length_append, List.length_singleton, List.append_assoc, List.singleton_append,
        List.filterMap_cons, hcounted, spokenAfter]
      by_cases hspeaks : speaks before (dropReturns line) = true
      · rw [if_pos hspeaks, if_pos hspeaks, ← List.filter_append, List.singleton_append]
      · rw [if_neg hspeaks, if_neg hspeaks, List.nil_append]

theorem filter_isKnown_spoken (s : Text) :
    (keywordLines false (lines s)).filter Line.isKnown = (spoken s).filter Line.isKnown :=
  filter_isKnown_keywordLines [] (lines s)

end Descriptor

end RelaySnapshot
