import RelaySnapshot.Descriptor.Block
import RelaySnapshot.Proofs.Text.Cutting
import RelaySnapshot.Proofs.Text.Lines

/-!
# Which blocks a document has

A document has one block for each of its router lines. The block reaches to the first end line that
comes before the next router line; without one it is cut off. So a block is told from what lies
between two router lines alone, and what lies around it changes nothing but the numbers of lines.
-/

namespace RelaySnapshot

namespace Text

theorem exists_eq_dropReturns_append (line : Text) :
    ∃ returns, line = dropReturns line ++ returns ∧ ∀ c ∈ returns, c = '\r' := by
  refine ⟨(line.reverse.takeWhile (· == '\r')).reverse, ?_, fun c hc => ?_⟩
  · rw [dropReturns, ← List.reverse_append, List.takeWhile_append_dropWhile, List.reverse_reverse]
  · have hreturn := List.all_eq_true.mp List.all_takeWhile c (List.mem_reverse.mp hc)
    simpa using hreturn

/-- What a line begins with is told without the carriage returns at its end. -/
theorem startsWith_dropReturns {start : Text} (hstart : '\r' ∉ start) (line : Text) :
    startsWith start (dropReturns line) = startsWith start line := by
  obtain ⟨returns, hline, hreturns⟩ := exists_eq_dropReturns_append line
  rw [Bool.eq_iff_iff, startsWith_iff, startsWith_iff]
  constructor
  · intro h
    rw [hline]
    exact h.trans (List.prefix_append _ _)
  · intro h
    rw [hline] at h
    refine prefix_of_prefix_append h fun c hc => ?_
    rwa [hreturns c (List.mem_of_mem_head? hc)]

end Text

namespace Descriptor

open Text

/-! ### Reading knows nothing of blocks -/

def ReadError.isUnterminated : ReadError → Bool
  | .unterminated _ => true
  | _ => false

theorem Draft.isUnterminated_addLine {draft : Draft} {line : Line} {e : ReadError}
    (h : draft.addLine line = .error e) : e.isUnterminated = false := by
  rw [addLine] at h
  split at h
  · unfold add at h
    dsimp only at h
    repeat' split at h
    all_goals cases h
    all_goals rfl
  · cases h

theorem isUnterminated_ofLines {lines : List Text} {e : ReadError}
    (h : ofLines lines = .error e) : e.isUnterminated = false := by
  rw [ofLines] at h
  generalize keywordLines false lines = found at h
  generalize ({} : Draft) = draft at h
  induction found generalizing draft with
  | nil =>
      change draft.finish = .error e at h
      rw [Draft.finish] at h
      split at h
      all_goals cases h
      all_goals rfl
  | cons line found ih =>
      rw [List.foldlM_cons] at h
      cases hline : draft.addLine line with
      | error e' =>
          rw [hline] at h
          cases h
          exact Draft.isUnterminated_addLine hline
      | ok next =>
          rw [hline] at h
          exact ih next h

theorem keywordLines_append_nil (inObject : Bool) (lines : List Text) :
    keywordLines inObject (lines ++ [[]]) = keywordLines inObject lines := by
  induction lines generalizing inObject with
  | nil => cases inObject <;> rfl
  | cons line lines ih => simp only [List.cons_append, keywordLines, ih]

/-- An empty line at the end says nothing. -/
theorem ofLines_append_nil (lines : List Text) : ofLines (lines ++ [[]]) = ofLines lines := by
  rw [ofLines, keywordLines_append_nil]
  rfl

theorem parse_between (s : Text) (first : Nat) {last : Nat} (hfirst : 0 < first)
    (hle : first ≤ last) (hlast : last ≤ (lines s).length) :
    parse (String.ofList (between s first last)) =
      ofLines (((lines s).drop (first - 1)).take (last - (first - 1))) := by
  rw [parse, String.toList_ofList, lines_between s hfirst hle hlast]
  split
  · exact ofLines_append_nil _
  · rw [List.append_nil]

/-! ### Where blocks begin and end -/

/-- A line that closes a block, but for carriage returns after it. -/
def endsBlock (line : Text) : Bool :=
  closesBlock (dropReturns line)

theorem opensBlock_dropReturns (line : Text) : opensBlock (dropReturns line) = opensBlock line :=
  startsWith_dropReturns (by decide) line

/-- After how many of the lines that follow a router line its block ends, if it does. -/
def endAfter? (rest : List Text) : Option Nat :=
  (rest.takeWhile fun line => !opensBlock line).findIdx? endsBlock

theorem endAfter?_cons (line : Text) (rest : List Text) :
    endAfter? (line :: rest) =
      if opensBlock line then none
      else if endsBlock line then some 0 else (endAfter? rest).map (· + 1) := by
  rw [endAfter?, List.takeWhile_cons]
  cases opensBlock line with
  | true => rfl
  | false => simp [endAfter?, List.findIdx?_cons]

theorem lt_length_of_endAfter? {rest : List Text} {k : Nat} (h : endAfter? rest = some k) :
    k < rest.length := by
  obtain ⟨hlt, -⟩ := List.findIdx?_eq_some_iff_findIdx_eq.mp h
  exact Nat.lt_of_lt_of_le hlt (List.takeWhile_sublist _).length_le

theorem endAfter?_append {before after : List Text}
    (h : (∃ line ∈ before, opensBlock line ∨ endsBlock line) ∨
      ∃ line ∈ after.head?, opensBlock line) :
    endAfter? (before ++ after) = endAfter? before := by
  induction before with
  | nil =>
      obtain ⟨line, hline, hopens⟩ := h.resolve_left (by simp)
      obtain ⟨rest, rfl⟩ := List.head?_eq_some_iff.mp hline
      rw [List.nil_append, endAfter?_cons, if_pos hopens]
      rfl
  | cons line before ih =>
      rw [List.cons_append, endAfter?_cons, endAfter?_cons]
      split
      · rfl
      · split
        · rfl
        · rw [ih]
          refine h.imp_left ?_
          rintro ⟨other, hmem, hother⟩
          rcases List.mem_cons.mp hmem with rfl | hmem
          · simp_all
          · exact ⟨other, hmem, hother⟩

def blockAt (number : Nat) (line : Text) (rest : List Text) : Block :=
  match endAfter? rest with
  | some k => .closed (line :: rest.take (k + 1))
  | none => .unterminated number

/-- The blocks of lines in which no block is open at first. -/
def found : (number : Nat) → List Text → List Block
  | _, [] => []
  | number, line :: rest =>
    if opensBlock line then blockAt number line rest :: found (number + 1) rest
    else found (number + 1) rest

theorem blocks_eq_found (open? : Option OpenBlock) (number : Nat) (lines : List Text) :
    blocks open? number lines =
      (open?.toList.map fun block =>
        match endAfter? lines with
        | some k => .closed (block.lines.reverse ++ lines.take (k + 1))
        | none => .unterminated block.start) ++ found number lines := by
  induction lines generalizing open? number with
  | nil => cases open? <;> rfl
  | cons line rest ih =>
      unfold blocks
      rw [found, endAfter?_cons]
      by_cases hopens : opensBlock line = true
      · simp only [opensBlock_dropReturns, hopens, if_true, ih]
        cases open? <;> rfl
      · simp only [opensBlock_dropReturns, hopens, Bool.false_eq_true, if_false, ih]
        cases open? with
        | none => rfl
        | some block =>
            change (if endsBlock line then _ else _) = _
            by_cases hend : endsBlock line = true
            · simp [hend]
            · simp only [hend, Bool.false_eq_true, if_false]
              cases endAfter? rest <;> simp

/-! ### Numbers of lines -/

def routerLines (document : Text) : List Nat :=
  (((lines document).zipIdx 1).filter fun entry => opensBlock entry.1).map Prod.snd

/-- What is read from the block that begins with the router line of a number. -/
def resultAt (document : Text) (n : Nat) : Except ReadError Descriptor :=
  match endAfter? ((lines document).drop n) with
  | some k => parse (String.ofList (between document n (n + k + 1)))
  | none => .error (.unterminated n)

theorem resultAt_eq_read {document line : Text} {rest : List Text} {n : Nat}
    (h : (lines document).drop n = line :: rest) :
    resultAt document (n + 1) = (blockAt (n + 1) line rest).read := by
  have hrest : (lines document).drop (n + 1) = rest := by
    rw [← List.drop_drop, h, List.drop_one, List.tail_cons]
  rw [resultAt, blockAt, hrest]
  cases hend : endAfter? rest with
  | none => rfl
  | some k =>
      have hlength := congrArg List.length h
      rw [List.length_drop, List.length_cons] at hlength
      have hlt := lt_length_of_endAfter? hend
      change parse _ = ofLines _
      have hsize : n + 1 + k + 1 - n = k + 1 + 1 := by omega
      rw [parse_between document (n + 1) (by omega) (by omega) (by omega),
        Nat.add_sub_cancel, hsize, h, List.take_succ_cons]

theorem map_read_found (document : Text) (n : Nat) :
    (found (n + 1) ((lines document).drop n)).map Block.read =
      ((((lines document).drop n).zipIdx (n + 1)).filter fun entry => opensBlock entry.1).map
        fun entry => resultAt document entry.2 := by
  induction hlines : (lines document).drop n generalizing n with
  | nil => rfl
  | cons line rest ih =>
      have hrest : (lines document).drop (n + 1) = rest := by
        rw [← List.drop_drop, hlines, List.drop_one, List.tail_cons]
      rw [found, List.zipIdx_cons, List.filter_cons]
      split
      · rw [List.map_cons, List.map_cons, ih (n + 1) hrest, resultAt_eq_read hlines]
      · exact ih (n + 1) hrest

/-! ### What lies around a block -/

/-- A router line stands at the beginning of a text. -/
def BeginsBlock (s : Text) : Prop :=
  startsWith "router ".toList s = true

/-- No block is left open: each router line is followed by an end line or by another router line. -/
def Shut (lines : List Text) : Prop :=
  ∀ before line after, lines = before ++ line :: after → opensBlock line = true →
    ∃ other ∈ after, opensBlock other ∨ endsBlock other

/-- The same result in a document with more lines before. -/
def renumbered (more : Nat) : Except ReadError Descriptor → Except ReadError Descriptor
  | .error (.unterminated n) => .error (.unterminated (more + n))
  | result => result

theorem renumbered_ofLines (more : Nat) (lines : List Text) :
    renumbered more (ofLines lines) = ofLines lines := by
  cases h : ofLines lines with
  | ok d => rfl
  | error e =>
      have hnot := isUnterminated_ofLines h
      cases e with
      | unterminated n => cases hnot
      | _ => rfl

theorem map_read_found_add (more number : Nat) (lines : List Text) :
    (found (more + number) lines).map Block.read =
      ((found number lines).map Block.read).map (renumbered more) := by
  induction lines generalizing number with
  | nil => rfl
  | cons line rest ih =>
      rw [found, found]
      split
      · rw [List.map_cons, List.map_cons, List.map_cons, Nat.add_assoc, ih, blockAt, blockAt]
        congr 1
        cases endAfter? rest with
        | none => rfl
        | some k => exact (renumbered_ofLines more _).symm
      · rw [Nat.add_assoc, ih]

theorem found_append (number : Nat) {before after : List Text}
    (h : Shut before ∨ ∃ line ∈ after.head?, opensBlock line) :
    found number (before ++ after) =
      found number before ++ found (before.length + number) after := by
  induction before generalizing number with
  | nil => simp [found]
  | cons line before ih =>
      have htail : Shut before ∨ ∃ line ∈ after.head?, opensBlock line :=
        h.imp_left fun hshut front other rest heq =>
          hshut (line :: front) other rest (by simp [heq])
      have hlength : (line :: before).length + number = before.length + (number + 1) := by
        rw [List.length_cons]
        omega
      rw [List.cons_append, found, found, hlength, ih (number + 1) htail]
      split
      next hopens =>
        have hend : endAfter? (before ++ after) = endAfter? before :=
          endAfter?_append (h.imp_left fun hshut => hshut [] line before rfl hopens)
        rw [List.cons_append, blockAt, blockAt, hend]
        congr 1
        cases hbefore : endAfter? before with
        | none => rfl
        | some k =>
            have hlt := lt_length_of_endAfter? hbefore
            simp only [List.take_append_of_le_length hlt]
      next => rfl

theorem found_eq_nil {lines : List Text} (h : ∀ line ∈ lines, opensBlock line = false)
    (number : Nat) : found number lines = [] := by
  induction lines generalizing number with
  | nil => rfl
  | cons line rest ih =>
      rw [found, if_neg (by simp [h line List.mem_cons_self])]
      exact ih (fun other hmem => h other (List.mem_cons_of_mem line hmem)) (number + 1)

theorem readAll_eq_found (document : Text) :
    readAll document = (found 1 (lines document)).map Block.read := by
  rw [readAll, blocks_eq_found]
  rfl

theorem readAll_append (before : Text) {after : Text}
    (h : Shut (lines before) ∨ BeginsBlock after) :
    readAll (before ++ '\n' :: after) =
      readAll before ++ (readAll after).map (renumbered (lines before).length) := by
  have hlines : Shut (lines before) ∨ ∃ line ∈ (lines after).head?, opensBlock line := by
    refine h.imp_right fun hbegins => ?_
    induction after using induction_lines with
    | last line hline => exact ⟨line, by simp [lines_of_not_mem hline], hbegins⟩
    | more line s hline =>
        refine ⟨line, by simp [lines_append_cons hline], ?_⟩
        rw [BeginsBlock, startsWith_iff] at hbegins
        rw [opensBlock, startsWith_iff]
        refine prefix_of_prefix_append hbegins fun c hc => ?_
        obtain rfl : '\n' = c := by simpa using hc
        decide
  rw [readAll_eq_found, readAll_eq_found, readAll_eq_found, lines_append, found_append 1 hlines,
    List.map_append, map_read_found_add]

theorem readAll_eq_nil {s : Text} (h : ∀ line ∈ lines s, opensBlock line = false) :
    readAll s = [] := by
  rw [readAll_eq_found, found_eq_nil h]
  rfl

theorem shut_append {ls ls' : List Text} (h : Shut ls)
    (h' : ∀ line ∈ ls', opensBlock line = false) : Shut (ls ++ ls') := by
  intro before line after heq hopens
  have hbefore : before.length < ls.length := by
    by_contra hge
    have hmem : line ∈ ls' := by
      have hget : (ls ++ ls')[before.length]? = some line := by simp [heq]
      rw [List.getElem?_append_right (Nat.le_of_not_lt hge)] at hget
      exact List.mem_of_getElem? hget
    rw [h' line hmem] at hopens
    cases hopens
  have hprefix : before ++ [line] <+: ls := by
    have hall : before ++ [line] <+: ls ++ ls' := ⟨after, by simp [heq]⟩
    refine List.prefix_of_prefix_length_le hall (List.prefix_append _ _) ?_
    rw [List.length_append, List.length_singleton]
    omega
  obtain ⟨rest, hrest⟩ := hprefix
  obtain ⟨other, hmem, hother⟩ := h before line rest (by simp [← hrest]) hopens
  rw [← hrest, List.append_assoc, List.append_assoc, List.append_cancel_left_eq] at heq
  have hafter : after = rest ++ ls' := (List.cons.inj heq).2.symm
  exact ⟨other, by simp [hafter, hmem], hother⟩

theorem readAll_append_append {before outside : Text} (h : Shut (lines before))
    (houtside : ∀ line ∈ lines outside, opensBlock line = false) (after : Text) :
    readAll (before ++ '\n' :: outside ++ '\n' :: after) =
      readAll before ++
        (readAll after).map (renumbered ((lines before).length + (lines outside).length)) := by
  have hshut : Shut (lines (before ++ '\n' :: outside)) := by
    rw [lines_append]
    exact shut_append h houtside
  have hnone := readAll_eq_nil houtside
  rw [readAll_append _ (.inl hshut), readAll_append _ (.inl h), hnone, List.map_nil,
    List.append_nil, lines_append, List.length_append]

/-! ### The main statement -/

/-- Each block of a document is read for itself. -/
structure FindsBlocks : Prop where
  /-- There is one result for each router line, in the order of the lines. -/
  results : ∀ document : String,
    parseAll document = (routerLines document.toList).map (resultAt document.toList)
  /-- Blocks before a router line, broken or not, and those from it on do not touch each other. -/
  apart : ∀ before after : String, BeginsBlock after.toList →
    parseAll (before ++ "\n" ++ after) =
      parseAll before ++ (parseAll after).map (renumbered (lines before.toList).length)
  /-- Lines outside of blocks do nothing but move the lines after them. -/
  outside : ∀ before outside after : String, Shut (lines before.toList) →
    (∀ line ∈ lines outside.toList, opensBlock line = false) →
    parseAll (before ++ "\n" ++ outside ++ "\n" ++ after) =
      parseAll before ++ (parseAll after).map
        (renumbered ((lines before.toList).length + (lines outside.toList).length))

/--
Reading a document finds exactly its blocks: one for each router line, from that line to its end
line or cut off.
-/
theorem finds_blocks : FindsBlocks where
  results document := by
    have hresults := map_read_found document.toList 0
    rw [List.drop_zero] at hresults
    rw [parseAll, readAll_eq_found, hresults, routerLines, List.map_map]
    rfl
  apart before after h := by
    have happend := readAll_append before.toList (.inr h)
    simpa [parseAll, String.toList_append] using happend
  outside before outside after h houtside := by
    have happend := readAll_append_append h houtside after.toList
    simpa [parseAll, String.toList_append] using happend

end Descriptor

end RelaySnapshot
