import Mathlib.Data.List.DropRight
import RelaySnapshot.Proofs.Text.Lines

namespace RelaySnapshot

namespace Text

/-- A text that a column can hold: there are no blanks around it, no bar and no line feed in it. -/
structure Bare (s : Text) : Prop where
  trimmed : trim s = s
  no_bar : '|' ∉ s
  no_feed : '\n' ∉ s

/-- A column with any number of blanks around it. -/
def Padded (column cell : Text) : Prop :=
  ∃ before after, (∀ c ∈ before ++ after, isBlank c = true ∧ c ≠ '\n') ∧
    cell = before ++ (column ++ after)

theorem trimStart_append {before : Text} (h : ∀ c ∈ before, isBlank c = true) (s : Text) :
    trimStart (before ++ s) = trimStart s := by
  rw [trimStart, List.dropWhile_append_of_pos h]
  rfl

theorem trimEnd_append {after : Text} (h : ∀ c ∈ after, isBlank c = true) (s : Text) :
    trimEnd (s ++ after) = trimEnd s := by
  rw [trimEnd, List.reverse_append, List.dropWhile_append_of_pos (by simpa using h)]
  rfl

theorem trimStart_of_trim_eq {s : Text} (h : trim s = s) : trimStart s = s := by
  have hend := List.rdropWhile_prefix isBlank (trimStart s)
  refine (List.dropWhile_suffix isBlank).eq_of_length_le ?_
  calc s.length = (trimEnd (trimStart s)).length := congrArg List.length h.symm
    _ ≤ (trimStart s).length := hend.length_le

theorem trim_padded {column cell : Text} (hcolumn : trim column = column)
    (h : Padded column cell) : trim cell = column := by
  obtain ⟨before, after, hblank, rfl⟩ := h
  have hbefore : ∀ c ∈ before, isBlank c = true :=
    fun c hc => (hblank c (List.mem_append_left _ hc)).1
  have hafter : ∀ c ∈ after, isBlank c = true :=
    fun c hc => (hblank c (List.mem_append_right _ hc)).1
  rw [trim, trimStart_append hbefore]
  cases column with
  | nil =>
      have hnil : trimStart after = [] := List.dropWhile_eq_nil_iff.mpr hafter
      rw [List.nil_append, hnil]
      rfl
  | cons c column =>
      -- The column begins with no blank, so nothing more is dropped at the start.
      have hstart := trimStart_of_trim_eq hcolumn
      have hc : isBlank c = false := by
        by_contra hc
        rw [trimStart, List.dropWhile_cons_of_pos (by simpa using hc)] at hstart
        have hlength := (List.dropWhile_suffix (l := column) isBlank).length_le
        rw [hstart, List.length_cons] at hlength
        omega
      have hkept : trimStart (c :: column ++ after) = c :: column ++ after :=
        List.dropWhile_cons_of_neg (by simp [hc])
      rw [hkept, trimEnd_append hafter]
      rw [trim, hstart] at hcolumn
      exact hcolumn

theorem Padded.not_mem {column cell : Text} (h : Padded column cell) {mark : Char}
    (hmark : isBlank mark = true → mark = '\n') (hcolumn : mark ∉ column) : mark ∉ cell := by
  obtain ⟨before, after, hblank, rfl⟩ := h
  intro hmem
  have houter : ∀ c ∈ before ++ after, c ≠ mark := by
    rintro c hc rfl
    exact (hblank c hc).2 (hmark (hblank c hc).1)
  rcases List.mem_append.mp hmem with hmem | hmem
  · exact houter mark (List.mem_append_left _ hmem) rfl
  · rcases List.mem_append.mp hmem with hmem | hmem
    · exact hcolumn hmem
    · exact houter mark (List.mem_append_right _ hmem) rfl

/-- Three columns with bars between them. -/
def Shows (first second third line : Text) : Prop :=
  ∃ a b c, Padded first a ∧ Padded second b ∧ Padded third c ∧
    line = a ++ '|' :: (b ++ '|' :: c)

theorem Shows.no_feed {first second third line : Text} (h : Shows first second third line)
    (hfirst : Bare first) (hsecond : Bare second) (hthird : Bare third) : '\n' ∉ line := by
  obtain ⟨a, b, c, ha, hb, hc, rfl⟩ := h
  have ha := ha.not_mem (fun _ => rfl) hfirst.no_feed
  have hb := hb.not_mem (fun _ => rfl) hsecond.no_feed
  have hc := hc.not_mem (fun _ => rfl) hthird.no_feed
  simp [ha, hb, hc]

theorem Shows.map_trim_split {first second third line : Text}
    (h : Shows first second third line) (hfirst : Bare first) (hsecond : Bare second)
    (hthird : Bare third) :
    (split (· == '|') line).map trim = [first, second, third] := by
  obtain ⟨a, b, c, ha, hb, hc, rfl⟩ := h
  have hwhole {column cell : Text} (hcolumn : Bare column) (hcell : Padded column cell) :
      split (· == '|') cell = [cell] := by
    have hbar : '|' ∉ cell := hcell.not_mem (by decide) hcolumn.no_bar
    refine split_of_forall_not fun c hc => ?_
    rw [beq_eq_false_iff_ne]
    rintro rfl
    exact hbar hc
  rw [split_append_append _ rfl, split_append_append _ rfl, hwhole hfirst ha, hwhole hsecond hb,
    hwhole hthird hc]
  simp [trim_padded hfirst.trimmed ha, trim_padded hsecond.trimmed hb,
    trim_padded hthird.trimmed hc]

theorem bare_of_forall {s : Text} (h : ∀ c ∈ s, isBlank c = false ∧ c ≠ '|') : Bare s := by
  refine ⟨?_, fun hmem => (h _ hmem).2 rfl, fun hmem => ?_⟩
  · have hstart : trimStart s = s :=
      List.dropWhile_eq_self_iff.mpr fun hpos => by simp [(h _ (List.getElem_mem hpos)).1]
    have hend : trimEnd s = s :=
      List.rdropWhile_eq_self_iff.mpr fun hne => by simp [(h _ (List.getLast_mem hne)).1]
    rw [trim, hstart, hend]
  · have hblank := (h _ hmem).1
    cases hblank

end Text

end RelaySnapshot
