import Mathlib.Algebra.Ring.Nat
import Mathlib.Data.List.TakeDrop
import RelaySnapshot.Text.Basic

namespace RelaySnapshot.Text

theorem split_of_forall_not {cut : Char → Bool} {s : Text} (h : ∀ c ∈ s, cut c = false) :
    split cut s = [s] := by
  induction s with
  | nil => rfl
  | cons c s ih =>
      have hc : cut c = false := h c List.mem_cons_self
      rw [split, ih fun d hd => h d (List.mem_cons_of_mem c hd)]
      simp [hc]

/-- The parts of two texts with a separator between them are those of the first and the second. -/
theorem split_append_append {cut : Char → Bool} (s : Text) {c : Char} (hcut : cut c = true)
    (s' : Text) : split cut (s ++ c :: s') = split cut s ++ split cut s' := by
  induction s with
  | nil => simp [split, hcut]
  | cons d s ih =>
      rw [List.cons_append, split, split, ih]
      split
      · rfl
      · cases hs : split cut s with
        | nil => exact absurd hs (split_ne_nil cut s)
        | cons part parts => rfl

@[simp]
theorem lines_nil : lines [] = [[]] := rfl

theorem lines_of_not_mem {s : Text} (h : '\n' ∉ s) : lines s = [s] := by
  refine split_of_forall_not fun c hc => ?_
  rw [beq_eq_false_iff_ne]
  rintro rfl
  exact h hc

theorem lines_append (s s' : Text) : lines (s ++ '\n' :: s') = lines s ++ lines s' :=
  split_append_append s rfl s'

theorem lines_append_cons {line : Text} (h : '\n' ∉ line) (s : Text) :
    lines (line ++ '\n' :: s) = line :: lines s := by
  rw [lines_append, lines_of_not_mem h, List.singleton_append]

@[elab_as_elim]
theorem induction_lines {motive : Text → Prop} (last : ∀ line, '\n' ∉ line → motive line)
    (more : ∀ line s, '\n' ∉ line → motive s → motive (line ++ '\n' :: s)) (s : Text) :
    motive s := by
  induction hlength : s.length using Nat.strongRecOn generalizing s with
  | _ length ih =>
      by_cases hmem : '\n' ∈ s
      · obtain ⟨line, rest, rfl, hline⟩ := List.eq_append_cons_of_mem hmem
        refine more line rest hline (ih rest.length ?_ rest rfl)
        rw [← hlength, List.length_append, List.length_cons]
        omega
      · exact last s hmem

/-- The text of some lines, each of them ended by a line feed. -/
def ended (ls : List Text) : Text :=
  ls.flatMap fun line => line ++ ['\n']

theorem lines_ended_append {ls : List Text} (h : ∀ line ∈ ls, '\n' ∉ line) (s : Text) :
    lines (ended ls ++ s) = ls ++ lines s := by
  induction ls with
  | nil => rfl
  | cons line ls ih =>
      have hrest := ih fun other hmem => h other (List.mem_cons_of_mem line hmem)
      rw [ended] at hrest
      rw [ended, List.flatMap_cons, List.append_assoc, List.append_assoc, List.singleton_append,
        lines_append_cons (h line List.mem_cons_self), hrest, List.cons_append]

/-! ### Parts of a text -/

/-- The number of characters of some lines, each with its line feed. -/
def extent (ls : List Text) : Nat :=
  (ls.map fun line => line.length + 1).sum

@[simp]
theorem extent_nil : extent [] = 0 := rfl

@[simp]
theorem extent_cons (line : Text) (ls : List Text) :
    extent (line :: ls) = line.length + 1 + extent ls := by
  simp [extent]

theorem extent_append (ls ls' : List Text) : extent (ls ++ ls') = extent ls + extent ls' := by
  simp [extent]

/-- The text from the start of one line to the end of another one; lines are numbered from 1. -/
def between (s : Text) (first last : Nat) : Text :=
  (s.take (extent ((lines s).take last))).drop (extent ((lines s).take (first - 1)))

theorem length_le_extent_of_pos {line : Text} (h : '\n' ∉ line) {n : Nat} (hn : 0 < n) :
    line.length ≤ extent ((lines line).take n) := by
  obtain ⟨n, rfl⟩ := Nat.exists_eq_add_of_lt hn
  rw [lines_of_not_mem h]
  simp

theorem take_extent_succ {line : Text} (h : '\n' ∉ line) (s : Text) (n : Nat) :
    (line ++ '\n' :: s).take (extent ((lines (line ++ '\n' :: s)).take (n + 1))) =
      line ++ '\n' :: s.take (extent ((lines s).take n)) := by
  rw [lines_append_cons h, List.take_succ_cons, extent_cons, Nat.add_assoc,
    List.take_length_add_append, Nat.add_comm 1, List.take_succ_cons]

theorem drop_extent_succ {line : Text} (h : '\n' ∉ line) (s : Text) (n : Nat) :
    (line ++ '\n' :: s).drop (extent ((lines (line ++ '\n' :: s)).take (n + 1))) =
      s.drop (extent ((lines s).take n)) := by
  rw [lines_append_cons h, List.take_succ_cons, extent_cons, Nat.add_assoc,
    List.drop_length_add_append, Nat.add_comm 1, List.drop_succ_cons]

/-- The first lines are the lines of the text up to the end of the last of them. -/
theorem lines_take_extent (s : Text) (n : Nat) :
    lines (s.take (extent ((lines s).take n))) =
      (lines s).take n ++ if n < (lines s).length then [[]] else [] := by
  induction s using induction_lines generalizing n with
  | last line h =>
      cases n with
      | zero => simp [lines_of_not_mem h]
      | succ n =>
          rw [List.take_of_length_le (length_le_extent_of_pos h n.succ_pos), lines_of_not_mem h]
          simp
  | more line s h ih =>
      cases n with
      | zero =>
          rw [lines_append_cons h]
          simp
      | succ n =>
          rw [take_extent_succ h, lines_append_cons h, lines_append_cons h, ih]
          simp

theorem lines_drop_extent (s : Text) {n : Nat} (hn : n < (lines s).length) :
    lines (s.drop (extent ((lines s).take n))) = (lines s).drop n := by
  induction s using induction_lines generalizing n with
  | last line h =>
      rw [lines_of_not_mem h, List.length_singleton, Nat.lt_one_iff] at hn
      subst hn
      simp
  | more line s h ih =>
      cases n with
      | zero => simp
      | succ n =>
          rw [lines_append_cons h, List.length_cons, Nat.succ_lt_succ_iff] at hn
          rw [drop_extent_succ h, lines_append_cons h, List.drop_succ_cons, ih hn]

theorem lines_between (s : Text) {first last : Nat} (hfirst : 0 < first) (hle : first ≤ last)
    (hlast : last ≤ (lines s).length) :
    lines (between s first last) = ((lines s).drop (first - 1)).take (last - (first - 1)) ++
      if last < (lines s).length then [[]] else [] := by
  have hdrop : lines (s.drop (extent ((lines s).take (first - 1)))) =
      (lines s).drop (first - 1) := lines_drop_extent s (by omega)
  have hextent : extent ((lines s).take last) - extent ((lines s).take (first - 1)) =
      extent (((lines s).drop (first - 1)).take (last - (first - 1))) := by
    have htake := List.take_add (l := lines s) (i := first - 1) (j := last - (first - 1))
    rw [Nat.add_sub_cancel' (by omega)] at htake
    rw [htake, extent_append, Nat.add_sub_cancel_left]
  rw [between, List.drop_take, hextent, ← hdrop, lines_take_extent, hdrop, List.length_drop]
  congr 1
  refine if_congr ?_ rfl rfl
  omega

end RelaySnapshot.Text
