import Mathlib.Data.List.TakeWhile
import RelaySnapshot.Text.Basic

namespace RelaySnapshot.Text

theorem dropLeading?_eq_some_iff {start s rest : Text} :
    dropLeading? start s = some rest ↔ s = start ++ rest := by
  induction start generalizing s with
  | nil => simp [dropLeading?, eq_comm]
  | cons a start ih =>
      cases s with
      | nil => simp [dropLeading?]
      | cons b s =>
          rw [dropLeading?]
          by_cases h : a = b
          · subst h
            simp [ih]
          · simp [h, Ne.symm h]

theorem startsWith_iff {start s : Text} : startsWith start s = true ↔ start <+: s := by
  rw [startsWith, Option.isSome_iff_exists]
  simp only [dropLeading?_eq_some_iff]
  exact ⟨fun ⟨rest, h⟩ => ⟨rest, h.symm⟩, fun ⟨rest, h⟩ => ⟨rest, h.symm⟩⟩

/-- A beginning does not reach into what goes on with a character that it does not have. -/
theorem prefix_of_prefix_append {start s rest : Text} (h : start <+: s ++ rest)
    (hrest : ∀ c ∈ rest.head?, c ∉ start) : start <+: s := by
  rcases List.prefix_or_prefix_of_prefix h (List.prefix_append s rest) with hprefix | ⟨more, rfl⟩
  · exact hprefix
  · rw [List.prefix_append_right_inj] at h
    cases more with
    | nil => simp
    | cons c more =>
        obtain ⟨rest, rfl⟩ := h
        exact absurd (by simp) (hrest c rfl)

/-- What stands before and after the first occurrence of a mark. -/
structure CutsFirst (mark s before after : Text) : Prop where
  eq : s = before ++ (mark ++ after)
  first : ∀ before' after', s = before' ++ (mark ++ after') → before.length ≤ before'.length

theorem CutsFirst.unique {mark s before after before' after' : Text}
    (h : CutsFirst mark s before after) (h' : CutsFirst mark s before' after') :
    before = before' ∧ after = after' := by
  have hlength : before.length = before'.length :=
    le_antisymm (h.first before' after' h'.eq) (h'.first before after h.eq)
  obtain ⟨hbefore, hrest⟩ := List.append_inj (h.eq.symm.trans h'.eq) hlength
  exact ⟨hbefore, List.append_cancel_left hrest⟩

theorem cutAt_spec {mark : Text} (hmark : mark ≠ []) (s : Text) :
    match cutAt mark s with
    | some (before, after) => CutsFirst mark s before after
    | none => ∀ before after, s ≠ before ++ (mark ++ after) := by
  induction s with
  | nil =>
      rw [cutAt, if_neg (by simpa using hmark)]
      intro before after h
      exact hmark (List.append_eq_nil_iff.mp (List.append_eq_nil_iff.mp h.symm).2).1
  | cons c rest ih =>
      rw [cutAt]
      cases hstart : dropLeading? mark (c :: rest) with
      | some after =>
          refine ⟨?_, fun _ _ _ => Nat.zero_le _⟩
          rw [List.nil_append]
          exact dropLeading?_eq_some_iff.mp hstart
      | none =>
          -- The mark does not stand at the beginning, so it stands in the rest or nowhere.
          have hlater {before after : Text} (h : c :: rest = before ++ (mark ++ after)) :
              ∃ before', before = c :: before' ∧ rest = before' ++ (mark ++ after) := by
            cases before with
            | nil =>
                rw [List.nil_append, ← dropLeading?_eq_some_iff, hstart] at h
                cases h
            | cons d before =>
                obtain ⟨rfl, hrest⟩ := List.cons.inj h
                exact ⟨before, rfl, hrest⟩
          cases hcut : cutAt mark rest with
          | none =>
              rw [hcut] at ih
              intro before after h
              obtain ⟨before', -, hrest⟩ := hlater h
              exact ih before' after hrest
          | some parts =>
              obtain ⟨before, after⟩ := parts
              rw [hcut] at ih
              refine ⟨congrArg (List.cons c) ih.eq, fun before' after' h => ?_⟩
              obtain ⟨before'', rfl, hrest⟩ := hlater h
              exact Nat.succ_le_succ (ih.first before'' after' hrest)

theorem cutAt_eq_some_iff {mark s before after : Text} (hmark : mark ≠ []) :
    cutAt mark s = some (before, after) ↔ CutsFirst mark s before after := by
  have hspec := cutAt_spec hmark s
  cases hcut : cutAt mark s with
  | none =>
      rw [hcut] at hspec
      constructor
      · exact fun h => absurd h (by simp)
      · exact fun h => absurd h.eq (hspec before after)
  | some parts =>
      obtain ⟨before', after'⟩ := parts
      rw [hcut] at hspec
      rw [Option.some_inj, Prod.mk.injEq]
      constructor
      · rintro ⟨rfl, rfl⟩
        exact hspec
      · exact hspec.unique

theorem cutAt_singleton (c : Char) (s : Text) :
    cutAt [c] s = if c ∈ s then some (s.takeWhile (· != c), (s.dropWhile (· != c)).tail)
      else none := by
  induction s with
  | nil => rfl
  | cons d rest ih =>
      rw [cutAt]
      by_cases heq : c = d
      · subst heq
        simp [dropLeading?]
      · rw [ih]
        by_cases hmem : c ∈ rest <;> simp [dropLeading?, heq, Ne.symm heq, hmem]

/-- A single character cuts a text where it stands first. -/
theorem cutAt_singleton_eq_some_iff {c : Char} {s before after : Text} :
    cutAt [c] s = some (before, after) ↔ s = before ++ c :: after ∧ c ∉ before := by
  rw [cutAt_eq_some_iff (List.cons_ne_nil c [])]
  constructor
  · intro h
    refine ⟨h.eq, fun hmem => ?_⟩
    obtain ⟨front, back, rfl⟩ := List.append_of_mem hmem
    have hle := h.first front (back ++ c :: after) (by simp [h.eq])
    rw [List.length_append, List.length_cons] at hle
    omega
  · rintro ⟨rfl, hfirst⟩
    refine ⟨rfl, fun before' after' h => ?_⟩
    by_contra hlt
    rcases List.append_eq_append_iff.mp h with ⟨more, hbefore, -⟩ | ⟨more, hbefore, hrest⟩
    · rw [hbefore, List.length_append] at hlt
      omega
    · cases more with
      | nil => simp [hbefore] at hlt
      | cons d more =>
          obtain ⟨rfl, -⟩ := List.cons.inj hrest
          exact hfirst (by simp [hbefore])

end RelaySnapshot.Text
