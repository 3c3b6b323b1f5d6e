import RelaySnapshot.Proofs.FileTree.Paths
import RelaySnapshot.Proofs.Source.Loop
import RelaySnapshot.Proofs.Text.Utf8
import RelaySnapshot.Proofs.Text.Lines

/-!
# Passes that break off

A pass that wants a number of descriptors hands on the first of the full pass, counts what it came
by on the way to the last of them, and looks at nothing that comes after the document with the last.
-/

namespace RelaySnapshot.Source

open Descriptor (ReadError)

/-- How a pass over these documents ends when `k` descriptors are wanted. -/
inductive Ends (k : Nat) (docs : List Outcome) : Except IoError Pass → Prop where
  /-- The last descriptor that is wanted comes after `front` in the document after `before`. -/
  | broke {before : List (List UInt8)} {bytes : List UInt8} {later : List Outcome}
      {front back : List (Except ReadError Descriptor)} {d : Descriptor}
      (hdocs : docs = before.map .ok ++ .ok bytes :: later)
      (hread : readDocument bytes = front ++ .ok d :: back)
      (hlast : (wellFormed (before.flatMap readDocument ++ front)).length + 1 = k) :
      Ends k docs (.ok {
        stats := ⟨before.length + 1, k, malformed (before.flatMap readDocument ++ front)⟩
        handed := wellFormed (before.flatMap readDocument ++ front) ++ [d]
        left := some 0 })
  /-- A document that cannot be opened comes first. -/
  | failed {before : List (List UInt8)} {e : IoError} {later : List Outcome}
      (hdocs : docs = before.map .ok ++ .error e :: later)
      (hfew : (wellFormed (before.flatMap readDocument)).length < k) :
      Ends k docs (.error e)
  /-- There are fewer descriptors than are wanted. -/
  | done {bodies : List (List UInt8)} (hdocs : docs = bodies.map .ok)
      (hfew : (wellFormed (bodies.flatMap readDocument)).length < k) :
      Ends k docs (.ok {
        stats := ⟨bodies.length, (wellFormed (bodies.flatMap readDocument)).length,
          malformed (bodies.flatMap readDocument)⟩
        handed := wellFormed (bodies.flatMap readDocument)
        left := some (k - (wellFormed (bodies.flatMap readDocument)).length) })

theorem exists_break (rs : List (Except ReadError Descriptor)) {n : Nat} (hn : 0 < n) :
    (wellFormed rs).length < n ∨ ∃ front d back,
      rs = front ++ .ok d :: back ∧ (wellFormed front).length + 1 = n := by
  induction rs generalizing n with
  | nil => exact .inl hn
  | cons r rs ih =>
      cases r with
      | error e =>
          rcases ih hn with hfew | ⟨front, d, back, rfl, hlast⟩
          · exact .inl hfew
          · exact .inr ⟨.error e :: front, d, back, rfl, hlast⟩
      | ok d =>
          by_cases hone : n = 1
          · exact .inr ⟨[], d, rs, rfl, hone.symm⟩
          · rcases ih (show 0 < n - 1 by omega) with hfew | ⟨front, d', back, rfl, hlast⟩
            · left
              rw [wellFormed_ok_cons, List.length_cons]
              omega
            · refine .inr ⟨.ok d :: front, d', back, rfl, ?_⟩
              rw [wellFormed_ok_cons, List.length_cons]
              omega

theorem Ends.cons {k : Nat} {docs : List Outcome} {bytes : List UInt8}
    {result : Except IoError Pass}
    (h : Ends (k - (wellFormed (readDocument bytes)).length) docs result)
    (hfew : (wellFormed (readDocument bytes)).length < k) :
    ∃ result, Ends k (.ok bytes :: docs) result := by
  -- What the first document holds is not wanted any more in the rest; the case stays the same.
  have hcount : ∀ rs, (wellFormed (readDocument bytes ++ rs)).length =
      (wellFormed (readDocument bytes)).length + (wellFormed rs).length := by
    intro rs
    rw [wellFormed_append, List.length_append]
  cases h with
  | @broke before doc later front back d hdocs hread hlast =>
      have hcons : Except.ok bytes :: docs =
          (bytes :: before).map Except.ok ++ .ok doc :: later := by
        rw [hdocs]
        rfl
      refine ⟨_, .broke hcons hread ?_⟩
      rw [List.flatMap_cons, List.append_assoc, hcount]
      omega
  | @failed before e later hdocs hrest =>
      have hcons : Except.ok bytes :: docs =
          (bytes :: before).map Except.ok ++ .error e :: later := by
        rw [hdocs]
        rfl
      refine ⟨_, .failed hcons ?_⟩
      rw [List.flatMap_cons, hcount]
      omega
  | @done bodies hdocs hrest =>
      have hcons : Except.ok bytes :: docs = (bytes :: bodies).map Except.ok := by
        rw [hdocs]
        rfl
      refine ⟨_, .done hcons ?_⟩
      rw [List.flatMap_cons, hcount]
      omega

theorem exists_ends (docs : List Outcome) {k : Nat} (hk : 0 < k) :
    ∃ result, Ends k docs result := by
  induction docs generalizing k with
  | nil =>
      have hnil : ([] : List Outcome) = ([] : List (List UInt8)).map .ok := rfl
      exact ⟨_, .done hnil hk⟩
  | cons doc docs ih =>
      cases doc with
      | error e =>
          have hnil : (.error e :: docs : List Outcome) =
              ([] : List (List UInt8)).map .ok ++ .error e :: docs := rfl
          exact ⟨_, .failed hnil hk⟩
      | ok bytes =>
          rcases exists_break (readDocument bytes) hk with hfew | ⟨front, d, back, hread, hlast⟩
          · obtain ⟨result, h⟩ := ih (Nat.sub_pos_of_lt hfew)
            exact h.cons hfew
          · have hnil : (.ok bytes :: docs : List Outcome) =
                ([] : List (List UInt8)).map .ok ++ .ok bytes :: docs := rfl
            exact ⟨_, .broke hnil hread hlast⟩

theorem outlasts_of_lt {k : Nat} {rs : List (Except ReadError Descriptor)}
    (h : (wellFormed rs).length < k) : Pass.Outlasts { left := some k } rs := by
  intro n hn
  cases hn
  exact h

theorem through_last {k : Nat} {rs : List (Except ReadError Descriptor)}
    (h : (wellFormed rs).length + 1 = k) (documents : Nat) (d : Descriptor) :
    Pass.through { left := some k } documents (rs ++ [.ok d]) =
      { stats := ⟨documents, k, malformed rs⟩
        handed := wellFormed rs ++ [d]
        left := some 0 } := by
  have hnone : malformed [.ok d] = 0 := rfl
  simp [Pass.through, Stats.add, wellFormed_append, malformed_append, hnone, h]

theorem takeAll_eq_of_ends {k : Nat} {docs : List Outcome} {result : Except IoError Pass}
    (h : Ends k docs result) : Pass.takeAll { left := some k } docs = result := by
  cases h with
  | @broke before bytes later front back d hdocs hread hlast =>
      have hfew : (wellFormed (before.flatMap readDocument)).length < k := by
        rw [wellFormed_append, List.length_append] at hlast
        omega
      have hleft : (Pass.through { left := some k } before.length
          (before.flatMap readDocument)).left = some ((wellFormed front).length + 1) := by
        rw [wellFormed_append, List.length_append] at hlast
        simp only [Pass.through, Option.map_some, Option.some.injEq]
        omega
      rw [hdocs, Pass.takeAll_append (outlasts_of_lt hfew), Pass.takeAll,
        Pass.takeDocument_of_break hread hleft, Pass.through_through, ← List.append_assoc,
        through_last hlast]
      rfl
  | failed hdocs hfew =>
      rw [hdocs, Pass.takeAll_append (outlasts_of_lt hfew), Pass.takeAll]
  | done hdocs hfew =>
      have hrun := Pass.takeAll_append (outlasts_of_lt hfew) []
      rw [List.append_nil] at hrun
      rw [hdocs, hrun, Pass.takeAll]
      simp [Pass.through, Stats.add]

structure Stops (formats : Formats) (files : Files) (root : String) (k : Nat)
    (docs : List Outcome) : Prop where
  ends : Ends k docs (read formats files root (some k))
  /-- It hands on the first descriptors of the full pass and counts them. -/
  first : ∀ pass, read formats files root (some k) = .ok pass →
    pass.handed = (wellFormed (docs.flatMap results)).take k ∧
      pass.stats.descriptors = pass.handed.length
  /-- If it breaks off, it does so for any source with the same documents up to there. -/
  unopened : ∀ pass, read formats files root (some k) = .ok pass → pass.isOver = true →
    ∀ formats' files' root' docs', FullPass formats' files' root' docs' →
      docs'.take pass.stats.documents = docs.take pass.stats.documents →
      read formats' files' root' (some k) = .ok pass

theorem results_flatMap_append (before : List (List UInt8)) (later : List Outcome) :
    (before.map Except.ok ++ later).flatMap results =
      before.flatMap readDocument ++ later.flatMap results := by
  rw [List.flatMap_append, List.flatMap_map]
  rfl

theorem Ends.first {k : Nat} {docs : List Outcome} {pass : Pass} (h : Ends k docs (.ok pass)) :
    pass.handed = (wellFormed (docs.flatMap results)).take k ∧
      pass.stats.descriptors = pass.handed.length := by
  cases h with
  | @broke before bytes later front back d hdocs hread hlast =>
      have hfull : wellFormed (docs.flatMap results) =
          (wellFormed (before.flatMap readDocument ++ front) ++ [d]) ++
            wellFormed (back ++ later.flatMap results) := by
        rw [hdocs, results_flatMap_append, List.flatMap_cons, results, hread]
        simp [wellFormed_append]
      constructor
      · rw [hfull, List.take_left']
        rw [List.length_append]
        exact hlast
      · rw [List.length_append]
        exact hlast.symm
  | @done bodies hdocs hfew =>
      have hfull : docs.flatMap results = bodies.flatMap readDocument := by
        have hflat := results_flatMap_append bodies []
        rwa [List.append_nil, ← hdocs, List.flatMap_nil, List.append_nil] at hflat
      rw [hfull, List.take_of_length_le hfew.le]
      exact ⟨rfl, rfl⟩

theorem Ends.unopened {k : Nat} {docs docs' : List Outcome} {pass : Pass}
    (h : Ends k docs (.ok pass)) (hover : pass.isOver = true)
    (hsame : docs'.take pass.stats.documents = docs.take pass.stats.documents) :
    Ends k docs' (.ok pass) := by
  cases h with
  | @broke before bytes later front back d hdocs hread hlast =>
      have htake : docs.take (before.length + 1) = before.map .ok ++ [.ok bytes] := by
        rw [hdocs, List.append_cons, List.take_left']
        simp
      have hdocs' : docs' = before.map .ok ++ .ok bytes :: docs'.drop (before.length + 1) := by
        rw [← List.singleton_append, ← List.append_assoc, ← htake, ← hsame, List.take_append_drop]
      exact .broke hdocs' hread hlast
  | done hdocs hfew =>
      have hzero := Option.some.inj (beq_iff_eq.mp hover)
      omega

/--
Of a source that is a file, an archive or a directory, a pass that wants `k` descriptors hands on
the first of the full pass.
-/
theorem stops_at_break (formats : Formats) (files : Files) (root : String) {k : Nat}
    (hk : 0 < k) :
    (∃! docs, FullPass formats files root docs) ∧
      ∀ docs, FullPass formats files root docs → Stops formats files root k docs := by
  have hread : ∀ formats files root docs, FullPass formats files root docs →
      read formats files root (some k) = Pass.takeAll { left := some k } docs := by
    intro formats files root docs hdocs
    rw [read_eq_takeAll hdocs, Option.map_some, Nat.max_eq_right hk]
  constructor
  · obtain ⟨docs, hdocs, -⟩ := exists_fullPass formats files root
    exact ⟨docs, hdocs, fun docs' hdocs' => hdocs'.unique hdocs⟩
  · intro docs hdocs
    have hends : Ends k docs (read formats files root (some k)) := by
      obtain ⟨result, hresult⟩ := exists_ends docs hk
      rw [hread formats files root docs hdocs, takeAll_eq_of_ends hresult]
      exact hresult
    refine ⟨hends, ?_, ?_⟩
    · intro pass hpass
      rw [hpass] at hends
      exact hends.first
    · intro pass hpass hover formats' files' root' docs' hdocs' hsame
      rw [hpass] at hends
      rw [hread formats' files' root' docs' hdocs']
      exact takeAll_eq_of_ends (hends.unopened hover hsame)

theorem exists_of_isOk {rs : List (Except ReadError Descriptor)} {oks : List Bool}
    (h : rs.map (·.isOk) = false :: true :: oks) :
    ∃ e d back, rs = [.error e] ++ .ok d :: back := by
  rcases rs with _ | ⟨e | _, _ | ⟨_ | d, back⟩⟩
  case cons.error.cons.ok => exact ⟨e, d, back, rfl⟩
  all_goals simp [Except.isOk, Except.toBool] at h

/--
In a directory, a pass breaks off in a file where a descriptor stands between malformed ones, and
the next file, which would be too short for a compressed one, is not opened.
-/
theorem stops_at_break_directory :
    let lines := ["router b 5.6.7.8 9001 0 0", "-----END SIGNATURE-----",
      "router a 1.2.3.4 9001 0 0", "published 2020-03-02 10:00:00",
      "fingerprint AAAAAAAAAAAAAAAAAAAAAAAAAAAAAAAAAAAAAAAA", "bandwidth 1000 2000 500",
      "-----END SIGNATURE-----", "router c"].map String.toList
    let body := Utf8.encode (Text.ended lines)
    let formats : Formats := {
      gunzip := fun data => .error (if data.length < 10 then .unexpectedEnd else .notGzip)
      entries := fun _ => ([], none)
      geo := fun _ => none
      image := fun _ _ => [] }
    let files : Files := .put (.put (.put {} ["d"] .directory) ["d", "a"] (.file (.bytes body)))
      ["d", "b.gz"] (.file (.bytes []))
    0 < 1 ∧ FullPass formats files "d" [.ok body, .error .unexpectedEnd] ∧
      Stops formats files "d" 1 [.ok body, .error .unexpectedEnd] ∧
      ∃ pass, read formats files "d" (some 1) = .ok pass ∧ pass.stats = ⟨1, 1, 1⟩ := by
  intro lines body formats files
  have hoks : (readDocument body).map (·.isOk) = [false, true, false] := by
    rw [readDocument, Utf8.decodeLossy_encode]
    decide +kernel
  obtain ⟨e, d, back, hread⟩ := exists_of_isOk hoks
  clear_value body
  have hroot : files.get "d" = .ok (["d"], .directory) :=
    FileTree.get_direct (show Path.Direct "d" "d" by decide) rfl rfl (by simp)
  have hplain : opened formats files (Path.join "d" "a") = .ok body := by
    have hget : files.get (Path.join "d" "a") = .ok (["d", "a"], .file (.bytes body)) :=
      FileTree.get_join hroot (by decide) rfl (by simp) (by decide)
    rw [opened, hget]
    exact if_neg (by decide)
  have hpacked : opened formats files (Path.join "d" "b.gz") = .error .unexpectedEnd := by
    have hget : files.get (Path.join "d" "b.gz") = .ok (["d", "b.gz"], .file (.bytes [])) :=
      FileTree.get_join hroot (by decide) rfl (by simp) (by decide)
    rw [opened, hget]
    exact if_pos (by decide)
  have hpass : FullPass formats files "d" [.ok body, .error .unexpectedEnd] := by
    have hnames : files.names ["d"] = ["a", "b.gz"] :=
      List.mergeSort_of_pairwise (List.pairwise_pair.mpr (by decide))
    have hfiles : ∀ name ∈ ["a", "b.gz"], leadAt files [] "d" ["d"] name = .file := by
      intro name hname
      rcases List.mem_pair.mp hname with rfl | rfl <;> rfl
    have htour : Tour formats files [] "d" ["d"] _ := tour_of_files hnames hfiles
    rw [List.map_cons, List.map_singleton, hplain, hpacked] at htour
    exact .directory hroot htour
  have hends : Ends 1 [.ok body, .error .unexpectedEnd] _ :=
    .broke (show _ = ([] : List (List UInt8)).map Except.ok ++ _ from rfl) hread rfl
  have hrun := (read_eq_takeAll hpass (some 1)).trans (takeAll_eq_of_ends hends)
  exact ⟨by decide, hpass, (stops_at_break formats files "d" (by decide)).2 _ hpass, _, hrun, rfl⟩

end RelaySnapshot.Source
