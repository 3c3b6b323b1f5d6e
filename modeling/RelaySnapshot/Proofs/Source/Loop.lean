import RelaySnapshot.Proofs.Source.FullPass

namespace RelaySnapshot.Source

open Descriptor (ReadError)

def wellFormed (results : List (Except ReadError Descriptor)) : List Descriptor :=
  results.filterMap Except.toOption

def malformed (results : List (Except ReadError Descriptor)) : Nat :=
  results.countP (!·.isOk)

/-- The results of reading a document; what cannot be opened has none. -/
def results : Outcome → List (Except ReadError Descriptor)
  | .ok bytes => readDocument bytes
  | .error _ => []

theorem wellFormed_append (rs rs' : List (Except ReadError Descriptor)) :
    wellFormed (rs ++ rs') = wellFormed rs ++ wellFormed rs' :=
  List.filterMap_append

theorem malformed_append (rs rs' : List (Except ReadError Descriptor)) :
    malformed (rs ++ rs') = malformed rs + malformed rs' :=
  List.countP_append

@[simp]
theorem wellFormed_nil : wellFormed [] = [] :=
  rfl

@[simp]
theorem wellFormed_error_cons (e : ReadError) (rs : List (Except ReadError Descriptor)) :
    wellFormed (.error e :: rs) = wellFormed rs :=
  rfl

@[simp]
theorem wellFormed_ok_cons (d : Descriptor) (rs : List (Except ReadError Descriptor)) :
    wellFormed (.ok d :: rs) = d :: wellFormed rs :=
  rfl

theorem opened_eq (formats : Formats) (files : Files) (path : String) :
    opened formats files path = (files.read path >>= fun content =>
      if Compressed path then formats.gunzip content.data else .ok content.data) := by
  rw [opened, FileTree.read]
  cases files.get path with
  | error e => rfl
  | ok found =>
      obtain ⟨place, node⟩ := found
      rcases node with _ | (data | ⟨image, db⟩) | target <;> rfl

theorem members_eq (formats : Formats) (files : Files) (path : String) :
    members formats files path = match files.read path with
      | .ok content =>
          ((formats.entries content.data).1.filter (·.kind = .file)).map (.ok ·.body) ++
            (formats.entries content.data).2.toList.map .error
      | .error e => [.error e] := by
  rw [members, FileTree.read]
  cases files.get path with
  | error e => rfl
  | ok found =>
      obtain ⟨place, node⟩ := found
      rcases node with _ | (data | ⟨image, db⟩) | target <;> rfl

namespace Pass

/-! ### The results of a document -/

/-- The pass after documents with these results, or their first results. -/
def through (pass : Pass) (documents : Nat) (rs : List (Except ReadError Descriptor)) : Pass where
  stats := pass.stats.add ⟨documents, (wellFormed rs).length, malformed rs⟩
  handed := pass.handed ++ wellFormed rs
  left := pass.left.map (· - (wellFormed rs).length)

/-- More descriptors are wanted than there are among the results. -/
def Outlasts (pass : Pass) (rs : List (Except ReadError Descriptor)) : Prop :=
  ∀ n ∈ pass.left, (wellFormed rs).length < n

theorem through_nil (pass : Pass) : pass.through 0 [] = pass := by
  simp [through, Stats.add, wellFormed, malformed]

theorem through_through (pass : Pass) (m n : Nat) (rs rs' : List (Except ReadError Descriptor)) :
    (pass.through m rs).through n rs' = pass.through (m + n) (rs ++ rs') := by
  simp [through, Stats.add, wellFormed_append, malformed_append, Function.comp_def, Nat.add_assoc,
    Nat.sub_sub]

theorem Outlasts.of_append {pass : Pass} {rs rs' : List (Except ReadError Descriptor)}
    (h : pass.Outlasts (rs ++ rs')) : pass.Outlasts rs := by
  intro n hn
  have hlt := h n hn
  rw [wellFormed_append, List.length_append] at hlt
  omega

theorem Outlasts.through {pass : Pass} {rs rs' : List (Except ReadError Descriptor)}
    (h : pass.Outlasts (rs ++ rs')) (m : Nat) : (pass.through m rs).Outlasts rs' := by
  intro n hn
  obtain ⟨left, hleft, rfl⟩ := Option.map_eq_some_iff.mp hn
  have hlt := h left hleft
  rw [wellFormed_append, List.length_append] at hlt
  omega

theorem Outlasts.isOver {pass : Pass} {rs : List (Except ReadError Descriptor)}
    (h : pass.Outlasts rs) (m : Nat) : (pass.through m rs).isOver = false := by
  rw [Pass.isOver, beq_eq_false_iff_ne]
  intro hover
  obtain ⟨left, hleft, hzero⟩ := Option.map_eq_some_iff.mp hover
  have hlt := h left hleft
  omega

theorem takeResults_cons {pass : Pass} {r : Except ReadError Descriptor}
    (h : pass.Outlasts [r]) (rest : List (Except ReadError Descriptor)) :
    pass.takeResults (r :: rest) = (pass.through 0 [r]).takeResults rest := by
  cases r with
  | error e =>
      have hthrough : pass.through 0 [.error e] =
          { pass with stats := { pass.stats with malformed := pass.stats.malformed + 1 } } := by
        simp [through, Stats.add, malformed, Except.isOk, Except.toBool]
      rw [takeResults, hthrough]
  | ok d =>
      change (if (pass.through 0 [.ok d]).isOver then _ else _) = _
      rw [h.isOver 0]
      rfl

theorem takeResults_last {pass : Pass} (h : pass.left = some 1) (d : Descriptor)
    (rest : List (Except ReadError Descriptor)) :
    pass.takeResults (.ok d :: rest) = pass.through 0 [.ok d] := by
  have hover : (pass.through 0 [.ok d]).isOver = true := by
    rw [isOver, through, h]
    rfl
  change (if (pass.through 0 [.ok d]).isOver then _ else _) = _
  rw [hover]
  rfl

theorem takeResults_append {pass : Pass} {rs : List (Except ReadError Descriptor)}
    (h : pass.Outlasts rs) (rest : List (Except ReadError Descriptor)) :
    pass.takeResults (rs ++ rest) = (pass.through 0 rs).takeResults rest := by
  induction rs generalizing pass with
  | nil => rw [List.nil_append, through_nil]
  | cons r rs ih =>
      have h : pass.Outlasts ([r] ++ rs) := h
      rw [List.cons_append, takeResults_cons h.of_append, ih (h.through 0), through_through]
      rfl

/-- The pass with the counts of a document that is just opened. -/
def opening (pass : Pass) : Pass :=
  { pass with stats := { documents := 1 } }

/-- What is counted in one document is added to the counts once. -/
theorem takeDocument_eq {pass : Pass} {bytes : List UInt8}
    {rs : List (Except ReadError Descriptor)}
    (h : pass.opening.takeResults (readDocument bytes) = pass.opening.through 0 rs) :
    pass.takeDocument bytes = pass.through 1 rs := by
  have hcount : pass.takeDocument bytes =
      let inner := pass.opening.takeResults (readDocument bytes)
      ⟨pass.stats.add inner.stats, inner.handed, inner.left⟩ := rfl
  rw [hcount, h]
  simp [opening, through, Stats.add]

theorem takeDocument_of_outlasts {pass : Pass} {bytes : List UInt8}
    (h : pass.Outlasts (readDocument bytes)) :
    pass.takeDocument bytes = pass.through 1 (readDocument bytes) := by
  have houtlasts : pass.opening.Outlasts (readDocument bytes) := h
  have hread := takeResults_append houtlasts []
  rw [List.append_nil] at hread
  exact takeDocument_eq hread

theorem takeDocument_of_break {pass : Pass} {bytes : List UInt8}
    {front back : List (Except ReadError Descriptor)} {d : Descriptor}
    (hread : readDocument bytes = front ++ .ok d :: back)
    (hleft : pass.left = some ((wellFormed front).length + 1)) :
    pass.takeDocument bytes = pass.through 1 (front ++ [.ok d]) := by
  have houtlasts : pass.opening.Outlasts front := by
    intro n hn
    cases hn.symm.trans hleft
    exact Nat.lt_succ_self _
  apply takeDocument_eq
  rw [hread, takeResults_append houtlasts, takeResults_last, through_through]
  simp [opening, through, hleft]

/-! ### Documents one by one -/

/-- Takes the documents of a full pass until no more descriptors are wanted. -/
def takeAll (pass : Pass) : List Outcome → Except IoError Pass
  | [] => .ok pass
  | .error e :: _ => .error e
  | .ok bytes :: rest =>
    let pass := pass.takeDocument bytes
    if pass.isOver then .ok pass else takeAll pass rest

theorem takeAll_append {pass : Pass} {bodies : List (List UInt8)}
    (h : pass.Outlasts (bodies.flatMap readDocument)) (rest : List Outcome) :
    pass.takeAll (bodies.map .ok ++ rest) =
      (pass.through bodies.length (bodies.flatMap readDocument)).takeAll rest := by
  -- More is wanted after each document, so the pass goes on from what it leaves.
  induction bodies generalizing pass with
  | nil =>
      change _ = (pass.through 0 []).takeAll rest
      rw [through_nil]
      rfl
  | cons bytes bodies ih =>
      rw [List.flatMap_cons] at h
      rw [List.map_cons, List.cons_append, takeAll, takeDocument_of_outlasts h.of_append,
        h.of_append.isOver 1]
      change takeAll _ _ = _
      rw [ih (h.through 1), through_through, List.flatMap_cons, List.length_cons, Nat.add_comm]

/-! ### The readers -/

theorem takeFile_eq (pass : Pass) (formats : Formats) (files : Files) (path : String) :
    pass.takeFile formats files path = (opened formats files path).map pass.takeDocument := by
  rw [takeFile, opened_eq]
  cases files.read path with
  | error e => rfl
  | ok content =>
      simp only [bind, Except.bind, compressed_iff]
      split
      next => cases formats.gunzip content.data <;> rfl
      next => rfl

theorem takeFile_eq_takeAll (pass : Pass) (formats : Formats) (files : Files) (path : String) :
    pass.takeFile formats files path = pass.takeAll [opened formats files path] := by
  rw [takeFile_eq]
  cases opened formats files path with
  | error e => rfl
  | ok bytes => exact (ite_self _).symm

theorem takeWalk_eq_takeAll (pass : Pass) (formats : Formats) (files : Files)
    (walked : List (Except IoError String)) :
    pass.takeWalk formats files walked = pass.takeAll (walked.map (met formats files)) := by
  induction walked generalizing pass with
  | nil => rfl
  | cons step walked ih =>
      cases step with
      | error e => rfl
      | ok path =>
          rw [takeWalk, takeFile_eq, List.map_cons]
          change _ = takeAll pass (opened formats files path :: _)
          cases opened formats files path with
          | error e => rfl
          | ok bytes =>
              change (if (pass.takeDocument bytes).isOver then _ else _) = _
              rw [ih]
              rfl

theorem takeEntries_eq_takeAll (pass : Pass) (fault : Option IoError)
    (entries : List ArchiveEntry) :
    pass.takeEntries fault entries =
      pass.takeAll ((entries.filter (·.kind = .file)).map (.ok ·.body) ++
        fault.toList.map .error) := by
  induction entries generalizing pass with
  | nil => cases fault <;> rfl
  | cons entry entries ih =>
      rw [takeEntries, List.filter_cons]
      by_cases hkind : entry.kind = .file
      · simp only [hkind, if_true, decide_true, ih]
        rfl
      · simp only [hkind, if_false, decide_false, ih]
        rfl

theorem takeArchive_eq_takeAll (pass : Pass) (formats : Formats) (files : Files)
    (path : String) :
    pass.takeArchive formats files path = pass.takeAll (members formats files path) := by
  rw [takeArchive, members_eq]
  cases files.read path with
  | error e => rfl
  | ok content => exact pass.takeEntries_eq_takeAll _ _

end Pass

theorem exists_fullPass (formats : Formats) (files : Files) (root : String) :
    ∃ docs, FullPass formats files root docs ∧ ∀ limit : Option Nat,
      read formats files root limit = Pass.takeAll { left := limit.map (max 1) } docs := by
  by_cases hroot : ∃ place, files.get root = .ok (place, .directory)
  · obtain ⟨place, hroot⟩ := hroot
    obtain ⟨visits, htour, hvisits⟩ := exists_tour formats files [] root place
    refine ⟨_, .directory hroot htour, fun limit => ?_⟩
    rw [read, hroot, ← hvisits]
    exact Pass.takeWalk_eq_takeAll _ _ _ _
  · have hfile : ∀ place, files.get root ≠ .ok (place, .directory) := not_exists.mp hroot
    have hread : ∀ limit : Option Nat, read formats files root limit =
        let pass : Pass := { left := limit.map (max 1) }
        if isArchive root then pass.takeArchive formats files root
        else pass.takeFile formats files root := by
      intro limit
      rw [read]
      split
      next place hdirectory => exact absurd hdirectory (hfile place)
      next => rfl
    by_cases harchive : Archived root
    · refine ⟨_, .archive hfile harchive, fun limit => ?_⟩
      rw [hread, archived_iff.mp harchive]
      exact Pass.takeArchive_eq_takeAll _ _ _ _
    · refine ⟨_, .file hfile harchive, fun limit => ?_⟩
      rw [hread, eq_false_of_ne_true (mt archived_iff.mpr harchive)]
      exact Pass.takeFile_eq_takeAll _ _ _ _

/-- Whatever a source is, reading it is the loop over its full pass. -/
theorem read_eq_takeAll {formats : Formats} {files : Files} {root : String} {docs : List Outcome}
    (h : FullPass formats files root docs) (limit : Option Nat) :
    read formats files root limit = Pass.takeAll { left := limit.map (max 1) } docs := by
  obtain ⟨docs', hdocs', hread⟩ := exists_fullPass formats files root
  rw [hread, h.unique hdocs']

end RelaySnapshot.Source
