import RelaySnapshot.Content
import RelaySnapshot.Descriptor.Block
import RelaySnapshot.Text.Utf8

/-!
# Sources

Where descriptors are read from: a document, a compressed document, an archive of documents, or a
directory of documents, which is walked in the order of file names. Malformed descriptors are
counted and passed over.
-/

namespace RelaySnapshot

/-- How much has been read: documents, descriptors handed on, and malformed ones. -/
structure Stats where
  documents : Nat := 0
  descriptors : Nat := 0
  malformed : Nat := 0
  deriving DecidableEq, Repr

def Stats.add (a b : Stats) : Stats :=
  ⟨a.documents + b.documents, a.descriptors + b.descriptors, a.malformed + b.malformed⟩

namespace Source

def readDocument (bytes : List UInt8) : List (Except Descriptor.ReadError Descriptor) :=
  Descriptor.readAll (Utf8.decodeLossy bytes)

/-! ### Walking a directory -/

/-- The number of places where no walk is under way. -/
def unwalked (places walked : List Place) : Nat :=
  places.countP (· ∉ walked)

theorem unwalked_cons_le (places walked : List Place) (place : Place) :
    unwalked places (place :: walked) ≤ unwalked places walked := by
  apply List.countP_mono_left
  intro p _ hp
  exact decide_eq_true (mt (List.mem_cons_of_mem place) (of_decide_eq_true hp))

theorem unwalked_cons_lt {places walked : List Place} {place : Place}
    (hplace : place ∈ places) (hnew : place ∉ walked) :
    unwalked places (place :: walked) < unwalked places walked := by
  obtain ⟨before, after, rfl⟩ := List.append_of_mem hplace
  have hbefore := unwalked_cons_le before walked place
  have hafter := unwalked_cons_le after walked place
  have hleft : ([place] : List Place).countP (· ∉ walked) = 1 :=
    List.countP_singleton.trans (if_pos (decide_eq_true hnew))
  have hgone : ([place] : List Place).countP (· ∉ place :: walked) = 0 := by
    simp
  simp only [unwalked, List.append_cons before place after, List.countP_append]
    at hbefore hafter ⊢
  omega

inductive Lead where
  | nothing
  | file
  | directory (place : Place)
  | failure (e : IoError)
  deriving DecidableEq, Repr

/--
What the name at a place leads to, which the walk comes to by `path`. A link leads to a file or a
directory like a name does, but not back to a directory that is being walked, the innermost of which
comes first in `walked`.
-/
def lead (files : Files) (walked : List (Place × String)) (path : String) (place : Place) : Lead :=
  match files.find? place with
  | some (.file _) => .file
  | some .directory =>
    match files.get path with
    | .ok _ => .directory place
    | .error e => .failure (.walk path e)
  | some (.link _) =>
    match files.get path with
    | .ok (_, .file _) => .file
    | .ok (target, .directory) =>
      match walked.lookup target with
      | some ancestor => .failure (.linkLoop path ancestor)
      | none => .directory target
    | .ok (_, .link _) => .nothing
    | .error e => .failure (.walk path e)
  | none => .nothing

/-- A directory that a name leads to is there, and it is below the name or not walked yet. -/
theorem lead_directory {files : Files} {walked : List (Place × String)} {path : String}
    {place target : Place} (h : lead files walked path place = .directory target) :
    target ∈ files.places ∧ (target = place ∨ target ∉ walked.map Prod.fst) := by
  rw [lead] at h
  split at h
  next => cases h
  next hnode =>
    split at h
    next =>
      cases h
      exact ⟨FileTree.mem_places hnode, .inl rfl⟩
    next => cases h
  next =>
    split at h
    next => cases h
    next htarget =>
      split at h
      next => cases h
      next hloop =>
        cases h
        refine ⟨FileTree.mem_places (FileTree.find?_of_get htarget), .inr ?_⟩
        intro hwalked
        obtain ⟨entry, hentry, rfl⟩ := List.mem_map.mp hwalked
        exact bne_iff_ne.mp (List.lookup_eq_none_iff.mp hloop entry hentry) rfl
    next => cases h
    next => cases h
  next => cases h

/-- The paths of the files in a directory and below it, with the errors that are met. -/
def walk (files : Files) (above : List (Place × String)) (path : String) (place : Place) :
    List (Except IoError String) :=
  (files.names place).flatMap fun name =>
    let inner := Path.join path name
    match _h : lead files ((place, path) :: above) inner (place ++ [name]) with
    | .nothing => []
    | .file => [.ok inner]
    | .directory target => walk files ((place, path) :: above) inner target
    | .failure e => [.error e]
termination_by
  (unwalked files.places (place :: above.map Prod.fst), files.height - place.length)
decreasing_by
  obtain ⟨hmem, rfl | hnew⟩ := lead_directory _h
  -- A name may lead into a directory that is walked already, but it leads down.
  · have hdepth := FileTree.length_le_height hmem
    have hle := unwalked_cons_le files.places (place :: above.map Prod.fst) (place ++ [name])
    rw [List.length_append, List.length_singleton] at hdepth
    rcases Nat.lt_or_eq_of_le hle with hlt | heq
    · exact Prod.Lex.left _ _ hlt
    · refine Prod.lex_def.mpr (.inr ⟨heq, ?_⟩)
      rw [List.length_append, List.length_singleton]
      omega
  · exact Prod.Lex.left _ _ (unwalked_cons_lt hmem hnew)

/-! ### Reading documents -/

/--
What a pass has handed on so far; `left` tells how many more descriptors are wanted, if it ends.
-/
structure Pass where
  stats : Stats := {}
  handed : List Descriptor := []
  left : Option Nat

namespace Pass

def isOver (pass : Pass) : Bool :=
  pass.left == some 0

/-- Takes the results of one document until no more are wanted. -/
def takeResults (pass : Pass) : List (Except Descriptor.ReadError Descriptor) → Pass
  | [] => pass
  | .error _ :: rest =>
    takeResults { pass with
      stats := { pass.stats with malformed := pass.stats.malformed + 1 } } rest
  | .ok d :: rest =>
    let pass : Pass := {
      stats := { pass.stats with descriptors := pass.stats.descriptors + 1 }
      handed := pass.handed ++ [d]
      left := pass.left.map (· - 1) }
    if pass.isOver then pass else takeResults pass rest

/-- Takes one document; what is counted in it is added to the counts in the end. -/
def takeDocument (pass : Pass) (bytes : List UInt8) : Pass :=
  let inner := takeResults { pass with stats := { documents := 1 } } (readDocument bytes)
  { inner with stats := pass.stats.add inner.stats }

/-- Takes the document in one file, which is compressed or not by its name. -/
def takeFile (pass : Pass) (formats : Formats) (files : Files) (path : String) :
    Except IoError Pass := do
  let content ← files.read path
  let bytes ←
    if (Path.fileName? path).bind Path.extension? = some "gz" then formats.gunzip content.data
    else pure content.data
  return pass.takeDocument bytes

/-- Takes the regular files among the entries of an archive, and meets what is wrong after them. -/
def takeEntries (pass : Pass) (fault : Option IoError) : List ArchiveEntry → Except IoError Pass
  | [] => match fault with
    | none => .ok pass
    | some e => .error e
  | entry :: rest =>
    if entry.kind = .file then
      let pass := pass.takeDocument entry.body
      if pass.isOver then .ok pass else takeEntries pass fault rest
    else takeEntries pass fault rest

def takeArchive (pass : Pass) (formats : Formats) (files : Files) (path : String) :
    Except IoError Pass := do
  let content ← files.read path
  let (entries, fault) := formats.entries content.data
  pass.takeEntries fault entries

def takeWalk (pass : Pass) (formats : Formats) (files : Files) :
    List (Except IoError String) → Except IoError Pass
  | [] => .ok pass
  | .error e :: _ => .error e
  | .ok path :: rest => do
    let pass ← pass.takeFile formats files path
    if pass.isOver then return pass else takeWalk pass formats files rest

end Pass

def isArchive (path : String) : Bool :=
  match Path.fileName? path with
  | some name => Path.endsWith ".tar.xz" name
  | none => false

/--
Reads a source, all of it or until `limit` descriptors have been handed on; nobody can want none of
them, so a limit of zero counts as one.
-/
def read (formats : Formats) (files : Files) (root : String) (limit : Option Nat) :
    Except IoError Pass :=
  let pass : Pass := { left := limit.map (max 1) }
  match files.get root with
  | .ok (place, .directory) => pass.takeWalk formats files (walk files [] root place)
  | _ =>
    if isArchive root then pass.takeArchive formats files root
    else pass.takeFile formats files root

/-- Reads a batch that is in memory already; it counts as one document. -/
def readBatch (batch : List Descriptor) (limit : Option Nat) : Pass :=
  let handed := match limit with
    | some n => batch.take (max 1 n)
    | none => batch
  { stats := ⟨1, handed.length, 0⟩, handed, left := limit.map fun n => max 1 n - handed.length }

end Source

end RelaySnapshot
