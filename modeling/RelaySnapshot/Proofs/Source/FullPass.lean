import Mathlib.Data.List.Nodup
import Mathlib.Data.String.Basic
import RelaySnapshot.Proofs.Text.Cutting
import RelaySnapshot.Source

/-!
# What there is to read in a source

The full pass over a source is the sequence of its documents, with the errors among them: the one
document of a file, the regular files of an archive as they follow one another, or the files below a
directory. The trail to such a file consists of the names that lead to it, and files come in the
order of their trails, which is depth first and in each directory by name.
-/

namespace RelaySnapshot

namespace FileTree

variable {α : Type}

theorem eq_append_of_name {place p : Place} {name : String}
    (h : name ∈ if p.dropLast == place then p.getLast? else none) : p = place ++ [name] := by
  by_cases hplace : (p.dropLast == place) = true
  · rw [if_pos hplace] at h
    rw [← List.dropLast_append_getLast? name h, beq_iff_eq.mp hplace]
  · rw [if_neg hplace] at h
    cases h

theorem mem_names {tree : FileTree α} {place : Place} {name : String} :
    name ∈ tree.names place ↔ ∃ node, tree.find? (place ++ [name]) = some node := by
  have hne : (place ++ [name]).isEmpty = false := by simp
  rw [names, List.mem_mergeSort, List.mem_filterMap, find?, hne, if_neg Bool.false_ne_true]
  constructor
  · rintro ⟨⟨p, node⟩, hmem, hname⟩
    dsimp only at hname
    split_ifs at hname with hplace
    have hp : p = place ++ [name] := eq_append_of_name (by rwa [if_pos hplace])
    cases hlookup : tree.entries.lookup (place ++ [name]) with
    | some found => exact ⟨found, rfl⟩
    | none =>
        have hother := List.lookup_eq_none_iff.mp hlookup _ hmem
        exact absurd hp (Ne.symm (bne_iff_ne.mp hother))
  · rintro ⟨node, hnode⟩
    obtain ⟨before, after, hentries, -⟩ := List.lookup_eq_some_iff.mp hnode
    refine ⟨(place ++ [name], node), ?_, by simp⟩
    rw [hentries]
    simp

/-- A directory has each name once, in ascending order. -/
theorem names_ascending (tree : FileTree α) (place : Place) :
    (tree.names place).Pairwise (· < ·) := by
  have hsorted : (tree.names place).Pairwise fun a b => decide (a ≤ b) = true := by
    apply List.pairwise_mergeSort
    · intro a b c hab hbc
      exact decide_eq_true (le_trans (of_decide_eq_true hab) (of_decide_eq_true hbc))
    · intro a b
      rw [Bool.or_eq_true, decide_eq_true_iff, decide_eq_true_iff]
      exact le_total a b
  have hdistinct : (tree.names place).Nodup := by
    rw [names, (List.mergeSort_perm _ _).nodup_iff]
    change (tree.entries.filterMap ((fun p : Place =>
      if p.dropLast == place then p.getLast? else none) ∘ Prod.fst)).Nodup
    rw [← List.filterMap_map]
    -- A name and the directory it is in make up a place, so no name comes from two entries.
    apply tree.distinct.filterMap
    intro p q name hp hq
    rw [eq_append_of_name hp, eq_append_of_name hq]
  exact (hsorted.and hdistinct).imp fun ⟨hle, hne⟩ => lt_of_le_of_ne (of_decide_eq_true hle) hne

end FileTree

namespace Path

/-- The last name of a path is the last of its parts that does more than say that it is there. -/
def EndsIn (path name : String) : Prop :=
  ∃ front idle, components path = front ++ name :: idle ∧
    (∀ part ∈ idle, part = "" ∨ part = ".") ∧ name ≠ "" ∧ name ≠ "." ∧ name ≠ ".."

theorem fileName?_eq_some_iff {path name : String} :
    fileName? path = some name ↔ EndsIn path name := by
  have hlast : (((components path).filter fun part => part != "" && part != ".").getLast? =
      some name) ↔ ∃ front idle, components path = front ++ name :: idle ∧
        (∀ part ∈ idle, part = "" ∨ part = ".") ∧ name ≠ "" ∧ name ≠ "." := by
    rw [List.getLast?_eq_some_iff]
    constructor
    · rintro ⟨before, hfilter⟩
      obtain ⟨front, last, hparts, -, hlast⟩ := List.filter_eq_append_iff.mp hfilter
      obtain ⟨idle, idle', rfl, hidle, hname, hidle'⟩ := List.filter_eq_cons_iff.mp hlast
      refine ⟨front ++ idle, idle', by rw [hparts, List.append_assoc], fun part hpart => ?_, ?_⟩
      · have hgone := List.filter_eq_nil_iff.mp hidle' part hpart
        simpa [Decidable.imp_iff_not_or] using hgone
      · simpa using hname
    · rintro ⟨front, idle, hparts, hidle, hempty, hdot⟩
      refine ⟨front.filter fun part => part != "" && part != ".", ?_⟩
      have hgone : idle.filter (fun part => part != "" && part != ".") = [] := by
        rw [List.filter_eq_nil_iff]
        intro part hpart
        simpa [Decidable.imp_iff_not_or] using hidle part hpart
      rw [hparts, List.filter_append, List.filter_cons, hgone]
      simp [hempty, hdot]
  rw [fileName?, EndsIn]
  split
  next hdots =>
    rw [hdots] at hlast
    constructor
    · intro h
      cases h
    · rintro ⟨front, idle, hparts, hidle, hempty, hdot, hname⟩
      exact absurd (Option.some.inj (hlast.mpr ⟨front, idle, hparts, hidle, hempty, hdot⟩)).symm
        hname
  next hnodots =>
    rw [hlast]
    constructor
    · intro h
      have hname : name ≠ ".." := fun hdots => hnodots (hdots ▸ hlast.mpr h)
      obtain ⟨front, idle, hparts, hidle, hempty, hdot⟩ := h
      exact ⟨front, idle, hparts, hidle, hempty, hdot, hname⟩
    · rintro ⟨front, idle, hparts, hidle, hempty, hdot, -⟩
      exact ⟨front, idle, hparts, hidle, hempty, hdot⟩

theorem extension?_eq_gz_iff {name : String} :
    extension? name = some "gz" ↔ ∃ front, front ≠ "" ∧ name = front ++ ".gz" := by
  rw [extension?]
  have hnames (front : String) : (front ++ ".gz").toList.reverse =
      'z' :: 'g' :: '.' :: front.toList.reverse := by
    simp
  constructor
  · intro h
    have hsplit := List.takeWhile_append_dropWhile (p := (· != '.')) (l := name.toList.reverse)
    rcases hdrop : name.toList.reverse.dropWhile (· != '.') with _ | ⟨dot, _ | ⟨c, rest⟩⟩
    · simp [hdrop] at h
    · simp [hdrop] at h
    · have hafter : name.toList.reverse.takeWhile (· != '.') = ['z', 'g'] := by
        simp only [hdrop, Option.some.injEq] at h
        rw [← List.reverse_inj, ← String.ofList_inj, h]
        rfl
      have hdot : dot = '.' := by
        have hne : name.toList.reverse.dropWhile (· != '.') ≠ [] := by simp [hdrop]
        simpa [hdrop] using List.head_dropWhile_not (· != '.') hne
      refine ⟨String.ofList (c :: rest).reverse, by simp, ?_⟩
      rw [← String.toList_inj, ← List.reverse_inj, hnames, ← hsplit, hafter, hdrop, hdot]
      simp
  · rintro ⟨front, hfront, rfl⟩
    rw [hnames]
    obtain ⟨c, rest, hrest⟩ : ∃ c rest, front.toList.reverse = c :: rest :=
      List.exists_cons_of_ne_nil (by simpa using hfront)
    rw [hrest]
    rfl

theorem endsWith_iff {suffix name : String} :
    endsWith suffix name = true ↔ ∃ front, name = front ++ suffix := by
  rw [endsWith, Text.startsWith_iff, List.reverse_prefix]
  constructor
  · rintro ⟨front, hname⟩
    exact ⟨String.ofList front, by rw [← String.toList_inj, ← hname]; simp⟩
  · rintro ⟨front, rfl⟩
    exact ⟨front.toList, by simp⟩

end Path

namespace Source

def Compressed (path : String) : Prop :=
  ∃ front, front ≠ "" ∧ Path.EndsIn path (front ++ ".gz")

def Archived (path : String) : Prop :=
  ∃ front, Path.EndsIn path (front ++ ".tar.xz")

theorem compressed_iff {path : String} :
    Compressed path ↔ (Path.fileName? path).bind Path.extension? = some "gz" := by
  simp only [Option.bind_eq_some_iff, Path.fileName?_eq_some_iff, Path.extension?_eq_gz_iff,
    Compressed]
  constructor
  · rintro ⟨front, hfront, hname⟩
    exact ⟨_, hname, front, hfront, rfl⟩
  · rintro ⟨_, hname, front, hfront, rfl⟩
    exact ⟨front, hfront, hname⟩

theorem archived_iff {path : String} : Archived path ↔ isArchive path = true := by
  have hname : isArchive path = true ↔
      ∃ name, Path.fileName? path = some name ∧ Path.endsWith ".tar.xz" name = true := by
    rw [isArchive]
    cases Path.fileName? path <;> simp
  simp only [hname, Path.fileName?_eq_some_iff, Path.endsWith_iff, Archived]
  constructor
  · rintro ⟨front, hends⟩
    exact ⟨_, hends, front, rfl⟩
  · rintro ⟨_, hends, front, rfl⟩
    exact ⟨front, hends⟩

instance (path : String) : Decidable (Compressed path) :=
  decidable_of_iff _ compressed_iff.symm

instance (path : String) : Decidable (Archived path) :=
  decidable_of_iff _ archived_iff.symm

/-- A document, or why there is none. -/
abbrev Outcome := Except IoError (List UInt8)

/--
The document in one file: its bytes as they stand, or what a reader of compressed files makes of
them.
-/
def opened (formats : Formats) (files : Files) (path : String) : Outcome :=
  match files.get path with
  | .ok (_, .file (.bytes data)) | .ok (_, .file (.database data _)) =>
    if Compressed path then formats.gunzip data else .ok data
  | .ok _ => .error .isADirectory
  | .error e => .error e

/-- The documents in an archive, one for each regular file, and what is wrong after them. -/
def members (formats : Formats) (files : Files) (path : String) : List Outcome :=
  match files.get path with
  | .ok (_, .file (.bytes data)) | .ok (_, .file (.database data _)) =>
    ((formats.entries data).1.filter (·.kind = .file)).map (.ok ·.body) ++
      (formats.entries data).2.toList.map .error
  | .ok _ => [.error .isADirectory]
  | .error e => [.error e]

/-- What the node at a place leads to, by itself or as a link. -/
inductive LeadsTo (files : Files) (walked : List (Place × String)) (path : String) (place : Place) :
    Lead → Prop where
  | file {content} (hnode : files.find? place = some (.file content)) :
      LeadsTo files walked path place .file
  | directory {there} (hnode : files.find? place = some .directory)
      (hthere : files.get path = .ok there) : LeadsTo files walked path place (.directory place)
  | linkedFile {target there content} (hnode : files.find? place = some (.link target))
      (hthere : files.get path = .ok (there, .file content)) : LeadsTo files walked path place .file
  | linkedDirectory {target there} (hnode : files.find? place = some (.link target))
      (hthere : files.get path = .ok (there, .directory))
      (hnew : ∀ ancestor, (there, ancestor) ∉ walked) :
      LeadsTo files walked path place (.directory there)
  /-- The way leads back to a directory that is being walked. -/
  | loop {target there inner ancestor outer} (hnode : files.find? place = some (.link target))
      (hthere : files.get path = .ok (there, .directory))
      (hwalked : walked = inner ++ (there, ancestor) :: outer)
      (hnew : ∀ ancestor, (there, ancestor) ∉ inner) :
      LeadsTo files walked path place (.failure (.linkLoop path ancestor))
  | lost {node e} (hnode : files.find? place = some node) (hfile : ∀ content, node ≠ .file content)
      (hthere : files.get path = .error e) :
      LeadsTo files walked path place (.failure (.walk path e))

/-- A trail of names leads from a directory to a document or to an error. -/
inductive Leads (formats : Formats) (files : Files) :
    List (Place × String) → String → Place → List String → Outcome → Prop where
  | file {above path place name}
      (hlead : LeadsTo files ((place, path) :: above) (Path.join path name) (place ++ [name])
        .file) :
      Leads formats files above path place [name] (opened formats files (Path.join path name))
  | failure {above path place name e}
      (hlead : LeadsTo files ((place, path) :: above) (Path.join path name) (place ++ [name])
        (.failure e)) :
      Leads formats files above path place [name] (.error e)
  | deeper {above path place name target trail outcome}
      (hlead : LeadsTo files ((place, path) :: above) (Path.join path name) (place ++ [name])
        (.directory target))
      (htrail : Leads formats files ((place, path) :: above) (Path.join path name) target trail
        outcome) :
      Leads formats files above path place (name :: trail) outcome

/-- All that is met below a directory, in the order of the trails that lead to it. -/
structure Tour (formats : Formats) (files : Files) (above : List (Place × String))
    (path : String) (place : Place) (visits : List (List String × Outcome)) : Prop where
  ascending : visits.Pairwise (·.1 < ·.1)
  complete : ∀ trail outcome,
    (trail, outcome) ∈ visits ↔ Leads formats files above path place trail outcome

/-- The documents of a source in the order in which they are to be read, with the errors. -/
inductive FullPass (formats : Formats) (files : Files) (root : String) : List Outcome → Prop where
  | directory {place visits} (hroot : files.get root = .ok (place, .directory))
      (htour : Tour formats files [] root place visits) :
      FullPass formats files root (visits.map Prod.snd)
  | archive (hroot : ∀ place, files.get root ≠ .ok (place, .directory))
      (harchive : Archived root) : FullPass formats files root (members formats files root)
  | file (hroot : ∀ place, files.get root ≠ .ok (place, .directory))
      (harchive : ¬Archived root) : FullPass formats files root [opened formats files root]

theorem Tour.unique {formats : Formats} {files : Files} {above : List (Place × String)}
    {path : String} {place : Place} {visits visits' : List (List String × Outcome)}
    (h : Tour formats files above path place visits)
    (h' : Tour formats files above path place visits') : visits = visits' := by
  have hirrefl : ∀ x y : List String × Outcome, x.1 < y.1 → x ≠ y := by
    rintro x _ hlt rfl
    exact lt_irrefl _ hlt
  have hmem : ∀ visit, visit ∈ visits ↔ visit ∈ visits' := by
    rintro ⟨trail, outcome⟩
    rw [h.complete, h'.complete]
  -- The same visits in the same strict order are the same list.
  have hperm : visits.Perm visits' :=
    (List.perm_ext_iff_of_nodup (h.ascending.imp (hirrefl _ _))
      (h'.ascending.imp (hirrefl _ _))).mpr hmem
  apply hperm.eq_of_pairwise _ h.ascending h'.ascending
  intro x y _ _ hxy hyx
  exact absurd (lt_trans hxy hyx) (lt_irrefl _)

theorem FullPass.unique {formats : Formats} {files : Files} {root : String}
    {docs docs' : List Outcome} (h : FullPass formats files root docs)
    (h' : FullPass formats files root docs') : docs = docs' := by
  cases h with
  | directory hroot htour =>
      cases h' with
      | directory hroot' htour' =>
          obtain ⟨rfl, -⟩ := Prod.mk.inj (Except.ok.inj (hroot.symm.trans hroot'))
          rw [htour.unique htour']
      | archive hroot' => exact absurd hroot (hroot' _)
      | file hroot' => exact absurd hroot (hroot' _)
  | archive hroot harchive =>
      cases h' with
      | directory hroot' => exact absurd hroot' (hroot _)
      | archive => rfl
      | file _ harchive' => exact absurd harchive harchive'
  | file hroot harchive =>
      cases h' with
      | directory hroot' => exact absurd hroot' (hroot _)
      | archive _ harchive' => exact absurd harchive' harchive
      | file => rfl

/-! ### Walks -/

/-- What a name leads to in a directory that is walked. -/
def leadAt (files : Files) (above : List (Place × String)) (path : String) (place : Place)
    (name : String) : Lead :=
  lead files ((place, path) :: above) (Path.join path name) (place ++ [name])

theorem lead_eq_of_leadsTo {files : Files} {walked : List (Place × String)} {path : String}
    {place : Place} {way : Lead} (h : LeadsTo files walked path place way) :
    lead files walked path place = way := by
  cases h with
  | file hnode => rw [lead, hnode]
  | directory hnode hthere => simp only [lead, hnode, hthere]
  | linkedFile hnode hthere => simp only [lead, hnode, hthere]
  | @linkedDirectory target there hnode hthere hnew =>
      have hlookup : walked.lookup there = none := by
        rw [List.lookup_eq_none_iff]
        rintro ⟨place', ancestor⟩ hmem
        rw [bne_iff_ne]
        rintro rfl
        exact hnew ancestor hmem
      simp only [lead, hnode, hthere, hlookup]
  | @loop target there inner ancestor outer hnode hthere hwalked hnew =>
      have hlookup : walked.lookup there = some ancestor := by
        refine List.lookup_eq_some_iff.mpr ⟨inner, outer, hwalked, ?_⟩
        rintro ⟨place', ancestor'⟩ hmem
        rw [bne_iff_ne]
        rintro rfl
        exact hnew ancestor' hmem
      simp only [lead, hnode, hthere, hlookup]
  | @lost node e hnode hfile hthere =>
      cases node with
      | file content => exact absurd rfl (hfile content)
      | directory => simp only [lead, hnode, hthere]
      | link target => simp only [lead, hnode, hthere]

theorem leadsTo_lead {files : Files} {walked : List (Place × String)} {path : String}
    {place : Place} (h : lead files walked path place ≠ .nothing) :
    LeadsTo files walked path place (lead files walked path place) := by
  unfold lead at h ⊢
  split
  next hnode => exact .file hnode
  next hnode =>
    split
    next hthere => exact .directory hnode hthere
    next hthere => exact .lost hnode (by simp) hthere
  next hnode =>
    split
    next hthere => exact .linkedFile hnode hthere
    next hthere =>
      split
      next hlookup =>
        obtain ⟨inner, outer, hwalked, hnew⟩ := List.lookup_eq_some_iff.mp hlookup
        exact .loop hnode hthere hwalked fun ancestor hmem => by simpa using hnew _ hmem
      next hlookup =>
        refine .linkedDirectory hnode hthere fun ancestor hmem => ?_
        simpa using List.lookup_eq_none_iff.mp hlookup _ hmem
    next hthere => simp_all
    next hthere => exact .lost hnode (by simp) hthere
  next => simp_all

theorem mem_names_of_leadsTo {files : Files} {walked : List (Place × String)} {path : String}
    {place : Place} {name : String} {way : Lead}
    (h : LeadsTo files walked path (place ++ [name]) way) :
    name ∈ files.names place := by
  rw [FileTree.mem_names]
  cases h with
  | file hnode | directory hnode | linkedFile hnode | linkedDirectory hnode | loop hnode
  | lost hnode => exact ⟨_, hnode⟩

/-- What a trail leads to that goes on after `name`. -/
def Through (formats : Formats) (files : Files) (above : List (Place × String))
    (path : String) (place : Place) (name : String)
    (rest : List String) (outcome : Outcome) : Prop :=
  match leadAt files above path place name with
  | .nothing => False
  | .file => rest = [] ∧ outcome = opened formats files (Path.join path name)
  | .directory target =>
    Leads formats files ((place, path) :: above) (Path.join path name) target rest outcome
  | .failure e => rest = [] ∧ outcome = .error e

section Walk

variable {formats : Formats} {files : Files} {above : List (Place × String)} {path : String}
  {place : Place}

theorem leads_iff {trail : List String} {outcome : Outcome} :
    Leads formats files above path place trail outcome ↔ ∃ name ∈ files.names place, ∃ rest,
      trail = name :: rest ∧ Through formats files above path place name rest outcome := by
  constructor
  · intro h
    cases h with
    | @file _ _ _ name hlead =>
        refine ⟨name, mem_names_of_leadsTo hlead, [], rfl, ?_⟩
        rw [Through, leadAt, lead_eq_of_leadsTo hlead]
        exact ⟨rfl, rfl⟩
    | @failure _ _ _ name _ hlead =>
        refine ⟨name, mem_names_of_leadsTo hlead, [], rfl, ?_⟩
        rw [Through, leadAt, lead_eq_of_leadsTo hlead]
        exact ⟨rfl, rfl⟩
    | @deeper _ _ _ name _ rest _ hlead htrail =>
        refine ⟨name, mem_names_of_leadsTo hlead, rest, rfl, ?_⟩
        rw [Through, leadAt, lead_eq_of_leadsTo hlead]
        exact htrail
  · rintro ⟨name, -, rest, rfl, h⟩
    have hlead : leadAt files above path place name ≠ .nothing →
        LeadsTo files ((place, path) :: above) (Path.join path name) (place ++ [name])
          (leadAt files above path place name) := leadsTo_lead
    rw [Through] at h
    split at h
    next => exact h.elim
    next hway =>
      obtain ⟨rfl, rfl⟩ := h
      rw [hway] at hlead
      exact .file (hlead (by simp))
    next hway =>
      rw [hway] at hlead
      exact .deeper (hlead (by simp)) h
    next hway =>
      obtain ⟨rfl, rfl⟩ := h
      rw [hway] at hlead
      exact .failure (hlead (by simp))

theorem leads_cons_iff {name : String} {rest : List String} {outcome : Outcome} :
    Leads formats files above path place (name :: rest) outcome ↔
      name ∈ files.names place ∧ Through formats files above path place name rest outcome := by
  rw [leads_iff]
  constructor
  · rintro ⟨_, hname, _, hcons, hthrough⟩
    cases hcons
    exact ⟨hname, hthrough⟩
  · rintro ⟨hname, hthrough⟩
    exact ⟨name, hname, rest, rfl, hthrough⟩

/-- In a directory of files one comes by each of them. -/
theorem tour_of_files {names : List String} (hnames : files.names place = names)
    (hfiles : ∀ name ∈ names, leadAt files above path place name = .file) :
    Tour formats files above path place
      (names.map fun name => ([name], opened formats files (Path.join path name))) := by
  subst hnames
  refine ⟨?ascending, fun trail outcome => ?complete⟩
  case ascending =>
    rw [List.pairwise_map]
    exact (FileTree.names_ascending files place).imp List.Lex.rel
  case complete =>
    rw [leads_iff, List.mem_map]
    refine exists_congr fun name => and_congr_right fun hname => ?_
    rw [Prod.mk.injEq]
    constructor
    · rintro ⟨rfl, rfl⟩
      refine ⟨[], rfl, ?_⟩
      rw [Through, hfiles name hname]
      exact ⟨rfl, rfl⟩
    · rintro ⟨rest, rfl, hthrough⟩
      rw [Through, hfiles name hname] at hthrough
      obtain ⟨rfl, rfl⟩ := hthrough
      exact ⟨rfl, rfl⟩

def met (formats : Formats) (files : Files) (step : Except IoError String) : Outcome :=
  step.bind (opened formats files)

def steps (files : Files) (walked : List (Place × String)) (path : String) :
    Lead → List (Except IoError String)
  | .nothing => []
  | .file => [.ok path]
  | .directory target => walk files walked path target
  | .failure e => [.error e]

theorem walk_eq (files : Files) (above : List (Place × String)) (path : String) (place : Place) :
    walk files above path place = (files.names place).flatMap fun name =>
      steps files ((place, path) :: above) (Path.join path name)
        (leadAt files above path place name) := by
  rw [walk]
  congr 1
  funext name
  dsimp only
  split
  next hlead => rw [leadAt, hlead, steps]
  next hlead => rw [leadAt, hlead, steps]
  next hlead => rw [leadAt, hlead, steps]
  next hlead => rw [leadAt, hlead, steps]

/-- All that is met by trails that begin with one name. -/
structure Branch (formats : Formats) (files : Files) (above : List (Place × String))
    (path : String) (place : Place) (name : String)
    (visits : List (List String × Outcome)) : Prop where
  ascending : visits.Pairwise (·.1 < ·.1)
  complete : ∀ trail outcome, (trail, outcome) ∈ visits ↔ ∃ rest,
    trail = name :: rest ∧ Through formats files above path place name rest outcome

theorem exists_branch (name : String)
    (htours : ∀ target, leadAt files above path place name = .directory target →
      ∃ visits, Tour formats files ((place, path) :: above) (Path.join path name) target visits ∧
        (walk files ((place, path) :: above) (Path.join path name) target).map (met formats files) =
          visits.map Prod.snd) :
    ∃ visits, Branch formats files above path place name visits ∧
      (steps files ((place, path) :: above) (Path.join path name)
        (leadAt files above path place name)).map (met formats files) = visits.map Prod.snd := by
  cases hlead : leadAt files above path place name with
  | nothing =>
      refine ⟨[], ⟨.nil, ?_⟩, rfl⟩
      intro trail outcome
      simp [Through, hlead]
  | file =>
      refine ⟨[([name], opened formats files (Path.join path name))],
        ⟨List.pairwise_singleton _ _, ?_⟩, rfl⟩
      intro trail outcome
      simp [Through, hlead]
  | failure e =>
      refine ⟨[([name], .error e)], ⟨List.pairwise_singleton _ _, ?_⟩, rfl⟩
      intro trail outcome
      simp [Through, hlead]
  | directory target =>
      obtain ⟨visits, htour, hvisits⟩ := htours target hlead
      refine ⟨visits.map fun visit => (name :: visit.1, visit.2), ⟨?_, ?_⟩, ?_⟩
      · apply htour.ascending.map
        intro x y hxy
        exact List.cons_lt_cons_iff.mpr (.inr ⟨rfl, hxy⟩)
      · intro trail outcome
        simp only [Through, hlead, ← htour.complete]
        constructor
        · intro h
          obtain ⟨⟨rest, outcome⟩, hmem, heq⟩ := List.mem_map.mp h
          obtain ⟨rfl, rfl⟩ := Prod.mk.inj heq
          exact ⟨rest, rfl, hmem⟩
        · rintro ⟨rest, rfl, hmem⟩
          exact List.mem_map.mpr ⟨_, hmem, rfl⟩
      · rw [steps, hvisits, List.map_map]
        rfl

/-- A walk comes by everything below a directory, in the order of the trails. -/
theorem exists_tour (formats : Formats) (files : Files) (above : List (Place × String))
    (path : String) (place : Place) :
    ∃ visits, Tour formats files above path place visits ∧
      (walk files above path place).map (met formats files) = visits.map Prod.snd := by
  induction above, path, place using walk.induct files with
  | case1 above path place ih =>
      choose visits hbranch hvisits using fun name => exists_branch name (ih name)
      refine ⟨(files.names place).flatMap visits, ⟨?_, ?_⟩, ?_⟩
      -- Trails that begin with different names are ordered as the names are.
      · refine List.pairwise_flatMap.mpr ⟨fun name _ => (hbranch name).ascending, ?_⟩
        apply (files.names_ascending place).imp
        intro a b hab x hx y hy
        obtain ⟨_, hxa, -⟩ := ((hbranch a).complete x.1 x.2).mp hx
        obtain ⟨_, hyb, -⟩ := ((hbranch b).complete y.1 y.2).mp hy
        rw [hxa, hyb]
        exact List.cons_lt_cons_iff.mpr (.inl hab)
      · intro trail outcome
        rw [List.mem_flatMap, leads_iff]
        exact exists_congr fun name => and_congr_right fun _ => (hbranch name).complete _ _
      · rw [walk_eq, List.map_flatMap, List.map_flatMap]
        exact congrArg (files.names place).flatMap (funext hvisits)

end Walk

end Source

end RelaySnapshot
