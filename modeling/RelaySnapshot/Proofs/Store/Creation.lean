import Mathlib.Data.List.TakeWhile
import RelaySnapshot.Proofs.FileTree.Paths
import RelaySnapshot.Store

/-!
# Creating a store

Where there is nothing, a store makes a file and gives it empty tables. It cannot do so without a
journal beside the file, which then stays without any bytes.
-/

namespace RelaySnapshot.Store

/-- The path is one by which a store names a file: none of the names for a store that has none. -/
structure NamesFile (path : String) : Prop where
  ne_empty : path ≠ ""
  ne_memory : path ≠ ":memory:"
  not_uri : ¬"file:".toList <+: path.toList

/-- The place of the file that a store is in. -/
def place? (files : Files) (path : String) : Option Place :=
  files.settle (maxPath - 1) 201 (files.origin path) (Path.components path)

/-- What a created store begins with: new tables, unless there have been tables at its place. -/
structure Begins (before : Files) (place : Place) (after : Files) (db : Database) : Prop where
  there : ∃ image, after.find? place = some (.file (.database image db))
  tables : after.find? place = before.find? place ∨
    db = .empty ∧ ∀ image db', before.find? place ≠ some (.file (.database image db'))

/-- What can come of the creation of a store where there seems to be nothing. -/
inductive Creates (files : Files) (path : String) : Except StoreError Store × Files → Prop where
  | refused {e} : Creates files path (.error e, files)
  /-- No tables can be written to the new file. -/
  | stuck {place e} (hplace : place? files path = some place) (hne : place ≠ [])
      (hnone : files.find? place = none) (hjournal : (Store.file place).keepsJournal = false) :
      Creates files path (.error e, files.put place (.file (.bytes [])))
  | made {place db after} (hplace : place? files path = some place) (hne : place ≠ [])
      (hjournal : (Store.file place).keepsJournal = true)
      (hbegins : Begins files place after db) : Creates files path (.ok (.file place), after)

theorem find?_ne_nil {files : Files} {place : Place} {content : Content}
    (h : files.find? place = some (.file content)) : place ≠ [] := by
  rintro rfl
  cases h

theorem find?_write (formats : Formats) {files : Files} {place : Place} (hplace : place ≠ [])
    (db : Database) : ∃ image, ((file place).write formats files (.tables db)).2.find? place =
      some (.file (.database image db)) :=
  ⟨_, FileTree.find?_put hplace _⟩

/-- A store is opened in the file at its place, or in one that is made there. -/
theorem place_of_open {files files' : Files} {path : String} {store : Store}
    (hpath : NamesFile path) (h : «open» files path = .ok (store, files')) :
    ∃ place, place? files path = some place ∧ store = .file place ∧
      ((∃ content, files.find? place = some (.file content)) ∧ files = files' ∨
        files.find? place = none ∧ place ≠ [] ∧ files' = files.put place (.file (.bytes []))) := by
  unfold «open» at h
  dsimp only at h
  split at h
  next => cases h
  next =>
    rw [if_neg (not_or.mpr ⟨hpath.ne_empty, hpath.ne_memory⟩)] at h
    split_ifs at h
    split at h
    next => cases h
    next place hplace =>
      refine ⟨place, hplace, ?_⟩
      split_ifs at h
      split at h
      next content hfile =>
        cases h
        exact ⟨rfl, .inl ⟨⟨content, hfile⟩, rfl⟩⟩
      next hnone _ =>
        cases h
        refine ⟨rfl, .inr ⟨hnone, ?_, rfl⟩⟩
        rintro rfl
        cases hnone
      next => cases h

section SetUp

variable (formats : Formats) {files : Files} {place : Place}

/-- A file without any bytes is given empty tables, or it stays so. -/
theorem setUp_blank (hfile : files.find? place = some (.file (.bytes []))) :
    (Store.file place).setUp formats files =
      if (Store.file place).keepsJournal then
        .ok ((Store.file place).write formats files (.tables .empty))
      else .error (.database .noJournal) := by
  have hblank : (Store.file place).medium files = .blank := by
    simp only [medium, hfile]
    rfl
  rw [setUp, hblank]

theorem setUp_file {content : Content} (hfile : files.find? place = some (.file content)) :
    (∃ e, (Store.file place).setUp formats files = .error e) ∨
      (Store.file place).keepsJournal = true ∧ ∃ db after,
        (Store.file place).setUp formats files = .ok (.file place, after) ∧
          Begins files place after db := by
  rcases content with (_ | ⟨byte, data⟩) | ⟨image, db⟩
  · rw [setUp_blank formats hfile]
    cases hjournal : (Store.file place).keepsJournal with
    | false => exact .inl ⟨_, rfl⟩
    | true =>
        refine .inr ⟨rfl, .empty, _, rfl, find?_write formats (find?_ne_nil hfile) _,
          .inr ⟨rfl, fun image db' hdb' => ?_⟩⟩
        cases hfile.symm.trans hdb'
  · have hforeign : (Store.file place).medium files = .foreign := by
      simp only [medium, hfile]
      rfl
    rw [setUp, hforeign]
    exact .inl ⟨_, rfl⟩
  · have htables : (Store.file place).medium files =
        if (Store.file place).keepsJournal then .tables db else .readOnly db := by
      simp only [medium, hfile]
      rfl
    rw [setUp, htables]
    cases hjournal : (Store.file place).keepsJournal with
    | false => exact .inl ⟨_, rfl⟩
    | true => exact .inr ⟨rfl, db, files, rfl, ⟨image, hfile⟩, .inl rfl⟩

end SetUp

theorem creates (formats : Formats) {files : Files} {path : String} (hpath : NamesFile path)
    (habsent : files.contains path = false) :
    Creates files path (create formats files path) := by
  have hclear : clear files path = .ok files ∨ ∃ e, clear files path = .error e := by
    rw [clear]
    cases hresolve : files.resolve path with
    | ok place => simp [FileTree.contains, hresolve, Except.isOk, Except.toBool] at habsent
    | error e => cases e <;> simp
  rw [create]
  rcases hclear with hclear | ⟨e, hclear⟩
  · rw [hclear]
    dsimp only
    cases hopen : «open» files path with
    | error e => exact .refused
    | ok opened =>
        obtain ⟨store, files'⟩ := opened
        obtain ⟨place, hplace, rfl, ⟨⟨content, hfile⟩, rfl⟩ | ⟨hnone, hne, rfl⟩⟩ :=
          place_of_open hpath hopen
        · dsimp only
          rcases setUp_file formats hfile with ⟨e, he⟩ | ⟨hjournal, db, after, hmade, hbegins⟩
          · rw [he]
            exact .refused
          · rw [hmade]
            exact .made hplace (find?_ne_nil hfile) hjournal hbegins
        · have hnew : (files.put place (.file (.bytes []))).find? place =
              some (.file (.bytes [])) := FileTree.find?_put hne _
          dsimp only
          rw [setUp_blank formats hnew]
          cases hjournal : (Store.file place).keepsJournal with
          | false => exact .stuck hplace hne hnone hjournal
          | true =>
              refine .made hplace hne hjournal ⟨find?_write formats hne _, .inr ⟨rfl, ?_⟩⟩
              intro image db' hdb'
              cases hnone.symm.trans hdb'
  · rw [hclear]
    exact .refused

/-! ### Paths that lead straight to a file -/

/-- The path leads to a name in the directory where it begins, if to anything. -/
structure Names (files : Files) (path : String) (place : Place) : Prop where
  direct : ∃ name, Path.Direct path name ∧ place = files.origin path ++ [name]
  top : files.find? (files.origin path) = some .directory
  no_link : ∀ target, files.find? place ≠ some (.link target)
  /-- There is room for the path of the journal as well. -/
  room : FileTree.pathLength place + journalEnding.utf8ByteSize ≤ maxPath

namespace Names

variable {files : Files} {path : String} {place : Place}

theorem ne_nil (h : Names files path place) : place ≠ [] := by
  obtain ⟨name, -, rfl⟩ := h.direct
  simp

theorem resolve (h : Names files path place) : files.resolve path =
    if (files.find? place).isSome then .ok place else .error .notFound := by
  obtain ⟨name, hdirect, rfl⟩ := h.direct
  exact FileTree.resolve_direct hdirect h.top h.no_link

theorem contains (h : Names files path place) :
    files.contains path = (files.find? place).isSome := by
  rw [FileTree.contains, h.resolve]
  cases files.find? place <;> rfl

end Names

end RelaySnapshot.Store
