import RelaySnapshot.Proofs.Build.Snapshot
import RelaySnapshot.Proofs.CommandLine.Runs
import RelaySnapshot.Proofs.Source.Carrier
import RelaySnapshot.Proofs.Whois.Lookup

/-!
# Runs that keep what is there

A run that is to keep an existing snapshot takes any file at its output path for one. The file may
hold the tables of a build that has succeeded, or the empty tables that a build has left behind
which failed, or nothing, if no tables could be written to it. A run that fails before it opens its
store leaves no file that another run takes for a snapshot.
-/

namespace RelaySnapshot.CommandLine

structure Invocation where
  surroundings : Surroundings
  arguments : List String

namespace Invocation

def ending (i : Invocation) : Ending :=
  (run i.surroundings i.arguments).1

/-- The files as the run leaves them. -/
def after (i : Invocation) : Files :=
  (run i.surroundings i.arguments).2

/-- The build of the run succeeds and puts these tables into its store. -/
def Commits (i : Invocation) (db : Database) : Prop :=
  ∃ (p : Preparation i.surroundings i.arguments) (summary : Summary),
    p.result = some (.ok (.ok summary, .tables db))

/-- The run comes to its build, which does not succeed. -/
def Breaks (i : Invocation) : Prop :=
  ∃ p : Preparation i.surroundings i.arguments,
    ∀ summary medium, p.result ≠ some (.ok (.ok summary, medium))

/-- The run comes to create its store, which does not succeed. -/
def Stalls (i : Invocation) : Prop :=
  ∃ (a : Attempt i.surroundings i.arguments) (report : Report) (files : Files),
    create i.surroundings (a.settings.outputPath a.month) = (.error report, files)

/-- As far as it can read its settings, the run is to keep the snapshot of the month at a place. -/
structure Keeps (i : Invocation) (month : Month) (output : String) (place : Place) : Prop where
  asks : Arguments.read i.arguments ≠ .error .about
  keeping : ∀ parsed settings, Arguments.read i.arguments = .ok parsed →
    readSettings i.surroundings parsed = .ok settings →
    settings.keepsExisting = true ∧ settings.outputPath month = output
  dated : ∀ parsed month', Arguments.read i.arguments = .ok parsed →
    readMonth i.surroundings.now parsed.month = .ok month' → month' = month
  isTree : i.surroundings.files.IsTree
  /-- Wherever the output path leads to, it is this place. -/
  leads : ∀ place', i.surroundings.files.resolve output = .ok place' ∨
    Store.place? i.surroundings.files output = some place' → place' = place

end Invocation

/-- Runs one after the other; between them nobody else changes what is at the place. -/
inductive Series (month : Month) (output : String) (place : Place) :
    List Invocation → Files → Prop where
  | start {files} (hnone : files.find? place = none) : Series month output place [] files
  | next {earlier files} {i : Invocation} (h : Series month output place earlier files)
      (hkeeps : i.Keeps month output place)
      (hsame : i.surroundings.files.find? place = files.find? place) :
      Series month output place (earlier ++ [i]) i.after

/-- What is at the place after some runs. -/
inductive Stands (place : Place) (runs : List Invocation) : Option (Node Content) → Prop where
  | nothing (hnever : ∀ i ∈ runs, ∀ db, ¬i.Commits db) : Stands place runs none
  | stalled (hjournal : (Store.file place).keepsJournal = false)
      (hstalled : ∃ i ∈ runs, i.Stalls) (hnever : ∀ i ∈ runs, ∀ db, ¬i.Commits db) :
      Stands place runs (some (.file (.bytes [])))
  | broken {image} (hbroken : ∃ i ∈ runs, i.Breaks)
      (hnever : ∀ i ∈ runs, ∀ db, ¬i.Commits db) :
      Stands place runs (some (.file (.database image .empty)))
  | built {image db} (hbuilt : ∃ i ∈ runs, i.Commits db) :
      Stands place runs (some (.file (.database image db)))

/-! ### One run -/

section Step

variable {i : Invocation} {earlier : List Invocation} {month : Month} {output : String}
  {place : Place}

theorem Invocation.not_commits (h : ∀ summary, i.ending ≠ .built summary) (db : Database) :
    ¬i.Commits db := by
  rintro ⟨p, summary, hresult⟩
  apply h summary
  rw [Invocation.ending, p.run_of_result.1 summary _ hresult]

theorem Invocation.not_commits_of_ending {ending : Ending} (hending : i.ending = ending)
    (hother : ∀ summary, ending ≠ .built summary) : ∀ db, ¬i.Commits db := by
  apply Invocation.not_commits
  intro summary hbuilt
  exact hother summary (hending.symm.trans hbuilt)

theorem never_append (hearlier : ∀ j ∈ earlier, ∀ db, ¬j.Commits db)
    (hnever : ∀ db, ¬i.Commits db) : ∀ j ∈ earlier ++ [i], ∀ db, ¬j.Commits db := by
  intro j hj
  rcases List.mem_append.mp hj with hj | hj
  · exact hearlier j hj
  · exact List.mem_singleton.mp hj ▸ hnever

theorem mem_append_self (earlier : List Invocation) (i : Invocation) : i ∈ earlier ++ [i] :=
  List.mem_append_right _ (List.mem_singleton_self i)

/-- Unless it commits tables, a run can leave what is at the place. -/
theorem Stands.append {node : Option (Node Content)} (h : Stands place earlier node)
    (hnever : ∀ db, ¬i.Commits db) : Stands place (earlier ++ [i]) node := by
  cases h with
  | nothing hearlier => exact .nothing (never_append hearlier hnever)
  | stalled hjournal hstalled hearlier =>
      obtain ⟨j, hj, hstalls⟩ := hstalled
      exact .stalled hjournal ⟨j, List.mem_append_left _ hj, hstalls⟩
        (never_append hearlier hnever)
  | broken hbroken hearlier =>
      obtain ⟨j, hj, hbreaks⟩ := hbroken
      exact .broken ⟨j, List.mem_append_left _ hj, hbreaks⟩ (never_append hearlier hnever)
  | built hbuilt =>
      obtain ⟨j, hj, hcommits⟩ := hbuilt
      exact .built ⟨j, List.mem_append_left _ hj, hcommits⟩

theorem create_eq_ok_iff {s : Surroundings} {store : Store} {files : Files} :
    create s output = (.ok store, files) ↔
      Store.create s.formats s.files output = (.ok store, files) := by
  rw [create]
  rcases Store.create s.formats s.files output with ⟨e | made, files'⟩ <;>
    simp [Except.mapError]

theorem exists_create_eq_error_iff {s : Surroundings} {files : Files} :
    (∃ report, create s output = (.error report, files)) ↔
      ∃ e, Store.create s.formats s.files output = (.error e, files) := by
  rw [create]
  rcases Store.create s.formats s.files output with ⟨e | made, files'⟩ <;>
    simp [Except.mapError]

/-- What comes of the creation of a store at the place, where there is none yet. -/
theorem creates_of_keeps (hkeeps : i.Keeps month output place) (houtput : Store.NamesFile output)
    (a : Attempt i.surroundings i.arguments) : a.settings.outputPath a.month = output ∧
      Store.Creates i.surroundings.files output
        (Store.create i.surroundings.formats i.surroundings.files output) := by
  obtain ⟨hkeeping, hpath⟩ := hkeeps.keeping _ _ a.read a.configured
  rw [← hkeeps.dated _ _ a.read a.dated] at hpath
  have hwanted := a.wanted
  rw [hpath, hkeeping, Bool.true_and] at hwanted
  exact ⟨hpath, Store.creates _ houtput hwanted⟩

/-- The store of a build lies at the place, and has tables before the build begins. -/
theorem begins_of_keeps (hkeeps : i.Keeps month output place) (houtput : Store.NamesFile output)
    (p : Preparation i.surroundings i.arguments) :
    ∃ db, place ≠ [] ∧ (Store.file place).keepsJournal = true ∧ p.store = .file place ∧
      Store.Begins i.surroundings.files place p.files db := by
  obtain ⟨hpath, hcreates⟩ := creates_of_keeps hkeeps houtput p.toAttempt
  have hcreated := p.created
  rw [hpath] at hcreated
  rw [create_eq_ok_iff.mp hcreated] at hcreates
  generalize p.store = store at hcreates ⊢
  cases hcreates with
  | @made place' db after hplace hne hjournal hbegins =>
      obtain rfl := hkeeps.leads place' (.inr hplace)
      exact ⟨db, hne, hjournal, rfl, hbegins⟩

/-- Where there are tables, it does not matter how they are laid out. -/
theorem Stands.laid {image : List UInt8} {db : Database}
    (h : Stands place earlier (some (.file (.database image db)))) (image' : List UInt8) :
    Stands place earlier (some (.file (.database image' db))) := by
  cases h with
  | broken hbroken hnever => exact .broken hbroken hnever
  | built hbuilt => exact .built hbuilt

/-- A build that does not succeed leaves the tables with which it began. -/
theorem stands_of_breaks {before after : Files} {db : Database}
    (h : Stands place earlier (before.find? place)) (hbegins : Store.Begins before place after db)
    (hbreaks : i.Breaks) (hnever : ∀ db, ¬i.Commits db) (image : List UInt8) :
    Stands place (earlier ++ [i]) (some (.file (.database image db))) := by
  obtain ⟨⟨image', hthere⟩, hsame | ⟨rfl, hbefore⟩⟩ := hbegins
  · rw [← hsame, hthere] at h
    exact (h.append hnever).laid image
  · have happend := h.append hnever
    generalize before.find? place = node at happend hbefore
    have hbroken : ∃ j ∈ earlier ++ [i], j.Breaks := ⟨i, mem_append_self earlier i, hbreaks⟩
    cases happend with
    | nothing hall => exact .broken hbroken hall
    | stalled _ _ hall => exact .broken hbroken hall
    | broken => exact absurd rfl (hbefore _ _)
    | built => exact absurd rfl (hbefore _ _)

theorem medium_of_find? {files : Files} {image : List UInt8} {db : Database}
    (hthere : files.find? place = some (.file (.database image db)))
    (hjournal : (Store.file place).keepsJournal = true) :
    (Store.file place).medium files = .tables db := by
  simp only [Store.medium, hthere]
  exact if_pos hjournal

/-- A build that succeeds leaves its tables at the place. -/
theorem commits_of_result (hkeeps : i.Keeps month output place)
    (houtput : Store.NamesFile output) (p : Preparation i.surroundings i.arguments)
    {summary : Summary} {medium : Medium}
    (hresult : p.result = some (.ok (.ok summary, medium))) :
    ∃ image db, (p.store.write i.surroundings.formats p.files medium).2.find? place =
      some (.file (.database image db)) ∧ i.Commits db := by
  obtain ⟨db, hne, hjournal, hstore, hbegins⟩ := begins_of_keeps hkeeps houtput p
  obtain ⟨image, hthere⟩ := hbegins.there
  have hrun := hresult
  rw [Preparation.result, hstore, medium_of_find? hthere hjournal] at hrun
  rcases Build.run_tables hrun with ⟨_, db', -, rfl⟩ | ⟨e, he, -⟩
  · obtain ⟨image, himage⟩ := Store.find?_write i.surroundings.formats hne db'
    exact ⟨image, db', hstore ▸ himage, p, _, hresult⟩
  · cases he

/-- A store that cannot be created leaves nothing new, or a file without any bytes. -/
theorem stands_of_uncreated (hkeeps : i.Keeps month output place)
    (houtput : Store.NamesFile output) (a : Attempt i.surroundings i.arguments) {report : Report}
    {files : Files} (hcreated : create i.surroundings (a.settings.outputPath a.month) =
      (.error report, files)) (h : Stands place earlier (i.surroundings.files.find? place))
    (hnever : ∀ db, ¬i.Commits db) : Stands place (earlier ++ [i]) (files.find? place) := by
  obtain ⟨hpath, hcreates⟩ := creates_of_keeps hkeeps houtput a
  have hstalls : i.Stalls := ⟨a, report, files, hcreated⟩
  rw [hpath] at hcreated
  obtain ⟨e, hmade⟩ := exists_create_eq_error_iff.mp ⟨_, hcreated⟩
  rw [hmade] at hcreates
  cases hcreates with
  | refused => exact h.append hnever
  | @stuck place' _ hplace hne hnone hjournal =>
      obtain rfl := hkeeps.leads place' (.inr hplace)
      have happend := h.append hnever
      rw [hnone] at happend
      rw [FileTree.find?_put hne]
      cases happend with
      | nothing hall => exact .stalled hjournal ⟨i, mem_append_self earlier i, hstalls⟩ hall

/-- What one run makes of what is at the place. -/
theorem stands_after (hkeeps : i.Keeps month output place) (houtput : Store.NamesFile output)
    (h : Stands place earlier (i.surroundings.files.find? place)) :
    Stands place (earlier ++ [i]) (i.after.find? place) := by
  have hruns := runs i.surroundings i.arguments
  have hending : i.ending = (run i.surroundings i.arguments).1 := rfl
  rw [Invocation.after]
  generalize run i.surroundings i.arguments = result at hruns hending
  cases hruns with
  | about hread => exact absurd hread hkeeps.asks
  | refused hcode =>
      apply h.append
      apply Invocation.not_commits_of_ending hending
      rintro summary rfl
      exact hcode rfl
  | kept => exact h.append (Invocation.not_commits_of_ending hending (by simp))
  | uncreated a hcreated =>
      exact stands_of_uncreated hkeeps houtput a hcreated h
        (Invocation.not_commits_of_ending hending (by simp))
  | built p hresult =>
      obtain ⟨image, db, hdb, hcommits⟩ := commits_of_result hkeeps houtput p hresult
      rw [hdb]
      exact .built ⟨i, mem_append_self earlier i, hcommits⟩
  | failed p hresult =>
      obtain ⟨db, hne, hjournal, hstore, hbegins⟩ := begins_of_keeps hkeeps houtput p
      have hbreaks : i.Breaks := ⟨p, fun summary medium hok => by cases hresult.symm.trans hok⟩
      have hnever := Invocation.not_commits_of_ending hending (by simp)
      obtain ⟨_, hthere⟩ := hbegins.there
      rw [Preparation.result, hstore, medium_of_find? hthere hjournal] at hresult
      rcases Build.run_tables hresult with ⟨summary, db', he, -⟩ | ⟨e, -, rfl⟩
      · cases he
      · obtain ⟨image, himage⟩ := Store.find?_write i.surroundings.formats hne db
        rw [hstore, himage]
        exact stands_of_breaks h hbegins hbreaks hnever image
  | stopped p hresult =>
      obtain ⟨db, hne, hjournal, hstore, hbegins⟩ := begins_of_keeps hkeeps houtput p
      have hbreaks : i.Breaks := ⟨p, fun summary medium hok => by cases hresult.symm.trans hok⟩
      have hnever := Invocation.not_commits_of_ending hending (by simp)
      obtain ⟨image, himage⟩ := hbegins.there
      rw [himage]
      exact stands_of_breaks h hbegins hbreaks hnever image

end Step

/-! ### Runs one after the other -/

theorem Series.stands {month : Month} {output : String} {place : Place}
    (houtput : Store.NamesFile output) {invocations : List Invocation} {files : Files}
    (h : Series month output place invocations files) :
    Stands place invocations (files.find? place) := by
  induction h with
  | start hnone =>
      rw [hnone]
      exact .nothing fun _ hmem => absurd hmem List.not_mem_nil
  | next _ hkeeps hsame ih => exact stands_after hkeeps houtput (hsame ▸ ih)

/-- A registry in which no address is announced. -/
def nobody : Whois.Directory :=
  .ofEntries [] (by simp)

def Reads (output : String) : Prop :=
  Arguments.read ["2020-03", "--no-clobber", "--output", output] =
    .ok ⟨"2020-03", [(.output, output)], [.keepsExisting]⟩

section RunInMay

variable {output name : String} {files files' : Files} {data : List UInt8}

end RunInMay

end RelaySnapshot.CommandLine
