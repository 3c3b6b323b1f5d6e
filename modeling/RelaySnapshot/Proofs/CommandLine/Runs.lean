import RelaySnapshot.CommandLine
import RelaySnapshot.Proofs.Build.Outcome
import RelaySnapshot.Proofs.Store.Creation
import RelaySnapshot.Proofs.Timeline.Validity

/-!
# What a run leaves behind

A run that fails before it opens its store leaves the files as they are. A store that cannot keep a
journal beside it stays a file without any bytes. A build begins with empty tables, or with the
tables that are there, and it either leaves them or puts the tables of its snapshot in their place.
-/

namespace RelaySnapshot

namespace Session

/-- A session that is abandoned after its records keeps nothing. -/
theorem exists_error_of_abandon (records : List Record) (medium : Medium) :
    ∃ e, run medium (records.map .record ++ [.abandon]) = (.error e, medium) := by
  have hfollow : ∀ session : Session, (∀ kind, kind ∈ session.openQueues) →
      session.abandonable = true →
      ∃ e, session.follow (records.map .record ++ [.abandon]) = .error e := by
    intro session hopen habandonable
    induction records generalizing session with
    | nil =>
        have hnonempty : session.openQueues.isEmpty = false :=
          List.isEmpty_eq_false_iff_exists_mem.mpr ⟨_, hopen .nodes⟩
        refine ⟨.abandoned, ?_⟩
        rw [List.map_nil, List.nil_append, follow, hnonempty, step, if_pos habandonable]
        rfl
    | cons record records ih =>
        have hnonempty : session.openQueues.isEmpty = false :=
          List.isEmpty_eq_false_iff_exists_mem.mpr ⟨_, hopen record.kind⟩
        rw [List.map_cons, List.cons_append, follow, hnonempty, step]
        cases htake : session.take record with
        | error e => exact ⟨e, rfl⟩
        | ok next =>
            obtain ⟨written, -, rfl⟩ := take_of_mem (hopen _) htake
            exact ih _ hopen habandonable
  obtain ⟨e, he⟩ := hfollow { written := medium } (fun kind => by cases kind <;> simp) rfl
  exact ⟨e, by rw [run, he]⟩

end Session

namespace Build

/-- In tables a build writes all it produces or nothing. -/
theorem write_tables (production : Production) (db : Database) :
    (∃ rows db', write production (.tables db) = (.ok rows, .tables db')) ∨
      ∃ e, write production (.tables db) = (.error e, .tables db) := by
  cases hfailure : production.failure with
  | none =>
      rw [write_of_failure_eq_none _ hfailure]
      cases hinsert : (Medium.tables db).insertAll production.records with
      | ok written =>
          obtain ⟨-, rfl⟩ := Medium.insertAll_tables.mp hinsert
          exact .inl ⟨_, _, rfl⟩
      | error e => exact .inr ⟨_, rfl⟩
  | some cause =>
      obtain ⟨e, he⟩ := Session.exists_error_of_abandon production.records (.tables db)
      right
      rw [write, hfailure]
      simp only [Option.toList_some, List.map_cons, List.map_nil, he, Option.map_some]
      exact ⟨_, rfl⟩

theorem run_tables {month : Month} {lookups : Lookups} {capacity : Nat} {feeds : Feeds}
    {reading : feeds.Reading} {db : Database} {result : Except BuildError Summary}
    {medium : Medium}
    (h : run month lookups capacity reading (.tables db) = some (.ok (result, medium))) :
    (∃ summary db', result = .ok summary ∧ medium = .tables db') ∨
      ∃ e, result = .error e ∧ medium = .tables db := by
  obtain ⟨outcome, -, hresult⟩ := Option.map_eq_some_iff.mp h
  cases outcome with
  | error e =>
      cases hresult
      exact .inr ⟨e, rfl, rfl⟩
  | ok sources =>
      dsimp only at hresult
      generalize Reconciliation.ofCollection month _ = r at hresult
      cases hproduced : produce lookups capacity r with
      | error fault =>
          rw [hproduced] at hresult
          cases hresult
      | ok production =>
          rw [hproduced] at hresult
          simp only [bind, Except.bind, pure, Except.pure] at hresult
          rcases write_tables production db with ⟨rows, db', hwrite⟩ | ⟨e, hwrite⟩
          · rw [hwrite] at hresult
            cases hresult
            exact .inl ⟨_, db', rfl, rfl⟩
          · rw [hwrite] at hresult
            cases hresult
            exact .inr ⟨e, rfl, rfl⟩

end Build

namespace CommandLine

/-- All that a run has done when it comes to create its store. -/
structure Attempt (s : Surroundings) (arguments : List String) where
  parsed : Arguments
  settings : Settings
  month : Month
  geo : Geo.Database
  sources : LocatedSources
  read : Arguments.read arguments = .ok parsed
  configured : readSettings s parsed = .ok settings
  dated : readMonth s.now parsed.month = .ok month
  wanted : (settings.keepsExisting && s.files.contains (settings.outputPath month)) = false
  opened : openGeo s settings = .ok geo
  located : locate s settings month = .ok sources

/-- All that a run has done when its build begins. -/
structure Preparation (s : Surroundings) (arguments : List String) extends
    Attempt s arguments where
  store : Store
  files : Files
  created : create s (settings.outputPath month) = (.ok store, files)

section Preparation

variable {s : Surroundings} {arguments : List String}

theorem Attempt.run_eq_build (a : Attempt s arguments) :
    run s arguments = build s a.settings a.month := by
  have hconfigured : configure s a.parsed = .ok (a.settings, a.month) := by
    rw [configure, a.configured]
    simp only [bind, Except.bind, a.dated, Except.mapError]
    rfl
  rw [run, a.read]
  simp only [hconfigured]

theorem Attempt.prepared (a : Attempt s arguments) :
    prepare s a.settings a.month = .ok (a.geo, a.sources) := by
  rw [prepare, a.opened]
  simp only [bind, Except.bind, a.located]
  rfl

/-- A store that cannot be created ends the run. -/
theorem Attempt.run_of_error (a : Attempt s arguments) {report : Report} {files : Files}
    (h : create s (a.settings.outputPath a.month) = (.error report, files)) :
    run s arguments = (.failed report, files) := by
  rw [a.run_eq_build, build, a.wanted, a.prepared]
  simp only [h]
  rfl

namespace Preparation

/-- How the build ends that has been prepared, and what its store holds then. -/
def result (p : Preparation s arguments) :
    Option (Except BuildFault (Except BuildError Summary × Medium)) :=
  Build.run p.month (lookups s p.settings p.geo) p.settings.queueCapacity
    (s.reading (p.sources.feeds s.formats p.files)) (p.store.medium p.files)

theorem exists_result (p : Preparation s arguments) : ∃ result, p.result = some result :=
  Option.isSome_iff_exists.mp (Build.isSome_run _ (p.sources.feeds_end s.formats p.files))

theorem run_eq (p : Preparation s arguments) :
    run s arguments = fill s p.month (lookups s p.settings p.geo) p.settings.queueCapacity
      p.sources p.store p.files := by
  rw [p.run_eq_build, build, p.wanted, p.prepared]
  simp only [p.created]
  rfl

/-- The build puts what its store holds then into the files, unless a fault stops it. -/
theorem run_of_result (p : Preparation s arguments) :
    (∀ summary medium, p.result = some (.ok (.ok summary, medium)) →
      run s arguments = (.built summary, (p.store.write s.formats p.files medium).2)) ∧
    (∀ e medium, p.result = some (.ok (.error e, medium)) →
      ∃ report, run s arguments = (.failed report, (p.store.write s.formats p.files medium).2)) ∧
    ∀ fault, p.result = some (.error fault) → run s arguments = (.stopped, p.files) := by
  have hrun := p.run_eq
  rw [fill] at hrun
  simp only [result]
  refine ⟨fun summary medium h => ?_, fun e medium h => ?_, fun fault h => ?_⟩
  · rw [hrun, Option.get_of_eq_some _ h]
  · rw [hrun, Option.get_of_eq_some _ h]
    exact ⟨_, rfl⟩
  · rw [hrun, Option.get_of_eq_some _ h]

end Preparation

end Preparation

/-! ### All that a run can do -/

/-- How a run ends, and the files that it leaves. -/
inductive Runs (s : Surroundings) (arguments : List String) : Ending × Files → Prop where
  | about (hread : Arguments.read arguments = .error .about) : Runs s arguments (.about, s.files)
  | refused {ending} (hcode : ending.code ≠ 0) : Runs s arguments (ending, s.files)
  | kept {parsed settings month} (hread : Arguments.read arguments = .ok parsed)
      (hconfigured : readSettings s parsed = .ok settings)
      (hdated : readMonth s.now parsed.month = .ok month)
      (hthere : s.files.contains (settings.outputPath month) = true) :
      Runs s arguments (.kept, s.files)
  | uncreated (a : Attempt s arguments) {report files}
      (hcreated : create s (a.settings.outputPath a.month) = (.error report, files)) :
      Runs s arguments (.failed report, files)
  | built (p : Preparation s arguments) {summary medium}
      (hresult : p.result = some (.ok (.ok summary, medium))) :
      Runs s arguments (.built summary, (p.store.write s.formats p.files medium).2)
  | failed (p : Preparation s arguments) {e medium report}
      (hresult : p.result = some (.ok (.error e, medium))) :
      Runs s arguments (.failed report, (p.store.write s.formats p.files medium).2)
  | stopped (p : Preparation s arguments) {fault} (hresult : p.result = some (.error fault)) :
      Runs s arguments (.stopped, p.files)

theorem Preparation.runs {s : Surroundings} {arguments : List String}
    (p : Preparation s arguments) : Runs s arguments (run s arguments) := by
  obtain ⟨hbuilt, hfailed, hstopped⟩ := p.run_of_result
  obtain ⟨result, hresult⟩ := p.exists_result
  match result, hresult with
  | .ok (.ok summary, medium), hresult => exact hbuilt _ _ hresult ▸ .built p hresult
  | .ok (.error e, medium), hresult =>
      obtain ⟨report, hrun⟩ := hfailed _ _ hresult
      exact hrun ▸ .failed p hresult
  | .error fault, hresult => exact hstopped _ hresult ▸ .stopped p hresult

/-! ### What goes wrong before a build -/

/-- What goes wrong here is not told as a success. -/
def Fails {α : Type} (result : Except Ending α) : Prop :=
  ∀ ending, result = .error ending → ending.code ≠ 0

section Fails

variable {α β ε : Type}

theorem Fails.ok (a : α) : Fails (.ok a) :=
  nofun

theorem Fails.bind {result : Except Ending α} {next : α → Except Ending β} (h : Fails result)
    (hnext : ∀ a, Fails (next a)) : Fails (result >>= next) := by
  cases result with
  | error ending =>
      rintro _ ⟨⟩
      exact h ending rfl
  | ok a => exact hnext a

theorem fails_mapError (result : Except ε α) (report : ε → Report) :
    Fails (result.mapError fun e => .failed (report e)) := by
  cases result with
  | error e =>
      rintro _ ⟨⟩
      exact Nat.one_ne_zero
  | ok a => exact .ok a

theorem fails_lay (layers : Layers) (origin : String) (entries : List (String × ConfigValue)) :
    Fails (lay layers origin entries) := by
  rw [lay]
  cases layers.add origin entries with
  | none =>
      rintro _ ⟨⟩
      decide
  | some layers => exact .ok layers

theorem fails_readFile (s : Surroundings) (parsed : Arguments) : Fails (readFile s parsed) := by
  rw [readFile]
  cases parsed.path? .configuration with
  | none => exact .ok []
  | some path =>
      dsimp only
      split
      next => exact fails_lay _ _ _
      next =>
        rintro _ ⟨⟩
        decide
      next =>
        rintro _ ⟨⟩
        exact Nat.one_ne_zero

theorem fails_readSettings (s : Surroundings) (parsed : Arguments) :
    Fails (readSettings s parsed) := by
  apply (fails_readFile s parsed).bind
  intro layers
  apply (fails_lay _ _ _).bind
  intro layers
  apply (fails_mapError _ _).bind
  intro settings
  exact (fails_mapError _ _).bind fun _ => .ok _

end Fails

/-- A run that gets so far as to look for its output keeps that, or fails, or makes its store. -/
theorem runs_of_build {s : Surroundings} {arguments : List String} {parsed : Arguments}
    {settings : Settings} {month : Month} (hread : Arguments.read arguments = .ok parsed)
    (hconfigured : readSettings s parsed = .ok settings)
    (hdated : readMonth s.now parsed.month = .ok month) :
    Runs s arguments (build s settings month) := by
  cases hwanted : settings.keepsExisting && s.files.contains (settings.outputPath month) with
  | true =>
      rw [build, hwanted]
      exact .kept hread hconfigured hdated (Bool.and_eq_true_iff.mp hwanted).2
  | false =>
      cases hprepared : prepare s settings month with
      | error report =>
          rw [build, hwanted, hprepared]
          exact .refused Nat.one_ne_zero
      | ok prepared =>
          obtain ⟨geo, hgeo, hrest⟩ := exists_of_bind_eq_ok hprepared
          obtain ⟨sources, hsources, hpair⟩ := exists_of_bind_eq_ok hrest
          cases hpair
          let a : Attempt s arguments := ⟨parsed, settings, month, geo, sources, hread,
            hconfigured, hdated, hwanted, hgeo, hsources⟩
          have hrun : run s arguments = build s settings month := a.run_eq_build
          rw [← hrun]
          rcases hcreated : create s (settings.outputPath month) with ⟨report | store, files⟩
          · exact a.run_of_error hcreated ▸ .uncreated a hcreated
          · exact (⟨a, store, files, hcreated⟩ : Preparation s arguments).runs

/-- A run does what it is asked for, or one of its steps ends it. -/
theorem runs (s : Surroundings) (arguments : List String) :
    Runs s arguments (run s arguments) := by
  cases hread : Arguments.read arguments with
  | error e =>
      rw [run, hread]
      cases e with
      | about => exact .about hread
      | malformed => exact .refused (by decide)
  | ok parsed =>
      rw [run, hread]
      -- What ends the run before its build leaves the files as they are.
      cases hsettings : readSettings s parsed with
      | error ending =>
          simp only [configure, hsettings, bind, Except.bind]
          exact .refused (fails_readSettings s parsed ending hsettings)
      | ok settings =>
          cases hmonth : readMonth s.now parsed.month with
          | error report =>
              simp only [configure, hsettings, hmonth, bind, Except.bind, Except.mapError]
              exact .refused Nat.one_ne_zero
          | ok month =>
              simp only [configure, hsettings, hmonth, bind, Except.bind, Except.mapError]
              exact runs_of_build hread hsettings hmonth

end CommandLine

end RelaySnapshot
