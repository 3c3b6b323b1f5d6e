import RelaySnapshot.CommandLine.Arguments
import RelaySnapshot.CommandLine.Report
import RelaySnapshot.Geo.File
import RelaySnapshot.Settings.Environment
import RelaySnapshot.Settings.File
import RelaySnapshot.Settings.Layers
import RelaySnapshot.Source.Locate
import RelaySnapshot.Store

/-!
# The command line

One run builds the snapshot of a month. It reads its settings, opens the geographic database,
locates the sources, creates the store and fills it. The store is created only when all before it
has succeeded, and holds empty tables if the build fails.
-/

namespace RelaySnapshot

namespace LocatedSources

def feeds (sources : LocatedSources) (formats : Formats) (files : Files) : Feeds where
  main := sources.main.map fun s => .ofFiles formats files s.name s.root
  complementary := sources.complementary.map fun s => .ofFiles formats files s.name s.root
  recent := sources.recent.map fun s => .ofFiles formats files s.name s.root

theorem feeds_end (sources : LocatedSources) (formats : Formats) (files : Files) :
    ∀ entry ∈ (sources.feeds formats files).all, entry.2.ending ≠ .never := by
  intro entry h
  have : ∃ name root, entry.2 = .ofFiles formats files name root := by
    simp only [feeds, Feeds.all, List.mem_append, List.mem_map, Option.mem_toList,
      Option.map_eq_some_iff] at h
    rcases h with (⟨_, ⟨s, _, rfl⟩, rfl⟩ | ⟨_, ⟨s, _, rfl⟩, rfl⟩) | ⟨_, ⟨s, _, rfl⟩, rfl⟩ <;>
      exact ⟨s.name, s.root, rfl⟩
  obtain ⟨name, root, same⟩ := this
  rw [same]
  exact Feed.ending_ofFiles formats files name root

end LocatedSources

namespace CommandLine

structure Surroundings where
  files : Files
  formats : Formats
  environment : List (String × String)
  network : Whois.Network
  now : Instant
  /-- How the sources come to be read side by side. -/
  reading : (feeds : Feeds) → feeds.Reading := .inTurn

inductive Ending where
  /-- A text about the program was asked for. -/
  | about
  | malformedArguments
  /-- The snapshot is there already. -/
  | kept
  | built (summary : Summary)
  | failed (report : Report)
  /-- A fault has stopped the program. -/
  | stopped
  deriving DecidableEq

namespace Ending

/-- The code that tells the caller how a run ended; zero stands for success. -/
def code : Ending → Nat
  | about | kept | built _ => 0
  | failed _ => 1
  | malformedArguments => 2
  | stopped => 101

def text : Ending → String
  | failed report => report.text
  | _ => ""

end Ending

/-- Lays entries over layers. An index that lies in no list stops the program. -/
def lay (layers : Layers) (origin : String) (entries : List (String × ConfigValue)) :
    Except Ending Layers :=
  match layers.add origin entries with
  | some layers => .ok layers
  | none => .error .stopped

def readFile (s : Surroundings) (arguments : Arguments) : Except Ending Layers := do
  match arguments.path? .configuration with
  | none => return []
  | some path =>
    match Settings.File.read s.files path with
    | .ok (origin, entries) => lay [] origin entries
    | .error .strayKey => throw .stopped
    | .error fault => throw (.failed ⟨"failed to read configuration", [fault.message]⟩)

/-- The settings of a run: arguments override the environment, and this the settings file. -/
def readSettings (s : Surroundings) (arguments : Arguments) : Except Ending Settings := do
  let layers ← readFile s arguments
  let layers ← lay layers "the environment" (Settings.Environment.entries s.environment)
  let settings ← (Settings.ofLayers layers).mapError fun e =>
    .failed ⟨"failed to deserialise BuilderConfig", [e.message]⟩
  let settings := arguments.apply settings
  settings.validate.mapError fun text => .failed ⟨(BuildError.settings text).message, []⟩
  return settings

/-- The month that a snapshot is asked for, if there can be one by now. -/
def readMonth (now : Instant) (text : String) : Except Report Month := do
  let quoted := Text.quoted text
  let month ← (Month.parse text).mapError fun e => ⟨s!"invalid month {quoted}", [e.message]⟩
  (month.validate now).mapError fun e =>
    ⟨s!"can't build a snapshot for {month.text}: {e.message}", []⟩
  return month

def openGeo (s : Surroundings) (settings : Settings) : Except Report Geo.Database :=
  (Geo.openFile s.formats s.files settings.geoDatabase).mapError fun e =>
    let cause := LookupError.geo e
    ⟨s!"failed to open geo database {settings.geoDatabase}", cause.message :: cause.causes⟩

def locate (s : Surroundings) (settings : Settings) (month : Month) :
    Except Report LocatedSources :=
  (Source.locateAll s.files settings month s.now).mapError fun path =>
    ⟨(BuildError.missingArchive path).message, []⟩

def create (s : Surroundings) (output : String) : Except Report Store × Files :=
  let (created, files) := Store.create s.formats s.files output
  (created.mapError fun e => ⟨s!"failed to create {output}", e.message :: e.causes⟩, files)

def lookups (s : Surroundings) (settings : Settings) (geo : Geo.Database) : Lookups :=
  let registry : Whois.Registry := {
    endpoint := settings.whoisEndpoint
    batchSize := settings.whoisBatchSize
    timeout := 1000 * settings.whoisTimeout }
  { registry := fun addresses => (registry.lookup s.network addresses).mapError .whois
    geo := fun address => (geo.lookup address).mapError .geo }

/-- Fills a store that has been created, and returns the files as they are then. -/
def fill (s : Surroundings) (month : Month) (lookups : Lookups) (capacity : Nat)
    (sources : LocatedSources) (store : Store) (files : Files) : Ending × Files :=
  let reading := s.reading (sources.feeds s.formats files)
  let built := Build.run month lookups capacity reading (store.medium files)
  match built.get (Build.isSome_run reading (sources.feeds_end s.formats files)) with
  | .ok (.ok summary, medium) => (.built summary, (store.write s.formats files medium).2)
  | .ok (.error e, medium) =>
    (.failed ⟨s!"building snapshot for {month.text}", e.message :: e.causes⟩,
      (store.write s.formats files medium).2)
  | .error _ => (.stopped, files)

/-- What a build needs besides its store. -/
def prepare (s : Surroundings) (settings : Settings) (month : Month) :
    Except Report (Geo.Database × LocatedSources) := do
  let geo ← openGeo s settings
  let sources ← locate s settings month
  return (geo, sources)

/-- Builds the snapshot of a month, unless there is one that is to be kept. -/
def build (s : Surroundings) (settings : Settings) (month : Month) : Ending × Files :=
  let output := settings.outputPath month
  if settings.keepsExisting && s.files.contains output then (.kept, s.files) else
  match prepare s settings month with
  | .error report => (.failed report, s.files)
  | .ok (geo, sources) =>
    match create s output with
    | (.error report, files) => (.failed report, files)
    | (.ok store, files) =>
      fill s month (lookups s settings geo) settings.queueCapacity sources store files

def configure (s : Surroundings) (arguments : Arguments) : Except Ending (Settings × Month) := do
  let settings ← readSettings s arguments
  let month ← (readMonth s.now arguments.month).mapError .failed
  return (settings, month)

/-- Runs the program on its arguments, and returns the files as they are afterwards. -/
def run (s : Surroundings) (arguments : List String) : Ending × Files :=
  match Arguments.read arguments with
  | .error .about => (.about, s.files)
  | .error .malformed => (.malformedArguments, s.files)
  | .ok arguments =>
    match configure s arguments with
    | .error ending => (ending, s.files)
    | .ok (settings, month) => build s settings month

end CommandLine

end RelaySnapshot
