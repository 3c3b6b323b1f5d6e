import RelaySnapshot.ConfigValue
import RelaySnapshot.Settings

namespace RelaySnapshot

inductive Setting where
  | dataDirectory
  | recentDirectory
  | output
  | geoDatabase
  | whoisEndpoint
  | whoisBatchSize
  | whoisTimeout
  | queueCapacity
  | keepsExisting
  deriving DecidableEq, Repr

namespace Setting

def all : List Setting :=
  [.dataDirectory, .recentDirectory, .output, .geoDatabase, .whoisEndpoint, .whoisBatchSize,
    .whoisTimeout, .queueCapacity, .keepsExisting]

def name : Setting → String
  | dataDirectory => "data_dir"
  | recentDirectory => "recent_dir"
  | output => "output"
  | geoDatabase => "geo_db"
  | whoisEndpoint => "whois_endpoint"
  | whoisBatchSize => "whois_batch_size"
  | whoisTimeout => "whois_timeout_secs"
  | queueCapacity => "sink_queue_capacity"
  | keepsExisting => "no_clobber"

def ofName? (name : String) : Option Setting :=
  all.find? (·.name == name)

end Setting

namespace ConfigValue

def asText? : ConfigValue → Option String
  | .text s => some s
  | _ => none

def asOptionalText? : ConfigValue → Option (Option String)
  | .null => some none
  | .text s => some (some s)
  | _ => none

/-- Unsigned numbers have 64 bits. -/
def asCount? : ConfigValue → Option Nat
  | .integer i => if 0 ≤ i ∧ i < Nat.pow 2 64 then some i.toNat else none
  | _ => none

def asFlag? : ConfigValue → Option Bool
  | .flag b => some b
  | _ => none

/-- The settings with one of them changed, if the value is of its kind. -/
def apply (settings : Settings) (setting : Setting) (value : ConfigValue) : Option Settings :=
  match setting with
  | .dataDirectory => value.asText?.map fun s => { settings with dataDirectory := s }
  | .recentDirectory => value.asOptionalText?.map fun s => { settings with recentDirectory := s }
  | .output => value.asOptionalText?.map fun s => { settings with output := s }
  | .geoDatabase => value.asText?.map fun s => { settings with geoDatabase := s }
  | .whoisEndpoint => value.asText?.map fun s => { settings with whoisEndpoint := s }
  | .whoisBatchSize => value.asCount?.map fun n => { settings with whoisBatchSize := n }
  | .whoisTimeout => value.asCount?.map fun n => { settings with whoisTimeout := n }
  | .queueCapacity => value.asCount?.map fun n => { settings with queueCapacity := n }
  | .keepsExisting => value.asFlag?.map fun b => { settings with keepsExisting := b }

/-- Settings from a map by name, or from a list in the order of the settings. -/
def asSettings? : ConfigValue → Option Settings
  | .map entries =>
    entries.foldlM (fun settings (name, value) =>
      match Setting.ofName? name with
      | some setting => apply settings setting value
      | none => some settings) ({} : Settings)
  | .list items =>
    if items.length ≤ Setting.all.length then
      (Setting.all.zip items).foldlM (fun settings (setting, value) =>
        apply settings setting value) ({} : Settings)
    else none
  | _ => none

end ConfigValue

end RelaySnapshot
