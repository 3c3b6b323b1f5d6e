import RelaySnapshot.Calendar.Month
import RelaySnapshot.Path

namespace RelaySnapshot

structure Settings where
  dataDirectory : String := "."
  /-- Where recent descriptors lie; below the data directory if nothing is given. -/
  recentDirectory : Option String := none
  output : Option String := none
  geoDatabase : String := "./GeoLite2-City.mmdb"
  whoisEndpoint : String := "whois.cymru.com:43"
  whoisBatchSize : Nat := 10000
  /-- In seconds. -/
  whoisTimeout : Nat := 300
  queueCapacity : Nat := 1
  /-- Whether a snapshot that is there already makes the build unnecessary. -/
  keepsExisting : Bool := false
  deriving DecidableEq, Repr

namespace Settings

/-- Numbers for which zero makes no sense are refused if they are zero. -/
def validate (settings : Settings) : Except String Unit :=
  if settings.whoisBatchSize = 0 then .error "whois_batch_size must be at least 1"
  else if settings.queueCapacity = 0 then .error "sink_queue_capacity must be at least 1"
  else if settings.whoisTimeout = 0 then .error "whois_timeout_secs must be at least 1"
  else .ok ()

def recentPath (settings : Settings) : String :=
  settings.recentDirectory.getD (Path.join settings.dataDirectory "recent")

def outputPath (settings : Settings) (month : Month) : String :=
  settings.output.getD s!"./server-descriptors-{month.text}.db"

/-- Where the archive of a month lies, without the ending of its name. -/
def archiveBase (settings : Settings) (month : Month) : String :=
  Path.join settings.dataDirectory s!"server-descriptors-{month.text}"

end Settings

end RelaySnapshot
