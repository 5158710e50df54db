import PartCache.Number.Decimal

/-!
# Counters of a zone

A zone counts what it does: downloads started, joined and failed, parts saved,
parts evicted, objects purged and objects expired.  The counters start at zero
whenever a zone is opened.  They are published as text in the exposition format
of monitoring systems: for each counter, sorted by name, a `# HELP` line, a
`# TYPE` line and the sample line labelled with the zone's id.
-/

namespace PartCache

set_option autoImplicit false

/-- The counters of a zone. -/
structure Metrics where
  upstreamFetches : Nat := 0
  downloadsJoined : Nat := 0
  downloadsFailed : Nat := 0
  partsSaved : Nat := 0
  evictions : Nat := 0
  purges : Nat := 0
  expirations : Nat := 0
  deriving Inhabited, Repr

namespace Metrics

/-- All counters at zero. -/
def zero : Metrics := {}

/-- A label value with backslash, double quote and line feed escaped. -/
def escapeLabel (s : String) : String :=
  String.ofList (s.toList.flatMap fun c =>
    if c = '\\' then ['\\', '\\'] else if c = '"' then ['\\', '"']
    else if c = '\n' then ['\\', 'n'] else [c])

/-- Each counter's name, help text and value, sorted by name. -/
def table (m : Metrics) : List (String × String × Nat) :=
  [("downloads_failed_total", "Number of part downloads that failed", m.downloadsFailed),
   ("downloads_joined_total",
    "Number of part requests served by a download already in flight", m.downloadsJoined),
   ("evictions_total", "Number of parts evicted", m.evictions),
   ("expirations_total", "Number of expired objects discarded", m.expirations),
   ("parts_saved_total", "Number of parts written to disk", m.partsSaved),
   ("purges_total", "Number of purged objects", m.purges),
   ("upstream_fetches_total", "Number of part downloads started against the upstream",
    m.upstreamFetches)]

/-- The three lines of one counter. -/
def lines (zone : String) (row : String × String × Nat) : List String :=
  let (name, help, value) := row
  let full := "zone_cache_" ++ name
  ["# HELP " ++ full ++ " " ++ help, "# TYPE " ++ full ++ " counter",
   full ++ "\x7bzone=\"" ++ escapeLabel zone ++ "\"\x7d " ++ Decimal.text value]

/-- The counters as exposition text, each line ended by a line feed. -/
def text (zone : String) (m : Metrics) : String :=
  String.join ((m.table.flatMap (lines zone)).map (· ++ "\n"))

end Metrics

end PartCache
