import PartCache.Config.Yaml

/-!
# The command line

The cache is configured by a YAML file.  This program reads such a
configuration from standard input, checks it, and prints what it sets up: the
upstream origin and its timeout, then each zone with its directory, its part size
in KiB and its capacity in parts.  A configuration that does not read, or does
not pass its checks, is reported on standard error with exit code 1.
-/

namespace PartCache

set_option autoImplicit false

/-- A text as a debugging view quotes it: in double quotes, with quotes and backslashes
escaped. -/
def debugQuote (s : String) : String :=
  "\"" ++ String.join (s.toList.map fun c =>
    if c == '"' then "\\\"" else if c == '\\' then "\\\\" else String.singleton c) ++ "\""

/-- The lines describing a checked configuration. -/
def CacheConfig.summary (c : CacheConfig) : List String :=
  let upstream := match c.upstreamUrl with
    | some u => "Some(" ++ debugQuote u ++ ")"
    | none => "None"
  ["Configuration loaded successfully", "  - Upstream: " ++ upstream,
    "  - Upstream timeout: " ++ Decimal.text c.upstreamTimeoutSecs.toNat ++ " seconds"] ++
  c.zones.map fun z =>
    "  - Zone " ++ z.id ++ ": " ++ z.path ++ " (part_size=" ++
      Decimal.text (z.partSize.toNat / 1024) ++ " KB, storage_objects=" ++
      Decimal.text z.storageObjects.toNat ++ ")"

end PartCache

/-- Reads standard input to its end. -/
partial def readAll (stream : IO.FS.Stream) (acc : String) : IO String := do
  let line ← stream.getLine
  if line.isEmpty then pure acc else readAll stream (acc ++ line)

/-- Checks the configuration on standard input and describes it. -/
def main : IO UInt32 := do
  let text ← readAll (← IO.getStdin) ""
  match PartCache.CacheConfig.ofYaml text with
  | .ok c =>
    for line in c.summary do
      IO.println line
    pure 0
  | .error e =>
    IO.eprintln ("Error: " ++ e.message)
    pure 1
