import PartCache.Zone.State

/-!
# Serving parts

A part is served from its file when the zone holds one, and otherwise
downloaded from the upstream, if the zone has one and the object's metadata is
stored: the part's byte range comes from the metadata, and a part at or past the
end of the object does not exist.

Every request first counts as a lookup in the policy.  A part found on disk is
promoted.  A downloaded part must have exactly the length of its range; it is
then stored and promoted (a part some other writer stored meanwhile is promoted
too), and its bytes are served even when storing it failed.

Requests issued together share downloads: they are all looked up first, then
each part is downloaded once for all the requests that miss it, and every
request for it gets the same answer.
-/

namespace PartCache

set_option autoImplicit false

/-- What a part opens as: an opened file, holding bytes or standing for a node that fails
when read, or bytes just downloaded, held in memory. -/
inductive PartData where
  | stored (data : Bytes)
  | unreadable (e : OsError)
  | downloaded (data : Bytes)

namespace PartData

/-- What an opened node reads as. -/
def ofNode : Node → PartData
  | .file data => .stored data
  | .dir => .unreadable .isDir

/-- Moves past the first `n` bytes; past the end nothing is left. An opened file seeks
forward from its start with `n` taken as a signed 64-bit offset, so from 2^63 on the
offset is negative and the seek fails; bytes in memory only move their position. -/
def skip (n : UInt64) : PartData → Except OsError PartData
  | .stored data =>
    if n.toNat < UInt64.size / 2 then .ok (.stored (data.drop n.toNat)) else .error .invalidArgument
  | .unreadable e => if n.toNat < UInt64.size / 2 then .ok (.unreadable e) else .error .invalidArgument
  | .downloaded data => .ok (.downloaded (data.drop n.toNat))

/-- The bytes left to read, or the failure reading them. -/
def contents : PartData → Except CacheError Bytes
  | .stored data => .ok data
  | .unreadable e => .error e.toCache
  | .downloaded data => .ok data

end PartData

namespace Zone

/-- Downloads a part's range and stores it; the answer does not depend on whether storing
succeeded. -/
def fetchAndStore (up : Upstream) (i : PartIndex) (r : ByteRange) :
    ZoneM (Except CacheError Bytes) := do
  match up.fetch i.object.path r.first r.last with
  | .error e => pure (.error e)
  | .ok data =>
    if data.length ≠ r.size.toNat then
      pure (.error (.upstreamFetch ("expected " ++ Decimal.text r.size.toNat ++ " bytes for " ++
        i.display ++ ", got " ++ Decimal.text data.length)))
    else
      match ← onDisk (DiskM.attempt (DiskM.savePart i data)) with
      | none => do count fun m => { m with partsSaved := m.partsSaved + 1 }; promote i
      | some .alreadyExists => promote i
      | some _ => pure ()
      pure (.ok data)

/-- Runs one download, counting a failure. -/
def download (up : Upstream) (i : PartIndex) (r : ByteRange) : ZoneM (Except CacheError Bytes) := do
  let result ← fetchAndStore up i r
  if result matches .error _ then count fun m => { m with downloadsFailed := m.downloadsFailed + 1 }
  pure result

/-- Where a request stands after its lookup and open: answered, or waiting for a download. -/
inductive Pending where
  | ready (r : Except CacheError PartData)
  | waiting (i : PartIndex) (range : ByteRange)

/-- Opens a part that was looked up: from disk, or as a download to wait for. -/
def openLooked (i : PartIndex) : ZoneM Pending := do
  match ← onDisk (DiskM.openPart i) with
  | some node => do promote i; pure (.ready (.ok (PartData.ofNode node)))
  | none =>
    let z ← get
    match z.upstream with
    | none => pure (.ready (.error .notExist))
    | some _ =>
      let m ← onDisk (DiskM.readMetadata i.object)
      match m.partRange i.part z.partSize with
      | .error _ => pure (.ready (.error .notExist))
      | .ok r => pure (.waiting i r)

/-- Opens a looked-up part, turning a failure into an answer. -/
def openOrFail (i : PartIndex) : ZoneM Pending :=
  tryCatch (openLooked i) fun e => pure (.ready (.error e))

/-- Serves one part. -/
def getPart (i : PartIndex) : ZoneM PartData := do
  let _ ← lookup i
  match ← openLooked i with
  | .ready (.ok data) => pure data
  | .ready (.error e) => throw e
  | .waiting i r =>
    let z ← get
    match z.upstream with
    | none => throw .notExist
    | some up =>
      count fun m => { m with upstreamFetches := m.upstreamFetches + 1 }
      match ← download up i r with
      | .ok data => pure (.downloaded data)
      | .error e => throw e

/-- The parts that requests issued together download, each once, in order of first request. -/
def sharedDownloads : List Pending → List (PartIndex × ByteRange)
  | [] => []
  | .ready _ :: rest => sharedDownloads rest
  | .waiting i r :: rest =>
    (i, r) :: (sharedDownloads rest).filter (·.1 != i)

/-- Serves parts requested together: all are looked up, then opened, then each missing part
is downloaded once and its answer given to every request for it. -/
def getParts (id : ObjectId) (parts : List UInt32) : ZoneM (List (Except CacheError PartData)) := do
  for n in parts do
    let _ ← lookup ⟨id, n⟩
  let mut pending : List Pending := []
  for n in parts do
    pending := pending ++ [← openOrFail ⟨id, n⟩]
  let shared := sharedDownloads pending
  let waits := (pending.filter fun p => p matches .waiting ..).length
  count fun m => { m with upstreamFetches := m.upstreamFetches + shared.length }
  count fun m => { m with downloadsJoined := m.downloadsJoined + (waits - shared.length) }
  let z ← get
  let mut results : List (PartIndex × Except CacheError Bytes) := []
  if let some up := z.upstream then
    for (i, r) in shared do
      results := results ++ [(i, ← download up i r)]
  pure (pending.map fun
    | .ready r => r
    | .waiting i _ => match results.find? (·.1 == i) with
      | some (_, .ok data) => .ok (.downloaded data)
      | some (_, .error e) => .error e
      | none => .error .shutdown)

theorem sharedDownloads_nodup (ps : List Pending) :
    ((sharedDownloads ps).map Prod.fst).Nodup := by
  induction ps with
  | nil => simp [sharedDownloads]
  | cons p rest ih =>
    cases p with
    | ready r => simpa [sharedDownloads] using ih
    | waiting i r =>
      simp only [sharedDownloads, List.map_cons]
      refine List.nodup_cons.mpr ⟨?_, ?_⟩
      · simp
      · exact List.Nodup.sublist ((List.filter_sublist).map Prod.fst) ih

end Zone

end PartCache
