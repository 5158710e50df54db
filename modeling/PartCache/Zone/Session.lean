import PartCache.Zone.Writer
import PartCache.Zone.Reader
import PartCache.Zone.Restore
import PartCache.Config

/-!
# A zone session

A session opens a zone on a directory and answers requests one after another.
Opening checks the zone's settings, readies the directory for its part size, and
starts with an empty policy, zeroed counters and no pending expiries.  Reopening
shuts the open zone down and opens a new one on the same directory; while no
zone is open (after a failed open) every request but reopening is refused.

Requests name objects by path and, optionally, cache key; the key defaults to
the zone's id.  Requests on the directory itself (writing, removing or making raw
entries, the settings file, listing every file) are answered whether or not a
zone is open; a raw entry's name is resolved from its object's directory as the
system resolves it, so `..` reaches above that directory.  A write that sets the
directory up and fails ends the whole session with its error; other failures of
the system calls are answered as stream errors.
-/

namespace PartCache

set_option autoImplicit false

/-- An object as a request names it: an optional cache key and a path. -/
structure ObjectRef where
  key : Option String
  path : String

/-- Metadata as a request gives it. -/
structure MetadataSpec where
  object : ObjectRef
  size : UInt64
  status : Nat
  timestamp : Int
  expiresAt : Int
  headers : Headers

/-- A request on the zone's directory itself, which needs no open zone. -/
inductive DirectoryRequest where
  /-- Writes a file in an object's directory, making the directory first. -/
  | writeFile (o : ObjectRef) (file : String) (data : Bytes)
  | removeFile (o : ObjectRef) (file : String)
  /-- Makes a directory, and any missing above it, in an object's directory. -/
  | makeDir (o : ObjectRef) (file : String)
  | writeSettings (data : Bytes)
  | removeSettings
  | readSettings
  | listFiles

/-- A request to a zone session. -/
inductive ZoneRequest where
  /-- Saves metadata, then schedules the object's expiry. -/
  | cacheMetadata (m : MetadataSpec)
  | saveMetadata (m : MetadataSpec)
  | scheduleExpiry (m : MetadataSpec)
  | getMetadata (o : ObjectRef)
  /-- Writes chunks of a response body covering a content range, closing if asked. -/
  | write (o : ObjectRef) (range : ContentRange) (chunks : List Bytes) (close : Bool)
  | read (o : ObjectRef) (first last : UInt64)
  /-- Serves a part and skips its first bytes. -/
  | getPart (o : ObjectRef) (part : UInt32) (skip : UInt64)
  | getParts (o : ObjectRef) (parts : List UInt32)
  | savePart (o : ObjectRef) (part : UInt32) (data : Bytes)
  | discard (o : ObjectRef)
  | discardPart (o : ObjectRef) (part : UInt32)
  | purge (o : ObjectRef)
  | stats
  | metrics
  | metricsText
  | contains (o : ObjectRef) (part : UInt32)
  | lookup (o : ObjectRef) (part : UInt32)
  | add (o : ObjectRef) (part : UInt32)
  | promote (o : ObjectRef) (part : UInt32)
  | scheduled (o : ObjectRef)
  | partIndexes (o : ObjectRef) (first last : UInt64)
  | indexForOffset (o : ObjectRef) (offset : UInt64)
  | walk
  | restore
  | reopen (config : ZoneConfig) (upstream : Option Upstream)
  | shutdown
  | directory (r : DirectoryRequest)

/-- The answer to a request. -/
inductive ZoneReply where
  | done
  | failed (e : CacheError)
  | streamFailed (e : IoError)
  /-- No zone is open. -/
  | noZone
  | flag (b : Bool)
  | metadata (m : ObjectMetadata)
  | bytes (data : Bytes)
  | partList (results : List (Except CacheError Bytes))
  | written (r : WriteReport)
  | readBack (r : ReadReport)
  | stats (s : Tiers.Stats)
  | metrics (m : Metrics)
  | text (s : String)
  | walked (entries : List (Except CacheError ObjectEntry))
  | restored (r : RestoreReport)
  | files (rows : List (String × Nat))
  | parts (ps : List UInt32)
  | part (p : UInt32)

namespace DirectoryRequest

/-- The directory of an object, its cache key defaulting to `key`. -/
def objectDir (key : String) (o : ObjectRef) : RelPath :=
  Layout.objectDir ⟨o.key.getD key, o.path⟩

/-- The path a file name given in an object's directory stands for, resolved the way the
system resolves it through existing directories: the name is cut at each slash, an empty
piece or `.` stays where it is, and `..` goes up one directory. -/
def pathOf (dir : RelPath) (file : String) : RelPath :=
  (file.splitOn "/").foldl (fun p piece =>
    if piece = "" ∨ piece = "." then p else if piece = ".." then p.dropLast else p ++ [piece]) dir

/-- The reply to a write that sets the directory up, or the error that ends the session. -/
def setUp (call : Except OsError Disk) : Except IoError (ZoneReply × Disk) :=
  match call with
  | .ok d => .ok (.done, d)
  | .error e => .error e.asStreamError

/-- Answers a request on the directory `d`, where `key` is the default cache key: a reply
and the directory after it, or the error of a failed set-up write (of a file, a directory
or the settings), which ends the session. Failing to remove or read a file is answered as
a stream error, and removing the settings file succeeds whether or not it is there. -/
def answer (key : String) (d : Disk) : DirectoryRequest → Except IoError (ZoneReply × Disk)
  | .writeFile o file data =>
    let dir := objectDir key o
    setUp (d.createDirAll dir >>= fun d => d.writeFile (pathOf dir file) data)
  | .removeFile o file =>
    match d.removeFile (pathOf (objectDir key o) file) with
    | .ok d' => .ok (.done, d')
    | .error e => .ok (.streamFailed e.asStreamError, d)
  | .makeDir o file => setUp (d.createDirAll (pathOf (objectDir key o) file))
  | .writeSettings data => setUp (d.writeFile [Layout.settingsFile] data)
  | .removeSettings => .ok (.done, (d.removeFile [Layout.settingsFile]).toOption.getD d)
  | .readSettings =>
    match d.readFile [Layout.settingsFile] with
    | .ok raw => .ok (.text (Bytes.toStringLossy raw), d)
    | .error e => .ok (.streamFailed e.asStreamError, d)
  | .listFiles => .ok (.files d.listing, d)

end DirectoryRequest

/-- A session: an open zone, or the directory left by a failed open with the id of the
zone that failed. -/
inductive Session where
  | live (z : Zone)
  | closed (id : String) (disk : Disk)

namespace Zone

/-- Opens a zone on a directory: checks its settings and readies the directory. -/
def openOn (root : String) (c : ZoneConfig) (up : Option Upstream) (d : Disk) :
    Except CacheError Zone × Disk :=
  match c.validate with
  | .error e => (.error e, d)
  | .ok () =>
    match DiskM.prepareRoot c.partSize d with
    | .error e d' => (.error e, d')
    | .ok _ d' =>
      (.ok ⟨root, c.id, c.partSize, d', Tiers.empty c.storageObjects.toNat, Metrics.zero, [], true,
        up⟩, d')

/-- The object a request names, the key defaulting to the zone's id. -/
def resolve (z : Zone) (o : ObjectRef) : ObjectId := ⟨o.key.getD z.id, o.path⟩

/-- Metadata from a request. -/
def metadataOf (z : Zone) (m : MetadataSpec) : ObjectMetadata :=
  ⟨z.resolve m.object, m.timestamp, m.status, m.size, m.headers, m.expiresAt⟩

/-- The part numbers a byte range covers, the bounds cut to 32 bits. -/
def indexesOf (partSize : UInt64) (r : ByteRange) : List UInt32 :=
  let a := (r.first / partSize).toUInt32
  let b := (r.last / partSize).toUInt32
  (List.range (b.toNat + 1 - a.toNat)).map fun k => (a.toNat + k).toUInt32

/-- Answers a request on an open zone, other than reopening. -/
def answer (now : Int) : ZoneRequest → ZoneM ZoneReply
  | .cacheMetadata spec => do
    let m := (← get).metadataOf spec
    onDisk (DiskM.saveMetadata m)
    schedule now m
    pure .done
  | .saveMetadata spec => do
    onDisk (DiskM.saveMetadata ((← get).metadataOf spec))
    pure .done
  | .scheduleExpiry spec => do
    schedule now ((← get).metadataOf spec)
    pure .done
  | .getMetadata o => do
    pure (.metadata (← onDisk (DiskM.readMetadata ((← get).resolve o))))
  | .write o range chunks closing => do
    let z ← get
    pure (.written (← PartWriter.session Zone.sink z.partSize.toNat (PartWriter.new (z.resolve o) range)
      chunks closing))
  | .read o first last => do
    pure (.readBack (← readRange ((← get).resolve o) first last))
  | .getPart o n skip => do
    match (← getPart ⟨(← get).resolve o, n⟩).skip skip with
    | .error e => pure (.streamFailed e.asStreamError)
    | .ok data =>
      match data.contents with
      | .ok bytes => pure (.bytes bytes)
      | .error e => throw e
  | .getParts o ns => do
    let rs ← getParts ((← get).resolve o) ns
    pure (.partList (rs.map fun r => r.bind PartData.contents))
  | .savePart o n data => do
    onDisk (DiskM.savePart ⟨(← get).resolve o, n⟩ data)
    pure .done
  | .discard o => do
    let z ← get
    onDisk (DiskM.discard z.root (z.resolve o))
    pure .done
  | .discardPart o n => do
    let z ← get
    onDisk (DiskM.discardPart z.root ⟨z.resolve o, n⟩)
    pure .done
  | .purge o => do pure (.flag (← purge ((← get).resolve o)))
  | .stats => do
    let z ← get
    pure (.stats (z.tiers.stats z.partSize))
  | .metrics => do pure (.metrics (← get).metrics)
  | .metricsText => do
    let z ← get
    pure (.text (Metrics.text z.id z.metrics))
  | .contains o n => do
    let z ← get
    pure (.flag (z.tiers.contains ⟨z.resolve o, n⟩))
  | .lookup o n => do pure (.flag (← lookup ⟨(← get).resolve o, n⟩))
  | .add o n => do
    add ⟨(← get).resolve o, n⟩
    pure .done
  | .promote o n => do
    promote ⟨(← get).resolve o, n⟩
    pure .done
  | .scheduled o => do
    let z ← get
    pure (.flag (z.isScheduled (z.resolve o)))
  | .partIndexes _ first last => do
    let z ← get
    match ByteRange.make first last with
    | .ok r => pure (.parts (indexesOf z.partSize r))
    | .error e => throw e
  | .indexForOffset _ offset => do
    pure (.part (offset / (← get).partSize).toUInt32)
  | .walk => do pure (.walked (← walk))
  | .restore => do pure (.restored (← restore now))
  | .shutdown => do
    shutdown
    pure .done
  | .reopen .. | .directory _ => pure .done

end Zone

namespace Session

/-- Opens a session's zone on a fresh directory, in a process that has numbered `temps`
temporary files. -/
def start (root : String) (c : ZoneConfig) (up : Option Upstream) (temps : UInt64) :
    Except CacheError Session :=
  match Zone.openOn root c up (Disk.empty temps) with
  | (.ok z, _) => .ok (.live z)
  | (.error e, _) => .error e

/-- The directory of a session. -/
def disk : Session → Disk
  | .live z => z.disk
  | .closed _ d => d

/-- The id of the session's zone, the default cache key. -/
def id : Session → String
  | .live z => z.id
  | .closed id _ => id

/-- The session with its directory replaced. -/
def withDisk (d : Disk) : Session → Session
  | .live z => .live { z with disk := d }
  | .closed id _ => .closed id d

/-- The number of parts the open zone tracks. -/
def tracked : Session → Option Nat
  | .live z => some z.tiers.count
  | .closed _ _ => none

/-- Answers one request at time `now`, or fails with the error that ends the session. -/
def step (root : String) (now : Int) (s : Session) :
    ZoneRequest → Except IoError (ZoneReply × Session)
  | .reopen c up =>
    match Zone.openOn root c up s.disk with
    | (.ok z, _) => .ok (.done, .live z)
    | (.error e, d) => .ok (.failed e, .closed c.id d)
  | .directory r => do
    let (reply, d) ← r.answer s.id s.disk
    pure (reply, s.withDisk d)
  | r =>
    match s with
    | .closed id d => .ok (.noZone, .closed id d)
    | .live z =>
      match Zone.answer now r z with
      | .ok reply z' => .ok (reply, .live z')
      | .error e z' => .ok (.failed e, .live z')

/-- Answers requests in order, each with the tracked count after it, or gives the error
that ended the session; beside them, the session as the last request answered left it. -/
def run (root : String) (now : Int) :
    Session → List ZoneRequest → Except IoError (List (ZoneReply × Option Nat)) × Session
  | s, [] => (.ok [], s)
  | s, r :: rs =>
    match step root now s r with
    | .error e => (.error e, s)
    | .ok (reply, s') =>
      let (rest, last) := run root now s' rs
      (rest.map ((reply, s'.tracked) :: ·), last)

theorem step_closed_refuses (root : String) (now : Int) (id : String) (d : Disk)
    (r : ZoneRequest) (h : ∀ c up, r ≠ .reopen c up) (hd : ∀ q, r ≠ .directory q) :
    step root now (.closed id d) r = .ok (.noZone, .closed id d) := by
  cases r with
  | reopen c up => exact absurd rfl (h c up)
  | directory q => exact absurd rfl (hd q)
  | _ => rfl

end Session

end PartCache
