import PartCache.Store.Disk
import PartCache.Store.Layout
import PartCache.Object.Decode

/-!
# File operations of a zone

The zone writes through a few composite operations over the directory tree.
They run in `DiskM`, where a failure keeps every change made before it: a
removal that fails half way leaves the files it did remove removed.

* `writeNew` makes the parent directories, takes the next number of the
  process-wide counter, creates the temporary sibling of that number (it must
  not exist), writes the bytes through it and links it at the file's name,
  which must be free; the temporary name is unlinked whatever happened, a
  failure to unlink being only logged.  A name already taken fails the call
  with `alreadyExists`, whether it was the temporary one or the file's own.
* `removeIfExists` unlinks a file; a missing one is no error, and any other
  failure names the path.
* `prepareRoot` keeps a zone directory whose settings file records the part size
  in use, and otherwise empties it (when it has entries) and records the size; it
  says whether it emptied the directory.
-/

namespace PartCache

set_option autoImplicit false

/-- An operation on the zone directory that may fail, keeping the changes made before. -/
abbrev DiskM := EStateM CacheError Disk

namespace DiskM

/-- Runs a system call that reads; its failure becomes a cache error. -/
def sys {α : Type} (call : Disk → Except OsError α) : DiskM α := fun d =>
  match call d with
  | .ok a => .ok a d
  | .error e => .error e.toCache d

/-- Runs a system call that changes the tree; its failure becomes a cache error. -/
def change (call : Disk → Except OsError Disk) : DiskM Unit := fun d =>
  match call d with
  | .ok d' => .ok () d'
  | .error e => .error e.toCache d

/-- A path as messages show it, below the root's shown name. -/
def shown (root : String) (p : RelPath) : String := p.foldl (fun acc c => acc ++ "/" ++ c) root

/-- Runs an operation and returns its failure, if any, instead of failing. -/
def attempt (op : DiskM Unit) : DiskM (Option CacheError) :=
  tryCatch (do op; pure none) fun e => pure (some e)

/-- Takes the next number of the process-wide counter of temporary files. -/
def takeTemp : DiskM UInt64 :=
  modifyGet fun d => (d.nextTemp, { d with nextTemp := d.nextTemp + 1 })

/-- Unlinks a temporary file; a failure is only logged. -/
def cleanUp (p : RelPath) : DiskM Unit := modify fun d => (d.removeFile p).toOption.getD d

/-- Publishes bytes at `p` through the name `temp`: a file created there for them is linked at
`p`, and `temp` is unlinked whatever happened. -/
def publishVia (temp p : RelPath) (data : Bytes) : DiskM Unit := do
  let result ← attempt do
    change fun d => d.createFile temp []
    modify (·.fill temp data)
    change fun d => d.hardLink temp p
  cleanUp temp
  if let some e := result then throw e

/-- Writes a file that must not exist yet: the parent directories are made, and the bytes are
published through a temporary sibling named by the next number of the count. -/
def writeNew (p : RelPath) (data : Bytes) : DiskM Unit := do
  change fun d => d.createDirAll p.dropLast
  publishVia (Layout.tempPath p (← takeTemp)) p data

/-- Unlinks a file; a missing file is no error, other failures name the path. -/
def removeIfExists (root : String) (p : RelPath) : DiskM Unit := fun d =>
  match d.removeFile p with
  | .ok d' => .ok () d'
  | .error .notFound => .ok () d
  | .error e => .error (.io (shown root p ++ ": " ++ e.text)) d

/-- Removes every entry of the root: directories with their contents, and files. -/
def wipe : DiskM Unit := do
  let names ← sys fun d => d.listDir []
  for name in names do
    let d ← get
    if d.node? [name] = some .dir then change fun d => d.removeTree [name]
    else change fun d => d.removeFile [name]

/-- The settings file a zone writes. -/
def settingsText (partSize : UInt64) : Bytes :=
  Bytes.ofString (ZoneSettings.toJson ⟨partSize⟩).render

/-- Writes the settings file of a part size. -/
def recordSettings (partSize : UInt64) : DiskM Unit :=
  change fun d => d.writeFile [Layout.settingsFile] (settingsText partSize)

/-- Readies the root for a part size and says whether it was emptied.  A root whose settings
record that size is kept as it is.  Otherwise its settings are written, after it is emptied when
they record another size or do not read, or are missing beside other entries. -/
def prepareRoot (partSize : UInt64) : DiskM Bool := do
  change fun d => d.createDirAll []
  let d ← get
  match d.readFile [Layout.settingsFile] with
  | .ok raw => match ZoneSettings.ofJson raw with
    | .ok s =>
      if s.partSize = partSize then pure false
      else do wipe; recordSettings partSize; pure true
    | .error _ => do wipe; recordSettings partSize; pure true
  | .error .notFound =>
    if (d.childNames []).isEmpty then do recordSettings partSize; pure false
    else do wipe; recordSettings partSize; pure true
  | .error e => throw e.toCache

end DiskM

theorem DiskM.get_apply (d : Disk) : (get : DiskM Disk) d = .ok d d := rfl

end PartCache
