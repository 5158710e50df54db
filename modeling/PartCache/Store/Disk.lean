import PartCache.Error
import PartCache.Bytes

/-!
# The zone directory as a tree of files

A zone keeps everything under one root directory.  The tree below the root is a
flat list of entries, each a path relative to the root (its components) and a
node, a file with its bytes or a directory; the root itself is the empty path
and always a directory.  Entries are kept in the order they were created, which
is the order a directory lists its children in.  Beside the tree stands the
process-wide counter that numbers temporary files.

Each operation resolves its path the way the operating system does: going down
from the root, a missing component fails with `notFound`, and a file met where a
directory was needed fails with `notDir`.  A name longer than the 255 bytes a
directory entry holds is never found: looking it up fails with `nameTooLong`
instead of `notFound`, so nothing can be created under it either.  Then the
operation acts on the last component:

* reading a directory fails with `isDir`, as does unlinking one;
* removing a non-empty directory with `rmdir` fails with `notEmpty`;
* creating what exists fails with `taken`;
* `createDirAll` makes every missing directory of a path, shortest first;
* `hardLink` gives an existing file a second name, which must be free; since a
  linked file is never written again here, the second name holds a copy.
-/

namespace PartCache

set_option autoImplicit false

/-- A failure of a file-system call, by its error number. -/
inductive OsError where
  /-- `ENOENT`: a component is missing. -/
  | notFound
  /-- `EEXIST`: the name is taken. -/
  | taken
  /-- `ENOTDIR`: a file stands where a directory is needed. -/
  | notDir
  /-- `EISDIR`: a directory stands where a file is needed. -/
  | isDir
  /-- `ENOTEMPTY`: a directory to remove still has children. -/
  | notEmpty
  /-- `EINVAL`: an argument is out of range, such as a seek to before a file's start. -/
  | invalidArgument
  /-- `EPERM`: the call is not allowed on this node, such as linking a directory. -/
  | notPermitted
  /-- `ENAMETOOLONG`: a name is longer than a directory entry can hold. -/
  | nameTooLong
  deriving DecidableEq, Repr, Inhabited

namespace OsError

/-- The text the system gives for an error number. -/
def text : OsError → String
  | notFound => "No such file or directory (os error 2)"
  | taken => "File exists (os error 17)"
  | notDir => "Not a directory (os error 20)"
  | isDir => "Is a directory (os error 21)"
  | notEmpty => "Directory not empty (os error 39)"
  | invalidArgument => "Invalid argument (os error 22)"
  | notPermitted => "Operation not permitted (os error 1)"
  | nameTooLong => "File name too long (os error 36)"

/-- The kind of the error as a byte-stream error. -/
def kind : OsError → IoKind
  | notFound => .notFound
  | taken => .alreadyExists
  | notDir => .notADirectory
  | isDir => .isADirectory
  | notEmpty => .directoryNotEmpty
  | invalidArgument => .invalidInput
  | notPermitted => .permissionDenied
  | nameTooLong => .invalidFilename

/-- The error as a byte-stream error. -/
def asStreamError (e : OsError) : IoError := ⟨e.kind, e.text⟩

/-- The error as a cache error: a missing name is `notExist`, a taken one `alreadyExists`. -/
def toCache : OsError → CacheError
  | notFound => .notExist
  | taken => .alreadyExists
  | e => .io e.text

end OsError

/-- A path below the zone root, by its components. -/
abbrev RelPath := List String

/-- What stands at a path. -/
inductive Node where
  | file (data : Bytes)
  | dir
  deriving DecidableEq, Repr, Inhabited

/-- The size the system reports for a node: a file's length, a directory's block. -/
def Node.size : Node → Nat
  | .file data => data.length
  | .dir => 4096

/-- The tree below the zone root, entries in the order they were created, and the number the
process gives its next temporary file. -/
structure Disk where
  entries : List (RelPath × Node)
  nextTemp : UInt64
  deriving Inhabited

namespace Disk

/-- The empty tree, only the root, in a process that has numbered `n` temporary files. -/
def empty (n : UInt64) : Disk := ⟨[], n⟩

/-- The node at a path; the root is a directory. -/
def node? (d : Disk) (p : RelPath) : Option Node :=
  if p = [] then some .dir else (d.entries.find? (·.1 == p)).map (·.2)

/-- Whether the last name of a path is longer than the 255 bytes a directory entry holds. -/
def overlong (p : RelPath) : Bool := p.getLast?.any fun n => 255 < n.utf8ByteSize

/-- The failure of looking up a path at which nothing stands. -/
def absent (p : RelPath) : OsError := if overlong p then .nameTooLong else .notFound

/-- Resolves the directories leading to a path, shortest first. -/
def reach (d : Disk) (p : RelPath) : Except OsError Unit :=
  go ((List.range p.length).map p.take)
where
  go : List RelPath → Except OsError Unit
    | [] => .ok ()
    | q :: qs => match d.node? q with
      | some .dir => go qs
      | some (.file _) => .error .notDir
      | none => .error (absent q)

/-- Resolves a path and returns what stands there, if anything; a name too long to stand
anywhere cannot be looked up. -/
def look (d : Disk) (p : RelPath) : Except OsError (Option Node) := do
  d.reach p
  if (d.node? p).isNone && overlong p then throw .nameTooLong
  pure (d.node? p)

/-- Sets the node at a path: replaced in place, or added as the newest entry. -/
def put (d : Disk) (p : RelPath) (n : Node) : Disk :=
  if d.entries.any (·.1 == p) then
    { d with entries := d.entries.map fun e => if e.1 == p then (p, n) else e }
  else { d with entries := d.entries ++ [(p, n)] }

/-- Whether `q` lies strictly below `p`. -/
def isBelow (p q : RelPath) : Bool := p.length < q.length && q.take p.length == p

/-- Drops a path and everything below it. -/
def dropTree (d : Disk) (p : RelPath) : Disk :=
  { d with entries := d.entries.filter fun e => !(e.1 == p || isBelow p e.1) }

/-- The names directly inside a directory, oldest first. -/
def childNames (d : Disk) (p : RelPath) : List String :=
  d.entries.filterMap fun e =>
    if e.1.length = p.length + 1 && e.1.take p.length == p then e.1.getLast? else none

/-! ## System calls -/

/-- Reads a whole file. -/
def readFile (d : Disk) (p : RelPath) : Except OsError Bytes := do
  match ← d.look p with
  | some (.file data) => pure data
  | some .dir => throw .isDir
  | none => throw .notFound

/-- Opens a file or directory for reading; it must exist. -/
def openNode (d : Disk) (p : RelPath) : Except OsError Node := do
  match ← d.look p with
  | some n => pure n
  | none => throw .notFound

/-- Creates or truncates a file with the given bytes. -/
def writeFile (d : Disk) (p : RelPath) (data : Bytes) : Except OsError Disk := do
  match ← d.look p with
  | some .dir => throw .isDir
  | _ => pure (d.put p (.file data))

/-- Creates a file that must not exist yet. -/
def createFile (d : Disk) (p : RelPath) (data : Bytes) : Except OsError Disk := do
  match ← d.look p with
  | some _ => throw .taken
  | none => pure (d.put p (.file data))

/-- Creates a directory and the missing directories above it, shortest first; a missing name
too long for a directory entry fails the call before anything is made. -/
def createDirAll (d : Disk) (p : RelPath) : Except OsError Disk :=
  match d.node? p with
  | some .dir => .ok d
  | some (.file _) => .error .taken
  | none =>
    let above := (List.range p.length).map p.take
    if above.any fun q => d.node? q matches some (.file _) then .error .notDir
    else if (above ++ [p]).any fun q => (d.node? q).isNone && overlong q then .error .nameTooLong
    else .ok ((above ++ [p]).foldl (fun d q => if (d.node? q).isSome then d else d.put q .dir) d)

/-- Unlinks a file. -/
def removeFile (d : Disk) (p : RelPath) : Except OsError Disk := do
  match ← d.look p with
  | some (.file _) => pure (d.dropTree p)
  | some .dir => throw .isDir
  | none => throw .notFound

/-- Links an existing file at a second name, which must be free: a missing file fails with
`notFound`, a taken name with `taken`, and a directory cannot be linked. -/
def hardLink (d : Disk) (src dst : RelPath) : Except OsError Disk := do
  let n ← match ← d.look src with
    | some n => pure n
    | none => throw .notFound
  match ← d.look dst with
  | some _ => throw .taken
  | none => match n with
    | .file data => pure (d.put dst (.file data))
    | .dir => throw .notPermitted

/-- Writes through the handle of a file just created, which the tree knows by its name: the
bytes replace the file's; had no file stood under the name any more, nothing would change. -/
def fill (d : Disk) (p : RelPath) (data : Bytes) : Disk :=
  match d.node? p with
  | some (.file _) => d.put p (.file data)
  | _ => d

/-- Removes an empty directory. -/
def removeDir (d : Disk) (p : RelPath) : Except OsError Disk := do
  match ← d.look p with
  | some .dir => if d.childNames p = [] then pure (d.dropTree p) else throw .notEmpty
  | some (.file _) => throw .notDir
  | none => throw .notFound

/-- Removes a directory with everything in it. -/
def removeTree (d : Disk) (p : RelPath) : Except OsError Disk := do
  match ← d.look p with
  | some .dir => pure (d.dropTree p)
  | some (.file _) => throw .notDir
  | none => throw .notFound

/-- Lists a directory, oldest entry first. -/
def listDir (d : Disk) (p : RelPath) : Except OsError (List String) := do
  match ← d.look p with
  | some .dir => pure (d.childNames p)
  | some (.file _) => throw .notDir
  | none => throw .notFound

/-- Every entry below the root, as a name relative to the root (directories end in a slash)
and a size (zero for directories), sorted by name. -/
def listing (d : Disk) : List (String × Nat) :=
  let rows := d.entries.map fun
    | (p, .file data) => ("/".intercalate p, data.length)
    | (p, .dir) => ("/".intercalate p ++ "/", 0)
  rows.mergeSort fun a b => decide (a.1 ≤ b.1)

end Disk

end PartCache
