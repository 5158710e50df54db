import PartCache.Store.Files

/-!
# Objects on disk

Every object has a directory below the zone root, named after its digest, that
holds its metadata file `objID` and one file per stored part.  This module reads
and writes them:

* metadata is saved once and read back through the JSON reader;
* a part is saved once; a part file or directory opens, a missing one does not;
* discarding an object unlinks every entry of its directory, collecting the
  failures, and removes the directory only when all went well;
* walking visits every object directory in sorted order, skipping hidden names.
  A directory whose metadata is missing or unreadable can no longer be reached
  and is removed; temporary files are removed; part files are listed with their
  sizes, sorted.
-/

namespace PartCache

set_option autoImplicit false

namespace DiskM

/-- The metadata stored for an object. -/
def readMetadata (id : ObjectId) : DiskM ObjectMetadata := do
  let raw ← sys fun d => d.readFile (Layout.metadataPath id)
  match ObjectMetadata.ofJson raw with
  | .ok m => pure m
  | .error e => throw e

/-- The bytes metadata is stored as. -/
def metadataBytes (m : ObjectMetadata) : Bytes := Bytes.ofString m.toJson.render

/-- Stores metadata; fails with `alreadyExists` if some is stored. -/
def saveMetadata (m : ObjectMetadata) : DiskM Unit :=
  writeNew (Layout.metadataPath m.id) (metadataBytes m)

/-- Stores a part; fails with `alreadyExists` if it is stored. -/
def savePart (i : PartIndex) (data : Bytes) : DiskM Unit :=
  writeNew (Layout.partPath i) data

/-- Opens a stored part: `none` when there is none. -/
def openPart (i : PartIndex) : DiskM (Option Node) := fun d =>
  match d.openNode (Layout.partPath i) with
  | .ok n => .ok (some n) d
  | .error .notFound => .ok none d
  | .error e => .error e.toCache d

/-- Removes a stored part, if there is one. -/
def discardPart (root : String) (i : PartIndex) : DiskM Unit :=
  removeIfExists root (Layout.partPath i)

/-- Unlinks every entry of an object's directory, then removes the directory if that all
went well; the failures are combined. -/
def discard (root : String) (id : ObjectId) : DiskM Unit := do
  let dir := Layout.objectDir id
  let d ← get
  match d.listDir dir with
  | .error .notFound => pure ()
  | .error e => throw e.toCache
  | .ok names =>
    let mut errors : List CacheError := []
    for name in names do
      if let some e ← attempt (removeIfExists root (dir ++ [name])) then
        errors := errors ++ [e]
    if errors.isEmpty then
      let d ← get
      match d.removeDir dir with
      | .ok d' => set d'
      | .error .notFound => pure ()
      | .error e => errors := errors ++ [.io (shown root dir ++ ": " ++ e.text)]
    match CacheError.combine errors with
    | .ok () => pure ()
    | .error e => throw e

end DiskM

/-! ## Walking the zone -/

/-- An object found on disk: its metadata and its part files with their sizes. -/
structure ObjectEntry where
  metadata : ObjectMetadata
  parts : List (UInt32 × Nat)

namespace Disk

/-- The directories directly inside a directory, hidden ones left out, sorted by name. -/
def subdirs (d : Disk) (p : RelPath) : List RelPath :=
  let names := (d.childNames p).filter fun n => !n.startsWith "." && d.node? (p ++ [n]) = some .dir
  (names.mergeSort fun a b => decide (a ≤ b)).map (p ++ [·])

/-- The object directories four levels down, in the order a walk visits them. -/
def objectDirs (d : Disk) : List RelPath :=
  (d.subdirs []).flatMap fun ns => (d.subdirs ns).flatMap fun a =>
    (d.subdirs a).flatMap fun b => d.subdirs b

end Disk

namespace DiskM

/-- The part files of an object directory with their sizes; temporary files are removed. -/
def partFiles (root : String) (dir : RelPath) : DiskM (List (UInt32 × Nat)) := do
  let names ← sys fun d => d.listDir dir
  let mut parts : List (UInt32 × Nat) := []
  for name in names do
    match Layout.partNumber? name with
    | some n =>
      let d ← get
      parts := parts ++ [(n, ((d.node? (dir ++ [name])).map Node.size).getD 0)]
    | none => if Layout.isTempName name then removeIfExists root (dir ++ [name])
  pure (parts.mergeSort fun a b => decide (a.1 < b.1 ∨ (a.1 = b.1 ∧ a.2 ≤ b.2)))

/-- Reads one object directory; one without readable metadata is removed. -/
def readObjectDir (root : String) (dir : RelPath) : DiskM (Option ObjectEntry) := do
  let d ← get
  match d.readFile (dir ++ [Layout.metadataFile]) with
  | .ok raw => match ObjectMetadata.ofJson raw with
    | .ok m => pure (some ⟨m, ← partFiles root dir⟩)
    | .error _ => do change fun d => d.removeTree dir; pure none
  | .error .notFound => do change fun d => d.removeTree dir; pure none
  | .error e => throw e.toCache

/-- Walks every object directory, in order, with what was found in each. -/
def walk (root : String) : DiskM (List (Except CacheError ObjectEntry)) := do
  let d ← get
  let mut found : List (Except CacheError ObjectEntry) := []
  for dir in d.objectDirs do
    let r ← tryCatch ((fun e => Except.ok e) <$> readObjectDir root dir)
      fun e => pure (.error e)
    match r with
    | .ok (some e) => found := found ++ [.ok e]
    | .ok none => pure ()
    | .error e => found := found ++ [.error e]
  pure found

end DiskM

theorem Disk.subdirs_length (d : Disk) (p q : RelPath) (h : q ∈ d.subdirs p) :
    q.length = p.length + 1 := by
  simp only [Disk.subdirs, List.mem_map] at h
  obtain ⟨_, _, rfl⟩ := h
  simp

theorem Disk.objectDirs_depth (d : Disk) (q : RelPath) (h : q ∈ d.objectDirs) : q.length = 4 := by
  simp only [Disk.objectDirs, List.mem_flatMap] at h
  obtain ⟨ns, hns, a, ha, b, hb, hq⟩ := h
  have h1 := Disk.subdirs_length d _ _ hns
  have h2 := Disk.subdirs_length d _ _ ha
  have h3 := Disk.subdirs_length d _ _ hb
  have h4 := Disk.subdirs_length d _ _ hq
  simp at h1
  omega

end PartCache
