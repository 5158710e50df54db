import PartCache.Zone.Parts

/-!
# Purging and restoring objects

Purging an object stops tracking its parts and discards its directory.  It says
whether there was anything: a tracked part, or stored metadata (metadata that
cannot be read counts as stored).  A pending expiry is left in place.

Restoring rebuilds a zone's state from its directory after opening.  It walks
the objects on disk and, for each one:

* an expired object is discarded;
* a part file whose size is not the size of that part of the object (or that lies
  past the end of the object) is discarded;
* every other part is added to the policy (one already tracked is not counted);
* the object's expiry is scheduled.

Objects that vanished during the walk are skipped; other unreadable ones are
counted as errors.  A failure to discard ends the restore.
-/

namespace PartCache

set_option autoImplicit false

/-- What restoring a zone found and did. -/
structure RestoreReport where
  objects : Nat := 0
  parts : Nat := 0
  expired : Nat := 0
  invalidParts : Nat := 0
  errors : Nat := 0
  deriving Inhabited, Repr

namespace Zone

/-- Stops tracking an object and discards it; says whether anything was there. -/
def purge (id : ObjectId) : ZoneM Bool := do
  let tracked ← forget id
  let stored ← tryCatch (do let _ ← onDisk (DiskM.readMetadata id); pure true)
    fun e => pure !e.isNotExist
  let z ← get
  onDisk (DiskM.discard z.root id)
  count fun m => { m with purges := m.purges + 1 }
  pure (tracked || stored)

/-- Whether a stored part file has the size of its range in the object. -/
def validPart (m : ObjectMetadata) (partSize : UInt64) (part : UInt32) (size : Nat) : Bool :=
  match m.partRange part partSize with
  | .ok r => r.size.toNat = size
  | .error _ => false

/-- Restores one walked object into the report. -/
def restoreObject (now : Int) (e : ObjectEntry) (report : RestoreReport) : ZoneM RestoreReport := do
  let m := e.metadata
  let z ← get
  if m.isExpired now then
    onDisk (DiskM.discard z.root m.id)
    pure { report with expired := report.expired + 1 }
  else
    let mut report := report
    for (n, size) in e.parts do
      let i : PartIndex := ⟨m.id, n⟩
      if !validPart m z.partSize n size then
        onDisk (DiskM.discardPart z.root i)
        report := { report with invalidParts := report.invalidParts + 1 }
      else
        match ← tryCatch (do add i; pure none) fun e => pure (some e) with
        | none => report := { report with parts := report.parts + 1 }
        | some .alreadyInCache => pure ()
        | some e => throw e
    schedule now m
    pure { report with objects := report.objects + 1 }

/-- Walks the zone's directory. -/
def walk : ZoneM (List (Except CacheError ObjectEntry)) := do
  let z ← get
  onDisk (DiskM.walk z.root)

/-- Restores every object found on disk. -/
def restore (now : Int) : ZoneM RestoreReport := do
  let entries ← walk
  let mut report : RestoreReport := {}
  for e in entries do
    match e with
    | .ok entry => report ← restoreObject now entry report
    | .error .notExist => pure ()
    | .error _ => report := { report with errors := report.errors + 1 }
  pure report

theorem validPart_iff (m : ObjectMetadata) (partSize : UInt64) (part : UInt32) (size : Nat) :
    validPart m partSize part size = true ↔
      ∃ r, m.partRange part partSize = .ok r ∧ r.size.toNat = size := by
  unfold validPart
  split <;> simp_all

end Zone

end PartCache
