import PartCache.Store.Objects
import PartCache.Eviction.Tiers
import PartCache.Zone.Metrics
import PartCache.Zone.Upstream

/-!
# A zone and its bookkeeping

A zone binds one directory, one tiered eviction policy over its parts, its
counters, its pending expiries and, optionally, an upstream to fill misses
from.  Its operations run in `ZoneM`, where a failure keeps the changes made
before it.

Two kinds of follow-up work run after an operation, before the next one:

* A part the policy evicts is deleted from disk, unless it was read again in
  the meantime; each deletion counts as an eviction.
* An object whose expiry is due is dropped from the policy and its directory
  discarded; each successful discard counts as an expiration.  An expiry
  scheduled for a time already past is due at once; later ones stay pending
  until the scheduler is shut down.
-/

namespace PartCache

set_option autoImplicit false

/-- One open zone: its directory, policy, counters, expiries and upstream. -/
structure Zone where
  /-- How the root directory is shown in messages. -/
  root : String
  id : String
  partSize : UInt64
  disk : Disk
  tiers : Tiers
  metrics : Metrics
  /-- Objects with an expiry pending, most recently scheduled first. -/
  expiries : List ObjectId
  /-- Whether the expiry scheduler runs; once shut down it takes nothing new. -/
  scheduling : Bool
  upstream : Option Upstream

/-- An operation on a zone that may fail, keeping the changes made before. -/
abbrev ZoneM := EStateM CacheError Zone

namespace Zone

/-- Runs an operation on the directory. -/
def onDisk {α : Type} (op : DiskM α) : ZoneM α := fun z =>
  match op z.disk with
  | .ok a d => .ok a { z with disk := d }
  | .error e d => .error e { z with disk := d }

/-- Changes the counters. -/
def count (f : Metrics → Metrics) : ZoneM Unit := modify fun z => { z with metrics := f z.metrics }

/-! ## Evictions -/

/-- Deletes an evicted part unless it is tracked again; a failed deletion is only logged. -/
def dropEvicted (z : Zone) : Option PartIndex → Zone
  | none => z
  | some i =>
    if z.tiers.contains i then z
    else
      let z := { z with metrics := { z.metrics with evictions := z.metrics.evictions + 1 } }
      match DiskM.discardPart z.root i z.disk with
      | .ok _ d =>
        let z := { z with disk := d }
        if z.tiers.contains i then { z with tiers := (z.tiers.remove i).2 } else z
      | .error _ d => { z with disk := d }

/-- Promotes a part in the policy, then deletes what it evicted. -/
def promote (i : PartIndex) : ZoneM Unit := modify fun z =>
  let (t, ev) := z.tiers.promote i
  dropEvicted { z with tiers := t } ev

/-- Adds a part to the policy, then deletes what it evicted. -/
def add (i : PartIndex) : ZoneM Unit := fun z =>
  match z.tiers.add i with
  | .ok (t, ev) => .ok () (dropEvicted { z with tiers := t } ev)
  | .error e => .error e z

/-- Looks a part up in the policy, counting the request. -/
def lookup (i : PartIndex) : ZoneM Bool := modifyGet fun z =>
  let (b, t) := z.tiers.lookup i
  (b, { z with tiers := t })

/-- Stops tracking every part of an object. -/
def forget (id : ObjectId) : ZoneM Bool := modifyGet fun z =>
  let (b, t) := z.tiers.removeObject id
  (b, { z with tiers := t })

/-! ## Expiry -/

/-- Drops an expired object from the policy and discards it; a failed discard is only logged. -/
def expire (id : ObjectId) : ZoneM Unit := do
  let _ ← forget id
  let z ← get
  if (← onDisk (DiskM.attempt (DiskM.discard z.root id))).isNone then
    count fun m => { m with expirations := m.expirations + 1 }

/-- Schedules an object's expiry, replacing one pending for it: due at once when the time
has come, otherwise pending.  A scheduler that was shut down takes nothing. -/
def schedule (now : Int) (m : ObjectMetadata) : ZoneM Unit := do
  let z ← get
  if z.scheduling then
    set { z with expiries := z.expiries.erase m.id }
    if m.expiresAt ≤ now then expire m.id
    else modify fun z => { z with expiries := m.id :: z.expiries }

/-- Whether an expiry is pending for an object. -/
def isScheduled (z : Zone) (id : ObjectId) : Bool := z.scheduling && z.expiries.contains id

/-- Stops the scheduler: pending expiries never fire and no new ones are taken. -/
def shutdown : ZoneM Unit := modify fun z => { z with scheduling := false, expiries := [] }

theorem schedule_pending (now : Int) (m : ObjectMetadata) (z : Zone) (hs : z.scheduling = true)
    (hl : now < m.expiresAt) :
    ∃ z', schedule now m z = .ok () z' ∧ isScheduled z' m.id = true := by
  have hn : ¬ m.expiresAt ≤ now := by omega
  refine ⟨{ z with expiries := m.id :: z.expiries.erase m.id }, ?_, ?_⟩
  · obtain ⟨root, id, partSize, disk, tiers, metrics, expiries, scheduling, upstream⟩ := z
    subst hs
    simp only [schedule, hn, ↓reduceIte]
    rfl
  · simp [isScheduled, hs]

end Zone

end PartCache
