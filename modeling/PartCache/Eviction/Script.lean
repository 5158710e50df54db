import PartCache.Eviction.Slab

/-!
# Driving the tiered policy by requests

The policy is driven by a list of requests; each request gets a reply, reports
the parts it evicted and leaves the tier lengths it produced.  The replies are
those of the operations of `PartCache.Tiers`: adding succeeds or finds the part
already tracked, promotion always succeeds, lookups and membership tests answer
a flag, and the statistics, the consumed size and the tier width are read off.
The stored policy, `PartCache.Slab`, answers the same requests with its own
operations.
-/

namespace PartCache

set_option autoImplicit false

/-- A request to the tiered policy. -/
inductive TierRequest where
  | add (i : PartIndex)
  | promote (i : PartIndex)
  | lookup (i : PartIndex)
  | contains (i : PartIndex)
  | shouldKeep (i : PartIndex)
  | remove (i : PartIndex)
  | tierOf (i : PartIndex)
  | removeObject (id : ObjectId)
  | stats
  | consumedSize
  | width

/-- The reply to a request. -/
inductive TierReply where
  | done
  | failed (e : CacheError)
  | flag (b : Bool)
  | tier (k : Option Nat)
  | stats (s : Tiers.Stats)
  | number (n : Nat)

/-- One answered request: the reply, the parts evicted, the tier lengths after it. -/
structure TierStep where
  reply : TierReply
  evicted : List PartIndex
  lengths : List Nat

namespace Tiers

/-- Answers one request, parts being `partSize` bytes each. -/
def answer (partSize : UInt64) (t : Tiers) : TierRequest → TierReply × List PartIndex × Tiers
  | .add i => match t.add i with
    | .ok (t', ev) => (.done, ev.toList, t')
    | .error e => (.failed e, [], t)
  | .promote i =>
    let (t', ev) := t.promote i
    (.done, ev.toList, t')
  | .lookup i =>
    let (b, t') := t.lookup i
    (.flag b, [], t')
  | .contains i => (.flag (t.contains i), [], t)
  | .shouldKeep _ => (.flag true, [], t)
  | .remove i =>
    let (b, t') := t.remove i
    (.flag b, [], t')
  | .tierOf i => (.tier ((t.tierOf? i).map Fin.val), [], t)
  | .removeObject id =>
    let (b, t') := t.removeObject id
    (.flag b, [], t')
  | .stats => (.stats (t.stats partSize), [], t)
  | .consumedSize => (.number (partSize * t.count.toUInt64).toNat, [], t)
  | .width => (.number t.width, [], t)

/-- Answers requests in order, from a state, collecting each step. -/
def run (partSize : UInt64) : Tiers → List TierRequest → List TierStep × Tiers
  | t, [] => ([], t)
  | t, r :: rs =>
    let (reply, ev, t') := t.answer partSize r
    let (steps, final) := run partSize t' rs
    (⟨reply, ev, t'.lengths⟩ :: steps, final)

end Tiers

namespace Slab

/-- Answers one request on the stored policy, parts being `partSize` bytes each. -/
def answer (partSize : UInt64) (s : Slab) : TierRequest → TierReply × List PartIndex × Slab
  | .add i => match s.add i with
    | .ok (s', ev) => (.done, ev.toList, s')
    | .error e => (.failed e, [], s)
  | .promote i =>
    let (s', ev) := s.promote i
    (.done, ev.toList, s')
  | .lookup i =>
    let (b, s') := s.lookupCounting i
    (.flag b, [], s')
  | .contains i => (.flag (s.contains i), [], s)
  | .shouldKeep _ => (.flag true, [], s)
  | .remove i =>
    let (b, s') := s.remove i
    (.flag b, [], s')
  | .tierOf i => (.tier ((s.tierOf? i).map Fin.val), [], s)
  | .removeObject id =>
    let (b, s') := s.removeObject id
    (.flag b, [], s')
  | .stats => (.stats (s.stats partSize), [], s)
  | .consumedSize => (.number (partSize * s.count.toUInt64).toNat, [], s)
  | .width => (.number s.width, [], s)

/-- Answers requests in order on the stored policy, collecting each step. -/
def run (partSize : UInt64) : Slab → List TierRequest → List TierStep × Slab
  | s, [] => ([], s)
  | s, r :: rs =>
    let (reply, ev, s') := s.answer partSize r
    let (steps, final) := run partSize s' rs
    (⟨reply, ev, s'.lengths⟩ :: steps, final)

end Slab

end PartCache
