import PartCache.Eviction.Tiers

/-!
# The tiered policy as it is stored: linked lists over a slab

`PartCache.Tiers` says what the tiered policy does to four lists of parts.  The
policy stores those lists differently, so that every move takes constant time:

* every tracked part sits in a slot of one growing vector of nodes; a node holds
  the part, the tier it is in and the slots before and after it in that tier;
* each tier keeps the slots of its front and back node and its length;
* a slot that is given up is pushed on a stack of free slots, and the next part
  that comes in takes the slot on top of that stack before the vector grows;
* a table maps each tracked part to its slot.

Five helpers touch the links: `alloc` and `release` take and give back a slot,
`unlink` takes a node out of its tier, and `pushFront` and `pushBack` put a node
in at an end of a tier.  Adding, promoting, evicting and removing are written
with them exactly as the policy combines them.

Each helper looks its nodes up and does nothing, or falls back on the tier's own
ends, where a slot holds no node, as the stored form does.  Reading a tier by
following the `next` links from its front gives the tier's slots (`chain`), and
the parts in them give back the four lists (`view`).
-/

namespace PartCache

set_option autoImplicit false

/-- A node of the slab: a tracked part, its tier, and the slots of its neighbours. -/
structure LruNode where
  index : PartIndex
  tier : Fin 4
  prev : Option Nat
  next : Option Nat

/-- The front slot, back slot and length of one tier. -/
structure TierLinks where
  head : Option Nat
  tail : Option Nat
  len : Nat

/-- The tiered policy as stored: nodes in slots, free slots, the tiers' ends, and the
table from parts to slots, with the tier width and the lookup counts. -/
structure Slab where
  /-- The most parts one tier holds. -/
  width : Nat
  /-- Slot `k` holds a node or is empty. -/
  nodes : List (Option LruNode)
  /-- The empty slots to reuse, the next one last. -/
  freeSlots : List Nat
  /-- The ends and length of each tier. -/
  tiers : Fin 4 → TierLinks
  /-- The slot of each tracked part. -/
  lookup : List (PartIndex × Nat)
  hits : Nat
  requests : Nat

namespace Slab

/-- The coldest tier, where parts come in and from whose back they are evicted. -/
def coldest : Fin 4 := Fin.last 3

/-- No part tracked, tiers of a quarter of `capacity` each, at least one. -/
def new (capacity : Nat) : Slab :=
  ⟨max 1 (capacity / 4), [], [], fun _ => ⟨none, none, 0⟩, [], 0, 0⟩

/-! ## Slots and the table -/

/-- The node in a slot, if the slot exists and holds one. -/
def node? (s : Slab) (slot : Nat) : Option LruNode := s.nodes[slot]?.join

/-- The part in a slot. -/
def indexAt (s : Slab) (slot : Nat) : Option PartIndex := (s.node? slot).map (·.index)

/-- The slab with the node in `slot` changed by `f`, when the slot holds a node. -/
def withNode? (s : Slab) (slot : Nat) (f : LruNode → LruNode) : Option Slab :=
  (s.node? slot).map fun n => { s with nodes := s.nodes.set slot (some (f n)) }

/-- The slab with the node in `slot` changed by `f`; unchanged when the slot is empty. -/
def withNode (s : Slab) (slot : Nat) (f : LruNode → LruNode) : Slab :=
  (s.withNode? slot f).getD s

/-- The slab with the ends and length of tier `k` changed by `f`. -/
def withTier (s : Slab) (k : Fin 4) (f : TierLinks → TierLinks) : Slab :=
  { s with tiers := fun j => if j = k then f (s.tiers k) else s.tiers j }

/-- Changes the node `link` names by `f`; when it names no node, changes the ends of tier `k`
by `g` instead.  This is how every helper updates a neighbour. -/
def relink (s : Slab) (link : Option Nat) (f : LruNode → LruNode) (k : Fin 4)
    (g : TierLinks → TierLinks) : Slab :=
  (link.bind fun p => s.withNode? p f).getD (s.withTier k g)

/-- The slot of a tracked part. -/
def slotOf? (s : Slab) (i : PartIndex) : Option Nat := s.lookup.lookup i

/-- The table without the entry of `i`. -/
def forget (s : Slab) (i : PartIndex) : Slab :=
  { s with lookup := s.lookup.filter (·.1 != i) }

/-- The table with `i` in slot `slot`, replacing any entry it had. -/
def record (s : Slab) (i : PartIndex) (slot : Nat) : Slab :=
  { s with lookup := (i, slot) :: s.lookup.filter (·.1 != i) }

/-! ## The five helpers -/

/-- Takes a slot for a new node of the coldest tier: the free slot on top of the stack, or a
new slot at the end of the vector. -/
def alloc (s : Slab) (i : PartIndex) : Slab × Nat :=
  let n : LruNode := ⟨i, coldest, none, none⟩
  match s.freeSlots.getLast? with
  | some slot => ({ s with freeSlots := s.freeSlots.dropLast, nodes := s.nodes.set slot (some n) },
      slot)
  | none => ({ s with nodes := s.nodes ++ [some n] }, s.nodes.length)

/-- Empties a slot and pushes it on the free stack, giving back the part it held; an empty
slot is left alone. -/
def release (s : Slab) (slot : Nat) : Option PartIndex × Slab :=
  match s.node? slot with
  | some n => (some n.index, { s with nodes := s.nodes.set slot none, freeSlots := s.freeSlots ++ [slot] })
  | none => (none, s)

/-- Takes a node out of its tier: its neighbours, or the tier's ends where it has none, are
joined past it, the tier is one shorter, and the node keeps no links. -/
def unlink (s : Slab) (slot : Nat) : Slab :=
  match s.node? slot with
  | none => s
  | some n =>
    let s := s.relink n.prev (fun m => { m with next := n.next }) n.tier
      fun t => { t with head := n.next }
    let s := s.relink n.next (fun m => { m with prev := n.prev }) n.tier
      fun t => { t with tail := n.prev }
    let s := s.withTier n.tier fun t => { t with len := t.len - 1 }
    s.withNode slot fun m => { m with prev := none, next := none }

/-- Puts a node at the front of tier `k`. -/
def pushFront (s : Slab) (k : Fin 4) (slot : Nat) : Slab :=
  let oldHead := (s.tiers k).head
  let s := s.withNode slot fun m => { m with tier := k, prev := none, next := oldHead }
  let s := s.relink oldHead (fun m => { m with prev := some slot }) k
    fun t => { t with tail := some slot }
  s.withTier k fun t => { t with head := some slot, len := t.len + 1 }

/-- Puts a node at the back of tier `k`. -/
def pushBack (s : Slab) (k : Fin 4) (slot : Nat) : Slab :=
  let oldTail := (s.tiers k).tail
  let s := s.withNode slot fun m => { m with tier := k, prev := oldTail, next := none }
  let s := s.relink oldTail (fun m => { m with next := some slot }) k
    fun t => { t with head := some slot }
  s.withTier k fun t => { t with tail := some slot, len := t.len + 1 }

/-! ## Making room in the coldest tier -/

/-- For each listed tier `k` that is not full, the front node of tier `k + 1` moves to the
back of `k`. -/
def shiftUp (s : Slab) : List (Fin 3) → Slab
  | [] => s
  | k :: ks =>
    if (s.tiers k.castSucc).len < s.width then
      match (s.tiers k.succ).head with
      | some front => shiftUp ((s.unlink front).pushBack k.castSucc front) ks
      | none => shiftUp s ks
    else shiftUp s ks

/-- Evicts the back node of the coldest tier, forgetting its part and freeing its slot. -/
def evictColdest (s : Slab) : Slab × Option PartIndex :=
  match (s.tiers coldest).tail with
  | none => (s, none)
  | some back =>
    match (s.unlink back).release back with
    | (some evicted, s) => (s.forget evicted, some evicted)
    | (none, s) => (s, none)

/-- Makes room in the coldest tier when it is full: shifts front nodes up from the hottest
tier that is not full, and evicts the back of the coldest tier if it is still full. -/
def makeRoom (s : Slab) : Slab × Option PartIndex :=
  if (s.tiers coldest).len < s.width then (s, none)
  else
    match (List.finRange 3).find? fun k => (s.tiers k.castSucc).len < s.width with
    | some first =>
      let s := s.shiftUp (Tiers.tiersFrom first)
      if (s.tiers coldest).len < s.width then (s, none) else s.evictColdest
    | none => s.evictColdest

/-! ## Operations -/

/-- Whether a part is tracked. -/
def contains (s : Slab) (i : PartIndex) : Bool := (s.slotOf? i).isSome

/-- Adds an untracked part to the front of the coldest tier, evicting at most one part. -/
def add (s : Slab) (i : PartIndex) : Except CacheError (Slab × Option PartIndex) :=
  if s.contains i then .error .alreadyInCache
  else
    let (s, evicted) := s.makeRoom
    let (s, slot) := s.alloc i
    .ok (((s.pushFront coldest slot).record i slot), evicted)

/-- Promotes a part after it was read; an untracked part is added. -/
def promote (s : Slab) (i : PartIndex) : Slab × Option PartIndex :=
  match s.slotOf? i with
  | none => match s.add i with
    | .ok r => r
    | .error _ => (s, none)
  | some slot =>
    match s.node? slot with
    | none => (s.forget i, none)
    | some n =>
      let k := n.tier
      let atFront := (s.tiers k).head == some slot
      -- in the hottest tier `k` is tier `0`
      if k.val = 0 then
        if atFront then (s, none) else ((s.unlink slot).pushFront k slot, none)
      else if atFront then (s, none)
      else
        let upper : Fin 4 := ⟨k.val - 1, by omega⟩
        if (s.tiers upper).len < s.width then ((s.unlink slot).pushFront upper slot, none)
        else match (s.tiers upper).tail with
          | none => (s, none)
          | some back => ((((s.unlink back).unlink slot).pushFront k back).pushFront upper slot, none)

/-- Stops tracking a part; says whether it was tracked. -/
def remove (s : Slab) (i : PartIndex) : Bool × Slab :=
  match s.slotOf? i with
  | none => (false, s)
  | some slot =>
    let s := s.forget i
    if (s.node? slot).isNone then (false, s) else (true, ((s.unlink slot).release slot).2)

/-- Stops tracking every part of an object, taking the table's parts of it one by one;
says whether any was tracked. -/
def removeObject (s : Slab) (id : ObjectId) : Bool × Slab :=
  let parts := (s.lookup.map (·.1)).filter (·.object == id)
  parts.foldl (fun acc i => let r := acc.2.remove i; (acc.1 || r.1, r.2)) (false, s)

/-- Looks a part up, counting the request and, when it is tracked, the hit. -/
def lookupCounting (s : Slab) (i : PartIndex) : Bool × Slab :=
  let found := s.contains i
  (found, { s with requests := s.requests + 1, hits := if found then s.hits + 1 else s.hits })

/-- The tier a part is tracked in. -/
def tierOf? (s : Slab) (i : PartIndex) : Option (Fin 4) :=
  (s.slotOf? i).bind fun slot => (s.node? slot).map (·.tier)

/-- The number of parts in each tier. -/
def lengths (s : Slab) : List Nat := (List.finRange 4).map fun k => (s.tiers k).len

/-- The number of tracked parts, the sum of the tier lengths. -/
def count (s : Slab) : Nat := s.lengths.foldr (· + ·) 0

/-- The counts and sizes of the policy, parts being `partSize` bytes each. -/
def stats (s : Slab) (partSize : UInt64) : Tiers.Stats :=
  ⟨s.hits, s.requests, s.count, s.count.toUInt64 * partSize, Binary64.ratio s.hits s.requests⟩

/-! ## Reading the lists back -/

/-- The slots met following `next` links from `start`, at most `n` of them. -/
def follow (nodes : List (Option LruNode)) : Nat → Option Nat → List Nat
  | 0, _ => []
  | _ + 1, none => []
  | n + 1, some x => x :: follow nodes n ((nodes[x]?.join).bind (·.next))

/-- The slots of tier `k`, from its front as many as its length. -/
def chain (s : Slab) (k : Fin 4) : List Nat := follow s.nodes (s.tiers k).len (s.tiers k).head

/-- The four lists of parts the slab stands for. -/
def view (s : Slab) : Tiers :=
  ⟨s.width, Vector.ofFn fun k => (s.chain k).filterMap s.indexAt, s.hits, s.requests⟩

end Slab

end PartCache
