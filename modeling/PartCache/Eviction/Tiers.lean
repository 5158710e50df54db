import PartCache.Error
import PartCache.Object.Id
import PartCache.Number.Binary64

/-!
# The tiered least-recently-used policy

A zone tracks the parts it keeps in four tiers, tier `0` the hottest and tier
`3` the coldest, each a list read from its front (the most recently placed) to
its back, and each holding at most `width` parts, a quarter of the zone's
capacity but at least one.

* A part that is added goes to the front of tier `3`.  When tier `3` is full,
  room is made first: from the hottest tier that is not full down to tier `2`,
  each tier that is not full takes the front of the tier below onto its back.
  If tier `3` is still full, its back part is evicted.
* A tracked part that is read again is promoted: in tier `0` it goes to the
  front; at the front of a colder tier it stays; otherwise it moves to the front
  of the tier above, and if that tier is full, the back of that tier moves down
  to the front of the part's old tier, trading places with it.

Reading the four tiers front to back gives all tracked parts from the most to
the least recently placed.  The policy also counts lookups and hits.
-/

namespace PartCache

set_option autoImplicit false

/-- The tracked parts in four tiers, with lookup counts. -/
structure Tiers where
  /-- The most parts one tier holds. -/
  width : Nat
  /-- Tier `k` from front (most recent) to back. -/
  lists : Vector (List PartIndex) 4
  hits : Nat
  requests : Nat

namespace Tiers

/-- No part tracked, tiers of a quarter of `capacity` each, at least one. -/
def empty (capacity : Nat) : Tiers := ⟨max 1 (capacity / 4), #v[[], [], [], []], 0, 0⟩

/-- All tracked parts, tier `0` first, each tier front to back. -/
def toList (t : Tiers) : List PartIndex := t.lists.toList.flatten

/-- The number of parts in each tier. -/
def lengths (t : Tiers) : List Nat := t.lists.toList.map List.length

/-- The number of tracked parts. -/
def count (t : Tiers) : Nat := t.toList.length

/-- The tier a part is tracked in. -/
def tierOf? (t : Tiers) (i : PartIndex) : Option (Fin 4) :=
  (List.finRange 4).find? fun k => t.lists[k].contains i

/-- Whether a part is tracked. -/
def contains (t : Tiers) (i : PartIndex) : Bool := t.toList.contains i

/-- Whether tier `k` has room for another part. -/
def hasRoom (width : Nat) (ls : Vector (List PartIndex) 4) (k : Fin 4) : Bool :=
  ls[k].length < width

/-! ## Making room in the coldest tier -/

/-- For each listed tier `k` that has room, the front of tier `k + 1` moves to the back of `k`. -/
def shiftFrom (width : Nat) (ls : Vector (List PartIndex) 4) :
    List (Fin 3) → Vector (List PartIndex) 4
  | [] => ls
  | k :: ks =>
    if hasRoom width ls k.castSucc then
      match ls[k.succ] with
      | x :: rest => shiftFrom width ((ls.set k.succ rest).set k.castSucc (ls[k.castSucc] ++ [x])) ks
      | [] => shiftFrom width ls ks
    else shiftFrom width ls ks

/-- The tiers from `k` down to tier `2`. -/
def tiersFrom (k : Fin 3) : List (Fin 3) := (List.finRange 3).filter fun j => k ≤ j

/-- The shift from the hottest tier above tier `3` that has room, if there is one. -/
def shiftToRoom (width : Nat) (ls : Vector (List PartIndex) 4) : Vector (List PartIndex) 4 :=
  match (List.finRange 3).find? (fun k => hasRoom width ls k.castSucc) with
  | some k => shiftFrom width ls (tiersFrom k)
  | none => ls

/-- Evicts the back part of tier `3`, if it has one. -/
def evictBack (ls : Vector (List PartIndex) 4) : Vector (List PartIndex) 4 × Option PartIndex :=
  match ls[(3 : Fin 4)].getLast? with
  | some x => (ls.set 3 ls[(3 : Fin 4)].dropLast, some x)
  | none => (ls, none)

/-- Makes room in tier `3` when it is full, shifting parts up or evicting its back part. -/
def makeRoom (width : Nat) (ls : Vector (List PartIndex) 4) :
    Vector (List PartIndex) 4 × Option PartIndex :=
  if hasRoom width ls 3 then (ls, none)
  else
    let shifted := shiftToRoom width ls
    if hasRoom width shifted 3 then (shifted, none) else evictBack shifted

/-! ## Operations -/

/-- Adds an untracked part to the front of tier `3`, evicting at most one part. -/
def add (t : Tiers) (i : PartIndex) : Except CacheError (Tiers × Option PartIndex) :=
  if t.contains i then .error .alreadyInCache
  else
    let (ls, evicted) := makeRoom t.width t.lists
    .ok ({ t with lists := ls.set 3 (i :: ls[(3 : Fin 4)]) }, evicted)

/-- Promotes a part after it was read; an untracked part is added. -/
def promote (t : Tiers) (i : PartIndex) : Tiers × Option PartIndex :=
  match t.tierOf? i with
  | none => match t.add i with
    | .ok r => r
    | .error _ => (t, none)
  | some k =>
    let ls := t.lists
    if k.val = 0 then
      ({ t with lists := ls.set k (i :: ls[k].erase i) }, none)
    else if ls[k].head? = some i then (t, none)
    else
      let upper : Fin 4 := ⟨k.val - 1, by omega⟩
      if hasRoom t.width ls upper then
        ({ t with lists := (ls.set k (ls[k].erase i)).set upper (i :: ls[upper]) }, none)
      else match ls[upper].getLast? with
        | some back =>
          let ls := ls.set upper (ls[upper].dropLast)
          let ls := ls.set k (back :: ls[k].erase i)
          ({ t with lists := ls.set upper (i :: ls[upper]) }, none)
        | none => (t, none)

/-- Stops tracking a part; says whether it was tracked. -/
def remove (t : Tiers) (i : PartIndex) : Bool × Tiers :=
  match t.tierOf? i with
  | none => (false, t)
  | some k => (true, { t with lists := t.lists.set k (t.lists[k].erase i) })

/-- Stops tracking every part of an object; says whether any was tracked. -/
def removeObject (t : Tiers) (id : ObjectId) : Bool × Tiers :=
  let gone := t.toList.any fun i => i.object = id
  (gone, { t with lists := t.lists.map fun l => l.filter fun i => i.object != id })

/-- Looks a part up, counting the request and, when it is tracked, the hit. -/
def lookup (t : Tiers) (i : PartIndex) : Bool × Tiers :=
  let found := t.contains i
  (found, { t with requests := t.requests + 1, hits := if found then t.hits + 1 else t.hits })

/-- What the policy reports of itself. -/
structure Stats where
  hits : Nat
  requests : Nat
  objects : Nat
  /-- The bytes of the tracked parts, a 64-bit word. -/
  size : UInt64
  /-- Hits over requests, zero before the first request. -/
  hitRatio : Binary64

/-- The counts and sizes of the policy, parts being `partSize` bytes each. -/
def stats (t : Tiers) (partSize : UInt64) : Stats :=
  ⟨t.hits, t.requests, t.count, t.count.toUInt64 * partSize, Binary64.ratio t.hits t.requests⟩

/-! ## Lemmas -/

theorem toList_set_append (ls : Vector (List PartIndex) 4) (k : Fin 3) (x : PartIndex)
    (rest : List PartIndex) (h : ls[k.succ] = x :: rest) :
    ((ls.set k.succ rest).set k.castSucc (ls[k.castSucc] ++ [x])).toList.flatten =
      ls.toList.flatten := by
  obtain ⟨⟨l⟩, hl⟩ := ls
  match l, hl with
  | [a, b, c, d], _ =>
    match k with
    | ⟨0, _⟩ =>
      have hb : b = x :: rest := h
      subst hb
      simp [Vector.set]
    | ⟨1, _⟩ =>
      have hc : c = x :: rest := h
      subst hc
      simp [Vector.set]
    | ⟨2, _⟩ =>
      have hd : d = x :: rest := h
      subst hd
      have h3 : (((⟨2, by omega⟩ : Fin 3).succ : Fin 4) : Nat) = 3 := rfl
      simp only [Vector.set, Vector.toList_mk, Array.toList_set, h3]
      simp

/-- The shift that makes room moves tier boundaries only: the parts keep their order. -/
theorem toList_shiftFrom (width : Nat) (ls : Vector (List PartIndex) 4) (ks : List (Fin 3)) :
    (shiftFrom width ls ks).toList.flatten = ls.toList.flatten := by
  induction ks generalizing ls with
  | nil => rfl
  | cons k ks ih =>
    simp only [shiftFrom]
    split
    · split
      · rename_i x rest h
        rw [ih, toList_set_append ls k x rest h]
      · exact ih ls
    · exact ih ls

end Tiers

end PartCache
