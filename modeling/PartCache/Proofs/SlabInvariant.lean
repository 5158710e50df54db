import PartCache.Proofs.SlabLinks
import PartCache.Proofs.KeyedTable
import PartCache.Eviction.Script
import Mathlib.Tactic.FinCases
import Mathlib.Data.List.FinRange

/-!
# The representation invariant of the stored policy

`Represents s c out` is the representation invariant of the slab `s` with respect
to four lists of slots `c`: the slab links each `c k` as tier `k` (`Chains`), the
slots that hold a node are those in the lists and those in `out`, the free stack
lists exactly the empty slots of the vector, once each, and the table sends a
part to a slot exactly when the slot holds that part.  The slots `out` are nodes
an operation has taken out of their tier and not yet put back or freed; between
operations there are none.

Under the invariant, reading a tier from its front gives `c k` back
(`Represents.chain_eq`), so the four lists of parts the slab stands for
(`Slab.view`) are the parts in the slots of `c`, and every answer the slab
gives by reading its table or its tier lengths is the answer the lists give.

Each helper keeps the invariant and moves one slot: `Represents.unlink` takes a
slot out of its tier into `out`, `Represents.pushFront` and `Represents.pushBack`
put a slot of `out` into a tier, `Represents.release` frees a slot of `out` and
forgets its part, and `Represents.alloc` takes a slot for a new part into `out`.
The table is read by no helper, so replacing it commutes with all of them
(`unlink_forget`, `release_forget`, `pushFront_record`).
-/

namespace PartCache.Slab

set_option autoImplicit false

/-! ## The representation invariant -/

/-- The part a slot holds, as a plain value. -/
def partAt (s : Slab) (y : Nat) : PartIndex := (s.indexAt y).getD default

/-- The four lists of parts that lists of slots stand for. -/
def parts (s : Slab) (c : Fin 4 → List Nat) : Vector (List PartIndex) 4 :=
  Vector.ofFn fun k => (c k).map s.partAt

/-- The slab stores the tiers `c`, with the nodes in `out` taken out of every tier: it links
the tiers, the slots holding a node are those in the tiers and in `out`, the free stack holds
every empty slot of the vector once, and the table sends each tracked part to its slot and
nothing else. -/
structure Represents (s : Slab) (c : Fin 4 → List Nat) (out : List Nat) : Prop
    extends Chains s c where
  outNodup : out.Nodup
  apart : ∀ y ∈ out, ∀ k, y ∉ c k
  occupied : ∀ y, (s.node? y).isSome ↔ (∃ k, y ∈ c k) ∨ y ∈ out
  freeNodup : s.freeSlots.Nodup
  free : ∀ y, y ∈ s.freeSlots ↔ y < s.nodes.length ∧ s.node? y = none
  table : ∀ i y, s.slotOf? i = some y ↔ s.indexAt y = some i

theorem ofFn_update {α : Type} (f : Fin 4 → α) (k : Fin 4) (a : α) :
    Vector.ofFn (Function.update f k a) = (Vector.ofFn f).set k a k.isLt := by
  ext j hj
  rw [Vector.getElem_ofFn, Vector.getElem_set, Vector.getElem_ofFn, Function.update_apply]
  by_cases hk : (⟨j, hj⟩ : Fin 4) = k
  · subst hk; simp
  · rw [if_neg hk, if_neg fun e => hk (Fin.ext e.symm)]

theorem isSome_node?_iff (s : Slab) (y : Nat) : (s.node? y).isSome ↔ (s.indexAt y).isSome := by
  simp [indexAt]

theorem node?_eq_none_iff (s : Slab) (y : Nat) : s.node? y = none ↔ s.indexAt y = none := by
  simp [indexAt]

/-- A slot is in some list of `Function.update c k l` exactly when it is in some list of `c`,
provided `l` and `c k` hold it alike. -/
theorem exists_mem_update {c : Fin 4 → List Nat} {k : Fin 4} {l : List Nat} {y : Nat}
    (hl : y ∈ l ↔ y ∈ c k) : (∃ j, y ∈ Function.update c k l j) ↔ ∃ j, y ∈ c j := by
  constructor
  · rintro ⟨j, hj⟩
    by_cases hjk : j = k
    · subst hjk
      rw [Function.update_self] at hj
      exact ⟨j, hl.mp hj⟩
    · rw [Function.update_of_ne hjk] at hj
      exact ⟨j, hj⟩
  · rintro ⟨j, hj⟩
    by_cases hjk : j = k
    · subst hjk
      exact ⟨j, by rw [Function.update_self]; exact hl.mpr hj⟩
    · exact ⟨j, by rw [Function.update_of_ne hjk]; exact hj⟩

theorem not_mem_update {c : Fin 4 → List Nat} {k : Fin 4} {l : List Nat} {y : Nat}
    (hc : ∀ j, y ∉ c j) (hl : y ∉ l) (j : Fin 4) : y ∉ Function.update c k l j := by
  by_cases hjk : j = k
  · subst hjk
    rwa [Function.update_self]
  · rw [Function.update_of_ne hjk]
    exact hc j

/-! ## The table -/

section Table

variable (s : Slab) (i : PartIndex)

@[simp] theorem slotOf?_forget (j : PartIndex) :
    (s.forget i).slotOf? j = if j = i then none else s.slotOf? j :=
  KeyedTable.lookup_filter_ne s.lookup i j

@[simp] theorem slotOf?_record (y : Nat) (j : PartIndex) :
    (s.record i y).slotOf? j = if j = i then some y else s.slotOf? j :=
  KeyedTable.lookup_cons_filter_ne s.lookup i j y

@[simp] theorem node?_forget (y : Nat) : (s.forget i).node? y = s.node? y := rfl
@[simp] theorem forget_nodes : (s.forget i).nodes = s.nodes := rfl
@[simp] theorem forget_freeSlots : (s.forget i).freeSlots = s.freeSlots := rfl
@[simp] theorem forget_tiers : (s.forget i).tiers = s.tiers := rfl
@[simp] theorem forget_width : (s.forget i).width = s.width := rfl
@[simp] theorem forget_hits : (s.forget i).hits = s.hits := rfl
@[simp] theorem forget_requests : (s.forget i).requests = s.requests := rfl
@[simp] theorem node?_record (y z : Nat) : (s.record i y).node? z = s.node? z := rfl
@[simp] theorem record_nodes (y : Nat) : (s.record i y).nodes = s.nodes := rfl
@[simp] theorem record_freeSlots (y : Nat) : (s.record i y).freeSlots = s.freeSlots := rfl
@[simp] theorem record_tiers (y : Nat) : (s.record i y).tiers = s.tiers := rfl
@[simp] theorem record_width (y : Nat) : (s.record i y).width = s.width := rfl
@[simp] theorem record_hits (y : Nat) : (s.record i y).hits = s.hits := rfl
@[simp] theorem record_requests (y : Nat) : (s.record i y).requests = s.requests := rfl

theorem node?_setLookup (t : List (PartIndex × Nat)) (y : Nat) :
    ({ s with lookup := t } : Slab).node? y = s.node? y := rfl

/-- The table is read by no helper: replacing it commutes with each of them. -/
theorem withNode_setLookup (t : List (PartIndex × Nat)) (x : Nat) (f : LruNode → LruNode) :
    ({ s with lookup := t } : Slab).withNode x f = { s.withNode x f with lookup := t } := by
  unfold withNode withNode?
  rw [node?_setLookup]
  cases s.node? x <;> rfl

theorem withTier_setLookup (t : List (PartIndex × Nat)) (k : Fin 4) (g : TierLinks → TierLinks) :
    ({ s with lookup := t } : Slab).withTier k g = { s.withTier k g with lookup := t } := rfl

theorem relink_setLookup (t : List (PartIndex × Nat)) (link : Option Nat) (f : LruNode → LruNode)
    (k : Fin 4) (g : TierLinks → TierLinks) :
    ({ s with lookup := t } : Slab).relink link f k g = { s.relink link f k g with lookup := t } := by
  unfold relink withNode?
  cases link with
  | none => rfl
  | some p =>
    simp only [Option.bind_some, node?_setLookup]
    cases s.node? p <;> rfl

theorem unlink_setLookup (t : List (PartIndex × Nat)) (x : Nat) :
    ({ s with lookup := t } : Slab).unlink x = { s.unlink x with lookup := t } := by
  unfold unlink
  rw [node?_setLookup]
  cases s.node? x with
  | none => rfl
  | some n =>
    simp only [relink_setLookup, withTier_setLookup, withNode_setLookup]

theorem pushFront_setLookup (t : List (PartIndex × Nat)) (k : Fin 4) (x : Nat) :
    ({ s with lookup := t } : Slab).pushFront k x = { s.pushFront k x with lookup := t } := by
  simp only [pushFront_eq, withNode_setLookup, relink_setLookup, withTier_setLookup]

theorem release_setLookup (t : List (PartIndex × Nat)) (x : Nat) :
    ({ s with lookup := t } : Slab).release x = ((s.release x).1, { (s.release x).2 with lookup := t }) := by
  unfold release
  rw [node?_setLookup]
  cases s.node? x <;> rfl

theorem unlink_forget (x : Nat) : (s.forget i).unlink x = (s.unlink x).forget i := by
  rw [forget, unlink_setLookup, forget, unlink_lookup]

theorem release_forget (x : Nat) :
    (s.forget i).release x = ((s.release x).1, (s.release x).2.forget i) := by
  rw [forget, release_setLookup, forget]
  unfold release
  cases s.node? x <;> rfl

theorem pushFront_record (y : Nat) (k : Fin 4) (x : Nat) :
    (s.record i y).pushFront k x = (s.pushFront k x).record i y := by
  rw [record, pushFront_setLookup, record, pushFront_lookup]

end Table

/-! ## Taking and freeing slots -/

section Slots

variable (s : Slab) {x : Nat}

theorem release_of_node? {n : LruNode} (hn : s.node? x = some n) :
    s.release x = (some n.index,
      { s with nodes := s.nodes.set x none, freeSlots := s.freeSlots ++ [x] }) := by
  simp [release, hn]

theorem node?_emptied (y : Nat) :
    ({ s with nodes := s.nodes.set x none, freeSlots := s.freeSlots ++ [x] } : Slab).node? y =
      if y = x then none else s.node? y := by
  by_cases hyx : y = x
  · subst hyx
    simp only [node?, List.getElem?_set_self', if_true]
    cases s.nodes[y]? <;> rfl
  · simp [node?, hyx, List.getElem?_set_ne (Ne.symm hyx)]

theorem node?_filled {m : LruNode} (f : List Nat) (hx : x < s.nodes.length) (y : Nat) :
    ({ s with freeSlots := f, nodes := s.nodes.set x (some m) } : Slab).node? y =
      if y = x then some m else s.node? y := by
  by_cases hyx : y = x
  · subst hyx
    simp [node?, hx]
  · simp [node?, hyx, List.getElem?_set_ne (Ne.symm hyx)]

theorem node?_grown {m : LruNode} (y : Nat) :
    ({ s with nodes := s.nodes ++ [some m] } : Slab).node? y =
      if y = s.nodes.length then some m else s.node? y := by
  simp only [node?, List.getElem?_append]
  by_cases hy : y < s.nodes.length
  · rw [if_pos hy, if_neg (Nat.ne_of_lt hy)]
  · rw [if_neg hy, List.getElem?_eq_none (Nat.le_of_not_lt hy)]
    by_cases hyl : y = s.nodes.length
    · subst hyl
      simp
    · rw [if_neg hyl, List.getElem?_eq_none (by simp; omega)]

/-- What `alloc` does: it fills the slot on top of the free stack, or grows the vector by one
slot when the stack is empty. -/
theorem alloc_cases (i : PartIndex) :
    (∃ y, s.freeSlots.getLast? = some y ∧ s.alloc i =
      ({ s with freeSlots := s.freeSlots.dropLast,
                nodes := s.nodes.set y (some ⟨i, coldest, none, none⟩) }, y)) ∨
    (s.freeSlots = [] ∧
      s.alloc i = ({ s with nodes := s.nodes ++ [some ⟨i, coldest, none, none⟩] }, s.nodes.length)) := by
  unfold alloc
  cases hl : s.freeSlots.getLast? with
  | some y => exact .inl ⟨y, rfl, rfl⟩
  | none => exact .inr ⟨List.getLast?_eq_none_iff.mp hl, rfl⟩

/-- The vector grows only when no slot is free, and then no slot is free after. -/
theorem alloc_grows (i : PartIndex) :
    (s.alloc i).1.nodes.length = s.nodes.length ∨ (s.alloc i).1.freeSlots = [] := by
  rcases alloc_cases s i with ⟨y, -, he⟩ | ⟨hnil, he⟩ <;> rw [he]
  · exact .inl (List.length_set ..)
  · exact .inr hnil

theorem slotOf?_emptied (j : PartIndex) :
    ({ s with nodes := s.nodes.set x none, freeSlots := s.freeSlots ++ [x] } : Slab).slotOf? j =
      s.slotOf? j := rfl

end Slots

namespace Represents

variable {s : Slab} {c : Fin 4 → List Nat} {out : List Nat}

theorem indexAt_of_mem (h : Represents s c out) {k : Fin 4} {y : Nat} (hy : y ∈ c k) :
    s.indexAt y = some (s.partAt y) := by
  obtain ⟨n, hn, -⟩ := h.node_of_mem hy
  simp [partAt, indexAt, hn]

/-- Reading a tier from its front gives back its list of slots. -/
theorem chain_eq (h : Represents s c out) (k : Fin 4) : s.chain k = c k := by
  rw [chain, h.ends k]
  exact follow_of_linked s.nodes (h.linked k)

theorem view_eq (h : Represents s c out) : s.view = ⟨s.width, s.parts c, s.hits, s.requests⟩ := by
  simp only [view, parts, h.chain_eq]
  congr 2
  funext k
  exact List.filterMap_eq_map_iff_forall_eq_some.mpr fun y hy => h.indexAt_of_mem hy

/-- Two slots in the lists holding the same part are the same slot. -/
theorem partAt_inj (h : Represents s c out) {k j : Fin 4} {y z : Nat} (hy : y ∈ c k) (hz : z ∈ c j)
    (e : s.partAt y = s.partAt z) : y = z := by
  have hy' := (h.table _ y).mpr (h.indexAt_of_mem hy)
  have hz' := (h.table _ z).mpr (h.indexAt_of_mem hz)
  rw [e] at hy'
  exact Option.some.inj (hy'.symm.trans hz')

/-- A part is tracked exactly when a slot of the lists holds it. -/
theorem slotOf?_isSome_iff (h : Represents s c []) (i : PartIndex) :
    (s.slotOf? i).isSome ↔ ∃ k, ∃ y ∈ c k, s.partAt y = i := by
  constructor
  · intro hi
    obtain ⟨y, hy⟩ := Option.isSome_iff_exists.mp hi
    obtain ⟨n, hn, rfl⟩ : ∃ n, s.node? y = some n ∧ n.index = i := by
      simpa [indexAt] using (h.table i y).mp hy
    obtain ⟨k, hk⟩ | hk := (h.occupied y).mp (by simp [hn])
    · exact ⟨k, y, hk, by simp [partAt, indexAt, hn]⟩
    · cases hk
  · rintro ⟨k, y, hy, rfl⟩
    rw [(h.table _ y).mpr (h.indexAt_of_mem hy)]
    rfl

theorem contains_view (h : Represents s c []) (i : PartIndex) : s.view.contains i = s.contains i := by
  rw [Bool.eq_iff_iff, h.view_eq, Tiers.contains, contains, h.slotOf?_isSome_iff]
  simp [Tiers.toList, parts, List.mem_flatten]

theorem lengths_eq (h : Represents s c []) : s.lengths = s.view.lengths := by
  rw [h.view_eq, lengths, Tiers.lengths, parts, Vector.toList_ofFn, List.ofFn_eq_map]
  simp [h.ends]

theorem count_eq (h : Represents s c []) : s.count = s.view.count := by
  rw [count, h.lengths_eq, Tiers.count, Tiers.toList, List.length_flatten, Tiers.lengths]
  induction (s.view.lists.toList) with
  | nil => rfl
  | cons l ls ih => simp [ih]

theorem stats_eq (h : Represents s c []) (partSize : UInt64) :
    s.stats partSize = s.view.stats partSize := by
  rw [stats, Tiers.stats, h.count_eq, h.view_eq]

/-! ## The link helpers -/

/-- Changing links only keeps the invariant: the slab keeps its parts, free slots and table,
and the slots in the lists or out of them stay the same. -/
theorem relinked (h : Represents s c out) {s' : Slab} {c' : Fin 4 → List Nat} {out' : List Nat}
    (hc : Chains s' c') (hnd : out'.Nodup) (hapart : ∀ y ∈ out', ∀ k, y ∉ c' k)
    (hmem : ∀ y, (∃ k, y ∈ c' k) ∨ y ∈ out' ↔ (∃ k, y ∈ c k) ∨ y ∈ out)
    (hidx : ∀ y, s'.indexAt y = s.indexAt y) (hfree : s'.freeSlots = s.freeSlots)
    (hlen : s'.nodes.length = s.nodes.length) (hlook : s'.lookup = s.lookup) :
    Represents s' c' out' where
  toChains := hc
  outNodup := hnd
  apart := hapart
  occupied y := by rw [isSome_node?_iff, hidx, ← isSome_node?_iff, h.occupied, hmem]
  freeNodup := hfree ▸ h.freeNodup
  free y := by rw [hfree, hlen, node?_eq_none_iff, hidx, ← node?_eq_none_iff, h.free]
  table i y := by rw [slotOf?, hlook, hidx, ← h.table]; rfl

/-- Taking a slot out of its tier moves it out of the lists. -/
theorem unlink (h : Represents s c out) {k : Fin 4} {x : Nat} (hx : x ∈ c k) :
    Represents (s.unlink x) (Function.update c k ((c k).erase x)) (x :: out) := by
  have hxout : x ∉ out := fun hm => h.apart x hm k hx
  refine h.relinked (h.toChains.unlink hx) (List.nodup_cons.mpr ⟨hxout, h.outNodup⟩) ?_ ?_
    (indexAt_unlink s) (unlink_freeSlots s) (length_nodes_unlink s) (unlink_lookup s)
  · intro y hy j
    rcases List.mem_cons.mp hy with rfl | hy
    · by_cases hjk : j = k
      · subst hjk
        rw [Function.update_self]
        exact (h.nodup j).not_mem_erase
      · rw [Function.update_of_ne hjk]
        exact fun hj => hjk (h.disjoint j k y hj hx)
    · exact not_mem_update (h.apart y hy) (fun he => h.apart y hy k (List.mem_of_mem_erase he)) j
  · intro y
    by_cases hyx : y = x
    · subst hyx
      exact iff_of_true (.inr List.mem_cons_self) (.inl ⟨k, hx⟩)
    · rw [exists_mem_update (List.mem_erase_of_ne hyx), List.mem_cons, or_iff_right hyx]

/-- Putting a slot that is out of the lists at the front of tier `k`. -/
theorem pushFront (h : Represents s c out) {x : Nat} (hx : x ∈ out) (k : Fin 4) :
    Represents (s.pushFront k x) (Function.update c k (x :: c k)) (out.erase x) := by
  have hfree := h.apart x hx
  have hsome : (s.node? x).isSome := (h.occupied x).mpr (.inr hx)
  refine h.relinked (h.toChains.pushFront hsome hfree k) (h.outNodup.erase x) ?_ ?_
    (indexAt_pushFront s k) (pushFront_freeSlots s k) (length_nodes_pushFront s k)
    (pushFront_lookup s k)
  · intro y hy
    obtain ⟨hyx, hy⟩ := (h.outNodup.mem_erase_iff).mp hy
    exact not_mem_update (h.apart y hy) (by simp [hyx, h.apart y hy k])
  · intro y
    by_cases hyx : y = x
    · subst hyx
      exact iff_of_true (.inl ⟨k, by simp⟩) (.inr hx)
    · rw [exists_mem_update (by simp [hyx]), List.mem_erase_of_ne hyx]

/-- Putting a slot that is out of the lists at the back of tier `k`. -/
theorem pushBack (h : Represents s c out) {x : Nat} (hx : x ∈ out) (k : Fin 4) :
    Represents (s.pushBack k x) (Function.update c k (c k ++ [x])) (out.erase x) := by
  have hfree := h.apart x hx
  have hsome : (s.node? x).isSome := (h.occupied x).mpr (.inr hx)
  refine h.relinked (h.toChains.pushBack hsome hfree k) (h.outNodup.erase x) ?_ ?_
    (indexAt_pushBack s k) (pushBack_freeSlots s k) (length_nodes_pushBack s k)
    (pushBack_lookup s k)
  · intro y hy
    obtain ⟨hyx, hy⟩ := (h.outNodup.mem_erase_iff).mp hy
    exact not_mem_update (h.apart y hy) (by simp [hyx, h.apart y hy k])
  · intro y
    by_cases hyx : y = x
    · subst hyx
      exact iff_of_true (.inl ⟨k, by simp⟩) (.inr hx)
    · rw [exists_mem_update (by simp [hyx]), List.mem_erase_of_ne hyx]

/-! ## Taking and freeing slots -/

/-- Freeing a slot that is out of the lists and forgetting its part puts the slot on the free
stack; the part freed is the one the slot held. -/
theorem release (h : Represents s c out) {x : Nat} (hx : x ∈ out) :
    (s.release x).1 = some (s.partAt x) ∧
      Represents ((s.release x).2.forget (s.partAt x)) c (out.erase x) := by
  obtain ⟨n, hn⟩ := Option.isSome_iff_exists.mp ((h.occupied x).mpr (.inr hx))
  have hpart : s.partAt x = n.index := by simp [partAt, indexAt, hn]
  have hlt : x < s.nodes.length := s.lt_length_of_isSome (by simp [hn])
  have hxfree : x ∉ s.freeSlots := fun hm => by simp [((h.free x).mp hm).2] at hn
  have hslot : s.slotOf? n.index = some x := (h.table _ x).mpr (by simp [indexAt, hn])
  have hnode := node?_emptied s (x := x)
  rw [release_of_node? s hn, hpart]
  refine ⟨rfl, ?_⟩
  refine
    { toChains := h.toChains.congr (fun k y hy => ?_) rfl
      outNodup := h.outNodup.erase x
      apart := fun y hy => h.apart y (List.mem_of_mem_erase hy)
      occupied := fun y => ?_
      freeNodup := ?_
      free := fun y => ?_
      table := fun j y => ?_ }
  · rw [node?_forget, hnode, if_neg fun (e : y = x) => h.apart x hx k (e ▸ hy)]
  · rw [node?_forget, hnode]
    by_cases hyx : y = x
    · subst hyx
      simp [h.outNodup.not_mem_erase, h.apart y hx]
    · rw [if_neg hyx, h.occupied, List.mem_erase_of_ne hyx]
  · exact List.nodup_append.mpr ⟨h.freeNodup, List.nodup_singleton x,
      fun a ha b hb e => hxfree (by simp_all)⟩
  · simp only [forget_freeSlots, forget_nodes, List.length_set, List.mem_append,
      List.mem_singleton]
    rw [node?_forget, hnode]
    by_cases hyx : y = x
    · subst hyx
      simp [hlt]
    · rw [if_neg hyx, ← h.free]
      simp [hyx]
  · -- the emptied slot holds no part, and the forgotten part is in no other slot
    simp only [slotOf?_forget, slotOf?_emptied, indexAt, node?_forget, hnode]
    by_cases hj : j = n.index <;> by_cases hyx : y = x
    · simp [hj, hyx]
    · have hy : s.indexAt y ≠ some n.index := fun e => hyx (Option.some.inj
        (((h.table _ y).mpr e).symm.trans hslot))
      simp [hj, hyx, indexAt] at hy ⊢
      exact hy
    · have hx' : s.slotOf? j ≠ some x := fun e => hj (by
        simpa [indexAt, hn] using ((h.table j x).mp e).symm)
      simp [hj, hyx, hx']
    · simp only [hj, hyx, if_false]
      exact h.table j y

/-- A slot that held no node and now holds the node of a new part, recorded in the table, is
out of the lists. -/
theorem occupy (h : Represents s c out) {s' : Slab} {y : Nat} {n : LruNode}
    (hnode : ∀ z, s'.node? z = if z = y then some n else s.node? z) (hy : s.node? y = none)
    (hfree : ∀ z, z ∈ s'.freeSlots ↔ z ∈ s.freeSlots ∧ z ≠ y) (hnd : s'.freeSlots.Nodup)
    (hlen : ∀ z, z ≠ y → (z < s'.nodes.length ↔ z < s.nodes.length))
    (hylen : y < s'.nodes.length) (htiers : s'.tiers = s.tiers)
    (hi : s.slotOf? n.index = none) (hlook : s'.lookup = s.lookup) :
    Represents (s'.record n.index y) c (y :: out) := by
  have hyc : ∀ k, y ∉ c k := fun k hk => by simpa [hy] using (h.occupied y).mpr (.inl ⟨k, hk⟩)
  have hyout : y ∉ out := fun hm => by simpa [hy] using (h.occupied y).mpr (.inr hm)
  have hidx : ∀ z, (s'.record n.index y).indexAt z = if z = y then some n.index else s.indexAt z :=
    fun z => by by_cases hzy : z = y <;> simp [indexAt, hnode, hzy]
  refine
    { toChains := h.toChains.congr (fun k z hz => ?_) htiers
      outNodup := List.nodup_cons.mpr ⟨hyout, h.outNodup⟩
      apart := fun z hz k => ?_
      occupied := fun z => ?_
      freeNodup := hnd
      free := fun z => ?_
      table := fun j z => ?_ }
  · rw [node?_record, hnode, if_neg fun (e : z = y) => hyc k (e ▸ hz)]
  · rcases List.mem_cons.mp hz with rfl | hz
    exacts [hyc k, h.apart z hz k]
  · rw [node?_record, hnode, List.mem_cons]
    by_cases hzy : z = y
    · subst hzy
      simp
    · rw [if_neg hzy, h.occupied]
      simp [hzy]
  · rw [record_freeSlots, hfree, record_nodes, node?_record, hnode]
    by_cases hzy : z = y
    · subst hzy
      simp
    · rw [if_neg hzy, hlen z hzy, h.free]
      simp [hzy]
  · -- the new part is in no other slot, and no other part is in the new slot
    rw [slotOf?_record, hidx, show s'.slotOf? j = s.slotOf? j by rw [slotOf?, hlook]; rfl]
    have hslot : s.slotOf? j ≠ some y := fun e => by
      simpa [indexAt, hy] using (h.table j y).mp e
    have hpart : s.indexAt z ≠ some n.index := fun e => by
      simp [(h.table _ z).mpr e] at hi
    by_cases hj : j = n.index <;> by_cases hzy : z = y
    · simp [hj, hzy]
    · simp only [hj, hzy, if_true, if_false]
      exact iff_of_false (fun e => hzy (Option.some.inj e).symm) hpart
    · simp only [hj, hzy, if_true, if_false]
      exact iff_of_false hslot fun e => hj (Option.some.inj e).symm
    · simp only [hj, hzy, if_false]
      exact h.table j z

/-- Taking a slot for a new part and recording it: the slot on top of the free stack, or a new
one at the end of the vector. -/
theorem alloc (h : Represents s c out) {i : PartIndex} (hi : s.slotOf? i = none) :
    Represents ((s.alloc i).1.record i (s.alloc i).2) c ((s.alloc i).2 :: out) := by
  rcases alloc_cases s i with ⟨y, hl, he⟩ | ⟨hnil, he⟩ <;> rw [he]
  · have hsplit : s.freeSlots.dropLast ++ [y] = s.freeSlots := List.dropLast_append_getLast? y hl
    obtain ⟨hylt, hy⟩ := (h.free y).mp (List.mem_of_getLast? hl)
    have hnd : (s.freeSlots.dropLast ++ [y]).Nodup := by rw [hsplit]; exact h.freeNodup
    refine h.occupy (node?_filled s _ hylt) hy (fun z => ?_) (List.nodup_append.mp hnd).1
      (fun z _ => by simp) (by simpa using hylt) rfl hi rfl
    show z ∈ s.freeSlots.dropLast ↔ z ∈ s.freeSlots ∧ z ≠ y
    constructor
    · intro hz
      exact ⟨List.dropLast_subset _ hz,
        fun e => (List.nodup_append.mp hnd).2.2 z hz y (List.mem_singleton_self y) e⟩
    · rintro ⟨hz, hzy⟩
      rw [← hsplit, List.mem_append, List.mem_singleton] at hz
      exact hz.resolve_right hzy
  · have hy : s.node? s.nodes.length = none := by simp [node?]
    refine h.occupy (node?_grown s) hy (fun z => by simp [hnil]) (by simp [hnil])
      (fun z hz => ?_) (by simp) rfl hi rfl
    simp only [List.length_append, List.length_singleton]
    omega

/-- Taking a slot changes no other slot. -/
theorem indexAt_alloc (h : Represents s c out) (i : PartIndex) {z : Nat} (hz : z ≠ (s.alloc i).2) :
    (s.alloc i).1.indexAt z = s.indexAt z := by
  rcases alloc_cases s i with ⟨y, hl, he⟩ | ⟨-, he⟩ <;> rw [he] at hz ⊢ <;> unfold indexAt
  · rw [node?_filled s _ ((h.free y).mp (List.mem_of_getLast? hl)).1, if_neg hz]
  · rw [node?_grown, if_neg hz]

end Represents

end PartCache.Slab
