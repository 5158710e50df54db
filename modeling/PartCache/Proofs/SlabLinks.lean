import PartCache.Eviction.Slab
import Mathlib.Logic.Function.Basic
import Mathlib.Tactic.SplitIfs

/-!
# The links of the slab

A tier of the slab is a doubly linked list threaded through the slots.  This
module says when a list of slots `l` is such a list under the nodes of a slab
(`Linked`): every slot of `l` holds a node of the tier, its `prev` is the slot
before it and its `next` the slot after it.  Four facts do all the work on such
lists: a linked list splits at any point into two linked lists (`linked_append`),
it only reads the nodes of its own slots (`linked_congr`), its last `next` and
first `prev` can be pointed elsewhere by changing one node (`Linked.retarget_last`,
`Linked.retarget_first`), and following `next` from its first slot reads it back
(`follow_of_linked`).

`Chains s c` says that the slab `s` links each `c k` as tier `k`, with the tier's
ends and length those of `c k`, and no slot in two places.  Each of the three
helpers that move links keeps that shape and moves one slot of `c`:

* `Chains.unlink`: taking a linked slot out erases it from its list;
* `Chains.pushFront` and `Chains.pushBack`: putting an unlinked slot in adds it at
  the front or the back.

None of them changes which slots hold which parts, the free slots or the table
(`indexAt_unlink`, `indexAt_pushFront`, `indexAt_pushBack`).
-/

namespace PartCache.Slab

set_option autoImplicit false

/-! ## Reading and changing slots -/

section Slots

variable (s : Slab)

/-- A slot that holds a node is a slot of the vector. -/
theorem lt_length_of_isSome {y : Nat} (h : (s.node? y).isSome) : y < s.nodes.length := by
  by_contra hge
  simp [node?, List.getElem?_eq_none (Nat.le_of_not_lt hge)] at h

theorem node?_withNode (x : Nat) (f : LruNode → LruNode) (y : Nat) :
    (s.withNode x f).node? y = if y = x then (s.node? x).map f else s.node? y := by
  unfold withNode withNode?
  cases hx : s.node? x with
  | none =>
    by_cases hy : y = x
    · subst hy; simp [hx]
    · simp [hy]
  | some n =>
    have hlt : x < s.nodes.length := s.lt_length_of_isSome (by simp [hx])
    by_cases hy : y = x
    · subst hy; simp [node?, hlt]
    · simp [node?, hy, List.getElem?_set_ne (Ne.symm hy)]

theorem withNode?_eq (x : Nat) (f : LruNode → LruNode) :
    s.withNode? x f = (s.node? x).map fun _ => s.withNode x f := by
  unfold withNode withNode?
  cases s.node? x <;> rfl

@[simp] theorem withNode_tiers (x : Nat) (f : LruNode → LruNode) : (s.withNode x f).tiers = s.tiers := by
  unfold withNode withNode?; cases s.node? x <;> rfl

@[simp] theorem withNode_freeSlots (x : Nat) (f : LruNode → LruNode) :
    (s.withNode x f).freeSlots = s.freeSlots := by
  unfold withNode withNode?; cases s.node? x <;> rfl

@[simp] theorem withNode_lookup (x : Nat) (f : LruNode → LruNode) :
    (s.withNode x f).lookup = s.lookup := by
  unfold withNode withNode?; cases s.node? x <;> rfl

@[simp] theorem withNode_width (x : Nat) (f : LruNode → LruNode) : (s.withNode x f).width = s.width := by
  unfold withNode withNode?; cases s.node? x <;> rfl

@[simp] theorem withNode_hits (x : Nat) (f : LruNode → LruNode) : (s.withNode x f).hits = s.hits := by
  unfold withNode withNode?; cases s.node? x <;> rfl

@[simp] theorem withNode_requests (x : Nat) (f : LruNode → LruNode) :
    (s.withNode x f).requests = s.requests := by
  unfold withNode withNode?; cases s.node? x <;> rfl

@[simp] theorem length_nodes_withNode (x : Nat) (f : LruNode → LruNode) :
    (s.withNode x f).nodes.length = s.nodes.length := by
  unfold withNode withNode?; cases s.node? x <;> simp

@[simp] theorem node?_withTier (k : Fin 4) (g : TierLinks → TierLinks) :
    (s.withTier k g).node? = s.node? := rfl

theorem withTier_tiers (k : Fin 4) (g : TierLinks → TierLinks) (j : Fin 4) :
    (s.withTier k g).tiers j = if j = k then g (s.tiers k) else s.tiers j := rfl

@[simp] theorem withTier_nodes (k : Fin 4) (g : TierLinks → TierLinks) :
    (s.withTier k g).nodes = s.nodes := rfl

@[simp] theorem withTier_freeSlots (k : Fin 4) (g : TierLinks → TierLinks) :
    (s.withTier k g).freeSlots = s.freeSlots := rfl

@[simp] theorem withTier_lookup (k : Fin 4) (g : TierLinks → TierLinks) :
    (s.withTier k g).lookup = s.lookup := rfl

@[simp] theorem withTier_width (k : Fin 4) (g : TierLinks → TierLinks) :
    (s.withTier k g).width = s.width := rfl

@[simp] theorem withTier_hits (k : Fin 4) (g : TierLinks → TierLinks) :
    (s.withTier k g).hits = s.hits := rfl

@[simp] theorem withTier_requests (k : Fin 4) (g : TierLinks → TierLinks) :
    (s.withTier k g).requests = s.requests := rfl

theorem node?_relink (link : Option Nat) (f : LruNode → LruNode) (k : Fin 4)
    (g : TierLinks → TierLinks) (y : Nat) :
    (s.relink link f k g).node? y = if link = some y then (s.node? y).map f else s.node? y := by
  unfold relink
  cases link with
  | none => simp
  | some p =>
    rw [Option.bind_some, withNode?_eq]
    cases hp : s.node? p with
    | none =>
      by_cases hy : p = y
      · subst hy; simp [hp]
      · simp [hy]
    | some n =>
      simp only [Option.map_some, Option.getD_some, node?_withNode, Option.some.injEq, hp]
      by_cases hy : y = p
      · subst hy; simp [hp]
      · simp [hy, Ne.symm hy]

theorem relink_tiers (link : Option Nat) (f : LruNode → LruNode) (k : Fin 4)
    (g : TierLinks → TierLinks) :
    (s.relink link f k g).tiers =
      if (link.bind s.node?).isSome then s.tiers else (s.withTier k g).tiers := by
  unfold relink
  cases link with
  | none => simp
  | some p =>
    rw [Option.bind_some, withNode?_eq]
    cases hp : s.node? p <;> simp [hp]

/-- Relinking changes a node or a tier's ends, and nothing else of the slab: the same
`cases` settles every other field. -/
theorem relink_cases (link : Option Nat) (f : LruNode → LruNode) (k : Fin 4)
    (g : TierLinks → TierLinks) :
    (∃ p, s.relink link f k g = s.withNode p f) ∨ s.relink link f k g = s.withTier k g := by
  unfold relink
  cases link with
  | none => exact .inr rfl
  | some p =>
    rw [Option.bind_some, withNode?_eq]
    cases s.node? p with
    | none => exact .inr rfl
    | some _ => exact .inl ⟨p, rfl⟩

@[simp] theorem relink_freeSlots (link : Option Nat) (f : LruNode → LruNode) (k : Fin 4)
    (g : TierLinks → TierLinks) : (s.relink link f k g).freeSlots = s.freeSlots := by
  rcases s.relink_cases link f k g with ⟨p, h⟩ | h <;> simp [h]

@[simp] theorem relink_lookup (link : Option Nat) (f : LruNode → LruNode) (k : Fin 4)
    (g : TierLinks → TierLinks) : (s.relink link f k g).lookup = s.lookup := by
  rcases s.relink_cases link f k g with ⟨p, h⟩ | h <;> simp [h]

@[simp] theorem relink_width (link : Option Nat) (f : LruNode → LruNode) (k : Fin 4)
    (g : TierLinks → TierLinks) : (s.relink link f k g).width = s.width := by
  rcases s.relink_cases link f k g with ⟨p, h⟩ | h <;> simp [h]

@[simp] theorem relink_hits (link : Option Nat) (f : LruNode → LruNode) (k : Fin 4)
    (g : TierLinks → TierLinks) : (s.relink link f k g).hits = s.hits := by
  rcases s.relink_cases link f k g with ⟨p, h⟩ | h <;> simp [h]

@[simp] theorem relink_requests (link : Option Nat) (f : LruNode → LruNode) (k : Fin 4)
    (g : TierLinks → TierLinks) : (s.relink link f k g).requests = s.requests := by
  rcases s.relink_cases link f k g with ⟨p, h⟩ | h <;> simp [h]

@[simp] theorem length_nodes_relink (link : Option Nat) (f : LruNode → LruNode) (k : Fin 4)
    (g : TierLinks → TierLinks) : (s.relink link f k g).nodes.length = s.nodes.length := by
  rcases s.relink_cases link f k g with ⟨p, h⟩ | h <;> simp [h]

end Slots

/-! ## Linked lists of slots -/

/-- The slots `l` are linked as tier `k` under the nodes `look`: each holds a node of tier
`k` whose `prev` is the slot before it, `p` for the first, and whose `next` is the slot
after it, `q` for the last. -/
def Linked (look : Nat → Option LruNode) (k : Fin 4) : Option Nat → List Nat → Option Nat → Prop
  | _, [], _ => True
  | p, x :: rest, q => ∃ n, look x = some n ∧ n.tier = k ∧ n.prev = p ∧
      n.next = rest.head?.or q ∧ Linked look k (some x) rest q

section Linked

variable {look look' : Nat → Option LruNode} {k : Fin 4}

@[simp] theorem linked_nil (p q : Option Nat) : Linked look k p [] q := trivial

theorem linked_singleton {p q : Option Nat} {x : Nat} :
    Linked look k p [x] q ↔ ∃ n, look x = some n ∧ n.tier = k ∧ n.prev = p ∧ n.next = q := by
  simp [Linked]

/-- A linked list splits anywhere into two linked lists, each pointing at the other's end. -/
theorem linked_append {p q : Option Nat} (l₁ l₂ : List Nat) :
    Linked look k p (l₁ ++ l₂) q ↔
      Linked look k p l₁ (l₂.head?.or q) ∧ Linked look k (l₁.getLast?.or p) l₂ q := by
  induction l₁ generalizing p with
  | nil => simp
  | cons x rest ih =>
    have hlast : (x :: rest).getLast?.or p = rest.getLast?.or (some x) := by
      cases h : rest.getLast? <;> simp [List.getLast?_cons, h]
    simp only [List.cons_append, Linked, ih, List.head?_append, Option.or_assoc, hlast]
    constructor
    · rintro ⟨n, hx, ht, hp, hn, h₁, h₂⟩
      exact ⟨⟨n, hx, ht, hp, hn, h₁⟩, h₂⟩
    · rintro ⟨⟨n, hx, ht, hp, hn, h₁⟩, h₂⟩
      exact ⟨n, hx, ht, hp, hn, h₁, h₂⟩

/-- A linked list reads only the nodes of its own slots. -/
theorem linked_congr {p q : Option Nat} {l : List Nat} (h : ∀ y ∈ l, look' y = look y) :
    Linked look' k p l q ↔ Linked look k p l q := by
  induction l generalizing p with
  | nil => simp
  | cons x rest ih =>
    simp only [Linked, h x List.mem_cons_self,
      ih fun y hy => h y (List.mem_cons_of_mem x hy)]

theorem Linked.node_of_mem {p q : Option Nat} {l : List Nat} (h : Linked look k p l q) {x : Nat}
    (hx : x ∈ l) : ∃ n, look x = some n ∧ n.tier = k := by
  induction l generalizing p with
  | nil => cases hx
  | cons y rest ih =>
    obtain ⟨n, hy, ht, -, -, hrest⟩ := h
    rcases List.mem_cons.mp hx with rfl | hx
    · exact ⟨n, hy, ht⟩
    · exact ih hrest hx

/-- The `next` of a linked list's last slot can be pointed elsewhere by changing that node
alone. -/
theorem Linked.retarget_last {p q q' : Option Nat} {l : List Nat} {y : Nat}
    (h : Linked look k p (l ++ [y]) q)
    (hy : look' y = (look y).map fun m => { m with next := q' })
    (hl : ∀ z ∈ l, look' z = look z) : Linked look' k p (l ++ [y]) q' := by
  rw [linked_append] at h ⊢
  obtain ⟨hfront, hback⟩ := h
  refine ⟨(linked_congr hl).mpr hfront, ?_⟩
  obtain ⟨n, hn, ht, hp, -⟩ := linked_singleton.mp hback
  exact linked_singleton.mpr ⟨{ n with next := q' }, by simp [hy, hn], ht, hp, rfl⟩

/-- The `prev` of a linked list's first slot can be pointed elsewhere by changing that node
alone. -/
theorem Linked.retarget_first {p p' q : Option Nat} {l : List Nat} {y : Nat}
    (h : Linked look k p (y :: l) q)
    (hy : look' y = (look y).map fun m => { m with prev := p' })
    (hl : ∀ z ∈ l, look' z = look z) : Linked look' k p' (y :: l) q := by
  obtain ⟨n, hn, ht, -, hnext, hrest⟩ := h
  exact ⟨{ n with prev := p' }, by simp [hy, hn], ht, rfl, hnext, (linked_congr hl).mpr hrest⟩

end Linked

/-- Following `next` from the first slot of a linked list, as many steps as it is long,
reads the list back. -/
theorem follow_of_linked (nodes : List (Option LruNode)) {k : Fin 4} {p : Option Nat}
    {l : List Nat} (h : Linked (fun x => nodes[x]?.join) k p l none) :
    follow nodes l.length l.head? = l := by
  induction l generalizing p with
  | nil => simp [follow]
  | cons x rest ih =>
    obtain ⟨n, hx, -, -, hnext, hrest⟩ := h
    have hn : (nodes[x]?.join).bind (·.next) = rest.head? := by
      simp [hx, hnext]
    simp only [List.length_cons, List.head?_cons, follow, hn, ih hrest]


/-! ## What the helpers do to nodes and ends -/

section Helpers

variable (s : Slab) {x : Nat} {n : LruNode}

theorem unlink_of_node? (hn : s.node? x = some n) :
    s.unlink x =
      (((s.relink n.prev (fun m => { m with next := n.next }) n.tier
          fun t => { t with head := n.next }).relink n.next (fun m => { m with prev := n.prev })
          n.tier fun t => { t with tail := n.prev }).withTier n.tier
          fun t => { t with len := t.len - 1 }).withNode x
        fun m => { m with prev := none, next := none } := by
  simp [unlink, hn]

theorem unlink_of_node?_eq_none (hn : s.node? x = none) : s.unlink x = s := by
  simp [unlink, hn]

/-- The node taken out keeps no links. -/
theorem node?_unlink_self (hn : s.node? x = some n) (hprev : n.prev ≠ some x)
    (hnext : n.next ≠ some x) :
    (s.unlink x).node? x = some { n with prev := none, next := none } := by
  simp [unlink_of_node? s hn, node?_withNode, node?_relink, hprev, hnext, hn]

/-- The node before the one taken out now points past it. -/
theorem node?_unlink_prev (hn : s.node? x = some n) {p : Nat} (hp : n.prev = some p)
    (hpx : p ≠ x) (hpq : n.next ≠ some p) :
    (s.unlink x).node? p = (s.node? p).map fun m => { m with next := n.next } := by
  simp [unlink_of_node? s hn, node?_withNode, node?_relink, hp, hpx, hpq]

/-- The node after the one taken out now points back past it. -/
theorem node?_unlink_next (hn : s.node? x = some n) {q : Nat} (hq : n.next = some q)
    (hqx : q ≠ x) (hqp : n.prev ≠ some q) :
    (s.unlink x).node? q = (s.node? q).map fun m => { m with prev := n.prev } := by
  simp [unlink_of_node? s hn, node?_withNode, node?_relink, hq, hqx, hqp]

/-- Every other node is left as it was. -/
theorem node?_unlink_other (hn : s.node? x = some n) {z : Nat} (hzx : z ≠ x)
    (hzp : n.prev ≠ some z) (hzq : n.next ≠ some z) : (s.unlink x).node? z = s.node? z := by
  simp [unlink_of_node? s hn, node?_withNode, node?_relink, hzx, hzp, hzq]

/-- Taking a node out shortens its tier, and moves the tier's front or back past it when
it had no neighbour there. -/
theorem unlink_tiers (hn : s.node? x = some n)
    (hpe : ∀ p, n.prev = some p → (s.node? p).isSome)
    (hqe : ∀ q, n.next = some q → (s.node? q).isSome) (j : Fin 4) :
    (s.unlink x).tiers j =
      if j = n.tier then
        ⟨if n.prev = none then n.next else (s.tiers j).head,
          if n.next = none then n.prev else (s.tiers j).tail, (s.tiers j).len - 1⟩
      else s.tiers j := by
  have hq' : ∀ q, n.next = some q →
      ((s.relink n.prev (fun m => { m with next := n.next }) n.tier
        fun t => { t with head := n.next }).node? q).isSome := by
    intro q hq
    rw [node?_relink]
    split <;> simp [hqe q hq]
  rw [unlink_of_node? s hn, withNode_tiers]
  rcases hp : n.prev with _ | p <;> rcases hq : n.next with _ | q
  · by_cases hj : j = n.tier <;> simp [relink_tiers, withTier, hj]
  · have := hq' q hq
    by_cases hj : j = n.tier <;> simp_all [relink_tiers, withTier]
  · have := hpe p hp
    by_cases hj : j = n.tier <;> simp_all [relink_tiers, withTier]
  · have := hpe p hp
    have := hq' q hq
    by_cases hj : j = n.tier <;> simp_all [relink_tiers, withTier]

theorem indexAt_unlink (y : Nat) : (s.unlink x).indexAt y = s.indexAt y := by
  cases hn : s.node? x with
  | none => rw [unlink_of_node?_eq_none s hn]
  | some n =>
    simp only [indexAt, unlink_of_node? s hn, node?_withNode, node?_relink, node?_withTier]
    split_ifs <;> simp_all [Option.map_map, Function.comp_def]

@[simp] theorem unlink_freeSlots : (s.unlink x).freeSlots = s.freeSlots := by
  cases hn : s.node? x with
  | none => rw [unlink_of_node?_eq_none s hn]
  | some n => simp [unlink_of_node? s hn]

@[simp] theorem unlink_lookup : (s.unlink x).lookup = s.lookup := by
  cases hn : s.node? x with
  | none => rw [unlink_of_node?_eq_none s hn]
  | some n => simp [unlink_of_node? s hn]

@[simp] theorem unlink_width : (s.unlink x).width = s.width := by
  cases hn : s.node? x with
  | none => rw [unlink_of_node?_eq_none s hn]
  | some n => simp [unlink_of_node? s hn]

@[simp] theorem unlink_hits : (s.unlink x).hits = s.hits := by
  cases hn : s.node? x with
  | none => rw [unlink_of_node?_eq_none s hn]
  | some n => simp [unlink_of_node? s hn]

@[simp] theorem unlink_requests : (s.unlink x).requests = s.requests := by
  cases hn : s.node? x with
  | none => rw [unlink_of_node?_eq_none s hn]
  | some n => simp [unlink_of_node? s hn]

@[simp] theorem length_nodes_unlink : (s.unlink x).nodes.length = s.nodes.length := by
  cases hn : s.node? x with
  | none => rw [unlink_of_node?_eq_none s hn]
  | some n => simp [unlink_of_node? s hn]

theorem pushFront_eq (k : Fin 4) (x : Nat) :
    s.pushFront k x =
      ((s.withNode x fun m => { m with tier := k, prev := none, next := (s.tiers k).head }).relink
        (s.tiers k).head (fun m => { m with prev := some x }) k
          fun t => { t with tail := some x }).withTier k
        fun t => { t with head := some x, len := t.len + 1 } := rfl

theorem pushBack_eq (k : Fin 4) (x : Nat) :
    s.pushBack k x =
      ((s.withNode x fun m => { m with tier := k, prev := (s.tiers k).tail, next := none }).relink
        (s.tiers k).tail (fun m => { m with next := some x }) k
          fun t => { t with head := some x }).withTier k
        fun t => { t with tail := some x, len := t.len + 1 } := rfl

/-- The node put at the front joins the tier, before its old front. -/
theorem node?_pushFront_self (k : Fin 4) (hh : (s.tiers k).head ≠ some x) :
    (s.pushFront k x).node? x =
      (s.node? x).map fun m => { m with tier := k, prev := none, next := (s.tiers k).head } := by
  simp [pushFront_eq, node?_withNode, node?_relink, hh]

/-- The old front now points back at the node put before it. -/
theorem node?_pushFront_head (k : Fin 4) {h : Nat} (hh : (s.tiers k).head = some h) (hx : h ≠ x) :
    (s.pushFront k x).node? h = (s.node? h).map fun m => { m with prev := some x } := by
  simp [pushFront_eq, node?_withNode, node?_relink, hh, hx]

theorem node?_pushFront_other (k : Fin 4) {z : Nat} (hzx : z ≠ x) (hzh : (s.tiers k).head ≠ some z) :
    (s.pushFront k x).node? z = s.node? z := by
  simp [pushFront_eq, node?_withNode, node?_relink, hzx, hzh]

/-- The node put at the back joins the tier, after its old back. -/
theorem node?_pushBack_self (k : Fin 4) (ht : (s.tiers k).tail ≠ some x) :
    (s.pushBack k x).node? x =
      (s.node? x).map fun m => { m with tier := k, prev := (s.tiers k).tail, next := none } := by
  simp [pushBack_eq, node?_withNode, node?_relink, ht]

/-- The old back now points on to the node put after it. -/
theorem node?_pushBack_tail (k : Fin 4) {t : Nat} (ht : (s.tiers k).tail = some t) (hx : t ≠ x) :
    (s.pushBack k x).node? t = (s.node? t).map fun m => { m with next := some x } := by
  simp [pushBack_eq, node?_withNode, node?_relink, ht, hx]

theorem node?_pushBack_other (k : Fin 4) {z : Nat} (hzx : z ≠ x) (hzt : (s.tiers k).tail ≠ some z) :
    (s.pushBack k x).node? z = s.node? z := by
  simp [pushBack_eq, node?_withNode, node?_relink, hzx, hzt]

/-- Putting a node at the front makes it the tier's front, and its back too if the tier was
empty. -/
theorem pushFront_tiers (k : Fin 4)
    (hhe : ∀ h, (s.tiers k).head = some h → (s.node? h).isSome ∧ h ≠ x) (j : Fin 4) :
    (s.pushFront k x).tiers j =
      if j = k then
        ⟨some x, if (s.tiers k).head = none then some x else (s.tiers k).tail, (s.tiers k).len + 1⟩
      else s.tiers j := by
  rw [pushFront_eq]
  rcases hh : (s.tiers k).head with _ | h
  · by_cases hj : j = k <;> simp [relink_tiers, withTier, hh, hj]
  · obtain ⟨hs, hx⟩ := hhe h hh
    by_cases hj : j = k <;> simp [relink_tiers, withTier, hj, node?_withNode, hx, hs]

/-- Putting a node at the back makes it the tier's back, and its front too if the tier was
empty. -/
theorem pushBack_tiers (k : Fin 4)
    (hte : ∀ t, (s.tiers k).tail = some t → (s.node? t).isSome ∧ t ≠ x) (j : Fin 4) :
    (s.pushBack k x).tiers j =
      if j = k then
        ⟨if (s.tiers k).tail = none then some x else (s.tiers k).head, some x, (s.tiers k).len + 1⟩
      else s.tiers j := by
  rw [pushBack_eq]
  rcases ht : (s.tiers k).tail with _ | t
  · by_cases hj : j = k <;> simp [relink_tiers, withTier, ht, hj]
  · obtain ⟨hs, hx⟩ := hte t ht
    by_cases hj : j = k <;> simp [relink_tiers, withTier, hj, node?_withNode, hx, hs]

theorem indexAt_pushFront (k : Fin 4) (y : Nat) : (s.pushFront k x).indexAt y = s.indexAt y := by
  simp only [indexAt, pushFront_eq, node?_withTier, node?_relink, node?_withNode]
  split_ifs <;> simp_all [Option.map_map, Function.comp_def]

theorem indexAt_pushBack (k : Fin 4) (y : Nat) : (s.pushBack k x).indexAt y = s.indexAt y := by
  simp only [indexAt, pushBack_eq, node?_withTier, node?_relink, node?_withNode]
  split_ifs <;> simp_all [Option.map_map, Function.comp_def]

@[simp] theorem pushFront_freeSlots (k : Fin 4) : (s.pushFront k x).freeSlots = s.freeSlots := by
  simp [pushFront_eq]

@[simp] theorem pushFront_lookup (k : Fin 4) : (s.pushFront k x).lookup = s.lookup := by
  simp [pushFront_eq]

@[simp] theorem pushFront_width (k : Fin 4) : (s.pushFront k x).width = s.width := by
  simp [pushFront_eq]

@[simp] theorem pushFront_hits (k : Fin 4) : (s.pushFront k x).hits = s.hits := by
  simp [pushFront_eq]

@[simp] theorem pushFront_requests (k : Fin 4) : (s.pushFront k x).requests = s.requests := by
  simp [pushFront_eq]

@[simp] theorem length_nodes_pushFront (k : Fin 4) :
    (s.pushFront k x).nodes.length = s.nodes.length := by
  simp [pushFront_eq]

@[simp] theorem pushBack_freeSlots (k : Fin 4) : (s.pushBack k x).freeSlots = s.freeSlots := by
  simp [pushBack_eq]

@[simp] theorem pushBack_lookup (k : Fin 4) : (s.pushBack k x).lookup = s.lookup := by
  simp [pushBack_eq]

@[simp] theorem pushBack_width (k : Fin 4) : (s.pushBack k x).width = s.width := by
  simp [pushBack_eq]

@[simp] theorem pushBack_hits (k : Fin 4) : (s.pushBack k x).hits = s.hits := by
  simp [pushBack_eq]

@[simp] theorem pushBack_requests (k : Fin 4) : (s.pushBack k x).requests = s.requests := by
  simp [pushBack_eq]

@[simp] theorem length_nodes_pushBack (k : Fin 4) :
    (s.pushBack k x).nodes.length = s.nodes.length := by
  simp [pushBack_eq]

end Helpers

/-- In a list without repeats, a slot before the last is not the last. -/
theorem getLast?_ne_of_mem_dropLast {A : List Nat} (hA : A.Nodup) {z : Nat} (hz : z ∈ A.dropLast) :
    A.getLast? ≠ some z := by
  intro e
  obtain ⟨ys, rfl⟩ := List.getLast?_eq_some_iff.mp e
  rw [List.dropLast_concat] at hz
  exact (List.nodup_append.mp hA).2.2 z hz z (List.mem_singleton_self z) rfl

/-- In a list without repeats, a slot after the first is not the first. -/
theorem head?_ne_of_mem_tail {B : List Nat} (hB : B.Nodup) {z : Nat} (hz : z ∈ B.tail) :
    B.head? ≠ some z := by
  rcases B with _ | ⟨q, B'⟩
  · cases hz
  · intro e
    cases e
    exact (List.nodup_cons.mp hB).1 hz

section Linked

variable {look look' : Nat → Option LruNode} {k : Fin 4}

/-- Taking `x` out of the linked list `A ++ x :: B` leaves a linked list once the last node
of `A` points on to the first of `B` and that one back to the last of `A`. -/
theorem linked_erase {A B : List Nat} {x : Nat}
    (hA : Linked look k none A (some x)) (hB : Linked look k (some x) B none)
    (hprev : ∀ p, A.getLast? = some p → look' p = (look p).map fun m => { m with next := B.head? })
    (hnext : ∀ q, B.head? = some q → look' q = (look q).map fun m => { m with prev := A.getLast? })
    (hA' : ∀ z ∈ A.dropLast, look' z = look z) (hB' : ∀ z ∈ B.tail, look' z = look z) :
    Linked look' k none (A ++ B) none := by
  rw [linked_append, Option.or_none, Option.or_none]
  constructor
  · rcases List.eq_nil_or_concat A with rfl | ⟨A', p, rfl⟩
    · trivial
    · simp only [List.concat_eq_append] at hA hprev hA' ⊢
      exact hA.retarget_last (hprev p (by simp)) (by simpa using hA')
  · rcases B with _ | ⟨q, B'⟩
    · trivial
    · exact hB.retarget_first (hnext q rfl) (by simpa using hB')

end Linked

/-! ## Tiers as linked lists -/

/-- The slab links the slots `c k` as tier `k`, for every tier: the tier's ends and length
are those of `c k`, and no slot is in two places. -/
structure Chains (s : Slab) (c : Fin 4 → List Nat) : Prop where
  linked : ∀ k, Linked s.node? k none (c k) none
  ends : ∀ k, s.tiers k = ⟨(c k).head?, (c k).getLast?, (c k).length⟩
  nodup : ∀ k, (c k).Nodup
  disjoint : ∀ k j x, x ∈ c k → x ∈ c j → k = j

namespace Chains

variable {s : Slab} {c : Fin 4 → List Nat}

theorem node_of_mem (h : Chains s c) {k : Fin 4} {x : Nat} (hx : x ∈ c k) :
    ∃ n, s.node? x = some n ∧ n.tier = k :=
  (h.linked k).node_of_mem hx

theorem isSome_of_mem (h : Chains s c) {k : Fin 4} {x : Nat} (hx : x ∈ c k) :
    (s.node? x).isSome := by
  obtain ⟨n, hn, -⟩ := h.node_of_mem hx
  simp [hn]

/-- The chains stay linked in a slab with the same tier ends and the same nodes in them. -/
theorem congr (h : Chains s c) {s' : Slab} (hn : ∀ k, ∀ y ∈ c k, s'.node? y = s.node? y)
    (ht : s'.tiers = s.tiers) : Chains s' c where
  linked k := (linked_congr (hn k)).mpr (h.linked k)
  ends k := ht ▸ h.ends k
  nodup := h.nodup
  disjoint := h.disjoint

/-- Taking a linked slot out of its tier erases it from that tier's list. -/
theorem unlink (h : Chains s c) {k : Fin 4} {x : Nat} (hx : x ∈ c k) :
    Chains (s.unlink x) (Function.update c k ((c k).erase x)) := by
  obtain ⟨A, B, hc⟩ := List.append_of_mem hx
  have hnd : (A ++ x :: B).Nodup := hc ▸ h.nodup k
  have hxA : x ∉ A := fun hm => (List.nodup_append.mp hnd).2.2 x hm x List.mem_cons_self rfl
  have hxB : x ∉ B := ((List.nodup_cons.mp (List.nodup_append.mp hnd).2.1)).1
  have hAB : ∀ a ∈ A, a ∉ B := fun a ha hb =>
    (List.nodup_append.mp hnd).2.2 a ha a (List.mem_cons_of_mem x hb) rfl
  have hlink := h.linked k
  rw [hc, linked_append] at hlink
  obtain ⟨hA, n, hn, ht, hprev, hnext, hB⟩ := hlink
  rw [Option.or_none] at hprev
  rw [Option.or_none] at hnext
  -- the slots `x` is joined to, and the tier they are in
  have hpA : ∀ p, n.prev = some p → p ∈ A := fun p hp => List.mem_of_getLast? (hprev ▸ hp)
  have hqB : ∀ q, n.next = some q → q ∈ B := fun q hq => List.mem_of_mem_head? (hnext ▸ hq)
  have hmem : ∀ y, y ∈ A ∨ y ∈ B → y ∈ c k := fun y hy => by
    rw [hc]; rcases hy with hy | hy <;> simp [hy]
  have hother : ∀ z, z ∉ c k → (s.unlink x).node? z = s.node? z := fun z hz =>
    node?_unlink_other s hn (fun e => hz (e ▸ hx))
      (fun e => hz (hmem z (.inl (hpA z e)))) (fun e => hz (hmem z (.inr (hqB z e))))
  have herase : (c k).erase x = A ++ B := by
    rw [hc, List.erase_append_right _ hxA, List.erase_cons_head]
  refine ⟨fun j => ?_, fun j => ?_, fun j => ?_, fun j i y hj hi => ?_⟩
  · by_cases hjk : j = k
    · subst hjk
      rw [Function.update_self, herase]
      refine linked_erase hA hB (fun p hp => ?_) (fun q hq => ?_) (fun z hz => ?_) (fun z hz => ?_)
      · have hpx : p ≠ x := fun e => hxA (e ▸ List.mem_of_getLast? hp)
        exact node?_unlink_prev s hn (hprev.trans hp) hpx
          (fun e => hAB p (List.mem_of_getLast? hp) (hqB p e)) |>.trans (by rw [← hnext])
      · have hqx : q ≠ x := fun e => hxB (e ▸ List.mem_of_mem_head? hq)
        exact node?_unlink_next s hn (hnext.trans hq) hqx
          (fun e => hAB q (hpA q e) (List.mem_of_mem_head? hq)) |>.trans (by rw [← hprev])
      · have hzA : z ∈ A := List.dropLast_subset A hz
        refine node?_unlink_other s hn (fun e => hxA (e ▸ hzA)) (fun e => ?_)
          (fun e => hAB z hzA (hqB z e))
        exact getLast?_ne_of_mem_dropLast (List.nodup_append.mp hnd).1 hz (hprev ▸ e)
      · have hzB : z ∈ B := List.mem_of_mem_tail hz
        refine node?_unlink_other s hn (fun e => hxB (e ▸ hzB)) (fun e => hAB z (hpA z e) hzB)
          (fun e => ?_)
        exact head?_ne_of_mem_tail (List.nodup_cons.mp (List.nodup_append.mp hnd).2.1).2 hz
          (hnext ▸ e)
    · rw [Function.update_of_ne hjk]
      exact (linked_congr fun z hz => hother z fun hk => hjk (h.disjoint j k z hz hk)).mpr
        (h.linked j)
  · have hpe : ∀ p, n.prev = some p → (s.node? p).isSome := fun p hp =>
      h.isSome_of_mem (hmem p (.inl (hpA p hp)))
    have hqe : ∀ q, n.next = some q → (s.node? q).isSome := fun q hq =>
      h.isSome_of_mem (hmem q (.inr (hqB q hq)))
    rw [unlink_tiers s hn hpe hqe, ht]
    by_cases hjk : j = k
    · subst hjk
      rw [Function.update_self, herase, if_pos rfl, h.ends j, hc, TierLinks.mk.injEq]
      refine ⟨?_, ?_, by simp⟩
      · -- the front moves only when `x` was the front
        rcases A with _ | ⟨a, A⟩
        · simp [hprev, hnext]
        · simp [hprev]
      · -- the back moves only when `x` was the back
        rcases B with _ | ⟨b, B⟩
        · simp [hnext, hprev]
        · simp [hnext, List.getLast?_append]
    · rw [if_neg hjk, Function.update_of_ne hjk, h.ends j]
  · by_cases hjk : j = k
    · subst hjk
      rw [Function.update_self]
      exact (h.nodup j).erase x
    · rw [Function.update_of_ne hjk]
      exact h.nodup j
  · have hsub : ∀ m, y ∈ Function.update c k ((c k).erase x) m → y ∈ c m := fun m hm => by
      by_cases hmk : m = k
      · subst hmk
        rw [Function.update_self] at hm
        exact List.mem_of_mem_erase hm
      · rwa [Function.update_of_ne hmk] at hm
    exact h.disjoint j i y (hsub j hj) (hsub i hi)

/-- Giving tier `k` a list made of its own slots and of `x`, which was in no tier, keeps the
tiers apart. -/
theorem disjoint_update (h : Chains s c) {x : Nat} (hfree : ∀ j, x ∉ c j) {k : Fin 4}
    {l : List Nat} (hl : ∀ y ∈ l, y = x ∨ y ∈ c k) (j i : Fin 4) (y : Nat)
    (hj : y ∈ Function.update c k l j) (hi : y ∈ Function.update c k l i) : j = i := by
  have hmem : ∀ m, y ∈ Function.update c k l m → (m = k ∧ y = x) ∨ y ∈ c m := fun m hm => by
    by_cases hmk : m = k
    · subst hmk
      rw [Function.update_self] at hm
      rcases hl y hm with e | e
      · exact .inl ⟨rfl, e⟩
      · exact .inr e
    · rw [Function.update_of_ne hmk] at hm
      exact .inr hm
  rcases hmem j hj with ⟨hjk, hyx⟩ | hj' <;> rcases hmem i hi with ⟨hik, hyx'⟩ | hi'
  · exact hjk.trans hik.symm
  · exact absurd (hyx ▸ hi') (hfree i)
  · exact absurd (hyx' ▸ hj') (hfree j)
  · exact h.disjoint j i y hj' hi'

/-- Putting a slot that holds a node and is in no tier at the front of tier `k` adds it to
the front of that tier's list. -/
theorem pushFront (h : Chains s c) {x : Nat} (hx : (s.node? x).isSome) (hfree : ∀ j, x ∉ c j)
    (k : Fin 4) : Chains (s.pushFront k x) (Function.update c k (x :: c k)) := by
  have hhead : (s.tiers k).head = (c k).head? := by rw [h.ends k]
  have hhx : (s.tiers k).head ≠ some x := fun e =>
    hfree k (List.mem_of_mem_head? (hhead ▸ e))
  have hhk : ∀ z, (s.tiers k).head = some z → z ∈ c k := fun z e =>
    List.mem_of_mem_head? (hhead ▸ e)
  refine ⟨fun j => ?_, fun j => ?_, fun j => ?_, h.disjoint_update hfree (by simp)⟩
  · by_cases hjk : j = k
    · subst hjk
      rw [Function.update_self]
      obtain ⟨m, hm⟩ := Option.isSome_iff_exists.mp hx
      refine ⟨{ m with tier := j, prev := none, next := (s.tiers j).head },
        by rw [node?_pushFront_self s j hhx, hm]; rfl, rfl, rfl, by rw [hhead, Option.or_none], ?_⟩
      -- the old list, its first node now pointing back at `x`
      have hl := h.linked j
      rcases hc : c j with _ | ⟨f, rest⟩
      · trivial
      · rw [hc] at hl hhead
        have hnd := hc ▸ h.nodup j
        exact hl.retarget_first (node?_pushFront_head s j hhead fun e => hfree j (by simp [hc, e]))
          fun z hz => node?_pushFront_other s j (fun e => hfree j (by simp [hc, ← e, hz]))
            (by rw [hhead]; exact fun e => (List.nodup_cons.mp hnd).1 (Option.some.inj e ▸ hz))
    · rw [Function.update_of_ne hjk]
      exact (linked_congr fun z hz => node?_pushFront_other s k (fun (e : z = x) => hfree j (e ▸ hz))
        fun e => hjk (h.disjoint j k z hz (hhk z e))).mpr (h.linked j)
  · have hhe : ∀ f, (s.tiers k).head = some f → (s.node? f).isSome ∧ f ≠ x := fun f e =>
      ⟨h.isSome_of_mem (hhk f e), fun hf => hhx (hf ▸ e)⟩
    rw [pushFront_tiers s k hhe]
    by_cases hjk : j = k
    · subst hjk
      rw [if_pos rfl, Function.update_self, h.ends j]
      rcases c j with _ | ⟨f, rest⟩ <;> simp
    · rw [if_neg hjk, Function.update_of_ne hjk, h.ends j]
  · by_cases hjk : j = k
    · subst hjk
      rw [Function.update_self]
      exact List.nodup_cons.mpr ⟨hfree j, h.nodup j⟩
    · rw [Function.update_of_ne hjk]
      exact h.nodup j

/-- Putting a slot that holds a node and is in no tier at the back of tier `k` adds it to the
back of that tier's list. -/
theorem pushBack (h : Chains s c) {x : Nat} (hx : (s.node? x).isSome) (hfree : ∀ j, x ∉ c j)
    (k : Fin 4) : Chains (s.pushBack k x) (Function.update c k (c k ++ [x])) := by
  have htail : (s.tiers k).tail = (c k).getLast? := by rw [h.ends k]
  have htx : (s.tiers k).tail ≠ some x := fun e =>
    hfree k (List.mem_of_getLast? (htail ▸ e))
  have htk : ∀ z, (s.tiers k).tail = some z → z ∈ c k := fun z e =>
    List.mem_of_getLast? (htail ▸ e)
  refine ⟨fun j => ?_, fun j => ?_, fun j => ?_, h.disjoint_update hfree fun y hy => ?_⟩
  rotate_left 3
  · rcases List.mem_append.mp hy with hy | hy
    exacts [.inr hy, .inl (List.mem_singleton.mp hy)]
  · by_cases hjk : j = k
    · subst hjk
      rw [Function.update_self, linked_append, Option.or_none]
      obtain ⟨m, hm⟩ := Option.isSome_iff_exists.mp hx
      refine ⟨?_, linked_singleton.mpr ⟨{ m with tier := j, prev := (s.tiers j).tail, next := none },
        by rw [node?_pushBack_self s j htx, hm]; rfl, rfl, by rw [htail, Option.or_none], rfl⟩⟩
      -- the old list, its last node now pointing on to `x`
      have hl := h.linked j
      rcases List.eq_nil_or_concat (c j) with hc | ⟨A, t, hc⟩
      · rw [hc]; trivial
      · rw [List.concat_eq_append] at hc
        rw [hc] at hl htail ⊢
        rw [List.getLast?_concat] at htail
        have hnd := hc ▸ h.nodup j
        have htA : t ∉ A := fun ht => (List.nodup_append.mp hnd).2.2 t ht t
          (List.mem_singleton_self t) rfl
        exact hl.retarget_last (node?_pushBack_tail s j htail fun e => hfree j (by simp [hc, e]))
          fun z hz => node?_pushBack_other s j (fun e => hfree j (by simp [hc, ← e, hz]))
            (by rw [htail]; exact fun e => htA (Option.some.inj e ▸ hz))
    · rw [Function.update_of_ne hjk]
      exact (linked_congr fun z hz => node?_pushBack_other s k (fun (e : z = x) => hfree j (e ▸ hz))
        fun e => hjk (h.disjoint j k z hz (htk z e))).mpr (h.linked j)
  · have hte : ∀ t, (s.tiers k).tail = some t → (s.node? t).isSome ∧ t ≠ x := fun t e =>
      ⟨h.isSome_of_mem (htk t e), fun ht => htx (ht ▸ e)⟩
    rw [pushBack_tiers s k hte]
    by_cases hjk : j = k
    · subst hjk
      rw [if_pos rfl, Function.update_self, h.ends j, List.getLast?_concat]
      rcases c j with _ | ⟨f, rest⟩ <;> simp
    · rw [if_neg hjk, Function.update_of_ne hjk, h.ends j]
  · by_cases hjk : j = k
    · subst hjk
      rw [Function.update_self]
      exact List.nodup_append.mpr ⟨h.nodup j, by simp,
        fun a ha b hb e => hfree j (by simp_all)⟩
    · rw [Function.update_of_ne hjk]
      exact h.nodup j

end Chains


end PartCache.Slab
