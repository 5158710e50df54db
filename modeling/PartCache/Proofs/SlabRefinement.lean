import PartCache.Proofs.SlabInvariant
import PartCache.Proofs.TierBound

/-!
# The stored policy refines the list policy

`Stands s ls` says that the slab `s` stores the four lists of parts `ls`: it
represents some lists of slots (`Represents`, with no slot taken out) whose parts
are `ls`.  Every operation of the slab, from a slab that stands for `ls`, gives a
slab that stands for what the operation of `PartCache.Tiers` gives from `ls`, and
evicts the same part.  Making room comes first: the shift of front parts up
(`Stands.shiftUp`, one step per tier) and the eviction of the coldest back part
(`Stands.evictColdest`) together give `Stands.makeRoom`.  Then come adding,
promoting (with the swap of two parts between tiers) and removing.

Answering a request therefore gives the reply the lists give and keeps the
invariant `WellFormed` (`WellFormed.answer`), and a run of requests on a
well-formed slab answers each of them as the lists do (`WellFormed.run`).
-/

set_option autoImplicit false

namespace PartCache.Tiers

theorem add_eq_ok (t : Tiers) {i : PartIndex} (hi : t.contains i = false) :
    t.add i = .ok ({ t with
      lists := (makeRoom t.width t.lists).1.set Slab.coldest
        (i :: (makeRoom t.width t.lists).1.get Slab.coldest) Slab.coldest.isLt },
      (makeRoom t.width t.lists).2) := by
  simp only [add, hi]
  rfl

end PartCache.Tiers

namespace PartCache.Slab

/-! ## The parts in lists of slots -/

section Parts

variable (s : Slab) (c : Fin 4 → List Nat)

@[simp] theorem get_parts (k : Fin 4) : (s.parts c).get k = (c k).map s.partAt := by
  unfold Vector.get
  simp only [parts, Vector.toArray_ofFn, Array.getElem_ofFn]
  rfl

theorem parts_update (k : Fin 4) (l : List Nat) :
    s.parts (Function.update c k l) = (s.parts c).set k (l.map s.partAt) k.isLt := by
  unfold parts
  rw [← ofFn_update]
  congr 1
  funext j
  exact Function.apply_update (fun _ l => l.map s.partAt) c k l j

theorem parts_congr {s' : Slab} (hs : ∀ k, ∀ y ∈ c k, s'.partAt y = s.partAt y) :
    s'.parts c = s.parts c := by
  unfold parts
  congr 1
  funext k
  exact List.map_congr_left (hs k)

@[simp] theorem partAt_unlink (x : Nat) : (s.unlink x).partAt = s.partAt :=
  funext fun y => by simp only [partAt, indexAt_unlink]

@[simp] theorem partAt_pushFront (k : Fin 4) (x : Nat) : (s.pushFront k x).partAt = s.partAt :=
  funext fun y => by simp only [partAt, indexAt_pushFront]

@[simp] theorem partAt_pushBack (k : Fin 4) (x : Nat) : (s.pushBack k x).partAt = s.partAt :=
  funext fun y => by simp only [partAt, indexAt_pushBack]

@[simp] theorem parts_unlink (x : Nat) : (s.unlink x).parts c = s.parts c := by
  rw [parts, partAt_unlink, parts]

@[simp] theorem parts_pushFront (k : Fin 4) (x : Nat) : (s.pushFront k x).parts c = s.parts c := by
  rw [parts, partAt_pushFront, parts]

@[simp] theorem parts_pushBack (k : Fin 4) (x : Nat) : (s.pushBack k x).parts c = s.parts c := by
  rw [parts, partAt_pushBack, parts]

@[simp] theorem parts_record (i : PartIndex) (y : Nat) : (s.record i y).parts c = s.parts c := rfl

theorem partAt_release {x y : Nat} (hyx : y ≠ x) (i : PartIndex) :
    ((s.release x).2.forget i).partAt y = s.partAt y := by
  unfold partAt indexAt
  rw [node?_forget]
  cases hn : s.node? x with
  | none => simp [release, hn]
  | some n => rw [release_of_node? s hn, node?_emptied, if_neg hyx]

end Parts

/-- Erasing commutes with a map that sends no other element of the list where it sends `x`. -/
theorem map_erase_of_inj {l : List Nat} {f : Nat → PartIndex} {x : Nat}
    (hf : ∀ z ∈ l, f z = f x → z = x) : (l.erase x).map f = (l.map f).erase (f x) := by
  induction l with
  | nil => rfl
  | cons a l ih =>
    by_cases hax : a = x
    · subst hax
      simp
    · have hfa : f a ≠ f x := fun e => hax (hf a List.mem_cons_self e)
      simp [hax, hfa, ih fun z hz => hf z (List.mem_cons_of_mem a hz)]

/-- In a list without repeats, erasing the last element drops it. -/
theorem erase_eq_dropLast {l : List Nat} (hl : l.Nodup) {x : Nat} (hx : l.getLast? = some x) :
    l.erase x = l.dropLast := by
  obtain ⟨A, rfl⟩ : ∃ A, l = A ++ [x] := ⟨l.dropLast, (List.dropLast_append_getLast? x hx).symm⟩
  have hxA : x ∉ A := fun hm => (List.nodup_append.mp hl).2.2 x hm x (List.mem_singleton_self x) rfl
  rw [List.erase_append_right _ hxA, List.erase_cons_head, List.dropLast_concat, List.append_nil]

/-! ## The width and the lookup counts -/

/-- The tier width and the lookup counts, which only lookups change. -/
def counts (s : Slab) : Nat × Nat × Nat := (s.width, s.hits, s.requests)

/-! ## What the composite steps keep -/

section Keeps

variable {α : Type} (f : Slab → α)

/-- What taking a node out and putting it at the back of a tier keep, the shift keeps. -/
theorem shiftUp_keeps (hu : ∀ s x, f (s.unlink x) = f s) (hb : ∀ s k x, f (s.pushBack k x) = f s)
    (s : Slab) (ks : List (Fin 3)) : f (s.shiftUp ks) = f s := by
  induction ks generalizing s with
  | nil => rfl
  | cons k ks ih =>
    unfold shiftUp
    split
    · split
      · rw [ih, hb, hu]
      · exact ih s
    · exact ih s

/-- What taking a node out, freeing a slot and forgetting a part keep, evicting keeps. -/
theorem evictColdest_keeps (hu : ∀ s x, f (s.unlink x) = f s) (hr : ∀ s x, f (s.release x).2 = f s)
    (hf : ∀ s i, f (s.forget i) = f s) (s : Slab) : f s.evictColdest.1 = f s := by
  unfold evictColdest
  split
  · rfl
  · next back _ =>
    have hc : f ((s.unlink back).release back).2 = f s := by rw [hr, hu]
    split <;> next he =>
      rw [he] at hc
      simpa [hf] using hc

/-- What the shift and the eviction keep, making room keeps. -/
theorem makeRoom_keeps (hu : ∀ s x, f (s.unlink x) = f s) (hb : ∀ s k x, f (s.pushBack k x) = f s)
    (hr : ∀ s x, f (s.release x).2 = f s) (hf : ∀ s i, f (s.forget i) = f s) (s : Slab) :
    f s.makeRoom.1 = f s := by
  unfold makeRoom
  split
  · rfl
  · split
    · dsimp only
      split
      · exact shiftUp_keeps f hu hb s _
      · rw [evictColdest_keeps f hu hr hf, shiftUp_keeps f hu hb]
    · exact evictColdest_keeps f hu hr hf s

/-- What forgetting a part, taking a node out and freeing its slot keep, removing keeps. -/
theorem remove_keeps (hu : ∀ s x, f (s.unlink x) = f s) (hr : ∀ s x, f (s.release x).2 = f s)
    (hf : ∀ s i, f (s.forget i) = f s) (s : Slab) (i : PartIndex) : f (s.remove i).2 = f s := by
  unfold Slab.remove
  split
  · rfl
  · dsimp only
    split
    · exact hf s i
    · rw [hr, hu, hf]

theorem foldl_remove_keeps (hu : ∀ s x, f (s.unlink x) = f s) (hr : ∀ s x, f (s.release x).2 = f s)
    (hf : ∀ s i, f (s.forget i) = f s) (ps : List PartIndex) (b : Bool) (s : Slab) :
    f (ps.foldl (fun acc i => let r := acc.2.remove i; (acc.1 || r.1, r.2)) (b, s)).2 = f s := by
  induction ps generalizing s b with
  | nil => rfl
  | cons i ps ih => rw [List.foldl_cons, ih, remove_keeps f hu hr hf]

end Keeps

section Counts

variable (s : Slab)

@[simp] theorem counts_unlink (x : Nat) : (s.unlink x).counts = s.counts := by simp [counts]

@[simp] theorem counts_pushFront (k : Fin 4) (x : Nat) : (s.pushFront k x).counts = s.counts := by
  simp [counts]

@[simp] theorem counts_pushBack (k : Fin 4) (x : Nat) : (s.pushBack k x).counts = s.counts := by
  simp [counts]

@[simp] theorem counts_forget (i : PartIndex) : (s.forget i).counts = s.counts := rfl

@[simp] theorem counts_record (i : PartIndex) (y : Nat) : (s.record i y).counts = s.counts := rfl

@[simp] theorem counts_release (x : Nat) : (s.release x).2.counts = s.counts := by
  unfold release
  split <;> rfl

@[simp] theorem counts_alloc (i : PartIndex) : (s.alloc i).1.counts = s.counts := by
  unfold alloc
  split <;> rfl

@[simp] theorem counts_shiftUp (ks : List (Fin 3)) : (s.shiftUp ks).counts = s.counts :=
  shiftUp_keeps counts counts_unlink counts_pushBack s ks

@[simp] theorem counts_evictColdest : s.evictColdest.1.counts = s.counts :=
  evictColdest_keeps counts counts_unlink counts_release counts_forget s

@[simp] theorem counts_makeRoom : s.makeRoom.1.counts = s.counts :=
  makeRoom_keeps counts counts_unlink counts_pushBack counts_release counts_forget s

@[simp] theorem counts_remove (i : PartIndex) : (s.remove i).2.counts = s.counts :=
  remove_keeps counts counts_unlink counts_release counts_forget s i

end Counts

/-! ## The length of the vector -/

section Length

variable (s : Slab)

@[simp] theorem length_nodes_release (x : Nat) : (s.release x).2.nodes.length = s.nodes.length := by
  unfold release
  split <;> simp

theorem length_nodes_makeRoom : s.makeRoom.1.nodes.length = s.nodes.length :=
  makeRoom_keeps (fun s => s.nodes.length) length_nodes_unlink
    (fun s k _ => length_nodes_pushBack s k)
    length_nodes_release (fun _ _ => rfl) s

theorem length_nodes_remove (i : PartIndex) : (s.remove i).2.nodes.length = s.nodes.length :=
  remove_keeps (fun s => s.nodes.length) length_nodes_unlink length_nodes_release
    (fun _ _ => rfl) s i

end Length

theorem width_eq_of_counts {s s' : Slab} (h : s'.counts = s.counts) : s'.width = s.width :=
  congrArg Prod.fst h

/-! ## The table while room is made -/

section Table

variable (s : Slab)

@[simp] theorem slotOf?_unlink (x : Nat) : (s.unlink x).slotOf? = s.slotOf? := by
  funext i
  simp [slotOf?]

@[simp] theorem slotOf?_pushBack (k : Fin 4) (x : Nat) : (s.pushBack k x).slotOf? = s.slotOf? := by
  funext i
  simp [slotOf?]

@[simp] theorem slotOf?_release (x : Nat) : (s.release x).2.slotOf? = s.slotOf? := by
  unfold release
  split <;> rfl

@[simp] theorem slotOf?_shiftUp (ks : List (Fin 3)) : (s.shiftUp ks).slotOf? = s.slotOf? :=
  shiftUp_keeps slotOf? slotOf?_unlink slotOf?_pushBack s ks

/-- Evicting tracks no new part. -/
theorem slotOf?_evictColdest {i : PartIndex} (hi : s.slotOf? i = none) :
    s.evictColdest.1.slotOf? i = none := by
  unfold evictColdest
  split
  · exact hi
  · next back _ =>
    have hr : ((s.unlink back).release back).2.slotOf? i = none := by simp [hi]
    split <;> next he =>
      rw [he] at hr
      simp [hr]

/-- Making room tracks no new part. -/
theorem slotOf?_makeRoom {i : PartIndex} (hi : s.slotOf? i = none) :
    s.makeRoom.1.slotOf? i = none := by
  unfold makeRoom
  split
  · exact hi
  · split
    · dsimp only
      split
      · simp [hi]
      · exact slotOf?_evictColdest _ (by simp [hi])
    · exact slotOf?_evictColdest s hi

end Table

/-- The slab stores the four lists of parts `ls`. -/
def Stands (s : Slab) (ls : Vector (List PartIndex) 4) : Prop :=
  ∃ c, Represents s c [] ∧ s.parts c = ls

theorem add_eq_ok (s : Slab) {i : PartIndex} (hi : s.contains i = false) :
    s.add i = .ok ((((s.makeRoom.1.alloc i).1.pushFront coldest (s.makeRoom.1.alloc i).2).record i
      (s.makeRoom.1.alloc i).2), s.makeRoom.2) := by
  simp only [Slab.add, hi]
  rfl

/-- The first of the four tiers that a test picks, when it picks exactly one. -/
theorem find?_finRange_eq_some {p : Fin 4 → Bool} {k : Fin 4} (h : ∀ j, p j = true ↔ j = k) :
    (List.finRange 4).find? p = some k := by
  have hall : ∀ k : Fin 4, (List.finRange 4).find? (fun j => decide (j = k)) = some k := by decide
  rw [show p = fun j => decide (j = k) from funext fun j => by
    rw [Bool.eq_iff_iff, h, decide_eq_true_iff]]
  exact hall k

theorem remove_eq_some {s : Slab} {i : PartIndex} {y : Nat} (hs : s.slotOf? i = some y)
    (hn : s.node? y ≠ none) : s.remove i = (true, ((s.unlink y).release y).2.forget i) := by
  unfold Slab.remove
  rw [hs]
  dsimp only
  rw [node?_forget, if_neg (by rw [Option.isNone_iff_eq_none]; exact hn), unlink_forget,
    release_forget]

theorem remove_eq_none {s : Slab} {i : PartIndex} (hs : s.slotOf? i = none) :
    s.remove i = (false, s) := by
  unfold Slab.remove
  rw [hs]

/-- A part in the table is one of its keys. -/
theorem mem_keys_of_slotOf? {s : Slab} {i : PartIndex} {y : Nat} (h : s.slotOf? i = some y) :
    i ∈ s.lookup.map (·.1) := by
  obtain ⟨l₁, l₂, e, -⟩ := List.lookup_eq_some_iff.mp h
  rw [e]
  simp

/-- The invariant of the stored policy: the tiers read by following the `next` links from
their fronts are linked both ways with the tiers' ends and lengths, hold every node once,
and agree with the free stack and the table. -/
def WellFormed (s : Slab) : Prop := Represents s s.chain []

theorem Represents.wellFormed {s : Slab} {c : Fin 4 → List Nat} (h : Represents s c []) :
    WellFormed s := by
  have hc : s.chain = c := funext h.chain_eq
  rw [WellFormed, hc]
  exact h

namespace Represents

variable {s : Slab} {c : Fin 4 → List Nat}

theorem len_eq (h : Represents s c []) (k : Fin 4) : (s.tiers k).len = (c k).length := by
  rw [h.ends k]

theorem hasRoom_iff (h : Represents s c []) (w : Nat) (k : Fin 4) :
    Tiers.hasRoom w (s.parts c) k = true ↔ (s.tiers k).len < w := by
  simp [Tiers.hasRoom, parts, h.len_eq]

/-- The slot of a tracked part is in the tier of its node. -/
theorem slot_mem (h : Represents s c []) {i : PartIndex} {y : Nat} (hy : s.slotOf? i = some y) :
    ∃ n, s.node? y = some n ∧ n.index = i ∧ y ∈ c n.tier := by
  obtain ⟨n, hn, rfl⟩ : ∃ n, s.node? y = some n ∧ n.index = i := by
    simpa [indexAt] using (h.table i y).mp hy
  obtain ⟨k, hk⟩ | hk := (h.occupied y).mp (by simp [hn])
  · obtain ⟨m, hm, rfl⟩ := h.node_of_mem hk
    rw [hn, Option.some.injEq] at hm
    exact ⟨n, hn, rfl, hm ▸ hk⟩
  · cases hk

/-- A part is in the list of tier `j` exactly when its slot is in tier `j`. -/
theorem contains_parts_iff (h : Represents s c []) (j : Fin 4) {k : Fin 4} {y : Nat} (hy : y ∈ c k) :
    ((c j).map s.partAt).contains (s.partAt y) = true ↔ j = k := by
  rw [List.contains_iff_mem, List.mem_map]
  constructor
  · rintro ⟨z, hz, e⟩
    exact h.disjoint j k y (h.partAt_inj hz hy e ▸ hz) hy
  · rintro rfl
    exact ⟨y, hy, rfl⟩

/-- Moving a slot of tier `k` to the front of a tier `j`, which may be `k` itself. -/
theorem moveFront (h : Represents s c []) {k : Fin 4} {x : Nat} (hx : x ∈ c k) (j : Fin 4) :
    Represents ((s.unlink x).pushFront j x)
      (Function.update (Function.update c k ((c k).erase x)) j
        (x :: Function.update c k ((c k).erase x) j)) [] := by
  have h' := (h.unlink hx).pushFront List.mem_cons_self j
  rwa [List.erase_cons_head] at h'

/-- Two slots holding the same part in the lists are one slot. -/
theorem partAt_inj_of_mem (h : Represents s c []) {k : Fin 4} {x : Nat} (hx : x ∈ c k) :
    ∀ j, ∀ z ∈ c j, s.partAt z = s.partAt x → z = x :=
  fun _ _ hz e => h.partAt_inj hz hx e

/-- The lists put a part in the tier its node records. -/
theorem tierOf?_view (h : Represents s c []) (i : PartIndex) : s.view.tierOf? i = s.tierOf? i := by
  rw [Tiers.tierOf?, tierOf?, h.view_eq]
  cases hi : s.slotOf? i with
  | none =>
    -- no list holds `i`
    rw [Option.bind_none, List.find?_eq_none]
    intro k _ hk
    have hsome : (s.slotOf? i).isSome :=
      (h.slotOf?_isSome_iff i).mpr ⟨k, by simpa [parts] using hk⟩
    simp [hi] at hsome
  | some y =>
    obtain ⟨n, hn, rfl, hy⟩ := h.slot_mem hi
    have hpart : s.partAt y = n.index := by simp [partAt, indexAt, hn]
    rw [Option.bind_some, hn, Option.map_some]
    refine find?_finRange_eq_some fun j => ?_
    simpa [parts, hpart] using h.contains_parts_iff j hy

/-- A part is in the lists exactly when the table holds it. -/
theorem mem_parts_iff (h : Represents s c []) (x : PartIndex) :
    x ∈ (s.parts c).toList.flatten ↔ (s.slotOf? x).isSome := by
  rw [h.slotOf?_isSome_iff]
  simp [parts, List.mem_flatten]

theorem mem_flatten_parts {j : Fin 4} {x : PartIndex} (hx : x ∈ (c j).map s.partAt) :
    x ∈ (s.parts c).toList.flatten := by
  simp only [parts, Vector.toList_ofFn, List.mem_flatten, List.mem_ofFn]
  exact ⟨_, ⟨j, rfl⟩, hx⟩

/-- Filtering out a part the table does not hold leaves the lists as they are. -/
theorem parts_filter_of_untracked (h : Represents s c []) {i : PartIndex} (hi : s.slotOf? i = none) :
    (s.parts c).map (List.filter (· != i)) = s.parts c := by
  rw [parts, Vector.map_ofFn]
  congr 1
  funext j
  refine List.filter_eq_self.mpr fun x hx => bne_iff_ne.mpr fun e => ?_
  have hsome := (h.mem_parts_iff x).mp (mem_flatten_parts hx)
  rw [e, hi] at hsome
  simp at hsome

/-- Erasing a part from the one list that holds it filters it out of every list. -/
theorem parts_set_erase (h : Represents s c []) {k : Fin 4} {y : Nat} (hy : y ∈ c k) :
    (s.parts c).set k (((c k).map s.partAt).erase (s.partAt y)) k.isLt =
      (s.parts c).map (List.filter (· != s.partAt y)) := by
  rw [parts, ← ofFn_update, Vector.map_ofFn]
  congr 1
  funext j
  by_cases hjk : j = k
  · subst hjk
    rw [Function.update_self]
    exact (List.Nodup.map_on (fun a ha b hb e => h.partAt_inj ha hb e) (h.nodup j)).erase_eq_filter _
  · rw [Function.update_of_ne hjk]
    symm
    refine List.filter_eq_self.mpr fun x hx => bne_iff_ne.mpr fun e => hjk ?_
    obtain ⟨z, hz, rfl⟩ := List.mem_map.mp hx
    exact h.disjoint j k y (h.partAt_inj hz hy e ▸ hz) hy

/-- Moving a slot of tier `k` to the back of another tier `j`. -/
theorem moveBack (h : Represents s c []) {k : Fin 4} {x : Nat} (hx : x ∈ c k) {j : Fin 4}
    (hjk : j ≠ k) :
    Represents ((s.unlink x).pushBack j x)
      (Function.update (Function.update c k ((c k).erase x)) j (c j ++ [x])) [] := by
  have h' := (h.unlink hx).pushBack List.mem_cons_self j
  rwa [Function.update_of_ne hjk, List.erase_cons_head] at h'

end Represents

namespace Stands

variable {s : Slab} {c : Fin 4 → List Nat} {ls : Vector (List PartIndex) 4}

theorem wellFormed (h : Stands s ls) : WellFormed s := by
  obtain ⟨c, hc, -⟩ := h
  exact hc.wellFormed

theorem view_eq (h : Stands s ls) : s.view = ⟨s.width, ls, s.hits, s.requests⟩ := by
  obtain ⟨c, hc, rfl⟩ := h
  exact hc.view_eq

/-- A slab reached by operations that keep the width and the counts of `s₀`. -/
theorem view_eq_of_counts (h : Stands s ls) (s₀ : Slab) (hc : s.counts = s₀.counts) :
    s.view = ⟨s₀.width, ls, s₀.hits, s₀.requests⟩ := by
  simp only [counts, Prod.mk.injEq] at hc
  rw [h.view_eq, hc.1, hc.2.1, hc.2.2]

/-- One step of the shift: the front of tier `k.succ` goes to the back of tier `k.castSucc`. -/
theorem moveUp (h : Represents s c []) (k : Fin 3) {front : Nat} {rest : List Nat}
    (hc : c k.succ = front :: rest) :
    Stands ((s.unlink front).pushBack k.castSucc front)
      (((s.parts c).set k.succ (rest.map s.partAt) k.succ.isLt).set k.castSucc
        ((c k.castSucc).map s.partAt ++ [s.partAt front]) k.castSucc.isLt) := by
  have hne : k.castSucc ≠ k.succ := Fin.castSucc_lt_succ.ne
  have hm := h.moveBack (hc ▸ List.mem_cons_self) hne
  refine ⟨_, hm, ?_⟩
  rw [parts_pushBack, parts_unlink, parts_update, parts_update, hc, List.erase_cons_head,
    List.map_append, List.map_singleton]

/-- The shift that makes room, one listed tier after another. -/
theorem shiftUp (h : Stands s ls) (ks : List (Fin 3)) :
    Stands (s.shiftUp ks) (Tiers.shiftFrom s.width ls ks) := by
  induction ks generalizing s ls with
  | nil => exact h
  | cons k ks ih =>
    obtain ⟨c, hc, rfl⟩ := h
    unfold Slab.shiftUp Tiers.shiftFrom
    by_cases hroom : (s.tiers k.castSucc).len < s.width
    · rw [if_pos hroom, if_pos ((hc.hasRoom_iff _ _).mpr hroom)]
      have hhead : (s.tiers k.succ).head = (c k.succ).head? := by rw [hc.ends]
      have hget : ∀ j : Fin 4, (s.parts c)[j] = (c j).map s.partAt := fun j => by simp [parts]
      rw [hhead, hget k.succ]
      rcases hck : c k.succ with _ | ⟨front, rest⟩
      · exact ih ⟨c, hc, rfl⟩
      · rw [List.map_cons, hget k.castSucc]
        have hw : ((s.unlink front).pushBack k.castSucc front).width = s.width := by simp
        exact hw ▸ ih (moveUp hc k hck)
    · rw [if_neg hroom, if_neg (mt (hc.hasRoom_iff _ _).mp hroom)]
      exact ih ⟨c, hc, rfl⟩

/-- Evicting the back of the coldest tier. -/
theorem evictColdest (h : Stands s ls) :
    Stands s.evictColdest.1 (Tiers.evictBack ls).1 ∧ s.evictColdest.2 = (Tiers.evictBack ls).2 := by
  obtain ⟨c, hc, rfl⟩ := h
  unfold Slab.evictColdest Tiers.evictBack
  have htail : (s.tiers coldest).tail = (c coldest).getLast? := by rw [hc.ends]
  have hget : (s.parts c)[(3 : Fin 4)] = (c coldest).map s.partAt := by simp [parts]; rfl
  rw [htail, hget, List.getLast?_map]
  rcases hb : (c coldest).getLast? with _ | back
  · exact ⟨⟨c, hc, rfl⟩, rfl⟩
  · have hback : back ∈ c coldest := List.mem_of_getLast? hb
    have hu := hc.unlink hback
    obtain ⟨hev, hr⟩ := hu.release List.mem_cons_self
    rw [List.erase_cons_head] at hr
    have hpair : (s.unlink back).release back =
        (some ((s.unlink back).partAt back), ((s.unlink back).release back).2) := Prod.ext hev rfl
    dsimp only [Option.map_some]
    rw [hpair]
    refine ⟨⟨_, hr, (parts_congr s _ fun k y hy => ?_).trans ?_⟩, by simp⟩
    · -- the parts left in the lists are in slots other than the freed one
      have hne : y ≠ back := fun e => hu.apart back List.mem_cons_self k (e ▸ hy)
      rw [partAt_release _ hne, partAt_unlink]
    · rw [parts_update, erase_eq_dropLast (hc.nodup coldest) hb, List.map_dropLast]
      rfl

/-- Making room in the coldest tier: shifting front parts up from the hottest tier with room,
then evicting the back of the coldest tier if it is still full. -/
theorem makeRoom (h : Stands s ls) :
    Stands s.makeRoom.1 (Tiers.makeRoom s.width ls).1 ∧
      s.makeRoom.2 = (Tiers.makeRoom s.width ls).2 := by
  -- the lists have room where the slab's tier lengths say so
  have hroom : ∀ {s' : Slab} {ls' : Vector (List PartIndex) 4}, Stands s' ls' → ∀ k,
      Tiers.hasRoom s.width ls' k = decide ((s'.tiers k).len < s.width) := by
    rintro s' _ ⟨c', hc', rfl⟩ k
    simp [Tiers.hasRoom, parts, hc'.len_eq]
  unfold Slab.makeRoom Tiers.makeRoom
  by_cases hfull : (s.tiers coldest).len < s.width
  · rw [if_pos hfull, if_pos (by rw [hroom h]; exact decide_eq_true hfull)]
    exact ⟨h, rfl⟩
  · rw [if_neg hfull, if_neg (by rw [hroom h]; exact ne_true_of_eq_false (decide_eq_false hfull))]
    have hfind : (fun k : Fin 3 => Tiers.hasRoom s.width ls k.castSucc) =
        fun k => decide ((s.tiers k.castSucc).len < s.width) := funext fun k => hroom h k.castSucc
    dsimp only
    unfold Tiers.shiftToRoom
    rw [hfind]
    cases (List.finRange 3).find? fun k => decide ((s.tiers k.castSucc).len < s.width) with
    | none =>
      dsimp only
      rw [if_neg (by rw [hroom h]; exact ne_true_of_eq_false (decide_eq_false hfull))]
      exact h.evictColdest
    | some first =>
      dsimp only
      have hs := h.shiftUp (Tiers.tiersFrom first)
      rw [width_eq_of_counts (counts_shiftUp s _)]
      by_cases hfull' : ((s.shiftUp (Tiers.tiersFrom first)).tiers coldest).len < s.width
      · rw [if_pos hfull', if_pos (by rw [hroom hs]; exact decide_eq_true hfull')]
        exact ⟨hs, rfl⟩
      · rw [if_neg hfull', if_neg (by rw [hroom hs]; exact ne_true_of_eq_false (decide_eq_false hfull'))]
        exact hs.evictColdest

/-- Promoting a part to the front of tier `j`: its part leaves tier `k` and goes to the front
of `j`, which may be `k` itself. -/
theorem moveFront (h : Represents s c []) {k : Fin 4} {x : Nat} (hx : x ∈ c k) (j : Fin 4) :
    Stands ((s.unlink x).pushFront j x)
      (((s.parts c).set k (((c k).map s.partAt).erase (s.partAt x)) k.isLt).set j
        (s.partAt x :: ((s.parts c).set k (((c k).map s.partAt).erase (s.partAt x)) k.isLt).get j)
        j.isLt) := by
  have herase : s.parts (Function.update c k ((c k).erase x)) =
      (s.parts c).set k (((c k).map s.partAt).erase (s.partAt x)) k.isLt := by
    rw [parts_update, map_erase_of_inj (h.partAt_inj_of_mem hx k)]
  refine ⟨_, h.moveFront hx j, ?_⟩
  rw [parts_pushFront, parts_unlink, parts_update, ← herase, List.map_cons, get_parts]

/-- The swap of a promotion into a full tier `j`: the back of `j` goes to the front of the
promoted slot's tier `k`, and the promoted slot to the front of `j`. -/
theorem swap (h : Represents s c []) {k j : Fin 4} (hjk : j ≠ k) {x back : Nat} (hx : x ∈ c k)
    (hback : (c j).getLast? = some back) :
    Stands ((((s.unlink back).unlink x).pushFront k back).pushFront j x)
      (let ls₁ := (s.parts c).set j ((s.parts c).get j).dropLast j.isLt
       let ls₂ := ls₁.set k (s.partAt back :: (ls₁.get k).erase (s.partAt x)) k.isLt
       ls₂.set j (s.partAt x :: ls₂.get j) j.isLt) := by
  have hbj : back ∈ c j := List.mem_of_getLast? hback
  have hxb : x ≠ back := fun e => hjk (h.disjoint j k back hbj (e ▸ hx))
  have hkj : k ≠ j := Ne.symm hjk
  -- the four helpers, one slot at a time
  have h₁ := h.unlink hbj
  have h₂ := h₁.unlink
    (show x ∈ Function.update c j ((c j).erase back) k by rwa [Function.update_of_ne hkj])
  have h₃ := h₂.pushFront (List.mem_cons_of_mem x (List.mem_singleton_self back)) k
  rw [List.erase_cons_tail (by simpa using hxb), List.erase_cons_head] at h₃
  have h₄ := h₃.pushFront (List.mem_singleton_self x) j
  rw [List.erase_cons_head] at h₄
  refine ⟨_, h₄, ?_⟩
  -- the lists after each step
  have e₁ : s.parts (Function.update c j ((c j).erase back)) =
      (s.parts c).set j ((s.parts c).get j).dropLast j.isLt := by
    rw [parts_update, erase_eq_dropLast (h.nodup j) hback, List.map_dropLast, get_parts]
  simp only [parts_pushFront, parts_unlink]
  rw [parts_update, parts_update, parts_update, e₁, Vector.set_set]
  simp only [Function.update_self, Function.update_of_ne hkj, Function.update_of_ne hjk,
    List.map_cons]
  rw [get_set_ne _ _ hjk, get_parts _ _ k, ← map_erase_of_inj (h.partAt_inj_of_mem hx k),
    get_set_ne _ _ hkj, get_set_self, erase_eq_dropLast (h.nodup j) hback, List.map_dropLast,
    get_parts _ _ j]

/-- Freeing the slot `y` of tier `k` and forgetting its part erases the part from its list. -/
theorem removeSlot (h : Represents s c []) {k : Fin 4} {y : Nat} (hy : y ∈ c k) :
    Stands (((s.unlink y).release y).2.forget (s.partAt y))
      ((s.parts c).set k (((c k).map s.partAt).erase (s.partAt y)) k.isLt) := by
  have hu := h.unlink hy
  obtain ⟨-, hr⟩ := hu.release List.mem_cons_self
  rw [List.erase_cons_head, partAt_unlink] at hr
  refine ⟨_, hr, (parts_congr s _ fun j z hz => ?_).trans ?_⟩
  · -- the parts left in the lists are in slots other than the freed one
    have hne : z ≠ y := fun e => hu.apart y List.mem_cons_self j (e ▸ hz)
    rw [partAt_release _ hne, partAt_unlink]
  · rw [parts_update, map_erase_of_inj (h.partAt_inj_of_mem hy k)]

/-- Removing a part filters it out of the lists; the slab says it was removed exactly when the
lists held it. -/
theorem removePart (h : Stands s ls) (i : PartIndex) :
    Stands (s.remove i).2 (ls.map (List.filter (· != i))) ∧
      ((s.remove i).1 = true ↔ i ∈ ls.toList.flatten) := by
  obtain ⟨c, hc, rfl⟩ := h
  rw [hc.mem_parts_iff]
  cases hslot : s.slotOf? i with
  | none =>
    rw [remove_eq_none hslot, hc.parts_filter_of_untracked hslot]
    exact ⟨⟨c, hc, rfl⟩, by simp⟩
  | some y =>
    obtain ⟨n, hn, rfl, hy⟩ := hc.slot_mem hslot
    have hpart : s.partAt y = n.index := by simp [partAt, indexAt, hn]
    rw [remove_eq_some hslot (by simp [hn])]
    have hr := removeSlot hc hy
    rw [hc.parts_set_erase hy, hpart] at hr
    exact ⟨hr, by simp⟩

/-- Removing parts one after another filters all of them out of the lists; some part was
removed exactly when the lists held one of them. -/
theorem foldl_remove (h : Stands s ls) (ps : List PartIndex) (b : Bool) :
    Stands (ps.foldl (fun acc i => let r := acc.2.remove i; (acc.1 || r.1, r.2)) (b, s)).2
        (ls.map (List.filter fun x => !ps.contains x)) ∧
      ((ps.foldl (fun acc i => let r := acc.2.remove i; (acc.1 || r.1, r.2)) (b, s)).1 = true ↔
        b = true ∨ ∃ x ∈ ps, x ∈ ls.toList.flatten) := by
  induction ps generalizing s ls b with
  | nil =>
    have hid : (List.filter fun x : PartIndex => !([] : List PartIndex).contains x) = id :=
      funext fun _ => List.filter_eq_self.mpr fun _ _ => rfl
    rw [List.foldl_nil, hid, Vector.map_id]
    exact ⟨h, by simp⟩
  | cons i ps ih =>
    obtain ⟨hr, hflag⟩ := h.removePart i
    obtain ⟨hst, hb⟩ := ih hr (b || (s.remove i).1)
    rw [List.foldl_cons]
    refine ⟨?_, ?_⟩
    · -- filtering out `i`, then the rest, filters out all of them
      have hls : (ls.map (List.filter (· != i))).map (List.filter fun x => !ps.contains x) =
          ls.map (List.filter fun x => !(i :: ps).contains x) := by
        rw [Vector.map_map]
        congr 1
        funext l
        simp only [Function.comp_apply, List.filter_filter, List.contains_cons, Bool.not_or]
        congr 1
        funext x
        rw [Bool.and_comm]
        rfl
      exact hls ▸ hst
    · -- a part of the rest still in the lists is not `i`
      have hmem : ∀ x, x ∈ (ls.map (List.filter (· != i))).toList.flatten ↔
          x ∈ ls.toList.flatten ∧ x ≠ i := fun x => by
        rw [Vector.toList_map, ← List.filter_flatten, List.mem_filter, bne_iff_ne]
      rw [hb, Bool.or_eq_true, hflag]
      simp only [hmem, List.mem_cons, exists_eq_or_imp]
      constructor
      · rintro ((hb | hi) | ⟨x, hx, hxl, -⟩)
        exacts [.inl hb, .inr (.inl hi), .inr (.inr ⟨x, hx, hxl⟩)]
      · rintro (hb | hi | ⟨x, hx, hxl⟩)
        · exact .inl (.inl hb)
        · exact .inl (.inr hi)
        · by_cases hxi : x = i
          · exact .inl (.inr (hxi ▸ hxl))
          · exact .inr ⟨x, hx, hxl, hxi⟩

/-- Taking a slot for an untracked part and putting it at the front of the coldest tier. -/
theorem insert (h : Stands s ls) {i : PartIndex} (hi : s.slotOf? i = none) :
    Stands (((s.alloc i).1.pushFront coldest (s.alloc i).2).record i (s.alloc i).2)
      (ls.set coldest (i :: ls.get coldest) coldest.isLt) := by
  obtain ⟨c, hc, rfl⟩ := h
  have ha := hc.alloc hi
  have hp := ha.pushFront List.mem_cons_self coldest
  rw [List.erase_cons_head, pushFront_record] at hp
  refine ⟨_, hp, ?_⟩
  -- the new slot holds `i`, every other slot of the lists its old part
  have hnew : (s.alloc i).1.partAt (s.alloc i).2 = i := by
    have hidx : ((s.alloc i).1.record i (s.alloc i).2).indexAt (s.alloc i).2 = some i :=
      (ha.table i _).mp (by simp)
    rw [partAt, show (s.alloc i).1.indexAt (s.alloc i).2 = some i from hidx]
    rfl
  have hold : ∀ k, ∀ z ∈ c k, (s.alloc i).1.partAt z = s.partAt z := fun k z hz => by
    rw [partAt, hc.indexAt_alloc i fun e => ha.apart _ List.mem_cons_self k (e ▸ hz), partAt]
  rw [parts_record, parts_pushFront, parts_update, parts_congr s c hold, List.map_cons, hnew,
    List.map_congr_left (hold coldest), get_parts]

/-- Adding an untracked part: room is made, then the part goes to the front of the coldest
tier. -/
theorem add (h : Stands s ls) {i : PartIndex} (hi : s.slotOf? i = none) :
    Stands (((s.makeRoom.1.alloc i).1.pushFront coldest (s.makeRoom.1.alloc i).2).record i
        (s.makeRoom.1.alloc i).2)
      ((Tiers.makeRoom s.width ls).1.set coldest
        (i :: (Tiers.makeRoom s.width ls).1.get coldest) coldest.isLt) :=
  h.makeRoom.1.insert (slotOf?_makeRoom s hi)

end Stands

namespace WellFormed

variable {s : Slab}

/-- Adding to the slab adds to its lists: the list policy's answer on the slab's lists is the
slab's answer read through `view`, and both fail on a tracked part. -/
theorem view_add (h : WellFormed s) (i : PartIndex) :
    s.view.add i = (s.add i).map fun r => (r.1.view, r.2) := by
  obtain ⟨c, hc⟩ : ∃ c, Represents s c [] := ⟨_, h⟩
  cases hi : s.contains i
  · have hs := Stands.add ⟨c, hc, rfl⟩ (by simpa [contains] using hi)
    rw [add_eq_ok s hi, Tiers.add_eq_ok _ (by rw [hc.contains_view, hi])]
    simp only [Except.map]
    rw [hs.view_eq_of_counts s (by simp), hc.view_eq, (Stands.makeRoom ⟨c, hc, rfl⟩).2]
  · simp [Slab.add, Tiers.add, hi, hc.contains_view, Except.map]

/-- A slab standing for new lists, with the width and counts of `s`, answers as the list
policy does when that policy changes only the lists of `s.view`. -/
theorem of_stands (s : Slab) {s' : Slab} {ls : Vector (List PartIndex) 4} (h : Stands s' ls)
    (hc : s'.counts = s.counts) : WellFormed s' ∧ { s.view with lists := ls } = s'.view :=
  ⟨h.wellFormed, (h.view_eq_of_counts s hc).symm⟩

theorem add (h : WellFormed s) {i : PartIndex} {r : Slab × Option PartIndex}
    (hr : s.add i = .ok r) : WellFormed r.1 := by
  obtain ⟨c, hc⟩ : ∃ c, Represents s c [] := ⟨_, h⟩
  cases hi : s.contains i
  · rw [add_eq_ok s hi] at hr
    cases hr
    exact (Stands.add ⟨c, hc, rfl⟩ (by simpa [contains] using hi)).wellFormed
  · simp [Slab.add, hi] at hr

/-- Promoting on the slab promotes on its lists, and keeps the invariant. -/
theorem promote (h : WellFormed s) (i : PartIndex) :
    WellFormed (s.promote i).1 ∧ s.view.promote i = ((s.promote i).1.view, (s.promote i).2) := by
  obtain ⟨c, hc⟩ : ∃ c, Represents s c [] := ⟨_, h⟩
  have hlists : s.view.lists = s.parts c := by rw [hc.view_eq]
  unfold Slab.promote Tiers.promote
  rw [hc.tierOf?_view]
  cases hslot : s.slotOf? i with
  | none =>
    -- an untracked part is added
    have htier : s.tierOf? i = none := by simp [tierOf?, hslot]
    have hv := view_add hc.wellFormed i
    rw [htier]
    dsimp only
    cases hadd : s.add i with
    | ok r =>
      rw [hadd] at hv
      rw [hv]
      exact ⟨add hc.wellFormed hadd, rfl⟩
    | error e =>
      rw [hadd] at hv
      rw [hv]
      exact ⟨hc.wellFormed, rfl⟩
  | some y =>
    obtain ⟨n, hn, rfl, hy⟩ := hc.slot_mem hslot
    have htier : s.tierOf? n.index = some n.tier := by simp [tierOf?, hslot, hn]
    rw [htier]
    dsimp only
    rw [hn, hlists]
    dsimp only
    have hpart : s.partAt y = n.index := by simp [partAt, indexAt, hn]
    have hget : ∀ j : Fin 4, (s.parts c)[j] = (c j).map s.partAt := fun j => by simp [parts]
    have hhead : (s.tiers n.tier).head = (c n.tier).head? := by rw [hc.ends]
    -- the slot is at the front of its tier exactly when its part is at the front of the list
    have hfront : (s.tiers n.tier).head = some y ↔ (s.parts c)[n.tier].head? = some n.index := by
      rw [hhead, hget, List.head?_map, ← hpart]
      constructor
      · intro e
        rw [e, Option.map_some]
      · intro e
        obtain ⟨z, hz, e'⟩ := Option.map_eq_some_iff.mp e
        rw [hz, hc.partAt_inj (List.mem_of_mem_head? hz) hy e']
    by_cases h0 : (n.tier : Nat) = 0
    · simp only [if_pos h0]
      by_cases hf : ((s.tiers n.tier).head == some y) = true
      · -- at the front of the hottest tier: nothing moves
        simp only [if_pos hf]
        obtain ⟨rest, hrest⟩ : ∃ rest, c n.tier = y :: rest :=
          List.head?_eq_some_iff.mp (hhead ▸ beq_iff_eq.mp hf)
        have hl : n.index :: ((c n.tier).map s.partAt).erase n.index = (c n.tier).map s.partAt := by
          rw [hrest, List.map_cons, hpart, List.erase_cons_head]
        rw [hget, hl, ← parts_update, Function.update_eq_self, ← hlists]
        exact ⟨hc.wellFormed, rfl⟩
      · -- elsewhere in the hottest tier: to its front
        simp only [if_neg hf]
        obtain ⟨hw, hv⟩ := of_stands s (Stands.moveFront hc hy n.tier) (by simp)
        rw [get_set_self, Vector.set_set] at hv
        refine ⟨hw, ?_⟩
        rw [← hv, hget, hpart]
    · simp only [if_neg h0]
      by_cases hf : ((s.tiers n.tier).head == some y) = true
      · -- at the front of a colder tier: nothing moves
        simp only [if_pos hf, if_pos (hfront.mp (beq_iff_eq.mp hf))]
        exact ⟨hc.wellFormed, trivial⟩
      · simp only [if_neg hf, if_neg (mt hfront.mpr (mt beq_iff_eq.mpr hf))]
        -- the tier above
        have hne : (⟨n.tier.val - 1, by omega⟩ : Fin 4) ≠ n.tier := fun e => by
          have hval := congrArg Fin.val e
          dsimp only at hval
          omega
        have hwidth : s.view.width = s.width := rfl
        rw [hwidth]
        by_cases hroom : (s.tiers ⟨n.tier.val - 1, by omega⟩).len < s.width
        · -- it has room: the slot moves to its front
          simp only [if_pos hroom, if_pos ((hc.hasRoom_iff s.width _).mpr hroom)]
          obtain ⟨hw, hv⟩ := of_stands s (Stands.moveFront hc hy ⟨n.tier.val - 1, by omega⟩)
            (by simp)
          rw [get_set_ne _ _ (Ne.symm hne), hpart] at hv
          exact ⟨hw, by rw [← hv, hget n.tier]; rfl⟩
        · simp only [if_neg hroom, if_neg (mt (hc.hasRoom_iff s.width _).mp hroom)]
          have htail : (s.tiers ⟨n.tier.val - 1, by omega⟩).tail =
              (c ⟨n.tier.val - 1, by omega⟩).getLast? := by rw [hc.ends]
          have hlast : (s.parts c)[(⟨n.tier.val - 1, by omega⟩ : Fin 4)].getLast? =
              (c ⟨n.tier.val - 1, by omega⟩).getLast?.map s.partAt := by
            rw [hget, List.getLast?_map]
          rw [htail, hlast]
          cases hb : (c ⟨n.tier.val - 1, by omega⟩).getLast? with
          | none => exact ⟨hc.wellFormed, rfl⟩
          | some back =>
            -- it is full: the slot trades places with its back
            obtain ⟨hw, hv⟩ := of_stands s (Stands.swap hc hne hy hb) (by simp)
            rw [hpart] at hv
            exact ⟨hw, by rw [← hv]; rfl⟩

/-- Removing from the slab removes from its lists, and keeps the invariant. -/
theorem remove (h : WellFormed s) (i : PartIndex) :
    WellFormed (s.remove i).2 ∧ s.view.remove i = ((s.remove i).1, (s.remove i).2.view) := by
  obtain ⟨c, hc⟩ : ∃ c, Represents s c [] := ⟨_, h⟩
  unfold Tiers.remove
  rw [hc.tierOf?_view]
  cases hslot : s.slotOf? i with
  | none =>
    have htier : s.tierOf? i = none := by simp [tierOf?, hslot]
    rw [htier, remove_eq_none hslot]
    exact ⟨hc.wellFormed, rfl⟩
  | some y =>
    obtain ⟨n, hn, rfl, hy⟩ := hc.slot_mem hslot
    have htier : s.tierOf? n.index = some n.tier := by simp [tierOf?, hslot, hn]
    have hpart : s.partAt y = n.index := by simp [partAt, indexAt, hn]
    have hlists : s.view.lists = s.parts c := by rw [hc.view_eq]
    rw [htier, remove_eq_some hslot (by simp [hn])]
    obtain ⟨hw, hv⟩ := of_stands s (Stands.removeSlot hc hy) (by simp)
    rw [hpart] at hw hv
    refine ⟨hw, ?_⟩
    rw [← hv, hlists]
    simp [parts]

/-- Removing an object from the slab removes its parts from the lists, and keeps the invariant. -/
theorem removeObject (h : WellFormed s) (id : ObjectId) :
    WellFormed (s.removeObject id).2 ∧
      s.view.removeObject id = ((s.removeObject id).1, (s.removeObject id).2.view) := by
  obtain ⟨c, hc⟩ : ∃ c, Represents s c [] := ⟨_, h⟩
  obtain ⟨hst, hflag⟩ := Stands.foldl_remove ⟨c, hc, rfl⟩
    ((s.lookup.map (·.1)).filter (·.object == id)) false
  -- every part in the lists is a key of the table, so it is taken exactly when its object is `id`
  have hkey : ∀ x ∈ (s.parts c).toList.flatten, x ∈ s.lookup.map (·.1) := fun x hx => by
    obtain ⟨y, hy⟩ := Option.isSome_iff_exists.mp ((hc.mem_parts_iff x).mp hx)
    exact mem_keys_of_slotOf? hy
  have htaken : ∀ x ∈ (s.parts c).toList.flatten,
      ((s.lookup.map (·.1)).filter (·.object == id)).contains x = (x.object == id) := fun x hx => by
    rw [Bool.eq_iff_iff, List.contains_iff_mem, List.mem_filter]
    exact ⟨fun h => h.2, fun h => ⟨hkey x hx, h⟩⟩
  have hlists : (s.parts c).map
        (List.filter fun x => !((s.lookup.map (·.1)).filter (·.object == id)).contains x) =
      (s.parts c).map (List.filter fun i => i.object != id) := by
    rw [parts, Vector.map_ofFn, Vector.map_ofFn]
    congr 1
    funext j
    refine List.filter_congr fun x hx => ?_
    rw [htaken x (Represents.mem_flatten_parts hx)]
    rfl
  rw [hlists] at hst
  obtain ⟨hw, hv⟩ := of_stands s hst (foldl_remove_keeps counts counts_unlink counts_release counts_forget _ _ s)
  unfold Slab.removeObject
  refine ⟨hw, ?_⟩
  rw [← hv]
  unfold Tiers.removeObject
  have hlist : s.view.toList = (s.parts c).toList.flatten := by rw [hc.view_eq]; rfl
  have hl : s.view.lists = s.parts c := by rw [hc.view_eq]
  dsimp only
  rw [hlist, hl]
  refine Prod.ext ?_ rfl
  -- some part of the object was tracked
  rw [Bool.eq_iff_iff, hflag, List.any_eq_true]
  simp only [decide_eq_true_eq, List.mem_filter, beq_iff_eq, Bool.false_eq_true, false_or]
  constructor
  · rintro ⟨x, hx, rfl⟩
    exact ⟨x, ⟨hkey x hx, rfl⟩, hx⟩
  · rintro ⟨x, ⟨-, hxo⟩, hx⟩
    exact ⟨x, hx, hxo⟩

/-- Looking a part up counts the same request and hit in the slab and in its lists. -/
theorem lookupCounting (h : WellFormed s) (i : PartIndex) :
    WellFormed (s.lookupCounting i).2 ∧
      s.view.lookup i = ((s.lookupCounting i).1, (s.lookupCounting i).2.view) := by
  obtain ⟨c, hc⟩ : ∃ c, Represents s c [] := ⟨_, h⟩
  -- the counts are no part of the invariant
  have hr : Represents (s.lookupCounting i).2 c [] :=
    ⟨⟨hc.linked, hc.ends, hc.nodup, hc.disjoint⟩, hc.outNodup, hc.apart, hc.occupied,
      hc.freeNodup, hc.free, hc.table⟩
  refine ⟨hr.wellFormed, ?_⟩
  rw [hr.view_eq, Tiers.lookup, hc.contains_view, hc.view_eq]
  rfl

/-- Answering a request on the slab gives the reply and the evicted parts its lists give, and
leaves a well-formed slab standing for the lists the list policy leaves. -/
theorem answer (h : WellFormed s) (partSize : UInt64) (r : TierRequest) :
    WellFormed (s.answer partSize r).2.2 ∧
      s.view.answer partSize r =
        ((s.answer partSize r).1, (s.answer partSize r).2.1, (s.answer partSize r).2.2.view) := by
  obtain ⟨c, hc⟩ : ∃ c, Represents s c [] := ⟨_, h⟩
  cases r with
  | add i =>
    simp only [Slab.answer, Tiers.answer, h.view_add i]
    cases hadd : s.add i with
    | ok r => exact ⟨h.add hadd, rfl⟩
    | error e => exact ⟨h, rfl⟩
  | promote i =>
    obtain ⟨hw, hv⟩ := h.promote i
    exact ⟨hw, by simp only [Slab.answer, Tiers.answer, hv]⟩
  | lookup i =>
    obtain ⟨hw, hv⟩ := h.lookupCounting i
    exact ⟨hw, by simp only [Slab.answer, Tiers.answer, hv]⟩
  | contains i => exact ⟨h, by simp [Slab.answer, Tiers.answer, hc.contains_view]⟩
  | shouldKeep i => exact ⟨h, rfl⟩
  | remove i =>
    obtain ⟨hw, hv⟩ := h.remove i
    exact ⟨hw, by simp only [Slab.answer, Tiers.answer, hv]⟩
  | tierOf i => exact ⟨h, by simp [Slab.answer, Tiers.answer, hc.tierOf?_view]⟩
  | removeObject id =>
    obtain ⟨hw, hv⟩ := h.removeObject id
    exact ⟨hw, by simp only [Slab.answer, Tiers.answer, hv]⟩
  | stats => exact ⟨h, by simp [Slab.answer, Tiers.answer, hc.stats_eq]⟩
  | consumedSize => exact ⟨h, by simp [Slab.answer, Tiers.answer, hc.count_eq]⟩
  | width => exact ⟨h, rfl⟩

/-- A run of requests on a well-formed slab answers each request as a run on its lists does,
and keeps the slab well-formed. -/
theorem run (h : WellFormed s) (partSize : UInt64) (rs : List TierRequest) :
    WellFormed (Slab.run partSize s rs).2 ∧
      Tiers.run partSize s.view rs = ((Slab.run partSize s rs).1, (Slab.run partSize s rs).2.view) := by
  induction rs generalizing s with
  | nil => exact ⟨h, rfl⟩
  | cons r rs ih =>
    obtain ⟨hw, hv⟩ := h.answer partSize r
    obtain ⟨hw', hv'⟩ := ih hw
    obtain ⟨c', hc'⟩ : ∃ c, Represents (s.answer partSize r).2.2 c [] := ⟨_, hw⟩
    exact ⟨hw', by simp only [Slab.run, Tiers.run, hv, hv', hc'.lengths_eq]⟩

end WellFormed

end PartCache.Slab
