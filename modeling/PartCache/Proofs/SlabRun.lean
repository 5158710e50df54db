import PartCache.Proofs.SlabRefinement

/-!
# Runs of the slab from the empty policy

The empty slab is well-formed and stands for the empty lists, so by `WellFormed.run` every
run of requests from it keeps the invariant and answers as the list policy does.

The vector of slots also stays small. Every slot of a well-formed slab is either free or in
exactly one tier (`Represents.length_nodes`), and a step takes a slot from the end of the
vector only when the free stack is empty, leaving it empty (`answer_grows`). After such a step
the vector is exactly as long as the number of tracked parts, so it never outgrows the most
parts tracked after any step of the run (`WellFormed.length_nodes_run`).
-/

set_option autoImplicit false

namespace PartCache.Slab

/-! ## Counting the slots -/

namespace Represents

variable {s : Slab} {c : Fin 4 → List Nat} {out : List Nat}

theorem count_eq_length_flatten (h : Represents s c out) :
    s.count = ((List.finRange 4).map c).flatten.length := by
  rw [List.length_flatten, List.map_map, count, lengths]
  simp only [h.ends]
  rfl

/-- The tiers hold no slot twice. -/
theorem nodup_flatten (h : Represents s c out) : ((List.finRange 4).map c).flatten.Nodup := by
  refine List.nodup_flatten.mpr ⟨?_, ?_⟩
  · simp only [List.mem_map, List.mem_finRange, true_and]
    rintro _ ⟨k, rfl⟩
    exact h.nodup k
  · refine List.pairwise_map.mpr ((List.nodup_finRange 4).imp ?_)
    intro k j hkj y hk hj
    exact hkj (h.disjoint k j y hk hj)

/-- Every slot of the vector is free or in one tier, never both, so the vector is as long as
the free stack and the tiers together. -/
theorem length_nodes (h : Represents s c []) : s.nodes.length = s.freeSlots.length + s.count := by
  have hmem : ∀ y, y ∈ s.freeSlots ++ ((List.finRange 4).map c).flatten ↔
      y ∈ List.range s.nodes.length := by
    intro y
    simp only [List.mem_append, List.mem_flatten, List.mem_map, List.mem_finRange, true_and,
      List.mem_range]
    constructor
    · rintro (hf | ⟨_, ⟨k, rfl⟩, hk⟩)
      · exact ((h.free y).mp hf).1
      · exact lt_length_of_isSome s (h.isSome_of_mem hk)
    · intro hy
      cases hn : s.node? y with
      | none => exact .inl ((h.free y).mpr ⟨hy, hn⟩)
      | some n =>
        have hs : (s.node? y).isSome := by simp [hn]
        rcases (h.occupied y).mp hs with ⟨k, hk⟩ | hout
        · exact .inr ⟨c k, ⟨k, rfl⟩, hk⟩
        · exact absurd hout List.not_mem_nil
  have hnd : (s.freeSlots ++ ((List.finRange 4).map c).flatten).Nodup := by
    refine List.nodup_append.mpr ⟨h.freeNodup, h.nodup_flatten, ?_⟩
    intro y hf z hz hyz
    subst hyz
    simp only [List.mem_flatten, List.mem_map, List.mem_finRange, true_and] at hz
    obtain ⟨_, ⟨k, rfl⟩, hk⟩ := hz
    have hnone := ((h.free y).mp hf).2
    exact absurd (h.isSome_of_mem hk) (by simp [hnone])
  have hperm := (List.perm_ext_iff_of_nodup hnd List.nodup_range).mpr hmem
  rw [h.count_eq_length_flatten, ← List.length_append, hperm.length_eq, List.length_range]

end Represents

/-! ## When the vector grows -/

section Growth

variable (s : Slab)

theorem length_nodes_removeObject (id : ObjectId) :
    (s.removeObject id).2.nodes.length = s.nodes.length :=
  foldl_remove_keeps (fun s => s.nodes.length) length_nodes_unlink length_nodes_release
    (fun _ _ => rfl) _ false s

/-- Adding a part takes a slot from the end of the vector only when none is free. -/
theorem add_grows {i : PartIndex} {r : Slab × Option PartIndex} (hr : s.add i = .ok r) :
    r.1.nodes.length = s.nodes.length ∨ r.1.freeSlots = [] := by
  cases hi : s.contains i with
  | true => simp [Slab.add, hi] at hr
  | false =>
    rw [add_eq_ok s hi, Except.ok.injEq] at hr
    subst hr
    simp only [record_nodes, record_freeSlots, length_nodes_pushFront, pushFront_freeSlots]
    rw [← length_nodes_makeRoom s]
    exact alloc_grows _ i

/-- Promoting a part moves nodes between tiers, or adds the part when it is untracked. -/
theorem promote_grows (i : PartIndex) :
    (s.promote i).1.nodes.length = s.nodes.length ∨ (s.promote i).1.freeSlots = [] := by
  unfold Slab.promote
  split
  · split
    · next r hr => exact add_grows s hr
    · exact .inl rfl
  · split
    · exact .inl rfl
    · dsimp only
      -- every other branch only unlinks and pushes nodes that are there
      split
      · split <;> simp
      · split
        · exact .inl rfl
        · split
          · simp
          · split <;> simp

/-- Whatever request is answered, the vector keeps its length or no slot is left free. -/
theorem answer_grows (partSize : UInt64) (r : TierRequest) :
    (s.answer partSize r).2.2.nodes.length = s.nodes.length ∨
      (s.answer partSize r).2.2.freeSlots = [] := by
  cases r with
  | add i =>
    simp only [Slab.answer]
    cases hadd : s.add i with
    | ok r => exact add_grows s hadd
    | error e => exact .inl rfl
  | promote i => exact promote_grows s i
  | remove i => exact .inl (length_nodes_remove s i)
  | removeObject id => exact .inl (length_nodes_removeObject s id)
  | lookup i | contains i | shouldKeep i | tierOf i | stats | consumedSize | width => exact .inl rfl

end Growth

/-! ## The vector over a run -/

/-- The most parts tracked after any step of a run. -/
def peakTracked (steps : List TierStep) : Nat :=
  steps.foldr (fun st m => max (st.lengths.foldr (· + ·) 0) m) 0

theorem peakTracked_cons (st : TierStep) (steps : List TierStep) :
    peakTracked (st :: steps) = max (st.lengths.foldr (· + ·) 0) (peakTracked steps) := rfl

theorem run_cons (partSize : UInt64) (s : Slab) (r : TierRequest) (rs : List TierRequest) :
    Slab.run partSize s (r :: rs) =
      (⟨(s.answer partSize r).1, (s.answer partSize r).2.1, (s.answer partSize r).2.2.lengths⟩ ::
          (Slab.run partSize (s.answer partSize r).2.2 rs).1,
        (Slab.run partSize (s.answer partSize r).2.2 rs).2) := rfl

namespace WellFormed

variable {s : Slab}

theorem length_nodes (h : WellFormed s) : s.nodes.length = s.freeSlots.length + s.count :=
  Represents.length_nodes h

/-- One step leaves the vector no longer than before or than the parts then tracked. -/
theorem length_nodes_answer (h : WellFormed s) (partSize : UInt64) (r : TierRequest) :
    (s.answer partSize r).2.2.nodes.length ≤ max s.nodes.length (s.answer partSize r).2.2.count := by
  rcases answer_grows s partSize r with hl | hf
  · rw [hl]
    exact le_max_left _ _
  · have hlen := (h.answer partSize r).1.length_nodes
    rw [hf, List.length_nil, Nat.zero_add] at hlen
    rw [hlen]
    exact le_max_right _ _

/-- Over a run, the vector grows no longer than it was or than the most parts tracked after
any step. -/
theorem length_nodes_run (h : WellFormed s) (partSize : UInt64) (rs : List TierRequest) :
    (Slab.run partSize s rs).2.nodes.length ≤
      max s.nodes.length (peakTracked (Slab.run partSize s rs).1) := by
  induction rs generalizing s with
  | nil => exact le_max_left _ _
  | cons r rs ih =>
    -- the slab after the first step carries the induction
    have hstep := h.length_nodes_answer partSize r
    have hrest := ih (h.answer partSize r).1
    rw [run_cons]
    dsimp only
    rw [peakTracked_cons]
    change _ ≤ max _ (max (s.answer partSize r).2.2.count _)
    omega

end WellFormed

/-! ## The empty slab -/

theorem represents_new (capacity : Nat) : Represents (Slab.new capacity) (fun _ => []) [] where
  linked _ := trivial
  ends _ := rfl
  nodup _ := List.nodup_nil
  disjoint _ _ _ h := absurd h List.not_mem_nil
  outNodup := List.nodup_nil
  apart _ h := absurd h List.not_mem_nil
  occupied y := by simp [node?, Slab.new]
  freeNodup := List.nodup_nil
  free y := by simp [node?, Slab.new]
  table i y := by simp [slotOf?, indexAt, node?, Slab.new]

theorem wellFormed_new (capacity : Nat) : WellFormed (Slab.new capacity) :=
  (represents_new capacity).wellFormed

theorem view_new (capacity : Nat) : (Slab.new capacity).view = Tiers.empty capacity := by
  rw [(represents_new capacity).view_eq]
  rfl

/-- From the empty policy of any capacity, every run of requests keeps the slab well-formed and
answers every request, with the same evicted parts and tier lengths, as the list policy does;
and the vector of slots is never longer than the most parts tracked after a step. -/
theorem run_refines (partSize : UInt64) (capacity : Nat) (rs : List TierRequest) :
    WellFormed (Slab.run partSize (Slab.new capacity) rs).2 ∧
      Tiers.run partSize (Tiers.empty capacity) rs =
        ((Slab.run partSize (Slab.new capacity) rs).1,
          (Slab.run partSize (Slab.new capacity) rs).2.view) ∧
      (Slab.run partSize (Slab.new capacity) rs).2.nodes.length ≤
        peakTracked (Slab.run partSize (Slab.new capacity) rs).1 := by
  have h := wellFormed_new capacity
  obtain ⟨hw, hv⟩ := h.run partSize rs
  refine ⟨hw, view_new capacity ▸ hv, ?_⟩
  have hlen := h.length_nodes_run partSize rs
  rwa [show (Slab.new capacity).nodes.length = 0 from rfl, Nat.zero_max] at hlen

end PartCache.Slab
