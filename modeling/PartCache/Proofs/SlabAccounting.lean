import PartCache.Proofs.SlabRun
import PartCache.Proofs.TierBound
import Mathlib

/-!
# What the slab tracks

A part is tracked when the table has an entry for it (`Slab.contains`).  Each request changes
the tracked parts in one way only (`WellFormed.contains_answer`): a part is tracked after the
request when it was tracked or the request adds it, unless the request evicted it or removes
it.  Every evicted part was tracked before its step (`WellFormed.evicted_tracked`), and
removals evict nothing.  Replaying these rules over a run gives exactly the parts tracked at
its end (`WellFormed.contains_run`).

Adding a tracked part fails with `alreadyInCache` and changes nothing, and only then does
adding fail (`add_failed_iff`).  The parts read off the tiers are the tracked parts, each once
(`WellFormed.nodup_toList`, `WellFormed.mem_toList_iff`), so the count the statistics report,
the sum of the tier lengths, is the number of tracked parts.  Every tier of a slab reached from
the empty one holds at most the width (`bounded_run`).
-/

set_option autoImplicit false

namespace PartCache

namespace TierRequest

/-- Whether the request tracks `j` when it is not tracked yet: adding or promoting it. -/
def adds : TierRequest → PartIndex → Bool
  | .add i, j | .promote i, j => i == j
  | _, _ => false

/-- Whether the request stops tracking `j`: removing it or its object. -/
def removes : TierRequest → PartIndex → Bool
  | .remove i, j => i == j
  | .removeObject id, j => j.object == id
  | _, _ => false

end TierRequest

/-- Whether `j` is tracked after the requests `rs` answered by the steps `steps`, replayed from
whether it was tracked before: a request that adds `j` tracks it, and a request that removes
it or a step that evicts it untracks it. -/
def replayTracked (j : PartIndex) : Bool → List TierRequest → List TierStep → Bool
  | b, r :: rs, st :: steps =>
    replayTracked j ((b || r.adds j) && !st.evicted.contains j && !r.removes j) rs steps
  | b, _, _ => b

namespace Tiers

/-- The part evicted to make room was tracked: the shift moves parts between tiers only. -/
theorem mem_of_makeRoom_evicted {w : Nat} {ls : Vector (List PartIndex) 4} {j : PartIndex}
    (he : (makeRoom w ls).2 = some j) : j ∈ ls.toList.flatten := by
  have hshift : (shiftToRoom w ls).toList.flatten = ls.toList.flatten := by
    unfold shiftToRoom
    split
    · exact toList_shiftFrom w ls _
    · rfl
  have hevict : (evictBack (shiftToRoom w ls)).2 = some j → j ∈ ls.toList.flatten := by
    unfold evictBack
    split
    · next x hx =>
      rintro ⟨⟩
      rw [← hshift, List.mem_flatten]
      exact ⟨_, by simp [Fin.getElem_fin, Vector.getElem_mem], List.mem_of_getLast? hx⟩
    · exact fun h => nomatch h
  unfold makeRoom at he
  split at he
  · cases he
  · dsimp only at he
    split at he
    · cases he
    · exact hevict he

end Tiers

namespace Slab

/-! ## The table through the steps -/

section Table

variable (s : Slab)

@[simp] theorem slotOf?_pushFront (k : Fin 4) (x : Nat) : (s.pushFront k x).slotOf? = s.slotOf? := by
  funext i
  simp [slotOf?]

@[simp] theorem slotOf?_alloc (i : PartIndex) : (s.alloc i).1.slotOf? = s.slotOf? := by
  unfold alloc
  split <;> rfl

/-- Evicting forgets the evicted part and no other. -/
theorem slotOf?_evictColdest_eq (j : PartIndex) :
    s.evictColdest.1.slotOf? j = if s.evictColdest.2 = some j then none else s.slotOf? j := by
  unfold evictColdest
  split
  · simp
  · next back _ =>
    cases hn : (s.unlink back).node? back with
    | none =>
      have hrel : (s.unlink back).release back = (none, s.unlink back) := by simp [release, hn]
      simp [hrel]
    | some n =>
      simp only [release_of_node? _ hn]
      by_cases hj : j = n.index
      · simp [hj]
      · simp only [hj, Ne.symm hj, slotOf?_forget, if_false, Option.some.injEq]
        exact congrFun (slotOf?_unlink s back) j

/-- Making room forgets the evicted part and no other. -/
theorem slotOf?_makeRoom_eq (j : PartIndex) :
    s.makeRoom.1.slotOf? j = if s.makeRoom.2 = some j then none else s.slotOf? j := by
  unfold Slab.makeRoom
  split
  · simp
  · split
    · dsimp only
      split
      · simp
      · rw [slotOf?_evictColdest_eq, slotOf?_shiftUp]
    · exact slotOf?_evictColdest_eq s j

/-- Removing a part forgets it and no other. -/
theorem slotOf?_remove_eq (i j : PartIndex) :
    (s.remove i).2.slotOf? j = if j = i then none else s.slotOf? j := by
  unfold Slab.remove
  split
  · next hs => by_cases hj : j = i <;> simp [hj, hs]
  · dsimp only
    split <;> simp

theorem slotOf?_foldl_remove (ps : List PartIndex) (b : Bool) (j : PartIndex) :
    (ps.foldl (fun acc i => let r := acc.2.remove i; (acc.1 || r.1, r.2)) (b, s)).2.slotOf? j =
      if j ∈ ps then none else s.slotOf? j := by
  induction ps generalizing s b with
  | nil => simp
  | cons i ps ih =>
    rw [List.foldl_cons, ih, slotOf?_remove_eq]
    by_cases hj : j ∈ ps
    · simp [hj]
    · by_cases hji : j = i <;> simp [hj, hji]

end Table

/-! ## Which parts are tracked after a step -/

section Contains

variable (s : Slab)

theorem contains_makeRoom (j : PartIndex) :
    s.makeRoom.1.contains j = (s.contains j && !(s.makeRoom.2 == some j)) := by
  simp only [contains, slotOf?_makeRoom_eq]
  split <;> simp_all

theorem contains_remove (i j : PartIndex) :
    (s.remove i).2.contains j = (s.contains j && !(i == j)) := by
  simp only [contains, slotOf?_remove_eq]
  by_cases hj : j = i
  · simp [hj]
  · simp [hj, Ne.symm hj]

/-- Removing an object untracks exactly its tracked parts. -/
theorem contains_removeObject (id : ObjectId) (j : PartIndex) :
    (s.removeObject id).2.contains j = (s.contains j && !(j.object == id)) := by
  simp only [contains, Slab.removeObject, slotOf?_foldl_remove]
  by_cases hobj : j.object = id
  · -- a tracked part of the object is one of the table's keys, so it is removed
    cases hs : s.slotOf? j with
    | none => split <;> simp [hobj]
    | some y =>
      have hmem : j ∈ (s.lookup.map (·.1)).filter (·.object == id) :=
        List.mem_filter.mpr ⟨mem_keys_of_slotOf? hs, by simp [hobj]⟩
      simp [hmem, hobj]
  · have hmem : j ∉ (s.lookup.map (·.1)).filter (·.object == id) := fun hm =>
      hobj (beq_iff_eq.mp (List.mem_filter.mp hm).2)
    simp [hmem, hobj]

@[simp] theorem contains_record (i : PartIndex) (y : Nat) (j : PartIndex) :
    (s.record i y).contains j = (i == j || s.contains j) := by
  by_cases hj : j = i
  · simp [contains, hj]
  · simp [contains, hj, Ne.symm hj]

@[simp] theorem contains_pushFront (k : Fin 4) (x : Nat) : (s.pushFront k x).contains = s.contains := by
  funext j
  simp [contains]

@[simp] theorem contains_alloc (i : PartIndex) : (s.alloc i).1.contains = s.contains := by
  funext j
  simp [contains]

/-- Adding an untracked part tracks it, and untracks only the part evicted to make room. -/
theorem contains_add {i : PartIndex} (hi : s.contains i = false) :
    ∃ r, s.add i = .ok r ∧ r.2 = s.makeRoom.2 ∧
      ∀ j, r.1.contains j = (i == j || (s.contains j && !(s.makeRoom.2 == some j))) := by
  refine ⟨_, add_eq_ok s hi, rfl, fun j => ?_⟩
  simp only [contains_record, contains_pushFront, contains_alloc, contains_makeRoom]

end Contains

namespace WellFormed

variable {s : Slab}

/-- The part evicted to make room was tracked. -/
theorem makeRoom_evicted_tracked (h : WellFormed s) {j : PartIndex} (he : s.makeRoom.2 = some j) :
    s.contains j = true := by
  obtain ⟨c, hc⟩ : ∃ c, Represents s c [] := ⟨_, h⟩
  have hlists : s.view.lists = s.parts c := by rw [hc.view_eq]
  rw [(Stands.makeRoom ⟨c, hc, rfl⟩).2] at he
  have hmem := Tiers.mem_of_makeRoom_evicted he
  rw [← hc.contains_view, Tiers.contains, List.contains_iff_mem, Tiers.toList, hlists]
  exact hmem

/-- A tracked part is promoted without changing what is tracked or evicting anything. -/
theorem promote_of_tracked (h : WellFormed s) {i : PartIndex} (hi : s.contains i = true) :
    (s.promote i).1.contains = s.contains ∧ (s.promote i).2 = none := by
  obtain ⟨c, hc⟩ : ∃ c, Represents s c [] := ⟨_, h⟩
  obtain ⟨y, hy⟩ := Option.isSome_iff_exists.mp hi
  obtain ⟨n, hn, -, -⟩ := hc.slot_mem hy
  have hkeep : ∀ s' : Slab, s'.slotOf? = s.slotOf? → s'.contains = s.contains := by
    intro s' hs'
    funext j
    simp [contains, hs']
  unfold Slab.promote
  rw [hy]
  dsimp only
  rw [hn]
  dsimp only
  -- every remaining branch only unlinks nodes and pushes them to the front of a tier
  split
  · split <;> exact ⟨hkeep _ (by simp), rfl⟩
  · split
    · exact ⟨rfl, rfl⟩
    · split
      · exact ⟨hkeep _ (by simp), rfl⟩
      · split <;> exact ⟨hkeep _ (by simp), rfl⟩

/-- Adding an untracked part, by an add or a promotion: it is tracked after, and the part
evicted, which was tracked and is another part, is not. -/
theorem contains_add (h : WellFormed s) {i : PartIndex} (hi : s.contains i = false) :
    ∃ r, s.add i = .ok r ∧ ∀ j,
      r.1.contains j = ((s.contains j || i == j) && !r.2.toList.contains j) := by
  obtain ⟨r, hr, he, hc⟩ := Slab.contains_add s hi
  refine ⟨r, hr, fun j => ?_⟩
  rw [hc, he]
  cases hm : s.makeRoom.2 with
  | none => simp [Bool.or_comm]
  | some x =>
    have hx : x ≠ i := fun e => by
      rw [e] at hm
      rw [h.makeRoom_evicted_tracked hm] at hi
      cases hi
    by_cases hij : i = j
    · subst hij
      simp [Ne.symm hx]
    · by_cases hxj : x = j
      · simp [hij, hxj]
      · simp [beq_false_of_ne hij, beq_false_of_ne hxj, Ne.symm hxj]

/-- One request changes the tracked parts only as it says: a part is tracked after it when it
was tracked or the request adds it, unless the step evicted it or the request removes it. -/
theorem contains_answer (h : WellFormed s) (partSize : UInt64) (r : TierRequest) (j : PartIndex) :
    (s.answer partSize r).2.2.contains j =
      ((s.contains j || r.adds j) && !(s.answer partSize r).2.1.contains j && !r.removes j) := by
  cases r with
  | add i =>
    cases hi : s.contains i with
    | true =>
      simp only [Slab.answer, Slab.add, hi, if_true, TierRequest.adds, TierRequest.removes]
      by_cases hj : i = j
      · subst hj
        simp [hi]
      · simp [hj]
    | false =>
      obtain ⟨r', hr, hc⟩ := h.contains_add hi
      simp only [Slab.answer, hr, TierRequest.removes, TierRequest.adds, hc]
      simp
  | promote i =>
    cases hi : s.contains i with
    | true =>
      obtain ⟨ht, he⟩ := h.promote_of_tracked hi
      simp only [Slab.answer, ht, he, Option.toList_none, TierRequest.adds, TierRequest.removes]
      by_cases hj : i = j
      · subst hj
        simp [hi]
      · simp [hj]
    | false =>
      obtain ⟨r', hr, hc⟩ := h.contains_add hi
      have hslot : s.slotOf? i = none := by simpa [contains] using hi
      have hp : s.promote i = r' := by simp [Slab.promote, hslot, hr]
      simp only [Slab.answer, hp, TierRequest.removes, TierRequest.adds, hc]
      simp
  | remove i =>
    simp only [Slab.answer, contains_remove, TierRequest.adds, TierRequest.removes]
    simp
  | removeObject id =>
    simp only [Slab.answer, contains_removeObject, TierRequest.adds, TierRequest.removes]
    simp
  | lookup i =>
    simp [Slab.answer, Slab.lookupCounting, contains, slotOf?, TierRequest.adds, TierRequest.removes]
  | contains i | shouldKeep i | tierOf i | stats | consumedSize | width =>
    simp [Slab.answer, TierRequest.adds, TierRequest.removes]

/-- Every part a request evicts was tracked before it, and is not after it. -/
theorem evicted_tracked (h : WellFormed s) (partSize : UInt64) (r : TierRequest) :
    ∀ j ∈ (s.answer partSize r).2.1,
      s.contains j = true ∧ (s.answer partSize r).2.2.contains j = false := by
  intro j hj
  refine ⟨?_, ?_⟩
  · -- only adding evicts, and it evicts the part room was made from
    have hadd : ∀ i r', s.add i = .ok r' → j ∈ r'.2.toList → s.contains j = true := by
      intro i r' hr hm
      cases hi : s.contains i with
      | true => simp [Slab.add, hi] at hr
      | false =>
        rw [add_eq_ok s hi, Except.ok.injEq] at hr
        rw [← hr] at hm
        exact h.makeRoom_evicted_tracked (Option.mem_toList.mp hm)
    cases r with
    | add i =>
      simp only [Slab.answer] at hj
      split at hj
      · next r' hr => exact hadd i _ hr hj
      · cases hj
    | promote i =>
      cases hi : s.contains i with
      | true =>
        simp [Slab.answer, (h.promote_of_tracked hi).2] at hj
      | false =>
        have hslot : s.slotOf? i = none := by simpa [contains] using hi
        simp only [Slab.answer, Slab.promote, hslot] at hj
        split at hj
        · next r' hr => exact hadd i _ hr hj
        · cases hj
    | lookup i | contains i | shouldKeep i | remove i | tierOf i | removeObject id | stats
      | consumedSize | width => simp [Slab.answer] at hj
  · rw [h.contains_answer]
    simp [hj]

/-- The parts tracked at the end of a run are those the replay of its requests and evictions
tracks. -/
theorem contains_run (h : WellFormed s) (partSize : UInt64) (rs : List TierRequest)
    (j : PartIndex) :
    (Slab.run partSize s rs).2.contains j =
      replayTracked j (s.contains j) rs (Slab.run partSize s rs).1 := by
  induction rs generalizing s with
  | nil => rfl
  | cons r rs ih =>
    rw [run_cons]
    dsimp only
    rw [ih (h.answer partSize r).1, replayTracked, h.contains_answer]

/-! ### The tracked parts read off the tiers -/

theorem toList_view {c : Fin 4 → List Nat} (hc : Represents s c []) :
    s.view.toList = (((List.finRange 4).map c).flatten).map s.partAt := by
  rw [hc.view_eq, Tiers.toList, parts, Vector.toList_ofFn, List.ofFn_eq_map, List.map_flatten,
    List.map_map]
  rfl

/-- The tiers hold no part twice: distinct slots hold distinct parts. -/
theorem nodup_toList (h : WellFormed s) : s.view.toList.Nodup := by
  obtain ⟨c, hc⟩ : ∃ c, Represents s c [] := ⟨_, h⟩
  rw [toList_view hc]
  refine List.Nodup.map_on ?_ hc.nodup_flatten
  intro y hy z hz e
  simp only [List.mem_flatten, List.mem_map, List.mem_finRange, true_and] at hy hz
  obtain ⟨_, ⟨k, rfl⟩, hy⟩ := hy
  obtain ⟨_, ⟨j, rfl⟩, hz⟩ := hz
  exact hc.partAt_inj hy hz e

theorem mem_toList_iff (h : WellFormed s) (j : PartIndex) :
    j ∈ s.view.toList ↔ s.contains j = true := by
  obtain ⟨c, hc⟩ : ∃ c, Represents s c [] := ⟨_, h⟩
  rw [← hc.contains_view, Tiers.contains, List.contains_iff_mem]

theorem length_toList (h : WellFormed s) : s.view.toList.length = s.count := by
  obtain ⟨c, hc⟩ : ∃ c, Represents s c [] := ⟨_, h⟩
  rw [hc.count_eq, Tiers.count]

theorem len_eq_view (h : WellFormed s) (k : Fin 4) : (s.tiers k).len = (s.view.lists.get k).length := by
  rw [Represents.len_eq h k, Represents.view_eq h, get_parts, List.length_map]

end WellFormed

/-! ## The sizes reported -/

/-- The consumed size is the count times the part size, as a 64-bit word. -/
theorem consumedSize_answer (s : Slab) (partSize : UInt64) :
    (s.answer partSize .consumedSize).1 = .number (partSize.toNat * s.count % 2 ^ 64) := by
  simp [Slab.answer, UInt64.toNat_mul, Nat.mul_mod_mod]

/-- The size the statistics report is the count times the part size, as a 64-bit word. -/
theorem toNat_size_stats (s : Slab) (partSize : UInt64) :
    (s.stats partSize).size.toNat = partSize.toNat * s.count % 2 ^ 64 := by
  simp [stats, UInt64.toNat_mul, Nat.mul_comm]

/-! ## Adding a tracked part -/

/-- Adding fails exactly when the part is tracked, and then with `alreadyInCache`, evicting
nothing and leaving the slab as it was. -/
theorem add_failed_iff (s : Slab) (partSize : UInt64) (i : PartIndex) :
    ((s.answer partSize (.add i)).1 = .failed .alreadyInCache ↔ s.contains i = true) ∧
      (s.contains i = true ↔ s.answer partSize (.add i) = (.failed .alreadyInCache, [], s)) := by
  cases hi : s.contains i with
  | true => simp [Slab.answer, Slab.add, hi]
  | false =>
    simp only [Slab.answer, add_eq_ok s hi]
    simp

/-! ## Slabs reached from the empty one -/

/-- A slab reached from the empty one keeps a quarter of the capacity, at least one, as its
width, no tier holds more, and at most four widths of parts are tracked. -/
theorem bounded_run (partSize : UInt64) (capacity : Nat) (rs : List TierRequest) :
    (Slab.run partSize (Slab.new capacity) rs).2.width = max 1 (capacity / 4) ∧
      (∀ k, ((Slab.run partSize (Slab.new capacity) rs).2.tiers k).len ≤
        (Slab.run partSize (Slab.new capacity) rs).2.width) ∧
      (Slab.run partSize (Slab.new capacity) rs).2.count ≤
        4 * (Slab.run partSize (Slab.new capacity) rs).2.width := by
  obtain ⟨hw, hv⟩ := (wellFormed_new capacity).run partSize rs
  rw [view_new] at hv
  -- the list policy the slab stands for stays within the empty policy's width
  have hview : (Tiers.run partSize (Tiers.empty capacity) rs).2 =
      (Slab.run partSize (Slab.new capacity) rs).2.view := by rw [hv]
  obtain ⟨h0, hb0⟩ := Tiers.empty_bounded capacity
  obtain ⟨hwidth, hb⟩ := Tiers.run_bounded h0 hb0 partSize rs
  rw [hview] at hwidth hb
  rw [← hwidth] at hb
  obtain ⟨c, hc⟩ : ∃ c, Represents (Slab.run partSize (Slab.new capacity) rs).2 c [] := ⟨_, hw⟩
  refine ⟨hwidth, fun k => ?_, ?_⟩
  · rw [hw.len_eq_view k]
    exact hb.length_le k
  · rw [hc.count_eq]
    exact Tiers.count_le hb

/-- From the empty policy of any capacity, after any run and for any next request: each tier
holds at most the width, a quarter of the capacity and at least one part, so at most four
widths of parts are tracked; the tracked parts are those the replay of the added, removed and
evicted parts gives, and the next request changes them only so, evicting only parts that were
tracked, and nothing when it removes; adding fails exactly on a tracked part, and then changes
nothing; and the count the statistics and the consumed size report, the sum of the tier
lengths, is the number of tracked parts, each read once off the tiers. -/
theorem run_accounting (partSize : UInt64) (capacity : Nat) (rs : List TierRequest)
    (r : TierRequest) :
    let s := (Slab.run partSize (Slab.new capacity) rs).2
    (s.width = max 1 (capacity / 4) ∧ (∀ k, (s.tiers k).len ≤ s.width) ∧
        s.count ≤ 4 * s.width ∧ (4 ≤ capacity → 4 * s.width ≤ capacity)) ∧
      (∀ j, s.contains j = replayTracked j false rs (Slab.run partSize (Slab.new capacity) rs).1) ∧
      (∀ j, (s.answer partSize r).2.2.contains j =
        ((s.contains j || r.adds j) && !(s.answer partSize r).2.1.contains j && !r.removes j)) ∧
      (∀ j ∈ (s.answer partSize r).2.1,
        s.contains j = true ∧ (s.answer partSize r).2.2.contains j = false) ∧
      ((∀ i, (s.answer partSize (.remove i)).2.1 = []) ∧
        ∀ id, (s.answer partSize (.removeObject id)).2.1 = []) ∧
      (∀ i, ((s.answer partSize (.add i)).1 = .failed .alreadyInCache ↔ s.contains i = true) ∧
        (s.contains i = true ↔ s.answer partSize (.add i) = (.failed .alreadyInCache, [], s))) ∧
      ((s.stats partSize).objects = s.lengths.sum ∧ s.view.toList.Nodup ∧
        (∀ j, j ∈ s.view.toList ↔ s.contains j = true) ∧ s.view.toList.length = s.count ∧
        (s.answer partSize .consumedSize).1 = .number (partSize.toNat * s.count % 2 ^ 64) ∧
        (s.stats partSize).size.toNat = partSize.toNat * s.count % 2 ^ 64) := by
  intro s
  have h : WellFormed s := ((wellFormed_new capacity).run partSize rs).1
  obtain ⟨hwidth, hlen, hcount⟩ := bounded_run partSize capacity rs
  refine ⟨⟨hwidth, hlen, hcount, fun hcap => by rw [hwidth]; omega⟩,
    fun j => (wellFormed_new capacity).contains_run partSize rs j, h.contains_answer partSize r,
    h.evicted_tracked partSize r, ⟨fun _ => rfl, fun _ => rfl⟩,
    fun i => add_failed_iff s partSize i,
    ⟨rfl, h.nodup_toList, h.mem_toList_iff, h.length_toList, consumedSize_answer s partSize,
      toNat_size_stats s partSize⟩⟩

end Slab

end PartCache
