import PartCache.Proofs.TierPolicy

/-!
# The part placed last is not the next victim

Adding a part puts it at the front of the coldest tier, and promoting a part leaves it at the
front of a tier (`front_of_answer`).  An add evicts only when all four tiers are full, and then
the back of the coldest tier.  When every tier holds at least two parts, the front of a tier is
never the back of the coldest one, so the next add does not evict it (`front_survives_add`).

Every zone has tiers of at least two parts: a zone holds at least eight parts, a quarter of them
in each tier.  So after any run of requests from the empty policy of at least eight parts, a
part just added, or just promoted, is not evicted by the next add.  With tiers of one part this
fails: the front of the coldest tier is its back.
-/

set_option autoImplicit false

namespace PartCache

namespace Tiers

variable {t : Tiers} {i : PartIndex}

/-- An added part stands at the front of the coldest tier. -/
theorem front_of_add {r : Tiers × Option PartIndex} (h : t.add i = .ok r) :
    (r.1.lists.get 3).head? = some i := by
  have hi : t.contains i = false := by
    cases hc : t.contains i
    · rfl
    · simp [add, hc] at h
  rw [add_eq_ok t hi] at h
  cases h
  exact congrArg List.head? (get_set_self _ Slab.coldest _)

/-- A promoted part stands at the front of a tier: the coldest one when it was new, its own when
it was at the front of a colder tier, otherwise the tier above its own. -/
theorem front_of_promote (hw : 0 < t.width) (i : PartIndex) :
    ∃ k, ((t.promote i).1.lists.get k).head? = some i := by
  cases hk : t.tierOf? i with
  | none =>
    -- an untracked part is added
    have hi : t.contains i = false := by
      cases hc : t.contains i
      · rfl
      · simpa [hk] using tierOf?_isSome hc
    obtain ⟨r, hr⟩ : ∃ r, t.add i = .ok r := ⟨_, add_eq_ok t hi⟩
    have hp : t.promote i = r := by simp [promote, hk, hr]
    exact ⟨3, hp ▸ front_of_add hr⟩
  | some k =>
    by_cases hf : 0 < k.val ∧ (t.lists.get k).head? = some i
    · exact ⟨k, by rw [promote_of_front hk hf.1 hf.2]; exact hf.2⟩
    · exact ⟨above k, (promote_moves hw hk hf).1⟩

/-- A part that was added, or promoted, stands at the front of a tier afterwards. -/
theorem front_of_answer (hw : 0 < t.width) (partSize : UInt64) {q : TierRequest}
    (hq : q ∈ [TierRequest.add i, .promote i]) (hdone : (t.answer partSize q).1 = .done) :
    ∃ k, ((t.answer partSize q).2.2.lists.get k).head? = some i := by
  simp only [List.mem_cons, List.not_mem_nil, or_false] at hq
  rcases hq with rfl | rfl
  · simp only [answer] at hdone ⊢
    split
    · next r hr => exact ⟨3, front_of_add hr⟩
    · next e he => simp [he] at hdone
  · exact front_of_promote hw i

/-- A list of distinct parts with at least two of them has a front other than its back. -/
theorem front_ne_back {l : List PartIndex} (hnd : l.Nodup) (hl : 2 ≤ l.length) {u v : PartIndex}
    (hu : l.head? = some u) (hv : l.getLast? = some v) : u ≠ v := by
  match l, hnd, hl, hu, hv with
  | x :: y :: rest, hnd, _, hu, hv =>
    simp only [List.head?_cons, Option.some.injEq] at hu
    subst hu
    rintro rfl
    -- the back lies in the rest, which does not hold the front
    rw [List.getLast?_cons_cons] at hv
    exact (List.nodup_cons.mp hnd).1 (List.mem_of_getLast? hv)

/-- With room for two parts in each tier, adding a part never evicts a part at the front of a
tier: an add evicts only the back of a full coldest tier, which is not its front. -/
theorem front_not_evicted (hw : 2 ≤ t.width) (hb : Bounded t.width t.lists) (hnd : t.toList.Nodup)
    {k : Fin 4} (hi : (t.lists.get k).head? = some i) {j : PartIndex}
    {r : Tiers × Option PartIndex} (h : t.add j = .ok r) : r.2 ≠ some i := by
  rw [add_evicted (by omega) hb h]
  split
  · next hfull =>
    intro hback
    have hk : k = 3 := tier_unique hnd (List.mem_of_mem_head? hi) (List.mem_of_getLast? hback)
    subst hk
    have hnd3 : (t.lists.get 3).Nodup :=
      (List.nodup_flatten.mp hnd).1 _ (by simp [get_eq_getElem, Vector.getElem_mem])
    exact front_ne_back hnd3 (by rw [hfull 3]; exact hw) hi hback rfl
  · simp

/-- The next add of tiers of width at least two, holding each part once, spares the fronts of
the tiers. -/
theorem front_survives_add (hw : 2 ≤ t.width) (hb : Bounded t.width t.lists)
    (hnd : t.toList.Nodup) {k : Fin 4} (hi : (t.lists.get k).head? = some i) (partSize : UInt64)
    (j : PartIndex) : i ∉ (t.answer partSize (.add j)).2.1 := by
  simp only [answer]
  split
  · next r hr =>
    intro hmem
    exact front_not_evicted hw hb hnd hi hr (Option.mem_toList.mp hmem)
  · simp

end Tiers

namespace Slab

/-- A reached slab keeps the width of the empty one. -/
theorem width_reached (partSize : UInt64) (capacity : Nat) (rs : List TierRequest) :
    (Slab.run partSize (Slab.new capacity) rs).2.view.width = max 1 (capacity / 4) := by
  obtain ⟨-, hv⟩ := (wellFormed_new capacity).run partSize rs
  obtain ⟨h0, hb0⟩ := Tiers.empty_bounded capacity
  rw [view_new] at hv
  have hview : (Slab.run partSize (Slab.new capacity) rs).2.view =
      (Tiers.run partSize (Tiers.empty capacity) rs).2 := by rw [hv]
  rw [hview]
  exact (Tiers.run_bounded h0 hb0 partSize rs).1

/-- From the empty policy of at least eight parts, after any run of requests: when a part has
just been added, or promoted, the next add does not evict it. -/
theorem latest_part_outlives_next_add (partSize : UInt64) (capacity : Nat) (hcap : 8 ≤ capacity)
    (rs : List TierRequest) (i j : PartIndex) (q : TierRequest)
    (hq : q ∈ [TierRequest.add i, .promote i])
    (hdone : ((Slab.run partSize (Slab.new capacity) rs).2.answer partSize q).1 = .done) :
    i ∉ (((Slab.run partSize (Slab.new capacity) rs).2.answer partSize q).2.2.answer partSize
      (.add j)).2.1 := by
  have hwidth := width_reached partSize capacity rs
  obtain ⟨h, hw, hb⟩ := reached partSize capacity rs
  generalize (Slab.run partSize (Slab.new capacity) rs).2 = s at h hw hb hwidth hdone ⊢
  obtain ⟨h', hv⟩ := h.answer partSize q
  have hview : (s.answer partSize q).2.2.view = (s.view.answer partSize q).2.2 := by rw [hv]
  have hreply : (s.view.answer partSize q).1 = .done := by rw [hv]; exact hdone
  -- the part stands at the front of a tier of the lists the request leaves
  obtain ⟨k, hk⟩ := Tiers.front_of_answer hw partSize hq hreply
  rw [← hview] at hk
  have hw' : 2 ≤ (s.answer partSize q).2.2.view.width := by
    rw [hview, Tiers.width_answer, hwidth]
    omega
  have hb' : Tiers.Bounded (s.answer partSize q).2.2.view.width
      (s.answer partSize q).2.2.view.lists := by
    rw [hview, Tiers.width_answer]
    exact Tiers.answer_bounded hw hb partSize q
  rw [h'.evicted_answer]
  exact Tiers.front_survives_add hw' hb' h'.nodup_toList hk partSize j

/-- In a policy of eight parts filled by seven adds, the eighth part added fills every tier, and
the add after it evicts, but not that part. -/
theorem eighth_part_outlives_ninth :
    8 ≤ 8 ∧ TierRequest.add ⟨⟨"k", "/a"⟩, 7⟩ ∈
        [TierRequest.add ⟨⟨"k", "/a"⟩, 7⟩, .promote ⟨⟨"k", "/a"⟩, 7⟩] ∧
      ((Slab.run 1 (Slab.new 8)
        ((List.range 7).map fun n => .add ⟨⟨"k", "/a"⟩, n.toUInt32⟩)).2.answer 1
          (.add ⟨⟨"k", "/a"⟩, 7⟩)).1 = .done ∧
      ⟨⟨"k", "/a"⟩, 7⟩ ∉ (((Slab.run 1 (Slab.new 8)
        ((List.range 7).map fun n => .add ⟨⟨"k", "/a"⟩, n.toUInt32⟩)).2.answer 1
          (.add ⟨⟨"k", "/a"⟩, 7⟩)).2.2.answer 1 (.add ⟨⟨"k", "/a"⟩, 8⟩)).2.1 :=
  ⟨by decide, List.mem_cons_self, by rfl,
    latest_part_outlives_next_add 1 8 (by decide) _ _ _ _ List.mem_cons_self (by rfl)⟩

end Slab

end PartCache
