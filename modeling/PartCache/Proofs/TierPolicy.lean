import PartCache.Proofs.TierMoves
import PartCache.Proofs.SlabAccounting
import Mathlib

/-!
# What the stored policy does to parts

A slab reached from the empty one stands for four lists of parts within a positive width
(`reached`), so what `PartCache.Tiers` does to its lists the slab does to its parts.  Three
consequences, for every run of requests:

* `evicts_only_when_full`: a new part, added or promoted, evicts exactly when all four tiers
  are full, and then the part at the back of the coldest tier; while some tier has room, making
  room leaves room in the coldest tier without evicting; promoting a tracked part never evicts;
  and from the empty policy, adding `n` new parts tracks `min n (4 * width)` of them and evicts
  `n - 4 * width`.
* `promotion_moves_one_tier`: promoting a tracked part keeps what is tracked and moves it to the
  front of the tier above (staying at the front of a colder tier); the only other part that
  moves is the back of the tier above when that tier is full, one tier down, to the front of
  the promoted part's old tier, and the rest keep their tiers and order.  Adding never moves a
  part to a colder tier.
* `makeRoom_keeps_recency_order`: making room in the coldest tier moves tier boundaries only, so
  the tiers read one after the other keep their order, less the evicted part, which is the last.
-/

set_option autoImplicit false

namespace PartCache.Slab

/-! ## Reached slabs and their lists -/

/-- A slab reached from the empty one is well formed and stands for tiers within a positive
width. -/
theorem reached (partSize : UInt64) (capacity : Nat) (rs : List TierRequest) :
    WellFormed (Slab.run partSize (Slab.new capacity) rs).2 ∧
      0 < (Slab.run partSize (Slab.new capacity) rs).2.view.width ∧
      Tiers.Bounded (Slab.run partSize (Slab.new capacity) rs).2.view.width
        (Slab.run partSize (Slab.new capacity) rs).2.view.lists := by
  obtain ⟨hw, hv⟩ := (wellFormed_new capacity).run partSize rs
  rw [view_new] at hv
  obtain ⟨h0, hb0⟩ := Tiers.empty_bounded capacity
  obtain ⟨hwidth, hb⟩ := Tiers.run_bounded h0 hb0 partSize rs
  have hview : (Tiers.run partSize (Tiers.empty capacity) rs).2 =
      (Slab.run partSize (Slab.new capacity) rs).2.view := by rw [hv]
  rw [hview] at hwidth hb
  exact ⟨hw, hwidth ▸ h0, hwidth ▸ hb⟩

namespace WellFormed

variable {s : Slab}

theorem stands (h : WellFormed s) : Stands s s.view.lists :=
  ⟨s.chain, h, by rw [Represents.view_eq h]⟩

/-- A well-formed slab answers with the evicted parts its lists give. -/
theorem evicted_answer (h : WellFormed s) (partSize : UInt64) (r : TierRequest) :
    (s.answer partSize r).2.1 = (s.view.answer partSize r).2.1 := by
  rw [(h.answer partSize r).2]

/-- Where the tiers of a well-formed slab hold each part. -/
theorem tierOf?_eq_some_iff (h : WellFormed s) {j : PartIndex} {k : Fin 4} :
    s.tierOf? j = some k ↔ j ∈ s.view.lists.get k := by
  rw [← Represents.tierOf?_view h, Tiers.tierOf?_eq_some_iff h.nodup_toList]

end WellFormed

theorem Stands.len_eq {s : Slab} {ls : Vector (List PartIndex) 4} (h : Stands s ls) (k : Fin 4) :
    (s.tiers k).len = (ls.get k).length := by
  obtain ⟨c, hc, rfl⟩ := h
  rw [Represents.len_eq hc k, get_parts, List.length_map]

/-! ## Evicting -/

/-- From the empty policy, after any run of requests: a new part, added or promoted, evicts at
most one part, one exactly when all four tiers hold the width, and then the part at the back of
the coldest tier; while some tier has room, making room leaves room in the coldest tier and
evicts nothing; and promoting a tracked part evicts nothing.  Adding new parts one after another
to the empty policy tracks as many of them as the four tiers hold, and evicts one part for each
add past that. -/
theorem evicts_only_when_full (partSize : UInt64) (capacity : Nat) :
    (∀ rs : List TierRequest,
      (∀ i, (Slab.run partSize (Slab.new capacity) rs).2.contains i = false →
        ∀ q ∈ [TierRequest.add i, .promote i],
          ((Slab.run partSize (Slab.new capacity) rs).2.answer partSize q).2.1.length ≤ 1 ∧
          (((Slab.run partSize (Slab.new capacity) rs).2.answer partSize q).2.1.length = 1 ↔
            ∀ k, ((Slab.run partSize (Slab.new capacity) rs).2.tiers k).len =
              (Slab.run partSize (Slab.new capacity) rs).2.width) ∧
          ∀ j ∈ ((Slab.run partSize (Slab.new capacity) rs).2.answer partSize q).2.1,
            ((Slab.run partSize (Slab.new capacity) rs).2.view.lists.get 3).getLast? = some j) ∧
      ((∃ k, ((Slab.run partSize (Slab.new capacity) rs).2.tiers k).len <
          (Slab.run partSize (Slab.new capacity) rs).2.width) →
        ((Slab.run partSize (Slab.new capacity) rs).2.makeRoom.1.tiers coldest).len <
          (Slab.run partSize (Slab.new capacity) rs).2.width ∧
        (Slab.run partSize (Slab.new capacity) rs).2.makeRoom.2 = none) ∧
      ∀ i, (Slab.run partSize (Slab.new capacity) rs).2.contains i = true →
        ((Slab.run partSize (Slab.new capacity) rs).2.answer partSize (.promote i)).2.1 = []) ∧
    ∀ is : List PartIndex, is.Nodup →
      (Slab.run partSize (Slab.new capacity) (is.map .add)).2.count =
          min is.length (4 * max 1 (capacity / 4)) ∧
        ((Slab.run partSize (Slab.new capacity) (is.map .add)).1.flatMap TierStep.evicted).length =
          is.length - 4 * max 1 (capacity / 4) := by
  refine ⟨fun rs => ?_, fun is hnd => ?_⟩
  · obtain ⟨h, hw, hb⟩ := reached partSize capacity rs
    generalize (Slab.run partSize (Slab.new capacity) rs).2 = s at h hw hb ⊢
    have hlen : ∀ k, (s.tiers k).len = (s.view.lists.get k).length := h.stands.len_eq
    refine ⟨fun i hi q hq => ?_, fun ⟨k, hk⟩ => ?_, fun i hi => ?_⟩
    · -- a new part: the list policy adds it, evicting as `add_evicted` says
      obtain ⟨r, hr⟩ : ∃ r, s.view.add i = .ok r :=
        ⟨_, Tiers.add_eq_ok _ (by rw [Represents.contains_view h]; exact hi)⟩
      have hfull : (∀ k, (s.tiers k).len = s.width) ↔
          ∀ k, (s.view.lists.get k).length = s.view.width := by
        simp only [hlen]
        rfl
      rw [h.evicted_answer, Tiers.answer_of_new partSize hr q hq, hfull]
      dsimp only
      rw [Tiers.add_evicted hw hb hr]
      split
      · next hf =>
        obtain ⟨b, hback⟩ := Option.isSome_iff_exists.mp (Tiers.getLast?_isSome_of_full hw hf)
        simp [hf, hback]
      · next hf => simp [hf]
    · -- some tier has room: the shift hands it down to the coldest tier
      obtain ⟨hst, hev⟩ := h.stands.makeRoom
      have hroom : Tiers.hasRoom s.view.width s.view.lists k = true := by
        rw [Tiers.hasRoom_iff, ← hlen]
        exact hk
      refine ⟨?_, hev.trans (Tiers.makeRoom_evicts_none hw hb hroom)⟩
      rw [hst.len_eq]
      exact Tiers.hasRoom_iff.mp (Tiers.makeRoom_bounded hw hb).2
    · -- a tracked part is promoted in place, evicting nothing
      obtain ⟨hnone, -, -⟩ := Tiers.promote_of_contains (t := s.view) (i := i)
        (by rw [Represents.contains_view h]; exact hi)
      rw [h.evicted_answer]
      simp [Tiers.answer, hnone]
  · obtain ⟨hw, hv⟩ := (wellFormed_new capacity).run partSize (is.map .add)
    rw [view_new] at hv
    obtain ⟨h0, hb0⟩ := Tiers.empty_bounded capacity
    obtain ⟨hc, he⟩ := Tiers.run_fill partSize h0 hb0 is hnd (fun _ _ => rfl)
    have hempty : (Tiers.empty capacity).count = 0 := rfl
    rw [hv, hempty, Nat.zero_add] at hc he
    exact ⟨(Represents.count_eq hw).trans hc, he⟩

/-! ## Promoting -/

section Promoting

variable {s : Slab}

/-- Lists that agree once two tiers' worth of moved parts are filtered out hold every part not
moved in the same tier. -/
theorem tierOf?_eq_of_filter {s' : Slab} (h : WellFormed s) (h' : WellFormed s') {p : PartIndex → Bool}
    (hp : ∀ k, (s'.view.lists.get k).filter p = (s.view.lists.get k).filter p) {j : PartIndex}
    (hj : p j = true) : s'.tierOf? j = s.tierOf? j := by
  refine Option.ext fun k => ?_
  rw [h'.tierOf?_eq_some_iff, h.tierOf?_eq_some_iff]
  have := congrArg (j ∈ ·) (hp k)
  simpa [List.mem_filter, hj] using this

/-- Promoting on a well-formed slab promotes on its lists. -/
theorem promote_answer (h : WellFormed s) (partSize : UInt64) (i : PartIndex) :
    WellFormed (s.answer partSize (.promote i)).2.2 ∧
      (s.answer partSize (.promote i)).2.1 = (s.view.promote i).2.toList ∧
      (s.answer partSize (.promote i)).2.2.view = (s.view.promote i).1 := by
  obtain ⟨hw, hv⟩ := h.answer partSize (.promote i)
  exact ⟨hw, (congrArg (fun a => a.2.1) hv).symm, (congrArg (fun a => a.2.2) hv).symm⟩

end Promoting

/-- From the empty policy, after any run of requests: promoting a part tracked in tier `k`
evicts nothing and keeps what is tracked and how many.  At the front of a tier other than the
hottest the part stays, and nothing changes.  Otherwise it goes to the front of the tier above
(the hottest tier's own front when it is there); the part it displaces, the back of the tier
above when that tier is full, goes one tier down, to the front of tier `k`; and every other part
keeps its tier and its order among the others.  Adding a new part moves no part to a colder
tier. -/
theorem promotion_moves_one_tier (partSize : UInt64) (capacity : Nat) (rs : List TierRequest) :
    (∀ i k, (Slab.run partSize (Slab.new capacity) rs).2.tierOf? i = some k →
      ((Slab.run partSize (Slab.new capacity) rs).2.answer partSize (.promote i)).2.1 = [] ∧
      (∀ j, ((Slab.run partSize (Slab.new capacity) rs).2.answer partSize (.promote i)).2.2.contains j =
        (Slab.run partSize (Slab.new capacity) rs).2.contains j) ∧
      ((Slab.run partSize (Slab.new capacity) rs).2.answer partSize (.promote i)).2.2.count =
        (Slab.run partSize (Slab.new capacity) rs).2.count ∧
      (0 < k.val → ((Slab.run partSize (Slab.new capacity) rs).2.view.lists.get k).head? = some i →
        ((Slab.run partSize (Slab.new capacity) rs).2.answer partSize (.promote i)).2.2.view =
          (Slab.run partSize (Slab.new capacity) rs).2.view) ∧
      (¬(0 < k.val ∧ ((Slab.run partSize (Slab.new capacity) rs).2.view.lists.get k).head? = some i) →
        ((Slab.run partSize (Slab.new capacity) rs).2.answer partSize (.promote i)).2.2.tierOf? i =
          some (Tiers.above k) ∧
        (((Slab.run partSize (Slab.new capacity) rs).2.answer partSize (.promote i)).2.2.view.lists.get
          (Tiers.above k)).head? = some i ∧
        (∀ x ∈ (Slab.run partSize (Slab.new capacity) rs).2.view.displaced k,
          (Slab.run partSize (Slab.new capacity) rs).2.tierOf? x = some (Tiers.above k) ∧
          ((Slab.run partSize (Slab.new capacity) rs).2.answer partSize (.promote i)).2.2.tierOf? x =
            some k ∧
          (((Slab.run partSize (Slab.new capacity) rs).2.answer partSize (.promote i)).2.2.view.lists.get
            k).head? = some x) ∧
        (∀ j, j ≠ i → j ∉ (Slab.run partSize (Slab.new capacity) rs).2.view.displaced k →
          ((Slab.run partSize (Slab.new capacity) rs).2.answer partSize (.promote i)).2.2.tierOf? j =
            (Slab.run partSize (Slab.new capacity) rs).2.tierOf? j) ∧
        ∀ k', (((Slab.run partSize (Slab.new capacity) rs).2.answer partSize (.promote i)).2.2.view.lists.get
            k').filter (fun j => j ≠ i ∧ j ∉ (Slab.run partSize (Slab.new capacity) rs).2.view.displaced k) =
          ((Slab.run partSize (Slab.new capacity) rs).2.view.lists.get k').filter
            (fun j => j ≠ i ∧ j ∉ (Slab.run partSize (Slab.new capacity) rs).2.view.displaced k))) ∧
    ∀ i, (Slab.run partSize (Slab.new capacity) rs).2.contains i = false →
      ∀ j k', ((Slab.run partSize (Slab.new capacity) rs).2.answer partSize (.add i)).2.2.tierOf? j =
          some k' → j ≠ i →
        ∃ k, (Slab.run partSize (Slab.new capacity) rs).2.tierOf? j = some k ∧ k' ≤ k := by
  obtain ⟨h, hw, hb⟩ := reached partSize capacity rs
  generalize (Slab.run partSize (Slab.new capacity) rs).2 = s at h hw hb ⊢
  refine ⟨fun i k hk => ?_, fun i hi j k' hj hji => ?_⟩
  · obtain ⟨h', hev, hview⟩ := promote_answer h partSize i
    have hk' : s.view.tierOf? i = some k := (Represents.tierOf?_view h i).trans hk
    have hct : s.view.contains i = true :=
      Tiers.contains_iff_mem.mpr (List.mem_flatten.mpr ⟨_, by simp [get_eq_getElem,
        Vector.getElem_mem], Tiers.mem_of_tierOf? hk'⟩)
    obtain ⟨hnone, hcount, hmem⟩ := Tiers.promote_of_contains hct
    generalize (s.answer partSize (.promote i)).2.2 = s' at h' hev hview ⊢
    refine ⟨by rw [hev, hnone]; rfl, fun j => ?_, ?_, fun h0 hf => ?_, fun hf => ?_⟩
    · rw [← Represents.contains_view h', ← Represents.contains_view h, hview, Bool.eq_iff_iff,
        Tiers.contains_iff_mem, Tiers.contains_iff_mem, hmem]
    · rw [Represents.count_eq h', Represents.count_eq h, hview, hcount]
    · rw [hview, Tiers.promote_of_front hk' h0 hf]
    · obtain ⟨hup, hdown, hrest⟩ := Tiers.promote_moves hw hk' hf
      rw [← hview] at hup hdown hrest
      refine ⟨h'.tierOf?_eq_some_iff.mpr (List.mem_of_mem_head? hup), hup, fun x hx => ?_,
        fun j hj hjd => tierOf?_eq_of_filter h h' hrest (by simp [hj, hjd]), hrest⟩
      obtain ⟨-, hback⟩ : 0 < k.val ∧ (s.view.lists.get (Tiers.above k)).getLast? = some x := by
        unfold Tiers.displaced at hx
        split at hx
        · next hc => exact ⟨hc.1, hx⟩
        · cases hx
      exact ⟨h.tierOf?_eq_some_iff.mpr (List.mem_of_getLast? hback),
        h'.tierOf?_eq_some_iff.mpr (List.mem_of_mem_head? (hdown x hx)), hdown x hx⟩
  · obtain ⟨r, hr⟩ : ∃ r, s.view.add i = .ok r :=
      ⟨_, Tiers.add_eq_ok _ (by rw [Represents.contains_view h]; exact hi)⟩
    have hans := Tiers.answer_of_new partSize hr (.add i) List.mem_cons_self
    obtain ⟨h', hv'⟩ := h.answer partSize (.add i)
    rw [hans] at hv'
    have hview : (s.answer partSize (.add i)).2.2.view = r.1 := by
      have := congrArg (fun a => a.2.2) hv'
      exact this.symm
    rw [h'.tierOf?_eq_some_iff, hview] at hj
    obtain ⟨k, hk, hle⟩ := Tiers.add_climbs hr j k' hj hji
    exact ⟨k, h.tierOf?_eq_some_iff.mpr hk, hle⟩

/-! ## Making room -/

/-- Making room in the coldest tier of a well-formed slab moves parts between tiers without
reordering them: the tiers read one after the other are the same afterwards, but for the part
read last when it is evicted. -/
theorem WellFormed.toList_makeRoom {s : Slab} (h : WellFormed s) :
    s.view.toList = s.makeRoom.1.view.toList ++ s.makeRoom.2.toList := by
  obtain ⟨hst, hev⟩ := h.stands.makeRoom
  rw [Tiers.toList, Tiers.toList, hst.view_eq, hev]
  exact Tiers.makeRoom_flatten s.width s.view.lists

/-- From the empty policy, after any run of requests, making room in the coldest tier keeps the
recency order of the tracked parts: the four tiers read front to back, one after the other, are
the same sequence afterwards, except that its last part is gone when it is the one evicted. -/
theorem makeRoom_keeps_recency_order (partSize : UInt64) (capacity : Nat) (rs : List TierRequest) :
    (Slab.run partSize (Slab.new capacity) rs).2.view.toList =
      (Slab.run partSize (Slab.new capacity) rs).2.makeRoom.1.view.toList ++
        (Slab.run partSize (Slab.new capacity) rs).2.makeRoom.2.toList :=
  (reached partSize capacity rs).1.toList_makeRoom

end PartCache.Slab
