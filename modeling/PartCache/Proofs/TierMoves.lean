import PartCache.Proofs.TierMembers
import PartCache.Proofs.SlabRefinement
import Mathlib

/-!
# Where the tiers move parts

The list policy moves parts between its four tiers in two ways.

* Making room for an added part shifts the front of a tier onto the back of the tier above it,
  and evicts the back of the coldest tier only when no tier has room: so parts only climb
  (`climbs_makeRoom`, `add_climbs`), and an add evicts exactly when all four tiers are full,
  and then the part at the back of the coldest tier (`add_evicted`).
* Promoting a tracked part moves it to the front of the tier above it (the hottest tier's own
  front for a part already there), unless it is at the front of a colder tier.  The only other
  part that moves is the back of the tier above, when that tier is full: it takes the promoted
  part's place, at the front of its old tier.  Every other part keeps its tier and its place
  among the others (`promote_moves`).

From the first, a run of adds of new parts fills the tiers and then evicts one part for each
add past their capacity (`run_fill`).
-/

set_option autoImplicit false

namespace PartCache

namespace Tiers

theorem pred_lt_four (k : Fin 4) : k.val - 1 < 4 := Nat.lt_of_le_of_lt (Nat.sub_le _ _) k.isLt

/-- The tier above tier `k`; the hottest tier is its own. -/
def above (k : Fin 4) : Fin 4 := ⟨k.val - 1, pred_lt_four k⟩

/-- The part that a promotion out of tier `k` displaces: the back of the tier above, when `k`
is not the hottest tier and the tier above is full. -/
def displaced (t : Tiers) (k : Fin 4) : Option PartIndex :=
  if 0 < k.val ∧ hasRoom t.width t.lists (above k) = false then (t.lists.get (above k)).getLast?
  else none

/-- Tiers that hold each part once hold it in one tier. -/
theorem tier_unique {t : Tiers} (hnd : t.toList.Nodup) {j : PartIndex} {k k' : Fin 4}
    (h : j ∈ t.lists.get k) (h' : j ∈ t.lists.get k') : k = k' := by
  have hp := (List.nodup_flatten.mp hnd).2
  rw [List.pairwise_iff_getElem] at hp
  by_contra hne
  rcases Nat.lt_or_gt_of_ne (Fin.val_ne_of_ne hne) with hlt | hlt
  · exact hp k k' (by simp) (by simp) hlt (by simpa [get_eq_getElem] using h)
      (by simpa [get_eq_getElem] using h')
  · exact hp k' k (by simp) (by simp) hlt (by simpa [get_eq_getElem] using h')
      (by simpa [get_eq_getElem] using h)

/-- In tiers that hold each part once, a part's tier is the one whose list holds it. -/
theorem tierOf?_eq_some_iff {t : Tiers} (hnd : t.toList.Nodup) {j : PartIndex} {k : Fin 4} :
    t.tierOf? j = some k ↔ j ∈ t.lists.get k := by
  refine ⟨mem_of_tierOf?, fun hj => Slab.find?_finRange_eq_some fun k' => ?_⟩
  constructor
  · intro h'
    exact tier_unique hnd (by simpa [get_eq_getElem] using h') hj
  · rintro rfl
    simpa [get_eq_getElem] using hj

theorem tierOf?_of_not_contains {t : Tiers} {i : PartIndex} (hi : t.contains i = false) :
    t.tierOf? i = none := by
  cases hk : t.tierOf? i with
  | none => rfl
  | some k =>
    have hin : i ∈ t.toList := by
      rw [toList, List.mem_flatten]
      exact ⟨t.lists.get k, by simp [get_eq_getElem, Vector.getElem_mem], mem_of_tierOf? hk⟩
    rw [← contains_iff_mem, hi] at hin
    cases hin

/-- A new part is added whether it is added or promoted. -/
theorem answer_of_new {t : Tiers} {i : PartIndex} {r : Tiers × Option PartIndex}
    (partSize : UInt64) (h : t.add i = .ok r) :
    ∀ q ∈ [TierRequest.add i, .promote i], t.answer partSize q = (.done, r.2.toList, r.1) := by
  have hi : t.contains i = false := by
    cases hc : t.contains i
    · rfl
    · simp [add, hc] at h
  intro q hq
  simp only [List.mem_cons, List.not_mem_nil, or_false] at hq
  rcases hq with rfl | rfl
  · simp [answer, h]
  · simp [answer, promote, tierOf?_of_not_contains hi, h]

/-! ## Parts only climb while room is made -/

/-- Every part of `ls'` stands in `ls` too, in the same tier or a colder one: from `ls` to `ls'`
parts have only climbed. -/
def Climbs (ls ls' : Vector (List PartIndex) 4) : Prop :=
  ∀ j k', j ∈ ls'.get k' → ∃ k, j ∈ ls.get k ∧ k' ≤ k

namespace Climbs

variable {ls ls₁ ls₂ ls₃ : Vector (List PartIndex) 4}

theorem refl (ls : Vector (List PartIndex) 4) : Climbs ls ls := fun _ k' hj => ⟨k', hj, le_rfl⟩

theorem trans (h₁ : Climbs ls₁ ls₂) (h₂ : Climbs ls₂ ls₃) : Climbs ls₁ ls₃ := by
  intro j k₃ hj
  obtain ⟨k₂, hj₂, h₃₂⟩ := h₂ j k₃ hj
  obtain ⟨k₁, hj₁, h₂₁⟩ := h₁ j k₂ hj₂
  exact ⟨k₁, hj₁, h₃₂.trans h₂₁⟩

/-- Taking parts out of one tier moves no other part. -/
theorem of_sublist {k : Fin 4} {l : List PartIndex} (hl : l.Sublist (ls.get k)) :
    Climbs ls (ls.set k l k.isLt) := by
  intro j k' hj
  by_cases hk : k = k'
  · subst hk
    rw [get_set_self] at hj
    exact ⟨k, hl.subset hj, le_rfl⟩
  · rw [get_set_ne _ _ hk] at hj
    exact ⟨k', hj, le_rfl⟩

end Climbs

section Climbing

variable {w : Nat} {ls : Vector (List PartIndex) 4}

/-- The front of tier `k + 1` moving to the back of tier `k` climbs one tier. -/
theorem climbs_shift (k : Fin 3) {x : PartIndex} {rest : List PartIndex}
    (hx : ls.get k.succ = x :: rest) :
    Climbs ls ((ls.set k.succ rest k.succ.isLt).set k.castSucc (ls.get k.castSucc ++ [x])
      k.castSucc.isLt) := by
  intro j k' hj
  by_cases h₁ : k.castSucc = k'
  · subst h₁
    rw [get_set_self, List.mem_append, List.mem_singleton] at hj
    rcases hj with hj | rfl
    · exact ⟨_, hj, le_rfl⟩
    · exact ⟨k.succ, by rw [hx]; exact List.mem_cons_self, Fin.castSucc_lt_succ.le⟩
  · rw [get_set_ne _ _ h₁] at hj
    by_cases h₂ : k.succ = k'
    · subst h₂
      rw [get_set_self] at hj
      exact ⟨k.succ, by rw [hx]; exact List.mem_cons_of_mem _ hj, le_rfl⟩
    · rw [get_set_ne _ _ h₂] at hj
      exact ⟨k', hj, le_rfl⟩

theorem climbs_shiftFrom (ks : List (Fin 3)) : Climbs ls (shiftFrom w ls ks) := by
  induction ks generalizing ls with
  | nil => exact Climbs.refl ls
  | cons k ks ih =>
    unfold shiftFrom
    split
    · split
      · next x rest hx => exact (climbs_shift k hx).trans ih
      · exact ih
    · exact ih

theorem climbs_evictBack : Climbs ls (evictBack ls).1 := by
  unfold evictBack
  split
  · exact Climbs.of_sublist (k := 3) (List.dropLast_sublist _)
  · exact Climbs.refl ls

/-- Making room moves parts only to warmer tiers. -/
theorem climbs_makeRoom : Climbs ls (makeRoom w ls).1 := by
  have hshift : Climbs ls (shiftToRoom w ls) := by
    unfold shiftToRoom
    split
    · exact climbs_shiftFrom _
    · exact Climbs.refl ls
  unfold makeRoom
  split
  · exact Climbs.refl ls
  · dsimp only
    split
    · exact hshift
    · exact hshift.trans climbs_evictBack

end Climbing

variable {t : Tiers} {i : PartIndex} {r : Tiers × Option PartIndex}

/-- Adding a part moves no tracked part to a colder tier. -/
theorem add_climbs (h : t.add i = .ok r) :
    ∀ j k', j ∈ r.1.lists.get k' → j ≠ i → ∃ k, j ∈ t.lists.get k ∧ k' ≤ k := by
  have hi : t.contains i = false := by
    cases hc : t.contains i
    · rfl
    · simp [add, hc] at h
  rw [add_eq_ok t hi] at h
  cases h
  intro j k' hj hji
  have hmr : j ∈ (makeRoom t.width t.lists).1.get k' := by
    by_cases hk : Slab.coldest = k'
    · subst hk
      rw [get_set_self] at hj
      exact (List.mem_cons.mp hj).resolve_left hji
    · rwa [get_set_ne _ _ hk] at hj
  exact climbs_makeRoom j k' hmr

/-! ## Evicting only from full tiers -/

section Full

variable {w : Nat} {ls : Vector (List PartIndex) 4}

theorem evictBack_snd (ls : Vector (List PartIndex) 4) : (evictBack ls).2 = (ls.get 3).getLast? := by
  unfold evictBack
  split
  · next x hx => exact hx.symm
  · next hx => exact hx.symm

/-- With no tier left with room, room is made by evicting the back of the coldest tier. -/
theorem makeRoom_of_full (h : ∀ k, hasRoom w ls k = false) : makeRoom w ls = evictBack ls := by
  have hnone : (List.finRange 3).find? (fun k => hasRoom w ls k.castSucc) = none :=
    List.find?_eq_none.mpr fun k _ => by simp [h]
  have hshift : shiftToRoom w ls = ls := by
    unfold shiftToRoom
    rw [hnone]
  simp only [makeRoom, h 3, hshift]
  rfl

/-- Making room evicts the back of the coldest tier when every tier is full, and nothing while
some tier has room. -/
theorem makeRoom_evicted (hw : 0 < w) (hb : Bounded w ls) :
    (makeRoom w ls).2 = if ∀ k, hasRoom w ls k = false then (ls.get 3).getLast? else none := by
  split
  · next hfull => rw [makeRoom_of_full hfull, evictBack_snd]
  · next hroom =>
    obtain ⟨k, hk⟩ := not_forall.mp hroom
    exact makeRoom_evicts_none hw hb (Bool.not_eq_false _ ▸ hk)

/-- Within the width, a tier has no room exactly when it holds the width. -/
theorem full_iff (hb : Bounded w ls) :
    (∀ k, hasRoom w ls k = false) ↔ ∀ k, (ls.get k).length = w := by
  refine forall_congr' fun k => ?_
  have hle := hb.length_le k
  rw [← Bool.not_eq_true, hasRoom_iff]
  omega

end Full

/-- Within the width, all four tiers are full exactly when they hold four widths of parts. -/
theorem full_iff_count (hb : Bounded t.width t.lists) :
    (∀ k, (t.lists.get k).length = t.width) ↔ t.count = 4 * t.width := by
  rw [count_eq_lengths]
  have h₀ := hb.length_le 0
  have h₁ := hb.length_le 1
  have h₂ := hb.length_le 2
  have h₃ := hb.length_le 3
  constructor
  · intro h
    rw [h 0, h 1, h 2, h 3]
    omega
  · -- each tier holds at most the width, so four widths in all means the width in each
    intro h k
    refine Nat.le_antisymm (hb.length_le k) ?_
    obtain ⟨_ | _ | _ | _ | n, hn⟩ := k
    · change t.width ≤ (t.lists.get 0).length
      omega
    · change t.width ≤ (t.lists.get 1).length
      omega
    · change t.width ≤ (t.lists.get 2).length
      omega
    · change t.width ≤ (t.lists.get 3).length
      omega
    · omega

/-- Adding a new part to tiers within a positive width evicts exactly when all four tiers are
full, and then the back of the coldest tier. -/
theorem add_evicted (hw : 0 < t.width) (hb : Bounded t.width t.lists) (h : t.add i = .ok r) :
    r.2 = if ∀ k, (t.lists.get k).length = t.width then (t.lists.get 3).getLast? else none := by
  have hi : t.contains i = false := by
    cases hc : t.contains i
    · rfl
    · simp [add, hc] at h
  rw [add_eq_ok t hi] at h
  cases h
  rw [makeRoom_evicted hw hb, if_congr (full_iff hb) rfl rfl]

/-- The coldest tier of full tiers has a back part. -/
theorem getLast?_isSome_of_full (hw : 0 < t.width) (h : ∀ k, (t.lists.get k).length = t.width) :
    ((t.lists.get 3).getLast?).isSome := by
  rw [Option.isSome_iff_ne_none, ne_eq, List.getLast?_eq_none_iff, ← List.length_eq_zero_iff, h 3]
  omega

/-! ## Promotion moves one part up and at most one down -/

section Filters

variable {l : List PartIndex} {p : PartIndex → Bool}

theorem filter_erase_of_false {a : PartIndex} (h : p a = false) : (l.erase a).filter p = l.filter p := by
  rw [← List.erase_filter, List.erase_of_not_mem (by simp [h])]

theorem filter_dropLast_of_false {b : PartIndex} (hb : l.getLast? = some b) (h : p b = false) :
    l.dropLast.filter p = l.filter p := by
  obtain ⟨front, rfl⟩ := List.getLast?_eq_some_iff.mp hb
  simp [h]

end Filters

theorem above_of_zero {k : Fin 4} (h : k.val = 0) : above k = k := Fin.ext (by simp [above, h])

theorem above_ne {k : Fin 4} (h : 0 < k.val) : above k ≠ k := fun e => by
  have := congrArg Fin.val e
  simp only [above] at this
  omega

/-- A part at the front of a tier other than the hottest stays there: nothing changes. -/
theorem promote_of_front {k : Fin 4} (hk : t.tierOf? i = some k) (h0 : 0 < k.val)
    (hf : (t.lists.get k).head? = some i) : t.promote i = (t, none) := by
  unfold promote
  rw [hk]
  dsimp only
  rw [if_neg (Nat.pos_iff_ne_zero.mp h0)]
  exact if_pos hf

/-- Promoting a tracked part that is not at the front of a colder tier puts it at the front of
the tier above, and the part it displaces, if any, at the front of its old tier; every other
part keeps its tier and its place among the others. -/
theorem promote_moves (hw : 0 < t.width) {k : Fin 4}
    (hk : t.tierOf? i = some k) (hf : ¬(0 < k.val ∧ (t.lists.get k).head? = some i)) :
    ((t.promote i).1.lists.get (above k)).head? = some i ∧
      (∀ x ∈ t.displaced k, ((t.promote i).1.lists.get k).head? = some x) ∧
      ∀ k', ((t.promote i).1.lists.get k').filter (fun j => j ≠ i ∧ j ∉ t.displaced k) =
        (t.lists.get k').filter (fun j => j ≠ i ∧ j ∉ t.displaced k) := by
  by_cases h0 : k.val = 0
  · -- in the hottest tier the part goes to its own front
    have hd : t.displaced k = none := by simp [displaced, h0]
    have hp : t.promote i =
        ({ t with lists := t.lists.set k (i :: (t.lists.get k).erase i) k.isLt }, none) := by
      unfold promote
      rw [hk]
      exact if_pos h0
    rw [hp, hd, above_of_zero h0]
    refine ⟨by simp, by simp, fun k' => ?_⟩
    by_cases hkk : k = k'
    · subst hkk
      simp only [get_set_self]
      rw [List.filter_cons_of_neg (by simp), filter_erase_of_false (by simp)]
    · simp only [get_set_ne _ _ hkk]
  · have hpos : 0 < k.val := Nat.pos_of_ne_zero h0
    have hne : above k ≠ k := above_ne hpos
    have hfront : ¬(t.lists.get k).head? = some i := fun e => hf ⟨hpos, e⟩
    cases hroom : hasRoom t.width t.lists (above k)
    · -- the tier above is full: the part trades places with its back
      obtain ⟨back, hback⟩ : ∃ back, (t.lists.get (above k)).getLast? = some back := by
        refine Option.isSome_iff_exists.mp ?_
        have hlen : t.width ≤ (t.lists.get (above k)).length :=
          Nat.not_lt.mp fun h => by rw [hasRoom_iff.mpr h] at hroom; cases hroom
        rw [Option.isSome_iff_ne_none, ne_eq, List.getLast?_eq_none_iff, ← List.length_eq_zero_iff]
        omega
      have hd : t.displaced k = some back := by simp [displaced, hpos, hroom, hback]
      have hp : (t.promote i).1.lists =
          let ls := t.lists.set (above k) (t.lists.get (above k)).dropLast (above k).isLt
          let ls := ls.set k (back :: (ls.get k).erase i) k.isLt
          ls.set (above k) (i :: ls.get (above k)) (above k).isLt := by
        unfold promote
        rw [hk]
        dsimp only
        have hfront' : ¬t.lists[k].head? = some i := hfront
        have hroom' : ¬hasRoom t.width t.lists ⟨k.val - 1, by omega⟩ = true := by simp [← hroom]; rfl
        have hback' : t.lists[(⟨k.val - 1, by omega⟩ : Fin 4)].getLast? = some back := hback
        rw [if_neg h0, if_neg hfront', if_neg hroom']
        simp only [hback']
        rfl
      rw [hp, hd]
      dsimp only
      refine ⟨by simp, fun x hx => ?_, fun k' => ?_⟩
      · cases Option.mem_some_iff.mp hx
        rw [get_set_ne _ _ hne, get_set_self]
        rfl
      by_cases h₁ : above k = k'
      · subst h₁
        rw [get_set_self, get_set_ne _ _ hne.symm, get_set_self, List.filter_cons_of_neg (by simp),
          filter_dropLast_of_false hback (by simp)]
      · rw [get_set_ne _ _ h₁]
        by_cases h₂ : k = k'
        · subst h₂
          rw [get_set_self, get_set_ne _ _ hne, List.filter_cons_of_neg (by simp),
            filter_erase_of_false (by simp)]
        · rw [get_set_ne _ _ h₂, get_set_ne _ _ h₁]
    · -- the tier above has room: the part moves to its front
      have hd : t.displaced k = none := by simp [displaced, hroom]
      have hp : (t.promote i).1.lists =
          (t.lists.set k ((t.lists.get k).erase i) k.isLt).set (above k)
            (i :: t.lists.get (above k)) (above k).isLt := by
        unfold promote
        rw [hk]
        dsimp only
        have hfront' : ¬t.lists[k].head? = some i := hfront
        have hroom' : hasRoom t.width t.lists ⟨k.val - 1, by omega⟩ = true := hroom
        rw [if_neg h0, if_neg hfront', if_pos hroom']
        rfl
      rw [hp, hd]
      refine ⟨by simp, by simp, fun k' => ?_⟩
      by_cases h₁ : above k = k'
      · subst h₁
        rw [get_set_self, List.filter_cons_of_neg (by simp)]
      · rw [get_set_ne _ _ h₁]
        by_cases h₂ : k = k'
        · subst h₂
          rw [get_set_self, filter_erase_of_false (by simp)]
        · rw [get_set_ne _ _ h₂]
/-! ## Filling the tiers -/

/-- Each new part added to tiers within a positive width is tracked, and evicts one part exactly
when the tiers hold four widths of parts already. -/
theorem add_count (hw : 0 < t.width) (hb : Bounded t.width t.lists) (h : t.add i = .ok r) :
    r.1.count = t.count + 1 - r.2.toList.length ∧
      r.2.toList.length = if t.count = 4 * t.width then 1 else 0 := by
  obtain ⟨hkeep, hcount, -⟩ := toList_add h
  have hlen : r.1.count + r.2.toList.length = t.count + 1 := by
    rw [hcount, count, hkeep, List.length_append]
    omega
  have hev := add_evicted hw hb h
  rw [if_congr (full_iff_count hb) rfl rfl] at hev
  refine ⟨by omega, ?_⟩
  split
  · next hfull =>
    obtain ⟨b, hb⟩ := Option.isSome_iff_exists.mp
      (getLast?_isSome_of_full hw ((full_iff_count hb).mpr hfull))
    rw [hev, if_pos hfull, hb]
    rfl
  · next hfull => rw [hev, if_neg hfull]; rfl

/-- Adding new parts one after another to tiers within a positive width tracks them up to four
widths of parts, and every add past that evicts exactly one part. -/
theorem run_fill (partSize : UInt64) (hw : 0 < t.width) (hb : Bounded t.width t.lists)
    (is : List PartIndex) (hnd : is.Nodup) (hnew : ∀ i ∈ is, t.contains i = false) :
    (run partSize t (is.map .add)).2.count = min (t.count + is.length) (4 * t.width) ∧
      ((run partSize t (is.map .add)).1.flatMap TierStep.evicted).length =
        t.count + is.length - 4 * t.width := by
  induction is generalizing t with
  | nil =>
    have := count_le hb
    simp only [List.map_nil, run, List.flatMap_nil, List.length_nil, List.length_nil]
    omega
  | cons i is ih =>
    obtain ⟨hi_is, hnd'⟩ := List.nodup_cons.mp hnd
    have hi := hnew i List.mem_cons_self
    obtain ⟨r, hr⟩ : ∃ r, t.add i = .ok r := ⟨_, add_eq_ok t hi⟩
    have hans : t.answer partSize (.add i) = (.done, r.2.toList, r.1) := by simp [answer, hr]
    obtain ⟨hkeep, -, hmem⟩ := toList_add hr
    have hwidth := width_add hr
    -- the parts still to come are new to the tiers after this add
    have hnew' : ∀ j ∈ is, r.1.contains j = false := by
      intro j hj
      rw [Bool.eq_false_iff, ne_eq, contains_iff_mem, hmem]
      rintro (rfl | hj')
      · exact hi_is hj
      · have hin : j ∈ t.toList := by
          rw [hkeep]
          exact List.mem_append_left _ hj'
        rw [← contains_iff_mem, hnew j (List.mem_cons_of_mem _ hj)] at hin
        cases hin
    obtain ⟨ihc, ihe⟩ := ih (hwidth ▸ hw) (hwidth ▸ add_bounded hw hb hr) hnd' hnew'
    obtain ⟨hcount, hev⟩ := add_count hw hb hr
    have hle := count_le hb
    rw [List.map_cons, run_cons, hans]
    simp only [List.flatMap_cons, List.length_append, List.length_cons]
    rw [hwidth] at ihc ihe
    rw [ihc, ihe, hcount, hev]
    split <;> omega

end Tiers

end PartCache
