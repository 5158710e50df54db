import PartCache.Proofs.TierBound
import Mathlib.Tactic.Tauto
import Mathlib.Data.Fin.Basic

/-!
# Which parts the tiers track

The tracked parts are the four tiers read one after the other (`mem_toList_iff_tiers`,
`count_eq_lengths`).  Making room moves parts between tiers and evicts at most the part read
last (`makeRoom_flatten`), so adding a part tracks it and keeps every tracked part but the
evicted one (`toList_add`).  Promoting a tracked part moves it, and perhaps the back of the tier
above, between tiers: it evicts nothing and tracks the same parts (`promote_of_contains`).  A
lookup changes only the counts.
-/

set_option autoImplicit false

namespace PartCache

namespace Tiers

theorem flatten_four {α : Type} (ls : Vector (List α) 4) :
    ls.toList.flatten = ls.get 0 ++ (ls.get 1 ++ (ls.get 2 ++ ls.get 3)) := by
  obtain ⟨⟨l⟩, hl⟩ := ls
  match l, hl with
  | [a, b, c, d], _ => simp [get_eq_getElem]

theorem mem_flatten_four {α : Type} (ls : Vector (List α) 4) (j : α) :
    j ∈ ls.toList.flatten ↔ j ∈ ls.get 0 ∨ j ∈ ls.get 1 ∨ j ∈ ls.get 2 ∨ j ∈ ls.get 3 := by
  simp [flatten_four]

/-- A part is tracked exactly when one of the four tiers holds it. -/
theorem mem_toList_iff_tiers (t : Tiers) (j : PartIndex) :
    j ∈ t.toList ↔ j ∈ t.lists.get 0 ∨ j ∈ t.lists.get 1 ∨ j ∈ t.lists.get 2 ∨ j ∈ t.lists.get 3 :=
  mem_flatten_four t.lists j

/-- The tracked parts counted tier by tier. -/
theorem count_eq_lengths (t : Tiers) :
    t.count = (t.lists.get 0).length + (t.lists.get 1).length + (t.lists.get 2).length +
      (t.lists.get 3).length := by
  simp only [count, toList, flatten_four, List.length_append]
  omega

/-- Room is made by moving parts between tiers, evicting at most the part read last. -/
theorem makeRoom_flatten (w : Nat) (ls : Vector (List PartIndex) 4) :
    ls.toList.flatten = (makeRoom w ls).1.toList.flatten ++ (makeRoom w ls).2.toList := by
  have hshift : (shiftToRoom w ls).toList.flatten = ls.toList.flatten := by
    unfold shiftToRoom
    split
    · exact toList_shiftFrom w ls _
    · rfl
  unfold makeRoom
  split
  · simp
  · dsimp only
    split
    · simp [hshift]
    · unfold evictBack
      split
      · -- the back of the coldest tier is evicted
        next x hx =>
        rw [← hshift, flatten_four, flatten_four]
        simp only [get_eq_getElem, Fin.isValue, Fin.coe_ofNat_eq_mod, Nat.reduceMod]
        obtain ⟨front, hsplit⟩ := List.getLast?_eq_some_iff.mp hx
        have hs3 : (shiftToRoom w ls)[3] = front ++ [x] := hsplit
        simp [hs3]
      · simp [hshift]

variable {t : Tiers}

theorem contains_iff_mem {i : PartIndex} : t.contains i = true ↔ i ∈ t.toList := by
  simp [contains]

@[simp] theorem toList_lookup (i : PartIndex) : (t.lookup i).2.toList = t.toList := rfl

/-- Adding puts the part in, and keeps every tracked part but the evicted one. -/
theorem toList_add {i : PartIndex} {r : Tiers × Option PartIndex} (h : t.add i = .ok r) :
    t.toList = (makeRoom t.width t.lists).1.toList.flatten ++ r.2.toList ∧
      r.1.count = (makeRoom t.width t.lists).1.toList.flatten.length + 1 ∧
      ∀ j, j ∈ r.1.toList ↔ j = i ∨ j ∈ (makeRoom t.width t.lists).1.toList.flatten := by
  unfold add at h
  split at h
  · cases h
  · have hflat := makeRoom_flatten t.width t.lists
    generalize makeRoom t.width t.lists = m at h hflat ⊢
    obtain ⟨ls, ev⟩ := m
    cases h
    refine ⟨hflat, ?_, fun j => ?_⟩
    · simp only [count, toList, flatten_four, get_eq_getElem, Fin.isValue, Fin.coe_ofNat_eq_mod, Nat.reduceMod]
      simp
      omega
    · simp only [toList, mem_flatten_four, get_eq_getElem, Fin.isValue, Fin.coe_ofNat_eq_mod, Nat.reduceMod]
      simp
      tauto

theorem tierOf?_isSome {i : PartIndex} (h : t.contains i = true) : (t.tierOf? i).isSome := by
  rw [contains_iff_mem, mem_toList_iff_tiers] at h
  simp only [get_eq_getElem, Fin.isValue, Fin.coe_ofNat_eq_mod, Nat.reduceMod] at h
  unfold tierOf?
  rw [List.find?_isSome]
  rcases h with h | h | h | h
  · exact ⟨0, List.mem_finRange _, by simpa using h⟩
  · exact ⟨1, List.mem_finRange _, by simpa using h⟩
  · exact ⟨2, List.mem_finRange _, by simpa using h⟩
  · exact ⟨3, List.mem_finRange _, by simp; exact h⟩

theorem mem_cons_erase {l : List PartIndex} {i j : PartIndex} (hi : i ∈ l) :
    (j = i ∨ j ∈ l.erase i) ↔ j ∈ l := by
  by_cases hji : j = i
  · subst hji; simp [hi]
  · simp [hji, List.mem_erase_of_ne hji]

theorem mem_of_getLast? {l : List PartIndex} {back j : PartIndex} (h : l.getLast? = some back) :
    j ∈ l ↔ j ∈ l.dropLast ∨ j = back := by
  obtain ⟨front, rfl⟩ := List.getLast?_eq_some_iff.mp h
  simp

/-- Promoting a tracked part evicts nothing, keeps the count and tracks the same parts. -/
theorem promote_of_contains {i : PartIndex} (h : t.contains i = true) :
    (t.promote i).2 = none ∧ (t.promote i).1.count = t.count ∧
      ∀ j, j ∈ (t.promote i).1.toList ↔ j ∈ t.toList := by
  suffices H : ∀ r, t.promote i = r →
      r.2 = none ∧ r.1.count = t.count ∧ ∀ j, j ∈ r.1.toList ↔ j ∈ t.toList from H _ rfl
  intro r hr
  unfold promote at hr
  split at hr
  · next hk => exact absurd (tierOf?_isSome h) (by simp [hk])
  · next k hk =>
    have hi : i ∈ t.lists[k] := mem_of_tierOf? hk
    have hlen := List.length_erase_of_mem hi
    have hpos := List.length_pos_of_mem hi
    -- one case per tier the part is in
    obtain ⟨_ | _ | _ | _ | k, hk4⟩ := k
    · -- the hottest tier: the part goes to its front
      subst hr
      simp only [Fin.getElem_fin] at hi hlen hpos
      refine ⟨rfl, ?_, fun j => ?_⟩
      · simp only [count_eq_lengths, get_eq_getElem]
        simp [hlen]
        omega
      · simp only [mem_toList_iff_tiers, get_eq_getElem]
        simp [mem_cons_erase hi]
    rotate_left 3
    · omega
    all_goals
      simp only [Fin.getElem_fin, Nat.reduceAdd] at hi hlen hpos
      simp only [Nat.add_one_ne_zero, if_false] at hr
      split at hr
      · subst hr; exact ⟨rfl, rfl, fun _ => Iff.rfl⟩
      split at hr
      · -- the part moves to the front of the tier above
        subst hr
        refine ⟨rfl, ?_, fun j => ?_⟩
        · simp only [count_eq_lengths, get_eq_getElem]
          simp [hlen]
          omega
        have he := mem_cons_erase (j := j) hi
        simp only [mem_toList_iff_tiers, get_eq_getElem]
        simp at he ⊢
        grind
      split at hr
      · -- the part trades places with the back of the tier above
        next back hback =>
        subst hr
        have hback_pos := List.length_pos_of_mem (List.mem_of_getLast? hback)
        simp only [Fin.getElem_fin, Nat.reduceAdd, Nat.reduceSub] at hback_pos
        refine ⟨rfl, ?_, fun j => ?_⟩
        · simp only [count_eq_lengths, get_eq_getElem]
          simp [hlen]
          omega
        have he := mem_cons_erase (j := j) hi
        have hb := mem_of_getLast? (j := j) hback
        simp only [mem_toList_iff_tiers, get_eq_getElem]
        simp at he hb ⊢
        grind
      · subst hr; exact ⟨rfl, rfl, fun _ => Iff.rfl⟩

/-! ## Adding while there is room -/

section Room

variable {w : Nat} {ls : Vector (List PartIndex) 4}

/-- A tier with room takes the front of the tier below it, which is then left with room. -/
theorem shiftFrom_cons (hw : 0 < w) (hb : Bounded w ls) {k : Fin 3}
    (hk : hasRoom w ls k.castSucc = true) (ks : List (Fin 3)) :
    ∃ ls', shiftFrom w ls (k :: ks) = shiftFrom w ls' ks ∧ Bounded w ls' ∧
      hasRoom w ls' k.succ = true := by
  rw [shiftFrom, if_pos hk]
  split
  · next x rest hx =>
    have hx' : ls.get k.succ = x :: rest := hx
    refine ⟨_, rfl, hb.shift k hk hx', ?_⟩
    have hne : k.castSucc ≠ k.succ := Fin.ne_of_val_ne (by simp)
    have hlen := hb.length_le k.succ
    rw [hx', List.length_cons] at hlen
    rw [hasRoom_iff, get_set_ne _ _ hne, get_set_self]
    omega
  · next hx =>
    refine ⟨ls, rfl, hb, ?_⟩
    simpa [hasRoom, hx] using hw

/-- The shift from a tier with room down to tier `2` leaves room in the coldest tier: each
tier it visits hands its room down to the next. -/
theorem hasRoom_shiftFrom_tiersFrom (hw : 0 < w) (hb : Bounded w ls) {k : Fin 3}
    (hk : hasRoom w ls k.castSucc = true) : hasRoom w (shiftFrom w ls (tiersFrom k)) 3 = true := by
  obtain ⟨_ | _ | _ | k, hk3⟩ := k
  · obtain ⟨l₁, e₁, hb₁, h₁⟩ := shiftFrom_cons hw hb hk [1, 2]
    obtain ⟨l₂, e₂, hb₂, h₂⟩ := shiftFrom_cons (k := 1) hw hb₁ h₁ [2]
    obtain ⟨l₃, e₃, -, h₃⟩ := shiftFrom_cons (k := 2) hw hb₂ h₂ []
    rw [show tiersFrom ⟨0, hk3⟩ = ⟨0, hk3⟩ :: [1, 2] from rfl, e₁, e₂, e₃]
    exact h₃
  · obtain ⟨l₂, e₂, hb₂, h₂⟩ := shiftFrom_cons hw hb hk [2]
    obtain ⟨l₃, e₃, -, h₃⟩ := shiftFrom_cons (k := 2) hw hb₂ h₂ []
    rw [show tiersFrom ⟨1, hk3⟩ = ⟨1, hk3⟩ :: [2] from rfl, e₂, e₃]
    exact h₃
  · obtain ⟨l₃, e₃, -, h₃⟩ := shiftFrom_cons hw hb hk []
    rw [show tiersFrom ⟨2, hk3⟩ = [⟨2, hk3⟩] from rfl, e₃]
    exact h₃
  · omega

theorem hasRoom_shiftToRoom (hw : 0 < w) (hb : Bounded w ls) {k : Fin 3}
    (hk : hasRoom w ls k.castSucc = true) : hasRoom w (shiftToRoom w ls) 3 = true := by
  unfold shiftToRoom
  split
  · next j hj => exact hasRoom_shiftFrom_tiersFrom hw hb (by simpa using List.find?_some hj)
  · next hnone => exact absurd (List.find?_eq_none.mp hnone k (List.mem_finRange k)) (by simp [hk])

/-- While some tier has room, making room evicts nothing. -/
theorem makeRoom_evicts_none (hw : 0 < w) (hb : Bounded w ls) {k : Fin 4}
    (hk : hasRoom w ls k = true) : (makeRoom w ls).2 = none := by
  unfold makeRoom
  split
  · rfl
  · next h3 =>
    -- the tier with room is above the coldest, so the shift reaches it
    have hk3 : k.val < 3 := by
      rcases Nat.lt_or_ge k.val 3 with h | h
      · exact h
      · have : k = 3 := Fin.ext (by omega)
        subst this
        exact absurd hk h3
    have hroom := hasRoom_shiftToRoom hw hb (k := ⟨k.val, hk3⟩) hk
    simp [hroom]

end Room

/-- Fewer parts than the four tiers hold leave some tier with room. -/
theorem exists_hasRoom (hc : t.count < 4 * t.width) : ∃ k, hasRoom t.width t.lists k = true := by
  rw [count_eq_lengths] at hc
  simp only [get_eq_getElem, Fin.isValue, Fin.coe_ofNat_eq_mod, Nat.reduceMod] at hc
  by_cases h0 : t.lists[0].length < t.width
  · exact ⟨0, by simpa [hasRoom] using h0⟩
  by_cases h1 : t.lists[1].length < t.width
  · exact ⟨1, by simpa [hasRoom] using h1⟩
  by_cases h2 : t.lists[2].length < t.width
  · exact ⟨2, by simpa [hasRoom] using h2⟩
  have h3 : ((3 : Fin 4) : Nat) = 3 := rfl
  exact ⟨3, by simp only [hasRoom, Fin.getElem_fin, h3, decide_eq_true_eq]; omega⟩

/-- The tiers have room for `k` more parts: their width is positive, no tier is over it, and
`k` more parts would not exceed the four tiers. -/
structure Spare (k : Nat) (t : Tiers) : Prop where
  width_pos : 0 < t.width
  bounded : Bounded t.width t.lists
  count_le : t.count + k ≤ 4 * t.width

theorem Spare.mono {k k' : Nat} (hs : Spare k t) (h : k' ≤ k) : Spare k' t :=
  ⟨hs.width_pos, hs.bounded, by have := hs.count_le; omega⟩

/-- Adding a part to tiers with spare room evicts nothing, uses up one place, and keeps every
tracked part. -/
theorem Spare.add {k : Nat} (hs : Spare (k + 1) t) {i : PartIndex} {r : Tiers × Option PartIndex}
    (h : t.add i = .ok r) :
    r.2 = none ∧ Spare k r.1 ∧ ∀ j, j ∈ r.1.toList ↔ j = i ∨ j ∈ t.toList := by
  obtain ⟨kroom, hroom⟩ := exists_hasRoom (t := t) (by have := hs.count_le; omega)
  have hnone := makeRoom_evicts_none hs.width_pos hs.bounded hroom
  obtain ⟨hkeep, hcount, hmem⟩ := toList_add h
  have hev : r.2 = none := by
    unfold Tiers.add at h
    split at h
    · cases h
    · cases h
      exact hnone
  rw [hev, Option.toList_none, List.append_nil] at hkeep
  have hwidth := width_add h
  refine ⟨hev, ⟨hwidth ▸ hs.width_pos, hwidth ▸ add_bounded hs.width_pos hs.bounded h, ?_⟩, fun j => ?_⟩
  · have ht : t.count = (makeRoom t.width t.lists).1.toList.flatten.length := by
      rw [count, hkeep]
    have := hs.count_le
    rw [hwidth, hcount]
    omega
  · rw [hmem, ← hkeep]

theorem Spare.promote {k : Nat} (hs : Spare k t) {i : PartIndex} (h : t.contains i = true) :
    Spare k (t.promote i).1 := by
  obtain ⟨-, hcount, -⟩ := promote_of_contains h
  have hwidth := width_promote (t := t) i
  exact ⟨hwidth ▸ hs.width_pos, hwidth ▸ promote_bounded hs.width_pos hs.bounded i,
    by rw [hcount, hwidth]; exact hs.count_le⟩

theorem Spare.lookup {k : Nat} (hs : Spare k t) (i : PartIndex) : Spare k (t.lookup i).2 :=
  ⟨hs.width_pos, hs.bounded, hs.count_le⟩

end Tiers

end PartCache
