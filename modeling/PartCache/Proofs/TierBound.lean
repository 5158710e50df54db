import PartCache.Eviction.Script
import Mathlib.Algebra.Order.BigOperators.Group.List
import Mathlib.Algebra.Order.Group.Nat

/-!
# No tier holds more than its width

`Bounded w ls` says that each of the four lists `ls` holds at most `w` parts.  Making room
keeps it and, when `w` is positive, leaves room in the coldest tier (`makeRoom_bounded`), so
adding a part to the front of that tier keeps it too.  Promotion moves a part up only into a
tier with room, or trades it for that tier's back part.  Removal only shortens lists.  So every
request keeps the bound (`answer_bounded`), and every run from a policy within its bound ends
within it, with the same width (`run_bounded`).
-/

set_option autoImplicit false

namespace PartCache

/-! ## Reading and writing one of four tiers -/

section Vectors

variable {α : Type}

theorem get_eq_getElem {n : Nat} (v : Vector α n) (k : Fin n) : v.get k = getElem v k.val k.isLt :=
  rfl

@[simp] theorem get_set_self (v : Vector α 4) (k : Fin 4) (a : α) : (v.set k a k.isLt).get k = a := by
  rw [get_eq_getElem, Vector.getElem_set_self]

theorem get_set_ne (v : Vector α 4) {k j : Fin 4} (a : α) (h : k ≠ j) :
    (v.set k a k.isLt).get j = v.get j := by
  rw [get_eq_getElem, get_eq_getElem, Vector.getElem_set_ne _ _ (Fin.val_ne_of_ne h)]

end Vectors

namespace Tiers

/-- Each of the four tiers holds at most `w` parts. -/
def Bounded (w : Nat) (ls : Vector (List PartIndex) 4) : Prop := ∀ l ∈ ls.toList, l.length ≤ w

section Bounded

variable {w : Nat} {ls : Vector (List PartIndex) 4}

theorem Bounded.length_le (hb : Bounded w ls) (k : Fin 4) : (ls.get k).length ≤ w :=
  hb _ (by simp [get_eq_getElem, Vector.getElem_mem])

theorem hasRoom_iff {k : Fin 4} : hasRoom w ls k = true ↔ (ls.get k).length < w :=
  decide_eq_true_iff

theorem Bounded.set (hb : Bounded w ls) {i : Nat} (hi : i < 4) {l : List PartIndex}
    (hl : l.length ≤ w) : Bounded w (ls.set i l hi) := by
  intro m hm
  rw [Vector.toList_set] at hm
  rcases List.mem_or_eq_of_mem_set hm with hm | rfl
  · exact hb m hm
  · exact hl

/-- A tier with room takes one more part. -/
theorem Bounded.set_cons (hb : Bounded w ls) {i : Nat} (hi : i < 4) {l : List PartIndex}
    (x : PartIndex) (hl : l.length < w) : Bounded w (ls.set i (x :: l) hi) :=
  hb.set hi (by rw [List.length_cons]; omega)

theorem Bounded.push (hb : Bounded w ls) (k : Fin 4) (x : PartIndex)
    (hroom : hasRoom w ls k = true) : Bounded w (ls.set k (x :: ls.get k) k.isLt) :=
  hb.set_cons k.isLt x (hasRoom_iff.mp hroom)

/-- The front of tier `k + 1` moving to the back of tier `k`, when tier `k` has room. -/
theorem Bounded.shift (hb : Bounded w ls) (k : Fin 3) (hk : hasRoom w ls k.castSucc = true)
    {x : PartIndex} {rest : List PartIndex} (hx : ls.get k.succ = x :: rest) :
    Bounded w ((ls.set k.succ rest k.succ.isLt).set k.castSucc (ls.get k.castSucc ++ [x])
      k.castSucc.isLt) := by
  have hrest : rest.length ≤ w := by
    have := hb.length_le k.succ
    rw [hx, List.length_cons] at this
    omega
  have hroom := hasRoom_iff.mp hk
  exact (hb.set _ hrest).set _ (by rw [List.length_append, List.length_singleton]; omega)

theorem hasRoom_set {i : Nat} (hi : i < 4) (l : List PartIndex) (k : Fin 4) :
    hasRoom w (ls.set i l hi) k = if i = k.val then decide (l.length < w) else hasRoom w ls k := by
  simp only [hasRoom, Fin.getElem_fin, Vector.getElem_set]
  split <;> rfl

end Bounded

/-! ## Making room -/

section MakeRoom

variable {w : Nat} {ls : Vector (List PartIndex) 4}

theorem shiftFrom_bounded (hb : Bounded w ls) (ks : List (Fin 3)) :
    Bounded w (shiftFrom w ls ks) := by
  induction ks generalizing ls with
  | nil => exact hb
  | cons k ks ih =>
    unfold shiftFrom
    split
    · next hk =>
      split
      · next x rest hx => exact ih (hb.shift k hk hx)
      · exact ih hb
    · exact ih hb

theorem shiftToRoom_bounded (hb : Bounded w ls) : Bounded w (shiftToRoom w ls) := by
  unfold shiftToRoom
  split
  · exact shiftFrom_bounded hb _
  · exact hb

/-- Evicting from a full coldest tier leaves it with room. -/
theorem evictBack_bounded (hw : 0 < w) (hb : Bounded w ls) (hfull : hasRoom w ls 3 = false) :
    Bounded w (evictBack ls).1 ∧ hasRoom w (evictBack ls).1 3 = true := by
  have hlen : ls[(3 : Fin 4)].length = w := by
    have : ls[(3 : Fin 4)].length ≤ w := hb.length_le 3
    simp only [hasRoom, decide_eq_false_iff_not, Nat.not_lt] at hfull
    omega
  unfold evictBack
  split
  · next x hx =>
    have hdrop : ls[(3 : Fin 4)].dropLast.length < w := by
      rw [List.length_dropLast]
      omega
    refine ⟨hb.set (by decide) (Nat.le_of_lt hdrop), ?_⟩
    rw [hasRoom_set]
    exact decide_eq_true hdrop
  · next hx =>
    rw [List.getLast?_eq_none_iff] at hx
    rw [hx, List.length_nil] at hlen
    omega

/-- Making room keeps every tier within the width and, for a positive width, leaves room in
the coldest tier. -/
theorem makeRoom_bounded (hw : 0 < w) (hb : Bounded w ls) :
    Bounded w (makeRoom w ls).1 ∧ hasRoom w (makeRoom w ls).1 3 = true := by
  unfold makeRoom
  split
  · next hroom => exact ⟨hb, hroom⟩
  · dsimp only
    split
    · next hroom => exact ⟨shiftToRoom_bounded hb, hroom⟩
    · next hfull =>
      exact evictBack_bounded hw (shiftToRoom_bounded hb) (Bool.eq_false_iff.mpr hfull)

end MakeRoom

/-! ## The operations -/

section Operations

variable {t : Tiers}

theorem mem_of_tierOf? {i : PartIndex} {k : Fin 4} (h : t.tierOf? i = some k) :
    i ∈ t.lists.get k := by
  have hc := List.find?_some h
  show i ∈ t.lists[k]
  simpa using hc

theorem add_bounded (hw : 0 < t.width) (hb : Bounded t.width t.lists) {i : PartIndex}
    {r : Tiers × Option PartIndex} (hr : t.add i = .ok r) : Bounded t.width r.1.lists := by
  unfold add at hr
  split at hr
  · exact absurd hr (by simp)
  · obtain ⟨hb', hroom⟩ := makeRoom_bounded hw hb
    cases hr
    exact hb'.push 3 i hroom

theorem width_add {i : PartIndex} {r : Tiers × Option PartIndex} (hr : t.add i = .ok r) :
    r.1.width = t.width := by
  unfold add at hr
  split at hr
  · exact absurd hr (by simp)
  · cases hr
    rfl

/-- Promoting never changes the width. -/
theorem width_promote (i : PartIndex) : (t.promote i).1.width = t.width := by
  unfold promote
  split
  · split
    · next r hr => exact width_add hr
    · rfl
  · dsimp only
    repeat' split
    all_goals rfl

theorem promote_bounded (hw : 0 < t.width) (hb : Bounded t.width t.lists) (i : PartIndex) :
    Bounded t.width (t.promote i).1.lists := by
  unfold promote
  split
  · split
    · next r hr => exact add_bounded hw hb hr
    · exact hb
  · next k hk =>
    have hi : i ∈ t.lists[k] := mem_of_tierOf? hk
    have hpos := List.length_pos_of_mem hi
    have herase : (t.lists[k].erase i).length + 1 = t.lists[k].length := by
      rw [List.length_erase_of_mem hi]
      omega
    dsimp only
    split
    · -- in the hottest tier the part moves to the front
      exact hb.set k.isLt (by rw [List.length_cons, herase]; exact hb.length_le k)
    · next hk0 =>
      have hne : k.val - 1 ≠ k.val := by omega
      have hk : t.lists[k].length ≤ t.width := hb.length_le k
      split
      · exact hb
      · split
        · next hroom =>
          refine (hb.set k.isLt ?_).set_cons (by omega) i (by simpa [hasRoom] using hroom)
          omega
        · split
          · -- the part trades places with the back of the full tier above
            next back hback =>
            have hu : t.lists[(⟨k.val - 1, by omega⟩ : Fin 4)].length ≤ t.width :=
              hb.length_le _
            obtain ⟨front, hsplit⟩ := List.getLast?_eq_some_iff.mp hback
            have hlen : (t.lists[(⟨k.val - 1, by omega⟩ : Fin 4)].dropLast).length + 1 =
                t.lists[(⟨k.val - 1, by omega⟩ : Fin 4)].length := by
              rw [List.length_dropLast, hsplit, List.length_append, List.length_singleton]
              omega
            have hdrop : (t.lists[(⟨k.val - 1, by omega⟩ : Fin 4)].dropLast).length ≤ t.width := by
              omega
            simp only [Fin.getElem_fin] at herase hk hu hlen
            refine ((hb.set (by omega) hdrop).set k.isLt ?_).set (by omega) ?_
            · simp only [Fin.getElem_fin, List.length_cons, Vector.getElem_set_ne _ _ hne]
              omega
            · simp only [Fin.getElem_fin, List.length_cons,
                Vector.getElem_set_ne _ _ (Ne.symm hne), Vector.getElem_set_self]
              omega
          · exact hb

theorem remove_bounded (hb : Bounded t.width t.lists) (i : PartIndex) :
    Bounded t.width (t.remove i).2.lists := by
  unfold remove
  split
  · exact hb
  · next k _ =>
    exact hb.set k.isLt (Nat.le_trans List.length_erase_le (hb.length_le k))

theorem removeObject_bounded (hb : Bounded t.width t.lists) (id : ObjectId) :
    Bounded t.width (t.removeObject id).2.lists := by
  intro l hl
  simp only [removeObject, Vector.toList_map, List.mem_map] at hl
  obtain ⟨l₀, hl₀, rfl⟩ := hl
  exact Nat.le_trans (List.length_filter_le _ _) (hb l₀ hl₀)

/-- No request changes the width. -/
@[simp] theorem width_answer (partSize : UInt64) (r : TierRequest) :
    (t.answer partSize r).2.2.width = t.width := by
  cases r with
  | add i =>
    simp only [answer]
    split
    · next r hr => exact width_add hr
    · rfl
  | promote i =>
    simp only [answer]
    exact width_promote i
  | remove i =>
    simp only [answer, remove]
    split <;> rfl
  | lookup i | contains i | shouldKeep i | tierOf i | removeObject id | stats | consumedSize | width =>
    rfl

/-- Every request keeps the tiers within a positive width. -/
theorem answer_bounded (hw : 0 < t.width) (hb : Bounded t.width t.lists) (partSize : UInt64)
    (r : TierRequest) : Bounded t.width (t.answer partSize r).2.2.lists := by
  cases r with
  | add i =>
    simp only [answer]
    split
    · next r hr => exact add_bounded hw hb hr
    · exact hb
  | promote i => exact promote_bounded hw hb i
  | remove i => exact remove_bounded hb i
  | removeObject id => exact removeObject_bounded hb id
  | lookup i | contains i | shouldKeep i | tierOf i | stats | consumedSize | width => exact hb

/-- At most four tiers' worth of parts are tracked. -/
theorem count_le (hb : Bounded t.width t.lists) : t.count ≤ 4 * t.width := by
  have hsum := List.sum_le_card_nsmul (t.lists.toList.map List.length) t.width (by
    intro n hn
    obtain ⟨l, hl, rfl⟩ := List.mem_map.mp hn
    exact hb l hl)
  rw [List.length_map, Vector.length_toList, Nat.nsmul_eq_mul] at hsum
  rwa [count, toList, List.length_flatten]

end Operations

/-! ## Runs -/

theorem run_cons (partSize : UInt64) (t : Tiers) (r : TierRequest) (rs : List TierRequest) :
    run partSize t (r :: rs) =
      (⟨(t.answer partSize r).1, (t.answer partSize r).2.1, (t.answer partSize r).2.2.lengths⟩ ::
          (run partSize (t.answer partSize r).2.2 rs).1,
        (run partSize (t.answer partSize r).2.2 rs).2) := rfl

/-- A run keeps the width, and keeps the tiers within it when it is positive. -/
theorem run_bounded {t : Tiers} (hw : 0 < t.width) (hb : Bounded t.width t.lists)
    (partSize : UInt64) (rs : List TierRequest) :
    (run partSize t rs).2.width = t.width ∧ Bounded t.width (run partSize t rs).2.lists := by
  induction rs generalizing t with
  | nil => exact ⟨rfl, hb⟩
  | cons r rs ih =>
    -- the policy after the first request carries the induction, with the same width
    have hwidth := width_answer (t := t) partSize r
    have hb' := answer_bounded hw hb partSize r
    rw [← hwidth] at hw hb'
    obtain ⟨hw', hb''⟩ := ih hw hb'
    rw [run_cons]
    exact ⟨hw'.trans hwidth, hwidth ▸ hb''⟩

theorem empty_bounded (capacity : Nat) :
    0 < (empty capacity).width ∧ Bounded (empty capacity).width (empty capacity).lists := by
  refine ⟨Nat.lt_of_lt_of_le Nat.zero_lt_one (Nat.le_max_left _ _), ?_⟩
  intro l hl
  simp [empty] at hl
  simp [hl]

end Tiers

end PartCache
