/-!
# Tables of keyed entries

The stored policy's table of slots and the coordinator's table of downloads are both lists of
entries keyed by part, where writing an entry first drops the key's old one, and erasing a key
drops its entry.  Read back, a key written or erased answers as written or nothing, and the other
keys as before (`lookup_cons_filter_ne`, `lookup_filter_ne`).  Writing and erasing keep the keys
distinct, and a table whose keys are distinct holds what a key's entry holds once, beside the rest
(`count_flatten_values`).
-/

set_option autoImplicit false

namespace PartCache.KeyedTable

variable {α β : Type} [DecidableEq α]

theorem lookup_filter_ne (l : List (α × β)) (i j : α) :
    (l.filter (·.1 != i)).lookup j = if j = i then none else l.lookup j := by
  induction l with
  | nil => simp
  | cons e l ih =>
    obtain ⟨a, y⟩ := e
    by_cases hai : a = i
    · subst hai
      rw [List.filter_cons_of_neg (by simp), ih]
      by_cases hja : j = a
      · simp [hja]
      · simp [hja, List.lookup_cons, beq_false_of_ne hja]
    · rw [List.filter_cons_of_pos (by simpa using hai)]
      by_cases hja : j = a
      · subst hja
        simp [hai]
      · simp [List.lookup_cons, beq_false_of_ne hja, ih]

theorem lookup_cons_filter_ne (l : List (α × β)) (i j : α) (v : β) :
    ((i, v) :: l.filter (·.1 != i)).lookup j = if j = i then some v else l.lookup j := by
  by_cases hji : j = i
  · subst hji
    simp
  · simp [List.lookup_cons, beq_false_of_ne hji, hji, lookup_filter_ne]

/-- Erasing a key that has no entry changes nothing. -/
theorem filter_ne_of_lookup_eq_none {l : List (α × β)} {i : α} (h : l.lookup i = none) :
    l.filter (·.1 != i) = l := by
  induction l with
  | nil => rfl
  | cons e l ih =>
    obtain ⟨a, y⟩ := e
    have hai : a ≠ i := fun e => by simp [e] at h
    have hl : l.lookup i = none := by
      simpa [List.lookup_cons, beq_false_of_ne (Ne.symm hai)] using h
    rw [List.filter_cons_of_pos (by simpa using hai), ih hl]

omit [DecidableEq α] in
theorem nodup_keys_filter {l : List (α × β)} (h : (l.map (·.1)).Nodup) (p : α × β → Bool) :
    ((l.filter p).map (·.1)).Nodup :=
  h.sublist (List.filter_sublist.map _)

theorem nodup_keys_cons_filter_ne {l : List (α × β)} (h : (l.map (·.1)).Nodup) (i : α) (v : β) :
    (((i, v) :: l.filter (·.1 != i)).map (·.1)).Nodup := by
  refine List.nodup_cons.mpr ⟨?_, nodup_keys_filter h _⟩
  simp

/-- With distinct keys, the entry of key `i` is one entry among the others. -/
theorem count_flatten_values {γ : Type} [BEq γ] {l : List (α × List γ)} (h : (l.map (·.1)).Nodup)
    {i : α} {v : List γ} (hi : l.lookup i = some v) (a : γ) :
    ((l.map (·.2)).flatten).count a =
      v.count a + (((l.filter (·.1 != i)).map (·.2)).flatten).count a := by
  induction l with
  | nil => simp at hi
  | cons e l ih =>
    obtain ⟨k, w⟩ := e
    have hk : k ∉ l.map (·.1) := (List.nodup_cons.mp h).1
    by_cases hki : k = i
    · -- the first entry is the key's; the others are not erased
      subst hki
      have hw : w = v := by simpa using hi
      have hl : l.lookup k = none := by
        cases hl : l.lookup k with
        | none => rfl
        | some u =>
          obtain ⟨l₁, l₂, e, -⟩ := List.lookup_eq_some_iff.mp hl
          exact absurd (by rw [e]; simp) hk
      rw [List.filter_cons_of_neg (by simp), filter_ne_of_lookup_eq_none hl, hw]
      simp [List.count_append]
    · have hl : l.lookup i = some v := by
        simpa [List.lookup_cons, beq_false_of_ne (Ne.symm hki)] using hi
      rw [List.filter_cons_of_pos (by simpa using hki)]
      simp only [List.map_cons, List.flatten_cons, List.count_append]
      rw [ih (List.nodup_cons.mp h).2 hl]
      omega

end PartCache.KeyedTable
