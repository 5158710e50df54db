import PartCache.Zone.Drain
import PartCache.Proofs.SlabAccounting
import PartCache.Proofs.ObjectPaths

/-!
# Tracked parts and their files

The drain deletes the file at an evicted part's path only when the policy does not track the
part, and checks again after deleting, so that a promotion that came in between is undone.  Both
checks look at the policy, not at the reads and flushes in flight, and not at the other parts
stored at the same path: a read that opened the file before the deletion, or a flush that found
it, still promotes or adds its part afterwards, and a part tracked at the evicted part's path
loses its file with it.

Every world reached while callers ask only for parts that satisfy `asked` holds only such parts
(`Within`).  When those parts have paths of their own (`PathsApart`) and no deletion has raced a
read or a flush, every world keeps a second invariant (`Fine`), from which
`reachable_tracks_files`: every part the policy tracks has its file, but the one the drain has
just deleted and is about to check again.  Each condition is needed.  A read that opens the file
before the deletion and promotes the part after the second check leaves the policy tracking a
part whose file is gone (`read_beside_drain_strands_part`); so does a part that shares its path
with an evicted one, with no race at all (`shared_path_strands_part`).
-/

namespace PartCache

set_option autoImplicit false

namespace Drain

open Layout

variable {W : World} {asked : PartIndex → Prop}

/-! ## Requests to the policy -/

@[simp] theorem World.ask_policy (W : World) (r : TierRequest) :
    (W.ask r).2.policy = (W.policy.answer 0 r).2.2 := rfl

@[simp] theorem World.ask_evicted (W : World) (r : TierRequest) :
    (W.ask r).2.evicted = W.evicted ++ (W.policy.answer 0 r).2.1 := rfl

/-- After a request the policy tracks only parts it tracked before or the request adds, and
none the request removes. -/
theorem World.contains_ask (hW : W.policy.WellFormed) (r : TierRequest) {j : PartIndex}
    (h : (W.ask r).2.policy.contains j = true) :
    (W.policy.contains j = true ∨ r.adds j = true) ∧ r.removes j = false := by
  rw [World.ask_policy, hW.contains_answer] at h
  simp only [Bool.and_eq_true, Bool.or_eq_true, Bool.not_eq_true'] at h
  exact ⟨h.1.1, h.2⟩

/-- Adding a saved part: the flush ends, or, the part being tracked, promotes it next. -/
theorem World.stepWrite_saved (W : World) (i : PartIndex) :
    ∃ ws, W.stepWrite (.saved i) = { (W.ask (.add i)).2 with writes := ws } ∧
      ∀ w ∈ ws, w = .refused i ∨ w ∈ W.writes.erase (.saved i) := by
  dsimp only [World.stepWrite]
  split
  · rename_i W' heq
    refine ⟨.refused i :: W.writes.erase (.saved i), by rw [heq], fun w h => ?_⟩
    exact List.mem_cons.mp h
  · rename_i W' _ heq
    exact ⟨W.writes.erase (.saved i), by rw [heq], fun w h => .inr h⟩

/-! ## The parts a world holds -/

/-- The part a read works on. -/
def Read.part : Read → PartIndex
  | .started i | .looked i | .opened i => i

/-- The part a flush works on. -/
def Write.part : Write → PartIndex
  | .started i | .saved i | .refused i => i

/-- Every part the world holds satisfies `asked`: those the policy tracks, the evicted ones, the
drain's, and those of the reads and flushes in flight; and the policy is well-formed. -/
structure Within (asked : PartIndex → Prop) (W : World) : Prop where
  wellFormed : W.policy.WellFormed
  tracked : ∀ i, W.policy.contains i = true → asked i
  evicted : ∀ i ∈ W.evicted, asked i
  drain : ∀ i, W.drain = .checked i ∨ W.drain = .unlinked i → asked i
  reads : ∀ r ∈ W.reads, asked r.part
  writes : ∀ w ∈ W.writes, asked w.part

theorem Within.init (capacity : Nat) : Within asked (World.init capacity) where
  wellFormed := Slab.wellFormed_new capacity
  tracked := by simp [World.init, Slab.new, Slab.contains, Slab.slotOf?]
  evicted := by simp [World.init]
  drain := by simp [World.init]
  reads := by simp [World.init]
  writes := by simp [World.init]

/-- A request that adds only parts that satisfy `asked` keeps `Within`: what it evicts was
tracked. -/
theorem Within.ask (hA : Within asked W) {r : TierRequest} (hr : ∀ j, r.adds j = true → asked j)
    {W' : World} (hpolicy : W'.policy = (W.ask r).2.policy)
    (hevicted : W'.evicted = (W.ask r).2.evicted)
    (hdrain : ∀ i, W'.drain = .checked i ∨ W'.drain = .unlinked i → asked i)
    (hreads : ∀ x ∈ W'.reads, asked x.part) (hwrites : ∀ x ∈ W'.writes, asked x.part) :
    Within asked W' where
  wellFormed := hpolicy ▸ (hA.wellFormed.answer 0 r).1
  tracked j h := by
    rw [hpolicy] at h
    exact (World.contains_ask hA.wellFormed r h).1.elim (hA.tracked j) (hr j)
  evicted j h := by
    rw [hevicted, World.ask_evicted] at h
    rcases List.mem_append.mp h with h | h
    · exact hA.evicted j h
    · exact hA.tracked j (hA.wellFormed.evicted_tracked 0 r j h).1
  drain := hdrain
  reads := hreads
  writes := hwrites

/-- A step that leaves the policy as it is keeps `Within` when what it leaves evicted, in the
drain and in flight satisfies `asked`. -/
theorem Within.frame (hA : Within asked W) {W' : World} (hpolicy : W'.policy = W.policy)
    (hevicted : ∀ i ∈ W'.evicted, asked i)
    (hdrain : ∀ i, W'.drain = .checked i ∨ W'.drain = .unlinked i → asked i)
    (hreads : ∀ x ∈ W'.reads, asked x.part) (hwrites : ∀ x ∈ W'.writes, asked x.part) :
    Within asked W' where
  wellFormed := hpolicy ▸ hA.wellFormed
  tracked j h := hA.tracked j (hpolicy ▸ h)
  evicted := hevicted
  drain := hdrain
  reads := hreads
  writes := hwrites

/-- An idle drain holds no part. -/
theorem idle_holds_none (i : PartIndex) :
    ¬((Phase.idle = .checked i) ∨ (Phase.idle = .unlinked i)) := by
  simp

theorem Within.stepRead (hA : Within asked W) {r : Read} (hr : r ∈ W.reads) :
    Within asked (W.stepRead r) := by
  have hpart := hA.reads r hr
  have hothers : ∀ x ∈ W.reads.erase r, asked x.part := fun x hx =>
    hA.reads x (List.mem_of_mem_erase hx)
  cases r with
  | started i =>
    exact hA.ask (r := .lookup i) (fun j h => by simp [TierRequest.adds] at h) rfl rfl hA.drain
      (List.forall_mem_cons.mpr ⟨hpart, hothers⟩) hA.writes
  | looked i =>
    dsimp only [World.stepRead]
    split
    · exact hA.frame rfl hA.evicted hA.drain (List.forall_mem_cons.mpr ⟨hpart, hothers⟩) hA.writes
    · exact hA.frame rfl hA.evicted hA.drain hothers hA.writes
  | opened i =>
    refine hA.ask (r := .promote i) (fun j h => ?_) rfl rfl hA.drain hothers hA.writes
    simp only [TierRequest.adds, beq_iff_eq] at h
    exact h ▸ hpart

theorem Within.stepWrite (hA : Within asked W) {w : Write} (hw : w ∈ W.writes) :
    Within asked (W.stepWrite w) := by
  have hpart := hA.writes w hw
  have hothers : ∀ x ∈ W.writes.erase w, asked x.part := fun x hx =>
    hA.writes x (List.mem_of_mem_erase hx)
  cases w with
  | started i =>
    exact hA.frame rfl hA.evicted hA.drain hA.reads (List.forall_mem_cons.mpr ⟨hpart, hothers⟩)
  | saved i =>
    obtain ⟨ws, heq, hws⟩ := W.stepWrite_saved i
    rw [heq]
    refine hA.ask (r := .add i) (fun j h => ?_) rfl rfl hA.drain hA.reads fun x hx => ?_
    · simp only [TierRequest.adds, beq_iff_eq] at h
      exact h ▸ hpart
    · rcases hws x hx with rfl | hx
      · exact hpart
      · exact hothers x hx
  | refused i =>
    refine hA.ask (r := .promote i) (fun j h => ?_) rfl rfl hA.drain hA.reads hothers
    simp only [TierRequest.adds, beq_iff_eq] at h
    exact h ▸ hpart

theorem Within.step (hA : Within asked W) {a : Act} (ha : a.Within asked) {W' : World}
    (h : W.step a = some W') : Within asked W' := by
  cases a with
  | read i =>
    cases h
    exact hA.frame rfl hA.evicted hA.drain (List.forall_mem_cons.mpr ⟨ha, hA.reads⟩) hA.writes
  | write i =>
    cases h
    exact hA.frame rfl hA.evicted hA.drain hA.reads (List.forall_mem_cons.mpr ⟨ha, hA.writes⟩)
  | stepRead r =>
    simp only [World.step] at h
    split at h
    · cases h
      exact hA.stepRead ‹_›
    · cases h
  | stepWrite w =>
    simp only [World.step] at h
    split at h
    · cases h
      exact hA.stepWrite ‹_›
    · cases h
  | take =>
    simp only [World.step] at h
    split at h
    · rename_i i rest _ hev
      -- the drain takes the oldest evicted part, and the rest wait
      have hi : asked i := hA.evicted i (by rw [hev]; exact .head _)
      have hrest : ∀ j ∈ rest, asked j := fun j hj => hA.evicted j (by rw [hev]; exact .tail _ hj)
      split at h
      · cases h
        exact hA.frame rfl hrest hA.drain hA.reads hA.writes
      · cases h
        refine hA.frame rfl hrest (fun j hj => ?_) hA.reads hA.writes
        obtain rfl : i = j := by simpa using hj
        exact hi
    · cases h
  | unlink =>
    simp only [World.step] at h
    split at h
    · rename_i i hd
      cases h
      refine hA.frame rfl hA.evicted (fun j hj => hA.drain j (.inl ?_)) hA.reads hA.writes
      obtain rfl : i = j := by simpa using hj
      exact hd
    · cases h
  | unlinkFails =>
    simp only [World.step] at h
    split at h
    · cases h
      exact hA.frame rfl hA.evicted (fun j hj => absurd hj (idle_holds_none j)) hA.reads hA.writes
    · cases h
  | recheck =>
    simp only [World.step] at h
    split at h
    · split at h
      · cases h
        exact hA.ask (r := .remove _) (fun j hj => by simp [TierRequest.adds] at hj) rfl rfl
          (fun j hj => absurd hj (idle_holds_none j)) hA.reads hA.writes
      · cases h
        exact hA.frame rfl hA.evicted (fun j hj => absurd hj (idle_holds_none j)) hA.reads
          hA.writes
    · cases h

/-- Every world reached while callers ask only for parts that satisfy `asked` holds only such
parts, and its policy is well-formed. -/
theorem Reachable.within {capacity : Nat} (h : Reachable capacity asked W) : Within asked W := by
  induction h with
  | init => exact Within.init capacity
  | step a _ ha hs ih => exact ih.step ha hs

/-! ## Files -/

/-- Parts that satisfy `asked` have paths of their own. -/
def PathsApart (asked : PartIndex → Prop) : Prop :=
  ∀ i j, asked i → asked j → partPath i = partPath j → i = j

/-- Part 0 of objects of one path under plain cache keys have paths of their own: a plain key is
its own namespace directory. -/
theorem pathsApart_plain_keys (path : String) :
    PathsApart fun i => isPlainName i.object.cacheKey = true ∧ i.object.path = path ∧ i.part = 0 := by
  rintro ⟨⟨k, p⟩, n⟩ ⟨⟨k', p'⟩, n'⟩ ⟨hk, rfl, rfl⟩ ⟨hk', rfl, rfl⟩ h
  obtain ⟨hdir, -⟩ := partPath_eq_iff.mp h
  obtain ⟨hns, -⟩ := (objectDir_eq_iff _ _).mp hdir
  rcases (namespaceDir_eq_iff k k').mp hns with rfl | ⟨hk₀, -⟩ | ⟨hk₀, -⟩
  · rfl
  · simp [hk] at hk₀
  · simp [hk'] at hk₀

/-- A read or a flush in flight has found the file of `i` and not yet reported to the policy. -/
def World.Exposed (W : World) (i : PartIndex) : Prop :=
  .opened i ∈ W.reads ∨ .saved i ∈ W.writes ∨ .refused i ∈ W.writes

/-- A read or a flush that found the file of `i` has found the file at `i`'s path. -/
theorem World.exposes_of_exposed {i : PartIndex} (h : W.Exposed i) :
    W.exposes (partPath i) = true := by
  simp only [World.exposes, Bool.or_eq_true, List.any_eq_true]
  rcases h with h | h | h
  · exact .inl ⟨_, h, by simp [Read.holds]⟩
  · exact .inr ⟨_, h, by simp [Write.holds]⟩
  · exact .inr ⟨_, h, by simp [Write.holds]⟩

/-- What every world keeps while no deletion has raced a read or a flush and the parts have
paths of their own: every tracked part has its file unless the drain has just deleted it and not
yet checked again, and every read or flush that found a part's file finds it there still. -/
structure Fine (W : World) : Prop where
  tracked : ∀ i, W.policy.contains i = true → partPath i ∈ W.files ∨ W.drain = .unlinked i
  exposed : ∀ i, W.Exposed i → partPath i ∈ W.files

theorem Fine.init (capacity : Nat) : Fine (World.init capacity) where
  tracked := by simp [World.init, Slab.new, Slab.contains, Slab.slotOf?]
  exposed := by simp [World.init, World.Exposed]

/-- A request that adds only parts whose file exists keeps the invariant, with the reads and
flushes in flight changed so that none finds a file it did not find before. -/
theorem Fine.ask (hF : Fine W) (hW : W.policy.WellFormed) {r : TierRequest}
    (hr : ∀ j, r.adds j = true → partPath j ∈ W.files) {W' : World}
    (hpolicy : W'.policy = (W.ask r).2.policy) (hfiles : W'.files = W.files)
    (hdrain : W'.drain = W.drain) (hexposed : ∀ j, W'.Exposed j → W.Exposed j) : Fine W' where
  tracked j h := by
    rw [hpolicy] at h
    rw [hfiles, hdrain]
    rcases (World.contains_ask hW r h).1 with h | h
    · exact hF.tracked j h
    · exact .inl (hr j h)
  exposed j h := hfiles ▸ hF.exposed j (hexposed j h)

/-- Steps that touch neither the policy nor the drain, grow the files, and let no read or
flush find a file it did not find before. -/
theorem Fine.frame (hF : Fine W) {W' : World} (hpolicy : W'.policy = W.policy)
    (hdrain : W'.drain = W.drain) (hfiles : ∀ path ∈ W.files, path ∈ W'.files)
    (hexposed : ∀ j, W'.Exposed j → W.Exposed j ∨ partPath j ∈ W'.files) : Fine W' where
  tracked j h := by
    rw [hpolicy] at h
    rw [hdrain]
    exact (hF.tracked j h).imp_left (hfiles _)
  exposed j h := (hexposed j h).elim (fun h => hfiles _ (hF.exposed j h)) id

/-- The drain moves on, and takes parts off its channel, while no tracked part waits on its
second check. -/
theorem Fine.setDrain (hF : Fine W) (hd : ∀ j, W.policy.contains j = true → W.drain ≠ .unlinked j)
    (p : Phase) (evicted : List PartIndex) : Fine { W with drain := p, evicted := evicted } where
  tracked j h := .inl ((hF.tracked j h).resolve_right (hd j h))
  exposed := hF.exposed

/-! ## Reads and flushes -/

theorem Fine.stepRead (hF : Fine W) (hW : W.policy.WellFormed) {r : Read} (hr : r ∈ W.reads) :
    Fine (W.stepRead r) := by
  cases r with
  | started i =>
    -- a lookup only counts
    refine hF.ask hW (r := .lookup i) (fun j h => by simp [TierRequest.adds] at h) rfl rfl rfl ?_
    rintro j (h | h | h)
    · rcases List.mem_cons.mp h with h | h
      · cases h
      · exact .inl (List.mem_of_mem_erase h)
    · exact .inr (.inl h)
    · exact .inr (.inr h)
  | looked i =>
    dsimp only [World.stepRead]
    split
    · -- a file is there: the read has found it
      rename_i hi
      refine hF.frame rfl rfl (fun _ h => h) ?_
      rintro j (h | h | h)
      · rcases List.mem_cons.mp h with h | h
        · cases h
          exact .inr hi
        · exact .inl (.inl (List.mem_of_mem_erase h))
      · exact .inl (.inr (.inl h))
      · exact .inl (.inr (.inr h))
    · refine hF.frame rfl rfl (fun _ h => h) ?_
      rintro j (h | h | h)
      · exact .inl (.inl (List.mem_of_mem_erase h))
      · exact .inl (.inr (.inl h))
      · exact .inl (.inr (.inr h))
  | opened i =>
    have hi : partPath i ∈ W.files := hF.exposed i (.inl hr)
    refine hF.ask hW (r := .promote i) (fun j h => ?_) rfl rfl rfl ?_
    · simp only [TierRequest.adds, beq_iff_eq] at h
      subst h
      exact hi
    · rintro j (h | h | h)
      · exact .inl (List.mem_of_mem_erase h)
      · exact .inr (.inl h)
      · exact .inr (.inr h)

theorem Fine.stepWrite (hF : Fine W) (hW : W.policy.WellFormed) {w : Write} (hw : w ∈ W.writes) :
    Fine (W.stepWrite w) := by
  cases w with
  | started i =>
    -- saving leaves a file at the part's path, made or found
    have hfiles : ∀ path, path ∈ (W.stepWrite (.started i)).files ↔
        path = partPath i ∨ path ∈ W.files := by
      intro path
      show path ∈ (if partPath i ∈ W.files then W.files else partPath i :: W.files) ↔ _
      split
      · rename_i hi
        constructor
        · exact .inr
        · rintro (rfl | h)
          · exact hi
          · exact h
      · exact List.mem_cons
    refine hF.frame rfl rfl (fun p h => (hfiles p).mpr (.inr h)) ?_
    rintro j (h | h | h)
    · exact .inl (.inl h)
    · rcases List.mem_cons.mp h with h | h
      · cases h
        exact .inr ((hfiles _).mpr (.inl rfl))
      · exact .inl (.inr (.inl (List.mem_of_mem_erase h)))
    · rcases List.mem_cons.mp h with h | h
      · cases h
      · exact .inl (.inr (.inr (List.mem_of_mem_erase h)))
  | saved i =>
    have hi : partPath i ∈ W.files := hF.exposed i (.inr (.inl hw))
    obtain ⟨ws, heq, hws⟩ := W.stepWrite_saved i
    rw [heq]
    refine hF.ask hW (r := .add i) (fun j h => ?_) rfl rfl rfl ?_
    · simp only [TierRequest.adds, beq_iff_eq] at h
      subst h
      exact hi
    · rintro j (h | h | h)
      · exact .inl h
      · rcases hws _ h with h | h
        · cases h
        · exact .inr (.inl (List.mem_of_mem_erase h))
      · rcases hws _ h with h | h
        · -- the flush that found the file is the one now refused
          cases h
          exact .inr (.inl hw)
        · exact .inr (.inr (List.mem_of_mem_erase h))
  | refused i =>
    have hi : partPath i ∈ W.files := hF.exposed i (.inr (.inr hw))
    refine hF.ask hW (r := .promote i) (fun j h => ?_) rfl rfl rfl ?_
    · simp only [TierRequest.adds, beq_iff_eq] at h
      subst h
      exact hi
    · rintro j (h | h | h)
      · exact .inl h
      · exact .inr (.inl (List.mem_of_mem_erase h))
      · exact .inr (.inr (List.mem_of_mem_erase h))

/-! ## The drain -/

/-- The drain deletes the file at the path of a part that has it to itself among the tracked
parts, and that no read or flush has found. -/
theorem Fine.unlink (hF : Fine W) {i : PartIndex} (hd : W.drain = .checked i)
    (hown : ∀ j, W.policy.contains j = true → partPath j = partPath i → j = i)
    (hi : W.exposes (partPath i) = false) (races : Nat) :
    Fine { W with
      files := W.files.filter (· != partPath i)
      drain := .unlinked i
      races := races } where
  tracked j h := by
    have hj := (hF.tracked j h).resolve_right (by rw [hd]; simp)
    by_cases hji : j = i
    · exact .inr (by rw [hji])
    · -- another tracked part keeps its file, which lies at another path
      have hpath : partPath j ≠ partPath i := fun e => hji (hown j h e)
      exact .inl (List.mem_filter.mpr ⟨hj, by simpa using hpath⟩)
  exposed j h := by
    -- the reads and flushes in flight are those of `W`
    have h' : W.Exposed j := h
    have hpath : partPath j ≠ partPath i := fun e => by
      rw [← e, World.exposes_of_exposed h'] at hi
      cases hi
    exact List.mem_filter.mpr ⟨hF.exposed j h', by simpa using hpath⟩

/-- The drain's second check finds the part it deleted tracked, and untracks it. -/
theorem Fine.untrack (hF : Fine W) (hW : W.policy.WellFormed) {i : PartIndex}
    (hd : W.drain = .unlinked i) : Fine { (W.ask (.remove i)).2 with drain := .idle } where
  tracked j h := by
    obtain ⟨hj, hr⟩ := World.contains_ask hW (.remove i) h
    have hji : i ≠ j := by simpa [TierRequest.removes] using hr
    rcases hj with hj | hj
    · exact .inl ((hF.tracked j hj).resolve_right (by rw [hd]; simpa using hji))
    · simp [TierRequest.adds] at hj
  exposed := hF.exposed

/-! ## Every reachable world -/

theorem World.races_stepRead (W : World) (r : Read) : (W.stepRead r).races = W.races := by
  cases r with
  | looked i =>
    dsimp only [World.stepRead]
    split <;> rfl
  | started i | opened i => rfl

theorem World.races_stepWrite (W : World) (w : Write) : (W.stepWrite w).races = W.races := by
  cases w with
  | saved i =>
    obtain ⟨ws, heq, -⟩ := W.stepWrite_saved i
    rw [heq]
    rfl
  | started i | refused i => rfl

/-- The count of racing deletions never goes down. -/
theorem World.races_step {a : Act} {W' : World} (h : W.step a = some W') : W.races ≤ W'.races := by
  cases a with
  | read i | write i => cases h; exact Nat.le_refl _
  | stepRead r =>
    simp only [World.step] at h
    split at h
    · cases h
      exact Nat.le_of_eq (W.races_stepRead r).symm
    · cases h
  | stepWrite w =>
    simp only [World.step] at h
    split at h
    · cases h
      exact Nat.le_of_eq (W.races_stepWrite w).symm
    · cases h
  | unlink =>
    simp only [World.step] at h
    split at h
    · cases h
      dsimp only
      split <;> omega
    · cases h
  | take | unlinkFails | recheck =>
    simp only [World.step] at h
    repeat' split at h
    all_goals first | (cases h; exact Nat.le_refl _) | cases h

theorem Fine.step (hF : Fine W) (hA : Within asked W) (hapart : PathsApart asked) {a : Act}
    {W' : World} (h : W.step a = some W') (hraces : W'.races = 0) : Fine W' := by
  cases a with
  | read i =>
    cases h
    refine hF.frame rfl rfl (fun _ h => h) fun j h => .inl ?_
    rcases h with h | h | h
    · exact .inl ((List.mem_cons.mp h).resolve_left (by simp))
    · exact .inr (.inl h)
    · exact .inr (.inr h)
  | write i =>
    cases h
    refine hF.frame rfl rfl (fun _ h => h) fun j h => .inl ?_
    rcases h with h | h | h
    · exact .inl h
    · exact .inr (.inl ((List.mem_cons.mp h).resolve_left (by simp)))
    · exact .inr (.inr ((List.mem_cons.mp h).resolve_left (by simp)))
  | stepRead r =>
    simp only [World.step] at h
    split at h
    · cases h
      exact hF.stepRead hA.wellFormed ‹_›
    · cases h
  | stepWrite w =>
    simp only [World.step] at h
    split at h
    · cases h
      exact hF.stepWrite hA.wellFormed ‹_›
    · cases h
  | take =>
    simp only [World.step] at h
    split at h
    · rename_i hd _
      split at h
      · cases h
        exact hF.setDrain (fun j _ e => by rw [hd] at e; cases e) _ _
      · cases h
        exact hF.setDrain (fun j _ e => by rw [hd] at e; cases e) _ _
    · cases h
  | unlink =>
    simp only [World.step] at h
    split at h
    · rename_i i hd
      cases h
      -- no read or flush had found the file, or the deletion would count as a race
      have hi : W.exposes (partPath i) = false := by
        cases he : W.exposes (partPath i)
        · rfl
        · simp [he] at hraces
      -- the part the drain took shares its path with no other part the policy tracks
      have hown : ∀ j, W.policy.contains j = true → partPath j = partPath i → j = i :=
        fun j hj e => hapart j i (hA.tracked j hj) (hA.drain i (.inl hd)) e
      exact hF.unlink hd hown hi _
    · cases h
  | unlinkFails =>
    simp only [World.step] at h
    split at h
    · rename_i i hd
      cases h
      exact hF.setDrain (fun j _ e => by rw [hd] at e; cases e) .idle W.evicted
    · cases h
  | recheck =>
    simp only [World.step] at h
    split at h
    · rename_i i hd
      split at h
      · cases h
        exact hF.untrack hA.wellFormed hd
      · rename_i hc
        cases h
        refine hF.setDrain (fun j hj e => hc ?_) .idle W.evicted
        rw [hd] at e
        cases e
        exact hj
    · cases h

/-- Every world reached with no racing deletion, while callers ask only for parts with paths of
their own, keeps `Fine`. -/
theorem Reachable.fine {capacity : Nat} (h : Reachable capacity asked W) (hapart : PathsApart asked)
    (hraces : W.races = 0) : Fine W := by
  induction h with
  | init => exact Fine.init capacity
  | step a hr _ hs ih =>
    exact (ih (Nat.eq_zero_of_le_zero (hraces ▸ World.races_step hs))).step hr.within hapart hs
      hraces

theorem Reachable.run {capacity : Nat} {W' : World} (h : Reachable capacity asked W)
    (acts : List Act) (hacts : ∀ a ∈ acts, a.Within asked) (hrun : W.run acts = some W') :
    Reachable capacity asked W' := by
  induction acts generalizing W with
  | nil =>
    cases hrun
    exact h
  | cons a acts ih =>
    simp only [World.run] at hrun
    cases hs : W.step a with
    | none => simp [hs] at hrun
    | some W₁ =>
      rw [hs] at hrun
      exact ih (Reachable.step a h (hacts a List.mem_cons_self) hs)
        (fun b hb => hacts b (List.mem_cons_of_mem a hb)) hrun

/-- While callers ask only for parts with paths of their own and no deletion has raced a read or
a flush of a part at its path, every part the policy tracks has its file, but the one the drain
has just deleted and is about to check again. -/
theorem reachable_tracks_files {capacity : Nat} (h : Reachable capacity asked W)
    (hapart : PathsApart asked) (hraces : W.races = 0) (i : PartIndex)
    (hi : W.policy.contains i = true) : partPath i ∈ W.files ∨ W.drain = .unlinked i :=
  (h.fine hapart hraces).tracked i hi

/-- What a run from the empty policy reaches is reachable; a run checked by evaluating some
projection of its end gives a reachable world with that projection. -/
theorem Reachable.of_run_map {α : Type} {capacity : Nat} {acts : List Act} {f : World → α} {v : α}
    (asked : PartIndex → Prop) (hacts : ∀ a ∈ acts, a.Within asked) (h : ((World.init capacity).run acts).map f = some v) :
    ∃ W, Reachable capacity asked W ∧ f W = v := by
  obtain ⟨W, hrun, hW⟩ := Option.map_eq_some_iff.mp h
  exact ⟨W, Reachable.init.run acts hacts hrun, hW⟩

instance (asked : PartIndex → Prop) [DecidablePred asked] : DecidablePred (Act.Within asked)
  | .read i | .write i => inferInstanceAs (Decidable (asked i))
  | .stepRead _ | .stepWrite _ | .take | .unlink | .unlinkFails | .recheck => instDecidableTrue

/-- The parts a flush of part `i` asks for, as it runs to its end: it starts, saves the part and
adds it. -/
def flushActs (i : PartIndex) : List Act :=
  [.write i, .stepWrite (.started i), .stepWrite (.saved i)]

/-- Flushing part 0 of five objects under plain keys into a policy of four parts evicts the
fourth; the drain deletes its file while a read of the third runs to its end, and no deletion
races. -/
theorem drain_deletes_evicted_file :
    let p : String → PartIndex := fun k => ⟨⟨k, "/o"⟩, 0⟩
    ∃ W, (Reachable 4 (fun i => isPlainName i.object.cacheKey = true ∧ i.object.path = "/o" ∧
        i.part = 0) W ∧ PathsApart (fun i => isPlainName i.object.cacheKey = true ∧
          i.object.path = "/o" ∧ i.part = 0) ∧ W.races = 0 ∧ W.policy.contains (p "c") = true) ∧
      partPath (p "d") ∉ W.files ∧ (partPath (p "c") ∈ W.files ∨ W.drain = .unlinked (p "c")) := by
  intro p
  have h : ((World.init 4).run (flushActs (p "a") ++ flushActs (p "b") ++ flushActs (p "c") ++
      flushActs (p "d") ++ flushActs (p "e") ++
      [.take, .read (p "c"), .stepRead (.started (p "c")), .stepRead (.looked (p "c")),
        .stepRead (.opened (p "c")), .unlink, .recheck])).map
      (fun W => (W.races, W.policy.contains (p "c"), decide (partPath (p "d") ∈ W.files))) =
      some (0, true, false) := by
    decide +kernel
  obtain ⟨W, hr, hW⟩ := Reachable.of_run_map (fun i => isPlainName i.object.cacheKey = true ∧ i.object.path = "/o" ∧
    i.part = 0) (by decide +kernel) h
  simp only [Prod.mk.injEq, decide_eq_false_iff_not] at hW
  obtain ⟨h0, hc, hd⟩ := hW
  have hapart := pathsApart_plain_keys "/o"
  exact ⟨W, ⟨hr, hapart, h0, hc⟩, hd, reachable_tracks_files hr hapart h0 (p "c") hc⟩

/-- A read of part `3` opens its file after the drain found the part evicted and before it
deletes the file; the drain's second check comes before the read's promotion, which then
tracks the part again.  The drain is idle and nothing is in flight, yet the policy tracks a
part that has no file. -/
theorem read_beside_drain_strands_part :
    let p : String → PartIndex := fun k => ⟨⟨k, "/o"⟩, 0⟩
    ∃ W, Reachable 4 (fun i => isPlainName i.object.cacheKey = true ∧ i.object.path = "/o" ∧
        i.part = 0) W ∧ W.policy.contains (p "d") = true ∧ partPath (p "d") ∉ W.files ∧
      W.drain = .idle ∧ W.reads = [] ∧ W.writes = [] := by
  intro p
  have h : ((World.init 4).run (flushActs (p "a") ++ flushActs (p "b") ++ flushActs (p "c") ++
      flushActs (p "d") ++ flushActs (p "e") ++
      [.take, .read (p "d"), .stepRead (.started (p "d")), .stepRead (.looked (p "d")), .unlink,
        .recheck, .stepRead (.opened (p "d"))])).map
      (fun W => (W.policy.contains (p "d"), decide (partPath (p "d") ∈ W.files),
        decide (W.drain = .idle ∧ W.reads = [] ∧ W.writes = []))) =
      some (true, false, true) := by
    decide +kernel
  obtain ⟨W, hr, hW⟩ := Reachable.of_run_map (fun i => isPlainName i.object.cacheKey = true ∧ i.object.path = "/o" ∧
    i.part = 0) (by decide +kernel) h
  simp only [Prod.mk.injEq, decide_eq_false_iff_not, decide_eq_true_eq] at hW
  obtain ⟨hd, hf, hidle, hreads, hwrites⟩ := hW
  exact ⟨W, hr, hd, hf, hidle, hreads, hwrites⟩

/-- Two parts at one path: part 0 of the object with the empty key and path `_`, and part 0 of
the object with key `_` and the empty path, whose directories agree.  Flushing part 0 of three
other objects, then the first part, then the second, which finds the file there and keeps it,
into a policy of four parts evicts the first; the drain deletes the file at its path, and the
second, still tracked, has none.  No deletion raced a read or a flush, and nothing is in
flight. -/
theorem shared_path_strands_part :
    let a : PartIndex := ⟨⟨"", "_"⟩, 0⟩
    let b : PartIndex := ⟨⟨"_", ""⟩, 0⟩
    a ≠ b ∧ partPath a = partPath b ∧
      ∃ W, Reachable 4 (fun _ => True) W ∧ W.races = 0 ∧ W.policy.contains b = true ∧
        partPath b ∉ W.files ∧ W.drain = .idle ∧ W.reads = [] ∧ W.writes = [] := by
  intro a b
  let p : String → PartIndex := fun k => ⟨⟨k, "/o"⟩, 0⟩
  have h : ((World.init 4).run (flushActs (p "x") ++ flushActs (p "y") ++ flushActs (p "z") ++
      flushActs a ++ flushActs b ++ [.take, .unlink, .recheck])).map
      (fun W => (W.races, W.policy.contains b, decide (partPath b ∈ W.files),
        decide (W.drain = .idle ∧ W.reads = [] ∧ W.writes = []))) =
      some (0, true, false, true) := by
    decide +kernel
  obtain ⟨W, hr, hW⟩ := Reachable.of_run_map (fun _ => True) (fun a _ => by cases a <;> trivial) h
  simp only [Prod.mk.injEq, decide_eq_false_iff_not, decide_eq_true_eq] at hW
  obtain ⟨h0, hb, hf, hidle, hreads, hwrites⟩ := hW
  refine ⟨by decide, ?_, W, hr, h0, hb, hf, hidle, hreads, hwrites⟩
  rw [partPath, partPath, objectDir_empty_key]

end Drain

end PartCache
