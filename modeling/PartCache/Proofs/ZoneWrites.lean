import PartCache.Proofs.RelatedRuns
import PartCache.Proofs.TierMembers

/-!
# Writing a body into a zone

A zone is a sink for writers (`Zone.sink`): it saves a part in the object's directory and tracks
it in its tiers, deleting what they evict.  Saving fails only where the object's files cannot be
written (`Writable`), and nothing the sink does stops them being writable, so on the zones where
they are the sink accepts every part (`Zone.openSink`).  What a session does over any sink that
accepts every part it therefore does on such a zone: it keeps the whole parts of what it is
given, one after another (`Zone.session_eq_keepParts`).

Keeping the parts of body `B` on a zone whose files of the object hold `B`'s parts and whose tiers
have room for them saves each part and tracks it, and evicts nothing (`Zone.keepParts_fills`).  So
a session that writes the whole body, in any chunks, and closes leaves the zone holding the
whole object (`Whole`): every part of `B` has its file, with its bytes, and is tracked
(`Zone.session_stores_whole`).
-/

set_option autoImplicit false

namespace PartCache

open Layout

namespace Zone

variable {z : Zone}

/-! ## Running the zone's operations -/

theorem onDisk_ok {α : Type} {op : DiskM α} {a : α} {d : Disk} (h : op z.disk = .ok a d) :
    onDisk op z = .ok a { z with disk := d } := by
  simp [onDisk, h]

theorem add_apply (i : PartIndex) :
    add i z = match z.tiers.add i with
      | .ok (t, ev) => .ok () (dropEvicted { z with tiers := t } ev)
      | .error e => .error e z := rfl

theorem promote_apply (i : PartIndex) :
    promote i z =
      .ok () (dropEvicted { z with tiers := (z.tiers.promote i).1 } (z.tiers.promote i).2) :=
  rfl

@[simp] theorem dropEvicted_none : dropEvicted z none = z := rfl

@[simp] theorem sink_shouldKeep (i : PartIndex) : sink.shouldKeep i = pure true := rfl

theorem sink_savePart (i : PartIndex) (data : Bytes) :
    sink.savePart i data = onDisk (DiskM.attempt (DiskM.savePart i data)) := rfl

/-- Deleting an evicted part leaves the disk as it was, or drops the tree at one part's path. -/
theorem dropEvicted_disk (ev : Option PartIndex) :
    (dropEvicted z ev).disk = z.disk ∨
      ∃ j, (dropEvicted z ev).disk = z.disk.dropTree (partPath j) := by
  rcases ev with _ | i
  · exact .inl rfl
  simp only [dropEvicted]
  split_ifs
  · exact .inl rfl
  rcases DiskM.discardPart_cases z.root i z.disk with ⟨d', hrun, hd⟩ | ⟨e, hrun⟩
  · simp only [hrun]
    -- the disk is the one left by the deletion, whether or not the part is tracked again
    rcases hd with rfl | rfl
    · exact .inl rfl
    · exact .inr ⟨i, rfl⟩
  · simp [hrun]

/-! ## The object's files stay writable -/

variable {id : ObjectId}

theorem preserves_onDisk {I : Disk → Prop} {α : Type} {op : DiskM α} (h : Preserves I op) :
    Preserves (fun z : Zone => I z.disk) (onDisk op) := by
  constructor
  · intro z a z' hz hr
    unfold onDisk at hr
    split at hr
    · next hop => cases hr; exact h.ok hz hop
    · cases hr
  · intro z e z' hz hr
    unfold onDisk at hr
    split at hr
    · cases hr
    · next hop => cases hr; exact h.error hz hop

theorem writable_dropEvicted (h : Writable id z.disk) (ev : Option PartIndex) :
    Writable id (dropEvicted z ev).disk := by
  rcases dropEvicted_disk (z := z) ev with hd | ⟨j, hd⟩
  · rw [hd]; exact h
  · rw [hd]; exact h.dropTree j

theorem preserves_savePart {i : PartIndex} (hi : i.object = id) (data : Bytes) :
    Preserves (fun z : Zone => Writable id z.disk) (sink.savePart i data) := by
  obtain ⟨o, q⟩ := i
  cases hi
  refine preserves_onDisk ⟨fun hd hr => ?_, fun hd hr => ?_⟩ <;>
  · obtain ⟨d', hrun, hw', -⟩ := Writable.attempt_savePart hd q data
    rw [hrun] at hr
    cases hr
    try exact hw'

theorem preserves_add (i : PartIndex) :
    Preserves (fun z : Zone => Writable id z.disk) (sink.add i) := by
  have hadd : Preserves (fun z : Zone => Writable id z.disk) (add i) := by
    constructor
    · intro z _ z' hz hr
      rw [add_apply] at hr
      split at hr
      · cases hr; exact writable_dropEvicted (by exact hz) _
      · cases hr
    · intro z _ z' hz hr
      rw [add_apply] at hr
      split at hr
      · cases hr
      · cases hr; exact hz
  exact Preserves.of_tryCatch (hadd.bind fun _ => .of_pure _) fun _ => .of_pure _

theorem preserves_promote (i : PartIndex) :
    Preserves (fun z : Zone => Writable id z.disk) (promote i) :=
  Preserves.of_modify fun z hz => by
    split
    exact writable_dropEvicted (by exact hz) _

/-! ## The zone as a sink that accepts every part -/

/-- The zone's sink on the zones where the files of object `id` can be written; a part of
another object is not saved. -/
def openSink (id : ObjectId) : PartSink (EStateM CacheError {z : Zone // Writable id z.disk}) where
  shouldKeep _ := pure true
  savePart i data :=
    if h : i.object = id then restrict (sink.savePart i data) (preserves_savePart h data)
    else pure none
  add i := restrict (sink.add i) (preserves_add i)
  promote i := restrict (promote i) (preserves_promote i)

/-- Where the object's files can be written, saving a part of it saves it or finds it saved. -/
theorem openSink_accepts (id : ObjectId) : (openSink id).Accepts where
  keeps _ := rfl
  saves i data := by
    by_cases h : i.object = id
    · simp only [openSink, dif_pos h]
      refine satisfiesM_restrict _ _ fun z r z' hz hrun => ?_
      obtain ⟨o, q⟩ := i
      cases h
      obtain ⟨d', hsave, -⟩ := Writable.attempt_savePart hz q data
      rw [sink_savePart, onDisk_ok hsave] at hrun
      cases hrun
      split <;> simp
    · simp only [openSink, dif_neg h]
      exact SatisfiesM.pure (.inl rfl)

theorem openSink_related (id : ObjectId) :
    PartSink.Related (restrictRel _) id (openSink id) sink where
  shouldKeep _ := (restrictRel _).rel_pure trivial
  savePart q data := by
    show (restrictRel _).Rel _ (dite _ _ _) _
    rw [dif_pos rfl]
    exact restrict_rel _ _
  add q := restrict_rel (sink.add ⟨id, q⟩) (preserves_add _)
  promote q := restrict_rel (promote ⟨id, q⟩) (preserves_promote _)

variable {ps : Nat} {B : Bytes}

/-- On a zone where the files of object `id` can be written, a session writing a stretch of body
`B` from the start of a content range within it, in any chunks, is keeping the whole parts of the
stretch one after another, and answers every write with its length and the close by whether the
whole range came. -/
theorem session_eq_keepParts (hz : Writable id z.disk) (hps : 0 < ps) (c : ContentRange)
    (hn : c.objectSize.toNat = B.length) (hc : c.start.toNat + c.length.toNat ≤ B.length)
    (chunks : List Bytes) (hlen : chunks.flatten.length ≤ c.length.toNat)
    (hbody : chunks.flatten = (B.drop c.start.toNat).take chunks.flatten.length) (closing : Bool) :
    PartWriter.session sink ps (PartWriter.new id c) chunks closing z = (do
      PartWriter.keepParts sink ps B id
        (wholeParts ps B.length c.start.toNat (c.start.toNat + chunks.flatten.length))
      pure ⟨chunks.map fun chunk => .ok chunk.length, chunks.flatten.length,
        if closing then some (if chunks.flatten.length = c.length.toNat then .ok ()
          else .error (.lengthMismatch c.length.toNat chunks.flatten.length)) else none⟩ :
      ZoneM WriteReport) z := by
  have hsession := (PartWriter.session_rel (openSink_related id) ps (w := PartWriter.new id c) rfl
    chunks closing).2 (⟨z, hz⟩ : {z : Zone // Writable id z.disk})
  rw [hsession, PartWriter.session_eq_keepParts (openSink_accepts id) hps c hn hc chunks hlen hbody
    closing]
  exact (((restrictRel _).rel_bind (PartWriter.keepParts_rel (openSink_related id) ps B _)
    fun _ _ => (restrictRel _).rel_pure (P := fun _ => True) trivial).2
    (⟨z, hz⟩ : {z : Zone // Writable id z.disk})).symm

/-! ## Storing every part -/

/-- A part lies within a body of `n` bytes exactly when its number is below the body's count of
parts. -/
theorem lt_partCount_iff (hps : 0 < ps) (n p : Nat) : p < (n + ps - 1) / ps ↔ p * ps < n := by
  rw [Nat.lt_iff_add_one_le (m := p), Nat.le_div_iff_mul_le hps, Nat.add_one_mul]
  omega

/-- The whole parts of a whole body are all its parts. -/
theorem wholeParts_whole (hps : 0 < ps) (n : Nat) :
    wholeParts ps n 0 n = List.range ((n + ps - 1) / ps) := by
  have hc : (n + ps - 1) / ps ≤ n := by
    by_contra h
    have h₁ := (lt_partCount_iff hps n n).mp (by omega)
    have h₂ := Nat.le_mul_of_pos_right n hps
    omega
  have hfilter : wholeParts ps n 0 n = (List.range n).filter fun p => p * ps < n := by
    refine List.filter_congr fun p _ => ?_
    simp only [Nat.zero_le, true_and, decide_eq_decide]
    exact and_iff_left (Nat.min_le_right _ _)
  have hsplit : List.range n = List.range ((n + ps - 1) / ps) ++
      (List.range (n - (n + ps - 1) / ps)).map ((n + ps - 1) / ps + ·) := by
    rw [← List.range_add, Nat.add_sub_cancel' hc]
  rw [hfilter, hsplit, List.filter_append, List.filter_eq_self.mpr, List.filter_eq_nil_iff.mpr,
    List.append_nil]
  · intro p hp
    obtain ⟨r, -, rfl⟩ := List.mem_map.mp hp
    have : ¬ ((n + ps - 1) / ps + r) * ps < n := fun h => by
      have := (lt_partCount_iff hps n _).mpr h
      omega
    simpa using this
  · intro p hp
    simpa using (lt_partCount_iff hps n p).mp (List.mem_range.mp hp)

/-- A zone storing body `B` of object `id` in parts of `ps` bytes: the object's files hold the
body's parts, every part in `done` has its file and is tracked, and the tiers have room for `k`
more parts. -/
structure Filling (ps : Nat) (B : Bytes) (id : ObjectId) (done : List Nat) (k : Nat) (z : Zone) :
    Prop where
  files : PartFiles ps B id z.disk
  stored : ∀ p ∈ done, (z.disk.node? (partPath ⟨id, p.toUInt32⟩)).isSome
  tracked : ∀ p ∈ done, z.tiers.contains ⟨id, p.toUInt32⟩ = true
  spare : z.tiers.Spare k

/-- Tracking a part in tiers with room: a new part is added and a tracked one promoted, and
either way nothing is evicted and every tracked part stays tracked. -/
theorem track_spare {k : Nat} (hs : z.tiers.Spare (k + 1)) (i : PartIndex) :
    ∃ t, (do if (← sink.add i) matches some .alreadyInCache then sink.promote i
             pure none : ZoneM (Option CacheError)) z = .ok none { z with tiers := t } ∧
      t.Spare k ∧ t.contains i = true ∧ ∀ j, z.tiers.contains j = true → t.contains j = true := by
  cases hc : z.tiers.contains i with
  | false =>
    obtain ⟨⟨t, ev⟩, hadd⟩ : ∃ r, z.tiers.add i = .ok r := by simp [Tiers.add, hc]
    obtain ⟨hev, hs', hmem⟩ := hs.add hadd
    dsimp only at hev
    subst hev
    have hrun : add i z = .ok () { z with tiers := t } := by
      simp only [add_apply, hadd, dropEvicted_none]
    have htry : sink.add i z = .ok none { z with tiers := t } :=
      tryCatch_ok_apply (bind_ok_apply hrun)
    refine ⟨t, (bind_ok_apply htry).trans rfl, hs', ?_, fun j hj => ?_⟩
    · exact Tiers.contains_iff_mem.mpr ((hmem _).mpr (.inl rfl))
    · exact Tiers.contains_iff_mem.mpr ((hmem _).mpr (.inr (Tiers.contains_iff_mem.mp hj)))
  | true =>
    -- a part tracked already is promoted, which evicts nothing
    obtain ⟨hev, -, hmem⟩ := Tiers.promote_of_contains hc
    have hadd : add i z = .error .alreadyInCache z := by simp [add_apply, Tiers.add, hc]
    have hrun : promote i z = .ok () { z with tiers := (z.tiers.promote i).1 } := by
      rw [promote_apply, hev, dropEvicted_none]
    have htry : sink.add i z = .ok (some .alreadyInCache) z :=
      tryCatch_error_apply (bind_error_apply hadd)
    refine ⟨(z.tiers.promote i).1, (bind_ok_apply htry).trans ((bind_ok_apply hrun).trans rfl),
      (hs.promote hc).mono (Nat.le_succ k), ?_, fun j hj => ?_⟩
    · exact Tiers.contains_iff_mem.mpr ((hmem _).mpr (Tiers.contains_iff_mem.mp hc))
    · exact Tiers.contains_iff_mem.mpr ((hmem _).mpr (Tiers.contains_iff_mem.mp hj))

/-- Keeping a part of the body on a zone with room saves it, or finds it saved, and tracks it;
nothing is evicted and no part stored or tracked before is lost. -/
theorem keepPart_fills {done : List Nat} {k : Nat} (hz : Filling ps B id done (k + 1) z) {p : Nat}
    (hp : p * ps < B.length) (hp32 : p < 2 ^ 32) :
    ∃ z', PartWriter.keepPart sink ⟨id, p.toUInt32⟩ (partSlice ps B p) z = .ok none z' ∧
      Filling ps B id (done ++ [p]) k z' ∧ z'.partSize = z.partSize ∧ z'.upstream = z.upstream := by
  have hpp : p.toUInt32.toNat = p := UInt32.toNat_ofNat_of_lt' hp32
  obtain ⟨r, d', hsave, hr, hfiles, hnode, hother⟩ := hz.files.save (q := p.toUInt32) (by rwa [hpp])
  rw [hpp] at hsave hnode
  obtain ⟨t, htrack, hs, hit, hkeep⟩ :=
    track_spare (z := { z with disk := d' }) hz.spare ⟨id, p.toUInt32⟩
  have hstored : ∀ q ∈ done ++ [p], (d'.node? (partPath ⟨id, q.toUInt32⟩)).isSome := by
    intro q hq
    by_cases hpq : q.toUInt32 = p.toUInt32
    · rw [hpq, hnode]
      rfl
    · rw [hother _ hpq]
      rcases List.mem_append.mp hq with hq | hq
      · exact hz.stored q hq
      · exact absurd (congrArg Nat.toUInt32 (List.mem_singleton.mp hq)) hpq
  refine ⟨{ z with disk := d', tiers := t }, ?_, ⟨hfiles, hstored, fun q hq => ?_, hs⟩, rfl, rfl⟩
  · -- the policy keeps every part; the part is saved, or found saved, and then tracked
    unfold PartWriter.keepPart
    simp only [sink_shouldKeep, pure_bind, Bool.not_true, Bool.false_eq_true, if_false]
    rw [sink_savePart, bind_ok_apply (onDisk_ok hsave)]
    rcases hr with rfl | rfl <;> exact htrack
  · rcases List.mem_append.mp hq with hq | hq
    · exact hkeep _ (hz.tracked q hq)
    · rw [List.mem_singleton.mp hq]
      exact hit

/-- Keeping parts of the body one after another on a zone with room for them stores and tracks
each of them. -/
theorem keepParts_fills : ∀ (l done : List Nat) (k : Nat) (z : Zone),
    Filling ps B id done (l.length + k) z → (∀ p ∈ l, p * ps < B.length ∧ p < 2 ^ 32) →
    ∃ z', PartWriter.keepParts sink ps B id l z = .ok () z' ∧ Filling ps B id (done ++ l) k z' ∧
      z'.partSize = z.partSize ∧ z'.upstream = z.upstream
  | [], done, k, z, hz, _ => ⟨z, rfl, by simpa using hz, rfl, rfl⟩
  | p :: l, done, k, z, hz, hl => by
    obtain ⟨hp, hp32⟩ := hl p List.mem_cons_self
    rw [List.length_cons, Nat.add_right_comm] at hz
    obtain ⟨z₁, hrun₁, hz₁, hps₁, hup₁⟩ := keepPart_fills hz hp hp32
    obtain ⟨z', hrun, hz', hps', hup'⟩ :=
      keepParts_fills l (done ++ [p]) k z₁ hz₁ fun q hq => hl q (List.mem_cons_of_mem _ hq)
    exact ⟨z', (bind_ok_apply hrun₁).trans hrun, by simpa using hz', hps'.trans hps₁,
      hup'.trans hup₁⟩

end Zone

/-- A zone holding the whole body `B` of object `id`, cut in parts of its part size `ps`, with no
upstream to fetch from: the object's files hold the body's parts, and every part of the body has
its file and is tracked. -/
structure Whole (ps : Nat) (B : Bytes) (id : ObjectId) (z : Zone) : Prop where
  partSize : z.partSize.toNat = ps
  upstream : z.upstream = none
  files : PartFiles ps B id z.disk
  stored : ∀ q : UInt32, q.toNat * ps < B.length → (z.disk.node? (partPath ⟨id, q⟩)).isSome
  tracked : ∀ q : UInt32, q.toNat * ps < B.length → z.tiers.contains ⟨id, q⟩ = true

namespace Zone

variable {z : Zone} {id : ObjectId} {B : Bytes}

/-- Writing the whole body of object `id`, in any chunks, and closing, on a zone with no upstream
whose files of the object hold the body's parts and whose tiers have room for all of them: every
write answers its length, the close succeeds, and the zone then holds the whole object. -/
theorem session_stores_whole (hps : 0 < z.partSize.toNat) (hup : z.upstream = none)
    (hfiles : PartFiles z.partSize.toNat B id z.disk)
    (hspare : z.tiers.Spare ((B.length + z.partSize.toNat - 1) / z.partSize.toNat))
    (hsize : B.length < UInt64.size) (hparts : B.length ≤ 2 ^ 32 * z.partSize.toNat)
    (chunks : List Bytes) (hchunks : chunks.flatten = B) :
    ∃ z₁, PartWriter.session sink z.partSize.toNat (PartWriter.new id (.full B.length.toUInt64))
        chunks true z = .ok ⟨chunks.map fun chunk => .ok chunk.length, B.length, some (.ok ())⟩ z₁ ∧
      Whole z.partSize.toNat B id z₁ := by
  have hlen : (B.length.toUInt64).toNat = B.length := UInt64.toNat_ofNat_of_lt' hsize
  have hbody : chunks.flatten = (B.drop 0).take chunks.flatten.length := by
    rw [List.drop_zero, hchunks, List.take_length]
  have hrange : (ContentRange.full B.length.toUInt64).start.toNat = 0 := rfl
  -- every part of the body is numbered below 2 ^ 32
  have hparts' : ∀ p ∈ List.range ((B.length + z.partSize.toNat - 1) / z.partSize.toNat),
      p * z.partSize.toNat < B.length ∧ p < 2 ^ 32 := fun p hp => by
    have hp' := (lt_partCount_iff hps _ p).mp (List.mem_range.mp hp)
    refine ⟨hp', ?_⟩
    by_contra hge
    have := Nat.mul_le_mul_right z.partSize.toNat (Nat.le_of_not_lt hge)
    rw [Nat.mul_comm] at hparts
    omega
  obtain ⟨z₁, hrun, hz₁, hps₁, hup₁⟩ := keepParts_fills _ [] 0 z
    ⟨hfiles, by simp, by simp, by simpa using hspare⟩ hparts'
  -- the session keeps all the parts of the body, and answers
  have hsession := session_eq_keepParts (B := B) hfiles.writable hps (.full B.length.toUInt64) hlen
    (by simp [ContentRange.full, hlen]) chunks (by simp [ContentRange.full, hlen, hchunks])
    (by rw [hrange]; exact hbody) true
  rw [hrange, Nat.zero_add, hchunks, wholeParts_whole hps] at hsession
  refine ⟨z₁, hsession.trans ((bind_ok_apply hrun).trans (by simp [ContentRange.full, hlen])), ?_⟩
  refine ⟨hps₁ ▸ rfl, hup₁.trans hup, hps₁ ▸ hz₁.files, fun q hq => ?_, fun q hq => ?_⟩
  all_goals
    have hmem : q.toNat ∈ [] ++ List.range ((B.length + z.partSize.toNat - 1) / z.partSize.toNat) := by
      rw [List.nil_append, List.mem_range, lt_partCount_iff hps]
      exact hq
  · simpa using hz₁.stored _ hmem
  · simpa using hz₁.tracked _ hmem

end Zone

end PartCache
