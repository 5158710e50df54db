import Mathlib
import PartCache.Proofs.DirectoryWalk
import PartCache.Proofs.ZoneWrites
import PartCache.Zone.Restore

/-!
# Restoring a zone leaves it consistent

Restoring walks the zone directory and then, for each object found, discards it when it has
expired, and otherwise discards each part file that does not fit the object and adds each one
that does to the policy, whose evictions are deleted at once.

A zone directory is `Disk.LaidOut` when each path stands once, the metadata file of an object
directory is that of an object of that directory, a part file has the one name the zone gives
its number, and no metadata, part or temporary name holds a directory.  The zone writes its
directory so.  Then a part file found at a name is the file of its part, and discarding the part
by its index removes the file inspected.

The restore loop keeps `Zone.Restoring`: since the walk, only the trees of the directories done
and the files of the parts seen are dropped; every tracked part is held (`Disk.Holds`: the live
metadata of its object reads, and its file has the size of its range); and the directories done
are restored.  Restoring one object keeps it (`Zone.Restoring.restoreObject`), by a loop over its
parts that keeps `Zone.Restoring.PartsHandled`: a listed part stands as the walk found it
(`Zone.Restoring.listed`), and is discarded (`Zone.Restoring.discardPart`) or added with its
evictions (`Zone.Restoring.tryAdd`).  Restoring a laid-out zone whose policy tracks nothing, when it
succeeds, therefore leaves no expired or unreadable object directory, no temporary file in an
object directory, no part file that does not fit, and only held parts tracked
(`Zone.RestoredFrom`).

The names matter: a file named by seven digits reads as a part but is not that part's file, and
restoring leaves it when it does not fit (`Zone.misnamed_part_survives_restore`).
-/

set_option autoImplicit false

namespace PartCache

namespace Zone

open Layout Disk

variable {z z' : Zone}

/-- An operation on the directory that succeeds changes only the zone's directory. -/
theorem ok_of_onDisk_ok {α : Type} {op : DiskM α} {a : α} (h : onDisk op z = .ok a z') :
    ∃ d', op z.disk = .ok a d' ∧ z' = { z with disk := d' } := by
  unfold onDisk at h
  split at h
  · next d' hop => cases h; exact ⟨d', hop, rfl⟩
  · cases h

/-- Deleting an evicted part leaves the policy and the part size; it leaves the disk, or drops the
path of the evicted part, which the policy does not track. -/
theorem dropEvicted_spec (z : Zone) (ev : Option PartIndex) :
    (dropEvicted z ev).tiers = z.tiers ∧ (dropEvicted z ev).partSize = z.partSize ∧
      ((dropEvicted z ev).disk = z.disk ∨ ∃ e, ev = some e ∧ z.tiers.contains e = false ∧
        (dropEvicted z ev).disk = z.disk.dropTree (partPath e)) := by
  rcases ev with _ | e
  · exact ⟨rfl, rfl, .inl rfl⟩
  by_cases hc : z.tiers.contains e = true
  · refine ⟨?_, ?_, .inl ?_⟩ <;> simp [dropEvicted, hc]
  rcases DiskM.discardPart_cases z.root e z.disk with ⟨d', hrun, hd⟩ | ⟨err, hrun⟩
  · rcases hd with rfl | rfl
    · refine ⟨?_, ?_, .inl ?_⟩ <;> simp [dropEvicted, hc, hrun]
    · refine ⟨?_, ?_, .inr ⟨e, rfl, by simpa using hc, ?_⟩⟩ <;> simp [dropEvicted, hc, hrun]
  · refine ⟨?_, ?_, .inl ?_⟩ <;> simp [dropEvicted, hc, hrun]

/-- An add that succeeds is the policy's add, then the deletion of what it evicted. -/
theorem ok_of_add_ok {i : PartIndex} (h : add i z = .ok () z') :
    ∃ t ev, z.tiers.add i = .ok (t, ev) ∧ z' = dropEvicted { z with tiers := t } ev := by
  rw [add_apply] at h
  split at h
  · next t ev hadd => cases h; exact ⟨t, ev, hadd, rfl⟩
  · cases h

/-- Adding fails only for a part already tracked, and then changes nothing. -/
theorem add_error {i : PartIndex} {e : CacheError} (h : add i z = .error e z') :
    e = .alreadyInCache ∧ z' = z := by
  rw [add_apply] at h
  split at h
  · cases h
  · next e' hadd =>
    cases h
    unfold Tiers.add at hadd
    split at hadd
    · cases hadd
      exact ⟨rfl, rfl⟩
    · cases hadd

/-- Scheduling the expiry of an object that has not expired changes only the pending expiries. -/
theorem schedule_of_live {now : Int} {m : ObjectMetadata} (hlive : m.isExpired now = false)
    (h : schedule now m z = .ok () z') :
    z'.disk = z.disk ∧ z'.tiers = z.tiers ∧ z'.partSize = z.partSize := by
  have hlate : ¬ m.expiresAt ≤ now := by simpa [ObjectMetadata.isExpired] using hlive
  unfold schedule at h
  rw [bind_ok_apply (rfl : (get : ZoneM Zone) z = .ok z z)] at h
  -- a scheduler that runs only files the expiry, which is not due; one shut down takes nothing
  split at h
  · cases h
    exact ⟨rfl, rfl, rfl⟩
  · cases h
    exact ⟨rfl, rfl, rfl⟩

end Zone

namespace Tiers

/-- Adding tracks the part added and parts tracked before, and evicts only a part that was
tracked. -/
theorem tracked_of_add {t t' : Tiers} {i : PartIndex} {ev : Option PartIndex}
    (h : t.add i = .ok (t', ev)) :
    (∀ j, t'.contains j = true → j = i ∨ t.contains j = true) ∧
      ∀ e ∈ ev, t.contains e = true := by
  obtain ⟨hkeep, -, hmem⟩ := toList_add h
  refine ⟨fun j hj => ?_, fun e he => ?_⟩
  · rcases (hmem j).mp (contains_iff_mem.mp hj) with rfl | hj
    · exact .inl rfl
    · exact .inr (contains_iff_mem.mpr (hkeep ▸ List.mem_append_left _ hj))
  · exact contains_iff_mem.mpr (hkeep ▸ List.mem_append_right _ (by simpa using he))

end Tiers

namespace Disk

open Layout

/-- The disk holds part `i` as restoring must leave a part it tracks: the metadata file of the
part's object reads as metadata of that object that has not expired at `now`, and the part's
file holds exactly the bytes of its range for parts of `ps` bytes. -/
def Holds (d : Disk) (now : Int) (ps : UInt64) (i : PartIndex) : Prop :=
  ∃ m data, d.metadataIn? (objectDir i.object) = some m ∧ m.id = i.object ∧
    m.isExpired now = false ∧ d.node? (partPath i) = some (.file data) ∧
    Zone.validPart m ps i.part data.length = true

namespace Holds

variable {d : Disk} {now : Int} {ps : UInt64}

/-- Two parts held at one path are one part: the path names the directory, whose metadata names
the object, and the part's number. -/
theorem eq_of_partPath {i j : PartIndex} (hi : d.Holds now ps i) (hj : d.Holds now ps j)
    (h : partPath i = partPath j) : i = j := by
  obtain ⟨oi, pi⟩ := i
  obtain ⟨oj, pj⟩ := j
  obtain ⟨hdir, rfl⟩ := partPath_eq_iff.mp h
  obtain ⟨m, -, hm, hmi, -⟩ := hi
  obtain ⟨m', -, hm', hmj, -⟩ := hj
  simp only at hdir hm hm' hmi hmj
  rw [hdir, hm'] at hm
  cases hm
  rw [← hmi, ← hmj]

/-- A part stays held when the trees dropped lead neither to its object's metadata file nor to
its own file. -/
theorem drops {A : RelPath → Prop} {d' : Disk} {i : PartIndex} (h : d.Holds now ps i)
    (hd : Drops A d d')
    (hA : ∀ r, A r → ¬ r <+: objectDir i.object ++ [metadataFile] ∧ ¬ r <+: partPath i) :
    d'.Holds now ps i := by
  obtain ⟨m, data, hm, hid, hlive, hnode, hvalid⟩ := h
  have hmeta : d'.metadataIn? (objectDir i.object) = d.metadataIn? (objectDir i.object) := by
    simp only [metadataIn?, hd.node_eq fun r hr => (hA r hr).1]
  exact ⟨m, data, hmeta.trans hm, hid, hlive, (hd.node_eq fun r hr => (hA r hr).2).trans hnode,
    hvalid⟩

end Holds

/-- A part's file lies on the way to no object's metadata file. -/
theorem partPath_not_prefix_metadata (i : PartIndex) (id : ObjectId) :
    ¬ partPath i <+: objectDir id ++ [metadataFile] := fun h => by
  have heq := h.eq_of_length (by simp [length_partPath, length_objectDir])
  rw [partPath] at heq
  have hname := List.singleton_inj.mp (List.append_inj heq (by simp [length_objectDir])).2
  exact partFileName_ne_metadataFile i.part hname

/-- A part's file is never a metadata file. -/
theorem partPath_ne_metadata (i : PartIndex) (dir : RelPath) :
    partPath i ≠ dir ++ [metadataFile] := fun h => by
  have hlast := congrArg List.getLast? h
  simp only [partPath, List.getLast?_concat, Option.some.injEq] at hlast
  exact partFileName_ne_metadataFile i.part hlast

/-- Picking from a list without repeats, where no two of its members give the same pick, gives a
list without repeats. -/
theorem nodup_filterMap_of_inj {α β : Type} {f : α → Option β} {l : List α} (hl : l.Nodup)
    (hinj : ∀ a ∈ l, ∀ a' ∈ l, ∀ b ∈ f a, b ∈ f a' → a = a') : (l.filterMap f).Nodup := by
  induction l with
  | nil => simp
  | cons a l ih =>
    obtain ⟨ha, hl⟩ := List.nodup_cons.mp hl
    have ih' := ih hl fun x hx y hy => hinj x (List.mem_cons_of_mem a hx) y (List.mem_cons_of_mem a hy)
    rw [List.filterMap_cons]
    cases hfa : f a with
    | none => exact ih'
    | some b =>
      refine List.nodup_cons.mpr ⟨fun hb => ?_, ih'⟩
      obtain ⟨a', ha', hfa'⟩ := List.mem_filterMap.mp hb
      exact ha (hinj a List.mem_cons_self a' (List.mem_cons_of_mem a ha') b hfa hfa' ▸ ha')

/-- A zone directory laid out the way the zone lays it out: each path stands once; the metadata
file of an object directory, when it reads, is that of an object of that directory; a part file
is named by its number in the one way the zone names it; and no metadata, part or temporary name
of an object directory holds a directory. -/
structure LaidOut (d : Disk) : Prop where
  unique : (d.entries.map Prod.fst).Nodup
  own : ∀ dir ∈ d.objectDirs, ∀ m ∈ d.metadataIn? dir, objectDir m.id = dir
  canonical : ∀ dir ∈ d.objectDirs, ∀ name ∈ d.childNames dir, ∀ n ∈ partNumber? name,
    name = partFileName n
  files : ∀ dir ∈ d.objectDirs, ∀ name ∈ d.childNames dir,
    (name = metadataFile ∨ (partNumber? name).isSome ∨ isTempName name = true) →
      d.node? (dir ++ [name]) ≠ some .dir

namespace LaidOut

variable {d : Disk} (h : d.LaidOut) {dir : RelPath} (hdir : dir ∈ d.objectDirs)
include h hdir

/-- In a laid-out directory each part number has one file. -/
theorem nodup_partList : ((d.partList dir).map Prod.fst).Nodup := by
  rw [partList, List.map_filterMap]
  refine nodup_filterMap_of_inj (nodup_childNames h.unique dir) fun a ha a' ha' n hn hn' => ?_
  simp only [Option.map_map, Function.comp_def, Option.mem_def, Option.map_eq_some_iff] at hn hn'
  obtain ⟨k, hk, rfl⟩ := hn
  obtain ⟨k', hk', hkk⟩ := hn'
  rw [h.canonical dir hdir a ha k hk, h.canonical dir hdir a' ha' k' hk', hkk]

/-- A part a laid-out directory lists is a file under the part's own name, of the listed size. -/
theorem partFile {x : UInt32 × Nat} (hx : x ∈ d.partList dir) :
    ∃ data, d.node? (dir ++ [partFileName x.1]) = some (.file data) ∧ data.length = x.2 ∧
      partNumber? (partFileName x.1) = some x.1 := by
  obtain ⟨name, hname, hx⟩ := List.mem_filterMap.mp hx
  obtain ⟨n, hn, rfl⟩ := Option.map_eq_some_iff.mp hx
  have hcanon := h.canonical dir hdir name hname n hn
  subst hcanon
  have hfile := h.files dir hdir _ hname (.inr (.inl (by simp [hn])))
  have hsome := node?_ne_none_of_mem (mem_childNames_iff.mp hname)
  rcases hnode : d.node? (dir ++ [partFileName n]) with _ | data | _
  · exact absurd hnode hsome
  · exact ⟨data, rfl, by simp [Node.size], hn⟩
  · exact absurd hnode hfile

end LaidOut

/-- A part-named entry of a directory is listed, with its size. -/
theorem mem_partList_of_node {d : Disk} {dir : RelPath} {name : String} {n : UInt32} {node : Node}
    (hn : partNumber? name = some n) (hnode : d.node? (dir ++ [name]) = some node) :
    (n, node.size) ∈ d.partList dir := by
  rw [partList, List.mem_filterMap]
  exact ⟨name, mem_childNames_of_node (by simp [hnode]), by simp [hn, hnode]⟩

end Disk

namespace Zone

open Layout Disk

section Invariant

variable (now : Int) (ps : UInt64) (d0 d1 : Disk)

/-- Where restoring stands once the object directories `done` are restored and, of the next
one, the parts `cur` have been seen: the part size is `ps`; since the walk left `d1` only what
lies in a directory done, or at the file of a part seen, was dropped; every tracked part is held
and belongs to a directory done or was seen; the directory of an expired object done is gone;
and a directory done of a live object has lost every part file that does not fit. -/
structure Restoring (done : List RelPath) (cur : List PartIndex) (z : Zone) : Prop where
  partSize : z.partSize = ps
  drops : Drops (fun r => (∃ dir ∈ done, dir <+: r) ∨ ∃ j ∈ cur, r = partPath j) d1 z.disk
  tracked : ∀ j, z.tiers.contains j = true →
    z.disk.Holds now ps j ∧ (objectDir j.object ∈ done ∨ j ∈ cur)
  expired : ∀ dir ∈ done, ∀ m ∈ d0.metadataIn? dir, m.isExpired now = true → Vacant z.disk dir
  unfit : ∀ dir ∈ done, ∀ m ∈ d0.metadataIn? dir, m.isExpired now = false →
    ∀ name n node, partNumber? name = some n → d0.node? (dir ++ [name]) = some node →
      validPart m ps n node.size = false → z.disk.node? (dir ++ [name]) = none

variable {now ps d0 d1}

namespace Restoring

variable {done : List RelPath} {cur : List PartIndex} {z : Zone}

/-- What was done and dropped in the directories done stays so when more is dropped. -/
theorem expired_unfit_drops (hI : Restoring now ps d0 d1 done cur z) {A : RelPath → Prop}
    {d' : Disk} (hd : Drops A z.disk d') :
    (∀ dir ∈ done, ∀ m ∈ d0.metadataIn? dir, m.isExpired now = true → Vacant d' dir) ∧
    (∀ dir ∈ done, ∀ m ∈ d0.metadataIn? dir, m.isExpired now = false →
      ∀ name n node, partNumber? name = some n → d0.node? (dir ++ [name]) = some node →
        validPart m ps n node.size = false → d'.node? (dir ++ [name]) = none) :=
  ⟨fun dir hdir m hm hexp => hd.vacant (hI.expired dir hdir m hm hexp),
    fun dir hdir m hm hlive name n node hn hnode hfit =>
      hd.node_eq_none (hI.unfit dir hdir m hm hlive name n node hn hnode hfit)⟩

/-- Seeing one more part that is not tracked changes nothing else. -/
theorem see (hI : Restoring now ps d0 d1 done cur z) (i : PartIndex) :
    Restoring now ps d0 d1 done (cur ++ [i]) z where
  partSize := hI.partSize
  drops := hI.drops.mono fun _ hr =>
    hr.imp_right (Exists.imp fun _ => And.imp_left (List.mem_append_left _))
  tracked j hj := (hI.tracked j hj).imp_right (Or.imp_right (List.mem_append_left _))
  expired := hI.expired
  unfit := hI.unfit

/-- Dropping the file of a part seen now, of the directory restored next, whose path no part seen
before has. -/
theorem dropPart (hI : Restoring now ps d0 d1 done cur z) {i : PartIndex} {d' : Disk}
    (hd : Drops (· = partPath i) z.disk d') (hdir : objectDir i.object ∉ done)
    (hcur : ∀ j ∈ cur, partPath j ≠ partPath i) :
    Restoring now ps d0 d1 done (cur ++ [i]) { z with disk := d' } where
  partSize := hI.partSize
  drops := (hI.see i).drops.trans (hd.mono fun _ hr => .inr ⟨i, List.mem_append_right _
    (List.mem_singleton_self i), hr⟩)
  tracked j hj := by
    obtain ⟨hheld, hwhere⟩ := hI.tracked j hj
    refine ⟨hheld.drops hd fun r hr => ?_, hwhere.imp_right (List.mem_append_left _)⟩
    subst hr
    refine ⟨partPath_not_prefix_metadata i j.object, fun hpre => ?_⟩
    have heq : partPath i = partPath j := hpre.eq_of_length (by simp [length_partPath])
    rcases hwhere with hj' | hj'
    · rw [partPath, partPath] at heq
      have hsame := (List.append_inj heq (by simp [length_objectDir])).1
      exact hdir (hsame ▸ hj')
    · exact hcur j hj' heq.symm
  expired := (hI.expired_unfit_drops hd).1
  unfit := (hI.expired_unfit_drops hd).2

/-- Tracking a held part, and deleting what the policy evicts. -/
theorem add (hI : Restoring now ps d0 d1 done cur z) {i : PartIndex} (hi : z.disk.Holds now ps i)
    {t : Tiers} {ev : Option PartIndex} (hadd : z.tiers.add i = .ok (t, ev)) :
    Restoring now ps d0 d1 done (cur ++ [i]) (dropEvicted { z with tiers := t } ev) := by
  obtain ⟨htiers, hsize, hdisk⟩ := dropEvicted_spec { z with tiers := t } ev
  obtain ⟨hnew, hevicted⟩ := Tiers.tracked_of_add hadd
  set z' := dropEvicted { z with tiers := t } ev
  -- every part the new policy tracks is held before the eviction
  have hheld : ∀ j, t.contains j = true → z.disk.Holds now ps j ∧
      (objectDir j.object ∈ done ∨ j ∈ cur ++ [i]) := fun j hj => by
    rcases hnew j hj with rfl | hj
    · exact ⟨hi, .inr (List.mem_append_right _ (List.mem_singleton_self j))⟩
    · exact (hI.tracked j hj).imp_right (Or.imp_right (List.mem_append_left _))
  rcases hdisk with hsame | ⟨e, rfl, hgone, hdrop⟩
  · exact {
      partSize := hsize.trans hI.partSize
      drops := by
        rw [hsame]
        exact (hI.see i).drops
      tracked := fun j hj => by
        rw [hsame]
        exact hheld j (by rwa [htiers] at hj)
      expired := by rw [hsame]; exact hI.expired
      unfit := by rw [hsame]; exact hI.unfit }
  · -- the evicted part was tracked, so its file is that of a directory done or a part seen
    obtain ⟨he, hwhere⟩ := hI.tracked e (hevicted e rfl)
    have hd : Drops (· = partPath e) z.disk z'.disk := hdrop ▸ .single rfl
    exact {
      partSize := hsize.trans hI.partSize
      drops := (hI.see i).drops.trans (hd.mono fun r hr => by
        subst hr
        rcases hwhere with hdir | hcur
        · exact .inl ⟨_, hdir, List.prefix_append _ _⟩
        · exact .inr ⟨e, List.mem_append_left _ hcur, rfl⟩)
      tracked := fun j hj => by
        have hj' : t.contains j = true := by rwa [htiers] at hj
        obtain ⟨hheldj, hwherej⟩ := hheld j hj'
        refine ⟨hheldj.drops hd fun r hr => ?_, hwherej⟩
        subst hr
        refine ⟨partPath_not_prefix_metadata e j.object, fun hpre => ?_⟩
        have hej := he.eq_of_partPath hheldj (hpre.eq_of_length (by simp [length_partPath]))
        rw [hej, hj'] at hgone
        cases hgone
      expired := (hI.expired_unfit_drops hd).1
      unfit := (hI.expired_unfit_drops hd).2 }

/-- Discarding the file of a part of the directory restored next, seen now, whose path no part
seen before has: the file is gone, and no file that was gone comes back. -/
theorem discardPart (hI : Restoring now ps d0 d1 done cur z) {i : PartIndex}
    (hready : Ready z.disk (objectDir i.object)) (hdir : objectDir i.object ∉ done)
    (hcur : ∀ j ∈ cur, partPath j ≠ partPath i) {root : String} {z' : Zone}
    (h : onDisk (DiskM.discardPart root i) z = .ok () z') :
    Restoring now ps d0 d1 done (cur ++ [i]) z' ∧ z'.disk.node? (partPath i) = none ∧
      ∀ p, z.disk.node? p = none → z'.disk.node? p = none := by
  obtain ⟨d', hd', rfl⟩ := ok_of_onDisk_ok h
  rw [DiskM.discardPart, partPath] at hd'
  obtain ⟨hdrops, hnone⟩ := DiskM.removeIfExists_ok_of_ready hready hd'
  exact ⟨hI.dropPart hdrops hdir hcur, hnone, fun _ => hdrops.node_eq_none⟩

/-- Adding a held part to the policy, an add that fails counting as done when the part was
tracked already: the part is seen, and no file that was gone comes back. -/
theorem tryAdd (hI : Restoring now ps d0 d1 done cur z) {i : PartIndex} (hi : z.disk.Holds now ps i)
    {l : Option CacheError} {z' : Zone}
    (h : (tryCatch (do Zone.add i; pure none) (fun e => pure (some e)) :
      ZoneM (Option CacheError)) z = .ok l z') :
    Restoring now ps d0 d1 done (cur ++ [i]) z' ∧ (l = none ∨ l = some .alreadyInCache) ∧
      ∀ p, z.disk.node? p = none → z'.disk.node? p = none := by
  cases hadd : Zone.add i z with
  | ok u z₁ =>
    have htry : (tryCatch (do Zone.add i; pure none) (fun e => pure (some e)) :
        ZoneM (Option CacheError)) z = .ok none z₁ := tryCatch_ok_apply (bind_ok_apply hadd)
    cases htry.symm.trans h
    obtain ⟨t, ev, hta, rfl⟩ := ok_of_add_ok hadd
    refine ⟨hI.add hi hta, .inl rfl, fun p hp => ?_⟩
    -- the eviction drops at most one more file
    obtain ⟨-, -, hdisk⟩ := dropEvicted_spec { z with tiers := t } ev
    rcases hdisk with hsame | ⟨e', -, -, hdrop⟩
    · rw [hsame]
      exact hp
    · rw [hdrop]
      exact (Drops.single (A := fun _ => True) trivial).node_eq_none hp
  | error err z₁ =>
    -- the part was tracked already: nothing changes
    obtain ⟨rfl, rfl⟩ := add_error hadd
    have htry : (tryCatch (do Zone.add i; pure none) (fun e => pure (some e)) :
        ZoneM (Option CacheError)) z₁ = .ok (some .alreadyInCache) z₁ :=
      tryCatch_error_apply (bind_error_apply hadd)
    cases htry.symm.trans h
    exact ⟨hI.see i, .inr rfl, fun _ hp => hp⟩

/-- Restoring depends on the zone's part size, directory and policy only. -/
theorem congr (hI : Restoring now ps d0 d1 done cur z) {z' : Zone} (hsize : z'.partSize = z.partSize)
    (hdisk : z'.disk = z.disk) (htiers : z'.tiers = z.tiers) :
    Restoring now ps d0 d1 done cur z' where
  partSize := hsize.trans hI.partSize
  drops := hdisk ▸ hI.drops
  tracked j hj := hdisk ▸ hI.tracked j (htiers ▸ hj)
  expired := hdisk ▸ hI.expired
  unfit := hdisk ▸ hI.unfit

/-- Discarding the directory of an expired object restores it. -/
theorem discardDir (hI : Restoring now ps d0 d1 done [] z) {dir : RelPath} {d' : Disk}
    (hlen : dir.length = 4) (hnew : dir ∉ done) (hd : Drops (dir <+: ·) z.disk d')
    (hvac : Vacant d' dir) (hexp : ∀ m ∈ d0.metadataIn? dir, m.isExpired now = true) :
    Restoring now ps d0 d1 (done ++ [dir]) [] { z with disk := d' } where
  partSize := hI.partSize
  drops := (hI.drops.mono fun _ hr =>
    hr.imp_left (Exists.imp fun _ => And.imp_left (List.mem_append_left _))).trans (hd.mono fun _ hr =>
      .inl ⟨dir, List.mem_append_right _ (List.mem_singleton_self dir), hr⟩)
  tracked j hj := by
    obtain ⟨hheld, hwhere⟩ := hI.tracked j hj
    have hdone : objectDir j.object ∈ done := by simpa using hwhere
    -- what lies in the discarded directory lies in no other
    have hout : ∀ {r}, dir <+: r → ∀ x, ¬ r <+: objectDir j.object ++ [x] := fun hr =>
      not_prefix_child_of_ne (hlen.trans (length_objectDir j.object).symm)
        (fun h => hnew (by rw [h]; exact hdone)) hr
    refine ⟨hheld.drops hd fun r hr => ⟨hout hr metadataFile, hout hr (partFileName j.part)⟩,
      .inl (List.mem_append_left _ hdone)⟩
  expired dir' hdir' m hm hexp' := by
    rcases List.mem_append.mp hdir' with hdir' | hdir'
    · exact (hI.expired_unfit_drops hd).1 dir' hdir' m hm hexp'
    · rw [List.mem_singleton.mp hdir']
      exact hvac
  unfit dir' hdir' m hm hlive := by
    rcases List.mem_append.mp hdir' with hdir' | hdir'
    · exact (hI.expired_unfit_drops hd).2 dir' hdir' m hm hlive
    · rw [List.mem_singleton.mp hdir'] at hm
      rw [hexp m hm] at hlive
      cases hlive

/-- A directory of a live object whose parts have all been seen, with every part file that does
not fit gone, is restored. -/
theorem finish (hI : Restoring now ps d0 d1 done cur z) {dir : RelPath}
    (hcur : ∀ j ∈ cur, objectDir j.object = dir)
    (hlive : ∀ m ∈ d0.metadataIn? dir, m.isExpired now = false)
    (hunfit : ∀ m ∈ d0.metadataIn? dir, ∀ name n node, partNumber? name = some n →
      d0.node? (dir ++ [name]) = some node → validPart m ps n node.size = false →
        z.disk.node? (dir ++ [name]) = none) :
    Restoring now ps d0 d1 (done ++ [dir]) [] z where
  partSize := hI.partSize
  drops := hI.drops.mono fun r hr => by
    rcases hr with ⟨dir', hdir', hr⟩ | ⟨j, hj, rfl⟩
    · exact .inl ⟨dir', List.mem_append_left _ hdir', hr⟩
    · exact .inl ⟨dir, List.mem_append_right _ (List.mem_singleton_self dir),
        hcur j hj ▸ List.prefix_append _ _⟩
  tracked j hj := by
    obtain ⟨hheld, hwhere⟩ := hI.tracked j hj
    refine ⟨hheld, .inl ?_⟩
    rcases hwhere with hdone | hj'
    · exact List.mem_append_left _ hdone
    · exact hcur j hj' ▸ List.mem_append_right _ (List.mem_singleton_self _)
  expired dir' hdir' m hm hexp := by
    rcases List.mem_append.mp hdir' with hdir' | hdir'
    · exact hI.expired dir' hdir' m hm hexp
    · rw [List.mem_singleton.mp hdir'] at hm
      rw [hlive m hm] at hexp
      cases hexp
  unfit dir' hdir' m hm hlive' := by
    rcases List.mem_append.mp hdir' with hdir' | hdir'
    · exact hI.unfit dir' hdir' m hm hlive'
    · rw [List.mem_singleton.mp hdir'] at hm ⊢
      exact hunfit m hm

/-- A directory not yet restored is as the walk found it, but for the files of the parts seen:
its way down is there, and every name in it that is not temporary holds what it held before the
walk. -/
theorem fresh (hI : Restoring now ps d0 d1 done cur z)
    (hwalk : Drops (fun r => ∃ D ∈ d0.objectDirs, WalkDrop d0 D r) d0 d1)
    (hdone : ∀ D ∈ done, D ∈ d0.objectDirs) {dir : RelPath} (hdir : dir ∈ d0.objectDirs)
    (hnew : dir ∉ done) (hgood : (d0.metadataIn? dir).isSome) :
    Ready z.disk dir ∧ ∀ x, isTempName x = false → (∀ j ∈ cur, partPath j ≠ dir ++ [x]) →
      z.disk.node? (dir ++ [x]) = d0.node? (dir ++ [x]) := by
  have hlen : dir.length = 4 := objectDirs_depth d0 dir hdir
  -- the walk dropped nothing in `dir` but temporary files
  have hwalk_out : ∀ r, (∃ D ∈ d0.objectDirs, WalkDrop d0 D r) → ∀ x, isTempName x = false →
      ¬ r <+: dir ++ [x] := by
    rintro r ⟨D, hD, hr⟩ x hx hpre
    by_cases hDdir : D = dir
    · subst hDdir
      rcases hr with ⟨rfl, hnone⟩ | ⟨t, ht, rfl⟩
      · rw [hnone] at hgood
        cases hgood
      · have htx := List.singleton_inj.mp (List.append_cancel_left
          (hpre.eq_of_length (by simp)))
        rw [htx, hx] at ht
        cases ht
    · exact not_prefix_child_of_ne (by rw [objectDirs_depth d0 D hD, hlen]) hDdir hr.prefix x hpre
  -- restoring dropped nothing in `dir` but the files of parts seen
  have hrest_out : ∀ r, ((∃ D ∈ done, D <+: r) ∨ ∃ j ∈ cur, r = partPath j) → ∀ x,
      (∀ j ∈ cur, partPath j ≠ dir ++ [x]) → ¬ r <+: dir ++ [x] := by
    rintro r (⟨D, hD, hr⟩ | ⟨j, hj, rfl⟩) x hx hpre
    · exact not_prefix_child_of_ne (by rw [objectDirs_depth d0 D (hdone D hD), hlen])
        (by rintro rfl; exact hnew hD) hr x hpre
    · exact hx j hj (hpre.eq_of_length (by simp [length_partPath, hlen]))
  have hmeta : ∀ j ∈ cur, partPath j ≠ dir ++ [metadataFile] := fun j _ =>
    partPath_ne_metadata j dir
  refine ⟨hI.drops.ready (hwalk.ready (ready_of_mem_objectDirs hdir) fun r hr hpre =>
      hwalk_out r hr metadataFile isTempName_metadataFile (hpre.trans (List.prefix_append _ _)))
    fun r hr hpre => hrest_out r hr metadataFile hmeta (hpre.trans (List.prefix_append _ _)),
    fun x hx hcur => ?_⟩
  rw [hI.drops.node_eq fun r hr => hrest_out r hr x hcur, hwalk.node_eq fun r hr =>
      hwalk_out r hr x hx]

/-- A part the walk listed for a directory not yet restored, whose file no part seen has: the
directory's way down is there, its metadata reads as the walk found it, and the part's file
stands under the part's own name, with the listed size. -/
theorem listed (hI : Restoring now ps d0 d1 done cur z) (hlaid : d0.LaidOut)
    (hwalk : Drops (fun r => ∃ D ∈ d0.objectDirs, WalkDrop d0 D r) d0 d1)
    (hdone : ∀ D ∈ done, D ∈ d0.objectDirs) {dir : RelPath} (hdir : dir ∈ d0.objectDirs)
    (hnew : dir ∉ done) {m : ObjectMetadata} (hm : d0.metadataIn? dir = some m) {n : UInt32}
    {s : Nat} (hx : (n, s) ∈ d0.partList dir)
    (hcur : ∀ j ∈ cur, partPath j ≠ dir ++ [partFileName n]) :
    Ready z.disk dir ∧ z.disk.metadataIn? dir = some m ∧
      ∃ data, z.disk.node? (dir ++ [partFileName n]) = some (.file data) ∧ data.length = s := by
  obtain ⟨data, hnode, hsize, hnum⟩ := hlaid.partFile hdir hx
  obtain ⟨hready, hnodes⟩ := hI.fresh hwalk hdone hdir hnew (by simp [hm])
  refine ⟨hready, ?_, data, ?_, hsize⟩
  · simp only [metadataIn?]
    rw [hnodes _ isTempName_metadataFile fun j _ => partPath_ne_metadata j dir]
    exact hm
  · rw [hnodes _ (isTempName_eq_false hnum) hcur, hnode]

/-- Where the loop over the parts the walk listed for directory `dir`, of the object with
metadata `m`, stands once the parts `seen` are handled: restoring holds with them seen, and each
of them that does not fit has lost its file. -/
structure PartsHandled (now : Int) (ps : UInt64) (d0 d1 : Disk) (done : List RelPath)
    (dir : RelPath) (m : ObjectMetadata) (seen : List (UInt32 × Nat)) (z : Zone) : Prop where
  restoring : Restoring now ps d0 d1 done (seen.map fun x => ⟨m.id, x.1⟩) z
  unfit : ∀ x ∈ seen, validPart m ps x.1 x.2 = false →
    z.disk.node? (dir ++ [partFileName x.1]) = none

/-- Handling one more part: restoring holds with it seen, no file that was gone comes back, and
its file is gone when it does not fit. -/
theorem PartsHandled.snoc {dir : RelPath} {m : ObjectMetadata} {seen : List (UInt32 × Nat)}
    (hH : PartsHandled now ps d0 d1 done dir m seen z) {n : UInt32} {s : Nat} {z' : Zone}
    (hI : Restoring now ps d0 d1 done (seen.map (fun x => ⟨m.id, x.1⟩) ++ [⟨m.id, n⟩]) z')
    (hkeep : ∀ p, z.disk.node? p = none → z'.disk.node? p = none)
    (hgone : validPart m ps n s = false → z'.disk.node? (dir ++ [partFileName n]) = none) :
    PartsHandled now ps d0 d1 done dir m (seen ++ [(n, s)]) z' where
  restoring := by rwa [List.map_append]
  unfit := by
    rw [List.forall_mem_append, List.forall_mem_singleton]
    exact ⟨fun x hx hfit => hkeep _ (hH.unfit x hx hfit), hgone⟩

/-- Restoring the entry the walk gave a directory not yet restored, whose metadata names it,
keeps `Restoring`, with that directory done. -/
theorem restoreObject (hlaid : d0.LaidOut)
    (hwalk : Drops (fun r => ∃ D ∈ d0.objectDirs, WalkDrop d0 D r) d0 d1)
    (hdone : ∀ D ∈ done, D ∈ d0.objectDirs) {dir : RelPath} (hdir : dir ∈ d0.objectDirs)
    (hnew : dir ∉ done) {e : ObjectEntry} (he : Walked d0 dir e)
    (hI : Restoring now ps d0 d1 done [] z) {report report' : RestoreReport} {z' : Zone}
    (hrun : Zone.restoreObject now e report z = .ok report' z') :
    Restoring now ps d0 d1 (done ++ [dir]) [] z' := by
  obtain ⟨hm, hperm⟩ := he
  have hown : objectDir e.metadata.id = dir := hlaid.own dir hdir e.metadata hm
  have hlen : dir.length = 4 := objectDirs_depth d0 dir hdir
  have hgood : (d0.metadataIn? dir).isSome := by simp [hm]
  have hmeta : ∀ m ∈ d0.metadataIn? dir, m = e.metadata := fun m hm' => by
    rw [hm, Option.mem_def, Option.some.injEq] at hm'
    exact hm'.symm
  rw [Zone.restoreObject, bind_ok_apply (rfl : (get : ZoneM Zone) z = .ok z z)] at hrun
  split at hrun
  · next hexp =>
    -- an expired object's directory is discarded
    obtain ⟨_, z₁, hdisc, hpure⟩ := ok_of_bind_ok hrun
    cases hpure
    obtain ⟨d', hd', rfl⟩ := ok_of_onDisk_ok hdisc
    obtain ⟨hdrops, hvac⟩ := DiskM.discard_ok (hown ▸ (hI.fresh hwalk hdone hdir hnew hgood).1) hd'
    exact hI.discardDir hlen hnew (hown ▸ hdrops) (hown ▸ hvac) fun m hm' => hmeta m hm' ▸ hexp
  · next hlive' =>
    have hlive : e.metadata.isExpired now = false := by simpa using hlive'
    obtain ⟨rep, z₁, hloop, hrest⟩ := ok_of_bind_ok hrun
    obtain ⟨_, z₂, hsched, hpure⟩ := ok_of_bind_ok hrest
    cases hpure
    obtain ⟨hsd, hst, hsp⟩ := schedule_of_live hlive hsched
    have hnodup : (e.parts.map Prod.fst).Nodup :=
      (hperm.map Prod.fst).nodup_iff.mpr (hlaid.nodup_partList hdir)
    -- each part seen is tracked, or its file is gone when it does not fit
    have hloopI := forIn_inv_of_ok
      (fun seen _ _ z₁ => PartsHandled now ps d0 d1 done dir e.metadata seen z₁)
      e.parts ?_ ⟨by simpa using hI, by simp⟩ hloop
    · obtain ⟨hI₁, hseen⟩ := hloopI
      have hlive₂ : ∀ m ∈ d0.metadataIn? dir, m.isExpired now = false := fun m hm' => by
        rw [hmeta m hm']
        exact hlive
      have hcur : ∀ j ∈ e.parts.map (fun x => (⟨e.metadata.id, x.1⟩ : PartIndex)),
          objectDir j.object = dir := by
        intro j hj
        obtain ⟨x, -, rfl⟩ := List.mem_map.mp hj
        exact hown
      -- a part file that does not fit was listed, so seen
      have hunfit : ∀ m ∈ d0.metadataIn? dir, ∀ name n node, partNumber? name = some n →
          d0.node? (dir ++ [name]) = some node → validPart m ps n node.size = false →
            z₁.disk.node? (dir ++ [name]) = none := by
        intro m hm' name n node hn hnode hfit
        have hx : (n, node.size) ∈ e.parts := hperm.symm.subset (mem_partList_of_node hn hnode)
        have hname : name = partFileName n :=
          hlaid.canonical dir hdir name (mem_childNames_of_node (by simp [hnode])) n hn
        rw [hmeta m hm'] at hfit
        rw [hname]
        exact hseen (n, node.size) hx hfit
      exact (hI₁.finish hcur hlive₂ hunfit).congr hsp hsd hst
    · rintro seen ⟨n, s⟩ rest rep₁ z₃ r z₄ hxs hH hstep
      set m := e.metadata
      set i : PartIndex := ⟨m.id, n⟩
      have hx : (n, s) ∈ e.parts := by simp [← hxs]
      -- the part's number is new among the parts seen
      have hfresh : n ∉ seen.map Prod.fst := by
        rw [← hxs, List.map_append, List.map_cons] at hnodup
        exact (List.nodup_middle.mp hnodup |> List.nodup_cons.mp).1 ∘ List.mem_append_left _
      have hpath : partPath i = dir ++ [partFileName n] := by rw [partPath, hown]
      have hcur : ∀ j ∈ seen.map (fun x => (⟨m.id, x.1⟩ : PartIndex)),
          partPath j ≠ dir ++ [partFileName n] := by
        intro j hj heq
        obtain ⟨x, hxseen, rfl⟩ := List.mem_map.mp hj
        rw [← hpath, partPath_eq_iff] at heq
        exact hfresh (heq.2 ▸ List.mem_map_of_mem hxseen)
      obtain ⟨hready, hmeta₃, data, hnow, hsize⟩ :=
        hH.restoring.listed hlaid hwalk hdone hdir hnew hm (hperm.subset hx) hcur
      dsimp only at hstep
      split at hstep
      · next hunfit =>
        -- a part that does not fit: its file is dropped
        have hfit : validPart m ps n s = false := by simpa [hI.partSize] using hunfit
        obtain ⟨_, z₅, hdp, hpure⟩ := ok_of_bind_ok hstep
        cases hpure
        obtain ⟨hI₅, hnone, hkeep⟩ := hH.restoring.discardPart (hown ▸ hready)
          (by rw [hown]; exact hnew) (fun j hj => hpath ▸ hcur j hj) hdp
        exact ⟨_, rfl, hH.snoc hI₅ hkeep fun _ => hpath ▸ hnone⟩
      · next hfits =>
        -- a part that fits is tracked
        have hfit : validPart m ps n s = true := by simpa [hI.partSize] using hfits
        have hheld : z₃.disk.Holds now ps i :=
          ⟨m, data, hown ▸ hmeta₃, rfl, hlive, hpath ▸ hnow, by rw [hsize]; exact hfit⟩
        obtain ⟨l, z₅, htry, hk⟩ := ok_of_bind_ok hstep
        obtain ⟨hI₅, hl, hkeep⟩ := hH.restoring.tryAdd hheld htry
        have hH₅ := hH.snoc hI₅ hkeep fun h => by rw [hfit] at h; cases h
        -- added, or found tracked already: either way the loop goes on
        rcases hl with rfl | rfl <;> cases hk <;> exact ⟨_, rfl, hH₅⟩

end Restoring

end Invariant

/-- What restoring zone `z` at time `now` must leave in zone `z'`: the directory of every object
whose metadata says it has expired is gone; so is every object directory whose metadata file is
missing or does not read; no temporary file is left in an object directory; every part file
that does not fit its object is gone; and every part the policy tracks is held. -/
structure RestoredFrom (now : Int) (z z' : Zone) : Prop where
  expired : ∀ dir ∈ z.disk.objectDirs, ∀ m ∈ z.disk.metadataIn? dir, m.isExpired now = true →
    Vacant z'.disk dir
  unreadable : ∀ dir ∈ z.disk.objectDirs, z.disk.metadataIn? dir = none → Vacant z'.disk dir
  temps : ∀ dir ∈ z.disk.objectDirs, ∀ name, isTempName name = true →
    z'.disk.node? (dir ++ [name]) = none
  unfit : ∀ dir ∈ z.disk.objectDirs, ∀ m ∈ z.disk.metadataIn? dir, ∀ name n node,
    partNumber? name = some n → z.disk.node? (dir ++ [name]) = some node →
      validPart m z.partSize n node.size = false → z'.disk.node? (dir ++ [name]) = none
  tracked : ∀ i, z'.tiers.contains i = true → z'.disk.Holds now z.partSize i

/-- Restoring a zone laid out as the zone lays it out, whose policy tracks nothing yet, leaves it
consistent when it succeeds: what does not fit is gone and what is tracked is held. -/
theorem restore_leaves_consistent_zone (now : Int) (z : Zone) (hlaid : z.disk.LaidOut)
    (hempty : z.tiers.toList = []) {report : RestoreReport} {z' : Zone}
    (hrun : restore now z = .ok report z') : RestoredFrom now z z' := by
  have hmeta : ∀ dir ∈ z.disk.objectDirs, z.disk.node? (dir ++ [metadataFile]) ≠ some .dir := by
    intro dir hdir hnode
    exact hlaid.files dir hdir _ (mem_childNames_of_node (by simp [hnode])) (.inl rfl) hnode
  obtain ⟨es, d1, hwalk_run, hes, hwalk, hvac, htemps⟩ := DiskM.walk_spec z.root z.disk
    hlaid.unique hmeta fun dir hdir t ht htmp => hlaid.files dir hdir t ht (.inr (.inr htmp))
  rw [restore] at hrun
  obtain ⟨es', z₁, hw, hrest⟩ := ok_of_bind_ok hrun
  have hw' : walk z = .ok es { z with disk := d1 } := by
    rw [walk, bind_ok_apply (rfl : (get : ZoneM Zone) z = .ok z z)]
    exact onDisk_ok hwalk_run
  cases hw'.symm.trans hw
  obtain ⟨report₁, z₂, hloop, hpure⟩ := ok_of_bind_ok hrest
  cases hpure
  -- the directories whose metadata reads, one entry each, in walk order
  have hGnd : (z.disk.objectDirs.filter fun dir => (z.disk.metadataIn? dir).isSome).Nodup :=
    (nodup_objectDirs hlaid.unique).filter _
  have hinit : Restoring now z.partSize z.disk d1 [] [] { z with disk := d1 } :=
    { partSize := rfl
      drops := .refl
      tracked := fun j hj => by simp [Tiers.contains, hempty] at hj
      expired := fun _ h => by cases h
      unfit := fun _ h => by cases h }
  -- the loop restores the directories in walk order: the entries left are those of the
  -- directories left
  have hfin := forIn_inv_of_ok (fun _ rest _ z₃ => ∃ done left,
      z.disk.objectDirs.filter (fun dir => (z.disk.metadataIn? dir).isSome) = done ++ left ∧
      List.Forall₂ (fun dir r => ∃ e, r = .ok e ∧ Walked z.disk dir e) left rest ∧
      Restoring now z.partSize z.disk d1 done [] z₃) es ?_ ⟨[], _, rfl, hes, hinit⟩ hloop
  · obtain ⟨done, left, hsplit, hleft, hI⟩ := hfin
    obtain rfl := List.forall₂_nil_right_iff.mp hleft
    rw [List.append_nil] at hsplit
    have hgood : ∀ dir ∈ z.disk.objectDirs, ∀ m ∈ z.disk.metadataIn? dir, dir ∈ done :=
      fun dir hdir m hm => hsplit ▸ List.mem_filter.mpr ⟨hdir, by simp [Option.mem_def.mp hm]⟩
    refine ⟨fun dir hdir m hm hexp => hI.expired dir (hgood dir hdir m hm) m hm hexp,
      fun dir hdir hnone => hI.drops.vacant (hvac dir hdir hnone),
      fun dir hdir t ht => hI.drops.node_eq_none (htemps dir hdir t ht),
      fun dir hdir m hm name n node hn hnode hfit => ?_,
      fun i hi => (hI.tracked i hi).1⟩
    cases hexp : m.isExpired now
    · exact hI.unfit dir (hgood dir hdir m hm) m hm hexp name n node hn hnode hfit
    · exact hI.expired dir (hgood dir hdir m hm) m hm hexp _ (List.prefix_append _ _)
  · rintro doneEs x rest r₁ z₃ out z₄ - ⟨done, left, hsplit, hleft, hI⟩ hstep
    obtain ⟨dir, left', ⟨e, rfl, he⟩, hleft', rfl⟩ := List.forall₂_cons_right_iff.mp hleft
    obtain ⟨r₂, z₅, hobj, hpure⟩ := ok_of_bind_ok hstep
    cases hpure
    have hmem : ∀ D ∈ done ++ dir :: left', D ∈ z.disk.objectDirs := fun D hD =>
      (List.mem_filter.mp (hsplit ▸ hD)).1
    have hnew : dir ∉ done := fun h => (List.nodup_append.mp (hsplit ▸ hGnd)).2.2 dir h dir
      List.mem_cons_self rfl
    refine ⟨_, rfl, done ++ [dir], left', by rw [hsplit, List.append_assoc]; rfl, hleft',
      hI.restoreObject hlaid hwalk (fun D hD => hmem D (List.mem_append_left _ hD))
        (hmem dir (List.mem_append_right _ List.mem_cons_self)) hnew he hobj⟩


/-- A zone of part size four over a disk holding the directory of the object with metadata `m`,
its metadata file and the files `files`, with a policy of eight parts that tracks nothing. -/
def oneObject (m : ObjectMetadata) (files : List (String × Bytes)) : Zone :=
  let dir := objectDir m.id
  ⟨"/z", "z", 4,
    ⟨(List.range 4).map (fun k => (dir.take (k + 1), .dir)) ++
      (dir ++ [metadataFile], .file (DiskM.metadataBytes m)) ::
        files.map fun f => (dir ++ [f.1], .file f.2), 0⟩,
    Tiers.empty 8, Metrics.zero, [], true, none⟩

section Samples

/-- A property of what an option holds is decided by its one value; this comes before running
through every value of a finite type, which for a part number is every 32-bit number. -/
local instance (priority := high) decidableForallMemOption {α : Type} {p : α → Prop}
    [DecidablePred p] (o : Option α) : Decidable (∀ a ∈ o, p a) :=
  Option.decidableForallMem o

/-- An object of eight bytes stored with its part 0 and a temporary file: restoring tracks part 0
and leaves the zone consistent. -/
theorem restore_tracks_fitting_part :
    let m : ObjectMetadata := ⟨⟨"z", "/a"⟩, 0, 200, 8, [], 100⟩
    let z := oneObject m [("000000", [1, 2, 3, 4]), ("000000.tmp.0", [])]
    z.disk.LaidOut ∧ z.tiers.toList = [] ∧
      ∃ report z', restore 0 z = .ok report z' ∧ z'.tiers.contains ⟨m.id, 0⟩ = true ∧
        RestoredFrom 0 z z' := by
  intro m z
  have hlaid : z.disk.LaidOut :=
    ⟨by decide +kernel, by decide +kernel, by decide +kernel, by decide +kernel⟩
  have hempty : z.tiers.toList = [] := by decide +kernel
  have hrun : (match restore 0 z with
      | .ok _ z' => z'.tiers.contains ⟨m.id, 0⟩
      | .error .. => false) = true := by decide +kernel
  refine ⟨hlaid, hempty, ?_⟩
  revert hrun
  cases h : restore 0 z with
  | ok report z' => exact fun hc => ⟨report, z', rfl, hc, restore_leaves_consistent_zone 0 z hlaid hempty h⟩
  | error e z' => simp

/-- A file named by seven digits reads as part 1 but is not the file of part 1: when it does not
fit, restoring removes the file of part 1, which is not there, and the file read stays, so the
zone restored is not consistent. -/
theorem misnamed_part_survives_restore :
    let m : ObjectMetadata := ⟨⟨"z", "/a"⟩, 0, 200, 8, [], 100⟩
    let z := oneObject m [("0000001", Bytes.ofString "abc")]
    ∃ report z', restore 0 z = .ok report z' ∧
      z'.disk.node? (objectDir m.id ++ ["0000001"]) = some (.file (Bytes.ofString "abc")) ∧
      ¬ RestoredFrom 0 z z' := by
  intro m z
  have hdir : objectDir m.id ∈ z.disk.objectDirs := by decide +kernel
  have hnode : z.disk.node? (objectDir m.id ++ ["0000001"]) = some (.file (Bytes.ofString "abc")) :=
    by decide +kernel
  -- the metadata reads, and part 1 of the object it gives is four bytes, not three
  have hmeta : (match z.disk.metadataIn? (objectDir m.id) with
      | some m' => !validPart m' z.partSize 1 (Node.file (Bytes.ofString "abc")).size
      | none => false) = true := by decide +kernel
  have hrun : (match restore 0 z with
      | .ok _ z' => decide (z'.disk.node? (objectDir m.id ++ ["0000001"]) =
          some (.file (Bytes.ofString "abc")))
      | .error .. => false) = true := by decide +kernel
  obtain ⟨m', hm', hfit⟩ : ∃ m', z.disk.metadataIn? (objectDir m.id) = some m' ∧
      validPart m' z.partSize 1 (Node.file (Bytes.ofString "abc")).size = false := by
    revert hmeta
    cases z.disk.metadataIn? (objectDir m.id) with
    | some m' => exact fun h => ⟨m', rfl, by simpa using h⟩
    | none => simp
  revert hrun
  cases h : restore 0 z with
  | ok report z' =>
    refine fun hc => ⟨report, z', rfl, of_decide_eq_true hc, fun hR => ?_⟩
    have hgone := hR.unfit _ hdir m' hm' "0000001" 1 _ (by decide +kernel) hnode hfit
    rw [of_decide_eq_true hc] at hgone
    cases hgone
  | error e z' => simp

end Samples

end Zone

end PartCache
