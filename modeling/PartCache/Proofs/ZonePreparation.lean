import PartCache.Proofs.SettingsCodec

/-!
# Readying a zone's root for a part size

A zone records the part size its parts are cut with in a settings file at its root, and
`DiskM.prepareRoot` readies the root for the part size in use before the zone opens.  Parts cut
with another size cannot be read back, so the root is kept only when its settings read as that
size, or when nothing stands in it; otherwise every entry is removed and the settings are
written anew.

Of the JSON reader, the proofs here use only that the settings file written for a part size
reads back as that size (`ofJson_settingsText`).

A wipe removes each name the root lists, a directory with its contents and a file alone
(`DiskM.wipe_ok`).  In a tree a file system holds, every entry's way down stands
(`Disk.Rooted`), so whatever stands below the root stands under a listed name and a wipe leaves
nothing below the root (`DiskM.wipe_bare`).  Readying the root does one of three things
(`DiskM.prepareRoot_ok`): it keeps a root whose settings read as the size, writes the settings
into a root that lists nothing, or wipes the root and then writes them.  In a tree whose paths
stand once each, the wipe succeeds (`DiskM.wipe_succeeds`), and so does readying the root unless a
directory stands at the settings file's name (`DiskM.prepareRoot_succeeds`).  When readying
succeeds the settings read as the part size; it reports no wipe exactly when they did already or
nothing stood below the root, and then every other path is as it was, and otherwise nothing but
the settings file is left below the root.
-/

set_option autoImplicit false

namespace PartCache

/-! ## Readying the root -/

namespace Disk

/-- Every entry's way down stands: the directories above it exist.  The tree a file system holds
is always rooted. -/
def Rooted (d : Disk) : Prop := ∀ e ∈ d.entries, Ready d e.1.dropLast

instance (d : Disk) (dir : RelPath) : Decidable (Ready d dir) :=
  inferInstanceAs (Decidable (∀ k ≤ dir.length, d.node? (dir.take k) = some .dir))

instance (d : Disk) : Decidable d.Rooted :=
  inferInstanceAs (Decidable (∀ e ∈ d.entries, Ready d e.1.dropLast))

/-- Nothing stands below the root. -/
def Bare (d : Disk) : Prop := ∀ p, p ≠ [] → d.node? p = none

/-- The root's settings file reads as the part size `ps`. -/
def RecordsPartSize (d : Disk) (ps : UInt64) : Prop :=
  ∃ raw, d.readFile [Layout.settingsFile] = .ok raw ∧ ZoneSettings.ofJson raw = .ok ⟨ps⟩

variable {d : Disk}

/-- Whatever stands below the root of a rooted tree stands under a name the root lists. -/
theorem Rooted.mem_childNames (hr : d.Rooted) {a : String} {rest : RelPath}
    (h : d.node? (a :: rest) ≠ none) : a ∈ d.childNames [] := by
  apply mem_childNames_of_node
  obtain ⟨e, he, hfst⟩ := List.mem_map.mp (mem_paths_of_node (List.cons_ne_nil a rest) h)
  cases rest with
  | nil => exact h
  | cons b rest =>
    -- the first directory on the way down to the entry is the one named `a`
    have hway := hr e he 1 (by simp [hfst])
    rw [hfst, List.dropLast_cons_cons, List.take_succ_cons, List.take_zero] at hway
    rw [List.nil_append, hway]
    simp

/-- Removing a directory drops its tree. -/
theorem removeTree_ok {p : RelPath} {d' : Disk} (h : d.removeTree p = .ok d') :
    d' = d.dropTree p := by
  unfold removeTree at h
  cases hl : d.look p with
  | error e => simp [hl, bind, Except.bind] at h
  | ok n =>
    simp only [hl, bind, Except.bind] at h
    split at h
    · cases h
      rfl
    · cases h
    · cases h

/-- A bare root lists nothing. -/
theorem Bare.childNames (hb : d.Bare) : d.childNames [] = [] :=
  List.eq_nil_iff_forall_not_mem.mpr fun a ha =>
    node?_ne_none_of_mem (mem_childNames_iff.mp ha) (hb [a] (List.cons_ne_nil a []))

/-- A bare root has no settings file. -/
theorem Bare.readFile (hb : d.Bare) : d.readFile [Layout.settingsFile] = .error .notFound := by
  have hread := readFile_of_ready (ready_root d) settingsFile_fits
  rw [List.nil_append, hb _ (List.cons_ne_nil _ _)] at hread
  exact hread

/-- A rooted root that lists nothing is bare. -/
theorem Rooted.bare (hr : d.Rooted) (hc : d.childNames [] = []) : d.Bare := by
  intro p hp
  obtain ⟨a, rest, rfl⟩ := List.exists_cons_of_ne_nil hp
  by_contra h
  simpa [hc] using hr.mem_childNames h

end Disk

namespace DiskM

open Disk

theorem ok_of_change {call : Disk → Except OsError Disk} {d d' : Disk} {u : Unit}
    (h : change call d = .ok u d') : call d = .ok d' := by
  unfold change at h
  split at h
  · next hc => cases h; exact hc
  · cases h

theorem ok_of_sys {α : Type} {call : Disk → Except OsError α} {d d' : Disk} {a : α}
    (h : sys call d = .ok a d') : call d = .ok a ∧ d' = d := by
  unfold sys at h
  split at h
  · next hc => cases h; exact ⟨hc, rfl⟩
  · cases h

/-- The root always stands, so making it changes nothing. -/
theorem change_createDirAll_root (d : Disk) : change (fun d => d.createDirAll []) d = .ok () d :=
  change_ok (by simp [Disk.createDirAll])

/-- A wipe that succeeds drops trees only at names of the root, and leaves nothing under any
name the root listed. -/
theorem wipe_ok {d d' : Disk} {u : Unit} (h : wipe d = .ok u d') :
    Drops (fun r => ∃ name, r = [name]) d d' ∧ ∀ name ∈ d.childNames [], Vacant d' [name] := by
  obtain ⟨names, d₁, hlist, hloop⟩ := ok_of_bind_ok h
  obtain ⟨hnames, hd⟩ := ok_of_sys hlist
  rw [listDir_of_ready (ready_root d), Except.ok.injEq] at hnames
  subst hnames d₁
  obtain ⟨r, d₂, hloop, hpure⟩ := ok_of_bind_ok hloop
  cases hpure
  -- each step drops the tree at its name, which then stays vacant
  refine forIn_inv_of_ok
    (fun done _ _ s => Drops (fun r => ∃ name, r = [name]) d s ∧ ∀ name ∈ done, Vacant s [name])
    (d.childNames []) ?_ ⟨.refl, fun _ h => absurd h List.not_mem_nil⟩ hloop
  rintro done x rest b s r s' - ⟨hdrops, hvac⟩ hf
  rw [bind_ok_apply (DiskM.get_apply s)] at hf
  -- a directory is removed with its contents, a file unlinked: either way its tree is dropped
  have hstep : r = .yield () ∧ s' = s.dropTree [x] := by
    split at hf
    · obtain ⟨u, s₁, hc, hp⟩ := ok_of_bind_ok hf
      cases hp
      exact ⟨rfl, Disk.removeTree_ok (ok_of_change hc)⟩
    · obtain ⟨u, s₁, hc, hp⟩ := ok_of_bind_ok hf
      cases hp
      exact ⟨rfl, Disk.removeFile_ok _ (ok_of_change hc)⟩
  obtain ⟨rfl, rfl⟩ := hstep
  refine ⟨(), rfl, .drop [x] hdrops ⟨x, rfl⟩, fun name hname => ?_⟩
  rcases List.mem_append.mp hname with hname | hname
  · exact (hvac name hname).dropTree [x]
  · rw [List.mem_singleton.mp hname]
    exact vacant_dropTree s (List.cons_ne_nil x [])

/-- After a wipe of a rooted tree nothing stands below the root. -/
theorem wipe_bare {d d' : Disk} {u : Unit} (hr : d.Rooted) (h : wipe d = .ok u d') : d'.Bare := by
  obtain ⟨hdrops, hvac⟩ := wipe_ok h
  intro p hp
  obtain ⟨a, rest, rfl⟩ := List.exists_cons_of_ne_nil hp
  by_cases ha : d.node? (a :: rest) = none
  · exact hdrops.node_eq_none ha
  · exact hvac a (hr.mem_childNames ha) (a :: rest) ⟨rest, rfl⟩

/-- A wipe of a tree whose paths stand once each succeeds. -/
theorem wipe_succeeds {d : Disk} (hnd : (d.entries.map Prod.fst).Nodup) : ∃ d', wipe d = .ok () d' := by
  have hnames := nodup_childNames hnd []
  suffices h : ∃ u d', wipe d = .ok u d' ∧ True by
    obtain ⟨u, d', h, -⟩ := h
    exact ⟨d', h⟩
  rw [wipe, bind_ok_apply (sys_ok (listDir_of_ready (ready_root d)))]
  -- every name still to do keeps its node: the names removed before it are other names
  refine exists_ok_bind (forIn_ok_of_step
    (fun _ rest _ s => ∀ name ∈ rest, s.node? [name] = d.node? [name]) _ ?_ () d (fun _ _ => rfl))
    fun _ d' _ => ⟨(), d', rfl, trivial⟩
  intro done x rest b s hd hkeep
  rw [← hd] at hnames
  have hx : x ∉ rest := (List.nodup_cons.mp (List.nodup_append.mp hnames).2.1).1
  have hmem : x ∈ d.childNames [] := hd ▸ List.mem_append_right _ List.mem_cons_self
  have hnode : s.node? [x] ≠ none := by
    rw [hkeep x List.mem_cons_self]
    exact node?_ne_none_of_mem (mem_childNames_iff.mp hmem)
  refine ⟨(), s.dropTree [x], ?_, fun name hname => ?_⟩
  · rw [bind_ok_apply (DiskM.get_apply s)]
    split
    · -- a directory, with the root above it
      next hdir =>
      have hready : Ready s [x] := fun k hk => by
        rcases Nat.le_one_iff_eq_zero_or_eq_one.mp hk with rfl | rfl
        · rfl
        · exact hdir
      rw [bind_ok_apply (change_ok (removeTree_of_ready hready))]
      rfl
    · -- a file
      next hdir =>
      obtain ⟨data, hfile⟩ : ∃ data, s.node? [x] = some (.file data) := by
        cases hn : s.node? [x] with
        | none => exact absurd hn hnode
        | some n =>
          cases n with
          | file data => exact ⟨data, rfl⟩
          | dir => exact absurd hn hdir
      rw [bind_ok_apply (change_ok (removeFile_of_ready s (ready_root s) hfile))]
      rfl
  · -- a later name is another name, off the tree just dropped
    have hne : x ≠ name := fun h => hx (h ▸ hname)
    rw [node?_dropTree_outside s (by simpa using hne), hkeep name (List.mem_cons_of_mem x hname)]

/-- Recording the settings writes the settings file of the part size, unless a directory stands
at its name: the way to the file is the root, which always stands. -/
theorem recordSettings_apply (ps : UInt64) (d : Disk) :
    recordSettings ps d =
      if d.node? [Layout.settingsFile] = some .dir then .error OsError.isDir.toCache d
      else .ok () (d.put [Layout.settingsFile] (.file (settingsText ps))) := by
  have hlook := look_of_ready d (ready_root d) settingsFile_fits
  rw [List.nil_append] at hlook
  have hwrite : d.writeFile [Layout.settingsFile] (settingsText ps) =
      if d.node? [Layout.settingsFile] = some .dir then .error .isDir
      else .ok (d.put [Layout.settingsFile] (.file (settingsText ps))) := by
    simp only [Disk.writeFile, hlook, bind, Except.bind]
    split
    · next hdir => rw [if_pos hdir]; rfl
    · next hdir => rw [if_neg hdir]; rfl
  unfold recordSettings
  split
  · next hdir => exact change_error (by rw [hwrite, if_pos hdir])
  · next hdir => exact change_ok (by rw [hwrite, if_neg hdir])

theorem recordSettings_ok {ps : UInt64} {d d' : Disk} {u : Unit} (h : recordSettings ps d = .ok u d') :
    d' = d.put [Layout.settingsFile] (.file (settingsText ps)) := by
  rw [recordSettings_apply] at h
  split at h
  · cases h
  · cases h
    rfl

/-- Once written, the settings file reads as its part size. -/
theorem recordsPartSize_put (d : Disk) (ps : UInt64) :
    (d.put [Layout.settingsFile] (.file (settingsText ps))).RecordsPartSize ps := by
  refine ⟨settingsText ps, ?_, ofJson_settingsText ps⟩
  have hread := readFile_of_ready (ready_root (d.put [Layout.settingsFile] (.file (settingsText ps))))
    settingsFile_fits
  rw [List.nil_append, node?_put _ _ _ _ (List.cons_ne_nil _ _), if_pos rfl] at hread
  exact hread

/-- Emptying the root and recording the settings, then reporting the wipe. -/
theorem wipe_record_ok {ps : UInt64} {d d' : Disk} {w : Bool}
    (h : (do wipe; recordSettings ps; pure true : DiskM Bool) d = .ok w d') :
    w = true ∧ ∃ d₁, wipe d = .ok () d₁ ∧ d' = d₁.put [Layout.settingsFile] (.file (settingsText ps)) := by
  obtain ⟨u, d₁, hwipe, h⟩ := ok_of_bind_ok h
  obtain ⟨u', d₂, hrec, hp⟩ := ok_of_bind_ok h
  cases hp
  exact ⟨rfl, d₁, hwipe, recordSettings_ok hrec⟩

theorem recordsPartSize_iff_of_readFile {ps : UInt64} {d : Disk} {raw : Bytes}
    (h : d.readFile [Layout.settingsFile] = .ok raw) :
    d.RecordsPartSize ps ↔ ZoneSettings.ofJson raw = .ok ⟨ps⟩ := by
  constructor
  · rintro ⟨raw', hr, hj⟩
    rw [h] at hr
    cases hr
    exact hj
  · exact fun hj => ⟨raw, h, hj⟩

/-- What readying the root can do.  It keeps a root whose settings read as the part size, and
records the size in a root that lists nothing and has no settings file; in every other case it
empties the root, records the size and reports the wipe. -/
theorem prepareRoot_ok {ps : UInt64} {d d' : Disk} {w : Bool} (h : prepareRoot ps d = .ok w d') :
    (w = false ∧ d' = d ∧ d.RecordsPartSize ps) ∨
    (w = false ∧ d.readFile [Layout.settingsFile] = .error .notFound ∧ d.childNames [] = [] ∧
      d' = d.put [Layout.settingsFile] (.file (settingsText ps))) ∨
    (w = true ∧ ¬ d.RecordsPartSize ps ∧
      ¬ (d.readFile [Layout.settingsFile] = .error .notFound ∧ d.childNames [] = []) ∧
      ∃ d₁, wipe d = .ok () d₁ ∧ d' = d₁.put [Layout.settingsFile] (.file (settingsText ps))) := by
  rw [prepareRoot, bind_ok_apply (change_createDirAll_root d), bind_ok_apply (DiskM.get_apply d)] at h
  cases hread : d.readFile [Layout.settingsFile] with
  | ok raw =>
    -- the settings file is there: what it reads as decides
    simp only [hread] at h
    have hnf : ¬ (Except.ok raw = .error OsError.notFound ∧ d.childNames [] = []) := by simp
    have hrec : d.RecordsPartSize ps ↔ _ := recordsPartSize_iff_of_readFile hread
    cases hjson : ZoneSettings.ofJson raw with
    | ok s =>
      simp only [hjson] at h
      by_cases hps : s.partSize = ps
      · rw [if_pos hps] at h
        cases h
        exact .inl ⟨rfl, rfl, hrec.mpr (by rw [hjson, ← hps])⟩
      · rw [if_neg hps] at h
        obtain ⟨rfl, hwipe⟩ := wipe_record_ok h
        refine .inr (.inr ⟨rfl, fun hr => hps ?_, hnf, hwipe⟩)
        have hj := hrec.mp hr
        rw [hjson] at hj
        cases hj
        rfl
    | error msg =>
      simp only [hjson] at h
      obtain ⟨rfl, hwipe⟩ := wipe_record_ok h
      refine .inr (.inr ⟨rfl, fun hr => ?_, hnf, hwipe⟩)
      have hj := hrec.mp hr
      rw [hjson] at hj
      cases hj
  | error e =>
    cases e with
    | notFound =>
      -- no settings file: a root that lists nothing is kept
      simp only [hread] at h
      have hnr : ¬ d.RecordsPartSize ps := by
        rintro ⟨raw, hr, -⟩
        simp [hread] at hr
      by_cases hc : d.childNames [] = []
      · rw [if_pos (by simp [hc])] at h
        obtain ⟨u, d₁, hrec, hp⟩ := ok_of_bind_ok h
        cases hp
        exact .inr (.inl ⟨rfl, rfl, hc, recordSettings_ok hrec⟩)
      · rw [if_neg (by simpa using hc)] at h
        obtain ⟨rfl, hwipe⟩ := wipe_record_ok h
        exact .inr (.inr ⟨rfl, hnr, fun hh => hc hh.2, hwipe⟩)
    | _ => simp [hread, throw, throwThe, MonadExceptOf.throw, EStateM.throw] at h

/-- Readying the root of a tree whose paths stand once each succeeds, unless a directory stands
at the settings file's name. -/
theorem prepareRoot_succeeds (ps : UInt64) {d : Disk} (hnd : (d.entries.map Prod.fst).Nodup)
    (hdir : d.node? [Layout.settingsFile] ≠ some .dir) : ∃ w d', prepareRoot ps d = .ok w d' := by
  -- a wipe leaves no directory at the settings file's name, so the settings are written after it
  have hwipe : ∃ w d', (do wipe; recordSettings ps; pure true : DiskM Bool) d = .ok w d' := by
    obtain ⟨d₁, hw⟩ := wipe_succeeds hnd
    have hd₁ : d₁.node? [Layout.settingsFile] ≠ some .dir := by
      rcases (wipe_ok hw).1.node_eq_or [Layout.settingsFile] with h | h <;> rw [h]
      · exact hdir
      · simp
    refine ⟨true, d₁.put [Layout.settingsFile] (.file (settingsText ps)), ?_⟩
    rw [bind_ok_apply hw, bind_ok_apply ((recordSettings_apply ps d₁).trans (if_neg hd₁))]
    rfl
  have hread := readFile_of_ready (ready_root d) settingsFile_fits
  rw [List.nil_append] at hread
  rw [prepareRoot, bind_ok_apply (change_createDirAll_root d), bind_ok_apply (DiskM.get_apply d)]
  cases hn : d.node? [Layout.settingsFile] with
  | none =>
    -- no settings file: the root is kept when it lists nothing, and wiped otherwise
    rw [hn] at hread
    simp only [hread]
    by_cases hc : (d.childNames []).isEmpty = true
    · rw [if_pos hc]
      refine ⟨false, d.put [Layout.settingsFile] (.file (settingsText ps)), ?_⟩
      rw [bind_ok_apply ((recordSettings_apply ps d).trans (if_neg hdir))]
      rfl
    · rw [if_neg hc]
      exact hwipe
  | some n =>
    cases n with
    | dir => exact absurd hn hdir
    | file raw =>
      -- a settings file: the root is kept when it reads as the size, and wiped otherwise
      rw [hn] at hread
      simp only [hread]
      cases hj : ZoneSettings.ofJson raw with
      | ok s =>
        simp only
        by_cases hps : s.partSize = ps
        · rw [if_pos hps]
          exact ⟨false, d, rfl⟩
        · rw [if_neg hps]
          exact hwipe
      | error e => exact hwipe

/-- Readying the root for a part size `ps`, from any tree a file system holds.  When it
succeeds, the settings file reads as `ps`.  It reports no wipe exactly when the settings already
read as `ps` or nothing stood below the root, not even settings, and then every path but the
settings file holds what it held; otherwise it reports a wipe, and nothing but the settings file
stands below the root. -/
theorem prepareRoot_wipes_unless_settings_match (ps : UInt64) (d d' : Disk) (w : Bool)
    (hr : d.Rooted) (h : prepareRoot ps d = .ok w d') :
    d'.RecordsPartSize ps ∧
    (w = false ↔ d.RecordsPartSize ps ∨ d.Bare) ∧
    (w = false → ∀ p, p ≠ [Layout.settingsFile] → d'.node? p = d.node? p) ∧
    (w = true → ∀ p, p ≠ [] → p ≠ [Layout.settingsFile] → d'.node? p = none) := by
  rcases prepareRoot_ok h with ⟨rfl, rfl, hrec⟩ | ⟨rfl, -, hc, rfl⟩ | ⟨rfl, hnr, hne, d₁, hwipe, rfl⟩
  · -- settings that match: the root is kept
    exact ⟨hrec, by simp [hrec], fun _ _ _ => rfl, by simp⟩
  · -- a root that held nothing: only the settings file is written
    refine ⟨recordsPartSize_put d ps, by simp [hr.bare hc], fun _ p hp => ?_, by simp⟩
    by_cases hp0 : p = []
    · subst hp0
      rfl
    · rw [node?_put _ _ _ _ hp0, if_neg hp]
  · -- anything else: the root is emptied
    have hbare : ¬ d.Bare := fun hb => hne ⟨hb.readFile, hb.childNames⟩
    refine ⟨recordsPartSize_put d₁ ps, by simp [hnr, hbare], by simp, fun _ p hp hps => ?_⟩
    rw [node?_put _ _ _ _ hp, if_neg hps]
    exact wipe_bare hr hwipe p hp

/-- A root holding a directory with a file in it, and no settings file, is emptied and given the
settings of its part size. -/
theorem prepareRoot_wipes_stray_directory :
    let d : Disk := ⟨[(["a"], .dir), (["a", "b"], .file [1])], 0⟩
    let d' : Disk := ⟨[([Layout.settingsFile], .file (settingsText 4096))], 0⟩
    d.Rooted ∧ prepareRoot 4096 d = .ok true d' ∧ d'.RecordsPartSize 4096 ∧
      ∀ p, p ≠ [] → p ≠ [Layout.settingsFile] → d'.node? p = none := by
  intro d d'
  have hr : d.Rooted := by decide
  have h : prepareRoot 4096 d = .ok true d' := rfl
  obtain ⟨hrec, -, -, hgone⟩ := prepareRoot_wipes_unless_settings_match 4096 d d' true hr h
  exact ⟨hr, h, hrec, hgone rfl⟩

end DiskM

end PartCache
