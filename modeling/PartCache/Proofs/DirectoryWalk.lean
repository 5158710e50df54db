import Mathlib
import PartCache.Proofs.ObjectFiles

/-!
# Walking the object directories

The walk visits every object directory four levels below the root and reads it: a directory
whose metadata file is missing or does not read is removed, temporary files are removed, and the
part files are listed with their sizes.  This module says what one walk does to a zone directory
whose paths stand once and whose object directories hold files, not directories, at the
metadata and temporary names.

What a run removes is described by `Disk.Drops A d d'`: `d'` is `d` with trees dropped at roots
that `A` admits.  Nodes off every root are unchanged (`Disk.Drops.node_eq`), and a directory
whose ancestors all stand (`Ready`) stays ready when no root lies on its way
(`Disk.Drops.ready`).

The object directories are distinct and ready (`Disk.nodup_objectDirs`,
`Disk.ready_of_mem_objectDirs`).  Reading a directory whose metadata reads lists its part files,
as a permutation of `Disk.partList`, and drops its temporary files
(`DiskM.partFiles_of_ready`, `DiskM.readObjectDir_of_metadata`); one whose metadata does not
read is dropped whole (`DiskM.readObjectDir_of_no_metadata`).

The walk keeps `DiskM.WalkedUpTo` from one directory to the next (`DiskM.WalkedUpTo.read`), so
it succeeds; its entries are, in order, those of the object directories whose metadata reads,
each with that metadata and its part files; it drops only unreadable object directories and
temporary files; and none of these is left (`DiskM.walk_spec`).  Discarding an object drops its
directory and nothing else (`DiskM.discard_ok`).

The loops are read with `forIn_ok_of_step` and `forIn_inv_of_ok`: an invariant of the elements
done and of those still to do, kept by every step, holds at the end of the run.
-/

set_option autoImplicit false

namespace PartCache

section Loop

variable {ε σ α β : Type} (I : List α → List α → β → σ → Prop)
  {f : α → β → EStateM ε σ (ForInStep β)}

/-- A bound pair of steps that succeeds is a first step that succeeds and a second one that
succeeds from where it ended. -/
theorem ok_of_bind_ok {γ : Type} {x : EStateM ε σ γ} {g : γ → EStateM ε σ β} {s s' : σ} {b : β}
    (h : (x >>= g) s = .ok b s') : ∃ a t, x s = .ok a t ∧ g a t = .ok b s' := by
  cases hx : x s with
  | ok a t => exact ⟨a, t, rfl, by rwa [bind_ok_apply hx] at h⟩
  | error e t => rw [bind_error_apply hx] at h; cases h

/-- A loop over `xs` whose every step, from a state with `I` of the elements done and still to
do, succeeds and goes on at a state with `I` one element further, succeeds with `I` of all of
them done. -/
theorem forIn_ok_of_step (xs : List α)
    (hstep : ∀ done x rest b s, done ++ x :: rest = xs → I done (x :: rest) b s →
      ∃ b' s', f x b s = .ok (.yield b') s' ∧ I (done ++ [x]) rest b' s')
    (b : β) (s : σ) (h : I [] xs b s) : ∃ b' s', forIn xs b f s = .ok b' s' ∧ I xs [] b' s' := by
  -- by induction on the elements still to do
  suffices key : ∀ rest done b s, done ++ rest = xs → I done rest b s →
      ∃ b' s', forIn rest b f s = .ok b' s' ∧ I xs [] b' s' from key xs [] b s rfl h
  intro rest
  induction rest with
  | nil => exact fun done b s hd h => ⟨b, s, rfl, by simpa [← hd] using h⟩
  | cons x rest ih =>
    intro done b s hd h
    obtain ⟨b₁, s₁, hx, h₁⟩ := hstep done x rest b s hd h
    obtain ⟨b', s', hrun, h'⟩ := ih (done ++ [x]) b₁ s₁ (by simpa using hd) h₁
    exact ⟨b', s', by rw [List.forIn_cons, bind_ok_apply hx]; exact hrun, h'⟩

/-- A loop over `xs` that succeeds, each of whose steps succeeds only by going on at a state
with `I` one element further, ends with `I` of all the elements done. -/
theorem forIn_inv_of_ok (xs : List α)
    (hstep : ∀ done x rest b s r s', done ++ x :: rest = xs → I done (x :: rest) b s →
      f x b s = .ok r s' → ∃ b', r = .yield b' ∧ I (done ++ [x]) rest b' s')
    {b b' : β} {s s' : σ} (h : I [] xs b s) (hrun : forIn xs b f s = .ok b' s') :
    I xs [] b' s' := by
  suffices key : ∀ rest done b s, done ++ rest = xs → I done rest b s →
      forIn rest b f s = .ok b' s' → I xs [] b' s' from key xs [] b s rfl h hrun
  intro rest
  induction rest with
  | nil =>
    intro done b s hd h hrun
    cases hrun
    simpa [← hd] using h
  | cons x rest ih =>
    intro done b s hd h hrun
    rw [List.forIn_cons] at hrun
    cases hx : f x b s with
    | ok r t =>
      rw [bind_ok_apply hx] at hrun
      obtain ⟨c, rfl, hc⟩ := hstep done x rest b s r t hd h hx
      exact ih (done ++ [x]) c t (by simpa using hd) hc hrun
    | error e t =>
      rw [bind_error_apply hx] at hrun
      cases hrun

end Loop

namespace Layout

/-- A run that occurs in a list has its characters in it. -/
theorem mem_of_occursIn {pat cs : List Char} (h : occursIn pat cs = true) {c : Char}
    (hc : c ∈ pat) : c ∈ cs := by
  induction cs with
  | nil => simp_all [occursIn]
  | cons x rest ih =>
    simp only [occursIn, Bool.or_eq_true, beq_iff_eq] at h
    rcases h with h | h
    · exact (List.take_sublist _ _).subset (h ▸ hc)
    · exact List.mem_cons_of_mem x (ih h)

/-- A name that stands for a part is digits only, so it is no temporary name. -/
theorem isTempName_eq_false {name : String} {n : UInt32} (h : partNumber? name = some n) :
    isTempName name = false := by
  have hdigits : name.toList.all Char.isDigit = true := by
    unfold partNumber? Decimal.digitsValue? at h
    split at h
    · cases h
    split at h
    · next hv =>
      split at hv
      · cases hv
      split at hv
      · assumption
      · cases hv
    · cases h
  cases ht : isTempName name
  · rfl
  have hdot := mem_of_occursIn ht (c := '.') (by simp [tempMark])
  exact absurd (List.all_eq_true.mp hdigits '.' hdot) (by decide)

theorem isTempName_metadataFile : isTempName metadataFile = false := by decide

theorem partFileName_ne_metadataFile (n : UInt32) : partFileName n ≠ metadataFile := by
  intro h
  have ho : 'o' ∈ (partFileName n).toList := by rw [h]; decide
  simp only [partFileName, Decimal.padded, Decimal.paddedDigits, String.toList_ofList,
    List.mem_append, List.mem_replicate] at ho
  rcases ho with ⟨-, h0⟩ | hd
  · exact absurd h0 (by decide)
  · exact absurd (List.all_eq_true.mp (Decimal.digits_all_isDigit _) 'o' hd) (by decide)

end Layout

namespace Disk

/-- `d'` is `d` with the trees at some paths dropped one after another, each path one that `A`
admits. -/
inductive Drops (A : RelPath → Prop) (d : Disk) : Disk → Prop
  | refl : Drops A d d
  | drop {d' : Disk} (r : RelPath) : Drops A d d' → A r → Drops A d (d'.dropTree r)

namespace Drops

variable {A B : RelPath → Prop} {d d₁ d₂ d' : Disk}

theorem single {p : RelPath} (hp : A p) : Drops A d (d.dropTree p) := .drop p .refl hp

theorem trans (h₁ : Drops A d d₁) (h₂ : Drops A d₁ d₂) : Drops A d d₂ := by
  induction h₂ with
  | refl => exact h₁
  | drop r _ hr ih => exact .drop r ih hr

theorem mono (hAB : ∀ r, A r → B r) (h : Drops A d d') : Drops B d d' := by
  induction h with
  | refl => exact .refl
  | drop r _ hr ih => exact .drop r ih (hAB r hr)

/-- A path that none of the dropped paths leads to keeps its node. -/
theorem node_eq {q : RelPath} (h : Drops A d d') (hq : ∀ r, A r → ¬ r <+: q) :
    d'.node? q = d.node? q := by
  induction h with
  | refl => rfl
  | drop r _ hr ih => rw [node?_dropTree_outside _ (hq r hr), ih]

/-- Dropping trees only takes nodes away. -/
theorem node_eq_or (h : Drops A d d') (q : RelPath) :
    d'.node? q = d.node? q ∨ d'.node? q = none := by
  induction h with
  | refl => exact .inl rfl
  | drop r _ _ ih =>
    by_cases hq : q = []
    · subst hq; exact .inl rfl
    rw [node?_dropTree _ r q hq]
    split
    · exact .inr rfl
    · exact ih

theorem node_eq_none (h : Drops A d d') {q : RelPath} (hq : d.node? q = none) :
    d'.node? q = none := by
  rcases h.node_eq_or q with h | h
  · rw [h, hq]
  · exact h

theorem vacant (h : Drops A d d') {p : RelPath} (hv : Vacant d p) : Vacant d' p := by
  induction h with
  | refl => exact hv
  | drop r _ _ ih => exact ih.dropTree r

/-- The way down to a directory that none of the dropped paths leads to stays. -/
theorem ready (h : Drops A d d') {dir : RelPath} (hd : Ready d dir)
    (hA : ∀ r, A r → ¬ r <+: dir) : Ready d' dir := fun k hk => by
  rw [h.node_eq fun r hr hpre => hA r hr (hpre.trans (List.take_prefix k dir))]
  exact hd k hk

/-- A directory stays ready when only entries inside it are dropped. -/
theorem ready_of_children {dir : RelPath} (h : Drops (fun r => ∃ name, r = dir ++ [name]) d d')
    (hd : Ready d dir) : Ready d' dir :=
  h.ready hd fun r hr hpre => by
    obtain ⟨name, rfl⟩ := hr
    have := hpre.length_le
    simp only [List.length_append, List.length_singleton] at this
    omega

end Drops

/-- The paths of the entries directly inside `dir` are `dir` and one more name. -/
theorem eq_append_of_child {dir q : RelPath} (hlen : q.length = dir.length + 1)
    (htake : q.take dir.length = dir) : ∃ x, q = dir ++ [x] ∧ q.getLast? = some x := by
  have hdrop : (q.drop dir.length).length = 1 := by simp [hlen]
  obtain ⟨x, hx⟩ := List.length_eq_one_iff.mp hdrop
  have hq : q = dir ++ [x] := by rw [← List.take_append_drop dir.length q, htake, hx]
  exact ⟨x, hq, by simp [hq]⟩

/-- Which names `childNames` lists, entry by entry. -/
theorem childNames_eq (d : Disk) (dir : RelPath) :
    d.childNames dir = (d.entries.map Prod.fst).filterMap fun q =>
      if q.length = dir.length + 1 && q.take dir.length == dir then q.getLast? else none := by
  simp [childNames, List.filterMap_map]

theorem mem_childNames_iff {d : Disk} {dir : RelPath} {name : String} :
    name ∈ d.childNames dir ↔ dir ++ [name] ∈ d.entries.map Prod.fst := by
  rw [childNames_eq, List.mem_filterMap]
  constructor
  · rintro ⟨q, hq, hname⟩
    split at hname
    · next hc =>
      simp only [Bool.and_eq_true, decide_eq_true_eq, beq_iff_eq] at hc
      obtain ⟨x, rfl, hx⟩ := eq_append_of_child hc.1 hc.2
      rw [hx] at hname
      cases hname
      exact hq
    · cases hname
  · intro h
    exact ⟨dir ++ [name], h, by simp⟩

/-- A path below the root where something stands has an entry. -/
theorem mem_paths_of_node {d : Disk} {p : RelPath} (hp : p ≠ []) (h : d.node? p ≠ none) :
    p ∈ d.entries.map Prod.fst := by
  unfold node? at h
  rw [if_neg hp] at h
  obtain ⟨e, he⟩ := Option.ne_none_iff_exists'.mp h
  obtain ⟨e', hfind, -⟩ := Option.map_eq_some_iff.mp he
  have hq : e'.1 = p := by simpa using List.find?_some hfind
  exact List.mem_map.mpr ⟨e', List.mem_of_find?_eq_some hfind, hq⟩

/-- A name that stands in a directory is listed in it. -/
theorem mem_childNames_of_node {d : Disk} {dir : RelPath} {name : String}
    (h : d.node? (dir ++ [name]) ≠ none) : name ∈ d.childNames dir :=
  mem_childNames_iff.mpr (mem_paths_of_node (by simp) h)

/-- In a tree whose paths stand once each, a directory lists each name once. -/
theorem nodup_childNames {d : Disk} (h : (d.entries.map Prod.fst).Nodup) (dir : RelPath) :
    (d.childNames dir).Nodup := by
  rw [childNames_eq]
  refine List.Nodup.filterMap (fun q q' x hx hx' => ?_) h
  split at hx
  · next hc =>
    split at hx'
    · next hc' =>
      simp only [Bool.and_eq_true, decide_eq_true_eq, beq_iff_eq] at hc hc'
      obtain ⟨y, rfl, hy⟩ := eq_append_of_child hc.1 hc.2
      obtain ⟨y', rfl, hy'⟩ := eq_append_of_child hc'.1 hc'.2
      rw [hy, Option.mem_def, Option.some.injEq] at hx
      rw [hy', Option.mem_def, Option.some.injEq] at hx'
      rw [hx, hx']
    · cases hx'
  · cases hx

/-- Dropping trees that lead to no entry of `dir` leaves what it lists. -/
theorem childNames_drops {A : RelPath → Prop} {d d' : Disk} (h : Drops A d d') {dir : RelPath}
    (hA : ∀ r, A r → ∀ x, ¬ r <+: dir ++ [x]) : d'.childNames dir = d.childNames dir := by
  induction h with
  | refl => rfl
  | drop r _ hr' ih =>
    rw [← ih]
    have hr := hA r hr'
    simp only [childNames, dropTree, List.filterMap_filter]
    refine List.filterMap_congr fun e _ => ?_
    split
    · rfl
    · next hdrop =>
      split
      · next hc =>
        simp only [Bool.and_eq_true, decide_eq_true_eq, beq_iff_eq] at hc
        obtain ⟨x, hx, -⟩ := eq_append_of_child hc.1 hc.2
        exfalso
        simp only [Bool.not_eq_true', Bool.not_eq_false, Bool.or_eq_true, beq_iff_eq] at hdrop
        rcases hdrop with hdrop | hdrop
        · exact hr x (hx ▸ hdrop ▸ List.prefix_refl _)
        · exact hr x (hx ▸ prefix_of_isBelow hdrop)
      · rfl

theorem mem_subdirs {d : Disk} {p q : RelPath} (h : q ∈ d.subdirs p) :
    ∃ n, q = p ++ [n] ∧ d.node? q = some .dir := by
  simp only [subdirs, List.mem_map, List.mem_mergeSort, List.mem_filter, Bool.and_eq_true,
    decide_eq_true_eq] at h
  obtain ⟨n, ⟨-, -, hdir⟩, rfl⟩ := h
  exact ⟨n, rfl, hdir⟩

theorem prefix_of_mem_subdirs {d : Disk} {p q : RelPath} (h : q ∈ d.subdirs p) : p <+: q := by
  obtain ⟨n, rfl, -⟩ := mem_subdirs h
  exact List.prefix_append p [n]

theorem nodup_subdirs {d : Disk} (h : (d.entries.map Prod.fst).Nodup) (p : RelPath) :
    (d.subdirs p).Nodup := by
  refine List.Nodup.map (fun a b hab => List.append_cancel_left hab |> List.singleton_inj.mp) ?_
  exact List.nodup_mergeSort.mpr ((nodup_childNames h p).filter _)

/-- A directory inside a directory whose way down is there has its way down there too. -/
theorem Ready.subdir {d : Disk} {p q : RelPath} (h : Ready d p) (hq : q ∈ d.subdirs p) :
    Ready d q := by
  obtain ⟨n, rfl, hdir⟩ := mem_subdirs hq
  intro k hk
  by_cases hkp : k ≤ p.length
  · rw [List.take_append_of_le_length hkp]
    exact h k hkp
  · have hk' : k = p.length + 1 := by simp at hk; omega
    have hlen : p.length + 1 = (p ++ [n]).length := by simp
    rw [hk', hlen, List.take_length]
    exact hdir

theorem ready_root (d : Disk) : Ready d [] := fun k _ => by simp

/-- The way down to every directory the walk visits is there. -/
theorem ready_of_mem_objectDirs {d : Disk} {dir : RelPath} (h : dir ∈ d.objectDirs) :
    Ready d dir := by
  simp only [objectDirs, List.mem_flatMap] at h
  obtain ⟨ns, hns, a, ha, b, hb, hdir⟩ := h
  exact ((((ready_root d).subdir hns).subdir ha).subdir hb).subdir hdir

/-- Directories listed in one directory, with what lies below each, share nothing. -/
theorem nodup_flatMap_subdirs {d : Disk} (h : (d.entries.map Prod.fst).Nodup) {p : RelPath}
    {f : RelPath → List RelPath} (hf : ∀ a ∈ d.subdirs p, (f a).Nodup)
    (hpre : ∀ a ∈ d.subdirs p, ∀ q ∈ f a, a <+: q) : ((d.subdirs p).flatMap f).Nodup := by
  refine List.nodup_flatMap.mpr ⟨hf, (nodup_subdirs h p).pairwise_of_forall_ne ?_⟩
  intro a ha b hb hab q hqa hqb
  obtain ⟨x, rfl, -⟩ := mem_subdirs ha
  obtain ⟨y, rfl, -⟩ := mem_subdirs hb
  have hxy := List.prefix_of_prefix_length_le (hpre _ ha q hqa) (hpre _ hb q hqb) (by simp)
  exact hab (hxy.eq_of_length (by simp))

theorem nodup_objectDirs {d : Disk} (h : (d.entries.map Prod.fst).Nodup) :
    d.objectDirs.Nodup := by
  refine nodup_flatMap_subdirs h (fun ns _ => ?_) fun ns _ q hq => ?_
  · refine nodup_flatMap_subdirs h (fun a _ => ?_) fun a _ q hq => ?_
    · exact nodup_flatMap_subdirs h (fun b _ => nodup_subdirs h b)
        fun b _ q hq => prefix_of_mem_subdirs hq
    · obtain ⟨b, hb, hq⟩ := List.mem_flatMap.mp hq
      exact (prefix_of_mem_subdirs hb).trans (prefix_of_mem_subdirs hq)
  · obtain ⟨a, ha, hq⟩ := List.mem_flatMap.mp hq
    obtain ⟨b, hb, hq⟩ := List.mem_flatMap.mp hq
    exact (prefix_of_mem_subdirs ha).trans
      ((prefix_of_mem_subdirs hb).trans (prefix_of_mem_subdirs hq))

/-- What stands below a directory is not below another directory of the same depth. -/
theorem not_prefix_child_of_ne {dir dir' r : RelPath} (hlen : dir'.length = dir.length)
    (hne : dir' ≠ dir) (hr : dir' <+: r) (x : String) : ¬ r <+: dir ++ [x] := fun h => by
  have hpre : dir' <+: dir := List.prefix_of_prefix_length_le (hr.trans h)
    (List.prefix_append dir [x]) (by omega)
  exact hne (hpre.eq_of_length hlen)

theorem reach_of_ready_self {d : Disk} {dir : RelPath} (h : Ready d dir) : d.reach dir = .ok () := by
  unfold reach
  refine reach_go_of_dirs d fun q hq => ?_
  obtain ⟨k, hk, rfl⟩ := List.mem_map.mp hq
  exact h k (by simp at hk; omega)

theorem look_of_ready_self {d : Disk} {dir : RelPath} (h : Ready d dir) :
    d.look dir = .ok (some .dir) := by
  have hdir := h dir.length (Nat.le_refl _)
  rw [List.take_length] at hdir
  simp [look, reach_of_ready_self h, hdir, bind, Except.bind, pure, Except.pure]

theorem listDir_of_ready {d : Disk} {dir : RelPath} (h : Ready d dir) :
    d.listDir dir = .ok (d.childNames dir) := by
  simp [listDir, look_of_ready_self h, bind, Except.bind, pure, Except.pure]

theorem removeTree_of_ready {d : Disk} {dir : RelPath} (h : Ready d dir) :
    d.removeTree dir = .ok (d.dropTree dir) := by
  simp [removeTree, look_of_ready_self h, bind, Except.bind, pure, Except.pure]

theorem readFile_of_ready {d : Disk} {dir : RelPath} (h : Ready d dir) {name : String}
    (hname : name.utf8ByteSize ≤ 255) :
    d.readFile (dir ++ [name]) = match d.node? (dir ++ [name]) with
      | some (.file data) => .ok data
      | some .dir => .error .isDir
      | none => .error .notFound := by
  rcases hn : d.node? (dir ++ [name]) with _ | _ | _ <;>
    simp [readFile, look_of_ready d h hname, hn, bind, Except.bind, pure, Except.pure, throw,
      throwThe, MonadExceptOf.throw]

theorem metadataFile_fits : Layout.metadataFile.utf8ByteSize ≤ 255 := by decide

theorem settingsFile_fits : Layout.settingsFile.utf8ByteSize ≤ 255 := by decide

/-- A path with an entry has a node. -/
theorem node?_ne_none_of_mem {d : Disk} {p : RelPath} (h : p ∈ d.entries.map Prod.fst) :
    d.node? p ≠ none := by
  unfold node?
  split
  · simp
  · obtain ⟨e, he, rfl⟩ := List.mem_map.mp h
    simp only [ne_eq, Option.map_eq_none_iff, List.find?_eq_none, beq_iff_eq, not_forall,
      not_not]
    exact ⟨e, he, rfl⟩

theorem Drops.mem_paths {A : RelPath → Prop} {d d' : Disk} (h : Drops A d d') {p : RelPath}
    (hp : p ∈ d'.entries.map Prod.fst) : p ∈ d.entries.map Prod.fst := by
  induction h with
  | refl => exact hp
  | drop r _ _ ih =>
    apply ih
    simp only [dropTree, List.mem_map, List.mem_filter] at hp ⊢
    obtain ⟨e, ⟨he, -⟩, rfl⟩ := hp
    exact ⟨e, he, rfl⟩

/-- After dropping trees, a directory whose listed names all hold nothing any more is empty. -/
theorem childNames_eq_nil {A : RelPath → Prop} {d d' : Disk} (h : Drops A d d') {dir : RelPath}
    (hgone : ∀ name ∈ d.childNames dir, d'.node? (dir ++ [name]) = none) :
    d'.childNames dir = [] := by
  refine List.eq_nil_iff_forall_not_mem.mpr fun name hname => ?_
  have hpath := mem_childNames_iff.mp hname
  exact node?_ne_none_of_mem hpath
    (hgone name (mem_childNames_iff.mpr (h.mem_paths hpath)))

theorem removeDir_of_ready {d : Disk} {dir : RelPath} (h : Ready d dir)
    (hempty : d.childNames dir = []) : d.removeDir dir = .ok (d.dropTree dir) := by
  simp [removeDir, look_of_ready_self h, hempty, bind, Except.bind, pure, Except.pure]

/-- The metadata a directory's metadata file holds, when it has one that reads. -/
def metadataIn? (d : Disk) (dir : RelPath) : Option ObjectMetadata :=
  match d.node? (dir ++ [Layout.metadataFile]) with
  | some (.file raw) => (ObjectMetadata.ofJson raw).toOption
  | _ => none

/-- The part files a directory lists, in the order it lists them, each with its size. -/
def partList (d : Disk) (dir : RelPath) : List (UInt32 × Nat) :=
  (d.childNames dir).filterMap fun name =>
    (Layout.partNumber? name).map fun n => (n, ((d.node? (dir ++ [name])).map Node.size).getD 0)

/-- The path of a temporary file in `dir`. -/
def IsTempIn (dir r : RelPath) : Prop := ∃ t, Layout.isTempName t = true ∧ r = dir ++ [t]

/-- What the walk drops in directory `dir` of `d`: the directory, when its metadata does not
read, or one of its temporary files. -/
def WalkDrop (d : Disk) (dir r : RelPath) : Prop :=
  (r = dir ∧ d.metadataIn? dir = none) ∨ IsTempIn dir r

theorem WalkDrop.prefix {d : Disk} {dir r : RelPath} (h : WalkDrop d dir r) : dir <+: r := by
  rcases h with ⟨rfl, -⟩ | ⟨t, -, rfl⟩
  · exact List.prefix_refl _
  · exact List.prefix_append _ _

/-- The entry the walk gives a directory whose metadata reads: that metadata, and the parts the
directory lists. -/
def Walked (d : Disk) (dir : RelPath) (e : ObjectEntry) : Prop :=
  d.metadataIn? dir = some e.metadata ∧ e.parts.Perm (d.partList dir)

end Disk

namespace DiskM

open Disk Layout

/-- Removing a path if it is there drops at most that path. -/
theorem removeIfExists_drops {root : String} {p : RelPath} {d d' : Disk} {u : Unit}
    (h : removeIfExists root p d = .ok u d') : Drops (· = p) d d' := by
  unfold removeIfExists at h
  split at h
  · next d'' hr => cases h; rw [removeFile_ok d hr]; exact .single rfl
  · cases h; exact .refl
  · cases h

/-- On a ready way, a file of the directory is removed, and nothing is left at its name. -/
theorem removeIfExists_of_file (root : String) {dir : RelPath} {d : Disk} (h : Ready d dir)
    {name : String} {x : Bytes} (hx : d.node? (dir ++ [name]) = some (.file x)) :
    ∃ d', removeIfExists root (dir ++ [name]) d = .ok () d' ∧ Drops (· = dir ++ [name]) d d' ∧
      d'.node? (dir ++ [name]) = none :=
  ⟨_, by simp [removeIfExists, removeFile_of_ready d h hx], .single rfl,
    (vacant_dropTree d (by simp)).node⟩

/-- A step that succeeds with `P`, followed by one that succeeds with `Q` from every result with
`P`, succeeds with `Q`. -/
theorem exists_ok_bind {α β : Type} {x : DiskM α} {f : α → DiskM β} {d : Disk}
    {P : α → Disk → Prop} {Q : β → Disk → Prop} (hx : ∃ a d', x d = .ok a d' ∧ P a d')
    (hf : ∀ a d', P a d' → ∃ b d'', f a d' = .ok b d'' ∧ Q b d'') :
    ∃ b d'', (x >>= f) d = .ok b d'' ∧ Q b d'' := by
  obtain ⟨a, d', hrun, hP⟩ := hx
  rw [bind_ok_apply hrun]
  exact hf a d' hP

theorem sys_ok {α : Type} {call : Disk → Except OsError α} {d : Disk} {a : α}
    (h : call d = .ok a) : sys call d = .ok a d := by
  simp only [sys, h]

/-- Listing the part files of a directory on a ready way, whose temporary names hold no
directory: the parts are those the directory lists, in some order, and the temporary files are
removed, nothing else. -/
theorem partFiles_of_ready (root : String) {dir : RelPath} {d : Disk} (h : Ready d dir)
    (hnodup : (d.childNames dir).Nodup)
    (htemp : ∀ t ∈ d.childNames dir, isTempName t = true → d.node? (dir ++ [t]) ≠ some .dir) :
    ∃ parts d', partFiles root dir d = .ok parts d' ∧ parts.Perm (d.partList dir) ∧
      Drops (IsTempIn dir) d d' ∧ ∀ t, isTempName t = true → d'.node? (dir ++ [t]) = none := by
  unfold partFiles
  refine exists_ok_bind (P := fun names d' => names = d.childNames dir ∧ d = d')
    ⟨_, _, sys_ok (listDir_of_ready h), rfl, rfl⟩ ?_
  rintro names _ ⟨rfl, rfl⟩
  -- the loop reads the parts of the names done as `d` has them, and drops only their temporary
  -- files, of which none is left; the names still to come stand as on `d`
  refine exists_ok_bind (forIn_ok_of_step (fun done _ parts d' =>
      parts = done.filterMap (fun name => (partNumber? name).map fun n =>
        (n, ((d.node? (dir ++ [name])).map Node.size).getD 0)) ∧
      Drops (IsTempIn dir) d d' ∧ (∀ t ∈ done, isTempName t = true → d'.node? (dir ++ [t]) = none) ∧
      ∀ t ∉ done, d'.node? (dir ++ [t]) = d.node? (dir ++ [t]))
    _ ?_ [] d ⟨rfl, .refl, by simp, fun _ _ => rfl⟩) ?_
  · rintro done x rest parts d' hnames ⟨rfl, hdrops, hgone, hkept⟩
    have hx : x ∈ d.childNames dir := by simp [← hnames]
    have hxdone : x ∉ done := by
      rw [← hnames] at hnodup
      exact (List.nodup_middle.mp hnodup |> List.nodup_cons.mp).1 ∘ List.mem_append_left _
    have hkept' : ∀ d'', Drops (· = dir ++ [x]) d' d'' →
        ∀ t ∉ done ++ [x], d''.node? (dir ++ [t]) = d.node? (dir ++ [t]) := fun d'' hd'' t ht => by
      have htx : t ≠ x := fun e => ht (by simp [e])
      rw [← hkept t fun e => ht (List.mem_append_left _ e)]
      refine hd''.node_eq fun r hr hpre => htx ?_
      rw [hr] at hpre
      exact (List.singleton_inj.mp (List.append_cancel_left
        (hpre.eq_of_length (by simp)))).symm
    cases hn : partNumber? x with
    | some n =>
      -- a part's name is no temporary name, so its node is as on `d`
      have hsize : d'.node? (dir ++ [x]) = d.node? (dir ++ [x]) := hdrops.node_eq
        fun r htmp hpre => by
          obtain ⟨t, ht, hr⟩ := htmp
          have hrx : r = dir ++ [x] := hpre.eq_of_length (by simp [hr])
          rw [hr, List.append_cancel_left_eq, List.singleton_inj] at hrx
          rw [hrx, isTempName_eq_false hn] at ht
          cases ht
      refine ⟨_, _, rfl, by simp [hn, hsize], hdrops, fun t ht htmp => ?_,
        hkept' d' .refl⟩
      rcases List.mem_append.mp ht with ht | ht
      · exact hgone t ht htmp
      · rw [List.mem_singleton.mp ht, isTempName_eq_false hn] at htmp
        cases htmp
    | none =>
      dsimp only
      split
      · next htmp =>
        have hready := (hdrops.mono fun r hr => hr.imp fun _ => And.right).ready_of_children h
        -- a temporary name not yet done holds the file `d` lists there
        have hfile : ∃ data, d'.node? (dir ++ [x]) = some (.file data) := by
          rw [hkept x hxdone]
          have hsome := node?_ne_none_of_mem (mem_childNames_iff.mp hx)
          have hdir := htemp x hx htmp
          rcases hnx : d.node? (dir ++ [x]) with _ | data | _
          · exact absurd hnx hsome
          · exact ⟨data, rfl⟩
          · exact absurd hnx hdir
        obtain ⟨data, hdata⟩ := hfile
        obtain ⟨d'', hrm, hd'', hnone⟩ := removeIfExists_of_file root hready hdata
        refine ⟨_, d'', by rw [bind_ok_apply hrm]; rfl, by simp [hn], ?_, ?_, hkept' d'' hd''⟩
        · exact hdrops.trans (hd''.mono fun r hr => ⟨x, htmp, hr⟩)
        · intro t ht htmp'
          rcases List.mem_append.mp ht with ht | ht
          · exact hd''.node_eq_none (hgone t ht htmp')
          · rw [List.mem_singleton.mp ht]; exact hnone
      · next htmp =>
        refine ⟨_, _, rfl, by simp [hn], hdrops, fun t ht htmp' => ?_, hkept' d' .refl⟩
        rcases List.mem_append.mp ht with ht | ht
        · exact hgone t ht htmp'
        · rw [List.mem_singleton.mp ht] at htmp'
          exact absurd htmp' htmp
  · rintro parts d' ⟨rfl, hdrops, hgone, -⟩
    refine ⟨_, _, rfl, List.mergeSort_perm _ _, hdrops, fun t htmp => ?_⟩
    by_cases ht : t ∈ d.childNames dir
    · exact hgone t ht htmp
    · refine hdrops.node_eq_none ?_
      by_contra hne
      exact ht (mem_childNames_of_node hne)

/-- Reading a directory on a ready way whose metadata file reads: its entry is that metadata
with the parts the directory lists, and its temporary files are removed, nothing else. -/
theorem readObjectDir_of_metadata (root : String) {dir : RelPath} {d : Disk} (h : Ready d dir)
    (hnodup : (d.childNames dir).Nodup) (htemp : ∀ t ∈ d.childNames dir, isTempName t = true → d.node? (dir ++ [t]) ≠ some .dir)
    {m : ObjectMetadata} (hm : d.metadataIn? dir = some m) :
    ∃ e d', readObjectDir root dir d = .ok (some e) d' ∧ e.metadata = m ∧
      e.parts.Perm (d.partList dir) ∧ Drops (IsTempIn dir) d d' ∧
      ∀ t, isTempName t = true → d'.node? (dir ++ [t]) = none := by
  unfold metadataIn? at hm
  split at hm
  · next raw hraw =>
    cases hj : ObjectMetadata.ofJson raw with
    | error _ => simp [hj, Except.toOption] at hm
    | ok m' =>
      simp only [hj, Except.toOption, Option.some.injEq] at hm
      subst hm
      obtain ⟨parts, d', hpf, hperm, hdrops, hgone⟩ := partFiles_of_ready root h hnodup htemp
      refine ⟨⟨m', parts⟩, d', ?_, rfl, hperm, hdrops, hgone⟩
      rw [readObjectDir, bind_ok_apply (get_apply d)]
      simp only [readFile_of_ready h metadataFile_fits, hraw, hj]
      rw [bind_ok_apply hpf]
      rfl
  · cases hm

/-- Reading a directory on a ready way whose metadata file is missing or does not read, and is
no directory: the directory is removed with all it holds. -/
theorem readObjectDir_of_no_metadata (root : String) {dir : RelPath} {d : Disk} (h : Ready d dir)
    (hmeta : d.node? (dir ++ [metadataFile]) ≠ some .dir) (hm : d.metadataIn? dir = none) :
    readObjectDir root dir d = .ok none (d.dropTree dir) := by
  have hremove : change (fun d => d.removeTree dir) d = .ok () (d.dropTree dir) :=
    change_ok (removeTree_of_ready h)
  rw [readObjectDir, bind_ok_apply (get_apply d)]
  unfold metadataIn? at hm
  rcases hraw : d.node? (dir ++ [metadataFile]) with _ | raw | _
  · simp only [readFile_of_ready h metadataFile_fits, hraw]
    rw [bind_ok_apply hremove]
    rfl
  · rw [hraw] at hm
    cases hj : ObjectMetadata.ofJson raw with
    | ok m => simp [hj, Except.toOption] at hm
    | error _ =>
      simp only [readFile_of_ready h metadataFile_fits, hraw, hj]
      rw [bind_ok_apply hremove]
      rfl
  · exact absurd hraw hmeta

/-- Where the walk stands once it has read the object directories `done` of `d`, at `d'`, having
found `found`: the entries found are, in order, those of the directories done whose metadata
reads; only unreadable directories done and temporary files of directories done were dropped;
and none of these is left. -/
structure WalkedUpTo (d : Disk) (done : List RelPath) (found : List (Except CacheError ObjectEntry))
    (d' : Disk) : Prop where
  found : List.Forall₂ (fun dir r => ∃ e, r = .ok e ∧ Walked d dir e)
    (done.filter fun dir => (d.metadataIn? dir).isSome) found
  drops : Drops (fun r => ∃ dir ∈ done, WalkDrop d dir r) d d'
  vacant : ∀ dir ∈ done, d.metadataIn? dir = none → Vacant d' dir
  temps : ∀ dir ∈ done, ∀ t, isTempName t = true → d'.node? (dir ++ [t]) = none

/-- Reading one more object directory of `d` keeps `WalkedUpTo`, with the entry it gives, if any,
found. -/
theorem WalkedUpTo.read (root : String) {d d' : Disk} {done : List RelPath}
    {found : List (Except CacheError ObjectEntry)} (hI : WalkedUpTo d done found d')
    (hdone : ∀ D ∈ done, D ∈ d.objectDirs) {x : RelPath} (hx : x ∈ d.objectDirs)
    (hxdone : x ∉ done) (hnodup : (d.childNames x).Nodup)
    (hmeta : d.node? (x ++ [metadataFile]) ≠ some .dir)
    (htemp : ∀ t ∈ d.childNames x, isTempName t = true → d.node? (x ++ [t]) ≠ some .dir) :
    ∃ o d'', readObjectDir root x d' = .ok o d'' ∧
      WalkedUpTo d (done ++ [x]) (found ++ o.toList.map .ok) d'' := by
  obtain ⟨hfound, hdrops, hvac, hgone⟩ := hI
  -- nothing dropped so far lies in `x`, so `x` is as on `d`
  have hout : ∀ r, (∃ dir ∈ done, WalkDrop d dir r) → ∀ y, ¬ r <+: x ++ [y] := by
    rintro r ⟨dir, hdir, hr⟩ y
    have hlen : dir.length = x.length := by
      rw [objectDirs_depth d dir (hdone dir hdir), objectDirs_depth d x hx]
    exact not_prefix_child_of_ne hlen (fun h => hxdone (h ▸ hdir)) hr.prefix y
  have hready : Ready d' x := hdrops.ready (ready_of_mem_objectDirs hx)
    fun r hr hpre => hout r hr "" (hpre.trans (List.prefix_append _ _))
  have hnode : ∀ y, d'.node? (x ++ [y]) = d.node? (x ++ [y]) := fun y =>
    hdrops.node_eq fun r hr => hout r hr y
  have hchild : d'.childNames x = d.childNames x := childNames_drops hdrops hout
  have hmeta' : d'.metadataIn? x = d.metadataIn? x := by simp [metadataIn?, hnode]
  have hparts : d'.partList x = d.partList x := by simp [partList, hchild, hnode]
  have htemp' : ∀ t ∈ d'.childNames x, isTempName t = true → d'.node? (x ++ [t]) ≠ some .dir := by
    rw [hchild]
    intro t ht htmp
    rw [hnode]
    exact htemp t ht htmp
  have hmono : Drops (fun r => ∃ dir ∈ done ++ [x], WalkDrop d dir r) d d' :=
    hdrops.mono fun _ hr => hr.imp fun _ => And.imp_left (List.mem_append_left _)
  have hx' : x ∈ done ++ [x] := List.mem_append_right _ (List.mem_singleton_self x)
  have hxlen : x ≠ [] := List.ne_nil_of_length_pos (by rw [objectDirs_depth d x hx]; omega)
  cases hm : d.metadataIn? x with
  | some m =>
    -- the entry is found and the temporary files are dropped
    obtain ⟨e, d'', hread, hmeta_e, hperm, hdrops', hgone'⟩ :=
      readObjectDir_of_metadata root hready (hchild ▸ hnodup) htemp' (hmeta'.trans hm)
    refine ⟨some e, d'', hread, ⟨?_, ?_, ?_, ?_⟩⟩
    · rw [List.filter_append, List.filter_singleton, hm]
      exact List.rel_append hfound (.cons ⟨e, rfl, by rw [hm, hmeta_e], by rwa [← hparts]⟩ .nil)
    · exact hmono.trans (hdrops'.mono fun r hr => ⟨x, hx', .inr hr⟩)
    · rw [List.forall_mem_append, List.forall_mem_singleton, hm]
      exact ⟨fun dir hdir hnone => hdrops'.vacant (hvac dir hdir hnone), fun h => by cases h⟩
    · rw [List.forall_mem_append, List.forall_mem_singleton]
      exact ⟨fun dir hdir t htmp => hdrops'.node_eq_none (hgone dir hdir t htmp), hgone'⟩
  | none =>
    -- the directory is dropped whole
    refine ⟨none, d'.dropTree x, readObjectDir_of_no_metadata root hready
      (by rw [hnode]; exact hmeta) (hmeta'.trans hm), ⟨?_, ?_, ?_, ?_⟩⟩
    · rw [List.filter_append, List.filter_singleton, hm]
      simpa using hfound
    · exact hmono.trans (.single ⟨x, hx', .inl ⟨rfl, hm⟩⟩)
    · rw [List.forall_mem_append, List.forall_mem_singleton]
      exact ⟨fun dir hdir hnone => (hvac dir hdir hnone).dropTree x,
        fun _ => vacant_dropTree d' hxlen⟩
    · rw [List.forall_mem_append, List.forall_mem_singleton]
      exact ⟨fun dir hdir t htmp => (Drops.single (A := fun _ => True) trivial).node_eq_none
        (hgone dir hdir t htmp), fun t _ => vacant_dropTree d' hxlen _ (List.prefix_append _ _)⟩

/-- Walking a tree whose paths stand once each, and whose object directories hold no directory
under a metadata or temporary name: it gives, in order, an entry for each object directory whose
metadata reads, removes each one whose metadata does not, and removes every temporary file of
the others, and it drops nothing else. -/
theorem walk_spec (root : String) (d : Disk) (hnodup : (d.entries.map Prod.fst).Nodup)
    (hmeta : ∀ dir ∈ d.objectDirs, d.node? (dir ++ [metadataFile]) ≠ some .dir)
    (htemp : ∀ dir ∈ d.objectDirs, ∀ t ∈ d.childNames dir, isTempName t = true →
      d.node? (dir ++ [t]) ≠ some .dir) :
    ∃ es d', walk root d = .ok es d' ∧
      List.Forall₂ (fun dir r => ∃ e, r = .ok e ∧ Walked d dir e)
        (d.objectDirs.filter fun dir => (d.metadataIn? dir).isSome) es ∧
      Drops (fun r => ∃ dir ∈ d.objectDirs, WalkDrop d dir r) d d' ∧
      (∀ dir ∈ d.objectDirs, d.metadataIn? dir = none → Vacant d' dir) ∧
      ∀ dir ∈ d.objectDirs, ∀ t, isTempName t = true → d'.node? (dir ++ [t]) = none := by
  have hL := nodup_objectDirs hnodup
  rw [walk, bind_ok_apply (get_apply d)]
  -- the object directories are read in turn, each once
  refine exists_ok_bind (forIn_ok_of_step (fun done _ found d' => WalkedUpTo d done found d')
    _ ?_ [] d ⟨by simp, .refl, by simp, by simp⟩) ?_
  · rintro done x rest found d' hxs hI
    have hmem : ∀ D ∈ done ++ x :: rest, D ∈ d.objectDirs := fun D hD => hxs ▸ hD
    have hx : x ∈ d.objectDirs := hmem x (by simp)
    have hxdone : x ∉ done := by
      rw [← hxs] at hL
      exact (List.nodup_middle.mp hL |> List.nodup_cons.mp).1 ∘ fun h => List.mem_append_left _ h
    obtain ⟨o, d'', hread, hI'⟩ := hI.read root (fun D hD => hmem D (List.mem_append_left _ hD))
      hx hxdone (nodup_childNames hnodup x) (hmeta x hx) (htemp x hx)
    refine ⟨found ++ o.toList.map .ok, d'', ?_, hI'⟩
    dsimp only
    rw [bind_ok_apply (tryCatch_ok_apply (map_ok_apply hread))]
    cases o with
    | none => rw [Option.toList_none, List.map_nil, List.append_nil]; rfl
    | some e => rfl
  · rintro found d' hI
    exact ⟨found, d', rfl, hI.found, hI.drops, hI.vacant, hI.temps⟩

/-- Removing a path in a directory on a ready way, when it succeeds, leaves nothing at it and
drops at most that path. -/
theorem removeIfExists_ok_of_ready {root : String} {dir : RelPath} {d d' : Disk}
    (hready : Ready d dir) {name : String} {u : Unit}
    (h : removeIfExists root (dir ++ [name]) d = .ok u d') :
    Drops (· = dir ++ [name]) d d' ∧ d'.node? (dir ++ [name]) = none := by
  refine ⟨removeIfExists_drops h, ?_⟩
  rcases hx : d.node? (dir ++ [name]) with _ | x | _
  · exact (removeIfExists_drops h).node_eq_none hx
  · simp only [removeIfExists, removeFile_of_ready d hready hx] at h
    cases h
    exact (vacant_dropTree d (by simp)).node
  · simp [removeIfExists, removeFile, look_of_reach d (reach_of_ready d hready name)
      (.inl (by simp [hx])), hx, bind, Except.bind, throw, throwThe, MonadExceptOf.throw] at h

theorem removeIfExists_error {root : String} {p : RelPath} {d d' : Disk} {e : CacheError}
    (h : removeIfExists root p d = .error e d') : d' = d := by
  unfold removeIfExists at h
  split at h <;> cases h
  rfl

/-- Discarding an object whose directory's way down is there, when it succeeds, leaves nothing
at or below the directory, and drops nothing outside it. -/
theorem discard_ok {root : String} {id : ObjectId} {d d' : Disk}
    (hready : Ready d (objectDir id)) (h : discard root id d = .ok () d') :
    Drops (fun r => objectDir id <+: r) d d' ∧ Vacant d' (objectDir id) := by
  rw [discard, bind_ok_apply (get_apply d), listDir_of_ready hready] at h
  dsimp only at h
  obtain ⟨errors, d₁, hloop, h⟩ := ok_of_bind_ok h
  -- every entry is unlinked in turn; with no failure, none of them is left
  have hI := forIn_inv_of_ok (fun done _ errors d₁ =>
      Drops (fun r => ∃ name, r = objectDir id ++ [name]) d d₁ ∧
      (errors = [] → ∀ name ∈ done, d₁.node? (objectDir id ++ [name]) = none))
    _ ?_ ⟨.refl, by simp⟩ hloop
  · obtain ⟨hdrops, hgone⟩ := hI
    have hready : Ready d₁ (objectDir id) := hdrops.ready_of_children hready
    by_cases he : errors = []
    · -- with every entry gone the directory is removed
      subst he
      have hempty := childNames_eq_nil hdrops (hgone rfl)
      simp only [List.isEmpty_nil, if_true] at h
      rw [bind_ok_apply (get_apply d₁)] at h
      simp only [removeDir_of_ready hready hempty, CacheError.combine] at h
      cases h
      have hinside : Drops (fun r => objectDir id <+: r) d d₁ := hdrops.mono fun r hr => by
        obtain ⟨name, rfl⟩ := hr
        exact List.prefix_append _ _
      exact ⟨hinside.trans (.single (List.prefix_refl _)), vacant_dropTree d₁ (by simp [objectDir])⟩
    · -- a failure to unlink fails the discard
      have hfail : ∃ e, CacheError.combine errors = .error e := by
        cases hc : CacheError.combine errors with
        | ok u => exact absurd ((CacheError.combine_eq_ok_iff errors).mp hc) he
        | error e => exact ⟨e, rfl⟩
      obtain ⟨e, hc⟩ := hfail
      simp [List.isEmpty_iff, he, hc] at h
      cases h
  · rintro done x rest errs d₂ r d₃ - ⟨hdrops, hgone⟩ hrun
    obtain ⟨failed, d₄, hatt, hk⟩ := ok_of_bind_ok hrun
    have hready₂ : Ready d₂ (objectDir id) := hdrops.ready_of_children hready
    cases hrm : removeIfExists root (objectDir id ++ [x]) d₂ with
    | ok u d₅ =>
      rw [attempt_ok hrm] at hatt
      cases hatt
      cases hk
      obtain ⟨hdrops', hnone⟩ := removeIfExists_ok_of_ready hready₂ hrm
      refine ⟨errs, rfl, hdrops.trans (hdrops'.mono fun r hr => ⟨x, hr⟩), fun hnil name hname => ?_⟩
      rcases List.mem_append.mp hname with hname | hname
      · exact hdrops'.node_eq_none (hgone hnil name hname)
      · rw [List.mem_singleton.mp hname]
        exact hnone
    | error e d₅ =>
      rw [attempt_error hrm, removeIfExists_error hrm] at hatt
      cases hatt
      cases hk
      exact ⟨errs ++ [e], rfl, hdrops, fun hnil => absurd hnil (by simp)⟩

end DiskM

end PartCache
