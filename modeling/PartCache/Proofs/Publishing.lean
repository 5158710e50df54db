import PartCache.Proofs.ObjectFiles
import Mathlib.Data.Nat.Find

/-!
# Publishing new files under concurrent writers

`DiskM.writeNew p data` makes the parent directories of `p`, takes the next number of the
process-wide count, creates a temporary sibling of `p` named by that number, writes the bytes
through it, links it at `p` and unlinks it again.  Several calls run at once, each system call
atomic, and they share the tree and the count.  This module models that: a `Job` is one call's
file and bytes, its `Stage` says how far it got, and `World.step` lets any call take its next
step, or write a further part of its bytes, on the shared tree.  A call that runs alone is
`writeNew` itself (`writeNew_runs_alone`).

The calls are `Apart` when none writes at or above another's file and none writes at or below
a temporary name of a call; the tree is `Fresh` for them when the way down to each parent holds
no file, nothing stands at or below any of their temporary names, and the count has a number
left for each call.  Then every reachable state is `Safe`, and (`reachable_publishes`):

* a call that returned success left its own bytes at its file;
* a call that returned a failure failed with `alreadyExists`, and its file is there;
* a file is as it was, or holds the whole of the bytes of one call that writes it;
* a call that returned left nothing at or below its temporary name.

Temporary names of different files or numbers differ (`Layout.tempPath_inj`): the number is
decimal digits after the last `.tmp.`, so it and the file are read back from the name.  Without
`Fresh` a call can fail although its file is missing: a file left from an earlier process at the
temporary name makes its creation fail with `alreadyExists`, and the call then unlinks that file
(`stale_temp_refuses_new_file`).
-/

set_option autoImplicit false

namespace PartCache

/-! ## Temporary names -/

namespace Decimal

theorem text_injective : Function.Injective text := by
  intro m n h
  have hd : digits m = digits n := by simpa [text] using congrArg String.toList h
  rw [← Nat.ofDigitChars_toDigits (b := 10) (by decide) (by decide) (n := m),
    ← Nat.ofDigitChars_toDigits (b := 10) (by decide) (by decide) (n := n)]
  exact congrArg (Nat.ofDigitChars 10 · 0) hd

theorem not_dot_mem_text (n : Nat) : '.' ∉ (text n).toList := fun h => by
  have := List.all_eq_true.mp (digits_all_isDigit n) '.' (by simpa [text] using h)
  exact absurd this (by decide)

end Decimal

namespace Layout

/-- The characters after the last mark of a temporary name are the digits of its number. -/
theorem tempName_inj {a b : String} {m n : Nat}
    (h : a ++ tempMark ++ Decimal.text m = b ++ tempMark ++ Decimal.text n) : a = b ∧ m = n := by
  have hl := congrArg (fun s : String => (s.toList.reverse.takeWhile (· != '.')).reverse) h
  have hdigits : ∀ (c : String) (k : Nat),
      ((c ++ tempMark ++ Decimal.text k).toList.reverse.takeWhile (· != '.')).reverse =
        (Decimal.text k).toList := fun c k => by
    have hall : ∀ x ∈ (Decimal.text k).toList.reverse, (x != '.') = true := fun x hx => by
      have : x ≠ '.' := fun e => Decimal.not_dot_mem_text k (e ▸ List.mem_reverse.mp hx)
      simpa using this
    simp [List.reverse_append, List.takeWhile_append_of_pos hall, tempMark]
  simp only [hdigits] at hl
  have hmn : m = n := Decimal.text_injective (String.ext hl)
  subst hmn
  refine ⟨?_, rfl⟩
  have := congrArg String.toList h
  simp only [String.toList_append] at this
  exact String.ext (List.append_cancel_right (List.append_cancel_right this))

/-- Two temporary names are one exactly when their files and numbers are. -/
theorem tempPath_inj {p q : List String} {m n : UInt64} (hp : p ≠ []) (hq : q ≠ [])
    (h : tempPath p m = tempPath q n) : p = q ∧ m = n := by
  have hlen : p.dropLast.length = q.dropLast.length := by
    have := congrArg List.length h
    simpa [tempPath] using this
  obtain ⟨hd, hn⟩ := List.append_inj h hlen
  obtain ⟨hlast, hnum⟩ := tempName_inj (List.singleton_inj.mp hn)
  refine ⟨?_, UInt64.toNat_inj.mp hnum⟩
  rw [← List.dropLast_concat_getLast hp, ← List.dropLast_concat_getLast hq, hd]
  simpa [List.getLast?_eq_some_getLast hp, List.getLast?_eq_some_getLast hq] using hlast

/-- A file is never at or below its own temporary name: the name is longer than the file's. -/
theorem tempPath_not_prefix_self {p : List String} (hp : p ≠ []) (n : UInt64) :
    ¬ tempPath p n <+: p := fun h => by
  have hlen : (tempPath p n).length = p.length := by
    have := List.length_pos_iff.mpr hp
    simp [tempPath]
    omega
  have he := h.eq_of_length hlen
  rw [tempPath, ← List.dropLast_concat_getLast hp] at he
  have hname : p.getLast hp ++ tempMark ++ Decimal.text n.toNat = p.getLast hp := by
    simpa using he
  have hlens := congrArg String.length hname
  have hmark : tempMark.length = 5 := rfl
  simp only [String.length_append] at hlens
  omega

end Layout

/-! ## The tree under several writers -/

namespace Disk

variable {d : Disk}

theorem mem_prefixes_iff (q r : RelPath) :
    r ∈ (List.range q.length).map q.take ++ [q] ↔ r <+: q := by
  constructor
  · intro h
    rcases List.mem_append.mp h with h | h
    · obtain ⟨k, -, rfl⟩ := List.mem_map.mp h
      exact List.take_prefix k q
    · exact List.mem_singleton.mp h ▸ List.prefix_refl q
  · intro h
    rw [List.prefix_iff_eq_take.mp h]
    by_cases hlen : r.length < q.length
    · exact List.mem_append_left _ (List.mem_map.mpr ⟨r.length, by simpa using hlen, rfl⟩)
    · have : r.length = q.length := by have := h.length_le; omega
      simp [this]

/-- Making directories either changes nothing, or adds each missing directory on the way. -/
theorem createDirAll_ok_cases {q : RelPath} {d' : Disk} (h : d.createDirAll q = .ok d') :
    d' = d ∨ ∀ r, d'.node? r = if r <+: q then (d.node? r).or (some .dir) else d.node? r := by
  unfold createDirAll at h
  split at h
  · cases h
    exact .inl rfl
  · cases h
  · dsimp only at h
    split at h
    · cases h
    split at h
    · cases h
    · cases h
      refine .inr fun r => ?_
      rw [node?_foldl_mkdir]
      simp only [mem_prefixes_iff]

/-- Making directories sets nothing that stood, and adds directories only on the way. -/
theorem createDirAll_node? {q : RelPath} {d' : Disk} (h : d.createDirAll q = .ok d') (r : RelPath) :
    d'.node? r = d.node? r ∨ (d.node? r = none ∧ r <+: q ∧ d'.node? r = some .dir) := by
  rcases createDirAll_ok_cases h with rfl | hall
  · exact .inl rfl
  · rw [hall r]
    split
    · cases hr : d.node? r with
      | none => exact .inr ⟨rfl, ‹_›, rfl⟩
      | some n => exact .inl rfl
    · exact .inl rfl

/-- Making directories keeps every node that stood. -/
theorem createDirAll_keeps {q r : RelPath} {d' : Disk} {n : Node} (h : d.createDirAll q = .ok d')
    (hr : d.node? r = some n) : d'.node? r = some n := by
  rcases createDirAll_node? h r with he | ⟨hn, -, -⟩
  · rw [he, hr]
  · rw [hr] at hn; cases hn

theorem node?_put_of_ne {q r : RelPath} (h : r ≠ q) (n : Node) : (d.put q n).node? r = d.node? r := by
  by_cases hr : r = []
  · subst hr; rfl
  · rw [node?_put _ _ _ _ hr, if_neg h]

theorem Ready.createDirAll {dir q : RelPath} {d' : Disk} (h : Ready d dir)
    (hq : d.createDirAll q = .ok d') : Ready d' dir := fun k hk =>
  createDirAll_keeps hq (h k hk)

/-- Another writer's directories keep a way clear: they extend the directories on it as far as
it shares their way. -/
theorem Clear.createDirAll {dir q : RelPath} {d' : Disk} (h : Clear d dir)
    (hq : d.createDirAll q = .ok d') : Clear d' dir := by
  rcases createDirAll_ok_cases hq with rfl | hall
  · exact h
  obtain ⟨m, hm, hnode⟩ := h
  -- the way shares the first `L` names with the new directories
  let L := Nat.findGreatest (fun k => dir.take k <+: q) dir.length
  have hshared : ∀ k ≤ dir.length, dir.take k <+: q ↔ k ≤ L := fun k hk => by
    constructor
    · exact Nat.le_findGreatest (P := fun k => dir.take k <+: q) hk
    · intro hkL
      have hL : dir.take L <+: q :=
        Nat.findGreatest_spec (P := fun k => dir.take k <+: q) (m := 0) (Nat.zero_le _) (by simp)
      refine List.IsPrefix.trans (List.prefix_take_iff.mpr ⟨List.take_prefix k dir, ?_⟩) hL
      simp only [List.length_take]
      omega
  refine ⟨max m L, max_le hm (Nat.findGreatest_le _), fun k hk => ?_⟩
  rw [hall, hnode k hk]
  by_cases hkm : k ≤ m
  · simp only [hkm, if_true]
    split <;> simp <;> omega
  · by_cases hkL : k ≤ L
    · simp [hkm, (hshared k hk).mpr hkL]
      omega
    · have hnp : ¬ dir.take k <+: q := fun e => hkL ((hshared k hk).mp e)
      rw [if_neg hnp, if_neg hkm, if_neg (by omega)]

theorem Clear.congr {dir : RelPath} {d' : Disk} (h : Clear d dir)
    (hsame : ∀ k ≤ dir.length, d'.node? (dir.take k) = d.node? (dir.take k)) : Clear d' dir := by
  obtain ⟨m, hm, hnode⟩ := h
  exact ⟨m, hm, fun k hk => (hsame k hk).trans (hnode k hk)⟩

theorem Ready.congr {dir : RelPath} {d' : Disk} (h : Ready d dir)
    (hsame : ∀ k ≤ dir.length, d'.node? (dir.take k) = d.node? (dir.take k)) : Ready d' dir :=
  fun k hk => (hsame k hk).trans (h k hk)

end Disk

/-! ## Calls of `writeNew` that run at once -/

namespace Publishing

open Disk Layout

/-- One call of `writeNew`: the file it writes and the bytes. -/
structure Job where
  path : RelPath
  data : Bytes

/-- How far one call got. -/
inductive Stage where
  /-- The parent directories are made next. -/
  | start
  /-- The parent directories are made; a number is taken next. -/
  | made
  /-- Number `n` is taken; the temporary file is created next. -/
  | numbered (n : UInt64)
  /-- The temporary file of number `n` is created and holds the first `k` bytes. -/
  | writing (n : UInt64) (k : Nat)
  /-- All bytes are written and synced; the temporary file is linked next. -/
  | written (n : UInt64)
  /-- The attempt through the temporary name ended with `r`; the name is unlinked next. -/
  | cleaning (n : UInt64) (r : Option CacheError)
  /-- Returned `r`, having used number `n`. -/
  | finished (n : UInt64) (r : Option CacheError)
  /-- Returned the failure to make the parent directories. -/
  | refused (e : CacheError)

/-- What a call is told to do: its next system call, or a write that takes the bytes up to `k`
and leaves some still to write. -/
inductive Act where
  | next
  | write (k : Nat)

namespace Job

/-- The temporary name of a call holding number `n`. -/
def temp (j : Job) (n : UInt64) : RelPath := tempPath j.path n

/-- One step of a call on the shared tree, or `none` when the call cannot do what it is told. -/
def move (j : Job) : Stage → Act → Disk → Option (Stage × Disk)
  | .start, .next, d => some <| match d.createDirAll j.path.dropLast with
    | .ok d' => (.made, d')
    | .error e => (.refused e.toCache, d)
  | .made, .next, d => some (.numbered d.nextTemp, { d with nextTemp := d.nextTemp + 1 })
  | .numbered n, .next, d => some <| match d.createFile (j.temp n) [] with
    | .ok d' => (.writing n 0, d')
    | .error e => (.cleaning n (some e.toCache), d)
  | .writing n i, .write k, d =>
    if i < k ∧ k < j.data.length then some (.writing n k, d.fill (j.temp n) (j.data.take k))
    else none
  | .writing n _, .next, d => some (.written n, d.fill (j.temp n) j.data)
  | .written n, .next, d => some <| match d.hardLink (j.temp n) j.path with
    | .ok d' => (.cleaning n none, d')
    | .error e => (.cleaning n (some e.toCache), d)
  | .cleaning n r, .next, d => some (.finished n r, (d.removeFile (j.temp n)).toOption.getD d)
  | _, _, _ => none

end Job

/-- The shared state: the tree with the count, and the stage of every call. -/
structure World where
  disk : Disk
  stages : List Stage

/-- The calls on a tree, none of them started. -/
def World.init (d : Disk) (jobs : List Job) : World := ⟨d, jobs.map fun _ => .start⟩

/-- Call `i` does what it is told. -/
def World.step (jobs : List Job) (W : World) (i : Nat) (a : Act) : Option World :=
  match jobs[i]?, W.stages[i]? with
  | some j, some s => (j.move s a W.disk).map fun (s', d') => ⟨d', W.stages.set i s'⟩
  | _, _ => none

/-- The states the calls can reach from `W₀`, in any order of their steps. -/
inductive Reachable (jobs : List Job) (W₀ : World) : World → Prop
  | refl : Reachable jobs W₀ W₀
  | step {W W' : World} (i : Nat) (a : Act) :
      Reachable jobs W₀ W → W.step jobs i a = some W' → Reachable jobs W₀ W'

/-- What a call returned, once it did. -/
def Stage.result : Stage → Option (Option CacheError)
  | .finished _ r => some r
  | .refused e => some (some e)
  | _ => none

/-- The answer of a call that returned `r`, with the tree it left. -/
def answer (r : Option CacheError) (d : Disk) : EStateM.Result CacheError Disk Unit :=
  match r with
  | none => .ok () d
  | some e => .error e d

/-! ## A call that runs alone is `writeNew` -/

theorem Reachable.alone {j : Job} {W₀ : World} {d : Disk} {s : Stage}
    (h : Reachable [j] W₀ ⟨d, [s]⟩) (a : Act) (s' : Stage) (d' : Disk)
    (hm : j.move s a d = some (s', d')) : Reachable [j] W₀ ⟨d', [s']⟩ :=
  .step 0 a h (by simp [World.step, hm])

/-- Publishing through the temporary name of number `n` is what a call holding `n` does when no
other call runs. -/
theorem publishVia_runs_alone {j : Job} {W₀ : World} {d : Disk} {n : UInt64}
    (h : Reachable [j] W₀ ⟨d, [.numbered n]⟩) :
    ∃ W s r, Reachable [j] W₀ W ∧ W.stages = [s] ∧ s.result = some r ∧
      DiskM.publishVia (j.temp n) j.path j.data d = answer r W.disk := by
  -- the unlinking and the answer, whatever the attempt ended with
  have hend : ∀ (r : Option CacheError) (d₅ : Disk), Reachable [j] W₀ ⟨d₅, [.cleaning n r]⟩ →
      ∃ W s r', Reachable [j] W₀ W ∧ W.stages = [s] ∧ s.result = some r' ∧
        (DiskM.cleanUp (j.temp n) >>= fun _ =>
          (match r with | some e => throw e | none => pure () : DiskM Unit)) d₅ = answer r' W.disk :=
    fun r d₅ h₅ => ⟨_, .finished n r, r, h₅.alone .next _ _ rfl, rfl, rfl, by cases r <;> rfl⟩
  cases hc : d.createFile (j.temp n) [] with
  | error e =>
    -- the temporary file cannot be created
    obtain ⟨W, s, r, hW, hs, hr, heq⟩ :=
      hend (some e.toCache) d (h.alone .next _ _ (by simp [Job.move, hc]))
    refine ⟨W, s, r, hW, hs, hr, ?_⟩
    rw [DiskM.publishVia, bind_ok_apply (DiskM.attempt_bind_error (DiskM.change_error hc))]
    exact heq
  | ok d₃ =>
    have h₃ := h.alone .next (.writing n 0) d₃ (by simp [Job.move, hc])
    have h₄ := h₃.alone .next _ _ rfl
    have hfill : (modify (·.fill (j.temp n) j.data) : DiskM Unit) d₃ =
        .ok () (d₃.fill (j.temp n) j.data) := rfl
    cases hl : (d₃.fill (j.temp n) j.data).hardLink (j.temp n) j.path with
    | error e =>
      obtain ⟨W, s, r, hW, hs, hr, heq⟩ :=
        hend (some e.toCache) (d₃.fill (j.temp n) j.data)
          (h₄.alone .next _ _ (by simp [Job.move, hl]))
      refine ⟨W, s, r, hW, hs, hr, ?_⟩
      rw [DiskM.publishVia, DiskM.bind_congr_apply (DiskM.attempt_bind_ok (DiskM.change_ok hc)),
        DiskM.bind_congr_apply (DiskM.attempt_bind_ok hfill),
        bind_ok_apply (DiskM.attempt_error (DiskM.change_error hl))]
      exact heq
    | ok d₅ =>
      obtain ⟨W, s, r, hW, hs, hr, heq⟩ :=
        hend none d₅ (h₄.alone .next _ _ (by simp [Job.move, hl]))
      refine ⟨W, s, r, hW, hs, hr, ?_⟩
      rw [DiskM.publishVia, DiskM.bind_congr_apply (DiskM.attempt_bind_ok (DiskM.change_ok hc)),
        DiskM.bind_congr_apply (DiskM.attempt_bind_ok hfill),
        bind_ok_apply (DiskM.attempt_ok (DiskM.change_ok hl))]
      exact heq

/-- `writeNew` is the run of one call that no other call interrupts: it takes the call's steps
in order, writing the bytes in one go, and answers what the call returns. -/
theorem writeNew_runs_alone (p : RelPath) (data : Bytes) (d : Disk) :
    ∃ W s r, Reachable [⟨p, data⟩] (World.init d [⟨p, data⟩]) W ∧ W.stages = [s] ∧
      s.result = some r ∧ DiskM.writeNew p data d = answer r W.disk := by
  have h₀ : Reachable [⟨p, data⟩] (World.init d [⟨p, data⟩]) ⟨d, [.start]⟩ := .refl
  cases hdir : d.createDirAll p.dropLast with
  | error e =>
    -- the parent directories cannot be made
    refine ⟨_, .refused e.toCache, some e.toCache,
      h₀.alone .next _ d (by simp [Job.move, hdir]), rfl, rfl, ?_⟩
    rw [DiskM.writeNew, bind_error_apply (DiskM.change_error hdir)]
    rfl
  | ok d₁ =>
    have h₁ := h₀.alone .next .made d₁ (by simp [Job.move, hdir])
    obtain ⟨W, s, r, hW, hs, hr, heq⟩ := publishVia_runs_alone (h₁.alone .next _ _ rfl)
    refine ⟨W, s, r, hW, hs, hr, ?_⟩
    rw [DiskM.writeNew, bind_ok_apply (DiskM.change_ok hdir),
      bind_ok_apply (DiskM.takeTemp_apply d₁)]
    exact heq

/-! ## Calls that keep apart -/

namespace Stage

/-- The number a call holds. -/
def number : Stage → Option UInt64
  | .numbered n | .writing n _ | .written n | .cleaning n _ | .finished n _ => some n
  | _ => none

/-- Whether a call is still to take a number. -/
def waiting : Stage → Bool
  | .start | .made => true
  | _ => false

/-- What the attempt through the temporary name ended with, once it did. -/
def outcome : Stage → Option (Option CacheError)
  | .cleaning _ r | .finished _ r => some r
  | .refused e => some (some e)
  | _ => none

end Stage

/-- The number of a call's temporary file and the bytes in it, while the file is the call's. -/
def Job.holds (j : Job) : Stage → Option (UInt64 × Bytes)
  | .writing n k => some (n, j.data.take k)
  | .written n | .cleaning n _ => some (n, j.data)
  | _ => none

theorem Job.number_of_holds {j : Job} {s : Stage} {n : UInt64} {b : Bytes}
    (h : j.holds s = some (n, b)) : s.number = some n := by
  cases s <;> simp_all [Job.holds, Stage.number]

/-- The calls keep apart: each writes below the root, none at or above another's file, and none
at or below a temporary name of a call.  Their names fit in directory entries, each file's name
leaving room for the temporary mark and number. -/
structure Apart (jobs : List Job) : Prop where
  ne_nil : ∀ j ∈ jobs, j.path ≠ []
  nest : ∀ j ∈ jobs, ∀ j' ∈ jobs, j.path <+: j'.path → j.path = j'.path
  temps : ∀ j ∈ jobs, ∀ j' ∈ jobs, ∀ n, ¬ j.temp n <+: j'.path
  fits : ∀ j ∈ jobs, Fits j.path.dropLast ∧ (j.path.getLast?.getD "").utf8ByteSize ≤ 230

/-- A tree the calls can start from: the way down to each parent holds no file, nothing stands at
or below a temporary name of a call, and the count has a number left for each call. -/
structure Fresh (jobs : List Job) (d : Disk) : Prop where
  way : ∀ j ∈ jobs, d.Clear j.path.dropLast
  temps : ∀ j ∈ jobs, ∀ n, d.Vacant (j.temp n)
  room : d.nextTemp.toNat + jobs.length < UInt64.size

namespace Apart

variable {jobs : List Job} (h : Apart jobs) {j j' : Job} (hj : j ∈ jobs) (hj' : j' ∈ jobs)
include h hj hj'

/-- No temporary name lies on the way down to a parent. -/
theorem temp_not_way (n : UInt64) (k : Nat) : ¬ j.temp n <+: j'.path.dropLast.take k :=
  fun hp => h.temps j hj j' hj' n
    (hp.trans ((List.take_prefix k _).trans (List.dropLast_prefix _)))

theorem way_ne_temp (n : UInt64) (k : Nat) : j'.path.dropLast.take k ≠ j.temp n :=
  fun e => h.temp_not_way hj hj' n k (e ▸ List.prefix_refl _)

theorem temp_ne_path (n : UInt64) : j'.path ≠ j.temp n :=
  fun e => h.temps j hj j' hj' n (e ▸ List.prefix_refl _)

/-- No file lies on the way down to a parent. -/
theorem path_not_way (k : Nat) : j.path ≠ j'.path.dropLast.take k := fun e => by
  have hlt : (j'.path.dropLast.take k).length < j'.path.length := by
    have := List.length_pos_iff.mpr (h.ne_nil j' hj')
    simp only [List.length_take, List.length_dropLast]
    omega
  have hp : j.path <+: j'.path := e ▸ (List.take_prefix k _).trans (List.dropLast_prefix _)
  rw [← e, h.nest j hj j' hj' hp] at hlt
  omega

theorem temp_not_parent (n : UInt64) : ¬ j.temp n <+: j'.path.dropLast := by
  have := h.temp_not_way hj hj' n j'.path.dropLast.length
  rwa [List.take_length] at this

theorem path_not_parent : ¬ j.path <+: j'.path.dropLast := fun hp =>
  h.path_not_way hj hj' j.path.length (List.prefix_iff_eq_take.mp hp)

/-- A temporary name starts another only when it is the same name. -/
theorem temp_prefix_temp {n n' : UInt64} (hp : j.temp n <+: j'.temp n') :
    j.path = j'.path ∧ n = n' := by
  have hne := h.ne_nil j hj
  have hne' := h.ne_nil j' hj'
  by_cases hlen : (j.temp n).length = (j'.temp n').length
  · exact tempPath_inj hne hne' (hp.eq_of_length hlen)
  · -- a shorter name starts the other's parent, and so the other's file
    exfalso
    have hlt : (j.temp n).length < (j'.temp n').length := by have := hp.length_le; omega
    have hpar : j.temp n <+: j'.path.dropLast := by
      have hd : j'.temp n' = j'.path.dropLast ++ [_] := rfl
      rw [hd] at hp
      rcases List.prefix_concat_iff.mp hp with e | hp'
      · exact absurd (congrArg List.length (e.trans hd.symm)) hlen
      · exact hp'
    exact h.temps j hj j' hj' n (hpar.trans (List.dropLast_prefix _))

end Apart

/-! ## What the tree shows of one call -/

/-- What the tree shows of one call at its stage: the way down to its parent holds no file before
it starts and is made after; it never failed to make it; its temporary file holds what it wrote;
and once its attempt ended, its file holds its bytes, or it failed with `alreadyExists` and its
file is there. -/
structure Shows (d : Disk) (j : Job) (s : Stage) : Prop where
  way : s = .start → d.Clear j.path.dropLast
  ready : s ≠ .start → d.Ready j.path.dropLast
  unrefused : ∀ e, s ≠ .refused e
  held : ∀ n b, j.holds s = some (n, b) → d.node? (j.temp n) = some (.file b)
  published : s.outcome = some none → d.node? j.path = some (.file j.data)
  taken : ∀ e, s.outcome = some (some e) → e = .alreadyExists ∧ (d.node? j.path).isSome

namespace Shows

variable {jobs : List Job} {d : Disk} {j j' : Job} {s : Stage}

/-- A change that leaves a call's way and temporary file, and at most sets its file where
nothing stood, keeps what the tree shows of it. -/
theorem frame {d' : Disk} (h : Shows d j s)
    (hway : ∀ k ≤ j.path.dropLast.length,
      d'.node? (j.path.dropLast.take k) = d.node? (j.path.dropLast.take k))
    (htemp : ∀ n b, j.holds s = some (n, b) → d'.node? (j.temp n) = d.node? (j.temp n))
    (hpath : d'.node? j.path = d.node? j.path ∨
      (d.node? j.path = none ∧ (d'.node? j.path).isSome)) :
    Shows d' j s where
  way hs := (h.way hs).congr hway
  ready hs := (h.ready hs).congr hway
  unrefused := h.unrefused
  held n b hb := (htemp n b hb).trans (h.held n b hb)
  published ho := by
    rcases hpath with e | ⟨hnone, -⟩
    · rw [e]; exact h.published ho
    · rw [h.published ho] at hnone; cases hnone
  taken e ho := by
    refine ⟨(h.taken e ho).1, ?_⟩
    rcases hpath with e' | ⟨-, hs'⟩
    · rw [e']; exact (h.taken e ho).2
    · exact hs'

/-- Another call's directories keep what the tree shows of a call: they only add directories. -/
theorem createDirAll {d' : Disk} {q : RelPath} (h : Shows d j s)
    (hq : d.createDirAll q = .ok d') : Shows d' j s where
  way hs := (h.way hs).createDirAll hq
  ready hs := (h.ready hs).createDirAll hq
  unrefused := h.unrefused
  held n b hb := createDirAll_keeps hq (h.held n b hb)
  published ho := createDirAll_keeps hq (h.published ho)
  taken e ho := by
    obtain ⟨he, hs⟩ := h.taken e ho
    obtain ⟨x, hx⟩ := Option.isSome_iff_exists.mp hs
    exact ⟨he, by rw [createDirAll_keeps hq hx]; rfl⟩

/-- A call between making its directories and creating its temporary file shows only its made
way. -/
theorem quiet (hs : s = .made ∨ ∃ n, s = .numbered n) (hr : d.Ready j.path.dropLast) :
    Shows d j s := by
  rcases hs with rfl | ⟨n, rfl⟩ <;>
    exact ⟨nofun, fun _ => hr, fun _ => nofun, fun _ _ => nofun, nofun, fun _ => nofun⟩

theorem temp_eq (j : Job) (n : UInt64) :
    j.temp n = j.path.dropLast ++ [j.path.getLast?.getD "" ++ tempMark ++ Decimal.text n.toNat] :=
  rfl

/-- A call with a number creates its temporary file where nothing stands. -/
theorem createFile_temp (h : Shows d j s) (hs : s ≠ .start) {n : UInt64}
    (hfit : (j.path.getLast?.getD "").utf8ByteSize ≤ 230) (hfree : d.Vacant (j.temp n)) :
    d.createFile (j.temp n) [] = .ok (d.put (j.temp n) (.file [])) := by
  have hsize := utf8ByteSize_tempName (j.path.getLast?.getD "") n
  rw [temp_eq, createFile_of_ready d (h.ready hs) (by omega), ← temp_eq, hfree.node]
  rfl

/-- A call links its temporary file at its file unless something stands there. -/
theorem hardLink_temp {n : UInt64} (h : Shows d j (.written n)) (hne : j.path ≠ [])
    (hfit : (j.path.getLast?.getD "").utf8ByteSize ≤ 230) :
    d.hardLink (j.temp n) j.path = if (d.node? j.path).isSome then .error .taken
      else .ok (d.put j.path (.file j.data)) := by
  have hheld := h.held n j.data rfl
  rw [temp_eq] at hheld
  rw [List.getLast?_eq_some_getLast hne, Option.getD_some] at hfit
  have hl := hardLink_of_ready d (h.ready nofun) hheld (b := j.path.getLast hne) (by omega)
  rw [List.dropLast_concat_getLast hne] at hl
  rw [temp_eq]
  exact hl

/-- A call unlinks the temporary file it holds. -/
theorem removeFile_temp (h : Shows d j s) {n : UInt64} {b : Bytes} (hb : j.holds s = some (n, b))
    (hs : s ≠ .start) : d.removeFile (j.temp n) = .ok (d.dropTree (j.temp n)) := by
  have hheld := h.held n b hb
  rw [temp_eq] at hheld ⊢
  exact removeFile_of_ready d (h.ready hs) hheld

section Others

variable (hA : Apart jobs) (hj : j ∈ jobs) (hj' : j' ∈ jobs)
include hA hj hj'

/-- Setting another call's temporary file keeps what the tree shows of a call whose own
temporary file is elsewhere. -/
theorem put_temp (h : Shows d j' s) {n : UInt64}
    (hown : ∀ n' b, j'.holds s = some (n', b) → j'.temp n' ≠ j.temp n) (b : Bytes) :
    Shows (d.put (j.temp n) (.file b)) j' s :=
  h.frame (fun k _ => node?_put_of_ne (hA.way_ne_temp hj hj' n k) _)
    (fun n' b' hb => node?_put_of_ne (hown n' b' hb) _)
    (.inl (node?_put_of_ne (hA.temp_ne_path hj hj' n) _))

/-- Linking another call's file where nothing stood keeps what the tree shows of a call. -/
theorem put_path (h : Shows d j' s) (hnone : d.node? j.path = none) (b : Bytes) :
    Shows (d.put j.path (.file b)) j' s := by
  refine h.frame (fun k _ => node?_put_of_ne (fun e => hA.path_not_way hj hj' k e.symm) _)
    (fun n' _ _ => node?_put_of_ne (hA.temp_ne_path hj' hj n').symm _) ?_
  by_cases hp : j'.path = j.path
  · right
    rw [hp, hnone, node?_put _ _ _ _ (hA.ne_nil j hj), if_pos rfl]
    exact ⟨rfl, rfl⟩
  · exact .inl (node?_put_of_ne hp _)

/-- Unlinking another call's temporary file keeps what the tree shows of a call whose own
temporary file is not below it. -/
theorem dropTemp (h : Shows d j' s) {n : UInt64}
    (hown : ∀ n' b, j'.holds s = some (n', b) → ¬ j.temp n <+: j'.temp n') :
    Shows (d.dropTree (j.temp n)) j' s :=
  h.frame (fun k _ => node?_dropTree_outside d (hA.temp_not_way hj hj' n k))
    (fun n' b' hb => node?_dropTree_outside d (hown n' b' hb))
    (.inl (node?_dropTree_outside d (hA.temps j hj j' hj' n)))

end Others

end Shows

/-! ## The numbers the calls hold -/

theorem stage_set_cases {l : List Stage} {i i' : Nat} {s t : Stage} (h : (l.set i s)[i']? = some t) :
    (i' = i ∧ t = s) ∨ (i' ≠ i ∧ l[i']? = some t) := by
  rw [List.getElem?_set] at h
  split at h
  · next hii =>
    split at h
    · exact .inl ⟨hii.symm, (Option.some.inj h).symm⟩
    · cases h
  · next hii => exact .inr ⟨Ne.symm hii, h⟩

theorem stage_set_self {l : List Stage} {i : Nat} {s t : Stage} (h : l[i]? = some s) :
    (l.set i t)[i]? = some t :=
  List.getElem?_set_self (List.getElem?_eq_some_iff.mp h).1

/-- The numbers held: taken from the count without wrapping, one call each. -/
structure Numbered (W : World) : Prop where
  room : W.disk.nextTemp.toNat + W.stages.countP Stage.waiting < UInt64.size
  below : ∀ (i : Nat) (s : Stage) (n : UInt64), W.stages[i]? = some s → s.number = some n →
    n.toNat < W.disk.nextTemp.toNat
  distinct : ∀ (i i' : Nat) (s s' : Stage) (n : UInt64), W.stages[i]? = some s →
    W.stages[i']? = some s' → s.number = some n → s'.number = some n → i = i'

namespace Numbered

variable {W : World} {i : Nat} {s : Stage}

theorem countP_set {l : List Stage} (h : l[i]? = some s) (t : Stage) :
    (l.set i t).countP Stage.waiting + (if s.waiting then 1 else 0) =
      l.countP Stage.waiting + (if t.waiting then 1 else 0) := by
  obtain ⟨hi, rfl⟩ := List.getElem?_eq_some_iff.mp h
  rw [List.countP_set hi]
  generalize (if t.waiting = true then 1 else 0) = c
  by_cases hw : l[i].waiting = true
  · have hpos : 0 < l.countP Stage.waiting :=
      List.countP_pos_iff.mpr ⟨l[i], List.getElem_mem hi, hw⟩
    simp only [hw, if_true]
    omega
  · simp only [hw, Bool.false_eq_true, if_false]
    omega

/-- A step that keeps a call's number, whether it waits for one, and the count keeps the numbers
apart. -/
theorem keep (h : Numbered W) (hs : W.stages[i]? = some s) {s' : Stage} {d' : Disk}
    (hn : s'.number = s.number) (hw : s'.waiting = s.waiting) (ht : d'.nextTemp = W.disk.nextTemp) :
    Numbered ⟨d', W.stages.set i s'⟩ where
  room := by
    have := countP_set hs s'
    have := h.room
    simp only [ht, hw] at *
    omega
  below i' t n ht' hn' := by
    rw [ht]
    rcases stage_set_cases ht' with ⟨rfl, rfl⟩ | ⟨-, ht'⟩
    · exact h.below _ s n hs (hn ▸ hn')
    · exact h.below i' t n ht' hn'
  distinct i₁ i₂ t₁ t₂ n h₁ h₂ hn₁ hn₂ := by
    have lift : ∀ (i' : Nat) (t : Stage), (W.stages.set i s')[i']? = some t →
        t.number = some n → ∃ t' : Stage, W.stages[i']? = some t' ∧ t'.number = some n :=
      fun i' t ht' hn' => by
      rcases stage_set_cases ht' with ⟨rfl, rfl⟩ | ⟨-, ht'⟩
      · exact ⟨s, hs, hn ▸ hn'⟩
      · exact ⟨t, ht', hn'⟩
    obtain ⟨u₁, hu₁, hv₁⟩ := lift i₁ t₁ h₁ hn₁
    obtain ⟨u₂, hu₂, hv₂⟩ := lift i₂ t₂ h₂ hn₂
    exact h.distinct i₁ i₂ u₁ u₂ n hu₁ hu₂ hv₁ hv₂

/-- Taking the next number of the count: it is held by no one, and the count does not wrap. -/
theorem take (h : Numbered W) (hs : W.stages[i]? = some .made) :
    Numbered ⟨{ W.disk with nextTemp := W.disk.nextTemp + 1 },
      W.stages.set i (.numbered W.disk.nextTemp)⟩ := by
  have hcount := countP_set hs (.numbered W.disk.nextTemp)
  have hroom := h.room
  simp only [Stage.waiting, if_true, Bool.false_eq_true, if_false] at hcount
  have hsucc : (W.disk.nextTemp + 1).toNat = W.disk.nextTemp.toNat + 1 := by
    rw [UInt64.toNat_add, UInt64.toNat_one]
    exact Nat.mod_eq_of_lt (by simp only [UInt64.size] at hroom ⊢; omega)
  refine ⟨?_, fun i' t n ht hn => ?_, fun i₁ i₂ t₁ t₂ n h₁ h₂ hn₁ hn₂ => ?_⟩
  · show (W.disk.nextTemp + 1).toNat +
      (W.stages.set i (.numbered W.disk.nextTemp)).countP Stage.waiting < UInt64.size
    rw [hsucc]
    omega
  · show n.toNat < (W.disk.nextTemp + 1).toNat
    rw [hsucc]
    rcases stage_set_cases ht with ⟨rfl, rfl⟩ | ⟨-, ht⟩
    · simp only [Stage.number, Option.some.injEq] at hn
      rw [hn]
      omega
    · have := h.below i' t n ht hn
      omega
  · -- the new number is above every number held before
    have old : ∀ (i' : Nat) (t : Stage), (W.stages.set i (.numbered W.disk.nextTemp))[i']? = some t →
        t.number = some n → (i' = i ∧ n = W.disk.nextTemp) ∨
          (i' ≠ i ∧ W.stages[i']? = some t ∧ n.toNat < W.disk.nextTemp.toNat) := fun i' t ht hn => by
      rcases stage_set_cases ht with ⟨rfl, rfl⟩ | ⟨hne, ht⟩
      · simp only [Stage.number, Option.some.injEq] at hn
        exact .inl ⟨rfl, hn.symm⟩
      · exact .inr ⟨hne, ht, h.below i' t n ht hn⟩
    rcases old i₁ t₁ h₁ hn₁ with ⟨rfl, rfl⟩ | ⟨-, hu₁, hlt₁⟩ <;>
      rcases old i₂ t₂ h₂ hn₂ with ⟨rfl, hn⟩ | ⟨-, hu₂, hlt₂⟩
    · rfl
    · omega
    · subst hn; omega
    · exact h.distinct i₁ i₂ t₁ t₂ n hu₁ hu₂ hn₁ hn₂

end Numbered

/-! ## The invariant of every reachable state -/

/-- What holds in every state that calls keeping apart reach from a fresh tree `d₀`: the numbers
are apart, the tree shows each call as its stage says, a temporary name of a call's file is
vacant unless a call writing that file holds it, and each file is as it was in `d₀` or holds
the bytes of a call that writes it. -/
structure Safe (jobs : List Job) (d₀ : Disk) (W : World) : Prop where
  length : W.stages.length = jobs.length
  numbered : Numbered W
  shows : ∀ (i : Nat) (j : Job) (s : Stage), jobs[i]? = some j → W.stages[i]? = some s →
    Shows W.disk j s
  free : ∀ (i : Nat) (j : Job) (n : UInt64), jobs[i]? = some j → W.disk.Vacant (j.temp n) ∨
    ∃ (i' : Nat) (j' : Job) (s' : Stage) (b : Bytes), jobs[i']? = some j' ∧
      W.stages[i']? = some s' ∧ j'.path = j.path ∧ j'.holds s' = some (n, b)
  content : ∀ (i : Nat) (j : Job), jobs[i]? = some j → W.disk.node? j.path = d₀.node? j.path ∨
    ∃ j' ∈ jobs, j'.path = j.path ∧ W.disk.node? j.path = some (.file j'.data)

namespace Safe

variable {jobs : List Job} {d₀ : Disk} {W : World} {i : Nat} {j : Job} {s : Stage}

/-- The calls start on a fresh tree. -/
theorem init (hF : Fresh jobs d₀) : Safe jobs d₀ (World.init d₀ jobs) where
  length := by simp [World.init]
  numbered := by
    refine ⟨?_, fun i s n hs hn => ?_, fun i _ s _ n hs _ hn _ => ?_⟩
    · show d₀.nextTemp.toNat + (jobs.map fun _ => Stage.start).countP Stage.waiting < UInt64.size
      rw [List.countP_eq_length.mpr fun x hx => by obtain ⟨_, -, rfl⟩ := List.mem_map.mp hx; rfl,
        List.length_map]
      exact hF.room
    all_goals
      simp only [World.init, List.getElem?_map] at hs
      obtain ⟨_, -, rfl⟩ := Option.map_eq_some_iff.mp hs
      cases hn
  shows i j s hj hs := by
    simp only [World.init, List.getElem?_map, hj, Option.map_some, Option.some.injEq] at hs
    subst hs
    exact ⟨fun _ => hF.way j (List.mem_of_getElem? hj), fun h => absurd rfl h, fun _ => nofun,
      fun _ _ => nofun, nofun, fun _ => nofun⟩
  free i j n hj := .inl (hF.temps j (List.mem_of_getElem? hj) n)
  content _ _ _ := .inl rfl

/-- The calls other than `i` keep their stages. -/
theorem shows_update (hi : jobs[i]? = some j) {s' : Stage} {d' : Disk}
    (hown : Shows d' j s')
    (hother : ∀ (i' : Nat) (j' : Job) (t : Stage), i' ≠ i → jobs[i']? = some j' →
      W.stages[i']? = some t → Shows d' j' t) :
    ∀ (i' : Nat) (j' : Job) (t : Stage), jobs[i']? = some j' →
      (W.stages.set i s')[i']? = some t → Shows d' j' t := fun i' j' t hj' ht => by
  rcases stage_set_cases ht with ⟨rfl, rfl⟩ | ⟨hne, ht⟩
  · rw [hi] at hj'
    cases hj'
    exact hown
  · exact hother i' j' t hne hj' ht

/-- A temporary name stays vacant, or becomes the stepping call's; the one it held is vacant or
still its own. -/
theorem free_update (hS : Safe jobs d₀ W) (hi : jobs[i]? = some j) (hs : W.stages[i]? = some s)
    {s' : Stage} {d' : Disk}
    (hvac : ∀ (i'' : Nat) (j'' : Job) (n : UInt64), jobs[i'']? = some j'' →
      W.disk.Vacant (j''.temp n) → d'.Vacant (j''.temp n) ∨
        (j''.path = j.path ∧ ∃ b, j.holds s' = some (n, b)))
    (hheld : ∀ n b, j.holds s = some (n, b) → d'.Vacant (j.temp n) ∨ ∃ b', j.holds s' = some (n, b')) :
    ∀ (i'' : Nat) (j'' : Job) (n : UInt64), jobs[i'']? = some j'' → d'.Vacant (j''.temp n) ∨
      ∃ (i' : Nat) (j' : Job) (s'' : Stage) (b : Bytes), jobs[i']? = some j' ∧
        (W.stages.set i s')[i']? = some s'' ∧ j'.path = j''.path ∧ j'.holds s'' = some (n, b) := by
  intro i'' j'' n hj''
  rcases hS.free i'' j'' n hj'' with hv | ⟨i', j', t, b, hj', ht, hpath, hb⟩
  · rcases hvac i'' j'' n hj'' hv with hv' | ⟨hpath, b', hb'⟩
    · exact .inl hv'
    · exact .inr ⟨i, j, s', b', hi, stage_set_self hs, hpath.symm, hb'⟩
  · by_cases hii : i' = i
    · subst hii
      rw [hi] at hj'
      cases hj'
      rw [hs] at ht
      cases ht
      rcases hheld n b hb with hv' | ⟨b', hb'⟩
      · left
        rw [show j''.temp n = j.temp n by simp only [Job.temp, hpath]]
        exact hv'
      · exact .inr ⟨i', j, s', b', hi, stage_set_self hs, hpath, hb'⟩
    · exact .inr ⟨i', j', t, b, hj', by rw [List.getElem?_set_ne (Ne.symm hii)]; exact ht, hpath, hb⟩

/-- Another call's temporary file lies elsewhere than a call's: one call holds each number. -/
theorem temp_apart (hA : Apart jobs) (hS : Safe jobs d₀ W) (hi : jobs[i]? = some j)
    (hs : W.stages[i]? = some s) {n : UInt64} (hn : s.number = some n) :
    ∀ (i' : Nat) (j' : Job) (t : Stage), i' ≠ i → jobs[i']? = some j' → W.stages[i']? = some t →
      ∀ n' b', j'.holds t = some (n', b') → ¬ j.temp n <+: j'.temp n' :=
  fun i' j' t hne hj' ht n' _ hb hp => by
    obtain ⟨-, rfl⟩ := hA.temp_prefix_temp (List.mem_of_getElem? hi) (List.mem_of_getElem? hj') hp
    exact hne (hS.numbered.distinct i' i t s n ht hs (Job.number_of_holds hb) hn)

/-- The temporary name of a number a call holds without a file there is vacant. -/
theorem vacant_own (hS : Safe jobs d₀ W) (hi : jobs[i]? = some j) (hs : W.stages[i]? = some s)
    {n : UInt64} (hn : s.number = some n) (hh : j.holds s = none) : W.disk.Vacant (j.temp n) := by
  rcases hS.free i j n hi with hv | ⟨i', j', t, b, hj', ht, hpath, hb⟩
  · exact hv
  · obtain rfl := hS.numbered.distinct i' i t s n ht hs (Job.number_of_holds hb) hn
    rw [hs] at ht
    cases ht
    rw [hi] at hj'
    cases hj'
    rw [hh] at hb
    cases hb

/-- Making the parent directories keeps the invariant. -/
theorem makeDirs (hA : Apart jobs) (hS : Safe jobs d₀ W) (hi : jobs[i]? = some j)
    (hs : W.stages[i]? = some .start) {d' : Disk}
    (hd : W.disk.createDirAll j.path.dropLast = .ok d') :
    Safe jobs d₀ ⟨d', W.stages.set i .made⟩ := by
  have hj := List.mem_of_getElem? hi
  obtain ⟨d'', hd'', hready, -⟩ :=
    createDirAll_of_clear W.disk ((hS.shows i j _ hi hs).way rfl) (hA.fits j hj).1
  obtain rfl : d'' = d' := Except.ok.inj (hd''.symm.trans hd)
  refine ⟨by simp [hS.length], hS.numbered.keep hs rfl rfl (createDirAll_nextTemp W.disk hd),
    shows_update hi (Shows.quiet (.inl rfl) hready)
      fun i' j' t _ hj' ht => (hS.shows i' j' t hj' ht).createDirAll hd, ?_, ?_⟩
  · -- a new directory lies on the way down to the parent, never at or below a temporary name
    refine hS.free_update hi hs (fun i'' j'' n hj'' hv => .inl fun r hr => ?_) fun _ _ => nofun
    rcases createDirAll_node? hd r with he | ⟨-, hrp, -⟩
    · rw [he]
      exact hv r hr
    · exact absurd (hr.trans hrp) (hA.temp_not_parent (List.mem_of_getElem? hj'') hj n)
  · intro i'' j'' hj''
    rcases createDirAll_node? hd j''.path with he | ⟨-, hp, -⟩
    · rw [he]
      exact hS.content i'' j'' hj''
    · exact absurd hp (hA.path_not_parent (List.mem_of_getElem? hj'') hj)

/-- Taking a number keeps the invariant. -/
theorem takeNumber (hS : Safe jobs d₀ W) (hi : jobs[i]? = some j)
    (hs : W.stages[i]? = some .made) :
    Safe jobs d₀ ⟨{ W.disk with nextTemp := W.disk.nextTemp + 1 },
      W.stages.set i (.numbered W.disk.nextTemp)⟩ :=
  ⟨by simp [hS.length], hS.numbered.take hs,
    shows_update hi (Shows.quiet (.inr ⟨_, rfl⟩) ((hS.shows i j _ hi hs).ready nofun))
      fun i' j' t _ hj' ht =>
        (hS.shows i' j' t hj' ht).frame (fun _ _ => rfl) (fun _ _ _ => rfl) (.inl rfl),
    hS.free_update hi hs (fun _ _ _ _ hv => .inl hv) (fun _ _ => nofun),
    fun i j hj => hS.content i j hj⟩

/-- A call setting its own temporary file keeps the invariant. -/
theorem setTemp (hA : Apart jobs) (hS : Safe jobs d₀ W) (hi : jobs[i]? = some j)
    (hs : W.stages[i]? = some s) {s' : Stage} {n : UInt64} {b : Bytes}
    (hn : s.number = some n) (hn' : s'.number = some n) (hw : s'.waiting = s.waiting)
    (hst : s ≠ .start) (hst' : s' ≠ .start) (href : ∀ e, s' ≠ .refused e)
    (hout : s'.outcome = none) (hholds : j.holds s' = some (n, b)) :
    Safe jobs d₀ ⟨W.disk.put (j.temp n) (.file b), W.stages.set i s'⟩ := by
  have hj := List.mem_of_getElem? hi
  have hother := hS.temp_apart hA hi hs hn
  refine ⟨by simp [hS.length], hS.numbered.keep hs (hn'.trans hn.symm) hw (put_nextTemp _ _ _),
    shows_update hi ?_ fun i' j' t hne hj' ht => ?_,
    hS.free_update hi hs (fun i'' j'' n'' hj'' hv => ?_) (fun n' b' hb => ?_),
    fun i'' j'' hj'' => ?_⟩
  · -- the call's own file holds the bytes
    have hready := (hS.shows i j s hi hs).ready hst
    refine ⟨fun h => absurd h hst',
      fun _ => hready.congr fun k _ => node?_put_of_ne (hA.way_ne_temp hj hj n k) _, href,
      fun n' b' hb' => ?_, fun h => ?_, fun _ h => ?_⟩
    · rw [hholds] at hb'
      cases hb'
      rw [node?_put _ _ _ _ (by simp [Job.temp, tempPath]), if_pos rfl]
    all_goals rw [hout] at h; cases h
  · exact (hS.shows i' j' t hj' ht).put_temp hA hj (List.mem_of_getElem? hj')
      (fun n' b' hb e => hother i' j' t hne hj' ht n' b' hb (e ▸ List.prefix_refl _)) b
  · by_cases hp : j''.temp n'' <+: j.temp n
    · obtain ⟨hpath, rfl⟩ := hA.temp_prefix_temp (List.mem_of_getElem? hj'') hj hp
      exact .inr ⟨hpath, b, hholds⟩
    · exact .inl (hv.put hp _)
  · obtain rfl : n' = n := Option.some.inj ((Job.number_of_holds hb).symm.trans hn)
    exact .inr ⟨b, hholds⟩
  · rw [node?_put_of_ne (hA.temp_ne_path hj (List.mem_of_getElem? hj'') n)]
    exact hS.content i'' j'' hj''

/-- A link that finds something at the call's file fails with `alreadyExists` and keeps the
invariant. -/
theorem linkTaken (hS : Safe jobs d₀ W) (hi : jobs[i]? = some j) {n : UInt64}
    (hs : W.stages[i]? = some (.written n)) (htaken : (W.disk.node? j.path).isSome) :
    Safe jobs d₀ ⟨W.disk, W.stages.set i (.cleaning n (some .alreadyExists))⟩ := by
  have hsh := hS.shows i j _ hi hs
  refine ⟨by simp [hS.length], hS.numbered.keep hs rfl rfl rfl,
    shows_update hi ⟨nofun, fun _ => hsh.ready nofun, fun _ => nofun, hsh.held, nofun,
      fun e he => ?_⟩ fun i' j' t _ hj' ht => hS.shows i' j' t hj' ht,
    hS.free_update hi hs (fun _ _ _ _ hv => .inl hv) (fun _ b hb => .inr ⟨b, hb⟩), hS.content⟩
  simp only [Stage.outcome, Option.some.injEq] at he
  exact ⟨he.symm, htaken⟩

/-- A link where nothing stands puts the call's bytes at its file and keeps the invariant. -/
theorem linkMade (hA : Apart jobs) (hS : Safe jobs d₀ W) (hi : jobs[i]? = some j) {n : UInt64}
    (hs : W.stages[i]? = some (.written n)) (hnone : W.disk.node? j.path = none) :
    Safe jobs d₀ ⟨W.disk.put j.path (.file j.data), W.stages.set i (.cleaning n none)⟩ := by
  have hj := List.mem_of_getElem? hi
  have hsh := hS.shows i j _ hi hs
  have hne := hA.ne_nil j hj
  have hput : (W.disk.put j.path (.file j.data)).node? j.path = some (.file j.data) := by
    rw [node?_put _ _ _ _ hne, if_pos rfl]
  refine ⟨by simp [hS.length], hS.numbered.keep hs rfl rfl (put_nextTemp _ _ _),
    shows_update hi ⟨nofun,
      fun _ => (hsh.ready nofun).congr fun k _ => node?_put_of_ne (hA.path_not_way hj hj k).symm _,
      fun _ => nofun, fun n' b hb => ?_, fun _ => hput, fun e he => by cases he⟩
      fun i' j' t _ hj' ht =>
        (hS.shows i' j' t hj' ht).put_path hA hj (List.mem_of_getElem? hj') hnone _,
    hS.free_update hi hs
      (fun i'' j'' n'' hj'' hv => .inl (hv.put (hA.temps _ (List.mem_of_getElem? hj'') _ hj _) _))
      (fun _ b hb => .inr ⟨b, hb⟩),
    fun i'' j'' hj'' => ?_⟩
  · rw [node?_put_of_ne (hA.temp_ne_path hj hj n').symm]
    exact hsh.held n' b hb
  · by_cases hp : j''.path = j.path
    · exact .inr ⟨j, hj, hp.symm, by rw [hp, hput]⟩
    · rw [node?_put_of_ne hp]
      exact hS.content i'' j'' hj''

/-- Unlinking its temporary file ends a call and keeps the invariant. -/
theorem unlinkTemp (hA : Apart jobs) (hS : Safe jobs d₀ W) (hi : jobs[i]? = some j)
    {n : UInt64} {r : Option CacheError} (hs : W.stages[i]? = some (.cleaning n r)) :
    Safe jobs d₀ ⟨W.disk.dropTree (j.temp n), W.stages.set i (.finished n r)⟩ := by
  have hj := List.mem_of_getElem? hi
  have hsh := hS.shows i j _ hi hs
  have hpath : (W.disk.dropTree (j.temp n)).node? j.path = W.disk.node? j.path :=
    node?_dropTree_outside _ (hA.temps j hj j hj n)
  refine ⟨by simp [hS.length], hS.numbered.keep hs rfl rfl rfl,
    shows_update hi ⟨nofun,
      fun _ => (hsh.ready nofun).congr fun k _ => node?_dropTree_outside _ (hA.temp_not_way hj hj n k),
      fun _ => nofun, fun _ _ => nofun, fun h => hpath ▸ hsh.published h,
      fun e h => hpath ▸ hsh.taken e h⟩
      fun i' j' t hne hj' ht => (hS.shows i' j' t hj' ht).dropTemp hA hj (List.mem_of_getElem? hj')
        (hS.temp_apart hA hi hs rfl i' j' t hne hj' ht),
    hS.free_update hi hs (fun _ _ _ _ hv => .inl (hv.dropTree _)) (fun n' b hb => .inl ?_),
    fun i'' j'' hj'' => ?_⟩
  · simp only [Job.holds, Option.some.injEq, Prod.mk.injEq] at hb
    rw [← hb.1]
    exact vacant_dropTree _ (by simp [Job.temp, tempPath])
  · rw [node?_dropTree_outside _ (hA.temps j hj j'' (List.mem_of_getElem? hj'') n)]
    exact hS.content i'' j'' hj''

/-- Every step keeps the invariant. -/
theorem step (hA : Apart jobs) (hS : Safe jobs d₀ W) {i : Nat} {a : Act} {W' : World}
    (h : W.step jobs i a = some W') : Safe jobs d₀ W' := by
  unfold World.step at h
  split at h
  · next j s hi hs =>
    obtain ⟨⟨s', d'⟩, hm, rfl⟩ := Option.map_eq_some_iff.mp h
    have hsh := hS.shows i j s hi hs
    cases s <;> cases a
    case start.next =>
      -- the way down to the parent holds no file, so the directories are made
      obtain ⟨d₁, hd, -⟩ :=
        createDirAll_of_clear W.disk (hsh.way rfl) (hA.fits j (List.mem_of_getElem? hi)).1
      simp only [Job.move, hd, Option.some.injEq, Prod.mk.injEq] at hm
      obtain ⟨rfl, rfl⟩ := hm
      exact hS.makeDirs hA hi hs hd
    case made.next =>
      simp only [Job.move, Option.some.injEq, Prod.mk.injEq] at hm
      obtain ⟨rfl, rfl⟩ := hm
      exact hS.takeNumber hi hs
    case numbered.next n =>
      -- the temporary name of a fresh number is vacant, so the file is created
      simp only [Job.move, hsh.createFile_temp nofun (hA.fits j (List.mem_of_getElem? hi)).2
          (hS.vacant_own hi hs rfl rfl),
        Option.some.injEq, Prod.mk.injEq] at hm
      obtain ⟨rfl, rfl⟩ := hm
      exact hS.setTemp hA hi hs rfl rfl rfl nofun nofun (fun _ => nofun) rfl rfl
    case writing.next n k =>
      simp only [Job.move, fill_of_file _ (hsh.held n _ rfl), Option.some.injEq,
        Prod.mk.injEq] at hm
      obtain ⟨rfl, rfl⟩ := hm
      exact hS.setTemp hA hi hs rfl rfl rfl nofun nofun (fun _ => nofun) rfl rfl
    case writing.write n k k' =>
      simp only [Job.move] at hm
      split at hm
      · simp only [fill_of_file _ (hsh.held n _ rfl), Option.some.injEq, Prod.mk.injEq] at hm
        obtain ⟨rfl, rfl⟩ := hm
        exact hS.setTemp hA hi hs rfl rfl rfl nofun nofun (fun _ => nofun) rfl rfl
      · cases hm
    case written.next n =>
      simp only [Job.move, hsh.hardLink_temp (hA.ne_nil j (List.mem_of_getElem? hi))
        (hA.fits j (List.mem_of_getElem? hi)).2] at hm
      by_cases htaken : (W.disk.node? j.path).isSome
      · simp only [htaken, if_true, Option.some.injEq, Prod.mk.injEq] at hm
        obtain ⟨rfl, rfl⟩ := hm
        exact hS.linkTaken hi hs htaken
      · simp only [htaken, Bool.false_eq_true, if_false, Option.some.injEq, Prod.mk.injEq] at hm
        obtain ⟨rfl, rfl⟩ := hm
        exact hS.linkMade hA hi hs (Option.not_isSome_iff_eq_none.mp htaken)
    case cleaning.next n r =>
      simp only [Job.move, hsh.removeFile_temp rfl nofun, Option.some.injEq,
        Prod.mk.injEq] at hm
      obtain ⟨rfl, rfl⟩ := hm
      exact hS.unlinkTemp hA hi hs
    all_goals simp [Job.move] at hm
  · cases h

end Safe

/-- Every state the calls reach from a fresh tree keeps the invariant. -/
theorem reachable_safe {jobs : List Job} {d₀ : Disk} {W : World} (hA : Apart jobs)
    (hF : Fresh jobs d₀) (h : Reachable jobs (World.init d₀ jobs) W) : Safe jobs d₀ W := by
  induction h with
  | refl => exact Safe.init hF
  | step _ _ _ hs ih => exact ih.step hA hs

theorem Stage.outcome_of_result {s : Stage} {r : Option CacheError} (h : s.result = some r) :
    s.outcome = some r := by
  cases s <;> simp_all [Stage.result, Stage.outcome]

/-- Calls of `writeNew` that keep apart, from a fresh tree, in any order of their steps: a call
that returned success left its own bytes at its file; a call that returned a failure failed with
`alreadyExists`, and its file is there; a file is as it was or holds the whole of the bytes of one
call that writes it; and a call that returned left nothing at or below its temporary name. -/
theorem reachable_publishes {jobs : List Job} {d₀ : Disk} {W : World} (hA : Apart jobs)
    (hF : Fresh jobs d₀) (h : Reachable jobs (World.init d₀ jobs) W) (i : Nat) (j : Job)
    (s : Stage) (hi : jobs[i]? = some j) (hs : W.stages[i]? = some s) :
    (s.result = some none → W.disk.node? j.path = some (.file j.data)) ∧
    (∀ e, s.result = some (some e) → e = .alreadyExists ∧ (W.disk.node? j.path).isSome) ∧
    (W.disk.node? j.path = d₀.node? j.path ∨
      ∃ j' ∈ jobs, j'.path = j.path ∧ W.disk.node? j.path = some (.file j'.data)) ∧
    (∀ n r, s = .finished n r → W.disk.Vacant (j.temp n)) := by
  have hS := reachable_safe hA hF h
  have hsh := hS.shows i j s hi hs
  refine ⟨fun hr => hsh.published (Stage.outcome_of_result hr),
    fun e hr => hsh.taken e (Stage.outcome_of_result hr), hS.content i j hi, ?_⟩
  rintro n r rfl
  exact hS.vacant_own hi hs rfl rfl

/-! ## Two calls writing one file, and a file left at a temporary name -/

/-- Runs the steps of a schedule in order. -/
def World.run (jobs : List Job) : World → List (Nat × Act) → Option World
  | W, [] => some W
  | W, (i, a) :: rest => (W.step jobs i a).bind (World.run jobs · rest)

theorem Reachable.run {jobs : List Job} {W₀ W W' : World} (sched : List (Nat × Act))
    (h : Reachable jobs W₀ W) (hr : W.run jobs sched = some W') : Reachable jobs W₀ W' := by
  induction sched generalizing W with
  | nil =>
    simp only [World.run, Option.some.injEq] at hr
    exact hr ▸ h
  | cons x rest ih =>
    obtain ⟨i, a⟩ := x
    obtain ⟨W₁, h₁, hr⟩ := Option.bind_eq_some_iff.mp hr
    exact ih (.step i a h h₁) hr

/-- Two calls that write one file, with different bytes. -/
def rivals : List Job := [⟨["a", "f"], [1]⟩, ⟨["a", "f"], [2]⟩]

theorem rivals_apart : Apart rivals := by
  have hpaths : ∀ j ∈ rivals, j.path = ["a", "f"] := by simp [rivals]
  refine ⟨fun j hj => by simp [hpaths j hj], fun j hj j' hj' _ => by rw [hpaths j hj, hpaths j' hj'],
    fun j hj j' hj' n => ?_, fun j hj => ?_⟩
  · rw [Job.temp, hpaths j hj, hpaths j' hj']
    exact tempPath_not_prefix_self (by simp) n
  · rw [hpaths j hj]
    exact ⟨by decide, by decide⟩

theorem rivals_fresh : Fresh rivals (Disk.empty 0) := by
  refine ⟨fun j _ => clear_empty 0 _, fun j _ n r hr => ?_, by decide⟩
  have hr0 : r ≠ [] := by rintro rfl; simp [Job.temp, tempPath] at hr
  simp [Disk.node?, Disk.empty, hr0]

/-- When the two calls take turns, the first links its file and the second fails with
`alreadyExists` finding it there; neither leaves its temporary name behind. -/
theorem rival_writer_finds_file :
    let W : World := ⟨⟨[(["a"], .dir), (["a", "f"], .file [1])], 2⟩,
      [.finished 0 none, .finished 1 (some .alreadyExists)]⟩
    Reachable rivals (World.init (Disk.empty 0) rivals) W ∧
      (W.disk.node? ["a", "f"]).isSome ∧ W.disk.Vacant (tempPath ["a", "f"] 1) := by
  intro W
  have hW : Reachable rivals (World.init (Disk.empty 0) rivals) W :=
    Reachable.run (List.replicate 6 [(0, .next), (1, .next)]).flatten .refl rfl
  obtain ⟨-, htaken, -, hvac⟩ :=
    reachable_publishes rivals_apart rivals_fresh hW 1 ⟨["a", "f"], [2]⟩ _ rfl rfl
  exact ⟨hW, (htaken .alreadyExists rfl).2, hvac 1 _ rfl⟩

/-- A file left at the temporary name the count gives, from an earlier process, makes a new file
fail with `alreadyExists` although nothing stands at its name, and is unlinked. -/
theorem stale_temp_refuses_new_file :
    let d : Disk := ⟨[(["a"], .dir), (["a", "f.tmp.0"], .file [7])], 0⟩
    d.node? ["a", "f"] = none ∧
      DiskM.writeNew ["a", "f"] [1] d = .error .alreadyExists ⟨[(["a"], .dir)], 1⟩ :=
  ⟨rfl, rfl⟩

end Publishing

end PartCache
