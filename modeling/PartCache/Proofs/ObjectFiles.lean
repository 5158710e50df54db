import PartCache.Store.Objects
import Mathlib.Tactic.Set
import Mathlib.Data.Nat.Digits.Defs
import Mathlib.Data.String.Basic

/-!
# The part files of one object

Each part of an object is a file `partPath ⟨id, p⟩` in the object's directory, named by the part
number in at least six digits.  Different numbers give different names
(`Layout.partFileName_injective`), so the files of an object's parts are distinct paths.

The directory tree is a list of entries, and the operations below act on it path by path: setting
a node changes that path only (`Disk.node?_put`), and dropping a tree drops that path and what
lies below it (`Disk.node?_dropTree`).  The way down to an object's directory is `Clear` when it
is directories as far as it goes and then nothing, and `Ready` when every directory on it
exists.  Saving a part on a clear way makes it ready, writes the part's file unless one is there,
and changes no other path below the object's directory (`DiskM.attempt_savePart`); discarding a
part drops at most its own path (`DiskM.discardPart_cases`); and opening a part on a clear way
finds exactly the node at its path (`PartFiles.openPart`).

`PartFiles ps B id d` says what a disk holds of object `id` whose body is `B`, cut in parts of
`ps` bytes: every part file of `id` lies within the body and holds its part's bytes
(`partSlice`), and the way down to the object's directory holds no file.  Saving a part's own
bytes and discarding any part keep it (`PartFiles.save`, `PartFiles.discardPart`).
-/

set_option autoImplicit false

namespace PartCache

/-! ## Running a step -/

section Run

variable {ε σ α β : Type} {x : EStateM ε σ α} {s s' : σ}

theorem bind_ok_apply {f : α → EStateM ε σ β} {a : α} (h : x s = .ok a s') :
    (x >>= f) s = f a s' := by
  simp only [bind, EStateM.bind, h]

theorem bind_error_apply {f : α → EStateM ε σ β} {e : ε} (h : x s = .error e s') :
    (x >>= f) s = .error e s' := by
  simp only [bind, EStateM.bind, h]

theorem tryCatch_ok_apply {handle : ε → EStateM ε σ α} {a : α} (h : x s = .ok a s') :
    tryCatch x handle s = .ok a s' := by
  show EStateM.tryCatch x handle s = _
  delta EStateM.tryCatch
  simp only [h]

theorem tryCatch_error_apply {handle : ε → EStateM ε σ α} {e : ε} (h : x s = .error e s') :
    tryCatch x handle s = handle e s' := by
  show EStateM.tryCatch x handle s = _
  delta EStateM.tryCatch
  simp only [h]
  rfl

@[simp] theorem pure_apply (a : α) : (pure a : EStateM ε σ α) s = .ok a s := rfl

theorem map_ok_apply {f : α → β} {a : α} (h : x s = .ok a s') : (f <$> x) s = .ok (f a) s' := by
  simp only [Functor.map, EStateM.map, h]

theorem map_error_apply {f : α → β} {e : ε} (h : x s = .error e s') : (f <$> x) s = .error e s' := by
  simp only [Functor.map, EStateM.map, h]

end Run

/-! ## Part file names -/

namespace Decimal

theorem ofDigitChars_paddedDigits (width n : Nat) :
    Nat.ofDigitChars 10 (paddedDigits width n) 0 = n := by
  -- the leading zeros read as nothing
  have hzeros : ∀ k, Nat.ofDigitChars 10 (List.replicate k '0') 0 = 0 := by
    intro k
    induction k with
    | zero => rfl
    | succ k ih => rw [List.replicate_succ, Nat.ofDigitChars_cons]; simp [ih]
  rw [paddedDigits, Nat.ofDigitChars_append, hzeros, digits,
    Nat.ofDigitChars_toDigits (by decide) (by decide)]

theorem padded_injective (width : Nat) : Function.Injective (padded width) := by
  intro m n h
  have hd : paddedDigits width m = paddedDigits width n := by
    simpa [padded] using congrArg String.toList h
  rw [← ofDigitChars_paddedDigits width m, hd, ofDigitChars_paddedDigits]

/-- A digit's code lies between those of `0` and `9`. -/
theorem toNat_of_isDigit {c : Char} (h : c.isDigit = true) : 48 ≤ c.toNat ∧ c.toNat ≤ 57 := by
  simp only [Char.isDigit, Bool.and_eq_true, decide_eq_true_eq] at h
  exact h

/-- A digit takes one byte, so a run of digits has as many bytes as characters. -/
theorem utf8Len_of_isDigit {cs : List Char} (h : ∀ c ∈ cs, c.isDigit = true) :
    String.utf8Len cs = cs.length := by
  induction cs with
  | nil => rfl
  | cons c rest ih =>
    have hc := toNat_of_isDigit (h c List.mem_cons_self)
    have hone : c.utf8Size = 1 := by
      rw [Char.utf8Size_eq_one_iff, UInt32.le_iff_toNat_le]
      exact Nat.le_trans hc.2 (by decide)
    rw [String.utf8Len_cons, ih fun d hd => h d (List.mem_cons_of_mem c hd), hone,
      List.length_cons]

/-- A number below `10 ^ e` has at most `e` digits, each one byte of its text. -/
theorem utf8ByteSize_text_le {n e : Nat} (he : 0 < e) (h : n < 10 ^ e) : (text n).utf8ByteSize ≤ e := by
  rw [text, String.utf8ByteSize_ofList,
    utf8Len_of_isDigit (List.all_eq_true.mp (digits_all_isDigit n))]
  exact Nat.toDigits_length 10 n e he h

/-- A padded number below `10 ^ e`, for `e` at least the width, has at most `e` bytes. -/
theorem utf8ByteSize_padded_le {width n e : Nat} (he : 0 < e) (hw : width ≤ e) (h : n < 10 ^ e) :
    (padded width n).utf8ByteSize ≤ e := by
  have hdigits : ∀ c ∈ paddedDigits width n, c.isDigit = true := fun c hc => by
    rcases List.mem_append.mp hc with hc | hc
    · rw [(List.mem_replicate.mp hc).2]; rfl
    · exact List.all_eq_true.mp (digits_all_isDigit n) c hc
  have hlen : (digits n).length ≤ e := Nat.toDigits_length 10 n e he h
  rw [padded, String.utf8ByteSize_ofList, utf8Len_of_isDigit hdigits, paddedDigits,
    List.length_append, List.length_replicate]
  omega

end Decimal

namespace Layout

theorem partFileName_injective : Function.Injective partFileName := fun _ _ h =>
  UInt32.toNat_inj.mp (Decimal.padded_injective 6 h)

/-- Two part files are one exactly when their objects share a directory and their numbers agree. -/
theorem partPath_eq_iff {id id' : ObjectId} {p q : UInt32} :
    partPath ⟨id, p⟩ = partPath ⟨id', q⟩ ↔ objectDir id = objectDir id' ∧ p = q := by
  constructor
  · intro h
    have hl := List.append_inj h (by simp [length_objectDir])
    exact ⟨hl.1, partFileName_injective (List.singleton_inj.mp hl.2)⟩
  · rintro ⟨hd, rfl⟩
    simp [partPath, hd]

theorem length_partPath (i : PartIndex) : (partPath i).length = 5 := by
  simp [partPath, length_objectDir]

theorem partPath_ne_nil (i : PartIndex) : partPath i ≠ [] := by
  simp [partPath]

/-- The temporary sibling of a file is a name of the file's own directory. -/
theorem tempPath_append (dir : List String) (name : String) (n : UInt64) :
    tempPath (dir ++ [name]) n = dir ++ [name ++ tempMark ++ Decimal.text n.toNat] := by
  simp [tempPath]

/-- A part's file name is digits only, so it is never the name of a temporary file. -/
theorem partFileName_ne_temp (q : UInt32) (name rest : String) :
    partFileName q ≠ name ++ tempMark ++ rest := by
  intro h
  have hdot : '.' ∈ (partFileName q).toList := by rw [h]; simp [tempMark]
  simp only [partFileName, Decimal.padded, Decimal.paddedDigits, String.toList_ofList,
    List.mem_append, List.mem_replicate] at hdot
  rcases hdot with ⟨-, h0⟩ | hd
  · exact absurd h0 (by decide)
  · exact absurd (List.all_eq_true.mp (Decimal.digits_all_isDigit _) '.' hd) (by decide)

theorem tempPath_partPath_ne (i j : PartIndex) (n : UInt64) : tempPath (partPath i) n ≠ partPath j := by
  intro h
  rw [partPath, tempPath_append, partPath] at h
  have hnames := List.singleton_inj.mp (List.append_inj h (by simp [length_objectDir])).2
  exact partFileName_ne_temp j.part _ _ hnames.symm

/-- A part's file name is at most ten digits. -/
theorem utf8ByteSize_partFileName (p : UInt32) : (partFileName p).utf8ByteSize ≤ 10 :=
  Decimal.utf8ByteSize_padded_le (by decide) (by decide) (Nat.lt_trans p.toNat_lt (by decide))

theorem partName_fits (p : UInt32) : (partFileName p).utf8ByteSize ≤ 255 :=
  Nat.le_trans (utf8ByteSize_partFileName p) (by decide)

/-- A temporary name is its file's name followed by at most twenty-five bytes: the mark and
the twenty digits of the largest number the count hands out. -/
theorem utf8ByteSize_tempName (name : String) (n : UInt64) :
    (name ++ tempMark ++ Decimal.text n.toNat).utf8ByteSize ≤ name.utf8ByteSize + 25 := by
  have hdigits := Decimal.utf8ByteSize_text_le (e := 20) (by decide)
    (Nat.lt_trans n.toNat_lt (by decide))
  have hmark : tempMark.utf8ByteSize = 5 := rfl
  simp only [String.utf8ByteSize_append, hmark]
  omega

end Layout

/-! ## The tree, path by path -/

namespace Disk

section Nodes

variable (d : Disk) (p q : RelPath)

@[simp] theorem node?_nil : d.node? [] = some .dir := rfl

/-- Replacing the node at `p` does not move which entry a lookup of `q` finds. -/
theorem key_replace (n : Node) (e : RelPath × Node) :
    ((if e.1 == p then (p, n) else e).1 == q) = (e.1 == q) := by
  by_cases hep : e.1 = p <;> simp [hep]

theorem node?_put (n : Node) (hq : q ≠ []) :
    (d.put p n).node? q = if q = p then some n else d.node? q := by
  unfold put node?
  simp only [hq, if_false]
  split
  · -- `p` has an entry, replaced in place
    next hany =>
    rw [List.find?_map, Option.map_map]
    have hpred : ((·.1 == q) ∘ fun e : RelPath × Node => if e.1 == p then (p, n) else e) =
        (·.1 == q) := funext (key_replace p q n)
    rw [hpred]
    cases hf : d.entries.find? (·.1 == q) with
    | none =>
      by_cases hqp : q = p
      · subst hqp
        obtain ⟨e, he, hep⟩ := List.any_eq_true.mp hany
        exact absurd (List.find?_eq_none.mp hf e he) (by simpa using hep)
      · simp [hqp]
    | some e =>
      have heq : e.1 = q := by simpa using List.find?_some hf
      by_cases hqp : q = p <;> simp [hqp, heq]
  · -- `p` is new, added last
    next hany =>
    rw [List.find?_append]
    cases hf : d.entries.find? (·.1 == q) with
    | none =>
      by_cases hqp : q = p
      · simp [hqp]
      · simp [hqp, Ne.symm hqp]
    | some e =>
      have heq : e.1 = q := by simpa using List.find?_some hf
      have hqp : q ≠ p := by
        rintro rfl
        exact hany (List.any_eq_true.mpr ⟨e, List.mem_of_find?_eq_some hf, by simp [heq]⟩)
      simp [hqp]

theorem node?_dropTree (hq : q ≠ []) :
    (d.dropTree p).node? q = if q = p ∨ isBelow p q then none else d.node? q := by
  unfold dropTree node?
  simp only [hq, if_false]
  rw [List.find?_filter]
  split
  · next hdrop =>
    -- every entry at `q` is dropped
    have hnone : d.entries.find? (fun a => decide ((!(a.1 == p || isBelow p a.1)) = true ∧
        (a.1 == q) = true)) = none :=
      List.find?_eq_none.mpr fun a _ h => by
        simp only [decide_eq_true_eq, beq_iff_eq] at h
        obtain ⟨hk, rfl⟩ := h
        rcases hdrop with rfl | hb <;> simp_all
    rw [hnone, Option.map_none]
  · next hkeep =>
    have hpred : (fun a : RelPath × Node => decide ((!(a.1 == p || isBelow p a.1)) = true ∧
        (a.1 == q) = true)) = (·.1 == q) := by
      funext a
      by_cases haq : a.1 = q
      · simp only [haq, beq_self_eq_true, and_true, decide_eq_true_eq]
        simpa [not_or] using hkeep
      · simp [haq]
    rw [hpred]

/-- Dropping a tree leaves every other path no longer than its root. -/
theorem node?_dropTree_of_length_le (hq : q ≠ []) (hlen : q.length ≤ p.length) (hne : q ≠ p) :
    (d.dropTree p).node? q = d.node? q := by
  have hbelow : isBelow p q = false := by simp [isBelow]; omega
  simp [node?_dropTree d p q hq, hne, hbelow]

/-- Making a directory where nothing stands. -/
theorem node?_mkdir (r : RelPath) :
    (if (d.node? q).isSome then d else d.put q .dir).node? r =
      if r = q then (d.node? r).or (some .dir) else d.node? r := by
  by_cases hr : r = []
  · subst hr; simp
  split
  · next hs =>
    by_cases hrq : r = q
    · subst hrq
      obtain ⟨n, hn⟩ := Option.isSome_iff_exists.mp hs
      simp [hn]
    · simp [hrq]
  · next hs =>
    rw [node?_put _ _ _ _ hr]
    by_cases hrq : r = q
    · subst hrq
      simp_all
    · simp [hrq]

theorem node?_foldl_mkdir (qs : List RelPath) (r : RelPath) :
    (qs.foldl (fun d q => if (d.node? q).isSome then d else d.put q .dir) d).node? r =
      if r ∈ qs then (d.node? r).or (some .dir) else d.node? r := by
  induction qs generalizing d with
  | nil => simp
  | cons q qs ih =>
    rw [List.foldl_cons, ih, node?_mkdir]
    by_cases hrq : r = q
    · subst hrq
      cases d.node? r <;> simp
    · simp [hrq]

end Nodes

/-! ## The way down to a directory -/

/-- Every directory on the way down to `dir` exists. -/
def Ready (d : Disk) (dir : RelPath) : Prop := ∀ k ≤ dir.length, d.node? (dir.take k) = some .dir

/-- The way down to `dir` holds no file: directories as far as it goes, then nothing. -/
def Clear (d : Disk) (dir : RelPath) : Prop :=
  ∃ m ≤ dir.length, ∀ k ≤ dir.length, d.node? (dir.take k) = if k ≤ m then some .dir else none

/-- Every name of a path fits in a directory entry, which holds at most 255 bytes. -/
def Fits (p : RelPath) : Prop := ∀ n ∈ p, n.utf8ByteSize ≤ 255

instance (p : RelPath) : Decidable (Fits p) := inferInstanceAs (Decidable (∀ n ∈ p, _))

theorem overlong_of_fits {p : RelPath} (h : Fits p) : overlong p = false := by
  cases hl : p.getLast? with
  | none => simp [overlong, hl]
  | some n => simpa [overlong, hl] using h n (List.mem_of_getLast? hl)

theorem overlong_append {dir : RelPath} {name : String} (h : name.utf8ByteSize ≤ 255) :
    overlong (dir ++ [name]) = false := by
  simpa [overlong] using h

theorem Fits.take {p : RelPath} (h : Fits p) (k : Nat) : Fits (p.take k) :=
  fun n hn => h n (List.mem_of_mem_take hn)

theorem Fits.append {p : RelPath} {name : String} (h : Fits p) (hn : name.utf8ByteSize ≤ 255) :
    Fits (p ++ [name]) := fun m hm => by
  rcases List.mem_append.mp hm with hm | hm
  · exact h m hm
  · rw [List.mem_singleton.mp hm]
    exact hn

section Way

variable (d : Disk)

theorem Clear.of_ready {dir : RelPath} (h : Ready d dir) : Clear d dir :=
  ⟨dir.length, Nat.le_refl _, fun k hk => by simp [hk, h k hk]⟩

/-- In an empty tree the way down to any directory is clear: only the root is there. -/
theorem clear_empty (n : UInt64) (dir : RelPath) : Clear (empty n) dir := by
  refine ⟨0, Nat.zero_le _, fun k hk => ?_⟩
  by_cases hk0 : k = 0
  · subst hk0
    simp [node?]
  · have hne : dir.take k ≠ [] := by
      simp [List.take_eq_nil_iff, hk0]
      exact List.ne_nil_of_length_pos (by omega)
    simp [node?, empty, hne, hk0]

theorem reach_go_of_dirs {qs : List RelPath} (h : ∀ q ∈ qs, d.node? q = some .dir) :
    reach.go d qs = .ok () := by
  induction qs with
  | nil => rfl
  | cons q qs ih =>
    simp only [reach.go, h q (by simp)]
    exact ih fun q' hq' => h q' (by simp [hq'])

theorem reach_go_of_no_file {qs : List RelPath}
    (h : ∀ q ∈ qs, d.node? q = some .dir ∨ d.node? q = none ∧ overlong q = false) :
    reach.go d qs = .ok () ∨ reach.go d qs = .error .notFound := by
  induction qs with
  | nil => exact .inl rfl
  | cons q qs ih =>
    rcases h q (by simp) with hq | ⟨hq, hlong⟩
    · simp only [reach.go, hq]
      exact ih fun q' hq' => h q' (by simp [hq'])
    · simp [reach.go, hq, absent, hlong]

/-- The way down to a path in a directory is the way down to the directory. -/
theorem prefixes_append_singleton (dir : RelPath) (name : String) :
    (List.range (dir ++ [name]).length).map (dir ++ [name]).take =
      (List.range (dir.length + 1)).map dir.take := by
  simp only [List.length_append, List.length_singleton]
  refine List.map_congr_left fun k hk => ?_
  have hk' : k ≤ dir.length := by simp at hk; omega
  exact List.take_append_of_le_length hk'

theorem reach_of_ready {dir : RelPath} (h : Ready d dir) (name : String) :
    d.reach (dir ++ [name]) = .ok () := by
  unfold reach
  rw [prefixes_append_singleton]
  refine reach_go_of_dirs d fun q hq => ?_
  obtain ⟨k, hk, rfl⟩ := List.mem_map.mp hq
  exact h k (by simp at hk; omega)

theorem reach_of_clear {dir : RelPath} (h : Clear d dir) (hf : Fits dir) (name : String) :
    d.reach (dir ++ [name]) = .ok () ∨ d.reach (dir ++ [name]) = .error .notFound := by
  unfold reach
  rw [prefixes_append_singleton]
  refine reach_go_of_no_file d fun q hq => ?_
  obtain ⟨k, hk, rfl⟩ := List.mem_map.mp hq
  obtain ⟨m, -, hm⟩ := h
  rw [hm k (by simp at hk; omega)]
  split
  · exact .inl rfl
  · exact .inr ⟨rfl, overlong_of_fits (hf.take k)⟩

/-- What stands at a path is what a lookup finds, once the way down resolves, unless nothing
stands at a name too long to look up. -/
theorem look_of_reach {p : RelPath} (hr : d.reach p = .ok ())
    (hn : (d.node? p).isSome ∨ overlong p = false) : d.look p = .ok (d.node? p) := by
  rcases hn with hn | hn
  · obtain ⟨n, hn⟩ := Option.isSome_iff_exists.mp hn
    simp [look, hr, hn, bind, Except.bind, pure, Except.pure]
  · simp [look, hr, hn, bind, Except.bind, pure, Except.pure]

theorem look_of_ready {dir : RelPath} (h : Ready d dir) {name : String}
    (hn : name.utf8ByteSize ≤ 255) : d.look (dir ++ [name]) = .ok (d.node? (dir ++ [name])) :=
  look_of_reach d (reach_of_ready d h name) (.inr (overlong_append hn))

/-- On a ready way, a path in the directory opens as the node there, or fails `notFound`. -/
theorem openNode_of_ready {dir : RelPath} (h : Ready d dir) {name : String}
    (hname : name.utf8ByteSize ≤ 255) :
    d.openNode (dir ++ [name]) =
      match d.node? (dir ++ [name]) with
      | some n => .ok n
      | none => .error .notFound := by
  cases hn : d.node? (dir ++ [name]) <;>
    simp [openNode, look_of_ready d h hname, hn, bind, Except.bind, pure, Except.pure, throw,
      throwThe, MonadExceptOf.throw]

/-- On a clear way whose names fit, a path in the directory where nothing stands fails to open
with `notFound`, whether the way reaches it or stops short. -/
theorem openNode_of_clear {dir : RelPath} (h : Clear d dir) {name : String} (hf : Fits dir)
    (hname : name.utf8ByteSize ≤ 255) (hn : d.node? (dir ++ [name]) = none) :
    d.openNode (dir ++ [name]) = .error .notFound := by
  rcases reach_of_clear d h hf name with hr | hr
  · simp [openNode, look_of_reach d hr (.inr (overlong_append hname)), hn, bind, Except.bind,
      throw, throwThe, MonadExceptOf.throw]
  · simp [openNode, look, hr, bind, Except.bind]

theorem put_nextTemp (p : RelPath) (n : Node) : (d.put p n).nextTemp = d.nextTemp := by
  unfold put
  split <;> rfl

theorem foldl_mkdir_nextTemp (qs : List RelPath) :
    (qs.foldl (fun d q => if (d.node? q).isSome then d else d.put q .dir) d).nextTemp =
      d.nextTemp := by
  induction qs generalizing d with
  | nil => rfl
  | cons q qs ih =>
    rw [List.foldl_cons, ih]
    split
    · rfl
    · exact put_nextTemp d q .dir

/-- Making directories leaves the count of temporary files alone. -/
theorem createDirAll_nextTemp {p : RelPath} {d' : Disk} (h : d.createDirAll p = .ok d') :
    d'.nextTemp = d.nextTemp := by
  unfold createDirAll at h
  split at h
  · cases h; rfl
  · cases h
  · dsimp only at h
    split at h
    · cases h
    · split at h
      · cases h
      · cases h
        exact foldl_mkdir_nextTemp d _

/-- Making an object's directory where the way to it holds no file: afterwards every directory on
the way exists, and nothing deeper changes. -/
theorem createDirAll_of_clear {dir : RelPath} (h : Clear d dir) (hf : Fits dir) :
    ∃ d', d.createDirAll dir = .ok d' ∧ Ready d' dir ∧
      ∀ r, dir.length < r.length → d'.node? r = d.node? r := by
  obtain ⟨m, hm, hnode⟩ := h
  have hdir := hnode dir.length (Nat.le_refl _)
  rw [List.take_length] at hdir
  unfold createDirAll
  split
  · -- the directory is there, so is everything above it
    next hd =>
    have hmL : m = dir.length := by
      rw [hd] at hdir; split at hdir <;> first | omega | cases hdir
    refine ⟨d, rfl, fun k hk => ?_, fun _ _ => rfl⟩
    rw [hnode k hk, if_pos (by omega)]
  · next data hd => rw [hd] at hdir; split at hdir <;> cases hdir
  · next hd =>
    dsimp only
    split
    · next hany =>
      exfalso
      obtain ⟨q, hq, hfile⟩ := List.any_eq_true.mp hany
      obtain ⟨k, hk, rfl⟩ := List.mem_map.mp hq
      rw [hnode k (by simp at hk; omega)] at hfile
      by_cases hkm : k ≤ m <;> simp [hkm] at hfile
    split
    · next hlong =>
      -- every name on the way fits
      exfalso
      obtain ⟨q, hq, hmissing⟩ := List.any_eq_true.mp hlong
      have hq' : q = dir ∨ ∃ k < dir.length, dir.take k = q := by simpa [or_comm] using hq
      have hfq : Fits q := by
        rcases hq' with rfl | ⟨k, -, rfl⟩
        · exact hf
        · exact hf.take k
      simp [overlong_of_fits hfq] at hmissing
    refine ⟨_, rfl, fun k hk => ?_, fun r hr => ?_⟩
    · have hmem : dir.take k ∈ (List.range dir.length).map dir.take ++ [dir] := by
        by_cases hkL : k = dir.length
        · subst hkL; simp
        · exact List.mem_append_left _ (List.mem_map.mpr ⟨k, by simp; omega, rfl⟩)
      rw [node?_foldl_mkdir, if_pos hmem, hnode k hk]
      split <;> rfl
    · have hmem : r ∉ (List.range dir.length).map dir.take ++ [dir] := by
        intro hmem
        rcases List.mem_append.mp hmem with hq | hq
        · obtain ⟨k, -, rfl⟩ := List.mem_map.mp hq
          simp only [List.length_take] at hr
          omega
        · rw [List.mem_singleton.mp hq] at hr
          omega
      rw [node?_foldl_mkdir, if_neg hmem]

theorem createFile_of_ready {dir : RelPath} (h : Ready d dir) {name : String}
    (hname : name.utf8ByteSize ≤ 255) (data : Bytes) :
    d.createFile (dir ++ [name]) data =
      if (d.node? (dir ++ [name])).isSome then .error .taken
      else .ok (d.put (dir ++ [name]) (.file data)) := by
  cases hn : d.node? (dir ++ [name]) <;>
    simp [createFile, look_of_ready d h hname, hn, bind, Except.bind, pure, Except.pure, throw,
      throwThe, MonadExceptOf.throw]

/-- On a ready way, a file of the directory links at another name of it unless that is taken. -/
theorem hardLink_of_ready {dir : RelPath} (h : Ready d dir) {a : String} {x : Bytes}
    (hs : d.node? (dir ++ [a]) = some (.file x)) {b : String} (hb : b.utf8ByteSize ≤ 255) :
    d.hardLink (dir ++ [a]) (dir ++ [b]) =
      if (d.node? (dir ++ [b])).isSome then .error .taken
      else .ok (d.put (dir ++ [b]) (.file x)) := by
  have hsrc := look_of_reach d (reach_of_ready d h a) (.inl (by simp [hs]))
  cases hn : d.node? (dir ++ [b]) <;>
    simp [hardLink, hsrc, look_of_ready d h hb, hs, hn, bind, Except.bind, pure, Except.pure,
      throw, throwThe, MonadExceptOf.throw]

theorem removeFile_of_ready {dir : RelPath} (h : Ready d dir) {a : String} {x : Bytes}
    (hs : d.node? (dir ++ [a]) = some (.file x)) :
    d.removeFile (dir ++ [a]) = .ok (d.dropTree (dir ++ [a])) := by
  simp [removeFile, look_of_reach d (reach_of_ready d h a) (.inl (by simp [hs])), hs, bind,
    Except.bind, pure, Except.pure]

theorem fill_of_file {p : RelPath} {x : Bytes} (h : d.node? p = some (.file x)) (data : Bytes) :
    d.fill p data = d.put p (.file data) := by
  simp [fill, h]

/-- Setting a node deeper than `dir` leaves the way down to `dir`. -/
theorem Ready.put {dir q : RelPath} (h : Ready d dir) (hlen : dir.length < q.length) (n : Node) :
    Ready (d.put q n) dir := fun k hk => by
  by_cases hk0 : dir.take k = []
  · rw [hk0]; rfl
  have hne : dir.take k ≠ q := fun e => by
    have := congrArg List.length e
    simp only [List.length_take] at this
    omega
  rw [node?_put _ _ _ _ hk0, if_neg hne]
  exact h k hk

theorem removeFile_ok {p : RelPath} {d' : Disk} (h : d.removeFile p = .ok d') :
    d' = d.dropTree p := by
  unfold removeFile at h
  cases hl : d.look p with
  | error e => simp [hl, bind, Except.bind] at h
  | ok n =>
    simp only [hl, bind, Except.bind] at h
    match n, h with
    | some (.file _), h => simp [pure, Except.pure] at h; exact h.symm
    | some .dir, h => simp [throw, throwThe, MonadExceptOf.throw] at h
    | none, h => simp [throw, throwThe, MonadExceptOf.throw] at h

end Way

end Disk

namespace Disk

section Drop

variable (d : Disk) {p : RelPath}

/-- Dropping a tree at a path longer than `dir` leaves the way down to `dir`. -/
theorem node?_take_dropTree {dir : RelPath} (hlen : dir.length < p.length) (k : Nat) :
    (d.dropTree p).node? (dir.take k) = d.node? (dir.take k) := by
  by_cases hk : dir.take k = []
  · rw [hk]; rfl
  have hle : (dir.take k).length ≤ p.length := by simp [List.length_take]; omega
  exact node?_dropTree_of_length_le d p _ hk hle fun e => by
    have := congrArg List.length e
    simp [List.length_take] at this
    omega

theorem Ready.dropTree {dir : RelPath} (h : Ready d dir) (hlen : dir.length < p.length) :
    Ready (d.dropTree p) dir := fun k hk => by
  rw [node?_take_dropTree d hlen]
  exact h k hk

theorem Clear.dropTree {dir : RelPath} (h : Clear d dir) (hlen : dir.length < p.length) :
    Clear (d.dropTree p) dir := by
  obtain ⟨m, hm, hnode⟩ := h
  exact ⟨m, hm, fun k hk => by rw [node?_take_dropTree d hlen]; exact hnode k hk⟩

end Drop

/-- Nothing stands at `p` or below it. -/
def Vacant (d : Disk) (p : RelPath) : Prop := ∀ r, p <+: r → d.node? r = none

section Vacancy

variable (d : Disk) {p : RelPath}

theorem prefix_of_isBelow {q : RelPath} (h : isBelow p q = true) : p <+: q := by
  simp only [isBelow, Bool.and_eq_true, decide_eq_true_eq, beq_iff_eq] at h
  exact List.prefix_iff_eq_take.mpr h.2.symm

/-- Dropping the tree at `p` leaves every path that does not start with `p`. -/
theorem node?_dropTree_outside {q : RelPath} (h : ¬ p <+: q) :
    (d.dropTree p).node? q = d.node? q := by
  by_cases hq : q = []
  · subst hq; rfl
  rw [node?_dropTree _ _ _ hq, if_neg]
  rintro (rfl | hb)
  · exact h (List.prefix_refl _)
  · exact h (prefix_of_isBelow hb)

theorem Vacant.node {d : Disk} (h : Vacant d p) : d.node? p = none := h p (List.prefix_refl p)

/-- The root always stands, so what is vacant is below it. -/
theorem Vacant.ne_nil {d : Disk} (h : Vacant d p) {r : RelPath} (hr : p <+: r) : r ≠ [] := by
  rintro rfl
  simpa using h [] hr

theorem Vacant.put {d : Disk} (h : Vacant d p) {q : RelPath} (hq : ¬ p <+: q) (n : Node) :
    Vacant (d.put q n) p := fun r hr => by
  rw [node?_put _ _ _ _ (h.ne_nil hr), if_neg (by rintro rfl; exact hq hr)]
  exact h r hr

theorem Vacant.dropTree {d : Disk} (h : Vacant d p) (q : RelPath) : Vacant (d.dropTree q) p :=
  fun r hr => by
    rw [node?_dropTree _ _ _ (h.ne_nil hr)]
    split
    · rfl
    · exact h r hr

/-- Dropping the tree at a path leaves it vacant. -/
theorem vacant_dropTree (hp : p ≠ []) : Vacant (d.dropTree p) p := fun r hr => by
  have hr0 : r ≠ [] := by rintro rfl; exact hp (List.prefix_nil.mp hr)
  rw [node?_dropTree _ _ _ hr0, if_pos]
  by_cases hrp : r = p
  · exact .inl hrp
  · right
    have hlen : p.length < r.length :=
      Nat.lt_of_le_of_ne hr.length_le fun e => hrp (hr.eq_of_length e).symm
    simp [isBelow, hlen, ← List.prefix_iff_eq_take.mp hr]

end Vacancy

end Disk

/-! ## Saving, discarding and opening a part -/

namespace DiskM

open Disk Layout

theorem change_ok {call : Disk → Except OsError Disk} {d d' : Disk} (h : call d = .ok d') :
    change call d = .ok () d' := by
  simp only [change, h]

theorem change_error {call : Disk → Except OsError Disk} {d : Disk} {e : OsError}
    (h : call d = .error e) : change call d = .error e.toCache d := by
  simp only [change, h]

theorem takeTemp_apply (d : Disk) :
    takeTemp d = .ok d.nextTemp { d with nextTemp := d.nextTemp + 1 } := rfl

theorem modify_apply (f : Disk → Disk) (d : Disk) : (modify f : DiskM Unit) d = .ok () (f d) :=
  rfl

theorem cleanUp_of_removeFile {p : RelPath} {d d' : Disk} (h : d.removeFile p = .ok d') :
    cleanUp p d = .ok () d' := by
  rw [cleanUp, modify_apply, h]
  rfl

/-- A step that goes through inside `attempt` hands on to the rest. -/
theorem attempt_bind_ok {x : DiskM Unit} {f : Unit → DiskM Unit} {d d' : Disk}
    (h : x d = .ok () d') : attempt (x >>= f) d = attempt (f ()) d' := by
  show EStateM.tryCatch _ _ d = EStateM.tryCatch _ _ d'
  delta EStateM.tryCatch
  simp only [bind, EStateM.bind, h]

/-- A step that fails inside `attempt` ends it with its failure. -/
theorem attempt_bind_error {x : DiskM Unit} {f : Unit → DiskM Unit} {d d' : Disk} {e : CacheError}
    (h : x d = .error e d') : attempt (x >>= f) d = .ok (some e) d' := by
  show EStateM.tryCatch _ _ d = _
  delta EStateM.tryCatch
  simp only [bind, EStateM.bind, h]
  rfl

theorem attempt_ok {x : DiskM Unit} {d d' : Disk} (h : x d = .ok () d') :
    attempt x d = .ok none d' :=
  tryCatch_ok_apply (bind_ok_apply h)

theorem attempt_error {x : DiskM Unit} {d d' : Disk} {e : CacheError} (h : x d = .error e d') :
    attempt x d = .ok (some e) d' :=
  tryCatch_error_apply (bind_error_apply h)

/-- Rewriting the first step of an operation whose rest is bound on. -/
theorem bind_congr_apply {α β : Type} {x y : DiskM α} {g : α → DiskM β} {d d' : Disk}
    (h : x d = y d') : (x >>= g) d = (y >>= g) d' := by
  simp only [bind, EStateM.bind, h]

/-- Publishing through a vacant name of a ready directory: the file gets the bytes unless
something stands at its name, when the call fails `alreadyExists`; the temporary name ends
vacant, and no other path changes. -/
theorem publishVia_of_ready {d : Disk} {dir : RelPath} (h : Ready d dir) {tn name : String}
    (hname : tn ≠ name) (htn : tn.utf8ByteSize ≤ 255) (hnm : name.utf8ByteSize ≤ 255)
    (hfree : Vacant d (dir ++ [tn])) (data : Bytes) :
    ∃ d', publishVia (dir ++ [tn]) (dir ++ [name]) data d =
        (if (d.node? (dir ++ [name])).isSome then .error .alreadyExists d' else .ok () d') ∧
      Ready d' dir ∧ Vacant d' (dir ++ [tn]) ∧
      d'.node? (dir ++ [name]) = (d.node? (dir ++ [name])).or (some (.file data)) ∧
      ∀ r, ¬ (dir ++ [tn]) <+: r → r ≠ dir ++ [name] → d'.node? r = d.node? r := by
  set t := dir ++ [tn] with ht
  set p := dir ++ [name] with hp
  have hlen : dir.length < t.length := by simp [ht]
  have hpt : ¬ t <+: p := fun e => hname (by simpa [ht, hp] using e.eq_of_length (by simp [ht, hp]))
  have hpt' : p ≠ t := fun e => hpt (e ▸ List.prefix_refl p)
  -- the temporary file created empty, then filled
  let d₄ := (d.put t (.file [])).put t (.file data)
  have hcreate : change (fun d => d.createFile t []) d = .ok () (d.put t (.file [])) :=
    change_ok (by rw [createFile_of_ready d h htn, hfree.node]; rfl)
  have ht₃ : (d.put t (.file [])).node? t = some (.file []) := by simp [ht, node?_put]
  have hfill : (modify (·.fill t data) : DiskM Unit) (d.put t (.file [])) = .ok () d₄ := by
    rw [modify_apply, fill_of_file _ ht₃]
  have ht₄ : d₄.node? t = some (.file data) := by simp [d₄, ht, node?_put]
  have hready₄ : Ready d₄ dir := (h.put d hlen _).put _ hlen _
  have hother : ∀ r, r ≠ t → d₄.node? r = d.node? r := fun r hrt => by
    by_cases hr0 : r = []
    · subst hr0; rfl
    simp only [d₄, node?_put _ _ _ _ hr0, if_neg hrt]
  -- whatever the link did, the temporary name is unlinked in the end
  have hend : ∀ d₅ : Disk, Ready d₅ dir → d₅.node? t = some (.file data) →
      (∀ r, r ≠ p → d₅.node? r = d₄.node? r) →
      cleanUp t d₅ = .ok () (d₅.dropTree t) ∧ Ready (d₅.dropTree t) dir ∧
        Vacant (d₅.dropTree t) t ∧ (d₅.dropTree t).node? p = d₅.node? p ∧
        ∀ r, ¬ t <+: r → r ≠ p → (d₅.dropTree t).node? r = d.node? r :=
    fun d₅ hr hs hs₄ => ⟨cleanUp_of_removeFile (removeFile_of_ready d₅ hr hs),
      hr.dropTree d₅ hlen, vacant_dropTree d₅ (by simp [ht]), node?_dropTree_outside d₅ hpt,
      fun r hrt hrp => by
        rw [node?_dropTree_outside d₅ hrt, hs₄ r hrp,
          hother r fun e => hrt (e ▸ List.prefix_refl t)]⟩
  have hlink := hardLink_of_ready d₄ hready₄ ht₄ hnm
  rw [hother p hpt'] at hlink
  rw [publishVia, bind_congr_apply (attempt_bind_ok hcreate),
    bind_congr_apply (attempt_bind_ok hfill)]
  cases hold : d.node? p with
  | some n =>
    -- the name is taken: the link fails and changes nothing
    rw [hold] at hlink
    obtain ⟨hclean, hready', hvac', hp', hframe'⟩ := hend d₄ hready₄ ht₄ fun _ _ => rfl
    refine ⟨d₄.dropTree t, ?_, hready', hvac', ?_, hframe'⟩
    · rw [bind_ok_apply (attempt_error (change_error hlink)), bind_ok_apply hclean]
      rfl
    · rw [hp', hother p hpt', hold]
      rfl
  | none =>
    -- the name is free: the link puts the bytes there
    rw [hold] at hlink
    have hs₅ : (d₄.put p (.file data)).node? t = some (.file data) := by
      rw [node?_put _ _ _ _ (by simp [ht]), if_neg (Ne.symm hpt'), ht₄]
    have hs₄ : ∀ r, r ≠ p → (d₄.put p (.file data)).node? r = d₄.node? r := fun r hrp => by
      by_cases hr0 : r = []
      · subst hr0; rfl
      rw [node?_put _ _ _ _ hr0, if_neg hrp]
    obtain ⟨hclean, hready', hvac', hp', hframe'⟩ :=
      hend _ ((hready₄.put d₄ (by simp [hp]) _)) hs₅ hs₄
    refine ⟨(d₄.put p (.file data)).dropTree t, ?_, hready', hvac', ?_, hframe'⟩
    · rw [bind_ok_apply (attempt_ok (change_ok hlink)), bind_ok_apply hclean]
      rfl
    · rw [hp', node?_put _ _ _ _ (by simp [hp]), if_pos rfl]
      rfl

/-- Writing a new file in a directory whose way down holds no file, with nothing at or below the
temporary name the count hands out: the way down is made, and the file gets the bytes unless
something stands at its name, when the call fails `alreadyExists`; no other path below the
directory changes, the temporary name included.  The names on the way fit in directory entries,
and the file's name leaves room for the temporary mark and number. -/
theorem writeNew_of_clear {d : Disk} {dir : RelPath} (h : Clear d dir) (hf : Fits dir)
    {name : String} (hname : name.utf8ByteSize ≤ 230)
    (data : Bytes) (hfree : Vacant d (Layout.tempPath (dir ++ [name]) d.nextTemp)) :
    ∃ d', writeNew (dir ++ [name]) data d =
        (if (d.node? (dir ++ [name])).isSome then .error .alreadyExists d' else .ok () d') ∧
      Ready d' dir ∧
      d'.node? (dir ++ [name]) = (d.node? (dir ++ [name])).or (some (.file data)) ∧
      ∀ r, dir.length < r.length → r ≠ dir ++ [name] → d'.node? r = d.node? r := by
  obtain ⟨d₁, hmk, hready, hframe⟩ := createDirAll_of_clear d h hf
  rw [Layout.tempPath_append] at hfree
  have htsize := Layout.utf8ByteSize_tempName name d.nextTemp
  set tn := name ++ Layout.tempMark ++ Decimal.text d.nextTemp.toNat with htn
  have htn_ne : tn ≠ name := fun e => by
    have hlen := congrArg String.length e
    have hmark : Layout.tempMark.length = 5 := rfl
    simp only [htn, String.length_append] at hlen
    omega
  -- the directories made and the number taken leave the temporary name vacant
  let d₂ : Disk := { d₁ with nextTemp := d₁.nextTemp + 1 }
  have hdirs : change (fun d => d.createDirAll (dir ++ [name]).dropLast) d = .ok () d₁ :=
    change_ok (by simpa using hmk)
  have htake : takeTemp d₁ = .ok d.nextTemp d₂ := by
    rw [← createDirAll_nextTemp d hmk]
    rfl
  have hvac : Vacant d₂ (dir ++ [tn]) := fun r hr => by
    have hlen : dir.length < r.length := by have := hr.length_le; simp at this; omega
    exact (hframe r hlen).trans (hfree r hr)
  obtain ⟨d', hrun, hready', hvac', hp', hframe'⟩ :=
    publishVia_of_ready (d := d₂) hready htn_ne (by omega) (by omega) hvac data
  have hsame : d₂.node? (dir ++ [name]) = d.node? (dir ++ [name]) := hframe _ (by simp)
  refine ⟨d', ?_, hready', by rw [hp', hsame], fun r hr hrp => ?_⟩
  · rw [writeNew, bind_ok_apply hdirs, bind_ok_apply htake]
    simp only [Layout.tempPath_append, ← htn]
    rw [hrun, hsame]
  · by_cases hrt : (dir ++ [tn]) <+: r
    · rw [hvac' r hrt, hfree r hrt]
    · rw [hframe' r hrt hrp]
      exact hframe r hr

/-- Saving a part of an object whose way down holds no file, with nothing at or below the
temporary name the count hands out: the part's file is written unless one is there, in which
case the failure `alreadyExists` is caught; the way down is made; and no other path below the
object's directory changes. -/
theorem attempt_savePart {d : Disk} {id : ObjectId} (h : Clear d (objectDir id))
    (hf : Fits (objectDir id)) (q : UInt32)
    (hfree : Vacant d (Layout.tempPath (partPath ⟨id, q⟩) d.nextTemp)) (data : Bytes) :
    ∃ d', attempt (savePart ⟨id, q⟩ data) d =
        .ok (if (d.node? (partPath ⟨id, q⟩)).isSome then some .alreadyExists else none) d' ∧
      Ready d' (objectDir id) ∧
      d'.node? (partPath ⟨id, q⟩) = (d.node? (partPath ⟨id, q⟩)).or (some (.file data)) ∧
      ∀ r, (objectDir id).length < r.length → r ≠ partPath ⟨id, q⟩ → d'.node? r = d.node? r := by
  obtain ⟨d', hrun, hready, hnode, hframe⟩ :=
    writeNew_of_clear h hf (Nat.le_trans (utf8ByteSize_partFileName q) (by decide)) data hfree
  refine ⟨d', ?_, hready, hnode, hframe⟩
  rw [savePart, show partPath ⟨id, q⟩ = objectDir id ++ [partFileName q] from rfl]
  split at hrun
  · next hs => rw [if_pos hs]; exact attempt_error hrun
  · next hs => rw [if_neg hs]; exact attempt_ok hrun

/-- Discarding a part either fails and changes nothing, or drops the part's path, or finds
nothing there. -/
theorem discardPart_cases (root : String) (i : PartIndex) (d : Disk) :
    (∃ d', discardPart root i d = .ok () d' ∧ (d' = d ∨ d' = d.dropTree (partPath i))) ∨
      ∃ e, discardPart root i d = .error e d := by
  unfold discardPart removeIfExists
  cases hr : d.removeFile (partPath i) with
  | ok d' => exact .inl ⟨d', rfl, .inr (removeFile_ok d hr)⟩
  | error e =>
    cases e with
    | notFound => exact .inl ⟨d, rfl, .inl rfl⟩
    | _ => exact .inr ⟨_, rfl⟩

end DiskM

/-! ## The files of one object -/

/-- A character takes at most four bytes. -/
theorem utf8Len_le (cs : List Char) : String.utf8Len cs ≤ 4 * cs.length := by
  induction cs with
  | nil => rfl
  | cons c rest ih =>
    have := Char.utf8Size_le_four c
    simp only [String.utf8Len_cons, List.length_cons]
    omega

/-- The names of an object's directory fit in directory entries when its namespace does: the
other three are at most forty hexadecimal digits of the digest. -/
theorem Layout.fits_objectDir {id : ObjectId}
    (h : (Layout.namespaceDir id.cacheKey).utf8ByteSize ≤ 255) : Disk.Fits (Layout.objectDir id) := by
  have hhex : id.digestHex.toList.length = 40 := by
    simp [ObjectId.digestHex, Bytes.hex, Bytes.length_hexChars, ObjectId.digest_length]
  have hshort : ∀ cs : List Char, cs.length ≤ 40 → (String.ofList cs).utf8ByteSize ≤ 255 :=
    fun cs hcs => by
      have := utf8Len_le cs
      rw [String.utf8ByteSize_ofList]
      omega
  intro n hn
  simp only [Layout.objectDir, List.mem_cons, List.not_mem_nil, or_false] at hn
  rcases hn with rfl | rfl | rfl | rfl
  · exact h
  · exact hshort _ (by rw [List.length_take]; omega)
  · exact hshort _ (by rw [List.length_take]; omega)
  · exact hshort _ (by omega)

/-- The files of object `id` can be written: the way down to its directory holds no file, its
names fit in directory entries, and nothing stands at or below a temporary name of one of its
parts. -/
structure Writable (id : ObjectId) (d : Disk) : Prop where
  clear : d.Clear (Layout.objectDir id)
  fits : Disk.Fits (Layout.objectDir id)
  temps : ∀ (p : UInt32) (n : UInt64), d.Vacant (Layout.tempPath (Layout.partPath ⟨id, p⟩) n)

namespace Writable

open Disk Layout

variable {id : ObjectId} {d : Disk}

/-- Saving any bytes as a part of a writable object writes the part's file unless one is there,
makes the way down, keeps the object writable, and leaves the other parts' paths. -/
theorem attempt_savePart (h : Writable id d) (q : UInt32) (data : Bytes) :
    ∃ d', DiskM.attempt (DiskM.savePart ⟨id, q⟩ data) d =
        .ok (if (d.node? (partPath ⟨id, q⟩)).isSome then some .alreadyExists else none) d' ∧
      Writable id d' ∧ d'.Ready (objectDir id) ∧
      d'.node? (partPath ⟨id, q⟩) = (d.node? (partPath ⟨id, q⟩)).or (some (.file data)) ∧
      ∀ p, p ≠ q → d'.node? (partPath ⟨id, p⟩) = d.node? (partPath ⟨id, p⟩) := by
  obtain ⟨d', hrun, hready, hnode, hframe⟩ :=
    DiskM.attempt_savePart h.clear h.fits q (h.temps q d.nextTemp) data
  -- a temporary name is as long as a part's path and differs from it
  have htemps : ∀ p n, d'.Vacant (tempPath (partPath ⟨id, p⟩) n) := fun p n r hr => by
    have hlen : (tempPath (partPath ⟨id, p⟩) n).length = 5 := by
      simp [tempPath, length_partPath]
    have hrq : r ≠ partPath ⟨id, q⟩ := by
      rintro rfl
      exact tempPath_partPath_ne _ _ n (hr.eq_of_length (by rw [hlen, length_partPath]))
    rw [hframe r (by have := hr.length_le; rw [length_objectDir]; omega) hrq]
    exact h.temps p n r hr
  -- the other parts' paths are below the directory and differ from the saved one
  refine ⟨d', hrun, ⟨Clear.of_ready d' hready, h.fits, htemps⟩, hready, hnode, fun p hpq =>
    hframe _ (by simp [length_partPath, length_objectDir]) fun e => hpq (partPath_eq_iff.mp e).2⟩

/-- Dropping the tree at any part's path keeps an object writable. -/
theorem dropTree (h : Writable id d) (j : PartIndex) : Writable id (d.dropTree (partPath j)) :=
  ⟨h.clear.dropTree d (by simp [length_partPath, length_objectDir]), h.fits,
    fun p n => (h.temps p n).dropTree _⟩

end Writable

/-- The bytes of part `p` of a body cut in parts of `ps` bytes. -/
def partSlice (ps : Nat) (B : Bytes) (p : Nat) : Bytes := (B.drop (p * ps)).take ps

/-- What a disk holds of object `id` whose body is `B`, in parts of `ps` bytes: the way down to
the object's directory holds no file and its names fit in directory entries, whatever stands at
one of its part paths is a file of a part within the body, holding that part's bytes, on a way
down that is made, and nothing stands at or below a temporary name of one of its parts. -/
structure PartFiles (ps : Nat) (B : Bytes) (id : ObjectId) (d : Disk) : Prop where
  clear : d.Clear (Layout.objectDir id)
  fits : Disk.Fits (Layout.objectDir id)
  parts : ∀ (p : UInt32) (nd : Node), d.node? (Layout.partPath ⟨id, p⟩) = some nd →
    p.toNat * ps < B.length ∧ nd = .file (partSlice ps B p.toNat) ∧ d.Ready (Layout.objectDir id)
  temps : ∀ (p : UInt32) (n : UInt64), d.Vacant (Layout.tempPath (Layout.partPath ⟨id, p⟩) n)

namespace PartFiles

open Disk Layout

variable {ps : Nat} {B : Bytes} {id : ObjectId} {d : Disk}

/-- The files of an object that hold its parts can be written. -/
theorem writable (h : PartFiles ps B id d) : Writable id d := ⟨h.clear, h.fits, h.temps⟩

/-- An empty tree holds no file of an object whose names fit. -/
theorem empty (n : UInt64) (hf : Disk.Fits (objectDir id)) : PartFiles ps B id (Disk.empty n) :=
  ⟨Disk.clear_empty n _, hf, fun p nd hp => by simp [Disk.node?, Disk.empty, partPath_ne_nil] at hp,
    fun _ _ r hr => by
      have hr0 : r ≠ [] := by rintro rfl; simp [tempPath] at hr
      simp [Disk.node?, Disk.empty, hr0]⟩

/-- Saving a part of the body with its own bytes keeps the files right, leaves the part's
file there, and leaves the other parts' paths as they were. -/
theorem save (h : PartFiles ps B id d) {q : UInt32} (hq : q.toNat * ps < B.length) :
    ∃ r d', DiskM.attempt (DiskM.savePart ⟨id, q⟩ (partSlice ps B q.toNat)) d = .ok r d' ∧
      (r = none ∨ r = some .alreadyExists) ∧ PartFiles ps B id d' ∧
      d'.node? (partPath ⟨id, q⟩) = some (.file (partSlice ps B q.toNat)) ∧
      ∀ p, p ≠ q → d'.node? (partPath ⟨id, p⟩) = d.node? (partPath ⟨id, p⟩) := by
  obtain ⟨d', hrun, hw', hready, hnode, hother⟩ :=
    Writable.attempt_savePart h.writable q (partSlice ps B q.toNat)
  have hq' : d'.node? (partPath ⟨id, q⟩) = some (.file (partSlice ps B q.toNat)) := by
    rw [hnode]
    cases hn : d.node? (partPath ⟨id, q⟩) with
    | none => rfl
    | some nd => simp [(h.parts q nd hn).2.1]
  refine ⟨_, d', hrun, by split <;> simp, ⟨hw'.clear, hw'.fits, fun p nd hp => ?_, hw'.temps⟩, hq',
    hother⟩
  by_cases hpq : p = q
  · subst hpq
    rw [hq'] at hp
    cases hp
    exact ⟨hq, rfl, hready⟩
  · rw [hother p hpq] at hp
    obtain ⟨hlt, hnd, -⟩ := h.parts p nd hp
    exact ⟨hlt, hnd, hready⟩

/-- Dropping the tree at any part's path keeps the files right. -/
theorem dropTree (h : PartFiles ps B id d) (j : PartIndex) :
    PartFiles ps B id (d.dropTree (partPath j)) := by
  have hlen : (objectDir id).length < (partPath j).length := by
    simp [length_partPath, length_objectDir]
  have hw := h.writable.dropTree j
  refine ⟨hw.clear, hw.fits, fun p nd hp => ?_, hw.temps⟩
  rw [node?_dropTree _ _ _ (partPath_ne_nil _)] at hp
  split at hp
  · cases hp
  · obtain ⟨hlt, hnd, hready⟩ := h.parts p nd hp
    exact ⟨hlt, hnd, hready.dropTree d hlen⟩

/-- Discarding any part keeps the files right, whatever happens. -/
theorem discardPart (h : PartFiles ps B id d) (root : String) (j : PartIndex) :
    (∃ d', DiskM.discardPart root j d = .ok () d' ∧ PartFiles ps B id d') ∨
      ∃ e, DiskM.discardPart root j d = .error e d := by
  rcases DiskM.discardPart_cases root j d with ⟨d', hrun, hd | hd⟩ | herr
  · exact .inl ⟨d', hrun, hd ▸ h⟩
  · exact .inl ⟨d', hrun, hd ▸ h.dropTree j⟩
  · exact .inr herr

/-- Opening a part of the object finds exactly what stands at its path. -/
theorem openPart (h : PartFiles ps B id d) (p : UInt32) :
    DiskM.openPart ⟨id, p⟩ d = .ok (d.node? (partPath ⟨id, p⟩)) d := by
  cases hn : d.node? (partPath ⟨id, p⟩) with
  | none =>
    have ho := openNode_of_clear d h.clear h.fits (partName_fits p) hn
    simp only [DiskM.openPart]
    rw [show objectDir id ++ [partFileName p] = partPath ⟨id, p⟩ from rfl] at ho
    rw [ho]
  | some nd =>
    have ho := openNode_of_ready d (h.parts p nd hn).2.2 (partName_fits p)
    rw [show objectDir id ++ [partFileName p] = partPath ⟨id, p⟩ from rfl, hn] at ho
    simp only [DiskM.openPart]
    rw [ho]

end PartFiles

end PartCache
