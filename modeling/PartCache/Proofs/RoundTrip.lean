import PartCache.Proofs.ZoneWrites
import PartCache.Proofs.RangeReading

/-!
# Writing an object and reading it back

A zone that holds the whole body `B` of an object (`Whole`) answers each part in a fixed way
(`wholeAnswer`): a part within the body from its file, with the part's bytes, and any other part
as missing, since there is no upstream to fetch it from.  Serving a part looks it up and promotes
it, which moves it in the tiers but evicts nothing, so the zone still holds the whole object
(`Zone.serveOrFail_whole`).  A read from such a zone therefore gives what the pure server of
those answers gives (`Zone.readRange_whole_eq`), and with a part size up to 64 MiB and part
numbers below `2 ^ 32` that is the read in unbounded arithmetic (`Zone.wholeReadWords_eq`).

The bytes a part gives a read lie between two part boundaries clamped into the range
(`rangeBound`), and the slices between consecutive boundaries meet (`flatten_slices`).  So a
range that ends within the body gives its bytes (`Zone.wholeRead_within`), and a range that runs
past the body gives the body's bytes from its start and then fails at the part that is short or
missing (`Zone.wholeRead_past`).
-/

set_option autoImplicit false

namespace PartCache

open Layout

/-- The slices of `B` between consecutive boundaries `x q` and `x (q + 1)`, for `q` from `a` on,
make up the slice between the first boundary and the last. -/
theorem flatten_slices {α : Type} (B : List α) {x : Nat → Nat} (hx : Monotone x) :
    ∀ a k, ((List.range' a k).map fun q => (B.drop (x q)).take (x (q + 1) - x q)).flatten =
      (B.drop (x a)).take (x (a + k) - x a) := by
  intro a k
  induction k generalizing a with
  | zero => simp
  | succ k ih =>
    have h₁ : x a ≤ x (a + 1) := hx (Nat.le_succ a)
    have h₂ : x (a + 1) ≤ x (a + (k + 1)) := hx (by omega)
    rw [List.range'_succ, List.map_cons, List.flatten_cons, ih (a + 1),
      show a + 1 + k = a + (k + 1) by omega,
      show x (a + (k + 1)) - x a = (x (a + 1) - x a) + (x (a + (k + 1)) - x (a + 1)) by omega,
      List.take_add, List.drop_drop, Nat.add_sub_cancel' h₁]

/-- What a zone that holds the whole body `B` answers for part `q`: its bytes when it lies
within the body, and otherwise that it does not exist. -/
def wholeAnswer (ps : Nat) (B : Bytes) (q : UInt32) : Except CacheError PartData :=
  if q.toNat * ps < B.length then .ok (.stored (partSlice ps B q.toNat)) else .error .notExist

namespace Whole

variable {ps : Nat} {B : Bytes} {id : ObjectId} {z : Zone}

/-- A lookup only counts. -/
theorem lookup (hz : Whole ps B id z) (i : PartIndex) :
    Whole ps B id { z with tiers := (z.tiers.lookup i).2 } :=
  ⟨hz.partSize, hz.upstream, hz.files, hz.stored, hz.tracked⟩

/-- Promoting a tracked part keeps every part tracked. -/
theorem promote (hz : Whole ps B id z) {i : PartIndex} (hi : z.tiers.contains i = true) :
    Whole ps B id { z with tiers := (z.tiers.promote i).1 } :=
  ⟨hz.partSize, hz.upstream, hz.files, hz.stored, fun q hq => Tiers.contains_iff_mem.mpr
    (((Tiers.promote_of_contains hi).2.2 _).mpr (Tiers.contains_iff_mem.mp (hz.tracked q hq)))⟩

/-- The node at a part's path is the part's file when the part lies within the body, and
nothing otherwise. -/
theorem node (hz : Whole ps B id z) (q : UInt32) :
    z.disk.node? (partPath ⟨id, q⟩) =
      if q.toNat * ps < B.length then some (.file (partSlice ps B q.toNat)) else none := by
  split_ifs with h
  · obtain ⟨nd, hnd⟩ := Option.isSome_iff_exists.mp (hz.stored q h)
    rw [hnd, (hz.files.parts q nd hnd).2.1]
  · cases hnd : z.disk.node? (partPath ⟨id, q⟩) with
    | none => rfl
    | some nd => exact absurd (hz.files.parts q nd hnd).1 h

end Whole

namespace Zone

variable {ps : Nat} {B : Bytes} {id : ObjectId} {z : Zone}

theorem lookup_apply (i : PartIndex) :
    lookup i z = .ok (z.tiers.lookup i).1 { z with tiers := (z.tiers.lookup i).2 } := rfl

/-- Opening a part of an object a zone holds whole: a part within the body is opened from its
file and promoted, and any other part is missing. -/
theorem openLooked_whole (hz : Whole ps B id z) (q : UInt32) :
    ∃ z', openLooked ⟨id, q⟩ z = .ok (.ready (wholeAnswer ps B q)) z' ∧ Whole ps B id z' := by
  unfold openLooked
  rw [bind_ok_apply (onDisk_ok (hz.files.openPart q)), hz.node q]
  by_cases h : q.toNat * ps < B.length
  · have hrun : promote ⟨id, q⟩ z = .ok () { z with tiers := (z.tiers.promote ⟨id, q⟩).1 } := by
      rw [promote_apply, (Tiers.promote_of_contains (hz.tracked q h)).1, dropEvicted_none]
    refine ⟨_, ?_, hz.promote (hz.tracked q h)⟩
    rw [if_pos h, wholeAnswer, if_pos h]
    exact (bind_ok_apply hrun).trans rfl
  · refine ⟨z, ?_, hz⟩
    rw [if_neg h, wholeAnswer, if_neg h]
    refine (bind_ok_apply (rfl : (get : ZoneM Zone) z = .ok z z)).trans ?_
    -- with no upstream the part is missing
    rcases hup : z.upstream with _ | up
    · rfl
    · cases hup.symm.trans hz.upstream

/-- Serving a part of an object a zone holds whole answers its fixed answer, and the zone still
holds the object. -/
theorem serveOrFail_whole (hz : Whole ps B id z) (q : UInt32) :
    ∃ z', serveOrFail ⟨id, q⟩ z = .ok (wholeAnswer ps B q) z' ∧ Whole ps B id z' := by
  obtain ⟨z', hopen, hz'⟩ := openLooked_whole (hz.lookup ⟨id, q⟩) q
  refine ⟨z', ?_, hz'⟩
  have hget : (lookup ⟨id, q⟩ >>= fun _ => openLooked ⟨id, q⟩) z =
      .ok (.ready (wholeAnswer ps B q)) z' :=
    (bind_ok_apply (lookup_apply _)).trans hopen
  unfold serveOrFail getPart
  by_cases h : q.toNat * ps < B.length
  · rw [wholeAnswer, if_pos h] at hget ⊢
    exact tryCatch_ok_apply (map_ok_apply ((bind_ok_apply hget).trans rfl))
  · rw [wholeAnswer, if_neg h] at hget ⊢
    exact (tryCatch_error_apply (map_error_apply ((bind_ok_apply hget).trans rfl))).trans rfl

/-- What reading the bytes from `first` to `last` of object `id` gives from a zone that holds its
body `B` whole, as the reader computes it with the part size `w`. -/
def wholeReadWords (w : UInt64) (B : Bytes) (id : ObjectId) (first last : UInt64) :
    Bytes × Option IoError :=
  readParts (m := Id) (fun i => pure (wholeAnswer w.toNat B i.part)) id w first last (last / w)
    (readTurns w first last) (first / w) []

/-- The same read in unbounded arithmetic, cut every `ps` bytes. -/
def wholeRead (ps : Nat) (B : Bytes) (id : ObjectId) (first last : Nat) : Bytes × Option IoError :=
  readWindows (m := Id) (fun i => pure (wholeAnswer ps B i.part)) id ps first last
    (last / ps + 1 - first / ps) (first / ps) []

/-- A read of an object from a zone that holds it whole gives what the pure server of the zone's
answers gives, and leaves the zone holding it. -/
theorem readParts_whole (hz : Whole ps B id z) (w first last lastPart : UInt64) (turns : Nat)
    (p : UInt64) (acc : Bytes) :
    ∃ z', readParts serveOrFail id w first last lastPart turns p acc z =
        .ok (readParts (m := Id) (fun i => pure (wholeAnswer ps B i.part)) id w first last lastPart
          turns p acc) z' ∧ Whole ps B id z' :=
  (readParts_rel (R := runsRel (Whole ps B id)) (fun q => ⟨trivial, fun _ hz => serveOrFail_whole hz q⟩)
    w first last lastPart turns p acc).2 z hz

/-- Reading a range of an object from a zone that holds it whole answers the range's length and
what the pure server of the zone's answers gives, and leaves the zone holding the object. -/
theorem readRange_whole_eq (hz : Whole ps B id z) {first last : UInt64} (hfl : first ≤ last) :
    ∃ z', readRange id first last z = .ok ⟨(last.toNat - first.toNat + 1) % UInt64.size,
        (wholeReadWords z.partSize B id first last).1,
        (wholeReadWords z.partSize B id first last).2⟩ z' ∧
      Whole ps B id z' := by
  obtain ⟨z', hread, hz'⟩ := readParts_whole hz z.partSize first last (last / z.partSize)
    (readTurns z.partSize first last) (first / z.partSize) []
  refine ⟨z', ?_, hz'⟩
  have hmake : ByteRange.make first last = .ok ⟨first, last, hfl⟩ := by simp [ByteRange.make, hfl]
  unfold readRange
  rw [hmake]
  dsimp only
  rw [bind_ok_apply (rfl : (get : ZoneM Zone) z = .ok z z), bind_ok_apply hread, ← hz.partSize]
  exact congrArg (fun n => (.ok ⟨n, (wholeReadWords z.partSize B id first last).1,
    (wholeReadWords z.partSize B id first last).2⟩ z' : EStateM.Result CacheError Zone ReadReport))
    (ByteRange.size_toNat ⟨first, last, hfl⟩)

/-- With a part size up to 64 MiB and part numbers below `2 ^ 32`, the reader's words hold the
numbers themselves, and the read is the one in unbounded arithmetic. -/
theorem wholeReadWords_eq {w first last : UInt64} (hps : 0 < w.toNat) (hmax : w.toNat ≤ 2 ^ 26)
    (hfl : first ≤ last) (h32 : last.toNat / w.toNat < 2 ^ 32) :
    wholeReadWords w B id first last = wholeRead w.toNat B id first.toNat last.toNat := by
  have hend : (last.toNat / w.toNat + 1) * w.toNat ≤ 2 ^ 64 :=
    calc (last.toNat / w.toNat + 1) * w.toNat ≤ 2 ^ 32 * 2 ^ 26 := Nat.mul_le_mul h32 hmax
      _ ≤ 2 ^ 64 := by norm_num
  rw [wholeReadWords, readParts_range _ id hps (by omega) hfl hend (by omega)]
  rfl

/-! ## The bytes of a range -/

/-- The boundary of part `q` clamped into the range from `first` to `last`. -/
def rangeBound (ps first last q : Nat) : Nat := max first (min (last + 1) (q * ps))

theorem rangeBound_mono (ps first last : Nat) : Monotone (rangeBound ps first last) :=
  fun a b hab => by
    have := Nat.mul_le_mul_right ps hab
    simp only [rangeBound]
    omega

section Windows

variable {first last : Nat}

/-- The first part of a range starts at the range's start, and the part after its last ends
past it. -/
theorem rangeBound_ends (hps : 0 < ps) (hfl : first ≤ last) :
    rangeBound ps first last (first / ps) = first ∧
      rangeBound ps first last (last / ps + 1) = last + 1 := by
  have h₁ := Nat.div_mul_le_self first ps
  have h₂ := Nat.lt_div_mul_add hps (a := last)
  simp only [rangeBound, Nat.add_one_mul]
  omega

/-- Within the range, a part's window fits in the part and runs between its clamped
boundaries. -/
theorem window_rangeBound (hps : 0 < ps) (hfl : first ≤ last) {q : Nat} (hq₁ : first / ps ≤ q)
    (hq₂ : q ≤ last / ps) :
    q * ps + (window ps q first last).1 = rangeBound ps first last q ∧
      (window ps q first last).2 =
        rangeBound ps first last (q + 1) - rangeBound ps first last q := by
  obtain ⟨h₂, h₁⟩ := part_meets_range hps hq₁ hq₂
  simp only [window, rangeBound, Nat.add_one_mul]
  generalize q * ps = x at h₁ h₂ ⊢
  -- omega does not split the clamps itself
  simp only [Nat.min_def, Nat.max_def]
  split_ifs <;> omega

/-- The bytes part `q` of a range gives from its slice of the body lie between its clamped
boundaries. -/
theorem partGives_slice_fst (hps : 0 < ps) (hfl : first ≤ last) {q : Nat}
    (hq₁ : first / ps ≤ q) (hq₂ : q ≤ last / ps) :
    (partGives id ps first last q (.ok (.stored (partSlice ps B q)))).1 =
      (B.drop (rangeBound ps first last q)).take
        (rangeBound ps first last (q + 1) - rangeBound ps first last q) := by
  have hfit := window_fits hps hfl hq₁ hq₂
  obtain ⟨hlo, hlen⟩ := window_rangeBound hps hfl hq₁ hq₂
  rw [partGives_data q _ _ (.inl rfl)]
  dsimp only
  -- the window's bytes of the part are the body's bytes from the window's start
  rw [partSlice, List.drop_take, List.drop_drop, List.take_take, Nat.min_eq_left (by omega),
    hlo, hlen]

/-- Part `q` of a range delivers its whole window from its slice of the body exactly when the
window ends within the body. -/
theorem partGives_slice_snd (hps : 0 < ps) (hfl : first ≤ last) {q : Nat}
    (hq₁ : first / ps ≤ q) (hq₂ : q ≤ last / ps) :
    (partGives id ps first last q (.ok (.stored (partSlice ps B q)))).2 = none ↔
      rangeBound ps first last (q + 1) ≤ B.length := by
  have hfit := window_fits hps hfl hq₁ hq₂
  obtain ⟨hlo, hlen⟩ := window_rangeBound hps hfl hq₁ hq₂
  have hpos : 0 < (window ps q first last).2 := window_len_pos q
  rw [partGives_data q _ _ (.inl rfl)]
  dsimp only
  rw [ite_eq_right_iff, window_short_iff hpos]
  simp only [partSlice, List.length_take, List.length_drop, reduceCtorEq, imp_false, not_not]
  omega

/-- A part that falls short of its window fails with `UnexpectedEof`. -/
theorem partGives_stored_kind {q : Nat} {data : Bytes} {e : IoError}
    (h : (partGives id ps first last q (.ok (.stored data))).2 = some e) : e.kind = .unexpectedEof := by
  rw [partGives_data q data _ (.inl rfl)] at h
  dsimp only at h
  split_ifs at h
  cases h
  rfl

/-- A part of the range whose window ends within the body gives its slice of the body. -/
theorem partGives_whole_full (hps : 0 < ps) (hfl : first ≤ last) {q : Nat}
    (hq₁ : first / ps ≤ q) (hq₂ : q ≤ last / ps) (h32 : q < 2 ^ 32)
    (hend : rangeBound ps first last (q + 1) ≤ B.length) :
    partGives id ps first last q (wholeAnswer ps B q.toUInt32) =
      ((B.drop (rangeBound ps first last q)).take
        (rangeBound ps first last (q + 1) - rangeBound ps first last q), none) := by
  obtain ⟨h₂, h₁⟩ := part_meets_range hps hq₁ hq₂
  -- the part starts before its window ends, so it lies within the body
  have hin : q * ps < B.length := by
    simp only [rangeBound, Nat.add_one_mul] at hend
    omega
  rw [wholeAnswer, UInt32.toNat_ofNat_of_lt' h32, if_pos hin]
  exact Prod.ext (partGives_slice_fst hps hfl hq₁ hq₂) ((partGives_slice_snd hps hfl hq₁ hq₂).mpr hend)

variable (id) in
/-- A part of the range whose window runs past the body gives the rest of the body and fails,
with a short part or a missing one. -/
theorem partGives_whole_short (hps : 0 < ps) (hfl : first ≤ last) {q : Nat}
    (hq₁ : first / ps ≤ q) (hq₂ : q ≤ last / ps) (h32 : q < 2 ^ 32)
    (hend : B.length < rangeBound ps first last (q + 1)) :
    ∃ e, partGives id ps first last q (wholeAnswer ps B q.toUInt32) =
        (B.drop (rangeBound ps first last q), some e) ∧
      (e.kind = .unexpectedEof ∨ e.kind = .notFound) := by
  obtain ⟨h₂, h₁⟩ := part_meets_range hps hq₁ hq₂
  have hmono := rangeBound_mono ps first last (Nat.le_succ q)
  rw [wholeAnswer, UInt32.toNat_ofNat_of_lt' h32]
  split_ifs with hin
  · -- a stored part holds less than its window: all it has from the window's start
    have hfst : (partGives id ps first last q (.ok (.stored (partSlice ps B q)))).1 = _ :=
      partGives_slice_fst hps hfl hq₁ hq₂
    have hsnd : (partGives id ps first last q (.ok (.stored (partSlice ps B q)))).2 ≠ none :=
      (partGives_slice_snd hps hfl hq₁ hq₂).not.mpr (by omega)
    obtain ⟨e, he⟩ := Option.ne_none_iff_exists'.mp hsnd
    refine ⟨e, Prod.ext ?_ he, .inl (partGives_stored_kind he)⟩
    rw [hfst, List.take_of_length_le (by rw [List.length_drop]; omega)]
  · -- a part past the body is missing, and the range's clamped start is past the body too
    have hpast : B.length ≤ rangeBound ps first last q := by
      simp only [rangeBound, Nat.add_one_mul] at hend ⊢
      omega
    exact ⟨_, by rw [List.drop_eq_nil_of_le hpast]; rfl, .inr rfl⟩

end Windows

/-- The parts of a range split at any one of them. -/
theorem range'_split {a q b : Nat} (h₁ : a ≤ q) (h₂ : q ≤ b) :
    List.range' a (b + 1 - a) = List.range' a (q - a) ++ q :: List.range' (q + 1) (b - q) := by
  rw [show b + 1 - a = (q - a) + (b - q + 1) by omega, ← List.range'_append_1, List.range'_succ,
    Nat.add_sub_cancel' h₁]

section WholeRead

variable {first last : Nat}

/-- The pure server of a whole object's answers answers each part in its fixed way. -/
theorem wholeServe_fixed : ∀ i : PartIndex, SatisfiesM (· = wholeAnswer ps B i.part)
    ((fun i => (pure (wholeAnswer ps B i.part) : Id (Except CacheError PartData))) i) :=
  fun _ => SatisfiesM.pure rfl

variable (id)

/-- Parts from the range's first on whose windows end within the body deliver their windows,
and together give the body's bytes from the range's start to the boundary after the last of
them. -/
theorem parts_within_body (hps : 0 < ps) (hfl : first ≤ last) {k : Nat}
    (hk : first / ps + k ≤ last / ps + 1) (h32 : first / ps + k ≤ 2 ^ 32)
    (hend : ∀ q ∈ List.range' (first / ps) k, rangeBound ps first last (q + 1) ≤ B.length) :
    (∀ q ∈ List.range' (first / ps) k,
        (partGives id ps first last q (wholeAnswer ps B q.toUInt32)).2 = none) ∧
      ((List.range' (first / ps) k).map fun q =>
          (partGives id ps first last q (wholeAnswer ps B q.toUInt32)).1).flatten =
        (B.drop first).take (rangeBound ps first last (first / ps + k) - first) := by
  have hpart : ∀ q ∈ List.range' (first / ps) k,
      partGives id ps first last q (wholeAnswer ps B q.toUInt32) =
        ((B.drop (rangeBound ps first last q)).take
          (rangeBound ps first last (q + 1) - rangeBound ps first last q), none) := fun q hq => by
    have hq' := List.mem_range'_1.mp hq
    exact partGives_whole_full hps hfl hq'.1 (by omega) (by omega) (hend q hq)
  refine ⟨fun q hq => by rw [hpart q hq], ?_⟩
  rw [List.map_congr_left fun q hq => congrArg Prod.fst (hpart q hq),
    flatten_slices B (rangeBound_mono ps first last), (rangeBound_ends hps hfl).1]

/-- A range that ends within the body reads the body's bytes from its start to its end. -/
theorem wholeRead_within (hps : 0 < ps) (hfl : first ≤ last) (hlast : last < B.length)
    (h32 : last / ps < 2 ^ 32) :
    wholeRead ps B id first last = ((B.drop first).take (last - first + 1), none) := by
  have hhi := (rangeBound_ends hps hfl).2
  have hk : first / ps + (last / ps + 1 - first / ps) = last / ps + 1 := by
    have := Nat.div_le_div_right (c := ps) hfl
    omega
  -- every part of the range ends by the range's end, within the body
  have hend : ∀ q ∈ List.range' (first / ps) (last / ps + 1 - first / ps),
      rangeBound ps first last (q + 1) ≤ B.length := fun q hq => by
    have hq' := List.mem_range'_1.mp hq
    have := rangeBound_mono ps first last (show q + 1 ≤ last / ps + 1 by omega)
    omega
  obtain ⟨hnone, hbytes⟩ := parts_within_body id hps hfl (by omega) (by omega) hend
  rw [wholeRead, readWindows_delivered wholeServe_fixed _ _ _ hnone]
  refine Prod.ext ?_ rfl
  change [] ++ ((List.range' _ _).map fun q => (partGives id ps first last q _).1).flatten = _
  rw [List.nil_append, hbytes, hk, hhi, Nat.sub_add_comm hfl]

/-- A range that runs past the body reads the body's bytes from its start and then fails, with a
short part or a missing one. -/
theorem wholeRead_past (hps : 0 < ps) (hfl : first ≤ last) (hlast : B.length ≤ last)
    (h32 : last / ps < 2 ^ 32) :
    ∃ e, wholeRead ps B id first last = (B.drop first, some e) ∧
      (e.kind = .unexpectedEof ∨ e.kind = .notFound) := by
  -- the read fails at the part holding the body's end, or at the range's first part if later
  obtain ⟨q₀, hq₀⟩ : ∃ q₀, q₀ = max (first / ps) (B.length / ps) := ⟨_, rfl⟩
  have hq₁ : first / ps ≤ q₀ := hq₀ ▸ le_max_left _ _
  have hbq : B.length / ps ≤ q₀ := hq₀ ▸ le_max_right _ _
  have hq₂ : q₀ ≤ last / ps := hq₀ ▸ max_le (Nat.div_le_div_right hfl) (Nat.div_le_div_right hlast)
  have hchoice : q₀ = first / ps ∨ q₀ = B.length / ps := hq₀ ▸ max_choice _ _
  have hb := Nat.lt_div_mul_add hps (a := B.length)
  have hf := Nat.lt_div_mul_add hps (a := first)
  have hend : B.length < rangeBound ps first last (q₀ + 1) := by
    have := Nat.mul_le_mul_right ps hbq
    simp only [rangeBound, Nat.add_one_mul]
    omega
  obtain ⟨e, he, hkind⟩ := partGives_whole_short id hps hfl hq₁ hq₂ (by omega) hend
  -- the parts before it lie below the body's last part boundary, so they end within the body
  have hpre : ∀ q ∈ List.range' (first / ps) (q₀ - first / ps),
      rangeBound ps first last (q + 1) ≤ B.length := fun q hq => by
    have hq' := List.mem_range'_1.mp hq
    have hlt : q < B.length / ps := by omega
    have hstep := Nat.mul_le_mul_right ps (show q + 1 ≤ B.length / ps from hlt)
    have hfirst := Nat.mul_le_mul_right ps (show first / ps + 1 ≤ B.length / ps by omega)
    have := Nat.div_mul_le_self B.length ps
    simp only [rangeBound, Nat.add_one_mul] at hstep hfirst ⊢
    omega
  obtain ⟨hnone, hbytes⟩ := parts_within_body id hps hfl (by omega) (by omega) hpre
  refine ⟨e, ?_, hkind⟩
  rw [wholeRead, readWindows_first_failure wholeServe_fixed _ _ _ _ q₀ _ e (range'_split hq₁ hq₂)
    hnone (by rw [he])]
  refine Prod.ext ?_ rfl
  change [] ++ ((List.range' _ _).map fun q => (partGives id ps first last q _).1).flatten ++
    (partGives id ps first last q₀ _).1 = _
  -- the slices before the failing part meet the rest of the body it gives
  have hmid : first ≤ rangeBound ps first last q₀ := le_max_left _ _
  rw [List.nil_append, hbytes, Nat.add_sub_cancel' hq₁, he, ← Nat.add_sub_cancel' hmid,
    ← List.drop_drop, Nat.add_sub_cancel_left, List.take_append_drop]

end WholeRead

/-- Reading a range of an object from a zone that holds it whole, with a part size up to 64 MiB
and part numbers below `2 ^ 32`, succeeds and leaves the zone holding it.  A range that ends within the body gives its
bytes; a range that runs past it gives the body's bytes from its start and then fails with
`UnexpectedEof` or `NotFound`. -/
theorem readRange_whole (hps : 0 < ps) (hmax : ps ≤ 2 ^ 26) (hz : Whole ps B id z)
    {first last : UInt64} (hfl : first ≤ last) (h32 : last.toNat / ps < 2 ^ 32) :
    ∃ r z', readRange id first last z = .ok r z' ∧ Whole ps B id z' ∧
      (last.toNat < B.length →
        r.data = (B.drop first.toNat).take (last.toNat - first.toNat + 1) ∧ r.error = none) ∧
      (B.length ≤ last.toNat → r.data = B.drop first.toNat ∧
        ∃ e, r.error = some e ∧ (e.kind = .unexpectedEof ∨ e.kind = .notFound)) := by
  have hfl' : first.toNat ≤ last.toNat := UInt64.le_iff_toNat_le.mp hfl
  obtain ⟨z', hread, hz'⟩ := readRange_whole_eq hz hfl
  have hw : z.partSize.toNat = ps := hz.partSize
  rw [wholeReadWords_eq (w := z.partSize) (by omega) (by omega) hfl (by rw [hw]; exact h32), hw]
    at hread
  refine ⟨_, z', hread, hz', fun hin => ?_, fun hpast => ?_⟩
  · have hw := wholeRead_within id hps hfl' hin h32
    exact ⟨congrArg Prod.fst hw, congrArg Prod.snd hw⟩
  · obtain ⟨e, hw, hkind⟩ := wholeRead_past id hps hfl' hpast h32
    exact ⟨congrArg Prod.fst hw, e, congrArg Prod.snd hw, hkind⟩

/-- Writing the whole body `B` of an object, in any chunks, and closing, on a zone with parts of
at most 64 MiB and no upstream, whose files of the object hold the body's parts and whose tiers
have room for all of them, succeeds and leaves the zone holding the whole object; every read of a range from a zone
that holds it, with part numbers below `2 ^ 32`, succeeds, keeps it held, and gives the range's
bytes of the body, or, for a range that runs past the body, the body's bytes from the range's
start followed by an `UnexpectedEof` or `NotFound` error. -/
theorem write_then_read_round_trips (hps : 0 < z.partSize.toNat)
    (hmax : z.partSize.toNat ≤ 2 ^ 26) (hup : z.upstream = none)
    (hfiles : PartFiles z.partSize.toNat B id z.disk)
    (hspare : z.tiers.Spare ((B.length + z.partSize.toNat - 1) / z.partSize.toNat))
    (hsize : B.length < UInt64.size) (hparts : B.length ≤ 2 ^ 32 * z.partSize.toNat)
    (chunks : List Bytes) (hchunks : chunks.flatten = B) :
    ∃ z₁, PartWriter.session sink z.partSize.toNat (PartWriter.new id (.full B.length.toUInt64))
        chunks true z = .ok ⟨chunks.map fun chunk => .ok chunk.length, B.length, some (.ok ())⟩ z₁ ∧
      Whole z.partSize.toNat B id z₁ ∧
      ∀ z', Whole z.partSize.toNat B id z' → ∀ first last : UInt64, first ≤ last →
        last.toNat / z.partSize.toNat < 2 ^ 32 →
        ∃ r z'', readRange id first last z' = .ok r z'' ∧ Whole z.partSize.toNat B id z'' ∧
          (last.toNat < B.length →
            r.data = (B.drop first.toNat).take (last.toNat - first.toNat + 1) ∧ r.error = none) ∧
          (B.length ≤ last.toNat → r.data = B.drop first.toNat ∧
            ∃ e, r.error = some e ∧ (e.kind = .unexpectedEof ∨ e.kind = .notFound)) := by
  obtain ⟨z₁, hsession, hz₁⟩ :=
    session_stores_whole hps hup hfiles hspare hsize hparts chunks hchunks
  exact ⟨z₁, hsession, hz₁, fun z' hz' _ _ hfl h32 => readRange_whole hps hmax hz' hfl h32⟩

/-- "Hello, World!" written in two chunks into a fresh zone that cuts parts of five bytes reads
back bytes 2 to 8 as "llo, Wo". -/
theorem hello_world_round_trips :
    ∃ z₁, PartWriter.session sink 5 (PartWriter.new ⟨"k", "/a"⟩ (.full 13))
        [[72, 101, 108, 108, 111], [44, 32, 87, 111, 114, 108, 100, 33]] true
        (⟨"r", "z", 5, Disk.empty 0, Tiers.empty 64, Metrics.zero, [], true, none⟩ : Zone) =
        .ok ⟨[.ok 5, .ok 8], 13, some (.ok ())⟩ z₁ ∧
      ∃ r z₂, readRange ⟨"k", "/a"⟩ 2 8 z₁ = .ok r z₂ ∧
        r.data = [108, 108, 111, 44, 32, 87, 111] ∧ r.error = none := by
  obtain ⟨h0, hb0⟩ := Tiers.empty_bounded 64
  obtain ⟨z₁, hsession, hz₁, hread⟩ := write_then_read_round_trips
    (z := (⟨"r", "z", 5, Disk.empty 0, Tiers.empty 64, Metrics.zero, [], true, none⟩ : Zone))
    (B := [72, 101, 108, 108, 111, 44, 32, 87, 111, 114, 108, 100, 33])
    (by decide) (by decide) rfl
    (PartFiles.empty 0 (Layout.fits_objectDir (by decide +kernel)) : PartFiles 5 _ ⟨"k", "/a"⟩ _)
    ⟨h0, hb0, by decide⟩ (by decide) (by decide) [[72, 101, 108, 108, 111], [44, 32, 87, 111, 114, 108, 100, 33]] rfl
  obtain ⟨r, z₂, hr, -, hin, -⟩ := hread z₁ hz₁ 2 8 (by decide) (by decide)
  obtain ⟨hdata, herror⟩ := hin (by decide)
  exact ⟨z₁, hsession, r, z₂, hr, hdata.trans rfl, herror⟩

/-- Part numbers are 32 bits wide: after writing the two bytes "ab" into a fresh zone that cuts
parts of one byte, reading bytes `2 ^ 32` to `2 ^ 32 + 1`, past the body, serves parts 0 and 1
and gives "ab" with no error. -/
theorem read_past_body_wraps :
    ∃ z₁, PartWriter.session sink 1 (PartWriter.new ⟨"k", "/a"⟩ (.full 2)) [[97, 98]] true
        (⟨"r", "z", 1, Disk.empty 0, Tiers.empty 64, Metrics.zero, [], true, none⟩ : Zone) =
        .ok ⟨[.ok 2], 2, some (.ok ())⟩ z₁ ∧
      ∃ z₂, readRange ⟨"k", "/a"⟩ 4294967296 4294967297 z₁ = .ok ⟨2, [97, 98], none⟩ z₂ := by
  obtain ⟨h0, hb0⟩ := Tiers.empty_bounded 64
  obtain ⟨z₁, hsession, hz₁⟩ := session_stores_whole
    (z := (⟨"r", "z", 1, Disk.empty 0, Tiers.empty 64, Metrics.zero, [], true, none⟩ : Zone))
    (B := [97, 98])
    (by decide) rfl
    (PartFiles.empty 0 (Layout.fits_objectDir (by decide +kernel)) : PartFiles 1 _ ⟨"k", "/a"⟩ _)
    ⟨h0, hb0, by decide⟩ (by decide) (by decide) [[97, 98]] rfl
  obtain ⟨z₂, hread, -⟩ := readRange_whole_eq hz₁
    (by decide : (4294967296 : UInt64) ≤ 4294967297)
  -- the zone still cuts parts of one byte
  have hone : z₁.partSize = 1 := UInt64.toNat_inj.mp hz₁.partSize
  rw [hone] at hread
  exact ⟨z₁, hsession, z₂, hread.trans rfl⟩

end Zone

end PartCache
