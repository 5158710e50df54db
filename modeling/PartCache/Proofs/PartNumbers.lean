import PartCache.Proofs.RoundTrip
import PartCache.Zone.Session

/-!
# The parts of an object: their ranges and their numbers

A body of `s` bytes is cut into parts of `ps` bytes: part `p` covers the bytes from `p * ps` up
to the next boundary or the end of the body, and the body needs `⌈s / ps⌉` parts
(`ObjectMetadata.partsNeeded`).  Part numbers are 32-bit words, so whatever names a part keeps
the low 32 bits of its index and nothing else.

For a zone's part size, at most 64 MiB, `partRange` gives part `p` its range exactly when the
part starts inside the body, and otherwise the error that names the part, its start and the
body's size.  The ranges of the parts the body needs, read in order, spell out every byte of
the body once, as long as the body needs no more than `2 ^ 32` parts; and `partCount` is the
number of parts needed cut to 32 bits, whenever `s + ps - 1` fits 64 bits
(`partsTile_of_le`, gathered in `ObjectMetadata.PartsTile`).

The part holding byte `o` is numbered `⌊o / ps⌋ mod 2 ^ 32` wherever it is computed
(`part_numbers_keep_low_bits`): by the zone's `indexForOffset` request, at the two ends of a
range, and by a writer storing a buffer.  Below `2 ^ 32 * ps` bytes nothing is lost: the parts
`indexesOf` lists for a range are exactly the parts holding a byte of it, in increasing order,
the same numbers the range reader asks for; two bytes of different parts go to different
files; and the size of a range is its length unless it is the whole 64-bit space.  Past that
bound part `p` and part `p + 2 ^ 32` share a number, and the run of a range across the
bound can come out empty.

The range reader computes the last byte of a part as its start plus the part size, less one,
in 64-bit words: that is the number itself exactly when the part ends within 64 bits
(`partEnd_toNat_iff`), and then the reader's window is the window in unbounded arithmetic.  A
part size that does not divide `2 ^ 64` leaves a last part that runs past it, whose end wraps
(`part_numbers_and_ends_wrap`).
-/

namespace PartCache

set_option autoImplicit false

/-! ## Words -/

/-- The last byte of the part holding byte `o`, as the reader computes it in words, is the
number itself exactly when the part ends within 64 bits; past that the sum wraps below it. -/
theorem partEnd_toNat_iff (o ps : UInt64) (hps : 0 < ps.toNat) :
    (o / ps * ps + ps - 1).toNat = o.toNat / ps.toNat * ps.toNat + ps.toNat - 1 ↔
      (o.toNat / ps.toNat + 1) * ps.toNat ≤ 2 ^ 64 := by
  have hdiv : (o / ps).toNat = o.toNat / ps.toNat := UInt64.toNat_div o ps
  constructor
  · intro h
    by_contra hover
    -- a word is below `2 ^ 64`, and the part's last byte is not
    have hword := UInt64.toNat_lt (o / ps * ps + ps - 1)
    rw [Nat.add_one_mul] at hover
    omega
  · intro hend
    rw [← hdiv] at hend ⊢
    exact Zone.toNat_partEnd hps hend

/-- A quotient of words cut to 32 bits keeps the low 32 bits of the quotient of the numbers. -/
theorem UInt64.toNat_toUInt32_div (o ps : UInt64) :
    ((o / ps).toUInt32).toNat = o.toNat / ps.toNat % 2 ^ 32 := by
  rw [UInt64.toNat_toUInt32, UInt64.toNat_div]

/-! ## Byte ranges -/

namespace ByteRange

/-- The offsets a range covers, in increasing order. -/
def offsets (r : ByteRange) : List Nat :=
  List.range' r.first.toNat (r.last.toNat + 1 - r.first.toNat)

theorem eq_mk_iff {r : ByteRange} {a b : UInt64} {h : a ≤ b} :
    r = ⟨a, b, h⟩ ↔ r.first = a ∧ r.last = b := by
  cases r
  simp

/-- A range's size is its length, unless it is the whole 64-bit space, whose length wraps. -/
theorem size_toNat_of_ne_full (r : ByteRange) (h : r.first.toNat ≠ 0 ∨ r.last.toNat ≠ 2 ^ 64 - 1) :
    r.size.toNat = r.last.toNat - r.first.toNat + 1 := by
  have hlt := r.last.toNat_lt
  have hle := UInt64.le_iff_toNat_le.mp r.first_le_last
  rw [size_toNat, UInt64.size, Nat.mod_eq_of_lt (by omega)]

/-- The ends of a range lie in the parts numbered by their offsets, cut to 32 bits. -/
theorem partBounds_toNat (r : ByteRange) (ps : UInt64) :
    (r.partBounds ps).1.toNat = r.first.toNat / ps.toNat % 2 ^ 32 ∧
      (r.partBounds ps).2.toNat = r.last.toNat / ps.toNat % 2 ^ 32 :=
  ⟨UInt64.toNat_toUInt32_div _ _, UInt64.toNat_toUInt32_div _ _⟩

end ByteRange

/-! ## The ranges of the parts -/

namespace ObjectMetadata

/-- The number of parts a body needs: `⌈size / ps⌉`. -/
def partsNeeded (m : ObjectMetadata) (ps : UInt64) : Nat :=
  (m.size.toNat + ps.toNat - 1) / ps.toNat

variable {m : ObjectMetadata} {ps : UInt64}

theorem lt_partsNeeded_iff (hps : 0 < ps.toNat) (p : Nat) :
    p < m.partsNeeded ps ↔ p * ps.toNat < m.size.toNat :=
  Zone.lt_partCount_iff hps _ p

/-- A part numbered by 32 bits, of at most 64 MiB, ends below `2 ^ 58`. -/
theorem partEnd_le (p : UInt32) (hbig : ps.toNat ≤ 2 ^ 26) :
    p.toNat * ps.toNat + ps.toNat ≤ 2 ^ 58 := by
  have hp := p.toNat_lt
  have : p.toNat * ps.toNat ≤ (2 ^ 32 - 1) * 2 ^ 26 := Nat.mul_le_mul (by omega) hbig
  omega

theorem toNat_partStart (p : UInt32) (hbig : ps.toNat ≤ 2 ^ 26) :
    (p.toUInt64 * ps).toNat = p.toNat * ps.toNat := by
  have := partEnd_le p hbig
  rw [UInt64.toNat_mul, UInt32.toNat_toUInt64]
  exact Nat.mod_eq_of_lt (by omega)

/-- The count is the number of parts needed, cut to 32 bits, when `size + ps - 1` does not
wrap. -/
theorem partCount_toNat (hps : 0 < ps.toNat) (hfit : m.size.toNat + ps.toNat ≤ 2 ^ 64) :
    (m.partCount ps).toNat = m.partsNeeded ps % 2 ^ 32 := by
  unfold partCount partsNeeded
  split
  · next h0 =>
    have hsize : m.size.toNat = 0 := by simp [h0]
    rw [hsize, Nat.div_eq_of_lt (by omega)]
    rfl
  · have hsum : (m.size + ps - 1).toNat = m.size.toNat + ps.toNat - 1 := by
      rw [UInt64.toNat_sub, UInt64.toNat_add]
      have := m.size.toNat_lt
      simp only [UInt64.reduceToNat]
      omega
    rw [UInt64.toNat_toUInt32, UInt64.toNat_div, hsum]

/-- A part that starts at or past the end of the body is refused with the error that names it,
its start and the body's size. -/
theorem partRange_of_le (hbig : ps.toNat ≤ 2 ^ 26) {p : UInt32}
    (h : m.size.toNat ≤ p.toNat * ps.toNat) :
    m.partRange p ps = .error (.inconsistentState ("part " ++ Decimal.text p.toNat ++
      " starts at " ++ Decimal.text (p.toNat * ps.toNat) ++ " beyond object size " ++
      Decimal.text m.size.toNat)) := by
  have hstart := toNat_partStart p hbig
  have hge : p.toUInt64 * ps ≥ m.size := UInt64.le_iff_toNat_le.mpr (hstart ▸ h)
  simp only [partRange, if_pos hge, hstart]

/-- The last byte of a part inside the body is its own last byte or the body's, whichever comes
first. -/
theorem toNat_partLast (hps : 0 < ps.toNat) (hbig : ps.toNat ≤ 2 ^ 26) {p : UInt32}
    (hlt : p.toNat * ps.toNat < m.size.toNat) :
    (min (p.toUInt64 * ps + ps - 1) (m.size - 1)).toNat =
      min (p.toNat * ps.toNat + ps.toNat) m.size.toNat - 1 := by
  have hend := partEnd_le p hbig
  have h₁ : (p.toUInt64 * ps + ps - 1).toNat = p.toNat * ps.toNat + ps.toNat - 1 := by
    rw [UInt64.toNat_sub, UInt64.toNat_add, toNat_partStart p hbig]
    simp only [UInt64.reduceToNat]
    omega
  have h₂ : (m.size - 1).toNat = m.size.toNat - 1 := by
    rw [UInt64.toNat_sub_of_le _ _ (UInt64.le_iff_toNat_le.mpr (by simp; omega))]
    rfl
  rw [UInt64.toNat_min, h₁, h₂]
  omega

/-- A part that starts inside the body has the range from its start to its last byte. -/
theorem partRange_of_lt (hps : 0 < ps.toNat) (hbig : ps.toNat ≤ 2 ^ 26) {p : UInt32}
    (hlt : p.toNat * ps.toNat < m.size.toNat) :
    ∃ h, m.partRange p ps =
      .ok ⟨p.toUInt64 * ps, min (p.toUInt64 * ps + ps - 1) (m.size - 1), h⟩ := by
  have hstart := toNat_partStart p hbig
  have hge : ¬ p.toUInt64 * ps ≥ m.size := fun h =>
    absurd (hstart ▸ UInt64.le_iff_toNat_le.mp h) (by omega)
  have hle : p.toUInt64 * ps ≤ min (p.toUInt64 * ps + ps - 1) (m.size - 1) :=
    UInt64.le_iff_toNat_le.mpr (by rw [toNat_partLast hps hbig hlt, hstart]; omega)
  exact ⟨hle, by simp only [partRange, if_neg hge, ByteRange.make, dif_pos hle]⟩

/-- Part `p` has a range exactly when it starts inside the body: from `p * ps` to the next
boundary or the end of the body, whichever comes first. -/
theorem partRange_eq_ok_iff (hps : 0 < ps.toNat) (hbig : ps.toNat ≤ 2 ^ 26) {p : UInt32}
    {r : ByteRange} :
    m.partRange p ps = .ok r ↔ p.toNat * ps.toNat < m.size.toNat ∧
      r.first.toNat = p.toNat * ps.toNat ∧
      r.last.toNat + 1 = min (p.toNat * ps.toNat + ps.toNat) m.size.toNat := by
  by_cases hlt : p.toNat * ps.toNat < m.size.toNat
  · obtain ⟨h, hr⟩ := partRange_of_lt hps hbig hlt
    rw [hr, Except.ok.injEq, eq_comm, ByteRange.eq_mk_iff, ← UInt64.toNat_inj, ← UInt64.toNat_inj,
      toNat_partStart p hbig, toNat_partLast hps hbig hlt]
    omega
  · rw [partRange_of_le hbig (by omega)]
    simp only [reduceCtorEq, false_iff, not_and]
    omega

theorem offsets_of_partRange (hps : 0 < ps.toNat) (hbig : ps.toNat ≤ 2 ^ 26) {p : UInt32}
    {r : ByteRange} (h : m.partRange p ps = .ok r) :
    r.offsets = List.range' (p.toNat * ps.toNat)
      (min (p.toNat * ps.toNat + ps.toNat) m.size.toNat - p.toNat * ps.toNat) := by
  obtain ⟨-, hfirst, hlast⟩ := (partRange_eq_ok_iff hps hbig).mp h
  rw [ByteRange.offsets, hfirst, hlast]

/-- The ranges of the first `k` parts, read in order, are the bytes up to the end of part
`k - 1`. -/
theorem flatMap_offsets (hps : 0 < ps.toNat) (hbig : ps.toNat ≤ 2 ^ 26) :
    ∀ k, k ≤ m.partsNeeded ps → k ≤ 2 ^ 32 →
      ((List.range k).filterMap fun p => (m.partRange p.toUInt32 ps).toOption).flatMap
        ByteRange.offsets = List.range (min (k * ps.toNat) m.size.toNat)
  | 0, _, _ => by simp
  | k + 1, hk, hk32 => by
    -- part `k` is inside the body and its range starts where the ranges before it end
    have hkin : k * ps.toNat < m.size.toNat := (lt_partsNeeded_iff hps k).mp (by omega)
    have hkp : (k.toUInt32).toNat = k := by simp; omega
    obtain ⟨_, hr⟩ := partRange_of_lt (m := m) hps hbig (p := k.toUInt32) (by rw [hkp]; exact hkin)
    have hoff := offsets_of_partRange hps hbig hr
    rw [hkp] at hoff
    rw [List.range_succ, List.filterMap_append, List.flatMap_append,
      flatMap_offsets hps hbig k (by omega) (by omega)]
    simp only [List.filterMap_cons, hr, Except.toOption, List.filterMap_nil, List.flatMap_cons,
      List.flatMap_nil, List.append_nil, hoff, Nat.min_eq_left (Nat.le_of_lt hkin),
      List.range_eq_range', Nat.succ_mul]
    have hsplit := @List.range'_append_1 0 (k * ps.toNat)
      (min (k * ps.toNat + ps.toNat) m.size.toNat - k * ps.toNat)
    rwa [Nat.zero_add, Nat.add_sub_cancel' (by omega)] at hsplit

/-- How a body of `m.size` bytes is cut into parts of `ps` bytes. -/
structure PartsTile (m : ObjectMetadata) (ps : UInt64) : Prop where
  /-- The count is the number of parts needed cut to 32 bits, unless `size + ps - 1` wraps. -/
  count : m.size.toNat + ps.toNat ≤ 2 ^ 64 → (m.partCount ps).toNat = m.partsNeeded ps % 2 ^ 32
  /-- A part has a range exactly when the body needs it. -/
  ok_iff : ∀ p : UInt32, (∃ r, m.partRange p ps = .ok r) ↔ p.toNat < m.partsNeeded ps
  /-- A part runs from its start to the next boundary or the end of the body, and holds `ps`
  bytes unless the body ends first. -/
  range : ∀ p r, m.partRange p ps = .ok r →
    r.first.toNat = p.toNat * ps.toNat ∧
      r.last.toNat + 1 = min (p.toNat * ps.toNat + ps.toNat) m.size.toNat ∧
      r.size.toNat = min ps.toNat (m.size.toNat - p.toNat * ps.toNat)
  /-- Every part the body does not need is refused with the error that names it. -/
  error : ∀ p : UInt32, m.partsNeeded ps ≤ p.toNat →
    m.partRange p ps = .error (.inconsistentState ("part " ++ Decimal.text p.toNat ++
      " starts at " ++ Decimal.text (p.toNat * ps.toNat) ++ " beyond object size " ++
      Decimal.text m.size.toNat))
  /-- The ranges of the parts the body needs, read in order, are its bytes, each once. -/
  tile : m.partsNeeded ps ≤ 2 ^ 32 →
    ((List.range (m.partsNeeded ps)).filterMap fun p => (m.partRange p.toUInt32 ps).toOption).flatMap
      ByteRange.offsets = List.range m.size.toNat

/-- Every part size of a zone cuts every body into parts that tile it. -/
theorem partsTile_of_le (m : ObjectMetadata) (ps : UInt64) (hps : 0 < ps.toNat)
    (hbig : ps.toNat ≤ 2 ^ 26) : m.PartsTile ps where
  count := partCount_toNat hps
  ok_iff p := by
    rw [lt_partsNeeded_iff hps]
    constructor
    · rintro ⟨r, hr⟩
      exact ((partRange_eq_ok_iff hps hbig).mp hr).1
    · intro hlt
      obtain ⟨_, hr⟩ := partRange_of_lt hps hbig hlt
      exact ⟨_, hr⟩
  range p r hr := by
    obtain ⟨hlt, hfirst, hlast⟩ := (partRange_eq_ok_iff hps hbig).mp hr
    -- the last byte is inside the body, so the range is not the whole 64-bit space
    have hsize := r.size_toNat_of_ne_full (Or.inr (by have := m.size.toNat_lt; omega))
    refine ⟨hfirst, hlast, ?_⟩
    omega
  error p hp := partRange_of_le hbig (by
    have := (lt_partsNeeded_iff (m := m) hps p.toNat).not.mp (by omega)
    omega)
  tile hN := by
    have hcover : m.size.toNat ≤ m.partsNeeded ps * ps.toNat :=
      Nat.le_of_not_lt ((lt_partsNeeded_iff hps _).not.mp (Nat.lt_irrefl _))
    rw [flatMap_offsets hps hbig _ (Nat.le_refl _) hN, Nat.min_eq_right hcover]

/-- A body of 13 bytes at part size 5 is cut into parts that tile it. -/
theorem partsTile_thirteen_by_five :
    0 < (5 : UInt64).toNat ∧ (5 : UInt64).toNat ≤ 2 ^ 26 ∧
      PartsTile ⟨⟨"z", "/a"⟩, 0, 200, 13, [], 100⟩ 5 :=
  ⟨by decide, by decide, partsTile_of_le _ _ (by decide) (by decide)⟩

/-- A body of `2 ^ 32` one-byte parts counts no parts, yet part `0` has its range. -/
theorem partCount_wraps :
    partCount ⟨⟨"z", "/a"⟩, 0, 200, 4294967296, [], 100⟩ 1 = 0 ∧
      partRange ⟨⟨"z", "/a"⟩, 0, 200, 4294967296, [], 100⟩ 0 1 = .ok ⟨0, 0, by decide⟩ :=
  ⟨by decide, rfl⟩

end ObjectMetadata

/-! ## Part numbers -/

/-- A writer stores its buffer as the part the buffer starts in, cut to 32 bits. -/
theorem PartWriter.flush_part {m : Type → Type} [Monad m] (sink : PartSink m) (w : PartWriter)
    (ps : Nat) : ∃ q : UInt32, q.toNat = (w.pos - w.buffer.length) / ps % 2 ^ 32 ∧
      flush sink w ps = (do
        let err ← keepPart sink ⟨w.object, q⟩ w.buffer
        pure ({ w with buffer := [] }, err)) :=
  ⟨_, by simp [Nat.toUInt32_eq, UInt32.toNat_ofNat'], rfl⟩

namespace Zone

/-- A zone answers `indexForOffset` with the offset's part cut to 32 bits, and changes nothing. -/
theorem answer_indexForOffset (now : Int) (o : ObjectRef) (offset : UInt64) (z : Zone) :
    (answer now (.indexForOffset o offset)).run z = .ok (.part (offset / z.partSize).toUInt32) z :=
  rfl

/-- A zone answers `partIndexes` for a range in order with the parts `indexesOf` lists. -/
theorem answer_partIndexes (now : Int) (o : ObjectRef) {first last : UInt64} (z : Zone)
    (h : first ≤ last) :
    (answer now (.partIndexes o first last)).run z =
      .ok (.parts (indexesOf z.partSize ⟨first, last, h⟩)) z := by
  simp only [answer, ByteRange.make, dif_pos h]
  rfl

theorem toNat_toUInt32_of_lt {q : Nat} (h : q < 2 ^ 32) : q.toUInt32.toNat = q := by
  simp only [Nat.toUInt32_eq, UInt32.toNat_ofNat']
  exact Nat.mod_eq_of_lt h

variable {ps first last : Nat}

/-- A byte below `2 ^ 32` parts lies in a part numbered below `2 ^ 32`. -/
theorem div_lt_of_lt {o : Nat} (h : o < 2 ^ 32 * ps) : o / ps < 2 ^ 32 :=
  Nat.div_lt_of_lt_mul (by rwa [Nat.mul_comm])

theorem rangeParts_of_le (hfl : first ≤ last) :
    rangeParts ps first last = List.range' (first / ps) (last / ps - first / ps + 1) := by
  have hdiv : first / ps ≤ last / ps := Nat.div_le_div_right hfl
  rw [rangeParts, Nat.sub_add_comm hdiv]

/-- The parts of a range are the parts holding a byte of it. -/
theorem mem_rangeParts_iff (hps : 0 < ps) (hfl : first ≤ last) {p : Nat} :
    p ∈ rangeParts ps first last ↔ ∃ o, first ≤ o ∧ o ≤ last ∧ o / ps = p := by
  rw [rangeParts, List.mem_range'_1]
  constructor
  · rintro ⟨hp₁, hp₂⟩
    -- the byte is the range's start or the part's first byte, whichever comes later
    have hp₃ : p ≤ last / ps := by omega
    obtain ⟨hend, hstart⟩ := part_meets_range hps hp₁ hp₃
    refine ⟨max first (p * ps), by omega, by omega, ?_⟩
    exact Nat.div_eq_of_lt_le (by omega) (by rw [Nat.succ_mul]; omega)
  · rintro ⟨o, ho₁, ho₂, rfl⟩
    have h₁ : first / ps ≤ o / ps := Nat.div_le_div_right ho₁
    have h₂ : o / ps ≤ last / ps := Nat.div_le_div_right ho₂
    omega

/-- Below `2 ^ 32` parts every part of a range keeps its number when cut to 32 bits. -/
theorem map_toNat_rangeParts (h : last < 2 ^ 32 * ps) :
    (rangeParts ps first last).map (fun p => p.toUInt32.toNat) = rangeParts ps first last := by
  have hlast := div_lt_of_lt h
  refine (List.map_congr_left fun p hp => ?_).trans (List.map_id _)
  rw [rangeParts, List.mem_range'_1] at hp
  exact toNat_toUInt32_of_lt (by omega)

/-- Below `2 ^ 32` parts a range's parts are the parts a reader of it asks for. -/
theorem indexesOf_eq_rangeParts {ps : UInt64} (r : ByteRange) (h : r.last.toNat < 2 ^ 32 * ps.toNat) :
    indexesOf ps r = (rangeParts ps.toNat r.first.toNat r.last.toNat).map Nat.toUInt32 := by
  have hfl := UInt64.le_iff_toNat_le.mp r.first_le_last
  have hlast := div_lt_of_lt h
  have hfirst : r.first.toNat / ps.toNat < 2 ^ 32 :=
    Nat.lt_of_le_of_lt (Nat.div_le_div_right hfl) hlast
  have ha := (UInt64.toNat_toUInt32_div r.first ps).trans (Nat.mod_eq_of_lt hfirst)
  have hb := (UInt64.toNat_toUInt32_div r.last ps).trans (Nat.mod_eq_of_lt hlast)
  simp only [indexesOf, ha, hb, rangeParts, List.range'_eq_map_range, List.map_map]
  rfl

/-- Below `2 ^ 32` parts two bytes go to one part file exactly when they lie in one part. -/
theorem partPath_eq_iff_div {o₁ o₂ : Nat} (id : ObjectId) (h₁ : o₁ < 2 ^ 32 * ps)
    (h₂ : o₂ < 2 ^ 32 * ps) :
    Layout.partPath ⟨id, (o₁ / ps).toUInt32⟩ = Layout.partPath ⟨id, (o₂ / ps).toUInt32⟩ ↔
      o₁ / ps = o₂ / ps := by
  rw [Layout.partPath_eq_iff, ← UInt32.toNat_inj, toNat_toUInt32_of_lt (div_lt_of_lt h₁),
    toNat_toUInt32_of_lt (div_lt_of_lt h₂)]
  simp

/-- Wherever a part is numbered, the part holding byte `o` is numbered `⌊o / ps⌋ mod 2 ^ 32`:
by a zone's `indexForOffset`, at the ends of a range, and by a writer storing its buffer.  For a
range ending below `2 ^ 32` parts nothing is cut: a zone's `partIndexes` answers the numbers a
reader of the range asks for, and they run without a gap from the part of its start to the part
of its end, each holding a byte of the range and every byte held by one; two bytes there go to
one part file exactly when they lie in one part; and a range's size is its length unless it is
the whole 64-bit space.  The reader's last byte of a part is exact exactly when the part ends
within 64 bits, and the reader's window of such a part of a range is the window in unbounded
arithmetic. -/
theorem part_numbers_keep_low_bits (ps : UInt64) :
    (∀ now o offset (z : Zone), z.partSize = ps →
      ∃ q : UInt32, (answer now (.indexForOffset o offset)).run z = .ok (.part q) z ∧
        q.toNat = offset.toNat / ps.toNat % 2 ^ 32) ∧
    (∀ r : ByteRange, (r.partBounds ps).1.toNat = r.first.toNat / ps.toNat % 2 ^ 32 ∧
      (r.partBounds ps).2.toNat = r.last.toNat / ps.toNat % 2 ^ 32) ∧
    (∀ {m : Type → Type} [Monad m] (sink : PartSink m) (w : PartWriter), ∃ q : UInt32,
      q.toNat = (w.pos - w.buffer.length) / ps.toNat % 2 ^ 32 ∧
      PartWriter.flush sink w ps.toNat = (do
        let err ← PartWriter.keepPart sink ⟨w.object, q⟩ w.buffer
        pure ({ w with buffer := [] }, err))) ∧
    (∀ now o (first last : UInt64) (z : Zone), z.partSize = ps → first ≤ last →
      last.toNat < 2 ^ 32 * ps.toNat →
      (answer now (.partIndexes o first last)).run z =
        .ok (.parts ((rangeParts ps.toNat first.toNat last.toNat).map Nat.toUInt32)) z ∧
      (rangeParts ps.toNat first.toNat last.toNat).map (fun p => p.toUInt32.toNat) =
        List.range' (first.toNat / ps.toNat) (last.toNat / ps.toNat - first.toNat / ps.toNat + 1) ∧
      ∀ p, p ∈ rangeParts ps.toNat first.toNat last.toNat ↔
        ∃ o, first.toNat ≤ o ∧ o ≤ last.toNat ∧ o / ps.toNat = p) ∧
    (∀ (id : ObjectId) (o₁ o₂ : Nat), o₁ < 2 ^ 32 * ps.toNat → o₂ < 2 ^ 32 * ps.toNat →
      (Layout.partPath ⟨id, (o₁ / ps.toNat).toUInt32⟩ =
          Layout.partPath ⟨id, (o₂ / ps.toNat).toUInt32⟩ ↔ o₁ / ps.toNat = o₂ / ps.toNat)) ∧
    (∀ r : ByteRange, r.first.toNat ≠ 0 ∨ r.last.toNat ≠ 2 ^ 64 - 1 →
      r.size.toNat = r.last.toNat - r.first.toNat + 1) ∧
    (0 < ps.toNat → ∀ o : UInt64,
      ((o / ps * ps + ps - 1).toNat = o.toNat / ps.toNat * ps.toNat + ps.toNat - 1 ↔
        (o.toNat / ps.toNat + 1) * ps.toNat ≤ 2 ^ 64)) ∧
    (0 < ps.toNat → ∀ first last p : UInt64, first ≤ last → first.toNat / ps.toNat ≤ p.toNat →
      p.toNat ≤ last.toNat / ps.toNat → (p.toNat + 1) * ps.toNat ≤ 2 ^ 64 →
      Prod.map UInt64.toNat UInt64.toNat (partWindow ps p first last) =
        window ps.toNat p.toNat first.toNat last.toNat) := by
  refine ⟨fun now o offset z hz => ⟨_, answer_indexForOffset now o offset z, ?_⟩,
    fun r => r.partBounds_toNat ps, fun sink w => PartWriter.flush_part sink w ps.toNat,
    fun now o first last z hz hfl hlast => ?_, fun id _ _ h₁ h₂ => partPath_eq_iff_div id h₁ h₂,
    fun r h => r.size_toNat_of_ne_full h, fun hps o => partEnd_toNat_iff o ps hps,
    fun hps first last p hfl hp₁ hp₂ hend =>
      partWindow_toNat hps (UInt64.le_iff_toNat_le.mp hfl) hp₁ hp₂ hend⟩
  · rw [hz, UInt64.toNat_toUInt32_div]
  · have hfl' := UInt64.le_iff_toNat_le.mp hfl
    have hps : 0 < ps.toNat := Nat.pos_of_ne_zero fun h0 => by simp [h0] at hlast
    refine ⟨?_, ?_, fun p => mem_rangeParts_iff hps hfl'⟩
    · rw [answer_partIndexes now o z hfl, hz, indexesOf_eq_rangeParts _ hlast]
    · rw [map_toNat_rangeParts hlast, rangeParts_of_le hfl']

/-- Past `2 ^ 32` one-byte parts numbers wrap: the two bytes from `2 ^ 32 - 1` lie in parts
`2 ^ 32 - 1` and `2 ^ 32`, whose numbers cut to 32 bits are out of order, and `indexesOf` lists
no part for them at all.  Past `2 ^ 64` part ends wrap: with parts of three bytes the last byte
of the 64-bit space starts a part whose end the reader computes as byte 1, and the reader's
window of that part for the one-byte range takes three bytes. -/
theorem part_numbers_and_ends_wrap :
    indexesOf 1 ⟨4294967295, 4294967296, by decide⟩ = [] ∧
      ((4294967296 : UInt64) / 1).toUInt32 = 0 ∧
      (18446744073709551615 / 3 * 3 + 3 - 1 : UInt64) = 1 ∧
      partWindow 3 (18446744073709551615 / 3) 18446744073709551615 18446744073709551615 = (0, 3) := by
  decide

end Zone

end PartCache
