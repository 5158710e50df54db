import PartCache.Zone.Reader
import Mathlib

/-!
# Reading a range back, part by part

A read of the bytes from `first` to `last` of an object cut every `ps` bytes serves the parts
the range covers (`rangeParts`) one after another.  What it does with a part is fixed by what
serving the part answers (`partGives`): it takes the part's window, the bytes from `skip` on,
`len` of them (`window`), or it stops there with a failure.

The reader computes in 64-bit words.  While the range's last part ends within 64 bits and is not
part `2 ^ 64 - 1`, and no skip reaches `2 ^ 63`, every word it computes is the number itself: its
windows are those of unbounded arithmetic (`partWindow_toNat`), and the read is `readWindows`, the
same loop over numbers (`readParts_eq_readWindows`).  The part numbers it asks for are still cut
to 32 bits.

For a server whose answer for each part is fixed, whatever else it does, over any lawful monad:
the read serves the parts in increasing order, each once, up to the first that fails and no
further; it gives the windows of the parts before it in order, then what the failing part has
of its window, with its failure (`readWindows_delivered`, `readWindows_first_failure`).  The
windows of a range add up to the range (`sum_windows`), and whatever the server answers, a read
gives no more bytes than its range holds (`readWindows_length_le`).  Past those bounds the words
wrap: a range near `2 ^ 64` takes bytes past its end, and a range ending at byte `2 ^ 64 - 1` of
an object cut every byte goes on from part 0 (`reader_wraps_past_word_limits`).
-/

set_option autoImplicit false

namespace PartCache

/-! ## Words -/

/-- The lesser of two words, read as a number, is the lesser number. -/
theorem UInt64.toNat_min (a b : UInt64) : (min a b).toNat = min a.toNat b.toNat := by
  show (if a ≤ b then a else b).toNat = _
  by_cases h : a ≤ b
  · rw [if_pos h, Nat.min_eq_left (UInt64.le_iff_toNat_le.mp h)]
  · rw [if_neg h, Nat.min_eq_right (Nat.le_of_not_le fun hc => h (UInt64.le_iff_toNat_le.mpr hc))]

/-- The greater of two words, read as a number, is the greater number. -/
theorem UInt64.toNat_max (a b : UInt64) : (max a b).toNat = max a.toNat b.toNat := by
  show (if a ≤ b then b else a).toNat = _
  by_cases h : a ≤ b
  · rw [if_pos h, Nat.max_eq_right (UInt64.le_iff_toNat_le.mp h)]
  · rw [if_neg h, Nat.max_eq_left (Nat.le_of_not_le fun hc => h (UInt64.le_iff_toNat_le.mpr hc))]

namespace Zone

/-- The parts a read of the bytes from `first` to `last` covers, in increasing order. -/
def rangeParts (ps first last : Nat) : List Nat :=
  List.range' (first / ps) (last / ps + 1 - first / ps)

/-- The bytes of part `p` that the range from `first` to `last` covers, in unbounded
arithmetic: how many to skip, and how many to take. -/
def window (ps p first last : Nat) : Nat × Nat :=
  let partStart := p * ps
  let lo := max partStart first
  let hi := min (partStart + ps - 1) last
  (lo - partStart, hi - lo + 1)

/-- What part `p` gives a read of the range from `first` to `last`, from what serving it
answered: the bytes of its window that it has, and the failure that ends the read there, if any.
A failure to serve or to read the part is passed on as a stream error; a part with fewer bytes
than its window needs gives its bytes from the window's start and `UnexpectedEof`, with the
number of bytes missing. -/
def partGives (id : ObjectId) (ps first last p : Nat) :
    Except CacheError PartData → Bytes × Option IoError
  | .error e => ([], some e.asStreamError)
  | .ok (.unreadable e) => ([], some e.asStreamError)
  | .ok (.stored data) | .ok (.downloaded data) =>
    let (skip, len) := window ps p first last
    if skip + len ≤ data.length then ((data.drop skip).take len, none)
    else (data.drop skip, some ⟨.unexpectedEof, "part " ++ Decimal.text p ++ " of " ++
      id.display ++ " ended " ++ Decimal.text (len - (data.length - skip)) ++ " bytes early"⟩)

/-- The read in unbounded arithmetic: `count` parts from part `p` on, appending to `acc`, until
one fails. -/
def readWindows {m : Type → Type} [Monad m] (serve : PartIndex → m (Except CacheError PartData))
    (id : ObjectId) (ps first last : Nat) : Nat → Nat → Bytes → m (Bytes × Option IoError)
  | 0, _, acc => pure (acc, none)
  | count + 1, p, acc => do
    let (skip, len) := window ps p first last
    match ← serve ⟨id, p.toUInt32⟩ with
    | .error e => pure (acc, some e.asStreamError)
    | .ok (.unreadable e) => pure (acc, some e.asStreamError)
    | .ok (.stored data) | .ok (.downloaded data) =>
      let got := (data.drop skip).take len
      if got.length < len then
        pure (acc ++ got, some ⟨.unexpectedEof, "part " ++ Decimal.text p ++ " of " ++ id.display ++
          " ended " ++ Decimal.text (len - got.length) ++ " bytes early"⟩)
      else readWindows serve id ps first last count (p + 1) (acc ++ got)

/-! ## Windows -/

section Windows

variable {ps first last : Nat}

theorem window_len_pos (p : Nat) : 0 < (window ps p first last).2 := by
  simp only [window]
  omega

/-- A part of the range starts by the range's last byte and ends past its first. -/
theorem part_meets_range (hps : 0 < ps) {p : Nat} (hp₁ : first / ps ≤ p) (hp₂ : p ≤ last / ps) :
    p * ps ≤ last ∧ first < p * ps + ps := by
  have h₁ := Nat.lt_div_mul_add hps (a := first)
  have h₂ := Nat.div_mul_le_self last ps
  have hlo : first / ps * ps ≤ p * ps := Nat.mul_le_mul_right ps hp₁
  have hhi : p * ps ≤ last / ps * ps := Nat.mul_le_mul_right ps hp₂
  omega

/-- A window lies inside its part: what it skips and what it takes add up to at most the part
size. -/
theorem window_fits (hps : 0 < ps) (hfl : first ≤ last) {p : Nat} (hp₁ : first / ps ≤ p)
    (hp₂ : p ≤ last / ps) :
    (window ps p first last).1 + (window ps p first last).2 ≤ ps := by
  have := part_meets_range hps hp₁ hp₂
  simp only [window]
  omega

/-- A part gives no more than its window's length. -/
theorem length_partGives_le (id : ObjectId) (p : Nat) (r : Except CacheError PartData) :
    (partGives id ps first last p r).1.length ≤ (window ps p first last).2 := by
  rcases r with e | (data | e | data) <;> simp only [partGives, List.length_nil, Nat.zero_le]
  all_goals
    split_ifs with h
    · exact List.length_take_le _ _
    · rw [List.length_drop]
      omega

/-- The window of a part of the range runs from the later of the range's start and the part's
start to the earlier of the range's end and the part's end. -/
theorem window_eq (hps : 0 < ps) (hfl : first ≤ last) {p : Nat} (hp₁ : first / ps ≤ p)
    (hp₂ : p ≤ last / ps) :
    (window ps p first last).2 = min (last + 1) ((p + 1) * ps) - max first (p * ps) := by
  have := part_meets_range hps hp₁ hp₂
  simp only [window, Nat.add_one_mul]
  omega

/-- The windows of consecutive parts of the range meet, each starting where the one before
ends, so together they run from the first one's start to the last one's end. -/
theorem sum_windows_from (hps : 0 < ps) (hfl : first ≤ last) :
    ∀ (k p : Nat), first / ps ≤ p → p + k ≤ last / ps + 1 →
      ((List.range' p k).map fun q => (window ps q first last).2).sum =
        min (last + 1) ((p + k) * ps) - max first (p * ps) := by
  have h₁ := Nat.lt_div_mul_add hps (a := first)
  have h₂ := Nat.div_mul_le_self last ps
  intro k
  induction k with
  | zero =>
    intro p _ _
    simp only [List.range'_zero, List.map_nil, List.sum_nil, Nat.add_zero]
    omega
  | succ k ih =>
    intro p hp₁ hp₂
    rw [List.range'_succ, List.map_cons, List.sum_cons, ih (p + 1) (by omega) (by omega),
      window_eq hps hfl hp₁ (by omega)]
    -- the part after `p` starts past the range's start, and it ends by the range's end
    -- unless it is the last
    have hlo : (first / ps + 1) * ps ≤ (p + 1) * ps := Nat.mul_le_mul_right ps (by omega)
    have hk : (p + (k + 1)) * ps = (p + 1) * ps + k * ps := by
      rw [← Nat.add_mul]
      congr 1
      omega
    have hk' : (p + 1 + k) * ps = (p + 1) * ps + k * ps := by rw [Nat.add_mul]
    rw [hk, hk']
    rw [Nat.add_one_mul] at hlo ⊢
    rcases Nat.eq_zero_or_pos k with rfl | hkpos
    · simp only [Nat.zero_mul, Nat.add_zero]
      omega
    · have hhi : (p + 1) * ps ≤ last / ps * ps := Nat.mul_le_mul_right ps (by omega)
      rw [Nat.add_one_mul] at hhi
      omega

/-- The windows of a range's parts add up to the range. -/
theorem sum_windows (hps : 0 < ps) (hfl : first ≤ last) :
    ((rangeParts ps first last).map fun p => (window ps p first last).2).sum =
      last - first + 1 := by
  have hab : first / ps ≤ last / ps := Nat.div_le_div_right hfl
  have h₁ := Nat.div_mul_le_self first ps
  have h₂ := Nat.lt_div_mul_add hps (a := last)
  rw [rangeParts, sum_windows_from hps hfl _ _ le_rfl (by omega),
    show first / ps + (last / ps + 1 - first / ps) = last / ps + 1 by omega, Nat.add_one_mul]
  omega

end Windows

/-! ## The reader in words -/

section Words

variable {ps first last : UInt64}

/-- A part that ends within 64 bits starts at the product of its number and the part size. -/
theorem toNat_partStart (hps : 0 < ps.toNat) {p : UInt64}
    (hend : (p.toNat + 1) * ps.toNat ≤ 2 ^ 64) : (p * ps).toNat = p.toNat * ps.toNat := by
  rw [Nat.add_one_mul] at hend
  rw [UInt64.toNat_mul, Nat.mod_eq_of_lt (by omega)]

/-- A part that ends within 64 bits ends at its start plus the part size, less one; a part that
ends at byte `2 ^ 64 - 1` too, though its start plus its size wraps to 0 on the way. -/
theorem toNat_partEnd (hps : 0 < ps.toNat) {p : UInt64}
    (hend : (p.toNat + 1) * ps.toNat ≤ 2 ^ 64) :
    (p * ps + ps - 1).toNat = p.toNat * ps.toNat + ps.toNat - 1 := by
  have hstart := toNat_partStart hps hend
  rw [Nat.add_one_mul] at hend
  rw [UInt64.toNat_sub, UInt64.toNat_add, hstart]
  simp only [UInt64.reduceToNat]
  omega

/-- The window the reader computes in words, for a part of the range that ends within 64 bits,
is the window in unbounded arithmetic. -/
theorem partWindow_toNat (hps : 0 < ps.toNat) (hfl : first.toNat ≤ last.toNat) {p : UInt64}
    (hp₁ : first.toNat / ps.toNat ≤ p.toNat) (hp₂ : p.toNat ≤ last.toNat / ps.toNat)
    (hend : (p.toNat + 1) * ps.toNat ≤ 2 ^ 64) :
    Prod.map UInt64.toNat UInt64.toNat (partWindow ps p first last) =
      window ps.toNat p.toNat first.toNat last.toNat := by
  have hstart := toNat_partStart hps hend
  have hpend := toNat_partEnd hps hend
  have hmeet := part_meets_range hps hp₁ hp₂
  have hlo : (max (p * ps) first).toNat = max (p.toNat * ps.toNat) first.toNat := by
    rw [UInt64.toNat_max, hstart]
  have hhi : (min (p * ps + ps - 1) last).toNat =
      min (p.toNat * ps.toNat + ps.toNat - 1) last.toNat := by
    rw [UInt64.toNat_min, hpend]
  -- neither the skip nor the take goes below zero, and the take stays below a word
  have hskip : p * ps ≤ max (p * ps) first := by
    rw [UInt64.le_iff_toNat_le, hlo, hstart]
    omega
  have htake : max (p * ps) first ≤ min (p * ps + ps - 1) last := by
    rw [UInt64.le_iff_toNat_le, hlo, hhi]
    omega
  have hword := UInt64.toNat_lt ps
  simp only [partWindow, window, Prod.map]
  rw [UInt64.toNat_add, UInt64.toNat_sub_of_le _ _ htake, UInt64.toNat_sub_of_le _ _ hskip, hlo, hhi,
    hstart]
  simp only [UInt64.reduceToNat]
  rw [Nat.mod_eq_of_lt (by omega)]

/-- A move to a window's start that skips nothing is no move at all. -/
theorem skip_if_zero (part : PartData) (skip : UInt64) :
    (if skip = 0 then .ok part else part.skip skip) = part.skip skip := by
  split_ifs with h
  · subst h
    rcases part <;> simp [PartData.skip]
  · rfl

/-- Within the word limits the reader is the read in unbounded arithmetic: each turn finds the
count by the range's last part, asks for the same part, moves to the same window's start, which
lies below `2 ^ 63`, and takes the same bytes. -/
theorem readParts_eq_readWindows {m : Type → Type} [Monad m]
    (serve : PartIndex → m (Except CacheError PartData)) (id : ObjectId)
    (hps : 0 < ps.toNat) (hbig : ps.toNat ≤ 2 ^ 63) (hfl : first.toNat ≤ last.toNat)
    (hend : (last.toNat / ps.toNat + 1) * ps.toNat ≤ 2 ^ 64)
    (hnext : last.toNat / ps.toNat + 1 < 2 ^ 64) :
    ∀ (count turns : Nat) (p : UInt64) (acc : Bytes), first.toNat / ps.toNat ≤ p.toNat →
      p.toNat + count = last.toNat / ps.toNat + 1 → count < turns →
      readParts serve id ps first last (last / ps) turns p acc =
        readWindows serve id ps.toNat first.toNat last.toNat count p.toNat acc := by
  intro count
  induction count with
  | zero =>
    intro turns p acc _ hp ht
    obtain ⟨turns, rfl⟩ : ∃ k, turns = k + 1 := Nat.exists_eq_add_one.mpr ht
    -- the count has passed the range's last part
    have hpast : last / ps < p := by
      rw [UInt64.lt_iff_toNat_lt, UInt64.toNat_div]
      omega
    simp only [readParts, readWindows, if_pos hpast]
  | succ count ih =>
    intro turns p acc hp₁ hp ht
    obtain ⟨turns, rfl⟩ : ∃ k, turns = k + 1 := Nat.exists_eq_add_one.mpr (by omega)
    have hin : ¬last / ps < p := by
      rw [UInt64.lt_iff_toNat_lt, UInt64.toNat_div]
      omega
    have hp₂ : p.toNat ≤ last.toNat / ps.toNat := by omega
    have hpend : (p.toNat + 1) * ps.toNat ≤ 2 ^ 64 :=
      le_trans (Nat.mul_le_mul_right _ (by omega)) hend
    have hsucc : (p + 1).toNat = p.toNat + 1 := by
      rw [UInt64.toNat_add]
      simp only [UInt64.reduceToNat]
      omega
    have hrest := fun acc' => ih turns (p + 1) acc' (by omega) (by omega) (by omega)
    rw [hsucc] at hrest
    have hfit := window_fits hps hfl hp₁ hp₂
    have hpos : 0 < (window ps.toNat p.toNat first.toNat last.toNat).2 := window_len_pos _
    have hw := partWindow_toNat hps hfl hp₁ hp₂ hpend
    rcases hpw : partWindow ps p first last with ⟨skip, len⟩
    have hw' : window ps.toNat p.toNat first.toNat last.toNat = (skip.toNat, len.toNat) := by
      rw [← hw, hpw]
      rfl
    rw [hw'] at hfit hpos
    dsimp only at hfit hpos
    have hlt : skip.toNat < UInt64.size / 2 := by
      simp only [UInt64.size]
      omega
    have hlen : len ≠ 0 := fun h => by simp [h] at hpos
    have htrunc : p.toUInt32 = p.toNat.toUInt32 := UInt32.toFin_inj.mp rfl
    simp only [readParts, if_neg hin, hpw, readWindows, hw', htrunc, skip_if_zero]
    refine congrArg (serve _ >>= ·) (funext fun r => ?_)
    rcases r with e | (data | e | data)
    · rfl
    · simp only [PartData.skip, if_pos hlt]
      split_ifs
      · rfl
      · exact hrest _
    · simp only [PartData.skip, if_pos hlt, if_neg hlen]
    · simp only [PartData.skip]
      split_ifs
      · rfl
      · exact hrest _

end Words

/-! ## Reading -/

section Reading

variable {m : Type → Type} [Monad m] [LawfulMonad m]
  {serve : PartIndex → m (Except CacheError PartData)} {ans : PartIndex → Except CacheError PartData}
  {id : ObjectId} {ps first last : Nat}

/-- The bytes a part holds fill a window exactly when they reach its end. -/
theorem window_short_iff {data : Bytes} {skip len : Nat} (hlen : 0 < len) :
    ((data.drop skip).take len).length < len ↔ ¬skip + len ≤ data.length := by
  rw [List.length_take, List.length_drop]
  omega

/-- A part's bytes given to a read: its window when they reach the window's end, and all its
bytes from the window's start otherwise. -/
theorem partGives_data (p : Nat) (data : Bytes) (r : Except CacheError PartData)
    (hr : r = .ok (.stored data) ∨ r = .ok (.downloaded data)) :
    partGives id ps first last p r =
      let got := (data.drop (window ps p first last).1).take (window ps p first last).2
      (got, if got.length < (window ps p first last).2 then
        some ⟨.unexpectedEof, "part " ++ Decimal.text p ++ " of " ++ id.display ++ " ended " ++
          Decimal.text ((window ps p first last).2 - got.length) ++ " bytes early"⟩
        else none) := by
  have hlen : 0 < (window ps p first last).2 := window_len_pos p
  rcases hw : window ps p first last with ⟨skip, len⟩
  rw [hw] at hlen
  dsimp only at hlen ⊢
  have hpart : partGives id ps first last p r = if skip + len ≤ data.length then
      ((data.drop skip).take len, none) else (data.drop skip, some ⟨.unexpectedEof, "part " ++
        Decimal.text p ++ " of " ++ id.display ++ " ended " ++
        Decimal.text (len - (data.length - skip)) ++ " bytes early"⟩) := by
    rcases hr with rfl | rfl <;> simp only [partGives, hw]
  rw [hpart]
  by_cases hfit : skip + len ≤ data.length
  · rw [if_pos hfit, if_neg ((window_short_iff hlen).not.mpr (not_not.mpr hfit))]
  · -- a short part gives all its bytes from the window's start
    have hshort : (data.drop skip).length ≤ len := by
      rw [List.length_drop]
      omega
    rw [if_neg hfit, if_pos ((window_short_iff hlen).mpr hfit), List.take_of_length_le hshort,
      List.length_drop]

omit [LawfulMonad m] in
/-- One turn of the read serves part `p`, and then goes on with the next part after what `p`
gives, or stops with it. -/
theorem readWindows_succ (count p : Nat) (acc : Bytes) :
    readWindows serve id ps first last (count + 1) p acc = (serve ⟨id, p.toUInt32⟩ >>= fun r =>
      match partGives id ps first last p r with
      | (got, none) => readWindows serve id ps first last count (p + 1) (acc ++ got)
      | (got, some e) => pure (acc ++ got, some e)) := by
  simp only [readWindows]
  refine congrArg (serve _ >>= ·) (funext fun r => ?_)
  rcases r with e | (data | e | data)
  · simp [partGives]
  · rw [partGives_data p data _ (.inl rfl)]
    dsimp only
    split_ifs <;> rfl
  · simp [partGives]
  · rw [partGives_data p data _ (.inr rfl)]
    dsimp only
    split_ifs <;> rfl

/-- With a fixed answer for part `p`, what the turn does after serving `p` is fixed too. -/
theorem readWindows_succ_of_fixed {p : Nat}
    (h : SatisfiesM (· = ans ⟨id, p.toUInt32⟩) (serve ⟨id, p.toUInt32⟩)) (count : Nat)
    (acc : Bytes) :
    readWindows serve id ps first last (count + 1) p acc = (serve ⟨id, p.toUInt32⟩ >>= fun _ =>
      match partGives id ps first last p (ans ⟨id, p.toUInt32⟩) with
      | (got, none) => readWindows serve id ps first last count (p + 1) (acc ++ got)
      | (got, some e) => pure (acc ++ got, some e)) := by
  obtain ⟨x, hx⟩ := h
  rw [readWindows_succ, ← hx]
  simp only [bind_map_left]
  refine congrArg (x >>= ·) (funext fun ⟨r, hr⟩ => ?_)
  dsimp only at hr ⊢
  rw [hr]

/-- Whatever the server answers, a read adds to the bytes it has no more than the windows of
the parts it may serve. -/
theorem readWindows_length_le (serve : PartIndex → m (Except CacheError PartData)) :
    ∀ (count p : Nat) (acc : Bytes),
      SatisfiesM (fun r : Bytes × Option IoError => r.1.length ≤ acc.length +
          ((List.range' p count).map fun q => (window ps q first last).2).sum)
        (readWindows serve id ps first last count p acc) := by
  intro count
  induction count with
  | zero =>
    intro p acc
    exact SatisfiesM.pure (by simp)
  | succ count ih =>
    intro p acc
    rw [readWindows_succ]
    refine SatisfiesM.bind (p := fun _ => True) SatisfiesM.trivial fun r _ => ?_
    have hle : (partGives id ps first last p r).1.length ≤ (window ps p first last).2 :=
      length_partGives_le id p r
    rcases hg : partGives id ps first last p r with ⟨got, _ | e⟩
    all_goals
      rw [hg] at hle
      dsimp only at hle
      simp only [List.range'_succ, List.map_cons, List.sum_cons]
    · -- the read goes on after the part's window
      refine (ih (p + 1) (acc ++ got)).imp fun {r} h => ?_
      rw [List.length_append] at h
      omega
    · refine SatisfiesM.pure ?_
      rw [List.length_append]
      omega

/-- When every part from `p` on delivers its whole window, the read serves them all, in
increasing order and each once, and gives their windows one after another. -/
theorem readWindows_delivered (hserve : ∀ i, SatisfiesM (· = ans i) (serve i)) :
    ∀ (count p : Nat) (acc : Bytes),
      (∀ q ∈ List.range' p count, (partGives id ps first last q (ans ⟨id, q.toUInt32⟩)).2 = none) →
      readWindows serve id ps first last count p acc = (do
        (List.range' p count).forM fun q => do
          let _ ← serve ⟨id, q.toUInt32⟩
          pure ()
        pure (acc ++ ((List.range' p count).map fun q =>
          (partGives id ps first last q (ans ⟨id, q.toUInt32⟩)).1).flatten, none)) := by
  intro count
  induction count with
  | zero =>
    intro p acc _
    simp [readWindows]
  | succ count ih =>
    intro p acc hall
    obtain ⟨got, hgot⟩ : ∃ got, partGives id ps first last p (ans ⟨id, p.toUInt32⟩) = (got, none) :=
      ⟨_, Prod.ext rfl (hall p (List.mem_range'_1.mpr ⟨le_rfl, by omega⟩))⟩
    have hrest : ∀ q ∈ List.range' (p + 1) count,
        (partGives id ps first last q (ans ⟨id, q.toUInt32⟩)).2 = none := fun q hq =>
      hall q (List.mem_range'_1.mpr (by have := List.mem_range'_1.mp hq; omega))
    rw [readWindows_succ_of_fixed (hserve _), hgot]
    dsimp only
    rw [ih (p + 1) (acc ++ got) hrest]
    simp [List.range'_succ, hgot]

/-- At the first part from `p` on that fails to deliver its whole window, the read stops: it
serves the parts up to that one, in increasing order and each once, and gives the windows of
the parts before it, then what that part has of its window, with its failure. -/
theorem readWindows_first_failure (hserve : ∀ i, SatisfiesM (· = ans i) (serve i)) :
    ∀ (pre : List Nat) (count p : Nat) (acc : Bytes) (q : Nat) (post : List Nat) (err : IoError),
      List.range' p count = pre ++ q :: post →
      (∀ r ∈ pre, (partGives id ps first last r (ans ⟨id, r.toUInt32⟩)).2 = none) →
      (partGives id ps first last q (ans ⟨id, q.toUInt32⟩)).2 = some err →
      readWindows serve id ps first last count p acc = (do
        (pre ++ [q]).forM fun r => do
          let _ ← serve ⟨id, r.toUInt32⟩
          pure ()
        pure (acc ++ (pre.map fun r => (partGives id ps first last r (ans ⟨id, r.toUInt32⟩)).1).flatten ++
          (partGives id ps first last q (ans ⟨id, q.toUInt32⟩)).1, some err)) := by
  intro pre
  induction pre with
  | nil =>
    intro count p acc q post err hsplit _ hq
    -- the failing part is the first of the range
    obtain ⟨rfl, hcount, -⟩ := List.range'_eq_cons_iff.mp hsplit
    obtain ⟨count, rfl⟩ := Nat.exists_eq_add_one.mpr hcount
    obtain ⟨got, hgot⟩ : ∃ got, partGives id ps first last p (ans ⟨id, p.toUInt32⟩) = (got, some err) :=
      ⟨_, Prod.ext rfl hq⟩
    rw [readWindows_succ_of_fixed (hserve _), hgot]
    simp
  | cons r pre ih =>
    intro count p acc q post err hsplit hpre hq
    obtain ⟨rfl, hcount, hsplit⟩ := List.range'_eq_cons_iff.mp hsplit
    obtain ⟨count, rfl⟩ := Nat.exists_eq_add_one.mpr hcount
    obtain ⟨got, hgot⟩ : ∃ got, partGives id ps first last p (ans ⟨id, p.toUInt32⟩) = (got, none) :=
      ⟨_, Prod.ext rfl (hpre p List.mem_cons_self)⟩
    rw [readWindows_succ_of_fixed (hserve _), hgot]
    dsimp only
    rw [ih count (p + 1) (acc ++ got) q post err hsplit.symm
      (fun r hr => hpre r (List.mem_cons_of_mem _ hr)) hq]
    simp [hgot]

end Reading

/-! ## Reading a range -/

section Range

variable {m : Type → Type} [Monad m] [LawfulMonad m]
  {serve : PartIndex → m (Except CacheError PartData)} {ans : PartIndex → Except CacheError PartData}
  {id : ObjectId} {ps first last : UInt64}

omit [LawfulMonad m] in
/-- A read of a range within the word limits, as `readRange` starts it, is the read in unbounded
arithmetic of the range's parts. -/
theorem readParts_range (serve : PartIndex → m (Except CacheError PartData)) (id : ObjectId)
    (hps : 0 < ps.toNat) (hbig : ps.toNat ≤ 2 ^ 63) (hfl : first ≤ last)
    (hend : (last.toNat / ps.toNat + 1) * ps.toNat ≤ 2 ^ 64)
    (hnext : last.toNat / ps.toNat + 1 < 2 ^ 64) :
    readParts serve id ps first last (last / ps) (readTurns ps first last) (first / ps) [] =
      readWindows serve id ps.toNat first.toNat last.toNat
        (last.toNat / ps.toNat + 1 - first.toNat / ps.toNat) (first.toNat / ps.toNat) [] := by
  have hfl' := UInt64.le_iff_toNat_le.mp hfl
  have hdiv' : first.toNat / ps.toNat ≤ last.toNat / ps.toNat := Nat.div_le_div_right hfl'
  have hdiv : first / ps ≤ last / ps := by
    rw [UInt64.le_iff_toNat_le, UInt64.toNat_div, UInt64.toNat_div]
    exact hdiv'
  have hread := readParts_eq_readWindows serve id hps hbig hfl' hend hnext
    (last.toNat / ps.toNat + 1 - first.toNat / ps.toNat) (readTurns ps first last) (first / ps) []
  rw [UInt64.toNat_div] at hread
  refine hread le_rfl (by omega) ?_
  -- the read is cut one part after the range's last
  rw [readTurns, UInt64.toNat_sub_of_le _ _ hdiv, UInt64.toNat_div, UInt64.toNat_div]
  omega

/-- The windows the reader computes for the parts of a range within the word limits add up to
the range. -/
theorem sum_partWindows (hps : 0 < ps.toNat) (hfl : first ≤ last)
    (hend : (last.toNat / ps.toNat + 1) * ps.toNat ≤ 2 ^ 64) :
    ((rangeParts ps.toNat first.toNat last.toNat).map fun p =>
      (partWindow ps p.toUInt64 first last).2.toNat).sum = last.toNat - first.toNat + 1 := by
  have hfl' := UInt64.le_iff_toNat_le.mp hfl
  rw [← sum_windows hps hfl']
  congr 1
  refine List.map_congr_left fun p hp => ?_
  obtain ⟨hp₁, hp₂⟩ := List.mem_range'_1.mp hp
  have hdiv : first.toNat / ps.toNat ≤ last.toNat / ps.toNat := Nat.div_le_div_right hfl'
  have hword : p.toUInt64.toNat = p := by
    have := Nat.div_le_self last.toNat ps.toNat
    have := UInt64.toNat_lt last
    rw [Nat.toUInt64_eq, UInt64.toNat_ofNat', Nat.mod_eq_of_lt (by omega)]
  have hpend : (p.toUInt64.toNat + 1) * ps.toNat ≤ 2 ^ 64 :=
    le_trans (Nat.mul_le_mul_right _ (by omega)) hend
  have hw := partWindow_toNat hps hfl' (by omega) (by omega) hpend
  rw [hword] at hw
  exact congrArg Prod.snd hw

/-- A read of the bytes from `first` to `last` from a server whose answer for each part is
fixed, as `readRange` starts it with a part size up to `2 ^ 63`, for a range whose last part ends
within 64 bits and is not part `2 ^ 64 - 1`: while every part of the range delivers its whole
window, the read serves them all, in increasing order and each once, under their numbers cut to
32 bits, and gives their windows in order; at the first part that does not, it serves the parts
up to that one and no further, and gives the windows before it, then what that part has of its
window, with its failure.  The windows the reader computes add up to the range's length, and
whatever the server answers, a read gives no more bytes than that. -/
theorem reads_range_in_order (hserve : ∀ i, SatisfiesM (· = ans i) (serve i))
    (hps : 0 < ps.toNat) (hbig : ps.toNat ≤ 2 ^ 63) (hfl : first ≤ last)
    (hend : (last.toNat / ps.toNat + 1) * ps.toNat ≤ 2 ^ 64)
    (hnext : last.toNat / ps.toNat + 1 < 2 ^ 64) :
    ((∀ p ∈ rangeParts ps.toNat first.toNat last.toNat,
        (partGives id ps.toNat first.toNat last.toNat p (ans ⟨id, p.toUInt32⟩)).2 = none) →
      readParts serve id ps first last (last / ps) (readTurns ps first last) (first / ps) [] = (do
        (rangeParts ps.toNat first.toNat last.toNat).forM fun p => do
          let _ ← serve ⟨id, p.toUInt32⟩
          pure ()
        pure (((rangeParts ps.toNat first.toNat last.toNat).map fun p =>
          (partGives id ps.toNat first.toNat last.toNat p (ans ⟨id, p.toUInt32⟩)).1).flatten,
          none))) ∧
    (∀ pre p post err, rangeParts ps.toNat first.toNat last.toNat = pre ++ p :: post →
      (∀ q ∈ pre, (partGives id ps.toNat first.toNat last.toNat q (ans ⟨id, q.toUInt32⟩)).2 =
        none) →
      (partGives id ps.toNat first.toNat last.toNat p (ans ⟨id, p.toUInt32⟩)).2 = some err →
      readParts serve id ps first last (last / ps) (readTurns ps first last) (first / ps) [] = (do
        (pre ++ [p]).forM fun q => do
          let _ ← serve ⟨id, q.toUInt32⟩
          pure ()
        pure ((pre.map fun q =>
            (partGives id ps.toNat first.toNat last.toNat q (ans ⟨id, q.toUInt32⟩)).1).flatten ++
          (partGives id ps.toNat first.toNat last.toNat p (ans ⟨id, p.toUInt32⟩)).1, some err))) ∧
    ((rangeParts ps.toNat first.toNat last.toNat).map fun p =>
      (partWindow ps p.toUInt64 first last).2.toNat).sum = last.toNat - first.toNat + 1 ∧
    ∀ serve' : PartIndex → m (Except CacheError PartData),
      SatisfiesM (fun r : Bytes × Option IoError => r.1.length ≤ last.toNat - first.toNat + 1)
        (readParts serve' id ps first last (last / ps) (readTurns ps first last) (first / ps)
          []) := by
  have hfl' := UInt64.le_iff_toNat_le.mp hfl
  refine ⟨fun hall => ?_, fun pre p post err hsplit hpre hp => ?_, sum_partWindows hps hfl hend,
    fun serve' => ?_⟩
  · rw [readParts_range serve id hps hbig hfl hend hnext, readWindows_delivered hserve _ _ [] hall]
    simp [rangeParts]
  · rw [readParts_range serve id hps hbig hfl hend hnext,
      readWindows_first_failure hserve pre _ _ [] p post err hsplit hpre hp]
    simp
  · rw [readParts_range serve' id hps hbig hfl hend hnext]
    refine (readWindows_length_le serve' _ _ []).imp fun {r} h => ?_
    rw [← rangeParts, sum_windows hps hfl'] at h
    simpa using h

end Range

/-! ## Past the word limits -/

/-- A server that logs the parts it is asked for and answers each with one byte. -/
def logServe (i : PartIndex) : StateM (List PartIndex) (Except CacheError PartData) := do
  modify (· ++ [i])
  pure (.ok (.stored [1]))

/-- A server that holds three bytes of every part. -/
def threeBytes (_ : PartIndex) : Id (Except CacheError PartData) :=
  pure (.ok (.stored [7, 8, 9]))

/-- Bytes 1 to 4 of an object cut every three bytes, from a server that holds three bytes of
every part: both parts of the range deliver their windows, and the read gives them in order. -/
theorem reads_two_windows :
    (∀ i, SatisfiesM (· = (.ok (.stored [7, 8, 9]) : Except CacheError PartData)) (threeBytes i)) ∧
    0 < (3 : UInt64).toNat ∧ (3 : UInt64).toNat ≤ 2 ^ 63 ∧ (1 : UInt64) ≤ 4 ∧
    ((4 : UInt64).toNat / (3 : UInt64).toNat + 1) * (3 : UInt64).toNat ≤ 2 ^ 64 ∧
    (4 : UInt64).toNat / (3 : UInt64).toNat + 1 < 2 ^ 64 ∧
    readParts threeBytes ⟨"z", "/a"⟩ 3 1 4 (4 / 3) (readTurns 3 1 4) (1 / 3) [] =
      ([8, 9, 7, 8], none) := by
  have hserve : ∀ i, SatisfiesM (· = (.ok (.stored [7, 8, 9]) : Except CacheError PartData))
      (threeBytes i) := fun _ => SatisfiesM.pure rfl
  refine ⟨hserve, by decide, by decide, by decide, by decide, by decide,
    ((reads_range_in_order hserve (by decide) (by decide) (by decide) (by decide)
      (by decide)).1 ?_).trans ?_⟩
  · decide
  · rfl

/-- Past the word limits the reader leaves its range.  Part numbers are cut to 32 bits, so the
two bytes from `2 ^ 32 - 1` of an object cut every byte are asked for as parts `2 ^ 32 - 1` and
0.  The last byte of a 64-bit object cut every three bytes lies in a part whose end wraps to 1,
and the read takes three bytes for it.  A read to byte `2 ^ 64 - 1` of an object cut every byte
counts on past the last part number to part 0. -/
theorem reader_wraps_past_word_limits :
    ((readParts logServe ⟨"z", "/a"⟩ 1 4294967295 4294967296 (4294967296 / 1)
        (readTurns 1 4294967295 4294967296) (4294967295 / 1) []).run []).2 =
      [⟨⟨"z", "/a"⟩, 4294967295⟩, ⟨⟨"z", "/a"⟩, 0⟩] ∧
    readParts threeBytes ⟨"z", "/a"⟩ 3 18446744073709551615 18446744073709551615
        (18446744073709551615 / 3) (readTurns 3 18446744073709551615 18446744073709551615)
        (18446744073709551615 / 3) [] = ([7, 8, 9], none) ∧
    ((readParts logServe ⟨"z", "/a"⟩ 1 18446744073709551614 18446744073709551615
        (18446744073709551615 / 1) (readTurns 1 18446744073709551614 18446744073709551615)
        (18446744073709551614 / 1) []).run []).2 =
      [⟨⟨"z", "/a"⟩, 4294967294⟩, ⟨⟨"z", "/a"⟩, 4294967295⟩, ⟨⟨"z", "/a"⟩, 0⟩] :=
  ⟨rfl, rfl, rfl⟩

end PartCache.Zone
