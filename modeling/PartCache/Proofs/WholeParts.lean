import PartCache.Zone.Writer
import PartCache.Proofs.ObjectFiles
import Mathlib

/-!
# A body stored as its whole parts

A writer stores a response body covering bytes `start` to `start + length` of an object of `n`
bytes, cut every `ps` bytes.  Whatever the chunks the body comes in, it stores exactly the parts
that lie whole in the bytes it received (`wholeParts`), each once, in increasing order, each with
its own bytes, and then nothing else (`session_keeps_whole_parts`): the bytes before the range's
first boundary and a trailing fragment that neither fills a part nor ends the object are dropped.

The statement holds of any sink (`PartSink`) whose policy keeps every part and whose storage
saves a part or finds it saved already: over any lawful monad, the session is then the same
program as keeping the whole parts one after another, so the chunking shows only in the answers
to the writes.

The proof follows the writer through its buffer (`PartWriter.Follows`): the buffer holds the
bytes of the body since the last boundary and stops short of the part's end, and an empty buffer
waits on a boundary, at the object's end, or before the range's first boundary.  Each turn of
the writer's loop keeps this, and the whole parts so far grow by the part a flush stores and by
nothing else (`wholeParts_snoc`, `wholeParts_of_within`).
-/

set_option autoImplicit false

namespace PartCache

/-! ## The whole parts of a range -/

/-- The parts of an object of `n` bytes, cut every `ps` bytes, that lie whole between byte `a`
and byte `b`, in increasing order: they start at `a` or after, and end, at the next boundary or
at the object's end, by `b`. -/
def wholeParts (ps n a b : Nat) : List Nat :=
  (List.range n).filter fun p => a ≤ p * ps ∧ p * ps < n ∧ min ((p + 1) * ps) n ≤ b

section WholeParts

variable {ps n a : Nat}

/-- Parts after part `q` end after it. -/
theorem end_lt_of_lt (hps : 0 < ps) {p q : Nat} (hpq : q < p) (hp : p * ps < n) :
    min ((q + 1) * ps) n < min ((p + 1) * ps) n := by
  have hle : (q + 1) * ps ≤ p * ps := Nat.mul_le_mul_right ps hpq
  simp only [Nat.add_one_mul] at hle ⊢
  omega

/-- Before any boundary from `a` on, no part from `a` on has ended. -/
theorem wholeParts_eq_nil (hps : 0 < ps) {b : Nat} (h : ∀ p, a ≤ p * ps → b ≤ p * ps) :
    wholeParts ps n a b = [] := by
  refine List.filter_eq_nil_iff.mpr fun p _ hp => ?_
  simp only [decide_eq_true_eq] at hp
  obtain ⟨ha, hn, hb⟩ := hp
  have := h p ha
  rw [Nat.add_one_mul] at hb
  omega

/-- Between two bytes of part `q` before its end no part ends. -/
theorem wholeParts_of_within (hps : 0 < ps) {q x y : Nat} (hq : q * ps ≤ x) (hxy : x ≤ y)
    (hy : y < min ((q + 1) * ps) n) : wholeParts ps n a y = wholeParts ps n a x := by
  refine List.filter_congr fun p _ => decide_eq_decide.mpr ?_
  rcases Nat.lt_trichotomy p q with hpq | rfl | hpq
  · -- an earlier part ends by the start of part `q`
    have hle : (p + 1) * ps ≤ q * ps := Nat.mul_le_mul_right ps hpq
    rw [Nat.add_one_mul] at hle
    rw [Nat.add_one_mul]
    omega
  · omega
  · -- a later part ends after part `q`
    constructor
    · rintro ⟨-, hp, hend⟩
      have := end_lt_of_lt hps hpq hp
      omega
    · rintro ⟨-, hp, hend⟩
      have := end_lt_of_lt hps hpq hp
      omega

/-- Reaching the end of part `q`, a part from `a` on, from a byte of it adds `q` to the whole
parts. -/
theorem wholeParts_snoc (hps : 0 < ps) {q x : Nat} (ha : a ≤ q * ps) (hq : q * ps < n)
    (hx : q * ps ≤ x) (hxe : x < min ((q + 1) * ps) n) :
    wholeParts ps n a (min ((q + 1) * ps) n) = wholeParts ps n a x ++ [q] := by
  have hqn : q < n := Nat.lt_of_le_of_lt (Nat.le_mul_of_pos_right q hps) hq
  have hrange : List.range n = List.range q ++ [q] ++ (List.range (n - (q + 1))).map (q + 1 + ·) := by
    rw [← List.range_succ, ← List.range_add]
    congr 1
    omega
  -- the parts before `q` have ended by `x`, and the parts after `q` end after it
  have hbefore : ∀ b, x ≤ b → ((List.range q).filter fun p =>
      a ≤ p * ps ∧ p * ps < n ∧ min ((p + 1) * ps) n ≤ b) = (List.range q).filter fun p =>
      a ≤ p * ps ∧ p * ps < n := by
    intro b hb
    refine List.filter_congr fun p hp => decide_eq_decide.mpr ?_
    have hle : (p + 1) * ps ≤ q * ps := Nat.mul_le_mul_right ps (List.mem_range.mp hp)
    omega
  have hafter : ∀ b, b ≤ min ((q + 1) * ps) n → (((List.range (n - (q + 1))).map (q + 1 + ·)).filter
      fun p => a ≤ p * ps ∧ p * ps < n ∧ min ((p + 1) * ps) n ≤ b) = [] := by
    intro b hb
    refine List.filter_eq_nil_iff.mpr fun p hp hpb => ?_
    obtain ⟨k, -, rfl⟩ := List.mem_map.mp hp
    simp only [decide_eq_true_eq] at hpb
    have := end_lt_of_lt hps (by omega : q < q + 1 + k) hpb.2.1
    omega
  unfold wholeParts
  rw [hrange, List.filter_append, List.filter_append, List.filter_append, List.filter_append,
    hbefore _ hxe.le, hbefore _ (Nat.le_refl _), hafter _ (Nat.le_refl _), hafter _ hxe.le]
  have hx₁ : ¬(q + 1) * ps ≤ x := by omega
  have hx₂ : ¬n ≤ x := by omega
  simp [ha, hq, hx₁, hx₂]

/-- A byte past a multiple of the part size that stays below a boundary is followed by the
next boundary by that boundary too. -/
theorem next_boundary_le {x p : Nat} (h : x < p * ps) :
    x - x % ps + ps ≤ p * ps := by
  have hdiv := Nat.div_add_mod' x ps
  have hlt : x / ps < p := by
    by_contra hle
    have := Nat.mul_le_mul_right ps (Nat.not_lt.mp hle)
    omega
  have := Nat.mul_le_mul_right ps hlt
  rw [Nat.succ_mul] at this
  omega

end WholeParts

namespace PartWriter

section Sink

variable {m : Type → Type} [Monad m] (sink : PartSink m)

/-- Keeps the listed parts of body `B` of object `id`, one after another, each with its own
bytes; part `p` goes by its 32-bit part number. -/
def keepParts (ps : Nat) (B : Bytes) (id : ObjectId) : List Nat → m Unit
  | [] => pure ()
  | p :: rest => do
    let _ ← keepPart sink ⟨id, p.toUInt32⟩ (partSlice ps B p)
    keepParts ps B id rest

end Sink

end PartWriter

/-- A sink whose policy keeps every part and whose storage saves every part or finds it saved
already. -/
structure PartSink.Accepts {m : Type → Type} [Monad m] (sink : PartSink m) : Prop where
  keeps : ∀ i, sink.shouldKeep i = pure true
  saves : ∀ i d, SatisfiesM (fun r => r = none ∨ r = some .alreadyExists) (sink.savePart i d)

namespace PartSink.Accepts

variable {m : Type → Type} [Monad m] [LawfulMonad m] {sink : PartSink m}

open PartWriter

/-- A sink that accepts every part answers no failure to keeping one. -/
theorem keepPart_bind (hs : sink.Accepts) (i : PartIndex) (data : Bytes) {β : Type}
    (f : Option CacheError → m β) :
    (keepPart sink i data >>= f) = (keepPart sink i data >>= fun _ => f none) := by
  obtain ⟨x, hx⟩ := hs.saves i data
  unfold keepPart
  simp only [hs.keeps i, pure_bind, Bool.not_true, Bool.false_eq_true, if_false, ← hx,
    bind_map_left, bind_assoc]
  congr 1
  funext ⟨r, hr⟩
  -- either way the part is tracked, by adding or promoting it, and no failure is answered
  rcases hr with rfl | rfl <;>
  · simp only [bind_assoc]
    refine congrArg (sink.add i >>= ·) (funext fun e => ?_)
    split_ifs <;> simp only [bind_assoc, pure_bind]

/-- Flushing for a sink that accepts every part keeps the part the buffer starts in and empties
the buffer, answering no failure. -/
theorem flush_bind (hs : sink.Accepts) (w : PartWriter) (ps : Nat) {β : Type}
    (f : PartWriter × Option CacheError → m β) :
    (flush sink w ps >>= f) =
      (keepPart sink ⟨w.object, ((w.pos - w.buffer.length) / ps).toUInt32⟩ w.buffer >>= fun _ =>
        f ({ w with buffer := [] }, none)) := by
  unfold flush
  simp only [bind_assoc, pure_bind]
  exact hs.keepPart_bind _ _ _

end PartSink.Accepts

namespace PartWriter

section Lawful

variable {m : Type → Type} [Monad m] [LawfulMonad m] {sink : PartSink m}

theorem keepParts_append (ps : Nat) (B : Bytes) (id : ObjectId) (l₁ l₂ : List Nat) :
    keepParts sink ps B id (l₁ ++ l₂) =
      (do keepParts sink ps B id l₁; keepParts sink ps B id l₂) := by
  induction l₁ with
  | nil => simp [keepParts]
  | cons p l₁ ih => simp [keepParts, ih]

/-- Programs that agree after a common prefix of effects agree with the same continuation. -/
theorem bind_seq_of_eq {α β γ δ : Type} {a : m α} {b : m β} {x y : m γ}
    (h : (a >>= fun _ => x) = (b >>= fun _ => y)) (g : γ → m δ) :
    (a >>= fun _ => x >>= g) = (b >>= fun _ => y >>= g) := by
  have := congrArg (· >>= g) h
  simpa only [bind_assoc] using this

theorem keepParts_concat (ps : Nat) (B : Bytes) (id : ObjectId) (l : List Nat) (q : Nat)
    {β : Type} (x : m β) :
    (do keepParts sink ps B id l; let _ ← keepPart sink ⟨id, q.toUInt32⟩ (partSlice ps B q); x) =
      (do keepParts sink ps B id (l ++ [q]); x) := by
  simp [keepParts_append, keepParts]

end Lawful

/-! ## Following the body -/

/-- A writer part way through body `B` of object `id`, cut every `ps` bytes: it has taken the
body up to `pos`, from `start` on and within the declared range; its buffer holds the body's
bytes since a boundary from `start` on, short of the end of their part; and an empty buffer
waits on a boundary, at the object's end, or at or before the range's first boundary. -/
structure Follows (ps : Nat) (B : Bytes) (id : ObjectId) (w : PartWriter) : Prop where
  object : w.object = id
  objectSize : w.objectSize = B.length
  range_le : w.start + w.length ≤ B.length
  start_le : w.start ≤ w.pos
  pos_le : w.pos ≤ w.start + w.length
  buffer_le : w.buffer.length ≤ w.pos - w.start
  buffer : w.buffer = (B.drop (w.pos - w.buffer.length)).take w.buffer.length
  short : w.buffer ≠ [] →
    (w.pos - w.buffer.length) % ps = 0 ∧ w.buffer.length < ps ∧ w.pos < B.length
  waiting : w.buffer = [] →
    w.pos % ps = 0 ∨ w.pos = B.length ∨ ∀ p, w.start ≤ p * ps → w.pos ≤ p * ps

variable {ps : Nat} {B : Bytes} {id : ObjectId} {w : PartWriter}

/-- A new writer for a range of the body follows it. -/
theorem follows_new (c : ContentRange) (hn : c.objectSize.toNat = B.length)
    (hc : c.start.toNat + c.length.toNat ≤ B.length) : Follows ps B id (new id c) :=
  ⟨rfl, hn, hc, le_rfl, Nat.le_add_right _ _, Nat.zero_le _, rfl, fun h => absurd rfl h,
    fun _ => .inr (.inr fun _ h => h)⟩

/-- A writer that empties its buffer at a byte of the range where an empty buffer may wait
follows the body. -/
theorem Follows.jump (hw : Follows ps B id w) {x : Nat} (hs : w.start ≤ x)
    (hx : x ≤ w.start + w.length)
    (hwait : x % ps = 0 ∨ x = B.length ∨ ∀ p, w.start ≤ p * ps → x ≤ p * ps) :
    Follows ps B id { w with buffer := [], pos := x } :=
  ⟨hw.object, hw.objectSize, hw.range_le, hs, hx, Nat.zero_le _, rfl, fun h => absurd rfl h,
    fun _ => hwait⟩

/-- Skipping towards the next boundary with an empty buffer keeps the writer following the body,
and no part from the range's start ends on the way. -/
theorem Follows.skip (hps : 0 < ps) (hw : Follows ps B id w) (hb : w.buffer = [])
    (hmis : w.pos % ps ≠ 0) {k : Nat} (hk : w.pos + k ≤ w.start + w.length) :
    Follows ps B id { w with pos := w.pos + min (ps - w.pos % ps) k } ∧
      wholeParts ps B.length w.start (w.pos + min (ps - w.pos % ps) k) =
        wholeParts ps B.length w.start w.pos := by
  have hempty : { w with pos := w.pos + min (ps - w.pos % ps) k } =
      { w with buffer := [], pos := w.pos + min (ps - w.pos % ps) k } := by
    rw [← hb]
  rw [hempty]
  rcases hw.waiting hb with hal | hend | hbefore
  · exact absurd hal hmis
  · -- at the object's end there is nothing left to skip
    have hk0 : k = 0 := by
      have := hw.range_le
      omega
    subst hk0
    simp only [Nat.min_zero, Nat.add_zero, and_true]
    exact hw.jump hw.start_le hw.pos_le (.inr (.inl hend))
  · -- before the range's first boundary the skip stops at the next boundary at the latest
    have hnext : ∀ p, w.start ≤ p * ps → w.pos + min (ps - w.pos % ps) k ≤ p * ps := by
      intro p hp
      have hlt : w.pos < p * ps := by
        rcases Nat.lt_or_eq_of_le (hbefore p hp) with h | h
        · exact h
        · exact absurd (by rw [h, Nat.mul_mod_left]) hmis
      have := next_boundary_le hlt
      have := Nat.mod_le w.pos ps
      omega
    have := hw.start_le
    refine ⟨hw.jump (by omega) (by omega) (.inr (.inr hnext)), ?_⟩
    rw [wholeParts_eq_nil hps hnext, wholeParts_eq_nil hps hbefore]

/-- A following writer's buffer is shorter than a part. -/
theorem Follows.buffer_lt (hps : 0 < ps) (hw : Follows ps B id w) : w.buffer.length < ps := by
  by_cases hb : w.buffer = []
  · rw [hb]
    exact hps
  · exact (hw.short hb).2.1

/-- A buffer that holds the bytes of part `q` from its start, a part at most, within the body. -/
structure Holds (ps : Nat) (B : Bytes) (w : PartWriter) (q : Nat) : Prop where
  base : w.pos - w.buffer.length = q * ps
  buffer_le : w.buffer.length ≤ w.pos
  buffer : w.buffer = (B.drop (q * ps)).take w.buffer.length
  length_le : w.buffer.length ≤ ps
  pos_le : w.pos ≤ B.length

/-- A buffer that fills its part or reaches the object's end holds the whole part, and ends
where the part ends. -/
theorem Holds.slice {q : Nat} (hh : Holds ps B w q) (hc : w.buffer.length = ps ∨ w.pos = B.length) :
    w.buffer = partSlice ps B q ∧ w.pos = min ((q + 1) * ps) B.length := by
  have hbase := hh.base
  have hle := hh.length_le
  have hpos := hh.pos_le
  have hbl := hh.buffer_le
  rw [partSlice, Nat.add_one_mul]
  rcases hc with hfull | hend
  · rw [hh.buffer, hfull]
    exact ⟨rfl, by omega⟩
  · -- the last part is short: the buffer holds all the rest of the body
    have hrest : (B.drop (q * ps)).length ≤ w.buffer.length := by
      rw [List.length_drop]
      omega
    refine ⟨?_, by omega⟩
    rw [hh.buffer, List.take_of_length_le hrest, List.take_of_length_le (by omega)]

/-- Buffering the next bytes of the body, by at least one and at most to the end of the
buffer's part, when the buffer is not empty or the position is on a boundary: the buffer then
holds the bytes of the part it starts in, a part from the range's start on. -/
theorem Follows.fill (hw : Follows ps B id w) (hready : w.buffer ≠ [] ∨ w.pos % ps = 0)
    {data : Bytes} (hdata : data = (B.drop w.pos).take data.length)
    (hk : w.pos + data.length ≤ w.start + w.length) {t : Nat} (htd : t ≤ data.length)
    (htp : w.buffer.length + t ≤ ps) :
    ∃ q, Holds ps B { w with buffer := w.buffer ++ data.take t, pos := w.pos + t } q ∧
      w.start ≤ q * ps ∧ q * ps ≤ w.pos := by
  have hbl := hw.buffer_le
  have hsl := hw.start_le
  have hrange := hw.range_le
  -- the buffer starts on a boundary of the range
  have hal : (w.pos - w.buffer.length) % ps = 0 := by
    by_cases hb : w.buffer = []
    · rw [hb, List.length_nil, Nat.sub_zero]
      exact hready.resolve_left (not_not.mpr hb)
    · exact (hw.short hb).1
  obtain ⟨q, hq⟩ : ∃ q, w.pos - w.buffer.length = q * ps :=
    ⟨(w.pos - w.buffer.length) / ps, (Nat.div_mul_cancel (Nat.dvd_of_mod_eq_zero hal)).symm⟩
  have hlen : (w.buffer ++ data.take t).length = w.buffer.length + t := by
    rw [List.length_append, List.length_take, Nat.min_eq_left htd]
  refine ⟨q, ⟨?_, ?_, ?_, ?_, ?_⟩, by omega, by omega⟩
  · show w.pos + t - (w.buffer ++ data.take t).length = q * ps
    omega
  · show (w.buffer ++ data.take t).length ≤ w.pos + t
    omega
  · -- the new bytes go on from where the buffer stops
    show w.buffer ++ data.take t = (B.drop (q * ps)).take (w.buffer ++ data.take t).length
    have hnext : data.take t = ((B.drop (q * ps)).drop w.buffer.length).take t := by
      rw [hdata, List.take_take, Nat.min_eq_left htd, List.drop_drop]
      congr 2
      omega
    rw [hlen, List.take_add, hnext, ← hq, ← hw.buffer]
  · show (w.buffer ++ data.take t).length ≤ ps
    omega
  · show w.pos + t ≤ B.length
    omega

/-- A buffer that holds less than its part, short of the object's end, keeps the writer
following the body. -/
theorem Follows.of_holds (hw : Follows ps B id w) {b : Bytes} {x q : Nat}
    (hh : Holds ps B { w with buffer := b, pos := x } q) (hq : w.start ≤ q * ps)
    (hx : x ≤ w.start + w.length) (hb : b ≠ []) (hc : ¬(b.length = ps ∨ x = B.length)) :
    Follows ps B id { w with buffer := b, pos := x } := by
  have hbase : x - b.length = q * ps := hh.base
  have hbl : b.length ≤ x := hh.buffer_le
  have hle : b.length ≤ ps := hh.length_le
  have hpos : x ≤ B.length := hh.pos_le
  refine ⟨hw.object, hw.objectSize, hw.range_le, ?_, hx, ?_, ?_, fun _ => ⟨?_, ?_, ?_⟩,
    fun h => absurd h hb⟩
  · show w.start ≤ x
    omega
  · show b.length ≤ x - w.start
    omega
  · show b = (B.drop (x - b.length)).take b.length
    rw [hbase]
    exact hh.buffer
  · show (x - b.length) % ps = 0
    rw [hbase, Nat.mul_mod_left]
  · show b.length < ps
    omega
  · show x < B.length
    omega

/-- The rest of a stretch of the body is the stretch further on. -/
theorem drop_stretch {data : Bytes} {x : Nat} (h : data = (B.drop x).take data.length) (k : Nat) :
    data.drop k = (B.drop (x + k)).take (data.drop k).length := by
  conv_lhs => rw [h]
  rw [List.drop_take, List.drop_drop, List.length_drop]

/-- The front of a stretch of the body is a stretch of it too. -/
theorem take_stretch {data : Bytes} {x : Nat} (h : data = (B.drop x).take data.length) (k : Nat) :
    data.take k = (B.drop x).take (data.take k).length := by
  conv_lhs => rw [h]
  rw [List.take_take, List.length_take, Nat.min_comm]

/-! ## Feeding the body -/

section Feed

variable {m : Type → Type} [Monad m] [LawfulMonad m] {sink : PartSink m} {fuel : Nat}
  {data : Bytes}

omit [LawfulMonad m] in
/-- With an empty buffer off a boundary, feeding skips towards the next boundary. -/
theorem feed_skip (hne : data ≠ []) (hb : w.buffer = []) (hmis : w.pos % ps ≠ 0) :
    feed sink ps (fuel + 1) w data =
      feed sink ps fuel { w with pos := w.pos + min (ps - w.pos % ps) data.length }
        (data.drop (min (ps - w.pos % ps) data.length)) := by
  simp [feed, hne, hb, hmis]

omit [LawfulMonad m] in
/-- With a buffer or on a boundary, feeding fills the buffer with `t` bytes, up to the end of
its part. -/
theorem feed_fill (hne : data ≠ []) (hready : w.buffer ≠ [] ∨ w.pos % ps = 0) {t : Nat}
    (ht : t = min (ps - w.buffer.length) data.length) :
    feed sink ps (fuel + 1) w data =
      let w₁ := { w with buffer := w.buffer ++ data.take t, pos := w.pos + t }
      if w₁.buffer.length = ps ∨ w₁.pos = w₁.objectSize then do
        let (w, err) ← flush sink w₁ ps
        match err with
        | some e => pure (w, some e)
        | none => feed sink ps fuel w (data.drop t)
      else feed sink ps fuel w₁ (data.drop t) := by
  have hskip : ¬(w.buffer.isEmpty = true ∧ w.pos % ps ≠ 0) := by
    rintro ⟨hb, hmis⟩
    rcases hready with h | h
    · exact h (List.isEmpty_iff.mp hb)
    · exact hmis h
  subst ht
  rw [feed]
  exact (if_neg (by simpa using hne)).trans (if_neg hskip)

/-- One turn of feeding the next bytes of the body to a following writer, for a sink that
accepts every part: it takes at least one byte, keeps the part those bytes complete if any, and
leaves the writer following the body. -/
theorem feed_step (hs : sink.Accepts) (hps : 0 < ps) (fuel : Nat) (hw : Follows ps B id w)
    (hne : data ≠ [])
    (hk : w.pos + data.length ≤ w.start + w.length) (hdata : data = (B.drop w.pos).take data.length) :
    ∃ k w₁, 0 < k ∧ k ≤ data.length ∧ Follows ps B id w₁ ∧ w₁.start = w.start ∧
      w₁.length = w.length ∧ w₁.pos = w.pos + k ∧
      (do keepParts sink ps B id (wholeParts ps B.length w.start w.pos)
          feed sink ps (fuel + 1) w data) =
        (do keepParts sink ps B id (wholeParts ps B.length w.start w₁.pos)
            feed sink ps fuel w₁ (data.drop k)) := by
  have hlen : 0 < data.length := List.length_pos_iff.mpr hne
  by_cases hskip : w.buffer = [] ∧ w.pos % ps ≠ 0
  · -- skipping towards the next boundary keeps nothing
    obtain ⟨hw₁, hwp⟩ := hw.skip hps hskip.1 hskip.2 hk
    have := Nat.mod_lt w.pos hps
    refine ⟨_, _, by omega, Nat.min_le_right _ _, hw₁, rfl, rfl, rfl, ?_⟩
    rw [feed_skip hne hskip.1 hskip.2]
    dsimp only
    rw [hwp]
  have hready : w.buffer ≠ [] ∨ w.pos % ps = 0 := by
    by_cases hb : w.buffer = []
    · exact .inr (not_not.mp fun h => hskip ⟨hb, h⟩)
    · exact .inl hb
  have hlt := hw.buffer_lt hps
  obtain ⟨t, ht⟩ : ∃ t, t = min (ps - w.buffer.length) data.length := ⟨_, rfl⟩
  have htd : t ≤ data.length := by omega
  obtain ⟨q, hh, hqs, hqp⟩ := hw.fill hready hdata hk htd (by omega)
  have hbase : w.pos + t - (w.buffer ++ data.take t).length = q * ps := hh.base
  have hbuf : (w.buffer ++ data.take t).length = w.buffer.length + t := by
    rw [List.length_append, List.length_take, Nat.min_eq_left htd]
  have hx : w.pos + t ≤ w.start + w.length := by omega
  have ht0 : 0 < t := by omega
  rw [feed_fill hne hready ht]
  dsimp only
  split_ifs with hc <;> rw [hw.objectSize] at hc
  · -- the buffer is a whole part: it is kept, and the writer goes on from the part's end
    obtain ⟨hslice, hend⟩ := hh.slice hc
    have hslice' : w.buffer ++ data.take t = partSlice ps B q := hslice
    have hend' : w.pos + t = min ((q + 1) * ps) B.length := hend
    have hwait : (w.pos + t) % ps = 0 ∨ w.pos + t = B.length ∨
        ∀ p, w.start ≤ p * ps → w.pos + t ≤ p * ps := by
      rw [hend']
      rcases Nat.le_total ((q + 1) * ps) B.length with hle | hle
      · exact .inl (by rw [Nat.min_eq_left hle, Nat.mul_mod_left])
      · exact .inr (.inl (Nat.min_eq_right hle))
    have hw₂ := hw.jump (by omega) hx hwait
    refine ⟨t, _, ht0, htd, hw₂, rfl, rfl, rfl, ?_⟩
    rw [hs.flush_bind]
    dsimp only
    rw [hbase, Nat.mul_div_cancel q hps, hw.object, hslice', keepParts_concat,
      ← wholeParts_snoc hps hqs (by omega) hqp (by omega), ← hend']
  · -- the buffer holds less than its part: the writer goes on filling it
    have hne₁ : w.buffer ++ data.take t ≠ [] := by
      rw [← List.length_pos_iff, hbuf]
      omega
    have hw₁ := hw.of_holds hh hqs hx hne₁ hc
    refine ⟨t, _, ht0, htd, hw₁, rfl, rfl, rfl, ?_⟩
    have hwithin : w.pos + t < min ((q + 1) * ps) B.length := by
      have hpos : w.pos + t ≤ B.length := hh.pos_le
      rw [Nat.add_one_mul]
      simp only [not_or] at hc
      omega
    dsimp only
    rw [wholeParts_of_within hps hqp (Nat.le_add_right _ _) hwithin]

/-- Feeding a stretch of the body to a following writer, with a turn for every byte, for a sink
that accepts every part: after the whole parts up to the writer's position, it keeps the whole
parts the stretch completes, one after another, answers no failure, and leaves the writer
following the body at the stretch's end. -/
theorem feed_keeps (hs : sink.Accepts) (hps : 0 < ps) :
    ∀ (fuel : Nat) (w : PartWriter) (data : Bytes), Follows ps B id w → data.length < fuel →
      w.pos + data.length ≤ w.start + w.length → data = (B.drop w.pos).take data.length →
      ∃ w', Follows ps B id w' ∧ w'.start = w.start ∧ w'.length = w.length ∧
        w'.pos = w.pos + data.length ∧
        (do keepParts sink ps B id (wholeParts ps B.length w.start w.pos)
            feed sink ps fuel w data) =
          (do keepParts sink ps B id (wholeParts ps B.length w.start (w.pos + data.length))
              pure (w', none)) := by
  intro fuel
  induction fuel with
  | zero => exact fun _ _ _ hfuel => absurd hfuel (Nat.not_lt_zero _)
  | succ fuel ih =>
    intro w data hw hfuel hk hdata
    by_cases hne : data = []
    · subst hne
      exact ⟨w, hw, rfl, rfl, rfl, by simp [feed]⟩
    -- one turn, then the rest of the stretch from the writer that turn leaves
    obtain ⟨k, w₁, hk0, hkd, hw₁, hs₁, hl₁, hp₁, hturn⟩ :=
      feed_step hs hps fuel hw hne hk hdata
    have hrest : data.drop k = (B.drop w₁.pos).take (data.drop k).length := by
      rw [hp₁]
      exact drop_stretch hdata k
    have hlen : w₁.pos + (data.drop k).length = w.pos + data.length := by
      rw [List.length_drop]
      omega
    obtain ⟨w', hw', hs', hl', hp', hrun⟩ :=
      ih w₁ (data.drop k) hw₁ (by rw [List.length_drop]; omega) (by omega) hrest
    refine ⟨w', hw', hs'.trans hs₁, hl'.trans hl₁, hp'.trans hlen, ?_⟩
    rw [hs₁, hlen] at hrun
    rw [hturn, hrun]

/-- A chunk that goes on with the body within the declared range is taken whole: after the
whole parts so far, writing it keeps the whole parts it completes and answers its length. -/
theorem write_keeps (hs : sink.Accepts) (hps : 0 < ps) (hw : Follows ps B id w) {chunk : Bytes}
    (hk : w.pos + chunk.length ≤ w.start + w.length)
    (hchunk : chunk = (B.drop w.pos).take chunk.length) :
    ∃ w', Follows ps B id w' ∧ w'.start = w.start ∧ w'.length = w.length ∧
      w'.pos = w.pos + chunk.length ∧
      (do keepParts sink ps B id (wholeParts ps B.length w.start w.pos)
          write sink ps w chunk) =
        (do keepParts sink ps B id (wholeParts ps B.length w.start (w.pos + chunk.length))
            pure (w', .ok chunk.length)) := by
  obtain ⟨w', hw', hs', hl', hp', hfeed⟩ :=
    feed_keeps hs hps (chunk.length + 1) w chunk hw (Nat.lt_succ_self _) hk hchunk
  refine ⟨w', hw', hs', hl', hp', ?_⟩
  rw [write, if_neg (Nat.not_lt.mpr hk)]
  rw [bind_seq_of_eq hfeed]
  simp only [pure_bind]

end Feed

/-! ## A session -/

section Session

variable {m : Type → Type} [Monad m] (sink : PartSink m)

/-- One turn of a session's loop: write the chunk and note its answer. -/
def writeStep (ps : Nat) (chunk : Bytes) (s : PartWriter × List (Except CacheError Nat)) :
    m (ForInStep (PartWriter × List (Except CacheError Nat))) := do
  let (w', r) ← write sink ps s.1 chunk
  pure (.yield (w', s.2 ++ [r]))

/-- A session is its loop of writes, then the close if asked. -/
theorem session_eq_forIn (ps : Nat) (w : PartWriter) (chunks : List Bytes) (closing : Bool) :
    session sink ps w chunks closing = (do
      let s ← forIn chunks (w, []) (writeStep sink ps)
      let closed ← if closing then some <$> close sink ps s.1 else pure none
      pure ⟨s.2, s.1.written, closed⟩) := by
  unfold session
  rfl

end Session

section Run

variable {m : Type → Type} [Monad m] [LawfulMonad m] {sink : PartSink m}

/-- Writing chunks that go on with the body within the declared range, after the whole parts
so far: each chunk is taken whole, and the whole parts they complete are kept in order. -/
theorem forIn_writeStep_keeps (hs : sink.Accepts) (hps : 0 < ps) :
    ∀ (chunks : List Bytes) (w : PartWriter) (writes : List (Except CacheError Nat)),
      Follows ps B id w → w.pos + chunks.flatten.length ≤ w.start + w.length →
      chunks.flatten = (B.drop w.pos).take chunks.flatten.length →
      ∃ w', Follows ps B id w' ∧ w'.start = w.start ∧ w'.length = w.length ∧
        w'.pos = w.pos + chunks.flatten.length ∧
        (do keepParts sink ps B id (wholeParts ps B.length w.start w.pos)
            forIn chunks (w, writes) (writeStep sink ps)) =
          (do keepParts sink ps B id (wholeParts ps B.length w.start (w.pos + chunks.flatten.length))
              pure (w', writes ++ chunks.map fun chunk => .ok chunk.length)) := by
  intro chunks
  induction chunks with
  | nil =>
    intro w writes hw _ _
    exact ⟨w, hw, rfl, rfl, rfl, by simp⟩
  | cons chunk rest ih =>
    intro w writes hw hk hbody
    rw [List.flatten_cons, List.length_append] at hk
    rw [List.flatten_cons] at hbody
    -- the chunk is the front of the stretch, the rest of the chunks the stretch after it
    have hchunk := take_stretch hbody chunk.length
    have hrest := drop_stretch hbody chunk.length
    rw [List.take_left] at hchunk
    rw [List.drop_left] at hrest
    obtain ⟨w₁, hw₁, hs₁, hl₁, hp₁, hwrite⟩ := write_keeps hs hps hw (by omega) hchunk
    obtain ⟨w', hw', hs', hl', hp', hloop⟩ :=
      ih w₁ (writes ++ [.ok chunk.length]) hw₁ (by omega) (by rw [hp₁]; exact hrest)
    refine ⟨w', hw', hs'.trans hs₁, hl'.trans hl₁, by rw [hp', hp₁, List.flatten_cons,
      List.length_append, Nat.add_assoc], ?_⟩
    rw [List.forIn_cons]
    simp only [writeStep, bind_assoc]
    rw [bind_seq_of_eq hwrite]
    simp only [pure_bind]
    rw [hs₁, hp₁] at hloop
    rw [hloop, List.flatten_cons, List.length_append, Nat.add_assoc, List.map_cons,
      List.append_assoc, List.singleton_append]

omit [LawfulMonad m] in
/-- Closing a writer that follows the body: with every declared byte taken, the buffer is no
whole part and is dropped, and the close succeeds; with bytes missing it fails with the length
mismatch. -/
theorem close_of_follows (hw : Follows ps B id w) :
    close sink ps w = pure (if w.written = w.length then .ok ()
      else .error (.lengthMismatch w.length w.written)) := by
  unfold close
  by_cases hlen : w.written = w.length
  · -- a buffer that is not empty stops short of its part's end and of the object's end
    have hkeep : ¬((!w.buffer.isEmpty) = true ∧ (w.buffer.length = ps ∨ w.pos = w.objectSize)) := by
      rintro ⟨hne, hfull⟩
      obtain ⟨-, hlt, hend⟩ := hw.short (by simpa using hne)
      rw [hw.objectSize] at hfull
      omega
    rw [if_neg (not_not.mpr hlen), if_neg hkeep, if_pos hlen]
  · rw [if_pos hlen, if_neg hlen]

/-- A session writing a stretch of body `B` from the start of a content range, in any chunks,
for a sink that accepts every part, is keeping the whole parts of the stretch one after another
and answering: every write with its length, the bytes taken, and a close that succeeds when the
stretch is the whole range and otherwise fails with the length mismatch. -/
theorem session_eq_keepParts (hs : sink.Accepts) (hps : 0 < ps) (c : ContentRange)
    (hn : c.objectSize.toNat = B.length) (hc : c.start.toNat + c.length.toNat ≤ B.length)
    (chunks : List Bytes) (hlen : chunks.flatten.length ≤ c.length.toNat)
    (hbody : chunks.flatten = (B.drop c.start.toNat).take chunks.flatten.length) (closing : Bool) :
    session sink ps (new id c) chunks closing = (do
      keepParts sink ps B id
        (wholeParts ps B.length c.start.toNat (c.start.toNat + chunks.flatten.length))
      pure ⟨chunks.map fun chunk => .ok chunk.length, chunks.flatten.length,
        if closing then some (if chunks.flatten.length = c.length.toNat then .ok ()
          else .error (.lengthMismatch c.length.toNat chunks.flatten.length)) else none⟩) := by
  have hw : Follows ps B id (new id c) := follows_new c hn hc
  obtain ⟨w', hw', hs', hl', hp', hloop⟩ :=
    forIn_writeStep_keeps hs hps chunks (new id c) [] hw
      (show c.start.toNat + chunks.flatten.length ≤ c.start.toNat + c.length.toNat by omega) hbody
  -- nothing is kept before the first byte
  have hnone : wholeParts ps B.length (new id c).start (new id c).pos = [] :=
    wholeParts_eq_nil hps fun _ h => h
  have hwritten : w'.written = chunks.flatten.length := by
    simp only [written, hp', hs', new]
    omega
  simp only [hnone, keepParts, pure_bind] at hloop
  rw [session_eq_forIn, hloop, bind_assoc]
  simp only [pure_bind, List.nil_append]
  cases closing <;> simp [close_of_follows hw', hwritten, hl', new]

/-- Writing a stretch of body `B` from the start of a content range within it, in any chunks,
for a sink whose policy keeps every part and whose storage saves each part or finds it saved:
the session keeps exactly the whole parts of the stretch, each once, in increasing order, each
with its own bytes and under its 32-bit part number, and nothing else; every write answers its
length, and the close succeeds when the stretch is the whole range and otherwise fails with the
length mismatch; and the chunking shows in nothing but the answers to the writes. -/
theorem session_keeps_whole_parts (hs : sink.Accepts) (hps : 0 < ps) (c : ContentRange)
    (hn : c.objectSize.toNat = B.length) (hc : c.start.toNat + c.length.toNat ≤ B.length)
    (chunks : List Bytes) (hlen : chunks.flatten.length ≤ c.length.toNat)
    (hbody : chunks.flatten = (B.drop c.start.toNat).take chunks.flatten.length) (closing : Bool) :
    session sink ps (new id c) chunks closing = (do
      keepParts sink ps B id
        (wholeParts ps B.length c.start.toNat (c.start.toNat + chunks.flatten.length))
      pure ⟨chunks.map fun chunk => .ok chunk.length, chunks.flatten.length,
        if closing then some (if chunks.flatten.length = c.length.toNat then .ok ()
          else .error (.lengthMismatch c.length.toNat chunks.flatten.length)) else none⟩) ∧
    ∀ chunks' : List Bytes, chunks'.flatten = chunks.flatten →
      (fun r => (r.written, r.closed)) <$> session sink ps (new id c) chunks' closing =
        (fun r => (r.written, r.closed)) <$> session sink ps (new id c) chunks closing := by
  refine ⟨session_eq_keepParts hs hps c hn hc chunks hlen hbody closing, fun chunks' h => ?_⟩
  rw [session_eq_keepParts hs hps c hn hc chunks' (h ▸ hlen) (h ▸ hbody) closing,
    session_eq_keepParts hs hps c hn hc chunks hlen hbody closing, h]
  simp only [map_bind, map_pure]

end Run

end PartWriter

/-! ## A sink that logs what it saves -/

/-- A sink that keeps every part and logs, in order, each part it saves with its bytes. -/
def PartSink.log : PartSink (StateM (List (PartIndex × Bytes))) where
  shouldKeep _ := pure true
  savePart i data := do
    modify (· ++ [(i, data)])
    pure none
  add _ := pure none
  promote _ := pure ()

theorem PartSink.log_accepts : PartSink.log.Accepts where
  keeps _ := rfl
  saves i data := ⟨(fun _ => ⟨none, .inl rfl⟩) <$> (modify (· ++ [(i, data)]) : StateM _ Unit), by
    simp [PartSink.log, map_eq_bind_pure_comp]⟩

/-- Bytes 1 to 4 of a body of five bytes, cut every two bytes, written in two chunks: the
session keeps parts 1 and 2, the whole parts of the range. -/
theorem log_keeps_parts_one_two :
    PartSink.log.Accepts ∧ 0 < 2 ∧ (⟨1, 4, 5⟩ : ContentRange).objectSize.toNat = 5 ∧
      (⟨1, 4, 5⟩ : ContentRange).start.toNat + (⟨1, 4, 5⟩ : ContentRange).length.toNat ≤ 5 ∧
      [[2], [3, 4, 5]].flatten.length ≤ (⟨1, 4, 5⟩ : ContentRange).length.toNat ∧
      ([[2], [3, 4, 5]] : List Bytes).flatten =
        (([1, 2, 3, 4, 5] : Bytes).drop (⟨1, 4, 5⟩ : ContentRange).start.toNat).take 4 ∧
      wholeParts 2 5 1 5 = [1, 2] ∧
      PartWriter.session PartSink.log 2 (PartWriter.new ⟨"z", "/a"⟩ ⟨1, 4, 5⟩) [[2], [3, 4, 5]] true =
        (do
          PartWriter.keepParts PartSink.log 2 [1, 2, 3, 4, 5] ⟨"z", "/a"⟩ (wholeParts 2 5 1 (1 + 4))
          pure ⟨[.ok 1, .ok 3], 4, some (if 4 = 4 then .ok () else .error (.lengthMismatch 4 4))⟩) :=
  ⟨PartSink.log_accepts, by decide, rfl, by decide, by decide, rfl, by decide,
    (PartWriter.session_keeps_whole_parts (B := [1, 2, 3, 4, 5]) PartSink.log_accepts (by decide)
      ⟨1, 4, 5⟩ rfl (by decide) [[2], [3, 4, 5]] (by decide) rfl true).1⟩

/-- Part numbers are 32 bits wide: of an object cut every byte, the part that starts at byte
`2 ^ 32` is saved as part 0. -/
theorem part_number_wraps :
    ((PartWriter.session PartSink.log 1
        (PartWriter.new ⟨"z", "/a"⟩ ⟨4294967296, 1, 4294967297⟩) [[120]] true).run []).2 =
      [(⟨⟨"z", "/a"⟩, 0⟩, [120])] := by
  rfl

end PartCache
