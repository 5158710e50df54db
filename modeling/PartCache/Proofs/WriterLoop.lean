import PartCache.Proofs.WholeParts
import Mathlib

/-!
# The writer's loop invariant

A writer takes the body of a response chunk by chunk.  Between calls, and at the top of every
turn of the loop that takes a chunk, its state is fixed by the bytes it has taken so far
(`PartWriter.Consistent`):

* its position is past exactly those bytes, and within the declared range;
* its buffer is shorter than a part;
* a buffer that is not empty starts on a part boundary and holds the body's bytes from there up
  to the position (`bodySpan`).

Each turn of the loop takes at least one byte of the chunk and keeps this, whatever the policy and
the storage answer (`feed_turn`); a failure to keep a part ends the call with the buffer emptied.
The loop therefore ends within one turn per byte, and the writer's fuel of one turn per byte and
one more never runs short (`feed_fuel_congr`).  Between calls (`write_consistent`), a chunk answered
with its length was taken whole, a chunk refused for running past the range was not taken at all,
and of a chunk during which a part could not be kept a first stretch was taken; over a whole
session, the bytes counted as written are exactly those the calls took (`session_written_took`).
So every call ends and keeps the invariant (`write_keeps_invariant_and_terminates`).

The bytes a call took before a part could not be kept count among the bytes taken although the
call failed (`failed_save_counts_taken_bytes`): only while every part is kept does the position
stand past exactly the chunks answered with their lengths.
-/

set_option autoImplicit false

namespace PartCache

namespace PartWriter

/-! ## The invariant -/

/-- The bytes at object offsets `a` up to `b`, `b` excluded, of a body whose first byte lies at
offset `start`. -/
def bodySpan (start : Nat) (body : Bytes) (a b : Nat) : Bytes :=
  (body.drop (a - start)).take (b - a)

/-- The span that ends with the body is its last bytes. -/
theorem bodySpan_end {start n : Nat} {body : Bytes} (hn : n ≤ body.length) :
    bodySpan start body (start + body.length - n) (start + body.length) =
      body.drop (body.length - n) := by
  have h₁ : start + body.length - n - start = body.length - n := by omega
  have h₂ : start + body.length - (start + body.length - n) = n := by omega
  rw [bodySpan, h₁, h₂, List.take_of_length_le]
  rw [List.length_drop]
  omega

/-- A writer that has taken the bytes `taken` of its body, cut every `ps` bytes: its position is
past exactly those bytes and within the declared range; its buffer is shorter than a part; and a
buffer that is not empty starts on a part boundary and holds the body's bytes at the offsets
from its start up to the position. -/
structure Consistent (ps : Nat) (taken : Bytes) (w : PartWriter) : Prop where
  pos_eq : w.pos = w.start + taken.length
  pos_le : w.pos ≤ w.start + w.length
  buffer_lt : w.buffer.length < ps
  aligned : w.buffer ≠ [] → (w.pos - w.buffer.length) % ps = 0
  buffer_eq : w.buffer = bodySpan w.start taken (w.pos - w.buffer.length) w.pos

/-- Writer `w'` works on the object, the declared range and the object size of `w`: only the
position and the buffer may differ. -/
structure SameRange (w w' : PartWriter) : Prop where
  object : w'.object = w.object
  start : w'.start = w.start
  length : w'.length = w.length
  objectSize : w'.objectSize = w.objectSize

/-- A writer at the top of a turn of its loop, with `data` the bytes of the chunk still to take:
it is consistent with the bytes taken so far, those of the chunk included, and the rest of the
chunk fits in the declared range. -/
structure AtTurn (ps : Nat) (taken : Bytes) (w : PartWriter) (data : Bytes) : Prop where
  consistent : Consistent ps taken w
  fits : w.pos + data.length ≤ w.start + w.length

variable {ps : Nat} {taken data : Bytes} {w w' : PartWriter}

theorem SameRange.refl (w : PartWriter) : SameRange w w := ⟨rfl, rfl, rfl, rfl⟩

theorem SameRange.trans {w₁ w₂ w₃ : PartWriter} (h₁ : SameRange w₁ w₂) (h₂ : SameRange w₂ w₃) :
    SameRange w₁ w₃ :=
  ⟨h₂.object.trans h₁.object, h₂.start.trans h₁.start, h₂.length.trans h₁.length,
    h₂.objectSize.trans h₁.objectSize⟩

/-- The bytes a consistent writer counts as written are the bytes it took. -/
theorem Consistent.written_eq (hw : Consistent ps taken w) : w.written = taken.length := by
  rw [written, hw.pos_eq]
  omega

/-- The buffer of a consistent writer holds the last bytes it took. -/
theorem Consistent.buffer_suffix (hw : Consistent ps taken w) : w.buffer <:+ taken := by
  have hspan := hw.buffer_eq
  rw [hw.pos_eq] at hspan
  -- a span of the body is no longer than the body
  have hn : w.buffer.length ≤ taken.length := by
    have hlen := congrArg List.length hspan
    rw [bodySpan, List.length_take, List.length_drop] at hlen
    omega
  rw [bodySpan_end hn] at hspan
  exact List.suffix_iff_eq_drop.mpr hspan

/-- A writer whose buffer holds the last bytes it took, with the other conditions met, is
consistent. -/
theorem Consistent.of_suffix (hpos : w.pos = w.start + taken.length)
    (hle : w.pos ≤ w.start + w.length) (hlt : w.buffer.length < ps)
    (hal : w.buffer ≠ [] → (w.pos - w.buffer.length) % ps = 0) (hsuf : w.buffer <:+ taken) :
    Consistent ps taken w := by
  refine ⟨hpos, hle, hlt, hal, ?_⟩
  rw [hpos, bodySpan_end hsuf.length_le]
  exact List.suffix_iff_eq_drop.mp hsuf

/-- A new writer has taken nothing and is consistent. -/
theorem new_consistent (hps : 0 < ps) (id : ObjectId) (c : ContentRange) :
    Consistent ps [] (new id c) :=
  .of_suffix (Nat.add_zero _).symm (Nat.le_add_right _ _) hps (fun h => absurd rfl h)
    List.nil_suffix

/-- Taking `k` more bytes of the chunk, with `b` as the new buffer, keeps a writer at the top of
a turn when `b` is shorter than a part, starts on a boundary if not empty, and holds the last
bytes taken. -/
theorem AtTurn.take (hw : AtTurn ps taken w data) {k : Nat} (hk : k ≤ data.length) {b : Bytes}
    (hlt : b.length < ps) (hal : b ≠ [] → (w.pos + k - b.length) % ps = 0)
    (hsuf : b <:+ taken ++ data.take k) :
    AtTurn ps (taken ++ data.take k) { w with pos := w.pos + k, buffer := b } (data.drop k) := by
  have hpos := hw.consistent.pos_eq
  have hfit := hw.fits
  have hlen : (taken ++ data.take k).length = taken.length + k := by
    rw [List.length_append, List.length_take, Nat.min_eq_left hk]
  refine ⟨.of_suffix ?_ ?_ hlt hal hsuf, ?_⟩
  · show w.pos + k = w.start + (taken ++ data.take k).length
    omega
  · show w.pos + k ≤ w.start + w.length
    omega
  · show w.pos + k + (data.drop k).length ≤ w.start + w.length
    rw [List.length_drop]
    omega

/-! ## One turn of the loop -/

section Sink

variable {m : Type → Type} [Monad m] [LawfulMonad m] (sink : PartSink m)

/-- One turn of the loop, from a writer at its top with bytes left: it takes `k ≥ 1` of them,
moving to a writer `w'` on the same range that is at the top of the next turn, and runs `keep`,
which is keeping the part the buffer completed or nothing.  A failure of `keep` ends the loop at
`w'`, whose buffer is then empty; otherwise the loop goes on from `w'` with the rest. -/
theorem feed_turn (hps : 0 < ps) (hw : AtTurn ps taken w data) (hne : data ≠ []) :
    ∃ (k : Nat) (w' : PartWriter) (keep : m (Option CacheError)), 0 < k ∧ k ≤ data.length ∧
      SameRange w w' ∧ AtTurn ps (taken ++ data.take k) w' (data.drop k) ∧
      (keep = pure none ∨ w'.buffer = []) ∧
      ∀ fuel, feed sink ps (fuel + 1) w data =
        (keep >>= fun err => err.elim (feed sink ps fuel w' (data.drop k))
          fun e => pure (w', some e)) := by
  have hlen : 0 < data.length := List.length_pos_iff.mpr hne
  have hlt := hw.consistent.buffer_lt
  by_cases hskip : w.buffer = [] ∧ w.pos % ps ≠ 0
  · -- an empty buffer off a boundary: skip towards the next boundary
    obtain ⟨hb, hmis⟩ := hskip
    have hmod := Nat.mod_lt w.pos hps
    refine ⟨min (ps - w.pos % ps) data.length,
      { w with pos := w.pos + min (ps - w.pos % ps) data.length }, pure none, by omega,
      Nat.min_le_right _ _, ⟨rfl, rfl, rfl, rfl⟩, ?_, .inl rfl, fun fuel => ?_⟩
    · exact hw.take (Nat.min_le_right (ps - w.pos % ps) data.length) (b := w.buffer)
        hlt (fun h => absurd hb h) (hb ▸ List.nil_suffix)
    · rw [feed_skip hne hb hmis, pure_bind, Option.elim_none]
  -- a buffer, or a boundary: fill the buffer up to the end of its part
  have hready : w.buffer ≠ [] ∨ w.pos % ps = 0 := by
    by_cases hb : w.buffer = []
    · exact .inr (not_not.mp fun h => hskip ⟨hb, h⟩)
    · exact .inl hb
  obtain ⟨t, ht⟩ : ∃ t, t = min (ps - w.buffer.length) data.length := ⟨_, rfl⟩
  have htd : t ≤ data.length := ht ▸ Nat.min_le_right _ _
  have hbuf : (w.buffer ++ data.take t).length = w.buffer.length + t := by
    rw [List.length_append, List.length_take, Nat.min_eq_left htd]
  -- the filled buffer starts where the old one did, on a boundary
  have hal : (w.pos + t - (w.buffer ++ data.take t).length) % ps = 0 := by
    rw [hbuf, Nat.add_sub_add_right]
    by_cases hb : w.buffer = []
    · rw [hb, List.length_nil, Nat.sub_zero]
      exact hready.resolve_left (not_not.mpr hb)
    · exact hw.consistent.aligned hb
  have hsuf : w.buffer ++ data.take t <:+ taken ++ data.take t :=
    List.suffix_append_self_iff.mpr hw.consistent.buffer_suffix
  by_cases hc : (w.buffer ++ data.take t).length = ps ∨ w.pos + t = w.objectSize
  · -- the buffer is a whole part or ends the object: it is kept and emptied
    refine ⟨t, { w with pos := w.pos + t, buffer := [] },
      keepPart sink ⟨w.object, ((w.pos + t - (w.buffer ++ data.take t).length) / ps).toUInt32⟩
        (w.buffer ++ data.take t),
      by omega, htd, ⟨rfl, rfl, rfl, rfl⟩, hw.take htd hps (fun h => absurd rfl h) List.nil_suffix,
      .inr rfl, fun fuel => ?_⟩
    rw [feed_fill hne hready ht]
    dsimp only
    rw [if_pos hc, flush, bind_assoc]
    refine congrArg (_ >>= ·) (funext fun err => ?_)
    cases err <;> exact pure_bind _ _
  · -- the buffer stays short of its part's end: it keeps filling
    have hshort : (w.buffer ++ data.take t).length < ps := by
      have : (w.buffer ++ data.take t).length ≤ ps := by omega
      exact Nat.lt_of_le_of_ne this fun h => hc (.inl h)
    refine ⟨t, { w with pos := w.pos + t, buffer := w.buffer ++ data.take t }, pure none,
      by omega, htd, ⟨rfl, rfl, rfl, rfl⟩, hw.take htd hshort (fun _ => hal) hsuf, .inl rfl,
      fun fuel => ?_⟩
    rw [feed_fill hne hready ht]
    dsimp only
    rw [if_neg hc, pure_bind, Option.elim_none]

/-! ## The whole loop -/

/-- What the loop may end with, from a writer `w` that has taken `taken`, given `data`: a writer
on the range of `w` that has taken all of `data` and answers no failure; or one that has taken a
first stretch of `data`, emptied its buffer and answers the failure to keep a part. -/
def Fed (ps : Nat) (taken : Bytes) (w : PartWriter) (data : Bytes)
    (r : PartWriter × Option CacheError) : Prop :=
  SameRange w r.1 ∧
    (r.2 = none ∧ Consistent ps (taken ++ data) r.1 ∨
      r.2 ≠ none ∧ ∃ k, 0 < k ∧ k ≤ data.length ∧ Consistent ps (taken ++ data.take k) r.1 ∧
        r.1.buffer = [])

/-- An end of the loop after a turn that took `k` bytes is an end of the loop from before that
turn. -/
theorem Fed.of_turn {k : Nat} (hs : SameRange w w') (hk0 : 0 < k) (hkd : k ≤ data.length)
    {r : PartWriter × Option CacheError} (h : Fed ps (taken ++ data.take k) w' (data.drop k) r) :
    Fed ps taken w data r := by
  obtain ⟨hs', ⟨hdone, hc⟩ | ⟨hfail, j, hj0, hjd, hc, hb⟩⟩ := h
  · rw [List.append_assoc, List.take_append_drop] at hc
    exact ⟨hs.trans hs', .inl ⟨hdone, hc⟩⟩
  · -- the stretch taken before the failure runs on from the turn's `k` bytes
    rw [List.length_drop] at hjd
    rw [List.append_assoc, ← List.take_add] at hc
    exact ⟨hs.trans hs', .inr ⟨hfail, k + j, by omega, by omega, hc, hb⟩⟩

/-- The loop, from a writer at its top and with more turns than bytes, ends as `Fed` says. -/
theorem feed_consistent (hps : 0 < ps) :
    ∀ (fuel : Nat) (taken : Bytes) (w : PartWriter) (data : Bytes), AtTurn ps taken w data →
      data.length < fuel → SatisfiesM (Fed ps taken w data) (feed sink ps fuel w data) := by
  intro fuel
  induction fuel with
  | zero => exact fun _ _ _ _ hfuel => absurd hfuel (Nat.not_lt_zero _)
  | succ fuel ih =>
    intro taken w data hw hfuel
    by_cases hne : data = []
    · subst hne
      have hend : feed sink ps (fuel + 1) w [] = pure (w, none) := by simp [feed]
      rw [hend]
      exact SatisfiesM.pure ⟨.refl w, .inl ⟨rfl, by rw [List.append_nil]; exact hw.consistent⟩⟩
    obtain ⟨k, w', keep, hk0, hkd, hs, hw', hkeep, hfeed⟩ := feed_turn sink hps hw hne
    rw [hfeed fuel]
    -- the rest of the loop runs from the next turn, with fewer bytes than turns left
    have hrest : SatisfiesM (Fed ps taken w data) (feed sink ps fuel w' (data.drop k)) :=
      (ih _ w' _ hw' (by rw [List.length_drop]; omega)).imp (Fed.of_turn hs hk0 hkd)
    rcases hkeep with rfl | hb
    · rw [pure_bind, Option.elim_none]
      exact hrest
    · refine SatisfiesM.bind SatisfiesM.trivial fun err _ => ?_
      cases err with
      | none => exact hrest
      | some e =>
        exact SatisfiesM.pure ⟨hs, .inr ⟨Option.some_ne_none e, k, hk0, hkd, hw'.consistent, hb⟩⟩

/-- Once the loop has a turn for every byte and one more, further turns change nothing: it ends
by itself within one turn per byte. -/
theorem feed_fuel_congr (hps : 0 < ps) :
    ∀ (fuel fuel' : Nat) (taken : Bytes) (w : PartWriter) (data : Bytes), AtTurn ps taken w data →
      data.length < fuel → data.length < fuel' →
      feed sink ps fuel w data = feed sink ps fuel' w data := by
  intro fuel
  induction fuel with
  | zero => exact fun _ _ _ _ _ hfuel => absurd hfuel (Nat.not_lt_zero _)
  | succ fuel ih =>
    intro fuel' taken w data hw hfuel hfuel'
    obtain ⟨fuel', rfl⟩ : ∃ f, fuel' = f + 1 := ⟨fuel' - 1, by omega⟩
    by_cases hne : data = []
    · subst hne
      simp [feed]
    obtain ⟨k, w', keep, hk0, hkd, -, hw', -, hfeed⟩ := feed_turn sink hps hw hne
    rw [hfeed fuel, hfeed fuel']
    refine congrArg (keep >>= ·) (funext fun err => ?_)
    cases err with
    | none =>
      exact ih fuel' _ w' _ hw' (by rw [List.length_drop]; omega) (by rw [List.length_drop]; omega)
    | some e => rfl

/-! ## Between calls -/

/-- What a call of `write` with `chunk` may leave, from a writer `w` that has taken `taken`: a
writer on the range of `w` that took the whole chunk and answers its length; the writer as it
was, refusing a chunk that runs past the declared range; or a writer that took a first stretch
of the chunk, emptied its buffer and answers the failure to keep a part. -/
def Wrote (ps : Nat) (taken : Bytes) (w : PartWriter) (chunk : Bytes)
    (r : PartWriter × Except CacheError Nat) : Prop :=
  SameRange w r.1 ∧
    (r.2 = .ok chunk.length ∧ Consistent ps (taken ++ chunk) r.1 ∨
      w.start + w.length < w.pos + chunk.length ∧
        r.2 = .error (.lengthMismatch w.length (w.written + chunk.length)) ∧ r.1 = w ∨
      ∃ e k, r.2 = .error e ∧ 0 < k ∧ k ≤ chunk.length ∧
        Consistent ps (taken ++ chunk.take k) r.1 ∧ r.1.buffer = [])

/-- A call of `write` on a consistent writer leaves it as `Wrote` says. -/
theorem write_consistent (hps : 0 < ps) (hw : Consistent ps taken w) (chunk : Bytes) :
    SatisfiesM (Wrote ps taken w chunk) (write sink ps w chunk) := by
  by_cases hover : w.pos + chunk.length > w.start + w.length
  · rw [write_refuses_overrun sink ps w chunk hover]
    exact SatisfiesM.pure ⟨.refl w, .inr (.inl ⟨hover, rfl, rfl⟩)⟩
  rw [write, if_neg hover]
  refine SatisfiesM.bind (feed_consistent sink hps _ taken w chunk ⟨hw, Nat.not_lt.mp hover⟩
    (Nat.lt_succ_self _)) ?_
  rintro ⟨w', err⟩ ⟨hs, ⟨rfl, hc⟩ | ⟨hfail, k, hk0, hkd, hc, hb⟩⟩
  · exact SatisfiesM.pure ⟨hs, .inl ⟨rfl, hc⟩⟩
  · obtain ⟨e, rfl⟩ := Option.ne_none_iff_exists'.mp hfail
    exact SatisfiesM.pure ⟨hs, .inr (.inr ⟨e, k, rfl, hk0, hkd, hc, hb⟩)⟩

/-- The writer keeps its invariant and its loop ends.  For a part size `ps ≥ 1` and any policy
and storage: a new writer is consistent with having taken nothing; every turn of the loop, from a
writer at its top with bytes left, takes at least one byte and leaves a writer on the same range
at the top of the next turn, and a failure to keep a part, the only way the loop stops early,
leaves the buffer empty; the loop ends within one turn per byte, so more fuel than the writer
gives it changes nothing; and a call of `write` leaves the writer consistent with the bytes it
took: the whole chunk when it answers the chunk's length, nothing when it refuses a chunk that
runs past the range, and a first stretch of the chunk when a part could not be kept. -/
theorem write_keeps_invariant_and_terminates (hps : 0 < ps) :
    (∀ (id : ObjectId) (c : ContentRange), Consistent ps [] (new id c)) ∧
    (∀ (taken : Bytes) (w : PartWriter) (data : Bytes), AtTurn ps taken w data → data ≠ [] →
      ∃ (k : Nat) (w' : PartWriter) (keep : m (Option CacheError)), 0 < k ∧ k ≤ data.length ∧
        SameRange w w' ∧ AtTurn ps (taken ++ data.take k) w' (data.drop k) ∧
        (keep = pure none ∨ w'.buffer = []) ∧
        ∀ fuel, feed sink ps (fuel + 1) w data =
          (keep >>= fun err => err.elim (feed sink ps fuel w' (data.drop k))
            fun e => pure (w', some e))) ∧
    (∀ (taken : Bytes) (w : PartWriter) (data : Bytes) (fuel : Nat), AtTurn ps taken w data →
      data.length < fuel → feed sink ps fuel w data = feed sink ps (data.length + 1) w data) ∧
    (∀ (taken : Bytes) (w : PartWriter) (chunk : Bytes), Consistent ps taken w →
      SatisfiesM (Wrote ps taken w chunk) (write sink ps w chunk)) :=
  ⟨new_consistent hps, fun _ _ _ hw hne => feed_turn sink hps hw hne,
    fun _ _ _ fuel hw hfuel => feed_fuel_congr sink hps fuel _ _ _ _ hw hfuel (Nat.lt_succ_self _),
    fun _ _ chunk hw => write_consistent sink hps hw chunk⟩

/-! ## A run of calls -/

/-- How much of its chunk each of a run of calls took, by its answer: a call answered with the
chunk's length took the whole chunk, and a call answered with a failure a first stretch of it
(nothing when the chunk was refused). -/
inductive Took : List Bytes → List (Except CacheError Nat) → Bytes → Prop
  | nil : Took [] [] []
  | whole {chunk : Bytes} {chunks : List Bytes} {answers : List (Except CacheError Nat)}
      {t : Bytes} : Took chunks answers t →
      Took (chunk :: chunks) (.ok chunk.length :: answers) (chunk ++ t)
  | part {chunk : Bytes} {chunks : List Bytes} {answers : List (Except CacheError Nat)}
      {t : Bytes} (e : CacheError) (k : Nat) : k ≤ chunk.length → Took chunks answers t →
      Took (chunk :: chunks) (.error e :: answers) (chunk.take k ++ t)

/-- Calls of `write` one after another, as a session makes them, from a consistent writer: the
answers are noted in order, and the writer ends on the same range, consistent with the bytes the
calls took. -/
theorem forIn_writeStep_took (hps : 0 < ps) :
    ∀ (chunks : List Bytes) (w : PartWriter) (writes : List (Except CacheError Nat))
      (taken : Bytes), Consistent ps taken w →
      SatisfiesM (fun s : PartWriter × List (Except CacheError Nat) => ∃ answers t,
          s.2 = writes ++ answers ∧ Took chunks answers t ∧ SameRange w s.1 ∧
            Consistent ps (taken ++ t) s.1)
        (forIn chunks (w, writes) (writeStep sink ps)) := by
  intro chunks
  induction chunks with
  | nil =>
    intro w writes taken hw
    exact SatisfiesM.pure ⟨[], [], (List.append_nil _).symm, .nil, .refl w,
      by rw [List.append_nil]; exact hw⟩
  | cons chunk rest ih =>
    intro w writes taken hw
    rw [List.forIn_cons]
    simp only [writeStep, bind_assoc, pure_bind]
    refine SatisfiesM.bind (write_consistent sink hps hw chunk) ?_
    rintro ⟨w', r⟩ ⟨hs, hwrote⟩
    dsimp only at hs hwrote
    -- the call took `piece`, and the rest of the run goes on from there
    obtain ⟨piece, hstep, hw'⟩ : ∃ piece : Bytes,
        (∀ {answers : List (Except CacheError Nat)} {t : Bytes}, Took rest answers t →
          Took (chunk :: rest) (r :: answers) (piece ++ t)) ∧ Consistent ps (taken ++ piece) w' := by
      rcases hwrote with ⟨rfl, hc⟩ | ⟨-, rfl, rfl⟩ | ⟨e, k, rfl, -, hkd, hc, -⟩
      · exact ⟨chunk, .whole, hc⟩
      · refine ⟨chunk.take 0, .part _ 0 (Nat.zero_le _), ?_⟩
        rw [List.take_zero, List.append_nil]
        exact hw
      · exact ⟨chunk.take k, .part e k hkd, hc⟩
    refine (ih w' (writes ++ [r]) (taken ++ piece) hw').imp ?_
    rintro s ⟨answers, t, hs2, ht, hs', hc⟩
    refine ⟨r :: answers, piece ++ t, ?_, hstep ht, hs.trans hs', ?_⟩
    · rw [hs2, List.append_assoc, List.singleton_append]
    · rw [← List.append_assoc]
      exact hc

/-- A session of calls on a new writer counts as written exactly the bytes its calls took:
the whole chunk of each call answered with its length, and a first stretch of the chunk of each
call answered with a failure. -/
theorem session_written_took (hps : 0 < ps) (id : ObjectId) (c : ContentRange)
    (chunks : List Bytes) (closing : Bool) :
    SatisfiesM (fun rep : WriteReport => ∃ t, Took chunks rep.writes t ∧ rep.written = t.length)
      (session sink ps (new id c) chunks closing) := by
  rw [session_eq_forIn]
  refine SatisfiesM.bind (forIn_writeStep_took sink hps chunks _ [] [] (new_consistent hps id c)) ?_
  rintro ⟨w, writes⟩ ⟨answers, t, hwrites, ht, -, hc⟩
  dsimp only at hwrites hc
  rw [List.nil_append] at hwrites
  subst hwrites
  have hdone : ∀ closed : Option (Except CacheError Unit),
      ∃ t, Took chunks (WriteReport.mk writes w.written closed).writes t ∧
        (WriteReport.mk writes w.written closed).written = t.length :=
    fun _ => ⟨t, ht, hc.written_eq⟩
  cases closing
  · simp only [Bool.false_eq_true, if_false, pure_bind]
    exact SatisfiesM.pure (hdone none)
  · simp only [if_true]
    exact SatisfiesM.bind SatisfiesM.trivial fun closed _ => SatisfiesM.pure (hdone closed)

end Sink

end PartWriter

/-- A sink whose policy keeps every part and whose storage refuses every part with `e`, as a full
disk does. -/
def PartSink.refusing (e : CacheError) : PartSink Id where
  shouldKeep _ := pure true
  savePart _ _ := pure (some e)
  add _ := pure none
  promote _ := pure ()

/-- Writing the four bytes of an object cut every two bytes to a storage that refuses every part:
the writer ends consistent with having taken the two bytes of the part it could not keep. -/
theorem refused_write_keeps_invariant :
    0 < 2 ∧ PartWriter.Wrote 2 [] (PartWriter.new ⟨"z", "/a"⟩ ⟨0, 4, 4⟩) [1, 2, 3, 4]
      (PartWriter.write (PartSink.refusing (.io "No space left on device (os error 28)")) 2
        (PartWriter.new ⟨"z", "/a"⟩ ⟨0, 4, 4⟩) [1, 2, 3, 4]) := by
  have h := PartWriter.write_keeps_invariant_and_terminates
    (PartSink.refusing (.io "No space left on device (os error 28)")) (show 0 < 2 by decide)
  exact ⟨by decide, SatisfiesM_Id_eq.mp (h.2.2.2 [] _ _ (h.1 _ _))⟩

/-- A call that could not keep a part still moved the writer on: writing the four bytes of an
object cut every two bytes to a storage that refuses every part fails, yet the writer counts the
two bytes of the part it could not keep as written, although no call succeeded. -/
theorem failed_save_counts_taken_bytes :
    (PartWriter.write (PartSink.refusing (.io "No space left on device (os error 28)")) 2
        (PartWriter.new ⟨"z", "/a"⟩ ⟨0, 4, 4⟩) [1, 2, 3, 4]).2 =
      .error (.io "No space left on device (os error 28)") ∧
    (PartWriter.write (PartSink.refusing (.io "No space left on device (os error 28)")) 2
        (PartWriter.new ⟨"z", "/a"⟩ ⟨0, 4, 4⟩) [1, 2, 3, 4]).1.written = 2 :=
  ⟨rfl, rfl⟩

end PartCache
