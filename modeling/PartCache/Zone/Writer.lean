import PartCache.Zone.Parts

/-!
# Splitting a response body into parts

A writer receives the body of a response that covers `length` bytes from
`start` of an object of `objectSize` bytes, and stores every whole part it sees:

* A chunk that would run past `start + length` is refused whole with a length
  mismatch, and nothing of it is taken.
* While nothing is buffered and the position is not on a part boundary, bytes are
  skipped up to the next boundary: they end a part whose beginning was never
  received.
* Other bytes are buffered.  A buffer that holds a whole part, or that reaches
  the end of the object, is stored as the part it starts in and added to the
  policy (promoted if already tracked); a part already on disk is kept as it is.
* Closing checks that exactly `length` bytes came, and stores the buffer if it
  is a whole part or ends the object; an incomplete buffer is dropped.

A writer reaches its zone only through a sink (`PartSink`): the policy's verdict
on keeping a part, saving a part's bytes, adding a part to the policy and
promoting it.  A zone is one such sink (`Zone.sink`); the writer works over any.
-/

namespace PartCache

set_option autoImplicit false

/-- A writer part way through a response body. -/
structure PartWriter where
  object : ObjectId
  start : Nat
  /-- The object offset of the next byte to come. -/
  pos : Nat
  length : Nat
  objectSize : Nat
  buffer : Bytes

/-- What a whole write session did: each chunk's answer, the bytes taken, and the close. -/
structure WriteReport where
  writes : List (Except CacheError Nat)
  written : Nat
  /-- The answer of closing, or `none` when the writer was dropped unclosed. -/
  closed : Option (Except CacheError Unit)

/-- What a writer needs of its zone: the policy's verdict on keeping a part, storing a part's
bytes, and tracking a stored part.  Each answers its failure, if any. -/
structure PartSink (m : Type → Type) where
  shouldKeep : PartIndex → m Bool
  savePart : PartIndex → Bytes → m (Option CacheError)
  add : PartIndex → m (Option CacheError)
  promote : PartIndex → m Unit

/-- A zone as a writer's sink: the tiered policy keeps every part; a part is saved to the
zone's directory and tracked by its policy, deleting what the policy evicts. -/
def Zone.sink : PartSink ZoneM where
  shouldKeep _ := pure true
  savePart i data := Zone.onDisk (DiskM.attempt (DiskM.savePart i data))
  add i := tryCatch (do Zone.add i; pure none) fun e => pure (some e)
  promote := Zone.promote

namespace PartWriter

/-- A writer for a response covering a content range. -/
def new (id : ObjectId) (c : ContentRange) : PartWriter :=
  ⟨id, c.start.toNat, c.start.toNat, c.length.toNat, c.objectSize.toNat, []⟩

/-- The bytes taken so far. -/
def written (w : PartWriter) : Nat := w.pos - w.start

section Sink

variable {m : Type → Type} [Monad m] (sink : PartSink m)

/-- Keeps a part: unless the policy declines it, its bytes are saved (a part already on disk
is kept as it is) and it is added to the policy, or promoted if already tracked.  Only a
failure to save is answered. -/
def keepPart (i : PartIndex) (data : Bytes) : m (Option CacheError) := do
  if !(← sink.shouldKeep i) then return none
  match ← sink.savePart i data with
  | none | some .alreadyExists =>
    if (← sink.add i) matches some .alreadyInCache then sink.promote i
    pure none
  | some e => pure (some e)

/-- Stores the buffer as the part it starts in, emptying it. -/
def flush (w : PartWriter) (partSize : Nat) : m (PartWriter × Option CacheError) := do
  let i : PartIndex := ⟨w.object, ((w.pos - w.buffer.length) / partSize).toUInt32⟩
  let err ← keepPart sink i w.buffer
  pure ({ w with buffer := [] }, err)

/-- Takes the bytes of a chunk: skipping to a boundary, buffering, and storing whole parts. -/
def feed (partSize : Nat) : Nat → PartWriter → Bytes → m (PartWriter × Option CacheError)
  | 0, w, _ => pure (w, none)
  | fuel + 1, w, data =>
    if data.isEmpty then pure (w, none)
    else if w.buffer.isEmpty ∧ w.pos % partSize ≠ 0 then
      let skip := min (partSize - w.pos % partSize) data.length
      feed partSize fuel { w with pos := w.pos + skip } (data.drop skip)
    else
      let take := min (partSize - w.buffer.length) data.length
      let w := { w with buffer := w.buffer ++ data.take take, pos := w.pos + take }
      if w.buffer.length = partSize ∨ w.pos = w.objectSize then do
        let (w, err) ← flush sink w partSize
        match err with
        | some e => pure (w, some e)
        | none => feed partSize fuel w (data.drop take)
      else feed partSize fuel w (data.drop take)

/-- Writes one chunk: it is refused whole if it runs past the declared length. -/
def write (partSize : Nat) (w : PartWriter) (chunk : Bytes) :
    m (PartWriter × Except CacheError Nat) := do
  if w.pos + chunk.length > w.start + w.length then
    pure (w, .error (.lengthMismatch w.length (w.written + chunk.length)))
  else
    let (w, err) ← feed sink partSize (chunk.length + 1) w chunk
    match err with
    | some e => pure (w, .error e)
    | none => pure (w, .ok chunk.length)

/-- Closes a writer: all declared bytes must have come; a buffer that is a whole part or ends
the object is stored. -/
def close (partSize : Nat) (w : PartWriter) : m (Except CacheError Unit) := do
  if w.written ≠ w.length then pure (.error (.lengthMismatch w.length w.written))
  else if !w.buffer.isEmpty ∧ (w.buffer.length = partSize ∨ w.pos = w.objectSize) then
    let (_, err) ← flush sink w partSize
    match err with
    | some e => pure (.error e)
    | none => pure (.ok ())
  else pure (.ok ())

/-- Writes chunks in order, every one even after a failure, then closes if asked. -/
def session (partSize : Nat) (w : PartWriter) (chunks : List Bytes) (closing : Bool) :
    m WriteReport := do
  let mut w := w
  let mut writes : List (Except CacheError Nat) := []
  for chunk in chunks do
    let (w', r) ← write sink partSize w chunk
    w := w'
    writes := writes ++ [r]
  let closed ← if closing then some <$> close sink partSize w else pure none
  pure ⟨writes, w.written, closed⟩

end Sink

theorem write_refuses_overrun {m : Type → Type} [Monad m] (sink : PartSink m) (partSize : Nat)
    (w : PartWriter) (chunk : Bytes) (h : w.pos + chunk.length > w.start + w.length) :
    write sink partSize w chunk =
      pure (w, .error (.lengthMismatch w.length (w.written + chunk.length))) := by
  simp [write, h]

end PartWriter

end PartCache
