import PartCache.Zone.Parts

/-!
# Reading a byte range back out of parts

A range reader serves the bytes from `first` to `last` inclusive of an object.
It opens the parts the range touches one at a time, in order, each only when the
one before is used up, so a failure leaves the later parts untouched.  From each
part it takes the bytes the range covers: it skips to the range's start in the
first part and stops at the range's end in the last.

The reader counts in 64-bit words, as the library does, and every sum wraps past
`2 ^ 64 - 1`: a part's end is its start plus the part size less one, the number
of bytes it takes is the window's end less its start plus one, and the count of
the next part goes from `2 ^ 64 - 1` on to `0`.  The part number a part is asked
for is the count cut to 32 bits.

A part that cannot be served, or whose stream cannot move to the window's start,
ends the read with its error as a stream error; a part shorter than needed ends
it with `UnexpectedEof`, saying how many bytes were missing.  The bytes read
before the failure are kept.

The reader stops once its count passes the range's last part.  Past a wrap of
the count that need not happen, so the read is cut after one part past the wrap
(`readTurns`); for a range that starts after its second byte the read has ended
there anyway, since part 0 cannot hold the window the wrapped sums ask of it.

The reader asks for parts through whatever serves them (`readParts` takes the
server as an argument); a zone serves them with `getPart` (`serveOrFail`).
-/

namespace PartCache

set_option autoImplicit false

/-- What reading a range gave: the range's length, the bytes read, and the failure if any. -/
structure ReadReport where
  length : Nat
  data : Bytes
  error : Option IoError

namespace Zone

/-- The bytes of part `p` that the range from `first` to `last` covers, in 64-bit words: how
many to skip, and how many to take. -/
def partWindow (partSize p first last : UInt64) : UInt64 × UInt64 :=
  let partStart := p * partSize
  let partEnd := partStart + partSize - 1
  let lo := max partStart first
  let hi := min partEnd last
  (lo - partStart, hi - lo + 1)

/-- Reads the parts from `next` on until the count passes `lastPart`, appending to `acc`, for at
most `turns` parts; it stops at the first part that fails.  Each part is served by `serve`, which
answers the part's bytes or the failure to serve it. -/
def readParts {m : Type → Type} [Monad m] (serve : PartIndex → m (Except CacheError PartData))
    (id : ObjectId) (partSize first last lastPart : UInt64) :
    Nat → UInt64 → Bytes → m (Bytes × Option IoError)
  | 0, _, acc => pure (acc, none)
  | turns + 1, next, acc =>
    if lastPart < next then pure (acc, none) else do
    let (skip, len) := partWindow partSize next first last
    match ← serve ⟨id, next.toUInt32⟩ with
    | .error e => pure (acc, some e.asStreamError)
    | .ok part =>
      match (if skip = 0 then .ok part else part.skip skip) with
      | .error e => pure (acc, some e.toCache.asStreamError)
      | .ok (.unreadable e) =>
        -- a window of no bytes reads nothing from the part
        if len = 0 then readParts serve id partSize first last lastPart turns (next + 1) acc
        else pure (acc, some e.asStreamError)
      | .ok (.stored data) | .ok (.downloaded data) =>
        let got := data.take len.toNat
        if got.length < len.toNat then
          pure (acc ++ got, some ⟨.unexpectedEof, "part " ++ Decimal.text next.toNat ++ " of " ++
            id.display ++ " ended " ++ Decimal.text (len.toNat - got.length) ++ " bytes early"⟩)
        else readParts serve id partSize first last lastPart turns (next + 1) (acc ++ got)

/-- How many parts a read from `first` to `last` opens at most: those of the range, and one
more past a wrap of the count. -/
def readTurns (partSize first last : UInt64) : Nat := (last / partSize - first / partSize).toNat + 2

/-- Serves a part for a reader, turning a failure into an answer. -/
def serveOrFail (i : PartIndex) : ZoneM (Except CacheError PartData) :=
  tryCatch ((fun d => Except.ok d) <$> getPart i) fun e => pure (.error e)

/-- Reads an inclusive byte range of an object; a range ending before it starts is refused. -/
def readRange (id : ObjectId) (first last : UInt64) : ZoneM ReadReport := do
  match ByteRange.make first last with
  | .error e => throw e
  | .ok r =>
    let ps := (← get).partSize
    let (data, err) ← readParts serveOrFail id ps first last (last / ps)
      (readTurns ps first last) (first / ps) []
    pure ⟨r.size.toNat, data, err⟩

end Zone

end PartCache
