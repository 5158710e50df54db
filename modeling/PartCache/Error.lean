import PartCache.Number.Decimal

/-!
# Errors of the cache

Every fallible operation of the cache fails with a `CacheError` that names its
cause.  The wording of each cause is given once, by `CacheError.message`; several
errors gathered from one operation fold into one by `CacheError.combine`.

Errors also cross into and out of the byte-stream world: a stream failure has an
`IoKind`, a missing object reads as `notFound`, a short stream as `unexpectedEof`.
-/

namespace PartCache

set_option autoImplicit false

/-- What went wrong in a cache operation. -/
inductive CacheError where
  /-- Metadata or a part is not stored. -/
  | notExist
  /-- Metadata or a part is already stored. -/
  | alreadyExists
  /-- A part is already tracked by the eviction policy. -/
  | alreadyInCache
  | inconsistentState (detail : String)
  | upstreamFetch (detail : String)
  /-- A stream is longer or shorter than it declared. -/
  | lengthMismatch (expected actual : Nat)
  | io (detail : String)
  | serialization (detail : String)
  | config (detail : String)
  /-- The component that owned a request went away before answering. -/
  | shutdown
  | composite (errors : List CacheError)
  deriving Inhabited

/-- The kind of a byte-stream error. -/
inductive IoKind where
  | notFound
  | alreadyExists
  | unexpectedEof
  | notADirectory
  | isADirectory
  | directoryNotEmpty
  | invalidInput
  | permissionDenied
  | invalidFilename
  | other
  deriving DecidableEq, Repr, Inhabited

/-- A byte-stream error: its kind and its text. -/
structure IoError where
  kind : IoKind
  message : String
  deriving Inhabited

namespace IoKind

/-- The name of a kind as answers show it. -/
def name : IoKind → String
  | notFound => "NotFound"
  | alreadyExists => "AlreadyExists"
  | unexpectedEof => "UnexpectedEof"
  | notADirectory => "NotADirectory"
  | isADirectory => "IsADirectory"
  | directoryNotEmpty => "DirectoryNotEmpty"
  | invalidInput => "InvalidInput"
  | permissionDenied => "PermissionDenied"
  | invalidFilename => "InvalidFilename"
  | other => "Other"

end IoKind

namespace CacheError

mutual
/-- The text of an error. -/
def message : CacheError → String
  | notExist => "object does not exist"
  | alreadyExists => "object already exists"
  | alreadyInCache => "object is already in cache"
  | inconsistentState s => "inconsistent cache state: " ++ s
  | upstreamFetch s => "upstream fetch error: " ++ s
  | lengthMismatch e a =>
    "length mismatch: expected " ++ Decimal.text e ++ " bytes, got " ++ Decimal.text a
  | io s => "IO error: " ++ s
  | serialization s => "serialization error: " ++ s
  | config s => "configuration error: " ++ s
  | shutdown => "cache component is shut down"
  | composite es => Decimal.text es.length ++ " errors: " ++ joinMessages es

/-- The texts of several errors, separated by semicolons. -/
def joinMessages : List CacheError → String
  | [] => ""
  | [e] => message e
  | e :: rest => message e ++ "; " ++ joinMessages rest
end

/-- The name of the cause, as answers show it. -/
def name : CacheError → String
  | notExist => "NotExist"
  | alreadyExists => "AlreadyExists"
  | alreadyInCache => "AlreadyInCache"
  | inconsistentState _ => "InconsistentState"
  | upstreamFetch _ => "UpstreamFetch"
  | lengthMismatch .. => "LengthMismatch"
  | io _ => "Io"
  | serialization _ => "Serialization"
  | config _ => "Config"
  | shutdown => "Shutdown"
  | composite _ => "Composite"

/-- Whether the error only says that nothing is stored. -/
def isNotExist : CacheError → Bool
  | notExist => true
  | _ => false

/-- The kind a cache error has as a byte-stream error. -/
def ioKind : CacheError → IoKind
  | notExist => .notFound
  | alreadyExists => .alreadyExists
  | lengthMismatch .. => .unexpectedEof
  | _ => .other

/-- A cache error seen as a byte-stream error; it keeps its text. -/
def asStreamError (e : CacheError) : IoError := ⟨e.ioKind, e.message⟩

/-- A byte-stream error seen as a cache error: a missing or present file keeps its meaning. -/
def ofStreamError (e : IoError) : CacheError :=
  match e.kind with
  | .notFound => notExist
  | .alreadyExists => alreadyExists
  | _ => io e.message

/-- Folds the errors of one operation: none is success, one is itself, more are a composite. -/
def combine : List CacheError → Except CacheError Unit
  | [] => .ok ()
  | [e] => .error e
  | es => .error (composite es)

theorem combine_eq_ok_iff (es : List CacheError) : combine es = .ok () ↔ es = [] := by
  match es with
  | [] => simp [combine]
  | [_] => simp [combine]
  | _ :: _ :: _ => simp [combine]

end CacheError

end PartCache
