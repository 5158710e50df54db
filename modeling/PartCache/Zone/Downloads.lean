import PartCache.Range
import PartCache.Object.Id

/-!
# Deduplicated downloads

One coordinator owns the table of downloads in flight and is reached only through its queue of
messages, which it handles one at a time, oldest first (`handle`).  A request for a part with no
download in flight starts one, its caller the first waiter; a request for a part being
downloaded waits behind it.  When a download finishes, its message takes the part out of the
table and hands the answer to every waiter, in arrival order.

The coordinator holds its own queue only weakly: it can start a download only while some sender
of the queue is alive, the storage's or one a running download holds to report back
(`System.canStart`), and answers a request `shutdown` otherwise.

Around it runs the system (`Step`): callers send requests, each with a reply channel of its own,
while the storage accepts them; the coordinator handles the oldest message; a running download
finishes at any time with any answer; and the storage is dropped.  The system also records, for
the proofs, who sent requests and what became of each request the coordinator handled.
-/

namespace PartCache

set_option autoImplicit false

namespace Downloads

/-- A caller of a fetch, named by the reply channel it waits on. -/
abbrev Caller := Nat

/-- What a download gives the callers waiting for it. -/
abbrev Answer := Except CacheError Bytes

/-- A message on the coordinator's queue. -/
inductive Message where
  /-- A caller asks for part `index`, covering `range` of its object, answered on `reply`. -/
  | request (index : PartIndex) (range : ByteRange) (reply : Caller)
  /-- The download of part `index` ended with `result`. -/
  | finished (index : PartIndex) (result : Answer)

/-- A running download: the part and the range of the object it fetches. -/
structure Fetch where
  index : PartIndex
  range : ByteRange

/-- The downloads in flight: each part being downloaded, with the callers waiting for it in
arrival order. -/
abbrev Table := List (PartIndex × List Caller)

namespace Table

/-- The callers waiting for part `i`, when its download is in flight. -/
def waiters? (t : Table) (i : PartIndex) : Option (List Caller) := t.lookup i

/-- The table with `ws` waiting for part `i`, in place of what waited for it before. -/
def put (t : Table) (i : PartIndex) (ws : List Caller) : Table := (i, ws) :: t.filter (·.1 != i)

/-- The table without part `i`. -/
def erase (t : Table) (i : PartIndex) : Table := t.filter (·.1 != i)

/-- Every caller waiting for some download. -/
def callers (t : Table) : List Caller := (t.map (·.2)).flatten

end Table

/-- What became of a request the coordinator handled. -/
inductive Outcome where
  /-- It started a download, as its first waiter. -/
  | started
  /-- It waits for a download in flight. -/
  | joined
  /-- No download could be started, and it was answered `shutdown`. -/
  | refused
  deriving DecidableEq

/-- What handling one message does: the table after it, the replies sent in order, and the
download started. -/
structure Effect where
  table : Table
  replies : List (Caller × Answer)
  started : Option Fetch

/-- Handles one message on the table `t`; `canStart` says whether a download can still get a
sender to report back on. -/
def handle (canStart : Bool) (t : Table) : Message → Effect
  | .request i r c =>
    match t.waiters? i with
    | some ws => ⟨t.put i (ws ++ [c]), [], none⟩
    | none => if canStart then ⟨t.put i [c], [], some ⟨i, r⟩⟩ else ⟨t, [(c, .error .shutdown)], none⟩
  | .finished i res => ⟨t.erase i, ((t.waiters? i).getD []).map (·, res), none⟩

/-- What became of a request for part `i` handled on the table `t`. -/
def outcome (canStart : Bool) (t : Table) (i : PartIndex) : Outcome :=
  if (t.waiters? i).isSome then .joined else if canStart then .started else .refused

/-- The coordinator, its queue, the running downloads and the callers. -/
structure System where
  table : Table
  /-- The messages not yet handled, oldest first. -/
  queue : List Message
  fetches : List Fetch
  /-- Whether the storage is alive, holding a sender of the queue for its callers. -/
  accepting : Bool
  /-- The replies sent, oldest first. -/
  replies : List (Caller × Answer)
  /-- The callers that sent a request, oldest first. -/
  sent : List Caller
  /-- The requests handled, newest first: the caller, the part, and what became of it. -/
  log : List (Caller × PartIndex × Outcome)

namespace System

/-- Nothing sent, nothing running, the storage alive. -/
def init : System := ⟨[], [], [], true, [], [], []⟩

/-- Whether a sender of the queue is alive: the storage's, or one held by a running download. -/
def canStart (s : System) : Bool := s.accepting || !s.fetches.isEmpty

/-- The coordinator handles the oldest message, if there is one. -/
def receive (s : System) : Option System :=
  match s.queue with
  | [] => none
  | m :: rest =>
    let e := handle s.canStart s.table m
    some { s with
      table := e.table, queue := rest, fetches := s.fetches ++ e.started.toList,
      replies := s.replies ++ e.replies,
      log := match m with
        | .request i _ c => (c, i, outcome s.canStart s.table i) :: s.log
        | .finished .. => s.log }

end System

/-- One step of the system. -/
inductive Step : System → System → Prop where
  /-- A caller sends a request while the storage accepts, waiting on a reply channel of its own. -/
  | send {s : System} (i : PartIndex) (r : ByteRange) (c : Caller) (hopen : s.accepting = true)
      (hfresh : c ∉ s.sent) :
      Step s { s with queue := s.queue ++ [.request i r c], sent := s.sent ++ [c] }
  /-- The coordinator handles the oldest message. -/
  | receive {s s' : System} (h : s.receive = some s') : Step s s'
  /-- A running download ends with any answer and reports it. -/
  | finish {s : System} (before after : List Fetch) (f : Fetch) (res : Answer)
      (h : s.fetches = before ++ f :: after) :
      Step s { s with fetches := before ++ after, queue := s.queue ++ [.finished f.index res] }
  /-- The storage is dropped. -/
  | close {s : System} : Step s { s with accepting := false }

/-- The states the system reaches from `System.init`. -/
inductive Reachable : System → Prop where
  | init : Reachable System.init
  | step {s s' : System} : Reachable s → Step s s' → Reachable s'

end Downloads

end PartCache
