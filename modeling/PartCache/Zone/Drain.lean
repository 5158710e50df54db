import PartCache.Eviction.Script
import PartCache.Store.Layout

/-!
# Evicted parts, reads and writes running together

When the policy evicts a part, its file is not deleted at once: the part goes on a channel, and
one task, the eviction drain, takes the parts off it one at a time and handles each in three
steps.  It checks whether the policy tracks the part again, a read having promoted it since,
and keeps the file if so; otherwise it deletes the file; then it checks again, and stops
tracking the part if a promotion came in meanwhile.  A failed deletion is logged and the part
left as it is.

Beside it run any number of reads of parts (a lookup, an open of the part's file, and a
promotion when the file was there) and of flushes of written parts (the part is saved unless
its file exists, then added to the policy, or promoted when it was tracked already).  Each
request to the policy is one atomic step, taken under its lock, and so is each of the other
steps.

A part's file lies at its part path, and two parts can share one: the parts of two objects
whose keys and paths give one namespace directory and one digest.  So the world keeps the paths
that hold a part file, a read or a flush looks at the path of its part, and deleting an evicted
part's file deletes the file every part at that path was using.

A world holds the policy, the paths that hold a part file, the evicted parts waiting for the
drain, where the drain stands, and the reads and flushes in flight.  It also counts the
deletions made while a read or a flush had found the file at that path and not yet told the
policy (`races`), which the code does not keep.
-/

namespace PartCache

set_option autoImplicit false

namespace Drain

/-- Where the drain stands with the part it took. -/
inductive Phase where
  | idle
  /-- It found the part untracked; it deletes the file next. -/
  | checked (i : PartIndex)
  /-- It deleted the file; it checks the policy again next. -/
  | unlinked (i : PartIndex)
  deriving DecidableEq

/-- A read of a part in flight, by the step it takes next. -/
inductive Read where
  /-- It looks the part up next. -/
  | started (i : PartIndex)
  /-- It looks for the part's file next. -/
  | looked (i : PartIndex)
  /-- It opened the file; it promotes the part next. -/
  | opened (i : PartIndex)
  deriving DecidableEq

/-- A flush of a written part in flight, by the step it takes next. -/
inductive Write where
  /-- It saves the part next. -/
  | started (i : PartIndex)
  /-- The part's file exists, saved by it or found there; it adds the part next. -/
  | saved (i : PartIndex)
  /-- Adding found the part tracked; it promotes the part next. -/
  | refused (i : PartIndex)
  deriving DecidableEq

/-- The read has found the file at `path` and not yet reported to the policy. -/
def Read.holds (path : List String) : Read → Bool
  | .opened i => Layout.partPath i == path
  | _ => false

/-- The flush has found the file at `path` and not yet reported to the policy. -/
def Write.holds (path : List String) : Write → Bool
  | .saved i | .refused i => Layout.partPath i == path
  | .started _ => false

/-- The policy, the part files, the drain and the calls in flight. -/
structure World where
  policy : Slab
  /-- The paths that hold a part file. -/
  files : List (List String)
  /-- The evicted parts on their way to the drain, oldest first. -/
  evicted : List PartIndex
  drain : Phase
  reads : List Read
  writes : List Write
  /-- The deletions of a file that a read or a flush in flight had found and not yet reported
  to the policy. -/
  races : Nat

/-- One atomic step of a caller, a read, a flush or the drain. -/
inductive Act where
  /-- A read of part `i` starts. -/
  | read (i : PartIndex)
  /-- A flush of part `i` starts. -/
  | write (i : PartIndex)
  /-- A read in flight takes its next step. -/
  | stepRead (r : Read)
  /-- A flush in flight takes its next step. -/
  | stepWrite (w : Write)
  /-- The idle drain takes the oldest evicted part and checks whether it is tracked. -/
  | take
  /-- The drain deletes the file at the part's path. -/
  | unlink
  /-- Deleting the file fails; the drain logs it and goes on. -/
  | unlinkFails
  /-- The drain checks again, and stops tracking the part if it is tracked. -/
  | recheck

/-- The action starts a read or a flush only of a part that satisfies `asked`. -/
def Act.Within (asked : PartIndex → Prop) : Act → Prop
  | .read i | .write i => asked i
  | _ => True

namespace World

/-- The policy answers a request; the parts it evicts go on the channel to the drain.  The part
size only enters the statistics, which nothing here asks for. -/
def ask (W : World) (r : TierRequest) : TierReply × World :=
  let a := W.policy.answer 0 r
  (a.1, { W with policy := a.2.2, evicted := W.evicted ++ a.2.1 })

/-- An empty policy of `capacity` parts, no files, nothing in flight. -/
def init (capacity : Nat) : World := ⟨Slab.new capacity, [], [], .idle, [], [], 0⟩

/-- A read or a flush in flight has found the file at `path` and not yet reported to the
policy. -/
def exposes (W : World) (path : List String) : Bool :=
  W.reads.any (Read.holds path) || W.writes.any (Write.holds path)

/-- The read `r`, one of those in flight, takes its next step.  A read that finds no file at its
part's path fails. -/
def stepRead (W : World) (r : Read) : World :=
  let others := W.reads.erase r
  match r with
  | .started i => { (W.ask (.lookup i)).2 with reads := .looked i :: others }
  | .looked i =>
    if Layout.partPath i ∈ W.files then { W with reads := .opened i :: others }
    else { W with reads := others }
  | .opened i => { (W.ask (.promote i)).2 with reads := others }

/-- The flush `w`, one of those in flight, takes its next step.  Saving never replaces a file:
a flush that finds a file at its part's path keeps it. -/
def stepWrite (W : World) (w : Write) : World :=
  let others := W.writes.erase w
  match w with
  | .started i =>
    { W with
      files := if Layout.partPath i ∈ W.files then W.files else Layout.partPath i :: W.files
      writes := .saved i :: others }
  | .saved i =>
    match W.ask (.add i) with
    | (.failed .alreadyInCache, W') => { W' with writes := .refused i :: others }
    | (_, W') => { W' with writes := others }
  | .refused i => { (W.ask (.promote i)).2 with writes := others }

/-- One atomic step, or `none` when it cannot be taken. -/
def step (W : World) : Act → Option World
  | .read i => some { W with reads := .started i :: W.reads }
  | .write i => some { W with writes := .started i :: W.writes }
  | .stepRead r => if r ∈ W.reads then some (W.stepRead r) else none
  | .stepWrite w => if w ∈ W.writes then some (W.stepWrite w) else none
  | .take =>
    match W.drain, W.evicted with
    | .idle, i :: rest =>
      -- read again since its eviction: the file stays
      if W.policy.contains i then some { W with evicted := rest }
      else some { W with evicted := rest, drain := .checked i }
    | _, _ => none
  | .unlink =>
    match W.drain with
    | .checked i =>
      some { W with
        files := W.files.filter (· != Layout.partPath i)
        drain := .unlinked i
        races := if W.exposes (Layout.partPath i) then W.races + 1 else W.races }
    | _ => none
  | .unlinkFails =>
    match W.drain with
    | .checked _ => some { W with drain := .idle }
    | _ => none
  | .recheck =>
    match W.drain with
    | .unlinked i =>
      if W.policy.contains i then some { (W.ask (.remove i)).2 with drain := .idle }
      else some { W with drain := .idle }
    | _ => none

/-- The world after the actions `as`, if each can be taken. -/
def run (W : World) : List Act → Option World
  | [] => some W
  | a :: as => (W.step a).bind (·.run as)

end World

/-- The worlds reached from an empty policy of `capacity` parts, with every read and flush
started for a part that satisfies `asked`. -/
inductive Reachable (capacity : Nat) (asked : PartIndex → Prop) : World → Prop where
  | init : Reachable capacity asked (World.init capacity)
  | step {W W' : World} (a : Act) : Reachable capacity asked W → a.Within asked →
      W.step a = some W' → Reachable capacity asked W'

end Drain

end PartCache
