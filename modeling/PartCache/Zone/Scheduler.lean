/-!
# The expiry scheduler

The scheduler runs a callback for a key once the callback's delay has passed.  Two tasks share no
state and talk over two queues, each handled one message at a time, oldest first:

* the table task keeps, for each key, the sequence number and the callback of its pending event;
* the timer task keeps a heap of deadlines, each with its sequence number, and a map from
  sequence numbers to keys.  When its sleep ends it reads the clock and pops every entry due by
  then, oldest deadline first, asking the table to fire the entries the map still names.

A client call is a few atomic steps (`Call`).  `add_event` takes a sequence number from a shared
64-bit counter, reads the clock for its deadline, sends `Insert` to the table and then `Schedule`
to the timer.  `cleanup` sends `Clear` to each task in turn, `destroy` sends `Shutdown` to each,
and `contains` asks the table.  A send to a task that has stopped is lost.  The table runs a
callback only when a `Fire` names the sequence number it stores for the key, so the `Fire` of a
replaced or cleared event does nothing.

The world (`World`) holds both tasks, the calls in flight and a clock, counted in ticks, that only
moves on; `World.step` takes one atomic action of one of them.  For the proofs it also records
every `add_event` call (`World.events`: a callback is named by the number of its call), the number
of `cleanup` calls, and every message the table handled, with the callback it ran, the callbacks
it dropped and the time (`World.handled`).
-/

namespace PartCache

set_option autoImplicit false

namespace Scheduler

/-- A sequence number from the scheduler's 64-bit counter. -/
abbrev Seq := UInt64

section Types

variable (K : Type)

/-- A message to the table task.  A callback is named by the number of the `add_event` call that
handed it over, counting from zero. -/
inductive TableMessage where
  | insert (key : K) (seq : Seq) (callback : Nat)
  | fire (key : K) (seq : Seq)
  /-- A `contains` call asks about `key`; `asker` names its reply channel. -/
  | contains (key : K) (asker : Nat)
  | clear
  | shutdown
  deriving DecidableEq

/-- A message to the timer task. -/
inductive TimerMessage where
  | schedule (key : K) (seq : Seq) (due : Nat)
  | clear
  | shutdown
  deriving DecidableEq

/-- A client call in flight, by the step it takes next. -/
inductive Call where
  /-- `add_event` took sequence number `seq` for `callback`; it reads the clock next. -/
  | numbered (key : K) (delay : Nat) (seq : Seq) (callback : Nat)
  /-- `add_event` has its deadline `due`; it sends `Insert` next. -/
  | timed (key : K) (seq : Seq) (due : Nat) (callback : Nat)
  /-- `add_event` sent `Insert`; it sends `Schedule` next. -/
  | inserted (key : K) (seq : Seq) (due : Nat)
  /-- `cleanup` sent `Clear` to the table; it sends `Clear` to the timer next. -/
  | clearing
  /-- `destroy` sent `Shutdown` to the table; it sends `Shutdown` to the timer next. -/
  | stopping
  deriving DecidableEq

/-- One `add_event` call: its key, its sequence number, and its deadline once it read the
clock. -/
structure Event where
  key : K
  seq : Seq
  due : Option Nat
  deriving DecidableEq

/-- A message the table handled: the callback it ran, the callbacks it dropped, and when. -/
structure Handled where
  message : TableMessage K
  ran : Option Nat
  dropped : List Nat
  time : Nat
  deriving DecidableEq

/-- The table task: the pending event of each key, its queue, and whether it still runs. -/
structure Table where
  entries : List (K × Seq × Nat)
  queue : List (TableMessage K)
  running : Bool
  deriving DecidableEq

/-- The timer task. -/
structure Timer where
  /-- The heap of deadlines with their sequence numbers, as a bag. -/
  heap : List (Nat × Seq)
  keys : List (Seq × K)
  queue : List (TimerMessage K)
  /-- The clock reading taken when its sleep ended, while it pops what is due by then. -/
  wake : Option Nat
  running : Bool
  deriving DecidableEq

/-- Both tasks, the calls in flight and the clock, with what the proofs record. -/
structure World where
  clock : Nat
  nextSeq : Seq
  calls : List (Call K)
  table : Table K
  timer : Timer K
  /-- The replies to `contains` calls: the asker and the answer. -/
  answers : List (Nat × Bool)
  /-- The number of `contains` calls made, which names the next asker. -/
  asked : Nat
  /-- Every `add_event` call, oldest first. -/
  events : List (Event K)
  cleanups : Nat
  /-- Every message the table handled, oldest first. -/
  handled : List (Handled K)
  deriving DecidableEq

/-- One atomic action of a client, a task or the clock. -/
inductive Act where
  /-- A client calls `add_event` for `key`, to run after `delay`. -/
  | add (key : K) (delay : Nat)
  | cleanup
  | destroy
  /-- A client calls `contains` for `key`. -/
  | ask (key : K)
  /-- A call in flight takes its next step. -/
  | advance (call : Call K)
  /-- The table task handles its oldest message. -/
  | table
  /-- The timer task handles its oldest message. -/
  | receive
  /-- The timer task's sleep ends, the earliest deadline having come. -/
  | wake
  /-- The timer task pops its earliest entry if it was due at the reading, or sleeps again. -/
  | pop
  /-- The clock moves on. -/
  | tick

end Types

variable {K : Type}

namespace Table

variable (K) in
/-- A table task that has stopped: its map and its queue are gone. -/
def stopped : Table K := ⟨[], [], false⟩

/-- Sends `m` to the table task; lost once it has stopped. -/
def send (t : Table K) (m : TableMessage K) : Table K :=
  if t.running then { t with queue := t.queue ++ [m] } else t

@[simp] theorem send_entries (t : Table K) (m : TableMessage K) : (t.send m).entries = t.entries := by
  unfold send; split <;> rfl

@[simp] theorem send_running (t : Table K) (m : TableMessage K) : (t.send m).running = t.running := by
  unfold send; split <;> rfl

theorem send_queue (t : Table K) (m : TableMessage K) :
    (t.send m).queue = if t.running then t.queue ++ [m] else t.queue := by
  unfold send; split <;> rfl

end Table

namespace Timer

variable (K) in
/-- A timer task that has stopped: its heap, its map and its queue are gone. -/
def stopped : Timer K := ⟨[], [], [], none, false⟩

/-- Sends `m` to the timer task; lost once it has stopped. -/
def send (t : Timer K) (m : TimerMessage K) : Timer K :=
  if t.running then { t with queue := t.queue ++ [m] } else t

@[simp] theorem send_heap (t : Timer K) (m : TimerMessage K) : (t.send m).heap = t.heap := by
  unfold send; split <;> rfl

@[simp] theorem send_keys (t : Timer K) (m : TimerMessage K) : (t.send m).keys = t.keys := by
  unfold send; split <;> rfl

@[simp] theorem send_wake (t : Timer K) (m : TimerMessage K) : (t.send m).wake = t.wake := by
  unfold send; split <;> rfl

@[simp] theorem send_running (t : Timer K) (m : TimerMessage K) : (t.send m).running = t.running := by
  unfold send; split <;> rfl

theorem send_queue (t : Timer K) (m : TimerMessage K) :
    (t.send m).queue = if t.running then t.queue ++ [m] else t.queue := by
  unfold send; split <;> rfl

end Timer

variable [DecidableEq K]

/-- A map kept as a list with one entry per key: `v` stored for `a` in place of its entry. -/
def store {α β : Type} [DecidableEq α] (l : List (α × β)) (a : α) (v : β) : List (α × β) :=
  (a, v) :: l.filter (·.1 != a)

/-- The map without the entry of `a`. -/
def unstore {α β : Type} [DecidableEq α] (l : List (α × β)) (a : α) : List (α × β) :=
  l.filter (·.1 != a)

/-- The order the timer's heap pops in: earlier deadline first, then lower sequence number. -/
def sooner (a b : Nat × Seq) : Bool := a.1 < b.1 || (a.1 == b.1 && a.2 ≤ b.2)

/-- The entry the heap pops next. -/
def earliest : List (Nat × Seq) → Option (Nat × Seq)
  | [] => none
  | e :: rest =>
    match earliest rest with
    | none => some e
    | some a => some (if sooner a e then a else e)

/-- The timer task handles message `m`. -/
def Timer.receive (t : Timer K) : TimerMessage K → Timer K
  | .schedule k s due => { t with heap := (due, s) :: t.heap, keys := store t.keys s k }
  | .clear => { t with heap := [], keys := [] }
  | .shutdown => Timer.stopped K

namespace TableMessage

/-- The callback an `Insert` hands over. -/
def callback? : TableMessage K → Option Nat
  | insert _ _ c => some c
  | _ => none

/-- The reply channel a `contains` waits on. -/
def asker? : TableMessage K → Option Nat
  | contains _ a => some a
  | _ => none

end TableMessage

/-- What the table task does with one message. -/
structure Reaction (K : Type) where
  entries : List (K × Seq × Nat)
  ran : Option Nat
  dropped : List Nat
  reply : Option (Nat × Bool)
  stops : Bool

/-- The table task's handling of message `m`: an `Insert` replaces the key's entry, dropping its
callback; a `Fire` runs and removes the entry only if it stores the fired sequence number;
`Clear` drops every entry, and `Shutdown` stops the task, dropping them too. -/
def react (entries : List (K × Seq × Nat)) : TableMessage K → Reaction K
  | .insert k s c => ⟨store entries k (s, c), none, ((entries.lookup k).map (·.2)).toList, none, false⟩
  | .fire k s =>
    match entries.lookup k with
    | some (s', c) =>
      if s' = s then ⟨unstore entries k, some c, [], none, false⟩
      else ⟨entries, none, [], none, false⟩
    | none => ⟨entries, none, [], none, false⟩
  | .contains k a => ⟨entries, none, [], some (a, (entries.lookup k).isSome), false⟩
  | .clear => ⟨[], none, entries.map (·.2.2), none, false⟩
  | .shutdown => ⟨[], none, entries.map (·.2.2), none, true⟩


namespace World

variable (K) in
/-- Nothing scheduled, both tasks running, the clock at zero. -/
def init : World K :=
  ⟨0, 0, [], ⟨[], [], true⟩, ⟨[], [], [], none, true⟩, [], 0, [], 0, []⟩

/-- A client calls `add_event`: it takes the next sequence number, and its callback is named by
the number of the call. -/
def addEvent (W : World K) (k : K) (d : Nat) : World K :=
  { W with
    nextSeq := W.nextSeq + 1
    calls := .numbered k d W.nextSeq W.events.length :: W.calls
    events := W.events ++ [⟨k, W.nextSeq, none⟩] }

/-- A client calls `contains`: an answer `false` at once when the table has stopped. -/
def ask (W : World K) (k : K) : World K :=
  if W.table.running then
    { W with table := W.table.send (.contains k W.asked), asked := W.asked + 1 }
  else { W with answers := W.answers ++ [(W.asked, false)], asked := W.asked + 1 }

/-- The call `c`, one of those in flight, takes its next step. -/
def advance (W : World K) (c : Call K) : World K :=
  let others := W.calls.erase c
  match c with
  | .numbered k d s cb =>
    { W with
      calls := .timed k s (W.clock + d) cb :: others
      events := W.events.modify cb fun e => { e with due := some (W.clock + d) } }
  | .timed k s due cb =>
    { W with calls := .inserted k s due :: others, table := W.table.send (.insert k s cb) }
  | .inserted k s due => { W with calls := others, timer := W.timer.send (.schedule k s due) }
  | .clearing => { W with calls := others, timer := W.timer.send .clear }
  | .stopping => { W with calls := others, timer := W.timer.send .shutdown }

/-- The table task handles message `m`, the rest of its queue being `rest`.  On `Shutdown` it
stops, and the `contains` calls still queued are answered `false`. -/
def tableHandles (W : World K) (m : TableMessage K) (rest : List (TableMessage K)) : World K :=
  let r := react W.table.entries m
  { W with
    table := if r.stops then Table.stopped K else ⟨r.entries, rest, true⟩
    answers := W.answers ++ r.reply.toList ++
      if r.stops then (rest.filterMap TableMessage.asker?).map (·, false) else []
    handled := W.handled ++ [⟨m, r.ran, r.dropped, W.clock⟩] }

/-- The timer task, awake since reading `now`, pops its earliest entry if it was due by then,
asking the table to fire it if the map still names its key; it stops if the table has.  With
nothing due it goes back to sleep. -/
def timerPops (W : World K) (now : Nat) : World K :=
  match earliest W.timer.heap with
  | some e =>
    if e.1 ≤ now then
      let t := { W.timer with heap := W.timer.heap.erase e, keys := unstore W.timer.keys e.2 }
      match W.timer.keys.lookup e.2 with
      | some k =>
        if W.table.running then
          { W with timer := t, table := W.table.send (.fire k e.2) }
        else { W with timer := Timer.stopped K }
      | none => { W with timer := t }
    else { W with timer := { W.timer with wake := none } }
  | none => { W with timer := { W.timer with wake := none } }

/-- One atomic action, or `none` when it cannot be taken. -/
def step (W : World K) : Act K → Option (World K)
  | .add k d => some (W.addEvent k d)
  | .cleanup =>
    some { W with
      calls := .clearing :: W.calls, table := W.table.send .clear, cleanups := W.cleanups + 1 }
  | .destroy => some { W with calls := .stopping :: W.calls, table := W.table.send .shutdown }
  | .ask k => some (W.ask k)
  | .advance c => if c ∈ W.calls then some (W.advance c) else none
  | .table =>
    match W.table.running, W.table.queue with
    | true, m :: rest => some (W.tableHandles m rest)
    | _, _ => none
  | .receive =>
    match W.timer.running, W.timer.wake, W.timer.queue with
    | true, none, m :: rest => some { W with timer := { W.timer with queue := rest }.receive m }
    | _, _, _ => none
  | .wake =>
    match W.timer.running, W.timer.wake, earliest W.timer.heap with
    | true, none, some e =>
      if e.1 ≤ W.clock then some { W with timer := { W.timer with wake := some W.clock } }
      else none
    | _, _, _ => none
  | .pop =>
    match W.timer.running, W.timer.wake with
    | true, some now => some (W.timerPops now)
    | _, _ => none
  | .tick => some { W with clock := W.clock + 1 }

/-- The callbacks the table ran, in order. -/
def ran (W : World K) : List Nat := W.handled.filterMap (·.ran)

/-- The callbacks the table dropped without running them, in order. -/
def dropped (W : World K) : List Nat := (W.handled.map (·.dropped)).flatten

/-- The world after the actions `as`, if each can be taken. -/
def run (W : World K) : List (Act K) → Option (World K)
  | [] => some W
  | a :: as => (W.step a).bind (·.run as)

end World

variable (K) in
/-- The worlds reached from `World.init`. -/
inductive Reachable : World K → Prop where
  | init : Reachable (World.init K)
  | step {W W' : World K} (a : Act K) : Reachable W → W.step a = some W' → Reachable W'

end Scheduler

end PartCache
