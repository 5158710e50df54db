import PartCache.Zone.Scheduler
import PartCache.Proofs.KeyedTable
import Mathlib

/-!
# What the expiry scheduler runs, and when

Every world the scheduler reaches from its start (`Reachable`) keeps an invariant (`Sound`),
which holds as long as the 64-bit counter has not handed out the same sequence number twice,
that is, for the first `2 ^ 64` calls of `add_event`:

* every callback is in at most one place: in the call that hands it over, in an `Insert` on its
  way, stored by the table, run, or dropped;
* every message, heap entry and map entry carries the key, the sequence number and the deadline
  of the `add_event` call it stems from;
* every `Fire` on its way to the table is for a call whose deadline the clock has reached.

From it, `reachable_runs_current`: a callback runs at most once, only on a `Fire` with its own
key and sequence number, never before its deadline; a callback the table dropped, being replaced
by a later `Insert` for its key or cleared, never runs; and the table handles nothing after
`Shutdown`.
-/

namespace PartCache

set_option autoImplicit false

namespace Scheduler

/-! ## Maps kept as lists -/

section Maps

variable {α β : Type} [DecidableEq α]

theorem mem_store {l : List (α × β)} {a : α} {v : β} {x : α × β} :
    x ∈ store l a v ↔ x = (a, v) ∨ (x ∈ l ∧ x.1 ≠ a) := by
  simp [store]

theorem mem_unstore {l : List (α × β)} {a : α} {x : α × β} :
    x ∈ unstore l a ↔ x ∈ l ∧ x.1 ≠ a := by
  simp [unstore]

theorem lookup_store (l : List (α × β)) (a b : α) (v : β) :
    (store l a v).lookup b = if b = a then some v else l.lookup b :=
  KeyedTable.lookup_cons_filter_ne l a b v

theorem lookup_unstore (l : List (α × β)) (a b : α) :
    (unstore l a).lookup b = if b = a then none else l.lookup b :=
  KeyedTable.lookup_filter_ne l a b

theorem mem_of_lookup {l : List (α × β)} {a : α} {v : β} (h : l.lookup a = some v) :
    (a, v) ∈ l := by
  obtain ⟨l₁, l₂, rfl, -⟩ := List.lookup_eq_some_iff.mp h
  simp

/-- With one entry per key, an entry is what its key looks up. -/
theorem lookup_of_mem {l : List (α × β)} (hk : (l.map (·.1)).Nodup) {a : α} {v : β}
    (h : (a, v) ∈ l) : l.lookup a = some v := by
  induction l with
  | nil => simp at h
  | cons e l ih =>
    obtain ⟨a', v'⟩ := e
    have hout : a' ∉ l.map (·.1) := (List.nodup_cons.mp hk).1
    rcases List.mem_cons.mp h with he | hl
    · cases he
      simp
    · have ha : a ≠ a' := fun e => hout (e ▸ List.mem_map_of_mem hl)
      simp [List.lookup_cons, beq_false_of_ne ha, ih (List.nodup_cons.mp hk).2 hl]

theorem nodup_keys_store {l : List (α × β)} (hk : (l.map (·.1)).Nodup) (a : α) (v : β) :
    ((store l a v).map (·.1)).Nodup :=
  KeyedTable.nodup_keys_cons_filter_ne hk a v

theorem nodup_keys_unstore {l : List (α × β)} (hk : (l.map (·.1)).Nodup) (a : α) :
    ((unstore l a).map (·.1)).Nodup :=
  KeyedTable.nodup_keys_filter hk _

/-- With one entry per key, a list is the entry of `a`, if any, beside the others. -/
theorem perm_unstore {l : List (α × β)} (hk : (l.map (·.1)).Nodup) (a : α) :
    ∃ old : Option β, l.Perm (old.toList.map (a, ·) ++ unstore l a) ∧ l.lookup a = old := by
  induction l with
  | nil => exact ⟨none, by simp [unstore], rfl⟩
  | cons e l ih =>
    obtain ⟨a', v'⟩ := e
    obtain ⟨hout, hk'⟩ := List.nodup_cons.mp hk
    by_cases ha : a' = a
    · subst ha
      have hnone : l.lookup a' = none := by
        cases hl : l.lookup a' with
        | none => rfl
        | some w => exact absurd (List.mem_map_of_mem (f := (·.1)) (mem_of_lookup hl)) hout
      refine ⟨some v', ?_, by simp⟩
      simp [unstore, KeyedTable.filter_ne_of_lookup_eq_none hnone]
    · obtain ⟨old, hp, hl⟩ := ih hk'
      refine ⟨old, ?_, ?_⟩
      · have hcons : unstore ((a', v') :: l) a = (a', v') :: unstore l a := by
          simp [unstore, ha]
        rw [hcons]
        exact (hp.cons _).trans List.perm_middle.symm
      · simp [List.lookup_cons, beq_false_of_ne (Ne.symm ha), hl]

end Maps

/-! ## The heap -/

theorem mem_of_earliest {h : List (Nat × Seq)} {e : Nat × Seq} (he : earliest h = some e) :
    e ∈ h := by
  induction h generalizing e with
  | nil => simp [earliest] at he
  | cons x h ih =>
    simp only [earliest] at he
    split at he
    · cases he
      simp
    · rename_i a ha
      cases he
      split
      · exact List.mem_cons_of_mem _ (ih ha)
      · simp

/-! ## What the world holds -/

section World

variable {K : Type}

namespace Call

/-- The callback a call still holds: `add_event` holds it until it sends `Insert`. -/
def callback? : Call K → Option Nat
  | numbered _ _ _ c => some c
  | timed _ _ _ c => some c
  | _ => none

/-- The sequence number of an `add_event` call that has not yet sent `Schedule`. -/
def seq? : Call K → Option Seq
  | numbered _ _ s _ => some s
  | timed _ s _ _ => some s
  | inserted _ s _ => some s
  | _ => none

end Call

/-- The sequence number a `Schedule` carries. -/
def TimerMessage.seq? : TimerMessage K → Option Seq
  | .schedule _ s _ => some s
  | _ => none

/-- The sequence number a `Fire` carries. -/
def TableMessage.fired? : TableMessage K → Option Seq
  | .fire _ s => some s
  | _ => none

namespace World

/-- Every callback handed over: held by its call, in an `Insert` on its way, stored by the
table, run, or dropped. -/
def callbacks (W : World K) : List Nat :=
  W.calls.filterMap Call.callback? ++ W.table.queue.filterMap TableMessage.callback? ++
    W.table.entries.map (·.2.2) ++ W.ran ++ W.dropped

/-- Every sequence number on its way to a `Fire`: held by its call until it sends `Schedule`,
then in the `Schedule`, in the heap, and in the `Fire`. -/
def pending (W : World K) : List Seq :=
  W.calls.filterMap Call.seq? ++ W.timer.queue.filterMap TimerMessage.seq? ++
    W.timer.heap.map (·.2) ++ W.table.queue.filterMap TableMessage.fired?

/-- The `add_event` call of callback `c` was for key `k` with sequence number `s`, and read the
deadline `due`. -/
def Timed (W : World K) (c : Nat) (k : K) (s : Seq) (due : Nat) : Prop :=
  W.events[c]? = some ⟨k, s, some due⟩

/-- What a call in flight carries agrees with the `add_event` call it is. -/
def Agrees (W : World K) : Call K → Prop
  | .numbered k _ s c => W.events[c]? = some ⟨k, s, none⟩
  | .timed k s due c => W.Timed c k s due
  | .inserted k s due => ∃ c, W.Timed c k s due
  | .clearing => True
  | .stopping => True

end World

/-! ## The invariant -/

/-- What every world keeps while the counter has handed out no sequence number twice. -/
structure Sound (W : World K) : Prop where
  counter : W.nextSeq.toNat = W.events.length % 2 ^ 64
  seqs : ∀ c e, W.events[c]? = some e → e.seq.toNat = c % 2 ^ 64
  callbacks : W.callbacks.Nodup
  registered : ∀ c ∈ W.callbacks, c < W.events.length
  pending : W.pending.Nodup
  entryKeys : (W.table.entries.map (·.1)).Nodup
  calls : ∀ c ∈ W.calls, W.Agrees c
  inserts : ∀ k s c, .insert k s c ∈ W.table.queue → ∃ due, W.Timed c k s due
  entries : ∀ k s c, (k, s, c) ∈ W.table.entries → ∃ due, W.Timed c k s due
  schedules : ∀ k s due, .schedule k s due ∈ W.timer.queue → ∃ c, W.Timed c k s due
  heap : ∀ due s, (due, s) ∈ W.timer.heap → ∃ c k, W.Timed c k s due
  keys : ∀ s k, (s, k) ∈ W.timer.keys → ∃ c due, W.Timed c k s due
  heapKeys : ∀ s, s ∈ W.timer.heap.map (·.2) ↔ s ∈ W.timer.keys.map (·.1)
  fires : ∀ k s, .fire k s ∈ W.table.queue → ∃ c due, W.Timed c k s due ∧ due ≤ W.clock
  awake : ∀ now, W.timer.wake = some now → now ≤ W.clock
  ran : ∀ x ∈ W.handled, ∀ c, x.ran = some c →
    ∃ k s due, W.Timed c k s due ∧ x.message = .fire k s ∧ due ≤ x.time
  stopped : ∀ x ∈ W.handled, x.message = .shutdown → W.table.running = false
  last : ∀ pre x post, W.handled = pre ++ x :: post → x.message = .shutdown → post = []

variable {W : World K}

theorem Sound.init : Sound (World.init K) where
  counter := rfl
  seqs := by simp [World.init]
  callbacks := by simp [World.init, World.callbacks, World.ran, World.dropped]
  registered := by simp [World.init, World.callbacks, World.ran, World.dropped]
  pending := by simp [World.init, World.pending]
  entryKeys := by simp [World.init]
  calls := by simp [World.init]
  inserts := by simp [World.init]
  entries := by simp [World.init]
  schedules := by simp [World.init]
  heap := by simp [World.init]
  keys := by simp [World.init]
  heapKeys := by simp [World.init]
  fires := by simp [World.init]
  awake := by simp [World.init]
  ran := by simp [World.init]
  stopped := by simp [World.init]
  last := by simp [World.init]

/-- Within `2 ^ 64` calls, a sequence number names one `add_event` call. -/
theorem Sound.call_of_seq (hW : Sound W) (hlen : W.events.length ≤ 2 ^ 64) {c c' : Nat}
    {e e' : Event K} (he : W.events[c]? = some e) (he' : W.events[c']? = some e')
    (hs : e.seq = e'.seq) : c = c' := by
  obtain ⟨hc, -⟩ := List.getElem?_eq_some_iff.mp he
  obtain ⟨hc', -⟩ := List.getElem?_eq_some_iff.mp he'
  have h := hW.seqs c e he
  rw [hs, hW.seqs c' e' he', Nat.mod_eq_of_lt (by omega), Nat.mod_eq_of_lt (by omega)] at h
  exact h.symm

theorem Sound.timed_unique (hW : Sound W) (hlen : W.events.length ≤ 2 ^ 64) {c c' : Nat}
    {k k' : K} {s : Seq} {due due' : Nat} (h : W.Timed c k s due) (h' : W.Timed c' k' s due') :
    c = c' ∧ k = k' ∧ due = due' := by
  obtain rfl := hW.call_of_seq hlen h h' rfl
  rw [World.Timed, h] at h'
  cases h'
  exact ⟨rfl, rfl, rfl⟩

/-- Every sequence number on its way is that of some `add_event` call. -/
theorem Sound.pending_call (hW : Sound W) {s : Seq} (hs : s ∈ W.pending) :
    ∃ (c : Nat) (e : Event K), W.events[c]? = some e ∧ e.seq = s := by
  simp only [World.pending, List.mem_append, List.mem_filterMap, List.mem_map] at hs
  rcases hs with ((⟨call, hc, hcs⟩ | ⟨m, hm, hms⟩) | ⟨⟨due, s'⟩, hh, rfl⟩) | ⟨m, hm, hms⟩
  · have ha := hW.calls call hc
    cases call <;> simp only [Call.seq?, Option.some.injEq, reduceCtorEq] at hcs <;> subst hcs
    · exact ⟨_, _, ha, rfl⟩
    · exact ⟨_, _, ha, rfl⟩
    · obtain ⟨c, hc⟩ := ha
      exact ⟨_, _, hc, rfl⟩
  · cases m <;> simp only [TimerMessage.seq?, Option.some.injEq, reduceCtorEq] at hms
    subst hms
    obtain ⟨c, hc⟩ := hW.schedules _ _ _ hm
    exact ⟨_, _, hc, rfl⟩
  · obtain ⟨c, k, hc⟩ := hW.heap _ _ hh
    exact ⟨_, _, hc, rfl⟩
  · cases m <;> simp only [TableMessage.fired?, Option.some.injEq, reduceCtorEq] at hms
    subst hms
    obtain ⟨c, due, hc, -⟩ := hW.fires _ _ hm
    exact ⟨_, _, hc, rfl⟩

/-- A record of one more handled message: a `Shutdown` in it stands last, given none stood before. -/
theorem last_append {l : List (Handled K)} {x : Handled K}
    (hl : ∀ x ∈ l, x.message ≠ .shutdown) :
    ∀ pre y post, l ++ [x] = pre ++ y :: post → y.message = .shutdown → post = [] := by
  intro pre y post h hy
  rcases List.eq_nil_or_concat post with rfl | ⟨post', z, rfl⟩
  · rfl
  · exfalso
    have h' : l ++ [x] = (pre ++ y :: post') ++ [z] := by simpa using h
    have hlen := congrArg List.length h'
    simp only [List.length_append, List.length_cons, List.length_nil] at hlen
    have := (List.append_inj h' (by simp; omega)).1
    exact hl y (by simp [this]) hy

theorem World.count_callbacks (W : World K) (a : Nat) :
    W.callbacks.count a = (W.calls.filterMap Call.callback?).count a +
      (W.table.queue.filterMap TableMessage.callback?).count a +
      (W.table.entries.map (·.2.2)).count a + W.ran.count a + W.dropped.count a := by
  simp [World.callbacks, List.count_append, Nat.add_assoc]

theorem World.count_pending (W : World K) (a : Seq) :
    W.pending.count a = (W.calls.filterMap Call.seq?).count a +
      (W.timer.queue.filterMap TimerMessage.seq?).count a +
      (W.timer.heap.map (·.2)).count a + (W.table.queue.filterMap TableMessage.fired?).count a := by
  simp [World.pending, List.count_append, Nat.add_assoc]

/-- A world holding each callback at most as often as a sound one keeps the ledger. -/
theorem Sound.ledger {W' : World K} (hW : Sound W) (hcount : ∀ a, W'.callbacks.count a ≤ W.callbacks.count a)
    (hlen : W.events.length ≤ W'.events.length) :
    W'.callbacks.Nodup ∧ ∀ c ∈ W'.callbacks, c < W'.events.length := by
  refine ⟨List.nodup_iff_count_le_one.mpr fun a =>
    Nat.le_trans (hcount a) (List.nodup_iff_count_le_one.mp hW.callbacks a), fun c hc => ?_⟩
  have hpos := Nat.lt_of_lt_of_le (List.count_pos_iff.mpr hc) (hcount c)
  exact Nat.lt_of_lt_of_le (hW.registered c (List.count_pos_iff.mp hpos)) hlen

theorem Sound.pending_le {W' : World K} (hW : Sound W) (hcount : ∀ a, W'.pending.count a ≤ W.pending.count a) :
    W'.pending.Nodup :=
  List.nodup_iff_count_le_one.mpr fun a =>
    Nat.le_trans (hcount a) (List.nodup_iff_count_le_one.mp hW.pending a)

end World

/-! ## Sending -/

section Sending

variable {K : Type}

theorem Table.mem_send_queue {t : Table K} {m x : TableMessage K} (h : x ∈ (t.send m).queue) :
    x ∈ t.queue ∨ x = m := by
  rw [Table.send_queue] at h
  split at h <;> simp_all

theorem Table.filterMap_send_queue {β : Type} (t : Table K) {m : TableMessage K}
    {f : TableMessage K → Option β} (hf : f m = none) :
    (t.send m).queue.filterMap f = t.queue.filterMap f := by
  rw [Table.send_queue]
  split <;> simp [hf]

theorem Timer.mem_send_queue {t : Timer K} {m x : TimerMessage K} (h : x ∈ (t.send m).queue) :
    x ∈ t.queue ∨ x = m := by
  rw [Timer.send_queue] at h
  split at h <;> simp_all

theorem Timer.filterMap_send_queue {β : Type} (t : Timer K) {m : TimerMessage K}
    {f : TimerMessage K → Option β} (hf : f m = none) :
    (t.send m).queue.filterMap f = t.queue.filterMap f := by
  rw [Timer.send_queue]
  split <;> simp [hf]

end Sending

/-! ## Steps that carry no callback and no sequence number -/

section Quiet

variable {K : Type} {W : World K}

/-- Sending the table a message that is neither an `Insert` nor a `Fire`. -/
theorem Sound.sendTable (hW : Sound W) {m : TableMessage K} (hc : m.callback? = none)
    (hf : m.fired? = none) : Sound { W with table := W.table.send m } :=
  have hcb : World.callbacks { W with table := W.table.send m } = W.callbacks := by
    simp only [World.callbacks, Table.filterMap_send_queue _ hc, Table.send_entries]
    rfl
  have hp : World.pending { W with table := W.table.send m } = W.pending := by
    simp only [World.pending, Table.filterMap_send_queue _ hf]
  { hW with
    callbacks := hcb ▸ hW.callbacks
    registered := hcb ▸ hW.registered
    pending := hp ▸ hW.pending
    entryKeys := by simpa only [Table.send_entries] using hW.entryKeys
    entries := fun k s c h => hW.entries k s c (by simpa only [Table.send_entries] using h)
    stopped := by simpa only [Table.send_running] using hW.stopped
    inserts := fun k s c h => (Table.mem_send_queue h).elim (hW.inserts k s c) fun e => by
      subst e; simp [TableMessage.callback?] at hc
    fires := fun k s h => (Table.mem_send_queue h).elim (hW.fires k s) fun e => by
      subst e; simp [TableMessage.fired?] at hf }

/-- Sending the timer a message that is not a `Schedule`. -/
theorem Sound.sendTimer (hW : Sound W) {m : TimerMessage K} (hs : m.seq? = none) :
    Sound { W with timer := W.timer.send m } :=
  have hp : World.pending { W with timer := W.timer.send m } = W.pending := by
    simp only [World.pending, Timer.filterMap_send_queue _ hs, Timer.send_heap]
  { hW with
    pending := hp ▸ hW.pending
    schedules := fun k s due h => (Timer.mem_send_queue h).elim (hW.schedules k s due) fun e => by
      subst e; simp [TimerMessage.seq?] at hs
    heap := fun due s h => hW.heap due s (by simpa only [Timer.send_heap] using h)
    keys := fun s k h => hW.keys s k (by simpa only [Timer.send_keys] using h)
    heapKeys := by simpa only [Timer.send_heap, Timer.send_keys] using hW.heapKeys
    awake := by simpa only [Timer.send_wake] using hW.awake }

/-- A `cleanup` or a `destroy` call in flight. -/
def Call.Quiet (c : Call K) : Prop := c = .clearing ∨ c = .stopping

theorem Call.Quiet.callback? {c : Call K} (hc : c.Quiet) : c.callback? = none := by
  rcases hc with rfl | rfl <;> rfl

theorem Call.Quiet.seq? {c : Call K} (hc : c.Quiet) : c.seq? = none := by
  rcases hc with rfl | rfl <;> rfl

theorem Call.Quiet.agrees {c : Call K} (hc : c.Quiet) (W : World K) : W.Agrees c := by
  rcases hc with rfl | rfl <;> trivial

/-- A `cleanup` or `destroy` call starts. -/
theorem Sound.consQuiet (hW : Sound W) {c : Call K} (hc : c.Quiet) :
    Sound { W with calls := c :: W.calls } :=
  have hcbs : World.callbacks { W with calls := c :: W.calls } = W.callbacks := by
    simp [World.callbacks, World.ran, World.dropped, hc.callback?]
  have hp : World.pending { W with calls := c :: W.calls } = W.pending := by
    simp [World.pending, hc.seq?]
  { hW with
    callbacks := hcbs ▸ hW.callbacks
    registered := hcbs ▸ hW.registered
    pending := hp ▸ hW.pending
    calls := fun c' h => (List.mem_cons.mp h).elim (fun e => by subst e; exact hc.agrees _)
      (hW.calls c') }

theorem Sound.tick (hW : Sound W) : Sound { W with clock := W.clock + 1 } :=
  { hW with
    fires := fun k s h => by
      obtain ⟨c, due, hc, hd⟩ := hW.fires k s h
      exact ⟨c, due, hc, Nat.le_succ_of_le hd⟩
    awake := fun now h => Nat.le_succ_of_le (hW.awake now h) }

theorem Sound.wake (hW : Sound W) :
    Sound { W with timer := { W.timer with wake := some W.clock } } :=
  { hW with awake := fun now h => by cases h; exact Nat.le_refl _ }

/-- The replies to `contains` and the count of `cleanup` calls are not read. -/
theorem Sound.bookkeeping (hW : Sound W) (answers : List (Nat × Bool)) (asked cleanups : Nat) :
    Sound { W with answers := answers, asked := asked, cleanups := cleanups } :=
  { hW with }

/-- The timer task goes back to sleep. -/
theorem Sound.sleep (hW : Sound W) : Sound { W with timer := { W.timer with wake := none } } :=
  { hW with awake := by simp }

variable [DecidableEq K]

/-- A `cleanup` or `destroy` call ends. -/
theorem Sound.eraseQuiet (hW : Sound W) {c : Call K} (hm : c ∈ W.calls) (hc : c.Quiet) :
    Sound { W with calls := W.calls.erase c } :=
  have hperm := List.perm_cons_erase hm
  have hcbs : (World.callbacks { W with calls := W.calls.erase c }).Perm W.callbacks := by
    have := hperm.filterMap Call.callback?
    rw [List.filterMap_cons_none hc.callback?] at this
    exact (((this.symm.append_right _).append_right _).append_right _).append_right _
  have hp : (World.pending { W with calls := W.calls.erase c }).Perm W.pending := by
    have := hperm.filterMap Call.seq?
    rw [List.filterMap_cons_none hc.seq?] at this
    exact ((this.symm.append_right _).append_right _).append_right _
  { hW with
    callbacks := hcbs.symm.nodup hW.callbacks
    registered := fun c' h => hW.registered c' (hcbs.subset h)
    pending := hp.symm.nodup hW.pending
    calls := fun c' h => hW.calls c' (List.mem_of_mem_erase h) }

end Quiet

/-! ## `add_event` -/

section Add

variable {K : Type} {W W' : World K}

/-- What holds of the calls recorded in `W` holds in `W'` when `W'` keeps every recorded call
that has read its deadline. -/
theorem World.Agrees.mono {call : Call K}
    (hev : ∀ (c : Nat) (e : Event K), W.events[c]? = some e → W'.events[c]? = some e)
    (h : W.Agrees call) :
    W'.Agrees call := by
  cases call with
  | numbered k d s c => exact hev _ _ h
  | timed k s due c => exact hev _ _ h
  | inserted k s due => obtain ⟨c, hc⟩ := h; exact ⟨c, hev _ _ hc⟩
  | clearing => trivial
  | stopping => trivial

/-- What `Sound` says of the messages, the table, the timer and the record of handled messages
carries over to a world that changes none of them and keeps every recorded deadline. -/
theorem Sound.recorded (hW : Sound W)
    (hev : ∀ (c : Nat) (k : K) (s : Seq) (due : Nat), W.Timed c k s due → W'.Timed c k s due)
    (hqueue : W'.table = W.table) (htimer : W'.timer = W.timer) (hh : W'.handled = W.handled)
    (hclock : W'.clock = W.clock) :
    (∀ k s c, .insert k s c ∈ W'.table.queue → ∃ due, W'.Timed c k s due) ∧
    (∀ k s c, (k, s, c) ∈ W'.table.entries → ∃ due, W'.Timed c k s due) ∧
    (∀ k s due, .schedule k s due ∈ W'.timer.queue → ∃ c, W'.Timed c k s due) ∧
    (∀ due s, (due, s) ∈ W'.timer.heap → ∃ c k, W'.Timed c k s due) ∧
    (∀ s k, (s, k) ∈ W'.timer.keys → ∃ c due, W'.Timed c k s due) ∧
    (∀ k s, .fire k s ∈ W'.table.queue → ∃ c due, W'.Timed c k s due ∧ due ≤ W'.clock) ∧
    (∀ x ∈ W'.handled, ∀ c, x.ran = some c →
      ∃ k s due, W'.Timed c k s due ∧ x.message = .fire k s ∧ due ≤ x.time) := by
  rw [hqueue, htimer, hh, hclock]
  refine ⟨fun k s c h => ?_, fun k s c h => ?_, fun k s due h => ?_, fun due s h => ?_,
    fun s k h => ?_, fun k s h => ?_, fun x hx c h => ?_⟩
  · obtain ⟨due, hd⟩ := hW.inserts k s c h; exact ⟨due, hev _ _ _ _ hd⟩
  · obtain ⟨due, hd⟩ := hW.entries k s c h; exact ⟨due, hev _ _ _ _ hd⟩
  · obtain ⟨c, hc⟩ := hW.schedules k s due h; exact ⟨c, hev _ _ _ _ hc⟩
  · obtain ⟨c, k, hc⟩ := hW.heap due s h; exact ⟨c, k, hev _ _ _ _ hc⟩
  · obtain ⟨c, due, hc⟩ := hW.keys s k h; exact ⟨c, due, hev _ _ _ _ hc⟩
  · obtain ⟨c, due, hc, hd⟩ := hW.fires k s h; exact ⟨c, due, hev _ _ _ _ hc, hd⟩
  · obtain ⟨k, s, due, hc, hm, hd⟩ := hW.ran x hx c h; exact ⟨k, s, due, hev _ _ _ _ hc, hm, hd⟩

/-- The sequence number the counter hands out next is on no way to a `Fire`. -/
theorem Sound.fresh_seq (hW : Sound W) (hlen : W.events.length < 2 ^ 64) :
    W.nextSeq ∉ W.pending := by
  intro hs
  obtain ⟨c, e, he, hes⟩ := hW.pending_call hs
  have hc : c < W.events.length := (List.getElem?_eq_some_iff.mp he).1
  have h := hW.seqs c e he
  rw [hes, hW.counter] at h
  omega

theorem Sound.add (hW : Sound W) (k : K) (d : Nat) (hlen : W.events.length < 2 ^ 64) :
    Sound (W.addEvent k d) :=
  have hev : ∀ (c : Nat) (e : Event K), W.events[c]? = some e →
      (W.addEvent k d).events[c]? = some e := fun c e h => by
    show (W.events ++ _)[c]? = some e
    rw [List.getElem?_append_left (List.getElem?_eq_some_iff.mp h).1]
    exact h
  have hnew : (W.addEvent k d).events[W.events.length]? = some ⟨k, W.nextSeq, none⟩ := by
    simp [World.addEvent]
  have hcbs : (W.addEvent k d).callbacks = W.events.length :: W.callbacks := by
    simp [World.addEvent, World.callbacks, World.ran, World.dropped, Call.callback?]
  have hp : (W.addEvent k d).pending = W.nextSeq :: W.pending := by
    simp [World.addEvent, World.pending, Call.seq?]
  have ⟨hins, hent, hsch, hheap, hkeys, hfire, hran⟩ :=
    hW.recorded (fun c k s due h => hev _ _ h) rfl rfl rfl rfl
  { hW with
    counter := by
      simp only [World.addEvent, List.length_append, List.length_singleton]
      rw [UInt64.toNat_add, hW.counter, UInt64.toNat_one]
      omega
    seqs := fun c e h => by
      by_cases hc : c < W.events.length
      · rw [World.addEvent, List.getElem?_append_left hc] at h
        exact hW.seqs c e h
      · have hc' : c = W.events.length := by
          have := (List.getElem?_eq_some_iff.mp h).1
          simp [World.addEvent] at this
          omega
        subst hc'
        rw [hnew] at h
        cases h
        exact hW.counter
    callbacks := by
      rw [hcbs]
      exact List.nodup_cons.mpr ⟨fun h => Nat.lt_irrefl _ (hW.registered _ h), hW.callbacks⟩
    registered := fun c h => by
      rw [hcbs] at h
      simp only [World.addEvent, List.length_append, List.length_singleton]
      rcases List.mem_cons.mp h with rfl | h
      · exact Nat.lt_succ_self _
      · exact Nat.lt_succ_of_lt (hW.registered c h)
    pending := by
      rw [hp]
      exact List.nodup_cons.mpr ⟨hW.fresh_seq hlen, hW.pending⟩
    calls := fun c h => by
      rcases List.mem_cons.mp h with rfl | h
      · exact hnew
      · exact (hW.calls c h).mono hev
    inserts := hins
    entries := hent
    schedules := hsch
    heap := hheap
    keys := hkeys
    fires := hfire
    ran := hran }

end Add

/-! ## Calls in flight -/

section Advance

variable {K : Type} [DecidableEq K] {W W' : World K}

theorem count_filterMap_erase {α β : Type} [DecidableEq α] [DecidableEq β] (f : α → Option β)
    {l : List α} {c : α} (h : c ∈ l) (b : β) :
    (l.filterMap f).count b = ((l.erase c).filterMap f).count b + (f c).toList.count b := by
  rw [((List.perm_cons_erase h).filterMap f).count_eq b]
  cases hc : f c <;> simp [hc, List.count_cons]

/-- An `add_event` call reads the clock: its deadline is recorded. -/
theorem Sound.readClock (hW : Sound W) {k : K} {d : Nat} {s : Seq} {cb : Nat}
    (hm : .numbered k d s cb ∈ W.calls) : Sound (W.advance (.numbered k d s cb)) := by
  have hold : W.events[cb]? = some ⟨k, s, none⟩ := hW.calls _ hm
  have hcb : cb < W.events.length := (List.getElem?_eq_some_iff.mp hold).1
  let W' := W.advance (.numbered k d s cb)
  have hget : ∀ c, W'.events[c]? = if cb = c then some ⟨k, s, some (W.clock + d)⟩ else W.events[c]? := by
    intro c
    simp only [W', World.advance, List.getElem?_modify]
    split
    · subst_vars; rw [hold]; rfl
    · simp
  have hT : ∀ c k' s' due, W.Timed c k' s' due → W'.Timed c k' s' due := fun c k' s' due h => by
    unfold World.Timed at h ⊢
    rw [hget]
    split
    · subst_vars; rw [hold] at h; cases h
    · exact h
  -- the call keeps its callback and its sequence number, so neither ledger moves
  have hcbs : ∀ a, W'.callbacks.count a = W.callbacks.count a := fun a => by
    simp only [W', World.advance, World.callbacks, World.ran, World.dropped, List.count_append,
      count_filterMap_erase Call.callback? hm a, List.filterMap_cons, Call.callback?]
    simp [List.count_cons]
  have hps : ∀ a, W'.pending.count a = W.pending.count a := fun a => by
    simp only [W', World.advance, World.pending, List.count_append,
      count_filterMap_erase Call.seq? hm a, List.filterMap_cons, Call.seq?]
    simp [List.count_cons]
  have ⟨hins, hent, hsch, hheap, hkeys, hfire, hran⟩ := hW.recorded hT rfl rfl rfl rfl
  have hlen : W'.events.length = W.events.length := List.length_modify _ _ _
  exact
  { hW with
    counter := hlen ▸ hW.counter
    seqs := fun c e h => by
      rw [hget] at h
      split at h
      · subst_vars; cases h; exact hW.seqs _ ⟨k, s, none⟩ hold
      · exact hW.seqs c e h
    callbacks := (hW.ledger (fun a => Nat.le_of_eq (hcbs a)) (Nat.le_of_eq hlen.symm)).1
    registered := (hW.ledger (fun a => Nat.le_of_eq (hcbs a)) (Nat.le_of_eq hlen.symm)).2
    pending := hW.pending_le fun a => Nat.le_of_eq (hps a)
    calls := fun c h => by
      rcases List.mem_cons.mp h with rfl | h
      · show W'.events[cb]? = _
        rw [hget, if_pos rfl]
      · have hc := hW.calls c (List.mem_of_mem_erase h)
        cases c with
        | numbered k' d' s' cb' =>
          -- another call holds another callback: the ledger has each callback once
          have hne : cb ≠ cb' := by
            rintro rfl
            have hn := List.nodup_iff_count_le_one.mp hW.callbacks cb
            have h2 := count_filterMap_erase Call.callback? hm cb
            have h3 := count_filterMap_erase Call.callback? h cb
            simp only [Call.callback?, Option.toList_some, List.count_singleton, beq_self_eq_true,
              if_true] at h2 h3
            have : 2 ≤ W.callbacks.count cb := by
              simp only [World.callbacks, List.count_append]
              omega
            omega
          show W'.events[cb']? = _
          rw [hget, if_neg hne]
          exact hc
        | timed => exact hT _ _ _ _ hc
        | inserted k' s' due' => obtain ⟨c', hc'⟩ := hc; exact ⟨c', hT _ _ _ _ hc'⟩
        | clearing => trivial
        | stopping => trivial
    inserts := hins
    entries := hent
    schedules := hsch
    heap := hheap
    keys := hkeys
    fires := hfire
    ran := hran }

/-- An `add_event` call sends `Insert`, handing its callback to the table. -/
theorem Sound.sendInsert (hW : Sound W) {k : K} {s : Seq} {due cb : Nat}
    (hm : .timed k s due cb ∈ W.calls) : Sound (W.advance (.timed k s due cb)) := by
  have hT : W.Timed cb k s due := hW.calls _ hm
  let W' := W.advance (.timed k s due cb)
  -- the callback leaves the call for the table's queue, or is lost if the table has stopped
  have hcbs : ∀ a, W'.callbacks.count a ≤ W.callbacks.count a := fun a => by
    simp only [W', World.advance, World.callbacks, World.ran, World.dropped, List.count_append,
      count_filterMap_erase Call.callback? hm a, List.filterMap_cons, Call.callback?,
      Table.send_queue, Table.send_entries]
    split
    · simp [TableMessage.callback?, List.count_cons]
      omega
    · simp [List.count_cons]
  have hps : ∀ a, W'.pending.count a = W.pending.count a := fun a => by
    simp only [W', World.advance, World.pending, List.count_append,
      count_filterMap_erase Call.seq? hm a, List.filterMap_cons, Call.seq?,
      Table.filterMap_send_queue _ (rfl : TableMessage.fired? (.insert k s cb) = none)]
    simp [List.count_cons]
  exact
  { hW with
    callbacks := (hW.ledger hcbs (Nat.le_refl _)).1
    registered := (hW.ledger hcbs (Nat.le_refl _)).2
    pending := hW.pending_le fun a => Nat.le_of_eq (hps a)
    entryKeys := by simpa only [W', World.advance, Table.send_entries] using hW.entryKeys
    entries := fun k' s' c' h => hW.entries k' s' c' (by simpa [W', World.advance] using h)
    stopped := by simpa only [W', World.advance, Table.send_running] using hW.stopped
    calls := fun c h => by
      rcases List.mem_cons.mp h with rfl | h
      · exact ⟨cb, hT⟩
      · exact hW.calls c (List.mem_of_mem_erase h)
    inserts := fun k' s' c' h => (Table.mem_send_queue h).elim (hW.inserts k' s' c') fun e => by
      cases e; exact ⟨due, hT⟩
    fires := fun k' s' h => (Table.mem_send_queue h).elim (hW.fires k' s') fun e => by cases e }

/-- An `add_event` call sends `Schedule`, handing its sequence number to the timer. -/
theorem Sound.sendSchedule (hW : Sound W) {k : K} {s : Seq} {due : Nat}
    (hm : .inserted k s due ∈ W.calls) : Sound (W.advance (.inserted k s due)) := by
  obtain ⟨cb, hT⟩ : ∃ cb, W.Timed cb k s due := hW.calls _ hm
  let W' := W.advance (.inserted k s due)
  have hcbs : ∀ a, W'.callbacks.count a = W.callbacks.count a := fun a => by
    simp only [W', World.advance, World.callbacks, World.ran, World.dropped, List.count_append,
      count_filterMap_erase Call.callback? hm a, Call.callback?]
    simp
  -- the sequence number leaves the call for the timer's queue, or is lost if the timer stopped
  have hps : ∀ a, W'.pending.count a ≤ W.pending.count a := fun a => by
    simp only [W', World.advance, World.pending, List.count_append,
      count_filterMap_erase Call.seq? hm a, Call.seq?, Timer.send_queue, Timer.send_heap]
    split
    · simp [TimerMessage.seq?, List.count_cons]
      omega
    · simp [List.count_cons]
  exact
  { hW with
    callbacks := (hW.ledger (fun a => Nat.le_of_eq (hcbs a)) (Nat.le_refl _)).1
    registered := (hW.ledger (fun a => Nat.le_of_eq (hcbs a)) (Nat.le_refl _)).2
    pending := hW.pending_le hps
    calls := fun c h => hW.calls c (List.mem_of_mem_erase h)
    schedules := fun k' s' due' h => (Timer.mem_send_queue h).elim (hW.schedules k' s' due')
      fun e => by cases e; exact ⟨cb, hT⟩
    heap := fun due' s' h => hW.heap due' s' (by simpa [W', World.advance] using h)
    keys := fun s' k' h => hW.keys s' k' (by simpa [W', World.advance] using h)
    heapKeys := by simpa only [W', World.advance, Timer.send_heap, Timer.send_keys] using hW.heapKeys
    awake := by simpa only [W', World.advance, Timer.send_wake] using hW.awake }

/-- A `cleanup` or `destroy` call sends its message to the timer and ends. -/
theorem Sound.sendQuiet (hW : Sound W) {c : Call K} (hm : c ∈ W.calls) (hc : c.Quiet) :
    Sound (W.advance c) := by
  rcases hc with rfl | rfl
  · exact (hW.eraseQuiet hm (.inl rfl)).sendTimer (m := .clear) rfl
  · exact (hW.eraseQuiet hm (.inr rfl)).sendTimer (m := .shutdown) rfl

theorem Sound.advance (hW : Sound W) {c : Call K} (hm : c ∈ W.calls) : Sound (W.advance c) := by
  cases c with
  | numbered => exact hW.readClock hm
  | timed => exact hW.sendInsert hm
  | inserted => exact hW.sendSchedule hm
  | clearing => exact hW.sendQuiet hm (.inl rfl)
  | stopping => exact hW.sendQuiet hm (.inr rfl)

end Advance

/-! ## The table task -/

section TableTask

variable {K : Type} [DecidableEq K]

/-- The table loses no callback: what it stores after a message, runs and drops is what it stored
before and what the message brought. -/
theorem react_perm {entries : List (K × Seq × Nat)} (hk : (entries.map (·.1)).Nodup)
    (m : TableMessage K) :
    ((react entries m).entries.map (·.2.2) ++ (react entries m).ran.toList ++
      (react entries m).dropped).Perm (m.callback?.toList ++ entries.map (·.2.2)) := by
  cases m with
  | insert k s c =>
    obtain ⟨old, hp, hl⟩ := perm_unstore hk k
    -- the key's old entry, if any, is dropped; the other entries stay
    have hmap : (entries.map (·.2.2)).Perm
        ((unstore entries k).map (·.2.2) ++ (old.map (·.2)).toList) := by
      refine List.Perm.trans ?_ List.perm_append_comm
      cases old <;> simpa using hp.map (·.2.2)
    simpa [react, store, hl, TableMessage.callback?, unstore] using hmap.symm
  | fire k s =>
    simp only [react]
    split
    · rename_i s' c hl
      split
      · obtain ⟨old, hp, hl'⟩ := perm_unstore hk k
        rw [hl] at hl'
        subst hl'
        have hmap := hp.map (·.2.2)
        simp only [List.map_append, List.map_map] at hmap
        simp only [TableMessage.callback?, Option.toList_some, Option.toList_none, List.nil_append,
          List.append_nil]
        exact List.perm_append_comm.trans (by simpa [Function.comp_def] using hmap.symm)
      · simp [TableMessage.callback?]
    · simp [TableMessage.callback?]
  | contains k a => simp [react, TableMessage.callback?]
  | clear => simp [react, TableMessage.callback?]
  | shutdown => simp [react, TableMessage.callback?]

theorem react_stops {entries : List (K × Seq × Nat)} {m : TableMessage K} :
    (react entries m).stops = true ↔ m = .shutdown := by
  cases m with
  | fire k s =>
    simp only [react, reduceCtorEq, iff_false]
    split
    · split <;> simp
    · simp
  | _ => simp [react]

/-- After a message the table stores what it stored, less what it removed, and the entry an
`Insert` brought. -/
theorem mem_react_entries {entries : List (K × Seq × Nat)} {m : TableMessage K} {x : K × Seq × Nat}
    (h : x ∈ (react entries m).entries) :
    x ∈ entries ∨ ∃ k s c, m = .insert k s c ∧ x = (k, s, c) := by
  cases m with
  | insert k s c =>
    rcases mem_store.mp h with rfl | ⟨h, -⟩
    · exact .inr ⟨k, s, c, rfl, rfl⟩
    · exact .inl h
  | fire k s =>
    simp only [react] at h
    split at h
    · split at h
      · exact .inl (mem_unstore.mp h).1
      · exact .inl h
    · exact .inl h
  | contains => exact .inl h
  | clear => simp [react] at h
  | shutdown => simp [react] at h

theorem react_entryKeys {entries : List (K × Seq × Nat)} (hk : (entries.map (·.1)).Nodup)
    (m : TableMessage K) : ((react entries m).entries.map (·.1)).Nodup := by
  cases m with
  | insert k s c => exact nodup_keys_store hk k (s, c)
  | fire k s =>
    simp only [react]
    split
    · split
      · exact nodup_keys_unstore hk k
      · exact hk
    · exact hk
  | contains => exact hk
  | clear => simp [react]
  | shutdown => simp [react]

/-- The table runs a callback only on a `Fire` naming the sequence number it stores for the key. -/
theorem react_ran {entries : List (K × Seq × Nat)} {m : TableMessage K} {c : Nat}
    (h : (react entries m).ran = some c) :
    ∃ k s, m = .fire k s ∧ entries.lookup k = some (s, c) := by
  cases m with
  | fire k s =>
    simp only [react] at h
    split at h
    · rename_i s' c' hl
      split at h
      · cases h
        subst_vars
        exact ⟨k, s', rfl, hl⟩
      · cases h
    · cases h
  | _ => simp [react] at h

variable {W : World K}

/-- The table task handles its oldest message. -/
theorem Sound.handle (hW : Sound W) (hlen : W.events.length ≤ 2 ^ 64) {m : TableMessage K}
    {rest : List (TableMessage K)} (hrun : W.table.running = true) (hq : W.table.queue = m :: rest) :
    Sound (W.tableHandles m rest) := by
  let W' := W.tableHandles m rest
  have hperm := react_perm hW.entryKeys m
  have hnone : ∀ x ∈ W.handled, x.message ≠ .shutdown := fun x hx h => by
    simp [hW.stopped x hx h] at hrun
  -- a stopping table keeps nothing; otherwise it keeps what `react` leaves and the rest of its queue
  have hentries : W'.table.entries = (react W.table.entries m).entries := by
    simp only [W', World.tableHandles]
    split
    · rename_i hs; rw [react_stops.mp hs]; rfl
    · rfl
  have hqueue : W'.table.queue = if m = .shutdown then [] else rest := by
    simp only [W', World.tableHandles]
    by_cases hs : m = .shutdown
    · rw [if_pos (react_stops.mpr hs), if_pos hs]; rfl
    · rw [if_neg (fun h => hs (react_stops.mp h)), if_neg hs]
  have hsub : ∀ x ∈ W'.table.queue, x ∈ W.table.queue := fun x hx => by
    rw [hqueue] at hx
    split at hx
    · simp at hx
    · rw [hq]; exact List.mem_cons_of_mem _ hx
  have hcount : ∀ {β : Type} [DecidableEq β] (f : TableMessage K → Option β) (b : β),
      (W'.table.queue.filterMap f).count b + (f m).toList.count b ≤
        (W.table.queue.filterMap f).count b := fun f b => by
    rw [hqueue, hq, List.filterMap_cons]
    split <;> cases f m <;> simp [List.count_cons]
  have hcbs : ∀ a, W'.callbacks.count a ≤ W.callbacks.count a := fun a => by
    have h1 := hperm.count_eq a
    have h2 := hcount TableMessage.callback? a
    have hran : W'.ran = W.ran ++ (react W.table.entries m).ran.toList := by
      simp only [W', World.ran, World.tableHandles, List.filterMap_append]
      cases (react W.table.entries m).ran <;> rfl
    have hdrop : W'.dropped = W.dropped ++ (react W.table.entries m).dropped := by
      simp [W', World.dropped, World.tableHandles]
    simp only [List.count_append] at h1
    rw [World.count_callbacks, World.count_callbacks, hran, hdrop, hentries,
      show W'.calls = W.calls from rfl]
    simp only [List.count_append]
    omega
  have hps : ∀ a, W'.pending.count a ≤ W.pending.count a := fun a => by
    have h2 := hcount TableMessage.fired? a
    rw [World.count_pending, World.count_pending, show W'.calls = W.calls from rfl,
      show W'.timer = W.timer from rfl]
    omega
  exact
  { hW with
    callbacks := (hW.ledger hcbs (Nat.le_refl _)).1
    registered := (hW.ledger hcbs (Nat.le_refl _)).2
    pending := hW.pending_le hps
    entryKeys := hentries ▸ react_entryKeys hW.entryKeys m
    entries := fun k s c h => by
      rw [hentries] at h
      rcases mem_react_entries h with h | ⟨k', s', c', rfl, e⟩
      · exact hW.entries k s c h
      · cases e; exact hW.inserts k s c (by rw [hq]; exact List.mem_cons_self)
    inserts := fun k s c h => hW.inserts k s c (hsub _ h)
    fires := fun k s h => hW.fires k s (hsub _ h)
    ran := fun x hx c hc => by
      simp only [World.tableHandles, List.mem_append, List.mem_singleton] at hx
      rcases hx with hx | rfl
      · exact hW.ran x hx c hc
      · obtain ⟨k, s, rfl, hl⟩ := react_ran hc
        obtain ⟨due, hT⟩ := hW.entries k s c (mem_of_lookup hl)
        obtain ⟨c', due', hT', hd⟩ := hW.fires k s (by rw [hq]; exact List.mem_cons_self)
        obtain ⟨-, -, rfl⟩ := hW.timed_unique hlen hT hT'
        exact ⟨k, s, due, hT, rfl, hd⟩
    stopped := fun x hx hs => by
      simp only [World.tableHandles, List.mem_append, List.mem_singleton] at hx
      rcases hx with hx | rfl
      · exact absurd hs (hnone x hx)
      · simp only [World.tableHandles, react_stops.mpr hs, if_true]; rfl
    last := last_append hnone }

end TableTask

/-! ## The timer task -/

section TimerTask

variable {K : Type} {W : World K}

/-- Popping an entry from a heap whose sequence numbers are distinct takes its number out. -/
theorem mem_map_erase {h : List (Nat × Seq)} (hnd : (h.map (·.2)).Nodup) {e : Nat × Seq}
    (he : e ∈ h) (s : Seq) : s ∈ (h.erase e).map (·.2) ↔ s ∈ h.map (·.2) ∧ s ≠ e.2 := by
  have hp := (List.perm_cons_erase he).map (·.2)
  have hnd' := hp.nodup_iff.mp hnd
  rw [List.map_cons] at hp hnd'
  constructor
  · intro hs
    refine ⟨hp.symm.subset (List.mem_cons_of_mem _ hs), fun e' => ?_⟩
    exact (List.nodup_cons.mp hnd').1 (e' ▸ hs)
  · rintro ⟨hs, hne⟩
    exact (List.mem_cons.mp (hp.mem_iff.mp hs)).resolve_left hne

theorem Sound.heap_nodup (hW : Sound W) : (W.timer.heap.map (·.2)).Nodup := by
  have h := hW.pending
  simp only [World.pending, List.nodup_append] at h
  exact h.1.2.1

/-- The timer task stops: its heap, its map and its queue go. -/
theorem Sound.stopTimer (hW : Sound W) : Sound { W with timer := Timer.stopped K } :=
  have hps : ∀ a, (World.pending { W with timer := Timer.stopped K }).count a ≤ W.pending.count a :=
    fun a => by
      rw [World.count_pending, World.count_pending]
      simp [Timer.stopped]
      omega
  { hW with
    pending := hW.pending_le hps
    schedules := by simp [Timer.stopped]
    heap := by simp [Timer.stopped]
    keys := by simp [Timer.stopped]
    heapKeys := by simp [Timer.stopped]
    awake := by simp [Timer.stopped] }

/-- The timer task takes its oldest message, a `Schedule`: the deadline goes on the heap and the
key into the map. -/
theorem Sound.receiveSchedule (hW : Sound W) {k : K} {s : Seq} {due : Nat}
    {rest : List (TimerMessage K)} (hq : W.timer.queue = .schedule k s due :: rest) :
    Sound { W with
      timer := { W.timer with
        queue := rest
        heap := (due, s) :: W.timer.heap
        keys := store W.timer.keys s k } } :=
  have hT : ∃ c, W.Timed c k s due := hW.schedules k s due (by rw [hq]; exact List.mem_cons_self)
  have hps : ∀ a, (World.pending { W with
      timer := { W.timer with
        queue := rest
        heap := (due, s) :: W.timer.heap
        keys := store W.timer.keys s k } }).count a = W.pending.count a := fun a => by
    rw [World.count_pending, World.count_pending, hq]
    simp [TimerMessage.seq?, List.count_cons]
    omega
  { hW with
    pending := hW.pending_le fun a => Nat.le_of_eq (hps a)
    schedules := fun k' s' due' h =>
      hW.schedules k' s' due' (by rw [hq]; exact List.mem_cons_of_mem _ h)
    heap := fun due' s' h => by
      rcases List.mem_cons.mp h with h | h
      · cases h; obtain ⟨c, hc⟩ := hT; exact ⟨c, k, hc⟩
      · exact hW.heap due' s' h
    keys := fun s' k' h => by
      rcases mem_store.mp h with h | ⟨h, -⟩
      · cases h; obtain ⟨c, hc⟩ := hT; exact ⟨c, due, hc⟩
      · exact hW.keys s' k' h
    heapKeys := fun s' => by
      have := hW.heapKeys s'
      by_cases hs : s' = s
      · subst hs; simp [store]
      · simp only [List.map_cons, List.mem_cons, hs, false_or, this]
        simp [store, hs] }

/-- The timer task takes its oldest message, a `Clear`: heap and map empty. -/
theorem Sound.receiveClear (hW : Sound W) {rest : List (TimerMessage K)}
    (hq : W.timer.queue = .clear :: rest) :
    Sound { W with timer := { W.timer with queue := rest, heap := [], keys := [] } } :=
  have hps : ∀ a, (World.pending { W with
      timer := { W.timer with queue := rest, heap := [], keys := [] } }).count a ≤
      W.pending.count a := fun a => by
    rw [World.count_pending, World.count_pending, hq,
      List.filterMap_cons_none (show TimerMessage.seq? (.clear : TimerMessage K) = none from rfl)]
    simp
  { hW with
    pending := hW.pending_le hps
    schedules := fun k' s' due' h =>
      hW.schedules k' s' due' (by rw [hq]; exact List.mem_cons_of_mem _ h)
    heap := by simp
    keys := by simp
    heapKeys := by simp }

/-- The timer task pops an entry of its heap, and takes its number out of the map. -/
theorem Sound.dropEntry (hW : Sound W) {e : Nat × Seq} (he : e ∈ W.timer.heap) :
    Sound { W with timer := { W.timer with
      heap := W.timer.heap.erase e, keys := unstore W.timer.keys e.2 } } ∧
    e.2 ∉ World.pending { W with timer := { W.timer with
      heap := W.timer.heap.erase e, keys := unstore W.timer.keys e.2 } } := by
  have hcount : ∀ a, (World.pending { W with timer := { W.timer with
      heap := W.timer.heap.erase e, keys := unstore W.timer.keys e.2 } }).count a +
      (if e.2 = a then 1 else 0) = W.pending.count a := fun a => by
    have hp := (((List.perm_cons_erase he).map (·.2)).count_eq a)
    simp only [List.map_cons, List.count_cons, beq_iff_eq] at hp
    rw [World.count_pending, World.count_pending]
    simp only at hp ⊢
    omega
  have hle : ∀ a, (World.pending { W with timer := { W.timer with
      heap := W.timer.heap.erase e, keys := unstore W.timer.keys e.2 } }).count a ≤
      W.pending.count a := fun a => by
    have := hcount a
    omega
  refine ⟨{ hW with
    pending := hW.pending_le hle
    heap := fun due s h => hW.heap due s (List.mem_of_mem_erase h)
    keys := fun s k h => hW.keys s k (mem_unstore.mp h).1
    heapKeys := fun s => by
      rw [mem_map_erase hW.heap_nodup he, hW.heapKeys s]
      simp [unstore] }, fun hs => ?_⟩
  have h1 := hcount e.2
  have h2 := List.nodup_iff_count_le_one.mp hW.pending e.2
  have h3 := List.count_pos_iff.mpr hs
  rw [if_pos rfl] at h1
  omega

/-- The timer task sends `Fire` for a sequence number on its way, whose deadline has come. -/
theorem Sound.sendFire (hW : Sound W) {k : K} {s : Seq}
    (hT : ∃ c due, W.Timed c k s due ∧ due ≤ W.clock) (hs : s ∉ W.pending) :
    Sound { W with table := W.table.send (.fire k s) } :=
  have hcbs : World.callbacks { W with table := W.table.send (.fire k s) } = W.callbacks := by
    simp only [World.callbacks, Table.filterMap_send_queue _
      (rfl : TableMessage.callback? (.fire k s) = none), Table.send_entries]
    rfl
  have hps : ∀ a, (World.pending { W with table := W.table.send (.fire k s) }).count a ≤
      W.pending.count a + (if s = a then 1 else 0) := fun a => by
    rw [World.count_pending, World.count_pending]
    simp only [Table.send_queue]
    split
    · simp [TableMessage.fired?, List.count_cons]
      omega
    · simp
  { hW with
    callbacks := hcbs ▸ hW.callbacks
    registered := hcbs ▸ hW.registered
    pending := List.nodup_iff_count_le_one.mpr fun a => by
      have h1 := hps a
      have h2 := List.nodup_iff_count_le_one.mp hW.pending a
      by_cases ha : s = a
      · subst ha
        have := List.count_eq_zero.mpr hs
        simp only [if_true] at h1
        omega
      · simp only [ha, if_false] at h1
        omega
    entryKeys := by simpa only [Table.send_entries] using hW.entryKeys
    entries := fun k' s' c h => hW.entries k' s' c (by simpa only [Table.send_entries] using h)
    stopped := by simpa only [Table.send_running] using hW.stopped
    inserts := fun k' s' c h => (Table.mem_send_queue h).elim (hW.inserts k' s' c) fun e => by
      cases e
    fires := fun k' s' h => (Table.mem_send_queue h).elim (hW.fires k' s') fun e => by
      cases e; exact hT }

/-- The awake timer task pops its earliest entry if it was due, or goes back to sleep. -/
theorem Sound.pop (hW : Sound W) (hlen : W.events.length ≤ 2 ^ 64) {now : Nat}
    (hwake : W.timer.wake = some now) : Sound (W.timerPops now) := by
  have hnow := hW.awake now hwake
  unfold World.timerPops
  split
  · rename_i e he
    have hmem := mem_of_earliest he
    split
    · rename_i hdue
      obtain ⟨hW₁, hfresh⟩ := hW.dropEntry hmem
      split
      · rename_i k hk
        split
        · -- the entry's number still names its key: the table is asked to fire it
          obtain ⟨c, k', hT⟩ := hW.heap _ _ hmem
          obtain ⟨c', due', hT'⟩ := hW.keys _ _ (mem_of_lookup hk)
          obtain ⟨rfl, rfl, -⟩ := hW.timed_unique hlen hT hT'
          exact hW₁.sendFire ⟨c, e.1, hT, Nat.le_trans hdue hnow⟩ hfresh
        · exact hW.stopTimer
      · exact hW₁
    · exact hW.sleep
  · exact hW.sleep

/-- Popping touches only the two tasks. -/
theorem World.timerPops_tasks (W : World K) (now : Nat) :
    ∃ t tb, W.timerPops now = { W with timer := t, table := tb } := by
  unfold World.timerPops
  repeat' split
  all_goals exact ⟨_, _, rfl⟩

/-- The timer task handles its oldest message. -/
theorem Sound.receive (hW : Sound W) {m : TimerMessage K} {rest : List (TimerMessage K)}
    (hq : W.timer.queue = m :: rest) : Sound { W with timer := { W.timer with queue := rest }.receive m } := by
  cases m with
  | schedule k s due => exact hW.receiveSchedule hq
  | clear => exact hW.receiveClear hq
  | shutdown => exact hW.stopTimer

end TimerTask

/-! ## Every reachable world -/

section Reach

variable {K : Type} [DecidableEq K] {W : World K}

/-! What each action of a task or a call in flight can do, when it can be taken. -/

theorem World.step_advance {c : Call K} {W' : World K} (h : W.step (.advance c) = some W') :
    c ∈ W.calls ∧ W' = W.advance c := by
  simp only [World.step] at h
  split at h
  · exact ⟨‹_›, (Option.some.inj h).symm⟩
  · cases h

theorem World.step_table {W' : World K} (h : W.step .table = some W') :
    ∃ m rest, W.table.running = true ∧ W.table.queue = m :: rest ∧ W' = W.tableHandles m rest := by
  simp only [World.step] at h
  split at h
  · rename_i hrun hq
    exact ⟨_, _, hrun, hq, (Option.some.inj h).symm⟩
  · cases h

theorem World.step_receive {W' : World K} (h : W.step .receive = some W') :
    ∃ m rest, W.timer.running = true ∧ W.timer.wake = none ∧ W.timer.queue = m :: rest ∧
      W' = { W with timer := { W.timer with queue := rest }.receive m } := by
  simp only [World.step] at h
  split at h
  · rename_i hrun hwake hq
    exact ⟨_, _, hrun, hwake, hq, (Option.some.inj h).symm⟩
  · cases h

theorem World.step_wake {W' : World K} (h : W.step .wake = some W') :
    W' = { W with timer := { W.timer with wake := some W.clock } } := by
  simp only [World.step] at h
  split at h
  · split at h
    · exact (Option.some.inj h).symm
    · cases h
  · cases h

theorem World.step_pop {W' : World K} (h : W.step .pop = some W') :
    ∃ now, W.timer.running = true ∧ W.timer.wake = some now ∧ W' = W.timerPops now := by
  simp only [World.step] at h
  split at h
  · rename_i hrun hwake
    exact ⟨_, hrun, hwake, (Option.some.inj h).symm⟩
  · cases h

/-- A step forgets no call of `add_event` or `cleanup`. -/
theorem World.step_grows {a : Act K} {W' : World K} (h : W.step a = some W') :
    W.events.length ≤ W'.events.length ∧ W.cleanups ≤ W'.cleanups := by
  cases a with
  | add k d => cases h; simp [World.addEvent]
  | cleanup => cases h; exact ⟨Nat.le_refl _, Nat.le_succ _⟩
  | advance c =>
    obtain ⟨-, rfl⟩ := World.step_advance h
    cases c <;> simp [World.advance]
  | ask k =>
    cases h
    unfold World.ask
    split <;> exact ⟨Nat.le_refl _, Nat.le_refl _⟩
  | table =>
    obtain ⟨m, rest, -, -, rfl⟩ := World.step_table h
    exact ⟨Nat.le_refl _, Nat.le_refl _⟩
  | receive =>
    obtain ⟨m, rest, -, -, -, rfl⟩ := World.step_receive h
    exact ⟨Nat.le_refl _, Nat.le_refl _⟩
  | wake =>
    obtain rfl := World.step_wake h
    exact ⟨Nat.le_refl _, Nat.le_refl _⟩
  | pop =>
    obtain ⟨now, -, -, rfl⟩ := World.step_pop h
    obtain ⟨t, tb, he⟩ := W.timerPops_tasks now
    rw [he]
    exact ⟨Nat.le_refl _, Nat.le_refl _⟩
  | destroy | tick => cases h; exact ⟨Nat.le_refl _, Nat.le_refl _⟩

theorem Sound.step (hW : Sound W) {a : Act K} {W' : World K} (h : W.step a = some W')
    (hlen : W'.events.length ≤ 2 ^ 64) : Sound W' := by
  have hlen' : W.events.length ≤ 2 ^ 64 := Nat.le_trans (World.step_grows h).1 hlen
  cases a with
  | add k d =>
    cases h
    exact hW.add k d (by
      simp only [World.addEvent, List.length_append, List.length_singleton] at hlen; omega)
  | cleanup =>
    cases h
    exact ((hW.sendTable rfl rfl).consQuiet (.inl rfl)).bookkeeping _ _ _
  | destroy =>
    cases h
    exact ((hW.sendTable rfl rfl).consQuiet (.inr rfl)).bookkeeping _ _ _
  | ask k =>
    cases h
    unfold World.ask
    split
    · exact (hW.sendTable rfl rfl).bookkeeping _ _ _
    · exact hW.bookkeeping _ _ _
  | advance c =>
    obtain ⟨hc, rfl⟩ := World.step_advance h
    exact hW.advance hc
  | table =>
    obtain ⟨m, rest, hrun, hq, rfl⟩ := World.step_table h
    exact hW.handle hlen' hrun hq
  | receive =>
    obtain ⟨m, rest, -, -, hq, rfl⟩ := World.step_receive h
    exact hW.receive hq
  | wake =>
    obtain rfl := World.step_wake h
    exact hW.wake
  | pop =>
    obtain ⟨now, -, hwake, rfl⟩ := World.step_pop h
    exact hW.pop hlen' hwake
  | tick => cases h; exact hW.tick

/-- Every world reached after at most `2 ^ 64` calls of `add_event` is sound. -/
theorem Reachable.sound (h : Reachable K W) (hlen : W.events.length ≤ 2 ^ 64) : Sound W := by
  induction h with
  | init => exact Sound.init
  | step a _ hs ih => exact (ih (Nat.le_trans (World.step_grows hs).1 hlen)).step hs hlen

theorem Reachable.run {W W' : World K} (h : Reachable K W) (acts : List (Act K))
    (hrun : W.run acts = some W') : Reachable K W' := by
  induction acts generalizing W with
  | nil => cases hrun; exact h
  | cons a acts ih =>
    simp only [World.run] at hrun
    cases hs : W.step a with
    | none => simp [hs] at hrun
    | some W₁ =>
      rw [hs] at hrun
      exact ih (Reachable.step a h hs) hrun

/-! ## What the scheduler runs -/

/-- What the scheduler runs, in every world reached within `2 ^ 64` calls of `add_event`:

* every callback runs at most once;
* a callback runs only on a `Fire` that carries the key and the sequence number of its own
  `add_event` call, and never before that call's deadline;
* every `Fire` on its way to the table is for an `add_event` call whose deadline the clock has
  reached, so it was sent no earlier;
* a callback the table dropped never runs: the table drops a key's stored callback when it
  handles a later `Insert` for the key, whatever that event's deadline, and every stored callback
  when it handles `Clear` or `Shutdown`;
* the table handles nothing after `Shutdown`. -/
theorem reachable_runs_current {W : World K} (h : Reachable K W) (hlen : W.events.length ≤ 2 ^ 64) :
    W.ran.Nodup ∧
    (∀ x ∈ W.handled, ∀ c, x.ran = some c → ∃ e, W.events[c]? = some e ∧
      x.message = .fire e.key e.seq ∧ ∃ due, e.due = some due ∧ due ≤ x.time) ∧
    (∀ k s, .fire k s ∈ W.table.queue → ∃ e ∈ W.events, e.key = k ∧ e.seq = s ∧
      ∃ due, e.due = some due ∧ due ≤ W.clock) ∧
    (∀ x ∈ W.handled, ∀ c ∈ x.dropped, c ∉ W.ran) ∧
    (∀ pre x post, W.handled = pre ++ x :: post → x.message = .shutdown → post = []) := by
  have hW := h.sound hlen
  -- the ran and dropped callbacks end the ledger, where each callback stands once
  have hlog : (W.ran ++ W.dropped).Nodup := hW.callbacks.sublist <| by
    simp only [World.callbacks, List.append_assoc]
    exact ((List.sublist_append_right _ _).trans (List.sublist_append_right _ _)).trans
      (List.sublist_append_right _ _)
  refine ⟨(List.nodup_append.mp hlog).1, fun x hx c hc => ?_, fun k s hf => ?_,
    fun x hx c hc hr => ?_, hW.last⟩
  · obtain ⟨k, s, due, hT, hm, hd⟩ := hW.ran x hx c hc
    exact ⟨⟨k, s, some due⟩, hT, hm, due, rfl, hd⟩
  · obtain ⟨c, due, hT, hd⟩ := hW.fires k s hf
    exact ⟨⟨k, s, some due⟩, List.mem_of_getElem? hT, rfl, rfl, due, rfl, hd⟩
  · have hd : c ∈ W.dropped := List.mem_flatten.mpr ⟨x.dropped, List.mem_map_of_mem hx, hc⟩
    exact (List.nodup_append.mp hlog).2.2 c hr c hd rfl

end Reach

/-- Two `add_event` calls for one key, the second with the later deadline, each run through
before either task moves: the table drops the first callback when it handles the second
`Insert`; the `Fire` of the first deadline, at tick 2, finds the second sequence number stored and
does nothing; and the second callback runs at its own deadline, tick 8. -/
theorem replaced_event_runs_late :
    let W : World Nat := ⟨8, 2, [], ⟨[], [], true⟩, ⟨[], [], [], none, true⟩, [], 0,
      [⟨0, 0, some 2⟩, ⟨0, 1, some 8⟩], 0,
      [⟨.insert 0 0 0, none, [], 0⟩, ⟨.insert 0 1 1, none, [0], 0⟩, ⟨.fire 0 0, none, [], 2⟩,
        ⟨.fire 0 1, some 1, [], 8⟩]⟩
    (Reachable Nat W ∧ W.events.length ≤ 2 ^ 64) ∧ W.ran = [1] ∧ W.dropped = [0] ∧
    (W.ran.Nodup ∧
      (∀ x ∈ W.handled, ∀ c, x.ran = some c → ∃ e, W.events[c]? = some e ∧
        x.message = .fire e.key e.seq ∧ ∃ due, e.due = some due ∧ due ≤ x.time) ∧
      (∀ k s, .fire k s ∈ W.table.queue → ∃ e ∈ W.events, e.key = k ∧ e.seq = s ∧
        ∃ due, e.due = some due ∧ due ≤ W.clock) ∧
      (∀ x ∈ W.handled, ∀ c ∈ x.dropped, c ∉ W.ran) ∧
      (∀ pre x post, W.handled = pre ++ x :: post → x.message = .shutdown → post = [])) := by
  intro W
  have hr : Reachable Nat W := Reachable.init.run
    [.add 0 2, .advance (.numbered 0 2 0 0), .advance (.timed 0 0 2 0), .advance (.inserted 0 0 2),
      .add 0 8, .advance (.numbered 0 8 1 1), .advance (.timed 0 1 8 1),
      .advance (.inserted 0 1 8), .table, .table, .receive, .receive, .tick, .tick, .wake, .pop,
      .pop, .table, .tick, .tick, .tick, .tick, .tick, .tick, .wake, .pop, .pop, .table] rfl
  have hl : W.events.length ≤ 2 ^ 64 := by decide
  exact ⟨⟨hr, hl⟩, rfl, rfl, reachable_runs_current hr hl⟩

end Scheduler

end PartCache
