import PartCache.Proofs.SchedulerProtocol

/-!
# Every stored key keeps its way to fire

A key the table task stores stays pending until a `Fire` with its sequence number reaches the
table.  That `Fire` is on its way while one of four things holds (`World.CanFire`): the
`add_event` call has sent `Insert` and not yet `Schedule`; the `Schedule` is queued to the timer;
the heap holds the deadline and the map names the key for the sequence number; or the `Fire` is
queued to the table.

Without `cleanup` calls every reachable world keeps an invariant (`Alive`), from which
`reachable_keeps_way`: every key the table stores has its way to fire, with the timer running,
unless `destroy` has queued `Shutdown` to the table; and the heap's sequence numbers are those
the map has keys for.  Two orders of the code carry it.  `add_event` sends `Insert` before
`Schedule`, so the table handles a key's `Insert` before its `Fire` can come; and `destroy`
sends `Shutdown` to the table before the timer, so the timer stops only once the table is
stopping.

`cleanup` sends `Clear` to the table and then to the timer.  An `add_event` between the two
sends has its `Insert` stored after the table's `Clear` and its `Schedule` undone by the timer's:
the key stays stored while nothing will fire it (`cleanup_strands_key`).
-/

namespace PartCache

set_option autoImplicit false

namespace Scheduler

/-! ## Queues -/

/-- A position in a list that took one more element at its end is a position of the list
before, or the new element. -/
theorem eq_append_cons_of_concat {α : Type} {l pre post : List α} {x y : α}
    (h : l ++ [x] = pre ++ y :: post) :
    (∃ post', post = post' ++ [x] ∧ l = pre ++ y :: post') ∨ (pre = l ∧ y = x ∧ post = []) := by
  rcases List.eq_nil_or_concat post with rfl | ⟨post', z, rfl⟩
  · obtain ⟨hpre, hy⟩ := List.append_inj' h.symm rfl
    exact .inr ⟨hpre, List.singleton_inj.mp hy, rfl⟩
  · have h' : l ++ [x] = (pre ++ y :: post') ++ [z] := by simpa using h
    obtain ⟨hl, hx⟩ := List.append_inj' h' rfl
    obtain rfl := List.singleton_inj.mp hx
    exact .inl ⟨post', by simp, hl⟩

section Tasks

variable {K : Type}

theorem Table.mem_send_of_mem {t : Table K} {x : TableMessage K} (h : x ∈ t.queue)
    (m : TableMessage K) : x ∈ (t.send m).queue := by
  rw [Table.send_queue]
  split <;> simp [h]

theorem Timer.mem_send_of_mem {t : Timer K} {x : TimerMessage K} (h : x ∈ t.queue)
    (m : TimerMessage K) : x ∈ (t.send m).queue := by
  rw [Timer.send_queue]
  split <;> simp [h]

/-- A stopped table takes no message. -/
theorem Table.send_of_stopped {t : Table K} (h : t.running = false) (m : TableMessage K) :
    t.send m = t := by
  simp [Table.send, h]

/-- A position of an `Insert` in a queue that took a message other than an `Insert` is one of
the queue before. -/
theorem Table.position_send {t : Table K} {m : TableMessage K} (hm : m.callback? = none)
    {pre post : List (TableMessage K)} {k : K} {s : Seq} {c : Nat}
    (h : (t.send m).queue = pre ++ .insert k s c :: post) :
    ∃ post', t.queue = pre ++ .insert k s c :: post' := by
  rw [Table.send_queue] at h
  split at h
  · rcases eq_append_cons_of_concat h with ⟨post', -, hq⟩ | ⟨-, rfl, -⟩
    · exact ⟨post', hq⟩
    · simp [TableMessage.callback?] at hm
  · exact ⟨post, h⟩

/-- A stopped table holds nothing. -/
def Table.StopsEmpty (t : Table K) : Prop := t.running = false → t.entries = [] ∧ t.queue = []

theorem Table.StopsEmpty.send {t : Table K} (h : t.StopsEmpty) (m : TableMessage K) :
    (t.send m).StopsEmpty := by
  intro hr
  rw [Table.send_running] at hr
  rw [Table.send_of_stopped hr]
  exact h hr

/-- `destroy` has reached the table: it has stopped, or its `Shutdown` is queued. -/
def Table.Closing (t : Table K) : Prop := t.running = false ∨ .shutdown ∈ t.queue

theorem Table.Closing.send {t : Table K} (h : t.Closing) (m : TableMessage K) :
    (t.send m).Closing := by
  rcases h with h | h
  · exact .inl (by rw [Table.send_running]; exact h)
  · exact .inr (Table.mem_send_of_mem h m)

theorem Table.closing_send_shutdown (t : Table K) : (t.send .shutdown).Closing := by
  cases h : t.running
  · exact .inl (by rw [Table.send_running]; exact h)
  · exact .inr (by simp [Table.send_queue, h])

end Tasks

/-! ## Ways to fire -/

section Ways

variable {K : Type}

namespace World

/-- The ways the event of key `k` with sequence number `s` can still reach the table as a
`Fire`: its `add_event` call has sent `Insert` and not yet `Schedule`, the `Schedule` is queued
to the timer, the heap holds its deadline and the map its key, or the `Fire` is queued to the
table. -/
def CanFire (W : World K) (k : K) (s : Seq) : Prop :=
  (∃ due, .inserted k s due ∈ W.calls) ∨ (∃ due, .schedule k s due ∈ W.timer.queue) ∨
    (∃ due, (due, s) ∈ W.timer.heap ∧ W.timer.keys.lookup s = some k) ∨
    .fire k s ∈ W.table.queue

/-- `destroy` has reached the timer's side: its call is still to send `Shutdown` to the timer,
that `Shutdown` is queued, or the timer has stopped. -/
def Stopping (W : World K) : Prop :=
  .stopping ∈ W.calls ∨ .shutdown ∈ W.timer.queue ∨ W.timer.running = false

end World

/-- A way to fire survives a step that keeps the calls still to send `Schedule` for the event,
its `Schedule`s, the heap, the map, and its `Fire`. -/
theorem World.CanFire.mono {W W' : World K} {k : K} {s : Seq} (h : W.CanFire k s)
    (hcalls : ∀ due, .inserted k s due ∈ W.calls → .inserted k s due ∈ W'.calls)
    (hqueue : ∀ due, .schedule k s due ∈ W.timer.queue → .schedule k s due ∈ W'.timer.queue)
    (hheap : W'.timer.heap = W.timer.heap) (hkeys : W'.timer.keys = W.timer.keys)
    (hfire : .fire k s ∈ W.table.queue → .fire k s ∈ W'.table.queue) : W'.CanFire k s := by
  rcases h with ⟨due, h⟩ | ⟨due, h⟩ | ⟨due, h⟩ | h
  · exact .inl ⟨due, hcalls due h⟩
  · exact .inr (.inl ⟨due, hqueue due h⟩)
  · exact .inr (.inr (.inl ⟨due, by rw [hheap, hkeys]; exact h⟩))
  · exact .inr (.inr (.inr (hfire h)))

/-- `W'` keeps every way to fire of `W`, and is closing when `W` is. -/
def Keeps (W W' : World K) : Prop :=
  (∀ k s, W.CanFire k s → W'.CanFire k s) ∧ (W.table.Closing → W'.table.Closing)

theorem Keeps.entry {W W' : World K} (h : Keeps W W') {k : K} {s : Seq}
    (hw : W.CanFire k s ∨ W.table.Closing) : W'.CanFire k s ∨ W'.table.Closing :=
  hw.imp (h.1 k s) h.2

theorem Keeps.insert {W W' : World K} (h : Keeps W W') {k : K} {s : Seq}
    {pre : List (TableMessage K)}
    (hw : (W.CanFire k s ∧ .fire k s ∉ pre) ∨ W.table.Closing) :
    (W'.CanFire k s ∧ .fire k s ∉ pre) ∨ W'.table.Closing :=
  hw.imp (fun h' => ⟨h.1 k s h'.1, h'.2⟩) h.2

/-- A message sent to the table keeps every way to fire. -/
theorem Keeps.sendTable (W : World K) (m : TableMessage K) :
    Keeps W { W with table := W.table.send m } :=
  ⟨fun _ _ h => h.mono (fun _ h => h) (fun _ h => h) rfl rfl (fun h => Table.mem_send_of_mem h m),
    (·.send m)⟩

end Ways

/-! ## The invariant -/

section Invariant

variable {K : Type}

/-- What every world reached without `cleanup` keeps beside `Sound`: no `Clear` is on its way
to the timer, a stopped table holds nothing, the timer's side stops only once the table is
closing, and, until it is, every stored key and every queued `Insert` has its way to fire, with
no `Fire` for it queued ahead of the `Insert`. -/
structure Alive (W : World K) : Prop where
  noClear : .clearing ∉ W.calls ∧ .clear ∉ W.timer.queue
  idle : W.table.StopsEmpty
  stopping : W.Stopping → W.table.Closing
  entries : ∀ k s c, (k, s, c) ∈ W.table.entries → W.CanFire k s ∨ W.table.Closing
  inserts : ∀ pre post k s c, W.table.queue = pre ++ .insert k s c :: post →
    (W.CanFire k s ∧ .fire k s ∉ pre) ∨ W.table.Closing

variable {W : World K}

theorem Alive.init : Alive (World.init K) where
  noClear := by simp [World.init]
  idle := by simp [World.init, Table.StopsEmpty]
  stopping := by simp [World.init, World.Stopping]
  entries := by simp [World.init]
  inserts := by simp [World.init]

/-- Once the table is closing, nothing is owed but the bookkeeping. -/
theorem Alive.of_closing (hclear : .clearing ∉ W.calls ∧ .clear ∉ W.timer.queue)
    (hidle : W.table.StopsEmpty) (hclose : W.table.Closing) : Alive W where
  noClear := hclear
  idle := hidle
  stopping := fun _ => hclose
  entries := fun _ _ _ _ => .inr hclose
  inserts := fun _ _ _ _ _ _ => .inr hclose

/-- A step that keeps every way to fire, brings no `Clear` for the timer, keeps a stopped table
empty, starts no `destroy`, and adds no entry and no `Insert`. -/
theorem Alive.of_keeps (hA : Alive W) {W' : World K} (hkeeps : Keeps W W')
    (hclear : .clearing ∉ W'.calls ∧ .clear ∉ W'.timer.queue) (hidle : W'.table.StopsEmpty)
    (hstop : W'.Stopping → W.Stopping) (hentries : ∀ x ∈ W'.table.entries, x ∈ W.table.entries)
    (hpos : ∀ pre post k s c, W'.table.queue = pre ++ .insert k s c :: post →
      ∃ post', W.table.queue = pre ++ .insert k s c :: post') : Alive W' where
  noClear := hclear
  idle := hidle
  stopping := fun h => hkeeps.2 (hA.stopping (hstop h))
  entries := fun k s c h => hkeeps.entry (hA.entries k s c (hentries _ h))
  inserts := fun pre post k s c h => by
    obtain ⟨post', hq⟩ := hpos pre post k s c h
    exact hkeeps.insert (hA.inserts pre post' k s c hq)

/-- A step that touches only the calls in flight, starting calls of `add_event` that have not
sent `Insert` and keeping those that have not sent `Schedule`. -/
theorem Alive.frameCalls (hA : Alive W) {W' : World K} (htable : W'.table = W.table)
    (htimer : W'.timer = W.timer) (hnew : ∀ c ∈ W'.calls, c ∈ W.calls ∨ c.callback?.isSome)
    (hkeep : ∀ k s due, .inserted k s due ∈ W.calls → .inserted k s due ∈ W'.calls) :
    Alive W' := by
  have hold : ∀ c ∈ W'.calls, c.callback? = none → c ∈ W.calls := fun c hc hn =>
    (hnew c hc).resolve_right (by simp [hn])
  refine hA.of_keeps ⟨fun k s h => h.mono (hkeep k s) (fun _ h => by rwa [htimer])
      (by rw [htimer]) (by rw [htimer]) (fun h => by rwa [htable]), fun h => by rwa [htable]⟩
    ⟨fun h => hA.noClear.1 (hold _ h rfl), by rw [htimer]; exact hA.noClear.2⟩
    (by rw [htable]; exact hA.idle) ?_ (fun x h => by rwa [htable] at h)
    (fun pre post k s c h => ⟨post, by rwa [htable] at h⟩)
  rintro (h | h | h)
  · exact .inl (hold _ h rfl)
  · exact .inr (.inl (by rwa [htimer] at h))
  · exact .inr (.inr (by rwa [htimer] at h))

theorem Alive.add (hA : Alive W) (k : K) (d : Nat) : Alive (W.addEvent k d) :=
  hA.frameCalls rfl rfl
    (fun c h => (List.mem_cons.mp h).elim (fun e => .inr (by rw [e]; rfl)) .inl)
    (fun _ _ _ h => List.mem_cons_of_mem _ h)

theorem Alive.tick (hA : Alive W) : Alive { W with clock := W.clock + 1 } := { hA with }

theorem Alive.setWake (hA : Alive W) (w : Option Nat) :
    Alive { W with timer := { W.timer with wake := w } } := { hA with }

/-- The replies to `contains` and the count of `cleanup` calls are not read. -/
theorem Alive.bookkeeping (hA : Alive W) (answers : List (Nat × Bool)) (asked cleanups : Nat) :
    Alive { W with answers := answers, asked := asked, cleanups := cleanups } := { hA with }

/-- Sending the table a message other than an `Insert`. -/
theorem Alive.sendTable (hA : Alive W) {m : TableMessage K} (hm : m.callback? = none) :
    Alive { W with table := W.table.send m } :=
  hA.of_keeps (Keeps.sendTable W m) hA.noClear (hA.idle.send m) id
    (fun x h => by rwa [Table.send_entries] at h) (fun _ _ _ _ _ h => Table.position_send hm h)

theorem Alive.destroy (hA : Alive W) :
    Alive { W with calls := .stopping :: W.calls, table := W.table.send .shutdown } :=
  Alive.of_closing
    ⟨fun h => hA.noClear.1 ((List.mem_cons.mp h).resolve_left (by simp)), hA.noClear.2⟩
    (hA.idle.send _) (Table.closing_send_shutdown W.table)

theorem Alive.ask (hA : Alive W) (k : K) : Alive (W.ask k) := by
  unfold World.ask
  split
  · exact (hA.sendTable rfl).bookkeeping _ _ _
  · exact hA.bookkeeping _ _ _

end Invariant

/-! ## Calls in flight -/

section Advance

variable {K : Type} [DecidableEq K] {W : World K}

omit [DecidableEq K] in
/-- A sequence number on its way is in one place only. -/
theorem Sound.pending_once (hS : Sound W) (s : Seq) : W.pending.count s ≤ 1 :=
  List.nodup_iff_count_le_one.mp hS.pending s

theorem Alive.readClock (hA : Alive W) {k : K} {d : Nat} {s : Seq} {cb : Nat} :
    Alive (W.advance (.numbered k d s cb)) :=
  hA.frameCalls rfl rfl
    (fun c h => (List.mem_cons.mp h).elim (fun e => .inr (by rw [e]; rfl))
      fun h => .inl (List.mem_of_mem_erase h))
    (fun _ _ _ h => List.mem_cons_of_mem _ ((List.mem_erase_of_ne (by simp)).mpr h))

/-- `add_event` sends `Insert`: the new `Insert` has its call as its way to fire, and no `Fire`
for it can be queued yet, the call still holding its sequence number. -/
theorem Alive.sendInsert (hS : Sound W) (hA : Alive W) {k : K} {s : Seq} {due cb : Nat}
    (hc : .timed k s due cb ∈ W.calls) : Alive (W.advance (.timed k s due cb)) := by
  have hkeeps : Keeps W (W.advance (.timed k s due cb)) :=
    ⟨fun k' s' h => h.mono
      (fun _ h => List.mem_cons_of_mem _ ((List.mem_erase_of_ne (by simp)).mpr h))
      (fun _ h => h) rfl rfl (fun h => Table.mem_send_of_mem h _), (·.send _)⟩
  have hfresh : .fire k s ∉ W.table.queue := fun hf => by
    have h1 : 0 < (W.calls.filterMap Call.seq?).count s :=
      List.count_pos_iff.mpr (List.mem_filterMap.mpr ⟨_, hc, rfl⟩)
    have h2 : 0 < (W.table.queue.filterMap TableMessage.fired?).count s :=
      List.count_pos_iff.mpr (List.mem_filterMap.mpr ⟨_, hf, rfl⟩)
    have := hS.pending_once s
    rw [World.count_pending] at this
    omega
  refine ⟨⟨fun h => ?_, hA.noClear.2⟩, hA.idle.send _, fun h => ?_, fun k' s' c' h => ?_,
    fun pre post k' s' c' h => ?_⟩
  · rcases List.mem_cons.mp h with h | h
    · cases h
    · exact hA.noClear.1 (List.mem_of_mem_erase h)
  · refine hkeeps.2 (hA.stopping ?_)
    rcases h with h | h | h
    · rcases List.mem_cons.mp h with h | h
      · cases h
      · exact .inl (List.mem_of_mem_erase h)
    · exact .inr (.inl h)
    · exact .inr (.inr h)
  · exact hkeeps.entry (hA.entries k' s' c' (by simpa [World.advance] using h))
  · simp only [World.advance, Table.send_queue] at h
    split at h
    · rcases eq_append_cons_of_concat h with ⟨post', -, hq⟩ | ⟨rfl, hy, -⟩
      · exact hkeeps.insert (hA.inserts pre post' k' s' c' hq)
      · cases hy
        exact .inl ⟨.inl ⟨due, List.mem_cons_self⟩, hfresh⟩
    · exact hkeeps.insert (hA.inserts pre post k' s' c' h)

/-- `add_event` sends `Schedule`: its way to fire moves to the timer's queue, or, the timer
having stopped, the table is closing. -/
theorem Alive.sendSchedule (hA : Alive W) {k : K} {s : Seq} {due : Nat} :
    Alive (W.advance (.inserted k s due)) := by
  let W' := W.advance (.inserted k s due)
  have hstop : W'.Stopping → W.Stopping := by
    rintro (h | h | h)
    · exact .inl (List.mem_of_mem_erase h)
    · exact (Timer.mem_send_queue h).elim (fun h => .inr (.inl h)) fun e => by cases e
    · exact .inr (.inr (by simpa [W', World.advance] using h))
  have hway : ∀ k' s', W.CanFire k' s' → W'.CanFire k' s' ∨ W'.table.Closing := by
    intro k' s' h
    cases hrun : W.timer.running
    · exact .inr (hA.stopping (.inr (.inr hrun)))
    rcases h with ⟨due', h⟩ | ⟨due', h⟩ | ⟨due', h⟩ | h
    · by_cases he : Call.inserted k' s' due' = .inserted k s due
      · cases he
        exact .inl (.inr (.inl ⟨due, by simp [W', World.advance, Timer.send_queue, hrun]⟩))
      · exact .inl (.inl ⟨due', (List.mem_erase_of_ne he).mpr h⟩)
    · exact .inl (.inr (.inl ⟨due', Timer.mem_send_of_mem h _⟩))
    · exact .inl (.inr (.inr (.inl ⟨due', by simpa [W', World.advance] using h⟩)))
    · exact .inl (.inr (.inr (.inr h)))
  refine ⟨⟨fun h => hA.noClear.1 (List.mem_of_mem_erase h), fun h => ?_⟩, hA.idle,
    fun h => hA.stopping (hstop h), fun k' s' c' h => ?_, fun pre post k' s' c' h => ?_⟩
  · exact (Timer.mem_send_queue h).elim hA.noClear.2 fun e => by cases e
  · exact (hA.entries k' s' c' h).elim (hway k' s') .inr
  · rcases hA.inserts pre post k' s' c' h with ⟨h, hf⟩ | h
    · exact (hway k' s' h).imp_left fun h => ⟨h, hf⟩
    · exact .inr h

/-- `destroy` sends `Shutdown` to the timer: the table is closing already. -/
theorem Alive.sendShutdown (hA : Alive W) (hc : .stopping ∈ W.calls) :
    Alive (W.advance .stopping) :=
  Alive.of_closing
    ⟨fun h => hA.noClear.1 (List.mem_of_mem_erase h),
      fun h => (Timer.mem_send_queue h).elim hA.noClear.2 fun e => by cases e⟩
    hA.idle (hA.stopping (.inl hc))

theorem Alive.advance (hS : Sound W) (hA : Alive W) {c : Call K} (hc : c ∈ W.calls) :
    Alive (W.advance c) := by
  cases c with
  | numbered k d s cb => exact hA.readClock
  | timed k s due cb => exact hA.sendInsert hS hc
  | inserted k s due => exact hA.sendSchedule
  | clearing => exact absurd hc hA.noClear.1
  | stopping => exact hA.sendShutdown hc

end Advance

/-! ## The table task -/

section TableTask

variable {K : Type} [DecidableEq K] {W : World K}

/-- A `Fire` for the sequence number an entry stores removes the entry. -/
theorem react_fire_removes {entries : List (K × Seq × Nat)} (hk : (entries.map (·.1)).Nodup)
    {k : K} {s : Seq} {c : Nat} (h : (k, s, c) ∈ entries) :
    (k, s, c) ∉ (react entries (.fire k s)).entries := by
  simp [react, lookup_of_mem hk h, mem_unstore]

/-- The table task handles its oldest message.  The ways to fire stay, but through the `Fire`
it takes, which removes the entry it was for; an `Insert` it takes brings its way along. -/
theorem Alive.handle (hS : Sound W) (hA : Alive W) {m : TableMessage K}
    {rest : List (TableMessage K)} (hrun : W.table.running = true) (hq : W.table.queue = m :: rest) :
    Alive (W.tableHandles m rest) := by
  by_cases hm : m = .shutdown
  · subst hm
    refine Alive.of_closing hA.noClear ?_ (.inl ?_)
    · simp [World.tableHandles, react, Table.StopsEmpty, Table.stopped]
    · simp [World.tableHandles, react, Table.stopped]
  -- the table goes on with the rest of its queue
  have htable : (W.tableHandles m rest).table = ⟨(react W.table.entries m).entries, rest, true⟩ := by
    simp only [World.tableHandles]
    rw [if_neg (fun h => hm (react_stops.mp h))]
  have hrest : ∀ x ∈ W.table.queue, x ≠ m → x ∈ (W.tableHandles m rest).table.queue :=
    fun x hx hne => by
      rw [hq] at hx
      rw [htable]
      exact (List.mem_cons.mp hx).resolve_left hne
  have hclose : W.table.Closing → (W.tableHandles m rest).table.Closing := by
    rintro (h | h)
    · simp [hrun] at h
    · exact .inr (hrest _ h (Ne.symm hm))
  have hway : ∀ k s, W.CanFire k s → .fire k s ≠ m → (W.tableHandles m rest).CanFire k s :=
    fun k s h hf => h.mono (fun _ h => h) (fun _ h => h) rfl rfl (fun h => hrest _ h hf)
  refine ⟨hA.noClear, fun h => by simp [htable] at h, fun h => hclose (hA.stopping h),
    fun k s c h => ?_, fun pre post k s c h => ?_⟩
  · rw [htable] at h
    rcases mem_react_entries h with hold | ⟨k', s', c', rfl, he⟩
    · have hf : .fire k s ≠ m := by
        rintro rfl
        exact react_fire_removes hS.entryKeys hold h
      exact (hA.entries k s c hold).imp (hway k s · hf) hclose
    · cases he
      exact (hA.inserts [] rest k s c hq).imp (fun h => hway k s h.1 (by simp)) hclose
  · have h' : rest = pre ++ .insert k s c :: post := by rw [htable] at h; exact h
    have hpos : W.table.queue = (m :: pre) ++ .insert k s c :: post := by rw [hq, h']; rfl
    refine (hA.inserts (m :: pre) post k s c hpos).imp (fun h => ⟨hway k s h.1 ?_, ?_⟩) hclose
    · exact fun e => h.2 (e ▸ List.mem_cons_self)
    · exact fun hp => h.2 (List.mem_cons_of_mem _ hp)

end TableTask

/-! ## The timer task -/

section TimerTask

variable {K : Type} {W : World K}

/-- The timer task stops once the table is closing. -/
theorem Alive.stopTimer (hA : Alive W) (hclose : W.table.Closing) :
    Alive { W with timer := Timer.stopped K } :=
  Alive.of_closing ⟨hA.noClear.1, by simp [Timer.stopped]⟩ hA.idle hclose

/-- The timer task takes a `Schedule`: its way to fire moves to the heap and the map, where no
entry had its sequence number yet. -/
theorem Alive.receiveSchedule (hS : Sound W) (hA : Alive W) {k : K} {s : Seq} {due : Nat}
    {rest : List (TimerMessage K)} (hq : W.timer.queue = .schedule k s due :: rest) :
    Alive { W with timer := { W.timer with queue := rest }.receive (.schedule k s due) } := by
  have hrest : ∀ x ∈ rest, x ∈ W.timer.queue := fun x hx => by
    rw [hq]
    exact List.mem_cons_of_mem _ hx
  have hfresh : ∀ due', (due', s) ∉ W.timer.heap := fun due' hh => by
    have h1 : 0 < (W.timer.queue.filterMap TimerMessage.seq?).count s :=
      List.count_pos_iff.mpr (List.mem_filterMap.mpr ⟨_, by rw [hq]; exact List.mem_cons_self, rfl⟩)
    have h2 : 0 < (W.timer.heap.map (·.2)).count s :=
      List.count_pos_iff.mpr (List.mem_map.mpr ⟨_, hh, rfl⟩)
    have := hS.pending_once s
    rw [World.count_pending] at this
    omega
  refine hA.of_keeps ⟨fun k' s' h => ?_, id⟩ ⟨hA.noClear.1, fun h => hA.noClear.2 (hrest _ h)⟩
    hA.idle ?_ (fun _ h => h) (fun pre post _ _ _ h => ⟨post, h⟩)
  · rcases h with ⟨due', h⟩ | ⟨due', h⟩ | ⟨due', hh, hk⟩ | h
    · exact .inl ⟨due', h⟩
    · rw [hq] at h
      rcases List.mem_cons.mp h with h | h
      · cases h
        exact .inr (.inr (.inl ⟨due, List.mem_cons_self, by simp [Timer.receive, lookup_store]⟩))
      · exact .inr (.inl ⟨due', h⟩)
    · have hs : s' ≠ s := by
        rintro rfl
        exact hfresh due' hh
      exact .inr (.inr (.inl ⟨due', List.mem_cons_of_mem _ hh,
        by simp [Timer.receive, lookup_store, hs, hk]⟩))
    · exact .inr (.inr (.inr h))
  · rintro (h | h | h)
    · exact .inl h
    · exact .inr (.inl (hrest _ h))
    · exact .inr (.inr h)

/-- The timer task handles its oldest message; a `Clear` cannot be among them. -/
theorem Alive.receive (hS : Sound W) (hA : Alive W) {m : TimerMessage K}
    {rest : List (TimerMessage K)} (hq : W.timer.queue = m :: rest) :
    Alive { W with timer := { W.timer with queue := rest }.receive m } := by
  have hm : m ∈ W.timer.queue := by
    rw [hq]
    exact List.mem_cons_self
  cases m with
  | schedule k s due => exact hA.receiveSchedule hS hq
  | clear => exact absurd hm hA.noClear.2
  | shutdown => exact hA.stopTimer (hA.stopping (.inr (.inl hm)))

/-- Popping entry `e` of the heap keeps every way to fire but the one through `e`, whose key
the map names. -/
theorem World.CanFire.dropEntry {e : Nat × Seq} {k : K} {s : Seq} (h : W.CanFire k s) :
    World.CanFire { W with timer := { W.timer with
      heap := W.timer.heap.erase e, keys := unstore W.timer.keys e.2 } } k s ∨
      (s = e.2 ∧ W.timer.keys.lookup s = some k) := by
  rcases h with ⟨due, h⟩ | ⟨due, h⟩ | ⟨due, hh, hk⟩ | h
  · exact .inl (.inl ⟨due, h⟩)
  · exact .inl (.inr (.inl ⟨due, h⟩))
  · by_cases hs : s = e.2
    · exact .inr ⟨hs, hk⟩
    · have hne : (due, s) ≠ e := fun h' => hs (by rw [← h'])
      exact .inl (.inr (.inr (.inl ⟨due, (List.mem_erase_of_ne hne).mpr hh,
        by simp [lookup_unstore, hs, hk]⟩)))
  · exact .inl (.inr (.inr (.inr h)))

/-- The awake timer task pops its earliest entry if it was due, asking the table to fire it, or
goes back to sleep. -/
theorem Alive.pop (hA : Alive W) {now : Nat} : Alive (W.timerPops now) := by
  unfold World.timerPops
  split
  · rename_i e he
    split
    · split
      · rename_i k hk
        split
        · rename_i hrun
          -- the way through the popped entry becomes its `Fire`
          refine hA.of_keeps ⟨fun k' s' h => ?_, (·.send _)⟩ hA.noClear (hA.idle.send _) id
            (fun x h => by rwa [Table.send_entries] at h)
            (fun _ _ _ _ _ h => Table.position_send rfl h)
          rcases h.dropEntry (e := e) with h | ⟨rfl, hk'⟩
          · exact h.mono (fun _ h => h) (fun _ h => h) rfl rfl (fun h => Table.mem_send_of_mem h _)
          · obtain rfl : k' = k := Option.some.inj (hk'.symm.trans hk)
            exact .inr (.inr (.inr (by simp [Table.send_queue, hrun])))
        · exact hA.stopTimer (.inl (by simpa using ‹¬W.table.running = true›))
      · rename_i hk
        -- the map names no key for the popped entry, so no way went through it
        refine hA.of_keeps ⟨fun k' s' h => ?_, id⟩ hA.noClear hA.idle id (fun _ h => h)
          (fun pre post _ _ _ h => ⟨post, h⟩)
        rcases h.dropEntry (e := e) with h | ⟨rfl, hk'⟩
        · exact h
        · simp [hk] at hk'
    · exact hA.setWake none
  · exact hA.setWake none

end TimerTask

/-! ## Every reachable world -/

section Reach

variable {K : Type} [DecidableEq K] {W : World K}

theorem Alive.step (hS : Sound W) (hA : Alive W) {a : Act K} {W' : World K}
    (h : W.step a = some W') (hclean : W'.cleanups = 0) : Alive W' := by
  cases a with
  | add k d => cases h; exact hA.add k d
  | cleanup => cases h; simp at hclean
  | destroy => cases h; exact hA.destroy
  | ask k => cases h; exact hA.ask k
  | advance c =>
    obtain ⟨hc, rfl⟩ := World.step_advance h
    exact hA.advance hS hc
  | table =>
    obtain ⟨m, rest, hrun, hq, rfl⟩ := World.step_table h
    exact hA.handle hS hrun hq
  | receive =>
    obtain ⟨m, rest, -, -, hq, rfl⟩ := World.step_receive h
    exact hA.receive hS hq
  | wake =>
    obtain rfl := World.step_wake h
    exact hA.setWake _
  | pop =>
    obtain ⟨now, -, -, rfl⟩ := World.step_pop h
    exact hA.pop
  | tick => cases h; exact hA.tick

/-- Every world reached without `cleanup`, within `2 ^ 64` calls of `add_event`, keeps `Alive`. -/
theorem Reachable.alive (h : Reachable K W) (hlen : W.events.length ≤ 2 ^ 64)
    (hclean : W.cleanups = 0) : Alive W := by
  induction h with
  | init => exact Alive.init
  | step a hr hs ih =>
    obtain ⟨hgrow, hcl⟩ := World.step_grows hs
    have hlen' := Nat.le_trans hgrow hlen
    exact (ih hlen' (Nat.eq_zero_of_le_zero (hclean ▸ hcl))).step (hr.sound hlen') hs hclean

/-- Without `cleanup`, every key the table stores has its way to fire, with the timer running,
unless `destroy` has queued `Shutdown` to the table; and the heap's sequence numbers are those
the map has keys for. -/
theorem reachable_keeps_way {W : World K} (h : Reachable K W) (hlen : W.events.length ≤ 2 ^ 64)
    (hclean : W.cleanups = 0) :
    (∀ k s c, (k, s, c) ∈ W.table.entries →
      (W.timer.running = true ∧ W.CanFire k s) ∨ .shutdown ∈ W.table.queue) ∧
    ∀ s, s ∈ W.timer.heap.map (·.2) ↔ s ∈ W.timer.keys.map (·.1) := by
  have hA := h.alive hlen hclean
  refine ⟨fun k s c hc => ?_, (h.sound hlen).heapKeys⟩
  -- a table that stores an entry runs, so closing means `Shutdown` is queued
  have hrun : W.table.running = true := by
    cases hr : W.table.running
    · simp [(hA.idle hr).1] at hc
    · rfl
  have hopen : W.table.Closing → .shutdown ∈ W.table.queue :=
    fun h' => h'.resolve_left (by simp [hrun])
  rcases hA.entries k s c hc with hway | hclose
  · cases ht : W.timer.running
    · exact .inr (hopen (hA.stopping (.inr (.inr ht))))
    · exact .inl ⟨rfl, hway⟩
  · exact .inr (hopen hclose)

/-- One `add_event` whose `Schedule` the timer took: the stored key waits on the heap. -/
theorem stored_key_waits_on_heap :
    let W : World Nat := ⟨0, 1, [], ⟨[(0, 0, 0)], [], true⟩, ⟨[(5, 0)], [(0, 0)], [], none, true⟩,
      [], 0, [⟨0, 0, some 5⟩], 0, [⟨.insert 0 0 0, none, [], 0⟩]⟩
    (Reachable Nat W ∧ W.events.length ≤ 2 ^ 64 ∧ W.cleanups = 0) ∧ W.table.entries = [(0, 0, 0)] ∧
      ((∀ k s c, (k, s, c) ∈ W.table.entries →
        (W.timer.running = true ∧ W.CanFire k s) ∨ .shutdown ∈ W.table.queue) ∧
      ∀ s, s ∈ W.timer.heap.map (·.2) ↔ s ∈ W.timer.keys.map (·.1)) := by
  intro W
  have hr : Reachable Nat W := Reachable.init.run [.add 0 5, .advance (.numbered 0 5 0 0),
    .advance (.timed 0 0 5 0), .advance (.inserted 0 0 5), .table, .receive] rfl
  have hl : W.events.length ≤ 2 ^ 64 := by decide
  exact ⟨⟨hr, hl, rfl⟩, rfl, reachable_keeps_way hr hl rfl⟩

/-! ## `cleanup` beside `add_event` -/

/-- No call in flight, no message queued, nothing on the heap. -/
def World.Quiescent (W : World K) : Prop :=
  W.calls = [] ∧ W.timer.queue = [] ∧ W.timer.heap = [] ∧ W.table.queue = []

/-- In a quiescent world the tasks and the clock have nothing to do: it stays quiescent, and
the table keeps what it stores. -/
theorem World.Quiescent.step {W' : World K} (h : W.Quiescent) {a : Act K}
    (ha : a = .table ∨ a = .receive ∨ a = .wake ∨ a = .pop ∨ a = .tick)
    (hs : W.step a = some W') : W'.Quiescent ∧ W'.table.entries = W.table.entries := by
  obtain ⟨hc, hq, hh, htq⟩ := h
  rcases ha with rfl | rfl | rfl | rfl | rfl
  · obtain ⟨m, rest, -, hq', -⟩ := World.step_table hs
    simp [htq] at hq'
  · obtain ⟨m, rest, -, -, hq', -⟩ := World.step_receive hs
    simp [hq] at hq'
  · simp [World.step, hh, earliest] at hs
  · obtain ⟨now, -, -, rfl⟩ := World.step_pop hs
    have he : W.timerPops now = { W with timer := { W.timer with wake := none } } := by
      simp only [World.timerPops, hh, earliest]
    rw [he]
    exact ⟨⟨hc, hq, hh, htq⟩, rfl⟩
  · cases hs
    exact ⟨⟨hc, hq, hh, htq⟩, rfl⟩

theorem World.Quiescent.run {W' : World K} (h : W.Quiescent) {acts : List (Act K)}
    (ha : ∀ a ∈ acts, a = .table ∨ a = .receive ∨ a = .wake ∨ a = .pop ∨ a = .tick)
    (hrun : W.run acts = some W') : W'.table.entries = W.table.entries := by
  induction acts generalizing W with
  | nil => cases hrun; rfl
  | cons a acts ih =>
    simp only [World.run] at hrun
    cases hs : W.step a with
    | none => simp [hs] at hrun
    | some W₁ =>
      rw [hs] at hrun
      obtain ⟨h₁, he⟩ := h.step (ha a List.mem_cons_self) hs
      rw [ih h₁ (fun a' h' => ha a' (List.mem_cons_of_mem _ h')) hrun, he]

/-- `cleanup` sends `Clear` to the table; an `add_event` then sends `Insert` and `Schedule`; the
table takes `Clear`, then `Insert`; the timer takes `Schedule`; and `cleanup` sends `Clear` to
the timer, which takes it.  The table, running and with no `Shutdown` queued, stores the key
with no way left to fire it, and keeps it under every run of the tasks and the clock. -/
theorem cleanup_strands_key :
    let W : World Nat := ⟨0, 1, [], ⟨[(0, 0, 0)], [], true⟩, ⟨[], [], [], none, true⟩, [], 0,
      [⟨0, 0, some 5⟩], 1, [⟨.clear, none, [], 0⟩, ⟨.insert 0 0 0, none, [], 0⟩]⟩
    Reachable Nat W ∧ (0, 0, 0) ∈ W.table.entries ∧ ¬W.CanFire 0 0 ∧ ¬W.table.Closing ∧
      ∀ (acts : List (Act Nat)) (W' : World Nat),
        (∀ a ∈ acts, a = .table ∨ a = .receive ∨ a = .wake ∨ a = .pop ∨ a = .tick) →
        W.run acts = some W' → (0, 0, 0) ∈ W'.table.entries := by
  intro W
  refine ⟨Reachable.init.run [.cleanup, .add 0 5, .advance (.numbered 0 5 0 0),
    .advance (.timed 0 0 5 0), .table, .table, .advance (.inserted 0 0 5), .receive,
    .advance .clearing, .receive] rfl, List.mem_singleton_self _, ?_, ?_, ?_⟩
  · simp [World.CanFire, W]
  · simp [Table.Closing, W]
  · intro acts W' ha hrun
    rw [World.Quiescent.run ⟨rfl, rfl, rfl, rfl⟩ ha hrun]
    exact List.mem_singleton_self _

end Reach


end Scheduler

end PartCache
