import Mathlib.Logic.Relation
import PartCache.Zone.Downloads
import PartCache.Proofs.KeyedTable

/-!
# Deduplicated downloads are safe in any order of steps

`Invariant` holds of every state the system reaches (`Invariant.of_reachable`).  Each download of
a part that was started and whose report the coordinator has not handled is counted once in the
table: one such download while the part is in the table, none otherwise.  Every caller that sent a
request is in exactly one place: queued, waiting in the table, or answered.  And the callers
waiting for a part are exactly those of the requests for it handled since the one that started its
download (`sinceStart`).

Each step keeps it: a send queues a fresh caller, a request joins the table or starts a download
or is refused, a report answers the part's waiters and takes it out of the table, a finished
download queues its report, and dropping the storage changes nothing the invariant reads.  So the
report of a download answers exactly the requests it served, and the next request for the part
starts a new download (`reachable_protocol`).
-/

set_option autoImplicit false

namespace PartCache.Downloads

/-! ## What the proofs read off a state -/

namespace Message

/-- The caller of a request. -/
def caller? : Message → Option Caller
  | .request _ _ c => some c
  | .finished .. => none

/-- Whether the message reports a download of part `i`. -/
def reports (i : PartIndex) : Message → Bool
  | .request .. => false
  | .finished j _ => j == i

@[simp] theorem reports_request (i j : PartIndex) (r : ByteRange) (c : Caller) :
    (Message.request j r c).reports i = false := rfl

@[simp] theorem reports_finished (i j : PartIndex) (res : Answer) :
    (Message.finished j res).reports i = (j == i) := rfl

end Message

/-- The callers of the requests on a queue, oldest first. -/
def queued (q : List Message) : List Caller := q.filterMap Message.caller?

/-- The downloads of part `i` started and not yet reported to the coordinator: running, or with
their report queued. -/
def System.outstanding (s : System) (i : PartIndex) : Nat :=
  s.fetches.countP (·.index == i) + s.queue.countP (·.reports i)

/-- The callers of the requests for part `i` handled since the latest that started its download,
that one first, in the order handled; `log` is newest first. -/
def sinceStart (i : PartIndex) : List (Caller × PartIndex × Outcome) → List Caller
  | [] => []
  | (c, j, o) :: log =>
    if j = i then
      match o with
      | .started => [c]
      | .joined => sinceStart i log ++ [c]
      | .refused => []
    else sinceStart i log

@[simp] theorem queued_nil : queued [] = [] := rfl

@[simp] theorem queued_append (q q' : List Message) : queued (q ++ q') = queued q ++ queued q' :=
  List.filterMap_append

@[simp] theorem queued_request (i : PartIndex) (r : ByteRange) (c : Caller) (q : List Message) :
    queued (.request i r c :: q) = c :: queued q := rfl

@[simp] theorem queued_finished (i : PartIndex) (res : Answer) (q : List Message) :
    queued (.finished i res :: q) = queued q := rfl

theorem sinceStart_of_ne {i j : PartIndex} (h : j ≠ i) (c : Caller) (o : Outcome)
    (log : List (Caller × PartIndex × Outcome)) : sinceStart i ((c, j, o) :: log) = sinceStart i log := by
  simp [sinceStart, h]

/-! ## The table -/

namespace Table

@[simp] theorem waiters?_put (t : Table) (i : PartIndex) (ws : List Caller) (j : PartIndex) :
    (t.put i ws).waiters? j = if j = i then some ws else t.waiters? j :=
  KeyedTable.lookup_cons_filter_ne t i j ws

@[simp] theorem waiters?_erase (t : Table) (i j : PartIndex) :
    (t.erase i).waiters? j = if j = i then none else t.waiters? j :=
  KeyedTable.lookup_filter_ne t i j

theorem callers_put (t : Table) (i : PartIndex) (ws : List Caller) :
    (t.put i ws).callers = ws ++ (t.erase i).callers := by
  simp [put, erase, callers]

theorem erase_of_waiters?_eq_none {t : Table} {i : PartIndex} (h : t.waiters? i = none) :
    t.erase i = t :=
  KeyedTable.filter_ne_of_lookup_eq_none h

/-- With distinct parts, the waiters of `i` are counted once beside the others. -/
theorem count_callers {t : Table} (hk : (t.map (·.1)).Nodup) {i : PartIndex} {ws : List Caller}
    (hi : t.waiters? i = some ws) (c : Caller) :
    t.callers.count c = ws.count c + (t.erase i).callers.count c :=
  KeyedTable.count_flatten_values hk hi c

/-- The waiters of `i`, or none, are counted once beside the others. -/
theorem count_callers_getD {t : Table} (hk : (t.map (·.1)).Nodup) (i : PartIndex) (c : Caller) :
    t.callers.count c = ((t.waiters? i).getD []).count c + (t.erase i).callers.count c := by
  cases hi : t.waiters? i with
  | none => simp [erase_of_waiters?_eq_none hi]
  | some ws => exact count_callers hk hi c

theorem nodup_keys_put {t : Table} (hk : (t.map (·.1)).Nodup) (i : PartIndex) (ws : List Caller) :
    ((t.put i ws).map (·.1)).Nodup :=
  KeyedTable.nodup_keys_cons_filter_ne hk i ws

theorem nodup_keys_erase {t : Table} (hk : (t.map (·.1)).Nodup) (i : PartIndex) :
    ((t.erase i).map (·.1)).Nodup :=
  KeyedTable.nodup_keys_filter hk _

/-- A table where no part has waiters is empty. -/
theorem eq_nil_of_waiters?_eq_none {t : Table} (h : ∀ i, t.waiters? i = none) : t = [] := by
  cases t with
  | nil => rfl
  | cons e t =>
    have he := h e.1
    simp [waiters?] at he

end Table

/-! ## The coordinator's step, message by message -/

namespace System

variable {s : System} {rest : List Message}

/-- A request for a part being downloaded joins its waiters. -/
theorem receive_joined {i : PartIndex} {r : ByteRange} {c : Caller} {ws : List Caller}
    (hq : s.queue = .request i r c :: rest) (hw : s.table.waiters? i = some ws) :
    s.receive = some { s with table := s.table.put i (ws ++ [c]), queue := rest,
                              log := (c, i, .joined) :: s.log } := by
  simp [receive, hq, handle, hw, outcome]

/-- A request for a part not being downloaded starts its download, while a sender is alive. -/
theorem receive_started {i : PartIndex} {r : ByteRange} {c : Caller}
    (hq : s.queue = .request i r c :: rest) (hw : s.table.waiters? i = none)
    (hc : s.canStart = true) :
    s.receive = some { s with table := s.table.put i [c], queue := rest,
                              fetches := s.fetches ++ [⟨i, r⟩],
                              log := (c, i, .started) :: s.log } := by
  simp [receive, hq, handle, hw, hc, outcome]

/-- With no sender alive, a request for a part not being downloaded is answered `shutdown`. -/
theorem receive_refused {i : PartIndex} {r : ByteRange} {c : Caller}
    (hq : s.queue = .request i r c :: rest) (hw : s.table.waiters? i = none)
    (hc : s.canStart = false) :
    s.receive = some { s with queue := rest, replies := s.replies ++ [(c, .error .shutdown)],
                              log := (c, i, .refused) :: s.log } := by
  simp [receive, hq, handle, hw, hc, outcome]

/-- A report answers the part's waiters, in order, and takes the part out of the table. -/
theorem receive_finished {i : PartIndex} {res : Answer} (hq : s.queue = .finished i res :: rest) :
    s.receive = some { s with table := s.table.erase i, queue := rest,
                              replies := s.replies ++ ((s.table.waiters? i).getD []).map (·, res) } := by
  simp [receive, hq, handle]

end System

/-! ## The invariant -/

/-- What holds in every state the system reaches. -/
structure Invariant (s : System) : Prop where
  /-- No part is in the table twice. -/
  keysNodup : (s.table.map (·.1)).Nodup
  /-- One download of a part is outstanding while the part is in the table, none otherwise. -/
  inFlight : ∀ i, s.outstanding i = if (s.table.waiters? i).isSome then 1 else 0
  sentNodup : s.sent.Nodup
  /-- Each caller that sent is queued, waiting or answered, once in all. -/
  placed : ∀ c, s.sent.count c =
    (queued s.queue).count c + s.table.callers.count c + (s.replies.map (·.1)).count c
  /-- The waiters of a part are the requests handled since the one that started its download. -/
  waitersSince : ∀ i ws, s.table.waiters? i = some ws → ws = sinceStart i s.log

namespace Invariant

variable {s : System}

theorem init : Invariant System.init where
  keysNodup := List.nodup_nil
  inFlight _ := rfl
  sentNodup := List.nodup_nil
  placed _ := rfl
  waitersSince _ _ h := nomatch h

theorem send (h : Invariant s) (i : PartIndex) (r : ByteRange) {c : Caller} (hfresh : c ∉ s.sent) :
    Invariant { s with queue := s.queue ++ [.request i r c], sent := s.sent ++ [c] } where
  keysNodup := h.keysNodup
  inFlight j := by
    rw [← h.inFlight j]
    simp [System.outstanding]
  sentNodup := List.nodup_append.mpr ⟨h.sentNodup, by simp,
    fun a ha b hb e => hfresh (by rw [← List.mem_singleton.mp hb, ← e]; exact ha)⟩
  placed a := by
    have := h.placed a
    simp only [queued_append, queued_request, queued_nil, List.count_append] at this ⊢
    omega
  waitersSince := h.waitersSince

theorem joined (h : Invariant s) {i : PartIndex} {r : ByteRange} {c : Caller} {rest : List Message}
    {ws : List Caller} (hq : s.queue = .request i r c :: rest) (hw : s.table.waiters? i = some ws) :
    Invariant { s with table := s.table.put i (ws ++ [c]), queue := rest,
                       log := (c, i, .joined) :: s.log } where
  keysNodup := Table.nodup_keys_put h.keysNodup i _
  inFlight j := by
    have hj := h.inFlight j
    simp only [System.outstanding, hq, List.countP_cons, Message.reports_request] at hj
    simp only [System.outstanding, Table.waiters?_put]
    by_cases hji : j = i
    · subst hji
      simpa [hw] using hj
    · simpa [hji] using hj
  sentNodup := h.sentNodup
  placed a := by
    have := h.placed a
    rw [hq, Table.count_callers h.keysNodup hw] at this
    simp only [Table.callers_put, queued_request, List.count_append, List.count_cons, List.count_nil] at this ⊢
    omega
  waitersSince j ws' hj := by
    simp only [Table.waiters?_put] at hj
    by_cases hji : j = i
    · subst hji
      simp only [if_true, Option.some.injEq] at hj
      rw [← hj, h.waitersSince j ws hw]
      simp [sinceStart]
    · rw [if_neg hji] at hj
      rw [sinceStart_of_ne (Ne.symm hji)]
      exact h.waitersSince j ws' hj

theorem started (h : Invariant s) {i : PartIndex} {r : ByteRange} {c : Caller} {rest : List Message}
    (hq : s.queue = .request i r c :: rest) (hw : s.table.waiters? i = none) :
    Invariant { s with table := s.table.put i [c], queue := rest, fetches := s.fetches ++ [⟨i, r⟩],
                       log := (c, i, .started) :: s.log } where
  keysNodup := Table.nodup_keys_put h.keysNodup i _
  inFlight j := by
    have hj := h.inFlight j
    simp only [System.outstanding, hq, List.countP_cons, Message.reports_request] at hj
    simp only [System.outstanding, Table.waiters?_put, List.countP_append]
    by_cases hji : j = i
    · -- the part had no download outstanding, and now has the one started
      subst hji
      simp only [hw, Option.isSome_none, Bool.false_eq_true, ite_false] at hj
      simp only [Option.isSome_some, ite_true, List.countP_cons, List.countP_nil,
        beq_self_eq_true]
      omega
    · simpa [hji, Ne.symm hji] using hj
  sentNodup := h.sentNodup
  placed a := by
    have := h.placed a
    rw [hq] at this
    simp only [Table.callers_put, Table.erase_of_waiters?_eq_none hw, queued_request,
      List.count_append, List.count_cons, List.count_nil] at this ⊢
    omega
  waitersSince j ws' hj := by
    simp only [Table.waiters?_put] at hj
    by_cases hji : j = i
    · subst hji
      simp only [if_true, Option.some.injEq] at hj
      simp [← hj, sinceStart]
    · rw [if_neg hji] at hj
      rw [sinceStart_of_ne (Ne.symm hji)]
      exact h.waitersSince j ws' hj

theorem refused (h : Invariant s) {i : PartIndex} {r : ByteRange} {c : Caller} {rest : List Message}
    (hq : s.queue = .request i r c :: rest) (hw : s.table.waiters? i = none) :
    Invariant { s with queue := rest, replies := s.replies ++ [(c, .error .shutdown)],
                       log := (c, i, .refused) :: s.log } where
  keysNodup := h.keysNodup
  inFlight j := by
    have hj := h.inFlight j
    simpa [System.outstanding, hq] using hj
  sentNodup := h.sentNodup
  placed a := by
    have := h.placed a
    rw [hq] at this
    simp only [queued_request, List.map_append, List.count_append, List.count_cons,
      List.map_cons, List.map_nil, List.count_nil] at this ⊢
    omega
  waitersSince j ws' hj := by
    -- the refused part is not in the table
    have hji : j ≠ i := fun e => by rw [e, hw] at hj; cases hj
    rw [sinceStart_of_ne (Ne.symm hji)]
    exact h.waitersSince j ws' hj

theorem finished (h : Invariant s) {i : PartIndex} {res : Answer} {rest : List Message}
    (hq : s.queue = .finished i res :: rest) :
    Invariant { s with table := s.table.erase i, queue := rest,
                       replies := s.replies ++ ((s.table.waiters? i).getD []).map (·, res) } where
  keysNodup := Table.nodup_keys_erase h.keysNodup i
  inFlight j := by
    have hj := h.inFlight j
    simp only [System.outstanding, hq, List.countP_cons, Message.reports_finished] at hj
    simp only [System.outstanding, Table.waiters?_erase]
    by_cases hji : j = i
    · -- the report was the part's one outstanding download
      subst hji
      simp only [beq_self_eq_true, ite_true] at hj
      simp only [ite_true, Option.isSome_none, Bool.false_eq_true, ite_false]
      split at hj <;> omega
    · simpa [hji, Ne.symm hji] using hj
  sentNodup := h.sentNodup
  placed a := by
    have := h.placed a
    rw [hq, Table.count_callers_getD h.keysNodup i] at this
    simp only [queued_finished, List.map_append, List.map_map, List.count_append] at this ⊢
    have hmap : ((s.table.waiters? i).getD []).map ((·.1) ∘ (·, res)) = (s.table.waiters? i).getD [] :=
      List.map_id' _
    rw [hmap]
    omega
  waitersSince j ws' hj := by
    simp only [Table.waiters?_erase] at hj
    by_cases hji : j = i
    · rw [if_pos hji] at hj
      cases hj
    · rw [if_neg hji] at hj
      exact h.waitersSince j ws' hj

theorem receive (h : Invariant s) {s' : System} (hr : s.receive = some s') : Invariant s' := by
  cases hq : s.queue with
  | nil => simp [System.receive, hq] at hr
  | cons m rest =>
    cases m with
    | request i r c =>
      cases hw : s.table.waiters? i with
      | some ws =>
        rw [System.receive_joined hq hw, Option.some.injEq] at hr
        exact hr ▸ h.joined hq hw
      | none =>
        cases hc : s.canStart with
        | true =>
          rw [System.receive_started hq hw hc, Option.some.injEq] at hr
          exact hr ▸ h.started hq hw
        | false =>
          rw [System.receive_refused hq hw hc, Option.some.injEq] at hr
          exact hr ▸ h.refused hq hw
    | finished i res =>
      rw [System.receive_finished hq, Option.some.injEq] at hr
      exact hr ▸ h.finished hq

theorem finish (h : Invariant s) {before after : List Fetch} {f : Fetch} (res : Answer)
    (hf : s.fetches = before ++ f :: after) :
    Invariant { s with fetches := before ++ after, queue := s.queue ++ [.finished f.index res] } where
  keysNodup := h.keysNodup
  inFlight j := by
    -- the download leaves the running ones and its report joins the queue
    rw [← h.inFlight j]
    simp only [System.outstanding, hf, List.countP_append, List.countP_cons, List.countP_nil,
      Message.reports]
    omega
  sentNodup := h.sentNodup
  placed a := by
    have := h.placed a
    simp only [queued_append, queued_finished, queued_nil, List.append_nil] at this ⊢
    exact this
  waitersSince := h.waitersSince

theorem close (h : Invariant s) : Invariant { s with accepting := false } where
  keysNodup := h.keysNodup
  inFlight := h.inFlight
  sentNodup := h.sentNodup
  placed := h.placed
  waitersSince := h.waitersSince

theorem step (h : Invariant s) {s' : System} (hs : Step s s') : Invariant s' := by
  cases hs with
  | send i r c _ hfresh => exact h.send i r hfresh
  | receive hr => exact h.receive hr
  | finish before after f res hf => exact h.finish res hf
  | close => exact h.close

theorem of_reachable {s : System} (h : Reachable s) : Invariant s := by
  induction h with
  | init => exact init
  | step _ hs ih => exact ih.step hs

/-- With nothing queued and nothing running, no part is in the table, so every caller that sent
has been answered, once. -/
theorem replies_perm_of_idle (h : Invariant s) (hq : s.queue = []) (hf : s.fetches = []) :
    (s.replies.map (·.1)).Perm s.sent := by
  have hnone : ∀ i, s.table.waiters? i = none := fun i => by
    have hi := h.inFlight i
    rw [System.outstanding, hq, hf] at hi
    cases hw : s.table.waiters? i with
    | none => rfl
    | some ws => simp [hw] at hi
  have ht := Table.eq_nil_of_waiters?_eq_none hnone
  refine List.perm_iff_count.mpr fun c => ?_
  have hc := h.placed c
  rw [hq, ht] at hc
  simpa [Table.callers] using hc.symm

end Invariant

/-! ## Every caller is answered

Without new requests, the system can always run until nothing is queued and nothing runs: handling
a message or finishing a download lowers the backlog, which counts each queued message, each
running download twice, and each queued request twice more, since handling it may start a
download.  At the end the invariant leaves every caller that sent exactly one reply. -/

/-- The work left before the system is idle. -/
def System.backlog (s : System) : Nat :=
  s.queue.length + 2 * s.fetches.length + 2 * (queued s.queue).length

namespace System

variable {s : System}

/-- While a message is queued or a download runs, some step lowers the backlog, keeping who sent
and only adding replies. -/
theorem exists_progress (hw : s.queue ≠ [] ∨ s.fetches ≠ []) :
    ∃ s', Step s s' ∧ s'.backlog < s.backlog ∧ s'.sent = s.sent ∧ s.replies <+: s'.replies := by
  cases hq : s.queue with
  | cons m rest =>
    -- the coordinator handles the oldest message
    cases m with
    | request i r c =>
      cases hw : s.table.waiters? i with
      | some ws =>
        refine ⟨_, .receive (receive_joined hq hw), ?_, rfl, List.prefix_refl _⟩
        simp only [backlog, hq, List.length_cons, queued_request]
        omega
      | none =>
        cases hc : s.canStart with
        | true =>
          refine ⟨_, .receive (receive_started hq hw hc), ?_, rfl, List.prefix_refl _⟩
          simp only [backlog, hq, List.length_cons, List.length_append, List.length_nil,
            queued_request]
          omega
        | false =>
          refine ⟨_, .receive (receive_refused hq hw hc), ?_, rfl, List.prefix_append _ _⟩
          simp only [backlog, hq, List.length_cons, queued_request]
          omega
    | finished i res =>
      refine ⟨_, .receive (receive_finished hq), ?_, rfl, List.prefix_append _ _⟩
      simp only [backlog, hq, List.length_cons, queued_finished]
      omega
  | nil =>
    -- the oldest running download finishes
    cases hf : s.fetches with
    | nil => simp [hq, hf] at hw
    | cons f after =>
      refine ⟨_, .finish [] after f (.ok []) hf, ?_, rfl, List.prefix_refl _⟩
      simp only [backlog, hq, hf, List.nil_append, List.length_cons, queued_finished, queued_nil]
      omega

end System

namespace Invariant

variable {s : System}

/-- From a state where the invariant holds, the system can run until every caller that sent has
exactly one reply, answering no one it has answered before. -/
theorem drains (h : Invariant s) :
    ∃ s', Relation.ReflTransGen Step s s' ∧ s'.sent = s.sent ∧ s.replies <+: s'.replies ∧
      (s'.replies.map (·.1)).Perm s.sent := by
  suffices reach : ∀ (bound : Nat) (s : System), Invariant s → s.backlog ≤ bound →
      ∃ s', Relation.ReflTransGen Step s s' ∧ s'.sent = s.sent ∧ s.replies <+: s'.replies ∧
        (s'.replies.map (·.1)).Perm s.sent from reach _ s h (Nat.le_refl _)
  intro bound
  induction bound with
  | zero =>
    intro s h hb
    have hq : s.queue = [] := List.eq_nil_of_length_eq_zero (by simp only [System.backlog] at hb; omega)
    have hf : s.fetches = [] := List.eq_nil_of_length_eq_zero (by simp only [System.backlog] at hb; omega)
    exact ⟨s, .refl, rfl, List.prefix_refl _, h.replies_perm_of_idle hq hf⟩
  | succ bound ih =>
    intro s h hb
    by_cases hidle : s.queue = [] ∧ s.fetches = []
    · exact ⟨s, .refl, rfl, List.prefix_refl _, h.replies_perm_of_idle hidle.1 hidle.2⟩
    · have hbusy : s.queue ≠ [] ∨ s.fetches ≠ [] := by
        by_cases hq : s.queue = []
        · exact .inr fun hf => hidle ⟨hq, hf⟩
        · exact .inl hq
      obtain ⟨s₁, hstep, hlt, hsent, hpre⟩ := System.exists_progress hbusy
      obtain ⟨s', hrun, hsent', hpre', hperm⟩ := ih s₁ (h.step hstep) (by omega)
      exact ⟨s', .head hstep hrun, hsent'.trans hsent, hpre.trans hpre', hsent ▸ hperm⟩

end Invariant


/-! ## The protocol -/

namespace Invariant

variable {s : System}

/-- The callers that sent are, each once, the queued ones, the waiting ones and the answered ones. -/
theorem sent_perm (h : Invariant s) :
    s.sent.Perm (queued s.queue ++ s.table.callers ++ s.replies.map (·.1)) :=
  List.perm_iff_count.mpr fun c => by
    rw [h.placed c, List.count_append, List.count_append]

/-- A report at the head of the queue is for a part in the table, and handling it answers the
part's waiters, those handled since the request that started its download, and takes the part out
of the table. -/
theorem receive_report (h : Invariant s) {i : PartIndex} {res : Answer} {rest : List Message}
    (hq : s.queue = .finished i res :: rest) :
    s.table.waiters? i = some (sinceStart i s.log) ∧
      ∃ s', s.receive = some s' ∧ s'.replies = s.replies ++ (sinceStart i s.log).map (·, res) ∧
        s'.table.waiters? i = none := by
  -- the queued report is an outstanding download of `i`, so `i` is in the table
  have hi := h.inFlight i
  simp only [System.outstanding, hq, List.countP_cons, Message.reports_finished,
    beq_self_eq_true, ite_true] at hi
  cases hw : s.table.waiters? i with
  | none =>
    rw [hw] at hi
    simp only [Option.isSome_none, Bool.false_eq_true, ite_false] at hi
    omega
  | some ws =>
    have hws := h.waitersSince i ws hw
    subst hws
    refine ⟨rfl, _, System.receive_finished hq, ?_, by simp⟩
    simp only [hw, Option.getD_some]

end Invariant

/-- The deduplicated downloads in every state the system reaches, for every part `i`.  One
download of `i` is outstanding while `i` is in the table and none otherwise.  Every caller that
sent is queued, waiting or answered, once in all, and some run from here answers each of them
exactly once.  Handling the report of a download answers the requests handled since the one that
started it and takes the part out of the table; and a request for a part not in the table starts
a new download while a sender is alive. -/
theorem reachable_protocol {s : System} (h : Reachable s) (i : PartIndex) :
    s.outstanding i = (if (s.table.waiters? i).isSome then 1 else 0) ∧
      (s.sent.Nodup ∧ s.sent.Perm (queued s.queue ++ s.table.callers ++ s.replies.map (·.1)) ∧
        ∃ s', Relation.ReflTransGen Step s s' ∧ s'.sent = s.sent ∧ s.replies <+: s'.replies ∧
          (s'.replies.map (·.1)).Perm s.sent) ∧
      (∀ res rest, s.queue = .finished i res :: rest →
        s.table.waiters? i = some (sinceStart i s.log) ∧
          ∃ s', s.receive = some s' ∧ s'.replies = s.replies ++ (sinceStart i s.log).map (·, res) ∧
            s'.table.waiters? i = none) ∧
      (∀ r c rest, s.queue = .request i r c :: rest → s.table.waiters? i = none →
        s.canStart = true →
          ∃ s', s.receive = some s' ∧ s'.fetches = s.fetches ++ [⟨i, r⟩] ∧
            s'.table.waiters? i = some [c]) := by
  have hinv := Invariant.of_reachable h
  refine ⟨hinv.inFlight i, ⟨hinv.sentNodup, hinv.sent_perm, hinv.drains⟩,
    fun _ _ hq => hinv.receive_report hq, fun r c rest hq hw hc => ?_⟩
  exact ⟨_, System.receive_started hq hw hc, rfl, by simp⟩

/-- Two callers asking for one part share one download, and some run answers both, once. -/
theorem two_callers_share_download :
    let i : PartIndex := default
    let s : System := ⟨[(i, [0, 1])], [], [⟨i, ⟨0, 0, by decide⟩⟩], true, [], [0, 1],
      [(1, i, .joined), (0, i, .started)]⟩
    Reachable s ∧ s.outstanding i = 1 ∧
      ∃ s', Relation.ReflTransGen Step s s' ∧ (s'.replies.map (·.1)).Perm [0, 1] := by
  intro i s
  have hs : Reachable s :=
    .step (.step (.step (.step .init (.send i ⟨0, 0, by decide⟩ 0 rfl (by simp [System.init])))
      (.send i ⟨0, 0, by decide⟩ 1 rfl (by simp [System.init]))) (.receive rfl)) (.receive rfl)
  obtain ⟨hout, ⟨-, -, s', hrun, -, -, hperm⟩, -⟩ := reachable_protocol hs i
  refine ⟨hs, ?_, s', hrun, hperm⟩
  rw [hout]
  simp [s, Table.waiters?]

end PartCache.Downloads
