import PartCache.Proofs.ContentRangeHeader
import PartCache.Proofs.PartNumbers
import PartCache.Http.Upstream

/-!
# Taking an origin's reply to a range request

An HTTP upstream asks its origin for the bytes `first..=last` of an object and takes the reply
by its status.  `Serves first last reply b` says when a reply rightly gives the bytes `b`.  A
partial reply (`206`) gives its body when its `Content-Range` value, read as text, is accepted by
`ContentRange.ofHeader` as a range that starts at `first` and ends at `last`, or at the object's
last byte when the object ends first.  A whole reply (`200`) that reaches `first` gives its
bytes from `first` to `last`, cut at its end.

The check of a partial reply compares words.  A header that reads gives a range that is not
empty and ends inside its object, so neither the range's end nor the object's last byte wraps,
and the check compares the numbers (`checkContentRange_eq_ok_iff`).  A reply is taken exactly
when it serves the range (`accept_eq_ok_iff`), and every refusal is an upstream fetch error
(`accept_error`).  The fetch itself either fails before a reply comes, with an upstream fetch
error, or takes the reply its request brought (`fetchRange_of_le`).  So a range whose ends are
out of order is refused as an inconsistent state and no request is sent; any other fetch gives
bytes exactly when the origin received the request and its reply serves the range with them,
and every failure is an upstream fetch error.
-/

namespace PartCache.Http

set_option autoImplicit false

namespace HttpUpstream

/-- What a reply rightly gives for the bytes `first..=last` of an object: the body of a partial
reply whose `Content-Range` reads as the range asked for, its end cut to the object's last byte;
or the bytes `first..=last` of a whole reply that reaches `first`, cut at its end. -/
def Serves (first last : UInt64) (reply : Response) (b : Bytes) : Prop :=
  (reply.status = 206 ∧ ∃ h c, contentRange? reply = some h ∧ ContentRange.ofHeader h = .ok c ∧
      c.start = first ∧
      c.start.toNat + c.length.toNat - 1 = min last.toNat (c.objectSize.toNat - 1) ∧
      b = reply.body) ∨
  (reply.status = 200 ∧ first.toNat < reply.body.length ∧
      b = reply.body.extract first.toNat (min last.toNat (reply.body.length - 1) + 1))

/-! ## The check of a partial reply -/

/-- The range a header reads as ends, in words as in numbers, at its last byte, and the
object's last byte is one below its size. -/
theorem ends_of_ofHeader {h : String} {c : ContentRange} (hc : ContentRange.ofHeader h = .ok c) :
    ∃ b, c.start + c.length - 1 = b ∧ c.start.toNat + c.length.toNat - 1 = b.toNat ∧
      (c.objectSize - 1).toNat = c.objectSize.toNat - 1 := by
  obtain ⟨a, b, hab, hbn, hs, hl⟩ := ContentRange.ofHeader_ok_bounds h c hc
  have hab' := UInt64.le_iff_toNat_le.mp hab
  have hbn' := UInt64.lt_iff_toNat_lt.mp hbn
  have hsize := c.objectSize.toNat_lt
  refine ⟨b, by rw [hs, hl]; grind, ?_, ?_⟩
  · rw [hs, hl, UInt64.toNat_add, UInt64.toNat_sub_of_le _ _ hab]
    simp only [UInt64.toNat_one]
    omega
  · rw [UInt64.toNat_sub_of_le _ _ (UInt64.le_iff_toNat_le.mpr (by simp; omega))]
    simp

/-- A partial reply's header passes the check exactly when it reads as a range that starts where
the range asked for starts and ends where it ends, or at the object's last byte when that comes
first. -/
theorem checkContentRange_eq_ok_iff (h : String) (r : ByteRange) :
    checkContentRange h r = .ok () ↔ ∃ c, ContentRange.ofHeader h = .ok c ∧ c.start = r.first ∧
      c.start.toNat + c.length.toNat - 1 = min r.last.toNat (c.objectSize.toNat - 1) := by
  unfold checkContentRange
  cases hc : ContentRange.ofHeader h with
  | error e => simp [bind, Except.bind]
  | ok c =>
    obtain ⟨b, hend, hnat, hlast⟩ := ends_of_ofHeader hc
    have hmin : (min r.last (c.objectSize - 1)).toNat = min r.last.toNat (c.objectSize.toNat - 1) := by
      rw [UInt64.toNat_min, hlast]
    simp only [bind, Except.bind, hend, Except.ok.injEq, exists_eq_left', hnat, ← hmin,
      UInt64.toNat_inj]
    by_cases hok : c.start = r.first ∧ b = min r.last (c.objectSize - 1)
    · simp [hok, pure, Except.pure]
    · rcases not_and_or.mp hok with hs | he
      · simp [hs, throw, throwThe, MonadExceptOf.throw]
      · simp [he, throw, throwThe, MonadExceptOf.throw]

/-- Every header that fails the check fails it with an upstream fetch error. -/
theorem checkContentRange_error {h : String} {r : ByteRange} {e : CacheError}
    (he : checkContentRange h r = .error e) : ∃ msg, e = .upstreamFetch msg := by
  unfold checkContentRange at he
  cases hc : ContentRange.ofHeader h with
  | error e' =>
    rw [hc] at he
    cases he
    exact ⟨_, ContentRange.ofHeader_eq_error hc⟩
  | ok c =>
    simp only [hc, bind, Except.bind] at he
    split at he
    · cases he
      exact ⟨_, rfl⟩
    · cases he

/-! ## Taking a reply -/

/-- The bytes cut out of a whole reply that reaches the range's start. -/
theorem slice_eq_extract {body : Bytes} {first last : Nat} (hfl : first ≤ last)
    (hlen : first < body.length) :
    Bytes.slice body first last = body.extract first (min last (body.length - 1) + 1) := by
  rw [Bytes.slice, if_neg (by omega), List.extract_eq_take_drop]
  congr 1
  omega

/-- A reply is taken exactly when it serves the range asked for. -/
theorem accept_eq_ok_iff (url : String) (r : ByteRange) (reply : Response) (b : Bytes) :
    accept url r reply = .ok b ↔ Serves r.first r.last reply b := by
  unfold accept Serves
  by_cases h206 : reply.status = 206
  · -- a partial reply: its header decides
    simp only [h206, beq_self_eq_true, if_true, true_and, show (206 : Nat) ≠ 200 by decide,
      false_and, or_false]
    cases hcr : contentRange? reply with
    | none => simp
    | some h =>
      simp only
      constructor
      · intro hacc
        cases hck : checkContentRange h r with
        | error e => simp [bind, Except.bind, hck] at hacc
        | ok u =>
          obtain ⟨c, hc, hs, hend⟩ := (checkContentRange_eq_ok_iff h r).mp hck
          simp only [bind, Except.bind, hck, pure, Except.pure, Except.ok.injEq] at hacc
          exact ⟨h, c, rfl, hc, hs, hend, hacc.symm⟩
      · rintro ⟨h', c, hh, hc, hs, hend, rfl⟩
        cases hh
        have hck := (checkContentRange_eq_ok_iff h r).mpr ⟨c, hc, hs, hend⟩
        simp [bind, Except.bind, hck, pure, Except.pure]
  · by_cases h200 : reply.status = 200
    · -- a whole reply: the range is cut out of it
      have hfl := UInt64.le_iff_toNat_le.mp r.first_le_last
      simp only [h200, beq_iff_eq, show (200 : Nat) ≠ 206 by decide, if_false, if_true,
        false_and, false_or, true_and]
      by_cases hlen : r.first.toNat < reply.body.length
      · rw [if_neg (by omega), slice_eq_extract hfl hlen, Except.ok.injEq]
        simp only [hlen, true_and]
        exact eq_comm
      · rw [if_pos (by omega)]
        simp [hlen]
    · simp [h206, h200]

/-- Every reply that is not taken is refused with an upstream fetch error. -/
theorem accept_error {url : String} {r : ByteRange} {reply : Response} {e : CacheError}
    (he : accept url r reply = .error e) : ∃ msg, e = .upstreamFetch msg := by
  unfold accept at he
  split at he
  · split at he
    · cases he
      exact ⟨_, rfl⟩
    · next h _ =>
      cases hck : checkContentRange h r with
      | error e' =>
        simp only [bind, Except.bind, hck, Except.error.injEq] at he
        subst he
        exact checkContentRange_error hck
      | ok u => simp [bind, Except.bind, hck, pure, Except.pure] at he
  · split at he
    · dsimp only at he
      split at he
      · cases he
        exact ⟨_, rfl⟩
      · cases he
    · cases he
      exact ⟨_, rfl⟩

/-! ## The fetch -/

/-- A well-ordered range is fetched by a request whose reply, if one comes, is taken; before a
reply the fetch can only fail with an upstream fetch error, and then nothing was received. -/
theorem fetchRange_of_le (send : Transport) (u : HttpUpstream) (path : String)
    {first last : UInt64} (hfl : first ≤ last) :
    (∃ msg, fetchRange send u path first last = (none, .error (.upstreamFetch msg))) ∨
      ∃ req reply, send req = .ok reply ∧
        fetchRange send u path first last = (some req, accept (u.urlFor path) ⟨first, last, hfl⟩ reply) := by
  simp only [fetchRange, ByteRange.make, dif_pos hfl]
  split
  · exact .inl ⟨_, rfl⟩
  · split
    · exact .inl ⟨_, rfl⟩
    · next reply hs => exact .inr ⟨_, reply, hs, rfl⟩

/-- For any origin and any reply: a range whose ends are out of order is refused as an
inconsistent state before a request is sent.  Otherwise the fetch gives bytes `b` exactly when
the origin received the request and its reply serves the range with `b`: a partial reply whose
`Content-Range` reads as the range asked for, its end cut to the object's last byte, gives its
body, and a whole reply that reaches the range's start gives the range cut out of it.  Every
other reply, and a request that brings none, fails with an upstream fetch error. -/
theorem fetchRange_classifies_reply (send : Transport) (u : HttpUpstream) (path : String)
    (first last : UInt64) :
    (last < first → fetchRange send u path first last =
      (none, .error (.inconsistentState ("range start (" ++ Decimal.text first.toNat ++
        ") must be <= end (" ++ Decimal.text last.toNat ++ ")")))) ∧
    (first ≤ last →
      (∀ b, (fetchRange send u path first last).2 = .ok b ↔
        ∃ req reply, (fetchRange send u path first last).1 = some req ∧ send req = .ok reply ∧
          Serves first last reply b) ∧
      ∀ e, (fetchRange send u path first last).2 = .error e → ∃ msg, e = .upstreamFetch msg) := by
  refine ⟨fun hlt => ?_, fun hfl => ?_⟩
  · simp [fetchRange, ByteRange.make, UInt64.not_le.mpr hlt]
  rcases fetchRange_of_le send u path hfl with ⟨msg, hf⟩ | ⟨req, reply, hs, hf⟩
  · -- no reply came
    rw [hf]
    exact ⟨fun b => by simp, fun e he => ⟨msg, by cases he; rfl⟩⟩
  · -- the reply is taken by its status
    rw [hf]
    refine ⟨fun b => ?_, fun e he => accept_error he⟩
    rw [accept_eq_ok_iff]
    constructor
    · exact fun hsv => ⟨req, reply, rfl, hs, hsv⟩
    · rintro ⟨req', reply', hreq, hs', hsv⟩
      cases hreq
      rw [hs] at hs'
      cases hs'
      exact hsv

end HttpUpstream

end PartCache.Http
