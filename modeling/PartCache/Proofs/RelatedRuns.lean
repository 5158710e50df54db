import PartCache.Proofs.WholeParts
import PartCache.Zone.Reader

/-!
# Runs over related monads

A writer reaches its zone only through a sink, and a reader only through a server, so what
they do is fixed by what those answer.  `MonadRel` relates programs of two monads with the same
results: `R.Rel P x₁ x₂` says that `x₁` and `x₂` are related and that every result of `x₁`
satisfies `P`.  Two `pure`s of a value that satisfies `P` are related, and binding related
programs to continuations related at every result that satisfies `P` gives related programs.

Everything the writer and the reader do is built that way from the calls to their sink or
server, so two sinks related on the parts of one object give related sessions and related keeps
(`PartWriter.session_rel`, `PartWriter.keepParts_rel`), and two servers related on those parts
give related reads (`Zone.readParts_rel`).

Two relations between a run on states and another monad carry results over:

* `restrictRel I` relates a run on the states that satisfy `I` to a run on all states that does
  the same from each of them.  An operation that keeps `I` is related to itself run on those
  states only (`restrict_rel`).  A sink that fails only on states without `I` becomes a sink that
  never fails, and what is proved of such sinks over any lawful monad holds of it.
* `runsRel I` relates a pure program to a run that, from every state with `I`, returns the pure
  program's value at a state with `I`.  A server that answers each part in a fixed way on such
  states reads as the pure server with those answers.
-/

set_option autoImplicit false

namespace PartCache

/-! ## Related programs -/

/-- A relation between programs of two monads with the same results: `Rel P x₁ x₂` says that the
programs are related and that every result of `x₁` satisfies `P`.  It holds of two `pure`s of one
value and is kept by binding. -/
structure MonadRel (m₁ m₂ : Type → Type) [Monad m₁] [Monad m₂] where
  Rel : {α : Type} → (α → Prop) → m₁ α → m₂ α → Prop
  rel_pure : ∀ {α : Type} {P : α → Prop} {a : α}, P a → Rel P (pure a) (pure a)
  rel_bind : ∀ {α β : Type} {P : α → Prop} {Q : β → Prop} {x₁ : m₁ α} {x₂ : m₂ α}
    {f₁ : α → m₁ β} {f₂ : α → m₂ β},
    Rel P x₁ x₂ → (∀ a, P a → Rel Q (f₁ a) (f₂ a)) → Rel Q (x₁ >>= f₁) (x₂ >>= f₂)

namespace MonadRel

variable {m₁ m₂ : Type → Type} [Monad m₁] [Monad m₂] (R : MonadRel m₁ m₂)

theorem rel_map [LawfulMonad m₁] [LawfulMonad m₂] {α β : Type} {P : α → Prop} {Q : β → Prop}
    {x₁ : m₁ α} {x₂ : m₂ α} (h : R.Rel P x₁ x₂) (f : α → β) (hf : ∀ a, P a → Q (f a)) :
    R.Rel Q (f <$> x₁) (f <$> x₂) := by
  rw [map_eq_bind_pure_comp, map_eq_bind_pure_comp]
  exact R.rel_bind h fun a ha => R.rel_pure (hf a ha)

/-- A loop whose related steps keep `I` of its state is related, and ends with `I`. -/
theorem rel_forIn {α β : Type} {I : β → Prop} {f₁ : α → β → m₁ (ForInStep β)}
    {f₂ : α → β → m₂ (ForInStep β)} (hf : ∀ x b, I b → R.Rel (fun r => I r.value) (f₁ x b) (f₂ x b)) :
    ∀ (xs : List α) (b : β), I b → R.Rel I (forIn xs b f₁) (forIn xs b f₂) := by
  intro xs
  induction xs with
  | nil => exact fun b hb => R.rel_pure hb
  | cons x xs ih =>
    intro b hb
    rw [List.forIn_cons, List.forIn_cons]
    refine R.rel_bind (hf x b hb) fun r hr => ?_
    cases r with
    | done b' => exact R.rel_pure hr
    | yield b' => exact ih b' hr

end MonadRel

/-! ## The writer and the reader over related monads -/

/-- Two sinks whose calls on the parts of object `id` are related. -/
structure PartSink.Related {m₁ m₂ : Type → Type} [Monad m₁] [Monad m₂] (R : MonadRel m₁ m₂)
    (id : ObjectId) (s₁ : PartSink m₁) (s₂ : PartSink m₂) : Prop where
  shouldKeep : ∀ q, R.Rel (fun _ => True) (s₁.shouldKeep ⟨id, q⟩) (s₂.shouldKeep ⟨id, q⟩)
  savePart : ∀ q data, R.Rel (fun _ => True) (s₁.savePart ⟨id, q⟩ data) (s₂.savePart ⟨id, q⟩ data)
  add : ∀ q, R.Rel (fun _ => True) (s₁.add ⟨id, q⟩) (s₂.add ⟨id, q⟩)
  promote : ∀ q, R.Rel (fun _ => True) (s₁.promote ⟨id, q⟩) (s₂.promote ⟨id, q⟩)

namespace PartWriter

section Related

variable {m₁ m₂ : Type → Type} [Monad m₁] [Monad m₂] {R : MonadRel m₁ m₂} {id : ObjectId}
  {s₁ : PartSink m₁} {s₂ : PartSink m₂} (h : PartSink.Related R id s₁ s₂) (ps : Nat)
include h

theorem keepPart_rel {i : PartIndex} (hi : i.object = id) (data : Bytes) :
    R.Rel (fun _ => True) (keepPart s₁ i data) (keepPart s₂ i data) := by
  obtain ⟨o, q⟩ := i
  cases hi
  unfold keepPart
  refine R.rel_bind (h.shouldKeep q) fun b _ => ?_
  split
  · exact R.rel_pure trivial
  refine R.rel_bind (h.savePart q data) fun r _ => ?_
  split
  case h_3 => exact R.rel_pure trivial
  -- a part saved, or found saved, is added to the policy, or promoted when already tracked
  all_goals
    refine R.rel_bind (h.add q) fun a _ => ?_
    split
    · exact R.rel_bind (h.promote q) fun _ _ => R.rel_pure trivial
    · exact R.rel_pure trivial

theorem flush_rel {w : PartWriter} (hw : w.object = id) :
    R.Rel (fun r => r.1.object = id) (flush s₁ w ps) (flush s₂ w ps) :=
  R.rel_bind (keepPart_rel h hw _) fun _ _ => R.rel_pure hw

theorem feed_rel :
    ∀ (fuel : Nat) (w : PartWriter) (data : Bytes), w.object = id →
      R.Rel (fun r => r.1.object = id) (feed s₁ ps fuel w data) (feed s₂ ps fuel w data) := by
  intro fuel
  induction fuel with
  | zero => exact fun w _ hw => R.rel_pure hw
  | succ fuel ih =>
    intro w data hw
    rw [feed, feed]
    dsimp only
    split_ifs
    · exact R.rel_pure hw
    · exact ih _ _ hw
    · -- a buffer that holds a whole part, or ends the object, is stored first
      refine R.rel_bind (flush_rel h ps hw) fun r hr => ?_
      obtain ⟨w', _ | e⟩ := r
      · exact ih _ _ hr
      · exact R.rel_pure hr
    · exact ih _ _ hw

theorem write_rel {w : PartWriter} (hw : w.object = id) (chunk : Bytes) :
    R.Rel (fun r => r.1.object = id) (write s₁ ps w chunk) (write s₂ ps w chunk) := by
  unfold write
  split
  · exact R.rel_pure hw
  · refine R.rel_bind (feed_rel h ps _ w chunk hw) fun r hr => ?_
    obtain ⟨w', _ | e⟩ := r <;> exact R.rel_pure hr

theorem close_rel {w : PartWriter} (hw : w.object = id) :
    R.Rel (fun _ => True) (close s₁ ps w) (close s₂ ps w) := by
  unfold close
  split_ifs
  · exact R.rel_pure trivial
  · refine R.rel_bind (flush_rel h ps hw) fun r _ => ?_
    obtain ⟨_, _ | e⟩ := r <;> exact R.rel_pure trivial
  · exact R.rel_pure trivial

/-- Sessions of a writer for object `id` over related sinks are related. -/
theorem session_rel [LawfulMonad m₁] [LawfulMonad m₂] {w : PartWriter} (hw : w.object = id)
    (chunks : List Bytes) (closing : Bool) :
    R.Rel (fun _ => True) (session s₁ ps w chunks closing) (session s₂ ps w chunks closing) := by
  rw [session_eq_forIn, session_eq_forIn]
  -- the loop keeps the writer's object
  have hstep : ∀ chunk (s : PartWriter × List (Except CacheError Nat)), s.1.object = id →
      R.Rel (fun r => r.value.1.object = id) (writeStep s₁ ps chunk s) (writeStep s₂ ps chunk s) :=
    fun chunk s hs => R.rel_bind (write_rel h ps hs chunk) fun _ hr => R.rel_pure hr
  refine R.rel_bind (R.rel_forIn hstep chunks (w, []) hw) fun s hs => ?_
  dsimp only
  split
  · exact R.rel_bind (R.rel_map (Q := fun _ => True) (close_rel h ps hs) some fun _ _ => trivial)
      fun _ _ => R.rel_pure trivial
  · exact R.rel_bind (P := fun _ => True) (R.rel_pure trivial) fun _ _ => R.rel_pure trivial

theorem keepParts_rel (B : Bytes) :
    ∀ l : List Nat, R.Rel (fun _ => True) (keepParts s₁ ps B id l) (keepParts s₂ ps B id l)
  | [] => R.rel_pure trivial
  | _ :: l => R.rel_bind (keepPart_rel h rfl _) fun _ _ => keepParts_rel B l

end Related

end PartWriter

namespace Zone

variable {m₁ m₂ : Type → Type} [Monad m₁] [Monad m₂] {R : MonadRel m₁ m₂} {id : ObjectId}

/-- Reads of object `id` from servers related on its parts are related. -/
theorem readParts_rel {serve₁ : PartIndex → m₁ (Except CacheError PartData)}
    {serve₂ : PartIndex → m₂ (Except CacheError PartData)}
    (h : ∀ q, R.Rel (fun _ => True) (serve₁ ⟨id, q⟩) (serve₂ ⟨id, q⟩))
    (ps first last lastPart : UInt64) :
    ∀ (turns : Nat) (p : UInt64) (acc : Bytes), R.Rel (fun _ => True)
      (readParts serve₁ id ps first last lastPart turns p acc)
      (readParts serve₂ id ps first last lastPart turns p acc) := by
  intro turns
  induction turns with
  | zero => exact fun _ _ => R.rel_pure trivial
  | succ turns ih =>
    intro p acc
    simp only [readParts]
    split
    · exact R.rel_pure trivial
    · refine R.rel_bind (h _) fun r _ => ?_
      rcases r with e | part
      · exact R.rel_pure trivial
      · -- the move to the window's start, then the part's bytes, decide whether the read goes on
        dsimp only
        split
        · exact R.rel_pure trivial
        all_goals
          split
          · first | exact ih _ _ | exact R.rel_pure trivial
          · first | exact ih _ _ | exact R.rel_pure trivial

end Zone

/-! ## Runs restricted to good states -/

section Restrict

variable {ε σ : Type} {I : σ → Prop}

/-- A result on the states that satisfy `I`, read as a result on all states. -/
def unrestrict {α : Type} : EStateM.Result ε {s // I s} α → EStateM.Result ε σ α
  | .ok a s => .ok a s.1
  | .error e s => .error e s.1

/-- An operation that, from a state that satisfies `I`, ends at one that does, failed or not. -/
structure Preserves (I : σ → Prop) {α : Type} (x : EStateM ε σ α) : Prop where
  ok : ∀ {s : σ} {a : α} {s' : σ}, I s → x s = .ok a s' → I s'
  error : ∀ {s : σ} {e : ε} {s' : σ}, I s → x s = .error e s' → I s'

/-- An operation that preserves `I`, run on the states that satisfy it. -/
def restrict {α : Type} (x : EStateM ε σ α) (hx : Preserves I x) : EStateM ε {s // I s} α :=
  fun s => match hr : x s.1 with
    | .ok a s' => .ok a ⟨s', hx.ok s.2 hr⟩
    | .error e s' => .error e ⟨s', hx.error s.2 hr⟩

theorem unrestrict_restrict {α : Type} (x : EStateM ε σ α) (hx : Preserves I x) (s : {s // I s}) :
    unrestrict (restrict x hx s) = x s.1 := by
  unfold restrict
  split <;> next hr => exact hr.symm

/-- A run on the states with `I` and a run on all states are related when the second, from each
state with `I`, does what the first does. -/
def restrictRel (I : σ → Prop) : MonadRel (EStateM ε {s // I s}) (EStateM ε σ) where
  Rel P x₁ x₂ := SatisfiesM P x₁ ∧ ∀ s, x₂ s.1 = unrestrict (x₁ s)
  rel_pure h := ⟨SatisfiesM.pure h, fun _ => rfl⟩
  rel_bind := by
    rintro α β P Q x₁ x₂ f₁ f₂ ⟨hsat, hx⟩ hf
    refine ⟨hsat.bind fun a ha => (hf a ha).1, fun s => ?_⟩
    cases hr : x₁ s with
    | ok a t =>
      have ha : P a := SatisfiesM_EStateM_eq.mp hsat s a t hr
      rw [bind_ok_apply ((hx s).trans (by rw [hr]; rfl)), bind_ok_apply hr]
      exact (hf a ha).2 t
    | error e t =>
      rw [bind_error_apply ((hx s).trans (by rw [hr]; rfl)), bind_error_apply hr]
      rfl

theorem restrict_rel {α : Type} (x : EStateM ε σ α) (hx : Preserves I x) :
    (restrictRel I).Rel (fun _ => True) (restrict x hx) x :=
  ⟨SatisfiesM.trivial, fun s => (unrestrict_restrict x hx s).symm⟩

/-- What an operation returns from every state with `I` its restriction returns. -/
theorem satisfiesM_restrict {α : Type} {P : α → Prop} (x : EStateM ε σ α) (hx : Preserves I x)
    (h : ∀ s a s', I s → x s = .ok a s' → P a) : SatisfiesM P (restrict x hx) := by
  refine SatisfiesM_EStateM_eq.mpr fun s a s' hr => h s.1 a s'.1 s.2 ?_
  rw [← unrestrict_restrict x hx s]
  exact (congrArg unrestrict hr).trans rfl

namespace Preserves

variable {α β : Type}

theorem of_pure (a : α) : Preserves I (pure a : EStateM ε σ α) :=
  ⟨fun hs h => by cases h; exact hs, fun _ h => by cases h⟩

theorem of_modify {f : σ → σ} (hf : ∀ s, I s → I (f s)) : Preserves I (modify f : EStateM ε σ Unit) :=
  ⟨fun hs h => by cases h; exact hf _ hs, fun _ h => by cases h⟩

theorem bind {x : EStateM ε σ α} {f : α → EStateM ε σ β} (hx : Preserves I x)
    (hf : ∀ a, Preserves I (f a)) : Preserves I (x >>= f) := by
  constructor
  · intro s b s' hs h
    cases hr : x s with
    | ok a t => rw [bind_ok_apply hr] at h; exact (hf a).ok (hx.ok hs hr) h
    | error e t => rw [bind_error_apply hr] at h; cases h
  · intro s e s' hs h
    cases hr : x s with
    | ok a t => rw [bind_ok_apply hr] at h; exact (hf a).error (hx.ok hs hr) h
    | error e' t => rw [bind_error_apply hr] at h; cases h; exact hx.error hs hr

theorem of_tryCatch {x : EStateM ε σ α} {handle : ε → EStateM ε σ α} (hx : Preserves I x)
    (hh : ∀ e, Preserves I (handle e)) : Preserves I (tryCatch x handle) := by
  constructor
  · intro s a s' hs h
    cases hr : x s with
    | ok b t => rw [tryCatch_ok_apply hr] at h; cases h; exact hx.ok hs hr
    | error e t => rw [tryCatch_error_apply hr] at h; exact (hh e).ok (hx.error hs hr) h
  · intro s e s' hs h
    cases hr : x s with
    | ok b t => rw [tryCatch_ok_apply hr] at h; cases h
    | error e' t => rw [tryCatch_error_apply hr] at h; exact (hh e').error (hx.error hs hr) h

end Preserves

end Restrict

/-! ## Runs that return a fixed value -/

section Runs

variable {ε σ : Type}

/-- A pure program and a run are related when the run, from every state with `I`, returns the
pure program's value at a state with `I`. -/
def runsRel (I : σ → Prop) : MonadRel Id (EStateM ε σ) where
  Rel P x₁ x₂ := P x₁ ∧ ∀ s, I s → ∃ s', x₂ s = .ok x₁ s' ∧ I s'
  rel_pure h := ⟨h, fun s hs => ⟨s, rfl, hs⟩⟩
  rel_bind := by
    rintro α β P Q x₁ x₂ f₁ f₂ ⟨hP, hx⟩ hf
    refine ⟨(hf x₁ hP).1, fun s hs => ?_⟩
    obtain ⟨s₁, hrun₁, hs₁⟩ := hx s hs
    obtain ⟨s₂, hrun₂, hs₂⟩ := (hf x₁ hP).2 s₁ hs₁
    exact ⟨s₂, (bind_ok_apply hrun₁).trans hrun₂, hs₂⟩

end Runs

end PartCache
