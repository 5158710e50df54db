import PartCache.Config

/-!
# Which configurations are accepted, and what a refused one is told

Validation runs its checks zone by zone and stops at the first that fails.  This
module lays the same checks out as one flat list, in the order their faults are
reported, and states acceptance as a property that has no order at all: every
zone is usable, no two zones share an id or a directory, the upstream URL, if
any, is an HTTP one, and the timeout is positive.  Validation then reports the
fault of the first failing check of the list, and accepts exactly the valid
configurations.
-/

namespace PartCache

set_option autoImplicit false

/-! ## Acceptance without order -/

/-- A zone is usable: its id is a plain directory name, its part size is between one byte
and the largest, and it has room for the least number of parts. -/
def ZoneConfig.Valid (z : ZoneConfig) : Prop :=
  Layout.isPlainName z.id = true ∧ 1 ≤ z.partSize.toNat ∧ z.partSize.toNat ≤ maxPartSize ∧
    minStorageObjects ≤ z.storageObjects.toNat

/-- A configuration is valid: its zones are usable, their ids are pairwise distinct, so
are their directories as paths, an upstream URL is an HTTP one, and the timeout is
positive. -/
def CacheConfig.Valid (c : CacheConfig) : Prop :=
  (∀ z ∈ c.zones, z.Valid) ∧ (c.zones.map (·.id)).Nodup ∧
    (c.zones.map fun z => pathComponents z.path).Nodup ∧
    (∀ url, c.upstreamUrl = some url →
      url.startsWith "http://" = true ∨ url.startsWith "https://" = true) ∧
    c.upstreamTimeoutSecs ≠ 0

/-! ## The checks in the order they are reported -/

/-- A check: whether it passes, and the fault it reports when it does not. -/
abbrev Check := Bool × ConfigFault

/-- Runs checks in order: the error of the first that fails, if any. -/
def firstFailure : List Check → Except CacheError Unit
  | [] => .ok ()
  | (passes, fault) :: rest => if passes then firstFailure rest else .error fault.toError

/-- A zone's own checks: its id, its part size, its capacity. -/
def ZoneConfig.checks (z : ZoneConfig) : List Check :=
  [(Layout.isPlainName z.id, .badZoneId z.id),
    (decide (1 ≤ z.partSize.toNat ∧ z.partSize.toNat ≤ maxPartSize),
      .badPartSize z.id z.partSize.toNat),
    (decide (minStorageObjects ≤ z.storageObjects.toNat),
      .tooFewParts z.id z.storageObjects.toNat)]

/-- The checks of zones that follow the zones `earlier`: each zone's own checks, then its
id and its directory against every zone before it. -/
def zoneChecks (earlier : List ZoneConfig) : List ZoneConfig → List Check
  | [] => []
  | z :: rest =>
    z.checks ++
      [(!earlier.any (fun y => y.id == z.id), .duplicateId z.id),
        (!earlier.any (fun y => pathComponents y.path == pathComponents z.path),
          .sharedPath z.id z.path)] ++
      zoneChecks (earlier ++ [z]) rest

/-- All checks of a configuration in order: the zones', then the upstream URL's, then the
timeout's. -/
def CacheConfig.checks (c : CacheConfig) : List Check :=
  zoneChecks [] c.zones ++
    [(c.upstreamUrl.all fun url => url.startsWith "http://" || url.startsWith "https://",
        .badUpstreamUrl (c.upstreamUrl.getD "")),
      (c.upstreamTimeoutSecs != 0, .zeroTimeout)]

/-! ## Running checks -/

theorem firstFailure_append (xs ys : List Check) :
    firstFailure (xs ++ ys) = (firstFailure xs).bind fun _ => firstFailure ys := by
  induction xs with
  | nil => rfl
  | cons x rest ih =>
    obtain ⟨passes, fault⟩ := x
    cases passes <;> simp [firstFailure, ih, Except.bind]

theorem firstFailure_eq_ok_iff (cs : List Check) :
    firstFailure cs = .ok () ↔ ∀ ch ∈ cs, ch.1 = true := by
  induction cs with
  | nil => simp [firstFailure]
  | cons x rest ih =>
    obtain ⟨passes, fault⟩ := x
    cases passes <;> simp [firstFailure, ih]

theorem ZoneConfig.validate_eq_firstFailure (z : ZoneConfig) :
    z.validate = firstFailure z.checks := by
  have hz : z.partSize = 0 ↔ z.partSize.toNat = 0 := by
    constructor
    · intro h; simp [h]
    · intro h; exact UInt64.toNat_inj.mp (by simpa using h)
  have hbad : (z.partSize = 0 ∨ z.partSize.toNat > maxPartSize) ↔
      ¬(1 ≤ z.partSize.toNat ∧ z.partSize.toNat ≤ maxPartSize) := by
    rw [hz]
    constructor <;> intro h <;> omega
  have hfew : z.storageObjects.toNat < minStorageObjects ↔
      ¬(minStorageObjects ≤ z.storageObjects.toNat) := Nat.not_le.symm
  simp only [ZoneConfig.validate, ZoneConfig.checks, firstFailure, hbad, hfew]
  by_cases h1 : Layout.isPlainName z.id = true <;>
  by_cases h2 : 1 ≤ z.partSize.toNat ∧ z.partSize.toNat ≤ maxPartSize <;>
  by_cases h3 : minStorageObjects ≤ z.storageObjects.toNat <;>
  simp [h1, h2, h3]

theorem validateZones_eq_firstFailure (earlier zs : List ZoneConfig) :
    CacheConfig.validateZones (earlier.map (·.id)).reverse
        (earlier.map fun y => pathComponents y.path).reverse zs =
      firstFailure (zoneChecks earlier zs) := by
  induction zs generalizing earlier with
  | nil => rfl
  | cons z rest ih =>
    have hr := ih (earlier ++ [z])
    simp only [List.map_append, List.map_cons, List.map_nil, List.reverse_append,
      List.reverse_cons, List.reverse_nil, List.nil_append, List.singleton_append] at hr
    simp only [CacheConfig.validateZones, zoneChecks, firstFailure_append,
      ZoneConfig.validate_eq_firstFailure, hr]
    have hid : (earlier.map (·.id)).reverse.contains z.id =
        earlier.any (fun y => y.id == z.id) := by
      rw [Bool.eq_iff_iff]; simp
    have hpath : (earlier.map fun y => pathComponents y.path).reverse.contains
        (pathComponents z.path) =
          earlier.any (fun y => pathComponents y.path == pathComponents z.path) := by
      rw [Bool.eq_iff_iff]; simp
    cases firstFailure z.checks with
    | error e => rfl
    | ok u =>
      simp only [hid, hpath]
      cases earlier.any (fun y => y.id == z.id) <;>
      cases earlier.any (fun y => pathComponents y.path == pathComponents z.path) <;> rfl

theorem ZoneConfig.checks_pass_iff (z : ZoneConfig) :
    (∀ ch ∈ z.checks, ch.1 = true) ↔ z.Valid := by
  simp [ZoneConfig.checks, ZoneConfig.Valid, and_assoc]

theorem zoneChecks_pass_iff (earlier zs : List ZoneConfig) :
    (∀ ch ∈ zoneChecks earlier zs, ch.1 = true) ↔
      (∀ z ∈ zs, z.Valid) ∧ (∀ y ∈ earlier, ∀ z ∈ zs, y.id ≠ z.id) ∧
        zs.Pairwise (fun a b => a.id ≠ b.id) ∧
        (∀ y ∈ earlier, ∀ z ∈ zs, pathComponents y.path ≠ pathComponents z.path) ∧
        zs.Pairwise (fun a b => pathComponents a.path ≠ pathComponents b.path) := by
  induction zs generalizing earlier with
  | nil => simp [zoneChecks]
  | cons z rest ih =>
    simp only [zoneChecks, ih, ZoneConfig.checks_pass_iff,
      List.forall_mem_cons, List.pairwise_cons, List.mem_append, List.mem_singleton, or_imp,
      forall_and, forall_eq]
    simp
    constructor
    · rintro ⟨⟨hv, hi, hp⟩, hvs, ⟨hi2, hzi⟩, hpi, ⟨hp2, hzp⟩, hpp⟩
      exact ⟨⟨hv, hvs⟩, ⟨hi, hi2⟩, ⟨hzi, hpi⟩, ⟨hp, hp2⟩, hzp, hpp⟩
    · rintro ⟨⟨hv, hvs⟩, ⟨hi, hi2⟩, ⟨hzi, hpi⟩, ⟨hp, hp2⟩, hzp, hpp⟩
      exact ⟨⟨hv, hi, hp⟩, hvs, ⟨hi2, hzi⟩, hpi, ⟨hp2, hzp⟩, hpp⟩

/-! ## Validation -/

theorem validate_reports_first_failure (c : CacheConfig) :
    c.validate = firstFailure c.checks ∧ (c.validate = .ok () ↔ c.Valid) := by
  have hrun : c.validate = firstFailure c.checks := by
    have hz := validateZones_eq_firstFailure [] c.zones
    simp only [List.map_nil, List.reverse_nil] at hz
    simp only [CacheConfig.validate, CacheConfig.checks, firstFailure_append, hz]
    cases firstFailure (zoneChecks [] c.zones) with
    | error e => rfl
    | ok u =>
      cases hu : c.upstreamUrl with
      | none =>
        by_cases ht : c.upstreamTimeoutSecs = 0 <;>
        simp [ht, firstFailure, Except.bind, bind, throw, throwThe, MonadExceptOf.throw, pure,
          Except.pure]
      | some url =>
        simp only [Option.all_some, Option.getD_some]
        generalize url.startsWith "http://" = a
        generalize url.startsWith "https://" = b
        cases a <;> cases b <;> by_cases ht : c.upstreamTimeoutSecs = 0 <;>
        simp [ht, firstFailure, Except.bind, bind, throw, throwThe, MonadExceptOf.throw, pure,
          Except.pure]
  refine ⟨hrun, ?_⟩
  rw [hrun, firstFailure_eq_ok_iff]
  simp only [CacheConfig.checks, List.forall_mem_append, zoneChecks_pass_iff,
    List.forall_mem_cons, List.not_mem_nil, CacheConfig.Valid,
    List.Nodup, List.pairwise_map]
  cases hu : c.upstreamUrl <;> simp [and_assoc]

end PartCache
