import PartCache.Proofs.DirectoryWalk

/-!
# Decimal text: runs of digits and the names of part files

A run of ASCII digits stands for a number (`Nat.ofDigitChars`), and the readers of the library
accept exactly such runs: `Decimal.digitsValue?` a non-empty run, `Decimal.readUnsigned?` one
behind an optional `+` (`Decimal.IsNumeral`), below a bound.  A run of digits is fixed by its
length and its value (`Decimal.eq_of_ofDigitChars_eq`), so a run of at least six digits is the
six-digit padded text of its value with zeros in front, and every such text is one
(`Decimal.digitRun_iff_zeros_append_paddedDigits`).

A part's file is named by its number padded to six digits (`Layout.partFileName`), and a name
is read back as a part number when it is six or more digits whose value fits 32 bits
(`Layout.partNumber?`).  Reading gives back the number written, but the names read as part `p`
are its file name behind any number of zeros (`Layout.partNumber?_eq_some_iff`): `0000001`
reads as part 1, whose file is `000001` (`Layout.longer_name_reads_as_part`).  The metadata
file and the temporary names a write goes through are never read as parts.
-/

namespace PartCache

set_option autoImplicit false

namespace Decimal

/-! ## Runs of digits -/

/-- The leading digit of a run weighs `10 ^ n`, where `n` digits follow it. -/
theorem ofDigitChars_cons_eq (c : Char) (cs : List Char) :
    Nat.ofDigitChars 10 (c :: cs) 0 = 10 ^ cs.length * (c.toNat - 48) + Nat.ofDigitChars 10 cs 0 := by
  rw [Nat.ofDigitChars_cons, Nat.ofDigitChars_eq_ofDigitChars_zero]
  simp

/-- A run of `n` digits is worth less than `10 ^ n`. -/
theorem ofDigitChars_lt_pow {cs : List Char} (h : ∀ c ∈ cs, c.isDigit = true) :
    Nat.ofDigitChars 10 cs 0 < 10 ^ cs.length := by
  induction cs with
  | nil => simp
  | cons c rest ih =>
    have hc := toNat_of_isDigit (h c List.mem_cons_self)
    have hr := ih fun d hd => h d (List.mem_cons_of_mem c hd)
    have hlead : 10 ^ rest.length * (c.toNat - 48) ≤ 10 ^ rest.length * 9 :=
      Nat.mul_le_mul_left _ (by omega)
    rw [ofDigitChars_cons_eq, List.length_cons, Nat.pow_succ]
    omega

/-- Two runs of digits of one length and one value are the same run. -/
theorem eq_of_ofDigitChars_eq {cs ds : List Char} (hc : ∀ c ∈ cs, c.isDigit = true)
    (hd : ∀ d ∈ ds, d.isDigit = true) (hl : cs.length = ds.length)
    (hv : Nat.ofDigitChars 10 cs 0 = Nat.ofDigitChars 10 ds 0) : cs = ds := by
  induction cs generalizing ds with
  | nil => cases ds with
    | nil => rfl
    | cons => simp at hl
  | cons c cs ih =>
    cases ds with
    | nil => simp at hl
    | cons d ds =>
      have hn : cs.length = ds.length := by simpa using hl
      have hcs := hc c List.mem_cons_self
      have hds := hd d List.mem_cons_self
      have hrc := ofDigitChars_lt_pow fun x hx => hc x (List.mem_cons_of_mem c hx)
      have hrd := ofDigitChars_lt_pow fun x hx => hd x (List.mem_cons_of_mem d hx)
      rw [ofDigitChars_cons_eq, ofDigitChars_cons_eq, hn] at hv
      rw [hn] at hrc
      -- the rest of a run is worth less than its leading digit's place, so the leading digits
      -- are the quotients by that place and the rests the remainders
      have hpos : 0 < 10 ^ ds.length := Nat.pow_pos (by decide)
      have hlead : c.toNat - 48 = d.toNat - 48 := by
        have hq := congrArg (· / 10 ^ ds.length) hv
        simpa [Nat.mul_add_div hpos, Nat.div_eq_of_lt hrc, Nat.div_eq_of_lt hrd] using hq
      have hrest : Nat.ofDigitChars 10 cs 0 = Nat.ofDigitChars 10 ds 0 := by
        have hm := congrArg (· % 10 ^ ds.length) hv
        simpa [Nat.mul_add_mod, Nat.mod_eq_of_lt hrc, Nat.mod_eq_of_lt hrd] using hm
      have hcd : c = d := by
        have := toNat_of_isDigit hcs
        have := toNat_of_isDigit hds
        exact Char.toNat_inj.mp (by omega)
      rw [hcd, ih (fun x hx => hc x (List.mem_cons_of_mem c hx))
        (fun x hx => hd x (List.mem_cons_of_mem d hx)) hn hrest]

theorem all_isDigit_paddedDigits (width n : Nat) : ∀ c ∈ paddedDigits width n, c.isDigit = true := by
  intro c hc
  simp only [paddedDigits, List.mem_append, List.mem_replicate] at hc
  rcases hc with ⟨-, rfl⟩ | hc
  · decide
  · exact List.all_eq_true.mp (digits_all_isDigit n) c hc

theorem length_paddedDigits (width n : Nat) :
    (paddedDigits width n).length = max width (digits n).length := by
  simp only [paddedDigits, List.length_append, List.length_replicate]
  omega

/-- A run of at least `width` digits is the padded text of its value with zeros in front, and
every such text is a run of at least `width` digits of that value. -/
theorem digitRun_iff_zeros_append_paddedDigits {cs : List Char} {width n : Nat} (hw : 0 < width) :
    (width ≤ cs.length ∧ (∀ c ∈ cs, c.isDigit = true) ∧ Nat.ofDigitChars 10 cs 0 = n) ↔
      ∃ k, cs = List.replicate k '0' ++ paddedDigits width n := by
  -- a padded text behind zeros is a run of digits worth the padded number
  have hpadded : ∀ k m, (∀ c ∈ List.replicate k '0' ++ paddedDigits width m, c.isDigit = true) ∧
      Nat.ofDigitChars 10 (List.replicate k '0' ++ paddedDigits width m) 0 = m := by
    intro k m
    refine ⟨fun c hc => ?_, ?_⟩
    · rcases List.mem_append.mp hc with hc | hc
      · rw [(List.mem_replicate.mp hc).2]
        decide
      · exact all_isDigit_paddedDigits _ _ c hc
    · rw [Nat.ofDigitChars_append, Nat.ofDigitChars_replicate_zero, Nat.mul_zero,
        ofDigitChars_paddedDigits]
  constructor
  · rintro ⟨hlen, hdig, rfl⟩
    -- the value has no more digits than the run, so its padded text fits the run's length
    have hfit : (digits (Nat.ofDigitChars 10 cs 0)).length ≤ cs.length :=
      (Nat.length_toDigits_le_iff (by decide) (by omega)).mpr (ofDigitChars_lt_pow hdig)
    refine ⟨cs.length - (paddedDigits width (Nat.ofDigitChars 10 cs 0)).length, ?_⟩
    apply eq_of_ofDigitChars_eq hdig (hpadded _ _).1
    · rw [List.length_append, List.length_replicate, length_paddedDigits]
      omega
    · rw [(hpadded _ _).2]
  · rintro ⟨k, rfl⟩
    refine ⟨?_, (hpadded k n).1, (hpadded k n).2⟩
    rw [List.length_append, length_paddedDigits]
    omega

/-! ## Reading digits -/

/-- The value `digitsValue?` sums up is the digits' value. -/
theorem foldl_digitValue (cs : List Char) :
    cs.foldl (fun acc c => 10 * acc + digitValue c) 0 = Nat.ofDigitChars 10 cs 0 := rfl

theorem digitsValue?_eq_some_iff {cs : List Char} {v : Nat} :
    digitsValue? cs = some v ↔
      cs ≠ [] ∧ (∀ c ∈ cs, c.isDigit = true) ∧ Nat.ofDigitChars 10 cs 0 = v := by
  unfold digitsValue?
  by_cases he : cs = []
  · simp [he]
  · by_cases hd : cs.all Char.isDigit = true
    · rw [if_neg (by simpa using he), if_pos hd, Option.some.injEq, foldl_digitValue]
      exact ⟨fun h => ⟨he, List.all_eq_true.mp hd, h⟩, fun h => h.2.2⟩
    · have : ¬ ∀ c ∈ cs, c.isDigit = true := fun h => hd (List.all_eq_true.mpr h)
      simp [he, hd, this]

/-- `cs` is written as an unsigned decimal numeral of value `v`: an optional `+`, then one or
more ASCII digits. -/
def IsNumeral (cs : List Char) (v : Nat) : Prop :=
  ∃ ds, (cs = ds ∨ cs = '+' :: ds) ∧ ds ≠ [] ∧ (∀ c ∈ ds, c.isDigit = true) ∧
    Nat.ofDigitChars 10 ds 0 = v

/-- `readUnsigned?` accepts exactly the numerals below its bound. -/
theorem readUnsigned?_eq_some_iff {bound : Nat} {cs : List Char} {v : Nat} :
    readUnsigned? bound cs = some v ↔ IsNumeral cs v ∧ v < bound := by
  -- a run that starts with `+` is no run of digits
  have hplus : ∀ ds, ¬ ∀ c ∈ '+' :: ds, c.isDigit = true := fun ds h =>
    absurd (h '+' List.mem_cons_self) (by decide)
  unfold readUnsigned? IsNumeral
  -- the digits are read behind a leading `+`, else from the whole text
  split
  · next rest =>
    dsimp only
    constructor
    · intro h
      split at h
      · next w hw =>
        split at h
        · next hlt =>
          cases h
          obtain ⟨hne, hdig, hval⟩ := digitsValue?_eq_some_iff.mp hw
          exact ⟨⟨rest, .inr rfl, hne, hdig, hval⟩, hlt⟩
        · cases h
      · cases h
    · rintro ⟨⟨ds, hds | hds, hne, hdig, rfl⟩, hlt⟩
      · exact absurd (hds ▸ hdig) (hplus rest)
      · cases hds
        rw [digitsValue?_eq_some_iff.mpr ⟨hne, hdig, rfl⟩]
        simp [hlt]
  · next hsign =>
    dsimp only
    constructor
    · intro h
      split at h
      · next w hw =>
        split at h
        · next hlt =>
          cases h
          obtain ⟨hne, hdig, hval⟩ := digitsValue?_eq_some_iff.mp hw
          exact ⟨⟨cs, .inl rfl, hne, hdig, hval⟩, hlt⟩
        · cases h
      · cases h
    · rintro ⟨⟨ds, hds | hds, hne, hdig, rfl⟩, hlt⟩
      · subst hds
        rw [digitsValue?_eq_some_iff.mpr ⟨hne, hdig, rfl⟩]
        simp [hlt]
      · exact absurd hds (hsign ds)

end Decimal

/-! ## Part file names -/

namespace Layout

theorem toList_partFileName (p : UInt32) :
    (partFileName p).toList = Decimal.paddedDigits 6 p.toNat := by
  simp [partFileName, Decimal.padded]

/-- A name is read as part `p` exactly when it is six or more digits of value `p`. -/
theorem partNumber?_eq_some_iff_digits {name : String} {p : UInt32} :
    partNumber? name = some p ↔
      6 ≤ name.toList.length ∧ (∀ c ∈ name.toList, c.isDigit = true) ∧
        Nat.ofDigitChars 10 name.toList 0 = p.toNat := by
  have hbytes : ∀ cs : List Char, (∀ c ∈ cs, c.isDigit = true) →
      (String.ofList cs).utf8ByteSize = cs.length := fun cs h => by
    rw [String.utf8ByteSize_ofList, Decimal.utf8Len_of_isDigit h]
  unfold partNumber?
  constructor
  · intro h
    split at h
    · cases h
    next hsize =>
      split at h
      next v hv =>
        split at h
        next hlt =>
          obtain ⟨-, hdig, rfl⟩ := Decimal.digitsValue?_eq_some_iff.mp hv
          cases h
          refine ⟨?_, hdig, ?_⟩
          · have := hbytes name.toList hdig
            rw [String.ofList_toList] at this
            omega
          · exact (Nat.mod_eq_of_lt hlt).symm
        · cases h
      · cases h
  · rintro ⟨hlen, hdig, hv⟩
    have hsize : ¬ name.utf8ByteSize < 6 := by
      have := hbytes name.toList hdig
      rw [String.ofList_toList] at this
      omega
    have hne : name.toList ≠ [] := List.ne_nil_of_length_pos (by omega)
    rw [if_neg hsize, Decimal.digitsValue?_eq_some_iff.mpr ⟨hne, hdig, hv⟩]
    simp [p.toNat_lt]

/-- The names read as part `p` are its file name with any number of zeros in front. -/
theorem partNumber?_eq_some_iff {name : String} {p : UInt32} :
    partNumber? name = some p ↔ ∃ k, name = String.ofList (List.replicate k '0') ++ partFileName p := by
  rw [partNumber?_eq_some_iff_digits, Decimal.digitRun_iff_zeros_append_paddedDigits (by decide)]
  simp only [String.ext_iff, String.toList_append, String.toList_ofList, toList_partFileName]

/-- Reading a part's file name gives back the part's number. -/
theorem partNumber?_partFileName (p : UInt32) : partNumber? (partFileName p) = some p :=
  partNumber?_eq_some_iff.mpr ⟨0, by simp⟩

/-- A name read as a part is digits only, so no temporary name is read as a part. -/
theorem partNumber?_temp (name rest : String) : partNumber? (name ++ tempMark ++ rest) = none := by
  cases h : partNumber? (name ++ tempMark ++ rest) with
  | none => rfl
  | some p =>
    have hdig := (partNumber?_eq_some_iff_digits.mp h).2.1
    have hdot : '.' ∈ (name ++ tempMark ++ rest).toList := by simp [tempMark]
    exact absurd (hdig '.' hdot) (by decide)

theorem partNumber?_metadataFile : partNumber? metadataFile = none := by decide

/-- A name with no zero in front beyond the six-digit padding is read as part `p` exactly when
it is the part's file name. -/
theorem partNumber?_eq_some_iff_eq {name : String} {p : UInt32}
    (h : name.toList.length ≤ 6 ∨ name.toList.head? ≠ some '0') :
    partNumber? name = some p ↔ name = partFileName p := by
  rw [partNumber?_eq_some_iff]
  constructor
  · rintro ⟨k, rfl⟩
    cases k with
    | zero => simp
    | succ k =>
      -- an extra zero makes the name longer than six characters and start with `0`
      have hlen : 6 ≤ (partFileName p).toList.length := by
        rw [toList_partFileName, Decimal.length_paddedDigits]
        omega
      simp only [String.toList_append, String.toList_ofList, List.replicate_succ, List.cons_append,
        List.length_cons, List.length_append, List.length_replicate, List.head?_cons, ne_eq,
        not_true_eq_false, or_false] at h
      omega
  · rintro rfl
    exact ⟨0, by simp⟩

/-- Reading undoes writing, and up to leading zeros writing undoes reading, so the two agree on
every name without extra zeros; neither the metadata file nor a temporary name is read as a
part. -/
theorem partNumber?_reads_partFileName_up_to_zeros (name rest : String) (p : UInt32) :
    partNumber? (partFileName p) = some p ∧
    (partNumber? name = some p ↔
      ∃ k, name = String.ofList (List.replicate k '0') ++ partFileName p) ∧
    ((name.toList.length ≤ 6 ∨ name.toList.head? ≠ some '0') →
      (partNumber? name = some p ↔ name = partFileName p)) ∧
    partNumber? metadataFile = none ∧
    partNumber? (name ++ tempMark ++ rest) = none :=
  ⟨partNumber?_partFileName p, partNumber?_eq_some_iff, partNumber?_eq_some_iff_eq,
    partNumber?_metadataFile, partNumber?_temp name rest⟩

/-- A name with one zero more than a part's file name is read as that part. -/
theorem longer_name_reads_as_part : partNumber? "0000001" = some 1 ∧ "0000001" ≠ partFileName 1 := by
  decide

end Layout

end PartCache
