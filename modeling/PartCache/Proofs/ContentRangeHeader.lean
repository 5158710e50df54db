import PartCache.Proofs.DecimalText

/-!
# The grammar of a `Content-Range` header

`ContentRange.ofHeader` reads `bytes first-last/size`.  It trims the header, asks for the prefix
`bytes ` with one space, cuts what follows at its first `/` and the part before that at its
first `-`, and reads each of the three pieces, trimmed, as an unsigned decimal numeral below
`2 ^ 64` (an optional `+`, then one or more digits, `Decimal.IsNumeral`).  The numbers must
satisfy `first ≤ last < size`.

The pieces come from the cuts exactly when the text is `x ++ "-" ++ y ++ "/" ++ z` with no `-`
in `x` and no `/` in `x` or `y` (`splitSpec_eq_some_iff`).  With the reading of numerals
(`readWord?_eq_some_iff`) this gives the header's grammar (`fields?_eq_some_iff`), and the main
statement, `ofHeader_accepts_grammar`: a header is accepted exactly when its trimmed text has
that shape, its pieces are numerals and their values are ordered, the range read is then
`first`, `last - first + 1` and `size`, and every other header is refused with the message that
quotes it.  A header written from three ordered numbers is read back as them.
-/

namespace PartCache

set_option autoImplicit false

/-! ## Digits and trimming -/

namespace Decimal

theorem isDigit_of_mem_digits {c : Char} {n : Nat} (h : c ∈ digits n) : c.isDigit = true :=
  List.all_eq_true.mp (digits_all_isDigit n) c h

theorem not_mem_digits {c : Char} (hc : c.isDigit = false) (n : Nat) : c ∉ digits n :=
  fun h => absurd (isDigit_of_mem_digits h) (by simp [hc])

/-- The digits of a number are a numeral of it. -/
theorem isNumeral_digits (n : Nat) : IsNumeral (digits n) n :=
  ⟨_, .inl rfl, Nat.toDigits_ne_nil, fun _ => isDigit_of_mem_digits, Nat.ofDigitChars_ten_toDigits⟩

end Decimal

namespace Text

@[simp]
theorem toList_trim (s : String) : (trim s).toList = trimChars s.toList :=
  String.toList_ofList

theorem isBlank_of_isDigit {c : Char} (h : c.isDigit = true) : isBlank c = false := by
  have := Decimal.toNat_of_isDigit h
  simp only [isBlank]
  simp only [Bool.or_eq_false_iff, Bool.and_eq_false_iff, decide_eq_false_iff_not,
    beq_eq_false_iff_ne, ne_eq]
  omega

theorem dropBlanks_of_head {cs : List Char} (h : ∀ c ∈ cs.head?, isBlank c = false) :
    dropBlanks cs = cs := by
  cases cs with
  | nil => rfl
  | cons c rest => exact List.dropWhile_cons_of_neg (by simpa using h)

/-- A text that neither starts nor ends with a blank is its own trim. -/
theorem trimChars_of_ends {cs : List Char} (hh : ∀ c ∈ cs.head?, isBlank c = false)
    (hl : ∀ c ∈ cs.getLast?, isBlank c = false) : trimChars cs = cs := by
  rw [trimChars, dropBlanks_of_head hh,
    dropBlanks_of_head (by simpa only [List.head?_reverse] using hl), List.reverse_reverse]

theorem trimChars_digits (n : Nat) : trimChars (Decimal.digits n) = Decimal.digits n := by
  have hblank : ∀ c ∈ Decimal.digits n, isBlank c = false := fun _ hc =>
    isBlank_of_isDigit (Decimal.isDigit_of_mem_digits hc)
  exact trimChars_of_ends (fun c hc => hblank c (List.mem_of_mem_head? hc))
    (fun c hc => hblank c (List.mem_of_getLast? hc))

end Text

namespace ContentRange

/-! ## Cutting at the first separator -/

/-- No piece of a list cut at a separator holds the separator. -/
theorem not_mem_of_mem_splitOn {c : Char} : ∀ {cs l : List Char}, l ∈ cs.splitOn c → c ∉ l
  | [], l, hl => by simp_all
  | d :: t, l, hl => by
    rw [List.splitOn_cons_eq_if_modifyHead] at hl
    split at hl
    · rcases List.mem_cons.mp hl with rfl | hl
      · simp
      · exact not_mem_of_mem_splitOn hl
    · next hd =>
      -- a character other than the separator joins the first piece of the rest
      obtain ⟨p, ps, hps⟩ := List.exists_cons_of_ne_nil (List.splitOn_ne_nil c t)
      rw [hps, List.modifyHead_cons] at hl
      rcases List.mem_cons.mp hl with rfl | hl
      · have hp := not_mem_of_mem_splitOn (hps ▸ List.mem_cons_self : p ∈ t.splitOn c)
        simp only [beq_iff_eq] at hd
        simp [Ne.symm hd, hp]
      · exact not_mem_of_mem_splitOn (hps ▸ List.mem_cons_of_mem p hl)

/-- A list cut at a separator into two or more pieces is its first piece, the separator, and
the other pieces joined by it. -/
theorem eq_append_of_splitOn_eq {c : Char} {cs x : List Char} {ys : List (List Char)}
    (h : cs.splitOn c = x :: ys) (hys : ys ≠ []) :
    cs = x ++ c :: [c].intercalate ys ∧ c ∉ x := by
  have hjoin : [c].intercalate (cs.splitOn c) = cs := List.intercalate_splitOn c
  rw [h, List.intercalate_cons_of_ne_nil hys] at hjoin
  exact ⟨by simpa using hjoin.symm, not_mem_of_mem_splitOn (h ▸ List.mem_cons_self)⟩

/-- Cutting `x ++ c :: z` at `c`, where `x` holds no `c`, gives `x` and pieces that join to `z`. -/
theorem splitOn_append_cons {c : Char} {x z : List Char} (hx : c ∉ x) :
    ∃ p ps, (x ++ c :: z).splitOn c = x :: p :: ps ∧ [c].intercalate (p :: ps) = z := by
  obtain ⟨p, ps, hps⟩ := List.exists_cons_of_ne_nil (List.splitOn_ne_nil c z)
  refine ⟨p, ps, ?_, ?_⟩
  · rw [List.splitOn_append_cons_self_of_not_mem hx, hps]
  · rw [← hps, List.intercalate_splitOn]

/-- The cuts of `first-last/size`: at the first `/`, then the part before it at its first `-`. -/
theorem splitSpec_eq_some_iff {cs a b t : List Char} :
    splitSpec cs = some (a, b, t) ↔
      cs = a ++ '-' :: b ++ '/' :: t ∧ '-' ∉ a ∧ '/' ∉ a ∧ '/' ∉ b := by
  constructor
  · intro h
    unfold splitSpec at h
    split at h
    · cases h
    · cases h
    · next _ span rest hrest hs =>
      dsimp only at h
      split at h
      · cases h
      · cases h
      · next _ x brest _ hbrest hx =>
        cases h
        obtain ⟨rfl, hslash⟩ := eq_append_of_splitOn_eq hs hrest
        obtain ⟨rfl, hdash⟩ := eq_append_of_splitOn_eq hx hbrest
        simp only [List.mem_append, List.mem_cons, not_or] at hslash
        exact ⟨rfl, hdash, hslash.1, hslash.2.2⟩
  · rintro ⟨rfl, hdash, hslash, hslash'⟩
    have hspan : '/' ∉ a ++ '-' :: b := by simp [hslash, hslash']
    obtain ⟨p, ps, hsplit, hjoin⟩ := splitOn_append_cons (z := t) hspan
    obtain ⟨q, qs, hsplit', hjoin'⟩ := splitOn_append_cons (z := b) hdash
    simp only [splitSpec, hsplit, hsplit', hjoin, hjoin']

/-! ## Numbers and fields -/

/-- A piece reads as a 64-bit word exactly when, trimmed, it is a numeral of the word's value. -/
theorem readWord?_eq_some_iff {cs : List Char} {w : UInt64} :
    readWord? cs = some w ↔ Decimal.IsNumeral (Text.trimChars cs) w.toNat := by
  unfold readWord?
  rw [Option.map_eq_some_iff]
  constructor
  · rintro ⟨v, hv, rfl⟩
    obtain ⟨hnum, hlt⟩ := Decimal.readUnsigned?_eq_some_iff.mp hv
    rwa [UInt64.toNat_ofNat', Nat.mod_eq_of_lt hlt]
  · intro hnum
    exact ⟨w.toNat, Decimal.readUnsigned?_eq_some_iff.mpr ⟨hnum, w.toNat_lt⟩, UInt64.ofNat_toNat⟩

/-- The prefix test of the header: its first six characters are `bytes `. -/
theorem take_six_beq_iff (cs : List Char) :
    (cs.take 6 == "bytes ".toList) = true ↔ cs = "bytes ".toList ++ cs.drop 6 := by
  rw [beq_iff_eq]
  constructor
  · intro h
    conv_lhs => rw [← List.take_append_drop 6 cs, h]
  · intro h
    rw [h, List.take_left' (by decide)]

theorem fields?_eq_some_iff {header : String} {a b n : UInt64} :
    fields? header = some (a, b, n) ↔
      ∃ x y z, Text.trimChars header.toList = "bytes ".toList ++ (x ++ '-' :: y ++ '/' :: z) ∧
        '-' ∉ x ∧ '/' ∉ x ∧ '/' ∉ y ∧
        Decimal.IsNumeral (Text.trimChars x) a.toNat ∧ Decimal.IsNumeral (Text.trimChars y) b.toNat ∧
        Decimal.IsNumeral (Text.trimChars z) n.toNat := by
  simp only [fields?, bind, pure]
  by_cases hp : (List.take 6 (Text.trimChars header.toList) == "bytes ".toList) = true
  · -- past the prefix, the rest is cut and its pieces read as numbers
    rw [if_pos hp]
    have hrest := (take_six_beq_iff _).mp hp
    simp only [Option.bind_some, Option.bind_eq_some_iff, Option.some.injEq, Prod.mk.injEq,
      Prod.exists, ← readWord?_eq_some_iff]
    constructor
    · rintro ⟨x, y, z, hs, a', ha, b', hb, n', hn, rfl, rfl, rfl⟩
      obtain ⟨hcs, hdash, hslash, hslash'⟩ := splitSpec_eq_some_iff.mp hs
      exact ⟨x, y, z, hcs ▸ hrest, hdash, hslash, hslash', ha, hb, hn⟩
    · rintro ⟨x, y, z, hcs, hdash, hslash, hslash', ha, hb, hn⟩
      have hdrop : (Text.trimChars header.toList).drop 6 = x ++ '-' :: y ++ '/' :: z := by
        rw [hcs, List.drop_left' (by decide)]
      exact ⟨x, y, z, splitSpec_eq_some_iff.mpr ⟨hdrop, hdash, hslash, hslash'⟩, a, ha, b, hb, n,
        hn, rfl, rfl, rfl⟩
  · -- without the prefix nothing is read
    rw [if_neg hp]
    simp only [Option.bind_none, reduceCtorEq, false_iff, not_exists, not_and]
    intro x y z hcs
    exact absurd ((take_six_beq_iff _).mpr (by rw [hcs, List.drop_left' (by decide)])) hp

/-! ## Reading a header -/

theorem ofHeader_eq_ok_iff {header : String} {c : ContentRange} :
    ofHeader header = .ok c ↔
      ∃ a b n, fields? header = some (a, b, n) ∧ a ≤ b ∧ b < n ∧ c = ⟨a, b - a + 1, n⟩ := by
  unfold ofHeader
  split
  · next a b n hf =>
    by_cases hord : a ≤ b ∧ b < n
    · rw [if_pos hord]
      simp only [Except.ok.injEq, hf, Option.some.injEq, Prod.mk.injEq]
      constructor
      · rintro rfl
        exact ⟨a, b, n, ⟨rfl, rfl, rfl⟩, hord.1, hord.2, rfl⟩
      · rintro ⟨a', b', n', ⟨rfl, rfl, rfl⟩, -, -, rfl⟩
        rfl
    · rw [if_neg hord]
      simp only [reduceCtorEq, hf, Option.some.injEq, Prod.mk.injEq, false_iff, not_exists,
        not_and]
      rintro a' b' n' ⟨rfl, rfl, rfl⟩ hab hbn
      exact absurd ⟨hab, hbn⟩ hord
  · next hf =>
    simp only [reduceCtorEq, false_iff, not_exists, not_and]
    intro a b n h
    rw [hf] at h
    cases h

/-- Every refusal is the one error that quotes the header. -/
theorem ofHeader_eq_error {header : String} {e : CacheError} (h : ofHeader header = .error e) :
    e = .upstreamFetch ("invalid Content-Range: " ++ header) := by
  unfold ofHeader at h
  split at h
  · split at h
    · cases h
    · cases h
      rfl
  · cases h
    rfl

/-- The header written from three numbers is its own trim: it starts with `b` and ends with a
digit. -/
theorem trimChars_headerText (a b n : Nat) :
    Text.trimChars ("bytes " ++ Decimal.text a ++ "-" ++ Decimal.text b ++ "/" ++
      Decimal.text n).toList =
      "bytes ".toList ++ (Decimal.digits a ++ '-' :: Decimal.digits b ++ '/' :: Decimal.digits n) := by
  obtain ⟨ds, d, hds⟩ := (List.eq_nil_or_concat (Decimal.digits n)).resolve_left Nat.toDigits_ne_nil
  have hlist : ("bytes " ++ Decimal.text a ++ "-" ++ Decimal.text b ++ "/" ++
      Decimal.text n).toList =
      "bytes ".toList ++ (Decimal.digits a ++ '-' :: Decimal.digits b ++ '/' :: Decimal.digits n) := by
    simp [Decimal.text]
  have hend : "bytes ".toList ++ (Decimal.digits a ++ '-' :: Decimal.digits b ++
      '/' :: Decimal.digits n) =
      ("bytes ".toList ++ (Decimal.digits a ++ '-' :: Decimal.digits b ++ '/' :: ds)) ++ [d] := by
    simp [hds]
  have hd : d ∈ Decimal.digits n := by simp [hds]
  rw [hlist]
  apply Text.trimChars_of_ends
  · simp [Text.isBlank]
  · rw [hend, List.getLast?_concat]
    simpa using Text.isBlank_of_isDigit (Decimal.isDigit_of_mem_digits hd)

/-- The header written from three ordered numbers is read back as them. -/
theorem ofHeader_text {a b n : UInt64} (hab : a ≤ b) (hbn : b < n) :
    ofHeader ("bytes " ++ Decimal.text a.toNat ++ "-" ++ Decimal.text b.toNat ++ "/" ++
      Decimal.text n.toNat) = .ok ⟨a, b - a + 1, n⟩ := by
  -- each number's digits are their own trim and a numeral of it
  have hword : ∀ w : UInt64, Decimal.IsNumeral (Text.trimChars (Decimal.digits w.toNat)) w.toNat :=
    fun w => by
      rw [Text.trimChars_digits]
      exact Decimal.isNumeral_digits w.toNat
  apply ofHeader_eq_ok_iff.mpr
  refine ⟨a, b, n, fields?_eq_some_iff.mpr ?_, hab, hbn, rfl⟩
  exact ⟨_, _, _, trimChars_headerText _ _ _, Decimal.not_mem_digits rfl _,
    Decimal.not_mem_digits rfl _, Decimal.not_mem_digits rfl _, hword a, hword b, hword n⟩

/-- A header is accepted exactly when its trimmed text is `bytes ` followed by `x-y/z`, with no
`-` in `x` and no `/` in `x-y`, whose trimmed pieces are numerals of values
`first ≤ last < size` below `2 ^ 64`; it then reads as `first`, `last - first + 1` and `size`.
Any other header is refused with the error that quotes it, and a header written from ordered
numbers reads back as them. -/
theorem ofHeader_accepts_grammar (header : String) (c : ContentRange) :
    (ofHeader header = .ok c ↔
      ∃ (x y z : String) (a b n : UInt64),
        Text.trim header = "bytes " ++ x ++ "-" ++ y ++ "/" ++ z ∧
        '-' ∉ x.toList ∧ '/' ∉ (x ++ "-" ++ y).toList ∧
        Decimal.IsNumeral (Text.trim x).toList a.toNat ∧
        Decimal.IsNumeral (Text.trim y).toList b.toNat ∧
        Decimal.IsNumeral (Text.trim z).toList n.toNat ∧
        a ≤ b ∧ b < n ∧ c = ⟨a, b - a + 1, n⟩) ∧
    (∀ e, ofHeader header = .error e → e = .upstreamFetch ("invalid Content-Range: " ++ header)) ∧
    (∀ a b n : UInt64, a ≤ b → b < n →
      ofHeader ("bytes " ++ Decimal.text a.toNat ++ "-" ++ Decimal.text b.toNat ++ "/" ++
        Decimal.text n.toNat) = .ok ⟨a, b - a + 1, n⟩) := by
  refine ⟨?_, fun _ => ofHeader_eq_error, fun _ _ _ => ofHeader_text⟩
  rw [ofHeader_eq_ok_iff]
  -- the grammar on strings is the grammar on their characters
  have hstr : ∀ x y z : String, (Text.trim header = "bytes " ++ x ++ "-" ++ y ++ "/" ++ z ↔
      Text.trimChars header.toList = "bytes ".toList ++ (x.toList ++ '-' :: y.toList ++ '/' :: z.toList)) :=
    fun x y z => by simp [String.ext_iff]
  constructor
  · rintro ⟨a, b, n, hf, hab, hbn, rfl⟩
    obtain ⟨x, y, z, hcs, hdash, hslash, hslash', ha, hb, hn⟩ := fields?_eq_some_iff.mp hf
    refine ⟨String.ofList x, String.ofList y, String.ofList z, a, b, n, (hstr _ _ _).mpr ?_, ?_,
      ?_, ?_, ?_, ?_, hab, hbn, rfl⟩
    · simpa using hcs
    · simpa using hdash
    · simp [hslash, hslash']
    · simpa using ha
    · simpa using hb
    · simpa using hn
  · rintro ⟨x, y, z, a, b, n, hcs, hdash, hslash, ha, hb, hn, hab, hbn, rfl⟩
    have hslash' : '/' ∉ x.toList ∧ '/' ∉ y.toList := by simpa using hslash
    refine ⟨a, b, n, fields?_eq_some_iff.mpr ⟨x.toList, y.toList, z.toList, (hstr x y z).mp hcs,
      hdash, hslash'.1, hslash'.2, ?_, ?_, ?_⟩, hab, hbn, rfl⟩
    · simpa using ha
    · simpa using hb
    · simpa using hn

end ContentRange

end PartCache
