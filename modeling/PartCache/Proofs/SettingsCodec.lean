import PartCache.Proofs.ContentRangeHeader
import PartCache.Proofs.ObjectPaths

/-!
# The settings file round trip

A zone's settings file holds the part size as the one-member document `{"part_size":N}`, with
`N` in decimal (`settingsText_eq`).  Written for a part size, it reads back as that size
(`ofJson_settingsText`).  This is what the zone's proofs take from the JSON reader, and the
reader is opened only here.

The text is ASCII, so its bytes are its characters' codes (`Bytes.ofString_ascii`).  The reader
takes the digits as a `u64` word, with no leading zero and below the word bound
(`JsonReader.word_digits`), then the member and the document around them
(`JsonReader.document_settings`).
-/

set_option autoImplicit false

namespace PartCache

namespace Bytes

theorem ofString_eq_data (s : String) : ofString s = s.toByteArray.data.toList := by
  simp [ofString, ByteArray.toList, toList_loop]

/-- An ASCII text is its characters' codes, one byte each. -/
theorem ofString_ofList_ascii {cs : List Char} (h : ∀ c ∈ cs, c.toNat < 128) :
    ofString (String.ofList cs) = cs.map fun c => UInt8.ofNat c.toNat := by
  rw [ofString_eq_data, String.toByteArray_ofList, List.utf8Encode, List.toList_data_toByteArray]
  induction cs with
  | nil => rfl
  | cons c cs ih =>
    have hc : String.utf8EncodeChar c = [UInt8.ofNat c.toNat] := by
      have hc : c.val.toNat ≤ 127 := Nat.le_of_lt_succ (h c List.mem_cons_self)
      simp only [String.utf8EncodeChar, hc, if_true]
      rfl
    rw [List.flatMap_cons, hc, ih fun d hd => h d (List.mem_cons_of_mem c hd)]
    rfl

theorem ofString_ascii {s : String} (h : ∀ c ∈ s.toList, c.toNat < 128) :
    ofString s = s.toList.map fun c => UInt8.ofNat c.toNat := by
  have := ofString_ofList_ascii h
  rwa [String.ofList_toList] at this

end Bytes

namespace JsonReader

section Steps

variable (line col : Nat)

theorem bind_run {α β : Type} {x : Read α} {f : α → Read β} {c c' : Cursor} {a : α}
    (h : x c = .ok (a, c')) : (x >>= f) c = f a c' := by
  simp [bind, StateT.bind, h, Except.bind]

theorem pure_run {α : Type} (a : α) (c : Cursor) : (pure a : Read α) c = .ok (a, c) := rfl

theorem peek_cons (b : UInt8) (r : List UInt8) :
    peek ⟨b :: r, line, col⟩ = .ok (some b, ⟨b :: r, line, col⟩) := rfl

theorem bump_cons {b : UInt8} (r : List UInt8) (hb : b ≠ 10) :
    bump ⟨b :: r, line, col⟩ = .ok ((), ⟨r, line, col + 1⟩) := by
  simp [bump, Cursor.next, hb]

theorem nextByte_cons {b : UInt8} (r : List UInt8) (hb : b ≠ 10) :
    nextByte ⟨b :: r, line, col⟩ = .ok (some b, ⟨r, line, col + 1⟩) := by
  simp [nextByte, Cursor.next, hb]

theorem peekToken_cons {b : UInt8} (r : List UInt8) (hb : isBlank b = false) :
    peekToken ⟨b :: r, line, col⟩ = .ok (some b, ⟨b :: r, line, col⟩) := by
  simp [peekToken, blanks, skipBlanks, hb]

end Steps

/-! ### Digits -/

section Digits

variable {c : Char}

/-- A digit's byte has the digit's code. -/
theorem toNat_byte (h : c.isDigit = true) : (UInt8.ofNat c.toNat).toNat = c.toNat := by
  have := Decimal.toNat_of_isDigit h
  simp only [UInt8.toNat_ofNat', Nat.reducePow]
  omega

/-- A digit's byte is no byte of another code. -/
theorem byte_ne (h : c.isDigit = true) {b : UInt8} (hb : c.toNat ≠ b.toNat) :
    UInt8.ofNat c.toNat ≠ b :=
  fun he => hb (by rw [← he, toNat_byte h])

theorem isDigit_byte (h : c.isDigit = true) : isDigit (UInt8.ofNat c.toNat) = true := by
  have := Decimal.toNat_of_isDigit h
  simp only [isDigit, UInt8.le_iff_toNat_le, toNat_byte h, UInt8.reduceToNat, Bool.and_eq_true,
    decide_eq_true_eq]
  omega

theorem byte_sub_zero (h : c.isDigit = true) : (UInt8.ofNat c.toNat - 48).toNat = c.toNat - 48 := by
  have := Decimal.toNat_of_isDigit h
  have hle : (48 : UInt8) ≤ UInt8.ofNat c.toNat := by
    rw [UInt8.le_iff_toNat_le, toNat_byte h]
    simp only [UInt8.reduceToNat]
    omega
  rw [UInt8.toNat_sub_of_le _ _ hle, toNat_byte h]
  rfl

theorem byte_ne_newline (h : c.isDigit = true) : UInt8.ofNat c.toNat ≠ 10 := by
  have := Decimal.toNat_of_isDigit h
  exact byte_ne h (by simp only [UInt8.reduceToNat]; omega)

/-- A digit appended to `n` passes `bound` exactly when the number it makes does. -/
theorem passesBound_eq_false {bound n d : Nat} (hd : d ≤ 9) (h : n * 10 + d ≤ bound) :
    passesBound bound n d = false := by
  simp only [passesBound, Bool.and_eq_false_iff, Bool.or_eq_false_iff, decide_eq_false_iff_not,
    not_le, not_lt]
  omega

/-- Reading a run of digits, followed by a byte that is no digit, onto a significand that stays
a 64-bit word takes the whole run. -/
theorem significandDigits_digits (line : Nat) {cs : List Char} (hcs : ∀ c ∈ cs, c.isDigit = true)
    {rest : List UInt8} (hrest : ∀ b ∈ rest.head?, isDigit b = false) :
    ∀ (fuel sig k col : Nat), cs.length < fuel → Nat.ofDigitChars 10 cs sig ≤ wordMax →
      significandDigits fuel sig k ⟨cs.map (fun c => UInt8.ofNat c.toNat) ++ rest, line, col⟩ =
        .ok ((Nat.ofDigitChars 10 cs sig, k + cs.length, false), ⟨rest, line, col + cs.length⟩) := by
  induction cs with
  | nil =>
    intro fuel sig k col hfuel _
    obtain ⟨f, rfl⟩ : ∃ f, fuel = f + 1 := ⟨fuel - 1, by simp at hfuel; omega⟩
    cases rest with
    | nil => rfl
    | cons b r =>
      rw [List.map_nil, List.nil_append, significandDigits, bind_run (peek_cons line col b r)]
      simp [hrest b rfl, pure_run, Nat.ofDigitChars]
  | cons c cs ih =>
    intro fuel sig k col hfuel hval
    obtain ⟨f, rfl⟩ : ∃ f, fuel = f + 1 := ⟨fuel - 1, by simp at hfuel; omega⟩
    have hc := hcs c List.mem_cons_self
    have hcv := Decimal.toNat_of_isDigit hc
    have hzero : '0'.toNat = 48 := rfl
    rw [Nat.ofDigitChars_cons, hzero] at hval ⊢
    -- the value read so far never passes the bound: the run's value is at least it
    have hstep : sig * 10 + (c.toNat - 48) ≤ Nat.ofDigitChars 10 cs (10 * sig + (c.toNat - 48)) := by
      rw [Nat.ofDigitChars_eq_ofDigitChars_zero (l := cs)]
      have := Nat.one_le_pow cs.length 10 (by decide)
      nlinarith
    have hrun := ih (fun d hd => hcs d (List.mem_cons_of_mem c hd)) f (sig * 10 + (c.toNat - 48))
      (k + 1) (col + 1) (by simp at hfuel; omega) (by rw [Nat.mul_comm sig]; exact hval)
    rw [List.map_cons, List.cons_append, significandDigits, bind_run (peek_cons line col _ _)]
    dsimp only
    rw [if_pos (isDigit_byte hc), byte_sub_zero hc, if_neg (by
      rw [passesBound_eq_false (by omega) (hstep.trans hval)]; decide),
      bind_run (bump_cons line col _ (byte_ne_newline hc)), hrun, Nat.mul_comm sig,
      List.length_cons, show k + 1 + cs.length = k + (cs.length + 1) by omega,
      show col + 1 + cs.length = col + (cs.length + 1) by omega]

/-- After an integer, a closing brace ends the number. -/
theorem numberTail_brace (line col fuel sig : Nat) (r : List UInt8) :
    numberTail fuel true sig ⟨125 :: r, line, col⟩ = .ok (.unsigned sig, ⟨125 :: r, line, col⟩) :=
  rfl

/-- The decimal digits of a number have no leading zero, unless they are the one digit of zero. -/
theorem digits_eq_zero_cons {n : Nat} {cs : List Char} (h : Decimal.digits n = '0' :: cs) :
    cs = [] ∧ n = 0 := by
  have hval : Nat.ofDigitChars 10 ('0' :: cs) 0 = n := h ▸ Nat.ofDigitChars_ten_toDigits
  rw [Nat.ofDigitChars_cons] at hval
  have hdig : ∀ c ∈ cs, c.isDigit = true := fun c hc =>
    Decimal.isDigit_of_mem_digits (h ▸ List.mem_cons_of_mem '0' hc)
  have hcs : cs = [] := by
    by_contra hne
    have hlt : n < 10 ^ cs.length := hval ▸ Decimal.ofDigitChars_lt_pow hdig
    have hlen := (Nat.length_toDigits_le_iff (by decide) (List.length_pos_of_ne_nil hne)).mpr hlt
    rw [← Decimal.digits, h, List.length_cons] at hlen
    omega
  subst hcs
  exact ⟨rfl, by simpa using hval.symm⟩

/-- The decimal digits of a 64-bit number, then a closing brace, read as that number. -/
theorem number_digits (line col fuel n : Nat) (r : List UInt8) (hn : n ≤ wordMax)
    (hfuel : (Decimal.digits n).length < fuel) :
    number fuel true ⟨(Decimal.digits n).map (fun c => UInt8.ofNat c.toNat) ++ 125 :: r, line, col⟩ =
      .ok (.unsigned n, ⟨125 :: r, line, col + (Decimal.digits n).length⟩) := by
  obtain ⟨c0, cs, hds⟩ := List.exists_cons_of_ne_nil (Nat.toDigits_ne_nil (n := n) (b := 10))
  rw [← Decimal.digits] at hds
  have hval : Nat.ofDigitChars 10 (c0 :: cs) 0 = n := hds ▸ Nat.ofDigitChars_ten_toDigits
  have hdig : ∀ c ∈ c0 :: cs, c.isDigit = true := fun c hc =>
    Decimal.isDigit_of_mem_digits (hds ▸ hc)
  rw [hds] at hfuel ⊢
  by_cases h0 : c0 = '0'
  · -- a leading zero is the whole number
    obtain ⟨rfl, rfl⟩ := digits_eq_zero_cons (h0 ▸ hds)
    subst h0
    rfl
  · have hc0 := hdig c0 List.mem_cons_self
    have hb0 : UInt8.ofNat c0.toNat ≠ 48 := byte_ne hc0 fun he => h0 (Char.toNat_inj.mp he)
    rw [List.map_cons, List.cons_append, number,
      bind_run (nextByte_cons line col _ (byte_ne_newline hc0))]
    -- the first digit is not zero, so the run is read as a significand
    simp only
    rw [Nat.ofDigitChars_cons, show '0'.toNat = 48 from rfl, Nat.mul_zero, Nat.zero_add] at hval
    have hrun := @significandDigits_digits line _ (fun c hc => hdig c (List.mem_cons_of_mem c0 hc))
      (125 :: r) (fun b hb => by cases hb; rfl) fuel (c0.toNat - 48) 1 (col + 1)
      (by rw [List.length_cons] at hfuel; omega) (by rw [hval]; exact hn)
    rw [if_pos (isDigit_byte hc0), byte_sub_zero hc0, bind_run hrun]
    simp only [Bool.false_eq_true, if_false]
    rw [numberTail_brace, hval, List.length_cons, Nat.add_assoc, Nat.add_comm 1]

/-- The decimal digits of a 64-bit number, then a closing brace, read as a `u64` field. -/
theorem word_digits (line col fuel n : Nat) (r : List UInt8) (hn : n ≤ wordMax)
    (hfuel : (Decimal.digits n).length < fuel) :
    word fuel "u64" 0 18446744073709551615
        ⟨(Decimal.digits n).map (fun c => UInt8.ofNat c.toNat) ++ 125 :: r, line, col⟩ =
      .ok (.int n, ⟨125 :: r, line, col + (Decimal.digits n).length⟩) := by
  obtain ⟨c0, cs, hds⟩ := List.exists_cons_of_ne_nil (Nat.toDigits_ne_nil (n := n) (b := 10))
  rw [← Decimal.digits] at hds
  have hc0 : c0.isDigit = true := Decimal.isDigit_of_mem_digits (hds ▸ List.mem_cons_self)
  have hcv := Decimal.toNat_of_isDigit hc0
  have hblank : isBlank (UInt8.ofNat c0.toNat) = false := by
    simp only [isBlank, Bool.or_eq_false_iff, decide_eq_false_iff_not, ← UInt8.toNat_inj,
      toNat_byte hc0, UInt8.reduceToNat]
    omega
  have h45 : UInt8.ofNat c0.toNat ≠ 45 := byte_ne hc0 (by simp only [UInt8.reduceToNat]; omega)
  have hnum := number_digits line col fuel n r hn hfuel
  rw [hds, List.map_cons, List.cons_append] at hnum ⊢
  rw [word, bind_run (peekToken_cons line col _ hblank)]
  -- the first digit is no minus sign (`h45` discharges that branch), so the run is unsigned
  simp only [isDigit_byte hc0, if_true]
  have hcheck : Shape.checkWord "u64" 0 18446744073709551615 (n : Int) = .ok (.int n) := by
    have : n ≤ 18446744073709551615 := hn
    rw [Shape.checkWord, if_pos (by omega)]
  rw [bind_run hnum]
  simp only [hcheck]
  rfl

end Digits

/-! ### The settings record -/

section Settings

variable (line col : Nat) (r : List UInt8)

theorem nextKey_quote : nextKey true ⟨34 :: r, line, col⟩ = .ok (true, ⟨r, line, col + 1⟩) := rfl

theorem nextKey_brace : nextKey false ⟨125 :: r, line, col⟩ = .ok (false, ⟨125 :: r, line, col⟩) :=
  rfl

theorem colon_cons : colon ⟨58 :: r, line, col⟩ = .ok ((), ⟨r, line, col + 1⟩) := rfl

/-- The settings field's name, read after its opening quote. -/
theorem string_partSize (f : Nat) :
    string (f + 10) ⟨112 :: 97 :: 114 :: 116 :: 95 :: 115 :: 105 :: 122 :: 101 :: 34 :: r, line, col⟩ =
      .ok ("part_size", ⟨r, line, col + 10⟩) := rfl

/-- The one member of the settings object, its value the decimal digits of a 64-bit number. -/
theorem members_settings (f n : Nat) (hn : n ≤ wordMax) (hf : (Decimal.digits n).length + 10 ≤ f) :
    members (f + 1) [("part_size", Shapes.u64, false)] true []
        ⟨34 :: 112 :: 97 :: 114 :: 116 :: 95 :: 115 :: 105 :: 122 :: 101 :: 34 :: 58 ::
          ((Decimal.digits n).map (fun c => UInt8.ofNat c.toNat) ++ 125 :: r), line, col⟩ =
      .ok ([("part_size", .int n)], ⟨125 :: r, line, col + 12 + (Decimal.digits n).length⟩) := by
  obtain ⟨g, rfl⟩ : ∃ g, f = g + 10 := ⟨f - 10, by omega⟩
  rw [members, bind_run (nextKey_quote _ _ _), if_pos rfl, bind_run (string_partSize _ _ _ _)]
  have hfind : [("part_size", Shapes.u64, false)].find? (fun x => x.1 == "part_size") =
      some ("part_size", Shapes.u64, false) := rfl
  rw [hfind]
  dsimp only
  rw [if_neg (by decide), bind_run (colon_cons _ _ _), show col + 1 + 10 + 1 = col + 12 by omega,
    show value (g + 10) Shapes.u64 = word (g + 9) "u64" 0 18446744073709551615 from rfl,
    bind_run (word_digits line (col + 12) (g + 9) n r hn (by omega)), members,
    bind_run (nextKey_brace _ _ _)]
  rfl

/-- The settings object: an opening brace, its one member, and a closing brace. -/
theorem value_settings (f n : Nat) (hn : n ≤ wordMax) (hf : (Decimal.digits n).length + 10 ≤ f) :
    value (f + 2) Shapes.settings
        ⟨123 :: 34 :: 112 :: 97 :: 114 :: 116 :: 95 :: 115 :: 105 :: 122 :: 101 :: 34 :: 58 ::
          ((Decimal.digits n).map (fun c => UInt8.ofNat c.toNat) ++ 125 :: r), line, col⟩ =
      .ok (.record [("part_size", .int n)], ⟨r, line, col + 14 + (Decimal.digits n).length⟩) := by
  rw [show Shapes.settings = .record "ZoneSettings" [("part_size", Shapes.u64, false)] from rfl,
    value, bind_run (peekToken_cons line col _ (by decide))]
  simp only
  rw [bind_run (bump_cons line col _ (by decide)), bind_run (members_settings line (col + 1) r f n hn hf)]
  rw [show col + 14 + (Decimal.digits n).length = col + 1 + 12 + (Decimal.digits n).length + 1 by
    omega]
  rfl

/-- A settings document whose part size is written in decimal reads as the settings record. -/
theorem document_settings (n : Nat) (hn : n ≤ wordMax) :
    document Shapes.settings
        (123 :: 34 :: 112 :: 97 :: 114 :: 116 :: 95 :: 115 :: 105 :: 122 :: 101 :: 34 :: 58 ::
          ((Decimal.digits n).map (fun c => UInt8.ofNat c.toNat) ++ [125])) =
      .ok (.record [("part_size", .int n)]) := by
  unfold document
  simp only [List.length_cons, List.length_append, List.length_map, List.length_nil,
    Nat.add_assoc, Nat.reduceAdd]
  rw [show 2 * ((Decimal.digits n).length + 14) + 8 = (2 * (Decimal.digits n).length + 34) + 2 by
    omega]
  rw [StateT.run, bind_run (value_settings 1 0 [] _ n hn (by omega))]
  rfl

end Settings

end JsonReader

/-- The settings file written for a part size. -/
theorem settingsText_eq (ps : UInt64) :
    DiskM.settingsText ps =
      123 :: 34 :: 112 :: 97 :: 114 :: 116 :: 95 :: 115 :: 105 :: 122 :: 101 :: 34 :: 58 ::
        ((Decimal.digits ps.toNat).map (fun c => UInt8.ofNat c.toNat) ++ [125]) := by
  have hchars : (ZoneSettings.toJson ⟨ps⟩).render.toList =
      "\x7b\"part_size\":".toList ++ Decimal.digits ps.toNat ++ ['}'] := by
    have hnn : ¬ ((ps.toNat : Int) < 0) := by omega
    simp [ZoneSettings.toJson, Json.render, Json.renderMembers, Json.nat, Json.quote, Json.escapeChar,
      Decimal.text, hnn]
  have hascii : ∀ c ∈ (ZoneSettings.toJson ⟨ps⟩).render.toList, c.toNat < 128 := by
    rw [hchars]
    intro c hc
    simp only [List.mem_append, List.mem_singleton] at hc
    rcases hc with (hc | hc) | rfl
    · exact of_decide_eq_true (List.all_eq_true.mp
        (by decide : ("\x7b\"part_size\":".toList.all fun c => decide (c.toNat < 128)) = true) c hc)
    · have := Decimal.toNat_of_isDigit (Decimal.isDigit_of_mem_digits hc)
      omega
    · decide
  rw [DiskM.settingsText, Bytes.ofString_ascii hascii, hchars]
  simp only [List.map_append, List.append_assoc]
  rfl

/-- The settings file written for a part size reads back as that part size. -/
theorem ofJson_settingsText (ps : UInt64) : ZoneSettings.ofJson (DiskM.settingsText ps) = .ok ⟨ps⟩ := by
  have hn : ps.toNat ≤ JsonReader.wordMax := by
    have := ps.toNat_lt_size
    simp only [JsonReader.wordMax]
    omega
  rw [settingsText_eq, ZoneSettings.ofJson, readAs, JsonReader.document_settings _ hn]
  simp [ZoneSettings.ofValue, Value.field?, Value.intOr]

end PartCache
