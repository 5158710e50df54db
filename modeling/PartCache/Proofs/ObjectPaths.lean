import PartCache.Store.Paths
import PartCache.Config
import PartCache.Proofs.ObjectFiles
import Mathlib

/-!
# Where an object's files lie below the zone root

A path is read as the standard library reads it on Unix (`pathComponents`): a root mark when it
starts with `/`, a leading `.`, then the pieces between separators with empty pieces and `.` left
out.  Splitting a text at `/` is splitting its characters (`String.splitOn_slash`), so the
components of a path are read off its characters (`pathComponents_eq`), and joining a name onto a
path, a text that is not empty and holds neither `/` nor only dots, adds that name as its last
component whatever the path ends with (`pathComponents_pathJoin`).

Every name of the layout is such a name: the namespace of any cache key, since a key that is not
a plain directory name is escaped to `_` and lowercase hexadecimal digits; the digest's names, of
lowercase hexadecimal digits; the metadata file; and the part files, of decimal digits.  Hence an
object's directory is the root followed by exactly its four names (`objectDirIn_below_root`).

The layout does not keep objects apart, though.  An escaped key is itself a plain directory name,
so the key that escapes to it shares its namespace, and a digest only sees the key and the path
one after the other.  Two objects share a directory exactly when their digests agree and their
keys are equal or one is escaped to the other (`shared_directory_iff`): the empty key and the key
`_`, with paths `_` and empty, are two objects with one directory
(`empty_key_shares_directory`).
-/

set_option autoImplicit false

/-! ## Splitting at `/` -/

namespace String

/-- Splitting at `/`, with `l` split already and `m` read of the current piece, splits the rest
`r` as splitting its characters does; by induction on `r`, as `splitAux_of_valid` does for
splitting at a test. -/
theorem splitOnAux_slash (l m r : List Char) (acc : List String) :
    splitOnAux (ofList (l ++ m ++ r)) "/" ⟨utf8Len l⟩ ⟨utf8Len l + utf8Len m⟩ 0 acc =
      acc.reverse ++ (List.splitOnPPrepend (· == '/') r m.reverse).map ofList := by
  rw [splitOnAux.eq_1]
  simp only [List.append_assoc, atEnd_iff, rawEndPos_ofList, utf8Len_append, Pos.Raw.mk_le_mk,
    Nat.add_le_add_iff_left, (by omega : utf8Len m + utf8Len r ≤ utf8Len m ↔ utf8Len r = 0),
    utf8Len_eq_zero, List.reverse_cons]
  split
  · subst r
    simpa using extract_of_valid l m []
  · obtain ⟨c, r, rfl⟩ := r.exists_cons_of_ne_nil ‹_›
    have hget : Pos.Raw.get "/" 0 = '/' := rfl
    have hnext : Pos.Raw.next "/" 0 = ⟨1⟩ := rfl
    have hend : "/".rawEndPos = ⟨1⟩ := rfl
    have hzero : (⟨utf8Len l + utf8Len m⟩ : Pos.Raw).unoffsetBy 0 = ⟨utf8Len l + utf8Len m⟩ := rfl
    simp only [hget, hnext, hend, hzero, by
      simpa [-ofList_append] using
        (⟨get_of_valid (l ++ m) (c :: r), next_of_valid (l ++ m) c r⟩ : _ ∧ _)]
    by_cases hc : c = '/'
    · subst hc
      -- a separator closes the current piece
      have hback : (⟨utf8Len l + utf8Len m + ('/' : Char).utf8Size⟩ : Pos.Raw).unoffsetBy ⟨1⟩ =
          ⟨utf8Len l + utf8Len m⟩ := Pos.Raw.ext (by simp [Pos.Raw.unoffsetBy]; rfl)
      have hpiece := extract_of_valid l m ('/' :: r)
      simp only [List.append_assoc] at hpiece
      rw [hback, hpiece]
      simpa [List.splitOnPPrepend_cons_eq_if, Nat.add_assoc] using
        splitOnAux_slash (l ++ m ++ ['/']) [] r (ofList m :: acc)
    · have hc' : (c == '/') = false := by simpa using hc
      simpa [hc', List.splitOnPPrepend_cons_eq_if, Nat.add_assoc] using
        splitOnAux_slash l (m ++ [c]) r acc

/-- Splitting a text at `/` splits its characters. -/
theorem splitOn_slash (s : String) : s.splitOn "/" = (s.toList.splitOn '/').map ofList := by
  have h := splitOnAux_slash [] [] s.toList []
  simp only [List.nil_append, utf8Len_nil, List.reverse_nil, List.splitOnPPrepend_nil_right,
    ofList_toList] at h
  rw [splitOn, if_neg (by decide), List.splitOn_eq_splitOnP]
  exact h

end String

namespace PartCache

/-! ## The components of a path -/

/-- The names of a path's text: the pieces between separators, empty ones and `.` left out. -/
def pathNames (cs : List Char) : List String :=
  ((cs.splitOn '/').map String.ofList).filter fun s => s != "" && s != "."

theorem pathNames_nil : pathNames [] = [] := by
  simp [pathNames]

/-- The names of a path cut at a separator are the names of its two sides. -/
theorem pathNames_append_slash (x y : List Char) :
    pathNames (x ++ '/' :: y) = pathNames x ++ pathNames y := by
  simp only [pathNames, List.splitOn_append_cons_self, List.map_append, List.filter_append]

/-- The components of a path, read off its characters: a root mark when it starts with `/`, a
`.` when its first piece is `.` and it has no root, then its names. -/
theorem pathComponents_eq (p : String) :
    pathComponents p =
      (if p.toList.head? = some '/' then ["/"] else []) ++
      (if p.toList.head? ≠ some '/' ∧ (p.toList.splitOn '/').head? = some ['.'] then ["."]
        else []) ++ pathNames p.toList := by
  have hroot : p.startsWith "/" = decide (p.toList.head? = some '/') := by
    rw [Bool.eq_iff_iff, String.startsWith_string_iff, decide_eq_true_iff]
    cases p.toList with
    | nil => simp
    | cons c cs => simp [List.cons_prefix_cons, eq_comm]
  have hdot : ∀ l : List (List Char), ((l.map String.ofList).head? == some ".") =
      decide (l.head? = some ['.']) := by
    intro l
    cases l with
    | nil => simp
    | cons x xs =>
      simp only [List.map_cons, List.head?_cons, Option.some.injEq]
      rw [Bool.eq_iff_iff, decide_eq_true_iff, beq_iff_eq, Option.some.injEq]
      constructor
      · intro h
        simpa using congrArg String.toList h
      · rintro rfl
        rfl
  simp only [pathComponents, String.splitOn_slash, hroot, hdot]
  simp [pathNames]

/-- Whether a name stands for itself as one component of a path: it is not empty, has no `/`,
and is neither `.` nor `..`. -/
def isNormalName (n : String) : Bool :=
  !n.isEmpty && !n.toList.contains '/' && n != "." && n != ".."

theorem isNormalName_iff {n : String} :
    isNormalName n = true ↔ n.toList ≠ [] ∧ '/' ∉ n.toList ∧ n ≠ "." ∧ n ≠ ".." := by
  simp [isNormalName, ← String.toList_eq_nil_iff, and_assoc]

theorem pathNames_name {n : String} (hn : isNormalName n = true) : pathNames n.toList = [n] := by
  obtain ⟨hne, hslash, hdot, -⟩ := isNormalName_iff.mp hn
  have hempty : n ≠ "" := fun h => hne (by simp [h])
  simp [pathNames, List.splitOn_eq_singleton hslash, hempty, hdot]

section Joining

variable {p q : String} {x : List Char}

/-- A separator and a name after a path add the name as its last component. -/
theorem pathComponents_slash_name {n : String} (hn : isNormalName n = true)
    (hp : p.toList = x ++ ['/']) (hq : q.toList = x ++ '/' :: n.toList) :
    pathComponents q = pathComponents p ++ [n] := by
  have hhead : (x ++ '/' :: n.toList).head? = (x ++ ['/']).head? := by cases x <;> rfl
  have hsplit : ((x ++ '/' :: n.toList).splitOn '/').head? = ((x ++ ['/']).splitOn '/').head? := by
    rw [List.splitOn_append_cons_self, List.splitOn_append_cons_self,
      List.head?_append_of_ne_nil _ (List.splitOn_ne_nil _ _),
      List.head?_append_of_ne_nil _ (List.splitOn_ne_nil _ _)]
  rw [pathComponents_eq, pathComponents_eq, hp, hq, hhead, hsplit, pathNames_append_slash,
    pathNames_append_slash, pathNames_nil, pathNames_name hn]
  simp

/-- A separator at the end of a path adds no component. -/
theorem pathComponents_trailing_slash (hx : x ≠ []) (hp : p.toList = x)
    (hq : q.toList = x ++ ['/']) : pathComponents q = pathComponents p := by
  have hhead : (x ++ ['/']).head? = x.head? := List.head?_append_of_ne_nil _ hx
  have hsplit : ((x ++ ['/']).splitOn '/').head? = (x.splitOn '/').head? := by
    rw [List.splitOn_append_cons_self, List.head?_append_of_ne_nil _ (List.splitOn_ne_nil _ _)]
  rw [pathComponents_eq, pathComponents_eq, hp, hq, hhead, hsplit, pathNames_append_slash,
    pathNames_nil, List.append_nil]

/-- A name is a path of one component. -/
theorem pathComponents_name {n : String} (hn : isNormalName n = true) : pathComponents n = [n] := by
  obtain ⟨hne, hslash, hdot, -⟩ := isNormalName_iff.mp hn
  obtain ⟨c, cs, hcs⟩ := List.exists_cons_of_ne_nil hne
  have hc : c ≠ '/' := fun h => hslash (by rw [hcs, h]; exact List.mem_cons_self)
  have hsplit : (n.toList.splitOn '/').head? ≠ some ['.'] := by
    rw [List.splitOn_eq_singleton hslash]
    intro h
    exact hdot (by simpa using congrArg String.ofList (Option.some.inj h))
  rw [hcs] at hsplit
  rw [pathComponents_eq, pathNames_name hn, hcs]
  simp [hc, hsplit]

theorem pathComponents_empty : pathComponents "" = [] := by
  simp [pathComponents_eq, pathNames_nil]

end Joining

/-- Joining a name onto a path adds the name as its last component. -/
theorem pathComponents_pathJoin (base : String) {n : String} (hn : isNormalName n = true) :
    pathComponents (pathJoin base n) = pathComponents base ++ [n] := by
  obtain ⟨hne, hslash, -, -⟩ := isNormalName_iff.mp hn
  have hroot : n.startsWith "/" = false := by
    rw [String.startsWith_string_eq_false_iff]
    intro h
    exact hslash (h.subset (by simp))
  unfold pathJoin
  rw [if_neg (by simp [hroot])]
  split
  · -- an empty base is replaced
    next h =>
    have hb : base = "" := String.toList_eq_nil_iff.mp (List.getLast?_eq_none_iff.mp h)
    subst hb
    simp [pathComponents_name hn, pathComponents_empty]
  · -- a base that ends with `/` takes the name directly
    next h =>
    obtain ⟨x, hx⟩ := List.getLast?_eq_some_iff.mp h
    exact pathComponents_slash_name hn hx (by simp [hx])
  · -- otherwise a separator comes first, and a trailing separator adds nothing
    next c h hc =>
    have hne' : base.toList ≠ [] := fun e => by simp [e] at hc
    rw [pathComponents_slash_name hn (p := base ++ "/") (x := base.toList) (by simp) (by simp),
      pathComponents_trailing_slash hne' rfl (by simp)]

/-- Joining names one after another adds them as the last components, in order. -/
theorem pathComponents_foldl_pathJoin (base : String) (ns : List String)
    (hns : ∀ n ∈ ns, isNormalName n = true) :
    pathComponents (ns.foldl pathJoin base) = pathComponents base ++ ns := by
  induction ns generalizing base with
  | nil => simp
  | cons n ns ih =>
    rw [List.foldl_cons, ih _ fun m hm => hns m (List.mem_cons_of_mem _ hm),
      pathComponents_pathJoin base (hns n List.mem_cons_self), List.append_assoc,
      List.singleton_append]

/-! ## The names of the layout -/

/-- A text of characters other than `/` and `.`, not empty, is a name. -/
theorem isNormalName_ofList {cs : List Char} (hne : cs ≠ [])
    (hcs : ∀ c ∈ cs, c ≠ '/' ∧ c ≠ '.') : isNormalName (String.ofList cs) = true := by
  rw [isNormalName_iff, String.toList_ofList]
  refine ⟨hne, fun h => (hcs '/' h).1 rfl, fun h => ?_, fun h => ?_⟩
  · have : cs = ['.'] := by simpa using congrArg String.toList h
    exact (hcs '.' (by simp [this])).2 rfl
  · have : cs = ['.', '.'] := by simpa using congrArg String.toList h
    exact (hcs '.' (by simp [this])).2 rfl

/-- Whether a character is a lowercase hexadecimal digit. -/
def isLowerHex (c : Char) : Bool := c.isDigit || ('a' ≤ c && c ≤ 'f')

theorem isLowerHex_hexDigit {n : Nat} (h : n < 16) : isLowerHex (Bytes.hexDigit n) = true := by
  match n, h with
  | 0, _ | 1, _ | 2, _ | 3, _ | 4, _ | 5, _ | 6, _ | 7, _ | 8, _ | 9, _ | 10, _ | 11, _
  | 12, _ | 13, _ | 14, _ | 15, _ => decide
  | _ + 16, h => exact absurd h (by omega)

theorem isLowerHex_hexChars {bs : Bytes} {c : Char} (h : c ∈ Bytes.hexChars bs) :
    isLowerHex c = true := by
  simp only [Bytes.hexChars, List.mem_flatMap, Bytes.byteDigits, List.mem_cons,
    List.not_mem_nil, or_false] at h
  obtain ⟨b, -, rfl | rfl⟩ := h
  · have hb : b.toNat < 256 := b.toNat_lt
    exact isLowerHex_hexDigit (by omega)
  · exact isLowerHex_hexDigit (Nat.mod_lt _ (by decide))

theorem ne_slash_dot_of_isLowerHex {c : Char} (h : isLowerHex c = true) : c ≠ '/' ∧ c ≠ '.' := by
  constructor <;> rintro rfl <;> revert h <;> decide

theorem ne_slash_dot_of_isDigit {c : Char} (h : c.isDigit = true) : c ≠ '/' ∧ c ≠ '.' := by
  constructor <;> rintro rfl <;> revert h <;> decide

namespace Layout

/-- A plain directory name is a name: it is not empty, has no `/`, and does not start with `.`. -/
theorem isNormalName_of_isPlainName {s : String} (h : isPlainName s = true) :
    isNormalName s = true := by
  simp only [isPlainName, Bool.and_eq_true, Bool.not_eq_true', List.any_eq_false,
    Bool.or_eq_true, decide_eq_true_eq, not_or] at h
  obtain ⟨⟨hne, hdot⟩, hchars⟩ := h
  rw [isNormalName_iff]
  refine ⟨fun e => by simp [String.toList_eq_nil_iff.mp e] at hne,
    fun hs => (hchars '/' hs).1.1 rfl, fun e => ?_, fun e => ?_⟩ <;>
  · subst e
    exact String.startsWith_string_eq_false_iff.mp hdot (by decide)

theorem toList_escaped (key : String) :
    ("_" ++ Bytes.hex (Bytes.ofString key)).toList = '_' :: Bytes.hexChars (Bytes.ofString key) := by
  simp [Bytes.hex]

/-- The namespace of every cache key is a name. -/
theorem isNormalName_namespaceDir (key : String) : isNormalName (namespaceDir key) = true := by
  unfold namespaceDir
  split
  · next h => exact isNormalName_of_isPlainName h
  · rw [← String.ofList_toList (s := "_" ++ _), toList_escaped]
    refine isNormalName_ofList (List.cons_ne_nil _ _) fun c hc => ?_
    rcases List.mem_cons.mp hc with rfl | hc
    · decide
    · exact ne_slash_dot_of_isLowerHex (isLowerHex_hexChars hc)

/-- The digest of an object is forty lowercase hexadecimal digits. -/
theorem digestHex_digits (id : ObjectId) :
    id.digestHex.length = 40 ∧ ∀ c ∈ id.digestHex.toList, isLowerHex c = true := by
  refine ⟨?_, fun c hc => isLowerHex_hexChars (by simpa [ObjectId.digestHex, Bytes.hex] using hc)⟩
  rw [ObjectId.digestHex, Bytes.hex, String.length_ofList, Bytes.length_hexChars,
    ObjectId.digest_length]

/-- Every name of an object's directory is a name. -/
theorem isNormalName_objectDir (id : ObjectId) : ∀ n ∈ objectDir id, isNormalName n = true := by
  obtain ⟨hlen, hhex⟩ := digestHex_digits id
  have hchars : ∀ c ∈ id.digestHex.toList, c ≠ '/' ∧ c ≠ '.' :=
    fun c hc => ne_slash_dot_of_isLowerHex (hhex c hc)
  have hlen' : id.digestHex.toList.length = 40 := String.length_toList.trans hlen
  intro n hn
  simp only [objectDir, List.mem_cons, List.not_mem_nil, or_false] at hn
  rcases hn with rfl | rfl | rfl | rfl
  · exact isNormalName_namespaceDir _
  · exact isNormalName_ofList (List.ne_nil_of_length_pos (by simp [hlen']))
      fun c hc => hchars c (List.mem_of_mem_take hc)
  · exact isNormalName_ofList (List.ne_nil_of_length_pos (by simp [hlen']))
      fun c hc => hchars c (List.mem_of_mem_drop (List.mem_of_mem_take hc))
  · exact isNormalName_ofList (List.ne_nil_of_length_pos (by omega)) hchars

theorem isNormalName_metadataFile : isNormalName metadataFile = true := by
  have h : metadataFile = String.ofList ['o', 'b', 'j', 'I', 'D'] := by decide
  rw [h]
  exact isNormalName_ofList (by simp) (by simp)

/-- A part's file name is a name: six or more decimal digits. -/
theorem isNormalName_partFileName (p : UInt32) : isNormalName (partFileName p) = true := by
  rw [partFileName, Decimal.padded]
  refine isNormalName_ofList ?_ fun c hc => ?_
  · have := Decimal.length_paddedDigits_ge 6 p.toNat
    exact List.ne_nil_of_length_pos (by omega)
  · simp only [Decimal.paddedDigits, List.mem_append, List.mem_replicate] at hc
    rcases hc with ⟨-, rfl⟩ | hc
    · decide
    · exact ne_slash_dot_of_isDigit (List.all_eq_true.mp (Decimal.digits_all_isDigit _) c hc)

end Layout

/-! ## Which objects share a directory -/

namespace Bytes

/-- A byte array lists its bytes in order. -/
theorem toList_loop (bs : ByteArray) (i : Nat) (r : List UInt8) :
    ByteArray.toList.loop bs i r = r.reverse ++ bs.data.toList.drop i := by
  fun_induction ByteArray.toList.loop bs i r with
  | case1 i r hi ih =>
    rw [ih, List.reverse_cons, List.append_assoc, List.singleton_append,
      List.drop_eq_getElem_cons (i := i) (l := bs.data.toList) (by simpa using hi)]
    congr
    simp [ByteArray.get!, getElem!_pos bs.data i hi]
  | case2 i r hi =>
    rw [List.drop_eq_nil_of_le (by simpa using hi), List.append_nil]

theorem ofString_injective : Function.Injective ofString := by
  intro s t h
  simp only [ofString, ByteArray.toList, toList_loop] at h
  exact String.toByteArray_inj.mp (ByteArray.ext (by simpa using h))

theorem hex_injective : Function.Injective hex := by
  intro a b h
  have := congrArg ofHex? h
  rwa [ofHex_hex, ofHex_hex, Option.some.injEq] at this

end Bytes

namespace Layout

/-- Key `k` is no plain directory name and `k'` is the name it is escaped to. -/
def EscapesTo (k k' : String) : Prop :=
  isPlainName k = false ∧ k' = "_" ++ Bytes.hex (Bytes.ofString k)

/-- An escaped key is a plain directory name. -/
theorem isPlainName_escaped (key : String) :
    isPlainName ("_" ++ Bytes.hex (Bytes.ofString key)) = true := by
  have hchars : ∀ c ∈ Bytes.hexChars (Bytes.ofString key), c ≠ '/' ∧ c ≠ '\\' ∧ c ≠ '\x00' := by
    intro c hc
    have h := isLowerHex_hexChars hc
    refine ⟨?_, ?_, ?_⟩ <;> rintro rfl <;> revert h <;> decide
  have hdot : ("_" ++ Bytes.hex (Bytes.ofString key)).startsWith "." = false := by
    rw [String.startsWith_string_eq_false_iff, toList_escaped]
    simp
  have hne : ("_" ++ Bytes.hex (Bytes.ofString key)).isEmpty = false := by
    rw [Bool.eq_false_iff, ne_eq, String.isEmpty_iff, ← String.toList_eq_nil_iff, toList_escaped]
    exact List.cons_ne_nil _ _
  simp only [isPlainName, toList_escaped, hdot, hne]
  simpa [List.any_eq_false, and_assoc] using hchars

/-- Two keys share a namespace exactly when they are equal, or one is no plain directory name
and the other is the name it is escaped to. -/
theorem namespaceDir_eq_iff (k k' : String) :
    namespaceDir k = namespaceDir k' ↔ k = k' ∨ EscapesTo k k' ∨ EscapesTo k' k := by
  have hinj : ∀ {a b : String}, "_" ++ Bytes.hex (Bytes.ofString a) =
      "_" ++ Bytes.hex (Bytes.ofString b) → a = b := by
    intro a b h
    have hl := congrArg String.toList h
    rw [toList_escaped, toList_escaped, List.cons.injEq] at hl
    exact Bytes.ofString_injective (Bytes.hex_injective (by simp [Bytes.hex, hl.2]))
  unfold namespaceDir
  constructor
  · intro h
    split at h <;> split at h
    · exact .inl h
    · next hk' => exact .inr (.inr ⟨by simpa using hk', h⟩)
    · next hk _ => exact .inr (.inl ⟨by simpa using hk, h.symm⟩)
    · exact .inl (hinj h)
  · rintro (rfl | ⟨hk, rfl⟩ | ⟨hk', rfl⟩)
    · rfl
    · simp [hk, isPlainName_escaped]
    · simp [hk', isPlainName_escaped]

/-- Two objects have one directory name list exactly when their namespaces and digests agree. -/
theorem objectDir_eq_iff (a b : ObjectId) :
    objectDir a = objectDir b ↔
      namespaceDir a.cacheKey = namespaceDir b.cacheKey ∧ a.digest = b.digest := by
  simp only [objectDir, List.cons.injEq, and_true]
  constructor
  · rintro ⟨hns, -, -, hd⟩
    exact ⟨hns, Bytes.hex_injective (by simpa [ObjectId.digestHex] using hd)⟩
  · rintro ⟨hns, hd⟩
    have hhex : a.digestHex = b.digestHex := by simp [ObjectId.digestHex, hd]
    simp [hns, hhex]

theorem objectDirIn_components (root : String) (id : ObjectId) :
    pathComponents (objectDirIn root id) = pathComponents root ++ objectDir id :=
  pathComponents_foldl_pathJoin root _ (isNormalName_objectDir id)

theorem metadataPathIn_components (root : String) (id : ObjectId) :
    pathComponents (metadataPathIn root id) = pathComponents (objectDirIn root id) ++ [metadataFile] :=
  pathComponents_pathJoin _ isNormalName_metadataFile

theorem partPathIn_components (root : String) (i : PartIndex) :
    pathComponents (partPathIn root i) =
      pathComponents (objectDirIn root i.object) ++ [partFileName i.part] :=
  pathComponents_pathJoin _ (isNormalName_partFileName i.part)

/-- Below one root, two objects have one directory exactly when their lists of names agree. -/
theorem objectDirIn_eq_iff (root : String) (a b : ObjectId) :
    objectDirIn root a = objectDirIn root b ↔ objectDir a = objectDir b := by
  constructor
  · intro h
    have hc := congrArg pathComponents h
    rw [objectDirIn_components, objectDirIn_components] at hc
    exact List.append_cancel_left hc
  · intro h
    simp [objectDirIn, h]

/-- Every object's directory is the zone root followed by exactly four components: the namespace
of its cache key (the key itself when it is a plain directory name, otherwise `_` and the
lowercase hexadecimal of the key's bytes), the first two and the next two digits of its digest,
and the whole digest, forty lowercase hexadecimal digits.  None of the four is `/`, `.` or `..`,
so the directory lies below the root whatever the key and path; the metadata file and each part
file add one more such component. -/
theorem objectDirIn_below_root (root : String) (id : ObjectId) :
    pathComponents (objectDirIn root id) =
        pathComponents root ++ [namespaceDir id.cacheKey,
          String.ofList (id.digestHex.toList.take 2),
          String.ofList ((id.digestHex.toList.drop 2).take 2), id.digestHex] ∧
      pathComponents root <+: pathComponents (objectDirIn root id) ∧
      (∀ n ∈ objectDir id, isNormalName n = true) ∧
      id.digestHex.length = 40 ∧ (∀ c ∈ id.digestHex.toList, isLowerHex c = true) ∧
      pathComponents (metadataPathIn root id) =
        pathComponents (objectDirIn root id) ++ [metadataFile] ∧
      isNormalName metadataFile = true ∧
      ∀ p, pathComponents (partPathIn root ⟨id, p⟩) =
          pathComponents (objectDirIn root id) ++ [partFileName p] ∧
        isNormalName (partFileName p) = true := by
  have hdir := objectDirIn_components root id
  refine ⟨by rw [hdir, objectDir, String.ofList_toList], by rw [hdir]; exact List.prefix_append _ _,
    isNormalName_objectDir id, (digestHex_digits id).1, (digestHex_digits id).2,
    metadataPathIn_components root id, isNormalName_metadataFile,
    fun p => ⟨partPathIn_components root ⟨id, p⟩, isNormalName_partFileName p⟩⟩

/-- Two objects share a directory below a root exactly when their digests agree and their cache
keys are equal, or one key is no plain directory name and the other is the name it is escaped to.
So do their metadata files, and two part files are one when moreover their numbers agree.  Two
objects of one key and different paths thus share a directory only when SHA-1 takes their key and
path to one digest. -/
theorem shared_directory_iff (root : String) (a b : ObjectId) :
    (objectDirIn root a = objectDirIn root b ↔ a.digest = b.digest ∧
        (a.cacheKey = b.cacheKey ∨ EscapesTo a.cacheKey b.cacheKey ∨
          EscapesTo b.cacheKey a.cacheKey)) ∧
      (metadataPathIn root a = metadataPathIn root b ↔ objectDirIn root a = objectDirIn root b) ∧
      ∀ p q, partPathIn root ⟨a, p⟩ = partPathIn root ⟨b, q⟩ ↔
        objectDirIn root a = objectDirIn root b ∧ p = q := by
  refine ⟨by rw [objectDirIn_eq_iff, objectDir_eq_iff, namespaceDir_eq_iff, and_comm], ?_,
    fun p q => ?_⟩
  · -- the metadata file adds one name to the directory
    constructor
    · intro h
      have hc := congrArg pathComponents h
      rw [metadataPathIn_components, metadataPathIn_components, objectDirIn_components,
        objectDirIn_components] at hc
      rw [objectDirIn_eq_iff]
      exact List.append_cancel_left (List.append_cancel_right hc)
    · intro h
      rw [metadataPathIn, metadataPathIn, h]
  · -- a part file adds its number's name, and different numbers have different names
    constructor
    · intro h
      have hc := congrArg pathComponents h
      rw [partPathIn_components, partPathIn_components, objectDirIn_components,
        objectDirIn_components, List.append_assoc, List.append_assoc] at hc
      have hl := List.append_inj (List.append_cancel_left hc) (by simp [length_objectDir])
      exact ⟨(objectDirIn_eq_iff root a b).mpr hl.1,
        partFileName_injective (List.singleton_inj.mp hl.2)⟩
    · rintro ⟨h, rfl⟩
      simp only [partPathIn, h]

theorem ofString_empty : Bytes.ofString "" = [] := by
  simp [Bytes.ofString, ByteArray.toList, Bytes.toList_loop]

/-- The empty key is escaped to `_`, the key `_` is its own namespace, and both objects hash the
text `_`: they have one directory. -/
theorem objectDir_empty_key : objectDir ⟨"", "_"⟩ = objectDir ⟨"_", ""⟩ := by
  rw [objectDir_eq_iff, namespaceDir_eq_iff]
  refine ⟨.inr (.inl ⟨by decide, by simp [ofString_empty, Bytes.hex, Bytes.hexChars]⟩), ?_⟩
  simp [ObjectId.digest, ofString_empty]

/-- The empty key is escaped to `_`, itself a plain directory name: the object with the empty key
and path `_` and the object with key `_` and the empty path have one digest, that of the text
`_`, and share a directory, and with it their metadata file. -/
theorem empty_key_shares_directory :
    (⟨"", "_"⟩ : ObjectId) ≠ ⟨"_", ""⟩ ∧
      objectDirIn "/cache" ⟨"", "_"⟩ = objectDirIn "/cache" ⟨"_", ""⟩ ∧
      metadataPathIn "/cache" ⟨"", "_"⟩ = metadataPathIn "/cache" ⟨"_", ""⟩ := by
  have hin := (objectDirIn_eq_iff "/cache" _ _).mpr objectDir_empty_key
  exact ⟨by decide, hin, by rw [metadataPathIn, metadataPathIn, hin]⟩

end Layout

end PartCache
