/-
  C strings: NUL-terminated bytes, the C-locale character classes and bounded formatting.

  ISO C fixes everything here except the locale, which is taken to be the "C" locale: only the
  ASCII letters and digits are alphanumeric and `toupper` moves only `a`..`z`.

  1. **Data** — a `CString` is the text a `const char *` points at, WITHOUT its terminating NUL;
     that no byte of it is NUL is a field, so `strlen` is the length of the list and an index up to
     and including it reads inside the array (`charAt` at the length is the NUL itself).  A `char`
     ARRAY is a plain list of bytes; `CString.read` is the text such an array holds, its bytes
     before the first NUL.

  2. **Functions** — `strlen`, `strcmp`, `strncmp`, the character classes, and what `snprintf`
     prints with `%u` and `%03X` (`decimal`, `hex03`).

  3. **What users need of them** — `strcmp` compares whole strings (`CString.strcmp_eq_zero_iff`),
     a byte class is decided byte by byte (`forall_byte`), an array that begins with a string and a
     NUL reads as that string (`read_append_nul`), and `snprintf_fits` says when an array holds the
     whole text after a formatted write.
-/
import Mathlib.Algebra.Group.Nat.Defs
import Mathlib.Data.List.TakeWhile

namespace CLib

/-! ## Strings and the arrays that hold them -/

/-- The text behind a non-NULL `const char *`, without the terminating NUL. -/
structure CString where
  bytes : List UInt8
  nul_free : (0 : UInt8) ∉ bytes
  deriving DecidableEq

namespace CString

/-- The bytes are all there is to a C string. -/
theorem ext {s t : CString} (h : s.bytes = t.bytes) : s = t := by
  cases s; cases t; cases h; rfl

/-- `strlen(s)`. -/
def strlen (s : CString) : Nat := s.bytes.length

/-- `s[i]`; the terminating NUL at `i = strlen(s)`. -/
def charAt (s : CString) (i : Nat) : UInt8 := s.bytes.getD i 0

/-- Before the end the characters are the bytes. -/
theorem charAt_of_lt (s : CString) {i : Nat} (h : i < s.strlen) : s.charAt i = s.bytes.get ⟨i, h⟩ := by
  rw [charAt, List.getD_eq_getElem?_getD, List.getElem?_eq_getElem h]; rfl

/-- No character before the end is NUL. -/
theorem charAt_ne_zero (s : CString) {i : Nat} (h : i < s.strlen) : s.charAt i ≠ 0 := by
  rw [charAt_of_lt s h]
  intro h0
  exact s.nul_free (h0 ▸ List.getElem_mem h)

/-- The character at the end is NUL. -/
theorem charAt_strlen (s : CString) : s.charAt s.strlen = 0 := by
  rw [charAt, strlen, List.getD_eq_getElem?_getD, List.getElem?_eq_none (Nat.le_refl _)]; rfl

/-- Reading a text index by index up to its length. -/
theorem map_charAt_range (s : CString) : (List.range s.strlen).map s.charAt = s.bytes := by
  apply List.ext_getElem
  · rw [List.length_map, List.length_range]
    rfl
  · intro i h1 h2
    rw [List.getElem_map, List.getElem_range]
    exact s.charAt_of_lt h2

/-- The text held by a `char` array: its bytes before the first NUL. -/
def read (array : List UInt8) : CString where
  bytes := array.takeWhile (· ≠ 0)
  nul_free := fun h => by simpa using List.mem_takeWhile_imp h

/-- Reading memory stops at the first NUL, whatever follows. -/
@[simp] theorem read_append_nul (s : CString) (rest : List UInt8) :
    read (s.bytes ++ 0 :: rest) = s := by
  apply ext
  have hs : s.bytes.takeWhile (· ≠ 0) = s.bytes :=
    List.takeWhile_eq_self_iff.mpr fun b hb => by
      simpa using fun h0 : b = 0 => s.nul_free (h0 ▸ hb)
  show (s.bytes ++ 0 :: rest).takeWhile (· ≠ 0) = s.bytes
  rw [List.takeWhile_append, hs]
  simp

/-- An array whose first byte is NUL reads as the empty text. -/
theorem read_cons_nul (rest : List UInt8) : (read (0 :: rest)).bytes = [] := by
  simp [read]

end CString

/-- The UTF-8 bytes of a literal, as the compiler stores them. -/
def utf8 (s : String) : List UInt8 := s.toUTF8.data.toList

/-- UTF-8 tells texts apart. -/
theorem utf8_inj {s t : String} (h : utf8 s = utf8 t) : s = t := by
  apply String.toByteArray_inj.mp
  cases hs : s.toByteArray
  cases ht : t.toByteArray
  simp_all [utf8]

/-! ## The C locale -/

/-- A character constant. -/
abbrev ch (c : Char) : UInt8 := c.toUInt8

/-- `isdigit` of the C locale. -/
def isdigit (c : UInt8) : Bool := ch '0' ≤ c && c ≤ ch '9'

/-- `isupper` of the C locale. -/
def isupper (c : UInt8) : Bool := ch 'A' ≤ c && c ≤ ch 'Z'

/-- `islower` of the C locale. -/
def islower (c : UInt8) : Bool := ch 'a' ≤ c && c ≤ ch 'z'

/-- `isalnum` of the C locale. -/
def isalnum (c : UInt8) : Bool := isdigit c || isupper c || islower c

/-- `isxdigit` of the C locale. -/
def isxdigit (c : UInt8) : Bool :=
  isdigit c || (ch 'A' ≤ c && c ≤ ch 'F') || (ch 'a' ≤ c && c ≤ ch 'f')

/-- `toupper` of the C locale: bytes above 127 stay. -/
def toupper (c : UInt8) : UInt8 := if islower c then c - 32 else c

/-- Every byte is one of the 256 values. -/
theorem forall_byte {p : UInt8 → Prop} (h : ∀ n : Fin 256, p (UInt8.ofNat n)) (c : UInt8) : p c := by
  have := h ⟨c.toNat, c.toNat_lt⟩
  simpa using this

/-- Upper-casing never leaves a lower-case letter behind. -/
theorem isalnum_toupper (c : UInt8) :
    isalnum (toupper c) = (isdigit (toupper c) || isupper (toupper c)) :=
  forall_byte (p := fun c => isalnum (toupper c) = (isdigit (toupper c) || isupper (toupper c)))
    (by decide +kernel) c

/-- Digits and capitals stay as well. -/
theorem toupper_of_isdigit_or_isupper {c : UInt8} (h : isdigit c = true ∨ isupper c = true) :
    toupper c = c :=
  forall_byte (p := fun c => isdigit c = true ∨ isupper c = true → toupper c = c)
    (by decide +kernel) c h

/-! ## Comparison -/

/-- `strcmp`: the difference of the first differing bytes, the shorter text ending in NUL. -/
def strcmp : List UInt8 → List UInt8 → Int
  | [], [] => 0
  | [], b :: _ => -(b.toNat : Int)
  | a :: _, [] => a.toNat
  | a :: as, b :: bs => if a = b then strcmp as bs else (a.toNat : Int) - b.toNat

/-- `strncmp`: `strcmp` on the first `n` bytes of each text. -/
def strncmp (s t : List UInt8) (n : Nat) : Int := strcmp (s.take n) (t.take n)

/-- On NUL-free texts `strcmp` is zero exactly on equal texts. -/
theorem strcmp_eq_zero : ∀ {s t : List UInt8}, (0 : UInt8) ∉ s → (0 : UInt8) ∉ t →
    (strcmp s t = 0 ↔ s = t)
  | [], [], _, _ => by simp [strcmp]
  | [], b :: t, _, ht => by
      have hb : b ≠ 0 := fun h => ht (h ▸ List.mem_cons_self)
      have : b.toNat ≠ 0 := fun h => hb (UInt8.toNat_inj.mp h)
      simp [strcmp]; omega
  | a :: s, [], hs, _ => by
      have ha : a ≠ 0 := fun h => hs (h ▸ List.mem_cons_self)
      have : a.toNat ≠ 0 := fun h => ha (UInt8.toNat_inj.mp h)
      simp [strcmp]; omega
  | a :: s, b :: t, hs, ht => by
      have ih := strcmp_eq_zero (s := s) (t := t) (fun h => hs (List.mem_cons_of_mem _ h))
        (fun h => ht (List.mem_cons_of_mem _ h))
      by_cases hab : a = b
      · subst hab; simpa [strcmp] using ih
      · have : a.toNat ≠ b.toNat := fun h => hab (UInt8.toNat_inj.mp h)
        simp [strcmp, hab]; omega

/-- `strcmp` compares whole strings. -/
theorem CString.strcmp_eq_zero_iff (s t : CString) : strcmp s.bytes t.bytes = 0 ↔ s = t := by
  rw [strcmp_eq_zero s.nul_free t.nul_free]
  exact ⟨CString.ext, fun h => h ▸ rfl⟩

/-! ## Bounded formatting -/

/-- The digits `%u` prints. -/
def decimal (n : Nat) : List UInt8 := (Nat.toDigits 10 n).map ch

/-- The digits of a number are `0` to `9`. -/
theorem toNat_of_mem_toDigits {n : Nat} {c : Char} (h : c ∈ Nat.toDigits 10 n) :
    48 ≤ c.toNat ∧ c.toNat ≤ 57 := by
  have hdigit : c.isDigit = true := Nat.isDigit_of_mem_toDigits (by decide) (by decide) h
  simp only [Char.isDigit, Bool.and_eq_true, decide_eq_true_eq] at hdigit
  exact ⟨hdigit.1, hdigit.2⟩

/-- A small character is its own byte. -/
theorem toNat_ch {c : Char} (h : c.toNat < 256) : (ch c).toNat = c.toNat := by
  show (c.val.toUInt8).toNat = c.val.toNat
  rw [UInt32.toNat_toUInt8]
  exact Nat.mod_eq_of_lt h

/-- `%u` prints digits only. -/
theorem isdigit_of_mem_decimal {n : Nat} {b : UInt8} (h : b ∈ decimal n) : isdigit b = true := by
  obtain ⟨c, hc, rfl⟩ := List.mem_map.mp h
  have hrange := toNat_of_mem_toDigits hc
  rw [isdigit, Bool.and_eq_true, decide_eq_true_eq, decide_eq_true_eq, UInt8.le_iff_toNat_le,
    UInt8.le_iff_toNat_le, toNat_ch (by omega : c.toNat < 256)]
  exact hrange

/-- The digits of a number hold no NUL. -/
theorem decimal_nul_free (n : Nat) : (0 : UInt8) ∉ decimal n :=
  fun h => absurd (isdigit_of_mem_decimal h) (by decide)

/-- The digits of a number determine it. -/
theorem decimal_inj {m n : Nat} (h : decimal m = decimal n) : m = n := by
  -- a digit is read back from its byte
  have hback : ∀ k, (decimal k).map (fun b => Char.ofNat b.toNat) = Nat.toDigits 10 k := by
    intro k
    rw [decimal, List.map_map]
    refine (List.map_congr_left fun c hc => ?_).trans (List.map_id _)
    have hrange := toNat_of_mem_toDigits hc
    show Char.ofNat (ch c).toNat = c
    rw [toNat_ch (by omega : c.toNat < 256), Char.ofNat_toNat]
  have hdigits : Nat.toDigits 10 m = Nat.toDigits 10 n := by rw [← hback, ← hback, h]
  rw [← Nat.ofDigitChars_ten_toDigits (n := m), hdigits, Nat.ofDigitChars_ten_toDigits]

/-- A literal without a NUL is read whole. -/
theorem read_utf8 {t : String} (h : (0 : UInt8) ∉ utf8 t) : (CString.read (utf8 t)).bytes = utf8 t :=
  List.takeWhile_eq_self_iff.mpr fun b hb => by simpa using fun h0 : b = 0 => h (h0 ▸ hb)

/-- Bytes that spell a text are decoded to that text. -/
theorem fromUTF8?_utf8 {bytes : List UInt8} {t : String} (h : bytes = utf8 t) :
    String.fromUTF8? ⟨bytes.toArray⟩ = some t := by
  have harray : (⟨bytes.toArray⟩ : ByteArray) = t.toByteArray := by
    rw [h]
    simp [utf8]
  rw [harray, String.fromUTF8?, dif_pos t.isValidUTF8]
  rfl

/-- UTF-8 of a concatenation is that of its parts. -/
theorem utf8_append (s t : String) : utf8 (s ++ t) = utf8 s ++ utf8 t := by
  simp [utf8]

/-- ASCII text is stored a byte a character. -/
theorem utf8_ofList_ascii {cs : List Char} (h : ∀ c ∈ cs, c.toNat < 128) :
    utf8 (String.ofList cs) = cs.map ch := by
  have hflat : cs.flatMap String.utf8EncodeChar = cs.map ch := by
    induction cs with
    | nil => rfl
    | cons c cs ih =>
      have hc : c.val.toNat ≤ 127 := Nat.le_of_lt_succ (h c List.mem_cons_self)
      have hsize : c.utf8Size = 1 := Char.utf8Size_eq_one_iff.mpr (UInt32.le_iff_toNat_le.mpr hc)
      rw [List.flatMap_cons, String.utf8EncodeChar_eq_singleton hsize,
        ih fun d hd => h d (List.mem_cons_of_mem c hd)]
      rfl
  show (String.ofList cs).toByteArray.data.toList = _
  rw [String.toByteArray_ofList, List.utf8Encode, hflat]
  simp

/-- A number is the same text in both languages. -/
theorem utf8_toString (n : Nat) : utf8 (toString n) = decimal n := by
  rw [Nat.toString_eq_ofList_toDigits]
  refine utf8_ofList_ascii fun c hc => ?_
  have hrange := toNat_of_mem_toDigits hc
  omega

/-- A number below `10 ^ k` takes at most `k` digits. -/
theorem length_decimal_le {n k : Nat} (hk : 0 < k) (h : n < 10 ^ k) : (decimal n).length ≤ k := by
  rw [decimal, List.length_map]
  exact (Nat.length_toDigits_le_iff (by decide) hk).mpr h

/-- What `%03X` prints: at least three hexadecimal digits. -/
def hex03 (n : Nat) : List UInt8 :=
  let digits := (Nat.toDigits 16 n).map fun c => ch c.toUpper
  List.replicate (3 - digits.length) (ch '0') ++ digits

/-- One hexadecimal digit. -/
def hexDigit (d : Nat) : UInt8 := ch (Nat.digitChar d).toUpper

/-- Up to three hexadecimal digits, `%03X` prints exactly three. -/
theorem hex03_eq {n : Nat} (h : n < 4096) :
    hex03 n = [hexDigit (n / 256), hexDigit (n / 16 % 16), hexDigit (n % 16)] := by
  have hdiv : n / 16 / 16 = n / 256 := Nat.div_div_eq_div_mul n 16 16
  unfold hex03
  by_cases hone : n < 16
  · rw [Nat.toDigits_of_lt_base hone, show n / 256 = 0 by omega, show n / 16 % 16 = 0 by omega,
      Nat.mod_eq_of_lt hone]
    rfl
  rw [Nat.toDigits_of_base_le (by decide) (by omega)]
  by_cases htwo : n < 256
  · rw [Nat.toDigits_of_lt_base (show n / 16 < 16 by omega), show n / 256 = 0 by omega,
      Nat.mod_eq_of_lt (show n / 16 < 16 by omega)]
    rfl
  rw [Nat.toDigits_of_base_le (by decide) (by omega), hdiv,
    Nat.toDigits_of_lt_base (show n / 256 < 16 by omega)]
  rfl

/-- `snprintf(buffer, capacity, ...)` with the formatted text `text`: the number of bytes the full
    text needs, and the buffer afterwards (at most `capacity - 1` bytes of it, then a NUL; the
    bytes behind the NUL are not touched).  Capacity 0 writes nothing. -/
def snprintf (buffer : List UInt8) (capacity : Nat) (text : List UInt8) : Int × List UInt8 :=
  (text.length,
    if capacity = 0 then buffer
    else
      let written := text.take (capacity - 1)
      written ++ 0 :: buffer.drop (written.length + 1))

/-- A text shorter than the capacity is stored whole and NUL-terminated. -/
theorem snprintf_fits {buffer text : List UInt8} {capacity : Nat} (h : text.length < capacity) :
    (snprintf buffer capacity text).2 = text ++ 0 :: buffer.drop (text.length + 1) := by
  have htake : text.take (capacity - 1) = text := List.take_of_length_le (by omega)
  rw [snprintf]
  simp only [htake, if_neg (show ¬capacity = 0 by omega)]

/-- What lies behind the capacity is not touched. -/
theorem drop_snprintf {buffer text : List UInt8} {capacity : Nat} :
    (snprintf buffer capacity text).2.drop capacity = buffer.drop capacity := by
  unfold snprintf
  split
  · rfl
  · have hwritten : (text.take (capacity - 1)).length ≤ capacity - 1 := List.length_take_le ..
    rw [List.drop_append, List.drop_eq_nil_of_le (by omega), List.nil_append]
    obtain ⟨k, hk⟩ : ∃ k, capacity - (text.take (capacity - 1)).length = k + 1 :=
      ⟨capacity - (text.take (capacity - 1)).length - 1, by omega⟩
    rw [hk, List.drop_succ_cons, List.drop_drop]
    congr 1
    omega

end CLib
