/-
SpecStyle/Lib/Utf8.lean

The encodings the JSON reader of the source language tells apart: UTF-8,
UTF-16 and UTF-32, each decoded with the `surrogatepass` handler, and the
strict UTF-8 encoder, which refuses a lone surrogate.

Main results: `decodeUtf8_flatMap`, the decoder inverts the character-wise
encoder on every text, surrogates included; `encodeUtf8_eq_none_iff`, the
strict encoder fails exactly on a text that holds a surrogate; and
`mem_utf8Char_ascii`, an ASCII octet in an encoded character is that
character, which is what a reader that splits bytes at line ends rests on.
-/
import SpecStyle.Lib.Text
import Mathlib.Tactic.NormNum

namespace PyLib

/-- The octet of a number, reduced modulo 256. -/
def byte (n : Nat) : Byte := ⟨n % 256, Nat.mod_lt _ (by decide)⟩

@[simp] theorem byte_val (n : Nat) : (byte n).val = n % 256 := rfl

/-- The code point of a number, reduced modulo the code space. -/
def codePoint (n : Nat) : CodePoint := ⟨n % 0x110000, Nat.mod_lt _ (Nat.zero_lt_succ _)⟩

@[simp] theorem codePoint_val (n : Nat) : (codePoint n).val = n % 0x110000 := rfl

@[simp] theorem codePoint_self (c : CodePoint) : codePoint c.val = c :=
  Fin.ext (Nat.mod_eq_of_lt c.isLt)

/-! ### Encoding -/

/-- The UTF-8 octets of one code point, with surrogates encoded like any
other three-octet character. -/
def utf8Char (c : CodePoint) : Bytes :=
  let n := c.val
  if n < 0x80 then [byte n]
  else if n < 0x800 then [byte (0xC0 + n / 64), byte (0x80 + n % 64)]
  else if n < 0x10000 then
    [byte (0xE0 + n / 4096), byte (0x80 + n / 64 % 64), byte (0x80 + n % 64)]
  else
    [byte (0xF0 + n / 262144), byte (0x80 + n / 4096 % 64),
      byte (0x80 + n / 64 % 64), byte (0x80 + n % 64)]

/-- `str.encode()`: strict UTF-8.  `none` is `UnicodeEncodeError`. -/
def encodeUtf8 (s : Text) : Option Bytes :=
  if hasSurrogate s then none else some (s.flatMap utf8Char)

/-! ### Decoding -/

/-- A continuation octet. -/
def isTail (b : Byte) : Bool := 0x80 ≤ b.val && b.val ≤ 0xBF

/-- The payload of a continuation octet. -/
def tailBits (b : Byte) : Nat := b.val - 0x80

/-- `bytes.decode("utf-8", "surrogatepass")`.  `none` is
`UnicodeDecodeError`. -/
def decodeUtf8 : Bytes → Option Text
  | [] => some []
  | a :: as =>
    if a.val < 0x80 then (decodeUtf8 as).map (codePoint a.val :: ·)
    else if 0xC2 ≤ a.val && a.val ≤ 0xDF then
      match as with
      | b :: bs =>
        if isTail b then
          (decodeUtf8 bs).map (codePoint ((a.val - 0xC0) * 64 + tailBits b) :: ·)
        else none
      | [] => none
    else if 0xE0 ≤ a.val && a.val ≤ 0xEF then
      match as with
      | b :: c :: cs =>
        let n := (a.val - 0xE0) * 4096 + tailBits b * 64 + tailBits c
        if isTail b && isTail c && 0x800 ≤ n then
          (decodeUtf8 cs).map (codePoint n :: ·)
        else none
      | _ => none
    else if 0xF0 ≤ a.val && a.val ≤ 0xF4 then
      match as with
      | b :: c :: d :: ds =>
        let n := (a.val - 0xF0) * 262144 + tailBits b * 4096 + tailBits c * 64 + tailBits d
        if isTail b && isTail c && isTail d && 0x10000 ≤ n && n < 0x110000 then
          (decodeUtf8 ds).map (codePoint n :: ·)
        else none
      | _ => none
    else none

/-- Joins the halves of surrogate pairs; an unpaired half stays. -/
def joinPairs : Text → Text
  | [] => []
  | [c] => [c]
  | h :: l :: rest =>
    if isHighSurrogate h && isLowSurrogate l then
      codePoint (0x10000 + (h.val - 0xD800) * 1024 + (l.val - 0xDC00)) :: joinPairs rest
    else h :: joinPairs (l :: rest)

/-- The sixteen-bit units of a byte string, little- or big-endian. -/
def units16 (little : Bool) : Bytes → Option Text
  | [] => some []
  | [_] => none
  | a :: b :: rest =>
    (units16 little rest).map
      (codePoint (if little then b.val * 256 + a.val else a.val * 256 + b.val) :: ·)

/-- `bytes.decode("utf-16-le" / "utf-16-be", "surrogatepass")`. -/
def decodeUtf16 (little : Bool) (bs : Bytes) : Option Text :=
  (units16 little bs).map joinPairs

/-- `bytes.decode("utf-32-le" / "utf-32-be", "surrogatepass")`. -/
def decodeUtf32 (little : Bool) : Bytes → Option Text
  | [] => some []
  | a :: b :: c :: d :: rest =>
    let n :=
      if little then ((d.val * 256 + c.val) * 256 + b.val) * 256 + a.val
      else ((a.val * 256 + b.val) * 256 + c.val) * 256 + d.val
    if n < 0x110000 then (decodeUtf32 little rest).map (codePoint n :: ·) else none
  | _ => none

/-- `b.startswith(...)` on octet values. -/
def startsWith (bs : Bytes) (mark : List Nat) : Bool := mark.isPrefixOf (bs.map (·.val))

/-- `bytes.decode(json.detect_encoding(b), "surrogatepass")`. -/
def decodeDetected (bs : Bytes) : Option Text :=
  if startsWith bs [0x00, 0x00, 0xFE, 0xFF] then decodeUtf32 false (bs.drop 4)
  else if startsWith bs [0xFF, 0xFE, 0x00, 0x00] then decodeUtf32 true (bs.drop 4)
  else if startsWith bs [0xFE, 0xFF] then decodeUtf16 false (bs.drop 2)
  else if startsWith bs [0xFF, 0xFE] then decodeUtf16 true (bs.drop 2)
  else if startsWith bs [0xEF, 0xBB, 0xBF] then decodeUtf8 (bs.drop 3)
  else
    match bs with
    | a :: b :: c :: d :: _ =>
      if a.val = 0 then
        if b.val = 0 then decodeUtf32 false bs else decodeUtf16 false bs
      else if b.val = 0 then
        if c.val = 0 ∧ d.val = 0 then decodeUtf32 true bs else decodeUtf16 true bs
      else decodeUtf8 bs
    | [a, b] =>
      if a.val = 0 then decodeUtf16 false bs
      else if b.val = 0 then decodeUtf16 true bs
      else decodeUtf8 bs
    | _ => decodeUtf8 bs

/-! ### The UTF-8 round trip -/

theorem decodeUtf8_one {a : Byte} (as : Bytes) (h : a.val < 0x80) :
    decodeUtf8 (a :: as) = (decodeUtf8 as).map (codePoint a.val :: ·) := by
  rw [decodeUtf8.eq_def]
  simp only [h, if_true]

theorem decodeUtf8_two {a b : Byte} (bs : Bytes) (h1 : 0xC2 ≤ a.val) (h2 : a.val ≤ 0xDF)
    (hb : isTail b = true) :
    decodeUtf8 (a :: b :: bs)
      = (decodeUtf8 bs).map (codePoint ((a.val - 0xC0) * 64 + tailBits b) :: ·) := by
  rw [decodeUtf8.eq_def]
  simp only [show ¬ a.val < 0x80 by omega, h1, h2, hb, if_true, if_false, decide_true,
    Bool.and_self]

theorem decodeUtf8_three {a b c : Byte} (cs : Bytes) (h1 : 0xE0 ≤ a.val) (h2 : a.val ≤ 0xEF)
    (hb : isTail b = true) (hc : isTail c = true)
    (hn : 0x800 ≤ (a.val - 0xE0) * 4096 + tailBits b * 64 + tailBits c) :
    decodeUtf8 (a :: b :: c :: cs)
      = (decodeUtf8 cs).map
          (codePoint ((a.val - 0xE0) * 4096 + tailBits b * 64 + tailBits c) :: ·) := by
  rw [decodeUtf8.eq_def]
  simp only [show ¬ a.val < 0x80 by omega, show ¬ a.val ≤ 0xDF by omega, h1, h2, hb, hc, hn,
    if_true, if_false, decide_true, decide_false, Bool.and_self, Bool.and_false,
    Bool.false_eq_true]

theorem decodeUtf8_four {a b c d : Byte} (ds : Bytes) (h1 : 0xF0 ≤ a.val) (h2 : a.val ≤ 0xF4)
    (hb : isTail b = true) (hc : isTail c = true) (hd : isTail d = true)
    (hn : 0x10000 ≤ (a.val - 0xF0) * 262144 + tailBits b * 4096 + tailBits c * 64 + tailBits d)
    (hn' : (a.val - 0xF0) * 262144 + tailBits b * 4096 + tailBits c * 64 + tailBits d
      < 0x110000) :
    decodeUtf8 (a :: b :: c :: d :: ds)
      = (decodeUtf8 ds).map (codePoint ((a.val - 0xF0) * 262144 + tailBits b * 4096
          + tailBits c * 64 + tailBits d) :: ·) := by
  rw [decodeUtf8.eq_def]
  simp only [show ¬ a.val < 0x80 by omega, show ¬ a.val ≤ 0xDF by omega,
    show ¬ a.val ≤ 0xEF by omega, h1, h2, hb, hc, hd, hn, hn', if_true, if_false, decide_true,
    decide_false, Bool.and_self, Bool.and_false, Bool.false_eq_true]

theorem isTail_iff {b : Byte} : isTail b = true ↔ 0x80 ≤ b.val ∧ b.val ≤ 0xBF := by
  simp [isTail]

theorem isTail_byte (n : Nat) : isTail (byte (0x80 + n % 64)) = true := by
  have h := byte_val (0x80 + n % 64)
  exact isTail_iff.mpr (by omega)

theorem tailBits_byte (n : Nat) : tailBits (byte (0x80 + n % 64)) = n % 64 := by
  have h := byte_val (0x80 + n % 64)
  unfold tailBits
  omega

/-- The decoder reads one encoded character back, whatever follows it. -/
theorem decodeUtf8_utf8Char (c : CodePoint) (bs : Bytes) :
    decodeUtf8 (utf8Char c ++ bs) = (decodeUtf8 bs).map (c :: ·) := by
  have hc : c.val < 0x110000 := c.isLt
  by_cases h1 : c.val < 0x80
  · -- one octet
    have ha : (byte c.val).val = c.val := by simp only [byte_val]; omega
    simp only [utf8Char, h1, if_true, List.cons_append, List.nil_append]
    rw [decodeUtf8_one bs (by rw [ha]; exact h1), ha, codePoint_self]
  by_cases h2 : c.val < 0x800
  · -- two octets
    have ha : (byte (0xC0 + c.val / 64)).val = 0xC0 + c.val / 64 := by
      simp only [byte_val]; omega
    have hn : (0xC0 + c.val / 64 - 0xC0) * 64 + c.val % 64 = c.val := by omega
    simp only [utf8Char, h1, h2, if_true, if_false, List.cons_append, List.nil_append]
    rw [decodeUtf8_two bs (by rw [ha]; omega) (by rw [ha]; omega) (isTail_byte _), ha,
      tailBits_byte, hn, codePoint_self]
  by_cases h3 : c.val < 0x10000
  · -- three octets, surrogates included
    have ha : (byte (0xE0 + c.val / 4096)).val = 0xE0 + c.val / 4096 := by
      simp only [byte_val]; omega
    have hn : (0xE0 + c.val / 4096 - 0xE0) * 4096 + c.val / 64 % 64 * 64 + c.val % 64
        = c.val := by omega
    simp only [utf8Char, h1, h2, h3, if_true, if_false, List.cons_append, List.nil_append]
    rw [decodeUtf8_three bs (by rw [ha]; omega) (by rw [ha]; omega) (isTail_byte _)
      (isTail_byte _) (by rw [ha, tailBits_byte, tailBits_byte, hn]; omega), ha,
      tailBits_byte, tailBits_byte, hn, codePoint_self]
  · -- four octets
    have ha : (byte (0xF0 + c.val / 262144)).val = 0xF0 + c.val / 262144 := by
      simp only [byte_val]; omega
    have hn : (0xF0 + c.val / 262144 - 0xF0) * 262144 + c.val / 4096 % 64 * 4096
        + c.val / 64 % 64 * 64 + c.val % 64 = c.val := by omega
    simp only [utf8Char, h1, h2, h3, if_false, List.cons_append, List.nil_append]
    rw [decodeUtf8_four bs (by rw [ha]; omega) (by rw [ha]; omega) (isTail_byte _)
      (isTail_byte _) (isTail_byte _)
      (by rw [ha, tailBits_byte, tailBits_byte, tailBits_byte, hn]; omega)
      (by rw [ha, tailBits_byte, tailBits_byte, tailBits_byte, hn]; exact hc), ha,
      tailBits_byte, tailBits_byte, tailBits_byte, hn, codePoint_self]

/-- The decoder inverts the character-wise encoder. -/
theorem decodeUtf8_flatMap (s : Text) : decodeUtf8 (s.flatMap utf8Char) = some s := by
  induction s with
  | nil => rfl
  | cons c s ih => rw [List.flatMap_cons, decodeUtf8_utf8Char, ih, Option.map_some]

/-- A strictly encoded text decodes to itself. -/
theorem decodeUtf8_encodeUtf8 {s : Text} {bs : Bytes} (h : encodeUtf8 s = some bs) :
    decodeUtf8 bs = some s := by
  unfold encodeUtf8 at h
  split at h
  · cases h
  · rw [← Option.some.inj h, decodeUtf8_flatMap]

/-- The strict encoder fails exactly on a text that holds a surrogate. -/
theorem encodeUtf8_eq_none_iff (s : Text) : encodeUtf8 s = none ↔ hasSurrogate s = true := by
  unfold encodeUtf8
  split <;> simp_all

theorem encodeUtf8_of_scalar {s : Text} (h : hasSurrogate s = false) :
    encodeUtf8 s = some (s.flatMap utf8Char) := by
  simp [encodeUtf8, h]

/-! ### ASCII octets -/

/-- An ASCII octet of an encoded character is the character. -/
theorem mem_utf8Char_ascii {c : CodePoint} {b : Byte} (hb : b ∈ utf8Char c)
    (h : b.val < 0x80) : b.val = c.val := by
  have hc : c.val < 0x110000 := c.isLt
  simp only [utf8Char] at hb
  split_ifs at hb with h1 h2 h3 <;>
    simp only [List.mem_cons, List.not_mem_nil, or_false] at hb <;>
    rcases hb with rfl | rfl | rfl | rfl <;> simp only [byte_val] at h ⊢ <;> omega

/-- An ASCII character is encoded as its own octet. -/
theorem utf8Char_ascii {c : CodePoint} (h : c.val < 0x80) : utf8Char c = [byte c.val] := by
  simp [utf8Char, h]

/-- Bytes that open with two nonzero ASCII octets are read as UTF-8. -/
theorem decodeDetected_ascii {a b : Byte} (bs : Bytes) (ha : 0 < a.val) (ha' : a.val < 0x80)
    (hb : 0 < b.val) : decodeDetected (a :: b :: bs) = decodeUtf8 (a :: b :: bs) := by
  have no_mark : ∀ m ms, (m = 0 ∨ 0x80 ≤ m) → startsWith (a :: b :: bs) (m :: ms) = false := by
    intro m ms hm
    have hne : (m == a.val) = false := by simp only [beq_eq_false_iff_ne]; omega
    simp [startsWith, List.isPrefixOf, hne]
  have ha0 : ¬ a.val = 0 := by omega
  have hb0 : ¬ b.val = 0 := by omega
  unfold decodeDetected
  rw [no_mark _ _ (by omega), no_mark _ _ (by omega), no_mark _ _ (by omega),
    no_mark _ _ (by omega), no_mark _ _ (by omega)]
  match bs with
  | [] => simp [ha0, hb0]
  | [c] => rfl
  | c :: d :: rest => simp [ha0, hb0]

end PyLib
