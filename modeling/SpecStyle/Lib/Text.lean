/-
SpecStyle/Lib/Text.lean

Text and bytes as the source language has them.  A string is a sequence of
code points, surrogates included, so it is not a Lean `String`: a lone
surrogate is a legal string that no strict encoder accepts.  Two strings
compare by code point, which is the lexicographic order Mathlib puts on
lists of a linear order.

`strip` removes the characters for which `isspace` answers true at both
ends; the test `value != value.strip()` of the models is `isStripped`.
-/
import Mathlib.Data.List.Lex
import Mathlib.Order.Fin.Basic

namespace PyLib

/-- A code point, surrogates included. -/
abbrev CodePoint := Fin 0x110000

instance codePointNeZero : @NeZero Nat Zero.ofOfNat0 0x110000 := ⟨Nat.succ_ne_zero _⟩

/-- A string of the source language. -/
abbrev Text := List CodePoint

/-- One octet. -/
abbrev Byte := Fin 256

instance byteNeZero : @NeZero Nat Zero.ofOfNat0 256 := ⟨Nat.succ_ne_zero _⟩

instance textLawfulBEq : LawfulBEq Text := inferInstance

/-- A byte string of the source language. -/
abbrev Bytes := List Byte

/-! ### Literals -/

/-- The code point of a scalar value. -/
def CodePoint.ofChar (c : Char) : CodePoint := Fin.ofNat _ c.toNat

/-- The text of a literal. -/
def py (s : String) : Text := s.toList.map CodePoint.ofChar

/-! ### Character classes -/

/-- The surrogate block. -/
def isSurrogate (c : CodePoint) : Bool := 0xD800 ≤ c.val && c.val ≤ 0xDFFF

/-- The high half of a surrogate pair. -/
def isHighSurrogate (c : CodePoint) : Bool := 0xD800 ≤ c.val && c.val ≤ 0xDBFF

/-- The low half of a surrogate pair. -/
def isLowSurrogate (c : CodePoint) : Bool := 0xDC00 ≤ c.val && c.val ≤ 0xDFFF

/-- An ASCII digit. -/
def isDigit (c : CodePoint) : Bool := 0x30 ≤ c.val && c.val ≤ 0x39

/-- An ASCII letter. -/
def isLetter (c : CodePoint) : Bool :=
  (0x41 ≤ c.val && c.val ≤ 0x5A) || (0x61 ≤ c.val && c.val ≤ 0x7A)

/-- A control character of the C0 block, or DEL. -/
def isControl (c : CodePoint) : Bool := c.val ≤ 0x1F || c.val == 0x7F

/-- `str.isspace` on one character. -/
def isSpace (c : CodePoint) : Bool :=
  (0x09 ≤ c.val && c.val ≤ 0x0D) || (0x1C ≤ c.val && c.val ≤ 0x20) ||
  c.val == 0x85 || c.val == 0xA0 || c.val == 0x1680 ||
  (0x2000 ≤ c.val && c.val ≤ 0x200A) || c.val == 0x2028 || c.val == 0x2029 ||
  c.val == 0x202F || c.val == 0x205F || c.val == 0x3000

/-! ### Stripping -/

/-- `str.strip` without arguments. -/
def strip (s : Text) : Text :=
  ((s.dropWhile isSpace).reverse.dropWhile isSpace).reverse

/-- `value == value.strip()`. -/
def isStripped (s : Text) : Bool := strip s == s

/-- The text holds a surrogate. -/
def hasSurrogate (s : Text) : Bool := s.any isSurrogate

@[simp] theorem hasSurrogate_nil : hasSurrogate [] = false := rfl

@[simp] theorem hasSurrogate_cons (c : CodePoint) (s : Text) :
    hasSurrogate (c :: s) = (isSurrogate c || hasSurrogate s) := rfl

@[simp] theorem hasSurrogate_append (s t : Text) :
    hasSurrogate (s ++ t) = (hasSurrogate s || hasSurrogate t) := by
  simp [hasSurrogate]

theorem hasSurrogate_of_ascii {s : Text} (h : ∀ c ∈ s, c.val < 0x80) : hasSurrogate s = false := by
  rw [hasSurrogate, List.any_eq_false]
  intro c hc
  have := h c hc
  unfold isSurrogate
  simp
  omega

end PyLib
