/-
SpecStyle/Lib/FloatText.lean

The text of a finite double, as `repr` and `json.dumps` write it: the
shortest decimal that is read back as the same double, and of the shortest
ones the closest.

A number of `n` significant digits is searched for each `n` in turn
(`roundTrips`); seventeen always do.
-/
import SpecStyle.Lib.JsonRoundTrip
import SpecStyle.Lib.Binary64
import Mathlib.Data.Nat.Log

namespace PyLib

namespace Binary64

/-- `float(n)` of an integer -/
def ofInt (n : Int) : Binary64 := ⟨n < 0, round (n.natAbs * 2 ^ 1074)⟩

/-- The distance to the next larger magnitude. -/
def ulp (n : Nat) : Nat := if n < 2 ^ 53 then 1 else 2 ^ (Nat.log2 n - 52)

/-- Twice the magnitude up to which a decimal is read as `n`. -/
def upper (n : Nat) : Nat := 2 * n + ulp n

/-- Twice the magnitude from which a decimal is read as `n`. -/
def lower (n : Nat) : Nat := 2 * n - if n = 2 ^ Nat.log2 n then ulp (n - 1) else ulp n

/-- The decimal point of `n` units: the number is below `10 ^ p`, and at least
a tenth of it. -/
def decimalPoint (n : Nat) : Int :=
  if 2 ^ 1074 ≤ n then Nat.log 10 (n / 2 ^ 1074) + 1
  else -(Nat.log 10 ((2 ^ 1074 - 1) / n) : Int)

/-- `d / 10 ^ s` is read as `n` units. -/
def roundTrips (n d : Nat) (s : Int) : Bool :=
  let a := 2 * d * (2 ^ 1074 * 10 ^ (-s).toNat)
  let b := 10 ^ s.toNat
  if n / ulp n % 2 = 0 then lower n * b ≤ a && a ≤ upper n * b
  else lower n * b < a && a < upper n * b

/-- The closest decimal of `digits` significant digits that is read as `n`
units, if there is one. -/
def decimal (n digits : Nat) : Option Nat :=
  let s : Int := digits - decimalPoint n
  let num := n * 10 ^ s.toNat
  let den := 2 ^ 1074 * 10 ^ (-s).toNat
  let d := num / den
  if roundTrips n d s && (num - d * den ≤ (d + 1) * den - num || !roundTrips n (d + 1) s) then some d
  else if roundTrips n (d + 1) s then some (d + 1)
  else none

/-- The shortest decimal that is read as `n` units, and its digits. -/
def shortest (n : Nat) : Nat × Nat :=
  ((List.range' 1 17).findSome? fun digits => (decimal n digits).map fun d => (d, digits)).getD (0, 1)

/-- Digits without the zeros at their end. -/
def dropZeros (ds : Text) : Text := (ds.reverse.dropWhile (· = 0x30)).reverse

/-- Digits with their decimal point, the exponent behind large and small
numbers. -/
def place (ds : Text) (p : Int) : Text :=
  if -4 < p ∧ p ≤ 16 then
    if p ≤ 0 then py "0." ++ List.replicate (-p).toNat 0x30 ++ ds
    else if ds.length ≤ p.toNat then ds ++ List.replicate (p.toNat - ds.length) 0x30 ++ py ".0"
    else ds.take p.toNat ++ py "." ++ ds.drop p.toNat
  else
    ds.take 1 ++ (if ds.length = 1 then [] else py "." ++ ds.drop 1) ++
      (if p - 1 < 0 then py "e-" else py "e+") ++
      (if (p - 1).natAbs < 10 then py "0" else []) ++ Json.natText (p - 1).natAbs

/-- `repr(x)` -/
def repr (x : Binary64) : Text :=
  (if x.negative then py "-" else []) ++
    if x.units = 0 then py "0.0"
    else
      let d := shortest x.units
      let ds := Json.natText d.1
      place (dropZeros ds) (decimalPoint x.units + (ds.length - d.2 : Nat))

/-! ### No surrogates -/

/-- A part of a text without surrogates. -/
theorem hasSurrogate_of_subset {s t : Text} (h : s ⊆ t) (ht : hasSurrogate t = false) :
    hasSurrogate s = false := by
  rw [hasSurrogate, List.any_eq_false] at ht ⊢
  exact fun c hc => ht c (h hc)

theorem hasSurrogate_natText (n : Nat) : hasSurrogate (Json.natText n) = false := by
  refine hasSurrogate_of_ascii fun c hc => ?_
  have hd := (Json.natText_spec n).1 c hc
  unfold isDigit at hd
  simp at hd
  omega

/-- Digits have no surrogates, wherever the point is put. -/
theorem hasSurrogate_place {ds : Text} (h : hasSurrogate ds = false) (p : Int) :
    hasSurrogate (place ds p) = false := by
  have hzeros : ∀ k, hasSurrogate (List.replicate k 0x30) = false := by
    intro k
    refine hasSurrogate_of_subset (t := [0x30]) (fun c hc => ?_) (by decide)
    exact List.mem_singleton.mpr (List.eq_of_mem_replicate hc)
  have htake : ∀ k, hasSurrogate (ds.take k) = false := fun k =>
    hasSurrogate_of_subset (List.take_subset k ds) h
  have hdrop : ∀ k, hasSurrogate (ds.drop k) = false := fun k =>
    hasSurrogate_of_subset (List.drop_subset k ds) h
  have hpoint : hasSurrogate (py ".") = false := by decide
  have hzero : hasSurrogate (py "0.") = false := by decide
  have hend : hasSurrogate (py ".0") = false := by decide
  have hsmall : hasSurrogate (py "e-") = false := by decide
  have hlarge : hasSurrogate (py "e+") = false := by decide
  have hpad : hasSurrogate (py "0") = false := by decide
  unfold place
  split_ifs <;>
    simp only [hasSurrogate_append, hasSurrogate_nil, h, hzeros, htake, hdrop, hpoint, hzero, hend,
      hsmall, hlarge, hpad, hasSurrogate_natText, Bool.or_self]

theorem hasSurrogate_repr (x : Binary64) : hasSurrogate x.repr = false := by
  have hsign : hasSurrogate (if x.negative then py "-" else []) = false := by
    cases x.negative <;> decide
  have hzero : hasSurrogate (py "0.0") = false := by decide
  unfold repr
  rw [hasSurrogate_append, hsign, Bool.false_or]
  split_ifs
  · exact hzero
  · have hd := hasSurrogate_natText (shortest x.units).1
    refine hasSurrogate_place (hasSurrogate_of_subset (fun c hc => ?_) hd) _
    unfold dropZeros at hc
    exact List.mem_reverse.mp ((List.dropWhile_suffix _).subset (List.mem_reverse.mp hc))

end Binary64

/-! ### Values with floats -/

namespace Json

mutual

/-- No text of a value, and no literal, holds a surrogate. -/
def clean : Json → Bool
  | .float literal => !hasSurrogate literal
  | .str s => !hasSurrogate s
  | .arr items => cleanItems items
  | .obj fields => cleanFields fields
  | _ => true

def cleanItems : List Json → Bool
  | [] => true
  | v :: vs => clean v && cleanItems vs

def cleanFields : List (Text × Json) → Bool
  | [] => true
  | (k, v) :: fs => !hasSurrogate k && clean v && cleanFields fs

end

theorem cleanItems_iff {vs : List Json} : cleanItems vs = true ↔ ∀ v ∈ vs, clean v = true := by
  induction vs with
  | nil => simp [cleanItems]
  | cons v vs ih => simp [cleanItems, ih]

theorem cleanFields_iff {fs : List (Text × Json)} :
    cleanFields fs = true ↔ ∀ f ∈ fs, hasSurrogate f.1 = false ∧ clean f.2 = true := by
  induction fs with
  | nil => simp [cleanFields]
  | cons f fs ih => simp [cleanFields, ih, and_assoc]

mutual

/-- A value is written without surrogates exactly when it is clean. -/
theorem hasSurrogate_print_clean (v : Json) : hasSurrogate (print false v) = !clean v := by
  have punct : ∀ c : CodePoint, c.val < 0x80 → isSurrogate c = false := by
    intro c hc
    unfold isSurrogate
    simp
    omega
  cases v with
  | null => decide
  | bool b => cases b <;> decide
  | int i => exact hasSurrogate_intText i
  | float literal =>
    show hasSurrogate literal = _
    simp [clean]
  | str s => simp [print, hasSurrogate_printStr, clean]
  | arr items =>
    cases items with
    | nil => decide
    | cons v vs =>
      simp [print, clean, cleanItems, hasSurrogate_print_clean v, hasSurrogate_printItems_clean vs,
        punct]
  | obj fields =>
    cases fields with
    | nil => decide
    | cons f fs =>
      cases f with
      | mk k v =>
      simp [print, clean, cleanFields, hasSurrogate_printStr, hasSurrogate_print_clean v,
        hasSurrogate_printFields_clean fs, punct, Bool.or_assoc]

theorem hasSurrogate_printItems_clean (vs : List Json) :
    hasSurrogate (printItems false vs) = !cleanItems vs := by
  have hc : isSurrogate 0x2C = false := by decide
  cases vs with
  | nil => rfl
  | cons v vs =>
    simp [printItems, cleanItems, hasSurrogate_print_clean v, hasSurrogate_printItems_clean vs, hc]

theorem hasSurrogate_printFields_clean (fs : List (Text × Json)) :
    hasSurrogate (printFields false fs) = !cleanFields fs := by
  have hc : isSurrogate 0x2C = false := by decide
  have hd : isSurrogate 0x3A = false := by decide
  cases fs with
  | nil => rfl
  | cons f fs =>
    cases f with
    | mk k v =>
    simp [printFields, cleanFields, hasSurrogate_printStr, hasSurrogate_print_clean v,
      hasSurrogate_printFields_clean fs, hc, hd, Bool.or_assoc]

end

mutual

/-- The order of the keys does not matter. -/
theorem clean_sortKeys (v : Json) : clean (sortKeys v) = clean v := by
  cases v with
  | arr items => exact clean_sortItems items
  | obj fields =>
    rw [sortKeys, clean, clean, ← clean_sortFields fields, Bool.eq_iff_iff, cleanFields_iff,
      cleanFields_iff]
    constructor
    · exact fun h f hf => h f ((orderFields_perm _).mem_iff.mpr hf)
    · exact fun h f hf => h f ((orderFields_perm _).mem_iff.mp hf)
  | _ => rfl

theorem clean_sortItems (vs : List Json) : cleanItems (sortItems vs) = cleanItems vs := by
  cases vs with
  | nil => rfl
  | cons v vs => rw [sortItems, cleanItems, clean_sortKeys v, clean_sortItems vs, cleanItems]

theorem clean_sortFields (fs : List (Text × Json)) :
    cleanFields (sortFields fs) = cleanFields fs := by
  cases fs with
  | nil => rfl
  | cons f fs =>
    cases f with
    | mk k v => rw [sortFields, cleanFields, clean_sortKeys v, clean_sortFields fs, cleanFields]

end

/-- A value is dumped without surrogates exactly when it is clean. -/
theorem hasSurrogate_dumps_clean (v : Json) : hasSurrogate (dumps false v) = !clean v := by
  rw [dumps, hasSurrogate_print_clean, clean_sortKeys]

end Json

/-- The text of a literal has no surrogates: no character is one. -/
@[simp] theorem hasSurrogate_py (s : String) : hasSurrogate (py s) = false := by
  unfold py hasSurrogate
  rw [List.any_map, List.any_eq_false]
  intro c _
  have hv := c.valid
  have hc : (CodePoint.ofChar c).val = c.toNat := by
    refine Nat.mod_eq_of_lt ?_
    rcases hv with hv | hv
    · show c.val.toNat < _
      omega
    · exact hv.2
  show ¬ isSurrogate (CodePoint.ofChar c) = true
  unfold isSurrogate
  rw [hc]
  have : c.toNat = c.val.toNat := rfl
  rcases hv with hv | hv <;> simp <;> omega

end PyLib
