/-
SpecStyle/Lib/FloatHex.lean

Hexadecimal texts of doubles.

`fromHex` reads a text as `float.fromhex` does: blanks around it, a sign, an
optional `0x`, hexadecimal digits with an optional point, an optional binary
exponent, and the result rounded to the nearest double.  The names of the
infinities and of the not-a-number value are not read; there is no such
`Binary64`.

`fromHex_hex` is the round trip: the text `a.hex()` of a double is read as that
double, its sign of zero included.
-/
import SpecStyle.Lib.Floats
import SpecStyle.Lib.JsonRoundTrip
import Mathlib.Tactic.Ring

namespace PyLib

namespace Binary64

/-- A magnitude that is a double's: of 53 significant bits and below 2^1024. -/
def IsDouble (a : Binary64) : Prop := round a.units = a.units ∧ a.units < 2 ^ 2098

instance IsDouble.decidable (a : Binary64) : Decidable a.IsDouble := instDecidableAnd

/-! ### Reading -/

/-- A blank of the source's C library. -/
def isBlank (c : CodePoint) : Bool := c = 0x20 || (0x09 ≤ c.val && c.val ≤ 0x0D)

/-- An optional sign: whether it is a minus, and the rest. -/
def signPart : Text → Bool × Text
  | c :: s => if c = 0x2D then (true, s) else if c = 0x2B then (false, s) else (false, c :: s)
  | [] => (false, [])

/-- The rest after an optional `0x`. -/
def afterPrefix : Text → Text
  | c :: d :: s => if c = 0x30 ∧ (d = 0x78 ∨ d = 0x58) then s else c :: d :: s
  | s => s

/-- The values of the leading hexadecimal digits, and the rest. -/
def spanHex : Text → List Nat × Text
  | [] => ([], [])
  | c :: s =>
    match Json.hexValue c with
    | some d => (d :: (spanHex s).1, (spanHex s).2)
    | none => ([], c :: s)

/-- The digits after an optional point, and the rest. -/
def pointPart : Text → List Nat × Text
  | c :: s => if c = 0x2E then spanHex s else ([], c :: s)
  | [] => ([], [])

/-- An optional binary exponent, and the rest. -/
def binaryExponent : Text → Option (Int × Text)
  | c :: s =>
    if c = 0x70 ∨ c = 0x50 then
      let (negative, s) := signPart s
      let (ds, r) := Json.spanDigits s
      if ds = [] then none
      else some (if negative then -(Json.digitsValue ds : Int) else Json.digitsValue ds, r)
    else some (0, c :: s)
  | [] => some (0, [])

/-- The number that hexadecimal digits spell. -/
def hexNumber (ds : List Nat) : Nat := ds.foldl (fun n d => n * 16 + d) 0

/-- `m * 16 ^ -places * 2 ^ exponent` with its sign; none from 2^1024 on. -/
def ofHexadecimal (negative : Bool) (m places : Nat) (exponent : Int) : Option Binary64 :=
  let units := roundRatio (m * 2 ^ (1074 + exponent.toNat)) (16 ^ places * 2 ^ (-exponent).toNat)
  if units < 2 ^ 2098 then some ⟨negative, units⟩ else none

/-- `float.fromhex(s)` -/
def fromHex (s : Text) : Option Binary64 :=
  let (negative, s) := signPart (s.dropWhile isBlank)
  let (whole, s) := spanHex (afterPrefix s)
  let (places, s) := pointPart s
  if whole ++ places = [] then none
  else
    match binaryExponent s with
    | none => none
    | some (exponent, s) =>
      if s.all isBlank then
        ofHexadecimal negative (hexNumber (whole ++ places)) places.length exponent
      else none

example : fromHex (py " +1.8P1 ") = some ⟨false, 3 * 2 ^ 1074⟩ ∧ fromHex (py "-0x0.0p+0") =
    some ⟨true, 0⟩ ∧ fromHex (py "0x1p+1024") = none ∧ fromHex (py "inf") = none := by
  decide +kernel

/-! ### Exact quotients -/

/-- The weight of the last place divides a double. -/
theorem lastPlace_dvd {n : Nat} (hn : round n = n) : 2 ^ (Nat.log2 n - 52) ∣ n := by
  by_cases hsmall : n < 2 ^ 53
  · have hlog : Nat.log2 n - 52 = 0 := by
      rcases Nat.eq_zero_or_pos n with rfl | hpos
      · rfl
      · have hlt := (Nat.log2_lt hpos.ne').mpr hsmall
        omega
    rw [hlog]
    exact one_dvd n
  · unfold round at hn
    rw [if_neg hsmall] at hn
    exact ⟨_, by rw [Nat.mul_comm]; exact hn.symm⟩

/-- A double that is divided exactly needs no rounding. -/
theorem roundRatio_mul {n den : Nat} (hn : round n = n) (hden : 0 < den) :
    roundRatio (n * den) den = n := by
  unfold roundRatio
  rw [Nat.mul_div_cancel _ hden]
  generalize hulp : (if n < 2 ^ 53 then 1 else 2 ^ (Nat.log2 n - 52)) = ulp
  have hpos : 0 < ulp := by
    rw [← hulp]
    split_ifs
    · exact Nat.one_pos
    · exact Nat.two_pow_pos _
  have hdvd : ulp ∣ n := by
    rw [← hulp]
    split_ifs
    · exact one_dvd n
    · exact lastPlace_dvd hn
  obtain ⟨q, rfl⟩ := hdvd
  have hsplit : ulp * q * den = den * ulp * q := by ring
  have hne : ¬ 0 = den * ulp := (Nat.mul_pos hden hpos).ne
  dsimp only
  rw [hulp, hsplit, Nat.mul_div_cancel_left q (Nat.mul_pos hden hpos), Nat.mul_mod_right]
  simp [hne, Nat.mul_comm]

/-! ### The digits of a text -/

theorem hexValue_digit {n : Nat} (h : n < 16) : Json.hexValue (Json.hexDigit n) = some n :=
  Json.hexValue_hexDigit h

theorem spanHex_end {c : CodePoint} {r : Text} (h : Json.hexValue c = none) :
    spanHex (c :: r) = ([], c :: r) := by
  rw [spanHex, h]

theorem spanHex_cons {d : Nat} (h : d < 16) (r : Text) :
    spanHex (Json.hexDigit d :: r) = (d :: (spanHex r).1, (spanHex r).2) := by
  rw [spanHex, hexValue_digit h]

/-- The digits that `hexDigits` writes are read as values that spell the number. -/
theorem spanHex_hexDigits (k n : Nat) {c : CodePoint} (r : Text) (h : Json.hexValue c = none) :
    ∃ ds, spanHex (hexDigits k n ++ c :: r) = (ds, c :: r) ∧ ds.length = k ∧
      ∀ a, ds.foldl (fun n d => n * 16 + d) a = a * 16 ^ k + n % 16 ^ k := by
  induction k with
  | zero =>
    refine ⟨[], spanHex_end h, rfl, fun a => ?_⟩
    simp [Nat.mod_one]
  | succ k ih =>
    obtain ⟨ds, hspan, hlength, hvalue⟩ := ih
    refine ⟨n / 16 ^ k % 16 :: ds, ?_, by rw [List.length_cons, hlength], fun a => ?_⟩
    · rw [hexDigits, List.cons_append, spanHex_cons (Nat.mod_lt _ (by decide)), hspan]
    · rw [List.foldl_cons, hvalue, Nat.pow_succ, Nat.mod_mul]
      ring

/-- The exponent that `hex` writes is read back. -/
theorem binaryExponent_text (e : Int) :
    binaryExponent (0x70 :: ((if 0 ≤ e then py "+" else []) ++ Json.intText e)) = some (e, []) := by
  obtain ⟨hdigits, hvalue, c, t, ht, -⟩ := Json.natText_spec e.natAbs
  have hspan : Json.spanDigits (Json.natText e.natAbs) = (Json.natText e.natAbs, []) := by
    have happ := Json.spanDigits_append (r := []) hdigits (fun _ _ h => by cases h)
    rwa [List.append_nil] at happ
  have hne : Json.natText e.natAbs ≠ [] := by
    rw [ht]
    exact List.cons_ne_nil _ _
  by_cases he : 0 ≤ e
  · have hsign : signPart (py "+" ++ Json.natText e.natAbs) = (false, Json.natText e.natAbs) := rfl
    have htext : Json.intText e = Json.natText e.natAbs := if_neg (not_lt.mpr he)
    rw [if_pos he, htext, binaryExponent, if_pos (.inl rfl)]
    simp only [hsign, hspan, if_neg hne, hvalue, Bool.false_eq_true, if_false]
    rw [Int.natAbs_of_nonneg he]
  · have hsign : signPart (0x2D :: Json.natText e.natAbs) = (true, Json.natText e.natAbs) := rfl
    have htext : Json.intText e = 0x2D :: Json.natText e.natAbs := if_pos (not_le.mp he)
    rw [if_neg he, htext, List.nil_append, binaryExponent, if_pos (.inl rfl)]
    simp only [hsign, hspan, if_neg hne, hvalue, if_true]
    rw [Int.ofNat_natAbs_of_nonpos (not_le.mp he).le, neg_neg]

/-! ### Round trip -/

/-- A text as `hex` writes it: one digit, a point, digits, and an exponent. -/
def hexText (negative : Bool) (lead fraction : Nat) (e : Int) : Text :=
  (if negative then py "-" else []) ++ py "0x" ++ Json.hexDigit lead :: 0x2E ::
    (hexDigits 13 fraction ++ 0x70 :: ((if 0 ≤ e then py "+" else []) ++ Json.intText e))

theorem fromHex_hexText (negative : Bool) {lead fraction : Nat} (hl : lead < 16)
    (hf : fraction < 16 ^ 13) (e : Int) : fromHex (hexText negative lead fraction e) =
      ofHexadecimal negative (lead * 16 ^ 13 + fraction) 13 e := by
  obtain ⟨ds, hspan, hlength, hvalue⟩ := spanHex_hexDigits 13 fraction (c := 0x70)
    ((if 0 ≤ e then py "+" else []) ++ Json.intText e) (by decide)
  have hfirst : signPart ((hexText negative lead fraction e).dropWhile isBlank) =
      (negative, 0x30 :: 0x78 :: Json.hexDigit lead :: 0x2E ::
        (hexDigits 13 fraction ++ 0x70 :: ((if 0 ≤ e then py "+" else []) ++ Json.intText e))) := by
    cases negative <;> rfl
  have hwhole : ∀ r, spanHex (Json.hexDigit lead :: 0x2E :: r) = ([lead], 0x2E :: r) := by
    intro r
    rw [spanHex_cons hl, spanHex_end (by decide)]
  have hnumber : hexNumber ([lead] ++ ds) = lead * 16 ^ 13 + fraction := by
    show ds.foldl _ (0 * 16 + lead) = _
    rw [hvalue, Nat.mod_eq_of_lt hf, Nat.zero_mul, Nat.zero_add]
  have hafter : ∀ r, afterPrefix (0x30 :: 0x78 :: r) = r := fun _ => rfl
  have hpoint : ∀ r, pointPart (0x2E :: r) = spanHex r := fun _ => rfl
  unfold fromHex
  simp only [hfirst, hafter, hwhole, hpoint, hspan, binaryExponent_text, List.all_nil, if_true,
    hnumber, hlength]
  rw [if_neg (by simp)]

/-- **Round trip.**  The text of a double is read as that double. -/
theorem fromHex_hex {a : Binary64} (h : a.IsDouble) : fromHex a.hex = some a := by
  obtain ⟨negative, units⟩ := a
  obtain ⟨hround, hlt⟩ := h
  have hof : ∀ (m k : Nat) (e : Int), units = 2 ^ k * m → 1074 + e.toNat = k + 52 + (-e).toNat →
      ofHexadecimal negative m 13 e = some ⟨negative, units⟩ := by
    intro m k e hm he
    unfold ofHexadecimal
    have hpos : 0 < 16 ^ 13 * 2 ^ (-e).toNat := Nat.mul_pos (by decide) (Nat.two_pow_pos _)
    have hsixteen : (16 : Nat) ^ 13 = 2 ^ 52 := by decide
    -- both sides are `m` at one power of two
    have hnum : m * 2 ^ (1074 + e.toNat) = units * (16 ^ 13 * 2 ^ (-e).toNat) := by
      rw [he, hm, hsixteen, pow_add, pow_add]
      ring
    rw [hnum, roundRatio_mul hround hpos, if_pos hlt]
  by_cases hzero : units = 0
  · subst hzero
    cases negative <;> decide +kernel
  by_cases hsmall : units < 2 ^ 52
  · have htext : hex ⟨negative, units⟩ = hexText negative 0 units (-1022) := by
      show _ ++ (if units = 0 then _ else if units < 2 ^ 52 then _ else _) = _
      rw [if_neg hzero, if_pos hsmall]
      have hexponent : py "p-1022" = 0x70 :: ((if (0 : Int) ≤ -1022 then py "+" else []) ++
          Json.intText (-1022)) := by decide +kernel
      rw [hexponent]
      cases negative <;> rfl
    have hfit : units < 16 ^ 13 := by omega
    rw [htext, fromHex_hexText negative (by decide) hfit]
    rw [Nat.zero_mul, Nat.zero_add]
    exact hof units 0 (-1022) (Nat.one_mul _).symm (by decide)
  · have hlog : 52 ≤ Nat.log2 units := (Nat.le_log2 hzero).mpr (not_lt.mp hsmall)
    generalize hk : Nat.log2 units - 52 = k at *
    obtain ⟨m, hm⟩ : 2 ^ k ∣ units := hk ▸ lastPlace_dvd hround
    have hdiv : units / 2 ^ k = m := by
      rw [hm, Nat.mul_div_cancel_left m (Nat.two_pow_pos k)]
    have hlow : 2 ^ 52 ≤ m := by
      rw [← hdiv, Nat.le_div_iff_mul_le (Nat.two_pow_pos k), ← pow_add]
      exact (Nat.le_log2 hzero).mp (by omega)
    have hhigh : m < 2 ^ 53 := by
      rw [← hdiv, Nat.div_lt_iff_lt_mul (Nat.two_pow_pos k), ← pow_add]
      exact (Nat.log2_lt hzero).mp (by omega)
    have htext : hex ⟨negative, units⟩ = hexText negative 1 (m - 2 ^ 52) (Nat.log2 units - 1074) := by
      show _ ++ (if units = 0 then _ else if units < 2 ^ 52 then _ else _) = _
      rw [if_neg hzero, if_neg hsmall, hk, hdiv]
      have hone : py "0x1." = py "0x" ++ [Json.hexDigit 1, 0x2E] := by decide
      have hexp : py "p" = [0x70] := by decide
      unfold hexText
      rw [hone, hexp]
      cases negative <;> simp
    have hfit : m - 2 ^ 52 < 16 ^ 13 := by omega
    have hsum : 1 * 16 ^ 13 + (m - 2 ^ 52) = m := by omega
    rw [htext, fromHex_hexText negative (by decide) hfit, hsum]
    exact hof m k _ hm (by omega)

end Binary64

end PyLib
