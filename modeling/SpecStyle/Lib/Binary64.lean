/-
SpecStyle/Lib/Binary64.lean

Finite double-precision numbers as the source language compares and adds
them.  A number is a sign and a magnitude, the magnitude counted in units of
the smallest positive double, 2^-1074, so that every finite double is exact.

There are two equalities.  `==` of the source compares values and takes the
two zeros for one (`same`); `float.hex` tells them apart, and two numbers have
one hexadecimal text exactly when they are equal here.

A magnitude that needs more than 53 significant bits belongs to no double.
The operations round to 53 bits; they are not used near the largest double,
so there is no overflow to infinity.
-/
import SpecStyle.Lib.Json

namespace PyLib

/-- A finite number: sign, and magnitude in units of 2^-1074. -/
structure Binary64 where
  negative : Bool
  units : Nat
  deriving DecidableEq

namespace Binary64

/-- The value, in units of 2^-1074. -/
def value (a : Binary64) : Int := if a.negative then -a.units else a.units

/-- `0.0` -/
def zero : Binary64 := ⟨false, 0⟩

/-- `1.0` -/
def one : Binary64 := ⟨false, 2 ^ 1074⟩

/-- `0.10`, that is `0x1.999999999999ap-4` -/
def tenth : Binary64 := ⟨false, 0x1999999999999a * 2 ^ 1018⟩

/-- `a == b` -/
def same (a b : Binary64) : Bool := a.value == b.value

/-- `a < b` -/
def lt (a b : Binary64) : Bool := a.value < b.value

/-- `0 <= a <= 1` -/
def inUnit (a : Binary64) : Bool := 0 ≤ a.value && a.value ≤ one.value

/-- A magnitude rounded to 53 significant bits, ties to even. -/
def round (n : Nat) : Nat :=
  if n < 2 ^ 53 then n
  else
    let e := Nat.log2 n - 52
    let q := n / 2 ^ e
    let r := n % 2 ^ e
    let up := 2 ^ e < 2 * r || (2 * r == 2 ^ e && q % 2 == 1)
    (if up then q + 1 else q) * 2 ^ e

/-- `a + b`; an exact zero is negative only when both arguments are. -/
def add (a b : Binary64) : Binary64 :=
  let v := a.value + b.value
  if v = 0 then ⟨a.negative && b.negative, 0⟩ else ⟨v < 0, round v.natAbs⟩

/-- `a - b` -/
def sub (a b : Binary64) : Binary64 := add a ⟨!b.negative, b.units⟩

/-- `digits` hexadecimal digits of `n`. -/
def hexDigits : Nat → Nat → Text
  | 0, _ => []
  | digits + 1, n => Json.hexDigit (n / 16 ^ digits % 16) :: hexDigits digits n

/-- `a.hex()` -/
def hex (a : Binary64) : Text :=
  (if a.negative then py "-" else []) ++
    if a.units = 0 then py "0x0.0p+0"
    else if a.units < 2 ^ 52 then py "0x0." ++ hexDigits 13 a.units ++ py "p-1022"
    else
      let e : Int := Nat.log2 a.units - 1074
      py "0x1." ++ hexDigits 13 (a.units / 2 ^ (Nat.log2 a.units - 52) - 2 ^ 52) ++ py "p" ++
        (if 0 ≤ e then py "+" else []) ++ Json.intText e

/-- `min(a, b)`: the first of the smallest. -/
def pyMin (a b : Binary64) : Binary64 := if lt b a then b else a

/-- `max(a, b)`: the first of the largest. -/
def pyMax (a b : Binary64) : Binary64 := if lt a b then b else a

@[simp] theorem same_self (a : Binary64) : same a a = true := by
  simp [same]

theorem same_comm (a b : Binary64) : same a b = same b a := BEq.comm

theorem same_iff {a b : Binary64} : same a b = true ↔ a.value = b.value := by
  simp [same]

/-- `(0.10).hex()` and `(-0.0).hex()` -/
example : tenth.hex = py "0x1.999999999999ap-4" ∧ hex ⟨true, 0⟩ = py "-0x0.0p+0" := by
  decide +kernel

/-- The step of a sum near one: `0.95 + 0.10`, one unit in the last place
above `1.05`, is cut to `1.0` by the minimum. -/
example : pyMin one (add ⟨false, 0x1e666666666666 * 2 ^ 1021⟩ tenth) = one := by decide +kernel

end Binary64

end PyLib
