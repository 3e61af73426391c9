/-
SpecStyle/Lib/Floats.lean

Floating-point numbers inside JSON documents.  `Json` keeps a number with a
fraction or an exponent as its literal; what the literal stands for is a
parameter here, a kind of numbers with its order, its division, its `repr` and
its reader (`Floats`).  `binary64` is the kind the source language has.

Equality of JSON values is the `==` of the source: numbers of different types
are compared by value, objects without regard to the order of their keys
(`Json.same`).
-/
import SpecStyle.Lib.FloatText

namespace PyLib

/-- A kind of finite floating-point numbers. -/
structure Floats where
  Carrier : Type
  /-- `a <= b` -/
  le : Carrier → Carrier → Bool
  /-- The order of a number and an integer. -/
  compareInt : Carrier → Int → Ordering
  /-- `a / b` of two integers, `b` positive -/
  div : Nat → Nat → Carrier
  /-- `repr(x)` -/
  print : Carrier → Text
  /-- `float(literal)` of a number literal; an infinity is no number. -/
  read : Text → Option Carrier

namespace Floats

variable (F : Floats)

/-- `a == b` -/
def same (a b : F.Carrier) : Bool := F.le a b && F.le b a

/-- `0.0` -/
def zero : F.Carrier := F.div 0 1

/-- `1.0` -/
def one : F.Carrier := F.div 1 1

/-- The order of finite numbers, which is total; two numbers may compare equal. -/
structure Ordered : Prop where
  total : ∀ a b, F.le a b = true ∨ F.le b a = true
  trans : ∀ a b c, F.le a b = true → F.le b c = true → F.le a c = true

end Floats

namespace Json

variable (F : Floats)

/-! ### Writing a document again -/

mutual

/-- The value with every literal written as `repr` writes its number; none
when a literal is too large for a number. -/
def rewrite : Json → Option Json
  | .float literal => (F.read literal).map fun x => .float (F.print x)
  | .arr items => (rewriteItems items).map .arr
  | .obj fields => (rewriteFields fields).map .obj
  | v => some v

def rewriteItems : List Json → Option (List Json)
  | [] => some []
  | v :: vs => do
    let v ← rewrite v
    let vs ← rewriteItems vs
    return v :: vs

def rewriteFields : List (Text × Json) → Option (List (Text × Json))
  | [] => some []
  | (k, v) :: fs => do
    let v ← rewrite v
    let fs ← rewriteFields fs
    return (k, v) :: fs

end

mutual

/-- The literals of the floating-point numbers of a value. -/
def literals : Json → List Text
  | .float l => [l]
  | .arr items => literalsItems items
  | .obj fields => literalsFields fields
  | _ => []

def literalsItems : List Json → List Text
  | [] => []
  | v :: vs => literals v ++ literalsItems vs

def literalsFields : List (Text × Json) → List Text
  | [] => []
  | (_, v) :: fs => literals v ++ literalsFields fs

end

/-- Every number of the value is written as `repr` writes it. -/
def Settled (v : Json) : Prop := ∀ l ∈ literals v, (F.read l).map F.print = some l

instance Settled.decidable (v : Json) : Decidable (Settled F v) :=
  inferInstanceAs (Decidable (∀ l ∈ literals v, (F.read l).map F.print = some l))

variable {F}

mutual

/-- A settled value is its own rewriting. -/
theorem rewrite_settled (v : Json) (h : Settled F v) : rewrite F v = some v := by
  cases v with
  | null => rfl
  | bool b => rfl
  | int n => rfl
  | str s => rfl
  | float l =>
    have hl := h l (List.mem_singleton_self l)
    rw [Option.map_eq_some_iff] at hl
    obtain ⟨x, hx, hp⟩ := hl
    rw [rewrite, hx, Option.map_some, hp]
  | arr items => rw [rewrite, rewrite_settledItems items h, Option.map_some]
  | obj fields => rw [rewrite, rewrite_settledFields fields h, Option.map_some]

theorem rewrite_settledItems (vs : List Json)
    (h : ∀ l ∈ literalsItems vs, (F.read l).map F.print = some l) :
    rewriteItems F vs = some vs := by
  cases vs with
  | nil => rfl
  | cons v vs =>
    have hv := rewrite_settled v fun l hl => h l (List.mem_append_left _ hl)
    have hvs := rewrite_settledItems vs fun l hl => h l (List.mem_append_right _ hl)
    rw [rewriteItems, hv, hvs]
    rfl

theorem rewrite_settledFields (fs : List (Text × Json))
    (h : ∀ l ∈ literalsFields fs, (F.read l).map F.print = some l) :
    rewriteFields F fs = some fs := by
  cases fs with
  | nil => rfl
  | cons f fs =>
    cases f with
    | mk k v =>
    have hv := rewrite_settled v fun l hl => h l (List.mem_append_left _ hl)
    have hfs := rewrite_settledFields fs fun l hl => h l (List.mem_append_right _ hl)
    rw [rewriteFields, hv, hfs]
    rfl

end

theorem mem_literalsFields {l : Text} {fs : List (Text × Json)} :
    l ∈ literalsFields fs ↔ ∃ f ∈ fs, l ∈ literals f.2 := by
  induction fs with
  | nil => simp [literalsFields]
  | cons f fs ih => simp [literalsFields, ih]

mutual

/-- The order of the keys does not matter. -/
theorem mem_literals_sortKeys (v : Json) {l : Text} : l ∈ literals (sortKeys v) ↔ l ∈ literals v := by
  cases v with
  | arr items => exact mem_literals_sortItems items
  | obj fields =>
    rw [literals, ← mem_literals_sortFields fields, sortKeys, literals, mem_literalsFields,
      mem_literalsFields]
    constructor
    · rintro ⟨f, hf, hl⟩
      exact ⟨f, (orderFields_perm _).mem_iff.mp hf, hl⟩
    · rintro ⟨f, hf, hl⟩
      exact ⟨f, (orderFields_perm _).mem_iff.mpr hf, hl⟩
  | _ => exact Iff.rfl

theorem mem_literals_sortItems (vs : List Json) {l : Text} :
    l ∈ literalsItems (sortItems vs) ↔ l ∈ literalsItems vs := by
  cases vs with
  | nil => exact Iff.rfl
  | cons v vs =>
    rw [sortItems, literalsItems, literalsItems, List.mem_append, List.mem_append,
      mem_literals_sortKeys v, mem_literals_sortItems vs]

theorem mem_literals_sortFields (fs : List (Text × Json)) {l : Text} :
    l ∈ literalsFields (sortFields fs) ↔ l ∈ literalsFields fs := by
  cases fs with
  | nil => exact Iff.rfl
  | cons f fs =>
    cases f with
    | mk k v =>
    rw [sortFields, literalsFields, literalsFields, List.mem_append, List.mem_append,
      mem_literals_sortKeys v, mem_literals_sortFields fs]

end

theorem settled_sortKeys {v : Json} (h : Settled F v) : Settled F (sortKeys v) :=
  fun l hl => h l ((mem_literals_sortKeys v).mp hl)

variable (F)

/-! ### Equality -/

/-- A number of a JSON value; a truth value is the number 0 or 1. -/
inductive Number where
  | int (n : Int)
  | float (x : F.Carrier)

/-- The number a value is. -/
def number : Json → Option (Number F)
  | .bool b => some (.int (if b then 1 else 0))
  | .int n => some (.int n)
  | .float literal => (F.read literal).map .float
  | _ => none

/-- `a <= b` of two numbers. -/
def Number.le : Number F → Number F → Bool
  | .int a, .int b => a ≤ b
  | .float x, .int n => F.compareInt x n != .gt
  | .int n, .float x => F.compareInt x n != .lt
  | .float x, .float y => F.le x y

/-- `a == b` of two values that are no containers. -/
def sameScalar (v w : Json) : Bool :=
  match v, w with
  | .null, .null => true
  | .str s, .str t => s == t
  | _, _ =>
    match number F v, number F w with
    | some a, some b => a.le F b && b.le F a
    | _, _ => false

mutual

/-- `a == b` -/
def same : Json → Json → Bool
  | .arr vs, w =>
    match w with
    | .arr ws => sameItems vs ws
    | _ => false
  | .obj fs, w =>
    match w with
    | .obj gs => fs.length == gs.length && sameFields fs gs
    | _ => false
  | v, w => sameScalar F v w

def sameItems : List Json → List Json → Bool
  | [], ws => ws.isEmpty
  | v :: vs, ws =>
    match ws with
    | [] => false
    | w :: ws => same v w && sameItems vs ws

/-- Every field has an equal one. -/
def sameFields : List (Text × Json) → List (Text × Json) → Bool
  | [], _ => true
  | (k, v) :: fs, gs =>
    (match field gs k with
      | some w => same v w
      | none => false) && sameFields fs gs

end

end Json

/-! ### Double precision -/

namespace Binary64

/-- `num / den` to the nearest multiple of the unit in the last place, ties to
even. -/
def roundRatio (num den : Nat) : Nat :=
  let n := num / den
  let ulp := if n < 2 ^ 53 then 1 else 2 ^ (Nat.log2 n - 52)
  let q := num / (den * ulp)
  let r := num % (den * ulp)
  let up := den * ulp < 2 * r || (2 * r == den * ulp && q % 2 == 1)
  (if up then q + 1 else q) * ulp

/-- `a / b` of two natural numbers -/
def ofRatio (a b : Nat) : Binary64 := ⟨false, roundRatio (a * 2 ^ 1074) b⟩

/-- The order of a number and an integer. -/
def compareInt (x : Binary64) (n : Int) : Ordering := compare x.value (n * 2 ^ 1074)

/-- `digits * 10 ^ (exponent - scale)` with its sign; none from 2^1024 on. -/
def ofDecimal (negative : Bool) (digits scale : Nat) (exponent : Int) : Option Binary64 :=
  let up := exponent.toNat
  let down := scale + (-exponent).toNat
  let units := roundRatio (digits * 10 ^ up * 2 ^ 1074) (10 ^ down)
  if units < 2 ^ 2098 then some ⟨negative, units⟩ else none

/-- The number of a signed run of digits. -/
def exponentValue (s : Text) : Int :=
  match s with
  | [] => 0
  | c :: ds =>
    if c = 0x2D then -(Json.digitsValue ds : Int)
    else if c = 0x2B then Json.digitsValue ds
    else Json.digitsValue (c :: ds)

/-- `float(literal)` of a JSON number literal -/
def read (literal : Text) : Option Binary64 :=
  let negative : Bool := literal.head? = some 0x2D
  match Json.integerPart (if negative then literal.drop 1 else literal) with
  | none => none
  | some (ds, r) =>
    let fraction := (Json.fractionPart r).1.drop 1
    let exponent := (Json.exponentPart (Json.fractionPart r).2).1.drop 1
    ofDecimal negative (Json.digitsValue (ds ++ fraction)) fraction.length (exponentValue exponent)

example : read (py "-12.5e-1") = some ⟨true, 5 * 2 ^ 1072⟩ ∧ read (py "0.1") = some tenth := by
  decide +kernel

end Binary64

/-- The numbers of the source language. -/
def Floats.binary64 : Floats where
  Carrier := Binary64
  le a b := a.value ≤ b.value
  compareInt := Binary64.compareInt
  div := Binary64.ofRatio
  print := Binary64.repr
  read := Binary64.read

theorem Floats.binary64_ordered : Floats.binary64.Ordered where
  total a b := by
    show decide (a.value ≤ b.value) = true ∨ decide (b.value ≤ a.value) = true
    rw [decide_eq_true_iff, decide_eq_true_iff]
    exact le_total a.value b.value
  trans a b c := by
    show decide (a.value ≤ b.value) = true → decide (b.value ≤ c.value) = true → _
    rw [decide_eq_true_iff, decide_eq_true_iff]
    intro hab hbc
    exact decide_eq_true (hab.trans hbc)

end PyLib
