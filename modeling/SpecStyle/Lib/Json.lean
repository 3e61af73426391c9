/-
SpecStyle/Lib/Json.lean

JSON text as the standard library of the source language writes and reads
it.  `dumps` is `json.dumps(value, sort_keys=True, separators=(",", ":"),
allow_nan=False)` with either setting of `ensure_ascii`; `loads` is
`json.loads` with a pairs hook that refuses a repeated key and a constant
hook that refuses `NaN` and the infinities.

The reader is the recursive descent of the C scanner: whitespace is skipped
where the scanner skips it, a number is an integer unless a fraction or an
exponent follows, control characters inside a string are refused, and the
two escapes of a surrogate pair are joined while a lone escape stays.  Its
recursion is on a fuel argument that `loads` sets to the length of the text,
which no accepted text exhausts.

A floating-point number is kept as its literal.  No model in this
development reads its value.
-/
import SpecStyle.Lib.Utf8
import Mathlib.Data.List.Sort

namespace PyLib

/-- A JSON value.  An object keeps its keys in insertion order. -/
inductive Json where
  | null
  | bool (b : Bool)
  | int (n : Int)
  | float (literal : Text)
  | str (s : Text)
  | arr (items : List Json)
  | obj (fields : List (Text × Json))

namespace Json

/-! ### Writing -/

/-- A lower-case hexadecimal digit. -/
def hexDigit (n : Nat) : CodePoint :=
  if n < 10 then codePoint (0x30 + n) else codePoint (0x57 + n)

/-- `\uXXXX` for one sixteen-bit unit. -/
def escapeUnit (n : Nat) : Text :=
  [0x5C, 0x75, hexDigit (n / 4096 % 16), hexDigit (n / 256 % 16), hexDigit (n / 16 % 16),
    hexDigit (n % 16)]

/-- One character inside a string literal. -/
def escapeChar (ensureAscii : Bool) (c : CodePoint) : Text :=
  if c = 0x22 then [0x5C, 0x22]
  else if c = 0x5C then [0x5C, 0x5C]
  else if c = 0x08 then [0x5C, 0x62]
  else if c = 0x0C then [0x5C, 0x66]
  else if c = 0x0A then [0x5C, 0x6E]
  else if c = 0x0D then [0x5C, 0x72]
  else if c = 0x09 then [0x5C, 0x74]
  else if c.val < 0x20 then escapeUnit c.val
  else if ensureAscii && 0x7F ≤ c.val then
    if c.val < 0x10000 then escapeUnit c.val
    else escapeUnit (0xD800 + (c.val - 0x10000) / 1024) ++
      escapeUnit (0xDC00 + (c.val - 0x10000) % 1024)
  else [c]

/-- A string literal. -/
def printStr (ensureAscii : Bool) (s : Text) : Text :=
  0x22 :: (s.flatMap (escapeChar ensureAscii) ++ [0x22])

/-- The decimal digits of `n`, before `acc`. -/
def natTextCore : Nat → Nat → Text → Text
  | 0, _, acc => acc
  | fuel + 1, n, acc =>
    if n < 10 then codePoint (0x30 + n) :: acc
    else natTextCore fuel (n / 10) (codePoint (0x30 + n % 10) :: acc)

/-- `str(n)` of a natural number. -/
def natText (n : Nat) : Text := natTextCore (n + 1) n []

/-- `str(n)` of an integer. -/
def intText (n : Int) : Text :=
  if n < 0 then 0x2D :: natText n.natAbs else natText n.natAbs

mutual

/-- The text of a value, its keys in the order they stand. -/
def print (ensureAscii : Bool) : Json → Text
  | .null => py "null"
  | .bool true => py "true"
  | .bool false => py "false"
  | .int n => intText n
  | .float literal => literal
  | .str s => printStr ensureAscii s
  | .arr [] => [0x5B, 0x5D]
  | .arr (v :: vs) => 0x5B :: (print ensureAscii v ++ printItems ensureAscii vs ++ [0x5D])
  | .obj [] => [0x7B, 0x7D]
  | .obj ((k, v) :: fs) =>
    0x7B :: (printStr ensureAscii k ++ 0x3A :: print ensureAscii v ++
      printFields ensureAscii fs ++ [0x7D])

/-- The items after the first, each behind a comma. -/
def printItems (ensureAscii : Bool) : List Json → Text
  | [] => []
  | v :: vs => 0x2C :: (print ensureAscii v ++ printItems ensureAscii vs)

/-- The fields after the first, each behind a comma. -/
def printFields (ensureAscii : Bool) : List (Text × Json) → Text
  | [] => []
  | (k, v) :: fs =>
    0x2C :: (printStr ensureAscii k ++ 0x3A :: print ensureAscii v ++ printFields ensureAscii fs)

end

/-- Fields in the order of their keys. -/
def orderFields (fs : List (Text × Json)) : List (Text × Json) :=
  fs.insertionSort fun f g => f.1 ≤ g.1

mutual

/-- The value with the keys of every object in order. -/
def sortKeys : Json → Json
  | .arr items => .arr (sortItems items)
  | .obj fields => .obj (orderFields (sortFields fields))
  | v => v

def sortItems : List Json → List Json
  | [] => []
  | v :: vs => sortKeys v :: sortItems vs

def sortFields : List (Text × Json) → List (Text × Json)
  | [] => []
  | (k, v) :: fs => (k, sortKeys v) :: sortFields fs

end

mutual

/-- Whether two values are one document. -/
def eqb : Json → Json → Bool
  | .null, .null => true
  | .bool a, .bool b => a == b
  | .int m, .int n => m == n
  | .float k, .float l => k == l
  | .str s, .str t => s == t
  | .arr vs, .arr ws => eqbItems vs ws
  | .obj fs, .obj gs => eqbFields fs gs
  | _, _ => false

def eqbItems : List Json → List Json → Bool
  | [], [] => true
  | v :: vs, w :: ws => eqb v w && eqbItems vs ws
  | _, _ => false

def eqbFields : List (Text × Json) → List (Text × Json) → Bool
  | [], [] => true
  | (k, v) :: fs, (l, w) :: gs => k == l && eqb v w && eqbFields fs gs
  | _, _ => false

end

mutual

theorem eq_of_eqb {v w : Json} (h : eqb v w = true) : v = w := by
  cases v with
  | arr vs =>
      cases w with
      | arr ws => rw [eq_of_eqbItems h]
      | _ => cases h
  | obj fs =>
      cases w with
      | obj gs => rw [eq_of_eqbFields h]
      | _ => cases h
  | null =>
      cases w with
      | null => rfl
      | _ => cases h
  | bool a =>
      cases w with
      | bool b => rw [eq_of_beq (show (a == b) = true from h)]
      | _ => cases h
  | int m =>
      cases w with
      | int n => rw [eq_of_beq (show (m == n) = true from h)]
      | _ => cases h
  | float k =>
      cases w with
      | float l => rw [eq_of_beq (show (k == l) = true from h)]
      | _ => cases h
  | str s =>
      cases w with
      | str t => rw [eq_of_beq (show (s == t) = true from h)]
      | _ => cases h

theorem eq_of_eqbItems {vs ws : List Json} (h : eqbItems vs ws = true) : vs = ws := by
  cases vs with
  | nil =>
      cases ws with
      | nil => rfl
      | cons w ws => cases h
  | cons v vs =>
      cases ws with
      | nil => cases h
      | cons w ws =>
          rw [eqbItems, Bool.and_eq_true] at h
          rw [eq_of_eqb h.1, eq_of_eqbItems h.2]

theorem eq_of_eqbFields {fs gs : List (Text × Json)} (h : eqbFields fs gs = true) : fs = gs := by
  cases fs with
  | nil =>
      cases gs with
      | nil => rfl
      | cons g gs => cases h
  | cons f fs =>
      cases gs with
      | nil => cases h
      | cons g gs =>
          rw [eqbFields, Bool.and_eq_true, Bool.and_eq_true] at h
          rw [Prod.ext (eq_of_beq h.1.1) (eq_of_eqb h.1.2), eq_of_eqbFields h.2]

end

/-- `json.dumps(value, sort_keys=True, separators=(",", ":"))`. -/
def dumps (ensureAscii : Bool) (v : Json) : Text := print ensureAscii (sortKeys v)

/-! ### Reading -/

/-- The whitespace the scanner skips. -/
def isWhitespace (c : CodePoint) : Bool := c = 0x20 || c = 0x09 || c = 0x0A || c = 0x0D

/-- Skips whitespace. -/
def skipWs (s : Text) : Text := s.dropWhile isWhitespace

/-- The value of a hexadecimal digit of either case. -/
def hexValue (c : CodePoint) : Option Nat :=
  if 0x30 ≤ c.val ∧ c.val ≤ 0x39 then some (c.val - 0x30)
  else if 0x61 ≤ c.val ∧ c.val ≤ 0x66 then some (c.val - 0x57)
  else if 0x41 ≤ c.val ∧ c.val ≤ 0x46 then some (c.val - 0x37)
  else none

/-- The unit that four hexadecimal digits spell. -/
def hexUnit (a b c d : CodePoint) : Option Nat := do
  let a ← hexValue a
  let b ← hexValue b
  let c ← hexValue c
  let d ← hexValue d
  return ((a * 16 + b) * 16 + c) * 16 + d

/-- The character a one-letter escape stands for. -/
def shortEscape (e : CodePoint) : Option CodePoint :=
  if e = 0x22 then some 0x22
  else if e = 0x5C then some 0x5C
  else if e = 0x2F then some 0x2F
  else if e = 0x62 then some 0x08
  else if e = 0x66 then some 0x0C
  else if e = 0x6E then some 0x0A
  else if e = 0x72 then some 0x0D
  else if e = 0x74 then some 0x09
  else none

/-- Puts characters before what a string scan has read. -/
def emit (out : Text) (r : Text × Text) : Text × Text := (out ++ r.1, r.2)

/-- The characters of a string up to its closing quote, and what follows.
`high` is an escaped high surrogate whose partner may come next. -/
def parseChars : Option CodePoint → Text → Option (Text × Text)
  | _, [] => none
  | high, c :: s =>
    if c = 0x22 then some (high.toList, s)
    else if c = 0x5C then
      match s with
      | [] => none
      | e :: t =>
        if e = 0x75 then
          match t with
          | h1 :: h2 :: h3 :: h4 :: rest =>
            match hexUnit h1 h2 h3 h4 with
            | none => none
            | some n =>
              let u := codePoint n
              match high with
              | some hi =>
                if isLowSurrogate u then
                  (parseChars none rest).map
                    (emit [codePoint (0x10000 + (hi.val - 0xD800) * 1024 + (n - 0xDC00))])
                else if isHighSurrogate u then (parseChars (some u) rest).map (emit [hi])
                else (parseChars none rest).map (emit [hi, u])
              | none =>
                if isHighSurrogate u then parseChars (some u) rest
                else (parseChars none rest).map (emit [u])
          | _ => none
        else
          match shortEscape e with
          | none => none
          | some x => (parseChars none t).map (emit (high.toList ++ [x]))
    else if c.val < 0x20 then none
    else (parseChars none s).map (emit (high.toList ++ [c]))

/-- The leading digits and what follows them. -/
def spanDigits : Text → Text × Text
  | [] => ([], [])
  | c :: s => if isDigit c then (c :: (spanDigits s).1, (spanDigits s).2) else ([], c :: s)

/-- The number that decimal digits spell. -/
def digitsValue (ds : Text) : Nat := ds.foldl (fun n d => n * 10 + (d.val - 0x30)) 0

/-- `(\.\d+)?` -/
def fractionPart (s : Text) : Text × Text :=
  match s with
  | c :: t =>
    if c = 0x2E ∧ (spanDigits t).1 ≠ [] then (c :: (spanDigits t).1, (spanDigits t).2)
    else ([], s)
  | [] => ([], [])

/-- `([eE][-+]?\d+)?` -/
def exponentPart (s : Text) : Text × Text :=
  match s with
  | c :: t =>
    if c = 0x65 ∨ c = 0x45 then
      let (sign, u) : Text × Text :=
        match t with
        | g :: u => if g = 0x2B ∨ g = 0x2D then ([g], u) else ([], t)
        | [] => ([], t)
      if (spanDigits u).1 ≠ [] then (c :: sign ++ (spanDigits u).1, (spanDigits u).2)
      else ([], s)
    else ([], s)
  | [] => ([], [])

/-- The integer digits `0|[1-9]\d*` and what follows. -/
def integerPart : Text → Option (Text × Text)
  | [] => none
  | c :: s =>
    if c = 0x30 then some ([c], s)
    else if isDigit c then some (c :: (spanDigits s).1, (spanDigits s).2)
    else none

/-- A number: an integer unless a fraction or an exponent follows. -/
def parseNumber (s : Text) : Option (Json × Text) :=
  let negative := s.head? = some 0x2D
  match integerPart (if negative then s.drop 1 else s) with
  | none => none
  | some (ds, r) =>
    let (fraction, r1) := fractionPart r
    let (exponent, r2) := exponentPart r1
    if fraction = [] ∧ exponent = [] then
      some (.int (if negative then -(digitsValue ds : Int) else digitsValue ds), r)
    else some (.float ((if negative then [0x2D] else []) ++ ds ++ fraction ++ exponent), r2)

/-- A fixed word, of which the first letter is already known. -/
def keyword (word : Text) (v : Json) (s : Text) : Option (Json × Text) :=
  if word.isPrefixOf s then some (v, s.drop word.length) else none

/-- Drops one expected character. -/
def expect (k : CodePoint) : Text → Option Text
  | [] => none
  | c :: s => if c = k then some s else none

mutual

/-- A value and what follows it. -/
def parseValue : Nat → Text → Option (Json × Text)
  | 0, _ => none
  | _ + 1, [] => none
  | n + 1, c :: s =>
    if c = 0x22 then (parseChars none s).map fun r => (.str r.1, r.2)
    else if c = 0x7B then
      match expect 0x7D (skipWs s) with
      | some r => some (.obj [], r)
      | none =>
        match parseFields n (skipWs s) with
        -- the pairs hook refuses a repeated key
        | some (fs, r) => if (fs.map Prod.fst).Nodup then some (.obj fs, r) else none
        | none => none
    else if c = 0x5B then
      match expect 0x5D (skipWs s) with
      | some r => some (.arr [], r)
      | none => (parseItems n (skipWs s)).map fun r => (.arr r.1, r.2)
    else if c = 0x6E then keyword (py "null") .null (c :: s)
    else if c = 0x74 then keyword (py "true") (.bool true) (c :: s)
    else if c = 0x66 then keyword (py "false") (.bool false) (c :: s)
    else parseNumber (c :: s)

/-- The items of a nonempty array, up to the closing bracket. -/
def parseItems : Nat → Text → Option (List Json × Text)
  | 0, _ => none
  | n + 1, s =>
    match parseValue n s with
    | none => none
    | some (v, r) =>
      match expect 0x5D (skipWs r) with
      | some r1 => some ([v], r1)
      | none =>
        match expect 0x2C (skipWs r) with
        | some r1 => (parseItems n (skipWs r1)).map fun p => (v :: p.1, p.2)
        | none => none

/-- The fields of a nonempty object, up to the closing brace. -/
def parseFields : Nat → Text → Option (List (Text × Json) × Text)
  | 0, _ => none
  | n + 1, s =>
    match (expect 0x22 s).bind (parseChars none) with
    | none => none
    | some (k, r) =>
      match expect 0x3A (skipWs r) with
      | none => none
      | some r1 =>
        match parseValue n (skipWs r1) with
        | none => none
        | some (v, r2) =>
          match expect 0x7D (skipWs r2) with
          | some r3 => some ([(k, v)], r3)
          | none =>
            match expect 0x2C (skipWs r2) with
            | some r3 => (parseFields n (skipWs r3)).map fun p => ((k, v) :: p.1, p.2)
            | none => none

end

/-- `json.loads` on a text. -/
def loads (s : Text) : Option Json :=
  match parseValue (s.length + 1) (skipWs s) with
  | some (v, r) => if skipWs r = [] then some v else none
  | none => none

/-- `json.loads` on bytes. -/
def loadsBytes (bs : Bytes) : Option Json := (decodeDetected bs).bind loads

/-! ### Fields of an object -/

/-- `data[key]`. -/
def field (fs : List (Text × Json)) (key : Text) : Option Json := fs.lookup key

end Json

example : Json.dumps false (.obj [(py "b", .int (-12)), (py "a", .arr [.null, .str (py "x")])])
    = py "\x7b\"a\":[null,\"x\"],\"b\":-12\x7d" := by decide

end PyLib
