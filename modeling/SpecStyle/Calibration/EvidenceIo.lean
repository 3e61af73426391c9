/-
SpecStyle/Calibration/EvidenceIo.lean

Canonical JSON and the primitive validators of the calibration evidence
(`evidence_io.py`).

A document is accepted only as its own canonical bytes: sorted keys, no
whitespace, every number as `repr` writes it.  The validators raise a
`DomainError` that names the field; `Fault` keeps apart the other exceptions
the evidence code can run into on a document of the wrong shape.

How numbers are read, written and compared and how bytes are hashed is a
parameter (`Codec`).  A repeated key is refused with every other text that is
no document, under one message.
-/
import SpecStyle.Lib.Floats
import SpecStyle.Lib.Sha2
import SpecStyle.Lib.Checks
import SpecStyle.Spec.CompiledModels

namespace SpecStyle

open PyLib

namespace Calibration

/-- What the evidence code raises. -/
inductive Fault where
  /-- `DomainError(message)` -/
  | domain (message : String)
  /-- An exception of a value object. -/
  | raised (r : Raised)
  /-- `TypeError`: an unhashable value looked up in a set, or an order between
  values that have none. -/
  | type
  /-- `AttributeError`: a method of an object called on another value. -/
  | attribute
  /-- `KeyError` -/
  | key

/-- How numbers are written and bytes are hashed. -/
structure Codec extends Floats where
  /-- `hash_bytes` -/
  hashBytes : Bytes → Sha256

/-- The sixty-four hexadecimal digits of a number. -/
def hexDigest (n : Nat) : Text :=
  Sha2.force n fun n => (List.range 64).map fun i => Json.hexDigit (n / 16 ^ (63 - i) % 16)

theorem isLowerHex_hexDigit : ∀ n < 16, isLowerHex (Json.hexDigit n) = true := by
  decide

theorem hexDigest_valid (n : Nat) :
    ((hexDigest n).length == 64 && (hexDigest n).all isLowerHex) = true := by
  have heq : hexDigest n = (List.range 64).map fun i => Json.hexDigit (n / 16 ^ (63 - i) % 16) := by
    cases n <;> rfl
  have hlen : (hexDigest n).length = 64 := by simp [heq]
  rw [heq] at hlen ⊢
  rw [Bool.and_eq_true, beq_iff_eq, List.all_eq_true]
  refine ⟨hlen, fun c hc => ?_⟩
  obtain ⟨i, -, rfl⟩ := List.mem_map.mp hc
  exact isLowerHex_hexDigit _ (Nat.mod_lt _ (by decide))

/-- The numbers and the hash of the source language. -/
def Codec.standard : Codec where
  toFloats := Floats.binary64
  hashBytes data := ⟨hexDigest (Sha2.digest data), hexDigest_valid _⟩

/-- An object of a document. -/
abbrev Dict := List (Text × Json)

/-- `raw.get(key)`, which is also `raw[key]` where the keys have been checked. -/
def Dict.get (raw : Dict) (key : String) : Json := (Json.field raw (py key)).getD .null

/-- `value == text` -/
def isText (value : Json) (text : Text) : Bool :=
  match value with
  | .str s => s == text
  | _ => false

/-- `value == [text, ...]` -/
def isTexts : Json → List Text → Bool
  | .arr values, texts =>
    values.length == texts.length && (values.zip texts).all fun p => isText p.1 p.2
  | _, _ => false

/-- The text of a value that has been checked to be one. -/
def textOf : Json → Text
  | .str s => s
  | _ => []

/-- Raises `DomainError(message)` unless the condition holds. -/
def demand (condition : Bool) (message : String) : Except Fault Unit :=
  if condition then .ok () else .error (.domain message)

@[simp] theorem demand_ok {condition : Bool} {message : String} :
    demand condition message = .ok () ↔ condition = true := by
  unfold demand
  split <;> simp [*]

variable (C : Codec)

/-! ### Canonical documents -/

/-- `canonical_json` -/
def canonicalJson (document : Json) : Except Fault Bytes :=
  match (document.rewrite C.toFloats).bind fun v => encodeUtf8 (Json.dumps false v) with
  | some data => .ok data
  | none => .error (.domain "invalid evidence document")

/-- `_load_canonical` -/
def loadCanonical (data : Bytes) : Except Fault Dict := do
  demand (data != []) "invalid evidence document"
  match decodeUtf8 data with
  | none => .error (.domain "invalid evidence encoding")
  | some text =>
    match Json.loads text with
    | some (.obj fields) => do
      let written ← canonicalJson C (.obj fields)
      demand (written == data) "evidence document is not canonical"
      return fields
    | some _ => .error (.domain "evidence document is not canonical")
    | none => .error (.domain "invalid evidence document")

/-- `evidence_sha256` -/
def evidenceSha256 (data : Bytes) : Except Fault Sha256 := do
  let _ ← loadCanonical C data
  return C.hashBytes data

/-! ### Fields -/

/-- `set(document) == keys` -/
def hasKeys (document : Dict) (keys : List String) : Bool :=
  (document.all fun f => keys.any fun k => py k == f.1) &&
    keys.all fun k => document.any fun f => py k == f.1

/-- `_exact` -/
def exact (document : Json) (keys : List String) (name : String) : Except Fault Dict :=
  match document with
  | .obj fields => do
    demand (hasKeys fields keys) ("invalid " ++ name)
    return fields
  | _ => .error (.domain ("invalid " ++ name))

/-- The texts `_text` accepts: not empty, stripped, of at most 2048 characters,
and without control characters. -/
def isPlainText (s : Text) : Bool :=
  s != [] && isStripped s && s.length ≤ 2048 && s.all fun c => !(c.val ≤ 31 || c.val == 127)

/-- `_text` -/
def text (value : Json) (name : String) : Except Fault Text :=
  match value with
  | .str s => do
    demand (isPlainText s) ("invalid " ++ name)
    return s
  | _ => .error (.domain ("invalid " ++ name))

/-- `_sha` -/
def sha (value : Json) (name : String) : Except Fault Sha256 :=
  match value with
  | .str s =>
    match Sha256.new s with
    | .ok a => .ok a
    | .error _ => .error (.domain ("invalid " ++ name))
  | _ => .error (.domain ("invalid " ++ name))

/-- `_float` -/
def float (value : Json) (name : String) : Except Fault C.Carrier :=
  match value with
  | .float literal =>
    match C.read literal with
    | some x => .ok x
    | none => .error (.domain ("invalid " ++ name))
  | _ => .error (.domain ("invalid " ++ name))

/-- `_count` -/
def count (value : Json) (name : String) (minimum : Nat) : Except Fault Nat :=
  match value with
  | .int n => do
    demand (minimum ≤ n) ("invalid " ++ name)
    return n.toNat
  | _ => .error (.domain ("invalid " ++ name))

/-- `_pin`, with the `ResourcePin` that is built of it -/
def resourcePin (value : Json) (name : String) : Except Fault ResourcePin := do
  let raw ← exact value ["id", "revision", "sha256"] name
  let id ← text (raw.get "id") (name ++ " id")
  let revision ← text (raw.get "revision") (name ++ " revision")
  let sha256 ← sha (raw.get "sha256") (name ++ " sha256")
  return ⟨id, revision, sha256⟩

/-- The member of an enumeration that a value names.  A list or an object is
unhashable, so `value in {...}` raises a `TypeError` on it. -/
def oneOf {α : Type} (all : List α) (value : α → Text) (j : Json) (message : String) :
    Except Fault α :=
  match j with
  | .str s =>
    match memberOf all value s with
    | some a => .ok a
    | none => .error (.domain message)
  | .arr _ => .error .type
  | .obj _ => .error .type
  | _ => .error (.domain message)

/-- `Identifier(value)` -/
def identifier (value : Json) : Except Fault Identifier :=
  match value with
  | .str s =>
    match Id.new .identifier s with
    | .ok a => .ok a
    | .error r => .error (.raised r)
  | _ => .error (.domain "invalid identifier")

/-! ### Round trip -/

variable {C}

/-- A document that has been written is loaded, its keys in order. -/
theorem loadCanonical_canonicalJson {fields : Dict} {data : Bytes}
    (hx : Json.Exact false (.obj fields)) (hs : Json.Settled C.toFloats (.obj fields))
    (h : canonicalJson C (.obj fields) = .ok data) :
    loadCanonical C data = .ok (Json.orderFields (Json.sortFields fields)) := by
  have hwritten : encodeUtf8 (Json.dumps false (.obj fields)) = some data := by
    unfold canonicalJson at h
    rw [Json.rewrite_settled _ hs, Option.bind_some] at h
    split at h
    · next heq =>
      cases h
      exact heq
    · cases h
  have hdecoded := decodeUtf8_encodeUtf8 hwritten
  have hloaded := Json.loads_dumps hx
  have hagain : canonicalJson C (.obj (Json.orderFields (Json.sortFields fields))) = .ok data := by
    have hsorted := Json.settled_sortKeys hs
    have hdumps := Json.dumps_sortKeys false (.obj fields)
    rw [Json.sortKeys] at hsorted hdumps
    unfold canonicalJson
    rw [Json.rewrite_settled _ hsorted, Option.bind_some, hdumps, hwritten]
  have hne : data ≠ [] := by
    rintro rfl
    have hpos := Json.print_length_pos (Json.exact_sortKeys _ hx).joined
    have hnil := Option.some.inj hdecoded
    rw [Json.dumps] at hnil
    rw [← hnil] at hpos
    exact absurd hpos (Nat.lt_irrefl 0)
  unfold loadCanonical
  rw [check_ok_iff]
  refine ⟨demand_ok.mpr (bne_iff_ne.mpr hne), ?_⟩
  rw [hdecoded]
  simp only
  rw [hloaded]
  show (canonicalJson C (.obj (Json.orderFields (Json.sortFields fields))) >>= fun written =>
    demand (written == data) _ >>= fun _ => pure _) = _
  rw [hagain, ok_bind, check_ok_iff]
  exact ⟨demand_ok.mpr (beq_self_eq_true data), rfl⟩

/-! ### What an accepted value shows -/

theorem isText_iff {value : Json} {t : Text} : isText value t = true ↔ value = .str t := by
  cases value <;> simp [isText]

end Calibration

end SpecStyle
