/-
SpecStyle/Lib/Schema.lean

Strict models of records: what a model takes, and what it is dumped to, as
pydantic documents it for `strict=True` and `extra="forbid"`.  Pydantic is no
part of the source; this is what a class declares to it.

A `Codec` of a type says how a value is dumped to a primitive and which
primitives are validated to a value.  Its law is that of a second validation:
a dump, its lists made tuples, is validated to the value it came from
(`Codec.validate_dump`).  Strict validation refuses a list where it wants a
tuple, so the law is about `Prim.tuples` of the dump.  A dump itself has no
tuples, and no key twice (`Codec.dump_plain`).

The codec of a record is built from codecs of its fields (`Fields`), and the
law comes with it: nothing is proved again for a new record.  A record is
dumped in the order of its fields (`Fields.names_dump`), and validated
only from those (`Codec.model`).
-/
import SpecStyle.Lib.Binary64

namespace PyLib

/-! ### Primitives -/

/-- What a model is dumped to, and what one is built from. -/
inductive Prim where
  | none
  | bool (b : Bool)
  | int (n : Int)
  | float (x : Binary64)
  | str (s : Text)
  | list (items : List Prim)
  | tuple (items : List Prim)
  | dict (fields : List (String × Prim))

namespace Prim

mutual

/-- Lists made tuples, at every depth below lists and dictionaries. -/
def tuples : Prim → Prim
  | .list items => .tuple (tuplesItems items)
  | .dict fields => .dict (tuplesFields fields)
  | p => p

def tuplesItems : List Prim → List Prim
  | [] => []
  | p :: ps => tuples p :: tuplesItems ps

def tuplesFields : List (String × Prim) → List (String × Prim)
  | [] => []
  | (k, p) :: fs => (k, tuples p) :: tuplesFields fs

end

theorem tuplesItems_eq_map (ps : List Prim) : tuplesItems ps = ps.map tuples := by
  induction ps with
  | nil => rfl
  | cons p ps ih => rw [tuplesItems, ih, List.map_cons]

theorem tuplesFields_eq_map (fs : List (String × Prim)) :
    tuplesFields fs = fs.map fun f => (f.1, f.2.tuples) := by
  induction fs with
  | nil => rfl
  | cons f fs ih => rw [tuplesFields, ih, List.map_cons]

/-- A look-up among fields made tuples. -/
theorem lookup_tuplesFields (fs : List (String × Prim)) (k : String) :
    (tuplesFields fs).lookup k = (fs.lookup k).map tuples := by
  induction fs with
  | nil => rfl
  | cons f fs ih =>
    rcases f with ⟨j, p⟩
    rw [tuplesFields, List.lookup_cons, List.lookup_cons, ih]
    cases k == j <;> rfl

/-- The value of a key that stands once. -/
theorem lookup_of_mem {fs : List (String × Prim)} (hn : (fs.map Prod.fst).Nodup)
    {f : String × Prim} (hf : f ∈ fs) : fs.lookup f.1 = some f.2 := by
  induction fs with
  | nil => cases hf
  | cons g fs ih =>
    rw [List.map_cons, List.nodup_cons] at hn
    rcases List.mem_cons.mp hf with rfl | hf
    · rw [List.lookup_cons, beq_self_eq_true]
    · have hne : (f.1 == g.1) = false := by
        rw [beq_eq_false_iff_ne]
        intro he
        apply hn.1
        rw [← he]
        exact List.mem_map_of_mem hf
      rw [List.lookup_cons, hne]
      exact ih hn.2 hf

mutual

/-- No tuple, and in every dictionary each key once. -/
def Plain : Prim → Prop
  | .tuple _ => False
  | .list items => PlainItems items
  | .dict fields => (fields.map Prod.fst).Nodup ∧ PlainFields fields
  | _ => True

def PlainItems : List Prim → Prop
  | [] => True
  | p :: ps => Plain p ∧ PlainItems ps

def PlainFields : List (String × Prim) → Prop
  | [] => True
  | (_, p) :: fs => Plain p ∧ PlainFields fs

end

theorem plainItems_iff {ps : List Prim} : PlainItems ps ↔ ∀ p ∈ ps, Plain p := by
  induction ps with
  | nil => simp [PlainItems]
  | cons p ps ih => simp [PlainItems, ih]

theorem plainFields_iff {fs : List (String × Prim)} : PlainFields fs ↔ ∀ f ∈ fs, Plain f.2 := by
  induction fs with
  | nil => simp [PlainFields]
  | cons f fs ih => simp [PlainFields, ih]

end Prim

/-! ### Codecs -/

/-- How values of a type are dumped, and which primitives are values. -/
structure Codec (α : Type) where
  dump : α → Prim
  validate : Prim → Option α
  /-- A dump is validated again. -/
  validate_dump : ∀ a, validate (dump a).tuples = some a
  dump_plain : ∀ a, (dump a).Plain

namespace Codec

variable {α β : Type}

/-- A type with one value, which is written as a fixed word. -/
structure Only (word : String) where
  deriving DecidableEq

/-- `Literal["word"]` -/
def only (word : String) : Codec (Only word) where
  dump := fun _ => .str (py word)
  validate
    | .str s => if s = py word then some {} else none
    | _ => none
  validate_dump := fun _ => if_pos rfl
  dump_plain := fun _ => trivial

/-- `Literal[False]`, and nothing that only equals it -/
def onlyFalse : Codec (Only "False") where
  dump := fun _ => .bool false
  validate
    | .bool false => some {}
    | _ => none
  validate_dump := fun _ => rfl
  dump_plain := fun _ => trivial

/-- `Literal[...]` with several words -/
def choice (all : List α) (value : α → Text) (h : ∀ a, all.find? (value · == value a) = some a) :
    Codec α where
  dump := fun a => .str (value a)
  validate
    | .str s => all.find? (value · == s)
    | _ => none
  validate_dump := h
  dump_plain := fun _ => trivial

/-- `bool` -/
def bool : Codec Bool where
  dump := .bool
  validate
    | .bool b => some b
    | _ => none
  validate_dump := fun _ => rfl
  dump_plain := fun _ => trivial

/-- `str`, under a test that gives the text kept -/
def text (parse : Text → Option α) (value : α → Text) (h : ∀ a, parse (value a) = some a) :
    Codec α where
  dump := fun a => .str (value a)
  validate
    | .str s => parse s
    | _ => none
  validate_dump := h
  dump_plain := fun _ => trivial

/-- A text under a test. -/
def checked (test : Text → Bool) : Codec {t : Text // test t = true} :=
  text (fun t => if h : test t = true then some ⟨t, h⟩ else none) (·.val)
    fun a => dif_pos a.property

/-- `int` between bounds, and a multiple of a number -/
def natural (test : Nat → Bool) : Codec {n : Nat // test n = true} where
  dump := fun n => .int n.val
  validate
    | .int (.ofNat n) => if h : test n = true then some ⟨n, h⟩ else none
    | _ => none
  validate_dump := fun n => dif_pos n.property
  dump_plain := fun _ => trivial

/-- `float`, an integer converted to one -/
def number (test : Binary64 → Bool) (ofInt : Int → Binary64) :
    Codec {x : Binary64 // test x = true} where
  dump := fun x => .float x.val
  validate
    | .float x => if h : test x = true then some ⟨x, h⟩ else none
    | .int n => if h : test (ofInt n) = true then some ⟨ofInt n, h⟩ else none
    | _ => none
  validate_dump := fun x => dif_pos x.property
  dump_plain := fun _ => trivial

/-- `α | None` -/
def optional (c : Codec α) (h : ∀ a, (c.dump a).tuples ≠ .none) : Codec (Option α) where
  dump
    | some a => c.dump a
    | none => .none
  validate
    | .none => some none
    | p => (c.validate p).map some
  validate_dump := by
    rintro (- | a)
    · rfl
    · have hv := c.validate_dump a
      have hn := h a
      show (match (c.dump a).tuples with
        | .none => some none
        | p => (c.validate p).map some) = _
      split
      · contradiction
      · rw [hv]
        rfl
  dump_plain := by
    rintro (- | a)
    · trivial
    · exact c.dump_plain a

/-- `tuple[α, ...]` -/
def tupleOf (c : Codec α) : Codec (List α) where
  dump := fun as => .list (as.map c.dump)
  validate
    | .tuple items => items.mapM c.validate
    | _ => none
  validate_dump := by
    intro as
    show (Prim.tuplesItems (as.map c.dump)).mapM c.validate = some as
    rw [Prim.tuplesItems_eq_map]
    induction as with
    | nil => rfl
    | cons a as ih =>
      rw [List.map_cons, List.map_cons, List.mapM_cons, c.validate_dump a, ih]
      rfl
  dump_plain := by
    intro as
    show Prim.PlainItems (as.map c.dump)
    rw [Prim.plainItems_iff]
    intro p hp
    obtain ⟨a, -, rfl⟩ := List.mem_map.mp hp
    exact c.dump_plain a

/-- `tuple[α, β]` -/
def pair (c : Codec α) (d : Codec β) : Codec (α × β) where
  dump := fun p => .list [c.dump p.1, d.dump p.2]
  validate
    | .tuple [a, b] => (c.validate a).bind fun a => (d.validate b).map fun b => (a, b)
    | _ => none
  validate_dump := by
    rintro ⟨a, b⟩
    show ((c.validate (c.dump a).tuples).bind fun a => (d.validate (d.dump b).tuples).map
      fun b => (a, b)) = some (a, b)
    rw [c.validate_dump a, d.validate_dump b]
    rfl
  dump_plain := fun p => ⟨c.dump_plain p.1, d.dump_plain p.2, trivial⟩

/-- A validator after the others. -/
def refine (c : Codec α) (test : α → Bool) : Codec {a : α // test a = true} where
  dump := fun a => c.dump a.val
  validate := fun p => (c.validate p).bind fun a => if h : test a = true then some ⟨a, h⟩ else none
  validate_dump := by
    intro a
    rw [c.validate_dump a.val]
    exact dif_pos a.property
  dump_plain := fun a => c.dump_plain a.val

end Codec

/-! ### Records -/

/-- The named fields of a record.  A record is validated from a look-up of
its fields. -/
structure Fields (α : Type) where
  names : List String
  dump : α → List (String × Prim)
  validate : (String → Option Prim) → Option α
  names_dump : ∀ a, (dump a).map Prod.fst = names
  validate_dump : ∀ a lookup, (∀ f ∈ dump a, lookup f.1 = some f.2.tuples) →
    validate lookup = some a
  dump_plain : ∀ a, ∀ f ∈ dump a, f.2.Plain

namespace Fields

variable {α β : Type}

/-- A required field. -/
def field (name : String) (c : Codec α) : Fields α where
  names := [name]
  dump := fun a => [(name, c.dump a)]
  validate := fun lookup => (lookup name).bind c.validate
  names_dump := fun _ => rfl
  validate_dump := by
    intro a lookup h
    rw [h _ (List.mem_singleton_self _)]
    exact c.validate_dump a
  dump_plain := by
    intro a f hf
    rw [List.mem_singleton.mp hf]
    exact c.dump_plain a

/-- A field with a default. -/
def default (name : String) (c : Codec α) (value : α) : Fields α where
  names := [name]
  dump := fun a => [(name, c.dump a)]
  validate := fun lookup =>
    match lookup name with
    | some p => c.validate p
    | none => some value
  names_dump := fun _ => rfl
  validate_dump := by
    intro a lookup h
    rw [h _ (List.mem_singleton_self _)]
    exact c.validate_dump a
  dump_plain := by
    intro a f hf
    rw [List.mem_singleton.mp hf]
    exact c.dump_plain a

/-- Fields after fields. -/
def and (F : Fields α) (G : Fields β) : Fields (α × β) where
  names := F.names ++ G.names
  dump := fun p => F.dump p.1 ++ G.dump p.2
  validate := fun lookup => (F.validate lookup).bind fun a => (G.validate lookup).map fun b => (a, b)
  names_dump := by
    rintro ⟨a, b⟩
    rw [List.map_append, F.names_dump, G.names_dump]
  validate_dump := by
    rintro ⟨a, b⟩ lookup h
    rw [F.validate_dump a lookup fun f hf => h f (List.mem_append_left _ hf),
      G.validate_dump b lookup fun f hf => h f (List.mem_append_right _ hf)]
    rfl
  dump_plain := by
    rintro ⟨a, b⟩ f hf
    rcases List.mem_append.mp hf with hf | hf
    · exact F.dump_plain a f hf
    · exact G.dump_plain b f hf

/-- The record of the fields. -/
def record (F : Fields α) (build : α → β) (parts : β → α) (h : ∀ b, build (parts b) = b) :
    Fields β where
  names := F.names
  dump := fun b => F.dump (parts b)
  validate := fun lookup => (F.validate lookup).map build
  names_dump := fun b => F.names_dump (parts b)
  validate_dump := by
    intro b lookup hl
    rw [F.validate_dump (parts b) lookup hl, Option.map_some, h]
  dump_plain := fun b => F.dump_plain (parts b)

/-- A look-up finds every field of a dump. -/
theorem lookup_dump (F : Fields α) (hnodup : F.names.Nodup) (a : α) {f : String × Prim}
    (hf : f ∈ F.dump a) : (Prim.tuplesFields (F.dump a)).lookup f.1 = some f.2.tuples := by
  have hn : ((F.dump a).map Prod.fst).Nodup := by
    rw [F.names_dump]
    exact hnodup
  rw [Prim.lookup_tuplesFields, Prim.lookup_of_mem hn hf, Option.map_some]

end Fields

/-- A model with `extra="forbid"`. -/
def Codec.model {α : Type} (F : Fields α) (hnodup : F.names.Nodup) : Codec α where
  dump := fun a => .dict (F.dump a)
  validate
    | .dict fields =>
      if fields.all fun f => f.1 ∈ F.names then F.validate fun name => fields.lookup name else none
    | _ => none
  validate_dump := by
    intro a
    show (if (Prim.tuplesFields (F.dump a)).all fun f => f.1 ∈ F.names then _ else none) = _
    rw [if_pos]
    · exact F.validate_dump a _ fun f hf => F.lookup_dump hnodup a hf
    · rw [Prim.tuplesFields_eq_map, List.all_map, List.all_eq_true]
      intro f hf
      have hm : f.1 ∈ (F.dump a).map Prod.fst := List.mem_map_of_mem hf
      rw [F.names_dump] at hm
      exact decide_eq_true hm
  dump_plain := by
    intro a
    refine ⟨?_, Prim.plainFields_iff.mpr (F.dump_plain a)⟩
    rw [F.names_dump]
    exact hnodup

end PyLib
