/-
SpecStyle/Spec/Diff.lean

The semantic diff of two specifications: the leaves in which their dumps
differ, with their paths in order.

The walk goes along the fields of the left dictionary and then along those
that only the right one has; its result is put in the order of the keys, in
which the source walks.  A value does not differ from itself (`walk_self`),
dictionaries with the same keys differ where their values do (`walk_rows`),
and a field more is one change (`walk_concat`).
-/
import SpecStyle.Spec.Models

namespace SpecStyle

open PyLib

/-- `FieldChange.kind` -/
inductive ChangeKind where
  | added | removed | changed
  deriving DecidableEq

/-- `FieldChange` -/
structure FieldChange where
  path : String
  kind : ChangeKind
  before : Prim
  after : Prim

/-- The number a primitive is, in the units of a double. -/
def Prim.units : Prim → Option Int
  | .bool b => some (b.toNat * Binary64.one.value)
  | .int n => some (n * Binary64.one.value)
  | .float x => some x.value
  | _ => none

/-- `left == right` where they are neither two dictionaries nor two lists; a
dump has no tuples. -/
def Prim.same (p q : Prim) : Bool :=
  match Prim.units p, Prim.units q with
  | some a, some b => a == b
  | some _, none => false
  | none, some _ => false
  | none, none =>
    match p, q with
    | .none, .none => true
    | .str s, .str t => s == t
    | _, _ => false

/-- `f"{path}.{key}" if path else key` -/
def childPath (path key : String) : String := if path = "" then key else path ++ "." ++ key

/-- `f"{path}[{i}]"` -/
def itemPath (path : String) (i : Nat) : String := path ++ "[" ++ toString i ++ "]"

/-- The fields that only the right dictionary has. -/
def addedFields (ls rs : List (String × Prim)) (path : String) :
    List (String × List FieldChange) :=
  (rs.filter fun f => (ls.lookup f.1).isNone).map fun f =>
    (f.1, [⟨childPath path f.1, .added, .none, f.2⟩])

/-- The changes of each key, in the order of the keys. -/
def inKeyOrder (changes : List (String × List FieldChange)) : List FieldChange :=
  (changes.insertionSort fun a b => a.1 ≤ b.1).flatMap (·.2)

mutual

/-- `_walk` -/
def walk : Prim → Prim → String → List FieldChange
  | .dict ls, .dict rs, path => inKeyOrder (walkFields ls rs path ++ addedFields ls rs path)
  | .list ls, .list rs, path => walkItems ls rs path 0
  | p, q, path => if Prim.same p q then [] else [⟨if path = "" then "$" else path, .changed, p, q⟩]

def walkFields : List (String × Prim) → List (String × Prim) → String →
    List (String × List FieldChange)
  | [], _, _ => []
  | (k, p) :: ls, rs, path =>
    (k, match rs.lookup k with
      | some q => walk p q (childPath path k)
      | none => [⟨childPath path k, .removed, p, .none⟩]) :: walkFields ls rs path

def walkItems : List Prim → List Prim → String → Nat → List FieldChange
  | [], rs, path, i =>
    (rs.zipIdx i).map fun q => ⟨itemPath path q.2, .added, .none, q.1⟩
  | p :: ls, [], path, i =>
    ⟨itemPath path i, .removed, p, .none⟩ :: walkItems ls [] path (i + 1)
  | p :: ls, q :: rs, path, i => walk p q (itemPath path i) ++ walkItems ls rs path (i + 1)

end

/-- `SpecDiff` -/
structure SpecDiff where
  sourceVersion : String
  targetVersion : String
  changes : List FieldChange

namespace Spec

/-- `_version_of` -/
def versionOf : StyleSpec → String
  | .v1 _ => "1.0"
  | .v11 _ => "1.1"

/-- `semantic_diff` -/
def semanticDiff (pydantic : Pydantic) (left right : StyleSpec) : SpecDiff :=
  ⟨versionOf left, versionOf right,
    (walk (pydantic.modelDump left) (pydantic.modelDump right) "").insertionSort
      fun a b => a.path ≤ b.path⟩

end Spec

/-! ### A value and itself -/

/-- Keys without changes leave no changes. -/
theorem inKeyOrder_eq_nil {changes : List (String × List FieldChange)}
    (h : ∀ c ∈ changes, c.2 = []) : inKeyOrder changes = [] := by
  unfold inKeyOrder
  rw [List.flatMap_eq_nil_iff]
  intro c hc
  exact h c ((List.mem_insertionSort _).mp hc)

/-- Nothing is added to the same keys. -/
theorem addedFields_eq_nil {ls rs : List (String × Prim)} {path : String}
    (h : ∀ f ∈ rs, (ls.lookup f.1).isSome = true) : addedFields ls rs path = [] := by
  unfold addedFields
  rw [List.map_eq_nil_iff, List.filter_eq_nil_iff]
  intro f hf hn
  rw [Option.isNone_iff_eq_none] at hn
  have hs := h f hf
  rw [hn] at hs
  cases hs

mutual

/-- A value does not differ from itself. -/
theorem walk_self (p : Prim) (hp : p.Plain) (path : String) : walk p p path = [] := by
  cases p with
  | tuple items => exact hp.elim
  | dict fields =>
    have hl : ∀ f ∈ fields, fields.lookup f.1 = some f.2 := fun f hf =>
      Prim.lookup_of_mem hp.1 hf
    rw [walk, addedFields_eq_nil fun f hf => by rw [hl f hf]; rfl, List.append_nil]
    exact inKeyOrder_eq_nil (walkFields_self fields fields path hp.2 hl)
  | list items =>
    rw [walk]
    exact walkItems_self items hp path 0
  | _ => simp [walk, Prim.same, Prim.units]

/-- Fields found in a dictionary do not differ from it. -/
theorem walkFields_self (ls rs : List (String × Prim)) (path : String) (hp : Prim.PlainFields ls)
    (hl : ∀ f ∈ ls, rs.lookup f.1 = some f.2) : ∀ c ∈ walkFields ls rs path, c.2 = [] := by
  cases ls with
  | nil =>
    intro c hc
    cases hc
  | cons f ls =>
    cases f with
    | mk k p =>
    intro c hc
    rw [walkFields, hl (k, p) List.mem_cons_self] at hc
    rcases List.mem_cons.mp hc with rfl | hc
    · exact walk_self p hp.1 _
    · exact walkFields_self ls rs path hp.2 (fun f hf => hl f (List.mem_cons_of_mem _ hf)) c hc

theorem walkItems_self (ps : List Prim) (hp : Prim.PlainItems ps) (path : String) (i : Nat) :
    walkItems ps ps path i = [] := by
  cases ps with
  | nil => rfl
  | cons p ps => rw [walkItems, walk_self p hp.1, walkItems_self ps hp.2, List.nil_append]

end

/-! ### Two dictionaries -/

/-- A key of both dictionaries with its two values. -/
structure Row where
  key : String
  left : Prim
  right : Prim

/-- A key with the same value in both. -/
def Row.same {α : Type} (key : String) (c : Codec α) (a : α) : Row := ⟨key, c.dump a, c.dump a⟩

theorem walkFields_rows (rows : List Row) (rs : List (String × Prim)) (path : String)
    (h : ∀ r ∈ rows, rs.lookup r.key = some r.right) :
    walkFields (rows.map fun r => (r.key, r.left)) rs path =
      rows.map fun r => (r.key, walk r.left r.right (childPath path r.key)) := by
  induction rows with
  | nil => rfl
  | cons r rows ih =>
    rw [List.map_cons, List.map_cons, walkFields, h r List.mem_cons_self,
      ih fun r hr => h r (List.mem_cons_of_mem _ hr)]

/-- Dictionaries with the same keys differ where the values of a key do. -/
theorem walk_rows (rows : List Row) (path : String) (hn : (rows.map Row.key).Nodup) :
    walk (.dict (rows.map fun r => (r.key, r.left))) (.dict (rows.map fun r => (r.key, r.right)))
      path = inKeyOrder (rows.map fun r => (r.key, walk r.left r.right (childPath path r.key))) := by
  have hkeys (value : Row → Prim) : ((rows.map fun r => (r.key, value r)).map Prod.fst).Nodup := by
    rw [List.map_map]
    exact hn
  have hlookup (value : Row → Prim) (r : Row) (hr : r ∈ rows) :
      (rows.map fun r => (r.key, value r)).lookup r.key = some (value r) :=
    Prim.lookup_of_mem (hkeys value)
      (List.mem_map_of_mem (f := fun r : Row => (r.key, value r)) hr)
  rw [walk, walkFields_rows rows _ path (hlookup Row.right), addedFields_eq_nil, List.append_nil]
  intro f hf
  obtain ⟨r, hr, rfl⟩ := List.mem_map.mp hf
  rw [hlookup Row.left r hr]
  rfl

/-- Where one key has changes, they are all changes. -/
theorem inKeyOrder_concat {changes : List (String × List FieldChange)} {k : String}
    {c : FieldChange} (h : ∀ c ∈ changes, c.2 = []) :
    inKeyOrder (changes ++ [(k, [c])]) = [c] := by
  have hperm := (List.perm_insertionSort (fun a b : String × List FieldChange => a.1 ≤ b.1)
    (changes ++ [(k, [c])])).flatMap_right (·.2)
  rw [List.flatMap_append, List.flatMap_eq_nil_iff.mpr h] at hperm
  exact List.perm_singleton.mp hperm

/-- A field more in a dictionary is one change. -/
theorem walk_concat {fs : List (String × Prim)} {k : String} {p : Prim} {path : String}
    (hp : (Prim.dict fs).Plain) (hk : k ∉ fs.map Prod.fst) :
    walk (.dict fs) (.dict (fs ++ [(k, p)])) path = [⟨childPath path k, .added, .none, p⟩] := by
  have hl : ∀ f ∈ fs, fs.lookup f.1 = some f.2 := fun f hf => Prim.lookup_of_mem hp.1 hf
  have hr : ∀ f ∈ fs, (fs ++ [(k, p)]).lookup f.1 = some f.2 := by
    intro f hf
    rw [List.lookup_append, hl f hf]
    rfl
  have hadded : addedFields fs (fs ++ [(k, p)]) path =
      [(k, [⟨childPath path k, .added, .none, p⟩])] := by
    have hnone : fs.lookup k = none := by
      rw [List.lookup_eq_none_iff]
      intro f hf
      rw [bne_iff_ne]
      rintro rfl
      exact hk (List.mem_map_of_mem hf)
    have hfs : fs.filter (fun f => (fs.lookup f.1).isNone) = [] := by
      rw [List.filter_eq_nil_iff]
      intro f hf
      rw [hl f hf]
      exact Bool.false_ne_true
    unfold addedFields
    rw [List.filter_append, hfs, List.filter_cons_of_pos (by rw [hnone]; rfl)]
    rfl
  rw [walk, hadded]
  exact inKeyOrder_concat (walkFields_self fs _ path hp.2 hr)

end SpecStyle
