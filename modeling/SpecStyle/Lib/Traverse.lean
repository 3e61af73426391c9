/-
SpecStyle/Lib/Traverse.lean

A function with a state, run over a list from left to right, and the measures
of a JSON tree.

`inOrder` keeps what holds of every result (`inOrder_forall`), does not see
what the function does not see (`inOrder_congr`), and costs what the state pays
for: a cost that each call pays from a potential of the state, up to a fixed
part, is paid so by the whole list (`inOrder_cost`).
-/
import SpecStyle.Lib.Json
import Mathlib.Data.List.Forall2

namespace PyLib

/-! ### Lists -/

section InOrder

variable {α β σ : Type}

/-- The results of `f` on the items in order, and the state after them. -/
def inOrder (f : α → σ → β × σ) : List α → σ → List β × σ
  | [], s => ([], s)
  | a :: as, s =>
    let head := f a s
    let rest := inOrder f as head.2
    (head.1 :: rest.1, rest.2)

variable {f : α → σ → β × σ}

@[simp] theorem inOrder_nil (s : σ) : inOrder f [] s = ([], s) := rfl

theorem inOrder_cons (a : α) (as : List α) (s : σ) : inOrder f (a :: as) s =
    ((f a s).1 :: (inOrder f as (f a s).2).1, (inOrder f as (f a s).2).2) := rfl

/-- Items that `f` does not tell apart have one result. -/
theorem inOrder_congr {r : α → α → Prop} (hr : ∀ a b, r a b → f a = f b) {as bs : List α}
    (h : List.Forall₂ r as bs) (s : σ) : inOrder f as s = inOrder f bs s := by
  induction h generalizing s with
  | nil => rfl
  | cons hab _ ih =>
    rw [inOrder_cons, inOrder_cons, hr _ _ hab, ih]

/-- What holds of every result of `f`. -/
theorem inOrder_forall {q : β → Prop} {as : List α} (h : ∀ a ∈ as, ∀ s, q (f a s).1) (s : σ) :
    ∀ b ∈ (inOrder f as s).1, q b := by
  induction as generalizing s with
  | nil => exact fun b hb => by cases hb
  | cons a as ih =>
    intro b hb
    rcases List.mem_cons.mp hb with rfl | hb
    · exact h a List.mem_cons_self s
    · exact ih (fun a ha => h a (List.mem_cons_of_mem _ ha)) _ b hb

/-- **Amortized cost**: each item pays its cost from the potential, up to `c`. -/
theorem inOrder_cost {cost : β → Nat} {potential : σ → Nat} {c : Nat} {as : List α}
    (h : ∀ a ∈ as, ∀ s, cost (f a s).1 + potential s ≤ c + potential (f a s).2) (s : σ) :
    ((inOrder f as s).1.map cost).sum + potential s ≤
      as.length * c + potential (inOrder f as s).2 := by
  induction as generalizing s with
  | nil => exact le_of_eq (by simp)
  | cons a as ih =>
    have hhead := h a List.mem_cons_self s
    have hrest := ih (fun a ha => h a (List.mem_cons_of_mem _ ha)) (f a s).2
    rw [inOrder_cons]
    simp only [List.map_cons, List.sum_cons, List.length_cons, Nat.add_mul, Nat.one_mul]
    omega

end InOrder

/-! ### Trees -/

namespace Json

mutual

/-- The longest way down, in containers. -/
def depth : Json → Nat
  | .arr items => depthItems items + 1
  | .obj fields => depthFields fields + 1
  | _ => 0

def depthItems : List Json → Nat
  | [] => 0
  | v :: vs => max (depth v) (depthItems vs)

def depthFields : List (Text × Json) → Nat
  | [] => 0
  | (_, v) :: fs => max (depth v) (depthFields fs)

end

mutual

/-- The values of the tree, and the characters of its texts and keys. -/
def size : Json → Nat
  | .str s => s.length + 1
  | .arr items => sizeItems items + 1
  | .obj fields => sizeFields fields + 1
  | _ => 1

def sizeItems : List Json → Nat
  | [] => 0
  | v :: vs => size v + sizeItems vs

def sizeFields : List (Text × Json) → Nat
  | [] => 0
  | (k, v) :: fs => k.length + size v + sizeFields fs

end

variable {items : List Json} {fields : List (Text × Json)} {n : Nat}

theorem depth_arr_le (h : ∀ v ∈ items, depth v ≤ n) : depth (.arr items) ≤ n + 1 := by
  show depthItems items + 1 ≤ n + 1
  apply Nat.succ_le_succ
  induction items with
  | nil => exact Nat.zero_le _
  | cons v vs ih =>
    show max (depth v) (depthItems vs) ≤ n
    exact max_le (h v List.mem_cons_self) (ih fun v hv => h v (List.mem_cons_of_mem _ hv))

theorem depth_obj_le (h : ∀ f ∈ fields, depth f.2 ≤ n) : depth (.obj fields) ≤ n + 1 := by
  show depthFields fields + 1 ≤ n + 1
  apply Nat.succ_le_succ
  induction fields with
  | nil => exact Nat.zero_le _
  | cons f fs ih =>
    show max (depth f.2) (depthFields fs) ≤ n
    exact max_le (h f List.mem_cons_self) (ih fun f hf => h f (List.mem_cons_of_mem _ hf))

theorem size_arr (items : List Json) : size (.arr items) = (items.map size).sum + 1 := by
  show sizeItems items + 1 = _
  induction items with
  | nil => rfl
  | cons v vs ih =>
    show size v + sizeItems vs + 1 = (size v + (vs.map size).sum) + 1
    omega

theorem size_obj (fields : List (Text × Json)) :
    size (.obj fields) = (fields.map fun f => f.1.length + size f.2).sum + 1 := by
  show sizeFields fields + 1 = _
  induction fields with
  | nil => rfl
  | cons f fs ih =>
    show f.1.length + size f.2 + sizeFields fs + 1 =
      f.1.length + size f.2 + (fs.map fun f => f.1.length + size f.2).sum + 1
    omega

end Json

end PyLib
