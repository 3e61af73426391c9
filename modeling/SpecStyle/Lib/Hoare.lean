/-
SpecStyle/Lib/Hoare.lean

Rules for programs that change a state and may raise, at any point.

`Triple P m Q R` says that from a state satisfying `P` the program `m` either
returns `a` in a state satisfying `Q a`, or raises `e` in a state satisfying
`R e`.  A crash is an exception that no handler catches, so `R` is also the
crash condition: it must hold wherever the program can stop.  There is one
rule for each way to build a program; `bind` carries the crash condition of
the first part over to the whole, `tryCatch` hands it to the handler.
-/
import Mathlib.Logic.Basic

namespace PyLib

variable {ε σ α β : Type}

/-- A program over the states `σ` that may raise `ε`. -/
abbrev Prog (ε σ α : Type) := ExceptT ε (StateM σ) α

/-- Runs a program: what it returns or raises, and the state it leaves. -/
def exec (m : Prog ε σ α) (s : σ) : Except ε α × σ := m.run.run s

/-- Total correctness with an exceptional postcondition. -/
def Triple (P : σ → Prop) (m : Prog ε σ α) (Q : α → σ → Prop) (R : ε → σ → Prop) : Prop :=
  ∀ s, P s → match exec m s with
    | (.ok a, s') => Q a s'
    | (.error e, s') => R e s'

variable {P P' : σ → Prop} {Q Q' : α → σ → Prop} {R R' : ε → σ → Prop}

/-! ### Running -/

@[simp] theorem exec_pure (a : α) (s : σ) : exec (pure a : Prog ε σ α) s = (.ok a, s) := rfl

@[simp] theorem exec_throw (e : ε) (s : σ) : exec (throw e : Prog ε σ α) s = (.error e, s) := rfl

@[simp] theorem exec_get (s : σ) : exec (get : Prog ε σ σ) s = (.ok s, s) := rfl

@[simp] theorem exec_set (t s : σ) : exec (set t : Prog ε σ PUnit) s = (.ok ⟨⟩, t) := rfl

@[simp] theorem exec_modify (f : σ → σ) (s : σ) :
    exec (modify f : Prog ε σ PUnit) s = (.ok ⟨⟩, f s) := rfl

theorem exec_bind (m : Prog ε σ α) (f : α → Prog ε σ β) (s : σ) :
    exec (m >>= f) s = match exec m s with
      | (.ok a, s') => exec (f a) s'
      | (.error e, s') => (.error e, s') := by
  change (match (m.run.run s) with
    | (x, s') => (ExceptT.bindCont f x).run s') = _
  unfold exec
  rcases m.run.run s with ⟨_ | _, _⟩ <;> rfl

theorem exec_tryCatch (m : Prog ε σ α) (h : ε → Prog ε σ α) (s : σ) :
    exec (tryCatch m h) s = match exec m s with
      | (.ok a, s') => (.ok a, s')
      | (.error e, s') => exec (h e) s' := by
  unfold exec
  change (match m.run.run s with
    | (x, s') => (match x with
      | .ok a => (Pure.pure (.ok a) : StateM σ (Except ε α))
      | .error e => (h e).run).run s') = _
  rcases m.run.run s with ⟨_ | _, _⟩ <;> rfl

/-- The program with its exceptions translated. -/
def adapt {ε' : Type} (f : ε → ε') (m : Prog ε σ α) : Prog ε' σ α := ExceptT.adapt f m

theorem exec_adapt {ε' : Type} (f : ε → ε') (m : Prog ε σ α) (s : σ) :
    exec (adapt f m) s = match exec m s with
      | (.ok a, s') => (.ok a, s')
      | (.error e, s') => (.error (f e), s') := by
  unfold exec adapt ExceptT.adapt
  change (match m.run.run s with
    | (x, s') => (Except.mapError f x, s')) = _
  rcases m.run.run s with ⟨_ | _, _⟩ <;> rfl

/-! ### Rules -/

theorem Triple.pure {a : α} (h : ∀ s, P s → Q a s) : Triple P (Pure.pure a) Q R := h

theorem Triple.throw {e : ε} (h : ∀ s, P s → R e s) : Triple P (throw e : Prog ε σ α) Q R := h

theorem Triple.bind {I : β → σ → Prop} {m : Prog ε σ β} {f : β → Prog ε σ α}
    (hm : Triple P m I R) (hf : ∀ a, Triple (I a) (f a) Q R) : Triple P (m >>= f) Q R := by
  intro s hs
  have h1 := hm s hs
  rw [exec_bind]
  rcases hx : exec m s with ⟨e | a, s'⟩
  · rw [hx] at h1
    exact h1
  · rw [hx] at h1
    exact hf a s' h1

theorem Triple.tryCatch {I : ε → σ → Prop} {m : Prog ε σ α} {h : ε → Prog ε σ α}
    (hm : Triple P m Q I) (hh : ∀ e, Triple (I e) (h e) Q R) : Triple P (tryCatch m h) Q R := by
  intro s hs
  have h1 := hm s hs
  rw [exec_tryCatch]
  rcases hx : exec m s with ⟨e | a, s'⟩
  · rw [hx] at h1
    exact hh e s' h1
  · rw [hx] at h1
    exact h1

theorem Triple.adapt {ε' : Type} {R : ε' → σ → Prop} {f : ε → ε'} {m : Prog ε σ α}
    (h : Triple P m Q fun e => R (f e)) : Triple P (adapt f m) Q R := by
  intro s hs
  have h1 := h s hs
  rw [exec_adapt]
  rcases hx : exec m s with ⟨e | a, s'⟩
  · rw [hx] at h1
    exact h1
  · rw [hx] at h1
    exact h1

/-- The rule of consequence. -/
theorem Triple.conseq {m : Prog ε σ α} (h : Triple P' m Q' R') (hp : ∀ s, P s → P' s)
    (hq : ∀ a s, Q' a s → Q a s) (hr : ∀ e s, R' e s → R e s) : Triple P m Q R := by
  intro s hs
  have h1 := h s (hp s hs)
  rcases hx : exec m s with ⟨e | a, s'⟩
  · rw [hx] at h1
    exact hr e s' h1
  · rw [hx] at h1
    exact hq a s' h1

/-- Two triples of one program. -/
theorem Triple.and {m : Prog ε σ α} (h : Triple P m Q R) (h' : Triple P m Q' R') :
    Triple P m (fun a s => Q a s ∧ Q' a s) fun e s => R e s ∧ R' e s := by
  intro s hs
  have h1 := h s hs
  have h2 := h' s hs
  rcases hx : exec m s with ⟨e | a, s'⟩
  · rw [hx] at h1 h2
    exact ⟨h1, h2⟩
  · rw [hx] at h1 h2
    exact ⟨h1, h2⟩

/-- A precondition that fixes part of the state is split into its cases. -/
theorem Triple.exists_pre {ι : Type} {P : ι → σ → Prop} {m : Prog ε σ α}
    (h : ∀ i, Triple (P i) m Q R) : Triple (fun s => ∃ i, P i s) m Q R :=
  fun s ⟨i, hi⟩ => h i s hi

/-- A pure fact in the precondition is a hypothesis. -/
theorem Triple.pure_pre {φ : Prop} {m : Prog ε σ α} (h : φ → Triple P m Q R) :
    Triple (fun s => P s ∧ φ) m Q R :=
  fun s ⟨hs, hφ⟩ => h hφ s hs

theorem Triple.ite {c : Prop} [Decidable c] {m m' : Prog ε σ α} (ht : c → Triple P m Q R)
    (hf : ¬ c → Triple P m' Q R) : Triple P (if c then m else m') Q R := by
  split
  · next h => exact ht h
  · next h => exact hf h

end PyLib
