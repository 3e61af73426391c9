/-
SpecStyle/Lib/Run.lean

Runs of a deterministic system that may refuse an event.

`run step s log` feeds the events of `log` to `step` one after another and is
`none` as soon as one is refused.  A run splits at every prefix of its log
(`run_append`), and a property of the state and of the events so far that one
step preserves holds at the end of every accepted log (`run_invariant`).
-/
import Mathlib.Data.List.Induction

namespace PyLib

variable {σ ε : Type*} {step : σ → ε → Option σ}

/-- The state after a log, if every event is accepted. -/
def run (step : σ → ε → Option σ) : σ → List ε → Option σ
  | s, [] => some s
  | s, e :: es => (step s e).bind fun s' => run step s' es

@[simp] theorem run_nil (s : σ) : run step s [] = some s := rfl

theorem run_cons (s : σ) (e : ε) (es : List ε) :
    run step s (e :: es) = (step s e).bind fun s' => run step s' es := rfl

/-- **A run splits at every prefix.** -/
theorem run_append (s : σ) (xs ys : List ε) :
    run step s (xs ++ ys) = (run step s xs).bind fun s' => run step s' ys := by
  induction xs generalizing s with
  | nil => rfl
  | cons e xs ih =>
    rw [List.cons_append, run_cons, run_cons]
    cases step s e with
    | none => rfl
    | some s' => exact ih s'

@[simp] theorem run_singleton (s : σ) (e : ε) : run step s [e] = step s e := by
  rw [run_cons]
  cases step s e <;> rfl

theorem run_concat (s : σ) (es : List ε) (e : ε) :
    run step s (es ++ [e]) = (run step s es).bind fun s' => step s' e := by
  simp [run_append]

/-- The first part of an accepted log is accepted. -/
theorem run_split {s s' : σ} {xs ys : List ε} (h : run step s (xs ++ ys) = some s') :
    ∃ m, run step s xs = some m ∧ run step m ys = some s' := by
  rw [run_append] at h
  exact Option.bind_eq_some_iff.mp h

/-- **Induction over a run.**  What holds of no events at the start, and is
kept by an accepted step, holds of every accepted log. -/
theorem run_invariant {P : List ε → σ → Prop} {s : σ} (start : P [] s)
    (keep : ∀ log s e s', P log s → step s e = some s' → P (log ++ [e]) s') {log : List ε}
    {s' : σ} (h : run step s log = some s') : P log s' := by
  induction log using List.reverseRecOn generalizing s' with
  | nil =>
    cases h
    exact start
  | append_singleton log e ih =>
    obtain ⟨m, hm, he⟩ := run_split h
    rw [run_singleton] at he
    exact keep log m e s' (ih hm) he

/-- A property of the state alone. -/
theorem run_preserves {P : σ → Prop} (keep : ∀ s e s', P s → step s e = some s' → P s') {s s' : σ}
    (start : P s) {log : List ε} (h : run step s log = some s') : P s' :=
  run_invariant (P := fun _ s => P s) start (fun _ s e s' hp he => keep s e s' hp he) h

end PyLib
