/-
SpecStyle/Lib/Interleaving.lean

Programs of atomic steps that share a state and run interleaved.

A `Code` is a program as a tree: a step changes the state and goes on
according to the state it saw and to its answer, which nobody controls (the
outcome of a system call, say).  `Shared` is a state with any number of
programs on it; a schedule starts programs and moves one of them by one step.
A program that is never scheduled again has crashed.

Two ways to reason about a program:

* `Safe` is for any schedule.  A `Growth` is a preorder on the states and an
  invariant; every step lets the state grow, so the facts a program relies on
  hold on while others move, and no rule asks for a frame (`Shared.run_safe`).
* `Ends` is for a program that is alone, with answers of a given kind.  Its
  rules are equations.
-/
import SpecStyle.Lib.Run

namespace PyLib

variable {σ ι ε α β κ : Type}

/-! ### Programs -/

/-- A program over the states `σ`, with answers `ι`, that may raise `ε`. -/
inductive Code (σ ι ε α : Type) where
  | done (result : Except ε α)
  | act (effect : ι → σ → σ) (next : ι → σ → Code σ ι ε α)

namespace Code

/-- One program, and then another. -/
def bind : Code σ ι ε α → (α → Code σ ι ε β) → Code σ ι ε β
  | done (.ok a), f => f a
  | done (.error e), _ => done (.error e)
  | act effect next, f => act effect fun i s => (next i s).bind f

/-- A program with a handler. -/
def handle : Code σ ι ε α → (ε → Code σ ι ε α) → Code σ ι ε α
  | done (.ok a), _ => done (.ok a)
  | done (.error e), h => h e
  | act effect next, h => act effect fun i s => (next i s).handle h

instance : Monad (Code σ ι ε) where
  pure a := done (.ok a)
  bind := bind

instance : MonadExceptOf ε (Code σ ι ε) where
  throw e := done (.error e)
  tryCatch := handle

/-- What the program returned or raised, if it is over. -/
def result : Code σ ι ε α → Option (Except ε α)
  | done r => some r
  | act _ _ => none

theorem result_eq_some_iff {m : Code σ ι ε α} {r : Except ε α} :
    m.result = some r ↔ m = done r := by
  cases m with
  | done r' => exact ⟨fun h => congrArg done (Option.some.inj h), fun h => (by cases h; rfl)⟩
  | act effect next => exact ⟨fun h => (by cases h), fun h => (by cases h)⟩

/-- One atomic step. -/
def call (f : ι → σ → Except ε α × σ) : Code σ ι ε α :=
  act (fun i s => (f i s).2) fun i s => done (f i s).1

/-- `if not condition: raise` -/
def require (condition : Bool) (raised : ε) : Code σ ι ε Unit :=
  if condition then pure () else throw raised

/-- `try: ... finally: ...` -/
def andFinally (m : Code σ ι ε α) (cleanup : Code σ ι ε Unit) : Code σ ι ε α := do
  let a ← tryCatch m fun e => do
    cleanup
    throw e
  cleanup
  return a

end Code

/-! ### Growth -/

/-- A preorder on the states, and an invariant. -/
structure Growth (σ : Type) where
  le : σ → σ → Prop
  inv : σ → Prop
  refl : ∀ s, le s s
  trans : ∀ {a b c}, le a b → le b c → le a c

/-- A property that holds on as the state grows. -/
structure Growth.Fact (G : Growth σ) where
  holds : σ → Prop
  up : ∀ {s t}, G.le s t → holds s → holds t

namespace Growth.Fact

variable {G : Growth σ}

/-- What holds of every state. -/
def top : G.Fact := ⟨fun _ => True, fun _ h => h⟩

/-- What does not depend on the state. -/
def const (φ : Prop) : G.Fact := ⟨fun _ => φ, fun _ h => h⟩

/-- Both facts. -/
def and (P Q : G.Fact) : G.Fact :=
  ⟨fun s => P.holds s ∧ Q.holds s, fun h hs => ⟨P.up h hs.1, Q.up h hs.2⟩⟩

/-- The fact under a condition. -/
def when (φ : Prop) (P : G.Fact) : G.Fact :=
  ⟨fun s => φ → P.holds s, fun h hs hφ => P.up h (hs hφ)⟩

end Growth.Fact

/-- From a state with the invariant and `P`, every step lets the state grow
and keeps the invariant, and `Q` holds of what is returned. -/
def Safe (G : Growth σ) (Q : α → G.Fact) : Code σ ι ε α → G.Fact → Prop
  | .done (.ok a), P => ∀ s, G.inv s → P.holds s → (Q a).holds s
  | .done (.error _), _ => True
  | .act effect next, P => ∀ i s, G.inv s → P.holds s →
      G.le s (effect i s) ∧ G.inv (effect i s) ∧
        ∃ I : G.Fact, I.holds (effect i s) ∧ Safe G Q (next i s) I

section Rules

variable {G : Growth σ} {P P' : G.Fact} {Q Q' : α → G.Fact}

theorem Safe.pure {a : α} (h : ∀ s, G.inv s → P.holds s → (Q a).holds s) :
    Safe G Q (pure a : Code σ ι ε α) P := h

theorem Safe.throw {e : ε} : Safe G Q (throw e : Code σ ι ε α) P := trivial

/-- The rule of consequence. -/
theorem Safe.conseq {m : Code σ ι ε α} (h : Safe G Q' m P')
    (hp : ∀ s, G.inv s → P.holds s → P'.holds s)
    (hq : ∀ a s, G.inv s → P.holds s → (Q' a).holds s → (Q a).holds s) : Safe G Q m P := by
  induction m generalizing P P' with
  | done r =>
      cases r with
      | ok a => exact fun s hs hP => hq a s hs hP (h s hs (hp s hs hP))
      | error e => trivial
  | act effect next ih =>
      intro i s hs hP
      obtain ⟨hle, hinv, I, hI, hnext⟩ := h i s hs (hp s hs hP)
      -- the fact from before the step goes on beside the new one
      refine ⟨hle, hinv, P.and I, ⟨P.up hle hP, hI⟩, ih i s hnext (fun _ _ h => h.2) ?_⟩
      exact fun a t ht h => hq a t ht h.1

theorem Safe.pre {R : G.Fact} {m : Code σ ι ε α} (h : Safe G Q m R)
    (hp : ∀ s, G.inv s → P.holds s → R.holds s) : Safe G Q m P :=
  h.conseq hp fun _ _ _ _ h => h

/-- What holds before the first part holds before the second. -/
theorem Safe.bind {I : β → G.Fact} {m : Code σ ι ε β} {f : β → Code σ ι ε α} (hm : Safe G I m P)
    (hf : ∀ b, Safe G Q (f b) (P.and (I b))) : Safe G Q (m >>= f) P := by
  show Safe G Q (m.bind f) P
  induction m generalizing P with
  | done r =>
      cases r with
      | ok b => exact (hf b).pre fun s hs hP => ⟨hP, hm s hs hP⟩
      | error e => trivial
  | act effect next ih =>
      intro i s hs hP
      obtain ⟨hle, hinv, J, hJ, hnext⟩ := hm i s hs hP
      refine ⟨hle, hinv, P.and J, ⟨P.up hle hP, hJ⟩, ih i s (hnext.pre fun _ _ h => h.2) ?_⟩
      exact fun b => (hf b).pre fun _ _ h => ⟨h.1.1, h.2⟩

/-- What holds before the program holds before the handler. -/
theorem Safe.tryCatch {m : Code σ ι ε α} {h : ε → Code σ ι ε α} (hm : Safe G Q m P)
    (hh : ∀ e, Safe G Q (h e) P) : Safe G Q (tryCatch m h) P := by
  show Safe G Q (m.handle h) P
  induction m generalizing P with
  | done r =>
      cases r with
      | ok a => exact hm
      | error e => exact hh e
  | act effect next ih =>
      intro i s hs hP
      obtain ⟨hle, hinv, J, hJ, hnext⟩ := hm i s hs hP
      refine ⟨hle, hinv, P.and J, ⟨P.up hle hP, hJ⟩, ih i s (hnext.pre fun _ _ h => h.2) ?_⟩
      exact fun e => (hh e).pre fun _ _ h => h.1

theorem Safe.call {f : ι → σ → Except ε α × σ} (h : ∀ i s, G.inv s → P.holds s →
    G.le s (f i s).2 ∧ G.inv (f i s).2 ∧ ∀ a, (f i s).1 = .ok a → (Q a).holds (f i s).2) :
    Safe G Q (Code.call f) P := by
  intro i s hs hP
  obtain ⟨hle, hinv, hQ⟩ := h i s hs hP
  rcases hr : (f i s).1 with e | a
  · refine ⟨hle, hinv, .top, trivial, ?_⟩
    show Safe G Q (.done (f i s).1) _
    rw [hr]
    trivial
  · refine ⟨hle, hinv, Q a, hQ a hr, ?_⟩
    show Safe G Q (.done (f i s).1) _
    rw [hr]
    exact fun _ _ h => h

theorem Safe.require {c : Bool} {e : ε} :
    Safe G (fun _ => .const (c = true)) (Code.require c e : Code σ ι ε Unit) P := by
  cases c with
  | false => trivial
  | true => exact fun _ _ _ => rfl

theorem Safe.andFinally {m : Code σ ι ε α} {cleanup : Code σ ι ε Unit} (hm : Safe G Q m P)
    (hc : Safe G (fun _ => .top) cleanup .top) : Safe G Q (m.andFinally cleanup) P := by
  have hclean : ∀ P' : G.Fact, Safe G (fun _ => .top) cleanup P' := fun P' =>
    hc.pre fun _ _ _ => trivial
  refine Safe.bind (I := Q) (Safe.tryCatch hm fun e => ?_) fun a => ?_
  · exact Safe.bind (hclean P) fun _ => Safe.throw
  · exact Safe.bind (hclean _) fun _ => Safe.pure fun s _ h => h.1.2

/-- A pure part of the precondition is a hypothesis. -/
theorem Safe.of_const {φ : Prop} {m : Code σ ι ε α} (h : φ → Safe G Q m P) :
    Safe G Q m (P.and (.const φ)) := by
  cases m with
  | done r =>
      cases r with
      | ok a => exact fun s hs hP => h hP.2 s hs hP.1
      | error e => trivial
  | act effect next => exact fun i s hs hP => h hP.2 i s hs hP.1

/-- What is known to exist has a name. -/
theorem Safe.choose {R : β → G.Fact} {m : Code σ ι ε α}
    (hex : ∀ s, G.inv s → P.holds s → ∃ b, (R b).holds s) (h : ∀ b, Safe G Q m (R b)) :
    Safe G Q m P := by
  cases m with
  | done r =>
      cases r with
      | ok a =>
          intro s hs hP
          obtain ⟨b, hb⟩ := hex s hs hP
          exact h b s hs hb
      | error e => trivial
  | act effect next =>
      intro i s hs hP
      obtain ⟨b, hb⟩ := hex s hs hP
      exact h b i s hs hb

theorem Safe.ite {c : Prop} [Decidable c] {m m' : Code σ ι ε α} (ht : c → Safe G Q m P)
    (hf : ¬ c → Safe G Q m' P) : Safe G Q (if c then m else m') P := by
  split
  · next h => exact ht h
  · next h => exact hf h

end Rules

/-! ### Schedules -/

/-- A state, and the programs on it with what each was started for. -/
structure Shared (σ ι ε α κ : Type) where
  state : σ
  threads : List (κ × Code σ ι ε α)

/-- One event of a schedule. -/
inductive Sched (ι κ : Type) where
  | start (task : κ)
  | act (thread : Nat) (answer : ι)

/-- An event of a schedule, or a crash of all. -/
inductive Crashing (ι κ : Type) where
  | sched (event : Sched ι κ)
  | crash

namespace Shared

/-- Starts a program, or moves one by one step. -/
def step (program : κ → Code σ ι ε α) (w : Shared σ ι ε α κ) :
    Sched ι κ → Option (Shared σ ι ε α κ)
  | .start task => some { w with threads := w.threads ++ [(task, program task)] }
  | .act thread answer =>
    match w.threads[thread]? with
    | some (task, .act effect next) =>
      some ⟨effect answer w.state, w.threads.set thread (task, next answer w.state)⟩
    | _ => none

variable {G : Growth σ} {Q : κ → α → G.Fact} {program : κ → Code σ ι ε α}

/-- The invariant, and every program safe from where it stands. -/
def AllSafe (G : Growth σ) (Q : κ → α → G.Fact) (w : Shared σ ι ε α κ) : Prop :=
  G.inv w.state ∧ ∀ thread ∈ w.threads, ∃ P : G.Fact,
    P.holds w.state ∧ Safe G (Q thread.1) thread.2 P

/-- A step of one program is one of growth, which the others do not mind. -/
theorem step_safe_started {w w' : Shared σ ι ε α κ} {e : Sched ι κ}
    (hprogram : ∀ task, e = .start task → Safe G (Q task) (program task) .top)
    (hw : AllSafe G Q w) (h : step program w e = some w') :
    G.le w.state w'.state ∧ AllSafe G Q w' := by
  obtain ⟨hinv, hthreads⟩ := hw
  cases e with
  | start task =>
      cases h
      refine ⟨G.refl _, hinv, fun thread ht => ?_⟩
      rcases List.mem_append.mp ht with ht | ht
      · exact hthreads thread ht
      · rw [List.mem_singleton.mp ht]
        exact ⟨.top, trivial, hprogram task rfl⟩
  | act thread answer =>
      dsimp only [step] at h
      split at h
      · next task effect next hget =>
          cases h
          have hmem := List.mem_of_getElem? hget
          obtain ⟨P, hP, hsafe⟩ := hthreads _ hmem
          obtain ⟨hle, hinv', I, hI, hnext⟩ := hsafe answer w.state hinv hP
          refine ⟨hle, hinv', fun other ho => ?_⟩
          rcases List.mem_or_eq_of_mem_set ho with ho | rfl
          · obtain ⟨P', hP', hsafe'⟩ := hthreads other ho
            exact ⟨P', P'.up hle hP', hsafe'⟩
          · exact ⟨I, hI, hnext⟩
      · cases h

theorem step_safe (hprogram : ∀ task, Safe G (Q task) (program task) .top)
    {w w' : Shared σ ι ε α κ} {e : Sched ι κ} (hw : AllSafe G Q w)
    (h : step program w e = some w') : G.le w.state w'.state ∧ AllSafe G Q w' :=
  step_safe_started (fun task _ => hprogram task) hw h

/-- **Any schedule.**  The state grows and keeps the invariant. -/
theorem run_safe (hprogram : ∀ task, Safe G (Q task) (program task) .top)
    {w w' : Shared σ ι ε α κ} (hw : AllSafe G Q w) {log : List (Sched ι κ)}
    (h : run (step program) w log = some w') : G.le w.state w'.state ∧ AllSafe G Q w' := by
  refine run_preserves (P := fun v => G.le w.state v.state ∧ AllSafe G Q v) ?_ ⟨G.refl _, hw⟩ h
  rintro v e v' ⟨hle, hv⟩ he
  obtain ⟨hle', hv'⟩ := step_safe hprogram hv he
  exact ⟨G.trans hle hle', hv'⟩

/-- What a finished program has made true holds on. -/
theorem AllSafe.finished {w : Shared σ ι ε α κ} (hw : AllSafe G Q w) {task : κ} {a : α}
    (h : (task, .done (.ok a)) ∈ w.threads) : (Q task a).holds w.state := by
  obtain ⟨P, hP, hsafe⟩ := hw.2 _ h
  exact hsafe w.state hw.1 hP

/-- The programs from a position on, which start where `P₀` holds. -/
def LateSafe (G : Growth σ) (Q : κ → α → G.Fact) (position : Nat) (w : Shared σ ι ε α κ) : Prop :=
  ∀ j thread, position ≤ j → w.threads[j]? = some thread → ∃ P : G.Fact,
    P.holds w.state ∧ Safe G (Q thread.1) thread.2 P

theorem step_late {Q' : κ → α → G.Fact} {P₀ : G.Fact} {position : Nat}
    (hlate : ∀ task, Safe G (Q' task) (program task) P₀) {w w' : Shared σ ι ε α κ}
    {e : Sched ι κ} (hinv : G.inv w.state) (hP₀ : P₀.holds w.state) (hle : G.le w.state w'.state)
    (hw : LateSafe G Q' position w) (h : step program w e = some w') :
    LateSafe G Q' position w' := by
  cases e with
  | start task =>
      cases h
      intro j thread hj hget
      rcases Nat.lt_or_ge j w.threads.length with hlt | hge
      · rw [List.getElem?_append_left hlt] at hget
        exact hw j thread hj hget
      · -- the program that starts here
        rw [List.getElem?_append_right hge] at hget
        have hthread := List.mem_singleton.mp (List.mem_of_getElem? hget)
        rw [hthread]
        exact ⟨P₀, hP₀, hlate task⟩
  | act thread answer =>
      dsimp only [step] at h
      split at h
      · next task effect next hget =>
          cases h
          intro j other hj hother
          by_cases hjt : thread = j
          · -- the program that moves
            subst hjt
            have hlt : thread < w.threads.length := (List.getElem?_eq_some_iff.mp hget).1
            rw [List.getElem?_set_self hlt] at hother
            cases hother
            obtain ⟨P, hP, hsafe⟩ := hw thread _ hj hget
            obtain ⟨-, -, I, hI, hnext⟩ := hsafe answer w.state hinv hP
            exact ⟨I, hI, hnext⟩
          · rw [List.getElem?_set_ne hjt] at hother
            obtain ⟨P, hP, hsafe⟩ := hw j other hj hother
            exact ⟨P, P.up hle hP, hsafe⟩
      · cases h

/-- **A late start.**  A program that starts where `P₀` holds may rely on it,
whatever the programs do that were there before. -/
theorem run_late {Q' : κ → α → G.Fact} {P₀ : G.Fact}
    (hprogram : ∀ task, Safe G (Q task) (program task) .top)
    (hlate : ∀ task, Safe G (Q' task) (program task) P₀) {w w' : Shared σ ι ε α κ}
    (hw : AllSafe G Q w) (hP₀ : P₀.holds w.state) {log : List (Sched ι κ)}
    (h : run (step program) w log = some w') {j : Nat} {task : κ} {a : α}
    (hj : w.threads.length ≤ j) (hget : w'.threads[j]? = some (task, .done (.ok a))) :
    (Q' task a).holds w'.state := by
  have hrun : AllSafe G Q w' ∧ P₀.holds w'.state ∧ LateSafe G Q' w.threads.length w' := by
    refine run_preserves (P := fun v => AllSafe G Q v ∧ P₀.holds v.state ∧
      LateSafe G Q' w.threads.length v) ?_ ⟨hw, hP₀, ?_⟩ h
    · rintro v e v' ⟨hv, hP, hl⟩ he
      obtain ⟨hle, hv'⟩ := step_safe hprogram hv he
      exact ⟨hv', P₀.up hle hP, step_late hlate hv.1 hP hle hl he⟩
    · intro i thread hi hthread
      have := (List.getElem?_eq_some_iff.mp hthread).1
      omega
  obtain ⟨hsafe, -, hl⟩ := hrun
  obtain ⟨P, hP, hthread⟩ := hl j _ hj hget
  exact hthread w'.state hsafe.1 hP

/-! ### Crashes -/

/-- After some events.  A crash ends all programs, and leaves the state as `Loss`
has it. -/
inductive Later (program : κ → Code σ ι ε α) (Loss : σ → σ → Prop) (v : Shared σ ι ε α κ) :
    List (Crashing ι κ) → Shared σ ι ε α κ → Prop
  | refl : Later program Loss v [] v
  | sched {log w e x} : Later program Loss v log w → step program w e = some x →
      Later program Loss v (log ++ [.sched e]) x
  | crash {log w t} : Later program Loss v log w → Loss w.state t →
      Later program Loss v (log ++ [.crash]) ⟨t, []⟩

variable {Loss : σ → σ → Prop}

theorem Later.trans {u v w : Shared σ ι ε α κ} {log log' : List (Crashing ι κ)}
    (h : Later program Loss u log v) (h' : Later program Loss v log' w) :
    Later program Loss u (log ++ log') w := by
  induction h' with
  | refl => rwa [List.append_nil]
  | sched _ he ih =>
      rw [← List.append_assoc]
      exact ih.sched he
  | crash _ hloss ih =>
      rw [← List.append_assoc]
      exact ih.crash hloss

theorem Later.of_run {v w : Shared σ ι ε α κ} {log : List (Sched ι κ)}
    (h : run (step program) v log = some w) : Later program Loss v (log.map .sched) w := by
  refine run_invariant (P := fun log w => Later program Loss v (log.map .sched) w) .refl ?_ h
  intro log w e x hw he
  rw [List.map_append]
  exact hw.sched he

/-- **Any schedule with crashes.**  What a crash keeps of the invariant is kept
throughout; only the programs that are started have to be safe. -/
theorem Later.safe (hloss : ∀ s t, G.inv s → Loss s t → G.inv t) {v w : Shared σ ι ε α κ}
    (hv : AllSafe G Q v) {log : List (Crashing ι κ)} (h : Later program Loss v log w)
    (hprogram : ∀ task, .sched (.start task) ∈ log → Safe G (Q task) (program task) .top) :
    AllSafe G Q w := by
  induction h with
  | refl => exact hv
  | sched _ he ih =>
      have hw := ih fun task htask => hprogram task (List.mem_append_left _ htask)
      refine (step_safe_started ?_ hw he).2
      rintro task rfl
      exact hprogram task (List.mem_append_right _ (List.mem_singleton_self _))
  | crash _ ht ih =>
      have hw := ih fun task htask => hprogram task (List.mem_append_left _ htask)
      exact ⟨hloss _ _ hw.1 ht, fun _ hnone => by cases hnone⟩

/-- A fact that a crash keeps holds on. -/
theorem Later.keeps {P : G.Fact} (hloss : ∀ s t, G.inv s → Loss s t → G.inv t)
    (hkeeps : ∀ s t, G.inv s → P.holds s → Loss s t → P.holds t)
    (hprogram : ∀ task, Safe G (Q task) (program task) .top) {v w : Shared σ ι ε α κ}
    (hv : AllSafe G Q v) (hP : P.holds v.state) {log : List (Crashing ι κ)}
    (h : Later program Loss v log w) : P.holds w.state := by
  induction h with
  | refl => exact hP
  | sched hw he ih =>
      have hsafe := hw.safe hloss hv fun task _ => hprogram task
      exact P.up (step_safe hprogram hsafe he).1 ih
  | crash hw ht ih =>
      have hsafe := hw.safe hloss hv fun task _ => hprogram task
      exact hkeeps _ _ hsafe.1 ih ht

end Shared

/-! ### Alone -/

/-- Alone, with answers in `N` only, the program ends with `post`. -/
def Ends (N : ι → Prop) : Code σ ι ε α → σ → (Except ε α → σ → Prop) → Prop
  | .done r, s, post => post r s
  | .act effect next, s, post => ∀ i, N i → Ends N (next i s) (effect i s) post

section Alone

variable {N : ι → Prop} {s : σ} {post : Except ε β → σ → Prop}

theorem Ends.mono {m : Code σ ι ε β} {post' : Except ε β → σ → Prop} (h : Ends N m s post)
    (hpost : ∀ r t, post r t → post' r t) : Ends N m s post' := by
  induction m generalizing s with
  | done r => exact hpost r s h
  | act effect next ih => exact fun i hi => ih i s (h i hi)

theorem Ends.and {m : Code σ ι ε β} {post' : Except ε β → σ → Prop} (h : Ends N m s post)
    (h' : Ends N m s post') : Ends N m s fun r t => post r t ∧ post' r t := by
  induction m generalizing s with
  | done r => exact ⟨h, h'⟩
  | act effect next ih => exact fun i hi => ih i s (h i hi) (h' i hi)

/-- Where the first part returns, the second goes on. -/
theorem ends_bind {m : Code σ ι ε α} {f : α → Code σ ι ε β} :
    Ends N (m >>= f) s post ↔
      Ends N m s fun r t => (∀ a, r = .ok a → Ends N (f a) t post) ∧
        ∀ e, r = .error e → post (.error e) t := by
  show Ends N (m.bind f) s post ↔ _
  induction m generalizing s with
  | done r =>
      cases r with
      | ok a =>
          constructor
          · intro h
            exact ⟨fun _ ha => (by cases ha; exact h), fun _ he => (by cases he)⟩
          · intro h
            exact h.1 a rfl
      | error e =>
          constructor
          · intro h
            exact ⟨fun _ ha => (by cases ha), fun _ he => (by cases he; exact h)⟩
          · intro h
            exact h.2 e rfl
  | act effect next ih => exact forall_congr' fun i => imp_congr_right fun _ => ih i s

/-- Where the program raises, the handler goes on. -/
theorem ends_tryCatch {m : Code σ ι ε β} {h : ε → Code σ ι ε β} :
    Ends N (tryCatch m h) s post ↔
      Ends N m s fun r t => (∀ a, r = .ok a → post (.ok a) t) ∧
        ∀ e, r = .error e → Ends N (h e) t post := by
  show Ends N (m.handle h) s post ↔ _
  induction m generalizing s with
  | done r =>
      cases r with
      | ok a =>
          constructor
          · intro h
            exact ⟨fun _ ha => (by cases ha; exact h), fun _ he => (by cases he)⟩
          · intro h
            exact h.1 a rfl
      | error e =>
          constructor
          · intro h
            exact ⟨fun _ ha => (by cases ha), fun _ he => (by cases he; exact h)⟩
          · intro h
            exact h.2 e rfl
  | act effect next ih => exact forall_congr' fun i => imp_congr_right fun _ => ih i s

theorem ends_require {c : Bool} {e : ε} {post : Except ε Unit → σ → Prop} :
    Ends N (Code.require c e : Code σ ι ε Unit) s post ↔
      post (if c then .ok () else .error e) s := by
  cases c <;> exact Iff.rfl

theorem Ends.bind {m : Code σ ι ε α} {f : α → Code σ ι ε β} {a : α}
    (h : Ends N m s fun r t => r = .ok a ∧ Ends N (f a) t post) : Ends N (m >>= f) s post := by
  rw [ends_bind]
  apply h.mono
  rintro _ t ⟨rfl, hf⟩
  exact ⟨fun _ ha => Except.ok.inj ha ▸ hf, fun _ he => by cases he⟩

/-- A safe program alone: the state grows, and what is returned is true. -/
theorem Safe.ends {G : Growth σ} {P : G.Fact} {Q : β → G.Fact} {m : Code σ ι ε β}
    (h : Safe G Q m P) (hs : G.inv s) (hP : P.holds s) :
    Ends N m s fun r t => G.le s t ∧ G.inv t ∧ ∀ a, r = .ok a → (Q a).holds t := by
  induction m generalizing s P with
  | done r =>
      refine ⟨G.refl s, hs, ?_⟩
      rintro a rfl
      exact h s hs hP
  | act effect next ih =>
      intro i _
      obtain ⟨hle, hinv, I, hI, hnext⟩ := h i s hs hP
      apply (ih i s hnext hinv hI).mono
      rintro r t ⟨hle', hrest⟩
      exact ⟨G.trans hle hle', hrest⟩

/-- Alone, with answers in `N` only, the program ends in one way. -/
def Gives (N : ι → Prop) (m : Code σ ι ε β) (s : σ) (r : Except ε β) (t : σ) : Prop :=
  Ends N m s fun r' t' => r' = r ∧ t' = t

/-- A program that runs alone is one that is scheduled alone. -/
theorem Ends.schedule {m : Code σ ι ε β} {program : κ → Code σ ι ε β} {i : ι}
    (hi : N i) (h : Ends N m s post) {task : κ} {threads : List (κ × Code σ ι ε β)} {j : Nat}
    (hj : j < threads.length) :
    ∃ log r t, run (Shared.step program) ⟨s, threads.set j (task, m)⟩ log =
      some ⟨t, threads.set j (task, .done r)⟩ ∧ post r t := by
  induction m generalizing s with
  | done r => exact ⟨[], r, s, rfl, h⟩
  | act effect next ih =>
      obtain ⟨log, r, t, hrun, hpost⟩ := ih i s (h i hi)
      refine ⟨.act j i :: log, r, t, ?_, hpost⟩
      have hstep : Shared.step program ⟨s, threads.set j (task, .act effect next)⟩ (.act j i) =
          some ⟨effect i s, threads.set j (task, next i s)⟩ := by
        dsimp only [Shared.step]
        rw [List.getElem?_set_self hj]
        simp only [List.set_set]
      rw [run_cons, hstep]
      exact hrun

/-- A program that runs alone may be started, and be left alone. -/
theorem Ends.started {program : κ → Code σ ι ε β} {i : ι} (hi : N i) {w : Shared σ ι ε β κ}
    {task : κ} (h : Ends N (program task) w.state post) :
    ∃ log r t, run (Shared.step program) w log = some ⟨t, w.threads ++ [(task, .done r)]⟩ ∧
      post r t := by
  have hj : w.threads.length < (w.threads ++ [(task, program task)]).length := by
    rw [List.length_append]
    exact Nat.lt_succ_self _
  have hset : ∀ m, (w.threads ++ [(task, program task)]).set w.threads.length (task, m) =
      w.threads ++ [(task, m)] := by
    intro m
    rw [List.set_append_right _ _ (Nat.le_refl _), Nat.sub_self]
    rfl
  obtain ⟨log, r, t, hrun, hpost⟩ :=
    @Ends.schedule σ ι ε β κ N w.state post (program task) program i hi h task _ _ hj
  rw [hset, hset] at hrun
  exact ⟨.start task :: log, r, t, hrun, hpost⟩

variable {m : Code σ ι ε β} {t u : σ} {r : Except ε β}

theorem Gives.ends (h : Gives N m s r t) (hpost : post r t) : Ends N m s post := by
  apply Ends.mono h
  rintro _ _ ⟨rfl, rfl⟩
  exact hpost

theorem Gives.pure {a : β} : Gives N (pure a : Code σ ι ε β) s (.ok a) s := ⟨rfl, rfl⟩

theorem Gives.throw {e : ε} : Gives N (throw e : Code σ ι ε β) s (.error e) s := ⟨rfl, rfl⟩

theorem Gives.bind {m : Code σ ι ε α} {f : α → Code σ ι ε β} {a : α} (hm : Gives N m s (.ok a) t)
    (hf : Gives N (f a) t r u) : Gives N (m >>= f) s r u := by
  refine Ends.bind (a := a) (Ends.mono hm ?_)
  rintro _ _ ⟨rfl, rfl⟩
  exact ⟨rfl, hf⟩

theorem Gives.bind_error {m : Code σ ι ε α} {f : α → Code σ ι ε β} {e : ε}
    (hm : Gives N m s (.error e) t) : Gives N (m >>= f) s (.error e) t := by
  refine ends_bind.mpr (Ends.mono hm ?_)
  rintro _ _ ⟨rfl, rfl⟩
  exact ⟨fun _ ha => (by cases ha), fun _ he => ⟨congrArg _ (Except.error.inj he).symm, rfl⟩⟩

theorem Gives.require {c : Bool} {e : ε} :
    Gives N (Code.require c e : Code σ ι ε Unit) s (if c then .ok () else .error e) s :=
  ends_require.mpr ⟨rfl, rfl⟩

theorem Gives.require_true {c : Bool} {e : ε} (hc : c = true) :
    Gives N (Code.require c e : Code σ ι ε Unit) s (.ok ()) s := by
  subst hc
  exact Gives.pure

/-- A check that passes. -/
theorem Gives.check {c : Bool} {e : ε} {f : Unit → Code σ ι ε β} (hc : c = true)
    (hf : Gives N (f ()) s r t) : Gives N (Code.require c e >>= f) s r t := by
  exact (Gives.require_true hc).bind hf

theorem Gives.tryCatch_ok {h : ε → Code σ ι ε β} {a : β} (hm : Gives N m s (.ok a) t) :
    Gives N (tryCatch m h) s (.ok a) t := by
  refine ends_tryCatch.mpr (Ends.mono hm ?_)
  rintro _ _ ⟨rfl, rfl⟩
  exact ⟨fun _ ha => ⟨ha.symm, rfl⟩, fun _ he => (by cases he)⟩

theorem Gives.tryCatch_error {h : ε → Code σ ι ε β} {e : ε} (hm : Gives N m s (.error e) t)
    (hh : Gives N (h e) t r u) : Gives N (tryCatch m h) s r u := by
  refine ends_tryCatch.mpr (Ends.mono hm ?_)
  rintro _ _ ⟨rfl, rfl⟩
  exact ⟨fun _ ha => (by cases ha), fun _ he => Except.error.inj he ▸ hh⟩

theorem Gives.andFinally {cleanup : Code σ ι ε Unit} (hm : Gives N m s r t)
    (hc : Gives N cleanup t (.ok ()) t) : Gives N (m.andFinally cleanup) s r t := by
  cases r with
  | ok a => exact (Gives.tryCatch_ok hm).bind (hc.bind .pure)
  | error e => exact (Gives.tryCatch_error hm (hc.bind .throw)).bind_error

end Alone

end PyLib
