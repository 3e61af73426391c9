/-
SpecStyle/Lib/Tasks.lean

Programs of guarded steps that share a state, each with a local state.

A `Task` is a program as a tree.  An `act` is one atomic step, taken when its
guard allows it.  A `work` is a longer piece of work on a part of the state;
on the way the part goes through other states.  A program that answers `none`
is started again.

`Alone` and `Reaches` are for a program that is alone: how it ends, and the
states it goes through, where it may be killed.
-/
import SpecStyle.Lib.Run

namespace PyLib

variable {σ τ κ ρ ε α β : Type}

/-! ### Programs -/

/-- How a piece of work of kind `κ` goes: the part of the state it is about,
the parts that may be found on the way from one, and the answer with the part
at the end. -/
structure Works (σ τ κ ρ : Type) where
  get : κ → σ → τ
  put : κ → τ → σ → σ
  during : κ → τ → τ → Prop
  after : κ → τ → ρ × τ

/-- A program over the states `σ`, with work `κ` answered by `ρ`, that may
raise `ε`. -/
inductive Task (σ κ ρ ε α : Type) where
  | done (result : Except ε α)
  | act (guard : σ → Bool) (effect : σ → σ) (next : σ → Task σ κ ρ ε α)
  | work (job : κ) (next : ρ → Task σ κ ρ ε α)

namespace Task

/-- One program, and then another. -/
def bind : Task σ κ ρ ε α → (α → Task σ κ ρ ε β) → Task σ κ ρ ε β
  | done (.ok a), f => f a
  | done (.error e), _ => done (.error e)
  | act guard effect next, f => act guard effect fun s => (next s).bind f
  | work job next, f => work job fun r => (next r).bind f

/-- A program, and then one that sees how it ended. -/
def andThen : Task σ κ ρ ε α → (Except ε α → Task σ κ ρ ε β) → Task σ κ ρ ε β
  | done r, f => f r
  | act guard effect next, f => act guard effect fun s => (next s).andThen f
  | work job next, f => work job fun r => (next r).andThen f

instance : Monad (Task σ κ ρ ε) where
  pure a := done (.ok a)
  bind := bind

/-- `raise` -/
def raise (e : ε) : Task σ κ ρ ε α := done (.error e)

/-- The value of pure code, or its exception. -/
def lift (r : Except ε α) : Task σ κ ρ ε α := done r

/-- One atomic step that reads a value of the state and changes it. -/
def call (guard : σ → Bool) (f : σ → Except ε α × σ) : Task σ κ ρ ε α :=
  act guard (fun s => (f s).2) fun s => done (f s).1

/-- A look at the state. -/
def look (f : σ → α) : Task σ κ ρ ε α := call (fun _ => true) fun s => (.ok (f s), s)

/-- A step that changes the state. -/
def modify (f : σ → σ) : Task σ κ ρ ε Unit := call (fun _ => true) fun s => (.ok (), f s)

/-- `try: ... finally: ...`, with a cleanup that cannot fail. -/
def andFinally (m : Task σ κ ρ ε α) (cleanup : σ → σ) : Task σ κ ρ ε α :=
  m.andThen fun r => act (fun _ => true) cleanup fun _ => done r

/-- `if not condition: raise` -/
def require (condition : Bool) (raised : ε) : Task σ κ ρ ε Unit :=
  if condition then pure () else raise raised

end Task

theorem Task.bind_pure (m : Task σ κ ρ ε α) : m >>= Pure.pure = m := by
  show m.bind Pure.pure = m
  induction m with
  | done r => cases r <;> rfl
  | act guard effect next ih => exact congrArg (Task.act guard effect) (funext ih)
  | work job next ih => exact congrArg (Task.work job) (funext ih)

/-! ### Alone -/

section Alone

variable (W : Works σ τ κ ρ)

/-- Alone from `s` the program ends with `r` in the state `t`. -/
inductive Alone : Task σ κ ρ ε α → σ → Except ε α → σ → Prop
  | done {r s} : Alone (.done r) s r s
  | act {guard effect next s r t} (hguard : guard s = true)
      (hnext : Alone (next s) (effect s) r t) : Alone (.act guard effect next) s r t
  | work {job next s r t}
      (hnext : Alone (next (W.after job (W.get job s)).1)
        (W.put job (W.after job (W.get job s)).2 s) r t) : Alone (.work job next) s r t

/-- Alone from `s` the program, started again as long as it answers `none`,
ends with `r` in the state `t`. -/
inductive AloneLoop (m : Task σ κ ρ ε (Option α)) : σ → Except ε α → σ → Prop
  | returns {a s t} (h : Alone W m s (.ok (some a)) t) : AloneLoop m s (.ok a) t
  | raises {e s t} (h : Alone W m s (.error e) t) : AloneLoop m s (.error e) t
  | again {r s t u} (h : Alone W m s (.ok none) t) (hnext : AloneLoop m t r u) : AloneLoop m s r u

/-- Alone from `s` the program gets to the state `t`, if not beyond it. -/
inductive Reaches : Task σ κ ρ ε α → σ → σ → Prop
  | here {m s} : Reaches m s s
  | act {guard effect next s t} (hguard : guard s = true)
      (hnext : Reaches (next s) (effect s) t) : Reaches (.act guard effect next) s t
  | during {job next s p} (hp : W.during job (W.get job s) p) :
      Reaches (.work job next) s (W.put job p s)
  | work {job next s t}
      (hnext : Reaches (next (W.after job (W.get job s)).1)
        (W.put job (W.after job (W.get job s)).2 s) t) : Reaches (.work job next) s t

variable {W} {s t u : σ} {m : Task σ κ ρ ε α} {f : α → Task σ κ ρ ε β} {a : α} {e : ε}
  {r : Except ε β}

theorem Alone.bind (hm : Alone W m s (.ok a) t) (hf : Alone W (f a) t r u) :
    Alone W (m >>= f) s r u := by
  show Alone W (m.bind f) s r u
  generalize hr : Except.ok a = r' at hm
  induction hm with
  | done => subst hr; exact hf
  | act hguard _ ih => exact .act hguard (ih hf hr)
  | work _ ih => exact .work (ih hf hr)

theorem Alone.bind_error (hm : Alone W m s (.error e) t) :
    Alone W (m >>= f) s (.error e) t := by
  show Alone W (m.bind f) s (.error e) t
  generalize hr : Except.error e = r' at hm
  induction hm with
  | done => subst hr; exact .done
  | act hguard _ ih => exact .act hguard (ih hr)
  | work _ ih => exact .work (ih hr)

theorem Alone.andThen {r' : Except ε α} {f : Except ε α → Task σ κ ρ ε β}
    (hm : Alone W m s r' t) (hf : Alone W (f r') t r u) : Alone W (m.andThen f) s r u := by
  induction hm with
  | done => exact hf
  | act hguard _ ih => exact .act hguard (ih hf)
  | work _ ih => exact .work (ih hf)

theorem Alone.pure : Alone W (pure a : Task σ κ ρ ε α) s (.ok a) s := .done

theorem Alone.call {guard : σ → Bool} {f : σ → Except ε α × σ} (hguard : guard s = true) :
    Alone W (Task.call guard f : Task σ κ ρ ε α) s (f s).1 (f s).2 :=
  .act hguard .done

theorem Alone.look {f : σ → α} : Alone W (Task.look f : Task σ κ ρ ε α) s (.ok (f s)) s :=
  Alone.call rfl

theorem Alone.modify {f : σ → σ} :
    Alone W (Task.modify f : Task σ κ ρ ε Unit) s (.ok ()) (f s) :=
  Alone.call rfl

theorem Alone.lift {r : Except ε α} : Alone W (Task.lift r : Task σ κ ρ ε α) s r s := .done

theorem Alone.andFinally {r : Except ε α} {cleanup : σ → σ} (hm : Alone W m s r t) :
    Alone W (m.andFinally cleanup) s r (cleanup t) :=
  hm.andThen (.act rfl .done)

theorem Alone.require {c : Bool} (hc : c = true) :
    Alone W (Task.require c e : Task σ κ ρ ε Unit) s (.ok ()) s := by
  unfold Task.require
  rw [if_pos hc]
  exact .done

/-- A program ends in one way only. -/
theorem Alone.unique {r r' : Except ε α} (h : Alone W m s r t) (h' : Alone W m s r' u) :
    r = r' ∧ t = u := by
  induction h with
  | done => cases h' with | done => exact ⟨rfl, rfl⟩
  | act hguard _ ih => cases h' with | act _ h' => exact ih h'
  | work _ ih => cases h' with | work h' => exact ih h'

theorem Alone.of_done {r r' : Except ε α} (h : Alone W (.done r' : Task σ κ ρ ε α) s r t) :
    r = r' ∧ t = s := by
  cases h
  exact ⟨rfl, rfl⟩

/-- Turns whose answers are made into others. -/
theorem AloneLoop.map {m : Task σ κ ρ ε (Option α)} {g : α → β} {r : Except ε α}
    (h : AloneLoop W m s r t) : AloneLoop W (m >>= fun a => Pure.pure (a.map g)) s (r.map g) t := by
  induction h with
  | returns h => exact .returns (h.bind .pure)
  | raises h => exact .raises h.bind_error
  | again h _ ih => exact .again (h.bind .pure) ih

/-- A program gets to where it ends. -/
theorem Alone.reaches {r : Except ε α} (h : Alone W m s r t) : Reaches W m s t := by
  induction h with
  | done => exact .here
  | act hguard _ ih => exact .act hguard ih
  | work _ ih => exact .work ih

theorem Reaches.bind (hm : Reaches W m s t) : Reaches W (m >>= f) s t := by
  show Reaches W (m.bind f) s t
  induction hm with
  | here => exact .here
  | act hguard _ ih => exact .act hguard ih
  | during hp => exact .during hp
  | work _ ih => exact .work ih

theorem Reaches.andThen {f : Except ε α → Task σ κ ρ ε β} (hm : Reaches W m s t) :
    Reaches W (m.andThen f) s t := by
  induction hm with
  | here => exact .here
  | act hguard _ ih => exact .act hguard ih
  | during hp => exact .during hp
  | work _ ih => exact .work ih

theorem Alone.bind_reaches (hm : Alone W m s (.ok a) t) (hf : Reaches W (f a) t u) :
    Reaches W (m >>= f) s u := by
  show Reaches W (m.bind f) s u
  generalize hr : Except.ok a = r' at hm
  induction hm with
  | done => subst hr; exact hf
  | act hguard _ ih => exact .act hguard (ih hf hr)
  | work _ ih => exact .work (ih hf hr)

/-- `P` holds wherever the program gets to from `s`. -/
def Within (W : Works σ τ κ ρ) (P : σ → Prop) (m : Task σ κ ρ ε α) (s : σ) : Prop :=
  ∀ t, Reaches W m s t → P t

variable {P : σ → Prop}

theorem Within.done {r : Except ε α} (h : P s) :
    Within W P (.done r : Task σ κ ρ ε α) s := by
  intro t ht
  cases ht
  exact h

theorem Within.act {guard : σ → Bool} {effect : σ → σ} {next : σ → Task σ κ ρ ε α} (h : P s)
    (hnext : guard s = true → Within W P (next s) (effect s)) :
    Within W P (.act guard effect next) s := by
  intro t ht
  cases ht with
  | here => exact h
  | act hguard ht => exact hnext hguard t ht

theorem Within.work {job : κ} {next : ρ → Task σ κ ρ ε α} (h : P s)
    (hduring : ∀ p, W.during job (W.get job s) p → P (W.put job p s))
    (hnext : Within W P (next (W.after job (W.get job s)).1)
      (W.put job (W.after job (W.get job s)).2 s)) : Within W P (.work job next) s := by
  intro t ht
  cases ht with
  | here => exact h
  | during hp => exact hduring _ hp
  | work ht => exact hnext t ht

/-- Within a program that goes on as its first part ended. -/
theorem Within.andThen {f : Except ε α → Task σ κ ρ ε β} (hm : Within W P m s)
    (hf : ∀ r t, Alone W m s r t → Within W P (f r) t) : Within W P (m.andThen f) s := by
  induction m generalizing s with
  | done r => exact hf r s .done
  | act guard effect next ih =>
      refine Within.act (hm s .here) fun hguard => ih s ?_ fun r t hr => ?_
      · exact fun t ht => hm t (.act hguard ht)
      · exact hf r t (.act hguard hr)
  | work job next ih =>
      refine Within.work (hm s .here) (fun _ hp => hm _ (.during hp)) (ih _ ?_ fun r t hr => ?_)
      · exact fun t ht => hm t (.work ht)
      · exact hf r t (.work hr)

theorem Within.bind (hm : Within W P m s)
    (hf : ∀ a t, Alone W m s (.ok a) t → Within W P (f a) t) : Within W P (m >>= f) s := by
  change Within W P (m.bind f) s
  induction m generalizing s with
  | done r =>
      cases r with
      | ok a => exact hf a s .done
      | error e => exact Within.done (hm s .here)
  | act guard effect next ih =>
      refine Within.act (hm s .here) fun hguard => ih s ?_ fun a t ha => ?_
      · exact fun t ht => hm t (.act hguard ht)
      · exact hf a t (.act hguard ha)
  | work job next ih =>
      refine Within.work (hm s .here) (fun _ hp => hm _ (.during hp)) (ih _ ?_ fun a t ha => ?_)
      · exact fun t ht => hm t (.work ht)
      · exact hf a t (.work ha)

theorem Within.andFinally {cleanup : σ → σ} (hm : Within W P m s)
    (hc : ∀ r t, Alone W m s r t → P (cleanup t)) : Within W P (m.andFinally cleanup) s := by
  refine hm.andThen fun r t hr => Within.act ?_ fun _ => Within.done (hc r t hr)
  exact hm t (hr.reaches)

end Alone

end PyLib
