/-
SpecStyle/Lib/TaskThreads.lean

Threads that run programs of guarded steps on one state.

A thread makes a call, moves through the program of the call, and returns.  The
steps of all threads come in any order (`Machine.Step`), and the `History` keeps
every state and every call that is over.

A `Discipline` gives each thread a local state, and says by it what the thread
may rely on and what it may do.  That a program follows it is a fact about the
program alone (`Plays`), with one rule for each way to build a program.  An
invariant of the discipline then holds in every world that is reached, whatever
the interleaving (`Played.step`).
-/
import Mathlib.Logic.Function.Basic
import Mathlib.Logic.Relation
import SpecStyle.Lib.Tasks

namespace PyLib

variable {σ τ κ ρ ε α β C L T : Type}

/-! ### Threads -/

/-- Where a thread is: what is left of its program and, within a piece of work,
the part of the state that was found when the work began. -/
structure Point (σ τ κ ρ ε α : Type) where
  task : Task σ κ ρ ε α
  entered : Option τ

/-- One step of a thread. -/
inductive Point.Moves (W : Works σ τ κ ρ) : Point σ τ κ ρ ε α → σ → Point σ τ κ ρ ε α → σ → Prop
  | act {guard effect next s} (hguard : guard s = true) :
      Moves W ⟨.act guard effect next, none⟩ s ⟨next s, none⟩ (effect s)
  | begins {job next s} : Moves W ⟨.work job next, none⟩ s ⟨.work job next, some (W.get job s)⟩ s
  | goesOn {job next p q s} (hq : W.during job p q) :
      Moves W ⟨.work job next, some p⟩ s ⟨.work job next, some p⟩ (W.put job q s)
  | ends {job next p s} : Moves W ⟨.work job next, some p⟩ s ⟨next (W.after job p).1, none⟩
      (W.put job (W.after job p).2 s)

/-- A call that goes on: how many states there were before it, and where the
thread is. -/
structure Running (σ τ κ ρ ε α C : Type) where
  call : C
  called : Nat
  point : Point σ τ κ ρ ε (Option α)

/-- A call that is over, with the numbers of the states it began and ended in. -/
structure Finished (ε α C : Type) where
  call : C
  called : Nat
  returned : Nat
  result : Except ε α

/-- The state with all the earlier ones, and the calls that are over. -/
structure History (σ ε α C : Type) where
  past : List σ
  shared : σ
  finished : List (Finished ε α C)

namespace History

variable {h : History σ ε α C} {s : σ} {called returned : Nat}

/-- The states up to now. -/
def states (h : History σ ε α C) : List σ := h.past ++ [h.shared]

/-- The states since a number of them. -/
def instants (h : History σ ε α C) (called : Nat) : List σ := h.states.drop called

/-- The states between two numbers. -/
def between (h : History σ ε α C) (called returned : Nat) : List σ :=
  (h.states.take (returned + 1)).drop called

/-- The state becomes `s`. -/
def goTo (h : History σ ε α C) (s : σ) : History σ ε α C :=
  { h with past := h.past ++ [h.shared], shared := s }

/-- A call returns. -/
def finish (h : History σ ε α C) (f : Finished ε α C) : History σ ε α C :=
  { h.goTo h.shared with finished := h.finished ++ [f] }

theorem mem_instants_of_states {h' : History σ ε α C} {more : List σ}
    (hstates : h'.states = h.states ++ more) (hs : s ∈ h.instants called) :
    s ∈ h'.instants called := by
  unfold instants at *
  rw [hstates, List.drop_append]
  exact List.mem_append_left _ hs

theorem mem_between_of_states {h' : History σ ε α C} {more : List σ}
    (hstates : h'.states = h.states ++ more) (hs : s ∈ h.between called returned) :
    s ∈ h'.between called returned := by
  unfold between at *
  rw [hstates, List.take_append, List.drop_append]
  exact List.mem_append_left _ hs

theorem mem_between (hs : s ∈ h.instants called) : s ∈ h.between called h.past.length := by
  unfold between
  rw [List.take_of_length_le]
  · exact hs
  · unfold states
    rw [List.length_append]
    exact Nat.le_refl _

theorem shared_mem_instants (h : History σ ε α C) (hc : called ≤ h.past.length) :
    h.shared ∈ h.instants called := by
  unfold instants states
  rw [List.drop_append_of_le_length hc]
  exact List.mem_append_right _ (List.mem_singleton_self _)

end History

/-- What has been, and what each thread does. -/
structure Threads (T σ τ κ ρ ε α C : Type) where
  history : History σ ε α C
  running : T → Option (Running σ τ κ ρ ε α C)

/-- What threads run: the program of each call, which is started again as long
as it answers `none`. -/
structure Machine (σ τ κ ρ ε α C : Type) where
  works : Works σ τ κ ρ
  program : C → Task σ κ ρ ε (Option α)

namespace Machine

variable [DecidableEq T] (M : Machine σ τ κ ρ ε α C)

/-- A thread begins the program of a call. -/
def start (c : C) (called : Nat) : Running σ τ κ ρ ε α C := ⟨c, called, ⟨M.program c, none⟩⟩

/-- One step of one thread. -/
inductive Step : Threads T σ τ κ ρ ε α C → Threads T σ τ κ ρ ε α C → Prop
  | calls {h running t} (c : C) (hidle : running t = none) :
      Step ⟨h, running⟩
        ⟨h.goTo h.shared, Function.update running t (some (M.start c h.past.length))⟩
  | moves {h running t r p s} (hrun : running t = some r)
      (hmove : r.point.Moves M.works h.shared p s) :
      Step ⟨h, running⟩ ⟨h.goTo s, Function.update running t (some { r with point := p })⟩
  | again {h running t r} (hrun : running t = some r) (hdone : r.point = ⟨.done (.ok none), none⟩) :
      Step ⟨h, running⟩
        ⟨h.goTo h.shared, Function.update running t (some (M.start r.call r.called))⟩
  | returns {h running t r} {result : Except ε α} (hrun : running t = some r)
      (hdone : r.point = ⟨.done (result.map some), none⟩) :
      Step ⟨h, running⟩
        ⟨h.finish ⟨r.call, r.called, h.past.length, result⟩, Function.update running t none⟩

/-- Any number of steps. -/
abbrev Steps : Threads T σ τ κ ρ ε α C → Threads T σ τ κ ρ ε α C → Prop :=
  Relation.ReflTransGen M.Step

variable {M} {t : T}

/-- One thread has moved alone, and has left the shared state `u`. -/
structure Ran (M : Machine σ τ κ ρ ε α C) (t : T) (u : σ) (w w' : Threads T σ τ κ ρ ε α C) :
    Prop where
  steps : M.Steps w w'
  shared : w'.history.shared = u
  others : ∀ other, other ≠ t → w'.running other = w.running other

/-- A step of the thread, and then more. -/
theorem Ran.head {u : σ} {w v w' : Threads T σ τ κ ρ ε α C} {r : Option (Running σ τ κ ρ ε α C)}
    (hstep : M.Step w v) (hv : v.running = Function.update w.running t r) (h : M.Ran t u v w') :
    M.Ran t u w w' where
  steps := .head hstep h.steps
  shared := h.shared
  others other ho := by
    rw [h.others other ho, hv]
    exact Function.update_of_ne ho ..

/-- What a program does alone, a thread can do. -/
theorem Steps.of_alone {m : Task σ κ ρ ε (Option α)} {s u : σ} {r : Except ε (Option α)}
    (h : Alone M.works m s r u) {w : Threads T σ τ κ ρ ε α C} {c : C} {called : Nat}
    (hs : w.history.shared = s) (hrun : w.running t = some ⟨c, called, ⟨m, none⟩⟩) :
    ∃ w', M.Ran t u w w' ∧ w'.history.finished = w.history.finished ∧
      w'.running t = some ⟨c, called, ⟨.done r, none⟩⟩ := by
  induction h generalizing w with
  | done => exact ⟨w, ⟨.refl, hs, fun _ _ => rfl⟩, rfl, hrun⟩
  | act hguard _ ih =>
      subst hs
      obtain ⟨w', hw, hf, hr⟩ := @ih ⟨w.history.goTo _, Function.update w.running t _⟩ rfl
        (Function.update_self ..)
      exact ⟨w', hw.head (.moves hrun (.act hguard)) rfl, hf, hr⟩
  | @work job next s r v _ ih =>
      subst hs
      -- the work begins, and ends at once
      let working : Point σ τ κ ρ ε (Option α) :=
        ⟨.work job next, some (M.works.get job w.history.shared)⟩
      let begun : Threads T σ τ κ ρ ε α C :=
        ⟨w.history.goTo w.history.shared, Function.update w.running t (some ⟨c, called, working⟩)⟩
      have hbegun : begun.running t = some ⟨c, called, _⟩ := Function.update_self ..
      obtain ⟨w', hw, hf, hr⟩ :=
        @ih ⟨begun.history.goTo _, Function.update begun.running t _⟩ rfl (Function.update_self ..)
      exact ⟨w', (hw.head (.moves hbegun .ends) rfl).head (.moves hrun .begins) rfl, hf, hr⟩

/-- A thread that has moved returns. -/
theorem Ran.returns {u : σ} {w v : Threads T σ τ κ ρ ε α C} {c : C} {called : Nat}
    {result : Except ε α} (h : M.Ran t u w v)
    (hr : v.running t = some ⟨c, called, ⟨.done (result.map some), none⟩⟩) :
    M.Ran t u w ⟨v.history.finish ⟨c, called, v.history.past.length, result⟩,
      Function.update v.running t none⟩ where
  steps := h.steps.tail (.returns hr rfl)
  shared := h.shared
  others other ho := by
    rw [← h.others other ho]
    exact Function.update_of_ne ho ..

/-- What a call answers alone, it can answer here. -/
theorem Steps.of_aloneLoop {s u : σ} {r : Except ε α} {c : C} {called : Nat}
    (h : AloneLoop M.works (M.program c) s r u) {w : Threads T σ τ κ ρ ε α C}
    (hs : w.history.shared = s) (hrun : w.running t = some (M.start c called)) :
    ∃ w' f, M.Ran t u w w' ∧ w'.history.finished = w.history.finished ++ [f] ∧ f.call = c ∧
      f.called = called ∧ f.result = r := by
  induction h generalizing w with
  | @returns a _ _ h =>
      obtain ⟨v, hv, hfinished, hr⟩ := Steps.of_alone h hs hrun
      exact ⟨_, _, @Ran.returns _ _ _ _ _ _ _ _ _ M _ _ _ _ _ _ (.ok a) hv hr,
        congrArg (· ++ [_]) hfinished, rfl, rfl, rfl⟩
  | @raises e _ _ h =>
      obtain ⟨v, hv, hfinished, hr⟩ := Steps.of_alone h hs hrun
      exact ⟨_, _, @Ran.returns _ _ _ _ _ _ _ _ _ M _ _ _ _ _ _ (.error e) hv hr,
        congrArg (· ++ [_]) hfinished, rfl, rfl, rfl⟩
  | again h _ ih =>
      obtain ⟨v, hv, hfinished, hr⟩ := Steps.of_alone h hs hrun
      obtain ⟨w', f, hagain, hf, hcall, hcalled, hresult⟩ :=
        @ih ⟨v.history.goTo v.history.shared, Function.update v.running t _⟩ hv.shared
          (Function.update_self ..)
      have hlater := hagain.head (.again hr rfl) rfl
      refine ⟨w', f, ⟨hv.steps.trans hlater.steps, hlater.shared, fun other ho => ?_⟩, ?_, hcall,
        hcalled, hresult⟩
      · rw [hlater.others other ho, hv.others other ho]
      · rw [hf]
        exact congrArg (· ++ [f]) hfinished

end Machine

/-! ### Disciplines -/

/-- What a thread in a local state may rely on and may do, and the call and the
work it may be in. -/
structure Discipline (σ κ ε α C L : Type) where
  idle : L
  knows : L → History σ ε α C → Prop
  moves : L → History σ ε α C → L → History σ ε α C → Prop
  serves : L → C → Nat → Prop
  busy : L → κ → Prop

/-- An invariant of all moves, by which every thread knows what it relies on. -/
structure Invariant (T : Type) [DecidableEq T] (D : Discipline σ κ ε α C L) where
  holds : (T → L) → History σ ε α C → Prop
  knows : ∀ {ls h}, holds ls h → ∀ t, D.knows (ls t) h
  keeps : ∀ {ls h t l h'}, holds ls h → D.moves (ls t) h l h' → holds (Function.update ls t l) h'

section Plays

variable {γ : Type} (D : Discipline σ κ ε γ C L) (W : Works σ τ κ ρ)

/-- A piece of work that began with the part `p` follows the discipline, and
what comes next is `next`. -/
structure Working (job : κ) (p : τ) (l : L) (next : ρ → L → Prop) : Prop where
  busy : D.busy l job
  goesOn : ∀ h q, D.knows l h → W.during job p q → D.moves l h l (h.goTo (W.put job q h.shared))
  ends : ∀ h, D.knows l h → ∃ l',
    D.moves l h l' (h.goTo (W.put job (W.after job p).2 h.shared)) ∧ next (W.after job p).1 l'

/-- Every step of the program is a move, and it ends in `Q`. -/
def Plays : Task σ κ ρ ε α → L → (Except ε α → L → Prop) → Prop
  | .done r, l, Q => Q r l
  | .act guard effect next, l, Q => ∀ h, D.knows l h → guard h.shared = true →
      ∃ l', D.moves l h l' (h.goTo (effect h.shared)) ∧ Plays (next h.shared) l' Q
  | .work job next, l, Q => ∀ h, D.knows l h → ∃ l', D.moves l h l' (h.goTo h.shared) ∧
      Working D W job (W.get job h.shared) l' fun r l'' => Plays (next r) l'' Q

variable {D W} {m : Task σ κ ρ ε α} {l : L} {Q R : Except ε α → L → Prop}

theorem Working.mono {job : κ} {p : τ} {N N' : ρ → L → Prop} (h : Working D W job p l N)
    (hn : ∀ r l', N r l' → N' r l') : Working D W job p l N' := by
  refine ⟨h.busy, h.goesOn, fun s hs => ?_⟩
  obtain ⟨l', hmove, hnext⟩ := h.ends s hs
  exact ⟨l', hmove, hn _ _ hnext⟩

/-- A program, and then one that sees how it ended. -/
theorem Plays.andThen {f : Except ε α → Task σ κ ρ ε β} {Q : Except ε β → L → Prop}
    (h : Plays D W m l R) (hf : ∀ r l', R r l' → Plays D W (f r) l' Q) :
    Plays D W (m.andThen f) l Q := by
  induction m generalizing l with
  | done r => exact hf r l h
  | act guard effect next ih =>
      intro s hs hguard
      obtain ⟨l', hmove, hnext⟩ := h s hs hguard
      exact ⟨l', hmove, ih _ hnext⟩
  | work job next ih =>
      intro s hs
      obtain ⟨l', hmove, hwork⟩ := h s hs
      exact ⟨l', hmove, hwork.mono fun r _ hnext => ih r hnext⟩

/-- A program, and then another if it returned. -/
theorem Plays.bind {f : α → Task σ κ ρ ε β} {Q : Except ε β → L → Prop} (h : Plays D W m l R)
    (hf : ∀ a l', R (.ok a) l' → Plays D W (f a) l' Q)
    (he : ∀ e l', R (.error e) l' → Q (.error e) l') : Plays D W (m >>= f) l Q := by
  show Plays D W (m.bind f) l Q
  induction m generalizing l with
  | done r =>
      cases r with
      | ok a => exact hf a l h
      | error e => exact he e l h
  | act guard effect next ih =>
      intro s hs hguard
      obtain ⟨l', hmove, hnext⟩ := h s hs hguard
      exact ⟨l', hmove, ih _ hnext⟩
  | work job next ih =>
      intro s hs
      obtain ⟨l', hmove, hwork⟩ := h s hs
      exact ⟨l', hmove, hwork.mono fun r _ hnext => ih r hnext⟩

theorem Plays.mono (h : Plays D W m l R) (hQ : ∀ r l', R r l' → Q r l') : Plays D W m l Q := by
  induction m generalizing l with
  | done r => exact hQ r l h
  | act guard effect next ih =>
      intro s hs hguard
      obtain ⟨l', hmove, hnext⟩ := h s hs hguard
      exact ⟨l', hmove, ih _ hnext⟩
  | work job next ih =>
      intro s hs
      obtain ⟨l', hmove, hwork⟩ := h s hs
      exact ⟨l', hmove, hwork.mono fun r _ hnext => ih r hnext⟩

/-- One atomic step. -/
theorem Plays.call {guard : σ → Bool} {f : σ → Except ε α × σ}
    (h : ∀ h, D.knows l h → guard h.shared = true →
      ∃ l', D.moves l h l' (h.goTo (f h.shared).2) ∧ Q (f h.shared).1 l') :
    Plays D W (Task.call guard f) l Q := h

/-- A program with a cleanup. -/
theorem Plays.andFinally {cleanup : σ → σ} (h : Plays D W m l R)
    (hf : ∀ r l', R r l' → ∀ h, D.knows l' h →
      ∃ l'', D.moves l' h l'' (h.goTo (cleanup h.shared)) ∧ Q r l'') :
    Plays D W (m.andFinally cleanup) l Q :=
  h.andThen fun r l' hr s hs _ => hf r l' hr s hs

theorem Plays.require_bind {c : Bool} {e : ε} {f : Unit → Task σ κ ρ ε α} (hc : c = true)
    (hf : Plays D W (f ()) l Q) : Plays D W (Task.require c e >>= f) l Q := by
  subst hc
  exact hf

/-- A discipline inside another, whose local states say more: `f` says what a
program keeps of it. -/
structure Discipline.Embeds {K : Type} (D : Discipline σ κ ε γ C L) (D' : Discipline σ κ ε γ C K)
    (f : L → K) : Prop where
  knows : ∀ l h, D'.knows (f l) h → D.knows l h
  moves : ∀ l h l' s, D'.knows (f l) h → D.moves l h l' (h.goTo s) →
    D'.moves (f l) h (f l') (h.goTo s)
  busy : ∀ l job, D.busy l job → D'.busy (f l) job

/-- What follows the inner discipline follows the outer one. -/
theorem Plays.embed {K : Type} {D' : Discipline σ κ ε γ C K} {f : L → K} (hf : D.Embeds D' f)
    (h : Plays D W m l Q) : Plays D' W m (f l) fun r k => ∃ l', k = f l' ∧ Q r l' := by
  induction m generalizing l with
  | done r => exact ⟨l, rfl, h⟩
  | act guard effect next ih =>
      intro s hs hguard
      obtain ⟨l', hmove, hnext⟩ := h s (hf.knows l s hs) hguard
      exact ⟨f l', hf.moves l s l' _ hs hmove, ih _ hnext⟩
  | work job next ih =>
      intro s hs
      obtain ⟨l', hmove, hwork⟩ := h s (hf.knows l s hs)
      refine ⟨f l', hf.moves l s l' _ hs hmove, hf.busy _ _ hwork.busy, ?_, ?_⟩
      · intro s' q hs' hq
        exact hf.moves l' s' l' _ hs' (hwork.goesOn s' q (hf.knows _ _ hs') hq)
      · intro s' hs'
        obtain ⟨l'', hends, hnext⟩ := hwork.ends s' (hf.knows _ _ hs')
        exact ⟨f l'', hf.moves l' s' l'' _ hs' hends, ih _ hnext⟩

end Plays

/-! ### Every world that is reached -/

section Played

variable {D : Discipline σ κ ε α C L} {Q : C → Nat → Except ε (Option α) → L → Prop}

/-- The thread is where its program follows the discipline. -/
def Point.Plays (D : Discipline σ κ ε α C L) (W : Works σ τ κ ρ)
    (Q : Except ε (Option α) → L → Prop) (l : L) : Point σ τ κ ρ ε (Option α) → Prop
  | ⟨task, none⟩ => PyLib.Plays D W task l Q
  | ⟨.work job next, some p⟩ => Working D W job p l fun r l' => PyLib.Plays D W (next r) l' Q
  | ⟨.act .., some _⟩ => False
  | ⟨.done _, some _⟩ => False

/-- A step of a program is a move, after which it still follows the discipline. -/
theorem Point.Plays.move {W : Works σ τ κ ρ} {Q : Except ε (Option α) → L → Prop} {l : L}
    {p p' : Point σ τ κ ρ ε (Option α)} {h : History σ ε α C} {s' : σ} (hp : p.Plays D W Q l)
    (hs : D.knows l h) (hmove : p.Moves W h.shared p' s') :
    ∃ l', D.moves l h l' (h.goTo s') ∧ p'.Plays D W Q l' := by
  generalize hshared : h.shared = s at hmove
  cases hmove with
  | act hguard =>
      subst hshared
      exact hp h hs hguard
  | begins =>
      subst hshared
      exact hp h hs
  | @goesOn job next p q s hq =>
      subst hshared
      have hwork : Working D W job p l fun r l' => PyLib.Plays D W (next r) l' Q := hp
      exact ⟨l, hwork.goesOn h q hs hq, hwork⟩
  | @ends job next p s =>
      subst hshared
      have hwork : Working D W job p l fun r l' => PyLib.Plays D W (next r) l' Q := hp
      exact hwork.ends h hs

/-- What is known of one thread. -/
def Seated (D : Discipline σ κ ε α C L) (W : Works σ τ κ ρ)
    (Q : C → Nat → Except ε (Option α) → L → Prop) (l : L) :
    Option (Running σ τ κ ρ ε α C) → Prop
  | none => l = D.idle
  | some r => D.serves l r.call r.called ∧ r.point.Plays D W (Q r.call r.called) l

/-- Calls begin, are begun again and return as the discipline has it. -/
structure Machine.Follows (M : Machine σ τ κ ρ ε α C) (D : Discipline σ κ ε α C L)
    (Q : C → Nat → Except ε (Option α) → L → Prop) : Prop where
  calls : ∀ c h, D.knows D.idle h → ∃ l, D.moves D.idle h l (h.goTo h.shared) ∧
    D.serves l c h.past.length ∧ Plays D M.works (M.program c) l (Q c h.past.length)
  again : ∀ c n l h, Q c n (.ok none) l → D.knows l h → ∃ l', D.moves l h l' (h.goTo h.shared) ∧
    Plays D M.works (M.program c) l' (Q c n)
  returns : ∀ c n l h result, Q c n (result.map some) l → D.knows l h →
    D.moves l h D.idle (h.finish ⟨c, n, h.past.length, result⟩)
  serves : ∀ {l h l' s c n}, D.knows l h → D.moves l h l' (h.goTo s) → D.serves l c n →
    D.serves l' c n

variable [DecidableEq T] {I : Invariant T D} {M : Machine σ τ κ ρ ε α C}

/-- All threads follow the discipline. -/
def Played (I : Invariant T D) (M : Machine σ τ κ ρ ε α C)
    (Q : C → Nat → Except ε (Option α) → L → Prop) (w : Threads T σ τ κ ρ ε α C) : Prop :=
  ∃ ls, I.holds ls w.history ∧ ∀ t, Seated D M.works Q (ls t) (w.running t)

/-- **A step of any thread keeps the discipline.** -/
theorem Played.step (hM : M.Follows D Q) {w w' : Threads T σ τ κ ρ ε α C} (h : Played I M Q w)
    (hstep : M.Step w w') : Played I M Q w' := by
  obtain ⟨ls, hI, hseat⟩ := h
  -- one thread moves, and the others stay seated
  have hset : ∀ {t l h' r}, D.moves (ls t) w.history l h' → Seated D M.works Q l r →
      Played I M Q ⟨h', Function.update w.running t r⟩ := by
    intro t l h' r hmove ht
    refine ⟨Function.update ls t l, I.keeps hI hmove, fun u => ?_⟩
    show Seated D M.works Q (Function.update ls t l u) (Function.update w.running t r u)
    by_cases hu : u = t
    · subst hu
      rw [Function.update_self, Function.update_self]
      exact ht
    · rw [Function.update_of_ne hu, Function.update_of_ne hu]
      exact hseat u
  have hrunning : ∀ {t r}, w.running t = some r →
      D.serves (ls t) r.call r.called ∧ r.point.Plays D M.works (Q r.call r.called) (ls t) := by
    intro t r hrun
    have ht := hseat t
    rw [hrun] at ht
    exact ht
  cases hstep with
  | @calls h running t c hidle =>
      have ht : Seated D M.works Q (ls t) (running t) := hseat t
      rw [hidle] at ht
      have hknows := I.knows hI t
      rw [show ls t = D.idle from ht] at hknows
      obtain ⟨l, hmove, hserves, hplays⟩ := hM.calls c h hknows
      rw [← show ls t = D.idle from ht] at hmove
      exact hset hmove ⟨hserves, hplays⟩
  | moves hrun hmove =>
      obtain ⟨hserves, hpoint⟩ := hrunning hrun
      obtain ⟨l', hl, hp⟩ := hpoint.move (I.knows hI _) hmove
      exact hset hl ⟨hM.serves (I.knows hI _) hl hserves, hp⟩
  | @again h running t r hrun hdone =>
      obtain ⟨hserves, hQ⟩ := hrunning hrun
      rw [hdone] at hQ
      obtain ⟨l', hmove, hplays⟩ := hM.again r.call r.called _ h hQ (I.knows hI t)
      exact hset hmove ⟨hM.serves (I.knows hI t) hmove hserves, hplays⟩
  | @returns h running t r result hrun hdone =>
      obtain ⟨-, hQ⟩ := hrunning hrun
      rw [hdone] at hQ
      exact hset (hM.returns r.call r.called _ h result hQ (I.knows hI t)) rfl

/-- **The discipline in every world that is reached.** -/
theorem Played.steps (hM : M.Follows D Q) {w w' : Threads T σ τ κ ρ ε α C} (h : Played I M Q w)
    (hsteps : M.Steps w w') : Played I M Q w' := by
  induction hsteps with
  | refl => exact h
  | tail _ hstep ih => exact ih.step hM hstep

/-- Where nobody is in a call, all threads are idle. -/
theorem Played.start {w : Threads T σ τ κ ρ ε α C} (h : I.holds (fun _ => D.idle) w.history)
    (hidle : ∀ t, w.running t = none) : Played I M Q w := by
  refine ⟨fun _ => D.idle, h, fun t => ?_⟩
  rw [hidle t]
  rfl

/-- The threads at work are busy with it. -/
theorem Played.at_work {w : Threads T σ τ κ ρ ε α C} (h : Played I M Q w) :
    ∃ ls, I.holds ls w.history ∧ ∀ t r job next p, w.running t = some r →
      r.point = ⟨.work job next, some p⟩ → D.busy (ls t) job := by
  obtain ⟨ls, hI, hseat⟩ := h
  refine ⟨ls, hI, fun t r job next p hrun hpoint => ?_⟩
  have ht := hseat t
  rw [hrun] at ht
  have hplays : r.point.Plays D M.works (Q r.call r.called) (ls t) := ht.2
  rw [hpoint] at hplays
  exact Working.busy hplays

/-- Each thread serves the call it is in, or is idle. -/
theorem Played.serves {w : Threads T σ τ κ ρ ε α C} (h : Played I M Q w) :
    ∃ ls, I.holds ls w.history ∧ ∀ t, (w.running t = none ∧ ls t = D.idle) ∨
      ∃ r, w.running t = some r ∧ D.serves (ls t) r.call r.called := by
  obtain ⟨ls, hI, hseat⟩ := h
  refine ⟨ls, hI, fun t => ?_⟩
  have ht := hseat t
  cases hrun : w.running t with
  | none =>
      rw [hrun] at ht
      exact .inl ⟨rfl, ht⟩
  | some r =>
      rw [hrun] at ht
      exact .inr ⟨r, rfl, ht.1⟩

end Played

end PyLib
