/-
SpecStyle/Ui/SingleFlight.lean

One invocation at a time, and one release for each.

The single-flight lock has one owner: the active invocation, a thread that has
taken it for an invocation not yet there, or a thread that has ended one and is
yet to release it.  A step passes the lock from one of these to the next or
leaves it where it is (`FlightStep`), and an invocation that was ended has been
released once, or has one thread that will (`FlightInv`).

The gate has one owner too, and a call inside it that holds an execution found
it registered (`ExecutionInv`).  An execution is no longer registered once its
close has begun, unless it is registered again: `register_execution` takes any
execution (`cancelled_after_close`).
-/
import SpecStyle.Lib.Checks
import SpecStyle.Ui.ProductionUiState

namespace SpecStyle

open PyLib

namespace Ui

variable {Tid E P B : Type}

/-! ### What a trace says -/

/-- The invocation was begun, and neither finished nor abandoned since. -/
def isOpen (token : Int) : List (Observed E) → Bool
  | [] => false
  | .begun u :: rest => if u = token then true else isOpen token rest
  | .finished u :: rest => if u = token then false else isOpen token rest
  | .abandoned u :: rest => if u = token then false else isOpen token rest
  | _ :: rest => isOpen token rest

/-- A `close_execution` of the execution was accepted, and the execution was not
registered since. -/
def closeBegun [DecidableEq E] (execution : E) : List (Observed E) → Bool
  | [] => false
  | .closing x :: rest => if x = execution then true else closeBegun execution rest
  | .registered x :: rest => if x = execution then false else closeBegun execution rest
  | _ :: rest => closeBegun execution rest

/-- No `cancel` was called on an execution whose close had begun. -/
def CancelsOpen [DecidableEq E] (trace : List (Observed E)) : Prop :=
  ∀ later execution earlier, trace = later ++ .cancelled execution :: earlier →
    closeBegun execution earlier = false

/-- Seen of the single flight: a token was begun, ended or released. -/
def Observed.ofFlight : Observed E → Bool
  | .begun _ => true
  | .finished _ => true
  | .released _ => true
  | _ => false

/-- Seen of the executions. -/
def Observed.ofExecution : Observed E → Bool
  | .registered _ => true
  | .closing _ => true
  | .cancelled _ => true
  | _ => false

theorem isOpen_quiet {token : Int} {e : Observed E} {trace : List (Observed E)}
    (he : e.ofFlight = false) (ha : e ≠ .abandoned token) :
    isOpen token (e :: trace) = isOpen token trace := by
  cases e with
  | begun u => cases he
  | finished u => cases he
  | released u => cases he
  | abandoned u =>
    have hne : u ≠ token := fun h => ha (by rw [h])
    rw [isOpen, if_neg hne]
  | _ => rfl

theorem closeBegun_quiet [DecidableEq E] {execution : E} {e : Observed E}
    {trace : List (Observed E)} (he : e.ofExecution = false) :
    closeBegun execution (e :: trace) = closeBegun execution trace := by
  cases e with
  | registered x => cases he
  | closing x => cases he
  | cancelled x => cases he
  | _ => rfl

theorem CancelsOpen.cons [DecidableEq E] {e : Observed E} {trace : List (Observed E)}
    (h : CancelsOpen trace)
    (he : ∀ x, e = .cancelled x → closeBegun x trace = false) : CancelsOpen (e :: trace) := by
  intro later x earlier heq
  cases later with
  | nil =>
    obtain ⟨rfl, rfl⟩ := List.cons.inj heq
    exact he x rfl
  | cons d later => exact h later x earlier (List.cons.inj heq).2

/-! ### What the sections keep -/

namespace ProductionUiState

/-- The locks, the tokens and who is active are kept. -/
structure Kept (s s' : ProductionUiState E P B) : Prop where
  lock : s'.singleFlight = s.singleFlight
  gate : s'.cancelCloseGate = s.cancelCloseGate
  next : s'.nextToken = s.nextToken
  active : s'.activeToken = s.activeToken

/-- The active invocation was ended. -/
structure Ended (s s' : ProductionUiState E P B) : Prop where
  lock : s'.singleFlight = s.singleFlight
  gate : s'.cancelCloseGate = s.cancelCloseGate
  next : s'.nextToken = s.nextToken
  active : s'.active = none

variable {s s' : ProductionUiState E P B} {token : Int} {x : E}

theorem Ended.execution (h : Ended s s') : s'.execution = none := by
  unfold ProductionUiState.execution
  rw [h.active]
  rfl

theorem matching_ok {active : ActiveInvocation E} (h : s.matching token = .ok active) :
    s.active = some active ∧ active.token = token := by
  unfold matching at h
  split at h
  · next a ha =>
    split_ifs at h with ht
    cases h
    exact ⟨ha, ht⟩
  · cases h

theorem activeToken_of_matching {active : ActiveInvocation E}
    (h : s.matching token = .ok active) : s.activeToken = some token := by
  obtain ⟨ha, rfl⟩ := matching_ok h
  unfold activeToken
  rw [ha]
  rfl

theorem setPhase_ok {phase : Text} {jobId : Option Text} {currentIndex : Option Int}
    (h : s.setPhase token phase jobId currentIndex = .ok s') :
    s.activeToken = some token ∧ Kept s s' ∧ s'.execution = s.execution := by
  obtain ⟨active, hm, h⟩ := bind_ok_iff.mp h
  cases h
  have ha := (matching_ok hm).1
  refine ⟨activeToken_of_matching hm, ⟨rfl, rfl, rfl, ?_⟩, ?_⟩
  · unfold activeToken
    rw [ha]
    rfl
  · unfold ProductionUiState.execution
    rw [ha]
    rfl

theorem registerExecution_ok {cancelled : Bool}
    (h : s.registerExecution token x = .ok (cancelled, s')) :
    s.activeToken = some token ∧ Kept s s' ∧ s'.execution = some x := by
  obtain ⟨active, hm, h⟩ := bind_ok_iff.mp h
  cases h
  have ha := (matching_ok hm).1
  refine ⟨activeToken_of_matching hm, ⟨rfl, rfl, rfl, ?_⟩, rfl⟩
  unfold activeToken
  rw [ha]
  rfl

theorem closeExecution_ok [DecidableEq E] (h : s.closeExecution token x = .ok s') :
    s.activeToken = some token ∧ Kept s s' ∧
      s'.execution = if s.execution = some x then none else s.execution := by
  obtain ⟨active, hm, h⟩ := bind_ok_iff.mp h
  cases h
  have ha := (matching_ok hm).1
  refine ⟨activeToken_of_matching hm, ⟨rfl, rfl, rfl, ?_⟩, ?_⟩
  · unfold activeToken
    rw [ha]
    rfl
  · unfold ProductionUiState.execution
    rw [ha]
    rfl

theorem registeredExecution_ok (h : s.registeredExecution token = .ok (some x)) :
    s.activeToken = some token ∧ s.execution = some x := by
  obtain ⟨active, hm, h⟩ := bind_ok_iff.mp h
  have hx : active.execution = some x := Except.ok.inj h
  refine ⟨activeToken_of_matching hm, ?_⟩
  unfold ProductionUiState.execution
  rw [(matching_ok hm).1]
  exact hx

theorem finish_ok {projection : P} {baseline : Option B}
    (h : s.finish token projection baseline = .ok s') :
    s.activeToken = some token ∧ Ended s s' := by
  obtain ⟨active, hm, h⟩ := bind_ok_iff.mp h
  split_ifs at h
  cases h
  exact ⟨activeToken_of_matching hm, ⟨rfl, rfl, rfl, rfl⟩⟩

theorem abandon_eq {release : Bool} (h : s.abandon token = (release, s')) :
    (release = true ∧ s.activeToken = some token ∧ Ended s s') ∨
      (release = false ∧ s.activeToken ≠ some token ∧ s' = s) := by
  unfold abandon at h
  split_ifs at h with ha
  · cases h
    exact .inl ⟨rfl, ha, ⟨rfl, rfl, rfl, rfl⟩⟩
  · cases h
    exact .inr ⟨rfl, ha, rfl⟩

theorem cancelJob_eq {answer : Except String (Option E)} (h : s.cancelJob = (answer, s')) :
    Kept s s' ∧ s'.execution = s.execution ∧
      ∀ x, answer = .ok (some x) → s.execution = some x := by
  unfold cancelJob at h
  split at h
  · cases h
    exact ⟨⟨rfl, rfl, rfl, rfl⟩, rfl, fun _ h => by cases h⟩
  · next active ha =>
    by_cases hc : active.cancelRequested = true
    · rw [if_pos hc] at h
      cases h
      exact ⟨⟨rfl, rfl, rfl, rfl⟩, rfl, fun _ h => by cases h⟩
    · rw [if_neg hc] at h
      split at h
      · cases h
        exact ⟨⟨rfl, rfl, rfl, rfl⟩, rfl, fun _ h => by cases h⟩
      cases h
      refine ⟨⟨rfl, rfl, rfl, ?_⟩, ?_, fun x h => ?_⟩
      · unfold activeToken
        rw [ha]
        rfl
      · unfold ProductionUiState.execution
        rw [ha]
        rfl
      · unfold ProductionUiState.execution
        rw [ha]
        exact Except.ok.inj h

end ProductionUiState

open ProductionUiState

/-! ### The single flight -/

/-- Who may hold the single-flight lock: the active invocation (`none`), or a
thread between its two sections. -/
def World.flies (w : World Tid E P B) : Option Tid → Prop
  | none => w.state.active.isSome = true
  | some t => (w.pc t).between = true

/-- The lock has one owner of these, if it is taken. -/
def Owned (w : World Tid E P B) : Prop := Guards (fun p : Prop => p) w.state.singleFlight w.flies

section Flight

variable [DecidableEq Tid] [DecidableEq E] {w w' : World Tid E P B} {t : Tid} {m : Move E P B}

/-- A step that leaves the flight as it is. -/
structure Quiet (w : World Tid E P B) (t : Tid) (w' : World Tid E P B) : Prop where
  lock : w'.state.singleFlight = w.state.singleFlight
  next : w'.state.nextToken = w.state.nextToken
  active : w'.state.activeToken = w.state.activeToken
  was : (w.pc t).between = false
  pc : ∃ pc, w'.pc = Function.update w.pc t pc ∧ pc.between = false
  trace : w'.trace = w.trace ∨ ∃ e, w'.trace = e :: w.trace ∧ e.ofFlight = false ∧
    ∀ token, e = .abandoned token → w.state.activeToken ≠ some token

/-- What a step does to the flight. -/
inductive FlightStep (w : World Tid E P B) (t : Tid) (w' : World Tid E P B) : Prop
  | quiet (h : Quiet w t w')
  /-- `try_begin` takes the lock -/
  | takes {kind : Text} {total : Int} (at_ : w.pc t = .idle) (free : w.state.singleFlight = false)
      (eq : w' = w.go t (.beginning kind total) { w.state with singleFlight := true } [])
  /-- `try_begin` makes the invocation active -/
  | begins {kind : Text} {total : Int} (at_ : w.pc t = .beginning kind total)
      (eq : w' = w.go t .idle (w.state.tryBegin kind total) [.begun (w.state.nextToken + 1)])
  /-- `finish` or `abandon` ends it -/
  | ends {token : Int} {state : ProductionUiState E P B} {e : Observed E} (at_ : w.pc t = .idle)
      (active : w.state.activeToken = some token) (ended : Ended w.state state)
      (seen : e = .finished token ∨ e = .abandoned token)
      (eq : w' = w.go t (.releasing token) state [e])
  /-- and releases the lock -/
  | releases {token : Int} (at_ : w.pc t = .releasing token) (taken : w.state.singleFlight = true)
      (eq : w' = w.go t .idle { w.state with singleFlight := false } [.released token])
  /-- which must not be free -/
  | raises {token : Int} (at_ : w.pc t = .releasing token) (free : w.state.singleFlight = false)

omit [DecidableEq E] in
/-- A section that keeps the lock, the tokens and who is active, and is not seen. -/
theorem Quiet.silent {pc : Pc E} {state : ProductionUiState E P B} (hk : Kept w.state state)
    (hwas : (w.pc t).between = false) (hpc : pc.between = false) : Quiet w t (w.go t pc state []) :=
  ⟨hk.lock, hk.next, hk.active, hwas, ⟨pc, rfl, hpc⟩, .inl rfl⟩

omit [DecidableEq E] in
/-- Such a section, seen. -/
theorem Quiet.seen {pc : Pc E} {state : ProductionUiState E P B} {e : Observed E}
    (hk : Kept w.state state) (hwas : (w.pc t).between = false) (hpc : pc.between = false)
    (he : e.ofFlight = false)
    (ha : ∀ token, e = .abandoned token → w.state.activeToken ≠ some token) :
    Quiet w t (w.go t pc state [e]) :=
  ⟨hk.lock, hk.next, hk.active, hwas, ⟨pc, rfl, hpc⟩, .inr ⟨e, rfl, he, ha⟩⟩

omit [DecidableEq E] in
/-- A call that raised at once. -/
theorem Quiet.refl (hwas : (w.pc t).between = false) : Quiet w t w :=
  ⟨rfl, rfl, rfl, hwas, ⟨w.pc t, (Function.update_eq_self t w.pc).symm, hwas⟩, .inl rfl⟩

omit [DecidableEq E] in
theorem startCall_flight {call : Call E P B} (hpc : w.pc t = .idle)
    (h : w.startCall t call = some w') : FlightStep w t w' := by
  have hwas : (w.pc t).between = false := by rw [hpc]; rfl
  cases call with
  | tryBegin kind total =>
    rw [World.startCall] at h
    split at h
    · cases h
      exact .quiet (Quiet.refl hwas)
    · split_ifs at h with hlock
      · cases h
        exact .quiet (Quiet.refl hwas)
      · cases h
        exact .takes hpc (Bool.eq_false_iff.mpr hlock) rfl
  | setPhase token phase jobId currentIndex =>
    rw [World.startCall] at h
    split at h
    · cases h
      exact .quiet (Quiet.refl hwas)
    · next state hs =>
      cases h
      exact .quiet (Quiet.silent (setPhase_ok hs).2.1 hwas rfl)
  | registerExecution token execution =>
    rw [World.startCall] at h
    split at h
    · cases h
      exact .quiet (Quiet.refl hwas)
    · next cancelled state hs =>
      cases h
      exact .quiet (Quiet.seen (registerExecution_ok hs).2.1 hwas rfl rfl fun _ he => by cases he)
  | finish token projection baseline =>
    rw [World.startCall] at h
    split at h
    · cases h
      exact .quiet (Quiet.refl hwas)
    · next state hs =>
      cases h
      obtain ⟨hactive, he⟩ := finish_ok hs
      exact .ends hpc hactive he (.inl rfl) rfl
  | abandon token =>
    rw [World.startCall] at h
    split at h
    · next state hs =>
      cases h
      rcases abandon_eq hs with ⟨-, hactive, he⟩ | ⟨hfalse, -, -⟩
      · exact .ends hpc hactive he (.inr rfl) rfl
      · cases hfalse
    · next state hs =>
      cases h
      rcases abandon_eq hs with ⟨htrue, -, -⟩ | ⟨-, hactive, rfl⟩
      · cases htrue
      · refine .quiet (Quiet.seen ⟨rfl, rfl, rfl, rfl⟩ hwas rfl rfl fun u hu => ?_)
        cases hu
        exact hactive
  | gate call =>
    rw [World.startCall] at h
    split_ifs at h
    cases h
    exact .quiet ⟨rfl, rfl, rfl, hwas, ⟨_, rfl, rfl⟩, .inl rfl⟩

theorem gateSection_flight (call : GateCall E) (hwas : (w.pc t).between = false) :
    Quiet w t (w.gateSection t call) := by
  cases call with
  | closeExecution token execution =>
    rw [World.gateSection]
    split
    · exact Quiet.silent ⟨rfl, rfl, rfl, rfl⟩ hwas rfl
    · next state hs =>
      exact Quiet.seen (closeExecution_ok hs).2.1 hwas rfl rfl fun _ he => by cases he
  | cancelRegisteredExecution token =>
    rw [World.gateSection]
    split
    · exact Quiet.silent ⟨rfl, rfl, rfl, rfl⟩ hwas rfl
    · exact Quiet.silent ⟨rfl, rfl, rfl, rfl⟩ hwas rfl
  | cancelJob =>
    rw [World.gateSection]
    split
    · next hs => exact Quiet.silent (cancelJob_eq hs).1 hwas rfl
    · next hs => exact Quiet.silent (cancelJob_eq hs).1 hwas rfl

theorem resume_flight (h : w.resume t = some w') : FlightStep w t w' := by
  have hnone : ∀ {e : Observed E}, (∀ u, e ≠ .abandoned u) →
      ∀ token, e = .abandoned token → w.state.activeToken ≠ some token :=
    fun he token h => absurd h (he token)
  unfold World.resume at h
  split at h
  · cases h
  · next kind total hpc =>
    cases h
    exact .begins hpc rfl
  · next token hpc =>
    split_ifs at h with hlock
    · cases h
      exact .releases hpc hlock rfl
    · exact .raises hpc (Bool.eq_false_iff.mpr hlock)
  · next call hpc =>
    cases h
    exact .quiet (gateSection_flight call (by rw [hpc]; rfl))
  · next token execution hpc =>
    cases h
    exact .quiet (Quiet.seen ⟨rfl, rfl, rfl, rfl⟩ (by rw [hpc]; rfl) rfl rfl
      (hnone fun _ he => by cases he))
  · next call execution hpc =>
    cases h
    exact .quiet (Quiet.seen ⟨rfl, rfl, rfl, rfl⟩ (by rw [hpc]; rfl) rfl rfl
      (hnone fun _ he => by cases he))
  · next call hpc =>
    cases h
    exact .quiet ⟨rfl, rfl, rfl, by rw [hpc]; rfl, ⟨_, rfl, rfl⟩, .inl rfl⟩

/-- **The flight in every step.** -/
theorem step_flight (h : w.step (t, m) = some w') : FlightStep w t w' := by
  unfold World.step at h
  split at h
  · next call hpc => exact startCall_flight hpc h
  · cases h
  · exact resume_flight h

/-! ### The owner of the lock -/

omit [DecidableEq E] [DecidableEq Tid] in
/-- A thread between its two sections is one of them. -/
theorem flies_at {pc : Pc E} (at_ : w.pc t = pc) (hb : pc.between = true) : w.flies (some t) := by
  show (w.pc t).between = true
  rw [at_, hb]

omit [DecidableEq E] in
theorem flies_go {x : Option Tid} {pc : Pc E} {state : ProductionUiState E P B}
    {seen : List (Observed E)} : (w.go t pc state seen).flies x ↔
      (x = none ∧ state.active.isSome = true) ∨ (x = some t ∧ pc.between = true) ∨
        ∃ u, x = some u ∧ u ≠ t ∧ (w.pc u).between = true := by
  rcases x with - | u
  · simp [World.flies, World.go]
  · by_cases hu : u = t
    · subst hu
      simp [World.flies, World.go]
    · simp [World.flies, World.go, hu]

omit [DecidableEq E] in
/-- A step passes the lock on, or leaves it. -/
theorem Owned.step (h : Owned w) (hs : FlightStep w t w') : Owned w' := by
  cases hs with
  | quiet hq =>
    obtain ⟨pc, hpc, hbetween⟩ := hq.pc
    unfold Owned
    rw [hq.lock]
    refine Guards.congr h fun x => ?_
    rcases x with - | u
    · have hsome : w'.state.activeToken.isSome = w.state.activeToken.isSome := by rw [hq.active]
      unfold ProductionUiState.activeToken at hsome
      rw [Option.isSome_map, Option.isSome_map] at hsome
      show w'.state.active.isSome = true ↔ w.state.active.isSome = true
      rw [hsome]
    · show (w'.pc u).between = true ↔ (w.pc u).between = true
      rw [hpc]
      by_cases hu : u = t
      · subst hu
        rw [Function.update_self, hbetween, hq.was]
      · rw [Function.update_of_ne hu]
  | takes at_ free eq =>
    subst eq
    have hfree : ∀ x, ¬ w.flies x := by
      unfold Owned at h
      rw [free] at h
      exact h.of_free
    refine Guards.owner (some t) fun x => flies_go.trans ?_
    constructor
    · rintro (⟨-, ha⟩ | ⟨hx, -⟩ | ⟨u, -, -, hu⟩)
      · exact absurd ha (hfree none)
      · exact hx
      · exact absurd hu (hfree (some u))
    · exact fun hx => .inr (.inl ⟨hx, rfl⟩)
  | begins at_ eq =>
    subst eq
    have ht : w.flies (some t) := flies_at at_ rfl
    have hlock : w.state.singleFlight = true := h.taken_of ht
    show Guards _ w.state.singleFlight _
    rw [hlock]
    refine Guards.owner none fun x => flies_go.trans ?_
    constructor
    · rintro (⟨hx, -⟩ | ⟨-, hb⟩ | ⟨u, -, hne, hu⟩)
      · exact hx
      · cases hb
      · exact absurd (Option.some.inj (h.unique hu ht)) hne
    · exact fun hx => .inl ⟨hx, rfl⟩
  | ends at_ active ended seen eq =>
    subst eq
    have hn : w.flies none := by
      obtain ⟨a, ha, -⟩ := Option.map_eq_some_iff.mp active
      show w.state.active.isSome = true
      rw [ha]
      rfl
    have hlock : w.state.singleFlight = true := h.taken_of hn
    show Guards _ _ _
    rw [World.go, ended.lock, hlock]
    refine Guards.owner (some t) fun x => flies_go.trans ?_
    constructor
    · rintro (⟨-, ha⟩ | ⟨hx, -⟩ | ⟨u, -, -, hu⟩)
      · rw [ended.active] at ha
        cases ha
      · exact hx
      · cases h.unique (t := some u) hu hn
    · exact fun hx => .inr (.inl ⟨hx, rfl⟩)
  | releases at_ taken eq =>
    subst eq
    have ht : w.flies (some t) := flies_at at_ rfl
    refine Guards.start fun x hx => ?_
    rcases flies_go.mp hx with ⟨-, ha⟩ | ⟨-, hb⟩ | ⟨u, -, hne, hu⟩
    · cases h.unique (t := none) ha ht
    · cases hb
    · exact hne (Option.some.inj (h.unique hu ht))
  | raises at_ free =>
    have ht : w.flies (some t) := flies_at at_ rfl
    have hlock := h.taken_of ht
    rw [free] at hlock
    cases hlock

/-! ### The tokens -/

/-- How often the token was made. -/
def World.begins (w : World Tid E P B) (token : Int) : Nat := w.trace.count (.begun token)

/-- How often the lock was released for the token. -/
def World.releases (w : World Tid E P B) (token : Int) : Nat := w.trace.count (.released token)

/-- What holds of every token. -/
structure Tokens (w : World Tid E P B) : Prop where
  /-- a token that is still to come was not seen -/
  fresh : ∀ u, w.state.nextToken < u → w.begins u = 0 ∧ w.releases u = 0
  once : ∀ u, w.begins u ≤ 1
  open_iff : ∀ u, isOpen u w.trace = true ↔ w.state.activeToken = some u
  opened : ∀ u, isOpen u w.trace = true → w.begins u = 1 ∧ w.releases u = 0
  /-- a release that is due -/
  due : ∀ t u, w.pc t = .releasing u →
    w.begins u = 1 ∧ isOpen u w.trace = false ∧ w.releases u = 0
  /-- an ended invocation is released, or will be -/
  settled : ∀ u, w.begins u = 1 → isOpen u w.trace = false →
    w.releases u = 1 ∨ ∃ t, w.pc t = .releasing u

omit [DecidableEq Tid] in
/-- A step that nothing is seen of, but for an `abandon` of another token. -/
theorem Tokens.congr (h : Tokens w) (hnext : w'.state.nextToken = w.state.nextToken)
    (hactive : w'.state.activeToken = w.state.activeToken)
    (hopen : ∀ u, isOpen u w'.trace = isOpen u w.trace) (hbegins : ∀ u, w'.begins u = w.begins u)
    (hreleases : ∀ u, w'.releases u = w.releases u)
    (hpc : ∀ x u, w'.pc x = .releasing u ↔ w.pc x = .releasing u) : Tokens w' where
  fresh := by
    intro u hu
    rw [hnext] at hu
    rw [hbegins, hreleases]
    exact h.fresh u hu
  once := by
    intro u
    rw [hbegins]
    exact h.once u
  open_iff := by
    intro u
    rw [hopen, hactive]
    exact h.open_iff u
  opened := by
    intro u
    rw [hopen, hbegins, hreleases]
    exact h.opened u
  due := by
    intro x u hx
    rw [hopen, hbegins, hreleases]
    exact h.due x u ((hpc x u).mp hx)
  settled := by
    intro u
    rw [hopen, hbegins, hreleases]
    intro hb ho
    rcases h.settled u hb ho with hr | ⟨x, hx⟩
    · exact .inl hr
    · exact .inr ⟨x, (hpc x u).mpr hx⟩

omit [DecidableEq E] in
/-- A thread that is not between its sections moves to where it is not either. -/
theorem releasing_update {pc : Pc E} (hwas : (w.pc t).between = false) (hb : pc.between = false)
    (x : Tid) (u : Int) : Function.update w.pc t pc x = .releasing u ↔ w.pc x = .releasing u := by
  by_cases hx : x = t
  · subst hx
    rw [Function.update_self]
    constructor
    · intro h
      rw [h] at hb
      cases hb
    · intro h
      rw [h] at hwas
      cases hwas
  · rw [Function.update_of_ne hx]

theorem Tokens.quiet (h : Tokens w) (hq : Quiet w t w') : Tokens w' := by
  obtain ⟨pc, hpc, hb⟩ := hq.pc
  have hmoves : ∀ x u, w'.pc x = .releasing u ↔ w.pc x = .releasing u := by
    rw [hpc]
    exact releasing_update hq.was hb
  rcases hq.trace with htrace | ⟨e, htrace, he, ha⟩
  · refine h.congr hq.next hq.active ?_ ?_ ?_ hmoves
    · intro u
      rw [htrace]
    · intro u
      unfold World.begins
      rw [htrace]
    · intro u
      unfold World.releases
      rw [htrace]
  · refine h.congr hq.next hq.active (fun u => ?_) ?_ ?_ hmoves
    · rw [htrace]
      by_cases hu : e = .abandoned u
      · -- it was not open before either
        have hclosed : isOpen u w.trace = false := by
          rw [Bool.eq_false_iff]
          exact fun ho => ha u hu ((h.open_iff u).mp ho)
        rw [hclosed, hu]
        exact if_pos rfl
      · exact isOpen_quiet he hu
    · intro u
      unfold World.begins
      rw [htrace, List.count_cons_of_ne]
      rintro rfl
      cases he
    · intro u
      unfold World.releases
      rw [htrace, List.count_cons_of_ne]
      rintro rfl
      cases he

/-- A new token is made. -/
theorem Tokens.made {kind : Text} {total : Int} (h : Tokens w) (ho : Owned w)
    (at_ : w.pc t = .beginning kind total) :
    Tokens (w.go t .idle (w.state.tryBegin kind total) [.begun (w.state.nextToken + 1)]) := by
  have hidle : ∀ x u, Function.update w.pc t .idle x = .releasing u → w.pc x = .releasing u := by
    intro x u hx
    by_cases hxt : x = t
    · subst hxt
      rw [Function.update_self] at hx
      cases hx
    · rwa [Function.update_of_ne hxt] at hx
  have hkeep : ∀ x u, w.pc x = .releasing u → Function.update w.pc t .idle x = .releasing u := by
    intro x u hx
    by_cases hxt : x = t
    · subst hxt
      rw [at_] at hx
      cases hx
    · rwa [Function.update_of_ne hxt]
  -- while a thread begins, no invocation is active
  have hnone : w.state.activeToken = none := by
    have ht : w.flies (some t) := flies_at at_ rfl
    unfold ProductionUiState.activeToken
    rw [Option.map_eq_none_iff]
    by_contra ha
    have hn : w.flies none := Option.isSome_iff_ne_none.mpr ha
    cases ho.unique hn ht
  have hclosed : ∀ u, isOpen u w.trace = false := by
    intro u
    rw [Bool.eq_false_iff]
    intro hu
    rw [h.open_iff, hnone] at hu
    cases hu
  have hfresh := h.fresh (w.state.nextToken + 1) (by omega)
  have hopen : ∀ u, isOpen u (.begun (w.state.nextToken + 1) :: w.trace) =
      decide (w.state.nextToken + 1 = u) := by
    intro u
    rw [isOpen, hclosed]
    split <;> simp_all
  have hbegins : ∀ u, (w.go t .idle (w.state.tryBegin kind total)
      [.begun (w.state.nextToken + 1)]).begins u =
        w.begins u + if w.state.nextToken + 1 = u then 1 else 0 := by
    intro u
    show List.count _ (.begun (w.state.nextToken + 1) :: w.trace) = _
    rw [List.count_cons]
    simp [World.begins]
  have hreleases : ∀ u, (w.go t .idle (w.state.tryBegin kind total)
      [.begun (w.state.nextToken + 1)]).releases u = w.releases u := by
    intro u
    show List.count _ (.begun (w.state.nextToken + 1) :: w.trace) = _
    rw [List.count_cons_of_ne (by intro he; cases he)]
    rfl
  constructor
  · intro u hu
    change w.state.nextToken + 1 < u at hu
    rw [hbegins, hreleases, if_neg (by omega)]
    exact h.fresh u (by omega)
  · intro u
    rw [hbegins]
    have := h.once u
    split
    · next he =>
      subst he
      omega
    · omega
  · intro u
    show isOpen u (.begun (w.state.nextToken + 1) :: w.trace) = true ↔
      some (w.state.nextToken + 1) = some u
    rw [hopen, decide_eq_true_eq, Option.some_inj]
  · intro u hu
    change isOpen u (.begun (w.state.nextToken + 1) :: w.trace) = true at hu
    rw [hopen, decide_eq_true_eq] at hu
    subst hu
    rw [hbegins, hreleases, if_pos rfl]
    omega
  · intro x u hx
    obtain ⟨hb, -, hr⟩ := h.due x u (hidle x u hx)
    have hne : w.state.nextToken + 1 ≠ u := by
      rintro rfl
      omega
    refine ⟨?_, ?_, ?_⟩
    · rw [hbegins, if_neg hne, hb]
    · show isOpen u (.begun (w.state.nextToken + 1) :: w.trace) = false
      rw [hopen, decide_eq_false hne]
    · rw [hreleases, hr]
  · intro u hb hu
    change isOpen u (.begun (w.state.nextToken + 1) :: w.trace) = false at hu
    rw [hopen, decide_eq_false_iff_not] at hu
    rw [hbegins, if_neg hu] at hb
    rw [hreleases]
    rcases h.settled u hb (hclosed u) with hr | ⟨x, hx⟩
    · exact .inl hr
    · exact .inr ⟨x, hkeep x u hx⟩

/-- The active invocation is ended. -/
theorem Tokens.ended {token : Int} {state : ProductionUiState E P B} {e : Observed E} (h : Tokens w)
    (at_ : w.pc t = .idle) (active : w.state.activeToken = some token)
    (ended : Ended w.state state) (seen : e = .finished token ∨ e = .abandoned token) :
    Tokens (w.go t (.releasing token) state [e]) := by
  have hwas := (h.open_iff token).mpr active
  obtain ⟨hb1, hr0⟩ := h.opened token hwas
  have hopen : ∀ u, isOpen u (e :: w.trace) = false := by
    intro u
    have hif : isOpen u (e :: w.trace) = if token = u then false else isOpen u w.trace := by
      rcases seen with rfl | rfl <;> rfl
    rw [hif]
    split_ifs with hu
    · rfl
    · rw [Bool.eq_false_iff]
      intro ho
      rw [h.open_iff, active] at ho
      exact hu (Option.some.inj ho)
  have hbegins : ∀ u, (w.go t (.releasing token) state [e]).begins u = w.begins u := by
    intro u
    show List.count _ (e :: w.trace) = _
    rw [List.count_cons_of_ne]
    · rfl
    · rcases seen with rfl | rfl <;> exact fun he => by cases he
  have hreleases : ∀ u, (w.go t (.releasing token) state [e]).releases u = w.releases u := by
    intro u
    show List.count _ (e :: w.trace) = _
    rw [List.count_cons_of_ne]
    · rfl
    · rcases seen with rfl | rfl <;> exact fun he => by cases he
  constructor
  · intro u hu
    change state.nextToken < u at hu
    rw [ended.next] at hu
    rw [hbegins, hreleases]
    exact h.fresh u hu
  · intro u
    rw [hbegins]
    exact h.once u
  · intro u
    show isOpen u (e :: w.trace) = true ↔ state.activeToken = some u
    unfold ProductionUiState.activeToken
    rw [hopen, ended.active]
    constructor
    · intro h
      cases h
    · intro h
      cases h
  · intro u hu
    change isOpen u (e :: w.trace) = true at hu
    rw [hopen] at hu
    cases hu
  · intro x u hx
    rw [hbegins, hreleases]
    refine ⟨?_, hopen u, ?_⟩
    all_goals
      by_cases hxt : x = t
      · subst hxt
        change Function.update w.pc x (.releasing token) x = .releasing u at hx
        rw [Function.update_self] at hx
        cases hx
        first | exact hb1 | exact hr0
      · change Function.update w.pc t (.releasing token) x = .releasing u at hx
        rw [Function.update_of_ne hxt] at hx
        first | exact (h.due x u hx).1 | exact (h.due x u hx).2.2
  · intro u hb _
    rw [hbegins] at hb
    rw [hreleases]
    by_cases hu : u = token
    · subst hu
      exact .inr ⟨t, Function.update_self t _ _⟩
    · have hclosed : isOpen u w.trace = false := by
        rw [Bool.eq_false_iff]
        intro ho
        rw [h.open_iff, active] at ho
        exact hu (Option.some.inj ho).symm
      rcases h.settled u hb hclosed with hr | ⟨x, hx⟩
      · exact .inl hr
      · refine .inr ⟨x, ?_⟩
        have hxt : x ≠ t := by
          rintro rfl
          rw [at_] at hx
          cases hx
        show Function.update w.pc t (.releasing token) x = .releasing u
        rwa [Function.update_of_ne hxt]

/-- The lock is released for an ended invocation. -/
theorem Tokens.release {token : Int} (h : Tokens w) (ho : Owned w)
    (at_ : w.pc t = .releasing token) :
    Tokens (w.go t .idle { w.state with singleFlight := false } [.released token]) := by
  obtain ⟨hb1, hclosed, hr0⟩ := h.due t token at_
  have hbegins : ∀ u, (w.go t .idle { w.state with singleFlight := false }
      [.released token]).begins u = w.begins u := by
    intro u
    show List.count _ (.released token :: w.trace) = _
    rw [List.count_cons_of_ne (by intro he; cases he)]
    rfl
  have hreleases : ∀ u, (w.go t .idle { w.state with singleFlight := false }
      [.released token]).releases u = w.releases u + if token = u then 1 else 0 := by
    intro u
    show List.count _ (.released token :: w.trace) = _
    rw [List.count_cons]
    simp [World.releases]
  -- it is the only thread between its sections
  have honly : ∀ x u, w.pc x = .releasing u → x = t := by
    intro x u hx
    have hflies : w.flies (some x) := flies_at hx rfl
    have ht : w.flies (some t) := flies_at at_ rfl
    exact Option.some.inj (ho.unique hflies ht)
  constructor
  · intro u hu
    change w.state.nextToken < u at hu
    obtain ⟨hb, hr⟩ := h.fresh u hu
    have hne : token ≠ u := by
      rintro rfl
      omega
    rw [hbegins, hreleases, if_neg hne]
    exact ⟨hb, hr⟩
  · intro u
    rw [hbegins]
    exact h.once u
  · exact h.open_iff
  · intro u hu
    change isOpen u w.trace = true at hu
    obtain ⟨hb, hr⟩ := h.opened u hu
    have hne : token ≠ u := by
      rintro rfl
      rw [hclosed] at hu
      cases hu
    rw [hbegins, hreleases, if_neg hne]
    exact ⟨hb, hr⟩
  · intro x u hx
    change Function.update w.pc t .idle x = .releasing u at hx
    by_cases hxt : x = t
    · subst hxt
      rw [Function.update_self] at hx
      cases hx
    · rw [Function.update_of_ne hxt] at hx
      exact absurd (honly x u hx) hxt
  · intro u hb hu
    change isOpen u w.trace = false at hu
    rw [hbegins] at hb
    rw [hreleases]
    by_cases hne : token = u
    · subst hne
      rw [if_pos rfl, hr0]
      exact .inl rfl
    · rw [if_neg hne]
      rcases h.settled u hb hu with hr | ⟨x, hx⟩
      · exact .inl hr
      · have hxt := honly x u hx
        subst hxt
        rw [at_] at hx
        cases hx
        exact absurd rfl hne

theorem Tokens.step (h : Tokens w) (ho : Owned w) (hs : FlightStep w t w') : Tokens w' := by
  cases hs with
  | quiet hq => exact h.quiet hq
  | takes at_ free eq =>
    subst eq
    refine h.congr rfl rfl (fun _ => rfl) (fun _ => rfl) (fun _ => rfl) fun x u => ?_
    show Function.update w.pc t _ x = .releasing u ↔ _
    by_cases hxt : x = t
    · subst hxt
      rw [Function.update_self, at_]
      constructor
      · intro hx
        cases hx
      · intro hx
        cases hx
    · rw [Function.update_of_ne hxt]
  | begins at_ eq =>
    subst eq
    exact h.made ho at_
  | ends at_ active ended seen eq =>
    subst eq
    exact h.ended at_ active ended seen
  | releases at_ taken eq =>
    subst eq
    exact h.release ho at_
  | raises at_ free =>
    have ht : w.flies (some t) := flies_at at_ rfl
    have hlock := ho.taken_of ht
    rw [free] at hlock
    cases hlock

/-! ### The gate -/

/-- What a step does to the executions. -/
inductive ExecutionStep (w : World Tid E P B) (t : Tid) (w' : World Tid E P B) : Prop
  /-- outside the gate, without an execution -/
  | outside (was : (w.pc t).inGate = false)
      (pc : ∃ pc, w'.pc = Function.update w.pc t pc ∧ pc.inGate = false)
      (gate : w'.state.cancelCloseGate = w.state.cancelCloseGate)
      (execution : w'.state.execution = w.state.execution ∨ w'.state.execution = none)
      (trace : w'.trace = w.trace ∨ ∃ e, w'.trace = e :: w.trace ∧ e.ofExecution = false)
  | registers {execution : E} {state : ProductionUiState E P B} (at_ : w.pc t = .idle)
      (gate : state.cancelCloseGate = w.state.cancelCloseGate)
      (registered : state.execution = some execution)
      (eq : w' = w.go t .idle state [.registered execution])
  | enters {call : GateCall E} (at_ : w.pc t = .idle) (free : w.state.cancelCloseGate = false)
      (eq : w' = w.go t (.gated call) { w.state with cancelCloseGate := true } [])
  /-- a section that keeps the execution registered, and may have found it -/
  | finds {call : GateCall E} {pc : Pc E} {state : ProductionUiState E P B}
      (at_ : w.pc t = .gated call) (inGate : pc.inGate = true) (kept : Kept w.state state)
      (same : state.execution = w.state.execution)
      (found : ∀ call execution, pc = .cancelling call execution →
        w.state.execution = some execution)
      (eq : w' = w.go t pc state [])
  /-- the section of `close_execution` -/
  | closes {token : Int} {execution : E} {call : GateCall E} {state : ProductionUiState E P B}
      (at_ : w.pc t = .gated call) (kept : Kept w.state state)
      (after : state.execution =
        if w.state.execution = some execution then none else w.state.execution)
      (eq : w' = w.go t (.closing token execution) state [.closing execution])
  | calls {token : Int} {execution : E} {call : GateCall E}
      (at_ : w.pc t = .closing token execution)
      (eq : w' = w.go t (.leaving call) w.state [.closeCalled execution])
  | cancels {execution : E} {call : GateCall E} (at_ : w.pc t = .cancelling call execution)
      (eq : w' = w.go t (.leaving call) w.state [.cancelled execution])
  | leaves {call : GateCall E} (at_ : w.pc t = .leaving call)
      (eq : w' = w.go t .idle { w.state with cancelCloseGate := false } [])

theorem startCall_execution {call : Call E P B} (hpc : w.pc t = .idle)
    (h : w.startCall t call = some w') : ExecutionStep w t w' := by
  have hwas : (w.pc t).inGate = false := by rw [hpc]; rfl
  have hraise : ExecutionStep w t w :=
    .outside hwas ⟨w.pc t, (Function.update_eq_self t w.pc).symm, hwas⟩ rfl (.inl rfl) (.inl rfl)
  cases call with
  | tryBegin kind total =>
    rw [World.startCall] at h
    split at h
    · cases h
      exact hraise
    · split_ifs at h with hlock
      · cases h
        exact hraise
      · cases h
        exact .outside hwas ⟨_, rfl, rfl⟩ rfl (.inl rfl) (.inl rfl)
  | setPhase token phase jobId currentIndex =>
    rw [World.startCall] at h
    split at h
    · cases h
      exact hraise
    · next state hs =>
      cases h
      obtain ⟨-, hk, hx⟩ := setPhase_ok hs
      exact .outside hwas ⟨_, rfl, rfl⟩ hk.gate (.inl hx) (.inl rfl)
  | registerExecution token execution =>
    rw [World.startCall] at h
    split at h
    · cases h
      exact hraise
    · next cancelled state hs =>
      cases h
      obtain ⟨-, hk, hx⟩ := registerExecution_ok hs
      exact .registers hpc hk.gate hx rfl
  | finish token projection baseline =>
    rw [World.startCall] at h
    split at h
    · cases h
      exact hraise
    · next state hs =>
      cases h
      obtain ⟨-, he⟩ := finish_ok hs
      exact .outside hwas ⟨_, rfl, rfl⟩ he.gate (.inr he.execution) (.inr ⟨_, rfl, rfl⟩)
  | abandon token =>
    rw [World.startCall] at h
    split at h
    · next state hs =>
      cases h
      rcases abandon_eq hs with ⟨-, -, he⟩ | ⟨hfalse, -, -⟩
      · exact .outside hwas ⟨_, rfl, rfl⟩ he.gate (.inr he.execution) (.inr ⟨_, rfl, rfl⟩)
      · cases hfalse
    · next state hs =>
      cases h
      rcases abandon_eq hs with ⟨htrue, -, -⟩ | ⟨-, -, rfl⟩
      · cases htrue
      · exact .outside hwas ⟨_, rfl, rfl⟩ rfl (.inl rfl) (.inr ⟨_, rfl, rfl⟩)
  | gate call =>
    rw [World.startCall] at h
    split_ifs at h with hgate
    cases h
    exact .enters hpc (Bool.eq_false_iff.mpr hgate) rfl

theorem gateSection_execution {call : GateCall E} (hpc : w.pc t = .gated call) :
    ExecutionStep w t (w.gateSection t call) := by
  have hraise : ∀ call' : GateCall E,
      ExecutionStep w t (w.go t (.leaving call') w.state []) := fun _ =>
    .finds hpc rfl ⟨rfl, rfl, rfl, rfl⟩ rfl (fun _ _ h => by cases h) rfl
  cases call with
  | closeExecution token execution =>
    rw [World.gateSection]
    split
    · exact hraise _
    · next state hs =>
      obtain ⟨-, hk, hx⟩ := closeExecution_ok hs
      exact .closes hpc hk hx rfl
  | cancelRegisteredExecution token =>
    rw [World.gateSection]
    split
    · next execution hs =>
      refine .finds hpc rfl ⟨rfl, rfl, rfl, rfl⟩ rfl (fun call' x h => ?_) rfl
      cases h
      exact (registeredExecution_ok hs).2
    · exact hraise _
  | cancelJob =>
    rw [World.gateSection]
    split
    · next execution state hs =>
      obtain ⟨hk, hx, hfound⟩ := cancelJob_eq hs
      refine .finds hpc rfl hk hx (fun call' x h => ?_) rfl
      cases h
      exact hfound _ rfl
    · next hs =>
      obtain ⟨hk, hx, -⟩ := cancelJob_eq hs
      exact .finds hpc rfl hk hx (fun _ _ h => by cases h) rfl

theorem resume_execution (h : w.resume t = some w') : ExecutionStep w t w' := by
  unfold World.resume at h
  split at h
  · cases h
  · next kind total hpc =>
    cases h
    exact .outside (by rw [hpc]; rfl) ⟨_, rfl, rfl⟩ rfl (.inr rfl) (.inr ⟨_, rfl, rfl⟩)
  · next token hpc =>
    split_ifs at h
    · cases h
      exact .outside (by rw [hpc]; rfl) ⟨_, rfl, rfl⟩ rfl (.inl rfl) (.inr ⟨_, rfl, rfl⟩)
    · cases h
      exact .outside (by rw [hpc]; rfl) ⟨_, rfl, rfl⟩ rfl (.inl rfl) (.inl rfl)
  · next call hpc =>
    cases h
    exact gateSection_execution hpc
  · next token execution hpc =>
    cases h
    exact .calls hpc rfl
  · next call execution hpc =>
    cases h
    exact .cancels hpc rfl
  · next call hpc =>
    cases h
    exact .leaves hpc rfl

/-- **The executions in every step.** -/
theorem step_execution (h : w.step (t, m) = some w') : ExecutionStep w t w' := by
  unfold World.step at h
  split at h
  · next call hpc => exact startCall_execution hpc h
  · cases h
  · exact resume_execution h

/-- What holds of every execution. -/
structure Executions (w : World Tid E P B) : Prop where
  gate : Guards (fun pc : Pc E => pc.inGate = true) w.state.cancelCloseGate w.pc
  /-- a registered execution is open -/
  registered : ∀ x, w.state.execution = some x → closeBegun x w.trace = false
  /-- and so is one that is about to be cancelled -/
  found : ∀ t call x, w.pc t = .cancelling call x → closeBegun x w.trace = false
  cancels : CancelsOpen w.trace

/-- Another thread is not about to cancel anything while this one is inside. -/
theorem Executions.alone (h : Executions w) (ht : (w.pc t).inGate = true) {pc : Pc E}
    (hpc : ∀ call x, pc ≠ .cancelling call x) (u : Tid) (call : GateCall E) (x : E) :
    Function.update w.pc t pc u ≠ .cancelling call x := by
  intro hu
  by_cases hut : u = t
  · subst hut
    rw [Function.update_self] at hu
    exact hpc call x hu
  · rw [Function.update_of_ne hut] at hu
    have huin : (w.pc u).inGate = true := by
      rw [hu]
      rfl
    exact hut (h.gate.unique huin ht)

theorem Executions.step (h : Executions w) (hs : ExecutionStep w t w') : Executions w' := by
  cases hs with
  | outside was pc gate execution trace =>
    obtain ⟨pc, hpc, hout⟩ := pc
    have hclose : ∀ x, closeBegun x w'.trace = closeBegun x w.trace := by
      intro x
      rcases trace with htrace | ⟨e, htrace, he⟩
      · rw [htrace]
      · rw [htrace, closeBegun_quiet he]
    constructor
    · rw [gate, hpc]
      exact h.gate.keep (by rw [hout, was])
    · intro x hx
      rw [hclose]
      rcases execution with hsame | hnone
      · rw [hsame] at hx
        exact h.registered x hx
      · rw [hnone] at hx
        cases hx
    · intro u call x hu
      rw [hclose]
      rw [hpc] at hu
      by_cases hut : u = t
      · subst hut
        rw [Function.update_self] at hu
        rw [hu] at hout
        cases hout
      · rw [Function.update_of_ne hut] at hu
        exact h.found u call x hu
    · rcases trace with htrace | ⟨e, htrace, he⟩
      · rw [htrace]
        exact h.cancels
      · rw [htrace]
        refine h.cancels.cons fun x hx => ?_
        subst hx
        cases he
  | @registers execution state at_ gate registered eq =>
    subst eq
    have hclose : ∀ x, closeBegun x (.registered execution :: w.trace) =
        if execution = x then false else closeBegun x w.trace := fun _ => rfl
    constructor
    · show Guards _ state.cancelCloseGate (Function.update w.pc t .idle)
      rw [gate]
      exact h.gate.keep (by rw [at_])
    · intro x hx
      change state.execution = some x at hx
      rw [registered] at hx
      obtain rfl := Option.some.inj hx
      exact (hclose execution).trans (if_pos rfl)
    · intro u call x hu
      change Function.update w.pc t .idle u = .cancelling call x at hu
      show closeBegun x (.registered execution :: w.trace) = false
      rw [hclose]
      split_ifs
      · rfl
      · by_cases hut : u = t
        · subst hut
          rw [Function.update_self] at hu
          cases hu
        · rw [Function.update_of_ne hut] at hu
          exact h.found u call x hu
    · exact h.cancels.cons fun x hx => by cases hx
  | @enters call at_ free eq =>
    subst eq
    constructor
    · have hgate := h.gate
      rw [free] at hgate
      exact hgate.acquire rfl
    · exact h.registered
    · intro u call' x hu
      change Function.update w.pc t (.gated call) u = .cancelling call' x at hu
      by_cases hut : u = t
      · subst hut
        rw [Function.update_self] at hu
        cases hu
      · rw [Function.update_of_ne hut] at hu
        exact h.found u call' x hu
    · exact h.cancels
  | @finds call pc state at_ inGate kept same found eq =>
    subst eq
    have ht : (w.pc t).inGate = true := by
      rw [at_]
      rfl
    constructor
    · show Guards _ state.cancelCloseGate (Function.update w.pc t pc)
      rw [kept.gate]
      exact h.gate.keep (by rw [inGate, ht])
    · intro x hx
      change state.execution = some x at hx
      rw [same] at hx
      exact h.registered x hx
    · intro u call' x hu
      change Function.update w.pc t pc u = .cancelling call' x at hu
      show closeBegun x w.trace = false
      by_cases hut : u = t
      · subst hut
        rw [Function.update_self] at hu
        exact h.registered x (found call' x hu)
      · rw [Function.update_of_ne hut] at hu
        exact h.found u call' x hu
    · exact h.cancels
  | @closes token execution call state at_ kept after eq =>
    subst eq
    have ht : (w.pc t).inGate = true := by
      rw [at_]
      rfl
    constructor
    · show Guards _ state.cancelCloseGate (Function.update w.pc t (.closing token execution))
      rw [kept.gate]
      exact h.gate.keep ⟨fun _ => ht, fun _ => rfl⟩
    · intro x hx
      change state.execution = some x at hx
      rw [after] at hx
      split_ifs at hx with hwas
      have hne : execution ≠ x := by
        rintro rfl
        exact hwas hx
      show (if execution = x then true else closeBegun x w.trace) = false
      rw [if_neg hne]
      exact h.registered x hx
    · intro u call' x hu
      exact absurd hu (h.alone ht (fun _ _ => by intro hc; cases hc) u call' x)
    · exact h.cancels.cons fun x hx => by cases hx
  | @calls token execution call at_ eq =>
    subst eq
    have ht : (w.pc t).inGate = true := by
      rw [at_]
      rfl
    constructor
    · exact h.gate.keep ⟨fun _ => ht, fun _ => rfl⟩
    · exact h.registered
    · intro u call' x hu
      exact absurd hu (h.alone ht (fun _ _ => by intro hc; cases hc) u call' x)
    · exact h.cancels.cons fun x hx => by cases hx
  | @cancels execution call at_ eq =>
    subst eq
    have ht : (w.pc t).inGate = true := by
      rw [at_]
      rfl
    constructor
    · exact h.gate.keep ⟨fun _ => ht, fun _ => rfl⟩
    · exact h.registered
    · intro u call' x hu
      exact absurd hu (h.alone ht (fun _ _ => by intro hc; cases hc) u call' x)
    · refine h.cancels.cons fun x hx => ?_
      cases hx
      exact h.found t call _ at_
  | leaves at_ eq =>
    subst eq
    have ht : (w.pc t).inGate = true := by
      rw [at_]
      rfl
    constructor
    · exact h.gate.release ht (by intro hc; cases hc)
    · exact h.registered
    · intro u call' x hu
      exact absurd hu (h.alone ht (fun _ _ => by intro hc; cases hc) u call' x)
    · exact h.cancels

/-! ### Every run -/

/-- The token of the call that a move starts or goes on with. -/
def World.tokenOf (w : World Tid E P B) (t : Tid) : Move E P B → Option Int
  | .call call => call.token?
  | .next => (w.pc t).token?

/-- One invocation at a time, and one release for each. -/
structure SingleFlight (w : World Tid E P B) : Prop where
  /-- at most one invocation was begun and not ended since -/
  one : ∀ u v, isOpen u w.trace = true → isOpen v w.trace = true → u = v
  /-- it is the active one -/
  active : ∀ u, isOpen u w.trace = true ↔ w.state.activeToken = some u
  /-- the lock is held for it, or by a thread between its two sections -/
  locked : w.state.singleFlight = true ↔
    w.state.active.isSome = true ∨ ∃ t, (w.pc t).between = true
  /-- no token is made twice -/
  once : ∀ u, w.begins u ≤ 1
  /-- nothing is released for an open invocation -/
  unreleased : ∀ u, isOpen u w.trace = true → w.releases u = 0
  /-- an ended one is released once, or one thread is about to -/
  released : ∀ u, w.begins u = 1 → isOpen u w.trace = false →
    (w.releases u = 1 ∧ ∀ t, w.pc t ≠ .releasing u) ∨
      (w.releases u = 0 ∧ ∃! t, w.pc t = .releasing u)
  /-- and nothing stops that thread -/
  due : ∀ t u, w.pc t = .releasing u → w.step (t, .next) =
    some (w.go t .idle { w.state with singleFlight := false } [.released u])
  /-- a call with another token changes neither the invocation nor the lock -/
  stale : ∀ t move w' u, w.step (t, move) = some w' → w.tokenOf t move = some u →
    w.state.activeToken ≠ some u → w.pc t ≠ .releasing u →
    w'.state.active = w.state.active ∧ w'.state.singleFlight = w.state.singleFlight ∧
      w'.pc t ≠ .releasing u
  /-- `cancel` is called on no execution whose close has begun -/
  cancels : CancelsOpen w.trace

omit [DecidableEq E] in
/-- A thread that moves elsewhere is not about to release. -/
theorem moved_off {pc : Pc E} {token : Int} (hpc : pc ≠ .releasing token) :
    Function.update w.pc t pc t ≠ .releasing token := by
  rwa [Function.update_self]

omit [DecidableEq E] in
theorem startCall_stale {call : Call E P B} {token : Int} (hpc : w.pc t = .idle)
    (h : w.startCall t call = some w') (htoken : call.token? = some token)
    (hne : w.state.activeToken ≠ some token) :
    w'.state.active = w.state.active ∧ w'.state.singleFlight = w.state.singleFlight ∧
      w'.pc t ≠ .releasing token := by
  have hraise : w.state.active = w.state.active ∧ w.state.singleFlight = w.state.singleFlight ∧
      w.pc t ≠ .releasing token := ⟨rfl, rfl, by rw [hpc]; intro hc; cases hc⟩
  cases call with
  | tryBegin kind total => cases htoken
  | setPhase token' phase jobId currentIndex =>
    obtain rfl := Option.some.inj htoken
    rw [World.startCall] at h
    split at h
    · cases h
      exact hraise
    · next hs => exact absurd (setPhase_ok hs).1 hne
  | registerExecution token' execution =>
    obtain rfl := Option.some.inj htoken
    rw [World.startCall] at h
    split at h
    · cases h
      exact hraise
    · next hs => exact absurd (registerExecution_ok hs).1 hne
  | finish token' projection baseline =>
    obtain rfl := Option.some.inj htoken
    rw [World.startCall] at h
    split at h
    · cases h
      exact hraise
    · next hs => exact absurd (finish_ok hs).1 hne
  | abandon token' =>
    obtain rfl := Option.some.inj htoken
    rw [World.startCall] at h
    split at h
    · next hs =>
      rcases abandon_eq hs with ⟨-, ha, -⟩ | ⟨hfalse, -, -⟩
      · exact absurd ha hne
      · cases hfalse
    · next hs =>
      cases h
      rcases abandon_eq hs with ⟨htrue, -, -⟩ | ⟨-, -, rfl⟩
      · cases htrue
      · exact ⟨rfl, rfl, moved_off fun hc => by cases hc⟩
  | gate call =>
    rw [World.startCall] at h
    split_ifs at h
    cases h
    exact ⟨rfl, rfl, moved_off fun hc => by cases hc⟩

theorem gateSection_stale {call : GateCall E} {token : Int} (htoken : call.token? = some token)
    (hne : w.state.activeToken ≠ some token) :
    (w.gateSection t call).state = w.state ∧ (w.gateSection t call).pc t ≠ .releasing token := by
  cases call with
  | closeExecution token' execution =>
    obtain rfl := Option.some.inj htoken
    rw [World.gateSection]
    split
    · exact ⟨rfl, moved_off fun hc => by cases hc⟩
    · next hs => exact absurd (closeExecution_ok hs).1 hne
  | cancelRegisteredExecution token' =>
    rw [World.gateSection]
    split
    · exact ⟨rfl, moved_off fun hc => by cases hc⟩
    · exact ⟨rfl, moved_off fun hc => by cases hc⟩
  | cancelJob => cases htoken

/-- A call with a token that is not the active one changes neither the invocation
nor the lock. -/
theorem step_stale {token : Int} (h : w.step (t, m) = some w')
    (htoken : w.tokenOf t m = some token) (hne : w.state.activeToken ≠ some token)
    (hnot : w.pc t ≠ .releasing token) :
    w'.state.active = w.state.active ∧ w'.state.singleFlight = w.state.singleFlight ∧
      w'.pc t ≠ .releasing token := by
  cases m with
  | call call =>
    unfold World.step at h
    split at h
    · next call' hm hpc =>
      cases hm
      exact startCall_stale hpc h htoken hne
    · cases h
    · next hm =>
      cases hm
  | next =>
    change w.resume t = some w' at h
    change (w.pc t).token? = some token at htoken
    unfold World.resume at h
    split at h
    · cases h
    · next hpc =>
      rw [hpc] at htoken
      cases htoken
    · next token' hpc =>
      rw [hpc] at htoken
      obtain rfl := Option.some.inj htoken
      exact absurd hpc hnot
    · next call hpc =>
      rw [hpc] at htoken
      cases h
      obtain ⟨hs, hp⟩ := gateSection_stale (t := t) htoken hne
      rw [hs]
      exact ⟨rfl, rfl, hp⟩
    · cases h
      exact ⟨rfl, rfl, moved_off fun hc => by cases hc⟩
    · cases h
      exact ⟨rfl, rfl, moved_off fun hc => by cases hc⟩
    · cases h
      exact ⟨rfl, rfl, moved_off fun hc => by cases hc⟩

/-- What every step keeps. -/
structure Inv (w : World Tid E P B) : Prop where
  owned : Owned w
  tokens : Tokens w
  executions : Executions w

omit [DecidableEq Tid] in
theorem Inv.start : Inv (World.start : World Tid E P B) where
  owned := by
    refine Guards.start fun x hx => ?_
    rcases x with - | t
    · cases hx
    · cases hx
  tokens := by
    constructor
    · exact fun _ _ => ⟨rfl, rfl⟩
    · exact fun _ => Nat.zero_le 1
    · intro u
      constructor
      · intro h
        cases h
      · intro h
        cases h
    · intro u h
      cases h
    · intro t u h
      cases h
    · intro u h
      cases h
  executions := by
    constructor
    · exact Guards.start fun t ht => by cases ht
    · intro x h
      cases h
    · intro t call x h
      cases h
    · intro later x earlier h
      rcases later with - | ⟨d, later⟩ <;> cases h

theorem Inv.step (h : Inv w) (hs : w.step (t, m) = some w') : Inv w' :=
  ⟨h.owned.step (step_flight hs), h.tokens.step h.owned (step_flight hs),
    h.executions.step (step_execution hs)⟩

theorem Inv.singleFlight (h : Inv w) : SingleFlight w where
  one := by
    intro u v hu hv
    rw [h.tokens.open_iff] at hu hv
    exact Option.some.inj (hu.symm.trans hv)
  active := h.tokens.open_iff
  locked := by
    constructor
    · intro hlock
      obtain ⟨owner, ho, hown⟩ := h.owned
      rw [hlock] at ho
      obtain ⟨x, hx⟩ := Option.isSome_iff_exists.mp ho.symm
      rcases x with - | t
      · exact .inl ((hown none).mpr hx)
      · exact .inr ⟨t, (hown (some t)).mpr hx⟩
    · rintro (ha | ⟨t, ht⟩)
      · exact h.owned.taken_of (t := none) ha
      · exact h.owned.taken_of (t := some t) ht
  once := h.tokens.once
  unreleased := fun u hu => (h.tokens.opened u hu).2
  released := by
    intro u hb hu
    by_cases hr : w.releases u = 0
    · rcases h.tokens.settled u hb hu with h1 | ⟨t, ht⟩
      · omega
      · refine .inr ⟨hr, t, ht, fun x hx => ?_⟩
        have hx : w.flies (some x) := flies_at hx rfl
        have ht : w.flies (some t) := flies_at ht rfl
        exact Option.some.inj (h.owned.unique hx ht)
    · rcases h.tokens.settled u hb hu with h1 | ⟨t, ht⟩
      · exact .inl ⟨h1, fun t ht => hr (h.tokens.due t u ht).2.2⟩
      · exact absurd (h.tokens.due t u ht).2.2 hr
  due := by
    intro t u ht
    have hlock : w.state.singleFlight = true := h.owned.taken_of (flies_at ht rfl)
    show w.resume t = _
    unfold World.resume
    rw [ht]
    exact if_pos hlock
  stale := fun t move w' u hs htoken hne hnot => step_stale hs htoken hne hnot
  cancels := h.executions.cancels

/-- **UI single flight.**  Of every run of any threads from the start: at most one
invocation is active, the lock is held exactly for it or between two sections of
a call that begins or ends one, each ended token is released exactly once, calls
with another token change nothing, and no execution is cancelled whose close has
begun, unless it was registered again. -/
theorem ui_single_flight {log : List (Tid × Move E P B)}
    (h : run World.step (World.start : World Tid E P B) log = some w) : SingleFlight w :=
  run_preserves (P := Inv) (fun _ _ _ hi hs => hi.step hs) Inv.start h |>.singleFlight

end Flight

namespace Sample

/-- A thread begins an invocation and finishes it, and another registers and
cancels its execution and abandons the token in between. -/
def flight : List (Bool × Move Nat Unit Unit) :=
  [(false, .call (.tryBegin (py "single") 1)), (false, .next),
    (true, .call (.registerExecution 1 7)), (true, .call (.gate .cancelJob)), (true, .next),
    (true, .next), (true, .next), (false, .call (.finish 1 () none)),
    (true, .call (.abandon 1)), (false, .next)]

/-- An execution is registered, closed, registered again and cancelled. -/
def again : List (Bool × Move Nat Unit Unit) :=
  [(false, .call (.tryBegin (py "single") 1)), (false, .next),
    (false, .call (.registerExecution 1 7)), (false, .call (.gate (.closeExecution 1 7))),
    (false, .next), (false, .next), (false, .next), (false, .call (.registerExecution 1 7)),
    (false, .call (.gate .cancelJob)), (false, .next), (false, .next)]

/-- What is seen of them, the newest first. -/
def flightTrace : List (Observed Nat) :=
  [.released 1, .abandoned 1, .finished 1, .cancelled 7, .registered 7, .begun 1]

def againTrace : List (Observed Nat) :=
  [.cancelled 7, .registered 7, .closeCalled 7, .closing 7, .registered 7, .begun 1]

end Sample

theorem ui_single_flight_sample : ∃ w, run World.step World.start Sample.flight = some w ∧
    SingleFlight w ∧ w.trace.count (.released 1) = 1 := by
  have hrun : (run World.step World.start Sample.flight).map (·.trace) =
      some Sample.flightTrace := by decide
  obtain ⟨w, hw, htrace⟩ := Option.map_eq_some_iff.mp hrun
  refine ⟨w, hw, ui_single_flight hw, ?_⟩
  rw [htrace]
  decide

/-- An execution that is registered again can be cancelled after its close. -/
theorem cancelled_after_close : ∃ w, run World.step World.start Sample.again = some w ∧
    ∃ later earlier, w.trace = later ++ .cancelled 7 :: earlier ∧ .closeCalled 7 ∈ earlier := by
  have hrun : (run World.step World.start Sample.again).map (·.trace) =
      some Sample.againTrace := by decide
  obtain ⟨w, hw, htrace⟩ := Option.map_eq_some_iff.mp hrun
  refine ⟨w, hw, [], Sample.againTrace.tail, htrace, ?_⟩
  decide

end Ui

end SpecStyle
