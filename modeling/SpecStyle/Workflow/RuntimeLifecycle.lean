/-
SpecStyle/Workflow/RuntimeLifecycle.lean

The lifecycle of a production runtime, over every interleaving.

`LegalRuntimeStep` says what one step may do to the readiness and which calls
it may start; every step of a reachable runtime is legal (`RuntimeInv.legal`).
`runtime_lifecycle` puts this together with the invariant.
-/
import SpecStyle.Workflow.RuntimeInvariant

namespace SpecStyle

open PyLib

variable {Tid : Type} [DecidableEq Tid] {w w' : RuntimeWorld Tid} {t : Tid} {p : Pc}
variable {s : ProductionRuntime}

/-! ### What a step may do -/

/-- What every step of a reachable runtime keeps to. -/
structure LegalRuntimeStep (w w' : RuntimeWorld Tid) (t : Tid) (move : Move) : Prop where
  /-- Only a failure of the GPU quarantines. -/
  entered : w.runtime.readiness ≠ .quarantined → w'.runtime.readiness = .quarantined →
    move = .outOfMemory ∧ ∃ phase, w.pc t = .onGpu phase
  /-- Only a successful reopen and a close end a quarantine. -/
  left : w.runtime.readiness = .quarantined → w'.runtime.readiness ≠ .quarantined →
    move = .install ∧ w'.runtime.readiness = .ready ∨
      move = .close ∧ w'.runtime.readiness = .closed
  /-- In quarantine no phase of an attempt starts, -/
  noPhase : w.runtime.readiness = .quarantined →
    ∀ u phase, w'.pc u = .onGpu phase → w.pc u = .onGpu phase
  /-- and no call but a reopen. -/
  noCall : w.runtime.readiness = .quarantined → ∀ u operation, operation ≠ .reopen →
    (w'.pc u).operation = some operation → (w.pc u).operation = some operation
  /-- After a close began no call starts. -/
  closed : w.runtime.closed = true → w'.runtime.closed = true ∧
    ∀ u operation, (w'.pc u).operation = some operation → (w.pc u).operation = some operation

/-- A thread that moves within its call, or out of it, starts nothing. -/
theorem operation_go (ho : p.operation = none ∨ p.operation = (w.pc t).operation) {u : Tid}
    {operation : Operation} (hu : ((w.go t p s).pc u).operation = some operation) :
    (w.pc u).operation = some operation := by
  by_cases hut : u = t
  · subst hut
    rw [go_pc_self] at hu
    rcases ho with ho | ho
    · rw [ho] at hu
      cases hu
    · rw [← ho]
      exact hu
  · rw [go_pc_of_ne hut] at hu
    exact hu

/-- A step that leaves the readiness and the close flag alone. -/
theorem LegalRuntimeStep.same {move : Move} (hpc : w'.pc = (w.go t p w.runtime).pc)
    (hr : w'.runtime.readiness = w.runtime.readiness) (hc : w'.runtime.closed = w.runtime.closed)
    (ho : p.operation = none ∨ p.operation = (w.pc t).operation)
    (hg : ∀ phase, w.runtime.readiness = .quarantined → p ≠ .onGpu phase) :
    LegalRuntimeStep w w' t move where
  entered := fun hn hq => absurd (hr.symm.trans hq) hn
  left := fun hq hn => absurd (hr.trans hq) hn
  noPhase := by
    intro hq u phase hu
    rw [hpc] at hu
    exact go_pc_eq (hg phase hq) hu
  noCall := by
    intro _ u operation _ hu
    rw [hpc] at hu
    exact operation_go ho hu
  closed := by
    intro hx
    refine ⟨hc.trans hx, fun u operation hu => ?_⟩
    rw [hpc] at hu
    exact operation_go ho hu

/-- A start on an open runtime that is not quarantined. -/
theorem LegalRuntimeStep.begin {move : Move} {jobId : Option JobId}
    (hc : w.runtime.closed = false) (hr : w.runtime.readiness ≠ .quarantined) :
    LegalRuntimeStep w (w.go t p (w.runtime.begin jobId)) t move where
  entered := fun _ hq => by cases hq
  left := fun hq => absurd hq hr
  noPhase := fun hq => absurd hq hr
  noCall := fun hq => absurd hq hr
  closed := by
    intro hx
    rw [hc] at hx
    cases hx

/-- The section of `_finish_run` leaves a quarantine and a close alone. -/
theorem LegalRuntimeStep.finishRun {move : Move} {operation : Operation}
    (ho : (w.pc t).operation = some operation) :
    LegalRuntimeStep w (w.go t (.finishing operation) w.runtime.finishRun) t move := by
  have hread : w.runtime.finishRun.readiness = .quarantined ↔
      w.runtime.readiness = .quarantined := by
    unfold ProductionRuntime.finishRun
    cases w.runtime.readiness <;> cases w.runtime.closed <;> simp
  refine ⟨fun hn hq => absurd (hread.mp hq) hn, fun hq hn => absurd (hread.mpr hq) hn, ?_, ?_, ?_⟩
  · exact fun _ u phase hu => go_pc_eq (by simp) hu
  · exact fun _ u op _ hu => operation_go (.inr (ho ▸ rfl)) hu
  · exact fun hx => ⟨hx, fun u op hu => operation_go (.inr (ho ▸ rfl)) hu⟩

/-- **Every step of a reachable runtime is legal.** -/
theorem RuntimeInv.legal (h : RuntimeInv w) {move : Move} (hs : RuntimeStep w t move w') :
    LegalRuntimeStep w w' t move := by
  have hself : ∀ {x : ProductionRuntime}, x.SameCore w.runtime →
      LegalRuntimeStep w { w with runtime := x } t move := by
    intro x hx
    refine ⟨fun hn hq => absurd (hx.readiness.symm.trans hq) hn,
      fun hq hn => absurd (hx.readiness.trans hq) hn, fun _ _ _ hu => hu, fun _ _ _ _ hu => hu,
      fun hc => ⟨hx.closed.trans hc, fun _ _ hu => hu⟩⟩
  cases hs with
  | run at_ ok =>
      obtain ⟨hc, hq, -, -, jobId, -, rfl⟩ := ProductionRuntime.startRun_ok_iff.mp ok
      exact .begin hc hq
  | enterPhase at_ =>
      refine .same rfl rfl rfl (.inr (by rw [at_]; rfl)) fun _ hq => ?_
      -- a thread at work is not in quarantine
      rcases h.atWork t (by rw [at_]; rfl) with hr | hr
      · rw [hr] at hq
        cases hq
      · rw [hr] at hq
        cases hq
  | leavePhase at_ => exact .same rfl rfl rfl (.inr (by rw [at_]; rfl)) (by simp)
  | outOfMemory at_ =>
      refine ⟨fun _ _ => ⟨rfl, _, at_⟩, ?_, ?_, ?_, ?_⟩
      · intro hq hn
        rcases h.atWork t (by rw [at_]; rfl) with hr | hr
        · rw [hr] at hq
          cases hq
        · rw [hr] at hq
          cases hq
      · exact fun _ u phase hu => go_pc_eq (by simp) hu
      · exact fun _ u op _ hu => operation_go (.inr (by rw [at_]; rfl)) hu
      · exact fun hx => ⟨hx, fun u op hu => operation_go (.inr (by rw [at_]; rfl)) hu⟩
  | raise at_ => exact .same rfl rfl rfl (.inr (by rw [at_]; rfl)) (by simp)
  | finishRaising at_ => exact .finishRun (by rw [at_]; rfl)
  | mark at_ => exact hself (sameCore_mark ..)
  | publishExport at_ opened => exact .same rfl rfl rfl (.inl rfl) (by simp)
  | startExport at_ ok =>
      obtain ⟨hc, hr, -, rfl⟩ := ProductionRuntime.startReady_ok_iff.mp ok
      exact .begin hc (by rw [hr]; simp)
  | exportRefused at_ => exact .same rfl rfl rfl (.inl rfl) (by simp)
  | recoverExports at_ opened => exact .same rfl rfl rfl (.inl rfl) (by simp)
  | startRecovery at_ ok =>
      obtain ⟨hc, hr, -, rfl⟩ := ProductionRuntime.startReady_ok_iff.mp ok
      exact .begin hc (by rw [hr]; simp)
  | recoveryRefused at_ => exact .same rfl rfl rfl (.inl rfl) (by simp)
  | finish at_ not_reopen => exact .finishRun (by rw [at_]; rfl)
  | release at_ => exact .same rfl rfl rfl (.inl rfl) (by simp)
  | reopen at_ ok =>
      obtain ⟨hc, hr, -, rfl⟩ := ProductionRuntime.startReopen_ok_iff.mp ok
      refine ⟨fun hn => absurd hr hn, fun _ hn => absurd hr hn, ?_, ?_, ?_⟩
      · exact fun _ u phase hu => go_pc_eq (by simp) hu
      · intro _ u op hop hu
        by_cases hut : u = t
        · subst hut
          rw [go_pc_self] at hu
          exact absurd (Option.some.inj hu).symm hop
        · rw [go_pc_of_ne hut] at hu
          exact hu
      · intro hx
        rw [hc] at hx
        cases hx
  | load at_ => exact .same rfl rfl rfl (.inr (by rw [at_]; rfl)) (by simp)
  | createFactory at_ => exact .same rfl rfl rfl (.inr (by rw [at_]; rfl)) (by simp)
  | install at_ ok =>
      obtain ⟨hc, rfl⟩ := ProductionRuntime.installReopened_ok_iff.mp ok
      refine ⟨fun _ hq => (by cases hq), fun _ _ => .inl ⟨rfl, rfl⟩, ?_, ?_, ?_⟩
      · exact fun _ u phase hu => go_pc_eq (by simp) hu
      · exact fun _ u op _ hu => operation_go (.inr (by rw [at_]; rfl)) hu
      · intro hx
        rw [hc] at hx
        cases hx
  | installRefused at_ refused => exact .same rfl rfl rfl (.inr (by rw [at_]; rfl)) (by simp)
  | loadFailed at_ => exact .same rfl rfl rfl (.inr (by rw [at_]; rfl)) (by simp)
  | factoryFailed at_ => exact .same rfl rfl rfl (.inr (by rw [at_]; rfl)) (by simp)
  | reopenFailed at_ => exact .same rfl rfl rfl (.inr (by rw [at_]; rfl)) (by simp)
  | closeNext at_ => exact .same rfl rfl rfl (.inr (by rw [at_]; rename_i why _ _; cases why <;> rfl)) (by simp)
  | cancel at_ opened => exact .same rfl rfl rfl (.inl rfl) (by simp)
  | cancelFailed at_ => exact .same rfl rfl rfl (.inl rfl) (by simp)
  | cancelled at_ =>
      exact .same rfl (sameCore_signalCancel ..).readiness (sameCore_signalCancel ..).closed
        (.inl rfl) (by simp)
  | closeActive active => exact hself (.refl _)
  | close at_ owner =>
      obtain ⟨hc, rfl⟩ := ProductionRuntime.beginClose_eq_some_iff.mp owner
      refine ⟨fun _ hq => (by cases hq), fun _ _ => .inr ⟨rfl, rfl⟩, ?_, ?_, ?_⟩
      · exact fun _ u phase hu => go_pc_eq (by simp) hu
      · exact fun _ u op _ hu => operation_go (.inl rfl) hu
      · intro hx
        rw [hc] at hx
        cases hx
  | closeAgain at_ late => exact .same rfl rfl rfl (.inl rfl) (by simp)
  | closeSignal at_ => exact hself (sameCore_publishCloseSignal ..)
  | acquire at_ free => exact .same rfl rfl rfl (.inl rfl) (by simp)
  | closeResources at_ => exact .same rfl rfl rfl (.inl rfl) (by simp)
  | closeRelease at_ => exact .same rfl rfl rfl (.inl rfl) (by simp)
  | closed at_ => exact .same rfl rfl rfl (.inl rfl) (by simp)
  | wake at_ done => exact .same rfl rfl rfl (.inl rfl) (by simp)

/-! ### The theorem -/

/-- What the threads can bring a runtime to. -/
abbrev LaterRuntime (w w' : RuntimeWorld Tid) : Prop :=
  Relation.ReflTransGen (fun a b => ∃ t move, RuntimeStep a t move b) w w'

/-- After a close began, no run of the threads starts a call. -/
theorem RuntimeInv.no_start (h : RuntimeInv w) (hc : w.runtime.closed = true)
    (hl : LaterRuntime w w') : w'.runtime.closed = true ∧
      ∀ u operation, (w'.pc u).operation = some operation → (w.pc u).operation = some operation := by
  suffices hall : RuntimeInv w' ∧ w'.runtime.closed = true ∧ ∀ u operation,
      (w'.pc u).operation = some operation → (w.pc u).operation = some operation from hall.2
  induction hl with
  | refl => exact ⟨h, hc, fun _ _ hu => hu⟩
  | tail _ hs ih =>
      obtain ⟨t, move, hs⟩ := hs
      obtain ⟨hi, hx, hop⟩ := ih
      obtain ⟨hx', hop'⟩ := (hi.legal hs).closed hx
      exact ⟨hi.step hs, hx', fun u op hu => hop u op (hop' u op hu)⟩

/-- **The lifecycle of a runtime.**  In every reachable state: one call at
most is inside the run lock, and nothing is busy when no call is in progress;
every step enters and leaves a quarantine as it should and starts nothing it
should not; a close that began stays begun and starts nothing; and once the
owner of a close is through, every resource ever made is closed. -/
theorem runtime_lifecycle (h : ReachableRuntime w) :
    (∀ t u, (w.pc t).holdsRunLock = true → (w.pc u).holdsRunLock = true → t = u) ∧
    ((∀ t, (w.pc t).operation = none) → w.runtime.readiness ≠ .busy) ∧
    (∀ t move w', RuntimeStep w t move w' → LegalRuntimeStep w w' t move) ∧
    (w.closeDone = true ∨ (∃ t, (w.pc t).ownsClose = true) → w.runtime.closed = true) ∧
    (w.runtime.closed = true → ∀ w', LaterRuntime w w' → w'.runtime.closed = true ∧
      ∀ t operation,
        (w'.pc t).operation = some operation → (w.pc t).operation = some operation) ∧
    (w.closeDone = true → ∀ r < w.next, r ∈ w.released) := by
  have hi := h.inv
  refine ⟨fun t u => hi.guards.unique, ?_, fun t move w' hs => hi.legal hs, ?_,
    fun hc w' hl => hi.no_start hc hl, fun hd => (hi.drained (.inl hd)).2.2⟩
  · intro hnone hb
    obtain ⟨t, ht⟩ := hi.busy hb
    have hn := hnone t
    cases hp : w.pc t with
    | working => rw [hp] at hn; cases hn
    | onGpu => rw [hp] at hn; cases hn
    | disposing why => rw [hp] at ht; cases why <;> cases ht
    | _ => rw [hp] at ht; cases ht
  · rintro (hd | ⟨t, ht⟩)
    · exact (hi.drained (.inl hd)).1
    · exact (hi.owner t ht).1

/-! ### A close that races with a reopen -/

/-- After a run out of memory one thread reopens the runtime, and while it loads
another closes it: what was loaded is not installed, a second close waits, and
every one of the six resources is closed at the end. -/
theorem runtime_lifecycle_raced :
    ∃ w : RuntimeWorld Bool, ReachableRuntime w ∧ w.closeDone = true ∧ w.next = 6 ∧
      (∀ r < w.next, r ∈ w.released) ∧
      ∀ w', LaterRuntime w w' → w'.runtime.closed = true ∧
        ∀ t operation,
          (w'.pc t).operation = some operation → (w.pc t).operation = some operation := by
  -- the run fails on the GPU and is quarantined
  have h : ReachableRuntime (RuntimeWorld.opened : RuntimeWorld Bool) := .refl
  have h := h.tail ⟨false, .run (some (Id.lit .job "job-1")), .run rfl rfl⟩
  have h := h.tail ⟨false, .enterPhase .generation, .enterPhase rfl⟩
  have h := h.tail ⟨false, .outOfMemory, .outOfMemory rfl⟩
  have h := h.tail ⟨false, .closeNext, .closeNext rfl⟩
  have h := h.tail ⟨false, .closeNext, .closeNext rfl⟩
  have h := h.tail ⟨false, .afterClosing, .raise rfl⟩
  have h := h.tail ⟨false, .finish, .finishRaising rfl⟩
  have h := h.tail ⟨false, .release, .release rfl⟩
  -- a new pipeline is loaded, and the runtime closed before it is installed
  have h := h.tail ⟨false, .reopen, .reopen rfl rfl⟩
  have h := h.tail ⟨false, .load, .load rfl⟩
  have h := h.tail ⟨true, .close, .close rfl rfl⟩
  have h := h.tail ⟨false, .createFactory, .createFactory rfl⟩
  have h := h.tail ⟨true, .signal, .closeSignal (.inl rfl)⟩
  have h := h.tail ⟨false, .fail, .installRefused rfl rfl⟩
  have h := h.tail ⟨false, .closeNext, .closeNext rfl⟩
  have h := h.tail ⟨false, .closeNext, .closeNext rfl⟩
  have h := h.tail ⟨false, .afterClosing, .reopenFailed rfl⟩
  have h := h.tail ⟨false, .release, .release rfl⟩
  -- the owner of the close gets the run lock, and the other thread waits for it
  have h := h.tail ⟨true, .acquire, .acquire rfl rfl⟩
  have h := h.tail ⟨false, .close, .closeAgain rfl rfl⟩
  have h := h.tail ⟨true, .finish, .closeResources rfl⟩
  have h := h.tail ⟨true, .closeNext, .closeNext rfl⟩
  have h := h.tail ⟨true, .closeNext, .closeNext rfl⟩
  have h := h.tail ⟨true, .closeNext, .closeNext rfl⟩
  have h := h.tail ⟨true, .release, .closeRelease rfl⟩
  have h := h.tail ⟨true, .finish, .closed rfl⟩
  have h := h.tail ⟨false, .wake, .wake rfl rfl⟩
  obtain ⟨-, -, -, -, hclosed, hreleased⟩ := runtime_lifecycle h
  exact ⟨_, h, rfl, rfl, hreleased rfl, hclosed rfl⟩

end SpecStyle
