/-
SpecStyle/Workflow/ProductionRuntime.lean

The fields of a production runtime and the sections of code that touch them.

Each definition is one section under `_state_lock`, the state lock's whole
body and nothing else; what happens between two sections is for the model of
the threads to say.  `_run_lock` is a flag: it has no owner, and a section
that tries it without blocking finds it taken or takes it.

Pipelines, verifier factories and stores are named by numbers; all that is
said of them here is who holds them and whether `close` was called.
-/
import SpecStyle.Domain.Values

namespace SpecStyle

open PyLib

/-- `ProductionRuntimeReadiness` -/
inductive RuntimeReadiness where
  | ready | busy | quarantined | closed
  deriving DecidableEq

/-- `ProductionRuntimeFailureKind` -/
inductive RuntimeFailureKind where
  | gpuOom
  deriving DecidableEq

/-- Something with a `close`. -/
abbrev Resource := Nat

/-- `ProductionRuntime`, the fields that change and the two stores it closes. -/
structure ProductionRuntime where
  loaded : Resource
  verifierFactory : Option Resource
  reportStore : Resource
  artifactStore : Resource
  activeJobId : Option JobId
  /-- `_active_cancel`, and whether the event is set. -/
  activeCancel : Option Bool
  activeCancelReason : Option Text
  readiness : RuntimeReadiness
  failureKind : Option RuntimeFailureKind
  closed : Bool
  /-- `_run_lock`, taken or free. -/
  runLock : Bool
  deriving DecidableEq

/-- `ProductionRuntime(...)` -/
def ProductionRuntime.new (loaded verifierFactory reportStore artifactStore : Resource) :
    ProductionRuntime where
  loaded := loaded
  verifierFactory := some verifierFactory
  reportStore := reportStore
  artifactStore := artifactStore
  activeJobId := none
  activeCancel := none
  activeCancelReason := none
  readiness := .ready
  failureKind := none
  closed := false
  runLock := false

def runtimeClosed : Raised := .infrastructure "production runtime closed"

def runtimeBusy : Raised := .infrastructure "production runtime busy"

namespace ProductionRuntime

variable (rt : ProductionRuntime)

/-- What the three starting sections set once the run lock is theirs. -/
def begin (jobId : Option JobId) : ProductionRuntime :=
  { rt with
    runLock := true, readiness := .busy, activeJobId := jobId
    activeCancel := jobId.map fun _ => false, activeCancelReason := none }

/-- `_start_run`.  A request that is no `ProductionJobRequest` is `none`; the
lock taken for it is released in the same section. -/
def startRun (request : Option JobId) : Except Raised ProductionRuntime :=
  if rt.closed then .error runtimeClosed
  else if rt.readiness = .quarantined then
    .error (.infrastructure "production runtime quarantined")
  else if rt.readiness = .busy then .error runtimeBusy
  else if rt.runLock then .error runtimeBusy
  else
    match request with
    | none => .error (.domain "invalid production job request")
    | some jobId => .ok (rt.begin (some jobId))

/-- `_start_export` and `_start_recovery` up to the job they work on. -/
def startReady (jobId : Option JobId) : Except Raised ProductionRuntime :=
  if rt.closed then .error runtimeClosed
  else if rt.readiness ≠ .ready then .error runtimeBusy
  else if rt.runLock then .error runtimeBusy
  else .ok (rt.begin jobId)

/-- `_start_export` -/
def startExport (jobId : JobId) : Except Raised ProductionRuntime := rt.startReady (some jobId)

/-- `_start_recovery` -/
def startRecovery : Except Raised ProductionRuntime := rt.startReady none

/-- The section of `_finish_run`. -/
def finishRun : ProductionRuntime :=
  { rt with
    activeJobId := none, activeCancel := none, activeCancelReason := none
    readiness := if !rt.closed && rt.readiness = .busy then .ready else rt.readiness }

/-- `self._run_lock.release()` -/
def releaseRunLock : ProductionRuntime := { rt with runLock := false }

/-- `self._run_lock.acquire()` of `close`, once it does not block. -/
def acquireRunLock : ProductionRuntime := { rt with runLock := true }

/-- What the owner of a close sets. -/
def markClosed : ProductionRuntime :=
  { rt with
    closed := true, readiness := .closed
    activeCancelReason :=
      if rt.activeCancel.isSome then some (py "runtime closed") else rt.activeCancelReason }

/-- The section of `_begin_close`; `none` for a caller that does not own the
close. -/
def beginClose : Option ProductionRuntime :=
  if rt.closed then none else some rt.markClosed

/-- `_publish_close_signal` -/
def publishCloseSignal (jobId : Option JobId) : ProductionRuntime :=
  if rt.activeJobId = jobId ∧ rt.activeCancel.isSome then
    { rt with activeCancelReason := some (py "runtime closed"), activeCancel := some true }
  else rt

/-- `_mark_durable_cancel` -/
def markDurableCancel (jobId : JobId) (reason : Text) : ProductionRuntime :=
  if rt.activeJobId = some jobId then { rt with activeCancelReason := some reason } else rt

/-- The last section of `cancel`. -/
def signalCancel (jobId : JobId) (reason : Text) : ProductionRuntime :=
  if rt.activeJobId = some jobId ∧ rt.activeCancel.isSome then
    { rt with activeCancelReason := some reason, activeCancel := some true }
  else rt

/-- The first section of `reopen`. -/
def startReopen : Except Raised ProductionRuntime :=
  if rt.closed then .error runtimeClosed
  else if rt.readiness ≠ .quarantined then
    .error (.infrastructure "production runtime is not quarantined")
  else if rt.runLock then .error runtimeBusy
  else .ok { rt with runLock := true }

/-- What a successful reopen sets. -/
def withPipeline (loaded factory : Resource) : ProductionRuntime :=
  { rt with
    loaded := loaded, verifierFactory := some factory, failureKind := none, readiness := .ready }

/-- The section of `_reopen_under_run_lock` that installs what was loaded. -/
def installReopened (loaded factory : Resource) : Except Raised ProductionRuntime :=
  if rt.closed then .error runtimeClosed else .ok (rt.withPipeline loaded factory)

/-- The section of `_quarantine_under_lease`. -/
def quarantineUnderLease : ProductionRuntime :=
  { rt with
    verifierFactory := none, failureKind := some .gpuOom
    readiness := if rt.closed then rt.readiness else .quarantined }

/-- `(factory, self._loaded)`, of which `_close_all` skips a missing factory. -/
def pipelineResources : List Resource := rt.verifierFactory.toList ++ [rt.loaded]

/-- The section of `_close_resources`. -/
def dropFactory : ProductionRuntime := { rt with verifierFactory := none }

/-- What `_close_resources` closes. -/
def ownedResources : List Resource :=
  rt.pipelineResources ++ [rt.reportStore, rt.artifactStore]

/-! ### The sections, one line each -/

variable {rt}
variable {rt' : ProductionRuntime}

/-- A run starts on an open runtime that is neither quarantined nor busy. -/
theorem startRun_ok_iff {request : Option JobId} :
    rt.startRun request = .ok rt' ↔ rt.closed = false ∧ rt.readiness ≠ .quarantined ∧
      rt.readiness ≠ .busy ∧ rt.runLock = false ∧
      ∃ jobId, request = some jobId ∧ rt' = rt.begin (some jobId) := by
  unfold startRun
  rcases request with - | jobId
  · split_ifs <;> simp
  · split_ifs with hc hq hb hl
    · simp [hc]
    · simp [hq]
    · simp [hb]
    · simp [hl]
    · simp [hc, hq, hb, hl, eq_comm]

/-- An export or a recovery starts on a ready runtime. -/
theorem startReady_ok_iff {jobId : Option JobId} :
    rt.startReady jobId = .ok rt' ↔
      rt.closed = false ∧ rt.readiness = .ready ∧ rt.runLock = false ∧ rt' = rt.begin jobId := by
  unfold startReady
  split_ifs with hc hr hl
  · simp [hc]
  · simp [hr]
  · simp [hl]
  · rw [not_not] at hr
    simp [hc, hr, hl, eq_comm]

/-- A reopen starts on a quarantined runtime. -/
theorem startReopen_ok_iff :
    rt.startReopen = .ok rt' ↔ rt.closed = false ∧ rt.readiness = .quarantined ∧
      rt.runLock = false ∧ rt' = rt.acquireRunLock := by
  unfold startReopen acquireRunLock
  split_ifs with hc hr hl
  · simp [hc]
  · simp [hr]
  · simp [hl]
  · rw [not_not] at hr
    simp [hc, hr, hl, eq_comm]

theorem beginClose_eq_some_iff :
    rt.beginClose = some rt' ↔ rt.closed = false ∧ rt' = rt.markClosed := by
  unfold beginClose
  split_ifs with hc
  · simp [hc]
  · simp [hc, eq_comm]

theorem installReopened_ok_iff {loaded factory : Resource} :
    rt.installReopened loaded factory = .ok rt' ↔
      rt.closed = false ∧ rt' = rt.withPipeline loaded factory := by
  unfold installReopened
  split_ifs with hc
  · simp [hc]
  · simp [hc, eq_comm]

end ProductionRuntime

end SpecStyle
