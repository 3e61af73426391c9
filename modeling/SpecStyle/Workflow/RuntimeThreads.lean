/-
SpecStyle/Workflow/RuntimeThreads.lean

The threads of a production runtime.

A thread that calls into the runtime is at one of a few places between two
sections, its `Pc`, and `Step` lists what one thread can do next from each:
one section, one attempt at a lock, one `close` of a resource.  Sections that
refuse raise, which ends the call; a call refused by its first section has
done nothing and is no step.  Between sections a call works on things that
are no part of this state (the job store, the images, the bundle), so a
working thread may raise or go on at any point.

The GPU lease is no part of the state.  It is shared with other runtimes and
only delays who asks for it; without it threads have more orders to take, not
fewer.
-/
import SpecStyle.Lib.Threads
import SpecStyle.Workflow.ProductionRuntime
import Mathlib.Logic.Relation

namespace SpecStyle

open PyLib

/-! ### Places -/

/-- The calls that hold the run lock. -/
inductive Operation where
  | run | publishExport | recoverExports | reopen
  deriving DecidableEq

/-- The two phases of an attempt that use the GPU. -/
inductive GpuPhase where
  | generation | verification
  deriving DecidableEq

/-- Why `_close_all` is called. -/
inductive Disposal where
  | outOfMemory | reopenFailed | close
  deriving DecidableEq

/-- Where a thread is. -/
inductive Pc where
  | idle
  /-- `publish_export`, past its first check -/
  | exportChecked
  /-- `recover_exports`, past its first check -/
  | recoveryChecked
  /-- between the start and the end of a call that holds the run lock -/
  | working (operation : Operation)
  | onGpu (phase : GpuPhase)
  /-- inside `_close_all`, with what is left to close -/
  | disposing (why : Disposal) (left : List Resource)
  /-- out of memory: recording the fatal event, then raising -/
  | raising
  /-- past the section of `_finish_run`, the run lock still taken -/
  | finishing (operation : Operation)
  | pipelineLoaded (loaded : Resource)
  | factoryCreated (loaded factory : Resource)
  /-- `cancel`, in `_cancel_durable` -/
  | cancelling (jobId : JobId)
  /-- the owner of a close, before the run lock -/
  | closing (jobId : Option JobId)
  /-- the owner of a close, with the run lock -/
  | closeLocked (jobId : Option JobId)
  /-- the owner of a close, past the run lock, `done` not set -/
  | closeUnlocked
  /-- another `close`, waiting for the owner -/
  | closeWaiting
  deriving DecidableEq

namespace Pc

/-- The call a thread is in, of those that hold the run lock. -/
def operation : Pc → Option Operation
  | .working operation => some operation
  | .onGpu _ => some .run
  | .disposing .outOfMemory _ => some .run
  | .raising => some .run
  | .finishing operation => some operation
  | .disposing .reopenFailed _ => some .reopen
  | .pipelineLoaded _ => some .reopen
  | .factoryCreated _ _ => some .reopen
  | _ => none

/-- The owner of a close, from `_begin_close` to the end of `close`. -/
def ownsClose : Pc → Bool
  | .closing _ => true
  | .closeLocked _ => true
  | .disposing .close _ => true
  | .closeUnlocked => true
  | _ => false

/-- Inside the run lock. -/
def holdsRunLock : Pc → Bool
  | .closeLocked _ => true
  | .disposing .close _ => true
  | pc => pc.operation.isSome

/-- `_ACTIVE_RUNTIME.current is self` -/
def active : Pc → Bool
  | .working operation => operation ≠ .reopen
  | .onGpu _ => true
  | .disposing .outOfMemory _ => true
  | .raising => true
  | _ => false

/-- At work with the runtime as its start left it: no failure yet. -/
def atWork : Pc → Bool
  | .working operation => operation ≠ .reopen
  | .onGpu _ => true
  | _ => false

/-- A reopen that has not come to its last section. -/
def reopens : Pc → Bool
  | .working .reopen => true
  | .pipelineLoaded _ => true
  | .factoryCreated _ _ => true
  | _ => false

/-- What a thread out of memory has left to close. -/
def quarantines : Pc → List Resource
  | .disposing .outOfMemory left => left
  | _ => []

/-- The resources only this thread knows of. -/
def carries : Pc → List Resource
  | .disposing _ left => left
  | .pipelineLoaded loaded => [loaded]
  | .factoryCreated loaded factory => [loaded, factory]
  | _ => []

end Pc

/-! ### Steps -/

variable {Tid : Type} [DecidableEq Tid]

/-- A runtime and its threads. -/
structure RuntimeWorld (Tid : Type) where
  pc : Tid → Pc
  runtime : ProductionRuntime
  /-- The resources made so far are those below. -/
  next : Resource
  /-- The resources on which `close` was called. -/
  released : List Resource
  /-- The event `done` of the owner of a close is set. -/
  closeDone : Bool

/-- A freshly opened runtime. -/
def RuntimeWorld.opened : RuntimeWorld Tid where
  pc := fun _ => .idle
  runtime := ProductionRuntime.new 0 1 2 3
  next := 4
  released := []
  closeDone := false

/-- One thread moves, and the runtime changes. -/
def RuntimeWorld.go (w : RuntimeWorld Tid) (t : Tid) (pc : Pc) (runtime : ProductionRuntime) :
    RuntimeWorld Tid :=
  { w with pc := Function.update w.pc t pc, runtime := runtime }

/-- What a thread does. -/
inductive Move where
  | run (request : Option JobId)
  | publishExport
  | startExport (jobId : JobId)
  | recoverExports
  | startRecovery
  | enterPhase (phase : GpuPhase)
  | leavePhase
  | outOfMemory
  | closeNext
  | afterClosing
  | finish
  | release
  | reopen
  | load
  | createFactory
  | install
  | fail
  | cancel (jobId : JobId)
  | mark (jobId : JobId) (reason : Text)
  | signal
  | close
  | acquire
  | wake
  deriving DecidableEq

/-- One step of one thread. -/
inductive RuntimeStep (w : RuntimeWorld Tid) (t : Tid) : Move → RuntimeWorld Tid → Prop
  -- `run`
  | run {request : Option JobId} {rt : ProductionRuntime} (at_ : w.pc t = .idle)
      (ok : w.runtime.startRun request = .ok rt) :
      RuntimeStep w t (.run request) (w.go t (.working .run) rt)
  | enterPhase {phase : GpuPhase} (at_ : w.pc t = .working .run) :
      RuntimeStep w t (.enterPhase phase) (w.go t (.onGpu phase) w.runtime)
  | leavePhase {phase : GpuPhase} (at_ : w.pc t = .onGpu phase) :
      RuntimeStep w t .leavePhase (w.go t (.working .run) w.runtime)
  | outOfMemory {phase : GpuPhase} (at_ : w.pc t = .onGpu phase) :
      RuntimeStep w t .outOfMemory
        (w.go t (.disposing .outOfMemory w.runtime.pipelineResources)
          w.runtime.quarantineUnderLease)
  | raise (at_ : w.pc t = .disposing .outOfMemory []) :
      RuntimeStep w t .afterClosing (w.go t .raising w.runtime)
  | finishRaising (at_ : w.pc t = .raising) :
      RuntimeStep w t .finish (w.go t (.finishing .run) w.runtime.finishRun)
  -- `_cancel_durable`, from a checkpoint, a cancel or a close
  | mark {jobId : JobId} {reason : Text}
      (at_ : w.pc t = .working .run ∨ w.pc t = .cancelling jobId ∨ w.pc t = .closing (some jobId) ∨
        w.pc t = .closeLocked (some jobId)) :
      RuntimeStep w t (.mark jobId reason)
        { w with runtime := w.runtime.markDurableCancel jobId reason }
  -- `publish_export` and `recover_exports`
  | publishExport (at_ : w.pc t = .idle) (opened : w.runtime.closed = false) :
      RuntimeStep w t .publishExport (w.go t .exportChecked w.runtime)
  | startExport {jobId : JobId} {rt : ProductionRuntime} (at_ : w.pc t = .exportChecked)
      (ok : w.runtime.startExport jobId = .ok rt) :
      RuntimeStep w t (.startExport jobId) (w.go t (.working .publishExport) rt)
  | exportRefused (at_ : w.pc t = .exportChecked) :
      RuntimeStep w t .fail (w.go t .idle w.runtime)
  | recoverExports (at_ : w.pc t = .idle) (opened : w.runtime.closed = false) :
      RuntimeStep w t .recoverExports (w.go t .recoveryChecked w.runtime)
  | startRecovery {rt : ProductionRuntime} (at_ : w.pc t = .recoveryChecked)
      (ok : w.runtime.startRecovery = .ok rt) :
      RuntimeStep w t .startRecovery (w.go t (.working .recoverExports) rt)
  | recoveryRefused (at_ : w.pc t = .recoveryChecked) :
      RuntimeStep w t .fail (w.go t .idle w.runtime)
  -- the end of a call that holds the run lock: a result, or whatever was raised
  | finish {operation : Operation} (at_ : w.pc t = .working operation)
      (not_reopen : operation ≠ .reopen) :
      RuntimeStep w t .finish (w.go t (.finishing operation) w.runtime.finishRun)
  | release {operation : Operation} (at_ : w.pc t = .finishing operation) :
      RuntimeStep w t .release (w.go t .idle w.runtime.releaseRunLock)
  -- `reopen`
  | reopen {rt : ProductionRuntime} (at_ : w.pc t = .idle) (ok : w.runtime.startReopen = .ok rt) :
      RuntimeStep w t .reopen (w.go t (.working .reopen) rt)
  | load (at_ : w.pc t = .working .reopen) :
      RuntimeStep w t .load
        { w.go t (.pipelineLoaded w.next) w.runtime with next := w.next + 1 }
  | createFactory {loaded : Resource} (at_ : w.pc t = .pipelineLoaded loaded) :
      RuntimeStep w t .createFactory
        { w.go t (.factoryCreated loaded w.next) w.runtime with next := w.next + 1 }
  | install {loaded factory : Resource} {rt : ProductionRuntime}
      (at_ : w.pc t = .factoryCreated loaded factory)
      (ok : w.runtime.installReopened loaded factory = .ok rt) :
      RuntimeStep w t .install (w.go t (.finishing .reopen) rt)
  | installRefused {loaded factory : Resource} {e : Raised}
      (at_ : w.pc t = .factoryCreated loaded factory)
      (refused : w.runtime.installReopened loaded factory = .error e) :
      RuntimeStep w t .fail (w.go t (.disposing .reopenFailed [factory, loaded]) w.runtime)
  | loadFailed (at_ : w.pc t = .working .reopen) :
      RuntimeStep w t .fail (w.go t (.disposing .reopenFailed []) w.runtime)
  | factoryFailed {loaded : Resource} (at_ : w.pc t = .pipelineLoaded loaded) :
      RuntimeStep w t .fail (w.go t (.disposing .reopenFailed [loaded]) w.runtime)
  | reopenFailed (at_ : w.pc t = .disposing .reopenFailed []) :
      RuntimeStep w t .afterClosing (w.go t (.finishing .reopen) w.runtime)
  -- `_close_all`; a `close` that raises was called all the same
  | closeNext {why : Disposal} {r : Resource} {rs : List Resource}
      (at_ : w.pc t = .disposing why (r :: rs)) :
      RuntimeStep w t .closeNext
        { w.go t (.disposing why rs) w.runtime with released := r :: w.released }
  -- `cancel`
  | cancel {jobId : JobId} (at_ : w.pc t = .idle) (opened : w.runtime.closed = false) :
      RuntimeStep w t (.cancel jobId) (w.go t (.cancelling jobId) w.runtime)
  | cancelFailed {jobId : JobId} (at_ : w.pc t = .cancelling jobId) :
      RuntimeStep w t .fail (w.go t .idle w.runtime)
  | cancelled {jobId : JobId} {reason : Text} (at_ : w.pc t = .cancelling jobId) :
      RuntimeStep w t .signal (w.go t .idle (w.runtime.signalCancel jobId reason))
  -- `close`
  | closeActive (active : (w.pc t).active = true) : RuntimeStep w t .close w
  | close {rt : ProductionRuntime} (at_ : w.pc t = .idle) (owner : w.runtime.beginClose = some rt) :
      RuntimeStep w t .close (w.go t (.closing w.runtime.activeJobId) rt)
  | closeAgain (at_ : w.pc t = .idle) (late : w.runtime.beginClose = none) :
      RuntimeStep w t .close (w.go t .closeWaiting w.runtime)
  | closeSignal {jobId : Option JobId}
      (at_ : w.pc t = .closing jobId ∨ w.pc t = .closeLocked jobId) :
      RuntimeStep w t .signal { w with runtime := w.runtime.publishCloseSignal jobId }
  | acquire {jobId : Option JobId} (at_ : w.pc t = .closing jobId)
      (free : w.runtime.runLock = false) :
      RuntimeStep w t .acquire (w.go t (.closeLocked jobId) w.runtime.acquireRunLock)
  | closeResources {jobId : Option JobId} (at_ : w.pc t = .closeLocked jobId) :
      RuntimeStep w t .finish
        (w.go t (.disposing .close w.runtime.ownedResources) w.runtime.dropFactory)
  | closeRelease (at_ : w.pc t = .disposing .close []) :
      RuntimeStep w t .release (w.go t .closeUnlocked w.runtime.releaseRunLock)
  | closed (at_ : w.pc t = .closeUnlocked) :
      RuntimeStep w t .finish { w.go t .idle w.runtime with closeDone := true }
  | wake (at_ : w.pc t = .closeWaiting) (done : w.closeDone = true) :
      RuntimeStep w t .wake (w.go t .idle w.runtime)

/-- The states the threads can bring a fresh runtime to. -/
def ReachableRuntime (w : RuntimeWorld Tid) : Prop :=
  Relation.ReflTransGen (fun a b => ∃ t move, RuntimeStep a t move b) RuntimeWorld.opened w

end SpecStyle
