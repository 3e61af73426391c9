/-
SpecStyle/Workflow/RunOne.lean

One execution of one job, with any number of cancels, through the controls of
the user interface or not.

`ProductionRunOneExecution.run` is a list of instructions: the lock sections,
the durable writes and the reads they depend on, in the order of the source,
with `work` for what lies between them and may raise.  Which list it is
depends on what is generated and verified (`RunShape`).  A cancel is a thread
of its own, and `RunOneWorld.step` interleaves them, one section at a time.

The job store shows its status here: an event is appended where the journal
accepts its transition (`appendStatus_of_step`).  Nobody closes the execution
or the runtime, so the checks for that are left out.
-/
import SpecStyle.Workflow.StateMachine
import SpecStyle.Workflow.ProductionRuntime
import Mathlib.Logic.Function.Basic

namespace SpecStyle

open PyLib

/-! ### The status of the job -/

/-- `append_event`, on the status of the job. -/
def appendStatus (status : JobStatus) (eventType : EventType) (fromState toState : JobStatus) :
    Except Raised JobStatus :=
  if status ∈ terminalStatuses then .error (.domain "job is terminal")
  else if fromState ≠ status then .error (.domain "invalid job transition")
  else do
    validateTransition status toState eventType
    return toState

/-- What the journal accepts moves its status so. -/
theorem appendStatus_of_step {s s' : JobState} {e : Event} (h : s.step e = some s') :
    appendStatus s.job.status e.eventType e.fromState e.toState = .ok s'.job.status := by
  obtain ⟨ha, rfl⟩ := JobState.step_cases h
  obtain ⟨⟨⟩, hv⟩ := validateTransition_ok.mpr ha.legal
  have ht : s.job.status ∉ terminalStatuses := by
    intro ht
    have hl := ha.legal.1
    rw [transitions_terminal ht] at hl
    cases hl
  unfold appendStatus
  rw [if_neg ht, if_neg (not_not.mpr ha.source), hv]
  rfl

/-- A terminal status takes no event. -/
theorem appendStatus_terminal {status : JobStatus} (h : status ∈ terminalStatuses)
    (eventType : EventType) (fromState toState : JobStatus) :
    appendStatus status eventType fromState toState = .error (.domain "job is terminal") :=
  if_pos h

/-! ### The run -/

/-- `_ExportPhase` -/
inductive ExportPhase where
  | unknown | staging | published
  deriving DecidableEq

/-- One section, one durable write or one read of a run. -/
inductive Instr where
  | startRun
  | startExport
  /-- `_reject_duplicate_job` -/
  | rejectDuplicate
  /-- `_cancellation_won`: the hint, -/
  | checkpoint
  /-- and the status it asks for when there is a hint. -/
  | confirm
  /-- `_create_initial_job` -/
  | genesis
  | append (eventType : EventType) (fromState toState : JobStatus)
  /-- What may raise, and the status a fatal event is recorded from if it does. -/
  | work (onFailure : Option JobStatus)
  /-- `_append_event` of a fatal event, whose own failure is passed over -/
  | fatal (fromState : JobStatus)
  | beginPublish
  | commitPublish
  | finishRun
  | releaseRunLock
  /-- `export_result.job_state != expected` -/
  | readBack
  deriving DecidableEq

/-- What the verification and the repair decide. -/
inductive RunShape where
  | direct (decided : JobStatus)
  | selectedTerminal (decided : JobStatus)
  | repaired (decided : JobStatus)
  deriving DecidableEq

/-- `_record_attempt_start` -/
def recordAttemptStart : List Instr :=
  [.checkpoint, .append .jobStarted .created .specValidated, .checkpoint,
    .checkpoint, .append .specCompiled .specValidated .specCompiled, .checkpoint,
    .checkpoint, .append .attemptStarted .specCompiled .generating, .checkpoint]

/-- `_start_prepared_job` -/
def startPreparedJob : List Instr :=
  [.checkpoint, .genesis, .checkpoint] ++ recordAttemptStart

/-- `_run_generation_phase` -/
def runGenerationPhase (state : JobStatus) : List Instr :=
  [.checkpoint, .checkpoint, .work (some state), .checkpoint]

/-- `_persist_artifact` and `_persist_report` -/
def persist (state : JobStatus) : List Instr :=
  [.checkpoint, .work (some state), .checkpoint, .work (some state), .checkpoint]

/-- `_run_verification_phase` -/
def runVerificationPhase : List Instr := [.checkpoint, .work (some .verifying), .checkpoint]

/-- `_run_attempt` -/
def runAttempt (state : JobStatus) : List Instr :=
  runGenerationPhase state ++ [.checkpoint] ++ persist state ++
    [.checkpoint, .append .attemptFinished state .verifying, .checkpoint] ++
    runVerificationPhase ++ [.checkpoint] ++ persist .verifying ++ [.checkpoint]

/-- `_record_terminal` -/
def recordTerminal (decided fromState : JobStatus) : List Instr :=
  [.checkpoint, .append .verifierFinished fromState decided, .checkpoint]

/-- `_repair_call` between two checkpoints -/
def repairCall (state : JobStatus) : List Instr :=
  [.checkpoint, .work (some state), .checkpoint]

/-- `_run_repair`, up to the result -/
def runRepair (decided : JobStatus) : List Instr :=
  repairCall .repairSelecting ++ [.append .repairStep .repairSelecting .repairing, .checkpoint] ++
    runAttempt .repairing ++ [.work none] ++ repairCall .verifying ++
    recordTerminal decided .verifying

/-- `_run_prepared_attempt`, after the first attempt -/
def finishAttempt : RunShape → List Instr
  | .direct decided => recordTerminal decided .verifying
  | .selectedTerminal decided =>
    recordTerminal .repairSelecting .verifying ++ recordTerminal decided .repairSelecting
  | .repaired decided => recordTerminal .repairSelecting .verifying ++ runRepair decided

/-- `ProductionRuntime.run` -/
def runtimeRun (shape : RunShape) : List Instr :=
  [.startRun, .checkpoint, .work none, .rejectDuplicate, .work none, .checkpoint] ++
    startPreparedJob ++ runAttempt .generating ++ repairCall .verifying ++ finishAttempt shape ++
    [.checkpoint, .work none, .checkpoint, .finishRun, .releaseRunLock]

/-- `prepare_export`, then `publish_export` -/
def publishExport : List Instr :=
  [.work none, .startExport, .beginPublish, .work none, .commitPublish, .finishRun,
    .releaseRunLock]

/-- The body of `ProductionRunOneExecution.run`. -/
def runBody (shape : RunShape) : List Instr := runtimeRun shape ++ publishExport ++ [.readBack]

/-- Where the run is. -/
inductive RunPc where
  | idle
  | running (rest : List Instr)
  /-- an exception on its way through the handlers -/
  | unwinding (rest : List Instr)
  | returned
  | raised
  deriving DecidableEq

/-! ### Cancels -/

/-- What a call of `cancel` comes to. -/
inductive CancelOutcome where
  /-- `None` -/
  | pending
  /-- a state with status `CANCELLED` -/
  | cancelled
  | raised (e : Raised)
  deriving DecidableEq

/-- Where a cancel is; `ui` if `cancel_job` made the call. -/
inductive CancelPc where
  | idle
  | entered (ui : Bool) (reason : Text)
  /-- past the execution's lock, the run having started -/
  | started (ui : Bool) (reason : Text)
  /-- past the snapshot, of which there was none -/
  | missing (ui : Bool) (reason : Text)
  /-- in `ProductionRuntime.cancel` -/
  | durable (ui : Bool) (reason : Text)
  /-- past `_cancel_durable`, which returned -/
  | signalling (ui : Bool) (reason : Text)
  | done (ui : Bool) (outcome : CancelOutcome)
  /-- `cancel_job` answered without a call -/
  | answered (text : String)
  deriving DecidableEq

/-- `_ActiveInvocation.phase` -/
inductive UiPhase where
  | opening | active | cancelRequested | resultReady | cleanup
  deriving DecidableEq

/-- `_ActiveInvocation` -/
structure UiInvocation where
  phase : UiPhase
  /-- `execution is not None` -/
  execution : Bool
  cancelRequested : Bool
  deriving DecidableEq

/-- The section of `cancel_job` under the state lock: an answer, or none when
the execution is asked to cancel. -/
def UiInvocation.cancelJob (ui : UiInvocation) : UiInvocation × Option String :=
  if ui.cancelRequested then (ui, some "cancel already requested")
  else if ui.phase = .resultReady ∨ ui.phase = .cleanup then
    (ui, some "cancel unavailable; latest run is terminal")
  else if ui.execution then
    ({ ui with cancelRequested := true, phase := .cancelRequested }, none)
  else ({ ui with cancelRequested := true }, some "cancel requested")

/-- `_cancel_execution`, from what `cancel` came to. -/
def CancelOutcome.answer : CancelOutcome → String
  | .pending => "cancel requested"
  | .cancelled => "cancel requested; job status=CANCELLED"
  | .raised e =>
    if e = .domain "job is terminal" then "cancel unavailable; job is terminal"
    else "cancel failed: internal error"

/-- The text `cancel_job` has answered, if it has. -/
def CancelPc.answer? : CancelPc → Option String
  | .done true outcome => some outcome.answer
  | .answered text => some text
  | _ => none

/-! ### The world -/

/-- An execution, its runtime and job, and who calls them. -/
structure RunOneWorld (Cid : Type) where
  jobId : JobId
  runStarted : Bool
  pendingCancel : Option Text
  run : RunPc
  cancel : Cid → CancelPc
  /-- The status of the stored job, none before its snapshot. -/
  job : Option JobStatus
  exportPhase : ExportPhase
  runtime : ProductionRuntime
  ui : UiInvocation
  /-- `_cancel_close_gate`, taken or free -/
  gate : Bool

/-- An execution that was just opened. -/
def RunOneWorld.opened {Cid : Type} (jobId : JobId) : RunOneWorld Cid where
  jobId := jobId
  runStarted := false
  pendingCancel := none
  run := .idle
  cancel := fun _ => .idle
  job := none
  exportPhase := .unknown
  runtime := .new 0 1 2 3
  ui := ⟨.opening, false, false⟩
  gate := false

/-- One step of one thread. -/
inductive RunOneAct (Cid : Type) where
  /-- `run()` is called. -/
  | call (shape : RunShape)
  /-- The next instruction of the run. -/
  | advance
  /-- The work at hand raises. -/
  | fail
  | register
  | setPhase (phase : UiPhase)
  /-- `cancel(reason=...)` is called. -/
  | cancel (c : Cid) (reason : Text)
  | cancelJob (c : Cid)
  /-- `cancel_registered_execution` -/
  | cancelRegistered (c : Cid)
  /-- The next section of a cancel. -/
  | next (c : Cid)
  deriving DecidableEq

section Steps

variable {Cid : Type} [DecidableEq Cid]

/-- `_cancel_durable`, under the lock of the job.  A second round of its loop
finds the job as the first one did, and raises. -/
def RunOneWorld.cancelDurable (w : RunOneWorld Cid) (reason : Text) :
    Except Raised (RunOneWorld Cid) :=
  let marked := { w with runtime := w.runtime.markDurableCancel w.jobId reason }
  match w.job with
  | none => .error (.domain "job not found")
  | some .cancelled => .ok marked
  | some status =>
    if status ∈ terminalStatuses then .error (.domain "job is terminal")
    else if status = .exporting ∧ w.exportPhase ≠ .staging then
      .error (.infrastructure "production export recovery required")
    else do
      let status ← appendStatus status .cancelRequested status .cancelled
      return { marked with job := some status }

/-- The section of `run` under the execution's lock. -/
def RunOneWorld.callRun (w : RunOneWorld Cid) (shape : RunShape) : RunOneWorld Cid :=
  { w with
    runStarted := true
    run := if w.pendingCancel.isSome then .raised else .running (runBody shape) }

/-- What the handlers do after an exception: `_finish_run` if the runtime is in
a call, which the rest of the instructions shows. -/
def handlers (rest : List Instr) : List Instr :=
  match rest.find? fun i => i = .finishRun ∨ i = .startExport with
  | some .finishRun => [.finishRun, .releaseRunLock]
  | _ => []

/-- An exception leaves the run. -/
def RunOneWorld.raise (w : RunOneWorld Cid) (first rest : List Instr) : RunOneWorld Cid :=
  { w with run := .unwinding (first ++ handlers rest) }

/-- `_begin_publish`, under the lock of the job. -/
def RunOneWorld.beginPublish (w : RunOneWorld Cid) (rest : List Instr) : RunOneWorld Cid :=
  match w.job with
  | none => w.raise [] rest
  | some status =>
    if status ∈ [JobStatus.approved, .manualReview, .rejected] then
      match appendStatus status .exportStarted status .exporting with
      | .ok status =>
        { w with job := some status, exportPhase := .staging, run := .running rest }
      | .error _ => w.raise [] rest
    else w.raise [] rest

/-- `_commit_publish`, under the lock of the job, from a bundle that can be
committed. -/
def RunOneWorld.commitPublish (w : RunOneWorld Cid) (rest : List Instr) : RunOneWorld Cid :=
  if w.job = some .exporting then
    match appendStatus .exporting .exportPublished .exporting .completed with
    | .ok status =>
      { w with job := some status, exportPhase := .published, run := .running rest }
    | .error _ => { w with exportPhase := .published }.raise [] rest
  else w.raise [] rest

/-- One instruction of the run. -/
def RunOneWorld.execute (w : RunOneWorld Cid) (instr : Instr) (rest : List Instr) :
    RunOneWorld Cid :=
  let go := { w with run := .running rest }
  match instr with
  | .startRun =>
    match w.runtime.startRun (some w.jobId) with
    | .ok runtime => { go with runtime := runtime }
    | .error _ => { w with run := .raised }
  | .startExport =>
    match w.runtime.startExport w.jobId with
    | .ok runtime => { go with runtime := runtime }
    | .error _ => { w with run := .raised }
  | .rejectDuplicate => if w.job.isNone then go else w.raise [] rest
  | .checkpoint =>
    if w.runtime.activeJobId = some w.jobId ∧ w.runtime.activeCancelReason.isSome then
      { w with run := .running (.confirm :: rest) }
    else go
  | .confirm => if w.job = some .cancelled then w.raise [] rest else go
  | .genesis => if w.job.isNone then { go with job := some .created } else w.raise [] rest
  | .append eventType fromState toState =>
    match w.job with
    | none => w.raise [] rest
    | some status =>
      match appendStatus status eventType fromState toState with
      | .ok status => { go with job := some status }
      | .error _ => w.raise [] rest
  | .work _ => go
  | .fatal _ => go
  | .beginPublish => w.beginPublish rest
  | .commitPublish => w.commitPublish rest
  | .finishRun => { go with runtime := w.runtime.finishRun }
  | .releaseRunLock => { go with runtime := w.runtime.releaseRunLock }
  | .readBack => if w.job = some .completed then go else w.raise [] rest

/-- One instruction of the handlers. -/
def RunOneWorld.unwind (w : RunOneWorld Cid) (instr : Instr) (rest : List Instr) :
    RunOneWorld Cid :=
  let go := { w with run := .unwinding rest }
  match instr with
  | .fatal fromState =>
    match w.job.map fun status => appendStatus status .fatal fromState .jobFailed with
    | some (.ok status) => { go with job := some status }
    | _ => go
  | .finishRun => { go with runtime := w.runtime.finishRun }
  | .releaseRunLock => { go with runtime := w.runtime.releaseRunLock }
  | _ => go

/-- A thread of the cancels moves. -/
def RunOneWorld.setCancel (w : RunOneWorld Cid) (c : Cid) (pc : CancelPc) : RunOneWorld Cid :=
  { w with cancel := Function.update w.cancel c pc }

/-- A cancel comes to its end; `cancel_job` lets go of its gate. -/
def RunOneWorld.endCancel (w : RunOneWorld Cid) (c : Cid) (ui : Bool) (outcome : CancelOutcome) :
    RunOneWorld Cid :=
  { w.setCancel c (.done ui outcome) with gate := w.gate && !ui }

/-- The next section of a cancel. -/
def RunOneWorld.cancelNext (w : RunOneWorld Cid) (c : Cid) : Option (RunOneWorld Cid) :=
  match w.cancel c with
  | .entered ui reason =>
    if w.runStarted then some (w.setCancel c (.started ui reason))
    else some ({ w with pendingCancel := some reason }.endCancel c ui .pending)
  | .started ui reason =>
    if w.job.isNone then some (w.setCancel c (.missing ui reason))
    else some (w.setCancel c (.durable ui reason))
  | .missing ui reason => some ({ w with pendingCancel := some reason }.endCancel c ui .pending)
  | .durable ui reason =>
    match SafeText.new "cancel reason" reason >>= fun _ => w.cancelDurable reason with
    | .ok w' => some (w'.setCancel c (.signalling ui reason))
    | .error e => some (w.endCancel c ui (.raised e))
  | .signalling ui reason =>
    some ({ w with runtime := w.runtime.signalCancel w.jobId reason }.endCancel c ui .cancelled)
  | _ => none

/-- One step of the world, none for one that cannot be taken. -/
def RunOneWorld.step (w : RunOneWorld Cid) : RunOneAct Cid → Option (RunOneWorld Cid)
  | .call shape => if w.run = .idle then some (w.callRun shape) else none
  | .advance =>
    match w.run with
    | .running (instr :: rest) => some (w.execute instr rest)
    | .running [] => some { w with run := .returned }
    | .unwinding (instr :: rest) => some (w.unwind instr rest)
    | .unwinding [] => some { w with run := .raised }
    | _ => none
  | .fail =>
    match w.run with
    | .running (.work onFailure :: rest) =>
      some (w.raise (onFailure.toList.map .fatal) rest)
    | .running (.beginPublish :: rest) => some (w.raise [] rest)
    | .running (.commitPublish :: rest) =>
      -- the bundle cannot be committed
      some (if w.job = some .exporting then { w with exportPhase := .unknown }.raise [] rest
        else w.raise [] rest)
    | _ => none
  | .register => some { w with ui := { w.ui with execution := true, phase := .active } }
  | .setPhase phase => some { w with ui := { w.ui with phase := phase } }
  | .cancel c reason =>
    if w.cancel c = .idle then some (w.setCancel c (.entered false reason)) else none
  | .cancelJob c =>
    if w.cancel c = .idle ∧ w.gate = false then
      match w.ui.cancelJob with
      | (ui, some text) => some ({ w with ui := ui }.setCancel c (.answered text))
      | (ui, none) =>
        some ({ w with ui := ui, gate := true }.setCancel c
          (.entered true (py "user requested")))
    else none
  | .cancelRegistered c =>
    if w.cancel c = .idle ∧ w.gate = false then
      if w.ui.execution then
        some ({ w with gate := true }.setCancel c (.entered true (py "user requested")))
      else some (w.setCancel c (.answered "cancel requested"))
    else none
  | .next c => w.cancelNext c

end Steps

end SpecStyle
