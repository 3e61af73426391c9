/-
SpecStyle/Workflow/JobModels.lean

Jobs, events, snapshots and states as the workflow stores them.

Every value object is a structure whose proofs are the checks of its
`__post_init__`, and `new` is the constructor with these checks in their
order and with their messages.  The recurring parts have types of their own:
`Timestamp`, `BundleName`, `SafeText`, `CohortProfiles` and `JobBudget`.
`new` applied to the fields of a value gives the value back, which is all
that rebuilding a value of the source amounts to.

An event keeps no event type beside its payload: the source admits exactly
one payload class for each event type (`Payload.eventType`), and the
constructor checks it.  The schema version of a snapshot is one constant, so
it is no field either.
-/
import SpecStyle.Domain.Values
import Mathlib.Data.Fintype.OfMap

namespace SpecStyle

open PyLib

/-! ### Enumerations -/

/-- `FatalErrorFamily` -/
inductive FatalErrorFamily where
  | generationOom | generationFailed | verifierUnavailable | verifierUnverifiable
  | repairBudgetExhausted | exportInvariantViolation | exportHashMismatch | rocmNotAvailable
  | specInvalid | assetUnlicensed | modelUnlicensed | unknown
  deriving DecidableEq

def FatalErrorFamily.all : List FatalErrorFamily :=
  [.generationOom, .generationFailed, .verifierUnavailable, .verifierUnverifiable,
    .repairBudgetExhausted, .exportInvariantViolation, .exportHashMismatch, .rocmNotAvailable,
    .specInvalid, .assetUnlicensed, .modelUnlicensed, .unknown]

def FatalErrorFamily.value : FatalErrorFamily → Text
  | .generationOom => py "GENERATION_OOM"
  | .generationFailed => py "GENERATION_FAILED"
  | .verifierUnavailable => py "VERIFIER_UNAVAILABLE"
  | .verifierUnverifiable => py "VERIFIER_UNVERIFIABLE"
  | .repairBudgetExhausted => py "REPAIR_BUDGET_EXHAUSTED"
  | .exportInvariantViolation => py "EXPORT_INVARIANT_VIOLATION"
  | .exportHashMismatch => py "EXPORT_HASH_MISMATCH"
  | .rocmNotAvailable => py "ROCM_NOT_AVAILABLE"
  | .specInvalid => py "SPEC_INVALID"
  | .assetUnlicensed => py "ASSET_UNLICENSED"
  | .modelUnlicensed => py "MODEL_UNLICENSED"
  | .unknown => py "UNKNOWN"

@[simp] theorem FatalErrorFamily.memberOf_value (a : FatalErrorFamily) :
    memberOf all value a.value = some a := by
  cases a <;> decide

/-- `JobStatus` -/
inductive JobStatus where
  | created | specValidated | specCompiled | generating | verifying | approved | manualReview
  | rejected | repairSelecting | repairing | exporting | completed | recoverableError
  | jobFailed | cancelled
  deriving DecidableEq

def JobStatus.all : List JobStatus :=
  [.created, .specValidated, .specCompiled, .generating, .verifying, .approved, .manualReview,
    .rejected, .repairSelecting, .repairing, .exporting, .completed, .recoverableError,
    .jobFailed, .cancelled]

def JobStatus.value : JobStatus → Text
  | .created => py "CREATED"
  | .specValidated => py "SPEC_VALIDATED"
  | .specCompiled => py "SPEC_COMPILED"
  | .generating => py "GENERATING"
  | .verifying => py "VERIFYING"
  | .approved => py "APPROVED"
  | .manualReview => py "MANUAL_REVIEW"
  | .rejected => py "REJECTED"
  | .repairSelecting => py "REPAIR_SELECTING"
  | .repairing => py "REPAIRING"
  | .exporting => py "EXPORTING"
  | .completed => py "COMPLETED"
  | .recoverableError => py "RECOVERABLE_ERROR"
  | .jobFailed => py "JOB_FAILED"
  | .cancelled => py "CANCELLED"

@[simp] theorem JobStatus.memberOf_value (a : JobStatus) :
    memberOf all value a.value = some a := by
  cases a <;> decide

instance : Fintype JobStatus := Fintype.ofList JobStatus.all fun a => by cases a <;> decide

/-- `TERMINAL_STATUSES` -/
def terminalStatuses : List JobStatus := [.completed, .jobFailed, .cancelled]

/-- `EventType` -/
inductive EventType where
  | jobStarted | specCompiled | attemptStarted | attemptFinished | verifierFinished | repairStep
  | exportStarted | exportPublished | recoverable | cancelRequested | fatal
  deriving DecidableEq

def EventType.all : List EventType :=
  [.jobStarted, .specCompiled, .attemptStarted, .attemptFinished, .verifierFinished, .repairStep,
    .exportStarted, .exportPublished, .recoverable, .cancelRequested, .fatal]

def EventType.value : EventType → Text
  | .jobStarted => py "JOB_STARTED"
  | .specCompiled => py "SPEC_COMPILED"
  | .attemptStarted => py "ATTEMPT_STARTED"
  | .attemptFinished => py "ATTEMPT_FINISHED"
  | .verifierFinished => py "VERIFIER_FINISHED"
  | .repairStep => py "REPAIR_STEP"
  | .exportStarted => py "EXPORT_STARTED"
  | .exportPublished => py "EXPORT_PUBLISHED"
  | .recoverable => py "RECOVERABLE"
  | .cancelRequested => py "CANCEL_REQUESTED"
  | .fatal => py "FATAL"

@[simp] theorem EventType.memberOf_value (a : EventType) :
    memberOf all value a.value = some a := by
  cases a <;> decide

instance : Fintype EventType := Fintype.ofList EventType.all fun a => by cases a <;> decide

/-! ### Parts -/

/-- `JobBudget` -/
structure JobBudget where
  maxAttemptsPerItem : Int
  valid : 1 ≤ maxAttemptsPerItem
  deriving DecidableEq

def JobBudget.new (maxAttemptsPerItem : Int) : Except Raised JobBudget :=
  if h : 1 ≤ maxAttemptsPerItem then .ok ⟨maxAttemptsPerItem, h⟩
  else .error (.domain "invalid budget")

@[simp] theorem JobBudget.new_self (b : JobBudget) : JobBudget.new b.maxAttemptsPerItem = .ok b := by
  simp [JobBudget.new, b.valid]

/-- The cohort profiles of a job: at least one, none twice. -/
structure CohortProfiles where
  value : List OutputProfile
  nonempty : value ≠ []
  nodup : value.Nodup
  deriving DecidableEq

/-- `list(job.cohort_profiles)` -/
def CohortProfiles.texts (p : CohortProfiles) : List Text := p.value.map OutputProfile.value

/-- `_profiles` -/
def CohortProfiles.new (value : List Text) : Except Raised CohortProfiles :=
  match value.mapM (memberOf OutputProfile.all OutputProfile.value) with
  | none => .error (.domain "invalid cohort profiles")
  | some ps =>
    if h : ps ≠ [] ∧ ps.Nodup then .ok ⟨ps, h.1, h.2⟩
    else .error (.domain "invalid cohort profiles")

@[simp] theorem CohortProfiles.new_texts (p : CohortProfiles) :
    CohortProfiles.new p.texts = .ok p := by
  have hm : ∀ ps : List OutputProfile,
      (ps.map OutputProfile.value).mapM (memberOf OutputProfile.all OutputProfile.value)
        = some ps := by
    intro ps
    induction ps with
    | nil => rfl
    | cons a ps ih => simp [ih]
  unfold CohortProfiles.new CohortProfiles.texts
  rw [hm]
  exact dif_pos ⟨p.nonempty, p.nodup⟩

/-- `_TS_RE`, a digit for every `d`. -/
def timestampPattern : Text := py "dddd-dd-ddTdd:dd:dd.dddZ"

/-- `_TS_RE.fullmatch(value) is not None` -/
def isTimestamp (value : Text) : Bool :=
  value.length == timestampPattern.length &&
    (value.zip timestampPattern).all fun p => if p.2 = 0x64 then isDigit p.1 else p.1 = p.2

/-- An RFC3339 instant with milliseconds.  Two of them compare as texts. -/
structure Timestamp where
  value : Text
  valid : isTimestamp value = true
  deriving DecidableEq

/-- `_timestamp` -/
def Timestamp.new (value : Text) : Except Raised Timestamp :=
  if h : isTimestamp value = true then .ok ⟨value, h⟩ else .error (.domain "invalid timestamp")

@[simp] theorem Timestamp.new_value (t : Timestamp) : Timestamp.new t.value = .ok t := by
  simp [Timestamp.new, t.valid]

/-- The test of `_safe_text` with `limit=256`: stripped, no control
character, and neither empty nor too long. -/
def isSafeText (value : Text) : Bool :=
  1 ≤ value.length && value.length ≤ 256 && isStripped value && value.all (!isControl ·)

/-- The free text of a reason. -/
structure SafeText where
  value : Text
  valid : isSafeText value = true
  deriving DecidableEq

/-- `_safe_text(value, name, limit=256)` -/
def SafeText.new (name : String) (value : Text) : Except Raised SafeText :=
  if h : isSafeText value = true then .ok ⟨value, h⟩
  else .error (.domain ("invalid " ++ name))

@[simp] theorem SafeText.new_value (name : String) (t : SafeText) :
    SafeText.new name t.value = .ok t := by
  simp [SafeText.new, t.valid]

/-- The name of an export bundle. -/
structure BundleName where
  value : Text
  valid : isIdText value = true

theorem BundleName.ext_value {a b : BundleName} (h : a.value = b.value) : a = b := by
  cases a; cases b; cases h; rfl

instance : DecidableEq BundleName := fun _ _ =>
  decidable_of_iff _ ⟨BundleName.ext_value, congrArg BundleName.value⟩

/-- `_bundle_name` -/
def BundleName.new (value : Text) : Except Raised BundleName :=
  if h : isIdText value = true then .ok ⟨value, h⟩ else .error (.domain "invalid bundle name")

@[simp] theorem BundleName.new_value (b : BundleName) : BundleName.new b.value = .ok b := by
  simp [BundleName.new, b.valid]

/-! ### Jobs -/

/-- `Job` -/
structure Job where
  jobId : JobId
  compiledSpecHash : Sha256
  cohortProfiles : CohortProfiles
  budget : JobBudget
  status : JobStatus
  createdAt : Timestamp
  updatedAt : Timestamp
  ordered : createdAt.value ≤ updatedAt.value
  deriving DecidableEq

def Job.new (jobId : JobId) (compiledSpecHash : Sha256) (cohortProfiles : List Text)
    (budget : JobBudget) (status : JobStatus) (createdAt updatedAt : Text) :
    Except Raised Job :=
  if hlt : updatedAt < createdAt then .error (.domain "invalid job timestamps")
  else do
    let profiles ← CohortProfiles.new cohortProfiles
    if hc : isTimestamp createdAt = true then
      if hu : isTimestamp updatedAt = true then
        return {
          jobId, compiledSpecHash, cohortProfiles := profiles, budget, status
          createdAt := ⟨createdAt, hc⟩, updatedAt := ⟨updatedAt, hu⟩, ordered := not_lt.mp hlt }
      else throw (.domain "invalid timestamp")
    else throw (.domain "invalid timestamp")

@[simp] theorem Job.new_self (job : Job) :
    Job.new job.jobId job.compiledSpecHash job.cohortProfiles.texts job.budget job.status
      job.createdAt.value job.updatedAt.value = .ok job := by
  unfold Job.new
  rw [dif_neg (not_lt.mpr job.ordered)]
  simp only [CohortProfiles.new_texts, job.createdAt.valid, job.updatedAt.valid, dite_true]
  rfl

/-- `job.terminal` -/
def Job.terminal (job : Job) : Bool := terminalStatuses.contains job.status

/-! ### Events -/

/-- The payload classes. -/
inductive Payload where
  | jobStarted (compiledSpecHash : Sha256) (cohortProfiles : CohortProfiles) (budget : JobBudget)
  | specCompiled (compiledSpecHash : Sha256)
  | attemptStarted (cohortIndex itemIndex : Int) (attemptId : AttemptId)
      (parentAttemptId : Option AttemptId)
  | attemptFinished (cohortIndex itemIndex : Int) (attemptId : AttemptId)
      (artifactId : ArtifactId) (requestHash : Sha256)
  | verifierFinished (cohortIndex itemIndex : Int) (artifactId : ArtifactId)
      (artifactStatus : ArtifactStatus) (decisionReason : DecisionReason)
      (repairStopReason : Option RepairStopReason)
  | repairStep (cohortIndex itemIndex : Int) (decisionId : DecisionId) (actionId : Identifier)
      (triggerRuleId : RuleId) (parentAttemptId childAttemptId : AttemptId)
  | exportStarted (bundleName : BundleName)
  | exportPublished (bundleName : BundleName) (manifestSha256 payloadSha256 bundleSha256 : Sha256)
  | recoverable (reason : SafeText)
  | cancelRequested (reason : SafeText)
  | fatal (errorFamily : FatalErrorFamily) (reason : SafeText)
  deriving DecidableEq

/-- `_PAYLOAD_BY_EVENT`, read from the payload class. -/
def Payload.eventType : Payload → EventType
  | .jobStarted .. => .jobStarted
  | .specCompiled .. => .specCompiled
  | .attemptStarted .. => .attemptStarted
  | .attemptFinished .. => .attemptFinished
  | .verifierFinished .. => .verifierFinished
  | .repairStep .. => .repairStep
  | .exportStarted .. => .exportStarted
  | .exportPublished .. => .exportPublished
  | .recoverable .. => .recoverable
  | .cancelRequested .. => .cancelRequested
  | .fatal .. => .fatal

/-- `Event` -/
structure Event where
  sequence : Int
  jobId : JobId
  fromState : JobStatus
  toState : JobStatus
  timestamp : Timestamp
  payload : Payload
  positive : 1 ≤ sequence
  moves : fromState ≠ toState ∨ payload.eventType = .fatal
  deriving DecidableEq

/-- `event.event_type` -/
def Event.eventType (event : Event) : EventType := event.payload.eventType

def Event.new (sequence : Int) (jobId : JobId) (eventType : EventType)
    (fromState toState : JobStatus) (timestamp : Text) (payload : Payload) :
    Except Raised Event :=
  if hs : sequence < 1 then .error (.domain "invalid sequence")
  else if hm : fromState = toState ∧ eventType ≠ .fatal then
    .error (.domain "invalid job transition")
  else if hp : payload.eventType = eventType then
    if ht : isTimestamp timestamp = true then
      .ok {
        sequence, jobId, fromState, toState, timestamp := ⟨timestamp, ht⟩, payload
        positive := by omega
        moves := by
          rw [hp]
          by_cases h : fromState = toState
          · exact .inr (not_not.mp fun hf => hm ⟨h, hf⟩)
          · exact .inl h }
    else .error (.domain "invalid timestamp")
  else .error (.domain "invalid job event")

@[simp] theorem Event.new_self (e : Event) :
    Event.new e.sequence e.jobId e.eventType e.fromState e.toState e.timestamp.value e.payload
      = .ok e := by
  have hs : ¬ e.sequence < 1 := by have := e.positive; omega
  have hm : ¬ (e.fromState = e.toState ∧ e.eventType ≠ .fatal) := fun h =>
    e.moves.elim (fun hne => hne h.1) h.2
  unfold Event.new
  rw [dif_neg hs, dif_neg hm, dif_pos (show e.payload.eventType = e.eventType from rfl),
    dif_pos e.timestamp.valid]

/-! ### Snapshots and states -/

/-- `JobSnapshot` -/
structure JobSnapshot where
  job : Job
  lastSequence : Int
  attemptIds : List AttemptId
  bundleNames : List BundleName
  nonneg : 0 ≤ lastSequence
  attemptsNodup : attemptIds.Nodup
  bundlesNodup : bundleNames.Nodup
  deriving DecidableEq

def JobSnapshot.new (job : Job) (lastSequence : Int) (attemptIds : List AttemptId)
    (bundleNames : List Text) : Except Raised JobSnapshot :=
  if hl : lastSequence < 0 then .error (.domain "invalid last sequence")
  else do
    let bundles ← bundleNames.mapM BundleName.new
    if h : attemptIds.Nodup ∧ bundles.Nodup then
      return {
        job, lastSequence, attemptIds, bundleNames := bundles
        nonneg := by omega
        attemptsNodup := h.1, bundlesNodup := h.2 }
    else throw (.domain "invalid job snapshot")

@[simp] theorem mapM_bundleName (bs : List BundleName) :
    (bs.map BundleName.value).mapM BundleName.new = .ok bs := by
  induction bs with
  | nil => rfl
  | cons b bs ih =>
    rw [List.map_cons, List.mapM_cons, BundleName.new_value, ih]
    rfl

@[simp] theorem JobSnapshot.new_self (s : JobSnapshot) :
    JobSnapshot.new s.job s.lastSequence s.attemptIds (s.bundleNames.map BundleName.value)
      = .ok s := by
  have hl : ¬ s.lastSequence < 0 := by have := s.nonneg; omega
  unfold JobSnapshot.new
  rw [dif_neg hl, mapM_bundleName]
  exact dif_pos ⟨s.attemptsNodup, s.bundlesNodup⟩

/-- `JobState` -/
structure JobState where
  job : Job
  lastSequence : Int
  attemptIds : List AttemptId
  bundleNames : List BundleName
  nonneg : 0 ≤ lastSequence
  attemptsNodup : attemptIds.Nodup
  bundlesNodup : bundleNames.Nodup
  deriving DecidableEq

def JobState.new (job : Job) (lastSequence : Int) (attemptIds : List AttemptId)
    (bundleNames : List BundleName) : Except Raised JobState :=
  if hl : lastSequence < 0 then .error (.domain "invalid last sequence")
  else if h : attemptIds.Nodup ∧ bundleNames.Nodup then
    .ok {
      job, lastSequence, attemptIds, bundleNames
      nonneg := by omega
      attemptsNodup := h.1, bundlesNodup := h.2 }
  else .error (.domain "invalid job state")

/-- `JobSnapshot(SNAPSHOT_VERSION, state.job, state.last_sequence, ...)` -/
def JobState.snapshot (s : JobState) : JobSnapshot :=
  { s with }

/-- The state a snapshot holds. -/
def JobSnapshot.state (s : JobSnapshot) : JobState :=
  { s with }

@[simp] theorem JobState.snapshot_state (s : JobState) : s.snapshot.state = s := rfl

@[simp] theorem JobSnapshot.state_snapshot (s : JobSnapshot) : s.state.snapshot = s := rfl

/-! ### A small job -/

theorem noEvents_nonneg : (0 : Int) ≤ 0 := le_refl _

def sampleTime : Timestamp := ⟨py "2026-01-01T00:00:00.000Z", by decide⟩

/-- A job just created. -/
def sampleJob : Job where
  jobId := Id.lit .job "job-1"
  compiledSpecHash := sampleHash
  cohortProfiles := ⟨[.xhsGrid], by decide, by decide⟩
  budget := ⟨2, by decide⟩
  status := .created
  createdAt := sampleTime
  updatedAt := sampleTime
  ordered := le_refl _

def sampleGenesis : JobSnapshot where
  job := sampleJob
  lastSequence := 0
  attemptIds := []
  bundleNames := []
  nonneg := noEvents_nonneg
  attemptsNodup := List.nodup_nil
  bundlesNodup := List.nodup_nil

/-- The event number `n + 1` of the small job. -/
def sampleEvent (n : Nat) (fromState toState : JobStatus) (payload : Payload)
    (moves : fromState ≠ toState := by decide) : Event where
  sequence := n + 1
  jobId := sampleJob.jobId
  fromState := fromState
  toState := toState
  timestamp := sampleTime
  payload := payload
  positive := by omega
  moves := .inl moves

/-- Its first event. -/
def startedEvent : Event :=
  sampleEvent 0 .created .specValidated
    (.jobStarted sampleHash sampleJob.cohortProfiles sampleJob.budget)

/-- The small job up to its first attempt. -/
def sampleStart : List Event := [
  startedEvent,
  sampleEvent 1 .specValidated .specCompiled (.specCompiled sampleHash),
  sampleEvent 2 .specCompiled .generating (.attemptStarted 0 0 (Id.lit .attempt "attempt-1") none)]

end SpecStyle
