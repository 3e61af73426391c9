/-
SpecStyle/Workflow/JobStore.lean

The job store: loading a job, listing its events, appending an event and
saving a snapshot.

Every operation reads the job directory anew, decodes and validates what it
finds, and, where it writes, commits the new bytes over the state it has
read.  What the file layer raises is translated as by `_translate_storage`;
whatever it does not translate, a stopped process among it, goes through as
it is.

A directory that does not exist yet is one without files: the store reads
both as the same state.  The operations of one job run one after another, as
under its lock, on a store that is open.
-/
import SpecStyle.Workflow.CommitAtomicity
import SpecStyle.Workflow.JobStoreCodecRoundTrip
import SpecStyle.Workflow.StateMachine

namespace SpecStyle

open PyLib

variable (hash : Bytes → Sha256)

/-! ### Exceptions -/

/-- What an operation of the store raises. -/
inductive StoreExn where
  | raised (error : Raised)
  /-- An exception of the file layer that is not translated. -/
  | file (error : Exn)
  deriving DecidableEq

/-- `_corrupted` -/
def corrupted : Raised := .infrastructure "job store corrupted"

/-- `_io_failed` -/
def ioFailed : Raised := .infrastructure "job store io failed"

/-- `_translate_storage` -/
def translateStorage : Exn → StoreExn
  | .generationExhausted => .raised (.infrastructure "job store generation exhausted")
  | .corruptStore => .raised corrupted
  | .storeError => .raised ioFailed
  | .destinationExists => .raised ioFailed
  | .renameUncertain => .raised ioFailed
  | e => .file e

/-- A program of the store. -/
abbrev Store (α : Type) := Prog StoreExn World α

/-- An outcome of pure code. -/
def liftRaised {α : Type} : Except Raised α → Store α
  | .ok a => return a
  | .error e => throw (.raised e)

/-! ### Validation -/

/-- `_canonical_genesis` -/
def canonicalGenesis (job : Job) : JobSnapshot where
  job := { job with status := .created, updatedAt := job.createdAt, ordered := le_refl _ }
  lastSequence := 0
  attemptIds := []
  bundleNames := []
  nonneg := noEvents_nonneg
  attemptsNodup := List.nodup_nil
  bundlesNodup := List.nodup_nil

/-- `DomainError("invalid job event")` -/
def invalidEvent : Raised := .domain "invalid job event"

/-- `_validated_snapshot` -/
def validatedSnapshot (jobId : JobId) (snapshot : JobSnapshot) (events : List Event) :
    Except Raised JobState :=
  if snapshot.job.jobId ≠ jobId ∨
      ¬ (0 ≤ snapshot.lastSequence ∧ snapshot.lastSequence ≤ events.length) then
    .error invalidSnapshot
  else do
    let state ← replayEvents (canonicalGenesis snapshot.job)
      (events.take snapshot.lastSequence.toNat)
    let expected := state.snapshot
    if snapshot ≠ expected then throw invalidSnapshot
    else replayEvents expected (events.drop snapshot.lastSequence.toNat)

/-- `rebuild_event` -/
def rebuildEvent (value : Event) : Except Raised Event :=
  match eventFromPrimitive (eventToPrimitive value) with
  | .ok rebuilt => if value = rebuilt then .ok rebuilt else .error invalidEvent
  | .error _ => .error invalidEvent

/-- `rebuild_snapshot` -/
def rebuildSnapshot (value : JobSnapshot) : Except Raised JobSnapshot :=
  match snapshotFromPrimitive (snapshotToPrimitive value) with
  | .ok rebuilt => if value = rebuilt then .ok rebuilt else .error invalidSnapshot
  | .error _ => .error invalidSnapshot

/-- The checks of `_validate_event` for attempts and bundles. -/
def checkDuplicates (payload : Payload) (state : JobState) : Except Raised Unit :=
  match payload with
  | .attemptStarted _ _ attemptId _ =>
    if attemptId ∈ state.attemptIds then .error (.domain "duplicate job attempt") else .ok ()
  | .repairStep _ _ _ _ _ _ childAttemptId =>
    if childAttemptId ∈ state.attemptIds then .error (.domain "duplicate job attempt") else .ok ()
  | .exportPublished bundleName _ _ _ =>
    if bundleName ∈ state.bundleNames then .error (.domain "duplicate job export") else .ok ()
  | _ => .ok ()

/-- `_validate_event` -/
def validateEvent (jobId : JobId) (event : Event) (state : JobState) : Except Raised Event :=
  if state.job.terminal = true then .error (.domain "job is terminal")
  else do
    checkDuplicates event.payload state
    if event.jobId ≠ jobId ∨ event.fromState ≠ state.job.status then
      throw (.domain "invalid job transition")
    else
      validateTransition state.job.status event.toState event.eventType
      let finalized ← Event.new (state.lastSequence + 1) event.jobId event.eventType
        event.fromState event.toState event.timestamp.value event.payload
      match replayEvents state.snapshot [finalized] with
      | .ok _ => return finalized
      | .error _ => throw invalidEvent

/-! ### Reading -/

/-- `_DecodedState` -/
structure DecodedState where
  persisted : State
  snapshot : Option JobSnapshot
  events : List Event
  state : Option JobState

/-- `persisted.events or b""` -/
def State.eventBytes (s : State) : Bytes := s.events.getD []

/-- The body of the `try` of `_decode_persisted`. -/
def decodePresent (jobId : JobId) (persisted : State) : Except Raised DecodedState := do
  let snapshot ← decodeSnapshot (persisted.snapshot.getD [])
  let events ← decodeEvents jobId persisted.eventBytes
  let state ← validatedSnapshot jobId snapshot events
  return ⟨persisted, some snapshot, events, some state⟩

/-- `_decode_persisted` -/
def decodePersisted (jobId : JobId) (persisted : State) : Except Raised DecodedState :=
  if persisted.absent then .ok ⟨persisted, none, [], none⟩
  else
    match decodePresent jobId persisted with
    | .ok decoded => .ok decoded
    | .error _ => .error corrupted

/-- `open_directory` -/
def openDirectory : Fs Unit := do
  let _ ← look .corruptStore
  let _ ← look .osError
  let _ ← look .corruptStore
  return ()

/-- `open_or_create_directory`; making a directory binds none of its names. -/
def openOrCreateDirectory : Fs Unit := do
  openDirectory
  let _ ← look .storeError
  openDirectory

/-- `_open_job` -/
def openJob (create : Bool) : Fs Unit := do
  if create then
    openOrCreateDirectory
    openOrCreateDirectory
  else
    openDirectory
    openDirectory

/-- `_require_job_binding` -/
def requireJobBinding : Fs Unit := do
  let _ ← look .corruptStore
  let _ ← look .corruptStore
  return ()

/-- `_close_job`, of a job whose operation has gone well. -/
def closeJob : Fs Unit := do
  let _ ← look .storeError
  let _ ← look .storeError
  return ()

/-- `_read_job` -/
def readJob : Fs State := do
  openJob false
  let state ← read hash
  requireJobBinding
  closeJob
  return state

/-- `_decode_job` -/
def decodeJob (jobId : JobId) : Store DecodedState := do
  let persisted ← adapt translateStorage (readJob hash)
  liftRaised (decodePersisted jobId persisted)

/-- `_operation`: a descriptor is duplicated first and closed at the end. -/
def operation {α : Type} (body : Store α) : Store α := do
  let _ ← adapt translateStorage (look .storeError)
  let a ← body
  let _ ← adapt translateStorage (look .storeError)
  return a

/-- `load` -/
def load (jobId : JobId) : Store JobState :=
  operation do
    let decoded ← decodeJob hash jobId
    match decoded.state with
    | some state => return state
    | none => throw (.raised (.domain "job not found"))

/-- `get_snapshot` -/
def getSnapshot (jobId : JobId) : Store (Option JobSnapshot) :=
  operation do
    let decoded ← decodeJob hash jobId
    return decoded.snapshot

/-- `list_events` -/
def listEvents (jobId : JobId) : Store (List Event) :=
  operation do
    let decoded ← decodeJob hash jobId
    return decoded.events

/-! ### Writing -/

/-- `_snapshot_bytes_equivalent` -/
def snapshotBytesEquivalent (left right : Bytes) : Bool :=
  match decodeSnapshot left, decodeSnapshot right with
  | .ok left, .ok right => left = right
  | _, _ => false

/-- `_commit` -/
def commitJob (expected : State) (snapshot : Bytes) (events : Option Bytes) : Store Unit :=
  adapt translateStorage do
    openJob true
    let _ ← commit hash expected snapshot events snapshotBytesEquivalent
    requireJobBinding
    closeJob

/-- `_validate_snapshot_candidate` -/
def validateSnapshotCandidate (jobId : JobId) (snapshot : JobSnapshot) :
    Except Raised JobSnapshot :=
  match rebuildSnapshot snapshot with
  | .ok rebuilt => if rebuilt.job.jobId = jobId then .ok rebuilt else .error invalidSnapshot
  | .error _ => .error invalidSnapshot

/-- `_validate_snapshot_update` -/
def validateSnapshotUpdate (jobId : JobId) (snapshot : JobSnapshot) (decoded : DecodedState) :
    Except Raised Unit :=
  match validatedSnapshot jobId snapshot decoded.events with
  | .error _ => .error invalidSnapshot
  | .ok _ =>
    match decoded.snapshot with
    | none => if snapshot ≠ canonicalGenesis snapshot.job then .error invalidSnapshot else .ok ()
    | some old =>
      if canonicalGenesis old.job ≠ canonicalGenesis snapshot.job ∨
          snapshot.lastSequence < old.lastSequence ∨
          snapshot.lastSequence = old.lastSequence ∧ snapshot ≠ old then
        .error invalidSnapshot
      else .ok ()

/-- `save_snapshot` -/
def saveSnapshot (jobId : JobId) (snapshot : JobSnapshot) : Store Unit := do
  let snapshot ← liftRaised (validateSnapshotCandidate jobId snapshot)
  operation do
    let decoded ← decodeJob hash jobId
    liftRaised (validateSnapshotUpdate jobId snapshot decoded)
    liftRaised (requirePrintable snapshot)
    let data ← liftRaised (encodeSnapshot snapshot)
    commitJob hash decoded.persisted data decoded.persisted.events

/-- `append_event` -/
def appendEvent (jobId : JobId) (event : Event) : Store Event := do
  let event ← liftRaised (rebuildEvent event)
  operation do
    let decoded ← decodeJob hash jobId
    match decoded.state, decoded.snapshot with
    | some state, some _ =>
      let finalized ← liftRaised (validateEvent jobId event state)
      let line ← liftRaised (encodeEvent finalized)
      let events := decoded.persisted.eventBytes ++ line
      if events.length > maxEvents then throw (.raised ioFailed)
      else
        commitJob hash decoded.persisted (decoded.persisted.snapshot.getD []) (some events)
        return finalized
    | _, _ => throw (.raised (.domain "job not found"))

end SpecStyle
