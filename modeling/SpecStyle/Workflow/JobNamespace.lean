/-
SpecStyle/Workflow/JobNamespace.lean

The namespace of the job store: the directory `jobs` and the job directories
in it, with what the stores of one process on one root share (`Namespace`).

The calls are programs of atomic steps, one for each filesystem call that
looks at or changes the namespace, for each section under the condition of the
namespace, and for taking and releasing a job lock.  Reading and committing in
a job directory are pieces of work of many calls (`works`).  Without faults,
duplicating and closing descriptors and `fsync` neither fail nor show, and are
left out.

The names under `jobs` are job ids of directories of the store's own: any other
entry makes every listing fail, and no call makes one.  They stand in the order
in which they were made; a listing sorts them.  No directory is ever removed
or replaced, so a name keeps its inode.
-/
import SpecStyle.Lib.Tasks
import SpecStyle.Workflow.CommitSucceeds
import SpecStyle.Workflow.JobStoreCoherence

namespace SpecStyle

open PyLib

/-! ### The shared state -/

/-- What is under `jobs`. -/
structure Jobs where
  ids : List JobId
  nodup : ids.Nodup
  dirs : JobId → Dir

/-- `_NamespaceHolder`, with its locks, and the directory `jobs`. -/
structure Namespace where
  jobs : Option Jobs
  /-- `jobs_identity` is not `None`. -/
  bound : Bool
  mutations : Nat
  epoch : Nat
  /-- The job locks that are held. -/
  locked : List JobId

def Jobs.set (jobs : Jobs) (id : JobId) (d : Dir) : Jobs :=
  { jobs with dirs := fun other => if other = id then d else jobs.dirs other }

/-- `os.mkdir` of a job directory; `FileExistsError` passes. -/
def Jobs.make (jobs : Jobs) (id : JobId) : Jobs :=
  if h : id ∈ jobs.ids then jobs
  else
    { ids := jobs.ids ++ [id]
      nodup := List.nodup_append.mpr ⟨jobs.nodup, List.nodup_singleton id, by
        rintro a ha b hb rfl
        exact h (List.mem_singleton.mp hb ▸ ha)⟩
      dirs := fun other => if other = id then emptyDir else jobs.dirs other }

namespace Namespace

variable (s : Namespace) (id : JobId)

/-- The job directory, if there is one. -/
def dirAt : Option Dir := s.jobs.bind fun jobs => if id ∈ jobs.ids then some (jobs.dirs id) else none

def hasJobs : Bool := s.jobs.isSome

def hasJob : Bool := (s.dirAt id).isSome

def ids : List JobId := (s.jobs.map (·.ids)).getD []

def setDir (d : Dir) : Namespace := { s with jobs := s.jobs.map fun jobs => jobs.set id d }

/-- `os.mkdir` of `jobs`; `FileExistsError` passes. -/
def makeJobs : Namespace :=
  { s with jobs := some (s.jobs.getD ⟨[], List.nodup_nil, fun _ => emptyDir⟩) }

def makeJob : Namespace := { s with jobs := s.jobs.map fun jobs => jobs.make id }

def lock : Namespace := { s with locked := id :: s.locked }

def unlock : Namespace := { s with locked := s.locked.erase id }

/-- `namespace.mutations += 1` -/
def enter : Namespace := { s with mutations := s.mutations + 1 }

/-- `namespace.mutations -= 1; namespace.epoch += 1` -/
def leave : Namespace := { s with mutations := s.mutations - 1, epoch := s.epoch + 1 }

/-- What a new process on the root starts with. -/
def restart : Namespace := ⟨s.jobs, false, 0, 0, []⟩

end Namespace

/-! ### Programs -/

/-- Reading or committing, in a job directory. -/
abbrev JobWork : Type := JobId × Fs State

/-- The call succeeds, be it that a write takes fewer bytes. -/
def Fault.harmless : Fault → Bool
  | .none | .short (_ + 1) => true
  | _ => false

/-- Work in a job directory goes on call by call: on the way the directory is
one that a stop would leave. -/
def works : Works Namespace Dir JobWork (Except Exn State) where
  get job s := (s.dirAt job.1).getD emptyDir
  put job d s := s.setDir job.1 d
  during job d d' := ∃ calls, calls.all Fault.harmless = true ∧
    d' = leaves job.2 d (calls ++ [.stops])
  after job d := ((exec job.2 ⟨d, []⟩).1, (exec job.2 ⟨d, []⟩).2.dir)

/-- A program on the namespace. -/
abbrev Ns (α : Type) := Task Namespace JobWork (Except Exn State) StoreExn α

namespace Ns

variable (hash : Bytes → Sha256) {α : Type}

/-- `fs.CorruptStore` -/
def corruptStore : StoreExn := .file .corruptStore

def liftRaised (r : Except Raised α) : Ns α := Task.lift (r.mapError .raised)

/-- `_translate_storage` -/
def translated (m : Ns α) : Ns α := m.andThen fun
  | .error (.file e) => Task.raise (translateStorage e)
  | r => .done r

/-- Work in the directory of a job. -/
def inJob (id : JobId) (m : Fs State) : Ns State :=
  .work (id, m) fun r => .done (r.mapError .file)

/-! #### Directories -/

/-- `open_directory`; false is `FileNotFoundError`. -/
def openDirectory (present : Namespace → Bool) : Ns Bool := do
  -- `os.stat`, `os.open` and `named_identity`
  if ← Task.look present then
    if ← Task.look present then Task.look present else return false
  else return false

/-- `open_or_create_directory` -/
def openOrCreateDirectory (present : Namespace → Bool) (make : Namespace → Namespace) :
    Ns Unit := do
  if ← openDirectory present then return ()
  else
    Task.modify make
    let opened ← openDirectory present
    Task.require opened corruptStore

/-- `_bind_jobs_identity` -/
def bindJobsIdentity (found : Bool) : Ns Unit :=
  Task.call (fun _ => true) fun s =>
    if found then (.ok (), { s with bound := true })
    else if s.bound then (.error corruptStore, s)
    else (.ok (), s)

/-- `_open_job` without `create`; false is `None`. -/
def openJob (id : JobId) : Ns Bool := do
  if ← openDirectory Namespace.hasJobs then
    bindJobsIdentity true
    openDirectory fun s => s.hasJob id
  else
    bindJobsIdentity false
    return false

/-- `_open_job` with `create` -/
def openOrCreateJob (id : JobId) : Ns Unit := do
  openOrCreateDirectory Namespace.hasJobs Namespace.makeJobs
  bindJobsIdentity true
  openOrCreateDirectory (fun s => s.hasJob id) fun s => s.makeJob id

/-- `_require_job_binding` -/
def requireJobBinding (id : JobId) : Ns Unit := do
  let jobs ← Task.look Namespace.hasJobs
  Task.require jobs corruptStore
  let job ← Task.look fun s => s.hasJob id
  Task.require job corruptStore

/-! #### Locks -/

/-- `with self._job_lock(job_id)` -/
def withJobLock (id : JobId) (m : Ns α) : Ns α :=
  .act (fun s => id ∉ s.locked) (fun s => s.lock id) fun _ => m.andFinally fun s => s.unlock id

/-- `with self._namespace_mutation()` -/
def namespaceMutation (m : Ns α) : Ns α :=
  .act (fun _ => true) Namespace.enter fun _ => m.andFinally Namespace.leave

/-- `_stable_epoch`: waits until there is no mutation. -/
def stableEpoch : Ns Nat := .act (fun s => s.mutations == 0) id fun s => .done (.ok s.epoch)

/-! #### Reading and writing a job -/

/-- The state without a job directory. -/
def absentState : State := ⟨none, none, none, none, none, none, false⟩

/-- `_read_job` -/
def readJob (id : JobId) : Ns State := do
  if ← openJob id then
    let state ← inJob id (read hash)
    requireJobBinding id
    return state
  else return absentState

/-- `_decode_job` -/
def decodeJob (id : JobId) : Ns DecodedState := do
  let persisted ← translated (readJob hash id)
  liftRaised (decodePersisted id persisted)

/-- `_commit` -/
def commitJob (id : JobId) (expected : State) (snapshot : Bytes) (events : Option Bytes) :
    Ns Unit :=
  namespaceMutation <| translated do
    openOrCreateJob id
    let _ ← inJob id (commit hash expected snapshot events snapshotBytesEquivalent)
    requireJobBinding id

/-- `load` -/
def load (id : JobId) : Ns JobState :=
  withJobLock id do
    let decoded ← decodeJob hash id
    match decoded.state with
    | some state => return state
    | none => Task.raise (.raised (.domain "job not found"))

/-- `save_snapshot` -/
def saveSnapshot (id : JobId) (snapshot : JobSnapshot) : Ns Unit := do
  let snapshot ← liftRaised (validateSnapshotCandidate id snapshot)
  withJobLock id do
    let decoded ← decodeJob hash id
    liftRaised (validateSnapshotUpdate id snapshot decoded)
    liftRaised (requirePrintable snapshot)
    let data ← liftRaised (encodeSnapshot snapshot)
    commitJob hash id decoded.persisted data decoded.persisted.events

/-- `append_event` -/
def appendEvent (id : JobId) (event : Event) : Ns Event := do
  let event ← liftRaised (rebuildEvent event)
  withJobLock id do
    let decoded ← decodeJob hash id
    match decoded.state, decoded.snapshot with
    | some state, some _ =>
      let finalized ← liftRaised (validateEvent id event state)
      let line ← liftRaised (encodeEvent finalized)
      let events := decoded.persisted.eventBytes ++ line
      if events.length > maxEvents then Task.raise (.raised ioFailed)
      else
        commitJob hash id decoded.persisted (decoded.persisted.snapshot.getD []) (some events)
        return finalized
    | _, _ => Task.raise (.raised (.domain "job not found"))

/-! #### Listing -/

/-- `_validated_state_from_fd` -/
def validatedStateFromFd (id : JobId) : Ns (Option JobState) := translated do
  let first ← inJob id (read hash)
  let decoded ← liftRaised (decodePersisted id first)
  let second ← inJob id (read hash)
  Task.require (first = second) corruptStore
  Task.require (decoded.state.isSome || first.slotOnly) (.raised corrupted)
  return decoded.state

/-- `_validated_listed_job`: whether there is a job; `none` is
`FileNotFoundError`. -/
def validatedListedJob (id : JobId) : Ns (Option Bool) := do
  if ← openDirectory fun s => s.hasJob id then
    let state ← withJobLock id (validatedStateFromFd hash id)
    return some state.isSome
  else return none

/-- `except InfrastructureError`: a corrupted job is a corrupt store. -/
def recoded (m : Ns α) : Ns α := m.andThen fun
  | .error e => Task.raise (if e = .raised corrupted then corruptStore else e)
  | r => .done r

/-- `_validate_list_entries` -/
def validateListEntries : List JobId → Ns (Option (List JobId))
  | [] => return some []
  | id :: ids => do
    let checked ← recoded (validatedListedJob hash id)
    match checked with
    | none => return none
    | some found =>
      -- `named_identity`
      if ← Task.look fun s => s.hasJob id then
        let rest ← validateListEntries ids
        return rest.map fun rest => if found then id :: rest else rest
      else return none

/-- `sorted(listed, key=lambda item: item.value)` -/
def sortIds (ids : List JobId) : List JobId := ids.insertionSort fun a b => a.value ≤ b.value

/-- `set(a) == set(b)` -/
def sameNames (a b : List JobId) : Bool := a.all (· ∈ b) && b.all (· ∈ a)

/-- `_list_once` -/
def listOnce : Ns (Option (List JobId)) := do
  if ← openDirectory Namespace.hasJobs then
    bindJobsIdentity true
    let before ← Task.look Namespace.ids
    let listed ← validateListEntries hash before
    match listed with
    | none => return none
    | some listed =>
      let after ← Task.look Namespace.ids
      if sameNames after before then
        let jobs ← Task.look Namespace.hasJobs
        Task.require jobs corruptStore
        return some (sortIds listed)
      else return none
  else
    bindJobsIdentity false
    let jobs ← Task.look Namespace.hasJobs
    Task.require (!jobs) corruptStore
    return some []

/-- One turn of the loop of `list_job_ids`; `none` is `continue`. -/
def listTurn : Ns (Option (List JobId)) := translated do
  let epoch ← stableEpoch
  (listOnce hash).andThen fun
    | .error e =>
      if e = corruptStore then do
        let again ← stableEpoch
        if again ≠ epoch then return none else Task.raise e
      else Task.raise e
    | .ok result => do
      let again ← stableEpoch
      if again ≠ epoch then return none
      else
        match result with
        | none => Task.raise corruptStore
        | some ids => return some ids

end Ns

end SpecStyle
