/-
SpecStyle/Workflow/BatchJournal.lean

The journal of a production batch: one directory for each batch, one file for
each phase it has reached.

A recorder is a program of system calls; any number of them, in any processes
and after any crashes, act on one store.  Each call takes an outcome: it
succeeds, it fails before its effect or after it, or it takes part of the
bytes.  Temporary files are private to their recorder, since their names are
random and never read by another, so their bytes are a local of the program.

Nothing but recorders writes under the root, so a directory or a file of the
journal is one of this user, with the mode it was created with.
-/
import SpecStyle.Lib.Interleaving
import SpecStyle.Lib.JsonRoundTrip
import SpecStyle.Workflow.ProductionBatch

namespace SpecStyle

open PyLib

/-! ### Documents -/

/-- `ProductionBatchPhase.value` -/
def ProductionBatchPhase.value : ProductionBatchPhase → Text
  | .candidatesReady => py "CANDIDATES_READY"
  | .cohortFrozen => py "COHORT_FROZEN"
  | .batchVerified => py "BATCH_VERIFIED"
  | .routed => py "ROUTED"
  | .exportStaged => py "EXPORT_STAGED"
  | .completed => py "COMPLETED"

/-- `_PHASES` -/
def phases : List ProductionBatchPhase :=
  [.candidatesReady, .cohortFrozen, .batchVerified, .routed, .exportStaged, .completed]

/-- `_PHASES.index(phase)` -/
def ProductionBatchPhase.index (phase : ProductionBatchPhase) : Nat := phases.idxOf phase

/-- `_PHASES[:index]` -/
def ProductionBatchPhase.earlier (phase : ProductionBatchPhase) : List ProductionBatchPhase :=
  phases.take phase.index

/-- What `_document` writes. -/
def checkpointRecord (batchId : Identifier) (phase : ProductionBatchPhase) (binding : Sha256) :
    List (Text × Json) :=
  [(py "batch_id", .str batchId.value), (py "binding_sha256", .str binding.value),
    (py "phase", .str phase.value),
    (py "schema_version", .str (py "specstyle.production.batch_journal.v1")),
    (py "sequence", .int phase.index)]

/-- `_document`; the text is ASCII. -/
def document (batchId : Identifier) (phase : ProductionBatchPhase) (binding : Sha256) : Bytes :=
  (Json.dumps true (.obj (checkpointRecord batchId phase binding))).flatMap utf8Char

variable {batchId : Identifier} {phase : ProductionBatchPhase} {binding binding' : Sha256}

theorem checkpointRecord_ne_nil : checkpointRecord batchId phase binding ≠ [] :=
  List.cons_ne_nil _ _

theorem checkpointRecord_keys : ((checkpointRecord batchId phase binding).map Prod.fst).Nodup := by
  show ([py "batch_id", py "binding_sha256", py "phase", py "schema_version", py "sequence"] :
    List Text).Nodup
  decide

theorem exact_checkpointRecord :
    Json.Exact true (.obj (checkpointRecord batchId phase binding)) := by
  refine ⟨checkpointRecord_keys, ?_⟩
  · have hphase : hasSurrogate phase.value = false := by cases phase <;> decide
    exact ⟨fun _ => by decide, fun _ => hasSurrogate_id batchId, fun _ => by decide,
      fun _ => hasSurrogate_sha binding, fun _ => by decide, fun _ => hphase, fun _ => by decide,
      fun _ => by decide, fun _ => by decide, trivial, trivial⟩

/-- A document names its binding. -/
theorem document_inj (h : document batchId phase binding = document batchId phase binding') :
    binding = binding' := by
  have hread : ∀ binding, Json.loadsBytes (document batchId phase binding) =
      some (.obj (Json.orderFields (Json.sortFields (checkpointRecord batchId phase binding)))) :=
    fun _ => Json.loadsBytes_dumps checkpointRecord_ne_nil exact_checkpointRecord
  have hfields := (hread binding).symm.trans ((congrArg _ h).trans (hread binding'))
  have hlookup : ∀ binding,
      Json.field (Json.orderFields (Json.sortFields (checkpointRecord batchId phase binding)))
        (py "binding_sha256") = some (.str binding.value) := by
    intro binding
    rw [Json.field_sortKeys checkpointRecord_keys]
    rfl
  have hvalue := hlookup binding
  rw [Json.obj.inj (Option.some.inj hfields), hlookup binding'] at hvalue
  exact Sha256.ext_value (Json.str.inj (Option.some.inj hvalue)).symm

/-- A document can be read back: it fits the bound of `_read`. -/
theorem document_length : 1 ≤ (document batchId phase binding).length ∧
    (document batchId phase binding).length ≤ 4096 := by
  have hid := Json.length_printStr true batchId.value
  have hbinding := Json.length_printStr true binding.value
  have hidlen : batchId.value.length ≤ 128 := batchId.length_le
  have hshalen : binding.value.length = 64 := binding.length_eq
  have hphase : (Json.printStr true phase.value).length ≤ 18 := by cases phase <;> decide
  have hindex : (Json.intText phase.index).length = 1 := by cases phase <;> decide
  have hkeys : (Json.printStr true (py "batch_id")).length = 10 ∧
      (Json.printStr true (py "binding_sha256")).length = 16 ∧
      (Json.printStr true (py "phase")).length = 7 ∧
      (Json.printStr true (py "schema_version")).length = 16 ∧
      (Json.printStr true (py "sequence")).length = 10 ∧
      (Json.printStr true (py "specstyle.production.batch_journal.v1")).length = 39 := by decide
  obtain ⟨h1, h2, h3, h4, h5, h6⟩ := hkeys
  unfold document
  rw [Json.length_utf8_dumps exact_checkpointRecord, Json.length_dumps_obj _ checkpointRecord_ne_nil]
  simp only [checkpointRecord, List.map_cons, List.map_nil, List.sum_cons, List.sum_nil,
    Json.fieldLength, Json.sortKeys, Json.print]
  omega

/-! ### The store -/

/-- A phase file: whether it is a regular file of this user with mode 0600,
and its bytes. -/
structure PhaseFile where
  trusted : Bool
  content : Bytes

/-- A directory of one batch: whether it is one of this user with mode 0700. -/
structure BatchDirectory where
  trusted : Bool
  files : ProductionBatchPhase → Option PhaseFile

/-- The directory `batches`. -/
structure BatchesDirectory where
  trusted : Bool
  batch : Identifier → Option BatchDirectory

/-- What the root of the journal holds. -/
structure JournalStore where
  batches : Option BatchesDirectory

/-- The two directories that a recorder opens. -/
inductive DirectoryName where
  | batches
  | batch (batchId : Identifier)

/-- The name under the parent. -/
def DirectoryName.text : DirectoryName → Text
  | .batches => py "batches"
  | .batch batchId => batchId.value

/-- `_NAME.fullmatch(name)`: `[A-Za-z0-9][A-Za-z0-9_.-]{0,127}` -/
def isJournalName : Text → Bool
  | [] => false
  | c :: s => (isLetter c || isDigit c) && s.all (fun c => isIdTail c || c = 0x2E) && s.length ≤ 127

namespace JournalStore

/-- The root before the first recorder. -/
def empty : JournalStore := ⟨none⟩

def directory (s : JournalStore) (batchId : Identifier) : Option BatchDirectory :=
  s.batches.bind fun d => d.batch batchId

def file (s : JournalStore) (batchId : Identifier) (phase : ProductionBatchPhase) :
    Option PhaseFile :=
  (s.directory batchId).bind fun d => d.files phase

/-- The directory of a name, if it is there: whether it is a trusted one. -/
def trusted (s : JournalStore) : DirectoryName → Option Bool
  | .batches => s.batches.map (·.trusted)
  | .batch batchId => (s.directory batchId).map (·.trusted)

/-- Puts a batch directory under its name. -/
def setDirectory (s : JournalStore) (batchId : Identifier) (d : BatchDirectory) : JournalStore :=
  ⟨s.batches.map fun b =>
    { b with batch := fun i => if i = batchId then some d else b.batch i }⟩

end JournalStore

/-! ### System calls -/

/-- What leaves a recorder. -/
inductive JournalExn where
  /-- `DomainError("invalid production batch journal")` -/
  | invalid
  /-- `DomainError("production batch journal drift")` -/
  | drift
  /-- `InfrastructureError("production batch journal unavailable")` -/
  | unavailable
  /-- `FileExistsError` -/
  | fileExists
  /-- Any other `OSError`. -/
  | osError
  deriving DecidableEq

/-- `isinstance(error, OSError)` -/
def JournalExn.isOSError : JournalExn → Bool
  | .fileExists => true
  | .osError => true
  | _ => false

/-- The outcome of one system call. -/
inductive CallOutcome where
  | succeeds
  /-- It fails before its effect. -/
  | fails
  /-- It fails after its effect. -/
  | failsAfter
  /-- A read returns no more than `n` bytes. -/
  | shortRead (n : Nat)
  /-- A write takes no more than `n` bytes. -/
  | shortWrite (n : Nat)

/-- The call does not fail: it succeeds, or it is a write that takes a byte at
least. -/
def CallOutcome.Clean : CallOutcome → Prop
  | .succeeds => True
  | .shortWrite n => 0 < n
  | _ => False

/-- A program over the store. -/
abbrev Recorder (α : Type) := Code JournalStore CallOutcome JournalExn α

namespace Journal

/-- A call that changes nothing. -/
def look {α : Type} (view : CallOutcome → JournalStore → Except JournalExn α) : Recorder α :=
  Code.call fun outcome s =>
    match outcome with
    | .fails => (.error .osError, s)
    | .failsAfter => (.error .osError, s)
    | _ => (view outcome s, s)

/-- The result of a call that has changed the store, if it could. -/
def settle (result : Except JournalExn Unit) (s : JournalStore) :
    Except JournalExn JournalStore → Except JournalExn Unit × JournalStore
  | .error raised => (.error raised, s)
  | .ok s' => (result, s')

/-- A call that changes the store, where it is possible. -/
def mutate (change : JournalStore → Except JournalExn JournalStore) : Recorder Unit :=
  Code.call fun outcome s =>
    match outcome with
    | .fails => (.error .osError, s)
    | .failsAfter => settle (.error .osError) s (change s)
    | _ => settle (.ok ()) s (change s)

/-- A call without an effect that matters here. -/
def bare : Recorder Unit := look fun _ _ => .ok ()

/-- `except OSError: raise` of another exception. -/
def translate {α : Type} (m : Recorder α) (raised : JournalExn) : Recorder α :=
  tryCatch m fun e => throw (if e.isOSError then raised else e)

/-- `_sync` -/
def sync : Recorder Unit := translate bare .unavailable

/-! ### Directories -/

/-- `os.mkdir(name, 0o700)` -/
def mkdir : DirectoryName → JournalStore → Except JournalExn JournalStore
  | .batches, s =>
    match s.batches with
    | some _ => .error .fileExists
    | none => .ok ⟨some ⟨true, fun _ => none⟩⟩
  | .batch batchId, s =>
    match s.batches, s.directory batchId with
    | none, _ => .error .osError
    | some _, some _ => .error .fileExists
    | some _, none => .ok (s.setDirectory batchId ⟨true, fun _ => none⟩)

/-- `os.open(name, _DIR_FLAGS)`: whether there is a directory to open. -/
def openNamed (name : DirectoryName) : Recorder Bool :=
  look fun _ s => .ok (s.trusted name).isSome

/-- `_secure_directory`; the caller closes the descriptor where it raises. -/
def secureDirectory (name : DirectoryName) : Recorder Unit := do
  let observed ← translate (look fun _ s => .ok (s.trusted name)) .unavailable
  Code.require (observed = some true) .invalid

/-- `_open_directory`, after `os.open`: the branch of `FileNotFoundError`. -/
def createMissing (name : DirectoryName) : Bool → Recorder Unit
  | true => return ()
  | false =>
    translate
      (do
        mutate (mkdir name)
        sync
        let created ← openNamed name
        Code.require created .osError)
      .invalid

/-- `_open_directory(..., create=True)` -/
def openDirectory (name : DirectoryName) : Recorder Unit := do
  Code.require (isJournalName name.text) .invalid
  let found ← translate (openNamed name) .invalid
  createMissing name found
  tryCatch (secureDirectory name) fun raised => do
    -- `os.close(fd)`
    bare
    throw raised

/-! ### Files -/

/-- `os.read(file_fd, size + 1)` -/
def osRead (batchId : Identifier) (phase : ProductionBatchPhase) (size : Nat) : Recorder Bytes :=
  look fun outcome s =>
    let content := ((s.file batchId phase).elim [] (·.content)).take (size + 1)
    match outcome with
    | .shortRead n => .ok (content.take n)
    | _ => .ok content

/-- `_read`, with the descriptor open. -/
def readOpen (batchId : Identifier) (phase : ProductionBatchPhase) :
    Recorder (Option Bytes) := do
  let file ← look fun _ s =>
    match s.file batchId phase with
    | some file => .ok file
    | none => .error .osError
  let size := file.content.length
  Code.require (file.trusted && 1 ≤ size && size ≤ 4096) .invalid
  let content ← osRead batchId phase size
  Code.require (content.length = size) .invalid
  return some content

/-- `_read` -/
def read (batchId : Identifier) (phase : ProductionBatchPhase) : Recorder (Option Bytes) := do
  let found ← translate (look fun _ s => .ok (s.file batchId phase).isSome) .invalid
  if found then Code.andFinally (translate (readOpen batchId phase) .invalid) bare
  else return none

/-- `os.write`: the number of bytes taken. -/
def osWrite (chunk : Bytes) : Recorder Nat :=
  look fun outcome _ =>
    match outcome with
    | .shortWrite n => .ok (min n chunk.length)
    | _ => .ok chunk.length

/-- `_write_all`: what the temporary file holds in the end.  Every turn takes
a byte at least, so the length of the content bounds the turns. -/
def writeAll : Nat → Bytes → Bytes → Recorder Bytes
  | 0, temporary, _ => return temporary
  | turns + 1, temporary, content =>
    if content = [] then return temporary
    else do
      let written ← translate (osWrite content) .unavailable
      Code.require (0 < written) .unavailable
      writeAll turns (temporary ++ content.take written) (content.drop written)

/-- `os.link(temporary, name)` -/
def link (batchId : Identifier) (phase : ProductionBatchPhase) (temporary : Bytes)
    (s : JournalStore) : Except JournalExn JournalStore :=
  match s.directory batchId with
  | none => .error .osError
  | some d =>
    match d.files phase with
    | some _ => .error .fileExists
    | none => .ok <| s.setDirectory batchId
        { d with files := fun p => if p = phase then some ⟨true, temporary⟩ else d.files p }

/-- `_publish`, with the descriptor of the temporary file open: what it holds
when it is closed.  Whatever is raised, the descriptor is closed after the
handler has chosen what to raise. -/
def writeTemporary (content : Bytes) : Recorder Bytes := do
  -- `os.open(temporary, _WRITE_FLAGS, 0o600)`, of a random name
  translate bare .unavailable
  tryCatch
    (do
      let temporary ← writeAll content.length [] content
      sync
      bare
      return temporary)
    fun raised => do
      bare
      throw (if raised.isOSError then .unavailable else raised)

/-- `_publish` -/
def publish (batchId : Identifier) (phase : ProductionBatchPhase) (content : Bytes) :
    Recorder Unit := do
  let temporary ← writeTemporary content
  tryCatch
    (do
      mutate (link batchId phase temporary)
      sync
      -- `os.unlink(temporary)`
      bare
      sync)
    fun raised =>
      if raised = .fileExists then
        -- `except OSError: pass`
        tryCatch bare fun _ => return ()
      else throw (if raised.isOSError then .unavailable else raised)

/-! ### Recording -/

/-- `any(_read(...) is None for item in ...)`, which stops at the first. -/
def anyMissing (batchId : Identifier) : List ProductionBatchPhase → Recorder Bool
  | [] => return false
  | phase :: rest => do
    let content ← read batchId phase
    if content.isNone then return true else anyMissing batchId rest

/-- `ProductionBatchJournal._record_open` -/
def recordOpen (batchId : Identifier) (phase : ProductionBatchPhase) (expected : Bytes) :
    Recorder Unit := do
  let missing ← anyMissing batchId phase.earlier
  Code.require (!missing) .invalid
  let existing ← read batchId phase
  match existing with
  | some content => Code.require (content = expected) .drift
  | none => do
    publish batchId phase expected
    let stored ← read batchId phase
    Code.require (stored = some expected) .drift

/-- `ProductionBatchJournal.record` -/
def record (batchId : Identifier) (phase : ProductionBatchPhase) (binding : Sha256) :
    Recorder Unit := do
  Code.require (isJournalName batchId.value) .invalid
  let expected := document batchId phase binding
  openDirectory .batches
  Code.andFinally
    (do
      openDirectory (.batch batchId)
      Code.andFinally (recordOpen batchId phase expected) bare)
    bare

end Journal

end SpecStyle
