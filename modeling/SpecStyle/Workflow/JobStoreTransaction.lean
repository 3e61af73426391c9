/-
SpecStyle/Workflow/JobStoreTransaction.lean

The fixed-slot marker transaction of the job store.

A job directory holds a snapshot, an event log, and a marker that names a
generation and the hashes of both.  A commit writes a pending marker, the
changed files and a clean marker, each into a swap slot first and then by an
atomic rename; `read` accepts a directory without a marker (a legacy one) or
one whose clean marker names what it finds.

The programs follow the source call by call, with its error paths: what a
`try` catches is matched by exception, and a stopped process is caught by
nothing.  The hash is a parameter.
-/
import SpecStyle.Domain.Values
import SpecStyle.Lib.Json
import SpecStyle.Workflow.JobStoreFs

namespace SpecStyle

open PyLib

/-! ### Limits -/

/-- `MAX_MARKER` -/
def maxMarker : Nat := 1024

/-- `MAX_SNAPSHOT` -/
def maxSnapshot : Nat := 1024 * 1024

/-- `MAX_EVENTS` -/
def maxEvents : Nat := 64 * 1024 * 1024

/-- `MAX_GENERATION` -/
def maxGeneration : Int := 2 ^ 63 - 1

/-- `_LIMITS` -/
def limits : Slot → Nat × Nat
  | .marker => (1, maxMarker)
  | .markerSwap => (0, maxMarker)
  | .snapshot => (1, maxSnapshot)
  | .snapshotSwap => (0, maxSnapshot)
  | .events => (0, maxEvents)
  | .eventsSwap => (0, maxEvents)

/-! ### Markers -/

/-- The phases of a marker. -/
inductive Phase where
  | clean | pending
  deriving DecidableEq

def Phase.all : List Phase := [.clean, .pending]

def Phase.value : Phase → Text
  | .clean => py "CLEAN"
  | .pending => py "PENDING"

/-- `Marker` -/
structure Marker where
  phase : Phase
  generation : Int
  snapshotSha256 : Text
  eventsSha256 : Option Text
  deriving DecidableEq

/-- `State` -/
structure State where
  snapshot : Option Bytes
  events : Option Bytes
  snapshotIdentity : Option Identity
  eventsIdentity : Option Identity
  markerIdentity : Option Identity
  generation : Option Int
  slotOnly : Bool
  deriving DecidableEq

/-- `state.absent` -/
def State.absent (s : State) : Bool := s.snapshot.isNone

/-- `state.legacy` -/
def State.legacy (s : State) : Bool := s.snapshot.isSome && s.markerIdentity.isNone

variable (hash : Bytes → Sha256)

/-- `_canonical`.  With `ensure_ascii` the encoder meets ASCII only. -/
def canonicalMarker (value : Json) : Bytes := (Json.dumps true value).flatMap utf8Char

/-- `json`'s `null` for `None`. -/
def hashValue (data : Option Bytes) : Json :=
  match data with
  | some data => .str (hash data).value
  | none => .null

/-- `marker_bytes` -/
def markerBytes (phase : Phase) (generation : Int) (snapshot : Bytes) (events : Option Bytes) :
    Bytes :=
  canonicalMarker <| .obj [
    (py "version", .int 1),
    (py "phase", .str phase.value),
    (py "generation", .int generation),
    (py "snapshot_sha256", .str (hash snapshot).value),
    (py "events_sha256", hashValue hash events)]

/-- `_KEYS` -/
def markerKeys : List Text := [
  py "version", py "phase", py "generation", py "snapshot_sha256", py "events_sha256"]

/-- `_valid_hash` -/
def validHash (value : Text) : Bool := value.length == 64 && value.all isLowerHex

/-- `_validate_marker_fields` -/
def validateMarkerFields (fs : List (Text × Json)) : Option Marker :=
  match Json.field fs (py "version"), Json.field fs (py "phase"), Json.field fs (py "generation"),
    Json.field fs (py "snapshot_sha256"), Json.field fs (py "events_sha256") with
  | some (.int version), some (.str phase), some (.int generation), some (.str snapshotHash),
    some eventsHash =>
    match memberOf Phase.all Phase.value phase with
    | none => none
    | some phase =>
      if version = 1 ∧ 0 ≤ generation ∧ generation ≤ maxGeneration ∧ validHash snapshotHash then
        match eventsHash with
        | .null => some ⟨phase, generation, snapshotHash, none⟩
        | .str eventsHash =>
          if validHash eventsHash then some ⟨phase, generation, snapshotHash, some eventsHash⟩
          else none
        | _ => none
      else none
  | _, _, _, _, _ => none

/-- `_parse_marker`; `none` is `CorruptStore`. -/
def parseMarker (data : Bytes) : Option Marker :=
  match Json.loadsBytes data with
  | some (.obj fs) =>
    if ((∀ k ∈ fs.map Prod.fst, k ∈ markerKeys) ∧ ∀ k ∈ markerKeys, k ∈ fs.map Prod.fst) ∧
        canonicalMarker (.obj fs) = data then
      validateMarkerFields fs
    else none
  | _ => none

/-! ### Reading -/

/-- The loop of `_validate_namespace`. -/
def inspectAll : List Slot → Fs Unit
  | [] => return ()
  | name :: names => do
    let _ ← inspectFile name (limits name).1 (limits name).2 false
    inspectAll names

/-- `_validate_namespace` -/
def validateNamespace : Fs Names := do
  let names ← directoryNames
  require (!names.foreign) .corruptStore
  inspectAll names.known
  return names

/-- `_legacy_state` -/
def legacyState (snapshot events : Option FileRecord) (slotOnly : Bool) : Except Exn State :=
  match snapshot with
  | none =>
    match events with
    | some _ => .error .corruptStore
    | none => .ok ⟨none, none, none, none, none, none, slotOnly⟩
  | some snapshot =>
    .ok ⟨some snapshot.data, events.map (·.data), some snapshot.identity,
      events.map (·.identity), none, none, false⟩

/-- `_verify_hashes` -/
def verifyHashes (marker : Marker) (snapshot : Bytes) (events : Option Bytes) : Bool :=
  marker.snapshotSha256 == (hash snapshot).value &&
    marker.eventsSha256 == events.map fun events => (hash events).value

/-- `_require_identity` -/
def requireIdentity (name : Slot) (expected : Option Identity) : Fs Unit := do
  let current ← inspectFile name (limits name).1 (limits name).2 true
  require (current = expected) .corruptStore

/-- `_complete_read` -/
def completeRead (names : Names) (state : State) : Fs State := do
  let again ← directoryNames
  require (again = names) .corruptStore
  requireIdentity .snapshot state.snapshotIdentity
  requireIdentity .events state.eventsIdentity
  requireIdentity .marker state.markerIdentity
  return state

/-- An outcome of pure code. -/
def liftExcept {α : Type} : Except Exn α → Fs α
  | .ok a => return a
  | .error e => throw e

/-- The part of `read` between the files and `_complete_read`. -/
def stateOfRecords (slotOnly : Bool) (snapshot events marker : Option FileRecord) :
    Except Exn State :=
  match marker with
  | none => legacyState snapshot events slotOnly
  | some markerRecord =>
    match snapshot with
    | none => .error .corruptStore
    | some snapshot =>
      match parseMarker markerRecord.data with
      | none => .error .corruptStore
      | some marker =>
        if marker.phase = .clean ∧
            verifyHashes hash marker snapshot.data (events.map (·.data)) = true then
          .ok ⟨some snapshot.data, events.map (·.data), some snapshot.identity,
            events.map (·.identity), some markerRecord.identity, some marker.generation, false⟩
        else .error .corruptStore

/-- `read` -/
def read : Fs State := do
  let names ← validateNamespace
  let snapshot ← readFile .snapshot 1 maxSnapshot true
  let events ← readFile .events 0 maxEvents true
  let marker ← readFile .marker 1 maxMarker true
  let state ← liftExcept (stateOfRecords hash (names ≠ ⟨[], false⟩) snapshot events marker)
  completeRead names state

/-- `_same_identity` -/
def sameIdentity (left right : Option Identity) : Bool :=
  match left, right with
  | some left, some right => left.sameInode right
  | none, none => true
  | _, _ => false

/-- `_same_state` -/
def sameState (left right : State) : Bool :=
  left.snapshot == right.snapshot && left.events == right.events &&
    left.generation == right.generation &&
    sameIdentity left.snapshotIdentity right.snapshotIdentity &&
    sameIdentity left.eventsIdentity right.eventsIdentity &&
    sameIdentity left.markerIdentity right.markerIdentity

/-! ### Publishing a first state -/

/-- `_require_published` -/
def requirePublished (name : Slot) (expected : Identity) (maximum : Nat) : Fs Unit := do
  match ← inspectFile name 0 maximum false with
  | some current => require (current.sameInode expected) .corruptStore
  | none => throw .corruptStore

/-- `_equivalent` -/
def equivalentStates (left right : State) : Bool :=
  left.snapshot == right.snapshot && left.events == right.events

/-- The re-read of `_bootstrap` after a rename that did not succeed. -/
def rereadBootstrap (legacy : State) (otherwise : Exn) : Fs State := do
  let concurrent ← read hash
  require (concurrent.generation == some 0 && equivalentStates concurrent legacy) otherwise
  return concurrent

/-- `_bootstrap` -/
def bootstrap (legacy : State) : Fs State := do
  require legacy.legacy .assertionError
  let data := markerBytes hash .clean 0 (legacy.snapshot.getD []) legacy.events
  let candidate ← writeSlot .markerSwap data maxMarker
  -- whether a further read is the result, or the rename went through
  let early ← tryCatch
    (do
      renameNoreplace .markerSwap .marker
      return none)
    (fun
      | .destinationExists => some <$> rereadBootstrap hash legacy .corruptStore
      | .renameUncertain => do
        let concurrent ← rereadBootstrap hash legacy .renameUncertain
        fsyncDirectory
        return some concurrent
      | e => throw e)
  match early with
  | some state => return state
  | none =>
    requirePublished .marker candidate maxMarker
    fsyncDirectory
    read hash

/-- `_equivalent_snapshot` -/
def equivalentSnapshot (stored : Option Bytes) (candidate : Bytes)
    (equivalent : Bytes → Bytes → Bool) : Bool :=
  match stored with
  | none => false
  | some stored => stored == candidate || equivalent stored candidate

/-- `current if not current.legacy else _bootstrap(current)` -/
def bootstrapIfLegacy (state : State) : Fs State :=
  if state.legacy then bootstrap hash state else return state

/-- `_accept_existing_genesis` -/
def acceptExistingGenesis (snapshot : Bytes) (equivalent : Bytes → Bytes → Bool)
    (uncertain : Bool) : Fs State := do
  let concurrent ← read hash
  require (equivalentSnapshot concurrent.snapshot snapshot equivalent && concurrent.events.isNone)
    (if uncertain then .renameUncertain else .corruptStore)
  if uncertain then
    fsyncDirectory
    bootstrapIfLegacy hash concurrent
  else bootstrapIfLegacy hash concurrent

/-- `genesis` -/
def genesis (snapshot : Bytes) (equivalent : Bytes → Bytes → Bool) : Fs State := do
  require (0 < snapshot.length && snapshot.length ≤ maxSnapshot) .storeError
  let current ← read hash
  if current.absent = false then
    require (equivalentSnapshot current.snapshot snapshot equivalent && current.events.isNone)
      .corruptStore
    bootstrapIfLegacy hash current
  else
    let candidate ← writeSlot .snapshotSwap snapshot maxSnapshot
    let early ← tryCatch
      (do
        renameNoreplace .snapshotSwap .snapshot
        return none)
      (fun
        | .destinationExists => some <$> acceptExistingGenesis hash snapshot equivalent false
        | .renameUncertain => some <$> acceptExistingGenesis hash snapshot equivalent true
        | e => throw e)
    match early with
    | some state => return state
    | none =>
      requirePublished .snapshot candidate maxSnapshot
      fsyncDirectory
      let legacy ← read hash
      bootstrap hash legacy

/-! ### Committing over a clean state -/

/-- `_rollback_if_stable` -/
def rollbackIfStable (slot final : Slot) (published retired : Identity) : Fs Unit := do
  let latestFinal ← inspectFile final 0 (limits final).2 false
  let latestSlot ← inspectFile slot 0 (limits slot).2 false
  match latestFinal, latestSlot with
  | some latestFinal, some latestSlot =>
    if latestFinal.sameInode published && latestSlot.sameInode retired then
      renameExchange slot final
    else return ()
  | _, _ => return ()

/-- `_exchange_expected` -/
def exchangeExpected (slot final : Slot) (candidate : Identity) (expected : Option Identity) :
    Fs Unit := do
  match expected with
  | none => throw .corruptStore
  | some expected =>
    let current ← inspectFile final 0 (limits final).2 false
    require (sameIdentity current (some expected)) .corruptStore
    renameExchange slot final
    let published ← inspectFile final 0 (limits final).2 false
    let retired ← inspectFile slot 0 (limits slot).2 false
    match published, retired with
    | some published, some retired =>
      if published.sameInode candidate && retired.sameInode expected then return ()
      else
        rollbackIfStable slot final published retired
        throw .corruptStore
    | _, _ => throw .corruptStore

/-- `_publish_file` -/
def publishFile (slot final : Slot) (data : Bytes) (maximum : Nat) (expected : Option Identity) :
    Fs Unit := do
  let candidate ← writeSlot slot data maximum
  match expected with
  | none =>
    tryCatch (renameNoreplace slot final) fun
      | .destinationExists => throw .corruptStore
      | e => throw e
    requirePublished final candidate maximum
  | some _ => exchangeExpected slot final candidate expected

/-- `if condition: action` -/
def doIf (condition : Bool) (action : Fs Unit) : Fs Unit :=
  if condition then action else return ()

/-- `_publish_changed_state` -/
def publishChangedState (current : State) (snapshot : Bytes) (events : Option Bytes) : Fs Unit := do
  doIf (some snapshot ≠ current.snapshot) <|
    publishFile .snapshotSwap .snapshot snapshot maxSnapshot current.snapshotIdentity
  doIf (events ≠ current.events) <|
    publishFile .eventsSwap .events (events.getD []) maxEvents current.eventsIdentity

/-- `_accept_clean` -/
def acceptClean (generation : Int) (snapshot : Bytes) (events : Option Bytes) :
    Fs (Option State) := do
  let state ← tryCatch (some <$> read hash) fun
    | .corruptStore => return none
    | e => throw e
  match state with
  | none => return none
  | some state =>
    if state.generation = some generation ∧ state.snapshot = some snapshot ∧
        state.events = events then
      return some state
    else return none

/-- `_confirm_uncertain_clean` -/
def confirmUncertainClean (generation : Int) (snapshot : Bytes) (events : Option Bytes) :
    Fs (Option State) := do
  match ← acceptClean hash generation snapshot events with
  | none => return none
  | some _ =>
    fsyncDirectory
    acceptClean hash generation snapshot events

/-- `state` if it was accepted. -/
def acceptedOr (raised : Exn) : Option State → Fs State
  | some state => return state
  | none => throw raised

/-- `_compensate_clean_fsync` -/
def compensateCleanFsync (generation : Int) (snapshot : Bytes) (events : Option Bytes)
    (cause : Exn) : Fs State := do
  let _ ← acceptClean hash generation snapshot events >>= acceptedOr cause
  fsyncDirectory
  acceptClean hash generation snapshot events >>= acceptedOr .corruptStore

/-- The two looks of `_exchange_clean` after the exchange. -/
def inspectExchanged : Fs (Option Identity × Option Identity) :=
  tryCatch
    (do
      let final ← inspectFile .marker 1 maxMarker false
      let retired ← inspectFile .markerSwap 0 maxMarker false
      return (final, retired))
    (fun
      | .corruptStore => throw .cleanOutcomeUncertain
      | e => throw e)

/-- `_exchange_clean` -/
def exchangeClean (pending candidate : Identity) : Fs Unit := do
  let current ← inspectFile .marker 1 maxMarker false
  require (sameIdentity current (some pending)) .corruptStore
  renameExchange .markerSwap .marker
  let (final, retired) ← inspectExchanged
  require (sameIdentity final (some candidate) && sameIdentity retired (some pending))
    .cleanOutcomeUncertain

/-- `_publish_clean` -/
def publishClean (pending : Identity) (generation : Int) (snapshot : Bytes)
    (events : Option Bytes) : Fs State := do
  let clean := markerBytes hash .clean generation snapshot events
  let candidate ← writeSlot .markerSwap clean maxMarker
  let early ← tryCatch
    (do
      exchangeClean pending candidate
      fsyncDirectory
      return none)
    (fun e =>
      if e = .cleanOutcomeUncertain then
        some <$> (confirmUncertainClean hash generation snapshot events >>=
          acceptedOr .corruptStore)
      else if e = .renameUncertain then
        some <$> (confirmUncertainClean hash generation snapshot events >>= acceptedOr e)
      else if e.isStoreError then
        some <$> compensateCleanFsync hash generation snapshot events e
      else throw e)
  match early with
  | some state => return state
  | none => acceptClean hash generation snapshot events >>= acceptedOr .corruptStore

/-- `_commit_clean` -/
def commitClean (current : State) (snapshot : Bytes) (events : Option Bytes) (generation : Int) :
    Fs State := do
  let pending := markerBytes hash .pending generation snapshot events
  let pendingId ← writeSlot .markerSwap pending maxMarker
  exchangeExpected .markerSwap .marker pendingId current.markerIdentity
  fsyncDirectory
  publishChangedState current snapshot events
  fsyncDirectory
  publishClean hash pendingId generation snapshot events

/-- `_validate_targets` -/
def validTargets (snapshot : Bytes) (events : Option Bytes) : Bool :=
  0 < snapshot.length && snapshot.length ≤ maxSnapshot &&
    events.all fun events => events.length ≤ maxEvents

/-- `current.generation + 1`, of a state that has a generation. -/
def commitNext (current : State) (snapshot : Bytes) (events : Option Bytes) : Fs State :=
  match current.generation with
  | none => throw .assertionError
  | some generation => commitClean hash current snapshot events (generation + 1)

/-- `commit` -/
def commit (expected : State) (snapshot : Bytes) (events : Option Bytes)
    (equivalent : Bytes → Bytes → Bool) : Fs State := do
  require (validTargets snapshot events) .storeError
  let current ← read hash
  require (sameState current expected) .corruptStore
  if current.absent then
    require events.isNone .corruptStore
    genesis hash snapshot equivalent
  else
    require (current.generation ≠ some maxGeneration) .generationExhausted
    require (!(current.events.isSome && events.isNone)) .corruptStore
    let current ← bootstrapIfLegacy hash current
    commitNext hash current snapshot events

end SpecStyle
