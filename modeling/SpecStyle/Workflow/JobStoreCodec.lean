/-
SpecStyle/Workflow/JobStoreCodec.lean

The canonical encoding of events and snapshots, and their decoding.

The encoder turns a value into a JSON object and prints it with its keys in
order; the decoder parses bytes and reads the object field by field, in the
order of the source, each failure with the exception of the source.  Events
are framed by lines.

The primitives hold no floating-point number, so `_canonical`, which only
replaces a negative zero, leaves them alone and has no definition here.  Of the
limits of the interpreter the digits of a printed integer are a check that the
store makes first (`requirePrintable`); the recursion depth is left out.
-/
import SpecStyle.Lib.JsonRoundTrip
import SpecStyle.Lib.Lines
import SpecStyle.Workflow.JobModels

namespace SpecStyle

open PyLib

/-! ### JSON -/

/-- `SNAPSHOT_VERSION` -/
def snapshotVersion : Text := py "specstyle.workflow.snapshot.v1"

/-- `DomainError("invalid job snapshot")` -/
def invalidSnapshot : Raised := .domain "invalid job snapshot"

/-- `canonical_json` -/
def canonicalJson (value : Json) : Except Raised Bytes :=
  match encodeUtf8 (Json.dumps false value) with
  | some data => .ok data
  | none => .error .unicodeEncode

/-- `_parse_json` -/
def parseJson (data : Bytes) : Except Raised Json :=
  match Json.loadsBytes data with
  | some value => .ok value
  | none => .error invalidSnapshot

/-- An object of the decoder. -/
abbrev Fields := List (Text × Json)

/-- `_exact_keys` -/
def exactKeys (value : Json) (keys : List Text) : Except Raised Fields :=
  match value with
  | .obj fields =>
    if (∀ k ∈ fields.map Prod.fst, k ∈ keys) ∧ ∀ k ∈ keys, k ∈ fields.map Prod.fst then .ok fields
    else .error invalidSnapshot
  | _ => .error invalidSnapshot

/-- `value[key]` -/
def getField (fields : Fields) (key : Text) : Except Raised Json :=
  match Json.field fields key with
  | some value => .ok value
  | none => .error .key

/-- `type(raw) is str` -/
def strOf : Json → Except Raised Text
  | .str s => .ok s
  | _ => .error invalidSnapshot

/-- `type(raw) is int` -/
def intOf : Json → Except Raised Int
  | .int n => .ok n
  | _ => .error invalidSnapshot

/-- `_str_value` -/
def strValue (fields : Fields) (key : Text) : Except Raised Text := getField fields key >>= strOf

/-- `_int_value` -/
def intValue (fields : Fields) (key : Text) : Except Raised Int := getField fields key >>= intOf

/-- `_id_value` -/
def idValue (fields : Fields) (key : Text) (kind : IdKind) : Except Raised (Id kind) :=
  strValue fields key >>= Id.new kind

/-- `_sha_value` -/
def shaValue (fields : Fields) (key : Text) : Except Raised Sha256 :=
  strValue fields key >>= Sha256.new

/-- `_enum_value`, for the enumeration of the members `all`. -/
def enumValue {α : Type} (fields : Fields) (key : Text) (all : List α) (value : α → Text) :
    Except Raised α := do
  let raw ← strValue fields key
  match memberOf all value raw with
  | some a => .ok a
  | none => .error invalidSnapshot

/-- `_str_list` -/
def strList (value : Json) (name : String) : Except Raised (List Text) :=
  match value with
  | .arr items =>
    match items.mapM fun item => (strOf item).toOption with
    | some texts => .ok texts
    | none => .error (.domain ("invalid " ++ name))
  | _ => .error (.domain ("invalid " ++ name))

/-! ### Jobs and snapshots -/

def budgetToPrimitive (budget : JobBudget) : Json :=
  .obj [(py "max_attempts_per_item", .int budget.maxAttemptsPerItem)]

def profilesToPrimitive (profiles : CohortProfiles) : Json := .arr (profiles.texts.map .str)

/-- `_job_to_primitive` -/
def jobToPrimitive (job : Job) : Json :=
  .obj [
    (py "job_id", .str job.jobId.value),
    (py "compiled_spec_hash", .str job.compiledSpecHash.value),
    (py "cohort_profiles", profilesToPrimitive job.cohortProfiles),
    (py "budget", budgetToPrimitive job.budget),
    (py "status", .str job.status.value),
    (py "created_at", .str job.createdAt.value),
    (py "updated_at", .str job.updatedAt.value)]

def jobKeys : List Text := [
  py "job_id", py "compiled_spec_hash", py "cohort_profiles", py "budget", py "status",
  py "created_at", py "updated_at"]

/-- `_job_from_primitive` -/
def jobFromPrimitive (value : Json) : Except Raised Job := do
  let data ← exactKeys value jobKeys
  let budget ← exactKeys (← getField data (py "budget")) [py "max_attempts_per_item"]
  let jobId ← idValue data (py "job_id") .job
  let compiledSpecHash ← shaValue data (py "compiled_spec_hash")
  let profiles ← strList (← getField data (py "cohort_profiles")) "cohort profiles"
  let budget ← intValue budget (py "max_attempts_per_item") >>= JobBudget.new
  let status ← strValue data (py "status")
  -- `JobStatus(...)` outside `_enum_value`: an unknown status is a `ValueError`
  let status ← match memberOf JobStatus.all JobStatus.value status with
    | some status => Except.ok status
    | none => Except.error Raised.value
  let createdAt ← strValue data (py "created_at")
  let updatedAt ← strValue data (py "updated_at")
  Job.new jobId compiledSpecHash profiles budget status createdAt updatedAt

/-- `snapshot_to_primitive` -/
def snapshotToPrimitive (snapshot : JobSnapshot) : Json :=
  .obj [
    (py "schema_version", .str snapshotVersion),
    (py "job", jobToPrimitive snapshot.job),
    (py "last_sequence", .int snapshot.lastSequence),
    (py "attempt_ids", .arr (snapshot.attemptIds.map fun a => .str a.value)),
    (py "bundle_names", .arr (snapshot.bundleNames.map fun b => .str b.value))]

def snapshotKeys : List Text := [
  py "schema_version", py "job", py "last_sequence", py "attempt_ids", py "bundle_names"]

/-- `value != SNAPSHOT_VERSION` is false. -/
def isSnapshotVersion : Json → Bool
  | .str s => s == snapshotVersion
  | _ => false

/-- `snapshot_from_primitive` -/
def snapshotFromPrimitive (value : Json) : Except Raised JobSnapshot := do
  let data ← exactKeys value snapshotKeys
  let version ← getField data (py "schema_version")
  if isSnapshotVersion version = false then throw invalidSnapshot
  let job ← jobFromPrimitive (← getField data (py "job"))
  let lastSequence ← intValue data (py "last_sequence")
  let attempts ← strList (← getField data (py "attempt_ids")) "attempt ids"
  let attemptIds ← attempts.mapM (Id.new .attempt)
  let bundleNames ← strList (← getField data (py "bundle_names")) "bundle names"
  JobSnapshot.new job lastSequence attemptIds bundleNames

/-! ### Payloads -/

/-- `_PAYLOAD_KEYS` -/
def payloadKeys : EventType → List Text
  | .jobStarted => [py "compiled_spec_hash", py "cohort_profiles", py "budget"]
  | .specCompiled => [py "compiled_spec_hash"]
  | .attemptStarted =>
    [py "cohort_index", py "item_index", py "attempt_id", py "parent_attempt_id"]
  | .attemptFinished =>
    [py "cohort_index", py "item_index", py "attempt_id", py "artifact_id", py "request_hash"]
  | .verifierFinished =>
    [py "cohort_index", py "item_index", py "artifact_id", py "artifact_status",
      py "decision_reason", py "repair_stop_reason"]
  | .repairStep =>
    [py "cohort_index", py "item_index", py "decision_id", py "action_id", py "trigger_rule_id",
      py "parent_attempt_id", py "child_attempt_id"]
  | .exportPublished =>
    [py "bundle_name", py "manifest_sha256", py "payload_sha256", py "bundle_sha256"]
  | .exportStarted => [py "bundle_name"]
  | .recoverable => [py "reason"]
  | .cancelRequested => [py "reason"]
  | .fatal => [py "error_family", py "reason"]

/-- A value that may be `None`. -/
def optStr {α : Type} (value : α → Text) : Option α → Json
  | some a => .str (value a)
  | none => .null

/-- `_payload_to_primitive`: the attributes under the keys of the event type. -/
def payloadToPrimitive : Payload → Json
  | .jobStarted compiledSpecHash cohortProfiles budget =>
    .obj [
      (py "compiled_spec_hash", .str compiledSpecHash.value),
      (py "cohort_profiles", profilesToPrimitive cohortProfiles),
      (py "budget", budgetToPrimitive budget)]
  | .specCompiled compiledSpecHash =>
    .obj [(py "compiled_spec_hash", .str compiledSpecHash.value)]
  | .attemptStarted cohortIndex itemIndex attemptId parentAttemptId =>
    .obj [
      (py "cohort_index", .int cohortIndex),
      (py "item_index", .int itemIndex),
      (py "attempt_id", .str attemptId.value),
      (py "parent_attempt_id", optStr Id.value parentAttemptId)]
  | .attemptFinished cohortIndex itemIndex attemptId artifactId requestHash =>
    .obj [
      (py "cohort_index", .int cohortIndex),
      (py "item_index", .int itemIndex),
      (py "attempt_id", .str attemptId.value),
      (py "artifact_id", .str artifactId.value),
      (py "request_hash", .str requestHash.value)]
  | .verifierFinished cohortIndex itemIndex artifactId artifactStatus decisionReason
      repairStopReason =>
    .obj [
      (py "cohort_index", .int cohortIndex),
      (py "item_index", .int itemIndex),
      (py "artifact_id", .str artifactId.value),
      (py "artifact_status", .str artifactStatus.value),
      (py "decision_reason", .str decisionReason.value),
      (py "repair_stop_reason", optStr RepairStopReason.value repairStopReason)]
  | .repairStep cohortIndex itemIndex decisionId actionId triggerRuleId parentAttemptId
      childAttemptId =>
    .obj [
      (py "cohort_index", .int cohortIndex),
      (py "item_index", .int itemIndex),
      (py "decision_id", .str decisionId.value),
      (py "action_id", .str actionId.value),
      (py "trigger_rule_id", .str triggerRuleId.value),
      (py "parent_attempt_id", .str parentAttemptId.value),
      (py "child_attempt_id", .str childAttemptId.value)]
  | .exportStarted bundleName => .obj [(py "bundle_name", .str bundleName.value)]
  | .exportPublished bundleName manifestSha256 payloadSha256 bundleSha256 =>
    .obj [
      (py "bundle_name", .str bundleName.value),
      (py "manifest_sha256", .str manifestSha256.value),
      (py "payload_sha256", .str payloadSha256.value),
      (py "bundle_sha256", .str bundleSha256.value)]
  | .recoverable reason => .obj [(py "reason", .str reason.value)]
  | .cancelRequested reason => .obj [(py "reason", .str reason.value)]
  | .fatal errorFamily reason =>
    .obj [(py "error_family", .str errorFamily.value), (py "reason", .str reason.value)]

/-- An identifier that may be `None`. -/
def optIdValue (fields : Fields) (key : Text) (kind : IdKind) :
    Json → Except Raised (Option (Id kind))
  | .null => .ok none
  | _ => some <$> idValue fields key kind

/-- A stop reason that may be `None`. -/
def optStopReason (fields : Fields) (key : Text) :
    Json → Except Raised (Option RepairStopReason)
  | .null => .ok none
  | _ => some <$> enumValue fields key RepairStopReason.all RepairStopReason.value

/-- `_PAYLOAD_BUILDERS` -/
def payloadBuilders (data : Fields) : EventType → Except Raised Payload
  | .jobStarted => do
    let budget ← exactKeys (← getField data (py "budget")) [py "max_attempts_per_item"]
    let compiledSpecHash ← shaValue data (py "compiled_spec_hash")
    let profiles ← strList (← getField data (py "cohort_profiles")) "cohort profiles"
    let budget ← intValue budget (py "max_attempts_per_item") >>= JobBudget.new
    let cohortProfiles ← CohortProfiles.new profiles
    return .jobStarted compiledSpecHash cohortProfiles budget
  | .specCompiled => do
    let compiledSpecHash ← shaValue data (py "compiled_spec_hash")
    return .specCompiled compiledSpecHash
  | .attemptStarted => do
    let parent ← getField data (py "parent_attempt_id")
    let cohortIndex ← intValue data (py "cohort_index")
    let itemIndex ← intValue data (py "item_index")
    let attemptId ← idValue data (py "attempt_id") .attempt
    let parentAttemptId ← optIdValue data (py "parent_attempt_id") .attempt parent
    return .attemptStarted cohortIndex itemIndex attemptId parentAttemptId
  | .attemptFinished => do
    let cohortIndex ← intValue data (py "cohort_index")
    let itemIndex ← intValue data (py "item_index")
    let attemptId ← idValue data (py "attempt_id") .attempt
    let artifactId ← idValue data (py "artifact_id") .artifact
    let requestHash ← shaValue data (py "request_hash")
    return .attemptFinished cohortIndex itemIndex attemptId artifactId requestHash
  | .verifierFinished => do
    let stop ← getField data (py "repair_stop_reason")
    let cohortIndex ← intValue data (py "cohort_index")
    let itemIndex ← intValue data (py "item_index")
    let artifactId ← idValue data (py "artifact_id") .artifact
    let artifactStatus ← enumValue data (py "artifact_status") ArtifactStatus.all ArtifactStatus.value
    let decisionReason ← enumValue data (py "decision_reason") DecisionReason.all DecisionReason.value
    let repairStopReason ← optStopReason data (py "repair_stop_reason") stop
    return .verifierFinished cohortIndex itemIndex artifactId artifactStatus decisionReason
      repairStopReason
  | .repairStep => do
    let cohortIndex ← intValue data (py "cohort_index")
    let itemIndex ← intValue data (py "item_index")
    let decisionId ← idValue data (py "decision_id") .decision
    let actionId ← idValue data (py "action_id") .identifier
    let triggerRuleId ← idValue data (py "trigger_rule_id") .rule
    let parentAttemptId ← idValue data (py "parent_attempt_id") .attempt
    let childAttemptId ← idValue data (py "child_attempt_id") .attempt
    return .repairStep cohortIndex itemIndex decisionId actionId triggerRuleId parentAttemptId
      childAttemptId
  | .exportPublished => do
    let bundleName ← strValue data (py "bundle_name")
    let manifestSha256 ← shaValue data (py "manifest_sha256")
    let payloadSha256 ← shaValue data (py "payload_sha256")
    let bundleSha256 ← shaValue data (py "bundle_sha256")
    let bundleName ← BundleName.new bundleName
    return .exportPublished bundleName manifestSha256 payloadSha256 bundleSha256
  | .exportStarted => do
    let bundleName ← strValue data (py "bundle_name") >>= BundleName.new
    return .exportStarted bundleName
  | .recoverable => do
    let reason ← strValue data (py "reason") >>= SafeText.new "recoverable reason"
    return .recoverable reason
  | .cancelRequested => do
    let reason ← strValue data (py "reason") >>= SafeText.new "cancel reason"
    return .cancelRequested reason
  | .fatal => do
    let family ← strValue data (py "error_family")
    let reason ← strValue data (py "reason")
    let errorFamily ← match memberOf FatalErrorFamily.all FatalErrorFamily.value family with
      | some errorFamily => Except.ok errorFamily
      | none => Except.error (Raised.domain "invalid error family")
    let reason ← SafeText.new "fatal reason" reason
    return .fatal errorFamily reason

/-! ### Events -/

/-- `event_to_primitive` -/
def eventToPrimitive (event : Event) : Json :=
  .obj [
    (py "sequence", .int event.sequence),
    (py "job_id", .str event.jobId.value),
    (py "event_type", .str event.eventType.value),
    (py "from_state", .str event.fromState.value),
    (py "to_state", .str event.toState.value),
    (py "timestamp", .str event.timestamp.value),
    (py "payload", payloadToPrimitive event.payload)]

def eventKeys : List Text := [
  py "sequence", py "job_id", py "event_type", py "from_state", py "to_state", py "timestamp",
  py "payload"]

/-- `event_from_primitive` -/
def eventFromPrimitive (value : Json) : Except Raised Event := do
  let data ← exactKeys value eventKeys
  let eventType ← enumValue data (py "event_type") EventType.all EventType.value
  let payloadData ← exactKeys (← getField data (py "payload")) (payloadKeys eventType)
  let sequence ← intValue data (py "sequence")
  let jobId ← idValue data (py "job_id") .job
  let fromState ← enumValue data (py "from_state") JobStatus.all JobStatus.value
  let toState ← enumValue data (py "to_state") JobStatus.all JobStatus.value
  let timestamp ← strValue data (py "timestamp")
  let payload ← payloadBuilders payloadData eventType
  Event.new sequence jobId eventType fromState toState timestamp payload

/-! ### Files -/

/-- `encode_snapshot` -/
def encodeSnapshot (snapshot : JobSnapshot) : Except Raised Bytes :=
  canonicalJson (snapshotToPrimitive snapshot)

/-- The interpreter prints no number of more than 4300 digits.  Of the numbers in
a snapshot only the budget has no bound. -/
def requirePrintable (snapshot : JobSnapshot) : Except Raised Unit :=
  if snapshot.job.budget.maxAttemptsPerItem < 10 ^ 4300 then .ok () else .error .value

theorem requirePrintable_iff {snapshot : JobSnapshot} :
    requirePrintable snapshot = .ok () ↔ snapshot.job.budget.maxAttemptsPerItem < 10 ^ 4300 := by
  unfold requirePrintable
  constructor
  · intro h
    by_contra hc
    rw [if_neg hc] at h
    cases h
  · exact fun h => if_pos h

/-- `decode_snapshot` -/
def decodeSnapshot (data : Bytes) : Except Raised JobSnapshot :=
  parseJson data >>= snapshotFromPrimitive

/-- `encode_event` -/
def encodeEvent (event : Event) : Except Raised Bytes := do
  let data ← canonicalJson (eventToPrimitive event)
  return data ++ [newline]

/-- One turn of the loop of `decode_events`. -/
def decodeLine (jobId : JobId) (line : Bytes) : Except Raised Event :=
  if line = [] then .error (.domain "invalid job event")
  else do
    let event ← parseJson line >>= eventFromPrimitive
    if event.jobId ≠ jobId then throw (.domain "invalid job event")
    return event

/-- `decode_events` -/
def decodeEvents (jobId : JobId) (data : Bytes) : Except Raised (List Event) :=
  if data ≠ [] ∧ data.getLast? ≠ some newline then .error (.domain "invalid job event")
  else (splitLines data).mapM (decodeLine jobId)

end SpecStyle
