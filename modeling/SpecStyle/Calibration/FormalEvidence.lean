/-
SpecStyle/Calibration/FormalEvidence.lean

Preparation of held-out metric evidence (`prepare_metric_evidence` of
`formal_evidence.py`, with `assign_split` of `splits.py`).

Eight documents are read, each bound to the ones before it by their hashes: the
target cell, the study plan, the annotation protocol, the sample manifest, the
calibration and the validation observations, the commitment to the sealed test
observations and the label approval.  The manifest is partitioned by a loop
that keeps four maps from an identity to the split it was first seen in
(`Partition`).  A threshold is then chosen and frozen, or a reason is reported.
-/
import SpecStyle.Calibration.ThresholdSearch

namespace SpecStyle

open PyLib

namespace Calibration

variable (C : Codec)

/-! ### Splits -/

/-- `SplitName` -/
inductive SplitName where
  | calibration | validation | test
  deriving DecidableEq

def SplitName.value : SplitName → Text
  | .calibration => py "calibration"
  | .validation => py "validation"
  | .test => py "test"

/-- `int(digits, 16)` -/
def hexNumber (digits : Text) : Nat :=
  digits.foldl (fun n c => n * 16 + (Json.hexValue c).getD 0) 0

/-- `assign_split` -/
def assignSplit (contentSha256 : Sha256) (salt : Text) : Except Fault SplitName := do
  demand (salt != []) "invalid split salt"
  match encodeUtf8 (salt ++ py ":" ++ contentSha256.value) with
  | none => .error (.raised .unicodeEncode)
  | some material =>
    let bucket := hexNumber ((C.hashBytes material).value.take 8) % 100
    return if bucket < 60 then .calibration else if bucket < 80 then .validation else .test

/-! ### Study plan and annotation protocol -/

/-- `_PLAN_KEYS` -/
def planKeys : List String :=
  ["schema_version", "study_id", "target_cell_sha256", "layer", "observation_unit", "metric_id",
   "operator", "targets", "split", "annotation_protocol_sha256"]

/-- `_Study`, with the fields of its document that are read later. -/
structure Study where
  studyId : Text
  salt : Text
  minimumPositive : Nat
  minimumNegative : Nat
  targets : Json
  minTpr : C.Carrier
  maxFpr : C.Carrier
  annotationProtocolSha256 : Text
  digest : Sha256
  metric : TargetMetric

/-- `_study` -/
def study (data : Bytes) (target : TargetCell) : Except Fault (Study C) := do
  let document ← loadCanonical C data
  let raw ← exact (.obj document) planKeys "formal study plan"
  let metricId ← text (raw.get "metric_id") "formal metric id"
  let metric ← target.requireMetric (.str metricId)
  let targets ← exact (raw.get "targets") ["min_tpr", "max_fpr"] "formal targets"
  let split ← exact (raw.get "split")
    ["algorithm", "salt", "minimum_positive_per_split", "minimum_negative_per_split"] "formal split"
  demand
    (isText (raw.get "schema_version") (py "specstyle.calibration.study_plan.v2") &&
      isText (raw.get "target_cell_sha256") target.sha256.value &&
      isText (raw.get "layer") metric.layer.value &&
      isText (raw.get "observation_unit") metric.observationUnit.value &&
      isText (raw.get "operator") metric.operator.value &&
      isText (split.get "algorithm") (py "sha256_mod_60_20_20"))
    "formal study plan mismatch"
  let studyId ← text (raw.get "study_id") "formal study id"
  let salt ← text (split.get "salt") "formal split salt"
  let minimumPositive ← count (split.get "minimum_positive_per_split") "minimum positives" 1
  let minimumNegative ← count (split.get "minimum_negative_per_split") "minimum negatives" 1
  let minTpr ← float C (targets.get "min_tpr") "minimum tpr"
  let maxFpr ← float C (targets.get "max_fpr") "maximum fpr"
  demand (inUnit C minTpr && inUnit C maxFpr) "invalid formal targets"
  let _ ← sha (raw.get "annotation_protocol_sha256") "annotation protocol sha256"
  let digest ← evidenceSha256 C data
  return {
    studyId, salt, minimumPositive, minimumNegative, minTpr, maxFpr, digest, metric
    targets := raw.get "targets"
    annotationProtocolSha256 := textOf (raw.get "annotation_protocol_sha256") }

/-- `_protocol` -/
def protocol (data : Bytes) (target : TargetCell) (study : Study C) : Except Fault Unit := do
  let document ← loadCanonical C data
  let raw ← exact (.obj document)
    ["schema_version", "protocol_id", "target_cell_sha256", "observation_unit", "metric_id",
     "label_definition"] "formal annotation protocol"
  let digest ← evidenceSha256 C data
  demand
    (isText (raw.get "schema_version") (py "specstyle.annotation_protocol.v2") &&
      isText (raw.get "target_cell_sha256") target.sha256.value &&
      isText (raw.get "observation_unit") study.metric.observationUnit.value &&
      isText (raw.get "metric_id") study.metric.metricId.value &&
      digest.value == study.annotationProtocolSha256)
    "formal annotation protocol mismatch"
  let _ ← text (raw.get "protocol_id") "formal protocol id"
  let _ ← text (raw.get "label_definition") "formal label definition"

/-! ### Samples -/

/-- `_MEMBER_KEYS` -/
def memberKeys : List String :=
  ["member_id", "candidate_sha256", "source_family_sha256", "reference_family_sha256", "seed"]

/-- `_ITEM_KEYS` -/
def itemKeys : List String :=
  ["sample_id", "candidate_sha256", "source_family_sha256", "reference_family_sha256",
   "isolation_group_sha256", "split", "annotation_record_sha256", "provenance_record_sha256"]

/-- `_BATCH_KEYS` -/
def batchKeys : List String :=
  ["sample_id", "cohort_sha256", "expected_count", "members", "isolation_group_sha256", "split",
   "annotation_record_sha256", "provenance_record_sha256"]

/-- `_member`: the fields are checked, and the document is returned as it is. -/
def member (value : Json) : Except Fault Dict := do
  let raw ← exact value memberKeys "formal cohort member"
  let _ ← text (raw.get "member_id") "formal cohort member id"
  let _ ← sha (raw.get "candidate_sha256") "candidate_sha256"
  let _ ← sha (raw.get "source_family_sha256") "source_family_sha256"
  let _ ← sha (raw.get "reference_family_sha256") "reference_family_sha256"
  let _ ← count (raw.get "seed") "formal cohort seed" 0
  return raw

/-- What `_sample` tells of one sample besides its document: the identities
that must stay in one split. -/
structure Identities where
  binding : Text
  families : List Text
  candidates : List Text
  memberIds : List Text

/-- `_cohort` -/
def cohort (sample : Dict) : Except Fault Identities := do
  let expected ← count (sample.get "expected_count") "formal cohort count" 2
  match sample.get "members" with
  | .arr values => do
    let members ← values.mapM member
    let memberIds := members.map fun item => textOf (item.get "member_id")
    let candidates := members.map fun item => textOf (item.get "candidate_sha256")
    demand
      (members.length == expected && memberIds.dedup.length == expected &&
        candidates.dedup.length == expected)
      "formal cohort binding mismatch"
    let material ← canonicalJson C
      (.obj [(py "expected_count", .int expected), (py "members", .arr (members.map .obj))])
    let digest ← evidenceSha256 C material
    demand (isText (sample.get "cohort_sha256") digest.value) "formal cohort binding mismatch"
    let binding ← sha (sample.get "cohort_sha256") "formal cohort sha256"
    let families := members.flatMap fun item =>
      [textOf (item.get "source_family_sha256"), textOf (item.get "reference_family_sha256")]
    return ⟨binding.value, families, candidates, memberIds⟩
  | _ => .error (.domain "invalid formal cohort")

/-- The identities of an item. -/
def item (sample : Dict) : Except Fault Identities := do
  let binding ← sha (sample.get "candidate_sha256") "formal candidate sha256"
  let source ← sha (sample.get "source_family_sha256") "formal source family"
  let reference ← sha (sample.get "reference_family_sha256") "formal reference family"
  return ⟨binding.value, [source.value, reference.value], [binding.value], []⟩

/-- The branches of `_sample`. -/
def identitiesOf (unit : ObservationUnit) (sample : Dict) : Except Fault Identities :=
  if unit = .batch then cohort C sample else item sample

/-- A sample of the manifest with its identities. -/
structure Sample extends Identities where
  sampleId : Text
  split : Json
  group : Text
  annotationRecord : Text

/-- `_sample` -/
def sample (value : Json) (unit : ObservationUnit) : Except Fault Sample := do
  let raw ← exact value (if unit = .batch then batchKeys else itemKeys) "formal sample"
  let sampleId ← text (raw.get "sample_id") "formal sample id"
  let _ ← sha (raw.get "isolation_group_sha256") "isolation_group_sha256"
  let _ ← sha (raw.get "annotation_record_sha256") "annotation_record_sha256"
  let _ ← sha (raw.get "provenance_record_sha256") "provenance_record_sha256"
  let identities ← identitiesOf C unit raw
  return { identities with
    sampleId
    split := raw.get "split"
    group := textOf (raw.get "isolation_group_sha256")
    annotationRecord := textOf (raw.get "annotation_record_sha256") }

/-! ### Partition -/

/-- The split each identity was seen in. -/
abbrev Assigned := List (Text × SplitName)

/-- `_unique_split` -/
def uniqueSplit (message : String) (split : SplitName) (assigned : Assigned) (identity : Text) :
    Except Fault Assigned := do
  demand ((assigned.lookup identity).all (· == split)) message
  return (identity, split) :: assigned

/-- The sets, maps and lists of `_partition_samples`.  The lists of the three
splits are one list in the order of the manifest, each sample with its split. -/
structure Partition where
  seenIds : List Text
  seenBindings : List Text
  groupSplits : Assigned
  familySplits : Assigned
  candidateSplits : Assigned
  memberSplits : Assigned
  samples : List (SplitName × Sample)

/-- One round of the loop of `_partition_samples`. -/
def partitionStep (unit : ObservationUnit) (salt : Text) (p : Partition) (value : Json) :
    Except Fault Partition := do
  let s ← sample C value unit
  let group ← (Sha256.new s.group).mapError .raised
  let split ← assignSplit C group salt
  demand (isText s.split split.value) "formal sample split assignment mismatch"
  let groupSplits ← uniqueSplit "isolation group split leakage" split p.groupSplits s.group
  let familySplits ← s.families.foldlM (uniqueSplit "family split leakage" split) p.familySplits
  let candidateSplits ←
    s.candidates.foldlM (uniqueSplit "candidate split leakage" split) p.candidateSplits
  let memberSplits ← s.memberIds.foldlM (uniqueSplit "member split leakage" split) p.memberSplits
  demand (!p.seenIds.contains s.sampleId && !p.seenBindings.contains s.binding)
    "duplicate formal sample"
  return {
    groupSplits, familySplits, candidateSplits, memberSplits
    seenIds := s.sampleId :: p.seenIds
    seenBindings := s.binding :: p.seenBindings
    samples := p.samples ++ [(split, s)] }

/-- `_partition_samples` -/
def partitionSamples (values : List Json) (unit : ObservationUnit) (salt : Text) :
    Except Fault (List (SplitName × Sample)) := do
  let p ← values.foldlM (partitionStep C unit salt) ⟨[], [], [], [], [], [], []⟩
  return p.samples

/-- `_Manifest` -/
structure Manifest where
  digest : Sha256
  samples : List (SplitName × Sample)

/-- `by_split[name]` -/
def Manifest.bySplit (manifest : Manifest) (name : SplitName) : List Sample :=
  (manifest.samples.filter fun s => s.1 = name).map (·.2)

/-- `_manifest`, with its digest -/
def manifest (data : Bytes) (target : TargetCell) (study : Study C) : Except Fault Manifest := do
  let document ← loadCanonical C data
  let raw ← exact (.obj document)
    ["schema_version", "target_cell_sha256", "study_plan_sha256", "observation_unit", "samples"]
    "formal sample manifest"
  demand
    (isText (raw.get "schema_version") (py "specstyle.calibration.sample_manifest.v2") &&
      isText (raw.get "target_cell_sha256") target.sha256.value &&
      isText (raw.get "study_plan_sha256") study.digest.value &&
      isText (raw.get "observation_unit") study.metric.observationUnit.value &&
      !(itemsOf (raw.get "samples")).isEmpty)
    "formal sample manifest mismatch"
  let samples ←
    partitionSamples C (itemsOf (raw.get "samples")) study.metric.observationUnit study.salt
  let digest ← evidenceSha256 C data
  return ⟨digest, samples⟩

/-! ### Observations -/

/-- `_OBSERVATION_KEYS` -/
def observationKeys : List String :=
  ["sample_id", "sample_binding_sha256", "score", "label_positive", "annotation_record_sha256"]

/-- The keys of an observation document. -/
def observationsKeys : List String :=
  ["schema_version", "target_cell_sha256", "study_plan_sha256", "sample_manifest_sha256", "split",
   "observation_unit", "metric_id", "operator", "observations"]

/-- `value if type(value) is bool` -/
def labelOf (value : Json) (message : String) : Except Fault Bool :=
  match value with
  | .bool b => .ok b
  | _ => .error (.domain message)

/-- `_observation` -/
def observation (value : Json) (sample : Sample) : Except Fault (ScoredPair C) := do
  let raw ← exact value observationKeys "formal observation"
  let score ← float C (raw.get "score") "formal observation score"
  demand
    (isText (raw.get "sample_id") sample.sampleId &&
      isText (raw.get "sample_binding_sha256") sample.binding &&
      isText (raw.get "annotation_record_sha256") sample.annotationRecord)
    "formal observation sample mismatch"
  let label ← labelOf (raw.get "label_positive") "formal observation sample mismatch"
  ScoredPair.new sample.sampleId score label

/-- `_Observations` -/
structure Observations where
  digest : Sha256
  pairs : List (ScoredPair C)

/-- `_observations` -/
def observations (data : Bytes) (split : SplitName) (target : TargetCell) (study : Study C)
    (manifest : Manifest) : Except Fault (Observations C) := do
  let document ← loadCanonical C data
  let raw ← exact (.obj document) observationsKeys "formal observations"
  let expected := manifest.bySplit split
  match raw.get "observations" with
  | .arr values => do
    demand
      (isText (raw.get "schema_version") (py "specstyle.calibration.observations.v2") &&
        isText (raw.get "target_cell_sha256") target.sha256.value &&
        isText (raw.get "study_plan_sha256") study.digest.value &&
        isText (raw.get "sample_manifest_sha256") manifest.digest.value &&
        isText (raw.get "split") split.value &&
        isText (raw.get "observation_unit") study.metric.observationUnit.value &&
        isText (raw.get "metric_id") study.metric.metricId.value &&
        isText (raw.get "operator") study.metric.operator.value &&
        values.length == expected.length)
      "formal observation binding mismatch"
    let pairs ← (values.zip expected).mapM fun p => observation C p.1 p.2
    let digest ← evidenceSha256 C data
    return ⟨digest, pairs⟩
  | _ => .error (.domain "formal observation binding mismatch")

/-! ### Test commitment and label approval -/

/-- The test commitment, as later checks read it. -/
structure Commitment where
  sealedTestObservationsSha256 : Text
  sampleIds : List Text
  sampleBindingsSha256 : Text
  positiveCount : Nat
  negativeCount : Nat

/-- `canonical_json` of a list of texts -/
def textList (texts : List Text) : Json := .arr (texts.map .str)

/-- `_commitment` -/
def commitment (data : Bytes) (target : TargetCell) (study : Study C) (manifest : Manifest) :
    Except Fault Commitment := do
  let document ← loadCanonical C data
  let raw ← exact (.obj document)
    ["schema_version", "target_cell_sha256", "study_plan_sha256", "sample_manifest_sha256",
     "observation_unit", "sealed_test_observations_sha256", "sample_ids", "sample_bindings_sha256",
     "positive_count", "negative_count"] "formal test commitment"
  let samples := manifest.bySplit .test
  let ids := samples.map (·.sampleId)
  let bindings ← canonicalJson C (textList (samples.map (·.binding)))
  demand
    (isText (raw.get "schema_version") (py "specstyle.calibration.test_commitment.v2") &&
      isText (raw.get "target_cell_sha256") target.sha256.value &&
      isText (raw.get "study_plan_sha256") study.digest.value &&
      isText (raw.get "sample_manifest_sha256") manifest.digest.value &&
      isText (raw.get "observation_unit") study.metric.observationUnit.value &&
      isTexts (raw.get "sample_ids") ids &&
      isText (raw.get "sample_bindings_sha256") (C.hashBytes bindings).value)
    "formal test commitment mismatch"
  let _ ← sha (raw.get "sealed_test_observations_sha256") "sealed test observations"
  let positive ← count (raw.get "positive_count") "test positives" 1
  let negative ← count (raw.get "negative_count") "test negatives" 1
  demand (positive + negative == samples.length) "formal test commitment counts mismatch"
  return {
    sealedTestObservationsSha256 := textOf (raw.get "sealed_test_observations_sha256")
    sampleIds := ids
    sampleBindingsSha256 := (C.hashBytes bindings).value
    positiveCount := positive
    negativeCount := negative }

/-- `label_source` -/
inductive LabelSource where
  | humanApproved | synthetic
  deriving DecidableEq

def LabelSource.value : LabelSource → Text
  | .humanApproved => py "HUMAN_APPROVED"
  | .synthetic => py "SYNTHETIC"

/-- The label approval, as later checks read it. -/
structure LabelApproval where
  approved : Bool
  labelSource : LabelSource

/-- `_label_approval` -/
def labelApproval (data : Bytes) (target : TargetCell) (study : Study C) (manifest : Manifest)
    (calibration validation : Sha256) (sealedTest : Text) : Except Fault LabelApproval := do
  let document ← loadCanonical C data
  let raw ← exact (.obj document)
    ["schema_version", "receipt_id", "study_id", "target_cell_sha256", "approval_kind", "approved",
     "label_source", "observation_unit", "study_plan_sha256", "sample_manifest_sha256",
     "annotation_protocol_sha256", "observation_sha256s", "approver_id", "issued_at"]
    "formal label approval receipt"
  demand
    (isText (raw.get "schema_version") (py "specstyle.calibration.approval_receipt.v2") &&
      isText (raw.get "study_id") study.studyId &&
      isText (raw.get "target_cell_sha256") target.sha256.value &&
      isText (raw.get "approval_kind") (py "HUMAN_LABELS"))
    "formal label approval receipt mismatch"
  let approved ← labelOf (raw.get "approved") "formal label approval receipt mismatch"
  let labelSource ← oneOf [.humanApproved, .synthetic] LabelSource.value (raw.get "label_source")
    "formal label approval receipt mismatch"
  demand
    (isText (raw.get "observation_unit") study.metric.observationUnit.value &&
      isText (raw.get "study_plan_sha256") study.digest.value &&
      isText (raw.get "sample_manifest_sha256") manifest.digest.value &&
      isText (raw.get "annotation_protocol_sha256") study.annotationProtocolSha256 &&
      isTexts (raw.get "observation_sha256s") [calibration.value, validation.value, sealedTest])
    "formal label approval receipt mismatch"
  let _ ← text (raw.get "receipt_id") "receipt_id"
  let _ ← text (raw.get "approver_id") "approver_id"
  let _ ← text (raw.get "issued_at") "issued_at"
  return ⟨approved, labelSource⟩

/-- `_blocked_reason` -/
def blockedReason (approval : LabelApproval) : Option Text :=
  if approval.labelSource = .synthetic then some (py "BLOCKED_SYNTHETIC_LABELS")
  else if approval.approved then none
  else some (py "BLOCKED_MISSING_APPROVED_LABELS")

/-! ### The report -/

/-- `_counts` -/
def counts (pairs : List (ScoredPair C)) : Nat × Nat :=
  let positive := pairs.countP (·.labelPositive)
  (positive, pairs.length - positive)

/-- `_statistics` -/
def statistics (pairs : List (ScoredPair C)) (threshold : C.Carrier) (operator : Operator) :
    Except Fault Json := do
  let rates ← binaryRates C pairs threshold operator
  let positive := (counts C pairs).1
  let negative := (counts C pairs).2
  let tp := pairs.countP fun p => p.labelPositive && passes C p.score threshold operator
  let fp := pairs.countP fun p => !p.labelPositive && passes C p.score threshold operator
  return .obj
    [(py "sample_count", .int pairs.length), (py "positive_count", .int positive),
     (py "negative_count", .int negative), (py "tpr", .float (C.print rates.1)),
     (py "fpr", .float (C.print rates.2)),
     (py "confusion", .obj
       [(py "fn", .int (positive - tp : Int)), (py "fp", .int fp),
        (py "tn", .int (negative - fp : Int)), (py "tp", .int tp)])]

/-- `_pin_value` -/
def pinValue (pin : ResourcePin) : Json :=
  .obj
    [(py "id", .str pin.id), (py "revision", .str pin.revision),
     (py "sha256", .str pin.sha256.value)]

/-- The last five arguments of `_report`. -/
structure Outcome where
  status : Text
  reasons : List Text
  threshold : Option C.Carrier
  calibration : Option Json
  validation : Option Json

/-- An outcome without a threshold. -/
def Outcome.without (status reason : Text) : Outcome C := ⟨status, [reason], none, none, none⟩

/-- `_report` -/
def report (target : TargetCell) (study : Study C) (manifest : Manifest) (commitmentData : Bytes)
    (commitment : Commitment) (approvalData : Bytes) (outcome : Outcome C) :
    Except Fault Bytes := do
  let metric := study.metric
  let approvalSha256 ← evidenceSha256 C approvalData
  let commitmentSha256 ← evidenceSha256 C commitmentData
  canonicalJson C (.obj
    [(py "schema_version", .str (py "specstyle.calibration.prepared_metric_evidence.v2")),
     (py "target_cell_sha256", .str target.sha256.value),
     (py "study_id", .str study.studyId),
     (py "layer", .str metric.layer.value),
     (py "observation_unit", .str metric.observationUnit.value),
     (py "metric_id", .str metric.metricId.value),
     (py "operator", .str metric.operator.value),
     (py "implementation_pin", pinValue metric.implementationPin),
     (py "binding_pin", pinValue metric.bindingPin),
     (py "verifier_pin", pinValue metric.verifierPin),
     (py "preprocessor_pin", pinValue metric.preprocessorPin),
     (py "targets", study.targets),
     (py "study_plan_sha256", .str study.digest.value),
     (py "sample_manifest_sha256", .str manifest.digest.value),
     (py "annotation_protocol_sha256", .str study.annotationProtocolSha256),
     (py "label_approval_receipt_sha256", .str approvalSha256.value),
     (py "test_commitment_sha256", .str commitmentSha256.value),
     (py "sealed_test_observations_sha256", .str commitment.sealedTestObservationsSha256),
     (py "test_sample_ids", textList commitment.sampleIds),
     (py "test_sample_bindings_sha256", .str commitment.sampleBindingsSha256),
     (py "test_positive_count", .int commitment.positiveCount),
     (py "test_negative_count", .int commitment.negativeCount),
     (py "status", .str outcome.status),
     (py "reasons", textList outcome.reasons),
     (py "threshold", (outcome.threshold.map fun x => Json.float (C.print x)).getD .null),
     (py "calibration", outcome.calibration.getD .null),
     (py "validation", outcome.validation.getD .null),
     (py "test_held", .bool true)])

/-! ### Preparation -/

/-- A split has too few labels of either kind. -/
def insufficient (study : Study C) (group : Nat × Nat) : Bool :=
  group.1 < study.minimumPositive || group.2 < study.minimumNegative

/-- `_freeze`, up to the report it writes. -/
def freeze (study : Study C) (commitment : Commitment)
    (calibration validation : List (ScoredPair C)) : Except Fault (Outcome C) :=
  let metricId := study.metric.metricId.value
  let operator := study.metric.operator
  if [counts C calibration, counts C validation,
      (commitment.positiveCount, commitment.negativeCount)].any (insufficient C study) then
    .ok (.without C (py "BLOCKED") (py "BLOCKED_INSUFFICIENT_SPLIT_LABELS"))
  else
    match selectThresholdOnCalibration C calibration metricId operator study.maxFpr study.minTpr
      none with
    | .error (.domain "no threshold meets calibration targets") =>
      .ok (.without C (py "REJECTED") (py "CALIBRATION_TARGETS_NOT_MET"))
    | .error fault => .error fault
    | .ok threshold => do
      let decision ← freezeThreshold C metricId operator threshold calibration validation
        study.maxFpr study.minTpr
      let reasons :=
        if decision.status = .validationPassed then [] else [py "VALIDATION_TARGETS_NOT_MET"]
      let calibration ← statistics C calibration threshold operator
      let validation ← statistics C validation threshold operator
      return ⟨decision.status.value, reasons, some threshold, some calibration, some validation⟩

/-- What `prepare_metric_evidence` reports. -/
def outcome (study : Study C) (commitment : Commitment) (approval : LabelApproval)
    (calibration validation : List (ScoredPair C)) : Except Fault (Outcome C) :=
  match blockedReason approval with
  | some blocked => .ok (.without C (py "BLOCKED") blocked)
  | none => freeze C study commitment calibration validation

/-- The eight documents of a preparation. -/
structure Documents where
  targetCell : Bytes
  studyPlan : Bytes
  annotationProtocol : Bytes
  sampleManifest : Bytes
  calibrationObservations : Bytes
  validationObservations : Bytes
  testCommitment : Bytes
  labelApprovalReceipt : Bytes

/-- What `prepare_metric_evidence` has read before it looks for a threshold. -/
structure Chain where
  target : TargetCell
  study : Study C
  manifest : Manifest
  calibration : Observations C
  validation : Observations C
  commitment : Commitment
  approval : LabelApproval

/-- The part of `prepare_metric_evidence` that reads the documents. -/
def readChain (documents : Documents) : Except Fault (Chain C) := do
  let target ← loadTargetCell C documents.targetCell
  let study ← study C documents.studyPlan target
  protocol C documents.annotationProtocol target study
  let manifest ← manifest C documents.sampleManifest target study
  let calibration ←
    observations C documents.calibrationObservations .calibration target study manifest
  let validation ←
    observations C documents.validationObservations .validation target study manifest
  let commitment ← commitment C documents.testCommitment target study manifest
  let approval ← labelApproval C documents.labelApprovalReceipt target study manifest
    calibration.digest validation.digest commitment.sealedTestObservationsSha256
  return ⟨target, study, manifest, calibration, validation, commitment, approval⟩

/-- The report on a chain that has been read. -/
def reportOf (documents : Documents) (chain : Chain C) : Except Fault Bytes := do
  let outcome ← outcome C chain.study chain.commitment chain.approval chain.calibration.pairs
    chain.validation.pairs
  report C chain.target chain.study chain.manifest documents.testCommitment chain.commitment
    documents.labelApprovalReceipt outcome

/-- `prepare_metric_evidence` -/
def prepareMetricEvidence (documents : Documents) : Except Fault Bytes := do
  let chain ← readChain C documents
  reportOf C documents chain

end Calibration

end SpecStyle
