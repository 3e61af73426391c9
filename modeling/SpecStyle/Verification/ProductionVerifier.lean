/-
SpecStyle/Verification/ProductionVerifier.lean

The production verifier: the outcomes of thresholds and technical checks, and
the loop that evaluates the applicable rules of a plan for one artifact.

What runs on the encoder, on the metric primitives and on the image library is
a parameter (`Services`): evidence of an image or none, and scores from minus
one to one.  A violation of a metric contract is `none`, as one of a static
contract is; the verifier raises one error for it.
-/
import SpecStyle.Verification.ProductionContracts
import SpecStyle.Generation.Requests
import SpecStyle.Lib.Traverse

namespace SpecStyle

namespace Production

open PyLib

variable {α : Type}

/-! ### Metric outcomes -/

/-- A score of a metric. -/
abbrev Score := {x : Binary64 // inScoreRange x = true}

/-- `_MetricOutcome` -/
structure MetricOutcome where
  status : RuleStatus
  score : Option Binary64

/-- `_ThresholdOutcome` -/
structure ThresholdOutcome where
  status : Option RuleStatus
  score : Option Binary64
  execute : Bool

/-- `_canonical_score` -/
def canonicalScore (x : Binary64) : Binary64 := if x.value = 0 then .zero else x

/-- `_threshold_outcome` -/
def thresholdOutcome (status : ThresholdStatus) (threshold : Binary64) (score : Option Binary64) :
    Option ThresholdOutcome := do
  contract (inScoreRange threshold)
  if status ≠ .validated then do
    contract score.isNone
    return ⟨some (if status = .revoked then .fail else .unverifiable), none, false⟩
  else
    match score with
    | none => return ⟨none, none, true⟩
    | some score => do
      contract (inScoreRange score)
      let score := canonicalScore score
      return ⟨some (if threshold.value ≤ score.value then .pass else .fail), some score, false⟩

/-- `DecodedImage`, what the checks read of it -/
structure DecodedImage where
  size : Nat × Nat
  pixelsRgb : List (Byte × Byte × Byte)

/-- The status of `check_dimensions_decoded` -/
def checkDimensionsDecoded (decoded : DecodedImage) (expected : Nat × Nat) : RuleStatus :=
  if decoded.size ≠ expected then .fail else .pass

/-- `_MIN_EDGE` -/
def minEdge : Nat := 8

/-- The status of `check_pixels_decoded` -/
def checkPixelsDecoded (decoded : DecodedImage) : RuleStatus :=
  if decoded.size.1 < minEdge || decoded.size.2 < minEdge then .fail
  else if decoded.pixelsRgb.isEmpty then .fail
  else if decoded.pixelsRgb.all fun p => p = (0, 0, 0) then .fail
  else if decoded.pixelsRgb.all fun p => p = (255, 255, 255) then .fail
  else .pass

/-- `_l1_outcome` -/
def l1Outcome (implementation : Text) (decodeSucceeded : Bool)
    (dimensionsStatus pixelsStatus : Option RuleStatus) : Option MetricOutcome := do
  let primitive (status : Option RuleStatus) : Bool := status = some .pass || status = some .fail
  let selected ← L1Implementation.ofValue implementation
  contract ((!decodeSucceeded || (primitive dimensionsStatus && primitive pixelsStatus)) &&
    (decodeSucceeded || (dimensionsStatus.isNone && pixelsStatus.isNone)))
  if !decodeSucceeded then
    return ⟨if selected = .decode || selected = .bundle then .fail else .unverifiable, none⟩
  else do
    let status ← match selected with
      | .decode => some .pass
      | .dimensions => dimensionsStatus
      | .pixels => pixelsStatus
      | .bundle =>
        some (if dimensionsStatus = some .pass && pixelsStatus = some .pass then .pass else .fail)
    return ⟨status, some (if status = .pass then .one else .zero)⟩

/-! ### The verifier -/

/-- What the verifier calls.  The content that goes with a hash is checked
before, and a run asks once for the evidence of a hash, so the outcome of
`encode` belongs to the hash. -/
structure Services (Evidence : Type) where
  /-- `decode_png_bytes`; none where it raises -/
  decodePng : Bytes → Option DecodedImage
  /-- The image evidence of an asset; none where the input is invalid. -/
  encode : Sha256 → Option Evidence
  /-- `_l2_similarity` -/
  l2Similarity : Evidence → List Evidence → Score
  /-- `_l3_similarity` -/
  l3Similarity : Evidence → Evidence → Score
  /-- `_structure_edge_similarity_for_pin` -/
  structureSimilarity : ResourcePin → Bytes → Bytes → Option Score
  styleResolver : AssetRef → Option Bytes

/-- `_CanonicalProductionState`, what the evaluation reads of it -/
structure Session where
  plan : Compiled.VerificationPlan
  mappings : Mappings
  graph : Compiled.ExecutionGraph
  styleReferences : List AssetRef
  sourceContent : Bytes
  sourceSha256 : Sha256

/-- `final_output_resolution` -/
def finalOutputResolution (graph : Compiled.ExecutionGraph) : Nat × Nat :=
  match graph.renderContract with
  | none => graph.resolution
  | some contract => contract.finalResolution

/-- `applicable_rule_definitions` -/
def applicableRuleDefinitions (plan : Compiled.VerificationPlan) : List RuleDefinition :=
  ((plan.rules.filter (·.applicable)).map (·.definition)).insertionSort
    fun a b => a.ruleId.value ≤ b.ruleId.value

/-- `_contract_failure` -/
def contractFailure : Raised := .infrastructure "production verification contract violation"

/-- `except _MetricContractViolation: raise _contract_failure()` -/
def orContract (x : Option α) : Except Raised α :=
  match x with
  | some a => .ok a
  | none => .error contractFailure

section Evaluation

variable {Evidence : Type} (hashBytes : Bytes → Sha256) (services : Services Evidence)
  (session : Session) (artifact : GeneratedArtifact hashBytes)

/-- `_unverifiable_result` -/
def unverifiableResult (rule : Compiled.Rule) (artifactId : ArtifactId) : RuleResult :=
  ⟨rule.definition.ruleId, .unverifiable, [artifactId], none⟩

/-- `_resolve_styles` -/
def resolveStyles : List AssetRef → Except Raised (Option (List Bytes))
  | [] => .ok (some [])
  | reference :: references =>
    match services.styleResolver reference with
    | none => .ok none
    | some content => do
      orContract (contract (hashBytes content = reference.sha256))
      let contents ← resolveStyles references
      return contents.map (content :: ·)

/-- `_metric_without_execution` -/
def metricWithoutExecution (rule : Compiled.Rule) (artifactId : ArtifactId) :
    Except Raised (Option RuleResult) := do
  let binding ← orContract rule.thresholdBinding
  let outcome ← orContract (thresholdOutcome binding.status binding.value none)
  if outcome.execute then return none
  else do
    let status ← orContract outcome.status
    return some ⟨rule.definition.ruleId, status, [artifactId], none⟩

/-- The evidence of a run, by hash. -/
abbrev Cache (Evidence : Type) := List (Sha256 × Option Evidence)

/-- `_encode_evidence` -/
def encodeEvidence (digest : Sha256) (cache : Cache Evidence) : Option Evidence × Cache Evidence :=
  match cache.lookup digest with
  | some value => (value, cache)
  | none => (services.encode digest, (digest, services.encode digest) :: cache)

/-- `_metric_result` -/
def metricResult (rule : Compiled.Rule) (artifactId : ArtifactId) (score : Binary64) :
    Except Raised RuleResult := do
  let binding ← orContract rule.thresholdBinding
  let outcome ← orContract (thresholdOutcome binding.status binding.value (some score))
  orContract (contract (!outcome.execute && outcome.score.any (·.same score)))
  let status ← orContract outcome.status
  return ⟨rule.definition.ruleId, status, [artifactId], some score⟩

/-- `_l2_result` -/
def l2Result (rule : Compiled.Rule) (styles : List Bytes) (cache : Cache Evidence) :
    Except Raised (RuleResult × Cache Evidence) := do
  let output := encodeEvidence services artifact.ref.sha256 cache
  let references := inOrder (encodeEvidence services)
    ((styles.zip session.styleReferences).map fun p => p.2.sha256) output.2
  match output.1, references.1.mapM id with
  | some evidence, some patches => do
    let score := services.l2Similarity evidence patches
    let result ← metricResult rule artifact.ref.artifactId score.val
    return (result, references.2)
  | _, _ => return (unverifiableResult rule artifact.ref.artifactId, references.2)

/-- `_l3_result` -/
def l3Result (rule : Compiled.Rule) (cache : Cache Evidence) :
    Except Raised (RuleResult × Cache Evidence) :=
  if rule.metricId = some structureL3Metric then
    match services.structureSimilarity rule.verifierPin session.sourceContent artifact.content with
    | none => .ok (unverifiableResult rule artifact.ref.artifactId, cache)
    | some score => do
      let result ← metricResult rule artifact.ref.artifactId score.val
      return (result, cache)
  else
    let output := encodeEvidence services artifact.ref.sha256 cache
    let source := encodeEvidence services session.sourceSha256 output.2
    match output.1, source.1 with
    | some left, some right => do
      let result ← metricResult rule artifact.ref.artifactId (services.l3Similarity left right).val
      return (result, source.2)
    | _, _ => .ok (unverifiableResult rule artifact.ref.artifactId, source.2)

/-- `_l1_results`; the rules of the registry are unique. -/
def l1Results : Except Raised (List (RuleId × RuleResult)) :=
  let decoded := services.decodePng artifact.content
  let expected := finalOutputResolution session.graph
  session.mappings.mapM fun (ruleId, implementation) => do
    let outcome ← orContract (l1Outcome implementation decoded.isSome
      (decoded.map fun image => checkDimensionsDecoded image expected)
      (decoded.map checkPixelsDecoded))
    return (ruleId, ⟨ruleId, outcome.status, [artifact.ref.artifactId], outcome.score⟩)

/-- What the loop of `_evaluate_rules` keeps: the resolved styles, once they
are, and the evidence. -/
structure Memo (Evidence : Type) where
  styles : Option (Option (List Bytes))
  cache : Cache Evidence

/-- `rules_by_id[rule_id]` of a plan -/
def ruleOf (plan : Compiled.VerificationPlan) (ruleId : RuleId) : Option Compiled.Rule :=
  plan.rules.find? fun rule => rule.definition.ruleId = ruleId

/-- `compiled[key]` -/
def orKey (x : Option α) : Except Raised α :=
  match x with
  | some a => .ok a
  | none => .error .key

/-- `if type(style_contents) is object: style_contents = _resolve_styles(verifier)` -/
def memoStyles (memo : Memo Evidence) : Except Raised (Option (List Bytes)) :=
  match memo.styles with
  | some styles => .ok styles
  | none => resolveStyles hashBytes services session.styleReferences

/-- An L2 rule in the loop of `_evaluate_rules`. -/
def evaluateL2 (rule : Compiled.Rule) (memo : Memo Evidence) :
    Except Raised (RuleResult × Memo Evidence) := do
  match ← memoStyles hashBytes services session memo with
  | none =>
    return (unverifiableResult rule artifact.ref.artifactId, { memo with styles := some none })
  | some contents => do
    let (result, cache) ← l2Result hashBytes services session artifact rule contents memo.cache
    return (result, ⟨some (some contents), cache⟩)

/-- One round of the loop of `_evaluate_rules`. -/
def evaluateRule (l1 : List (RuleId × RuleResult)) (definition : RuleDefinition)
    (memo : Memo Evidence) : Except Raised (RuleResult × Memo Evidence) := do
  let rule ← orKey (ruleOf session.plan definition.ruleId)
  if definition.level = .l1 then do
    let result ← orKey (l1.lookup definition.ruleId)
    return (result, memo)
  else
    match ← metricWithoutExecution rule artifact.ref.artifactId with
    | some inactive => return (inactive, memo)
    | none =>
      if definition.level = .l2 then evaluateL2 hashBytes services session artifact rule memo
      else do
        let (result, cache) ← l3Result hashBytes services session artifact rule memo.cache
        return (result, { memo with cache := cache })

/-- The loop of `_evaluate_rules`. -/
def evaluateLoop (l1 : List (RuleId × RuleResult)) :
    List RuleDefinition → Memo Evidence → Except Raised (List RuleResult)
  | [], _ => .ok []
  | definition :: definitions, memo => do
    let (result, memo) ← evaluateRule hashBytes services session artifact l1 definition memo
    let results ← evaluateLoop l1 definitions memo
    return result :: results

/-- `_evaluate_rules` -/
def evaluateRules : Except Raised (List RuleResult) := do
  let l1 ← l1Results hashBytes services session artifact
  evaluateLoop hashBytes services session artifact l1 (applicableRuleDefinitions session.plan)
    ⟨none, []⟩

end Evaluation

end Production

end SpecStyle
