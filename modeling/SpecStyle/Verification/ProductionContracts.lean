/-
SpecStyle/Verification/ProductionContracts.lean

The static contracts of the production verifier: which compiled plan is bound
to which loaded pipeline.

A violation of a contract is `none`; its caller raises one error for all of
them.  What the source tests of the dynamic types of its arguments is the
types here, and its copies of immutable values are the values themselves.
-/
import SpecStyle.Spec.Compiler

namespace SpecStyle

deriving instance DecidableEq for Compiled.Rule, Compiled.VerificationPlan

namespace Production

open PyLib PyLib.Codec

variable {α : Type}

/-- `if not condition: raise _ProductionContractViolation` -/
def contract (condition : Bool) : Option Unit := if condition then some () else none

/-- `_one` -/
def one (values : List α) (predicate : α → Bool) : Option α :=
  match values.filter predicate with
  | [value] => some value
  | _ => none

/-! ### The registry of level L1 -/

/-- `_ProductionL1Implementation` -/
inductive L1Implementation where
  | bundle | decode | dimensions | pixels
  deriving DecidableEq

def L1Implementation.value : L1Implementation → Text
  | .bundle => py "technical_rgb_png_bundle_v1"
  | .decode => py "decode_png_rgb_no_metadata_v1"
  | .dimensions => py "dimensions_exact_v1"
  | .pixels => py "pixels_nonblank_v1"

/-- `_ProductionL1Implementation(value)` -/
def L1Implementation.ofValue (value : Text) : Option L1Implementation :=
  [.bundle, .decode, .dimensions, .pixels].find? fun item => item.value = value

/-- The mapping of the rules of level L1. -/
abbrev Mappings := List (RuleId × Text)

/-- `_PRODUCTION_L1_RULE_REGISTRY` -/
def l1RuleRegistry : Mappings :=
  [(Id.lit .rule "l1_bundle", L1Implementation.bundle.value),
    (Id.lit .rule "l1_decode", L1Implementation.decode.value),
    (Id.lit .rule "l1_dimensions", L1Implementation.dimensions.value),
    (Id.lit .rule "l1_pixels", L1Implementation.pixels.value)]

/-- `_validate_l1_registry` -/
def validateL1Registry (mappings : Mappings) : Option Unit :=
  contract (mappings = l1RuleRegistry)

/-! ### The loaded pipeline -/

/-- `_LoadedVerificationBinding` -/
structure LoadedBinding where
  environmentHash : Sha256
  runtime : Text × Text × Text × Text
  profile : Only "production"
  basePin : ResourcePin
  ipAdapterPin : ResourcePin
  controlnetPin : ResourcePin
  evidencePin : ResourcePin
  evidencePreprocessingVersion : Text
  evidenceLayer : Text

/-- `_validate_loaded_binding` -/
def validateLoadedBinding (binding : LoadedBinding) (graph : Compiled.ExecutionGraph)
    (environmentHash : Sha256) : Option Unit :=
  let runtime := graph.runtime
  contract (environmentHash = binding.environmentHash &&
    (runtime.rocmVersion, runtime.torchVersion, runtime.diffusersVersion, runtime.dtype.value) =
      binding.runtime &&
    graph.baseModel.pin = binding.basePin && graph.ipAdapter.pin = binding.ipAdapterPin &&
    graph.controlnet.pin = binding.controlnetPin && graph.ipAdapter.pin = binding.evidencePin)

/-! ### Metrics -/

/-- `_L2_METRIC` -/
def l2Metric : Identifier := Id.lit .identifier "reference_style_statistics_similarity"

/-- `_L2_BATCH_METRIC` -/
def l2BatchMetric : Identifier := Id.lit .identifier "batch_style_consistency"

/-- `_L3_METRIC` -/
def l3Metric : Identifier := Id.lit .identifier "subject_semantic_similarity"

/-- `_STRUCTURE_L3_METRIC` -/
def structureL3Metric : Identifier := Id.lit .identifier "structure_edge_similarity"

/-- `-1.0 <= x <= 1.0` -/
def inScoreRange (x : Binary64) : Bool :=
  -Binary64.one.value ≤ x.value && x.value ≤ Binary64.one.value

/-- `_profile_matches_binding` -/
def profileMatchesBinding (profile : ThresholdProfileCapability) (rule : Compiled.Rule) : Bool :=
  match rule.thresholdBinding, profile.metrics.filter fun m => some m.metricId = rule.metricId with
  | some binding, [metric] =>
    profile.pin = binding.profilePin && profile.logicalName = binding.logicalName &&
      profile.status = binding.status && metric.metricId = binding.metricId &&
      metric.operator = binding.operator && metric.value.same binding.value &&
      profile.calibrationDatasetSha256 = binding.calibrationDatasetSha256 &&
      profile.validationDatasetSha256 = binding.validationDatasetSha256 &&
      profile.annotationProtocolSha256 = binding.annotationProtocolSha256 &&
      profile.productionApprovalSha256 = binding.productionApprovalSha256
  | _, _ => false

/-! ### Rules of level L1 -/

/-- `_catalog_rules`; its keys are unique in a catalog. -/
def catalogRules (context : CompilerContext) (compiled : Compiled.StyleSpec) :
    Option (List RuleCapability) := do
  let catalog ← one context.ruleCatalogs fun item =>
    item.pin = compiled.rulesetPin &&
      item.rulesetVersion = compiled.sourceSpec.verification.rulesetVersion.val
  return catalog.rules

/-- `catalog.get(rule_id)` -/
def capabilityOf (catalog : List RuleCapability) (ruleId : RuleId) : Option RuleCapability :=
  catalog.find? fun rule => rule.ruleId = ruleId

/-- One round of the loop of `_validate_l1_bindings`. -/
def validateL1Rule (catalog : List RuleCapability) (rule : Compiled.Rule) : Option Unit := do
  let capability ← capabilityOf catalog rule.definition.ruleId
  contract (capability.kind = .l1Technical && capability.level = .l1 && capability.scope = .item &&
    capability.thresholdSource = .none && capability.metricId.isNone &&
    capability.verifierPin = rule.verifierPin && rule.metricId.isNone &&
    rule.thresholdBinding.isNone)

/-- `_validate_l1_bindings` -/
def validateL1Bindings (mappings : Mappings) (applicable : List Compiled.Rule)
    (catalog : List RuleCapability) : Option Unit := do
  validateL1Registry mappings
  let l1Rules := applicable.filter fun rule => rule.definition.level = .l1
  let mapped := mappings.map Prod.fst
  let ids := l1Rules.map (·.definition.ruleId)
  contract (mapped.all (fun id => id ∈ ids) && ids.all fun id => id ∈ mapped)
  l1Rules.forM (validateL1Rule catalog)

/-! ### Rules of level L2 -/

/-- The profile that a rule is bound to, and its threshold. -/
def boundProfile (context : CompilerContext) (rule : Compiled.Rule) :
    Option (ThresholdProfileCapability × Compiled.ThresholdBinding) := do
  let metric ← rule.thresholdBinding
  let profile ← one context.thresholdProfiles fun profile => profile.pin = metric.profilePin
  return (profile, metric)

/-- `_valid_l2_common` -/
def validL2Common (binding : LoadedBinding) (compiled : Compiled.StyleSpec) (rule : Compiled.Rule)
    (capability : RuleCapability) (encoder : EncoderCapability)
    (profile : ThresholdProfileCapability) : Bool :=
  capability.level = .l2 && capability.thresholdSource = .l2 &&
    capability.verifierPin = rule.verifierPin && profile.source = .l2 &&
    profile.stylePackId = compiled.sourceSpec.style.presetId &&
    profile.domainProfile = compiled.sourceSpec.domain.profile &&
    profile.encoderPin = some binding.evidencePin && profile.pluginPin.isNone &&
    encoder.preprocessingVersion = binding.evidencePreprocessingVersion &&
    binding.evidenceLayer = encoder.layer && encoder.layer = compiled.l2Encoder.layer &&
    compiled.l2Encoder.layer = py "hidden_states[-2]" &&
    encoder.distanceFunction = compiled.l2Encoder.distanceFunction &&
    compiled.l2Encoder.distanceFunction = py "median_cosine_patch_mean_std_v1" &&
    compiled.l2Encoder.preprocessingVersion = encoder.preprocessingVersion &&
    profileMatchesBinding profile rule

/-- `_valid_l2_item` -/
def validL2Item (rule : Compiled.Rule) (capability : RuleCapability)
    (metric : Compiled.ThresholdBinding) : Bool :=
  capability.kind = .l2StyleFidelity && capability.scope = .item &&
    capability.metricId = some l2Metric && rule.metricId = some l2Metric &&
    metric.operator = .ge && inScoreRange metric.value

/-- `_valid_l2_batch` -/
def validL2Batch (compiled : Compiled.StyleSpec) (rule : Compiled.Rule)
    (capability : RuleCapability) (profile : ThresholdProfileCapability)
    (metric : Compiled.ThresholdBinding) : Bool :=
  capability.kind = .l2BatchConsistency && capability.scope = .batch &&
    capability.requirement = .alwaysAdvisory && capability.affectedByActions.isEmpty &&
    capability.metricId = some l2BatchMetric && rule.metricId = some l2BatchMetric &&
    !rule.definition.required &&
    compiled.sourceSpec.outputs.profiles.val = [.backgroundSequence] && profile.status = .draft &&
    metric.operator = .le && 0 ≤ metric.value.value

/-- `_validate_l2_binding`, with its `_l2_binding_materials` -/
def validateL2Binding (context : CompilerContext) (binding : LoadedBinding)
    (compiled : Compiled.StyleSpec) (rule : Compiled.Rule) (capability : RuleCapability) :
    Option Unit := do
  let encoder ← one context.encoderCapabilities fun item => item.pin = binding.evidencePin
  let (profile, metric) ← boundProfile context rule
  contract (validL2Common binding compiled rule capability encoder profile &&
    (validL2Item rule capability metric || validL2Batch compiled rule capability profile metric))

/-! ### Rules of level L3 -/

/-- The rule of a plugin that a compiled rule comes from. -/
def pluginRule (plugin : L3PluginCapability) (rule : Compiled.Rule) : Option RuleCapability :=
  one plugin.rules fun item => item.ruleId = rule.definition.ruleId

/-- `_validate_l3_semantics` -/
def validateL3Semantics (context : CompilerContext) (plan : Compiled.VerificationPlan)
    (rule : Compiled.Rule) : Option L3PluginCapability := do
  let plugin ← one context.l3Plugins fun item => some item.pin = plan.l3PluginPin
  let capability ← pluginRule plugin rule
  let legacy := capability.kind = .l3Diagnostic && capability.requirement = .alwaysAdvisory &&
    capability.metricId = some l3Metric && rule.metricId = some l3Metric &&
    !rule.definition.required
  let structured := capability.kind = .l3DomainFidelity &&
    capability.requirement = .fidelityRequired && capability.metricId = some structureL3Metric &&
    rule.metricId = some structureL3Metric && rule.definition.required
  contract (capability.level = .l3 && capability.scope = .item &&
    capability.thresholdSource = .l3 && capability.verifierPin = rule.verifierPin &&
    (legacy || structured))
  return plugin

/-- `_valid_structure_l3` -/
def validStructureL3 (source : Spec.StyleSpec) (plugin : L3PluginCapability)
    (profile : ThresholdProfileCapability) (rule : Compiled.Rule) (capability : RuleCapability)
    (metric : Compiled.ThresholdBinding) : Bool :=
  source.domain.profile = .structureOnly && source.domain.fidelityRequired &&
    plugin.domainProfile = .structureOnly && plugin.domainVerifierVersion = py "sobel-cosine-v1" &&
    plugin.supportedOutputProfiles = [.xhsGrid] && capability.kind = .l3DomainFidelity &&
    capability.requirement = .fidelityRequired && capability.supportedDomains = [.structureOnly] &&
    capability.supportedOutputProfiles = [.xhsGrid] &&
    capability.verifierPin = rule.verifierPin &&
    rule.verifierPin.id = py "structure-edge-verifier" &&
    rule.verifierPin.revision = py "sobel-cosine-v1" && profile.status = .validated &&
    profile.productionApprovalSha256.isSome && metric.metricId = structureL3Metric &&
    metric.productionApprovalSha256.isSome && metric.operator = .ge &&
    0 ≤ metric.value.value && metric.value.value ≤ Binary64.one.value

/-- `_validate_l3_binding` -/
def validateL3Binding (context : CompilerContext) (compiled : Compiled.StyleSpec)
    (plan : Compiled.VerificationPlan) (rule : Compiled.Rule) (plugin : L3PluginCapability) :
    Option Unit := do
  let source := compiled.sourceSpec
  let (profile, metric) ← boundProfile context rule
  let common := plugin.domainProfile = source.domain.profile &&
    source.domain.verifierVersion.any (fun version => plugin.domainVerifierVersion = version.val) &&
    profile.source = .l3 && profile.stylePackId = source.style.presetId &&
    profile.domainProfile = source.domain.profile && profile.encoderPin.isNone &&
    profile.pluginPin = some plugin.pin && plan.l3ThresholdProfilePin = some profile.pin &&
    profileMatchesBinding profile rule
  let capability ← pluginRule plugin rule
  let legacy := !source.domain.fidelityRequired && capability.kind = .l3Diagnostic &&
    metric.metricId = l3Metric && metric.operator = .ge && inScoreRange metric.value
  contract (common && (legacy || validStructureL3 source plugin profile rule capability metric))

/-- `_validate_structure_implementation_pin`; the pin of the implementation is
none where its source cannot be read. -/
def validateStructureImplementationPin (structurePin : Option ResourcePin)
    (plan : Compiled.VerificationPlan) : Option Unit := do
  let implementationPin ← structurePin
  contract (!plan.rules.any fun rule =>
    rule.metricId = some structureL3Metric && rule.verifierPin ≠ implementationPin)

/-! ### The plan -/

/-- One round of the loop of `_validate_rule_bindings`. -/
def validateRuleBinding (context : CompilerContext) (binding : LoadedBinding)
    (compiled : Compiled.StyleSpec) (plan : Compiled.VerificationPlan)
    (catalog : List RuleCapability) (rule : Compiled.Rule) : Option Unit :=
  if rule.applicable && rule.definition.level = .l2 then do
    let capability ← capabilityOf catalog rule.definition.ruleId
    validateL2Binding context binding compiled rule capability
  else if rule.isL3 then do
    let plugin ← validateL3Semantics context plan rule
    if rule.applicable then validateL3Binding context compiled plan rule plugin else some ()
  else some ()

/-- `_validate_rule_bindings` -/
def validateRuleBindings (context : CompilerContext) (binding : LoadedBinding)
    (compiled : Compiled.StyleSpec) (plan : Compiled.VerificationPlan) (mappings : Mappings) :
    Option Unit := do
  let catalog ← catalogRules context compiled
  validateL1Bindings mappings (plan.rules.filter (·.applicable)) catalog
  plan.rules.forM (validateRuleBinding context binding compiled plan catalog)

/-- `_has_unsupported_applicable_scope` -/
def hasUnsupportedApplicableScope (plan : Compiled.VerificationPlan)
    (outputProfile : OutputProfile) : Bool :=
  (plan.rules.filter (·.applicable)).any fun rule =>
    rule.definition.scope ≠ .item &&
      !(outputProfile = .backgroundSequence && rule.definition.level = .l2 &&
        rule.definition.scope = .batch && !rule.definition.required)

/-- `source_type.model_validate(spec.model_dump(mode="python", round_trip=True))`; in
this mode the dump has tuples. -/
def sourceSnapshot (pydantic : Spec.Pydantic) (spec : Spec.StyleSpec) : Option Spec.StyleSpec :=
  match spec with
  | .v1 _ => (pydantic.styleSpecV1 (pydantic.modelDump spec).tuples).map .v1
  | .v11 _ => (pydantic.styleSpecV11 (pydantic.modelDump spec).tuples).map .v11

/-- `==` of two compiled specifications.  The text of the hash tells all their
fields, and no zero from the other, as `==` does not. -/
def sameCompiled (a b : Compiled.StyleSpec) : Bool :=
  Json.dumps false a.toStyleSpecParts.payload = Json.dumps false b.toStyleSpecParts.payload &&
    a.compiledSpecHash = b.compiledSpecHash

/-- `_validate_production_binding`, once the specification is compiled again
and found the same.  The plan of the caller is one of its own compiled
specification. -/
def validateIndependent (binding : LoadedBinding) (compiled : Compiled.StyleSpec)
    (generationProfile : GenerationProfile) (outputProfile : OutputProfile)
    (environmentHash : Sha256) (graph : Compiled.ExecutionGraph)
    (plan : Compiled.VerificationPlan) (context : CompilerContext) (mappings : Mappings)
    (structurePin : Option (Option ResourcePin)) (independent : Compiled.StyleSpec) :
    Option Compiled.VerificationPlan := do
  let matching ← one compiled.verificationPlans fun item => item.outputProfile = outputProfile
  let canonical ← one independent.verificationPlans fun item => item.outputProfile = outputProfile
  contract (generationProfile = .production && plan = matching &&
    !hasUnsupportedApplicableScope plan outputProfile)
  validateLoadedBinding binding graph environmentHash
  validateRuleBindings context binding independent canonical mappings
  structurePin.forM fun pin => validateStructureImplementationPin pin canonical
  return canonical

/-- `_validate_production_binding`; the pin of the structure verifier is given
where it is validated. -/
def validateProductionBinding (pydantic : Spec.Pydantic) (hashBytes : Bytes → Sha256)
    (binding : LoadedBinding) (compiled : Compiled.StyleSpec) (generationProfile : GenerationProfile)
    (outputProfile : OutputProfile) (environmentHash : Sha256) (graph : Compiled.ExecutionGraph)
    (plan : Compiled.VerificationPlan) (context : CompilerContext) (mappings : Mappings)
    (structurePin : Option (Option ResourcePin)) :
    Option (Compiled.StyleSpec × Compiled.VerificationPlan) := do
  let snapshot ← sourceSnapshot pydantic compiled.sourceSpec
  let independent ← (Compiler.compileStyleSpec hashBytes snapshot context).toOption
  contract (sameCompiled independent compiled)
  let canonical ← validateIndependent binding compiled generationProfile outputProfile
    environmentHash graph plan context mappings structurePin independent
  return (independent, canonical)

end Production

end SpecStyle
