/-
SpecStyle/Spec/Compiler.lean

The compiler: one specification and one context to graphs and plans.

Every function of the source is here under its name, less the underscore, in
the namespace `Compiler`.  The compiler resolves each capability exactly once
(`one`) and raises otherwise; it reads nothing of a specification that one of
its versions does not have.
-/
import SpecStyle.Spec.CompiledPlans

namespace SpecStyle

namespace Compiler

open PyLib

variable {α : Type}

/-! ### Resolution -/

/-- `_one` -/
def one (values : List α) (selects : α → Bool) (name : String) : Except Raised α :=
  match values.filter selects with
  | [value] => .ok value
  | _ => .error (.domain (name ++ " must resolve exactly once"))

/-- `_pin_matches` -/
def pinMatches (pin : ResourcePin) (identifier revision : Text) (sha256 : Sha256) : Bool :=
  pin.id = identifier && pin.revision = revision && pin.sha256 = sha256

/-- The selection of `_runtime`. -/
def runtimeMatches (raw : Spec.StyleSpec) (item : RuntimeCapability) : Bool :=
  item.backend = raw.runtime.backend && item.rocmVersion = raw.runtime.rocmVersion.val &&
    item.torchVersion = raw.runtime.torchVersion.val &&
    item.diffusersVersion = raw.runtime.diffusersVersion.val && item.dtype = raw.runtime.dtype

/-- `_runtime` -/
def runtime (raw : Spec.StyleSpec) (context : CompilerContext) : Except Raised RuntimeCapability :=
  one context.runtimeCapabilities (runtimeMatches raw) "runtime"

/-- `_model_matches` -/
def modelMatches (capability : ModelCapability) (role : ModelRole) (identifier revision : Text)
    (sha256 : Sha256) (controlnetType : Option ControlnetType) : Bool :=
  capability.role = role && pinMatches capability.pin identifier revision sha256 &&
    capability.controlnetType = controlnetType

/-- A pipeline of the preview among all. -/
def pipelineOf : PreviewPipeline → Pipeline
  | .sdxlTurbo => .sdxlTurbo
  | .lcm => .lcm

/-- The name of a role in a message. -/
def roleName : ModelRole → String
  | .base => "base"
  | .ipAdapter => "ip_adapter"
  | .controlnet => "controlnet"

/-- One round of the loop of `_models`. -/
def model (raw : Spec.StyleSpec) (context : CompilerContext) (runtime : RuntimeCapability)
    (role : ModelRole) (identifier revision : Text) (sha256 : Sha256)
    (controlnetType : Option ControlnetType) : Except Raised Compiled.ResolvedModel := do
  let capability ← one context.modelCapabilities
    (modelMatches · role identifier revision sha256 controlnetType) (roleName role ++ " model")
  ensure (runtime.pin.sha256 ∈ capability.supportedRuntimeHashes &&
      runtime.dtype ∈ capability.supportedDtypes &&
      pipelineOf raw.profiles.preview.pipeline ∈ capability.supportedPipelines &&
      Pipeline.sdxlBase ∈ capability.supportedPipelines)
    (roleName role ++ " model does not support resolved graph")
  return ⟨role, capability.pin, controlnetType⟩

/-- The three models of a graph. -/
structure ResolvedModels where
  base : Compiled.ResolvedModel
  ipAdapter : Compiled.ResolvedModel
  controlnet : Compiled.ResolvedModel

/-- `_models` -/
def models (raw : Spec.StyleSpec) (context : CompilerContext) (runtime : RuntimeCapability) :
    Except Raised ResolvedModels := do
  let spec := raw.models
  let base ← model raw context runtime .base spec.base.id.val spec.base.revision.val
    spec.base.sha256 none
  let ipAdapter ← model raw context runtime .ipAdapter spec.ipAdapter.id.val
    spec.ipAdapter.revision.val spec.ipAdapter.sha256 none
  let controlnet ← model raw context runtime .controlnet spec.controlnet.id.val
    spec.controlnet.revision.val spec.controlnet.sha256 (some spec.controlnet.type)
  return ⟨base, ipAdapter, controlnet⟩

/-- The selection of `_encoder`. -/
def encoderMatches (raw : Spec.StyleSpec) (item : EncoderCapability) : Bool :=
  let l2 := raw.verification.l2
  pinMatches item.pin l2.encoderId.val l2.encoderRevision.val item.pin.sha256 &&
    item.preprocessingVersion = l2.preprocessingVersion.val

/-- `_encoder` -/
def encoder (raw : Spec.StyleSpec) (context : CompilerContext) (runtime : RuntimeCapability) :
    Except Raised Compiled.ResolvedEncoder := do
  let capability ← one context.encoderCapabilities (encoderMatches raw) "L2 encoder"
  ensure (runtime.pin.sha256 ∈ capability.supportedRuntimeHashes)
    "encoder does not support resolved runtime"
  return ⟨capability.pin, capability.preprocessingVersion, capability.layer,
    capability.distanceFunction⟩

/-- The entry of a mapping for the strength of a specification. -/
def mappingEntry (raw : Spec.StyleSpec) (mapping : StrengthMappingCapability) :
    Except Raised StrengthMappingEntry :=
  one mapping.entries (fun item => item.userStrength.val.same raw.style.userStrength.val)
    "strength mapping entry"

/-- `_mapping` -/
def mapping (raw : Spec.StyleSpec) (context : CompilerContext) :
    Except Raised StrengthMappingCapability := do
  let capability ← one context.strengthMappings (fun item => item.presetId = raw.style.presetId)
    "strength mapping"
  let entry ← mappingEntry raw capability
  ensure (entry.previewIpAdapterScale.val.same raw.style.previewIpAdapterScale.val &&
      entry.productionIpAdapterScale.val.same raw.style.productionIpAdapterScale.val)
    "raw scales do not match strength mapping"
  return capability

/-- The name of an output profile in a message. -/
def outputName : OutputProfile → String
  | .xhsGrid => "xhs_grid"
  | .talkingHeadCover => "talking_head_cover"
  | .backgroundSequence => "background_sequence"

/-- `_output` -/
def output (domain : DomainProfile) (output : OutputProfile) (context : CompilerContext) :
    Except Raised OutputProfileCapability := do
  let capability ← one context.outputProfileCapabilities (fun item => item.profile = output)
    ("output profile " ++ outputName output)
  ensure (domain ∈ capability.supportedDomains &&
      GenerationProfile.preview ∈ capability.supportedGenerationProfiles &&
      GenerationProfile.production ∈ capability.supportedGenerationProfiles)
    "output profile is incompatible"
  return capability

/-- `_outputs` -/
def outputs (raw : Spec.StyleSpec) (context : CompilerContext) :
    Except Raised (List OutputProfileCapability) :=
  raw.outputs.profiles.val.mapM fun profile => output raw.domain.profile profile context

/-! ### Rules -/

/-- `_catalog` -/
def catalog (raw : Spec.StyleSpec) (context : CompilerContext) :
    Except Raised RuleCatalogCapability :=
  one context.ruleCatalogs
    (fun item => item.rulesetVersion = raw.verification.rulesetVersion.val) "ruleset"

/-- `_unique_rule_ids` -/
def uniqueRuleIds (rules : List RuleCapability) : Except Raised Unit :=
  ensure (decide (rules.map (·.ruleId)).Nodup) "compiled rules must have unique rule ids"

/-- `_validate_catalog` -/
def validateCatalog (catalog : RuleCatalogCapability) : Except Raised Unit := do
  let rules := catalog.rules
  ensure ((rules.filter (·.kind = .l2StyleFidelity)).length == 1 &&
      (rules.filter (·.kind = .l2BatchConsistency)).length == 1 &&
      rules.any (·.kind = .l1Technical))
    "catalog must contain L1 and exactly both L2 rules"
  ensure (!rules.any fun rule => rule.kind = .l1Technical && rule.thresholdSource ≠ .none)
    "L1 rules cannot use thresholds"
  ensure (!rules.any (·.kind.isL3)) "catalog cannot contain L3 rules"
  uniqueRuleIds rules

/-- `_required` -/
def required (rule : RuleCapability) (raw : Spec.StyleSpec) : Bool :=
  rule.requirement = .alwaysRequired ||
    (rule.requirement = .fidelityRequired && raw.domain.fidelityRequired)

/-- `_applicable` -/
def applicable (rule : RuleCapability) (domain : DomainProfile) (output : OutputProfile)
    (plugin : Option L3PluginCapability) : Bool :=
  domain ∈ rule.supportedDomains && output ∈ rule.supportedOutputProfiles &&
    (rule.level ≠ .l3 || plugin.any fun p => output ∈ p.supportedOutputProfiles)

/-- `rule.threshold_source == profile.source` -/
def ProfileSource.threshold : ProfileSource → ThresholdSource
  | .l2 => .l2
  | .l3 => .l3

/-- A rule that takes its threshold from a source, for some output. -/
def relevant (source : ProfileSource) (raw : Spec.StyleSpec) (plugin : Option L3PluginCapability)
    (rule : RuleCapability) : Bool :=
  rule.thresholdSource = ProfileSource.threshold source &&
    raw.outputs.profiles.val.any fun output => applicable rule raw.domain.profile output plugin

/-- `_expected_metrics` -/
def expectedMetrics (rules : List RuleCapability) (source : ProfileSource) (raw : Spec.StyleSpec)
    (plugin : Option L3PluginCapability) : List Identifier :=
  (rules.filter (relevant source raw plugin)).filterMap (·.metricId)

/-- `{metric.metric_id for metric in profile.metrics} == expected` -/
def sameMetrics (profile : ThresholdProfileCapability) (expected : List Identifier) : Bool :=
  let ids := profile.metrics.map (·.metricId)
  ids.all (fun id => id ∈ expected) && expected.all fun id => id ∈ ids

/-- `_validate_threshold_status` -/
def validateThresholdStatus (profile : ThresholdProfileCapability) (rules : List RuleCapability)
    (raw : Spec.StyleSpec) (plugin : Option L3PluginCapability) : Except Raised Unit := do
  ensure (profile.status ≠ .revoked) "revoked threshold profile"
  ensure (!((rules.filter (relevant profile.source raw plugin)).any (required · raw) &&
      profile.status ≠ .validated))
    "required threshold profile must be validated"

/-- The selection of `_l2_profile`. -/
def l2ProfileMatches (raw : Spec.StyleSpec) (item : ThresholdProfileCapability) : Bool :=
  let reference := raw.verification.l2.thresholdProfile
  item.source = .l2 &&
    pinMatches item.pin reference.id.value reference.revision.val reference.sha256

/-- `_l2_profile` -/
def l2Profile (raw : Spec.StyleSpec) (context : CompilerContext)
    (encoder : Compiled.ResolvedEncoder) (catalog : RuleCatalogCapability) :
    Except Raised ThresholdProfileCapability := do
  let profile ← one context.thresholdProfiles (l2ProfileMatches raw) "L2 threshold profile"
  ensure (profile.stylePackId = raw.style.presetId && profile.domainProfile = raw.domain.profile &&
      profile.encoderPin = some encoder.pin)
    "L2 threshold profile binding mismatch"
  ensure (sameMetrics profile (expectedMetrics catalog.rules .l2 raw none))
    "L2 threshold metrics mismatch"
  validateThresholdStatus profile catalog.rules raw none
  return profile

/-- The selection of the plugin in `_l3_resolution`. -/
def pluginMatches (raw : Spec.StyleSpec) (config : Spec.L3Config) (item : L3PluginCapability) : Bool :=
  pinMatches item.pin config.pluginId.val config.pluginRevision.val item.pin.sha256 &&
    item.domainProfile = raw.domain.profile &&
    raw.domain.verifierVersion.any fun version => item.domainVerifierVersion = version.val

/-- The selection of the profile in `_l3_resolution`. -/
def l3ProfileMatches (raw : Spec.StyleSpec) (config : Spec.L3Config) (plugin : L3PluginCapability)
    (item : ThresholdProfileCapability) : Bool :=
  item.source = .l3 && item.logicalName = config.thresholdProfile.val &&
    item.stylePackId = raw.style.presetId && item.domainProfile = raw.domain.profile &&
    item.pluginPin = some plugin.pin

/-- `_l3_resolution` -/
def l3Resolution (raw : Spec.StyleSpec) (context : CompilerContext) :
    Except Raised (Option (L3PluginCapability × ThresholdProfileCapability)) :=
  match raw.verification.l3 with
  | none => do
    ensure (!raw.domain.fidelityRequired) "fidelity required needs L3 configuration"
    return none
  | some config => do
    ensure raw.domain.verifierVersion.isSome "L3 config needs domain verifier version"
    let plugin ← one context.l3Plugins (pluginMatches raw config) "L3 plugin"
    let profile ← one context.thresholdProfiles (l3ProfileMatches raw config plugin)
      "L3 threshold profile"
    let expected := expectedMetrics plugin.rules .l3 raw (some plugin)
    ensure (expected.isEmpty || sameMetrics profile expected) "L3 threshold metrics mismatch"
    validateThresholdStatus profile plugin.rules raw (some plugin)
    return some (plugin, profile)

/-- The gate that `_validate_l3` looks for, for one output. -/
def fidelityGate (raw : Spec.StyleSpec) (plugin : L3PluginCapability) (output : OutputProfile)
    (rule : RuleCapability) : Bool :=
  rule.kind = .l3DomainFidelity && applicable rule raw.domain.profile output (some plugin) &&
    required rule raw

/-- `_validate_l3` -/
def validateL3 (raw : Spec.StyleSpec)
    (l3 : Option (L3PluginCapability × ThresholdProfileCapability)) : Except Raised Unit :=
  if raw.domain.fidelityRequired then
    match l3 with
    | none => .error (.domain "fidelity required needs validated L3")
    | some (plugin, profile) => do
      ensure (profile.status = .validated) "fidelity required needs validated L3"
      raw.outputs.profiles.val.forM fun output =>
        ensure (plugin.rules.any (fidelityGate raw plugin output))
          "each output needs applicable L3 fidelity gate"
  else .ok ()

/-! ### Plans -/

/-- `_binding` -/
def binding (rule : RuleCapability) (active : Bool) (l2Profile : ThresholdProfileCapability)
    (l3Profile : Option ThresholdProfileCapability) :
    Except Raised (Option Compiled.ThresholdBinding) :=
  match active, rule.metricId with
  | true, some metricId => do
    let profile := match rule.thresholdSource with
      | .l2 => some l2Profile
      | .l3 => l3Profile
      | .none => none
    match profile with
    | none => .error (.domain "applicable threshold rule lacks profile")
    | some profile =>
      let metric ← one profile.metrics (fun item => item.metricId = metricId) "threshold metric"
      return some ⟨profile.pin, profile.logicalName, profile.status, metric.metricId,
        metric.operator, metric.value, profile.calibrationDatasetSha256,
        profile.validationDatasetSha256, profile.annotationProtocolSha256,
        profile.productionApprovalSha256⟩
  | _, _ => .ok none

/-- `RuleDefinition(...)` -/
def ruleDefinition (rule : RuleCapability) (required : Bool) (applicability : StaticApplicability)
    (gatePolicy : GatePolicy) : Except Raised RuleDefinition :=
  if h : required = true → gatePolicy.onWarning ≠ .continue then
    .ok ⟨rule.ruleId, rule.level, rule.scope, required, applicability, gatePolicy, h⟩
  else .error (.domain "required rule cannot continue on warning")

/-- `_compiled_rule` -/
def compiledRule (rule : RuleCapability) (raw : Spec.StyleSpec) (output : OutputProfile)
    (l2Profile : ThresholdProfileCapability)
    (l3 : Option (L3PluginCapability × ThresholdProfileCapability)) :
    Except Raised Compiled.Rule := do
  let active := applicable rule raw.domain.profile output (l3.map Prod.fst)
  let definition ← ruleDefinition rule (required rule raw)
    (if active then .applicable else .notApplicable) raw.verification.gateDefaults
  let binding ← binding rule active l2Profile (l3.map Prod.snd)
  Compiled.Rule.new definition rule.verifierPin rule.metricId binding rule.priority
    (rule.affectedByActions.insertionSort fun a b => a.value ≤ b.value)

/-- `catalog.rules + (() if plugin is None else plugin.rules)` -/
def sourceRules (catalog : RuleCatalogCapability)
    (l3 : Option (L3PluginCapability × ThresholdProfileCapability)) : List RuleCapability :=
  catalog.rules ++ (l3.map fun p => p.1.rules).getD []

/-- `_plan` -/
def plan (raw : Spec.StyleSpec) (output : OutputProfileCapability) (catalog : RuleCatalogCapability)
    (l2Profile : ThresholdProfileCapability)
    (l3 : Option (L3PluginCapability × ThresholdProfileCapability)) :
    Except Raised Compiled.VerificationPlan := do
  uniqueRuleIds (sourceRules catalog l3)
  let compiled ← (sourceRules catalog l3).mapM fun rule =>
    compiledRule rule raw output.profile l2Profile l3
  let rules := compiled.insertionSort fun a b => a.definition.ruleId.value ≤ b.definition.ruleId.value
  match l3 with
  | none =>
    Compiled.VerificationPlan.new output.profile output.pin rules .notApplicable
      (some .noL3Config) none none
  | some (plugin, profile) =>
    if (rules.filter fun rule => rule.isL3 && rule.applicable).isEmpty then
      Compiled.VerificationPlan.new output.profile output.pin rules .notApplicable
        (some .noApplicableRule) (some plugin.pin) (some profile.pin)
    else
      Compiled.VerificationPlan.new output.profile output.pin rules .applicable none
        (some plugin.pin) (some profile.pin)

/-- An applicable required rule of level L1. -/
def isL1Gate (rule : Compiled.Rule) : Bool :=
  rule.definition.level = .l1 && rule.definition.required && rule.applicable

/-- `_validate_l1_coverage` -/
def validateL1Coverage (plans : List Compiled.VerificationPlan) (raw : Spec.StyleSpec) :
    Except Raised Unit :=
  (plans.zip raw.outputs.profiles.val).forM fun (plan, output) =>
    ensure (plan.rules.any isL1Gate)
      ("output " ++ outputName output ++ " has no applicable required L1")

/-! ### Graphs -/

/-- A size of two members. -/
def sizeOf (r : Spec.ResolutionMember × Spec.ResolutionMember) : Nat × Nat := (r.1.val, r.2.val)

/-- `_graph` -/
def graph (raw : Spec.StyleSpec) (output : OutputProfileCapability) (profile : GenerationProfile)
    (runtime : RuntimeCapability) (models : ResolvedModels) (mapping : StrengthMappingCapability)
    (entry : StrengthMappingEntry) : Except Raised Compiled.ExecutionGraph :=
  let preview := raw.profiles.preview
  let production := raw.profiles.production
  Compiled.ExecutionGraph.new
    { generationProfile := profile
      outputProfile := output.profile
      outputProfilePin := output.pin
      pipeline := match profile with
        | .preview => pipelineOf preview.pipeline
        | .production => .sdxlBase
      resolution := match profile with
        | .preview => sizeOf preview.resolution
        | .production => sizeOf production.resolution
      steps := match profile with
        | .preview => preview.steps.val
        | .production => production.steps.val
      guidanceScale := match profile with
        | .preview => preview.guidanceScale.val
        | .production => production.guidanceScale.val
      scheduler := match profile with
        | .preview => none
        | .production => some production.scheduler.val
      runtime := runtime
      baseModel := models.base
      ipAdapter := models.ipAdapter
      controlnet := models.controlnet
      styleReferenceHashes := raw.assets.styleReferences.val.map (·.assetSha256)
      presetId := raw.style.presetId
      userStrength := raw.style.userStrength.val
      strengthMappingPin := mapping.pin
      ipAdapterScale := match profile with
        | .preview => entry.previewIpAdapterScale.val
        | .production => entry.productionIpAdapterScale.val
      img2imgStrength := raw.generation.img2imgStrength.val
      controlnetScale := raw.generation.controlnetScale.val
      seedPolicy := raw.generation.seedPolicy
      batchExecution := raw.generation.batchExecution
      renderContract := output.renderContract }

/-- `_graphs` -/
def graphs (raw : Spec.StyleSpec) (outputs : List OutputProfileCapability)
    (runtime : RuntimeCapability) (models : ResolvedModels) (mapping : StrengthMappingCapability) :
    Except Raised (List Compiled.ExecutionGraph × List Compiled.ExecutionGraph) := do
  let entry ← mappingEntry raw mapping
  let preview ← outputs.mapM fun output => graph raw output .preview runtime models mapping entry
  let production ← outputs.mapM fun output =>
    graph raw output .production runtime models mapping entry
  return (preview, production)

/-! ### The compiler -/

/-- `compile_style_spec`, up to the arguments of `CompiledStyleSpec` -/
def parts (raw : Spec.StyleSpec) (context : CompilerContext) :
    Except Raised Compiled.StyleSpecParts := do
  let runtime ← runtime raw context
  let models ← models raw context runtime
  let encoder ← encoder raw context runtime
  let mapping ← mapping raw context
  let outputs ← outputs raw context
  let catalog ← catalog raw context
  validateCatalog catalog
  let l2Profile ← l2Profile raw context encoder catalog
  let l3 ← l3Resolution raw context
  validateL3 raw l3
  let plans ← outputs.mapM fun output => plan raw output catalog l2Profile l3
  validateL1Coverage plans raw
  let graphs ← graphs raw outputs runtime models mapping
  return ⟨raw, context.compilerPin, catalog.pin, encoder, graphs.1, graphs.2, plans⟩

/-- `compile_style_spec` -/
def compileStyleSpec (hashBytes : Bytes → Sha256) (raw : Spec.StyleSpec)
    (context : CompilerContext) : Except Raised Compiled.StyleSpec := do
  let parts ← parts raw context
  Compiled.StyleSpec.new hashBytes parts

end Compiler

end SpecStyle
