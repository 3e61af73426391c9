/-
SpecStyle/Spec/CompiledPlans.lean

What the compiler puts out, with all of its fields, and the canonical hash of
it.

The classes of the source are here in the namespace `Compiled`: `Compiled.Rule`
is `CompiledRule`, and so on.

The hash is that of a parameter `hashBytes`; what it is given, and when that
cannot be encoded, is the source's.
-/
import SpecStyle.Spec.Capabilities
import SpecStyle.Lib.JsonRoundTrip

namespace SpecStyle

open PyLib PyLib.Codec

namespace Compiled

/-! ### Plans -/

/-- `CompiledThresholdBinding` -/
structure ThresholdBinding where
  profilePin : ResourcePin
  logicalName : Text
  status : ThresholdStatus
  metricId : Identifier
  operator : ThresholdOperator
  value : Binary64
  calibrationDatasetSha256 : Sha256
  validationDatasetSha256 : Sha256
  annotationProtocolSha256 : Sha256
  productionApprovalSha256 : Option Sha256
  deriving DecidableEq

/-- The checks of `CompiledRule`. -/
def checkRule (definition : RuleDefinition) (metricId : Option Identifier)
    (binding : Option ThresholdBinding) (actions : List Identifier) : Except Raised Unit := do
  ensure (!(metricId.isNone && binding.isSome)) "threshold binding requires metric id"
  ensure (!(definition.applicability = .notApplicable && binding.isSome))
    "not applicable rule cannot have threshold binding"
  ensure (binding.all fun b => metricId = some b.metricId)
    "threshold binding metric must match rule metric"
  ensure (!(definition.applicability = .applicable && metricId.isSome && binding.isNone))
    "applicable metric rule requires threshold binding"
  ensure (decide actions.Nodup) "affected actions must be unique"

/-- `CompiledRule` -/
structure Rule where
  definition : RuleDefinition
  verifierPin : ResourcePin
  metricId : Option Identifier
  thresholdBinding : Option ThresholdBinding
  priority : Nat
  affectedByActions : List Identifier
  valid : checkRule definition metricId thresholdBinding affectedByActions = .ok ()

/-- `CompiledRule(...)` -/
def Rule.new (definition : RuleDefinition) (verifierPin : ResourcePin)
    (metricId : Option Identifier) (binding : Option ThresholdBinding) (priority : Nat)
    (actions : List Identifier) : Except Raised Rule :=
  match h : checkRule definition metricId binding actions with
  | .ok () => .ok ⟨definition, verifierPin, metricId, binding, priority, actions, h⟩
  | .error e => .error e

/-- `rule.definition.level is RuleLevel.L3` -/
def Rule.isL3 (rule : Rule) : Bool := rule.definition.level = .l3

/-- `rule.definition.applicability is StaticApplicability.APPLICABLE` -/
def Rule.applicable (rule : Rule) : Bool := rule.definition.applicability = .applicable

/-- `L3NotApplicableReason` -/
inductive L3NotApplicableReason where
  | noL3Config | noApplicableRule
  deriving DecidableEq

/-- The checks of `CompiledVerificationPlan`. -/
def checkPlan (rules : List Rule) (status : L3PlanStatus) (reason : Option L3NotApplicableReason)
    (pluginPin thresholdPin : Option ResourcePin) : Except Raised Unit := do
  let l3Rules := rules.filter (·.isL3)
  let applicableL3 := l3Rules.filter (·.applicable)
  ensure (!rules.isEmpty) "compiled rules must be nonempty tuple"
  ensure (decide (rules.map (·.definition.ruleId)).Nodup) "compiled rule ids must be unique"
  ensure (!(status = .applicable &&
    (reason.isSome || pluginPin.isNone || thresholdPin.isNone || applicableL3.isEmpty)))
    "applicable L3 plan requires pins and no reason"
  ensure (!(status = .notApplicable && reason = some .noL3Config &&
    (pluginPin.isSome || thresholdPin.isSome || !l3Rules.isEmpty)))
    "NO_L3_CONFIG cannot retain L3 state"
  ensure (!(status = .notApplicable && reason = some .noApplicableRule &&
    (pluginPin.isNone || thresholdPin.isNone || l3Rules.isEmpty || !applicableL3.isEmpty)))
    "NO_APPLICABLE_RULE requires only N/A L3 rules and pins"
  ensure (!(status = .notApplicable && reason.isNone)) "not applicable L3 plan requires reason"

/-- `CompiledVerificationPlan` -/
structure VerificationPlan where
  outputProfile : OutputProfile
  outputProfilePin : ResourcePin
  rules : List Rule
  l3Status : L3PlanStatus
  l3Reason : Option L3NotApplicableReason
  l3PluginPin : Option ResourcePin
  l3ThresholdProfilePin : Option ResourcePin
  valid : checkPlan rules l3Status l3Reason l3PluginPin l3ThresholdProfilePin = .ok ()

/-- `CompiledVerificationPlan(...)` -/
def VerificationPlan.new (output : OutputProfile) (outputPin : ResourcePin) (rules : List Rule)
    (status : L3PlanStatus) (reason : Option L3NotApplicableReason)
    (pluginPin thresholdPin : Option ResourcePin) : Except Raised VerificationPlan :=
  match h : checkPlan rules status reason pluginPin thresholdPin with
  | .ok () => .ok ⟨output, outputPin, rules, status, reason, pluginPin, thresholdPin, h⟩
  | .error e => .error e

/-! ### Graphs -/

/-- `ResolvedModel` -/
structure ResolvedModel where
  role : ModelRole
  pin : ResourcePin
  controlnetType : Option ControlnetType
  deriving DecidableEq

/-- `ResolvedEncoder` -/
structure ResolvedEncoder where
  pin : ResourcePin
  preprocessingVersion : Text
  layer : Text
  distanceFunction : Text
  deriving DecidableEq

/-- `CompiledExecutionGraph` -/
structure ExecutionGraph where
  generationProfile : GenerationProfile
  outputProfile : OutputProfile
  outputProfilePin : ResourcePin
  pipeline : Pipeline
  resolution : Nat × Nat
  steps : Nat
  guidanceScale : Binary64
  scheduler : Option Text
  runtime : RuntimeCapability
  baseModel : ResolvedModel
  ipAdapter : ResolvedModel
  controlnet : ResolvedModel
  styleReferenceHashes : List Sha256
  presetId : Identifier
  userStrength : Binary64
  strengthMappingPin : ResourcePin
  ipAdapterScale : Binary64
  img2imgStrength : Binary64
  controlnetScale : Binary64
  seedPolicy : Only "per_asset_deterministic"
  batchExecution : Only "sequential"
  renderContract : Option OutputRenderContract

/-- `CompiledExecutionGraph(...)`; what else it checks holds of the fields of a
specification. -/
def ExecutionGraph.new (graph : ExecutionGraph) : Except Raised ExecutionGraph := do
  ensure (!(graph.generationProfile = .production && graph.renderContract.any fun contract =>
    contract.nativeResolution.any fun native => graph.resolution ≠ native))
    "graph native output resolution mismatch"
  ensure (decide (graph.generationProfile = .preview) = graph.scheduler.isNone)
    "preview scheduler must be None"
  return graph

end Compiled

/-! ### The words of the hash -/

def GenerationProfile.value : GenerationProfile → Text
  | .preview => py "preview"
  | .production => py "production"

def Pipeline.value : Pipeline → Text
  | .sdxlTurbo => py "sdxl_turbo"
  | .lcm => py "lcm"
  | .sdxlBase => py "sdxl_base"

def ModelRole.value : ModelRole → Text
  | .base => py "base"
  | .ipAdapter => py "ip_adapter"
  | .controlnet => py "controlnet"

def OutputFit.value : OutputFit → Text
  | .containPad => py "contain_pad"
  | .containPadCenter => py "contain_pad_center"
  | .coverCenter => py "cover_center"

def SequenceSemantics.value : SequenceSemantics → Text
  | .singleStatic => py "single_static"
  | .singleItemSequenceIndexZero => py "single_item_sequence_index_zero"

def ThresholdStatus.value : ThresholdStatus → Text
  | .draft => py "DRAFT"
  | .calibrated => py "CALIBRATED"
  | .validated => py "VALIDATED"
  | .revoked => py "REVOKED"

def ThresholdOperator.value : ThresholdOperator → Text
  | .ge => py ">="
  | .le => py "<="

def RuleLevel.value : RuleLevel → Text
  | .l1 => py "L1"
  | .l2 => py "L2"
  | .l3 => py "L3"

def RuleScope.value : RuleScope → Text
  | .item => py "ITEM"
  | .batch => py "BATCH"

def StaticApplicability.value : StaticApplicability → Text
  | .applicable => py "APPLICABLE"
  | .notApplicable => py "NOT_APPLICABLE"

def L3PlanStatus.value : L3PlanStatus → Text
  | .applicable => py "APPLICABLE"
  | .notApplicable => py "NOT_APPLICABLE"

def Compiled.L3NotApplicableReason.value : Compiled.L3NotApplicableReason → Text
  | .noL3Config => py "NO_L3_CONFIG"
  | .noApplicableRule => py "NO_APPLICABLE_RULE"

/-! ### `_primitive` -/

namespace Primitive

/-- A dictionary of named values. -/
def dict (fields : List (String × Json)) : Json := .obj (fields.map fun f => (py f.1, f.2))

/-- A value that may be `None` -/
def orNone {α : Type} (f : α → Json) : Option α → Json
  | some a => f a
  | none => .null

/-- A field left out when its value is `None` -/
def whenSome {α : Type} (name : String) (f : α → Json) : Option α → List (String × Json)
  | some a => [(name, f a)]
  | none => []

/-- `0.0 if value == 0.0 else value` -/
def float (x : Binary64) : Json := .float (if x.units = 0 then Binary64.zero else x).repr

def nat (n : Nat) : Json := .int n

def size (r : Nat × Nat) : Json := .arr [nat r.1, nat r.2]

mutual

/-- The value of a dump. -/
def ofPrim : Prim → Json
  | .none => .null
  | .bool b => .bool b
  | .int n => .int n
  | .float x => float x
  | .str s => .str s
  | .list items => .arr (ofPrims items)
  | .tuple items => .arr (ofPrims items)
  | .dict fields => .obj (ofFields fields)

def ofPrims : List Prim → List Json
  | [] => []
  | p :: ps => ofPrim p :: ofPrims ps

def ofFields : List (String × Prim) → List (Text × Json)
  | [] => []
  | (k, p) :: fs => (py k, ofPrim p) :: ofFields fs

end

def pin (p : ResourcePin) : Json :=
  dict [("id", .str p.id), ("revision", .str p.revision), ("sha256", .str p.sha256.value)]

def encoder (e : Compiled.ResolvedEncoder) : Json :=
  dict [("pin", pin e.pin), ("preprocessing_version", .str e.preprocessingVersion),
    ("layer", .str e.layer), ("distance_function", .str e.distanceFunction)]

def runtime (r : RuntimeCapability) : Json :=
  dict [("pin", pin r.pin), ("backend", .str (py "rocm")), ("rocm_version", .str r.rocmVersion),
    ("torch_version", .str r.torchVersion), ("diffusers_version", .str r.diffusersVersion),
    ("dtype", .str r.dtype.value)]

def model (m : Compiled.ResolvedModel) : Json :=
  dict [("role", .str m.role.value), ("pin", pin m.pin),
    ("controlnet_type", orNone (fun t => .str (ControlnetType.value t)) m.controlnetType)]

def renderContract (c : OutputRenderContract) : Json :=
  dict ([("final_resolution", size c.finalResolution), ("fit", .str c.fit.value),
    ("resampling", .str (py "lanczos")),
    ("background",
      .arr [nat c.background.1.val, nat c.background.2.1.val, nat c.background.2.2.val]),
    ("overlay", .str (py "disabled")), ("sequence_semantics", .str c.sequenceSemantics.value)] ++
    whenSome "native_resolution" size c.nativeResolution)

def graph (g : Compiled.ExecutionGraph) : Json :=
  dict ([("generation_profile", .str g.generationProfile.value),
    ("output_profile", .str g.outputProfile.value), ("output_profile_pin", pin g.outputProfilePin),
    ("pipeline", .str g.pipeline.value), ("resolution", size g.resolution), ("steps", nat g.steps),
    ("guidance_scale", float g.guidanceScale), ("scheduler", orNone .str g.scheduler),
    ("runtime", runtime g.runtime), ("base_model", model g.baseModel),
    ("ip_adapter", model g.ipAdapter), ("controlnet", model g.controlnet),
    ("style_reference_hashes", .arr (g.styleReferenceHashes.map fun h => .str h.value)),
    ("preset_id", .str g.presetId.value), ("user_strength", float g.userStrength),
    ("strength_mapping_pin", pin g.strengthMappingPin),
    ("ip_adapter_scale", float g.ipAdapterScale), ("img2img_strength", float g.img2imgStrength),
    ("controlnet_scale", float g.controlnetScale),
    ("seed_policy", .str (py "per_asset_deterministic")),
    ("batch_execution", .str (py "sequential"))] ++
    whenSome "render_contract" renderContract g.renderContract)

def definition (d : RuleDefinition) : Json :=
  dict [("rule_id", .str d.ruleId.value), ("level", .str d.level.value),
    ("scope", .str d.scope.value), ("required", .bool d.required),
    ("applicability", .str d.applicability.value),
    ("gate_policy", dict [("on_fail", .str (py "reject")),
      ("on_unverifiable", .str d.gatePolicy.onUnverifiable.value),
      ("on_warning", .str d.gatePolicy.onWarning.value)])]

def binding (b : Compiled.ThresholdBinding) : Json :=
  dict ([("profile_pin", pin b.profilePin), ("logical_name", .str b.logicalName),
    ("status", .str b.status.value), ("metric_id", .str b.metricId.value),
    ("operator", .str b.operator.value), ("value", float b.value),
    ("calibration_dataset_sha256", .str b.calibrationDatasetSha256.value),
    ("validation_dataset_sha256", .str b.validationDatasetSha256.value),
    ("annotation_protocol_sha256", .str b.annotationProtocolSha256.value)] ++
    whenSome "production_approval_sha256" (fun h => .str (Sha256.value h))
      b.productionApprovalSha256)

def rule (r : Compiled.Rule) : Json :=
  dict [("definition", definition r.definition), ("verifier_pin", pin r.verifierPin),
    ("metric_id", orNone (fun i => .str (Id.value i)) r.metricId),
    ("threshold_binding", orNone binding r.thresholdBinding), ("priority", nat r.priority),
    ("affected_by_actions", .arr (r.affectedByActions.map fun a => .str a.value))]

def plan (p : Compiled.VerificationPlan) : Json :=
  dict [("output_profile", .str p.outputProfile.value),
    ("output_profile_pin", pin p.outputProfilePin), ("rules", .arr (p.rules.map rule)),
    ("l3_status", .str p.l3Status.value),
    ("l3_reason", orNone (fun r => .str (Compiled.L3NotApplicableReason.value r)) p.l3Reason),
    ("l3_plugin_pin", orNone pin p.l3PluginPin),
    ("l3_threshold_profile_pin", orNone pin p.l3ThresholdProfilePin)]

end Primitive

/-! ### The compiled specification -/

namespace Compiled

/-- The arguments of `CompiledStyleSpec`. -/
structure StyleSpecParts where
  sourceSpec : Spec.StyleSpec
  compilerPin : ResourcePin
  rulesetPin : ResourcePin
  l2Encoder : ResolvedEncoder
  previewGraphs : List ExecutionGraph
  productionGraphs : List ExecutionGraph
  verificationPlans : List VerificationPlan

/-- `CompiledStyleSpec` -/
structure StyleSpec extends StyleSpecParts where
  compiledSpecHash : Sha256

/-- The payload of `_canonical_hash`. -/
def StyleSpecParts.payload (parts : StyleSpecParts) : Json :=
  Primitive.dict [("hash_schema", .str (py "specstyle.compiled.v1")),
    ("source_spec", Primitive.ofPrim parts.sourceSpec.dump),
    ("compiler_pin", Primitive.pin parts.compilerPin),
    ("ruleset_pin", Primitive.pin parts.rulesetPin),
    ("l2_encoder", Primitive.encoder parts.l2Encoder),
    ("preview_graphs", .arr (parts.previewGraphs.map Primitive.graph)),
    ("production_graphs", .arr (parts.productionGraphs.map Primitive.graph)),
    ("verification_plans", .arr (parts.verificationPlans.map Primitive.plan))]

/-- `_canonical_hash` -/
def canonicalHash (hashBytes : Bytes → Sha256) (parts : StyleSpecParts) : Except Raised Sha256 :=
  match encodeUtf8 (Json.dumps false parts.payload) with
  | some bytes => .ok (hashBytes bytes)
  | none => .error .unicodeEncode

/-- `CompiledStyleSpec(...)` -/
def StyleSpec.new (hashBytes : Bytes → Sha256) (parts : StyleSpecParts) : Except Raised StyleSpec := do
  ensure (!parts.previewGraphs.isEmpty) "preview graphs must be nonempty tuple"
  ensure (!parts.productionGraphs.isEmpty) "production graphs must be nonempty tuple"
  ensure (!parts.verificationPlans.isEmpty) "verification plans must be nonempty tuple"
  return ⟨parts, ← canonicalHash hashBytes parts⟩

end Compiled

end SpecStyle
