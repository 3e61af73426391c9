/-
SpecStyle/Spec/Capabilities.lean

What a compiler is given beside the specification: the capabilities of its
context.

A capability carries the checks of its constructor, but for those its types
make true and for the shape of free texts; no result here depends on either.
-/
import SpecStyle.Spec.Models

namespace SpecStyle

open PyLib PyLib.Codec

/-! ### Runtime, models and encoder -/

/-- `RuntimeCapability`, and `ResolvedRuntime`, which has the same fields -/
structure RuntimeCapability where
  pin : ResourcePin
  backend : Only "rocm"
  rocmVersion : Text
  torchVersion : Text
  diffusersVersion : Text
  dtype : Dtype
  deriving DecidableEq

/-- `Pipeline` -/
inductive Pipeline where
  | sdxlTurbo | lcm | sdxlBase
  deriving DecidableEq

/-- `ModelRole` -/
inductive ModelRole where
  | base | ipAdapter | controlnet
  deriving DecidableEq

/-- `ModelCapability` -/
structure ModelCapability where
  role : ModelRole
  pin : ResourcePin
  controlnetType : Option ControlnetType
  supportedPipelines : List Pipeline
  supportedDtypes : List Dtype
  supportedRuntimeHashes : List Sha256
  /-- "controlnet role/type mismatch" -/
  typed : role = .controlnet ↔ controlnetType.isSome = true
  deriving DecidableEq

/-- `EncoderCapability` -/
structure EncoderCapability where
  pin : ResourcePin
  preprocessingVersion : Text
  layer : Text
  distanceFunction : Text
  supportedRuntimeHashes : List Sha256
  deriving DecidableEq

/-! ### Strength mappings -/

/-- `StrengthMappingEntry` -/
structure StrengthMappingEntry where
  userStrength : Spec.ScaleValue
  previewIpAdapterScale : Spec.ScaleValue
  productionIpAdapterScale : Spec.ScaleValue
  deriving DecidableEq

/-- The checks of `StrengthMappingCapability`: at least two entries, strengths
that strictly cover the unit interval, scales that do not decrease. -/
def mappingEntries (entries : List StrengthMappingEntry) : Bool :=
  let strengths := entries.map (·.userStrength.val)
  2 ≤ entries.length &&
    strengths.head?.any (·.same .zero) && strengths.getLast?.any (·.same .one) &&
    (strengths.zip (strengths.drop 1)).all (fun p => p.1.lt p.2) &&
    (entries.zip (entries.drop 1)).all fun p =>
      !p.2.previewIpAdapterScale.val.lt p.1.previewIpAdapterScale.val &&
        !p.2.productionIpAdapterScale.val.lt p.1.productionIpAdapterScale.val

/-- `StrengthMappingCapability` -/
structure StrengthMappingCapability where
  pin : ResourcePin
  presetId : Identifier
  entries : List StrengthMappingEntry
  covers : mappingEntries entries = true
  deriving DecidableEq

/-! ### Outputs -/

/-- `OutputRenderContract.fit` -/
inductive OutputFit where
  | containPad | containPadCenter | coverCenter
  deriving DecidableEq

/-- `OutputRenderContract.sequence_semantics` -/
inductive SequenceSemantics where
  | singleStatic | singleItemSequenceIndexZero
  deriving DecidableEq

/-- `OutputRenderContract` -/
structure OutputRenderContract where
  finalResolution : Nat × Nat
  fit : OutputFit
  resampling : Only "lanczos"
  background : Byte × Byte × Byte
  overlay : Only "disabled"
  sequenceSemantics : SequenceSemantics
  nativeResolution : Option (Nat × Nat)
  /-- "invalid output render contract" -/
  positive : ∀ r ∈ finalResolution :: nativeResolution.toList, 1 ≤ r.1 ∧ 1 ≤ r.2
  deriving DecidableEq

/-- `OutputProfileCapability` -/
structure OutputProfileCapability where
  pin : ResourcePin
  profile : OutputProfile
  supportedDomains : List DomainProfile
  supportedGenerationProfiles : List GenerationProfile
  renderContract : Option OutputRenderContract
  deriving DecidableEq

/-! ### Thresholds -/

/-- `ThresholdMetricCapability` -/
structure ThresholdMetricCapability where
  metricId : Identifier
  operator : ThresholdOperator
  value : Binary64
  deriving DecidableEq

/-- `ThresholdProfileCapability.source` -/
inductive ProfileSource where
  | l2 | l3
  deriving DecidableEq

/-- `ThresholdProfileCapability` -/
structure ThresholdProfileCapability where
  pin : ResourcePin
  logicalName : Text
  source : ProfileSource
  status : ThresholdStatus
  stylePackId : Identifier
  domainProfile : DomainProfile
  encoderPin : Option ResourcePin
  pluginPin : Option ResourcePin
  metrics : List ThresholdMetricCapability
  calibrationDatasetSha256 : Sha256
  validationDatasetSha256 : Sha256
  annotationProtocolSha256 : Sha256
  productionApprovalSha256 : Option Sha256
  /-- "L2 threshold requires encoder pin only", "L3 threshold requires plugin pin only" -/
  pinned : encoderPin.isSome = decide (source = .l2) ∧ pluginPin.isSome = decide (source = .l3)
  /-- `_unique(..., "threshold metric ids")` -/
  metrics_nodup : metrics ≠ [] ∧ (metrics.map (·.metricId)).Nodup
  deriving DecidableEq

/-! ### Rules -/

/-- `RuleKind` -/
inductive RuleKind where
  | l1Technical | l2StyleFidelity | l2BatchConsistency | l3DomainFidelity | l3Diagnostic
  deriving DecidableEq

/-- `kind.startswith("L3_")` -/
def RuleKind.isL3 : RuleKind → Bool
  | .l3DomainFidelity | .l3Diagnostic => true
  | _ => false

/-- `RequirementMode` -/
inductive RequirementMode where
  | alwaysRequired | alwaysAdvisory | fidelityRequired
  deriving DecidableEq

/-- `ThresholdSource` -/
inductive ThresholdSource where
  | none | l2 | l3
  deriving DecidableEq

/-- `fixed`, and that an L3 kind is of level L3 -/
def RuleKind.level : RuleKind → RuleLevel
  | .l1Technical => .l1
  | .l2StyleFidelity | .l2BatchConsistency => .l2
  | .l3DomainFidelity | .l3Diagnostic => .l3

/-- The scope of `fixed`, if it fixes one. -/
def RuleKind.scope? : RuleKind → Option RuleScope
  | .l2StyleFidelity => some .item
  | .l2BatchConsistency => some .batch
  | _ => Option.none

/-- `RuleCapability` -/
structure RuleCapability where
  ruleId : RuleId
  kind : RuleKind
  level : RuleLevel
  scope : RuleScope
  requirement : RequirementMode
  supportedDomains : List DomainProfile
  supportedOutputProfiles : List OutputProfile
  verifierPin : ResourcePin
  thresholdSource : ThresholdSource
  metricId : Option Identifier
  priority : Nat
  affectedByActions : List Identifier
  /-- "metric/source mismatch" -/
  measured : thresholdSource = .none ↔ metricId = Option.none
  /-- `_unique(actions, "affected actions")` -/
  actions_nodup : affectedByActions.Nodup
  /-- "rule kind/level/scope mismatch", "L3 rule must be L3" -/
  kinded : level = kind.level ∧ ∀ s ∈ kind.scope?, scope = s
  /-- "threshold source/level mismatch" -/
  sourced : (thresholdSource = .l2 → level = .l2) ∧ (thresholdSource = .l3 → level = .l3)

/-- `RuleCatalogCapability` -/
structure RuleCatalogCapability where
  rulesetVersion : Text
  pin : ResourcePin
  rules : List RuleCapability
  /-- `_unique(..., "catalog rule ids")` -/
  rules_nodup : rules ≠ [] ∧ (rules.map (·.ruleId)).Nodup

/-- `L3PluginCapability` -/
structure L3PluginCapability where
  pin : ResourcePin
  domainProfile : DomainProfile
  domainVerifierVersion : Text
  supportedOutputProfiles : List OutputProfile
  rules : List RuleCapability
  /-- "plugin rules must be L3 RuleCapability" -/
  rules_l3 : ∀ rule ∈ rules, rule.level = .l3
  /-- `_unique(..., "plugin rule ids")` -/
  rules_nodup : rules ≠ [] ∧ (rules.map (·.ruleId)).Nodup

/-! ### The context -/

/-- `CompilerContext` -/
structure CompilerContext where
  compilerPin : ResourcePin
  runtimeCapabilities : List RuntimeCapability
  modelCapabilities : List ModelCapability
  encoderCapabilities : List EncoderCapability
  strengthMappings : List StrengthMappingCapability
  outputProfileCapabilities : List OutputProfileCapability
  ruleCatalogs : List RuleCatalogCapability
  thresholdProfiles : List ThresholdProfileCapability
  l3Plugins : List L3PluginCapability

end SpecStyle
