/-
SpecStyle/Spec/Models.lean

The strict models of a style specification, versions 1.0 and 1.1.

Each model is a structure of fields that are valid by their types, and a
codec in the order of the source: its dump is `model_dump(mode="json")`, its
validation the constructor on keyword arguments.  Strings come from the
validator without lone surrogates.  A field with one admissible word is of
the type of that word (`Only`).

The calls themselves are pydantic's, which is no part of the source: where
the source dumps a specification and validates it again they are a parameter
(`Pydantic`), with what is relied on as its laws (`Pydantic.Documented`).
-/
import SpecStyle.Lib.Schema
import SpecStyle.Lib.FloatText
import SpecStyle.Spec.CompiledModels

namespace SpecStyle

open PyLib PyLib.Codec

/-! ### Literals -/

/-- `Literal["float16", "bfloat16"]` -/
inductive Dtype where
  | float16 | bfloat16
  deriving DecidableEq

/-- `Literal["sdxl_turbo", "lcm"]` -/
inductive PreviewPipeline where
  | sdxlTurbo | lcm
  deriving DecidableEq

/-- `Literal["not_applicable", "obtained"]` -/
inductive Consent where
  | notApplicable | obtained
  deriving DecidableEq

/-- `DomainProfile` -/
inductive DomainProfile where
  | productInstance | faceIdentity | structureOnly
  deriving DecidableEq

/-- `Literal["advisory", "strict"]` -/
inductive EnvironmentPolicy where
  | advisory | strict
  deriving DecidableEq

def Dtype.value : Dtype → Text
  | .float16 => py "float16"
  | .bfloat16 => py "bfloat16"

def ControlnetType.value : ControlnetType → Text
  | .canny => py "canny"
  | .depth => py "depth"
  | .pose => py "pose"

def PreviewPipeline.value : PreviewPipeline → Text
  | .sdxlTurbo => py "sdxl_turbo"
  | .lcm => py "lcm"

def Consent.value : Consent → Text
  | .notApplicable => py "not_applicable"
  | .obtained => py "obtained"

def DomainProfile.value : DomainProfile → Text
  | .productInstance => py "product_instance"
  | .faceIdentity => py "face_identity"
  | .structureOnly => py "structure_only"

def OnUnverifiable.value : OnUnverifiable → Text
  | .reject => py "reject"
  | .manualReview => py "manual_review"

def OnWarning.value : OnWarning → Text
  | .reject => py "reject"
  | .manualReview => py "manual_review"
  | .continue => py "continue"

def EnvironmentPolicy.value : EnvironmentPolicy → Text
  | .advisory => py "advisory"
  | .strict => py "strict"

namespace Spec

/-! ### Constrained texts and numbers -/

/-- `StringConstraints(min_length=1, max_length=limit)`, then `_safe_text` -/
def safeText (limit : Nat) (t : Text) : Bool :=
  1 ≤ t.length && t.length ≤ limit && !hasSurrogate t && isStripped t && t.all (!isControl ·)

abbrev SafeText := {t : Text // safeText 2048 t = true}
abbrev NameStr := {t : Text // safeText 256 t = true}

def safeTextCodec : Codec SafeText := .checked _
def nameStr : Codec NameStr := .checked _

/-- `IDLike`: the texts of an identifier -/
def idLike : Codec Identifier :=
  .text (fun t => if h : isIdText t = true then some ⟨t, h⟩ else none) (·.value)
    fun a => dif_pos a.valid

/-- The days of a month. -/
def daysInMonth (year month : Nat) : Nat :=
  if month = 2 then if (year % 4 = 0 ∧ year % 100 ≠ 0) ∨ year % 400 = 0 then 29 else 28
  else if month = 4 ∨ month = 6 ∨ month = 9 ∨ month = 11 then 30 else 31

/-- `\d{4}-\d{2}-\d{2}[Tt]\d{2}:\d{2}:\d{2}`, a digit for every `d` -/
def dateTimePattern : Text := py "dddd-dd-ddTdd:dd:dd"

/-- `(Z|z|[+-]\d{2}:\d{2})`, and a zone for `datetime.fromisoformat`: no lower
case, and an offset below a day -/
def isZone : Text → Bool
  | [z] => z = 0x5A
  | [sign, a, b, colon, c, d] =>
    (sign = 0x2B || sign = 0x2D) && [a, b, c, d].all isDigit && colon = 0x3A &&
      Json.digitsValue [a, b] * 60 + Json.digitsValue [c, d] < 24 * 60
  | _ => false

/-- `_rfc3339` -/
def rfc3339 (t : Text) : Bool :=
  let number (start length : Nat) : Nat := Json.digitsValue ((t.drop start).take length)
  t.length ≤ 64 && !hasSurrogate t && 19 ≤ t.length &&
    ((t.zip dateTimePattern).all fun p =>
      if p.2 = 0x64 then isDigit p.1 else p.1 = p.2 || (p.2 = 0x54 && p.1 = 0x74)) &&
    isZone (Json.fractionPart (t.drop 19)).2 &&
    -- `datetime.fromisoformat`
    1 ≤ number 0 4 && 1 ≤ number 5 2 && number 5 2 ≤ 12 && 1 ≤ number 8 2 &&
    number 8 2 ≤ daysInMonth (number 0 4) (number 5 2) &&
    number 11 2 < 24 && number 14 2 < 60 && number 17 2 < 60

abbrev Rfc3339Str := {t : Text // rfc3339 t = true}

def rfc3339Str : Codec Rfc3339Str := .checked _

/-- `_http_url`: `\Ahttps?://.+\Z` -/
def httpUrl (t : Text) : Bool :=
  let path := if (py "https://").isPrefixOf t then t.drop 8 else t.drop 7
  t.length ≤ 2083 && !hasSurrogate t &&
    ((py "http://").isPrefixOf t || (py "https://").isPrefixOf t) &&
    !path.isEmpty && path.all (· ≠ 0x0A)

abbrev HttpUrlStr := {t : Text // httpUrl t = true}

def httpUrlStr : Codec HttpUrlStr := .checked _

/-- `_sha256_adapter` -/
def sha256Str : Codec Sha256 :=
  .text (fun t => (Sha256.new t).toOption) (·.value) fun a => by rw [Sha256.new_value]; rfl

abbrev ScaleValue := {x : Binary64 // x.inUnit = true}

/-- `Field(ge=0, le=50)` -/
def guidance (x : Binary64) : Bool := 0 ≤ x.value && x.value ≤ 50 * Binary64.one.value

abbrev GuidanceValue := {x : Binary64 // guidance x = true}

/-- `Field(ge=1, le=200)` -/
def steps (n : Nat) : Bool := 1 ≤ n && n ≤ 200

abbrev StepsValue := {n : Nat // steps n = true}

/-- `Field(ge=64, le=4096, multiple_of=8)` -/
def resolutionMember (n : Nat) : Bool := 64 ≤ n && n ≤ 4096 && n % 8 == 0

abbrev ResolutionMember := {n : Nat // resolutionMember n = true}

def scaleValue : Codec ScaleValue := .number _ Binary64.ofInt
def guidanceValue : Codec GuidanceValue := .number _ Binary64.ofInt
def stepsValue : Codec StepsValue := .natural _
def resolution : Codec (ResolutionMember × ResolutionMember) := .pair (.natural _) (.natural _)

/-! ### Words -/

def dtype : Codec Dtype := .choice [.float16, .bfloat16] Dtype.value fun a => by cases a <;> decide
def controlnetType : Codec ControlnetType :=
  .choice [.canny, .depth, .pose] ControlnetType.value fun a => by cases a <;> decide
def previewPipeline : Codec PreviewPipeline :=
  .choice [.sdxlTurbo, .lcm] PreviewPipeline.value fun a => by cases a <;> decide
def consent : Codec Consent := .choice [.notApplicable, .obtained] Consent.value fun a => by cases a <;> decide
def domainProfile : Codec DomainProfile :=
  .choice [.productInstance, .faceIdentity, .structureOnly] DomainProfile.value fun a => by cases a <;> decide
def outputProfile : Codec OutputProfile :=
  .choice OutputProfile.all OutputProfile.value fun a => by cases a <;> decide
def onUnverifiable : Codec OnUnverifiable :=
  .choice [.reject, .manualReview] OnUnverifiable.value fun a => by cases a <;> decide
def onWarning : Codec OnWarning :=
  .choice [.reject, .manualReview, .continue] OnWarning.value fun a => by cases a <;> decide
def environmentPolicy : Codec EnvironmentPolicy :=
  .choice [.advisory, .strict] EnvironmentPolicy.value fun a => by cases a <;> decide

/-! ### Metadata to assets -/

structure Metadata where
  specId : Identifier
  name : NameStr
  author : NameStr
  createdAt : Rfc3339Str
  parentSpec : Option Identifier

def metadata : Codec Metadata :=
  .model (.record
    (.and (.field "spec_id" idLike) (.and (.field "name" nameStr) (.and (.field "author" nameStr)
      (.and (.field "created_at" rfc3339Str)
        (.default "parent_spec" (.optional idLike fun _ h => by cases h) none)))))
    (fun (a, b, c, d, e) => ⟨a, b, c, d, e⟩)
    (fun m => (m.specId, m.name, m.author, m.createdAt, m.parentSpec)) fun _ => rfl) (by decide)

structure Runtime where
  backend : Only "rocm"
  rocmVersion : SafeText
  torchVersion : SafeText
  diffusersVersion : SafeText
  dtype : Dtype

def runtime : Codec Runtime :=
  .model (.record
    (.and (.field "backend" (.only _)) (.and (.field "rocm_version" safeTextCodec)
      (.and (.field "torch_version" safeTextCodec)
        (.and (.field "diffusers_version" safeTextCodec) (.field "dtype" dtype)))))
    (fun (a, b, c, d, e) => ⟨a, b, c, d, e⟩)
    (fun m => (m.backend, m.rocmVersion, m.torchVersion, m.diffusersVersion, m.dtype)) fun _ => rfl)
    (by decide)

structure ModelPin where
  id : SafeText
  revision : SafeText
  sha256 : Sha256

def modelPin : Codec ModelPin :=
  .model (.record
    (.and (.field "id" safeTextCodec) (.and (.field "revision" safeTextCodec)
      (.field "sha256" sha256Str)))
    (fun (a, b, c) => ⟨a, b, c⟩) (fun m => (m.id, m.revision, m.sha256)) fun _ => rfl) (by decide)

structure ControlNetPin where
  type : ControlnetType
  id : SafeText
  revision : SafeText
  sha256 : Sha256

def controlNetPin : Codec ControlNetPin :=
  .model (.record
    (.and (.field "type" controlnetType) (.and (.field "id" safeTextCodec)
      (.and (.field "revision" safeTextCodec) (.field "sha256" sha256Str))))
    (fun (a, b, c, d) => ⟨a, b, c, d⟩) (fun m => (m.type, m.id, m.revision, m.sha256)) fun _ => rfl)
    (by decide)

structure Models where
  base : ModelPin
  ipAdapter : ModelPin
  controlnet : ControlNetPin

def models : Codec Models :=
  .model (.record
    (.and (.field "base" modelPin) (.and (.field "ip_adapter" modelPin)
      (.field "controlnet" controlNetPin)))
    (fun (a, b, c) => ⟨a, b, c⟩) (fun m => (m.base, m.ipAdapter, m.controlnet)) fun _ => rfl)
    (by decide)

structure StyleReference where
  assetSha256 : Sha256
  sourceUrl : HttpUrlStr
  license : SafeText
  attribution : SafeText
  consent : Consent

def styleReference : Codec StyleReference :=
  .model (.record
    (.and (.field "asset_sha256" sha256Str) (.and (.field "source_url" httpUrlStr)
      (.and (.field "license" safeTextCodec) (.and (.field "attribution" safeTextCodec)
        (.field "consent" consent)))))
    (fun (a, b, c, d, e) => ⟨a, b, c, d, e⟩)
    (fun m => (m.assetSha256, m.sourceUrl, m.license, m.attribution, m.consent)) fun _ => rfl)
    (by decide)

structure Assets where
  styleReferences : {refs : List StyleReference // (!refs.isEmpty) = true}

def assets : Codec Assets :=
  .model (.record (.field "style_references" (.refine (.tupleOf styleReference) _))
    (fun a => ⟨a⟩) (·.styleReferences) fun _ => rfl) (by decide)

/-! ### Profiles to outputs -/

structure PreviewProfile where
  pipeline : PreviewPipeline
  resolution : ResolutionMember × ResolutionMember
  steps : StepsValue
  guidanceScale : GuidanceValue

def previewProfile : Codec PreviewProfile :=
  .model (.record
    (.and (.field "pipeline" previewPipeline) (.and (.field "resolution" resolution)
      (.and (.field "steps" stepsValue) (.field "guidance_scale" guidanceValue))))
    (fun (a, b, c, d) => ⟨a, b, c, d⟩)
    (fun m => (m.pipeline, m.resolution, m.steps, m.guidanceScale)) fun _ => rfl) (by decide)

structure ProductionProfile where
  pipeline : Only "sdxl_base"
  resolution : ResolutionMember × ResolutionMember
  steps : StepsValue
  guidanceScale : GuidanceValue
  scheduler : SafeText

def productionProfile : Codec ProductionProfile :=
  .model (.record
    (.and (.field "pipeline" (.only _)) (.and (.field "resolution" resolution)
      (.and (.field "steps" stepsValue) (.and (.field "guidance_scale" guidanceValue)
        (.field "scheduler" safeTextCodec)))))
    (fun (a, b, c, d, e) => ⟨a, b, c, d, e⟩)
    (fun m => (m.pipeline, m.resolution, m.steps, m.guidanceScale, m.scheduler)) fun _ => rfl)
    (by decide)

structure Profiles where
  preview : PreviewProfile
  production : ProductionProfile

def profiles : Codec Profiles :=
  .model (.record
    (.and (.field "preview" previewProfile) (.field "production" productionProfile))
    (fun (a, b) => ⟨a, b⟩) (fun m => (m.preview, m.production)) fun _ => rfl) (by decide)

structure Style where
  presetId : Identifier
  userStrength : ScaleValue
  previewIpAdapterScale : ScaleValue
  productionIpAdapterScale : ScaleValue

/-- The fields that both versions of `Style` have. -/
def styleFields : Fields Style :=
  .record
    (.and (.field "preset_id" idLike) (.and (.field "user_strength" scaleValue)
      (.and (.field "preview_ip_adapter_scale" scaleValue)
        (.field "production_ip_adapter_scale" scaleValue))))
    (fun (a, b, c, d) => ⟨a, b, c, d⟩)
    (fun m => (m.presetId, m.userStrength, m.previewIpAdapterScale, m.productionIpAdapterScale))
    fun _ => rfl

def style : Codec Style := .model styleFields (by decide)

structure Generation where
  img2imgStrength : ScaleValue
  controlnetScale : ScaleValue
  seedPolicy : Only "per_asset_deterministic"
  batchExecution : Only "sequential"

def generation : Codec Generation :=
  .model (.record
    (.and (.field "img2img_strength" scaleValue) (.and (.field "controlnet_scale" scaleValue)
      (.and (.field "seed_policy" (.only _)) (.field "batch_execution" (.only _)))))
    (fun (a, b, c, d) => ⟨a, b, c, d⟩)
    (fun m => (m.img2imgStrength, m.controlnetScale, m.seedPolicy, m.batchExecution)) fun _ => rfl)
    (by decide)

structure Domain where
  profile : DomainProfile
  verifierVersion : Option SafeText
  fidelityRequired : Bool

def domain : Codec Domain :=
  .model (.record
    (.and (.field "profile" domainProfile)
      (.and (.default "verifier_version" (.optional safeTextCodec fun _ h => by cases h) none)
        (.field "fidelity_required" .bool)))
    (fun (a, b, c) => ⟨a, b, c⟩) (fun m => (m.profile, m.verifierVersion, m.fidelityRequired))
    fun _ => rfl) (by decide)

/-- `Outputs`, and its `_no_duplicates` -/
structure Outputs where
  profiles : {ps : List OutputProfile // (!ps.isEmpty && decide ps.Nodup) = true}

def outputs : Codec Outputs :=
  .model (.record (.field "profiles" (.refine (.tupleOf outputProfile) _))
    (fun a => ⟨a⟩) (·.profiles) fun _ => rfl) (by decide)

/-! ### Verification to replay -/

structure ThresholdProfileRef where
  id : Identifier
  revision : SafeText
  sha256 : Sha256

def thresholdProfileRef : Codec ThresholdProfileRef :=
  .model (.record
    (.and (.field "id" idLike) (.and (.field "revision" safeTextCodec) (.field "sha256" sha256Str)))
    (fun (a, b, c) => ⟨a, b, c⟩) (fun m => (m.id, m.revision, m.sha256)) fun _ => rfl) (by decide)

structure L2Config where
  encoderId : SafeText
  encoderRevision : SafeText
  preprocessingVersion : SafeText
  thresholdProfile : ThresholdProfileRef

def l2Config : Codec L2Config :=
  .model (.record
    (.and (.field "encoder_id" safeTextCodec) (.and (.field "encoder_revision" safeTextCodec)
      (.and (.field "preprocessing_version" safeTextCodec)
        (.field "threshold_profile" thresholdProfileRef))))
    (fun (a, b, c, d) => ⟨a, b, c, d⟩)
    (fun m => (m.encoderId, m.encoderRevision, m.preprocessingVersion, m.thresholdProfile))
    fun _ => rfl) (by decide)

structure L3Config where
  pluginId : SafeText
  pluginRevision : SafeText
  thresholdProfile : SafeText

def l3Config : Codec L3Config :=
  .model (.record
    (.and (.field "plugin_id" safeTextCodec) (.and (.field "plugin_revision" safeTextCodec)
      (.field "threshold_profile" safeTextCodec)))
    (fun (a, b, c) => ⟨a, b, c⟩) (fun m => (m.pluginId, m.pluginRevision, m.thresholdProfile))
    fun _ => rfl) (by decide)

/-- `GateDefaults` -/
def gateDefaults : Codec GatePolicy :=
  .model (.record
    (.and (.field "on_unverifiable" onUnverifiable) (.field "on_warning" onWarning))
    (fun (a, b) => ⟨a, b⟩) (fun m => (m.onUnverifiable, m.onWarning)) fun _ => rfl) (by decide)

structure Verification where
  rulesetVersion : SafeText
  gateDefaults : GatePolicy
  l2 : L2Config
  l3 : Option L3Config

def verification : Codec Verification :=
  .model (.record
    (.and (.field "ruleset_version" safeTextCodec) (.and (.field "gate_defaults" gateDefaults)
      (.and (.field "l2" l2Config)
        (.default "l3" (.optional l3Config fun _ h => by cases h) none))))
    (fun (a, b, c, d) => ⟨a, b, c, d⟩)
    (fun m => (m.rulesetVersion, m.gateDefaults, m.l2, m.l3)) fun _ => rfl) (by decide)

/-- `Field(ge=1, le=10)` -/
def rounds (n : Nat) : Bool := 1 ≤ n && n ≤ 10

/-- The fields of `Repair`, before `_stop_le_max`. -/
structure RepairFields where
  policyVersion : SafeText
  maxRounds : {n : Nat // rounds n = true}
  stopAfterNoImprovement : {n : Nat // rounds n = true}

/-- `_stop_le_max` -/
def RepairFields.stopLeMax (r : RepairFields) : Bool := r.stopAfterNoImprovement.val ≤ r.maxRounds.val

abbrev Repair := {r : RepairFields // r.stopLeMax = true}

def repair : Codec Repair :=
  .refine (.model (.record
    (.and (.field "policy_version" safeTextCodec) (.and (.field "max_rounds" (.natural _))
      (.field "stop_after_no_improvement" (.natural _))))
    (fun (a, b, c) => ⟨a, b, c⟩) (fun m => (m.policyVersion, m.maxRounds, m.stopAfterNoImprovement))
    fun _ => rfl) (by decide)) _

structure NewBatch where
  contract : Only "same_compiled_graph_and_gate_definitions"
  perItemMetricEqualityRequired : Only "False"

def newBatch : Codec NewBatch :=
  .model (.record
    (.and (.field "contract" (.only _)) (.field "per_item_metric_equality_required" .onlyFalse))
    (fun (a, b) => ⟨a, b⟩) (fun m => (m.contract, m.perItemMetricEqualityRequired)) fun _ => rfl)
    (by decide)

structure ToleratedDelta where
  l2StyleFidelity : ScaleValue
  l3Fidelity : ScaleValue

def toleratedDelta : Codec ToleratedDelta :=
  .model (.record
    (.and (.field "l2_style_fidelity" scaleValue) (.field "l3_fidelity" scaleValue))
    (fun (a, b) => ⟨a, b⟩) (fun m => (m.l2StyleFidelity, m.l3Fidelity)) fun _ => rfl) (by decide)

structure ReplayContract where
  mode : Only "semantic"
  toleratedMetricDelta : ToleratedDelta
  newBatch : NewBatch

/-- The fields that both versions of `ReplayContract` have. -/
def replayFields : Fields ReplayContract :=
  .record
    (.and (.field "mode" (.only _)) (.and (.field "tolerated_metric_delta" toleratedDelta)
      (.field "new_batch" newBatch)))
    (fun (a, b, c) => ⟨a, b, c⟩) (fun m => (m.mode, m.toleratedMetricDelta, m.newBatch))
    fun _ => rfl

def replayContract : Codec ReplayContract := .model replayFields (by decide)

/-! ### Version 1.0 -/

structure StyleSpecV1 where
  schemaVersion : Only "1.0"
  schemaUri : Only "schemas/style-spec-1.0.schema.json"
  metadata : Metadata
  runtime : Runtime
  models : Models
  assets : Assets
  profiles : Profiles
  style : Style
  generation : Generation
  domain : Domain
  outputs : Outputs
  verification : Verification
  repair : Repair
  replayContract : ReplayContract

/-! ### Version 1.1 -/

/-- `StyleV11` -/
structure StyleV11 extends Style where
  strengthMappingVersion : SafeText

def styleV11 : Codec StyleV11 :=
  .model (.record (.and styleFields (.field "strength_mapping_version" safeTextCodec))
    (fun (a, b) => ⟨a, b⟩) (fun m => (m.toStyle, m.strengthMappingVersion)) fun _ => rfl)
    (by decide)

/-- `ReplayContractV11` -/
structure ReplayContractV11 extends ReplayContract where
  environmentPolicy : EnvironmentPolicy

def replayContractV11 : Codec ReplayContractV11 :=
  .model (.record (.and replayFields (.field "environment_policy" environmentPolicy))
    (fun (a, b) => ⟨a, b⟩) (fun m => (m.toReplayContract, m.environmentPolicy)) fun _ => rfl)
    (by decide)

structure StyleSpecV11 where
  schemaVersion : Only "1.1"
  schemaUri : Only "schemas/style-spec-1.1.schema.json"
  metadata : Metadata
  runtime : Runtime
  models : Models
  assets : Assets
  profiles : Profiles
  style : StyleV11
  generation : Generation
  domain : Domain
  outputs : Outputs
  verification : Verification
  repair : Repair
  replayContract : ReplayContractV11

/-- The fields of either version, from what the versions do not share. -/
def specFields {Version Uri Style' Replay' : Type} (version : Codec Version) (uri : Codec Uri)
    (style' : Codec Style') (replay' : Codec Replay') :=
  Fields.and (.field "schema_version" version) (.and (.field "schema_uri" uri)
    (.and (.field "metadata" metadata) (.and (.field "runtime" runtime)
      (.and (.field "models" models) (.and (.field "assets" assets)
        (.and (.field "profiles" profiles) (.and (.field "style" style')
          (.and (.field "generation" generation) (.and (.field "domain" domain)
            (.and (.field "outputs" outputs) (.and (.field "verification" verification)
              (.and (.field "repair" repair) (.field "replay_contract" replay')))))))))))))

def styleSpecV1 : Codec StyleSpecV1 :=
  .model (.record (specFields (.only _) (.only _) style replayContract)
    (fun (a, b, c, d, e, f, g, h, i, j, k, l, m, n) => ⟨a, b, c, d, e, f, g, h, i, j, k, l, m, n⟩)
    (fun s => (s.schemaVersion, s.schemaUri, s.metadata, s.runtime, s.models, s.assets, s.profiles,
      s.style, s.generation, s.domain, s.outputs, s.verification, s.repair, s.replayContract))
    fun _ => rfl) (by decide)

def styleSpecV11 : Codec StyleSpecV11 :=
  .model (.record (specFields (.only _) (.only _) styleV11 replayContractV11)
    (fun (a, b, c, d, e, f, g, h, i, j, k, l, m, n) => ⟨a, b, c, d, e, f, g, h, i, j, k, l, m, n⟩)
    (fun s => (s.schemaVersion, s.schemaUri, s.metadata, s.runtime, s.models, s.assets, s.profiles,
      s.style, s.generation, s.domain, s.outputs, s.verification, s.repair, s.replayContract))
    fun _ => rfl) (by decide)

/-! ### Either version -/

/-- `StyleSpec` -/
inductive StyleSpec where
  | v1 (spec : StyleSpecV1)
  | v11 (spec : StyleSpecV11)

namespace StyleSpec

def runtime : StyleSpec → Runtime
  | v1 s => s.runtime
  | v11 s => s.runtime

def models : StyleSpec → Models
  | v1 s => s.models
  | v11 s => s.models

def assets : StyleSpec → Assets
  | v1 s => s.assets
  | v11 s => s.assets

def profiles : StyleSpec → Profiles
  | v1 s => s.profiles
  | v11 s => s.profiles

def style : StyleSpec → Style
  | v1 s => s.style
  | v11 s => s.style.toStyle

def generation : StyleSpec → Generation
  | v1 s => s.generation
  | v11 s => s.generation

def domain : StyleSpec → Domain
  | v1 s => s.domain
  | v11 s => s.domain

def outputs : StyleSpec → Outputs
  | v1 s => s.outputs
  | v11 s => s.outputs

def verification : StyleSpec → Verification
  | v1 s => s.verification
  | v11 s => s.verification

/-- What the two classes declare as `model_dump(mode="json")`. -/
def dump : StyleSpec → Prim
  | v1 s => styleSpecV1.dump s
  | v11 s => styleSpecV11.dump s

end StyleSpec

/-! ### Pydantic -/

/-- The calls of pydantic on specifications; no value stands for a `ValidationError`. -/
structure Pydantic where
  /-- `spec.model_dump(mode="json")` -/
  modelDump : StyleSpec → Prim
  /-- `StyleSpecV1(**primitive)` -/
  styleSpecV1 : Prim → Option StyleSpecV1
  /-- `StyleSpecV11(**primitive)` -/
  styleSpecV11 : Prim → Option StyleSpecV11

/-- What is relied on. -/
structure Pydantic.Documented (pydantic : Pydantic) : Prop where
  /-- The fields in the order of their declaration, tuples as lists. -/
  modelDump : ∀ s, pydantic.modelDump s = s.dump
  /-- The fields of a valid model, with tuples for tuples, are validated to that model. -/
  styleSpecV1 : ∀ s, pydantic.styleSpecV1 (Spec.styleSpecV1.dump s).tuples = some s
  styleSpecV11 : ∀ s, pydantic.styleSpecV11 (Spec.styleSpecV11.dump s).tuples = some s

/-- Pydantic as the classes declare it. -/
def Pydantic.declared : Pydantic where
  modelDump := StyleSpec.dump
  styleSpecV1 := Spec.styleSpecV1.validate
  styleSpecV11 := Spec.styleSpecV11.validate

theorem Pydantic.declared_documented : declared.Documented where
  modelDump := fun _ => rfl
  styleSpecV1 := Spec.styleSpecV1.validate_dump
  styleSpecV11 := Spec.styleSpecV11.validate_dump

end Spec

end SpecStyle
