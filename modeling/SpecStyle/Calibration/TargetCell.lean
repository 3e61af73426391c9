/-
SpecStyle/Calibration/TargetCell.lean

The content-addressed target cell of a production context (`target_cell.py`).

A cell names one style pack, one domain and one output profile with their pins,
and exactly the three formal metrics.  That the metrics are these three is a
field of `TargetCell`, so the tests of the source that they are sorted and
distinct hold of every value (`TargetCell.metricIds_nodup`).
-/
import SpecStyle.Calibration.EvidenceIo
import SpecStyle.Spec.Models

namespace SpecStyle

open PyLib

namespace Calibration

/-- `Layer` of a metric: `L2` or `L3` -/
inductive Layer where
  | l2 | l3
  deriving DecidableEq

/-- What one observation is about: an item or a cohort of items. -/
inductive ObservationUnit where
  | item | batch
  deriving DecidableEq

/-- `gte` or `lte` -/
inductive Operator where
  | gte | lte
  deriving DecidableEq

def Layer.value : Layer → Text
  | .l2 => py "L2"
  | .l3 => py "L3"

def ObservationUnit.value : ObservationUnit → Text
  | .item => py "item"
  | .batch => py "batch"

def Operator.value : Operator → Text
  | .gte => py "gte"
  | .lte => py "lte"

/-- `TargetMetric` -/
structure TargetMetric where
  layer : Layer
  observationUnit : ObservationUnit
  metricId : Identifier
  operator : Operator
  implementationPin : ResourcePin
  bindingPin : ResourcePin
  verifierPin : ResourcePin
  preprocessorPin : ResourcePin
  /-- An L3 metric is about items. -/
  item_of_l3 : layer = .l3 → observationUnit = .item

/-- What a metric promises: layer, unit, id and operator. -/
def TargetMetric.contract (metric : TargetMetric) : Layer × ObservationUnit × Text × Operator :=
  (metric.layer, metric.observationUnit, metric.metricId.value, metric.operator)

/-- `_FORMAL_METRICS` -/
def formalMetrics : List (Layer × ObservationUnit × Text × Operator) :=
  [(.l2, .batch, py "batch_style_consistency", .lte),
   (.l2, .item, py "reference_style_statistics_similarity", .gte),
   (.l3, .item, py "structure_edge_similarity", .gte)]

/-- `TargetCell` -/
structure TargetCell where
  sha256 : Sha256
  stylePackId : Identifier
  stylePackPin : ResourcePin
  domainProfile : DomainProfile
  domainVerifierVersion : Text
  outputProfile : OutputProfile
  outputProfilePin : ResourcePin
  compilerPin : ResourcePin
  ruleCatalogPin : ResourcePin
  metrics : List TargetMetric
  metrics_formal : metrics.map TargetMetric.contract = formalMetrics

/-- `require_metric` -/
def TargetCell.requireMetric (target : TargetCell) (metricId : Json) : Except Fault TargetMetric :=
  match target.metrics.filter fun item => isText metricId item.metricId.value with
  | [metric] => .ok metric
  | _ => .error (.domain "target cell metric unavailable")

/-! ### Loading -/

/-- The items of a value that has been checked to be a list. -/
def itemsOf : Json → List Json
  | .arr items => items
  | _ => []

/-- `_TARGET_KEYS` -/
def targetKeys : List String :=
  ["schema_version", "style_pack_id", "style_pack_pin", "domain_profile", "domain_verifier_version",
   "output_profile", "output_profile_pin", "generation_profile", "compiler_pin", "rule_catalog_pin",
   "metrics"]

/-- `_METRIC_KEYS` -/
def metricKeys : List String :=
  ["layer", "observation_unit", "metric_id", "operator", "implementation_pin", "binding_pin",
   "verifier_pin", "preprocessor_pin"]

/-- `TargetMetric.__post_init__` -/
def TargetMetric.new (layer unit : Json) (metricId : Identifier) (operator : Json)
    (implementationPin bindingPin verifierPin preprocessorPin : ResourcePin) :
    Except Fault TargetMetric := do
  let layer ← oneOf [.l2, .l3] Layer.value layer "invalid target cell metric"
  let unit ← oneOf [.item, .batch] ObservationUnit.value unit "invalid target cell metric"
  let operator ← oneOf [.gte, .lte] Operator.value operator "invalid target cell metric"
  if h : layer = .l3 → unit = .item then
    .ok ⟨layer, unit, metricId, operator, implementationPin, bindingPin, verifierPin,
      preprocessorPin, h⟩
  else .error (.domain "invalid target cell metric")

/-- `_metric` -/
def metric (value : Json) : Except Fault TargetMetric := do
  let raw ← exact value metricKeys "target cell metric"
  let metricId ← identifier (raw.get "metric_id")
  let implementationPin ← resourcePin (raw.get "implementation_pin") "metric implementation pin"
  let bindingPin ← resourcePin (raw.get "binding_pin") "metric binding pin"
  let verifierPin ← resourcePin (raw.get "verifier_pin") "metric verifier pin"
  let preprocessorPin ← resourcePin (raw.get "preprocessor_pin") "metric preprocessor pin"
  TargetMetric.new (raw.get "layer") (raw.get "observation_unit") metricId (raw.get "operator")
    implementationPin bindingPin verifierPin preprocessorPin

/-- `TargetCell.__post_init__`.  The three formal metrics are sorted and
distinct, so the contract is the last test that can fail. -/
def TargetCell.new (sha256 : Sha256) (stylePackId : Identifier) (stylePackPin : ResourcePin)
    (domainProfile : Json) (domainVerifierVersion : Text) (outputProfile : Json)
    (outputProfilePin compilerPin ruleCatalogPin : ResourcePin) (metrics : List TargetMetric) :
    Except Fault TargetCell := do
  let domainProfile ← oneOf [.productInstance, .faceIdentity, .structureOnly] DomainProfile.value
    domainProfile "invalid target cell"
  let outputProfile ←
    oneOf OutputProfile.all OutputProfile.value outputProfile "invalid target cell"
  if h : metrics.map TargetMetric.contract = formalMetrics then
    .ok ⟨sha256, stylePackId, stylePackPin, domainProfile, domainVerifierVersion, outputProfile,
      outputProfilePin, compilerPin, ruleCatalogPin, metrics, h⟩
  else .error (.domain "invalid target cell")

/-- `load_target_cell` -/
def loadTargetCell (C : Codec) (data : Bytes) : Except Fault TargetCell := do
  let document ← loadCanonical C data
  let raw ← exact (.obj document) targetKeys "target cell"
  demand
    (isText (raw.get "schema_version") (py "specstyle.production.target_cell.v1") &&
      isText (raw.get "generation_profile") (py "production") &&
      !(itemsOf (raw.get "metrics")).isEmpty)
    "invalid target cell"
  let sha256 ← evidenceSha256 C data
  let stylePackId ← identifier (raw.get "style_pack_id")
  let stylePackPin ← resourcePin (raw.get "style_pack_pin") "style pack pin"
  let version ← text (raw.get "domain_verifier_version") "domain verifier version"
  let outputProfilePin ← resourcePin (raw.get "output_profile_pin") "output profile pin"
  let compilerPin ← resourcePin (raw.get "compiler_pin") "compiler pin"
  let ruleCatalogPin ← resourcePin (raw.get "rule_catalog_pin") "rule catalog pin"
  let metrics ← (itemsOf (raw.get "metrics")).mapM metric
  TargetCell.new sha256 stylePackId stylePackPin (raw.get "domain_profile") version
    (raw.get "output_profile") outputProfilePin compilerPin ruleCatalogPin metrics

/-! ### What a cell promises -/

/-- No two metrics of a cell have one id. -/
theorem TargetCell.metricIds_nodup (target : TargetCell) :
    (target.metrics.map fun metric => metric.metricId.value).Nodup := by
  have h : target.metrics.map (fun metric => metric.metricId.value) =
      formalMetrics.map fun c => c.2.2.1 := by
    rw [← target.metrics_formal, List.map_map]
    rfl
  rw [h]
  decide

/-- A metric that a cell hands out is one of its own, with the id asked for. -/
theorem TargetCell.requireMetric_ok {target : TargetCell} {metricId : Json} {metric : TargetMetric}
    (h : target.requireMetric metricId = .ok metric) :
    metric ∈ target.metrics ∧ metricId = .str metric.metricId.value := by
  have hmem : metric ∈ target.metrics.filter fun item => isText metricId item.metricId.value := by
    unfold TargetCell.requireMetric at h
    split at h
    · next hf =>
      cases h
      rw [hf]
      exact List.mem_singleton_self _
    · cases h
  rw [List.mem_filter] at hmem
  exact ⟨hmem.1, isText_iff.mp hmem.2⟩

end Calibration

end SpecStyle
