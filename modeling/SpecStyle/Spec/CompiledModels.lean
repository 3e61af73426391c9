/-
SpecStyle/Spec/CompiledModels.lean

The compiled style specification, as far as verification, repair and export
read it: the rules with their thresholds, one verification plan for each
output profile, the execution graphs and the repair section of the source
specification.

A capability of a graph that is only hashed (models, runtime, scheduler,
render contract) is left out; the hash of the whole specification is a field.
The classes with all of their fields are those of the namespace `Compiled`, and
these here are views of them (`Compiled.StyleSpec.Viewed`).
-/
import SpecStyle.Verification.RuleModels
import Mathlib.Data.List.Sort

namespace SpecStyle

open PyLib

/-! ### Rules -/

/-- `ResourcePin` -/
structure ResourcePin where
  id : Text
  revision : Text
  sha256 : Sha256
  deriving DecidableEq

/-- `ThresholdStatus` -/
inductive ThresholdStatus where
  | draft | calibrated | validated | revoked
  deriving DecidableEq

/-- `ThresholdOperator` -/
inductive ThresholdOperator where
  | ge | le
  deriving DecidableEq

/-- `CompiledThresholdBinding` -/
structure CompiledThresholdBinding where
  profilePin : ResourcePin
  status : ThresholdStatus
  metricId : Identifier
  operator : ThresholdOperator
  productionApprovalSha256 : Option Sha256
  deriving DecidableEq

/-- `CompiledRule` -/
structure CompiledRule where
  definition : RuleDefinition
  metricId : Option Identifier
  thresholdBinding : Option CompiledThresholdBinding
  priority : Nat
  affectedByActions : List Identifier
  /-- "threshold binding metric must match rule metric", and an applicable rule -/
  bound : ∀ b ∈ thresholdBinding, metricId = some b.metricId ∧ definition.applicability = .applicable
  /-- "applicable metric rule requires threshold binding" -/
  measured : definition.applicability = .applicable → metricId.isSome → thresholdBinding.isSome
  /-- `_unique(actions, "affected actions")` -/
  actions_nodup : affectedByActions.Nodup
  deriving DecidableEq

/-! ### Plans -/

/-- `L3PlanStatus` -/
inductive L3PlanStatus where
  | applicable | notApplicable
  deriving DecidableEq

/-- `CompiledVerificationPlan` -/
structure CompiledVerificationPlan where
  outputProfile : OutputProfile
  rules : List CompiledRule
  l3Status : L3PlanStatus
  l3ThresholdProfilePin : Option ResourcePin
  rules_nonempty : rules ≠ []
  /-- `_unique(..., "compiled rule ids")` -/
  rules_nodup : (rules.map fun rule => rule.definition.ruleId).Nodup
  deriving DecidableEq

/-- `applicable_rule_definitions` -/
def CompiledVerificationPlan.applicableRuleDefinitions (plan : CompiledVerificationPlan) :
    List RuleDefinition :=
  ((plan.rules.map (·.definition)).filter fun d => d.applicability = .applicable).insertionSort
    fun a b => a.ruleId.value ≤ b.ruleId.value

/-! ### Graphs and the specification -/

/-- `controlnet_type` -/
inductive ControlnetType where
  | canny | depth | pose
  deriving DecidableEq

/-- `GenerationProfile` -/
inductive GenerationProfile where
  | preview | production
  deriving DecidableEq

/-- `GenerationParameters` -/
structure GenerationParameters where
  ipAdapterScale : Binary64
  img2imgStrength : Binary64
  controlnetScale : Binary64
  unit : (ipAdapterScale.inUnit && img2imgStrength.inUnit && controlnetScale.inUnit) = true
  deriving DecidableEq

/-- `CompiledExecutionGraph`, its three scales together -/
structure CompiledExecutionGraph where
  outputProfile : OutputProfile
  resolution : Nat × Nat
  controlnetType : ControlnetType
  styleReferenceHashes : List Sha256
  presetId : Identifier
  defaults : GenerationParameters
  deriving DecidableEq

/-- The `repair` section of a source specification. -/
structure RepairSection where
  policyVersion : Text
  maxRounds : Nat
  stopAfterNoImprovement : Nat
  /-- `Field(ge=1, le=10)`, and `_stop_le_max` -/
  bounds : 1 ≤ stopAfterNoImprovement ∧ stopAfterNoImprovement ≤ maxRounds ∧ maxRounds ≤ 10
  deriving DecidableEq

/-- `CompiledStyleSpec` -/
structure CompiledStyleSpec where
  repair : RepairSection
  previewGraphs : List CompiledExecutionGraph
  productionGraphs : List CompiledExecutionGraph
  verificationPlans : List CompiledVerificationPlan
  compiledSpecHash : Sha256
  deriving DecidableEq

/-! ### The applicable definitions -/

theorem mem_applicableRuleDefinitions {plan : CompiledVerificationPlan} {d : RuleDefinition} :
    d ∈ plan.applicableRuleDefinitions ↔
      (∃ rule ∈ plan.rules, rule.definition = d) ∧ d.applicability = .applicable := by
  unfold CompiledVerificationPlan.applicableRuleDefinitions
  rw [List.mem_insertionSort, List.mem_filter, List.mem_map, decide_eq_true_eq]

/-- Their ids are unique. -/
theorem applicableRuleDefinitions_nodup (plan : CompiledVerificationPlan) :
    (plan.applicableRuleDefinitions.map (·.ruleId)).Nodup := by
  unfold CompiledVerificationPlan.applicableRuleDefinitions
  have hp := List.perm_insertionSort (fun a b : RuleDefinition => a.ruleId.value ≤ b.ruleId.value)
    ((plan.rules.map (·.definition)).filter fun d => d.applicability = .applicable)
  rw [(hp.map (·.ruleId)).nodup_iff]
  have hs : List.Sublist
      (((plan.rules.map (·.definition)).filter fun d => d.applicability = .applicable).map
        (·.ruleId)) ((plan.rules.map (·.definition)).map (·.ruleId)) :=
    List.filter_sublist.map _
  refine hs.nodup ?_
  rw [List.map_map]
  exact plan.rules_nodup

end SpecStyle
