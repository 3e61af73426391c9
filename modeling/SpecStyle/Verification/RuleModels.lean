/-
SpecStyle/Verification/RuleModels.lean

Rule definitions, rule results, verification reports and artifact decisions.

A report carries the proof of its own validation, so what a reader of a
report relies on is a theorem about every report: for each applicable rule
and each artifact there is exactly one result (`VerificationReport.existsUnique`),
found by the one look-up of the readers.  `on_fail` of a gate policy has one
admissible value and is no field.
-/
import SpecStyle.Domain.Values
import SpecStyle.Lib.Binary64
import SpecStyle.Lib.Checks
import Mathlib.Data.List.Perm.Subperm

namespace SpecStyle

open PyLib

/-! ### Definitions and results -/

/-- `StaticApplicability` -/
inductive StaticApplicability where
  | applicable | notApplicable
  deriving DecidableEq

/-- `GatePolicy.on_unverifiable` -/
inductive OnUnverifiable where
  | reject | manualReview
  deriving DecidableEq

/-- `GatePolicy.on_warning` -/
inductive OnWarning where
  | reject | manualReview | continue
  deriving DecidableEq

/-- `GatePolicy` -/
structure GatePolicy where
  onUnverifiable : OnUnverifiable
  onWarning : OnWarning
  deriving DecidableEq

/-- `RuleDefinition` -/
structure RuleDefinition where
  ruleId : RuleId
  level : RuleLevel
  scope : RuleScope
  required : Bool
  applicability : StaticApplicability
  gatePolicy : GatePolicy
  /-- "required rule cannot continue on warning" -/
  warningStops : required = true → gatePolicy.onWarning ≠ .continue
  deriving DecidableEq

/-- `ArtifactRef` -/
structure ArtifactRef where
  artifactId : ArtifactId
  sha256 : Sha256
  deriving DecidableEq

/-- `RuleResult` -/
structure RuleResult where
  ruleId : RuleId
  status : RuleStatus
  affectedArtifactIds : List ArtifactId
  score : Option Binary64
  deriving DecidableEq

/-! ### Validation of a report -/

/-- `if not condition: raise DomainError(message)` -/
def ensure (condition : Bool) (message : String) : Except Raised Unit :=
  if condition then .ok () else .error (.domain message)

/-- `_validate_artifacts` -/
def validateArtifacts (artifacts : List ArtifactRef) : Except Raised Unit := do
  ensure (!artifacts.isEmpty) "artifacts must be a nonempty tuple"
  ensure (decide (artifacts.map (·.artifactId)).Nodup) "artifact ids must be unique"

/-- `_validate_rules` -/
def validateRules (rules : List RuleDefinition) : Except Raised Unit :=
  ensure (decide (rules.map (·.ruleId)).Nodup) "rule ids must be unique"

/-- `rules_by_id.get(rule_id)` -/
def ruleById (rules : List RuleDefinition) (ruleId : RuleId) : Option RuleDefinition :=
  rules.find? fun rule => rule.ruleId = ruleId

/-- The first loop of `_validate_results`, on one result. -/
def validateResult (ids : List ArtifactId) (rules : List RuleDefinition) (result : RuleResult) :
    Except Raised Unit :=
  match ruleById rules result.ruleId with
  | none => .error (.domain "result references unknown rule")
  | some rule => do
    ensure (rule.applicability ≠ .notApplicable) "not applicable rule must not have result"
    ensure (result.affectedArtifactIds.all fun id => id ∈ ids) "result references unknown artifact"

/-- `by_rule[rule_id]` -/
def resultsOf (results : List RuleResult) (ruleId : RuleId) : List RuleResult :=
  results.filter fun result => result.ruleId = ruleId

/-- The results of an item rule affect each artifact once.  The two sets the
source compares are sets of pairs with one rule id; `len(expected)` is the
number of artifacts, whose ids are unique. -/
def coversItems (ids : List ArtifactId) (results : List RuleResult) : Bool :=
  let actual := results.flatMap (·.affectedArtifactIds)
  ids.all (fun id => id ∈ actual) && actual.all (fun id => id ∈ ids) &&
    results.length == ids.length

/-- The second loop of `_validate_results`, on one rule. -/
def validateCoverage (ids : List ArtifactId) (results : List RuleResult) (rule : RuleDefinition) :
    Except Raised Unit :=
  let own := resultsOf results rule.ruleId
  match rule.applicability, rule.scope with
  | .notApplicable, _ => ensure own.isEmpty "not applicable rule must not have result"
  | .applicable, .item => do
    ensure (own.all fun result => result.affectedArtifactIds.length == 1)
      "item result must affect exactly one artifact"
    ensure (coversItems ids own) "item rule results must cover each artifact exactly once"
  | .applicable, .batch =>
    ensure (own.length == 1 && own.all fun result => result.affectedArtifactIds = ids)
      "batch rule must have one result affecting the ordered batch"

/-- `_validate_results` -/
def validateResults (artifacts : List ArtifactRef) (rules : List RuleDefinition)
    (results : List RuleResult) : Except Raised Unit := do
  let ids := artifacts.map (·.artifactId)
  results.forM (validateResult ids rules)
  rules.forM (validateCoverage ids results)

/-- `VerificationReport.__post_init__` -/
def validateReport (artifacts : List ArtifactRef) (rules : List RuleDefinition)
    (results : List RuleResult) : Except Raised Unit := do
  validateArtifacts artifacts
  validateRules rules
  validateResults artifacts rules results

/-- `VerificationReport` -/
structure VerificationReport where
  artifacts : List ArtifactRef
  rules : List RuleDefinition
  results : List RuleResult
  valid : validateReport artifacts rules results = .ok ()
  deriving DecidableEq

/-- `VerificationReport(artifacts, rules, results)` -/
def VerificationReport.new (artifacts : List ArtifactRef) (rules : List RuleDefinition)
    (results : List RuleResult) : Except Raised VerificationReport :=
  match h : validateReport artifacts rules results with
  | .ok () => .ok ⟨artifacts, rules, results, h⟩
  | .error e => .error e

/-- `{artifact.artifact_id for artifact in report.artifacts}` -/
def VerificationReport.ids (report : VerificationReport) : List ArtifactId :=
  report.artifacts.map (·.artifactId)

/-! ### Decisions -/

/-- `legal_pairs` -/
def legalPairs : List (ArtifactStatus × DecisionReason) :=
  [(.approved, .allRequiredPass), (.manualReview, .manualPolicy),
    (.rejected, .requiredGateFailed), (.rejected, .requiredGateUnverifiable),
    (.rejected, .repairExhausted)]

/-- `ArtifactDecision` -/
structure ArtifactDecision where
  artifactId : ArtifactId
  artifactStatus : ArtifactStatus
  decisionReason : DecisionReason
  repairStopReason : Option RepairStopReason
  acceptedWithOverride : Bool
  legal : (artifactStatus, decisionReason) ∈ legalPairs
  overrides : acceptedWithOverride = true →
    artifactStatus = .manualReview ∧ decisionReason = .manualPolicy
  deriving DecidableEq

/-- `ArtifactDecision(...)` -/
def ArtifactDecision.new (artifactId : ArtifactId) (status : ArtifactStatus)
    (reason : DecisionReason) (stop : Option RepairStopReason) (override : Bool) :
    Except Raised ArtifactDecision :=
  if hl : (status, reason) ∈ legalPairs then
    if ho : override = true → status = .manualReview ∧ reason = .manualPolicy then
      .ok ⟨artifactId, status, reason, stop, override, hl, ho⟩
    else .error (.domain "override requires manual review policy decision")
  else .error (.domain "artifact status and decision reason are incompatible")

/-! ### What a valid report says -/

@[simp] theorem ensure_ok_iff {c : Bool} {message : String} :
    ensure c message = .ok () ↔ c = true := by
  cases c with
  | false => simp [ensure]
  | true => simp [ensure]

theorem ruleById_mem {rules : List RuleDefinition} {ruleId : RuleId} {rule : RuleDefinition}
    (h : ruleById rules ruleId = some rule) : rule ∈ rules ∧ rule.ruleId = ruleId :=
  ⟨List.mem_of_find?_eq_some h, by simpa using List.find?_some h⟩

/-- With unique ids the look-up finds the rule itself. -/
theorem ruleById_self {rules : List RuleDefinition} (hu : (rules.map (·.ruleId)).Nodup)
    {rule : RuleDefinition} (h : rule ∈ rules) : ruleById rules rule.ruleId = some rule := by
  induction rules with
  | nil => cases h
  | cons r rs ih =>
      rw [List.map_cons, List.nodup_cons] at hu
      unfold ruleById
      rcases List.mem_cons.mp h with rfl | h
      · rw [List.find?_cons_of_pos (by simp)]
      · have hne : r.ruleId ≠ rule.ruleId := by
          intro he
          apply hu.1
          rw [he]
          exact List.mem_map_of_mem h
        rw [List.find?_cons_of_neg (by simpa using hne)]
        exact ih hu.2 h

/-- What the constructor of a report checks. -/
structure ReportChecks (artifacts : List ArtifactRef) (rules : List RuleDefinition)
    (results : List RuleResult) : Prop where
  nonempty : artifacts ≠ []
  ids_nodup : (artifacts.map (·.artifactId)).Nodup
  rules_nodup : (rules.map (·.ruleId)).Nodup
  known : ∀ result ∈ results, ∃ rule, ruleById rules result.ruleId = some rule ∧
    rule.applicability = .applicable ∧
    ∀ id ∈ result.affectedArtifactIds, id ∈ artifacts.map (·.artifactId)
  covered : ∀ rule ∈ rules,
    validateCoverage (artifacts.map (·.artifactId)) results rule = .ok ()

theorem validateResult_ok_iff {ids : List ArtifactId} {rules : List RuleDefinition}
    {result : RuleResult} : validateResult ids rules result = .ok () ↔
      ∃ rule, ruleById rules result.ruleId = some rule ∧ rule.applicability = .applicable ∧
        ∀ id ∈ result.affectedArtifactIds, id ∈ ids := by
  unfold validateResult
  rcases ruleById rules result.ruleId with - | rule
  · simp
  · rw [check_ok_iff, ensure_ok_iff, ensure_ok_iff]
    cases hr : rule.applicability with
    | applicable => simp [hr]
    | notApplicable => simp [hr]

/-- The constructor accepts exactly what satisfies its checks. -/
theorem validateReport_ok_iff {artifacts : List ArtifactRef} {rules : List RuleDefinition}
    {results : List RuleResult} :
    validateReport artifacts rules results = .ok () ↔ ReportChecks artifacts rules results := by
  unfold validateReport validateArtifacts validateRules validateResults
  simp only [check_ok_iff, ensure_ok_iff, forM_ok_iff, validateResult_ok_iff, decide_eq_true_eq,
    Bool.not_eq_true', List.isEmpty_eq_false_iff]
  constructor
  · rintro ⟨⟨hne, hids⟩, hrules, hknown, hcov⟩
    exact ⟨hne, hids, hrules, hknown, hcov⟩
  · intro h
    exact ⟨⟨h.nonempty, h.ids_nodup⟩, h.rules_nodup, h.known, h.covered⟩

theorem VerificationReport.new_ok_iff {artifacts : List ArtifactRef}
    {rules : List RuleDefinition} {results : List RuleResult} {report : VerificationReport} :
    VerificationReport.new artifacts rules results = .ok report ↔
      report.artifacts = artifacts ∧ report.rules = rules ∧ report.results = results := by
  unfold VerificationReport.new
  split
  · next hv =>
    constructor
    · intro h
      cases h
      exact ⟨rfl, rfl, rfl⟩
    · rcases report with ⟨a, rs, ss, v⟩
      rintro ⟨rfl, rfl, rfl⟩
      rfl
  · next e hv =>
    constructor
    · intro h
      cases h
    · rintro ⟨rfl, rfl, rfl⟩
      rw [report.valid] at hv
      cases hv

theorem VerificationReport.checks (report : VerificationReport) :
    ReportChecks report.artifacts report.rules report.results :=
  validateReport_ok_iff.mp report.valid

/-- `item.rule_id == rule_id and target in item.affected_artifact_ids` -/
def VerificationReport.matching (report : VerificationReport) (ruleId : RuleId)
    (target : ArtifactId) : List RuleResult :=
  report.results.filter fun result =>
    result.ruleId = ruleId ∧ target ∈ result.affectedArtifactIds

/-- Results of one artifact each: as many name an artifact as the artifact
occurs among those they name. -/
theorem length_filter_single {own : List RuleResult} (target : ArtifactId)
    (h : ∀ result ∈ own, result.affectedArtifactIds.length = 1) :
    (own.filter fun result => target ∈ result.affectedArtifactIds).length =
      (own.flatMap (·.affectedArtifactIds)).count target := by
  induction own with
  | nil => rfl
  | cons r rs ih =>
      obtain ⟨id, hid⟩ := List.length_eq_one_iff.mp (h r List.mem_cons_self)
      have ih := ih fun x hx => h x (List.mem_cons_of_mem _ hx)
      rw [List.flatMap_cons, List.count_append, ← ih, hid, List.filter_cons, hid]
      by_cases ht : target = id
      · simp [ht]
        omega
      · have hne : id ≠ target := fun he => ht he.symm
        simp [ht, hne]

/-- Names that cover the artifacts and are as many as they are occur once. -/
theorem count_covered {ids names : List ArtifactId} (hu : ids.Nodup)
    (hsub : ∀ id ∈ ids, id ∈ names) (hlen : names.length = ids.length) {target : ArtifactId}
    (ht : target ∈ ids) : names.count target = 1 := by
  have hp : List.Perm ids names :=
    (hu.subperm hsub).perm_of_length_le (le_of_eq hlen)
  rw [← hp.count_eq]
  rw [hu.count, if_pos ht]

/-- An applicable rule has exactly one result for each artifact. -/
theorem VerificationReport.existsUnique (report : VerificationReport) {rule : RuleDefinition}
    (hrule : rule ∈ report.rules) (ha : rule.applicability = .applicable) {target : ArtifactId}
    (ht : target ∈ report.ids) :
    ∃ result, report.matching rule.ruleId target = [result] := by
  have hc := report.checks
  have hcov := hc.covered rule hrule
  have hown : report.matching rule.ruleId target =
      (resultsOf report.results rule.ruleId).filter
        fun result => target ∈ result.affectedArtifactIds := by
    unfold matching resultsOf
    rw [List.filter_filter]
    apply List.filter_congr
    intro x _
    simp [and_comm]
  rw [hown]
  unfold validateCoverage at hcov
  simp only [ha] at hcov
  cases hs : rule.scope with
  | item =>
      simp only [hs, check_ok_iff, ensure_ok_iff, List.all_eq_true, beq_iff_eq] at hcov
      obtain ⟨hone, hall⟩ := hcov
      simp only [coversItems, Bool.and_eq_true, List.all_eq_true, decide_eq_true_eq,
        beq_iff_eq] at hall
      obtain ⟨⟨hsub, -⟩, hlen⟩ := hall
      apply List.length_eq_one_iff.mp
      rw [length_filter_single target hone]
      refine count_covered hc.ids_nodup hsub ?_ ht
      rw [← hlen, List.length_flatMap]
      have hmap := List.map_congr_left (g := fun _ => 1) hone
      simp [hmap]
  | batch =>
      simp only [hs, ensure_ok_iff, Bool.and_eq_true, beq_iff_eq, List.all_eq_true,
        decide_eq_true_eq] at hcov
      obtain ⟨hone, hall⟩ := hcov
      obtain ⟨result, hr⟩ := List.length_eq_one_iff.mp hone
      have haff := hall result (by rw [hr]; exact List.mem_singleton_self result)
      refine ⟨result, ?_⟩
      have hin : target ∈ result.affectedArtifactIds := by
        rw [haff]
        exact ht
      rw [hr, List.filter_singleton, decide_eq_true hin]
      rfl

end SpecStyle
