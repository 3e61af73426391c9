/-
SpecStyle/Verification/RoutingOrder.lean

Routing does not depend on the order in which a report lists its rules and
results.

A valid report has unique rule ids, so the look-up of a rule finds the same
rule in every order (`ruleById_perm`); the gates of an artifact are then the
same up to order (`resultsAffectingArtifact_perm`), and each branch of the
router asks only whether some gate has a property.  The validation of a
report asks no more of its results than how many there are and whom they
affect, so a report stays valid when they are listed otherwise
(`ReportChecks.perm_results`).
-/
import SpecStyle.Verification.Routing
import Mathlib.Data.List.Perm.Basic

namespace SpecStyle

open PyLib

/-! ### Reordered reports -/

/-- The same report with its rules and its results in another order. -/
structure VerificationReport.Reordered (report report' : VerificationReport) : Prop where
  artifacts : report.artifacts.Perm report'.artifacts
  rules : report.rules.Perm report'.rules
  results : report.results.Perm report'.results

variable {report report' : VerificationReport}

/-- With unique ids the look-up does not depend on the order of the rules. -/
theorem ruleById_perm {rules rules' : List RuleDefinition}
    (hu : (rules.map (·.ruleId)).Nodup) (hp : rules.Perm rules') (ruleId : RuleId) :
    ruleById rules ruleId = ruleById rules' ruleId := by
  have hu' : (rules'.map (·.ruleId)).Nodup := (hp.map _).nodup_iff.mp hu
  apply Option.ext
  intro rule
  constructor
  · intro h
    obtain ⟨hm, rfl⟩ := ruleById_mem h
    exact ruleById_self hu' (hp.mem_iff.mp hm)
  · intro h
    obtain ⟨hm, rfl⟩ := ruleById_mem h
    exact ruleById_self hu (hp.mem_iff.mpr hm)

theorem VerificationReport.Reordered.mem_ids (h : report.Reordered report')
    {target : ArtifactId} : target ∈ report.ids ↔ target ∈ report'.ids :=
  (h.artifacts.map _).mem_iff

/-- The gates of an artifact are the same up to order. -/
theorem resultsAffectingArtifact_perm (h : report.Reordered report') (target : ArtifactId) :
    (resultsAffectingArtifact report target).Perm (resultsAffectingArtifact report' target) := by
  have hrule : ruleById report.rules = ruleById report'.rules := by
    funext ruleId
    exact ruleById_perm report.checks.rules_nodup h.rules ruleId
  unfold resultsAffectingArtifact
  rw [hrule]
  exact h.results.filterMap _

/-! ### The router -/

section Gates

variable {relevant relevant' : List Gate} (hp : relevant.Perm relevant')

include hp

theorem requiredGates_perm : (requiredGates relevant).Perm (requiredGates relevant') :=
  hp.filter _

/-- A stop reason fits the gates in every order. -/
theorem validateStopReason_perm (stop : Option RepairStopReason) :
    validateStopReason stop relevant = validateStopReason stop relevant' := by
  unfold validateStopReason
  rw [hp.any_eq, hp.any_eq (f := fun g => g.2.status = .unverifiable)]

/-- Every branch of the cascade asks whether some gate has a property. -/
theorem route_perm (stop : Option RepairStopReason) : route stop relevant = route stop relevant' := by
  have hr := requiredGates_perm hp
  unfold route hasManualPolicy
  simp only
  rw [hr.any_eq, hr.any_eq (f := Gate.nonpass), hr.any_eq (f := Gate.rejects), hp.any_eq]

end Gates

/-- **Routing is order independent.**  Reordered reports route every artifact
alike, to the same decision or the same error. -/
theorem VerificationReport.Reordered.decideArtifact_eq (h : report.Reordered report')
    (target : ArtifactId) (stop : Option RepairStopReason) (override : Bool) :
    decideArtifact report target stop override = decideArtifact report' target stop override := by
  have hp := resultsAffectingArtifact_perm h target
  have hr := requiredGates_perm hp
  unfold decideArtifact
  simp only [h.mem_ids, hr.isEmpty_eq, validateStopReason_perm hr, route_perm hp]

/-! ### Validation -/

section Results

variable {results results' : List RuleResult} (hp : results.Perm results')

include hp

theorem resultsOf_perm (ruleId : RuleId) :
    (resultsOf results ruleId).Perm (resultsOf results' ruleId) :=
  hp.filter _

theorem coversItems_perm (ids : List ArtifactId) :
    coversItems ids results = coversItems ids results' := by
  have hnames := hp.flatMap_right (·.affectedArtifactIds)
  have hmem : (fun id : ArtifactId => decide (id ∈ results.flatMap (·.affectedArtifactIds))) =
      fun id => decide (id ∈ results'.flatMap (·.affectedArtifactIds)) := by
    funext id
    exact decide_eq_decide.mpr hnames.mem_iff
  unfold coversItems
  simp only
  rw [hmem, hnames.all_eq, hp.length_eq]

/-- The coverage of a rule is asked of its results as a whole. -/
theorem validateCoverage_perm (ids : List ArtifactId) (rule : RuleDefinition) :
    validateCoverage ids results rule = validateCoverage ids results' rule := by
  have hown := resultsOf_perm hp rule.ruleId
  unfold validateCoverage
  simp only
  rw [hown.isEmpty_eq, hown.all_eq, coversItems_perm hown, hown.length_eq, hown.all_eq]

/-- A report stays valid when its results are listed otherwise. -/
theorem ReportChecks.perm_results {artifacts : List ArtifactRef} {rules : List RuleDefinition}
    (h : ReportChecks artifacts rules results) : ReportChecks artifacts rules results' where
  nonempty := h.nonempty
  ids_nodup := h.ids_nodup
  rules_nodup := h.rules_nodup
  known := fun result hr => h.known result (hp.mem_iff.mpr hr)
  covered := by
    intro rule hrule
    rw [← validateCoverage_perm hp]
    exact h.covered rule hrule

end Results

/-- Listing the results otherwise neither makes nor breaks a report, and the
report made is the reordered one. -/
theorem VerificationReport.new_perm_results {artifacts : List ArtifactRef}
    {rules : List RuleDefinition} {results results' : List RuleResult}
    (hp : results.Perm results')
    (h : VerificationReport.new artifacts rules results = .ok report) :
    ∃ report', VerificationReport.new artifacts rules results' = .ok report' ∧
      report.Reordered report' := by
  obtain ⟨ha, hr, hs⟩ := VerificationReport.new_ok_iff.mp h
  have hc := report.checks
  rw [ha, hr, hs] at hc
  refine ⟨⟨artifacts, rules, results', validateReport_ok_iff.mpr (hc.perm_results hp)⟩,
    VerificationReport.new_ok_iff.mpr ⟨rfl, rfl, rfl⟩, ?_⟩
  constructor
  · rw [ha]
  · rw [hr]
  · rw [hs]
    exact hp

end SpecStyle
