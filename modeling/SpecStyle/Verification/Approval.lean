/-
SpecStyle/Verification/Approval.lean

What the router decides on its own, without a stop reason.

`VerificationReport.Affects` states in the terms of the report which results
bear on an artifact; the gates of the router are exactly these.  Each verdict
is then a property of the statuses and the gate policies alone
(`routing_exact`): an artifact is approved when every required result passes
and none, required or not, is left to manual review, it is rejected when some
required result is, and otherwise it goes to manual review.
-/
import SpecStyle.Verification.Routing

namespace SpecStyle

open PyLib

/-! ### Results that bear on an artifact -/

/-- The result of the rule affects the artifact. -/
structure VerificationReport.Affects (report : VerificationReport) (target : ArtifactId)
    (rule : RuleDefinition) (result : RuleResult) : Prop where
  rule_mem : rule ∈ report.rules
  result_mem : result ∈ report.results
  names : rule.ruleId = result.ruleId
  target_mem : target ∈ result.affectedArtifactIds

section Router

variable {report : VerificationReport} {target : ArtifactId}

/-- The gates of the router are the results that affect the artifact. -/
theorem affects_iff {rule : RuleDefinition} {result : RuleResult} :
    report.Affects target rule result ↔ (rule, result) ∈ resultsAffectingArtifact report target := by
  rw [mem_resultsAffectingArtifact]
  constructor
  · intro h
    exact ⟨h.result_mem, h.target_mem, h.rule_mem, h.names⟩
  · rintro ⟨hresult, htarget, hrule, hnames⟩
    exact ⟨hrule, hresult, hnames, htarget⟩

/-- Only applicable rules have results. -/
theorem VerificationReport.Affects.applicable {rule : RuleDefinition} {result : RuleResult}
    (h : report.Affects target rule result) : rule.applicability = .applicable := by
  obtain ⟨found, hf, happ, -⟩ := report.checks.known result h.result_mem
  rw [← h.names, ruleById_self report.checks.rules_nodup h.rule_mem] at hf
  cases hf
  exact happ

theorem VerificationReport.Affects.target_ids {rule : RuleDefinition} {result : RuleResult}
    (h : report.Affects target rule result) : target ∈ report.ids := by
  obtain ⟨-, -, -, hids⟩ := report.checks.known result h.result_mem
  exact hids target h.target_mem

theorem any_requiredGates_iff {p : Gate → Bool} :
    (requiredGates (resultsAffectingArtifact report target)).any p = true ↔
      ∃ rule result, report.Affects target rule result ∧ rule.required = true ∧
        p (rule, result) = true := by
  rw [List.any_eq_true]
  constructor
  · rintro ⟨⟨rule, result⟩, hg, hp⟩
    obtain ⟨hm, hr⟩ := mem_requiredGates.mp hg
    exact ⟨rule, result, affects_iff.mpr hm, hr, hp⟩
  · rintro ⟨rule, result, ha, hr, hp⟩
    exact ⟨(rule, result), mem_requiredGates.mpr ⟨affects_iff.mp ha, hr⟩, hp⟩

/-! ### Verdicts of the cascade -/

/-- The cascade rejects when a required gate rejects. -/
theorem route_none_rejected {relevant : List Gate} {status : ArtifactStatus}
    {reason : DecisionReason} (h : route none relevant = .ok (status, reason)) :
    status = .rejected ↔ (requiredGates relevant).any Gate.rejectsUnverifiable = true ∨
      (requiredGates relevant).any Gate.rejects = true := by
  unfold route at h
  simp only [Option.any_none, Bool.false_and, Bool.false_eq_true, if_false] at h
  split_ifs at h with hu hf hm hp
  · cases h
    exact iff_of_true rfl (.inl hu)
  · cases h
    exact iff_of_true rfl (.inr hf)
  · cases h
    exact iff_of_false (by decide) (fun hr => hr.elim hu hf)
  · cases h
    exact iff_of_false (by decide) (fun hr => hr.elim hu hf)

/-- The cascade approves when the required gates pass and none is manual. -/
theorem route_none_approved_iff {relevant : List Gate} {status : ArtifactStatus}
    {reason : DecisionReason} (h : route none relevant = .ok (status, reason)) :
    status = .approved ↔ (requiredGates relevant).any Gate.nonpass = false ∧
      hasManualPolicy relevant = false := by
  unfold route at h
  simp only [Option.any_none, Bool.false_and, Bool.false_eq_true, if_false] at h
  split_ifs at h with hu hf hm hp
  · cases h
    refine iff_of_false (by decide) fun hpass => ?_
    obtain ⟨g, hg, hg'⟩ := List.any_eq_true.mp hu
    apply List.any_eq_false.mp hpass.1 g hg
    unfold Gate.nonpass
    rw [(of_decide_eq_true hg').1]
    rfl
  · cases h
    refine iff_of_false (by decide) fun hpass => ?_
    obtain ⟨g, hg, hg'⟩ := List.any_eq_true.mp hf
    exact List.any_eq_false.mp hpass.1 g hg (Gate.nonpass_of_rejects hg')
  · cases h
    refine iff_of_false (by decide) fun hpass => ?_
    rw [hpass.2] at hm
    exact absurd hm (by decide)
  · cases h
    rw [Bool.not_eq_true'] at hp
    refine iff_of_true rfl ⟨hp, ?_⟩
    rw [Bool.or_eq_true, not_or] at hm
    exact Bool.eq_false_iff.mpr hm.2

/-! ### The decision -/

/-- A result its gate policy leaves to manual review. -/
def asksForReview (rule : RuleDefinition) (result : RuleResult) : Prop :=
  result.status = .warning ∧ rule.gatePolicy.onWarning = .manualReview ∨
    result.status = .unverifiable ∧ rule.gatePolicy.onUnverifiable = .manualReview

/-- A result that rejects, one way or the other. -/
def rejectsArtifact (rule : RuleDefinition) (result : RuleResult) : Prop :=
  result.status = .fail ∨
    result.status = .warning ∧ rule.gatePolicy.onWarning = .reject ∨
    result.status = .unverifiable ∧ rule.gatePolicy.onUnverifiable = .reject

theorem manual_iff {rule : RuleDefinition} {result : RuleResult} :
    Gate.manual (rule, result) = true ↔ asksForReview rule result := by
  unfold Gate.manual asksForReview
  exact decide_eq_true_iff

theorem rejects_iff {rule : RuleDefinition} {result : RuleResult} :
    Gate.rejectsUnverifiable (rule, result) = true ∨ Gate.rejects (rule, result) = true ↔
      rejectsArtifact rule result := by
  unfold Gate.rejectsUnverifiable Gate.rejects rejectsArtifact
  rw [decide_eq_true_iff, decide_eq_true_iff]
  exact or_comm.trans or_assoc

/-- On an artifact with a required result the router decides.  It approves
exactly where every required result passes and none asks for review, and
rejects exactly where some required result does. -/
theorem routing_exact (hgate : ∃ rule result, report.Affects target rule result ∧
      rule.required = true) :
    ∃ d, decideArtifact report target none false = .ok d ∧
      (d.artifactStatus = .approved ↔
        (∀ rule result, report.Affects target rule result → rule.required = true →
          result.status = .pass) ∧
        ∀ rule result, report.Affects target rule result → ¬ asksForReview rule result) ∧
      (d.artifactStatus = .rejected ↔ ∃ rule result, report.Affects target rule result ∧
        rule.required = true ∧ rejectsArtifact rule result) := by
  obtain ⟨rule, result, haffects, hrequired⟩ := hgate
  have hgates : requiredGates (resultsAffectingArtifact report target) ≠ [] :=
    List.ne_nil_of_mem (mem_requiredGates.mpr ⟨affects_iff.mp haffects, hrequired⟩)
  obtain ⟨d, hd⟩ := decideArtifact_total haffects.target_ids hgates (validateStopReason_none _)
  have hroute := (decideArtifact_ok_iff.mp hd).2.2.2.1
  refine ⟨d, hd, ?_, ?_⟩
  · rw [route_none_approved_iff hroute]
    refine and_congr ?_ ?_
    · rw [← Bool.not_eq_true, any_requiredGates_iff]
      constructor
      · intro hnone rule result ha hr
        by_contra hne
        exact hnone ⟨rule, result, ha, hr, decide_eq_true hne⟩
      · rintro hall ⟨rule, result, ha, hr, hne⟩
        exact of_decide_eq_true hne (hall rule result ha hr)
    · unfold hasManualPolicy
      rw [← Bool.not_eq_true, List.any_eq_true]
      constructor
      · intro hnone rule result ha hreview
        exact hnone ⟨(rule, result), affects_iff.mp ha, manual_iff.mpr hreview⟩
      · rintro hall ⟨⟨rule, result⟩, hg, hm⟩
        exact hall rule result (affects_iff.mpr hg) (manual_iff.mp hm)
  · rw [route_none_rejected hroute, any_requiredGates_iff, any_requiredGates_iff]
    constructor
    · rintro (⟨rule, result, ha, hr, hu⟩ | ⟨rule, result, ha, hr, hf⟩)
      · exact ⟨rule, result, ha, hr, rejects_iff.mp (.inl hu)⟩
      · exact ⟨rule, result, ha, hr, rejects_iff.mp (.inr hf)⟩
    · rintro ⟨rule, result, ha, hr, hrejects⟩
      rcases rejects_iff.mpr hrejects with hu | hf
      · exact .inl ⟨rule, result, ha, hr, hu⟩
      · exact .inr ⟨rule, result, ha, hr, hf⟩

end Router

/-! ### A batch of two -/

namespace PairReport

def itemRule : RuleDefinition :=
  ⟨Id.lit .rule "item", .l1, .item, true, .applicable, ⟨.reject, .manualReview⟩, fun _ => by decide⟩

def batchGate : RuleDefinition :=
  ⟨Id.lit .rule "batch", .l2, .batch, true, .applicable, ⟨.manualReview, .reject⟩,
    fun _ => by decide⟩

def one : ArtifactId := Id.lit .artifact "one"

def two : ArtifactId := Id.lit .artifact "two"

/-- The item rule fails the second artifact. -/
def report : VerificationReport :=
  ⟨[⟨one, sampleHash⟩, ⟨two, sampleHash⟩], [itemRule, batchGate],
    [⟨itemRule.ruleId, .pass, [one], none⟩, ⟨itemRule.ruleId, .fail, [two], none⟩,
      ⟨batchGate.ruleId, .pass, [one, two], none⟩], by decide⟩

theorem affects : report.Affects one itemRule ⟨itemRule.ruleId, .pass, [one], none⟩ where
  rule_mem := by
    unfold report
    exact List.mem_cons_self
  result_mem := by
    unfold report
    exact List.mem_cons_self
  names := rfl
  target_mem := List.mem_singleton_self _

end PairReport

/-- The router decides about the first of them. -/
theorem routing_exact_pair :
    ∃ d, decideArtifact PairReport.report PairReport.one none false = .ok d :=
  (routing_exact ⟨_, _, PairReport.affects, rfl⟩).imp fun _ h => h.1

end SpecStyle
