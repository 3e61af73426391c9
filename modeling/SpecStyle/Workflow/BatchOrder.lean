/-
SpecStyle/Workflow/BatchOrder.lean

The order of item results does not show in what a batch decides.

`finalReport` lists the item results by rule and by candidate; within one
candidate it keeps the order of the item report.  Two cohorts that differ
in that order alone have final reports that differ in the order of their
results alone, or none at all.
-/
import SpecStyle.Verification.RoutingOrder
import SpecStyle.Workflow.BatchRouting

namespace SpecStyle

open PyLib

variable {hashBytes : Bytes → Sha256}

/-! ### The batch path -/

/-- The same candidate, its item report listing the results in another order. -/
structure ProductionBatchCandidate.Relisted
    (item item' : ProductionBatchCandidate hashBytes) : Prop where
  artifact : item.artifact = item'.artifact
  results : item.itemReport.results.Perm item'.itemReport.results

/-- `_final_report`, then `decide_artifact` -/
def decideInBatch (plan : CompiledVerificationPlan)
    (candidates : List (ProductionBatchCandidate hashBytes)) (batchResult : RuleResult)
    (artifactId : ArtifactId) (stop : Option RepairStopReason) (override : Bool) :
    Except Raised ArtifactDecision := do
  let report ← finalReport plan candidates batchResult
  decideArtifact report artifactId stop override

/-- `_final_report`, then the decisions of the cohort, each under the stop
reason the batch derives. -/
def decideCohort (plan : CompiledVerificationPlan)
    (candidates : List (ProductionBatchCandidate hashBytes)) (batchResult : RuleResult) :
    Except Raised (List ArtifactDecision) := do
  let report ← finalReport plan candidates batchResult
  routeCohort report candidates

variable {candidates candidates' : List (ProductionBatchCandidate hashBytes)}

/-! ### Relisted cohorts -/

theorem relisted_symm (h : List.Forall₂ ProductionBatchCandidate.Relisted candidates candidates') :
    List.Forall₂ ProductionBatchCandidate.Relisted candidates' candidates :=
  h.flip.imp fun _ _ h => ⟨h.artifact.symm, h.results.symm⟩

/-- A relisted cohort has the same artifacts, in the same order. -/
theorem artifacts_relisted
    (h : List.Forall₂ ProductionBatchCandidate.Relisted candidates candidates') :
    candidates.map (·.artifact) = candidates'.map (·.artifact) := by
  induction h with
  | nil => rfl
  | cons h _ ih => rw [List.map_cons, List.map_cons, h.artifact, ih]

/-- The results of a rule over a relisted cohort, up to order. -/
theorem flatMap_resultsOf_relisted
    (h : List.Forall₂ ProductionBatchCandidate.Relisted candidates candidates')
    (ruleId : RuleId) :
    (candidates.flatMap fun item => resultsOf item.itemReport.results ruleId).Perm
      (candidates'.flatMap fun item => resultsOf item.itemReport.results ruleId) := by
  induction h with
  | nil => exact List.Perm.refl _
  | cons h _ ih =>
      rw [List.flatMap_cons, List.flatMap_cons]
      exact (resultsOf_perm h.results ruleId).append ih

/-- The final report of a relisted cohort is the final report, reordered. -/
theorem finalReport_relisted {plan : CompiledVerificationPlan} {batchResult : RuleResult}
    {report : VerificationReport}
    (h : List.Forall₂ ProductionBatchCandidate.Relisted candidates candidates')
    (hr : finalReport plan candidates batchResult = .ok report) :
    ∃ report', finalReport plan candidates' batchResult = .ok report' ∧
      report.Reordered report' := by
  have hrefs : candidates.map (·.artifact.ref) = candidates'.map (·.artifact.ref) := by
    have := congrArg (List.map GeneratedArtifact.ref) (artifacts_relisted h)
    rwa [List.map_map, List.map_map] at this
  unfold finalReport at hr ⊢
  rw [← hrefs]
  apply VerificationReport.new_perm_results _ hr
  apply List.Perm.append_right
  apply List.Perm.flatMap_left
  intro rule _
  exact flatMap_resultsOf_relisted h rule.ruleId

/-- What is decided from the final report survives a relisting, if it only
depends on the report up to order. -/
theorem bind_finalReport_relisted {α : Type} {plan : CompiledVerificationPlan}
    {batchResult : RuleResult} {f f' : VerificationReport → Except Raised α}
    (h : List.Forall₂ ProductionBatchCandidate.Relisted candidates candidates')
    (hf : ∀ report report', report.Reordered report' → f report = f' report') :
    (finalReport plan candidates batchResult >>= f).toOption =
      (finalReport plan candidates' batchResult >>= f').toOption := by
  rcases hr : finalReport plan candidates batchResult with e | report
  · rcases hr' : finalReport plan candidates' batchResult with e' | report'
    · rfl
    · -- the relisting goes both ways, so one report cannot be refused alone
      obtain ⟨_, ho, _⟩ := finalReport_relisted (relisted_symm h) hr'
      rw [hr] at ho
      cases ho
  · obtain ⟨report', hr', hre⟩ := finalReport_relisted h hr
    rw [hr', ok_bind, ok_bind, hf report report' hre]

/-- The stop reason the batch derives asks whether some result has a property. -/
theorem batchStopReason_reordered {report report' : VerificationReport}
    (h : report.Reordered report') (target : ArtifactId) :
    batchStopReason report target = batchStopReason report' target := by
  have hrule : ruleById report.rules = ruleById report'.rules := by
    funext ruleId
    exact ruleById_perm report.checks.rules_nodup h.rules ruleId
  unfold batchStopReason
  rw [hrule]
  have hp := h.results.filter fun result =>
    target ∈ result.affectedArtifactIds ∧
      (ruleById report'.rules result.ruleId).any fun rule =>
        rule.required && rule.applicability = .applicable
  simp only
  rw [hp.any_eq, hp.any_eq (f := fun result => result.status ≠ .pass)]

/-- A cohort is routed alike from a reordered report. -/
theorem routeCohort_relisted {report report' : VerificationReport}
    (h : List.Forall₂ ProductionBatchCandidate.Relisted candidates candidates')
    (hr : report.Reordered report') :
    routeCohort report candidates = routeCohort report' candidates' := by
  unfold routeCohort
  induction h with
  | nil => rfl
  | cons h _ ih =>
      have hid : ∀ item item' : ProductionBatchCandidate hashBytes, item.Relisted item' →
          item.id = item'.id := fun _ _ h => congrArg (·.ref.artifactId) h.artifact
      rw [List.mapM_cons, List.mapM_cons, ih, hid _ _ h, hr.decideArtifact_eq,
        batchStopReason_reordered hr]

/-! ### The theorem -/

/-- **Routing is order independent.**  A report whose rules and results are
listed otherwise routes every artifact to the same decision or the same
error, and so does a batch whose item reports list their results otherwise,
up to which error it is. -/
theorem routing_order_independent :
    (∀ report report' : VerificationReport, report.Reordered report' →
      ∀ target stop override,
        decideArtifact report target stop override =
          decideArtifact report' target stop override) ∧
    ∀ (hashBytes : Bytes → Sha256)
      (candidates candidates' : List (ProductionBatchCandidate hashBytes)),
      List.Forall₂ ProductionBatchCandidate.Relisted candidates candidates' →
      ∀ plan batchResult,
        (∀ target stop override,
          (decideInBatch plan candidates batchResult target stop override).toOption =
            (decideInBatch plan candidates' batchResult target stop override).toOption) ∧
        (decideCohort plan candidates batchResult).toOption =
          (decideCohort plan candidates' batchResult).toOption := by
  refine ⟨fun _ _ h => h.decideArtifact_eq, fun _ candidates candidates' h plan batchResult => ⟨?_, ?_⟩⟩
  · intro target stop override
    exact bind_finalReport_relisted h fun _ _ hr => hr.decideArtifact_eq target stop override
  · exact bind_finalReport_relisted h fun _ _ hr => routeCohort_relisted h hr

/-! ### Two gates -/

namespace TwoGates

open WarnedBatch

def sharpness : RuleDefinition := definition "SHARPNESS" .l1 .item

/-- The structure rule warns and the sharpness rule passes. -/
def warned : RuleResult := ⟨structureRule.definition.ruleId, .warning, [artifactId], none⟩

def passed : RuleResult := ⟨sharpness.ruleId, .pass, [artifactId], none⟩

def report : VerificationReport :=
  ⟨[⟨artifactId, sampleHash⟩], [structureRule.definition, sharpness], [warned, passed], by decide⟩

/-- The same report, listed backwards. -/
def report' : VerificationReport :=
  ⟨[⟨artifactId, sampleHash⟩], [sharpness, structureRule.definition], [passed, warned], by decide⟩

def candidate : ProductionBatchCandidate fun _ => sampleHash :=
  { WarnedBatch.candidate with itemReport := report, reported := rfl }

def candidate' : ProductionBatchCandidate fun _ => sampleHash :=
  { candidate with itemReport := report', reported := rfl }

theorem reordered : report.Reordered report' :=
  ⟨.refl _, .swap sharpness structureRule.definition [], .swap passed warned []⟩

theorem relisted : candidate.Relisted candidate' :=
  ⟨rfl, .swap passed warned []⟩

end TwoGates

/-- Both listings of the two gates send the artifact to manual review, and a
batch routes it alike from both. -/
theorem routing_order_independent_twoGates :
    decideArtifact TwoGates.report WarnedBatch.artifactId none false =
      decideArtifact TwoGates.report' WarnedBatch.artifactId none false ∧
    (decideArtifact TwoGates.report WarnedBatch.artifactId none false).toOption.map
      (·.artifactStatus) = some .manualReview ∧
    (decideCohort WarnedBatch.plan [TwoGates.candidate] WarnedBatch.result).toOption =
      (decideCohort WarnedBatch.plan [TwoGates.candidate'] WarnedBatch.result).toOption :=
  ⟨routing_order_independent.1 _ _ TwoGates.reordered _ _ _, by decide +kernel,
    (routing_order_independent.2 _ _ _ (.cons TwoGates.relisted .nil) _ _).2⟩

end SpecStyle
