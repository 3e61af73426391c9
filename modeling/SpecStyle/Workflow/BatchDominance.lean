/-
SpecStyle/Workflow/BatchDominance.lean

The final report of a cohort, and the gate of the batch in it.

The report is put together rule by rule, and holds the results that the
candidates have brought, each of them once, and the batch result
(`finalReport_perm`).  The batch result is a required gate of every artifact
of the cohort, so no artifact is approved without it
(`AdmittedCohort.approved`).
-/
import SpecStyle.Workflow.BatchRouting
import Mathlib.Data.List.Nodup

namespace SpecStyle

open PyLib

variable {hashBytes : Bytes → Sha256}

/-! ### The results of a candidate -/

/-- A result of a candidate is the one result of an item rule, about its artifact. -/
theorem ProductionBatchCandidate.result_item {plan : CompiledVerificationPlan}
    (item : ProductionBatchCandidate hashBytes)
    (hrules : item.itemReport.rules = itemDefinitions plan) {r : RuleResult}
    (hr : r ∈ item.itemReport.results) :
    resultsOf item.itemReport.results r.ruleId = [r] ∧ r.affectedArtifactIds = [item.id] ∧
      ∃ d ∈ itemDefinitions plan, d.ruleId = r.ruleId := by
  obtain ⟨d, hd, ha, -⟩ := item.itemReport.checks.known r hr
  obtain ⟨hm, hid⟩ := ruleById_mem hd
  have hitem : d ∈ itemDefinitions plan := by
    rw [← hrules]
    exact hm
  obtain ⟨x, hx, haff⟩ := item.resultsOf_item hm ha (mem_itemDefinitions.mp hitem).2
  have hin : r ∈ resultsOf item.itemReport.results d.ruleId := by
    unfold resultsOf
    rw [List.mem_filter, decide_eq_true_eq]
    exact ⟨hr, hid.symm⟩
  rw [hx, List.mem_singleton] at hin
  subst hin
  rw [hid] at hx
  exact ⟨hx, haff, d, hitem, hid⟩

/-- A candidate brings each result once. -/
theorem ProductionBatchCandidate.results_nodup {plan : CompiledVerificationPlan}
    (item : ProductionBatchCandidate hashBytes)
    (hrules : item.itemReport.rules = itemDefinitions plan) : item.itemReport.results.Nodup := by
  rw [List.nodup_iff_count_le_one]
  intro r
  by_cases hr : r ∈ item.itemReport.results
  · obtain ⟨hone, -⟩ := item.result_item hrules hr
    have hcount : (resultsOf item.itemReport.results r.ruleId).count r =
        item.itemReport.results.count r := by
      unfold resultsOf
      exact List.count_filter (decide_eq_true rfl)
    rw [← hcount, hone, List.count_singleton_self]
  · rw [List.count_eq_zero_of_not_mem hr]
    exact Nat.zero_le 1

section Report

variable {plan : CompiledVerificationPlan} {rule : CompiledRule}
  {candidates : List (ProductionBatchCandidate hashBytes)} {result : RuleResult}

/-- The results of two candidates are about two artifacts. -/
theorem AdmittedCohort.results_disjoint (h : AdmittedCohort plan rule candidates result)
    {a b : ProductionBatchCandidate hashBytes} (ha : a ∈ candidates) (hb : b ∈ candidates)
    (hne : a.id ≠ b.id) : List.Disjoint a.itemReport.results b.itemReport.results := by
  intro r hra hrb
  have hida := (a.result_item (h.rules a ha) hra).2.1
  have hidb := (b.result_item (h.rules b hb) hrb).2.1
  rw [hida, List.cons.injEq] at hidb
  exact hne hidb.1

/-- All results of all candidates, each once. -/
theorem AdmittedCohort.results_nodup (h : AdmittedCohort plan rule candidates result) :
    (candidates.flatMap (·.itemReport.results)).Nodup := by
  rw [List.nodup_flatMap]
  refine ⟨fun item hi => item.results_nodup (h.rules item hi), ?_⟩
  have hids := h.ids_nodup
  rw [List.Nodup, List.pairwise_map] at hids
  exact hids.imp_of_mem fun ha hb hne => h.results_disjoint ha hb hne

/-- The item results of the final report, each once: rule by rule, and then
candidate by candidate. -/
theorem AdmittedCohort.itemResults_nodup (h : AdmittedCohort plan rule candidates result) :
    (itemResults plan candidates).Nodup := by
  have hsub : ∀ (item : ProductionBatchCandidate hashBytes) ruleId,
      (resultsOf item.itemReport.results ruleId).Sublist item.itemReport.results := by
    intro item ruleId
    exact List.filter_sublist
  unfold itemResults
  rw [List.nodup_flatMap]
  constructor
  · intro d hd
    rw [List.nodup_flatMap]
    refine ⟨fun item hi => (hsub item d.ruleId).nodup (item.results_nodup (h.rules item hi)), ?_⟩
    have hids := h.ids_nodup
    rw [List.Nodup, List.pairwise_map] at hids
    refine hids.imp_of_mem fun {a b} ha hb hne r hra hrb => ?_
    exact h.results_disjoint ha hb hne ((hsub a _).mem hra) ((hsub b _).mem hrb)
  · have hn : ((itemDefinitions plan).map (·.ruleId)).Nodup :=
      (List.filter_sublist.map _).nodup (applicableRuleDefinitions_nodup plan)
    rw [List.Nodup, List.pairwise_map] at hn
    refine hn.imp fun {d e} hne r hrd hre => ?_
    obtain ⟨a, -, hrd⟩ := List.mem_flatMap.mp hrd
    obtain ⟨b, -, hre⟩ := List.mem_flatMap.mp hre
    exact hne ((resultsOf_ruleId hrd).2.symm.trans (resultsOf_ruleId hre).2)

/-- The batch result is no result of a candidate. -/
theorem AdmittedCohort.batch_not_mem (h : AdmittedCohort plan rule candidates result) :
    result ∉ candidates.flatMap (·.itemReport.results) := by
  intro hr
  obtain ⟨item, hi, hr⟩ := List.mem_flatMap.mp hr
  obtain ⟨-, -, d, hd, hid⟩ := item.result_item (h.rules item hi) hr
  obtain ⟨hd, hscope⟩ := mem_itemDefinitions.mp hd
  have hbatch : d = rule.definition := by
    apply List.inj_on_of_nodup_map (applicableRuleDefinitions_nodup plan) hd h.batch
    rw [hid, h.ruleId]
  rw [hbatch, h.scope] at hscope
  cases hscope

/-- The final report holds the results of the candidates and the batch result. -/
theorem finalReport_perm (h : AdmittedCohort plan rule candidates result)
    {report : VerificationReport} (hrep : finalReport plan candidates result = .ok report) :
    report.results.Perm (candidates.flatMap (·.itemReport.results) ++ [result]) ∧
      report.results.Nodup := by
  obtain ⟨rep, hok, -, -, hresults⟩ := finalReport_ok h
  rw [hok] at hrep
  cases hrep
  have hmem : ∀ r, r ∈ itemResults plan candidates ↔
      r ∈ candidates.flatMap (·.itemReport.results) := by
    intro r
    rw [mem_itemResults h, List.mem_flatMap]
  have hperm : (itemResults plan candidates).Perm (candidates.flatMap (·.itemReport.results)) :=
    (List.perm_ext_iff_of_nodup h.itemResults_nodup h.results_nodup).mpr hmem
  rw [hresults]
  refine ⟨hperm.append_right [result], ?_⟩
  rw [(hperm.append_right [result]).nodup_iff, List.nodup_append]
  refine ⟨h.results_nodup, List.nodup_singleton result, fun a ha b hb => ?_⟩
  rw [List.mem_singleton.mp hb]
  rintro rfl
  exact h.batch_not_mem ha

/-! ### The batch gate -/

/-- An approval has no required gate that does not pass. -/
theorem required_pass_of_approved {stop : Option RepairStopReason} {relevant : List Gate}
    {reason : DecisionReason} (h : route stop relevant = .ok (.approved, reason)) :
    ∀ g ∈ requiredGates relevant, g.2.status = .pass := by
  unfold route at h
  simp only at h
  split_ifs at h with h1 h2 h3 h4 h5
  · cases h
  · cases h
  · cases h
  · cases h
  · intro g hg
    rw [Bool.not_eq_true', List.any_eq_false] at h5
    have hpass := h5 g hg
    unfold Gate.nonpass at hpass
    simpa using hpass

/-- A decision is what the cascade has answered, under an override too. -/
theorem decideArtifact_route {report : VerificationReport} {target : ArtifactId}
    {stop : Option RepairStopReason} {override : Bool} {d : ArtifactDecision}
    (h : decideArtifact report target stop override = .ok d) :
    route stop (resultsAffectingArtifact report target) =
      .ok (d.artifactStatus, d.decisionReason) := by
  obtain ⟨-, h⟩ := check_ok_iff.mp h
  obtain ⟨-, h⟩ := check_ok_iff.mp h
  obtain ⟨-, h⟩ := check_ok_iff.mp h
  obtain ⟨⟨status, reason⟩, hroute, h⟩ := bind_ok_iff.mp h
  obtain ⟨-, h⟩ := check_ok_iff.mp h
  unfold ArtifactDecision.new at h
  split_ifs at h
  cases h
  exact hroute

/-- The batch result and the required results of the artifact pass. -/
structure CohortPasses (plan : CompiledVerificationPlan) (item : ProductionBatchCandidate hashBytes)
    (result : RuleResult) : Prop where
  batch : result.status = .pass
  item : ∀ r ∈ item.itemReport.results,
    (∃ d ∈ itemDefinitions plan, d.ruleId = r.ruleId ∧ d.required = true) → r.status = .pass

/-- However an artifact of the cohort is decided, it is approved only when the
batch result and its own required results pass. -/
theorem AdmittedCohort.approved (h : AdmittedCohort plan rule candidates result)
    {report : VerificationReport} (hrep : finalReport plan candidates result = .ok report)
    {item : ProductionBatchCandidate hashBytes} (hi : item ∈ candidates)
    {stop : Option RepairStopReason} {override : Bool} {d : ArtifactDecision}
    (hd : decideArtifact report item.id stop override = .ok d)
    (happroved : d.artifactStatus = .approved) : CohortPasses plan item result := by
  have hroute := decideArtifact_route hd
  rw [happroved] at hroute
  have hpass := required_pass_of_approved hroute
  constructor
  · exact hpass (rule.definition, result) ((mem_gates h hrep hi).mpr (.inr rfl))
  · rintro r hr ⟨x, hx, hid, hreq⟩
    have hgate : (x, r) ∈ requiredGates (resultsAffectingArtifact item.itemReport item.id) := by
      rw [mem_requiredGates, mem_resultsAffectingArtifact, h.rules item hi]
      refine ⟨⟨hr, ?_, hx, hid⟩, hreq⟩
      rw [(item.result_item (h.rules item hi) hr).2.1]
      exact List.mem_singleton_self item.id
    exact hpass (x, r) ((mem_gates h hrep hi).mpr (.inl hgate))

end Report

/-- **The batch gate dominates.**  The final report of a validated cohort holds
the results of the candidates and the batch result, each of them once; and an
artifact of the cohort is approved, by the batch or under any other stop reason,
only when the batch result and all its required item results pass. -/
theorem batch_gate_dominates {reservation : ProductionBatchReservation}
    {target : ProductionBatchTarget} {plan : CompiledVerificationPlan} {rule : CompiledRule}
    {built candidates : List (ProductionBatchCandidate hashBytes)} {observed result : RuleResult}
    (hrule : batchRule plan target.l2ProfileApprovalSha256 target.l3ProfileApprovalSha256 =
      .ok rule)
    (hc : validateCandidates reservation target plan built = .ok candidates)
    (hr : validateBatchResult rule candidates observed = .ok result) :
    ∃ report, finalReport plan candidates result = .ok report ∧
      (report.results.Perm (candidates.flatMap (·.itemReport.results) ++ [result]) ∧
        report.results.Nodup) ∧
      (∀ item ∈ candidates, ∀ stop override d,
        decideArtifact report item.id stop override = .ok d → d.artifactStatus = .approved →
          CohortPasses plan item result) ∧
      ∃ decisions, routeCohort report candidates = .ok decisions ∧
        List.Forall₂ (fun item d =>
          d.artifactId = item.id ∧ (d.artifactStatus = .approved → CohortPasses plan item result))
          candidates decisions ∧
        (result.status ≠ .pass → ∀ d ∈ decisions, d.artifactStatus ≠ .approved) := by
  have h := admittedCohort hrule hc hr
  obtain ⟨report, decisions, hrep, hroute, -⟩ := routeCohort_ok h
  have happroved : ∀ item ∈ candidates, ∀ stop override d,
      decideArtifact report item.id stop override = .ok d → d.artifactStatus = .approved →
        CohortPasses plan item result :=
    fun item hi stop override d hd ha => h.approved hrep hi hd ha
  have hall := mapM_ok_iff.mp hroute
  refine ⟨report, hrep, finalReport_perm h hrep, happroved, decisions, hroute, ?_, ?_⟩
  · refine List.forall₂_iff_get.mpr ⟨hall.length_eq, fun i hi hi' => ?_⟩
    have hd := (List.forall₂_iff_get.mp hall).2 i hi hi'
    exact ⟨(decideArtifact_ok_iff.mp hd).2.2.2.2.1,
      happroved _ (List.get_mem candidates ⟨i, hi⟩) _ _ _ hd⟩
  · intro hfails d hd ha
    obtain ⟨item, hi, hdecide⟩ := forall₂_source hall hd
    exact hfails (happroved item hi _ _ d hdecide ha).batch

namespace FailedBatch

open WarnedBatch

def secondId : ArtifactId := Id.lit .artifact "artifact-2"

/-- The bytes of the two artifacts have different hashes. -/
def sha (data : Bytes) : Sha256 :=
  if data = [] then sampleHash else otherHash

def reservation : ProductionBatchReservation :=
  ⟨Id.lit .identifier "batch-1", sampleHash,
    [Id.lit .identifier "member-1", Id.lit .identifier "member-2"], by decide, by decide⟩

/-- A candidate whose structure rule passes. -/
def passed : ProductionBatchCandidate sha where
  memberId := Id.lit .identifier "member-1"
  seed := 9
  artifact := ⟨⟨artifactId, sampleHash⟩, [], sampleHash, sampleHash, rfl⟩
  itemReport := ⟨[⟨artifactId, sampleHash⟩], [structureRule.definition],
    [⟨structureRule.definition.ruleId, .pass, [artifactId], none⟩], by decide⟩
  compiledSpecSha256 := sampleHash
  seed_lt := by decide
  reported := rfl

/-- A candidate whose structure rule warns. -/
def warned : ProductionBatchCandidate sha where
  memberId := Id.lit .identifier "member-2"
  seed := 8
  artifact := ⟨⟨secondId, sha [1]⟩, [1], sampleHash, sampleHash, rfl⟩
  itemReport := ⟨[⟨secondId, sha [1]⟩], [structureRule.definition],
    [⟨structureRule.definition.ruleId, .warning, [secondId], none⟩], by decide⟩
  compiledSpecSha256 := sampleHash
  seed_lt := by decide
  reported := rfl

/-- The batch result fails. -/
def result : RuleResult :=
  ⟨batch.definition.ruleId, .fail, [artifactId, secondId], some Binary64.zero⟩

theorem candidates_valid :
    validateCandidates reservation target plan [passed, warned] = .ok [passed, warned] :=
  check_ok_iff.mpr ⟨ensure_ok_iff.mpr (by decide +kernel), rfl⟩

theorem result_valid : validateBatchResult batch [passed, warned] result = .ok result :=
  check_ok_iff.mpr ⟨ensure_ok_iff.mpr (by decide +kernel), rfl⟩

end FailedBatch

/-- Two candidates under a batch result that fails: the report holds the three
results, and also the candidate that passes is not approved. -/
theorem batch_gate_dominates_failed :
    ∃ report decisions,
      finalReport WarnedBatch.plan [FailedBatch.passed, FailedBatch.warned] FailedBatch.result =
        .ok report ∧
      (report.results.Perm ([FailedBatch.passed, FailedBatch.warned].flatMap
          (·.itemReport.results) ++ [FailedBatch.result]) ∧ report.results.Nodup) ∧
      routeCohort report [FailedBatch.passed, FailedBatch.warned] = .ok decisions ∧
      ∀ d ∈ decisions, d.artifactStatus ≠ .approved := by
  obtain ⟨report, hrep, hresults, -, decisions, hroute, -, hfails⟩ := batch_gate_dominates
    WarnedBatch.batchRule_plan FailedBatch.candidates_valid FailedBatch.result_valid
  exact ⟨report, decisions, hrep, hresults, hroute, hfails (by decide)⟩

end SpecStyle
