/-
SpecStyle/Workflow/BatchRouting.lean

Batch routing against plain routing.

`AdmittedCohort` collects what the validators of the batch have checked; the
final report, its gates and the derived stop reason are all read off it.  The
main results are `batch_routing_agrees_iff`, on every admitted cohort, and
`runAtomicProductionBatch_routed`, by which a run routes an admitted cohort.
-/
import SpecStyle.Workflow.ProductionBatch

namespace SpecStyle

open PyLib

variable {hashBytes : Bytes → Sha256}

/-! ### Admitted cohorts -/

/-- What the validators have checked of a plan, a cohort and a batch result. -/
structure AdmittedCohort (plan : CompiledVerificationPlan) (rule : CompiledRule)
    (candidates : List (ProductionBatchCandidate hashBytes)) (result : RuleResult) : Prop where
  batch : rule.definition ∈ plan.applicableRuleDefinitions
  scope : rule.definition.scope = .batch
  required : rule.definition.required = true
  unique : ∀ d ∈ plan.applicableRuleDefinitions, d.scope = .batch → d = rule.definition
  nonempty : candidates ≠ []
  ids_nodup : (candidates.map (·.id)).Nodup
  rules : ∀ item ∈ candidates, item.itemReport.rules = itemDefinitions plan
  ruleId : result.ruleId = rule.definition.ruleId
  affected : result.affectedArtifactIds = candidates.map (·.id)
  status : result.status ∈ [RuleStatus.pass, .fail, .unverifiable]

/-- The batch rule is the one applicable batch rule of the plan. -/
theorem batchRule_ok {plan : CompiledVerificationPlan} {l2 l3 : Sha256} {rule : CompiledRule}
    (h : batchRule plan l2 l3 = .ok rule) :
    (plan.rules.filter fun r =>
      r.definition.scope = .batch ∧ r.definition.applicability = .applicable) = [rule] ∧
      rule.definition.required = true := by
  unfold batchRule at h
  obtain ⟨-, h⟩ := check_ok_iff.mp h
  split at h
  · next r hr =>
    obtain ⟨he, h⟩ := check_ok_iff.mp h
    obtain ⟨x, -, h⟩ := bind_ok_iff.mp h
    cases h
    rw [ensure_ok_iff, decide_eq_true_eq] at he
    exact ⟨hr, he.1⟩
  · cases h

theorem validateCandidates_ok {reservation : ProductionBatchReservation}
    {target : ProductionBatchTarget} {plan : CompiledVerificationPlan}
    {built candidates : List (ProductionBatchCandidate hashBytes)}
    (h : validateCandidates reservation target plan built = .ok candidates) :
    candidates = built ∧ built.length = reservation.memberIds.length ∧
      (built.map (·.id)).Nodup ∧ ∀ item ∈ built, item.itemReport.rules = itemDefinitions plan := by
  unfold validateCandidates at h
  obtain ⟨he, h⟩ := check_ok_iff.mp h
  cases h
  rw [ensure_ok_iff, decide_eq_true_eq] at he
  obtain ⟨hlen, -, hids, -, -, hrules⟩ := he
  rw [List.all_eq_true] at hrules
  exact ⟨rfl, hlen, hids, fun item hi => of_decide_eq_true (hrules item hi)⟩

theorem validateBatchResult_ok {rule : CompiledRule}
    {candidates : List (ProductionBatchCandidate hashBytes)} {observed result : RuleResult}
    (h : validateBatchResult rule candidates observed = .ok result) :
    result = observed ∧ observed.ruleId = rule.definition.ruleId ∧
      observed.affectedArtifactIds = candidates.map (·.id) ∧
      observed.status ∈ [RuleStatus.pass, .fail, .unverifiable] := by
  unfold validateBatchResult at h
  obtain ⟨he, h⟩ := check_ok_iff.mp h
  cases h
  rw [ensure_ok_iff, decide_eq_true_eq] at he
  exact ⟨rfl, he.1, he.2.1, he.2.2.1⟩

/-- What the validators accept is admitted. -/
theorem admittedCohort {reservation : ProductionBatchReservation}
    {target : ProductionBatchTarget} {plan : CompiledVerificationPlan} {l2 l3 : Sha256}
    {rule : CompiledRule} {built candidates : List (ProductionBatchCandidate hashBytes)}
    {observed result : RuleResult} (hrule : batchRule plan l2 l3 = .ok rule)
    (hc : validateCandidates reservation target plan built = .ok candidates)
    (hr : validateBatchResult rule candidates observed = .ok result) :
    AdmittedCohort plan rule candidates result := by
  obtain ⟨hone, hreq⟩ := batchRule_ok hrule
  obtain ⟨rfl, hlen, hids, hrules⟩ := validateCandidates_ok hc
  obtain ⟨rfl, hid, haff, hstatus⟩ := validateBatchResult_ok hr
  have hmem : ∀ r, r ∈ plan.rules ∧ r.definition.scope = .batch ∧
      r.definition.applicability = .applicable ↔ r = rule := by
    intro r
    have := List.mem_singleton (a := r) (b := rule)
    rw [← hone, List.mem_filter, decide_eq_true_eq] at this
    exact this
  obtain ⟨hin, hscope, happ⟩ := (hmem rule).mpr rfl
  refine ⟨mem_applicableRuleDefinitions.mpr ⟨⟨rule, hin, rfl⟩, happ⟩, hscope, hreq, ?_, ?_, hids,
    hrules, hid, haff, hstatus⟩
  · intro d hd hs
    obtain ⟨⟨r, hr, rfl⟩, happ⟩ := mem_applicableRuleDefinitions.mp hd
    rw [(hmem r).mp ⟨hr, hs, happ⟩]
  · intro he
    apply reservation.members_nonempty
    rw [he] at hlen
    exact List.eq_nil_of_length_eq_zero hlen.symm

/-! ### The final report -/

theorem mem_itemDefinitions {plan : CompiledVerificationPlan} {d : RuleDefinition} :
    d ∈ itemDefinitions plan ↔ d ∈ plan.applicableRuleDefinitions ∧ d.scope = .item := by
  unfold itemDefinitions
  rw [List.mem_filter, decide_eq_true_eq]

theorem applicable_of_mem {plan : CompiledVerificationPlan} {d : RuleDefinition}
    (h : d ∈ plan.applicableRuleDefinitions) : d.applicability = .applicable :=
  (mem_applicableRuleDefinitions.mp h).2

/-- The report of a candidate is about its artifact. -/
theorem ProductionBatchCandidate.ids_eq (item : ProductionBatchCandidate hashBytes) :
    item.itemReport.ids = [item.id] := by
  unfold VerificationReport.ids
  rw [item.reported]
  rfl

/-- An item rule has one result in the report of a candidate, about its
artifact. -/
theorem ProductionBatchCandidate.resultsOf_item (item : ProductionBatchCandidate hashBytes)
    {d : RuleDefinition} (hd : d ∈ item.itemReport.rules) (ha : d.applicability = .applicable)
    (hs : d.scope = .item) :
    ∃ r, resultsOf item.itemReport.results d.ruleId = [r] ∧ r.affectedArtifactIds = [item.id] := by
  have hcov := item.itemReport.checks.covered d hd
  rw [item.reported] at hcov
  unfold validateCoverage at hcov
  simp only [ha, hs, check_ok_iff, ensure_ok_iff, List.all_eq_true, beq_iff_eq, coversItems,
    Bool.and_eq_true, decide_eq_true_eq] at hcov
  obtain ⟨hone, ⟨hsub, -⟩, hlen⟩ := hcov
  obtain ⟨r, hr⟩ := List.length_eq_one_iff.mp hlen
  rw [hr] at hone hsub
  obtain ⟨id, hid⟩ := List.length_eq_one_iff.mp (hone r (List.mem_singleton_self r))
  refine ⟨r, hr, ?_⟩
  have hin := hsub item.id (List.mem_singleton_self _)
  rw [List.flatMap_singleton, hid, List.mem_singleton] at hin
  rw [hid, hin]

/-- Filtering by a key gives back the block of that key. -/
theorem filter_flatMap_key {α β κ : Type} [DecidableEq κ] {f : α → List β} (key : β → κ)
    (k : α → κ) {xs : List α} (hk : ∀ x ∈ xs, ∀ y ∈ f x, key y = k x)
    (hn : (xs.map k).Nodup) {x : α} (hx : x ∈ xs) :
    (xs.flatMap f).filter (fun y => key y = k x) = f x := by
  induction xs with
  | nil => cases hx
  | cons z zs ih =>
      rw [List.map_cons, List.nodup_cons] at hn
      have ih := ih (fun a ha => hk a (List.mem_cons_of_mem _ ha)) hn.2
      have hz := hk z List.mem_cons_self
      rw [List.flatMap_cons, List.filter_append]
      rcases List.mem_cons.mp hx with rfl | hx
      · have hself : (f x).filter (fun y => key y = k x) = f x :=
          List.filter_eq_self.mpr fun y hy => decide_eq_true (hz y hy)
        have hrest : (zs.flatMap f).filter (fun y => key y = k x) = [] := by
          rw [List.filter_eq_nil_iff]
          intro y hy he
          obtain ⟨a, ha, hya⟩ := List.mem_flatMap.mp hy
          apply hn.1
          rw [← of_decide_eq_true he, hk a (List.mem_cons_of_mem _ ha) y hya]
          exact List.mem_map_of_mem ha
        rw [hself, hrest, List.append_nil]
      · have hne : k z ≠ k x := by
          intro he
          apply hn.1
          rw [he]
          exact List.mem_map_of_mem hx
        have hnil : (f z).filter (fun y => key y = k x) = [] := by
          rw [List.filter_eq_nil_iff]
          intro y hy he
          exact hne ((hz y hy).symm.trans (of_decide_eq_true he))
        rw [hnil, List.nil_append]
        exact ih hx

theorem resultsOf_ruleId {results : List RuleResult} {ruleId : RuleId} {r : RuleResult}
    (h : r ∈ resultsOf results ruleId) : r ∈ results ∧ r.ruleId = ruleId := by
  unfold resultsOf at h
  rw [List.mem_filter, decide_eq_true_eq] at h
  exact h

/-- One result for each candidate covers the cohort. -/
theorem flatMap_single (candidates : List (ProductionBatchCandidate hashBytes))
    (g : ProductionBatchCandidate hashBytes → List RuleResult)
    (h : ∀ item ∈ candidates, ∃ r, g item = [r] ∧ r.affectedArtifactIds = [item.id]) :
    (candidates.flatMap g).flatMap (·.affectedArtifactIds) = candidates.map (·.id) ∧
      (candidates.flatMap g).length = candidates.length ∧
      ∀ r ∈ candidates.flatMap g, r.affectedArtifactIds.length = 1 := by
  induction candidates with
  | nil => simp
  | cons item rest ih =>
      obtain ⟨haff, hlen, hone⟩ := ih fun a ha => h a (List.mem_cons_of_mem _ ha)
      obtain ⟨r, hr, hid⟩ := h item List.mem_cons_self
      refine ⟨?_, ?_, ?_⟩
      · rw [List.flatMap_cons, hr, List.flatMap_append, haff, List.flatMap_singleton, hid]
        rfl
      · rw [List.flatMap_cons, hr, List.length_append, hlen, List.length_cons]
        simp [Nat.add_comm]
      · rw [List.flatMap_cons, hr]
        intro x hx
        rcases List.mem_append.mp hx with hx | hx
        · rw [List.mem_singleton.mp hx, hid]
          rfl
        · exact hone x hx

section Report

variable {plan : CompiledVerificationPlan} {rule : CompiledRule}
  {candidates : List (ProductionBatchCandidate hashBytes)} {result : RuleResult}

/-- The item results of the final report. -/
def itemResults (plan : CompiledVerificationPlan)
    (candidates : List (ProductionBatchCandidate hashBytes)) : List RuleResult :=
  (itemDefinitions plan).flatMap fun d =>
    candidates.flatMap fun item => resultsOf item.itemReport.results d.ruleId

/-- They are the results of the candidates. -/
theorem mem_itemResults (h : AdmittedCohort plan rule candidates result) {r : RuleResult} :
    r ∈ itemResults plan candidates ↔ ∃ item ∈ candidates, r ∈ item.itemReport.results := by
  unfold itemResults
  rw [List.mem_flatMap]
  constructor
  · rintro ⟨d, -, hr⟩
    obtain ⟨item, hi, hr⟩ := List.mem_flatMap.mp hr
    exact ⟨item, hi, (resultsOf_ruleId hr).1⟩
  · rintro ⟨item, hi, hr⟩
    obtain ⟨d, hd, -, -⟩ := item.itemReport.checks.known r hr
    obtain ⟨hm, he⟩ := ruleById_mem hd
    rw [h.rules item hi] at hm
    refine ⟨d, hm, List.mem_flatMap.mpr ⟨item, hi, ?_⟩⟩
    unfold resultsOf
    rw [List.mem_filter, decide_eq_true_eq]
    exact ⟨hr, he.symm⟩

/-- The results of an item rule, candidate by candidate. -/
theorem resultsOf_itemResults {d : RuleDefinition} (hd : d ∈ itemDefinitions plan) :
    resultsOf (itemResults plan candidates) d.ruleId =
      candidates.flatMap fun item => resultsOf item.itemReport.results d.ruleId := by
  have hn : ((itemDefinitions plan).map (·.ruleId)).Nodup :=
    (List.filter_sublist.map _).nodup (applicableRuleDefinitions_nodup plan)
  refine filter_flatMap_key RuleResult.ruleId RuleDefinition.ruleId ?_ hn hd
  intro x _ y hy
  obtain ⟨item, -, hy⟩ := List.mem_flatMap.mp hy
  exact (resultsOf_ruleId hy).2

/-- The final report of an admitted cohort is valid. -/
theorem finalReport_ok (h : AdmittedCohort plan rule candidates result) :
    ∃ report, finalReport plan candidates result = .ok report ∧
      report.artifacts = candidates.map (·.artifact.ref) ∧
      report.rules = plan.applicableRuleDefinitions ∧
      report.results = itemResults plan candidates ++ [result] := by
  have hids : (candidates.map (·.artifact.ref)).map (·.artifactId) = candidates.map (·.id) := by
    rw [List.map_map]
    rfl
  have hn := applicableRuleDefinitions_nodup plan
  have hchecks : ReportChecks (candidates.map (·.artifact.ref)) plan.applicableRuleDefinitions
      (itemResults plan candidates ++ [result]) := by
    refine ⟨by simpa using h.nonempty, by rw [hids]; exact h.ids_nodup, hn, ?_, ?_⟩
    · -- every result has a rule of the plan and artifacts of the cohort
      intro r hr
      rw [hids]
      rcases List.mem_append.mp hr with hr | hr
      · obtain ⟨item, hi, hr⟩ := (mem_itemResults h).mp hr
        obtain ⟨d, hd, ha, haff⟩ := item.itemReport.checks.known r hr
        obtain ⟨hm, he⟩ := ruleById_mem hd
        rw [h.rules item hi] at hm
        refine ⟨d, ?_, ha, ?_⟩
        · rw [← he]
          exact ruleById_self hn (mem_itemDefinitions.mp hm).1
        · intro id hid
          have hin := haff id hid
          rw [show item.itemReport.artifacts.map (·.artifactId) = [item.id] from item.ids_eq,
            List.mem_singleton] at hin
          rw [hin]
          exact List.mem_map_of_mem hi
      · rw [List.mem_singleton.mp hr, h.ruleId, h.affected]
        exact ⟨rule.definition, ruleById_self hn h.batch, applicable_of_mem h.batch,
          fun _ hid => hid⟩
    · -- every rule covers the cohort
      intro d hd
      rw [hids]
      unfold validateCoverage
      simp only [applicable_of_mem hd]
      cases hs : d.scope with
      | item =>
          have hdi := mem_itemDefinitions.mpr ⟨hd, hs⟩
          have hne : result.ruleId ≠ d.ruleId := by
            intro he
            rw [h.ruleId] at he
            have := List.inj_on_of_nodup_map hn h.batch hd he
            rw [← this, h.scope] at hs
            cases hs
          have hown : resultsOf (itemResults plan candidates ++ [result]) d.ruleId =
              candidates.flatMap fun item => resultsOf item.itemReport.results d.ruleId := by
            rw [← resultsOf_itemResults hdi]
            unfold resultsOf
            rw [List.filter_append, List.filter_singleton, decide_eq_false hne]
            exact List.append_nil _
          obtain ⟨haff, hlen, hone⟩ := flatMap_single candidates
            (fun item => resultsOf item.itemReport.results d.ruleId) fun item hi => by
              have hdr : d ∈ item.itemReport.rules := by
                rw [h.rules item hi]
                exact hdi
              exact item.resultsOf_item hdr (applicable_of_mem hd) hs
          simp only [hown, check_ok_iff, ensure_ok_iff, List.all_eq_true, beq_iff_eq]
          refine ⟨hone, ?_⟩
          unfold coversItems
          rw [haff, hlen]
          simp only [List.length_map, beq_self_eq_true, Bool.and_true, Bool.and_eq_true,
            List.all_eq_true, decide_eq_true_eq]
          exact ⟨fun _ hid => hid, fun _ hid => hid⟩
      | batch =>
          obtain rfl := h.unique d hd hs
          have hown : resultsOf (itemResults plan candidates ++ [result]) rule.definition.ruleId =
              [result] := by
            unfold resultsOf
            rw [List.filter_append, List.filter_singleton, h.ruleId, decide_eq_true rfl]
            rw [List.filter_eq_nil_iff.mpr ?_]
            · rfl
            · intro r hr he
              obtain ⟨item, hi, hr⟩ := (mem_itemResults h).mp hr
              obtain ⟨x, hx, -, -⟩ := item.itemReport.checks.known r hr
              obtain ⟨hm, hxe⟩ := ruleById_mem hx
              rw [h.rules item hi] at hm
              obtain ⟨hxd, hxs⟩ := mem_itemDefinitions.mp hm
              have := List.inj_on_of_nodup_map hn hxd hd
                (hxe.trans (of_decide_eq_true he))
              rw [this, h.scope] at hxs
              cases hxs
          simp only [hown, ensure_ok_iff, List.length_singleton, beq_self_eq_true, Bool.true_and,
            List.all_cons, List.all_nil, Bool.and_true, h.affected, decide_eq_true_eq]
  refine ⟨⟨_, _, _, validateReport_ok_iff.mpr hchecks⟩, ?_, rfl, rfl, rfl⟩
  unfold finalReport
  rw [VerificationReport.new_ok_iff]
  exact ⟨rfl, rfl, rfl⟩

/-- The gates of a candidate in the final report are those of its own report
and the batch gate. -/
theorem mem_gates (h : AdmittedCohort plan rule candidates result) {report : VerificationReport}
    (hrep : finalReport plan candidates result = .ok report)
    {item : ProductionBatchCandidate hashBytes} (hi : item ∈ candidates) {g : Gate} :
    g ∈ requiredGates (resultsAffectingArtifact report item.id) ↔
      g ∈ requiredGates (resultsAffectingArtifact item.itemReport item.id) ∨
        g = (rule.definition, result) := by
  obtain ⟨rep, hok, -, hrules, hresults⟩ := finalReport_ok h
  rw [hok] at hrep
  cases hrep
  have hn := applicableRuleDefinitions_nodup plan
  rw [mem_requiredGates, mem_requiredGates, mem_resultsAffectingArtifact,
    mem_resultsAffectingArtifact, hrules, hresults, h.rules item hi, List.mem_append,
    List.mem_singleton]
  constructor
  · rintro ⟨⟨hr | hr, ht, hd, he⟩, hreq⟩
    · -- the result is of a candidate, and the artifact says of which
      left
      obtain ⟨item', hi', hr⟩ := (mem_itemResults h).mp hr
      obtain ⟨x, hx, -, haff⟩ := item'.itemReport.checks.known g.2 hr
      obtain ⟨hm, hxe⟩ := ruleById_mem hx
      rw [h.rules item' hi'] at hm
      have hid := haff item.id ht
      rw [show item'.itemReport.artifacts.map (·.artifactId) = [item'.id] from item'.ids_eq,
        List.mem_singleton] at hid
      obtain rfl : item = item' := List.inj_on_of_nodup_map h.ids_nodup hi hi' hid
      obtain rfl : x = g.1 :=
        List.inj_on_of_nodup_map hn (mem_itemDefinitions.mp hm).1 hd (hxe.trans he.symm)
      exact ⟨⟨hr, ht, hm, he⟩, hreq⟩
    · right
      rw [hr, h.ruleId] at he
      exact Prod.ext (List.inj_on_of_nodup_map hn hd h.batch he) hr
  · rintro (⟨⟨hr, ht, hd, he⟩, hreq⟩ | rfl)
    · exact ⟨⟨.inl ((mem_itemResults h).mpr ⟨item, hi, hr⟩), ht, (mem_itemDefinitions.mp hd).1, he⟩,
        hreq⟩
    · refine ⟨⟨.inr rfl, ?_, h.batch, h.ruleId.symm⟩, h.required⟩
      show item.id ∈ result.affectedArtifactIds
      rw [h.affected]
      exact List.mem_map_of_mem hi

end Report

/-! ### The derived stop reason -/

/-- The results the batch looks at are those of the required gates. -/
theorem batchStopReason_eq (report : VerificationReport) (target : ArtifactId) :
    batchStopReason report target =
      let required := requiredGates (resultsAffectingArtifact report target)
      if required.any fun g => g.2.status = .unverifiable then .unverifiable
      else if required.any Gate.nonpass then .noImprovement
      else .passAllRequired := by
  have hany : ∀ p : RuleResult → Bool,
      (report.results.filter fun result => target ∈ result.affectedArtifactIds ∧
        (ruleById report.rules result.ruleId).any fun rule =>
          rule.required && rule.applicability = .applicable).any p =
      (requiredGates (resultsAffectingArtifact report target)).any fun g => p g.2 := by
    intro p
    rw [Bool.eq_iff_iff, List.any_eq_true, List.any_eq_true]
    constructor
    · rintro ⟨r, hr, hp⟩
      rw [List.mem_filter, decide_eq_true_eq] at hr
      obtain ⟨hr, ht, hrule⟩ := hr
      rcases hd : ruleById report.rules r.ruleId with - | d
      · rw [hd] at hrule
        cases hrule
      rw [hd, Option.any_some, Bool.and_eq_true] at hrule
      have hq := hrule
      obtain ⟨hm, he⟩ := ruleById_mem hd
      exact ⟨(d, r), mem_requiredGates.mpr
        ⟨mem_resultsAffectingArtifact.mpr ⟨hr, ht, hm, he⟩, hq.1⟩, hp⟩
    · rintro ⟨⟨d, r⟩, hg, hp⟩
      obtain ⟨hg, hreq⟩ := mem_requiredGates.mp hg
      obtain ⟨hr, ht, hm, he⟩ := mem_resultsAffectingArtifact.mp hg
      obtain ⟨x, hx, happ, -⟩ := report.checks.known r hr
      have hself := ruleById_self report.checks.rules_nodup hm
      rw [show d.ruleId = r.ruleId from he, hx] at hself
      cases hself
      refine ⟨r, ?_, hp⟩
      rw [List.mem_filter, decide_eq_true_eq]
      refine ⟨hr, ht, ?_⟩
      rw [hx]
      simp only [Option.any_some, Bool.and_eq_true, decide_eq_true_eq]
      exact ⟨hreq, happ⟩
  unfold batchStopReason
  simp only [hany]
  rfl

/-- The derived stop reason fits the gates. -/
theorem validateStopReason_batch (report : VerificationReport) (target : ArtifactId) :
    validateStopReason (some (batchStopReason report target))
      (requiredGates (resultsAffectingArtifact report target)) = .ok () := by
  rw [batchStopReason_eq]
  generalize requiredGates (resultsAffectingArtifact report target) = required
  unfold validateStopReason
  simp only [check_ok_iff, ensure_ok_iff]
  split_ifs with hu hn
  · simp [hu, exhaustedReasons]
  · simp [hn]
  · simp [hn, exhaustedReasons]

/-! ### Agreement of the routes -/

/-- A gate that is manual does not reject. -/
theorem Gate.manual_not_rejects {g : Gate} (h : g.manual = true) :
    g.rejects = false ∧ g.rejectsUnverifiable = false := by
  unfold Gate.manual at h
  unfold Gate.rejects Gate.rejectsUnverifiable
  rcases of_decide_eq_true h with ⟨hs, hp⟩ | ⟨hs, hp⟩
  · simp [hs, hp]
  · simp [hs, hp]

/-- The required gates that do not pass, of which there are some, all ask for
manual review. -/
def OnlyManual (required : List Gate) : Prop :=
  (∃ g ∈ required, g.nonpass = true) ∧ ∀ g ∈ required, g.nonpass = true → g.manual = true

/-- Some required gate does not pass, and every such gate is a warning for
manual review. -/
def OnlyManualWarnings (required : List Gate) : Prop :=
  (∃ g ∈ required, g.nonpass = true) ∧ ∀ g ∈ required, g.nonpass = true →
    g.2.status = .warning ∧ g.1.gatePolicy.onWarning = .manualReview

/-- The two statuses agree, and on manual gates alone both are manual review. -/
def RoutesAgree (required : List Gate) (batch plain : ArtifactStatus) : Prop :=
  batch = plain ∧ (OnlyManual required → batch = .manualReview ∧ plain = .manualReview)

/-- A stop reason that is neither exhausted nor a manual request routes as
none does. -/
theorem route_inert {s : RepairStopReason} (he : s ∉ exhaustedReasons) (hm : s ≠ .manualRequest)
    (relevant : List Gate) : route (some s) relevant = route none relevant := by
  unfold route
  simp [he, hm]

/-- Without a stop reason, manual gates alone go to manual review. -/
theorem route_onlyManual {relevant : List Gate} (h : OnlyManual (requiredGates relevant)) :
    route none relevant = .ok (.manualReview, .manualPolicy) := by
  obtain ⟨⟨g, hg, hn⟩, hall⟩ := h
  have hu : (requiredGates relevant).any Gate.rejectsUnverifiable = false := by
    rw [List.any_eq_false]
    intro x hx hr
    have hxn : x.nonpass = true := by
      unfold Gate.rejectsUnverifiable at hr
      unfold Gate.nonpass
      simp [(of_decide_eq_true hr).1]
    rw [(Gate.manual_not_rejects (hall x hx hxn)).2] at hr
    cases hr
  have hr : (requiredGates relevant).any Gate.rejects = false := by
    rw [List.any_eq_false]
    intro x hx hr
    rw [(Gate.manual_not_rejects (hall x hx (Gate.nonpass_of_rejects hr))).1] at hr
    cases hr
  have hmp : hasManualPolicy relevant = true :=
    List.any_eq_true.mpr ⟨g, (mem_requiredGates.mp hg).1, hall g hg hn⟩
  unfold route
  simp [hu, hr, hmp]

/-- Manual warnings alone are rejected by the batch. -/
theorem route_batch_warnings {relevant : List Gate}
    (h : OnlyManualWarnings (requiredGates relevant)) :
    route (some .noImprovement) relevant = .ok (.rejected, .repairExhausted) := by
  obtain ⟨⟨g, hg, hn⟩, hall⟩ := h
  have hu : (requiredGates relevant).any Gate.rejectsUnverifiable = false := by
    rw [List.any_eq_false]
    intro x hx hr
    unfold Gate.rejectsUnverifiable at hr
    have hs := (of_decide_eq_true hr).1
    have hw := (hall x hx (by unfold Gate.nonpass; simp [hs])).1
    rw [hs] at hw
    cases hw
  have hnp : (requiredGates relevant).any Gate.nonpass = true :=
    List.any_eq_true.mpr ⟨g, hg, hn⟩
  unfold route
  simp [hu, hnp, exhaustedReasons]

/-- On manual warnings alone the derived stop reason is `NO_IMPROVEMENT`. -/
theorem batchStopReason_warnings {report : VerificationReport} {target : ArtifactId}
    (h : OnlyManualWarnings (requiredGates (resultsAffectingArtifact report target))) :
    batchStopReason report target = .noImprovement := by
  rw [batchStopReason_eq]
  obtain ⟨⟨g, hg, hn⟩, hall⟩ := h
  have hu : ¬ ((requiredGates (resultsAffectingArtifact report target)).any
      fun g => g.2.status = .unverifiable) = true := by
    intro hu
    obtain ⟨x, hx, hs⟩ := List.any_eq_true.mp hu
    have hs := of_decide_eq_true hs
    have hw := (hall x hx (by unfold Gate.nonpass; simp [hs])).1
    rw [hs] at hw
    cases hw
  simp only [if_neg hu, if_pos (List.any_eq_true.mpr ⟨g, hg, hn⟩)]

/-- A warning for manual review is manual. -/
theorem OnlyManualWarnings.onlyManual {required : List Gate} (h : OnlyManualWarnings required) :
    OnlyManual required := by
  refine ⟨h.1, fun g hg hn => ?_⟩
  obtain ⟨hs, hp⟩ := h.2 g hg hn
  unfold Gate.manual
  simp [hs, hp]

/-- The routes of the batch and of the plain router agree except on manual
warnings alone. -/
theorem routes_agree_iff (report : VerificationReport) (target : ArtifactId)
    {batch plain : ArtifactStatus × DecisionReason}
    (hb : route (some (batchStopReason report target))
      (resultsAffectingArtifact report target) = .ok batch)
    (hp : route none (resultsAffectingArtifact report target) = .ok plain) :
    RoutesAgree (requiredGates (resultsAffectingArtifact report target)) batch.1 plain.1 ↔
      ¬ OnlyManualWarnings (requiredGates (resultsAffectingArtifact report target)) := by
  by_cases hw : OnlyManualWarnings (requiredGates (resultsAffectingArtifact report target))
  · -- the batch rejects what the plain router sends to review
    refine iff_of_false (fun ha => ?_) (fun hn => hn hw)
    rw [batchStopReason_warnings hw, route_batch_warnings hw] at hb
    cases hb
    exact absurd (ha.2 hw.onlyManual).1 (by decide)
  · refine iff_of_true ?_ hw
    rw [batchStopReason_eq] at hb
    generalize resultsAffectingArtifact report target = relevant at hb hp hw
    simp only at hb
    split_ifs at hb with hu hn
    · -- an unverifiable gate: the stop reason changes nothing
      rw [route_inert (by decide) (by decide), hp] at hb
      cases hb
      refine ⟨rfl, fun hm => ?_⟩
      rw [route_onlyManual hm] at hp
      cases hp
      exact ⟨rfl, rfl⟩
    · -- some gate rejects, so both reject
      have hrej : (requiredGates relevant).any Gate.rejects = true := by
        by_contra hr
        apply hw
        refine ⟨List.any_eq_true.mp hn, fun g hg hgn => ?_⟩
        have hreq := (mem_requiredGates.mp hg).2
        have hng : ¬ g.rejects = true := fun h => hr (List.any_eq_true.mpr ⟨g, hg, h⟩)
        have hns : g.2.status ≠ .unverifiable := fun hs =>
          hu (List.any_eq_true.mpr ⟨g, hg, decide_eq_true hs⟩)
        rcases g.blocked_of_nonpass hreq hgn with h | h | h
        · unfold Gate.rejectsUnverifiable at h
          exact absurd (of_decide_eq_true h).1 hns
        · exact absurd h hng
        · unfold Gate.manual at h
          rcases of_decide_eq_true h with h | h
          · exact h
          · exact absurd h.1 hns
      have hru : (requiredGates relevant).any Gate.rejectsUnverifiable = false := by
        rw [List.any_eq_false]
        intro g hg h
        unfold Gate.rejectsUnverifiable at h
        exact hu (List.any_eq_true.mpr ⟨g, hg, decide_eq_true (of_decide_eq_true h).1⟩)
      unfold route at hb hp
      simp only [hru, hn, hrej, exhaustedReasons] at hb hp
      cases hb
      cases hp
      refine ⟨rfl, fun hm => ?_⟩
      obtain ⟨g, hg, hgr⟩ := List.any_eq_true.mp hrej
      have hgm := hm.2 g hg (Gate.nonpass_of_rejects hgr)
      rw [(Gate.manual_not_rejects hgm).1] at hgr
      cases hgr
    · rw [route_inert (by decide) (by decide), hp] at hb
      cases hb
      refine ⟨rfl, fun hm => ?_⟩
      obtain ⟨g, hg, hgn⟩ := hm.1
      exact absurd (List.any_eq_true.mpr ⟨g, hg, hgn⟩) hn

/-! ### Admitted cohorts, routed -/

section Routed

variable {plan : CompiledVerificationPlan} {rule : CompiledRule}
  {candidates : List (ProductionBatchCandidate hashBytes)} {result : RuleResult}

/-- The batch result passes, and the own report of the candidate leaves open
manual warnings and nothing else. -/
def OnlyWarningsOpen (item : ProductionBatchCandidate hashBytes) (result : RuleResult) : Prop :=
  result.status = .pass ∧
    OnlyManualWarnings (requiredGates (resultsAffectingArtifact item.itemReport item.id))

/-- The condition read in the final report. -/
theorem onlyManualWarnings_iff (h : AdmittedCohort plan rule candidates result)
    {report : VerificationReport} (hrep : finalReport plan candidates result = .ok report)
    {item : ProductionBatchCandidate hashBytes} (hi : item ∈ candidates) :
    OnlyManualWarnings (requiredGates (resultsAffectingArtifact report item.id)) ↔
      OnlyWarningsOpen item result := by
  have hmem := fun g => @mem_gates _ _ _ _ _ h report hrep item hi g
  constructor
  · rintro ⟨⟨g, hg, hn⟩, hall⟩
    -- the batch gate cannot be a warning, so it passes
    have hpass : result.status = .pass := by
      by_contra hne
      have hw := (hall (rule.definition, result) ((hmem _).mpr (.inr rfl))
        (decide_eq_true hne)).1
      have hs := h.status
      rw [show result.status = .warning from hw] at hs
      simp at hs
    refine ⟨hpass, ⟨g, ?_, hn⟩, fun x hx => hall x ((hmem x).mpr (.inl hx))⟩
    rcases (hmem g).mp hg with hg | rfl
    · exact hg
    · exact absurd hpass (of_decide_eq_true hn)
  · rintro ⟨hpass, ⟨g, hg, hn⟩, hall⟩
    refine ⟨⟨g, (hmem g).mpr (.inl hg), hn⟩, fun x hx hxn => ?_⟩
    rcases (hmem x).mp hx with hx | rfl
    · exact hall x hx hxn
    · exact absurd hpass (of_decide_eq_true hxn)

/-- Every candidate of an admitted cohort is routed, by the batch and by the
plain router. -/
theorem routeCohort_ok (h : AdmittedCohort plan rule candidates result) :
    ∃ report decisions, finalReport plan candidates result = .ok report ∧
      routeCohort report candidates = .ok decisions ∧
      List.Forall₂ (fun item d => item ∈ candidates ∧
        route (some (batchStopReason report item.id))
          (resultsAffectingArtifact report item.id) = .ok (d.artifactStatus, d.decisionReason) ∧
        ∃ plain, decideArtifact report item.id none false = .ok plain ∧
          route none (resultsAffectingArtifact report item.id) =
            .ok (plain.artifactStatus, plain.decisionReason)) candidates decisions := by
  obtain ⟨report, hrep, hart, -, -⟩ := finalReport_ok h
  have hone : ∀ item ∈ candidates, ∃ d,
      decideArtifact report item.id (some (batchStopReason report item.id)) false = .ok d ∧
      item ∈ candidates ∧
      route (some (batchStopReason report item.id))
        (resultsAffectingArtifact report item.id) = .ok (d.artifactStatus, d.decisionReason) ∧
      ∃ plain, decideArtifact report item.id none false = .ok plain ∧
        route none (resultsAffectingArtifact report item.id) =
          .ok (plain.artifactStatus, plain.decisionReason) := by
    intro item hi
    have ht : item.id ∈ report.ids := by
      unfold VerificationReport.ids
      rw [hart, List.map_map]
      exact List.mem_map_of_mem hi
    have hne : requiredGates (resultsAffectingArtifact report item.id) ≠ [] :=
      List.ne_nil_of_mem ((mem_gates h hrep hi).mpr (.inr rfl))
    obtain ⟨d, hd⟩ := decideArtifact_total ht hne (validateStopReason_batch report item.id)
    obtain ⟨plain, hp⟩ := decideArtifact_total ht hne (validateStopReason_none _)
    exact ⟨d, hd, hi, (decideArtifact_ok_iff.mp hd).2.2.2.1, plain, hp,
      (decideArtifact_ok_iff.mp hp).2.2.2.1⟩
  obtain ⟨decisions, hall⟩ := exists_forall₂ hone
  exact ⟨report, decisions, hrep, mapM_ok_iff.mpr (hall.imp fun _ _ hd => hd.1),
    hall.imp fun _ _ hd => hd.2⟩

end Routed

/-- **Batch routing.**  A validated cohort is routed, and the batch and the
plain router agree on a candidate exactly when it is not one with manual
warnings alone open. -/
theorem batch_routing_agrees_iff {reservation : ProductionBatchReservation}
    {target : ProductionBatchTarget} {plan : CompiledVerificationPlan} {rule : CompiledRule}
    {built candidates : List (ProductionBatchCandidate hashBytes)} {observed result : RuleResult}
    (hrule : batchRule plan target.l2ProfileApprovalSha256 target.l3ProfileApprovalSha256 =
      .ok rule)
    (hc : validateCandidates reservation target plan built = .ok candidates)
    (hr : validateBatchResult rule candidates observed = .ok result) :
    ∃ report decisions, finalReport plan candidates result = .ok report ∧
      routeCohort report candidates = .ok decisions ∧
      List.Forall₂ (fun item d =>
        ∃ plain, decideArtifact report item.id none false = .ok plain ∧
          (RoutesAgree (requiredGates (resultsAffectingArtifact report item.id))
            d.artifactStatus plain.artifactStatus ↔ ¬ OnlyWarningsOpen item result))
        candidates decisions := by
  have h := admittedCohort hrule hc hr
  obtain ⟨report, decisions, hrep, hroute, hall⟩ := routeCohort_ok h
  refine ⟨report, decisions, hrep, hroute, hall.imp ?_⟩
  rintro item d ⟨hi, hd, plain, hp, hpr⟩
  refine ⟨plain, hp, ?_⟩
  rw [← onlyManualWarnings_iff h hrep hi]
  exact routes_agree_iff report item.id hd hpr

/-- A run that returns has routed a validated cohort and a validated result. -/
theorem runAtomicProductionBatch_routed {cb : BatchCallbacks hashBytes}
    {reservation : ProductionBatchReservation} {target : ProductionBatchTarget}
    {plan : CompiledVerificationPlan} {out : ProductionBatchResult}
    (h : runAtomicProductionBatch cb reservation target plan = .ok out) :
    ∃ rule, ∃ built candidates : List (ProductionBatchCandidate hashBytes), ∃ observed result,
      batchRule plan target.l2ProfileApprovalSha256 target.l3ProfileApprovalSha256 = .ok rule ∧
      validateCandidates reservation target plan built = .ok candidates ∧
      validateBatchResult rule candidates observed = .ok result ∧
      finalReport plan candidates result = .ok out.report ∧
      routeCohort out.report candidates = .ok out.decisions := by
  unfold runAtomicProductionBatch at h
  obtain ⟨rule, hrule, h⟩ := bind_ok_iff.mp h
  obtain ⟨built, -, h⟩ := bind_ok_iff.mp h
  obtain ⟨candidates, hc, h⟩ := bind_ok_iff.mp h
  obtain ⟨manifest, -, h⟩ := bind_ok_iff.mp h
  obtain ⟨-, h⟩ := check_ok_iff.mp h
  obtain ⟨-, h⟩ := check_ok_iff.mp h
  obtain ⟨observed, -, h⟩ := bind_ok_iff.mp h
  obtain ⟨result, hr, h⟩ := bind_ok_iff.mp h
  obtain ⟨binding, -, h⟩ := bind_ok_iff.mp h
  obtain ⟨-, h⟩ := check_ok_iff.mp h
  obtain ⟨report, hrep, h⟩ := bind_ok_iff.mp h
  obtain ⟨decisions, hd, h⟩ := bind_ok_iff.mp h
  obtain ⟨routing, -, h⟩ := bind_ok_iff.mp h
  obtain ⟨-, h⟩ := check_ok_iff.mp h
  obtain ⟨-, h⟩ := check_ok_iff.mp h
  obtain ⟨-, h⟩ := check_ok_iff.mp h
  obtain ⟨publication, -, h⟩ := bind_ok_iff.mp h
  obtain ⟨-, h⟩ := check_ok_iff.mp h
  obtain ⟨-, h⟩ := check_ok_iff.mp h
  cases h
  exact ⟨rule, built, candidates, observed, result, hrule, hc, hr, hrep, hd⟩

/-! ### A warned candidate -/

namespace WarnedBatch

def artifactId : ArtifactId := Id.lit .artifact "artifact-1"

def pin : ResourcePin := ⟨py "l3-profile", py "1", sampleHash⟩

/-- A required rule under manual review, applicable. -/
def definition (name : String) (level : RuleLevel) (scope : RuleScope) : RuleDefinition :=
  ⟨Id.lit .rule name, level, scope, true, .applicable, ⟨.manualReview, .manualReview⟩,
    fun _ => by decide⟩

/-- A rule with a validated threshold. -/
def compiled (definition : RuleDefinition) (ha : definition.applicability = .applicable)
    (metric : Identifier) (operator : ThresholdOperator) : CompiledRule where
  definition := definition
  metricId := some metric
  thresholdBinding := some ⟨pin, .validated, metric, operator, some sampleHash⟩
  priority := 0
  affectedByActions := []
  bound := by
    intro b hb
    cases hb
    exact ⟨rfl, ha⟩
  measured := fun _ _ => rfl
  actions_nodup := List.nodup_nil

def batch : CompiledRule :=
  compiled (definition "BATCH_STYLE" .l2 .batch) rfl
    (Id.lit .identifier "batch_style_consistency") .le

def structureRule : CompiledRule :=
  compiled (definition "STRUCTURE" .l3 .item) rfl
    (Id.lit .identifier "structure_edge_similarity") .ge

def plan : CompiledVerificationPlan :=
  ⟨.xhsGrid, [batch, structureRule], .applicable, some pin, by decide, by decide⟩

def target : ProductionBatchTarget := ⟨sampleHash, sampleHash, sampleHash, sampleHash, sampleHash⟩

def reservation : ProductionBatchReservation :=
  ⟨Id.lit .identifier "batch-1", sampleHash, [Id.lit .identifier "member-1"], by decide,
    by decide⟩

/-- The only candidate: its structure rule warns. -/
def candidate : ProductionBatchCandidate fun _ => sampleHash where
  memberId := Id.lit .identifier "member-1"
  seed := 7
  artifact := ⟨⟨artifactId, sampleHash⟩, [], sampleHash, sampleHash, rfl⟩
  itemReport := ⟨[⟨artifactId, sampleHash⟩], [structureRule.definition],
    [⟨structureRule.definition.ruleId, .warning, [artifactId], none⟩], by decide⟩
  compiledSpecSha256 := sampleHash
  seed_lt := by decide
  reported := rfl

/-- The batch result passes. -/
def result : RuleResult :=
  ⟨batch.definition.ruleId, .pass, [artifactId], some Binary64.zero⟩

theorem batchRule_plan :
    batchRule plan target.l2ProfileApprovalSha256 target.l3ProfileApprovalSha256 = .ok batch := by
  decide +kernel

theorem candidates_valid :
    validateCandidates reservation target plan [candidate] = .ok [candidate] :=
  check_ok_iff.mpr ⟨ensure_ok_iff.mpr (by decide +kernel), rfl⟩

theorem result_valid : validateBatchResult batch [candidate] result = .ok result :=
  check_ok_iff.mpr ⟨ensure_ok_iff.mpr (by decide +kernel), rfl⟩

theorem onlyWarningsOpen : OnlyWarningsOpen candidate result := by
  refine ⟨rfl, ⟨⟨structureRule.definition, structureRule.definition.ruleId, .warning,
    [artifactId], none⟩, by decide +kernel, by decide +kernel⟩, by decide +kernel⟩

end WarnedBatch

/-- The batch rejects the warned candidate, and the plain router sends it to
manual review. -/
theorem warned_candidate_rejected :
    ∃ report d plain,
      finalReport WarnedBatch.plan [WarnedBatch.candidate] WarnedBatch.result = .ok report ∧
      routeCohort report [WarnedBatch.candidate] = .ok [d] ∧
      decideArtifact report WarnedBatch.artifactId none false = .ok plain ∧
      OnlyManual (requiredGates (resultsAffectingArtifact report WarnedBatch.artifactId)) ∧
      d.artifactStatus = .rejected ∧ plain.artifactStatus = .manualReview := by
  have h := admittedCohort WarnedBatch.batchRule_plan WarnedBatch.candidates_valid
    WarnedBatch.result_valid
  obtain ⟨report, decisions, hrep, hroute, hall⟩ := routeCohort_ok h
  cases hall with
  | cons hone hnil =>
    cases hnil
    obtain ⟨hi, hd, plain, hp, hpr⟩ := hone
    have hw := (onlyManualWarnings_iff h hrep hi).mpr WarnedBatch.onlyWarningsOpen
    refine ⟨report, _, plain, hrep, hroute, hp, hw.onlyManual, ?_, ?_⟩
    · rw [batchStopReason_warnings hw, route_batch_warnings hw] at hd
      exact (congrArg Prod.fst (Except.ok.inj hd)).symm
    · rw [route_onlyManual hw.onlyManual] at hpr
      exact (congrArg Prod.fst (Except.ok.inj hpr)).symm

/-- The warned cohort is validated, and its candidate is the exception. -/
theorem batch_routing_agrees_iff_warned :
    ∃ report decisions,
      finalReport WarnedBatch.plan [WarnedBatch.candidate] WarnedBatch.result = .ok report ∧
      routeCohort report [WarnedBatch.candidate] = .ok decisions ∧
      List.Forall₂ (fun item d =>
        ∃ plain, decideArtifact report item.id none false = .ok plain ∧
          (RoutesAgree (requiredGates (resultsAffectingArtifact report item.id))
            d.artifactStatus plain.artifactStatus ↔
            ¬ OnlyWarningsOpen item WarnedBatch.result))
        [WarnedBatch.candidate] decisions :=
  batch_routing_agrees_iff WarnedBatch.batchRule_plan WarnedBatch.candidates_valid
    WarnedBatch.result_valid

end SpecStyle
