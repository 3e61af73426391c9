/-
SpecStyle/Repair/Policies.lean

Selection of a repair action for the first blocking rule, and the guardrail
that tells an improvement.

Both look results up by rule and target.  In a report that matches its plan
(`MatchesPlan`) every look-up finds its result, and so the blocking rules and
the gate vectors are total functions of the report (`blockingRules_ok`,
`gateVector_ok`); `selectRepair_ok_iff` says when a selection is made and
what it is.
-/
import SpecStyle.Repair.Actions
import SpecStyle.Verification.Routing
import Mathlib.Data.Prod.Lex

namespace SpecStyle

open PyLib

/-! ### Context validation -/

/-- `request.compiled_spec.verification_plans` for the output profile -/
def plansFor (request : GenerationRequest) : List CompiledVerificationPlan :=
  request.compiledSpec.verificationPlans.filter fun plan =>
    plan.outputProfile = request.outputProfile

/-- `_validate_plan_report` -/
def validatePlanReport (plan : CompiledVerificationPlan) (report : VerificationReport)
    (target : ArtifactId) : Except Raised Unit :=
  ensure (report.rules = plan.applicableRuleDefinitions ∧ target ∈ report.ids)
    "report does not match plan target"

/-- `_validate_context` -/
def validateContext (request : GenerationRequest) (plan : CompiledVerificationPlan)
    (report : VerificationReport) (target : ArtifactId) : Except Raised Unit := do
  validatePlanReport plan report target
  ensure (plansFor request = [plan]) "plan does not match generation request"

/-- `_result_for` -/
def resultFor (report : VerificationReport) (ruleId : RuleId) (target : ArtifactId) :
    Except Raised RuleResult :=
  match report.matching ruleId target with
  | [result] => .ok result
  | _ => .error (.domain "report result does not match target rule")

/-! ### Blocking rules -/

/-- `tiers` -/
def RuleLevel.tier : RuleLevel → Nat
  | .l1 => 0
  | .l3 => 1
  | .l2 => 2

/-- The order of `_ordered_required`. -/
def CompiledRule.before (a b : CompiledRule) : Prop :=
  toLex (a.definition.level.tier, toLex (a.priority, a.definition.ruleId.value)) ≤
    toLex (b.definition.level.tier, toLex (b.priority, b.definition.ruleId.value))

instance : DecidableRel CompiledRule.before := fun a b => by
  unfold CompiledRule.before
  infer_instance

/-- `_ordered_required` -/
def orderedRequired (plan : CompiledVerificationPlan) : List CompiledRule :=
  (plan.rules.filter fun rule =>
    rule.definition.applicability = .applicable ∧ rule.definition.required = true).insertionSort
    CompiledRule.before

/-- `_blocking` -/
def blocking (report : VerificationReport) (target : ArtifactId) (rule : CompiledRule) :
    Except Raised Bool := do
  let result ← resultFor report rule.definition.ruleId target
  return Gate.rejects (rule.definition, result)

/-- `_blocking_rules` -/
def blockingRules (plan : CompiledVerificationPlan) (report : VerificationReport)
    (target : ArtifactId) : Except Raised (List CompiledRule) :=
  (orderedRequired plan).filterM (blocking report target)

/-! ### Selection -/

/-- `_POLICY_ACTIONS` -/
def policyActions : List (Text × List Identifier) :=
  [(py "l1_bundle", [retrySampling]),
    (py "STYLE_LOW", [increaseStyleScale]),
    (py "STYLE_OVERPOWERED", [decreaseStyleScale, reduceDenoise]),
    (py "CONTENT_DRIFT", [reduceDenoise, increaseStructure]),
    (py "FACE_ID_LOW", [reduceDenoise]),
    (py "OUTPUT_PROFILE_INVALID", [renderOutputProfile]),
    (py "SAMPLING_DEFECT", [retrySampling])]

/-- `_actions` -/
def actionsFor (ruleId : RuleId) : List Identifier :=
  ((policyActions.find? fun entry => entry.1 = ruleId.value).map (·.2)).getD []

/-- `RepairStateKey` -/
structure RepairState where
  parameters : GenerationParameters
  variationIndex : Nat
  deriving DecidableEq

/-- `==` on states -/
def RepairState.same (a b : RepairState) : Bool :=
  a.parameters.same b.parameters && a.variationIndex == b.variationIndex

/-- `_seen` -/
def validateSeen (seen : List RepairState) : Except Raised Unit :=
  ensure (seen.all (fun state => state.variationIndex ≤ maxVariationIndex) &&
    decide (seen.Pairwise fun a b => a.same b = false)) "invalid seen state keys"

/-- `RepairDecision | NoAction` -/
inductive Selection where
  | decision (d : RepairDecision)
  | noAction (n : NoAction)
  deriving DecidableEq

/-- `action in rule.affected_by_actions and action in _KNOWN and _executable(...)` -/
def eligible (request : GenerationRequest) (rule : CompiledRule) (action : Identifier) :
    Except Raised Bool :=
  if action ∈ rule.affectedByActions ∧ action ∈ knownActionIds then
    isActionExecutable request action
  else .ok false

/-- The loop of `select_repair` over the candidates. -/
def pickAction (request : GenerationRequest) (decisionId : DecisionId) (rule : CompiledRule)
    (seen : List RepairState) : List Identifier → Except Raised (Option RepairDecision)
  | [] => .ok none
  | action :: rest => do
    if ← eligible request rule action then do
      let selected ← planRepairAction request decisionId rule.definition.ruleId action
      let after : RepairState :=
        ⟨selected.patch.afterParameters, selected.patch.afterVariationIndex⟩
      if seen.any after.same then
        pickAction request decisionId rule seen rest
      else return some selected
    else pickAction request decisionId rule seen rest

theorem actionsFor_nodup (ruleId : RuleId) : (actionsFor ruleId).Nodup := by
  have hall : ∀ entry ∈ policyActions, entry.2.Nodup := by decide
  unfold actionsFor
  rcases h : policyActions.find? fun entry => entry.1 = ruleId.value with - | entry
  · rw [h]
    exact List.nodup_nil
  · rw [h]
    exact hall entry (List.mem_of_find?_eq_some h)

/-- `select_repair` -/
def selectRepair (request : GenerationRequest) (plan : CompiledVerificationPlan)
    (report : VerificationReport) (target : ArtifactId) (decisionId : DecisionId)
    (seen : List RepairState) : Except Raised Selection := do
  validateContext request plan report target
  let _ ← repairPolicyFromRequest request
  validateSeen seen
  let routed ← decideArtifact report target none false
  ensure (routed.artifactStatus = .rejected ∧ routed.decisionReason = .requiredGateFailed)
    "repair selection requires required gate failure"
  match ← blockingRules plan report target with
  | [] => .error (.domain "required gate failure has no blocking rule")
  | rule :: _ => do
    match ← pickAction request decisionId rule seen (actionsFor rule.definition.ruleId) with
    | some selected => return .decision selected
    | none => return .noAction ⟨decisionId, [rule.definition.ruleId],
        actionsFor rule.definition.ruleId, ⟨by simp, List.nodup_singleton _⟩,
        actionsFor_nodup _⟩

/-! ### The guardrail -/

/-- `_vector` -/
def gateVector (plan : CompiledVerificationPlan) (report : VerificationReport)
    (target : ArtifactId) : Except Raised (List Nat) :=
  (orderedRequired plan).mapM fun rule => do
    let result ← resultFor report rule.definition.ruleId target
    return if result.status = .pass then 0 else 1

/-- `all(...)` over the required rules before the trigger -/
def prefixPasses (report : VerificationReport) (target : ArtifactId) :
    List CompiledRule → Except Raised Bool
  | [] => .ok true
  | rule :: rest => do
    let result ← resultFor report rule.definition.ruleId target
    if result.status = .pass then prefixPasses report target rest else .ok false

/-- `is_repair_improvement` -/
def isRepairImprovement (plan : CompiledVerificationPlan) (parent child : VerificationReport)
    (parentTarget childTarget : ArtifactId) (decision : RepairDecision) :
    Except Raised Bool := do
  validatePlanReport plan parent parentTarget
  validatePlanReport plan child childTarget
  let blocking ← blockingRules plan parent parentTarget
  ensure (blocking.head?.map (·.definition.ruleId) = some decision.triggerRuleId)
    "repair decision does not match parent blocking rule"
  let required := orderedRequired plan
  ensure (!required.isEmpty) "plan has no applicable required gate"
  let trigger ← resultFor child decision.triggerRuleId childTarget
  if trigger.status = .pass then do
    let before := required.takeWhile fun rule => rule.definition.ruleId ≠ decision.triggerRuleId
    if ← prefixPasses child childTarget before then do
      let childVector ← gateVector plan child childTarget
      let parentVector ← gateVector plan parent parentTarget
      return childVector < parentVector
    else return false
  else return false

/-! ### Reports that match their plan -/

/-- The report has the rules of the plan and the artifact. -/
structure MatchesPlan (plan : CompiledVerificationPlan) (report : VerificationReport)
    (target : ArtifactId) : Prop where
  rules : report.rules = plan.applicableRuleDefinitions
  target : target ∈ report.ids

theorem validatePlanReport_ok_iff {plan : CompiledVerificationPlan} {report : VerificationReport}
    {target : ArtifactId} :
    validatePlanReport plan report target = .ok () ↔ MatchesPlan plan report target := by
  unfold validatePlanReport
  rw [ensure_ok_iff, decide_eq_true_eq]
  exact ⟨fun h => ⟨h.1, h.2⟩, fun h => ⟨h.rules, h.target⟩⟩

theorem mem_orderedRequired {plan : CompiledVerificationPlan} {rule : CompiledRule} :
    rule ∈ orderedRequired plan ↔ rule ∈ plan.rules ∧ rule.definition.applicability = .applicable ∧
      rule.definition.required = true := by
  unfold orderedRequired
  rw [List.mem_insertionSort, List.mem_filter, decide_eq_true_eq]

/-- The rules of a plan are known by the ids of their definitions. -/
theorem rule_eq_of_ruleId {plan : CompiledVerificationPlan} {a b : CompiledRule}
    (ha : a ∈ plan.rules) (hb : b ∈ plan.rules)
    (h : a.definition.ruleId = b.definition.ruleId) : a = b :=
  List.inj_on_of_nodup_map plan.rules_nodup ha hb h

/-- The first result of a look-up; a report that matches has exactly one. -/
def VerificationReport.statusOf (report : VerificationReport) (ruleId : RuleId)
    (target : ArtifactId) : Option RuleStatus :=
  (report.matching ruleId target).head?.map (·.status)

/-- `_blocking`, as a condition of the report. -/
def blocks (report : VerificationReport) (target : ArtifactId) (rule : CompiledRule) : Bool :=
  (report.matching rule.definition.ruleId target).any fun result =>
    Gate.rejects (rule.definition, result)

/-- One bit of a gate vector. -/
def gateBit (report : VerificationReport) (target : ArtifactId) (rule : CompiledRule) : Nat :=
  if report.statusOf rule.definition.ruleId target = some .pass then 0 else 1

section Matching

variable {plan : CompiledVerificationPlan} {report : VerificationReport} {target : ArtifactId}

/-- Every required rule has its gate. -/
theorem MatchesPlan.gate (h : MatchesPlan plan report target) {rule : CompiledRule}
    (hr : rule ∈ orderedRequired plan) :
    ∃ result, report.matching rule.definition.ruleId target = [result] ∧
      (rule.definition, result) ∈ requiredGates (resultsAffectingArtifact report target) := by
  obtain ⟨hm, ha, hreq⟩ := mem_orderedRequired.mp hr
  have hd : rule.definition ∈ report.rules := by
    rw [h.rules]
    exact mem_applicableRuleDefinitions.mpr ⟨⟨rule, hm, rfl⟩, ha⟩
  obtain ⟨result, hone, hg⟩ := exists_gate report hd ha h.target
  exact ⟨result, hone, mem_requiredGates.mpr ⟨hg, hreq⟩⟩

/-- Every required gate is that of a required rule. -/
theorem MatchesPlan.rule (h : MatchesPlan plan report target) {g : Gate}
    (hg : g ∈ requiredGates (resultsAffectingArtifact report target)) :
    ∃ rule ∈ orderedRequired plan, rule.definition = g.1 ∧
      report.matching rule.definition.ruleId target = [g.2] := by
  obtain ⟨hg, hreq⟩ := mem_requiredGates.mp hg
  have hm := (mem_resultsAffectingArtifact.mp hg).2.2.1
  rw [h.rules] at hm
  obtain ⟨⟨rule, hr, he⟩, ha⟩ := mem_applicableRuleDefinitions.mp hm
  refine ⟨rule, mem_orderedRequired.mpr ⟨hr, ?_, ?_⟩, he, ?_⟩
  · rw [he]
    exact ha
  · rw [he]
    exact hreq
  · rw [he]
    exact matching_of_gate hg h.target

theorem MatchesPlan.resultFor (h : MatchesPlan plan report target) {rule : CompiledRule}
    (hr : rule ∈ orderedRequired plan) :
    ∃ result, SpecStyle.resultFor report rule.definition.ruleId target = .ok result ∧
      report.matching rule.definition.ruleId target = [result] := by
  obtain ⟨result, hone, -⟩ := h.gate hr
  refine ⟨result, ?_, hone⟩
  unfold SpecStyle.resultFor
  rw [hone]

/-- The blocking rules are the required rules that block. -/
theorem blockingRules_ok (h : MatchesPlan plan report target) :
    blockingRules plan report target =
      .ok ((orderedRequired plan).filter (blocks report target)) := by
  refine filterM_ok_of_forall fun rule hr => ?_
  obtain ⟨result, hok, hone⟩ := h.resultFor hr
  unfold blocking blocks
  rw [hok, hone]
  simp

/-- The gate vector has one bit for each required rule. -/
theorem gateVector_ok (h : MatchesPlan plan report target) :
    gateVector plan report target = .ok ((orderedRequired plan).map (gateBit report target)) := by
  refine mapM_ok_of_forall fun rule hr => ?_
  obtain ⟨result, hok, hone⟩ := h.resultFor hr
  unfold gateBit VerificationReport.statusOf
  rw [hok, hone]
  simp

/-- The test of the rules before the trigger does not raise. -/
theorem prefixPasses_ok (h : MatchesPlan plan report target) {rules : List CompiledRule}
    (hr : ∀ rule ∈ rules, rule ∈ orderedRequired plan) :
    ∃ b, prefixPasses report target rules = .ok b := by
  induction rules with
  | nil => exact ⟨true, rfl⟩
  | cons rule rest ih =>
      obtain ⟨result, hok, -⟩ := h.resultFor (hr rule List.mem_cons_self)
      unfold prefixPasses
      rw [hok, ok_bind]
      split
      · exact ih fun r hm => hr r (List.mem_cons_of_mem _ hm)
      · exact ⟨false, rfl⟩

/-- The guardrail answers for two reports of the plan. -/
theorem isRepairImprovement_ok {child : VerificationReport} {childTarget : ArtifactId}
    {d : RepairDecision} (h : MatchesPlan plan report target)
    (hc : MatchesPlan plan child childTarget) {trigger : CompiledRule} {rest : List CompiledRule}
    (hb : (orderedRequired plan).filter (blocks report target) = trigger :: rest)
    (hd : d.triggerRuleId = trigger.definition.ruleId) :
    ∃ b, isRepairImprovement plan report child target childTarget d = .ok b := by
  have htr : trigger ∈ orderedRequired plan := by
    have hin : trigger ∈ (orderedRequired plan).filter (blocks report target) := by
      rw [hb]
      exact List.mem_cons_self
    exact List.mem_of_mem_filter hin
  obtain ⟨result, hok, -⟩ := hc.resultFor htr
  have hpre : ∃ b, prefixPasses child childTarget ((orderedRequired plan).takeWhile
      fun rule => rule.definition.ruleId ≠ d.triggerRuleId) = .ok b :=
    prefixPasses_ok hc fun rule hr => (List.takeWhile_sublist _).mem hr
  obtain ⟨b, hpre⟩ := hpre
  have hmatch : ensure (decide ((trigger :: rest).head?.map (·.definition.ruleId) =
      some d.triggerRuleId)) "repair decision does not match parent blocking rule" = .ok () := by
    rw [ensure_ok_iff, decide_eq_true_eq, hd]
    rfl
  have hreq : ensure (!(orderedRequired plan).isEmpty)
      "plan has no applicable required gate" = .ok () := by
    simpa using List.ne_nil_of_mem htr
  rw [← hd] at hok
  unfold isRepairImprovement
  rw [validatePlanReport_ok_iff.mpr h, ok_bind, validatePlanReport_ok_iff.mpr hc, ok_bind,
    blockingRules_ok h, ok_bind, hb, hmatch, ok_bind]
  simp only
  rw [hreq, ok_bind, hok, ok_bind]
  split
  · rw [hpre, ok_bind, gateVector_ok h, gateVector_ok hc]
    cases b with
    | false => exact ⟨false, rfl⟩
    | true => exact ⟨_, rfl⟩
  · exact ⟨false, rfl⟩

end Matching

/-! ### What a selection is -/

/-- A policy that is supported makes the loop answer. -/
theorem pickAction_total {request : GenerationRequest}
    (hv : request.compiledSpec.repair.policyVersion = py "1.0") (decisionId : DecisionId)
    (rule : CompiledRule) (seen : List RepairState) (actions : List Identifier) :
    ∃ o, pickAction request decisionId rule seen actions = .ok o := by
  induction actions with
  | nil => exact ⟨none, rfl⟩
  | cons action rest ih =>
      obtain ⟨o, ho⟩ := ih
      unfold pickAction eligible
      split
      · next hk =>
        have he : isActionExecutable request action =
            .ok (decide (action ∈ executableActionIds) && (patchFor request action).isOk) := by
          unfold isActionExecutable
          rw [show ensure (decide (action ∈ knownActionIds)) _ = .ok () from
            ensure_ok_iff.mpr (decide_eq_true hk.2)]
          rfl
        rw [he, ok_bind]
        split
        · next hx =>
          rw [Bool.and_eq_true, decide_eq_true_eq] at hx
          rcases hp : patchFor request action with e | patch
          · rw [hp] at hx
            exact absurd hx.2 (by simp [Except.isOk, Except.toBool])
          · have hplan : planRepairAction request decisionId rule.definition.ruleId action =
                .ok ⟨decisionId, rule.definition.ruleId, action, patch⟩ :=
              planRepairAction_ok_iff.mpr ⟨hv, hk.2, hx.1, hp, rfl, rfl, rfl⟩
            rw [hplan, ok_bind]
            simp only
            split
            · exact ⟨o, ho⟩
            · exact ⟨_, rfl⟩
        · exact ⟨o, ho⟩
      · rw [ok_bind]
        exact ⟨o, by simpa using ho⟩

/-- A picked action is planned and leads to an unseen state. -/
theorem pickAction_some {request : GenerationRequest} {decisionId : DecisionId}
    {rule : CompiledRule} {seen : List RepairState} {actions : List Identifier}
    {d : RepairDecision} (h : pickAction request decisionId rule seen actions = .ok (some d)) :
    planRepairAction request d.decisionId d.triggerRuleId d.actionId = .ok d ∧
      d.decisionId = decisionId ∧ d.triggerRuleId = rule.definition.ruleId ∧
      seen.any (RepairState.same ⟨d.patch.afterParameters, d.patch.afterVariationIndex⟩) =
        false := by
  induction actions with
  | nil => cases h
  | cons action rest ih =>
      unfold pickAction at h
      obtain ⟨b, -, h⟩ := bind_ok_iff.mp h
      cases b with
      | false => exact ih h
      | true =>
          obtain ⟨selected, hs, h⟩ := bind_ok_iff.mp h
          simp only at h
          split at h
          · exact ih h
          · next hseen =>
            cases h
            obtain ⟨h1, h2, h3, h4, rfl, h6, rfl⟩ := planRepairAction_ok_iff.mp hs
            rw [h6]
            exact ⟨hs, rfl, rfl, by simpa using hseen⟩

/-- Whether there is an action does not depend on the decision id. -/
theorem pickAction_none_congr {request : GenerationRequest} {a b : DecisionId}
    {rule : CompiledRule} {seen : List RepairState} {actions : List Identifier}
    (h : pickAction request a rule seen actions = .ok none) :
    pickAction request b rule seen actions = .ok none := by
  induction actions with
  | nil => rfl
  | cons action rest ih =>
      unfold pickAction at h ⊢
      obtain ⟨e, he, h⟩ := bind_ok_iff.mp h
      rw [he, ok_bind]
      cases e with
      | false => exact ih h
      | true =>
          obtain ⟨selected, hs, h⟩ := bind_ok_iff.mp h
          obtain ⟨h1, h2, h3, h4, -⟩ := planRepairAction_ok_iff.mp hs
          have hplan : planRepairAction request b rule.definition.ruleId action =
              .ok ⟨b, rule.definition.ruleId, action, selected.patch⟩ :=
            planRepairAction_ok_iff.mpr ⟨h1, h2, h3, h4, rfl, rfl, rfl⟩
          rw [if_pos rfl, hplan, ok_bind]
          simp only at h ⊢
          split at h
          · next hseen =>
            rw [if_pos hseen]
            exact ih h
          · cases h

/-- A selection may be asked for: the context is valid. -/
structure Selectable (request : GenerationRequest) (plan : CompiledVerificationPlan)
    (report : VerificationReport) (target : ArtifactId) (seen : List RepairState) : Prop where
  matching : MatchesPlan plan report target
  plan : plansFor request = [plan]
  version : request.compiledSpec.repair.policyVersion = py "1.0"
  seen : validateSeen seen = .ok ()

/-- The required gate failure of a report: the one route that is repaired. -/
def GateFailed (report : VerificationReport) (target : ArtifactId) : Prop :=
  ∃ routed, decideArtifact report target none false = .ok routed ∧
    routed.artifactStatus = .rejected ∧ routed.decisionReason = .requiredGateFailed

/-- On that route some required gate rejects. -/
theorem rejects_of_route_failed {relevant : List Gate}
    (h : route none relevant = .ok (.rejected, .requiredGateFailed)) :
    (requiredGates relevant).any Gate.rejects = true := by
  unfold route at h
  simp only at h
  split_ifs at h with h1 h2 h3
  · cases h
  · cases h
  · exact h3
  · cases h
  · cases h

/-- A gate failure has a first blocking rule. -/
theorem GateFailed.exists_blocking {plan : CompiledVerificationPlan} {report : VerificationReport}
    {target : ArtifactId} (h : GateFailed report target) (hm : MatchesPlan plan report target) :
    ∃ rule rest, (orderedRequired plan).filter (blocks report target) = rule :: rest := by
  obtain ⟨routed, hd, hs, hr⟩ := h
  have hroute := (decideArtifact_ok_iff.mp hd).2.2.2.1
  rw [hs, hr] at hroute
  obtain ⟨g, hg, hrej⟩ := List.any_eq_true.mp (rejects_of_route_failed hroute)
  obtain ⟨rule, hin, he, hone⟩ := hm.rule hg
  have hb : rule ∈ (orderedRequired plan).filter (blocks report target) := by
    rw [List.mem_filter]
    refine ⟨hin, ?_⟩
    unfold blocks
    rw [hone, he]
    simpa using hrej
  rcases hf : (orderedRequired plan).filter (blocks report target) with - | ⟨first, rest⟩
  · rw [hf] at hb
    cases hb
  · exact ⟨first, rest, rfl⟩

section Select

variable {request : GenerationRequest} {plan : CompiledVerificationPlan}
  {report : VerificationReport} {target : ArtifactId} {decisionId : DecisionId}
  {seen : List RepairState}

/-- A selection up to its loop. -/
theorem selectRepair_eq (h : Selectable request plan report target seen)
    (hf : GateFailed report target) {rule : CompiledRule} {rest : List CompiledRule}
    (hb : (orderedRequired plan).filter (blocks report target) = rule :: rest) :
    selectRepair request plan report target decisionId seen =
      (pickAction request decisionId rule seen (actionsFor rule.definition.ruleId) >>= fun o =>
        match o with
        | some selected => .ok (.decision selected)
        | none => .ok (.noAction ⟨decisionId, [rule.definition.ruleId],
            actionsFor rule.definition.ruleId, ⟨by simp, List.nodup_singleton _⟩,
            actionsFor_nodup _⟩)) := by
  obtain ⟨routed, hd, hs, hr⟩ := hf
  obtain ⟨policy, hp⟩ := repairPolicyFromRequest_ok_iff.mpr h.version
  have hctx : validateContext request plan report target = .ok () := by
    unfold validateContext
    refine check_ok_iff.mpr ⟨validatePlanReport_ok_iff.mpr h.matching, ?_⟩
    simpa using h.plan
  have hrouted : ensure (decide (routed.artifactStatus = .rejected ∧
      routed.decisionReason = .requiredGateFailed))
      "repair selection requires required gate failure" = .ok () := by
    rw [ensure_ok_iff, decide_eq_true_eq]
    exact ⟨hs, hr⟩
  unfold selectRepair
  rw [hctx, ok_bind, hp, ok_bind, h.seen, ok_bind, hd, ok_bind, hrouted, ok_bind,
    blockingRules_ok h.matching, ok_bind, hb]
  rfl

/-- A selection on a gate failure answers. -/
theorem selectRepair_total (h : Selectable request plan report target seen)
    (hf : GateFailed report target) (decisionId : DecisionId) :
    ∃ s, selectRepair request plan report target decisionId seen = .ok s := by
  obtain ⟨rule, rest, hb⟩ := hf.exists_blocking h.matching
  obtain ⟨o, ho⟩ := pickAction_total h.version decisionId rule seen
    (actionsFor rule.definition.ruleId)
  rw [selectRepair_eq h hf hb, ho, ok_bind]
  cases o with
  | none => exact ⟨_, rfl⟩
  | some d => exact ⟨_, rfl⟩

/-- A selection that answers had a valid context and a gate failure. -/
theorem selectable_of_ok {s : Selection}
    (h : selectRepair request plan report target decisionId seen = .ok s) :
    Selectable request plan report target seen ∧ GateFailed report target := by
  unfold selectRepair at h
  obtain ⟨hctx, h⟩ := check_ok_iff.mp h
  obtain ⟨policy, hp, h⟩ := bind_ok_iff.mp h
  obtain ⟨hseen, h⟩ := check_ok_iff.mp h
  obtain ⟨routed, hd, h⟩ := bind_ok_iff.mp h
  obtain ⟨hrouted, -⟩ := check_ok_iff.mp h
  unfold validateContext at hctx
  obtain ⟨hm, hplan⟩ := check_ok_iff.mp hctx
  rw [ensure_ok_iff, decide_eq_true_eq] at hplan hrouted
  exact ⟨⟨validatePlanReport_ok_iff.mp hm, hplan, repairPolicyFromRequest_ok_iff.mp ⟨policy, hp⟩,
    hseen⟩, routed, hd, hrouted⟩

/-- A selected decision is planned for the first blocking rule, under the id
asked for, and leads to an unseen state. -/
theorem selectRepair_decision {d : RepairDecision}
    (h : selectRepair request plan report target decisionId seen = .ok (.decision d)) :
    planRepairAction request d.decisionId d.triggerRuleId d.actionId = .ok d ∧
      d.decisionId = decisionId ∧
      seen.any (RepairState.same ⟨d.patch.afterParameters, d.patch.afterVariationIndex⟩) = false ∧
      ∃ rule rest, (orderedRequired plan).filter (blocks report target) = rule :: rest ∧
        d.triggerRuleId = rule.definition.ruleId := by
  obtain ⟨hs, hf⟩ := selectable_of_ok h
  obtain ⟨rule, rest, hb⟩ := hf.exists_blocking hs.matching
  rw [selectRepair_eq hs hf hb] at h
  obtain ⟨o, ho, h⟩ := bind_ok_iff.mp h
  cases o with
  | none => cases h
  | some selected =>
      cases h
      obtain ⟨hplan, hid, htr, hun⟩ := pickAction_some ho
      exact ⟨hplan, hid, hun, rule, rest, hb, htr⟩

/-- That there is no action does not depend on the decision id. -/
theorem selectRepair_noAction {n : NoAction} (other : DecisionId)
    (h : selectRepair request plan report target decisionId seen = .ok (.noAction n)) :
    ∃ m, selectRepair request plan report target other seen = .ok (.noAction m) := by
  obtain ⟨hs, hf⟩ := selectable_of_ok h
  obtain ⟨rule, rest, hb⟩ := hf.exists_blocking hs.matching
  rw [selectRepair_eq hs hf hb] at h
  obtain ⟨o, ho, h⟩ := bind_ok_iff.mp h
  cases o with
  | none =>
      rw [selectRepair_eq hs hf hb, pickAction_none_congr ho]
      exact ⟨_, rfl⟩
  | some selected => cases h

end Select

end SpecStyle
