/-
SpecStyle/Repair/Actions.lean

The value objects of repair policy 1.0, the action allowlist and the request
of a repair attempt.

A patch carries the proof that it changes exactly one state category, the
parameters or the variation index.  An action is executable when its patch
can be built; the patch is computed once to find that out and once for the
decision, and both computations are the same function.
-/
import SpecStyle.Generation.Requests

namespace SpecStyle

open PyLib

/-! ### Policy and patches -/

/-- `RepairPolicy` -/
structure RepairPolicy where
  policyVersion : Text
  maxRounds : Nat
  stopAfterNoImprovement : Nat
  version : policyVersion = py "1.0"
  rounds : 1 ≤ maxRounds ∧ maxRounds ≤ 10
  stopAfter : 1 ≤ stopAfterNoImprovement ∧ stopAfterNoImprovement ≤ maxRounds

/-- `RepairPolicy(...)` -/
def RepairPolicy.new (policyVersion : Text) (maxRounds stopAfter : Nat) :
    Except Raised RepairPolicy :=
  if hv : policyVersion = py "1.0" then
    if hr : 1 ≤ maxRounds ∧ maxRounds ≤ 10 then
      if hs : 1 ≤ stopAfter ∧ stopAfter ≤ maxRounds then
        .ok ⟨policyVersion, maxRounds, stopAfter, hv, hr, hs⟩
      else .error (.domain "invalid stop after no improvement")
    else .error (.domain "invalid max rounds")
  else .error (.domain "unsupported repair policy")

/-- `_MAX_VARIATION_INDEX` -/
def maxVariationIndex : Nat := 2 ^ 31 - 1

/-- `RepairPatch` -/
structure RepairPatch where
  beforeParameters : GenerationParameters
  afterParameters : GenerationParameters
  beforeVariationIndex : Nat
  afterVariationIndex : Nat
  bounds : beforeVariationIndex ≤ maxVariationIndex ∧ afterVariationIndex ≤ maxVariationIndex
  /-- "repair patch must change exactly one state category" -/
  oneCategory : beforeParameters.same afterParameters ≠
    decide (beforeVariationIndex = afterVariationIndex)
  deriving DecidableEq

/-- `RepairPatch(...)` -/
def RepairPatch.new (before after : GenerationParameters) (beforeIndex afterIndex : Nat) :
    Except Raised RepairPatch :=
  if hb : beforeIndex ≤ maxVariationIndex ∧ afterIndex ≤ maxVariationIndex then
    if hc : before.same after ≠ decide (beforeIndex = afterIndex) then
      .ok ⟨before, after, beforeIndex, afterIndex, hb, hc⟩
    else .error (.domain "repair patch must change exactly one state category")
  else .error (.domain "invalid variation index")

/-- `==` on patches -/
def RepairPatch.same (a b : RepairPatch) : Bool :=
  a.beforeParameters.same b.beforeParameters && a.afterParameters.same b.afterParameters &&
    a.beforeVariationIndex == b.beforeVariationIndex &&
    a.afterVariationIndex == b.afterVariationIndex

@[simp] theorem RepairPatch.same_self (a : RepairPatch) : a.same a = true := by
  simp [same]

/-- `RepairDecision`; its policy version is always "1.0". -/
structure RepairDecision where
  decisionId : DecisionId
  triggerRuleId : RuleId
  actionId : Identifier
  patch : RepairPatch
  deriving DecidableEq

/-- `NoAction` -/
structure NoAction where
  decisionId : DecisionId
  blockedRuleIds : List RuleId
  blockedActionIds : List Identifier
  rules : blockedRuleIds ≠ [] ∧ blockedRuleIds.Nodup
  actions_nodup : blockedActionIds.Nodup

theorem NoAction.ext_fields {a b : NoAction}
    (h : (a.decisionId, a.blockedRuleIds, a.blockedActionIds) =
      (b.decisionId, b.blockedRuleIds, b.blockedActionIds)) : a = b := by
  cases a; cases b; cases h; rfl

instance : DecidableEq NoAction := fun _ _ =>
  decidable_of_iff _ ⟨NoAction.ext_fields, fun h => by rw [h]⟩

/-! ### Actions -/

def increaseStyleScale : Identifier := ⟨py "INCREASE_STYLE_SCALE", by decide⟩
def decreaseStyleScale : Identifier := ⟨py "DECREASE_STYLE_SCALE", by decide⟩
def reduceDenoise : Identifier := ⟨py "REDUCE_DENOISE", by decide⟩
def increaseStructure : Identifier := ⟨py "INCREASE_STRUCTURE", by decide⟩
def renderOutputProfile : Identifier := ⟨py "RENDER_OUTPUT_PROFILE", by decide⟩
def retrySampling : Identifier := ⟨py "RETRY_SAMPLING", by decide⟩

/-- `KNOWN_ACTION_IDS` -/
def knownActionIds : List Identifier :=
  [increaseStyleScale, decreaseStyleScale, reduceDenoise, increaseStructure, renderOutputProfile,
    retrySampling]

/-- `EXECUTABLE_ACTION_IDS` -/
def executableActionIds : List Identifier :=
  [increaseStyleScale, decreaseStyleScale, reduceDenoise, increaseStructure, retrySampling]

/-- `min(1.0, value + _STEP)` -/
def stepUp (value : Binary64) : Binary64 := Binary64.pyMin .one (value.add .tenth)

/-- `max(0.0, value - _STEP)` -/
def stepDown (value : Binary64) : Binary64 := Binary64.pyMax .zero (value.sub .tenth)

/-- `_patch_for` -/
def patchFor (request : GenerationRequest) (action : Identifier) : Except Raised RepairPatch :=
  let p := request.executionParameters
  let index := request.variationIndex
  if action = increaseStyleScale then do
    let after ← GenerationParameters.new (stepUp p.ipAdapterScale) p.img2imgStrength
      p.controlnetScale
    RepairPatch.new p after index index
  else if action = decreaseStyleScale then do
    let after ← GenerationParameters.new (stepDown p.ipAdapterScale) p.img2imgStrength
      p.controlnetScale
    RepairPatch.new p after index index
  else if action = reduceDenoise then do
    let after ← GenerationParameters.new p.ipAdapterScale (stepDown p.img2imgStrength)
      p.controlnetScale
    RepairPatch.new p after index index
  else if action = increaseStructure then do
    let after ← GenerationParameters.new p.ipAdapterScale p.img2imgStrength
      (stepUp p.controlnetScale)
    RepairPatch.new p after index index
  else if action = retrySampling then RepairPatch.new p p index (index + 1)
  else .error (.domain "repair action is unavailable")

/-- `repair_policy_from_request` -/
def repairPolicyFromRequest (request : GenerationRequest) : Except Raised RepairPolicy :=
  let repair := request.compiledSpec.repair
  RepairPolicy.new repair.policyVersion repair.maxRounds repair.stopAfterNoImprovement

/-- `is_action_executable` -/
def isActionExecutable (request : GenerationRequest) (action : Identifier) :
    Except Raised Bool := do
  ensure (action ∈ knownActionIds) "unknown repair action"
  return decide (action ∈ executableActionIds) && (patchFor request action).isOk

/-- `plan_repair_action` -/
def planRepairAction (request : GenerationRequest) (decisionId : DecisionId)
    (triggerRuleId : RuleId) (action : Identifier) : Except Raised RepairDecision := do
  let _ ← repairPolicyFromRequest request
  let executable ← isActionExecutable request action
  ensure executable "repair action is not executable"
  let patch ← patchFor request action
  return ⟨decisionId, triggerRuleId, action, patch⟩

/-- `build_repair_request` -/
def buildRepairRequest (parent : GenerationRequest) (decision : RepairDecision)
    (nextAttemptId : AttemptId) : Except Raised GenerationRequest := do
  ensure (nextAttemptId ≠ parent.attemptId) "next attempt id must differ from parent"
  let expected ← planRepairAction parent decision.decisionId decision.triggerRuleId
    decision.actionId
  ensure (decision.patch.same expected.patch) "repair decision patch does not match action"
  GenerationRequest.new
    { parent.toRequestFields with
      attemptId := nextAttemptId
      parentAttemptId := some parent.attemptId
      variationIndex := expected.patch.afterVariationIndex
      executionParameters := expected.patch.afterParameters }

/-! ### What the functions return -/

theorem repairPolicyFromRequest_ok_iff {request : GenerationRequest} :
    (∃ policy, repairPolicyFromRequest request = .ok policy) ↔
      request.compiledSpec.repair.policyVersion = py "1.0" := by
  have hb := request.compiledSpec.repair.bounds
  unfold repairPolicyFromRequest RepairPolicy.new
  constructor
  · rintro ⟨policy, h⟩
    simp only at h
    split_ifs at h with hv
    exact hv
  · intro hv
    rw [dif_pos hv, dif_pos ⟨by omega, hb.2.2⟩, dif_pos ⟨hb.1, hb.2.1⟩]
    exact ⟨_, rfl⟩

theorem repairPolicyFromRequest_fields {request : GenerationRequest} {policy : RepairPolicy}
    (h : repairPolicyFromRequest request = .ok policy) :
    policy.maxRounds = request.compiledSpec.repair.maxRounds ∧
      policy.stopAfterNoImprovement = request.compiledSpec.repair.stopAfterNoImprovement := by
  unfold repairPolicyFromRequest RepairPolicy.new at h
  simp only at h
  split_ifs at h
  cases h
  exact ⟨rfl, rfl⟩

theorem RepairPatch.new_ok {before after : GenerationParameters} {i j : Nat} {patch : RepairPatch}
    (h : RepairPatch.new before after i j = .ok patch) :
    patch.beforeParameters = before ∧ patch.afterParameters = after ∧
      patch.beforeVariationIndex = i ∧ patch.afterVariationIndex = j := by
  unfold RepairPatch.new at h
  split_ifs at h
  cases h
  exact ⟨rfl, rfl, rfl, rfl⟩

/-- A planned action is known and executable, and its patch is the patch of
the action. -/
theorem planRepairAction_ok_iff {request : GenerationRequest} {decisionId : DecisionId}
    {trigger : RuleId} {action : Identifier} {d : RepairDecision} :
    planRepairAction request decisionId trigger action = .ok d ↔
      request.compiledSpec.repair.policyVersion = py "1.0" ∧ action ∈ knownActionIds ∧
      action ∈ executableActionIds ∧ patchFor request action = .ok d.patch ∧
      d.decisionId = decisionId ∧ d.triggerRuleId = trigger ∧ d.actionId = action := by
  rw [← repairPolicyFromRequest_ok_iff]
  unfold planRepairAction
  constructor
  · intro h
    obtain ⟨policy, hp, h⟩ := bind_ok_iff.mp h
    obtain ⟨e, he, h⟩ := bind_ok_iff.mp h
    obtain ⟨hx, h⟩ := check_ok_iff.mp h
    obtain ⟨patch, hpatch, h⟩ := bind_ok_iff.mp h
    unfold isActionExecutable at he
    obtain ⟨hk, he⟩ := check_ok_iff.mp he
    cases h
    cases he
    rw [ensure_ok_iff, decide_eq_true_eq] at hk
    rw [ensure_ok_iff, Bool.and_eq_true, decide_eq_true_eq] at hx
    exact ⟨⟨policy, hp⟩, hk, hx.1, hpatch, rfl, rfl, rfl⟩
  · rintro ⟨⟨policy, hp⟩, hk, hx, hpatch, rfl, rfl, rfl⟩
    refine bind_ok_iff.mpr ⟨policy, hp, bind_ok_iff.mpr ⟨true, ?_, ?_⟩⟩
    · unfold isActionExecutable
      refine check_ok_iff.mpr ⟨by simpa using hk, ?_⟩
      rw [hpatch, decide_eq_true hx]
      rfl
    · exact check_ok_iff.mpr ⟨rfl, bind_ok_iff.mpr ⟨d.patch, hpatch, rfl⟩⟩

/-- The child of a valid request under a patch is valid: it keeps the graph
and the materials. -/
theorem child_valid {parent : GenerationRequest} {attemptId : AttemptId} {patch : RepairPatch} :
    validateRequest
      { parent.toRequestFields with
        attemptId := attemptId
        parentAttemptId := some parent.attemptId
        variationIndex := patch.afterVariationIndex
        executionParameters := patch.afterParameters } = .ok () := by
  have hv := parent.valid
  unfold validateRequest at hv ⊢
  obtain ⟨graph, hg, hv⟩ := bind_ok_iff.mp hv
  obtain ⟨-, hv⟩ := check_ok_iff.mp hv
  obtain ⟨hm, -⟩ := check_ok_iff.mp hv
  have hi : patch.afterVariationIndex < 2 ^ 31 := by
    have := patch.bounds.2
    unfold maxVariationIndex at this
    omega
  refine bind_ok_iff.mpr ⟨graph, hg, ?_⟩
  refine check_ok_iff.mpr ⟨by simp, ?_⟩
  exact check_ok_iff.mpr ⟨hm, by simpa using hi⟩

/-- The request of a planned repair attempt. -/
theorem buildRepairRequest_ok_iff {parent child : GenerationRequest} {d : RepairDecision}
    {attemptId : AttemptId}
    (hplan : planRepairAction parent d.decisionId d.triggerRuleId d.actionId = .ok d) :
    buildRepairRequest parent d attemptId = .ok child ↔
      attemptId ≠ parent.attemptId ∧ child.toRequestFields =
        { parent.toRequestFields with
          attemptId := attemptId
          parentAttemptId := some parent.attemptId
          variationIndex := d.patch.afterVariationIndex
          executionParameters := d.patch.afterParameters } := by
  unfold buildRepairRequest
  rw [check_ok_iff, hplan, ok_bind, check_ok_iff, ensure_ok_iff, ensure_ok_iff,
    GenerationRequest.new_ok_iff, decide_eq_true_eq]
  simp

end SpecStyle
