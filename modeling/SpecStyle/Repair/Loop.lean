/-
SpecStyle/Repair/Loop.lean

The two-phase repair state machine: `nextRepairStep` asks for the next
generation or ends, `consumeRepairResult` takes the result in.
-/
import SpecStyle.Repair.History

namespace SpecStyle

open PyLib

variable {hashBytes : Bytes → Sha256} {digests : Digests}

/-- `NextGeneration` -/
structure NextGeneration where
  decision : RepairDecision
  request : GenerationRequest

/-- `RepairTerminal` -/
structure RepairTerminal where
  artifactDecision : ArtifactDecision
  noAction : Option NoAction
  valid : noAction.isNone = decide (artifactDecision.repairStopReason ≠ some .noAction)
  deriving DecidableEq

/-- `RepairTerminal(artifact_decision, no_action)` -/
def RepairTerminal.new (decision : ArtifactDecision) (noAction : Option NoAction) :
    Except Raised RepairTerminal :=
  if h : noAction.isNone = decide (decision.repairStopReason ≠ some .noAction) then
    .ok ⟨decision, noAction, h⟩
  else .error (.domain "invalid repair terminal")

/-- `RepairStep` -/
inductive RepairStep where
  | next (command : NextGeneration)
  | terminal (terminal : RepairTerminal)

/-- `_executed_decision_ids` -/
def executedDecisionIds (history : RepairHistory hashBytes digests) : List DecisionId :=
  history.repairAttempts.map (·.decision.decisionId)

/-- `_attempt_ids` -/
def attemptIds (history : RepairHistory hashBytes digests) : List AttemptId :=
  history.initialAttempt.request.attemptId :: history.repairAttempts.map (·.request.attemptId)

/-- `_terminal` -/
def terminal (history : RepairHistory hashBytes digests) (stop : RepairStopReason)
    (noAction : Option NoAction) : Except Raised RepairStep := do
  let decision ← decideArtifact history.currentReport history.currentTargetArtifactId (some stop)
    false
  let t ← RepairTerminal.new decision noAction
  return .terminal t

/-- `_stop_reason` -/
def repairStopReason (history : RepairHistory hashBytes digests) :
    Except Raised (Option RepairStopReason) := do
  let routed ← decideArtifact history.currentReport history.currentTargetArtifactId none false
  if routed.artifactStatus = .approved ∧ routed.decisionReason = .allRequiredPass then
    return some .passAllRequired
  else if routed.artifactStatus = .rejected ∧
      routed.decisionReason = .requiredGateUnverifiable then
    return some .unverifiable
  else if routed.artifactStatus = .manualReview ∧ routed.decisionReason = .manualPolicy then
    return some .manualRequest
  else do
    let policy ← repairPolicyFromRequest history.currentRequest
    if policy.stopAfterNoImprovement ≤ history.consecutiveNoImprovement then
      return some .noImprovement
    else if policy.maxRounds ≤ history.rounds then return some .maxRounds
    else return none

/-- `next_repair_step` -/
def nextRepairStep (history : RepairHistory hashBytes digests) (decisionId : DecisionId)
    (nextAttemptId : AttemptId) : Except Raised RepairStep :=
  rewrap "invalid repair transition" do
    match ← repairStopReason history with
    | some stop => terminal history stop none
    | none => do
      ensure (decisionId ∉ executedDecisionIds history) "invalid repair transition"
      let plan ← planFor history.currentRequest
      match ← selectRepair history.currentRequest plan history.currentReport
          history.currentTargetArtifactId decisionId history.seenStateKeys with
      | .noAction n => terminal history .noAction (some n)
      | .decision selected => do
        ensure (nextAttemptId ∉ attemptIds history) "invalid repair transition"
        let request ← buildRepairRequest history.currentRequest selected nextAttemptId
        return .next ⟨selected, request⟩

/-- `consume_repair_result` -/
def consumeRepairResult (history : RepairHistory hashBytes digests) (command : NextGeneration)
    (artifact : GeneratedArtifact hashBytes) (report : VerificationReport) :
    Except Raised (RepairHistory hashBytes digests) :=
  rewrap "invalid repair observation" do
    ensure (command.decision.decisionId ∉ executedDecisionIds history ∧
        command.request.attemptId ∉ attemptIds history) "invalid repair observation"
    let plan ← planFor history.currentRequest
    let selected ← selectRepair history.currentRequest plan history.currentReport
      history.currentTargetArtifactId command.decision.decisionId history.seenStateKeys
    let expected ← buildRepairRequest history.currentRequest command.decision
      command.request.attemptId
    ensure (selected = .decision command.decision ∧ expected = command.request)
      "invalid repair observation"
    RepairHistory.new history.initialAttempt (history.repairAttempts ++
      [⟨history.currentReport, command.decision, command.request, artifact, report⟩])

end SpecStyle
