/-
SpecStyle/Repair/History.lean

Repair histories and their replay.

The constructor of a history replays the attempts one after the other
(`replayAttempt`) and refuses a history that does not replay.  A history of the
model carries its replay as a proof, so the defensive rebuilding of the
source gives the history back.

Two keys of the source are equalities here.  A decision key and a request key
hold every field, floats by `hex`, so equal keys are equal values.  A report
key sorts the results, so two reports have one key when their results are the
same up to order (`sameKey`).
-/
import SpecStyle.Repair.Policies

namespace SpecStyle

open PyLib

/-- `try: ... except Exception: raise DomainError(message) from None` -/
def rewrap {α : Type} (message : String) (x : Except Raised α) : Except Raised α :=
  match x with
  | .ok a => .ok a
  | .error _ => .error (.domain message)

@[simp] theorem rewrap_ok_iff {α : Type} {message : String} {x : Except Raised α} {a : α} :
    rewrap message x = .ok a ↔ x = .ok a := by
  cases x with
  | ok b => rfl
  | error e =>
      constructor
      · intro h
        cases h
      · intro h
        cases h

/-! ### Keys and checks -/

def invalidHistory : String := "invalid repair history"

/-- `_state` -/
def GenerationRequest.state (request : GenerationRequest) : RepairState :=
  ⟨request.executionParameters, request.variationIndex⟩

/-- `_report_key(a) == _report_key(b)` -/
def VerificationReport.sameKey (a b : VerificationReport) : Bool :=
  a.artifacts = b.artifacts ∧ a.rules = b.rules ∧ a.results.isPerm b.results

/-- `_plan_for` -/
def planFor (request : GenerationRequest) : Except Raised CompiledVerificationPlan :=
  match plansFor request with
  | [plan] => .ok plan
  | _ => .error (.domain invalidHistory)

/-- `_check_report` -/
def checkReport (plan : CompiledVerificationPlan) (report : VerificationReport) :
    Except Raised Unit :=
  ensure (report.rules = plan.applicableRuleDefinitions) invalidHistory

variable {hashBytes : Bytes → Sha256}

/-- The artifact carries the hashes of the request. -/
def carriesHashes (digests : Digests) (request : GenerationRequest)
    (artifact : GeneratedArtifact hashBytes) : Bool :=
  artifact.requestHash = request.requestHash digests ∧
    artifact.generationFingerprint = request.generationFingerprint digests

/-- `_check_initial` -/
def checkInitial (digests : Digests) (request : GenerationRequest)
    (artifact : GeneratedArtifact hashBytes) (report : VerificationReport) :
    Except Raised Unit := do
  ensure request.parentAttemptId.isNone "invalid initial repair attempt"
  let graph ← resolveGraph request.compiledSpec request.generationProfile request.outputProfile
  ensure (request.executionParameters = graph.defaults) "invalid initial repair attempt"
  ensure (carriesHashes digests request artifact) "invalid initial repair attempt"
  ensure (artifact.ref ∈ report.artifacts) "invalid initial repair attempt"
  let plan ← planFor request
  checkReport plan report

/-! ### Attempts -/

/-- `InitialAttempt` -/
structure InitialAttempt (hashBytes : Bytes → Sha256) (digests : Digests) where
  request : GenerationRequest
  artifact : GeneratedArtifact hashBytes
  report : VerificationReport
  valid : checkInitial digests request artifact report = .ok ()

/-- `InitialAttempt(request, artifact, report)` -/
def InitialAttempt.new (digests : Digests) (request : GenerationRequest)
    (artifact : GeneratedArtifact hashBytes) (report : VerificationReport) :
    Except Raised (InitialAttempt hashBytes digests) :=
  match h : checkInitial digests request artifact report with
  | .ok () => .ok ⟨request, artifact, report, h⟩
  | .error _ => .error (.domain "invalid initial repair attempt")

/-- `RepairAttempt` -/
structure RepairAttempt (hashBytes : Bytes → Sha256) where
  parentReport : VerificationReport
  decision : RepairDecision
  request : GenerationRequest
  artifact : GeneratedArtifact hashBytes
  report : VerificationReport

/-! ### The replay -/

/-- The locals of `_replay`. -/
structure ReplayState (hashBytes : Bytes → Sha256) where
  request : GenerationRequest
  artifact : GeneratedArtifact hashBytes
  report : VerificationReport
  seen : List RepairState
  noImprovement : Nat
  attemptIds : List AttemptId
  artifactIds : List ArtifactId
  decisionIds : List DecisionId

/-- `artifact.ref.artifact_id` -/
abbrev ReplayState.target (s : ReplayState hashBytes) : ArtifactId := s.artifact.ref.artifactId

/-- The child cohort is the parent cohort with the target slot replaced. -/
def replacesSlot (parent child : List ArtifactRef) (old new : ArtifactRef) : Bool :=
  match parent.findIdx? fun ref => ref = old with
  | none => false
  | some slot =>
    parent.length == child.length &&
      (List.range parent.length).all (fun i => i == slot || parent[i]? == child[i]?) &&
      child[slot]? == some new

/-- The locals after a round. -/
def ReplayState.after (s : ReplayState hashBytes) (attempt : RepairAttempt hashBytes)
    (improved : Bool) : ReplayState hashBytes where
  request := attempt.request
  artifact := attempt.artifact
  report := attempt.report
  seen := s.seen ++ [attempt.request.state]
  noImprovement := if improved then 0 else s.noImprovement + 1
  attemptIds := s.attemptIds ++ [attempt.request.attemptId]
  artifactIds := s.artifactIds ++ [attempt.artifact.ref.artifactId]
  decisionIds := s.decisionIds ++ [attempt.decision.decisionId]

/-- One round of `_replay`. -/
def replayAttempt (digests : Digests) (s : ReplayState hashBytes)
    (attempt : RepairAttempt hashBytes) : Except Raised (ReplayState hashBytes) := do
  let plan ← planFor s.request
  ensure (attempt.parentReport.sameKey s.report) invalidHistory
  let selected ← selectRepair s.request plan s.report s.target attempt.decision.decisionId s.seen
  ensure (selected = .decision attempt.decision) invalidHistory
  let expected ← buildRepairRequest s.request attempt.decision attempt.request.attemptId
  ensure (expected = attempt.request) invalidHistory
  ensure (attempt.request.attemptId ∉ s.attemptIds ∧
      attempt.decision.decisionId ∉ s.decisionIds ∧
      attempt.artifact.ref.artifactId ∉ s.artifactIds) invalidHistory
  ensure (carriesHashes digests attempt.request attempt.artifact) invalidHistory
  checkReport plan attempt.report
  ensure (replacesSlot s.report.artifacts attempt.report.artifacts s.artifact.ref
      attempt.artifact.ref) invalidHistory
  let improved ← isRepairImprovement plan s.report attempt.report s.target
    attempt.artifact.ref.artifactId attempt.decision
  ensure (attempt.request.state ∉ s.seen) invalidHistory
  return s.after attempt improved

section Digests

variable {digests : Digests}

/-- The locals of `_replay` before its loop. -/
def InitialAttempt.start (initial : InitialAttempt hashBytes digests) : ReplayState hashBytes where
  request := initial.request
  artifact := initial.artifact
  report := initial.report
  seen := [initial.request.state]
  noImprovement := 0
  attemptIds := [initial.request.attemptId]
  artifactIds := [initial.artifact.ref.artifactId]
  decisionIds := []

/-- The loop of `_replay`. -/
def replayLoop (initial : InitialAttempt hashBytes digests)
    (attempts : List (RepairAttempt hashBytes)) : Except Raised (ReplayState hashBytes) :=
  attempts.foldlM (replayAttempt digests) initial.start

/-- `_replay` -/
def replay (initial : InitialAttempt hashBytes digests)
    (attempts : List (RepairAttempt hashBytes)) :
    Except Raised (Nat × Nat × List RepairState) := do
  let s ← replayLoop initial attempts
  let policy ← repairPolicyFromRequest s.request
  ensure (attempts.length ≤ policy.maxRounds) invalidHistory
  return (attempts.length, s.noImprovement, s.seen)

end Digests

/-- `RepairHistory` -/
structure RepairHistory (hashBytes : Bytes → Sha256) (digests : Digests) where
  initialAttempt : InitialAttempt hashBytes digests
  repairAttempts : List (RepairAttempt hashBytes)
  rounds : Nat
  consecutiveNoImprovement : Nat
  seenStateKeys : List RepairState
  valid : replay initialAttempt repairAttempts =
    .ok (rounds, consecutiveNoImprovement, seenStateKeys)

section Digests

variable {digests : Digests}

/-- `RepairHistory(initial_attempt, repair_attempts)` -/
def RepairHistory.new (initial : InitialAttempt hashBytes digests)
    (attempts : List (RepairAttempt hashBytes)) :
    Except Raised (RepairHistory hashBytes digests) :=
  match h : replay initial attempts with
  | .ok (rounds, noImprovement, seen) => .ok ⟨initial, attempts, rounds, noImprovement, seen, h⟩
  | .error _ => .error (.domain invalidHistory)

namespace RepairHistory

variable (history : RepairHistory hashBytes digests)

/-- `current_request` -/
def currentRequest : GenerationRequest :=
  (history.repairAttempts.getLast?.map (·.request)).getD history.initialAttempt.request

/-- `current_artifact` -/
def currentArtifact : GeneratedArtifact hashBytes :=
  (history.repairAttempts.getLast?.map (·.artifact)).getD history.initialAttempt.artifact

/-- `current_report` -/
def currentReport : VerificationReport :=
  (history.repairAttempts.getLast?.map (·.report)).getD history.initialAttempt.report

/-- `current_target_artifact_id` -/
def currentTargetArtifactId : ArtifactId := history.currentArtifact.ref.artifactId

end RepairHistory

/-- `start_repair_history` -/
def startRepairHistory (digests : Digests) (request : GenerationRequest)
    (artifact : GeneratedArtifact hashBytes) (report : VerificationReport) :
    Except Raised (RepairHistory hashBytes digests) :=
  rewrap invalidHistory do
    let initial ← InitialAttempt.new digests request artifact report
    RepairHistory.new initial []

end Digests

end SpecStyle
