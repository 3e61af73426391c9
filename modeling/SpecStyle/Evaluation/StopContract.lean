/-
SpecStyle/Evaluation/StopContract.lean

Stop events and the choice of the candidate (`stop_contract.py`).

An arm stops with one event.  Outside the repairing arms the event is plain: it
points at the last attempt and names no rule and no action.  A repairing arm
may also stop before its budget, for one of the early kinds (`earlyRepair`).
-/
import SpecStyle.Evaluation.Protocol

namespace SpecStyle

open PyLib Calibration

namespace Evaluation

variable (C : Codec)

/-- `generation_status` -/
inductive GenerationStatus where
  | generated | generationFailed
  deriving DecidableEq

def GenerationStatus.value : GenerationStatus → Text
  | .generated => py "GENERATED"
  | .generationFailed => py "GENERATION_FAILED"

/-- An attempt of a record: its document, and the fields that later checks read. -/
structure Attempt where
  raw : Dict
  seed : Int
  status : GenerationStatus
  artifactSha256 : Option Text
  qaPass : Bool
  utilityScore : Option C.Carrier
  gpuSeconds : C.Carrier
  repairActionSha256 : Option Text
  triggerRuleIds : List Text

/-- `guardrail_decision` of a stop event -/
inductive GuardrailDecision where
  | disabledEvaluationOnly | notApplicable | passed | rejected
  deriving DecidableEq

def GuardrailDecision.value : GuardrailDecision → Text
  | .disabledEvaluationOnly => py "DISABLED_EVALUATION_ONLY"
  | .notApplicable => py "NOT_APPLICABLE"
  | .passed => py "PASSED"
  | .rejected => py "REJECTED"

/-- A parsed stop event. -/
structure StopEvent where
  generationIndex : Option Nat
  guardrailDecision : GuardrailDecision
  kind : Text
  repairActionSha256 : Option Text
  resultSha256 : Text
  triggerRuleIds : List Text

/-- The index of a stop event: none, or that of an attempt. -/
def stopIndex (value : Json) (attempts : Nat) : Except Fault (Option Nat) :=
  match value with
  | .null => .ok none
  | .int n => do
    demand (0 ≤ n && n < attempts) "invalid machine evaluation ledger"
    return some n.toNat
  | _ => .error (.domain "invalid machine evaluation ledger")

/-- `parse_stop_event` -/
def parseStopEvent (value : Json) (attempts : List (Attempt C)) : Except Fault StopEvent := do
  let event ← exact value
    ["generation_index", "guardrail_decision", "kind", "repair_action_sha256", "result_sha256",
     "trigger_rule_ids"] "machine stop event"
  let index ← stopIndex (event.get "generation_index") attempts.length
  let decision ← text (event.get "guardrail_decision") "stop guardrail decision"
  let decision ← oneOf [.disabledEvaluationOnly, .notApplicable, .passed, .rejected]
    GuardrailDecision.value (.str decision) "invalid machine evaluation ledger"
  let kind ← text (event.get "kind") "machine stop kind"
  let action ← optionalSha (event.get "repair_action_sha256") "stop repair action sha256"
  let result ← sha (event.get "result_sha256") "stop result sha256"
  let rules ← distinctTexts (event.get "trigger_rule_ids") "trigger rule id"
    "invalid machine evaluation ledger"
  return ⟨index, decision, kind, action, result.value, rules⟩

/-- The document of a parsed stop event. -/
def StopEvent.toJson (event : StopEvent) : Json := .obj
  [(py "generation_index", (event.generationIndex.map fun n => Json.int n).getD .null),
   (py "guardrail_decision", .str event.guardrailDecision.value),
   (py "kind", .str event.kind),
   (py "repair_action_sha256", (event.repairActionSha256.map Json.str).getD .null),
   (py "result_sha256", .str event.resultSha256),
   (py "trigger_rule_ids", .arr (event.triggerRuleIds.map .str))]

/-! ### Stopping -/

/-- `_plain` -/
def plain (event : StopEvent) (lastIndex : Nat) : Bool :=
  event.generationIndex == some lastIndex && event.guardrailDecision == .notApplicable &&
    event.repairActionSha256 == none && event.triggerRuleIds.isEmpty

variable {C}

/-- `_early_repair`; `last` is `attempts[-1]`. -/
def earlyRepair (arm : Arm) (attempts : List (Attempt C)) (last : Attempt C) (event : StopEvent) :
    Bool :=
  let atLast := event.generationIndex == some (attempts.length - 1)
  let rules := !event.triggerRuleIds.isEmpty
  if event.kind = py "GENERATION_FAILED" then
    atLast && last.status == .generationFailed && event.guardrailDecision == .notApplicable &&
      event.repairActionSha256 == none && !rules
  else if event.kind = py "NO_ACTION_AVAILABLE" then
    event.generationIndex == none && event.guardrailDecision == .notApplicable &&
      event.repairActionSha256 == none && rules
  else if event.kind = py "UNVERIFIABLE" then
    atLast && last.status == .generated && event.guardrailDecision == .notApplicable &&
      event.repairActionSha256 == none && rules
  else if arm ≠ .fullSpecstyle then false
  else if event.kind = py "NO_IMPROVEMENT" then
    atLast && last.status == .generated && event.guardrailDecision == .passed &&
      event.repairActionSha256 == last.repairActionSha256 &&
      event.triggerRuleIds == last.triggerRuleIds && rules
  else
    event.kind == py "GUARDRAIL_REJECTED" && event.generationIndex == none &&
      event.guardrailDecision == .rejected && event.repairActionSha256 != none && rules

/-- `_valid_stop` -/
def validStop (arm : Arm) (attempts : List (Attempt C)) (last : Attempt C) (maximum : Nat)
    (event : StopEvent) : Bool :=
  let passed := attempts.any (·.qaPass)
  let isPlain := plain event (attempts.length - 1)
  let qaPassed := passed && event.kind == py "QA_PASSED" && isPlain
  let full := attempts.length == maximum && event.kind == py "BUDGET_EXHAUSTED" && isPlain
  match arm with
  | .singlePass => attempts.length == 1 && event.kind == py "SINGLE_PASS_COMPLETE" && isPlain
  | .randomRetry => qaPassed || (!passed && full)
  | .verifierBestOfK => full
  | _ =>
    qaPassed || (!passed && full) ||
      (!passed && attempts.length < maximum && earlyRepair arm attempts last event)

/-! ### The candidate -/

/-- The attempts that have an artifact. -/
def withArtifact (attempts : List (Attempt C)) : List (Attempt C) :=
  attempts.filter fun item => item.artifactSha256.isSome

/-- `float(item["utility_score"])`: `float(None)` is a `TypeError`. -/
def utilityOf (item : Attempt C) : Except Fault C.Carrier :=
  match item.utilityScore with
  | some u => .ok u
  | none => .error .type

/-- `max` of a nonempty sequence: the first of the largest. -/
def largest : C.Carrier → List C.Carrier → C.Carrier
  | best, [] => best
  | best, x :: xs => largest (if C.le x best then best else x) xs

/-- The choice of `validate_stopping` in the arm that picks the best of all:
the first attempt whose utility is the largest. -/
def bestOf (generated : List (Attempt C)) : Except Fault (Option (Attempt C)) := do
  let utilities ← generated.mapM utilityOf
  match utilities with
  | [] => return none
  | u :: us => return generated.find? fun item => item.utilityScore.any (C.same (largest u us))

/-- `validate_stopping`.  `max` of no attempt is a `ValueError`; no candidate
gets there, so it stands for a refusal. -/
def validateStopping (arm : Arm) (attempts : List (Attempt C)) (last : Attempt C)
    (candidate : Option Text) (maximum : Nat) (event : StopEvent) : Except Fault Unit := do
  demand (validStop arm attempts last maximum event) "invalid machine evaluation ledger"
  let generated := withArtifact attempts
  match arm, candidate with
  | .verifierBestOfK, none => return ()
  | .verifierBestOfK, some candidate => do
    let selected ← bestOf generated
    demand (selected.any fun item => item.artifactSha256 == some candidate)
      "invalid machine evaluation ledger"
  | _, candidate => do
    -- the first passing attempt, if there is one, is the last attempt
    demand ((attempts.findIdx? (·.qaPass)).all (· == attempts.length - 1))
      "invalid machine evaluation ledger"
    demand (candidate.all fun c => generated.getLast?.any fun item => item.artifactSha256 == some c)
      "invalid machine evaluation ledger"

end Evaluation

end SpecStyle
