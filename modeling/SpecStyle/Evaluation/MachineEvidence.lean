/-
SpecStyle/Evaluation/MachineEvidence.lean

The machine ledger of a five-arm evaluation (`load_machine_evidence` of
`evidence.py`, with `blind_assignment.py`).

A ledger has one record for each input and arm, in the order of the protocol.
A record is read in steps: its attempts, threaded through the seed schedule
(`attemptStep`), its terminal, its stop event, its bindings, and the law of
stopping.  `ReadRecord` keeps what has been read of a record besides the
`MachineArmRecord` the source returns.

That the recorded GPU time is close to the sum over the attempts
(`math.isclose`) is a parameter.
-/
import SpecStyle.Evaluation.StopContract

namespace SpecStyle

open PyLib Calibration

namespace Evaluation

variable (C : Codec)

/-! ### Attempts -/

/-- `_ATTEMPT_KEYS` -/
def attemptKeys : List String :=
  ["artifact_sha256", "generation_index", "generation_materials_sha256", "generation_status",
   "gpu_seconds", "guardrail_decision", "model_supply_sha256", "qa_pass", "qa_result_sha256",
   "repair_action_sha256", "request_sha256", "runtime_sha256", "seed", "seed_reason",
   "trigger_rule_ids", "utility_contract_sha256", "utility_result_sha256", "utility_score"]

/-- `_nonnegative_float` -/
def nonnegativeFloat (value : Json) (name : String) : Except Fault C.Carrier := do
  let result ← float C value name
  demand (C.le C.zero result) ("invalid " ++ name)
  return result

/-- `type(value) is bool` -/
def boolean (value : Json) : Except Fault Bool :=
  match value with
  | .bool b => .ok b
  | _ => .error (.domain "invalid machine evaluation ledger")

/-- The keyword arguments of `_attempts`, which hold for the whole record. -/
structure RecordBindings where
  arm : Arm
  seeds : List Int
  initialRequestSha256 : Json
  generationMaterialsSha256 : Json
  modelSha256 : Json
  runtimeSha256 : Json
  utilityContractSha256 : Json

/-- `_expected_seed`: the seed of an attempt, and the next unused seed. -/
def expectedSeed (arm : Arm) (index : Nat) (reason : Json) (seeds : List Int) (currentSeed : Int)
    (nextSeed : Nat) : Except Fault (Int × Nat) :=
  let refused : Except Fault (Int × Nat) := .error (.domain "invalid machine evaluation ledger")
  if index = 0 then
    if isText reason (py "INITIAL") then .ok (seeds.getD 0 0, nextSeed) else refused
  else
    match arm with
    | .singlePass => refused
    | .randomRetry =>
      if isText reason (py "RANDOM_RETRY") then .ok (seeds.getD index 0, nextSeed) else refused
    | .verifierBestOfK =>
      if isText reason (py "VERIFIER_CANDIDATE") then .ok (seeds.getD index 0, nextSeed)
      else refused
    | _ =>
      if isText reason (py "FROZEN_REPAIR") then .ok (currentSeed, nextSeed)
      else if isText reason (py "SAMPLING_DEFECT_RETRY") && nextSeed < seeds.length then
        .ok (seeds.getD nextSeed 0, nextSeed + 1)
      else refused

/-- `value == text` against a value of the protocol -/
def textIs (text : Text) (value : Json) : Bool := isText value text

/-- `_validate_attempt_strategy`, with the utility score it has checked -/
def validateAttemptStrategy (attempt : Dict) (generated : Bool) (arm : Arm) (index : Nat)
    (utilityContract : Json) : Except Fault (Option C.Carrier × List Text × Option Text) := do
  let rules ← distinctTexts (attempt.get "trigger_rule_ids") "trigger rule id"
    "invalid machine evaluation ledger"
  let action ← optionalSha (attempt.get "repair_action_sha256") "repair action sha256"
  let utilityResult ← optionalSha (attempt.get "utility_result_sha256") "utility result sha256"
  let utilityBinding ← optionalSha (attempt.get "utility_contract_sha256") "utility contract sha256"
  let utility ← utilityScore utilityResult utilityBinding
  let decision := attempt.get "guardrail_decision"
  demand
    (if index = 0 ∨ !arm.repairs then
      rules.isEmpty && action.isNone && isText decision (py "NOT_APPLICABLE")
    else
      isText decision
        (if arm = .directedNoGuardrail then py "DISABLED_EVALUATION_ONLY" else py "PASSED") &&
        !rules.isEmpty && action.isSome)
    "invalid machine evaluation ledger"
  return (utility, rules, action)
where
  utilityScore (utilityResult utilityBinding : Option Text) : Except Fault (Option C.Carrier) :=
    if arm = .verifierBestOfK ∧ generated then scored utilityResult utilityBinding
    else unscored utilityResult utilityBinding
  /-- An attempt with a finite utility under the frozen contract. -/
  scored (utilityResult utilityBinding : Option Text) : Except Fault (Option C.Carrier) := do
    demand ((utilityBinding.any fun b => textIs b utilityContract) && utilityResult.isSome)
      "invalid machine evaluation ledger"
    let u ← float C (attempt.get "utility_score") "utility score"
    return some u
  /-- An attempt without a utility. -/
  unscored (utilityResult utilityBinding : Option Text) : Except Fault (Option C.Carrier) := do
    demand (isNull (attempt.get "utility_score") && utilityResult.isNone && utilityBinding.isNone)
      "invalid machine evaluation ledger"
    return none
  isNull : Json → Bool
    | .null => true
    | _ => false

/-- What the loop of `_attempts` keeps. -/
structure AttemptLoop where
  currentSeed : Int
  nextSeed : Nat
  parsed : List (Attempt C)

/-- One round of the loop of `_attempts`. -/
def attemptStep (b : RecordBindings) (loop : AttemptLoop C) (value : Json) :
    Except Fault (AttemptLoop C) := do
  let index := loop.parsed.length
  let attempt ← exact value attemptKeys "machine generation attempt"
  let gpuSeconds ← nonnegativeFloat C (attempt.get "gpu_seconds") "attempt GPU seconds"
  let seeds ← expectedSeed b.arm index (attempt.get "seed_reason") b.seeds loop.currentSeed
    loop.nextSeed
  let generationIndex ← count (attempt.get "generation_index") "generation index" 0
  let seed ← count (attempt.get "seed") "generation seed" 0
  let model ← sha (attempt.get "model_supply_sha256") "model supply sha256"
  let runtime ← sha (attempt.get "runtime_sha256") "runtime sha256"
  let materials ← sha (attempt.get "generation_materials_sha256") "generation materials sha256"
  demand
    (generationIndex == index && seed == seeds.1 && textIs model.value b.modelSha256 &&
      textIs runtime.value b.runtimeSha256 && textIs materials.value b.generationMaterialsSha256)
    "invalid machine evaluation ledger"
  let qaPass ← boolean (attempt.get "qa_pass")
  let _ ← sha (attempt.get "request_sha256") "generation request sha256"
  demand (index != 0 || textIs (textOf (attempt.get "request_sha256")) b.initialRequestSha256)
    "invalid machine evaluation ledger"
  let artifact ← optionalSha (attempt.get "artifact_sha256") "attempt artifact sha256"
  let qaResult ← optionalSha (attempt.get "qa_result_sha256") "QA result sha256"
  let status ← oneOf [.generated, .generationFailed] GenerationStatus.value
    (attempt.get "generation_status") "invalid machine evaluation ledger"
  let generated := status == .generated
  demand (generated == (artifact.isSome && qaResult.isSome)) "invalid machine evaluation ledger"
  demand (generated || !qaPass) "invalid machine evaluation ledger"
  let (utility, rules, action) ←
    validateAttemptStrategy C attempt generated b.arm index b.utilityContractSha256
  -- the document keeps the artifact and the action as they are written
  let parsed : Attempt C := {
    raw := attempt
    seed := seed
    status := status
    artifactSha256 := artifact.map fun _ => textOf (attempt.get "artifact_sha256")
    qaPass := qaPass
    utilityScore := utility
    gpuSeconds := gpuSeconds
    repairActionSha256 := action.map fun _ => textOf (attempt.get "repair_action_sha256")
    triggerRuleIds := rules }
  return ⟨seeds.1, seeds.2, loop.parsed ++ [parsed]⟩

/-- `_attempts` -/
def readAttempts (b : RecordBindings) (values : Json) : Except Fault (List (Attempt C)) :=
  match values with
  | .arr items => do
    demand (!items.isEmpty && items.length ≤ b.seeds.length) "invalid machine evaluation ledger"
    let loop ← items.foldlM (attemptStep C b) ⟨b.seeds.getD 0 0, 1, []⟩
    return loop.parsed
  | _ => .error (.domain "invalid machine evaluation ledger")

/-! ### Terminals -/

/-- `_TERMINALS` -/
inductive MachineTerminal where
  | approved | rejected | manualReview | failed
  deriving DecidableEq

def MachineTerminal.value : MachineTerminal → Text
  | .approved => py "APPROVED"
  | .rejected => py "REJECTED"
  | .manualReview => py "MANUAL_REVIEW"
  | .failed => py "FAILED"

/-- `[0-9a-f]` -/
def isBlindDigit (c : CodePoint) : Bool := isLowerHex c

/-- `_BLIND_ID.fullmatch` -/
def isBlindId (s : Text) : Bool :=
  s.take 6 == py "blind-" && s.length == 38 && (s.drop 6).all isBlindDigit &&
    s[18]? == some 0x34 && (s[22]?.any fun c => (py "89ab").contains c)

/-- The blind id of a record. -/
def blindArtifactId (value : Json) : Except Fault (Option Text) :=
  match value with
  | .null => .ok none
  | _ => do
    let id ← text value "blind artifact id"
    demand (isBlindId id) "invalid machine evaluation ledger"
    return some id

variable {C}

/-- The attempt a terminal is about: the first that has the candidate as its
artifact. -/
def selectedAttempt (attempts : List (Attempt C)) (candidate : Option Text) :
    Option (Attempt C) :=
  attempts.find? fun item => item.artifactSha256 == candidate

/-- A checked terminal. -/
structure TerminalRead where
  terminal : MachineTerminal
  candidate : Option Text
  blindId : Option Text
  initialPass : Bool
  finalPass : Bool

/-- `_validate_terminal` -/
def validateTerminal (raw : Dict) (attempts : List (Attempt C)) (reasons : List Text) :
    Except Fault TerminalRead := do
  let candidateSha256 ← optionalSha (raw.get "candidate_sha256") "candidate sha256"
  let blindId ← blindArtifactId (raw.get "blind_artifact_id")
  let finalPass ← boolean (raw.get "final_machine_pass")
  let initialPass ← boolean (raw.get "initial_machine_pass")
  let terminal ← oneOf [.approved, .rejected, .manualReview, .failed] MachineTerminal.value
    (raw.get "machine_terminal") "invalid machine evaluation ledger"
  let approved := terminal == .approved
  let hashes := attempts.filterMap (·.artifactSha256)
  let selected := selectedAttempt attempts candidateSha256
  demand
    (finalPass == approved && candidateSha256.isNone == blindId.isNone &&
      candidateSha256.all hashes.contains && hashes.isEmpty == (terminal == .failed) &&
      candidateSha256.isNone == hashes.isEmpty &&
      (candidateSha256.isNone || selected.isSome) &&
      (selected.all fun item => item.qaPass == approved) && (approved == reasons.isEmpty) &&
      (attempts.head?.all fun first => initialPass == first.qaPass))
    "invalid machine evaluation ledger"
  return ⟨terminal, candidateSha256, blindId, initialPass, finalPass⟩

/-! ### Records -/

/-- `_RECORD_KEYS` -/
def recordKeys : List String :=
  ["arm", "attempts", "blind_artifact_id", "candidate_sha256", "failure_reasons",
   "final_machine_pass", "final_qa_contract_sha256", "generations_used", "gpu_seconds",
   "initial_machine_pass", "input_id", "machine_terminal", "observed_at", "stop_event",
   "strategy_contract_sha256", "strategy_trace_sha256"]

variable (C)

/-- `MachineArmRecord` -/
structure MachineArmRecord where
  inputId : Text
  arm : Arm
  terminal : MachineTerminal
  candidateSha256 : Option Text
  blindArtifactId : Option Text
  generationsUsed : Nat
  gpuSeconds : C.Carrier
  initialMachinePass : Bool
  finalMachinePass : Bool

/-- A record with the attempts and the stop event it has been read from. -/
structure ReadRecord where
  record : MachineArmRecord C
  attempts : List (Attempt C)
  stopEvent : StopEvent

/-- `_strategy_contract` -/
def strategyContract (protocol : Protocol) (arm : Arm) : Json :=
  protocol.strategies.get
    (match arm with
      | .singlePass => "a_strategy_contract_sha256"
      | .randomRetry => "b_strategy_contract_sha256"
      | .verifierBestOfK => "c_strategy_contract_sha256"
      | .directedNoGuardrail => "d_strategy_contract_sha256"
      | .fullSpecstyle => "e_strategy_contract_sha256")

variable {C} in
/-- The decision of a record, as it is hashed. -/
def decisionJson (terminal : TerminalRead) (reasons : List Text) (event : StopEvent) : Json := .obj
  [(py "candidate_sha256", (terminal.candidate.map Json.str).getD .null),
   (py "failure_reasons", .arr (reasons.map .str)),
   (py "machine_terminal", .str terminal.terminal.value),
   (py "stop_event", event.toJson)]

/-- `_strategy_trace_sha256` -/
def strategyTraceSha256 (arm : Arm) (contract : Json) (attempts : List (Attempt C))
    (decision : Json) : Except Fault Sha256 := do
  let trace ← canonicalJson C (.obj
    [(py "arm", .str arm.value), (py "strategy_contract_sha256", contract),
     (py "attempts", .arr (attempts.map fun item => .obj item.raw)), (py "decision", decision)])
  evidenceSha256 C trace

/-- `protocol["..."][input_id]` and the bindings, as `_attempts` takes them -/
def Protocol.recordBindings (protocol : Protocol) (inputId : Text) (arm : Arm) : RecordBindings where
  arm := arm
  seeds := protocol.seeds inputId
  initialRequestSha256 := lookup protocol.initialRequests inputId
  generationMaterialsSha256 := lookup protocol.materials inputId
  modelSha256 := protocol.bindings.get "model_supply_sha256"
  runtimeSha256 := protocol.bindings.get "runtime_sha256"
  utilityContractSha256 := protocol.strategies.get "c_utility_sha256"

/-- `_machine_record`.  `close total parts` is `math.isclose(total, sum(parts),
rel_tol=0.0, abs_tol=1e-9)`. -/
def machineRecord (close : C.Carrier → List C.Carrier → Bool) (protocol : Protocol)
    (sealedAt : Text) (value : Json) (inputId : Text) (arm : Arm) :
    Except Fault (ReadRecord C) := do
  let raw ← exact value recordKeys "machine arm record"
  let contract := strategyContract protocol arm
  let attempts ← readAttempts C (protocol.recordBindings inputId arm) (raw.get "attempts")
  let reasons ← distinctTexts (raw.get "failure_reasons") "machine failure reason"
    "invalid machine evaluation ledger"
  let terminal ← validateTerminal raw attempts reasons
  let stopEvent ← parseStopEvent C (raw.get "stop_event") attempts
  let generations ← count (raw.get "generations_used") "generations used" 1
  let gpuSeconds ← nonnegativeFloat C (raw.get "gpu_seconds") "record GPU seconds"
  demand
    (isText (raw.get "input_id") inputId && isText (raw.get "arm") arm.value &&
      generations == attempts.length && generations ≤ protocol.maximum &&
      close gpuSeconds (attempts.map (·.gpuSeconds)) &&
      Json.same C.toFloats (raw.get "final_qa_contract_sha256")
        (protocol.bindings.get "final_qa_contract_sha256"))
    "invalid machine evaluation ledger"
  let observedAt ← timestamp (raw.get "observed_at") "machine observation time"
  demand (sealedAt ≤ observedAt) "invalid machine evaluation ledger"
  let trace ← strategyTraceSha256 C arm contract attempts (decisionJson terminal reasons stopEvent)
  demand
    (Json.same C.toFloats (raw.get "strategy_contract_sha256") contract &&
      isText (raw.get "strategy_trace_sha256") trace.value)
    "invalid machine evaluation ledger"
  match attempts.getLast? with
  | none => .error (.domain "invalid machine evaluation ledger")
  | some last => do
    validateStopping arm attempts last terminal.candidate protocol.maximum stopEvent
    return {
      record := ⟨inputId, arm, terminal.terminal, terminal.candidate, terminal.blindId, generations,
        gpuSeconds, terminal.initialPass, terminal.finalPass⟩
      attempts := attempts
      stopEvent := stopEvent }

/-! ### The ledger -/

/-- `validate_blind_assignment` -/
def validateBlindAssignment (ledger : Dict) (protocol : Protocol)
    (assignments : List (Text × Text)) (latestObservedAt : Text) : Except Fault Unit := do
  let receipt ← exact (ledger.get "blind_assignment_receipt")
    ["issued_at", "mapping_sha256", "presentation_order_sha256", "randomization_protocol_sha256",
     "randomizer_id", "schema_version", "trust_level"] "blind assignment receipt"
  match ledger.get "blind_presentation_order" with
  | .arr items => do
    let presentation ← items.mapM fun item => text item "blind presentation id"
    let order := assignments.map (·.2)
    let mapping ← canonicalJson C (.arr (assignments.map fun a =>
      .obj [(py "artifact_sha256", .str a.1), (py "blind_artifact_id", .str a.2)]))
    let presented ← canonicalJson C (.arr (presentation.map .str))
    demand
      (isText (receipt.get "schema_version")
          (py "specstyle.evaluation.blind_assignment_receipt.v1") &&
        isText (receipt.get "trust_level") (py "UNVERIFIED_EXTERNAL_RANDOMIZER") &&
        Json.same C.toFloats (receipt.get "randomization_protocol_sha256")
          (protocol.blind.get "randomization_protocol_sha256") &&
        isText (receipt.get "mapping_sha256") (C.hashBytes mapping).value &&
        isText (receipt.get "presentation_order_sha256") (C.hashBytes presented).value)
      "invalid machine evaluation ledger"
    let issuedAt ← timestamp (receipt.get "issued_at") "blind assignment time"
    demand
      (latestObservedAt ≤ issuedAt && presentation.length == order.length &&
        presentation.all order.contains && order.all presentation.contains &&
        (order.length ≤ 1 || presentation != order))
      "invalid machine evaluation ledger"
    let _ ← text (receipt.get "randomizer_id") "blind randomizer id"
  | _ => .error (.domain "invalid machine evaluation ledger")

/-- `EvaluationEvidence`, with what has been read of each record -/
structure EvaluationEvidence where
  protocol : Protocol
  sealed : Dict
  records : List (ReadRecord C)
  latestObservedAt : Text

/-- `[(item, arm) for item in protocol["input_ids"] for arm in FORMAL_ARMS]` -/
def Protocol.slots (protocol : Protocol) : List (Text × Arm) :=
  protocol.inputIds.flatMap fun item => formalArms.map fun arm => (item, arm)

/-- The time in `value["observed_at"]` -/
def observedAt (value : Json) : Except Fault Text := do
  let time ← subscript value (py "observed_at")
  timestamp time "machine observation time"

/-- `load_machine_evidence` -/
def loadMachineEvidence (close : C.Carrier → List C.Carrier → Bool)
    (protocolData sealedData ledgerData : Bytes) : Except Fault (EvaluationEvidence C) :=
  catching "invalid machine evaluation ledger" do
    let protocol ← loadProtocol C protocolData
    let sealed ← loadSealedProtocol C sealedData
    let protocolSha256 ← evidenceSha256 C protocolData
    demand (isText (sealed.get "protocol_sha256") protocolSha256.value)
      "invalid machine evaluation ledger"
    let document ← loadCanonical C ledgerData
    let ledger ← exact (.obj document)
      ["blind_assignment_receipt", "blind_presentation_order", "schema_version",
       "sealed_protocol_sha256", "profile", "records", "execution_trust"]
      "machine evaluation ledger"
    let sealedSha256 ← evidenceSha256 C sealedData
    match ledger.get "records" with
    | .arr values => do
      demand
        (isText (ledger.get "schema_version") (py "specstyle.evaluation.machine_ledger.v1") &&
          isText (ledger.get "sealed_protocol_sha256") sealedSha256.value &&
          isText (ledger.get "profile") (py "production") &&
          isText (ledger.get "execution_trust") (py "UNVERIFIED_EXTERNAL_EXECUTOR") &&
          values.length == protocol.slots.length &&
          Json.same C.toFloats (sealed.get "production_context_sha256")
            (protocol.bindings.get "production_context_sha256") &&
          Json.same C.toFloats (sealed.get "threshold_profile_sha256")
            (protocol.bindings.get "threshold_profile_sha256"))
        "invalid machine evaluation ledger"
      let sealedAt ← timestamp (sealed.get "sealed_at") "protocol seal time"
      let times ← values.mapM observedAt
      let latest := times.foldl max []
      let records ← (values.zip protocol.slots).mapM fun p =>
        machineRecord C close protocol sealedAt p.1 p.2.1 p.2.2
      let blindIds := records.filterMap (·.record.blindArtifactId)
      demand (blindIds.dedup.length == blindIds.length) "invalid machine evaluation ledger"
      let assignments := records.filterMap fun r =>
        r.record.candidateSha256.bind fun c => r.record.blindArtifactId.map fun b => (c, b)
      validateBlindAssignment C ledger protocol assignments latest
      return ⟨protocol, sealed, records, latest⟩
    | _ => .error (.domain "invalid machine evaluation ledger")

end Evaluation

end SpecStyle
