/-
SpecStyle/Evaluation/Protocol.lean

The frozen preregistration of the five-arm evaluation (`protocol.py`): the
arms, the budget, one seed schedule for each input, and the bindings the machine
ledger is checked against; and the seal over it.

A protocol is a validated JSON object.  `Protocol` keeps the parts that the
ledger checks read; the hashes stand as they are written, since the source
validates them but compares the raw texts.
-/
import SpecStyle.Calibration.EvidenceIo

namespace SpecStyle

open PyLib Calibration

namespace Evaluation

variable (C : Codec)

/-! ### Exceptions -/

/-- `except (DomainError, KeyError, TypeError)` catches the exception. -/
def isCaught : Fault → Bool
  | .domain _ => true
  | .raised r => r.isDomain
  | .type => true
  | .key => true
  | .attribute => false

/-- `except (DomainError, KeyError, TypeError): raise DomainError(message)` -/
def catching {α : Type} (message : String) (x : Except Fault α) : Except Fault α :=
  match x with
  | .ok a => .ok a
  | .error fault => if isCaught fault then .error (.domain message) else .error fault

theorem catching_ok {α : Type} {message : String} {x : Except Fault α} {a : α} :
    catching message x = .ok a ↔ x = .ok a := by
  cases x with
  | ok b => exact Iff.rfl
  | error fault =>
    unfold catching
    simp only
    split <;> simp

/-! ### Values -/

/-- `raw.get(key)` of a computed key -/
def lookup (raw : Dict) (key : Text) : Json := (Json.field raw key).getD .null

/-- `value[key]`: only an object has text keys. -/
def subscript (value : Json) (key : Text) : Except Fault Json :=
  match value with
  | .obj fields =>
    match Json.field fields key with
    | some v => .ok v
    | none => .error .key
  | _ => .error .type

/-- The fields of a value that has been checked to be an object. -/
def objectOf : Json → Dict
  | .obj fields => fields
  | _ => []

/-- The number of a value that has been checked to be an integer. -/
def intOf : Json → Int
  | .int n => n
  | _ => 0

/-- `_optional_sha` -/
def optionalSha (value : Json) (name : String) : Except Fault (Option Text) :=
  match value with
  | .null => .ok none
  | _ => do
    let a ← sha value name
    return some a.value

/-- Texts that are pairwise different, as `_input_ids` and `_rule_ids` read them. -/
def distinctTexts (value : Json) (name message : String) : Except Fault (List Text) :=
  match value with
  | .arr items => do
    let texts ← items.mapM fun item => text item name
    demand (texts.dedup.length == texts.length) message
    return texts
  | _ => .error (.domain message)

/-! ### Time -/

/-- The number of the digits `[i, i + n)`. -/
def digitsAt (s : Text) (i n : Nat) : Nat := Json.digitsValue ((s.drop i).take n)

def daysInMonth (year month : Nat) : Nat :=
  if month = 2 then
    if year % 4 = 0 ∧ (year % 100 ≠ 0 ∨ year % 400 = 0) then 29 else 28
  else if month ∈ [4, 6, 9, 11] then 30
  else 31

/-- `datetime.strptime(s, "%Y-%m-%dT%H:%M:%SZ").strftime("%Y-%m-%dT%H:%M:%SZ") == s` -/
def isTimestamp (s : Text) : Bool :=
  let year := digitsAt s 0 4
  let month := digitsAt s 5 2
  let day := digitsAt s 8 2
  (s.map fun c => if isDigit c then 0x30 else c) == py "0000-00-00T00:00:00Z" &&
    1 ≤ year && 1 ≤ month && month ≤ 12 && 1 ≤ day && day ≤ daysInMonth year month &&
    digitsAt s 11 2 < 24 && digitsAt s 14 2 < 60 && digitsAt s 17 2 < 60

/-- `_timestamp`.  Two times of this one format are in the order of their texts. -/
def timestamp (value : Json) (name : String) : Except Fault Text := do
  let s ← text value name
  demand (isTimestamp s) ("invalid " ++ name)
  return s

/-! ### Arms -/

/-- `FORMAL_ARMS` -/
inductive Arm where
  | singlePass | randomRetry | verifierBestOfK | directedNoGuardrail | fullSpecstyle
  deriving DecidableEq

def Arm.value : Arm → Text
  | .singlePass => py "A_single_pass"
  | .randomRetry => py "B_random_retry"
  | .verifierBestOfK => py "C_verifier_best_of_k"
  | .directedNoGuardrail => py "D_directed_no_guardrail"
  | .fullSpecstyle => py "E_full_specstyle"

def formalArms : List Arm :=
  [.singlePass, .randomRetry, .verifierBestOfK, .directedNoGuardrail, .fullSpecstyle]

/-- The arms that repair: `FORMAL_ARMS[3:]` -/
def Arm.repairs : Arm → Bool
  | .directedNoGuardrail => true
  | .fullSpecstyle => true
  | _ => false

/-! ### The protocol -/

/-- A validated protocol, as the ledger checks read it. -/
structure Protocol where
  inputIds : List Text
  /-- `budget["max_generations_b_to_e"]` -/
  maximum : Nat
  bindings : Dict
  materials : Dict
  initialRequests : Dict
  seedSchedules : Dict
  strategies : Dict
  blind : Dict

/-- `protocol["seed_schedules"][input_id]` -/
def Protocol.seeds (protocol : Protocol) (inputId : Text) : List Int :=
  match lookup protocol.seedSchedules inputId with
  | .arr items => items.map intOf
  | _ => []

/-- `_validate_bindings` -/
def validateBindings (value : Json) : Except Fault Dict := do
  let names := ["compiler_sha256", "final_qa_contract_sha256", "model_supply_sha256",
    "preprocessor_sha256", "production_context_sha256", "runtime_sha256",
    "threshold_profile_sha256"]
  let bindings ← exact value names "evaluation protocol bindings"
  let _ ← names.mapM fun name => sha (bindings.get name) name
  return bindings

/-- The hashes among the strategy keys -/
def strategyHashes : List String :=
  ["a_strategy_contract_sha256", "b_strategy_contract_sha256", "c_strategy_contract_sha256",
   "c_utility_sha256", "d_strategy_contract_sha256", "e_strategy_contract_sha256"]

/-- `_validate_strategies` -/
def validateStrategies (value : Json) : Except Fault Dict := do
  let strategies ← exact value
    (strategyHashes ++ ["c_tie_break", "d_guardrail_mode", "e_guardrail_mode"])
    "evaluation strategies"
  let _ ← strategyHashes.mapM fun name => sha (strategies.get name) name
  demand
    (isText (strategies.get "c_tie_break") (py "lowest_seed_index") &&
      isText (strategies.get "d_guardrail_mode") (py "DISABLED_EVALUATION_ONLY") &&
      isText (strategies.get "e_guardrail_mode") (py "ENFORCED"))
    "invalid evaluation protocol"
  return strategies

/-- `_validate_blind` -/
def validateBlind (value : Json) : Except Fault Dict := do
  let blind ← exact value
    ["adjudication", "minimum_raters_per_artifact", "protocol_sha256",
     "randomization_protocol_sha256"] "evaluation blind protocol"
  let raters ← count (blind.get "minimum_raters_per_artifact") "minimum raters" 1
  demand (isText (blind.get "adjudication") (py "majority_boolean") && raters % 2 != 0)
    "invalid evaluation protocol"
  let _ ← sha (blind.get "protocol_sha256") "blind protocol sha256"
  let _ ← sha (blind.get "randomization_protocol_sha256") "blind randomization protocol sha256"
  return blind

/-- `_validate_statistics` -/
def validateStatistics (value : Json) (inputCount : Nat) : Except Fault Unit := do
  let stats ← exact value
    ["bootstrap_resamples", "bootstrap_seed", "confidence_level", "method", "minimum_effect",
     "multiple_comparison", "noninferiority_margin", "sample_size"] "evaluation statistics"
  let confidence ← float C (stats.get "confidence_level") "confidence level"
  let minimumEffect ← float C (stats.get "minimum_effect") "minimum effect"
  let margin ← float C (stats.get "noninferiority_margin") "noninferiority margin"
  let sampleSize ← count (stats.get "sample_size") "sample size" 1
  demand (sampleSize == inputCount) "invalid evaluation protocol"
  let _ ← count (stats.get "bootstrap_resamples") "bootstrap resamples" 1000
  let _ ← count (stats.get "bootstrap_seed") "bootstrap seed" 0
  -- `a < b` of two finite numbers is the failure of `b <= a`
  demand
    (!C.le confidence C.zero && !C.le C.one confidence && !C.le minimumEffect C.zero &&
      C.le minimumEffect C.one && !C.le margin C.zero && !C.le C.one margin &&
      isText (stats.get "method") (py "paired_percentile_bootstrap_bonferroni") &&
      isText (stats.get "multiple_comparison") (py "bonferroni_six_one_sided"))
    "invalid evaluation protocol"

/-- `type(value) is dict and set(value) == set(inputs)` -/
def keyedBy (value : Json) (inputs : List Text) : Bool :=
  match value with
  | .obj fields =>
    fields.all (fun f => inputs.contains f.1) && inputs.all fun i => fields.any fun f => f.1 == i
  | _ => false

/-- A seed: an integer that fits 63 bits. -/
def isSeed : Json → Bool
  | .int n => 0 ≤ n && n < 2 ^ 63
  | _ => false

/-- The test of one schedule in `_validate_schedules`. -/
def isSchedule (schedule : Json) (budget : Nat) : Bool :=
  match schedule with
  | .arr items =>
    items.length == budget && items.all isSeed &&
      (items.map intOf).dedup.length == items.length
  | _ => false

/-- `_validate_schedules` -/
def validateSchedules (value : Json) (inputs : List Text) (budget : Nat) : Except Fault Dict := do
  demand (keyedBy value inputs) "invalid evaluation protocol"
  demand (inputs.all fun i => isSchedule (lookup (objectOf value) i) budget)
    "invalid evaluation protocol"
  return objectOf value

/-- `_validate_initial_requests` -/
def validateInitialRequests (value : Json) (inputs : List Text) : Except Fault Dict := do
  demand (keyedBy value inputs) "invalid evaluation protocol"
  let _ ← inputs.mapM fun i => sha (lookup (objectOf value) i) "initial request sha256"
  return objectOf value

/-- `evidence_class` -/
inductive EvidenceClass where
  | formal | testOnly

def EvidenceClass.value : EvidenceClass → Text
  | .formal => py "FORMAL"
  | .testOnly => py "TEST_ONLY"

/-- `_PROTOCOL_KEYS` -/
def protocolKeys : List String :=
  ["schema_version", "study_id", "evidence_class", "dataset_manifest_sha256",
   "generation_materials_sha256s", "input_ids", "initial_request_sha256s", "bindings", "arms",
   "budget", "seed_schedules", "strategies", "blind", "statistics", "missingness_rule"]

/-- `_validate_protocol`, with the protocol it has validated -/
def validateProtocol (document : Dict) : Except Fault Protocol := do
  let raw ← exact (.obj document) protocolKeys "evaluation protocol"
  let inputIds ← distinctTexts (raw.get "input_ids") "evaluation input id"
    "invalid evaluation protocol"
  demand (!inputIds.isEmpty) "invalid evaluation protocol"
  let budget ← exact (raw.get "budget") ["a_generations", "max_generations_b_to_e"]
    "evaluation budget"
  let maximum ← count (budget.get "max_generations_b_to_e") "generation budget" 1
  demand (isText (raw.get "schema_version") (py "specstyle.evaluation.five_arm_protocol.v1"))
    "invalid evaluation protocol"
  let _ ← oneOf [.formal, .testOnly] EvidenceClass.value (raw.get "evidence_class")
    "invalid evaluation protocol"
  demand
    (isTexts (raw.get "arms") (formalArms.map Arm.value) &&
      Json.same C.toFloats (budget.get "a_generations") (.int 1) &&
      isText (raw.get "missingness_rule")
        (py "all_inputs_denominator_labels_required_for_artifacts"))
    "invalid evaluation protocol"
  let _ ← text (raw.get "study_id") "evaluation study id"
  let _ ← sha (raw.get "dataset_manifest_sha256") "dataset manifest sha256"
  let bindings ← validateBindings (raw.get "bindings")
  let materials ← validateInitialRequests (raw.get "generation_materials_sha256s") inputIds
  let initialRequests ← validateInitialRequests (raw.get "initial_request_sha256s") inputIds
  let seedSchedules ← validateSchedules (raw.get "seed_schedules") inputIds maximum
  let strategies ← validateStrategies (raw.get "strategies")
  let blind ← validateBlind (raw.get "blind")
  validateStatistics C (raw.get "statistics") inputIds.length
  return ⟨inputIds, maximum, bindings, materials, initialRequests, seedSchedules, strategies,
    blind⟩

/-- `load_protocol` -/
def loadProtocol (data : Bytes) : Except Fault Protocol :=
  catching "invalid evaluation protocol" do
    let document ← loadCanonical C data
    validateProtocol C document

/-- `load_sealed_protocol` -/
def loadSealedProtocol (data : Bytes) : Except Fault Dict :=
  catching "invalid sealed evaluation protocol" do
    let document ← loadCanonical C data
    let hashes := ["protocol_sha256", "production_approval_sha256", "production_context_sha256",
      "repo_sha", "threshold_profile_sha256"]
    let raw ← exact (.obj document) (hashes ++ ["schema_version", "sealed_at", "trust_level"])
      "sealed protocol"
    demand (isText (raw.get "schema_version") (py "specstyle.evaluation.sealed_protocol.v1"))
      "invalid sealed evaluation protocol"
    let _ ← hashes.mapM fun name => sha (raw.get name) name
    demand (isText (raw.get "trust_level") (py "LOCAL_PROCESS_ONLY"))
      "invalid sealed evaluation protocol"
    let _ ← timestamp (raw.get "sealed_at") "protocol seal time"
    return raw

/-! ### What a protocol promises -/

/-- An input has a schedule of the whole budget, each seed once. -/
theorem validateSchedules_ok {value : Json} {inputs : List Text} {budget : Nat} {schedules : Dict}
    (h : validateSchedules value inputs budget = .ok schedules) {i : Text} (hi : i ∈ inputs) :
    isSchedule (lookup schedules i) budget = true := by
  obtain ⟨-, h⟩ := check_ok_iff.mp h
  obtain ⟨hall, h⟩ := check_ok_iff.mp h
  rw [demand_ok, List.all_eq_true] at hall
  cases h
  exact hall i hi

end Evaluation

end SpecStyle
