/-
SpecStyle/Spec/Replay.lean

The assessment of a replay with the same input, from the hashes of two runs.

A difference of the environment rejects the replay if the specification is
strict about it, and is a note otherwise; any other difference rejects it.
-/
import SpecStyle.Spec.Models

namespace SpecStyle

open PyLib

namespace Spec

/-- `ReplayStatus` of the specification. -/
inductive ReplayStatus where
  | exact | compatible | rejected
  deriving DecidableEq

/-- `ReplayAssessment`, in the mode `same_input`. -/
structure ReplayAssessment where
  status : ReplayStatus
  reasons : List Text

/-- What a request says about one run. -/
structure ReplayHashes where
  compiledSpecHash : Sha256
  inputAssetHash : Sha256
  styleReferenceHashes : List Sha256
  modelPinsFingerprint : Sha256
  seed : Nat
  parameterFingerprint : Sha256
  environmentFingerprint : Sha256
  deriving DecidableEq

/-- `SameInputReplayRequest`, its fields and those named `candidate_` together. -/
structure SameInputReplayRequest where
  sourceSpec : StyleSpec
  baseline : ReplayHashes
  candidate : ReplayHashes

/-- `_environment_policy` -/
def StyleSpec.environmentPolicy : StyleSpec → EnvironmentPolicy
  | .v1 _ => .advisory
  | .v11 s => s.replayContract.environmentPolicy

/-- The reasons to reject, but for the environment. -/
def SameInputReplayRequest.mismatches (req : SameInputReplayRequest) : List Text :=
  let a := req.baseline
  let b := req.candidate
  (if a.compiledSpecHash ≠ b.compiledSpecHash then [py "compiled_spec_hash_mismatch"] else []) ++
  (if a.inputAssetHash ≠ b.inputAssetHash then [py "input_asset_hash_mismatch"] else []) ++
  (if a.styleReferenceHashes ≠ b.styleReferenceHashes then
    [py "style_reference_hashes_mismatch"] else []) ++
  (if a.modelPinsFingerprint ≠ b.modelPinsFingerprint then [py "model_pins_mismatch"] else []) ++
  (if a.seed ≠ b.seed then [py "seed_mismatch"] else []) ++
  (if a.parameterFingerprint ≠ b.parameterFingerprint then
    [py "parameter_fingerprint_mismatch"] else [])

/-- `assess_same_input_replay` -/
def assessSameInputReplay (req : SameInputReplayRequest) : ReplayAssessment :=
  let envEqual := req.baseline.environmentFingerprint = req.candidate.environmentFingerprint
  let policy := req.sourceSpec.environmentPolicy
  let reasons := req.mismatches ++
    if ¬ envEqual ∧ policy = .strict then [py "environment_fingerprint_mismatch"] else []
  if reasons ≠ [] then ⟨.rejected, reasons⟩
  else if ¬ envEqual ∧ policy = .advisory then
    ⟨.compatible, [py "environment_fingerprint_differs"]⟩
  else ⟨.exact, []⟩

variable {req : SameInputReplayRequest}

/-- Runs that differ in the environment alone have no other mismatch. -/
theorem mismatches_of_same
    (h : req.candidate = { req.baseline with
      environmentFingerprint := req.candidate.environmentFingerprint }) : req.mismatches = [] := by
  unfold SameInputReplayRequest.mismatches
  rw [h]
  simp

/-- **Runs that differ in the environment at most**: the environment decides. -/
theorem assessSameInputReplay_of_same
    (h : req.candidate = { req.baseline with
      environmentFingerprint := req.candidate.environmentFingerprint })
    (hpolicy : req.baseline.environmentFingerprint ≠ req.candidate.environmentFingerprint →
      req.sourceSpec.environmentPolicy = .advisory) :
    (assessSameInputReplay req).status =
      if req.baseline.environmentFingerprint = req.candidate.environmentFingerprint then .exact
      else .compatible := by
  unfold assessSameInputReplay
  simp only
  rw [mismatches_of_same h]
  by_cases he : req.baseline.environmentFingerprint = req.candidate.environmentFingerprint
  · simp [he]
  · simp [he, hpolicy he]

end Spec

end SpecStyle
