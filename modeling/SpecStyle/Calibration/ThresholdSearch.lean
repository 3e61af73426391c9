/-
SpecStyle/Calibration/ThresholdSearch.lean

Threshold selection (`threshold_search.py`): a threshold is chosen on the
calibration pairs, frozen on the validation pairs, and the test pairs are held.

The decision hash of the source, which no reader of a decision uses, is left
out.
-/
import SpecStyle.Calibration.TargetCell
import Mathlib.Data.List.Sort

namespace SpecStyle

open PyLib

namespace Calibration

variable (C : Codec)

/-- `ScoredPair` -/
structure ScoredPair where
  sampleId : Text
  score : C.Carrier
  labelPositive : Bool

variable {C}

/-- `ScoredPair.__post_init__` -/
def ScoredPair.new (sampleId : Text) (score : C.Carrier) (labelPositive : Bool) :
    Except Fault (ScoredPair C) := do
  demand (sampleId != []) "invalid scored pair"
  return ⟨sampleId, score, labelPositive⟩

variable (C)

/-- A score against a threshold. -/
def passes (score threshold : C.Carrier) : Operator → Bool
  | .gte => C.le threshold score
  | .lte => C.le score threshold

/-- The four counters of `binary_rates`. -/
structure Confusion where
  tp : Nat
  fp : Nat
  tn : Nat
  fn : Nat

/-- One round of the counting loop. -/
def Confusion.add (counts : Confusion) (labelPositive pred : Bool) : Confusion :=
  match labelPositive, pred with
  | true, true => { counts with tp := counts.tp + 1 }
  | true, false => { counts with fn := counts.fn + 1 }
  | false, true => { counts with fp := counts.fp + 1 }
  | false, false => { counts with tn := counts.tn + 1 }

/-- The counters over all pairs. -/
def confusion (pairs : List (ScoredPair C)) (threshold : C.Carrier) (operator : Operator) :
    Confusion :=
  pairs.foldl (fun counts p => counts.add p.labelPositive (passes C p.score threshold operator))
    ⟨0, 0, 0, 0⟩

/-- `binary_rates` -/
def binaryRates (pairs : List (ScoredPair C)) (threshold : C.Carrier) (operator : Operator) :
    Except Fault (C.Carrier × C.Carrier) := do
  demand (!pairs.isEmpty) "invalid pairs"
  let counts := confusion C pairs threshold operator
  return (
    if counts.tp + counts.fn = 0 then C.zero else C.div counts.tp (counts.tp + counts.fn),
    if counts.fp + counts.tn = 0 then C.zero else C.div counts.fp (counts.fp + counts.tn))

/-- `0.0 <= x <= 1.0` -/
def inUnit (x : C.Carrier) : Bool := C.le C.zero x && C.le x C.one

/-- The set of the scores, each value once. -/
def distinctScores : List C.Carrier → List C.Carrier
  | [] => []
  | x :: xs => x :: (distinctScores xs).filter fun y => !C.same x y

/-- `sorted(grid, reverse=operator == "gte")`: the stricter thresholds first. -/
def strictestFirst (operator : Operator) (grid : List C.Carrier) : List C.Carrier :=
  match operator with
  | .gte => grid.insertionSort fun a b => C.le b a = true
  | .lte => grid.insertionSort fun a b => C.le a b = true

/-- The loop of `select_threshold_on_calibration`: the first threshold that
meets both targets. -/
def firstMeeting (pairs : List (ScoredPair C)) (operator : Operator) (maxFpr minTpr : C.Carrier) :
    List C.Carrier → Except Fault (Option C.Carrier)
  | [] => .ok none
  | thr :: rest => do
    let rates ← binaryRates C pairs thr operator
    if C.le minTpr rates.1 && C.le rates.2 maxFpr then return some thr
    else firstMeeting pairs operator maxFpr minTpr rest

/-- `select_threshold_on_calibration` -/
def selectThresholdOnCalibration (pairs : List (ScoredPair C)) (metricId : Text)
    (operator : Operator) (maxFpr minTpr : C.Carrier) (candidates : Option (List C.Carrier)) :
    Except Fault C.Carrier := do
  demand (!pairs.isEmpty) "invalid calibration pairs"
  demand (metricId != []) "invalid metric"
  demand (inUnit C maxFpr) "invalid max_fpr"
  demand (inUnit C minTpr) "invalid min_tpr"
  let scores := distinctScores C (pairs.map (·.score))
  let grid := candidates.getD scores
  demand (!grid.isEmpty) "invalid candidate thresholds"
  match ← firstMeeting C pairs operator maxFpr minTpr (strictestFirst C operator grid) with
  | some best => .ok best
  | none => .error (.domain "no threshold meets calibration targets")

/-- The status of a frozen threshold. -/
inductive ThresholdOutcome where
  | validationPassed | rejected
  deriving DecidableEq

def ThresholdOutcome.value : ThresholdOutcome → Text
  | .validationPassed => py "VALIDATION_PASSED"
  | .rejected => py "REJECTED"

/-- `ThresholdDecision` -/
structure ThresholdDecision where
  metricId : Text
  operator : Operator
  threshold : C.Carrier
  calibrationTpr : C.Carrier
  calibrationFpr : C.Carrier
  validationTpr : C.Carrier
  validationFpr : C.Carrier
  status : ThresholdOutcome

/-- `freeze_threshold` -/
def freezeThreshold (metricId : Text) (operator : Operator) (threshold : C.Carrier)
    (calibration validation : List (ScoredPair C)) (maxFpr minTpr : C.Carrier) :
    Except Fault (ThresholdDecision C) := do
  let cal ← binaryRates C calibration threshold operator
  let val ← binaryRates C validation threshold operator
  let status :=
    -- `a < b` of two finite numbers is the failure of `b <= a`
    if !C.le minTpr cal.1 || !C.le cal.2 maxFpr then .rejected
    else if !C.le minTpr val.1 || !C.le val.2 maxFpr then .rejected
    else .validationPassed
  return ⟨metricId, operator, threshold, cal.1, cal.2, val.1, val.2, status⟩

end Calibration

end SpecStyle
