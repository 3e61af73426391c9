/-
SpecStyle/Workflow/ProductionReplay.lean

Evidence of production runs, and the assessment of one run as a replay of
another.

Scores and tolerances are exact rational numbers.  The status is symmetric in
the two runs (`status_comm`): the identities are compared by equality, and a
metric by the distance of its scores.  Raising the tolerance of a metric in
both never rejects a replay (`not_rejected_of_raised`).  Runs whose
generation fingerprints do not collide and that are assessed as exact or
compatible are assessed alike from their specification and hashes
(`assessSameInputReplay_of_accepted`).
-/
import SpecStyle.Spec.CompilerGates
import SpecStyle.Spec.Replay
import SpecStyle.Generation.Requests
import SpecStyle.Verification.RuleModels
import Mathlib.Data.List.Forall2
import Mathlib.Data.Rat.Defs
import Mathlib.Algebra.Order.Field.Basic
import Mathlib.Algebra.Order.Field.Rat
import Mathlib.Algebra.Order.AbsoluteValue.Basic

namespace SpecStyle

open PyLib

/-! ### Evidence -/

/-- `MetricLevel` -/
inductive MetricLevel where
  | l2 | l3
  deriving DecidableEq

def MetricLevel.value : MetricLevel → Text
  | .l2 => py "L2"
  | .l3 => py "L3"

/-- `ReplayMetricObservation.key` -/
structure MetricKey where
  level : MetricLevel
  ruleId : RuleId
  metricId : Identifier
  deriving DecidableEq

/-- `ReplayMetricObservation` -/
structure ReplayMetricObservation where
  key : MetricKey
  status : RuleStatus
  score : Option ℚ
  tolerance : ℚ
  bounded : 0 ≤ tolerance ∧ tolerance ≤ 1

/-- The fields of `ProductionReplayEvidence`. -/
structure ReplayEvidenceFields where
  jobId : JobId
  bundleName : Identifier
  bundleSha256 : Sha256
  artifactSha256 : Sha256
  formFingerprint : Sha256
  compiledSpecHash : Sha256
  graphFingerprint : Sha256
  modelPinsFingerprint : Sha256
  generationFingerprint : Sha256
  requiredGateFingerprint : Sha256
  requiredGateStateFingerprint : Sha256
  routeFingerprint : Sha256
  environmentFingerprint : Sha256
  environmentPolicy : EnvironmentPolicy
  variationIndex : Nat
  seed : Nat
  metrics : List ReplayMetricObservation
  l3Status : L3PlanStatus
  l3Reason : Option Text

/-- `ProductionReplayEvidence.__post_init__` -/
def ReplayEvidenceFields.valid (f : ReplayEvidenceFields) : Bool :=
  decide (f.metrics.map (·.key)).Nodup && f.variationIndex < 2 ^ 31 && f.seed < 2 ^ 63 &&
    decide (f.l3Status = .applicable) = f.l3Reason.isNone && f.l3Reason.all (!·.isEmpty)

/-- `ProductionReplayEvidence` -/
structure ProductionReplayEvidence extends ReplayEvidenceFields where
  valid : toReplayEvidenceFields.valid = true

/-- `ProductionReplayEvidence(...)` -/
def ProductionReplayEvidence.new (f : ReplayEvidenceFields) :
    Except Raised ProductionReplayEvidence :=
  if h : f.valid = true then .ok ⟨f, h⟩
  else .error (.domain "invalid production replay evidence")

/-! ### Assessment -/

/-- `ReplayStatus` of the workflow. -/
inductive ReplayStatus where
  | exact | compatible | rejected | unverifiable
  deriving DecidableEq

/-- `ReplayMetricDelta` -/
structure ReplayMetricDelta where
  key : MetricKey
  baseline : ℚ
  candidate : ℚ
  delta : ℚ
  tolerance : ℚ

/-- `ProductionReplayAssessment`, in the mode `same_input`. -/
structure ProductionReplayAssessment where
  status : ReplayStatus
  reasons : List Text
  metrics : List ReplayMetricDelta
  l3Status : L3PlanStatus
  artifactHashEqual : Bool

section Assessment

variable {α : Type} [DecidableEq α]

/-- `getattr(baseline, field) != getattr(candidate, field)` -/
def differs (field : ProductionReplayEvidence → α) (a b : ProductionReplayEvidence) : Bool :=
  field a ≠ field b

/-- The field is the same, and must not be. -/
def reused (field : ProductionReplayEvidence → α) (a b : ProductionReplayEvidence) : Bool :=
  field a = field b

/-- `_IDENTITY_COMPARISONS`, and the comparisons of `_identity_reasons` after
them. -/
def identityComparisons :
    List ((ProductionReplayEvidence → ProductionReplayEvidence → Bool) × String) :=
  [(differs (·.formFingerprint), "input_form_fingerprint_mismatch"),
    (differs (·.compiledSpecHash), "compiled_spec_hash_mismatch"),
    (differs (·.graphFingerprint), "compiled_graph_mismatch"),
    (differs (·.modelPinsFingerprint), "model_pins_mismatch"),
    (differs (·.generationFingerprint), "generation_fingerprint_mismatch"),
    (differs (·.requiredGateFingerprint), "required_gate_mismatch"),
    (differs (·.requiredGateStateFingerprint), "required_gate_state_mismatch"),
    (differs (·.routeFingerprint), "route_mismatch"),
    (differs (·.variationIndex), "variation_index_mismatch"),
    (differs (·.seed), "seed_mismatch"),
    (reused (·.jobId), "job_identity_reused"),
    (reused (·.bundleName), "bundle_identity_reused"),
    (differs (·.environmentPolicy), "environment_policy_mismatch"),
    (differs (fun e => (e.l3Status, e.l3Reason)), "l3_contract_mismatch")]

/-- `_identity_reasons` -/
def identityReasons (a b : ProductionReplayEvidence) : List Text :=
  (identityComparisons.filter fun c => c.1 a b).map fun c => py c.2

/-- What the loop of `_metric_assessment` adds for one key. -/
structure MetricOutcome where
  rejected : List Text
  unverifiable : List Text
  deltas : List ReplayMetricDelta

/-- `":".join(key[:2])`, behind a reason. -/
def MetricKey.label (key : MetricKey) (reason : String) : Text :=
  py reason ++ py ":" ++ key.level.value ++ py ":" ++ key.ruleId.value

/-- One round of the loop of `_metric_assessment`. -/
def compareMetric (key : MetricKey) (before after : Option ReplayMetricObservation) :
    MetricOutcome :=
  match before, after with
  | some before, some after =>
    match before.score, after.score with
    | some x, some y =>
      if before.tolerance ≠ after.tolerance then
        ⟨[key.label "metric_tolerance_mismatch"], [], []⟩
      else
        let delta := |y - x|
        ⟨(if before.status ≠ after.status then [key.label "metric_status_mismatch"] else []) ++
            (if before.tolerance < delta then [key.label "metric_delta_exceeded"] else []), [],
          [⟨key, x, y, delta, before.tolerance⟩]⟩
    | _, _ => ⟨[], [key.label "metric_unscored"], []⟩
  | _, _ => ⟨[], [key.label "metric_missing"], []⟩

/-- The order of the keys, as triples of texts. -/
def MetricKey.le (k l : MetricKey) : Prop :=
  k.level.value < l.level.value ∨ k.level = l.level ∧
    (k.ruleId.value < l.ruleId.value ∨ k.ruleId = l.ruleId ∧ k.metricId.value ≤ l.metricId.value)

instance metricKeyDecidableLe : DecidableRel MetricKey.le := fun _ _ =>
  inferInstanceAs (Decidable (_ ∨ _ ∧ (_ ∨ _ ∧ _)))

/-- `sorted(left.keys() | right.keys())` -/
def metricKeys (a b : ProductionReplayEvidence) : List MetricKey :=
  (a.metrics.map (·.key) ∪ b.metrics.map (·.key)).insertionSort MetricKey.le

/-- `left.get(key)` -/
def metricAt (metrics : List ReplayMetricObservation) (key : MetricKey) :
    Option ReplayMetricObservation :=
  metrics.find? fun o => o.key = key

/-- `_metric_assessment` -/
def metricAssessment (a b : ProductionReplayEvidence) : MetricOutcome :=
  let outcomes := (metricKeys a b).map fun key =>
    compareMetric key (metricAt a.metrics key) (metricAt b.metrics key)
  ⟨outcomes.flatMap (·.rejected),
    (if a.metrics = [] ∧ b.metrics = [] then [py "no_applicable_replay_metrics"] else []) ++
      outcomes.flatMap (·.unverifiable),
    outcomes.flatMap (·.deltas)⟩

/-- The reasons to reject a replay. -/
def rejections (a b : ProductionReplayEvidence) : List Text :=
  identityReasons a b ++ (metricAssessment a b).rejected ++
    if a.environmentFingerprint ≠ b.environmentFingerprint ∧ a.environmentPolicy = .strict then
      [py "environment_fingerprint_mismatch"]
    else []

/-- The status and the reasons of `assess_production_replay`. -/
def verdict (a b : ProductionReplayEvidence) : ReplayStatus × List Text :=
  if rejections a b ≠ [] then (.rejected, rejections a b)
  else if (metricAssessment a b).unverifiable ≠ [] then
    (.unverifiable, (metricAssessment a b).unverifiable)
  else if a.environmentFingerprint ≠ b.environmentFingerprint then
    (.compatible, [py "environment_fingerprint_differs"])
  else (.exact, [])

/-- `assess_production_replay` -/
def assessProductionReplay (a b : ProductionReplayEvidence) : ProductionReplayAssessment :=
  ⟨(verdict a b).1, (verdict a b).2, (metricAssessment a b).deltas, a.l3Status,
    a.artifactSha256 = b.artifactSha256⟩

end Assessment

/-! ### What rejects a replay -/

/-- A metric that both runs have scored is tolerated. -/
def Tolerated (before after : ReplayMetricObservation) : Prop :=
  ∀ x y, before.score = some x → after.score = some y →
    before.tolerance = after.tolerance ∧ before.status = after.status ∧ |y - x| ≤ before.tolerance

/-- Every metric that both runs have scored is tolerated. -/
def Tolerates (a b : ProductionReplayEvidence) : Prop :=
  ∀ key before after, metricAt a.metrics key = some before → metricAt b.metrics key = some after →
    Tolerated before after

/-- What a replay needs not to be rejected. -/
structure Accepted (a b : ProductionReplayEvidence) : Prop where
  identity : identityReasons a b = []
  metrics : Tolerates a b
  environment : a.environmentFingerprint ≠ b.environmentFingerprint →
    a.environmentPolicy ≠ .strict

/-- Every metric of either run is scored in both, and there is one. -/
structure Verifiable (a b : ProductionReplayEvidence) : Prop where
  some_metric : ¬ (a.metrics = [] ∧ b.metrics = [])
  scored : ∀ key ∈ metricKeys a b, ∃ before after x y, metricAt a.metrics key = some before ∧
    metricAt b.metrics key = some after ∧ before.score = some x ∧ after.score = some y

section Spec

variable {a b : ProductionReplayEvidence} {key : MetricKey}

theorem compareMetric_rejected {before after : ReplayMetricObservation} :
    (compareMetric key (some before) (some after)).rejected = [] ↔ Tolerated before after := by
  obtain ⟨-, s, x, tol, -⟩ := before
  obtain ⟨-, s', y, tol', -⟩ := after
  unfold Tolerated compareMetric
  rcases x with - | x
  · simp
  rcases y with - | y
  · simp
  by_cases ht : tol = tol'
  · by_cases hs : s = s'
    · simp [ht, hs]
    · simp [ht, hs]
  · simp [ht]

theorem compareMetric_unverifiable {before after : Option ReplayMetricObservation} :
    (compareMetric key before after).unverifiable = [] ↔
      ∃ o p x y, before = some o ∧ after = some p ∧ o.score = some x ∧ p.score = some y := by
  unfold compareMetric
  rcases before with - | ⟨k, s, x, tol, hb⟩
  · simp
  rcases after with - | ⟨k', s', y, tol', hb'⟩
  · simp
  rcases x with - | x
  · simp
  rcases y with - | y
  · simp
  by_cases ht : tol = tol'
  · simp [ht]
  · simp [ht]

theorem mem_metricKeys :
    key ∈ metricKeys a b ↔ (∃ o ∈ a.metrics, o.key = key) ∨ ∃ o ∈ b.metrics, o.key = key := by
  unfold metricKeys
  rw [List.mem_insertionSort, List.mem_union_iff, List.mem_map, List.mem_map]

theorem metricAt_key {metrics : List ReplayMetricObservation} {o : ReplayMetricObservation}
    (h : metricAt metrics key = some o) : o ∈ metrics ∧ o.key = key :=
  ⟨List.mem_of_find?_eq_some h, by simpa using List.find?_some h⟩

/-- No metric rejects a replay exactly if all are tolerated. -/
theorem metrics_rejected : (metricAssessment a b).rejected = [] ↔ Tolerates a b := by
  show List.flatMap _ (List.map _ _) = [] ↔ _
  rw [List.flatMap_eq_nil_iff]
  constructor
  · intro h key before after ha hb
    have hkey : key ∈ metricKeys a b := by
      obtain ⟨ho, hk⟩ := metricAt_key ha
      exact mem_metricKeys.mpr (.inl ⟨before, ho, hk⟩)
    have hnone := h _ (List.mem_map.mpr ⟨key, hkey, rfl⟩)
    rw [ha, hb] at hnone
    exact compareMetric_rejected.mp hnone
  · intro h outcome houtcome
    obtain ⟨key, -, rfl⟩ := List.mem_map.mp houtcome
    rcases ha : metricAt a.metrics key with - | before
    · rfl
    rcases hb : metricAt b.metrics key with - | after
    · rfl
    exact compareMetric_rejected.mpr (h key before after ha hb)

theorem metrics_unverifiable : (metricAssessment a b).unverifiable = [] ↔ Verifiable a b := by
  show (if _ then _ else _) ++ List.flatMap _ (List.map _ _) = [] ↔ _
  rw [List.append_eq_nil_iff, List.flatMap_eq_nil_iff]
  have hnone : (if a.metrics = [] ∧ b.metrics = [] then [py "no_applicable_replay_metrics"]
      else ([] : List Text)) = [] ↔ ¬ (a.metrics = [] ∧ b.metrics = []) := by
    split <;> simp_all
  rw [hnone]
  constructor
  · rintro ⟨hsome, h⟩
    exact ⟨hsome, fun key hkey =>
      compareMetric_unverifiable.mp (h _ (List.mem_map.mpr ⟨key, hkey, rfl⟩))⟩
  · rintro ⟨hsome, h⟩
    refine ⟨hsome, fun outcome houtcome => ?_⟩
    obtain ⟨key, hkey, rfl⟩ := List.mem_map.mp houtcome
    exact compareMetric_unverifiable.mpr (h key hkey)

theorem rejections_nil : rejections a b = [] ↔ Accepted a b := by
  unfold rejections
  rw [List.append_eq_nil_iff, List.append_eq_nil_iff, metrics_rejected]
  constructor
  · rintro ⟨⟨hidentity, hmetrics⟩, henv⟩
    refine ⟨hidentity, hmetrics, fun hne hstrict => ?_⟩
    rw [if_pos ⟨hne, hstrict⟩] at henv
    cases henv
  · rintro ⟨hidentity, hmetrics, henv⟩
    exact ⟨⟨hidentity, hmetrics⟩, if_neg fun h => henv h.1 h.2⟩

open Classical in
/-- **The status** of an assessment. -/
theorem assess_status : (assessProductionReplay a b).status =
    if ¬ Accepted a b then .rejected
    else if ¬ Verifiable a b then .unverifiable
    else if a.environmentFingerprint ≠ b.environmentFingerprint then .compatible
    else .exact := by
  show (verdict a b).1 = _
  unfold verdict
  by_cases ha : Accepted a b
  · by_cases hv : Verifiable a b
    · rw [rejections_nil.mpr ha, metrics_unverifiable.mpr hv]
      by_cases he : a.environmentFingerprint = b.environmentFingerprint
      · simp [ha, hv, he]
      · simp [ha, hv, he]
    · rw [rejections_nil.mpr ha, if_neg (not_not.mpr rfl),
        if_pos (fun h => hv (metrics_unverifiable.mp h))]
      simp [ha, hv]
  · rw [if_pos (fun h => ha (rejections_nil.mp h))]
    simp [ha]

theorem exact_of_accepted (h : Accepted a b) (hv : Verifiable a b)
    (he : a.environmentFingerprint = b.environmentFingerprint) :
    (assessProductionReplay a b).status = .exact := by
  rw [assess_status, if_neg (not_not.mpr h), if_neg (not_not.mpr hv), if_neg (not_not.mpr he)]

theorem status_ne_rejected : (assessProductionReplay a b).status ≠ .rejected ↔ Accepted a b := by
  rw [assess_status]
  split
  · next h => simp [h]
  · next h =>
    rw [not_not] at h
    split
    · simp [h]
    · split <;> simp [h]

end Spec

/-! ### Symmetry -/

section Symmetry

variable {a b : ProductionReplayEvidence} {α : Type} [DecidableEq α]

theorem differs_comm (field : ProductionReplayEvidence → α) :
    differs field a b = differs field b a := by
  unfold differs
  simp only [ne_comm]

theorem reused_comm (field : ProductionReplayEvidence → α) :
    reused field a b = reused field b a := by
  unfold reused
  simp only [eq_comm]

theorem identityReasons_comm : identityReasons a b = identityReasons b a := by
  have hcomm : ∀ c ∈ identityComparisons, c.1 a b = c.1 b a := by
    unfold identityComparisons
    simp only [List.forall_mem_cons]
    exact ⟨differs_comm _, differs_comm _, differs_comm _, differs_comm _, differs_comm _,
      differs_comm _, differs_comm _, differs_comm _, differs_comm _, differs_comm _,
      reused_comm _, reused_comm _, differs_comm _, differs_comm _, fun _ h => by cases h⟩
  exact congrArg _ (List.filter_congr hcomm)

theorem Tolerated.symm {before after : ReplayMetricObservation} (h : Tolerated before after) :
    Tolerated after before := by
  intro x y hx hy
  obtain ⟨ht, hs, hd⟩ := h y x hy hx
  exact ⟨ht.symm, hs.symm, ht ▸ abs_sub_comm x y ▸ hd⟩

theorem Tolerates.symm (h : Tolerates a b) : Tolerates b a :=
  fun key before after hb ha => (h key after before ha hb).symm

/-- Two runs of one identity have one environment policy. -/
theorem policy_of_identity (h : identityReasons a b = []) :
    a.environmentPolicy = b.environmentPolicy := by
  have hnone := List.filter_eq_nil_iff.mp (List.map_eq_nil_iff.mp h)
    (differs (·.environmentPolicy), "environment_policy_mismatch") (by simp [identityComparisons])
  simpa [differs] using hnone

theorem Accepted.symm (h : Accepted a b) : Accepted b a where
  identity := identityReasons_comm.trans h.identity
  metrics := h.metrics.symm
  environment := fun hne => policy_of_identity h.identity ▸ h.environment hne.symm

theorem Verifiable.symm (h : Verifiable a b) : Verifiable b a where
  some_metric := fun hnone => h.some_metric hnone.symm
  scored := by
    intro key hkey
    have hkey' : key ∈ metricKeys a b := mem_metricKeys.mpr (mem_metricKeys.mp hkey).symm
    obtain ⟨before, after, x, y, ha, hb, hx, hy⟩ := h.scored key hkey'
    exact ⟨after, before, y, x, hb, ha, hy, hx⟩

/-- **Symmetry** of the status. -/
theorem status_comm (a b : ProductionReplayEvidence) :
    (assessProductionReplay a b).status = (assessProductionReplay b a).status := by
  have haccepted : Accepted a b ↔ Accepted b a := ⟨.symm, .symm⟩
  have hverifiable : Verifiable a b ↔ Verifiable b a := ⟨.symm, .symm⟩
  rw [assess_status, assess_status]
  by_cases ha : Accepted a b
  · by_cases hv : Verifiable a b
    · simp [ha, hv, ha.symm, hv.symm, eq_comm]
    · simp [ha, hv, ha.symm, ← hverifiable]
  · simp [ha, ← haccepted]

end Symmetry

/-! ### Tolerance -/

/-- An observation with the tolerance raised. -/
structure ReplayMetricObservation.RaisedBy (raise : MetricKey → ℚ)
    (o o' : ReplayMetricObservation) : Prop where
  key : o'.key = o.key
  status : o'.status = o.status
  score : o'.score = o.score
  tolerance : o'.tolerance = o.tolerance + raise o.key

/-- Evidence with the tolerance of every metric raised. -/
structure ProductionReplayEvidence.RaisedBy (raise : MetricKey → ℚ)
    (a a' : ProductionReplayEvidence) : Prop where
  same : ∃ metrics, a'.toReplayEvidenceFields = { a.toReplayEvidenceFields with metrics := metrics }
  metrics : List.Forall₂ (ReplayMetricObservation.RaisedBy raise) a.metrics a'.metrics

section Raised

variable {a b a' b' : ProductionReplayEvidence} {raise : MetricKey → ℚ} {key : MetricKey}

/-- A raised metric comes from a metric. -/
theorem metricAt_raised {metrics metrics' : List ReplayMetricObservation}
    (h : List.Forall₂ (ReplayMetricObservation.RaisedBy raise) metrics metrics')
    {o' : ReplayMetricObservation} (ho : metricAt metrics' key = some o') :
    ∃ o, metricAt metrics key = some o ∧ o.RaisedBy raise o' := by
  unfold metricAt at ho ⊢
  induction h with
  | nil => cases ho
  | @cons p p' _ _ hp _ ih =>
    by_cases hk : p'.key = key
    · rw [List.find?_cons_of_pos (by simpa using hk)] at ho
      cases ho
      exact ⟨p, List.find?_cons_of_pos (by simpa using hp.key ▸ hk), hp⟩
    · rw [List.find?_cons_of_neg (by simpa using hk)] at ho
      rw [List.find?_cons_of_neg (by simpa using hp.key ▸ hk)]
      exact ih ho

/-- What is not about metrics is as before. -/
theorem same_raised (ha : a.RaisedBy raise a') (hb : b.RaisedBy raise b') :
    identityReasons a' b' = identityReasons a b ∧
      a'.environmentFingerprint = a.environmentFingerprint ∧
      b'.environmentFingerprint = b.environmentFingerprint ∧
      a'.environmentPolicy = a.environmentPolicy := by
  obtain ⟨ms, hms⟩ := ha.same
  obtain ⟨ns, hns⟩ := hb.same
  obtain ⟨f, hf⟩ := a'
  obtain ⟨g, hg⟩ := b'
  subst hms hns
  exact ⟨rfl, rfl, rfl, rfl⟩

/-- **Raised tolerances** reject nothing that was not rejected. -/
theorem not_rejected_of_raised (hraise : ∀ key, 0 ≤ raise key) (ha : a.RaisedBy raise a')
    (hb : b.RaisedBy raise b') (h : (assessProductionReplay a b).status ≠ .rejected) :
    (assessProductionReplay a' b').status ≠ .rejected := by
  rw [status_ne_rejected] at h ⊢
  obtain ⟨hidentity, henv, henv', hpolicy⟩ := same_raised ha hb
  refine ⟨hidentity.trans h.identity, ?_, ?_⟩
  · intro key before' after' hbefore hafter x y hx hy
    obtain ⟨before, hbefore, hr⟩ := metricAt_raised ha.metrics hbefore
    obtain ⟨after, hafter, hs⟩ := metricAt_raised hb.metrics hafter
    obtain ⟨ht, hstatus, hd⟩ :=
      h.metrics key before after hbefore hafter x y (hr.score ▸ hx) (hs.score ▸ hy)
    have hkey : before.key = after.key :=
      (metricAt_key hbefore).2.trans (metricAt_key hafter).2.symm
    refine ⟨?_, ?_, ?_⟩
    · rw [hr.tolerance, hs.tolerance, ht, hkey]
    · rw [hr.status, hs.status, hstatus]
    · rw [hr.tolerance]
      exact hd.trans (le_add_of_nonneg_right (hraise _))
  · rw [henv, henv', hpolicy]
    exact h.environment

end Raised

/-! ### Captured runs -/

/-- The hash functions of the evidence: canonical JSON of the named material,
then SHA-256. -/
structure ReplayDigests where
  generation : Digests
  /-- `_seed_value` -/
  seed : Sha256 → Sha256 → OutputProfile → Nat → Nat
  graph : Compiled.ExecutionGraph → Sha256
  modelPins : List Compiled.ResolvedModel → Sha256
  requiredGates : List Compiled.Rule → Sha256
  requiredGateState : List (Text × Text) → Sha256
  route : ArtifactStatus × DecisionReason × Option RepairStopReason × Bool → Sha256

/-- The parts of a `ProductionJobResult`, of its bundle and of its form that
the evidence is made of.  `graph` is the graph of the initial request, with all
of its fields. -/
structure ReplayRun where
  compiled : Compiled.StyleSpec
  graph : Compiled.ExecutionGraph
  plan : Compiled.VerificationPlan
  results : List RuleResult
  decision : ArtifactDecision
  artifactSha256 : Sha256
  initial : GenerationRequest
  bundleName : Identifier
  bundleSha256 : Sha256
  formFingerprint : Sha256

/-- A finite number as a rational number. -/
def exactRat (x : Binary64) : ℚ := mkRat x.value Binary64.one.units

theorem exactRat_bounded (x : Spec.ScaleValue) : 0 ≤ exactRat x.val ∧ exactRat x.val ≤ 1 := by
  obtain ⟨x, hx⟩ := x
  unfold Binary64.inUnit at hx
  rw [Bool.and_eq_true, decide_eq_true_eq, decide_eq_true_eq] at hx
  have hpos : 0 < Binary64.one.units := by
    apply Nat.two_pow_pos
  unfold exactRat
  change _ ∧ x.value ≤ (Binary64.one.units : ℤ) at hx
  generalize Binary64.one.units = n at hx hpos ⊢
  rw [Rat.mkRat_eq_div]
  have hn : (0 : ℚ) < n := Nat.cast_pos.mpr hpos
  refine ⟨div_nonneg (Int.cast_nonneg hx.1) hn.le, (div_le_one hn).mpr ?_⟩
  exact_mod_cast hx.2

/-- `tolerated_metric_delta` of a specification. -/
def Spec.StyleSpec.toleratedMetricDelta : Spec.StyleSpec → Spec.ToleratedDelta
  | .v1 s => s.replayContract.toleratedMetricDelta
  | .v11 s => s.replayContract.toleratedMetricDelta

/-- The tolerance of a level. -/
def Spec.ToleratedDelta.at (tolerances : Spec.ToleratedDelta) : MetricLevel → Spec.ScaleValue
  | .l2 => tolerances.l2StyleFidelity
  | .l3 => tolerances.l3Fidelity

/-- A level that has metrics. -/
def RuleLevel.metricLevel : RuleLevel → Option MetricLevel
  | .l1 => none
  | .l2 => some .l2
  | .l3 => some .l3

namespace ReplayRun

variable (digests : ReplayDigests) (parameters : FingerprintMaterials → Sha256) (run : ReplayRun)

/-- The rules of `_required_gate_material`. -/
def requiredGateMaterial : List Compiled.Rule :=
  run.plan.rules.filter fun rule => rule.definition.required && rule.applicable

/-- `_required_state_material` -/
def requiredStateMaterial : List (Text × Text) :=
  let required := run.requiredGateMaterial.map (·.definition.ruleId)
  ((run.results.filter fun item => item.ruleId ∈ required).map fun item =>
    (item.ruleId.value, item.status.value)).insertionSort fun p q =>
      p.1 < q.1 ∨ p.1 = q.1 ∧ p.2 ≤ q.2

/-- `by_rule.get(rule_id)`; of two results the later counts. -/
def outcome (ruleId : RuleId) : Option RuleResult :=
  run.results.reverse.find? fun item => item.ruleId = ruleId

/-- One round of the loop of `_metric_observations`. -/
def observation (rule : Compiled.Rule) : Option ReplayMetricObservation :=
  match rule.definition.level.metricLevel, rule.metricId with
  | some level, some metricId =>
    if rule.applicable then
      let outcome := run.outcome rule.definition.ruleId
      let tolerance := run.compiled.sourceSpec.toleratedMetricDelta.at level
      some
        { key := ⟨level, rule.definition.ruleId, metricId⟩
          status := outcome.elim .unverifiable (·.status)
          score := (outcome.bind (·.score)).map exactRat
          tolerance := exactRat tolerance.val
          bounded := exactRat_bounded tolerance }
    else none
  | _, _ => none

/-- `_metric_observations` -/
def metricObservations : List ReplayMetricObservation :=
  (run.plan.rules.filterMap run.observation).insertionSort fun o p => o.key.le p.key

/-- `_route_material` -/
def routeMaterial : ArtifactStatus × DecisionReason × Option RepairStopReason × Bool :=
  (run.decision.artifactStatus, run.decision.decisionReason, run.decision.repairStopReason,
    run.decision.acceptedWithOverride)

/-- What the generation fingerprint covers. -/
def materials : FingerprintMaterials where
  compiledSpecHash := run.initial.compiledSpec.compiledSpecHash
  generationProfile := run.initial.generationProfile
  outputProfile := run.initial.outputProfile
  source := run.initial.source
  styleReferences := run.initial.styleReferences
  prompt := run.initial.prompt
  controlInput := run.initial.controlInput
  executionParameters := run.initial.executionParameters
  variationIndex := run.initial.variationIndex

/-- `initial.seed.seed` -/
def seed : Nat :=
  digests.seed run.initial.source.source.sha256 run.initial.compiledSpec.compiledSpecHash
    run.initial.outputProfile run.initial.variationIndex

def modelPinsFingerprint : Sha256 :=
  digests.modelPins [run.graph.baseModel, run.graph.ipAdapter, run.graph.controlnet]

/-- The arguments of `capture_production_replay_evidence`. -/
def evidenceFields : ReplayEvidenceFields where
  jobId := run.initial.jobId
  bundleName := run.bundleName
  bundleSha256 := run.bundleSha256
  artifactSha256 := run.artifactSha256
  formFingerprint := run.formFingerprint
  compiledSpecHash := run.compiled.compiledSpecHash
  graphFingerprint := digests.graph run.graph
  modelPinsFingerprint := run.modelPinsFingerprint digests
  generationFingerprint := run.initial.generationFingerprint digests.generation
  requiredGateFingerprint := digests.requiredGates run.requiredGateMaterial
  requiredGateStateFingerprint := digests.requiredGateState run.requiredStateMaterial
  routeFingerprint := digests.route run.routeMaterial
  environmentFingerprint := run.initial.environmentHash
  environmentPolicy := run.compiled.sourceSpec.environmentPolicy
  variationIndex := run.initial.variationIndex
  seed := run.seed digests
  metrics := run.metricObservations
  l3Status := run.plan.l3Status
  l3Reason := run.plan.l3Reason.map (·.value)

/-- `capture_production_replay_evidence` -/
def capture : Except Raised ProductionReplayEvidence :=
  ProductionReplayEvidence.new (run.evidenceFields digests)

/-- What a replay request of the specification says about a run; `parameters`
is a fingerprint of values that the generation fingerprint covers. -/
def replayHashes : Spec.ReplayHashes where
  compiledSpecHash := run.compiled.compiledSpecHash
  inputAssetHash := run.initial.source.source.sha256
  styleReferenceHashes := run.initial.styleReferences.map (·.sha256)
  modelPinsFingerprint := run.modelPinsFingerprint digests
  seed := run.seed digests
  parameterFingerprint := parameters run.materials
  environmentFingerprint := run.initial.environmentHash

end ReplayRun

/-- The generation fingerprints of two runs do not collide. -/
def CollisionFree (digests : ReplayDigests) (r s : ReplayRun) : Prop :=
  r.initial.generationFingerprint digests.generation =
    s.initial.generationFingerprint digests.generation → r.materials = s.materials

/-! ### Refinement -/

section Refinement

variable {digests : ReplayDigests} {r s : ReplayRun} {a b : ProductionReplayEvidence}

theorem ReplayRun.capture_ok (h : r.capture digests = .ok a) :
    a.toReplayEvidenceFields = r.evidenceFields digests := by
  unfold ReplayRun.capture ProductionReplayEvidence.new at h
  split at h
  · cases h
    rfl
  · cases h

/-- One identity: no comparison finds a difference. -/
theorem same_of_identity {α : Type} [DecidableEq α] (field : ProductionReplayEvidence → α)
    (reason : String) (h : identityReasons a b = [])
    (hmem : (differs field, reason) ∈ identityComparisons) : field a = field b := by
  have hnone := List.filter_eq_nil_iff.mp (List.map_eq_nil_iff.mp h) _ hmem
  simpa [differs] using hnone

/-- **Accepted runs** say the same to the specification, the environment apart. -/
theorem replayHashes_of_accepted (hr : r.capture digests = .ok a) (hs : s.capture digests = .ok b)
    (hfree : CollisionFree digests r s) (h : Accepted a b)
    (parameters : FingerprintMaterials → Sha256) :
    s.replayHashes digests parameters =
      { r.replayHashes digests parameters with
        environmentFingerprint := s.initial.environmentHash } := by
  have hcompiled := same_of_identity (·.compiledSpecHash) "compiled_spec_hash_mismatch" h.identity
    (by simp [identityComparisons])
  have hpins := same_of_identity (·.modelPinsFingerprint) "model_pins_mismatch" h.identity
    (by simp [identityComparisons])
  have hgeneration := same_of_identity (·.generationFingerprint) "generation_fingerprint_mismatch"
    h.identity (by simp [identityComparisons])
  have hseed := same_of_identity (·.seed) "seed_mismatch" h.identity
    (by simp [identityComparisons])
  rw [r.capture_ok hr, s.capture_ok hs] at hcompiled hpins hgeneration hseed
  have hmaterials := hfree hgeneration
  have hsource : r.initial.source = s.initial.source :=
    congrArg FingerprintMaterials.source hmaterials
  have hstyle : r.initial.styleReferences = s.initial.styleReferences :=
    congrArg FingerprintMaterials.styleReferences hmaterials
  unfold ReplayRun.replayHashes
  rw [← hsource, ← hstyle, ← hmaterials]
  exact Spec.ReplayHashes.mk.injEq .. ▸
    ⟨hcompiled.symm, rfl, rfl, hpins.symm, hseed.symm, rfl, rfl⟩

/-- **Refinement.**  Of captured runs that are accepted, the specification says
what the environments say. -/
theorem assessSameInputReplay_of_accepted (hr : r.capture digests = .ok a)
    (hs : s.capture digests = .ok b) (hfree : CollisionFree digests r s) (h : Accepted a b)
    (parameters : FingerprintMaterials → Sha256) {spec : Spec.StyleSpec}
    (hspec : spec = r.compiled.sourceSpec ∨ spec = s.compiled.sourceSpec) :
    (Spec.assessSameInputReplay ⟨spec, r.replayHashes digests parameters,
      s.replayHashes digests parameters⟩).status =
      if a.environmentFingerprint = b.environmentFingerprint then .exact else .compatible := by
  have hpolicy := policy_of_identity h.identity
  have henv := h.environment
  rw [r.capture_ok hr, s.capture_ok hs] at hpolicy henv ⊢
  refine Spec.assessSameInputReplay_of_same (replayHashes_of_accepted hr hs hfree h parameters)
    fun hne => ?_
  have hstrict := henv hne
  have hsame : spec.environmentPolicy = r.compiled.sourceSpec.environmentPolicy := by
    rcases hspec with rfl | rfl
    · rfl
    · exact hpolicy.symm
  show spec.environmentPolicy = .advisory
  rw [hsame]
  rcases hp : r.compiled.sourceSpec.environmentPolicy with - | -
  · rfl
  · exact absurd hp hstrict

/-- An exact replay is accepted, in one environment. -/
theorem accepted_of_exact (h : (assessProductionReplay a b).status = .exact) :
    Accepted a b ∧ a.environmentFingerprint = b.environmentFingerprint := by
  have haccepted : Accepted a b := status_ne_rejected.mp (by rw [h]; decide)
  rw [assess_status, if_neg (not_not.mpr haccepted)] at h
  refine ⟨haccepted, ?_⟩
  by_contra hne
  rw [if_pos hne] at h
  split at h
  · cases h
  · cases h

/-- A compatible replay is accepted, in another environment. -/
theorem accepted_of_compatible (h : (assessProductionReplay a b).status = .compatible) :
    Accepted a b ∧ a.environmentFingerprint ≠ b.environmentFingerprint := by
  have haccepted : Accepted a b := status_ne_rejected.mp (by rw [h]; decide)
  rw [assess_status, if_neg (not_not.mpr haccepted)] at h
  refine ⟨haccepted, fun he => ?_⟩
  rw [if_neg (not_not.mpr he)] at h
  split at h
  · cases h
  · cases h

end Refinement

/-- **Production replay.**  The status is symmetric; raised tolerances reject
nothing; and what is exact or compatible of captured runs is so for the
specification. -/
theorem production_replay :
    (∀ a b, (assessProductionReplay a b).status = (assessProductionReplay b a).status) ∧
    (∀ (raise : MetricKey → ℚ) (a b a' b' : ProductionReplayEvidence), (∀ key, 0 ≤ raise key) →
      a.RaisedBy raise a' → b.RaisedBy raise b' → (assessProductionReplay a b).status ≠ .rejected →
      (assessProductionReplay a' b').status ≠ .rejected) ∧
    ∀ (digests : ReplayDigests) (r s : ReplayRun) (a b : ProductionReplayEvidence),
      r.capture digests = .ok a → s.capture digests = .ok b → CollisionFree digests r s →
      ∀ (parameters : FingerprintMaterials → Sha256) (spec : Spec.StyleSpec),
        spec = r.compiled.sourceSpec ∨ spec = s.compiled.sourceSpec →
        let assessment := Spec.assessSameInputReplay ⟨spec, r.replayHashes digests parameters,
          s.replayHashes digests parameters⟩
        ((assessProductionReplay a b).status = .exact → assessment.status = .exact) ∧
        ((assessProductionReplay a b).status = .compatible → assessment.status = .compatible) := by
  refine ⟨status_comm, fun raise a b a' b' hraise ha hb h => not_rejected_of_raised hraise ha hb h,
    fun digests r s a b hr hs hfree parameters spec hspec => ⟨fun h => ?_, fun h => ?_⟩⟩
  · obtain ⟨haccepted, henv⟩ := accepted_of_exact h
    exact (assessSameInputReplay_of_accepted hr hs hfree haccepted parameters hspec).trans
      (if_pos henv)
  · obtain ⟨haccepted, henv⟩ := accepted_of_compatible h
    exact (assessSameInputReplay_of_accepted hr hs hfree haccepted parameters hspec).trans
      (if_neg henv)

/-! ### A run and its repetition -/

namespace ReplaySample

def pin (id : String) : ResourcePin := ⟨py id, py "r1", sampleHash⟩

def metricId : Identifier := Id.lit .identifier "style_fidelity"

def warned : OnWarning := .manualReview

theorem warned_stops : true = true → warned ≠ .continue := fun _ => by
  decide

/-- A rule with a metric. -/
def rule : Compiled.Rule where
  definition :=
    ⟨Id.lit .rule "STYLE", .l2, .item, true, .applicable, ⟨.reject, warned⟩, warned_stops⟩
  verifierPin := pin "verifier"
  metricId := some metricId
  thresholdBinding := some ⟨pin "l2-profile", py "l2-profile", .validated, metricId, .ge, .zero,
    sampleHash, sampleHash, sampleHash, none⟩
  priority := 0
  affectedByActions := []
  valid := by decide

def plan : Compiled.VerificationPlan :=
  ⟨.xhsGrid, pin "output", [rule], .notApplicable, some .noL3Config, none, none, by decide⟩

def model (role : ModelRole) : Compiled.ResolvedModel := ⟨role, pin "model", none⟩

def graph : Compiled.ExecutionGraph where
  generationProfile := .production
  outputProfile := .xhsGrid
  outputProfilePin := pin "output"
  pipeline := .sdxlBase
  resolution := (512, 512)
  steps := 30
  guidanceScale := .zero
  scheduler := some (py "euler")
  runtime := ⟨pin "runtime", {}, py "6.0", py "2.4", py "0.30", .float16⟩
  baseModel := model .base
  ipAdapter := model .ipAdapter
  controlnet := model .controlnet
  styleReferenceHashes := [sampleHash]
  presetId := Id.lit .identifier "preset-1"
  userStrength := .zero
  strengthMappingPin := pin "mapping"
  ipAdapterScale := .zero
  img2imgStrength := .zero
  controlnetScale := .zero
  seedPolicy := {}
  batchExecution := {}
  renderContract := none

theorem zero_inUnit : (Binary64.zero.inUnit && Binary64.zero.inUnit && Binary64.zero.inUnit) = true := by
  decide +kernel

def scales : GenerationParameters := ⟨.zero, .zero, .zero, zero_inUnit⟩

def asset : AssetRef := ⟨Id.lit .asset "asset-1", sampleHash⟩

def image : PreparedImage := ⟨asset, sampleHash, 512, 512⟩

theorem rounds_bounded : 1 ≤ 1 ∧ 1 ≤ 3 ∧ 3 ≤ 10 := by
  decide

/-- The compiled specification, as a request has it. -/
def requested : CompiledStyleSpec where
  repair := ⟨py "policy-1", 3, 1, rounds_bounded⟩
  previewGraphs := []
  productionGraphs :=
    [⟨.xhsGrid, (512, 512), .canny, [sampleHash], Id.lit .identifier "preset-1", scales⟩]
  verificationPlans := []
  compiledSpecHash := sampleHash

def job (again : Bool) : JobId := Id.lit .job (if again then "job-2" else "job-1")

def request (again : Bool) : GenerationRequest where
  jobId := job again
  attemptId := Id.lit .attempt "attempt-0"
  parentAttemptId := none
  compiledSpec := requested
  generationProfile := .production
  outputProfile := .xhsGrid
  source := image
  styleReferences := [asset]
  prompt := ⟨pin "template", Id.lit .identifier "preset-1", [], []⟩
  controlInput := ⟨.canny, image⟩
  variationIndex := 0
  environmentHash := sampleHash
  executionParameters := scales
  valid := by cases again <;> decide +kernel

theorem approved_legal : (ArtifactStatus.approved, DecisionReason.allRequiredPass) ∈ legalPairs := by
  decide

theorem approved_overrides : false = true →
    ArtifactStatus.approved = .manualReview ∧ DecisionReason.allRequiredPass = .manualPolicy := by
  intro h
  cases h

/-- A run, or its repetition as another job. -/
def run (again : Bool) : ReplayRun where
  compiled := ⟨⟨.v1 Compiler.RequiredFidelity.spec, pin "compiler", pin "catalog",
    ⟨pin "encoder", py "p1", py "layer", py "cosine"⟩, [], [graph], [plan]⟩, sampleHash⟩
  graph := graph
  plan := plan
  results := [⟨Id.lit .rule "STYLE", .pass, [Id.lit .artifact "artifact-1"], some .zero⟩]
  decision := ⟨Id.lit .artifact "artifact-1", .approved, .allRequiredPass, none, false,
    approved_legal, approved_overrides⟩
  artifactSha256 := sampleHash
  initial := request again
  bundleName := Id.lit .identifier (if again then "bundle-2" else "bundle-1")
  bundleSha256 := sampleHash
  formFingerprint := sampleHash

def digests : ReplayDigests where
  generation := ⟨fun _ => sampleHash, fun _ => sampleHash⟩
  seed := fun _ _ _ _ => 7
  graph := fun _ => sampleHash
  modelPins := fun _ => sampleHash
  requiredGates := fun _ => sampleHash
  requiredGateState := fun _ => sampleHash
  route := fun _ => sampleHash

/-- The evidence of a run. -/
def evidence (again : Bool) : ProductionReplayEvidence :=
  ⟨(run again).evidenceFields digests, by cases again <;> decide +kernel⟩

theorem captured (again : Bool) : (run again).capture digests = .ok (evidence again) := by
  unfold ReplayRun.capture ProductionReplayEvidence.new
  exact dif_pos (evidence again).valid

theorem raised_none (e : ProductionReplayEvidence) : e.RaisedBy (fun _ => 0) e where
  same := ⟨e.metrics, rfl⟩
  metrics := List.forall₂_same.mpr fun _ _ => ⟨rfl, rfl, rfl, (add_zero _).symm⟩

theorem environment (again : Bool) : (evidence again).environmentFingerprint = sampleHash := rfl

/-- The job is not among the materials. -/
theorem materials_run (again : Bool) : (run again).materials =
    ⟨sampleHash, .production, .xhsGrid, image, [asset], ⟨pin "template",
      Id.lit .identifier "preset-1", [], []⟩, ⟨.canny, image⟩, scales, 0⟩ := rfl

theorem collisionFree : CollisionFree digests (run false) (run true) :=
  fun _ => (materials_run false).trans (materials_run true).symm

theorem exact : (assessProductionReplay (evidence false) (evidence true)).status = .exact := by
  have hrejected : rejections (evidence false) (evidence true) = [] := by decide +kernel
  have hscored : (metricAssessment (evidence false) (evidence true)).unverifiable = [] := by
    decide +kernel
  exact exact_of_accepted (rejections_nil.mp hrejected) (metrics_unverifiable.mp hscored)
    ((environment false).trans (environment true).symm)

end ReplaySample

/-- A run repeated as another job is an exact replay, for the specification
too. -/
theorem production_replay_repeated :
    (assessProductionReplay (ReplaySample.evidence true) (ReplaySample.evidence false)).status =
      .exact ∧
    (assessProductionReplay (ReplaySample.evidence false) (ReplaySample.evidence true)).status ≠
      .rejected ∧
    (Spec.assessSameInputReplay ⟨.v1 Compiler.RequiredFidelity.spec,
      (ReplaySample.run false).replayHashes ReplaySample.digests fun _ => sampleHash,
      (ReplaySample.run true).replayHashes ReplaySample.digests fun _ => sampleHash⟩).status =
      .exact := by
  obtain ⟨hcomm, hraised, hrefines⟩ := production_replay
  refine ⟨(hcomm _ _).trans ReplaySample.exact, ?_, ?_⟩
  · exact hraised (fun _ => 0) _ _ _ _ (fun _ => le_rfl) (ReplaySample.raised_none _)
      (ReplaySample.raised_none _) (by rw [ReplaySample.exact]; decide)
  · exact (hrefines ReplaySample.digests _ _ _ _ (ReplaySample.captured false)
      (ReplaySample.captured true) ReplaySample.collisionFree _ _ (.inl rfl)).1 ReplaySample.exact

end SpecStyle
