/-
SpecStyle/Verification/Routing.lean

Routing of a verification report: the decision about one artifact.

The router looks at the gates of the artifact, the results that affect it
each with its rule.  Only the gates of required rules can reject or approve;
the advisory ones can still send an artifact to manual review.  A required
gate that does not pass rejects or is manual (`Gate.blocked_of_nonpass`),
since a required rule cannot continue on a warning, and so the router has a
route for every report (`route_total`).
-/
import SpecStyle.Verification.RuleModels

namespace SpecStyle

open PyLib

/-! ### The router -/

/-- `_EXHAUSTED` -/
def exhaustedReasons : List RepairStopReason := [.noAction, .noImprovement, .maxRounds]

/-- A result with the definition of its rule. -/
abbrev Gate := RuleDefinition × RuleResult

/-- `_results_affecting_artifact` -/
def resultsAffectingArtifact (report : VerificationReport) (artifactId : ArtifactId) :
    List Gate :=
  report.results.filterMap fun result =>
    if artifactId ∈ result.affectedArtifactIds then
      -- the rule is there: a report with a result of an unknown rule is not built
      (ruleById report.rules result.ruleId).bind fun rule =>
        if rule.applicability = .applicable ∧ rule.scope ∈ [RuleScope.item, RuleScope.batch] then
          some (rule, result)
        else none
    else none

/-- `[(rule, result) for rule, result in relevant if rule.required]` -/
def requiredGates (relevant : List Gate) : List Gate := relevant.filter fun g => g.1.required

/-- `result.status is not RuleStatus.PASS` -/
def Gate.nonpass (g : Gate) : Bool := g.2.status ≠ .pass

/-- `UNVERIFIABLE` under a policy that rejects it. -/
def Gate.rejectsUnverifiable (g : Gate) : Bool :=
  g.2.status = .unverifiable ∧ g.1.gatePolicy.onUnverifiable = .reject

/-- `FAIL`, or `WARNING` under a policy that rejects it. -/
def Gate.rejects (g : Gate) : Bool :=
  g.2.status = .fail ∨ g.2.status = .warning ∧ g.1.gatePolicy.onWarning = .reject

/-- `WARNING` or `UNVERIFIABLE` under a policy that asks for manual review. -/
def Gate.manual (g : Gate) : Bool :=
  g.2.status = .warning ∧ g.1.gatePolicy.onWarning = .manualReview ∨
    g.2.status = .unverifiable ∧ g.1.gatePolicy.onUnverifiable = .manualReview

/-- `_has_manual_policy` -/
def hasManualPolicy (relevant : List Gate) : Bool := relevant.any Gate.manual

/-- `_validate_stop_reason` -/
def validateStopReason (stop : Option RepairStopReason) (required : List Gate) :
    Except Raised Unit := do
  ensure (!(stop = some .passAllRequired && required.any Gate.nonpass))
    "PASS_ALL_REQUIRED conflicts with required non-pass result"
  ensure (!(stop.any (fun s => s ∈ exhaustedReasons) && !required.any Gate.nonpass))
    "repair exhaustion conflicts with all required pass"
  ensure (!(stop = some .unverifiable && !required.any fun g => g.2.status = .unverifiable))
    "UNVERIFIABLE stop requires required unverifiable result"

/-- The cascade of `decide_artifact`. -/
def route (stop : Option RepairStopReason) (relevant : List Gate) :
    Except Raised (ArtifactStatus × DecisionReason) :=
  let required := requiredGates relevant
  if required.any Gate.rejectsUnverifiable then .ok (.rejected, .requiredGateUnverifiable)
  else if stop.any (fun s => s ∈ exhaustedReasons) && required.any Gate.nonpass then
    .ok (.rejected, .repairExhausted)
  else if required.any Gate.rejects then .ok (.rejected, .requiredGateFailed)
  else if stop = some .manualRequest || hasManualPolicy relevant then
    .ok (.manualReview, .manualPolicy)
  else if !required.any Gate.nonpass then .ok (.approved, .allRequiredPass)
  else .error (.domain "required gate state has no valid terminal route")

/-- `decide_artifact` -/
def decideArtifact (report : VerificationReport) (artifactId : ArtifactId)
    (stop : Option RepairStopReason) (override : Bool) : Except Raised ArtifactDecision := do
  ensure (artifactId ∈ report.ids) "artifact_id is not in report"
  let relevant := resultsAffectingArtifact report artifactId
  let required := requiredGates relevant
  ensure (!required.isEmpty) "artifact has no applicable required gate"
  validateStopReason stop required
  let (status, reason) ← route stop relevant
  ensure (!(override && status ≠ .manualReview)) "override is only valid for manual review"
  ArtifactDecision.new artifactId status reason stop override

/-! ### Gates -/

/-- A required gate that does not pass rejects, one way or the other, or is
manual. -/
theorem Gate.blocked_of_nonpass {g : Gate} (hr : g.1.required = true) (h : g.nonpass = true) :
    g.rejectsUnverifiable = true ∨ g.rejects = true ∨ g.manual = true := by
  have hw := g.1.warningStops hr
  rcases g with ⟨rule, result⟩
  unfold Gate.nonpass at h
  unfold Gate.rejectsUnverifiable Gate.rejects Gate.manual
  cases hs : result.status with
  | pass => simp [hs] at h
  | fail => simp
  | warning =>
      cases hp : rule.gatePolicy.onWarning with
      | reject => simp
      | manualReview => simp
      | «continue» => exact absurd hp hw
  | unverifiable =>
      cases hp : rule.gatePolicy.onUnverifiable with
      | reject => simp
      | manualReview => simp

theorem Gate.nonpass_of_rejects {g : Gate} (h : g.rejects = true) : g.nonpass = true := by
  unfold Gate.rejects at h
  unfold Gate.nonpass
  rcases of_decide_eq_true h with h | h
  · simp [h]
  · simp [h.1]

theorem mem_requiredGates {relevant : List Gate} {g : Gate} :
    g ∈ requiredGates relevant ↔ g ∈ relevant ∧ g.1.required = true :=
  List.mem_filter

/-- The gates of an artifact are its results with their applicable rules. -/
theorem mem_resultsAffectingArtifact {report : VerificationReport} {target : ArtifactId}
    {g : Gate} : g ∈ resultsAffectingArtifact report target ↔
      g.2 ∈ report.results ∧ target ∈ g.2.affectedArtifactIds ∧ g.1 ∈ report.rules ∧
        g.1.ruleId = g.2.ruleId := by
  rcases g with ⟨rule, result⟩
  have hc := report.checks
  unfold resultsAffectingArtifact
  rw [List.mem_filterMap]
  constructor
  · rintro ⟨x, hx, h⟩
    split at h
    · next ht =>
      obtain ⟨r, hr, h⟩ := Option.bind_eq_some_iff.mp h
      split at h
      · cases h
        obtain ⟨hm, he⟩ := ruleById_mem hr
        exact ⟨hx, ht, hm, he⟩
      · cases h
    · cases h
  · rintro ⟨hx, ht, hm, he⟩
    refine ⟨result, hx, ?_⟩
    have hself : ruleById report.rules result.ruleId = some rule := by
      rw [← he]
      exact ruleById_self hc.rules_nodup hm
    obtain ⟨r, hr, happ, -⟩ := hc.known result hx
    rw [hself] at hr
    cases hr
    have hscope : rule.scope ∈ [RuleScope.item, RuleScope.batch] := by
      cases rule.scope with
      | item => exact List.mem_cons_self
      | batch => exact List.mem_cons_of_mem _ List.mem_cons_self
    rw [if_pos ht, hself]
    exact if_pos ⟨happ, hscope⟩

/-- Every applicable rule has its gate. -/
theorem exists_gate (report : VerificationReport) {rule : RuleDefinition}
    (hrule : rule ∈ report.rules) (ha : rule.applicability = .applicable) {target : ArtifactId}
    (ht : target ∈ report.ids) :
    ∃ result, report.matching rule.ruleId target = [result] ∧
      (rule, result) ∈ resultsAffectingArtifact report target := by
  obtain ⟨result, hm⟩ := report.existsUnique hrule ha ht
  have hin : result ∈ report.matching rule.ruleId target := by
    rw [hm]
    exact List.mem_singleton_self result
  unfold VerificationReport.matching at hin
  rw [List.mem_filter, decide_eq_true_eq] at hin
  obtain ⟨hr, hid, hta⟩ := hin
  exact ⟨result, hm, mem_resultsAffectingArtifact.mpr ⟨hr, hta, hrule, hid.symm⟩⟩

/-- A gate holds the one result of its rule. -/
theorem matching_of_gate {report : VerificationReport} {target : ArtifactId} {g : Gate}
    (h : g ∈ resultsAffectingArtifact report target) (ht : target ∈ report.ids) :
    report.matching g.1.ruleId target = [g.2] := by
  obtain ⟨hr, hta, hrule, hid⟩ := mem_resultsAffectingArtifact.mp h
  obtain ⟨rule, hf, happ, -⟩ := report.checks.known g.2 hr
  have hself := ruleById_self report.checks.rules_nodup hrule
  rw [← hid, hself] at hf
  cases hf
  obtain ⟨result, hm⟩ := report.existsUnique hrule happ ht
  have hin : g.2 ∈ report.matching g.1.ruleId target := by
    unfold VerificationReport.matching
    rw [List.mem_filter, decide_eq_true_eq]
    exact ⟨hr, hid.symm, hta⟩
  rw [hm, List.mem_singleton] at hin
  rw [hm, hin]

/-! ### Routes -/

/-- There is a route for every report. -/
theorem route_total (stop : Option RepairStopReason) (relevant : List Gate) :
    ∃ p, route stop relevant = .ok p := by
  unfold route
  simp only
  split_ifs with hu he hf hm hp
  · exact ⟨_, rfl⟩
  · exact ⟨_, rfl⟩
  · exact ⟨_, rfl⟩
  · exact ⟨_, rfl⟩
  · exact ⟨_, rfl⟩
  · -- some required gate does not pass, and none of the cases above took it
    exfalso
    simp only [Bool.not_eq_true', Bool.not_eq_false, List.any_eq_true] at hp
    obtain ⟨g, hg, hn⟩ := hp
    obtain ⟨hrel, hreq⟩ := mem_requiredGates.mp hg
    rcases g.blocked_of_nonpass hreq hn with h | h | h
    · exact hu (List.any_eq_true.mpr ⟨g, hg, h⟩)
    · exact hf (List.any_eq_true.mpr ⟨g, hg, h⟩)
    · apply hm
      rw [Bool.or_eq_true]
      exact .inr (List.any_eq_true.mpr ⟨g, hrel, h⟩)

/-- Every route is a legal pair. -/
theorem route_legal {stop : Option RepairStopReason} {relevant : List Gate}
    {p : ArtifactStatus × DecisionReason} (h : route stop relevant = .ok p) : p ∈ legalPairs := by
  unfold route at h
  simp only at h
  split_ifs at h
  all_goals
    cases h
    decide

/-- The router accepts exactly an artifact of the report that has a required
gate, with a stop reason that fits the gates. -/
theorem decideArtifact_ok_iff {report : VerificationReport} {target : ArtifactId}
    {stop : Option RepairStopReason} {d : ArtifactDecision} :
    decideArtifact report target stop false = .ok d ↔
      target ∈ report.ids ∧ requiredGates (resultsAffectingArtifact report target) ≠ [] ∧
      validateStopReason stop (requiredGates (resultsAffectingArtifact report target)) = .ok () ∧
      route stop (resultsAffectingArtifact report target) =
        .ok (d.artifactStatus, d.decisionReason) ∧
      d.artifactId = target ∧ d.repairStopReason = stop ∧ d.acceptedWithOverride = false := by
  unfold decideArtifact
  simp only [check_ok_iff, ensure_ok_iff, decide_eq_true_eq, Bool.not_eq_true',
    List.isEmpty_eq_false_iff]
  refine and_congr_right fun _ => and_congr_right fun _ => and_congr_right fun _ => ?_
  rw [bind_ok_iff]
  simp only [check_ok_iff, ensure_ok_iff, Bool.false_and, Bool.not_false, true_and]
  constructor
  · rintro ⟨⟨status, reason⟩, hr, h⟩
    unfold ArtifactDecision.new at h
    split_ifs at h
    · cases h
      exact ⟨hr, rfl, rfl, rfl⟩
  · rintro ⟨hr, hid, hstop, hov⟩
    refine ⟨_, hr, ?_⟩
    have hl := route_legal hr
    rcases d with ⟨id, status, reason, s, o, _, _⟩
    obtain rfl : id = target := hid
    obtain rfl : s = stop := hstop
    obtain rfl : o = false := hov
    unfold ArtifactDecision.new
    rw [dif_pos hl, dif_pos (fun h => by cases h)]

/-- A report with a required gate is routed under every fitting stop reason. -/
theorem decideArtifact_total {report : VerificationReport} {target : ArtifactId}
    {stop : Option RepairStopReason} (ht : target ∈ report.ids)
    (hr : requiredGates (resultsAffectingArtifact report target) ≠ [])
    (hs : validateStopReason stop (requiredGates (resultsAffectingArtifact report target)) =
      .ok ()) : ∃ d, decideArtifact report target stop false = .ok d := by
  obtain ⟨⟨status, reason⟩, hroute⟩ := route_total stop (resultsAffectingArtifact report target)
  exact ⟨⟨target, status, reason, stop, false, route_legal hroute, fun h => by cases h⟩,
    decideArtifact_ok_iff.mpr ⟨ht, hr, hs, hroute, rfl, rfl, rfl⟩⟩

/-- No stop reason fits every report. -/
@[simp] theorem validateStopReason_none (required : List Gate) :
    validateStopReason none required = .ok () := by
  simp [validateStopReason, ensure]

end SpecStyle
