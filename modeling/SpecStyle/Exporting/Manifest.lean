/-
SpecStyle/Exporting/Manifest.lean

Export requests and the place of an artifact in the bundle.

A cohort is checked against its final report: the decision of each terminal
is replayed from that report, under the stop reason the terminal records.
Nothing in the checks reads `current_report` of a history, nor asks
`next_repair_step` for the stop reason, so the decision of an exported
artifact is the one of the final report (`exported_decisions`), and that of
its history where the two reports agree on the artifact.

The constructors rebuild what they are given; a value of the model carries
its validity, so rebuilding gives it back, and equal canonical material is
equality.  Of a credit the checks of its own texts are left out, and of the
source specification everything but the style references, a parameter here
as is the hash of the environment.
-/
import SpecStyle.Repair.Termination
import SpecStyle.Spec.Models

namespace SpecStyle

open PyLib

/-- `_invalid_request` -/
def invalidRequest : String := "invalid export request"

/-- `_invariant_violation` -/
def invariantViolation : String := "export invariant violation"

/-! ### Routing -/

/-- `f"{n:06d}"` -/
def sixDigits (n : Int) : Text :=
  let digits := py (toString n.natAbs)
  if n < 0 then py "-" ++ List.replicate (5 - digits.length) 0x30 ++ digits
  else List.replicate (6 - digits.length) 0x30 ++ digits

/-- `_leaf` -/
def exportLeaf (artifactId : ArtifactId) (sequenceIndex : Option Int) (profile : OutputProfile) :
    Except Raised Text :=
  match profile, sequenceIndex with
  | .backgroundSequence, some index =>
    .ok (sixDigits index ++ py "_" ++ artifactId.value ++ py ".png")
  | .backgroundSequence, none => .error (.domain invariantViolation)
  | _, some _ => .error (.domain invariantViolation)
  | _, none => .ok (artifactId.value ++ py ".png")

/-- `_relative_path` -/
def relativePath (status : ArtifactStatus) (profile : OutputProfile) (inputAssetId : AssetId)
    (leaf : Text) : Text :=
  match status with
  | .approved => py "approved/" ++ profile.value ++ py "/" ++ leaf
  | .rejected => py "rejected/" ++ inputAssetId.value ++ py "/" ++ leaf
  | .manualReview => py "manual_review/" ++ inputAssetId.value ++ py "/" ++ leaf

/-- `_plan_for` -/
def exportPlanFor (compiled : CompiledStyleSpec) (profile : OutputProfile) :
    Except Raised CompiledVerificationPlan :=
  match compiled.verificationPlans.filter fun plan => plan.outputProfile = profile with
  | [plan] => .ok plan
  | _ => .error (.domain invalidRequest)

/-! ### Credits -/

/-- `CreditRole` -/
inductive CreditRole where
  | input | styleReference
  deriving DecidableEq

/-- `_CREDIT_ROLE_ORDER` -/
def creditRoleOrder : List CreditRole := [.input, .styleReference]

/-- `AssetCredit` -/
structure AssetCredit where
  asset : AssetRef
  roles : List CreditRole
  sourceUrl : Option Text
  license : Option Text
  attribution : Option Text
  consent : Option Consent
  /-- `_validate_roles` -/
  ordered : roles ≠ [] ∧ roles = creditRoleOrder.filter fun role => role ∈ roles

/-- The key of an asset. -/
def AssetRef.identity (ref : AssetRef) : Text × Text := (ref.assetId.value, ref.sha256.value)

/-- `identity` -/
def AssetCredit.identity (credit : AssetCredit) : Text × Text := credit.asset.identity

/-- `(source_url, license, attribution, consent)` -/
def AssetCredit.provenance (credit : AssetCredit) :
    Option Text × Option Text × Option Text × Option Consent :=
  (credit.sourceUrl, credit.license, credit.attribution, credit.consent)

/-- What a style reference of the specification says of its provenance. -/
def styleProvenance (reference : Spec.StyleReference) :
    Option Text × Option Text × Option Text × Option Consent :=
  (some reference.sourceUrl.val, some reference.license.val, some reference.attribution.val,
    some reference.consent)

/-! ### Items and cohorts -/

variable {hashBytes : Bytes → Sha256} {digests : Digests}

/-- `_all_requests` -/
def RepairHistory.allRequests (history : RepairHistory hashBytes digests) :
    List GenerationRequest :=
  history.initialAttempt.request :: history.repairAttempts.map (·.request)

/-- `ExportItem` -/
structure ExportItem (hashBytes : Bytes → Sha256) (digests : Digests) where
  history : RepairHistory hashBytes digests
  terminal : RepairTerminal
  sequenceIndex : Option Int

namespace ExportItem

variable (item : ExportItem hashBytes digests)

/-- `item.terminal.artifact_decision` -/
abbrev decision : ArtifactDecision := item.terminal.artifactDecision

/-- `item.history.current_target_artifact_id` -/
abbrev target : ArtifactId := item.history.currentTargetArtifactId

/-- `source.source.asset_id` of the initial request -/
def inputAssetId : AssetId := item.history.initialAttempt.request.source.source.assetId

/-- The path of the item in the bundle. -/
def path (profile : OutputProfile) : Except Raised Text := do
  let leaf ← exportLeaf item.target item.sequenceIndex profile
  return relativePath item.decision.artifactStatus profile item.inputAssetId leaf

end ExportItem

/-- `_validate_sequence_and_terminals`, on one item -/
def sequenceFits (profile : OutputProfile) (item : ExportItem hashBytes digests) (index : Nat) :
    Except Raised Unit := do
  match profile with
  | .backgroundSequence => ensure (item.sequenceIndex = some (index : Int)) invariantViolation
  | _ => ensure item.sequenceIndex.isNone invariantViolation
  ensure (item.decision.artifactId = item.target) invariantViolation

/-- The last loop of `_validate_cohort`, on one item. -/
def replayDecision (finalReport : VerificationReport) (item : ExportItem hashBytes digests) :
    Except Raised Unit := do
  ensure (!item.decision.acceptedWithOverride) invariantViolation
  ensure item.decision.repairStopReason.isSome invariantViolation
  let replayed ← decideArtifact finalReport item.target item.decision.repairStopReason
    item.decision.acceptedWithOverride
  ensure (replayed = item.decision) invariantViolation

/-- `_validate_cohort` -/
def validateCohort (profile : OutputProfile) (finalReport : VerificationReport)
    (items : List (ExportItem hashBytes digests)) (plan : CompiledVerificationPlan) :
    Except Raised Unit := do
  ensure (items.map (·.history.currentArtifact.ref) = finalReport.artifacts) invariantViolation
  items.forM fun item => ensure (hashBytes item.history.currentArtifact.content =
    item.history.currentArtifact.ref.sha256) invariantViolation
  -- the rules as sets
  ensure (finalReport.rules.all (fun rule => rule ∈ plan.applicableRuleDefinitions) &&
    plan.applicableRuleDefinitions.all fun rule => rule ∈ finalReport.rules) invariantViolation
  items.zipIdx.forM fun entry => sequenceFits profile entry.1 entry.2
  items.forM (replayDecision finalReport)

/-- `ExportCohort.__post_init__` -/
def checkCohort (profile : OutputProfile) (finalReport : VerificationReport)
    (items : List (ExportItem hashBytes digests)) : Except Raised Unit :=
  match items with
  | [] => .error (.domain invalidRequest)
  | first :: _ => do
    let plan ← exportPlanFor first.history.currentRequest.compiledSpec profile
    validateCohort profile finalReport items plan

/-- `ExportCohort` -/
structure ExportCohort (hashBytes : Bytes → Sha256) (digests : Digests) where
  outputProfile : OutputProfile
  finalReport : VerificationReport
  items : List (ExportItem hashBytes digests)
  valid : checkCohort outputProfile finalReport items = .ok ()

/-! ### Requests -/

/-- `_OUTPUT_RANK.index` -/
def outputRank : OutputProfile → Nat
  | .xhsGrid => 0
  | .talkingHeadCover => 1
  | .backgroundSequence => 2

/-- `_validate_cohort_order` -/
def validateCohortOrder (cohorts : List (ExportCohort hashBytes digests)) : Except Raised Unit :=
  let ranks := cohorts.map fun cohort => outputRank cohort.outputProfile
  ensure (ranks = ranks.insertionSort (· ≤ ·) ∧ ranks.Nodup) invalidRequest

/-- The requests of all items. -/
def exportRequests (cohorts : List (ExportCohort hashBytes digests)) : List GenerationRequest :=
  cohorts.flatMap fun cohort => cohort.items.flatMap fun item => item.history.allRequests

/-- One round of `_validate_request_invariants`, from the job seen so far. -/
def validateInvariants (environmentHash : Sha256) (compiled : CompiledStyleSpec)
    (jobId : Option JobId) (request : GenerationRequest) : Except Raised (Option JobId) := do
  ensure (request.generationProfile = .production) invalidRequest
  ensure (request.environmentHash = environmentHash) invalidRequest
  ensure (jobId.all fun id => request.jobId = id) invalidRequest
  ensure (request.compiledSpec = compiled) invalidRequest
  ensure (request.compiledSpec.compiledSpecHash = compiled.compiledSpecHash) invalidRequest
  return some (jobId.getD request.jobId)

/-- What `_derive_credits` collects: each asset with a role it has. -/
def collectedRoles (cohorts : List (ExportCohort hashBytes digests)) :
    List ((Text × Text) × CreditRole) :=
  (exportRequests cohorts).flatMap fun request =>
    (request.source.source.identity, .input) ::
      request.styleReferences.map fun ref => (ref.identity, .styleReference)

/-- `derived[key]` -/
def derivedRoles (collected : List ((Text × Text) × CreditRole)) (key : Text × Text) :
    List CreditRole :=
  creditRoleOrder.filter fun role => (key, role) ∈ collected

/-- `<=` on identities -/
def identityLe (a b : Text × Text) : Bool := a.1 < b.1 || (a.1 = b.1 && a.2 ≤ b.2)

/-- One item of `_validate_style_provenance`. -/
def validateStyleProvenance (references : List Spec.StyleReference) (credits : List AssetCredit)
    (item : ExportItem hashBytes digests) : Except Raised Unit := do
  let refs := item.history.initialAttempt.request.styleReferences
  ensure (refs.length = references.length) invalidRequest
  (refs.zip references).forM fun pair => do
    ensure (pair.1.sha256 = pair.2.assetSha256) invalidRequest
    match credits.find? fun credit => credit.identity = pair.1.identity with
    | none => .ok ()
    | some credit =>
      if .styleReference ∈ credit.roles then
        ensure (styleProvenance pair.2 = credit.provenance) invalidRequest
      else .ok ()

/-- `_validate_credits` -/
def validateCredits (references : List Spec.StyleReference)
    (cohorts : List (ExportCohort hashBytes digests)) (credits : List AssetCredit) :
    Except Raised Unit := do
  let collected := collectedRoles cohorts
  let identities := credits.map (·.identity)
  ensure (identities = identities.insertionSort fun a b => identityLe a b) invalidRequest
  ensure (decide identities.Nodup) invalidRequest
  ensure (identities.all (fun key => key ∈ collected.map (·.1)) &&
    collected.all fun pair => pair.1 ∈ identities) invalidRequest
  -- one hash for each asset id
  ensure (collected.all fun a => collected.all fun b => a.1.1 ≠ b.1.1 || a.1.2 = b.1.2)
    invalidRequest
  credits.forM fun credit =>
    ensure (credit.roles = derivedRoles collected credit.identity) invalidRequest
  cohorts.forM fun cohort => cohort.items.forM (validateStyleProvenance references credits)

section Requests

variable {Environment : Type} (hashEnvironment : Environment → Sha256)
  (styleReferences : CompiledStyleSpec → List Spec.StyleReference)

/-- `ExportRequest.__post_init__` -/
def checkExportRequest (cohorts : List (ExportCohort hashBytes digests))
    (environment : Environment) (credits : List AssetCredit) : Except Raised Unit := do
  ensure (!cohorts.isEmpty && !credits.isEmpty) invalidRequest
  validateCohortOrder cohorts
  match (cohorts.flatMap (·.items)).head? with
  | none => .error (.domain invalidRequest)
  | some first => do
    let compiled := first.history.currentRequest.compiledSpec
    let _ ← (exportRequests cohorts).foldlM
      (validateInvariants (hashEnvironment environment) compiled) none
    validateCredits (styleReferences compiled) cohorts credits

/-- `ExportRequest` -/
structure ExportRequest (hashBytes : Bytes → Sha256) (digests : Digests) where
  cohorts : List (ExportCohort hashBytes digests)
  environment : Environment
  assetCredits : List AssetCredit
  valid : checkExportRequest hashEnvironment styleReferences cohorts environment assetCredits =
    .ok ()

end Requests

/-! ### What a cohort has checked -/

theorem replayDecision_ok_iff {finalReport : VerificationReport}
    {item : ExportItem hashBytes digests} : replayDecision finalReport item = .ok () ↔
      item.decision.acceptedWithOverride = false ∧ item.decision.repairStopReason.isSome ∧
      decideArtifact finalReport item.target item.decision.repairStopReason false =
        .ok item.decision := by
  unfold replayDecision
  simp only [check_ok_iff, ensure_ok_iff, Bool.not_eq_true']
  refine and_congr_right fun hov => and_congr_right fun _ => ?_
  rw [hov, bind_ok_iff]
  simp only [ensure_ok_iff, decide_eq_true_eq]
  constructor
  · rintro ⟨d, hd, rfl⟩
    exact hd
  · intro hd
    exact ⟨_, hd, rfl⟩

theorem sequenceFits_ok_iff {profile : OutputProfile} {item : ExportItem hashBytes digests}
    {index : Nat} : sequenceFits profile item index = .ok () ↔
      item.sequenceIndex = (if profile = .backgroundSequence then some (index : Int) else none) ∧
      item.decision.artifactId = item.target := by
  unfold sequenceFits
  cases profile with
  | backgroundSequence => simp [check_ok_iff]
  | xhsGrid => simp [check_ok_iff]
  | talkingHeadCover => simp [check_ok_iff]

/-- What the constructor of a cohort checks, with the plan it finds. -/
structure CohortChecks (cohort : ExportCohort hashBytes digests)
    (plan : CompiledVerificationPlan) : Prop where
  planned : ∃ first ∈ cohort.items,
    exportPlanFor first.history.currentRequest.compiledSpec cohort.outputProfile = .ok plan
  refs : cohort.items.map (·.history.currentArtifact.ref) = cohort.finalReport.artifacts
  rules : ∀ rule, rule ∈ cohort.finalReport.rules ↔ rule ∈ plan.applicableRuleDefinitions
  sequence : ∀ item ∈ cohort.items, ∃ index,
    sequenceFits cohort.outputProfile item index = .ok ()
  replayed : ∀ item ∈ cohort.items, replayDecision cohort.finalReport item = .ok ()

theorem ExportCohort.checks (cohort : ExportCohort hashBytes digests) :
    ∃ plan, CohortChecks cohort plan := by
  have hv := cohort.valid
  unfold checkCohort at hv
  split at hv
  · cases hv
  · next first rest hitems =>
    obtain ⟨plan, hplan, hv⟩ := bind_ok_iff.mp hv
    unfold validateCohort at hv
    simp only [check_ok_iff, ensure_ok_iff, forM_ok_iff, decide_eq_true_eq, Bool.and_eq_true,
      List.all_eq_true] at hv
    obtain ⟨hrefs, -, ⟨hsub, hsup⟩, hseq, hreplay⟩ := hv
    refine ⟨plan, ⟨first, by rw [hitems]; exact List.mem_cons_self, hplan⟩, hrefs,
      fun rule => ⟨hsub rule, hsup rule⟩, ?_, hreplay⟩
    intro item hi
    obtain ⟨index, hget⟩ := List.mem_iff_getElem?.mp hi
    exact ⟨index, hseq (item, index) (List.mk_mem_zipIdx_iff_getElem?.mpr hget)⟩

/-! ### Approval -/

/-- An approval under a stop reason: all required gates pass, none is manual,
and the reason is `PASS_ALL_REQUIRED`. -/
theorem approved_of_decide {report : VerificationReport} {target : ArtifactId}
    {stop : Option RepairStopReason} {d : ArtifactDecision}
    (h : decideArtifact report target stop false = .ok d) (ha : d.artifactStatus = .approved) :
    (requiredGates (resultsAffectingArtifact report target)).any Gate.nonpass = false ∧
      hasManualPolicy (resultsAffectingArtifact report target) = false ∧
      (stop.isSome → stop = some .passAllRequired) := by
  obtain ⟨-, -, hstop, hroute, -⟩ := decideArtifact_ok_iff.mp h
  rw [ha] at hroute
  unfold route at hroute
  simp only at hroute
  split_ifs at hroute with h1 h2 h3 h4 h5
  · cases hroute
  · cases hroute
  · cases hroute
  · cases hroute
  · rw [Bool.not_eq_true'] at h5
    simp only [Bool.or_eq_true, decide_eq_true_eq, not_or, Bool.not_eq_true] at h4
    refine ⟨h5, h4.2, fun hs => ?_⟩
    obtain ⟨reason, rfl⟩ := Option.isSome_iff_exists.mp hs
    unfold validateStopReason at hstop
    simp only [check_ok_iff, ensure_ok_iff, h5, Bool.and_false, Bool.not_false, Bool.and_true,
      Bool.not_eq_true', true_and] at hstop
    obtain ⟨hexhausted, hunverifiable⟩ := hstop
    -- the exhausted reasons conflict with gates that pass
    cases reason with
    | passAllRequired => rfl
    | noAction => exact absurd hexhausted (by decide)
    | noImprovement => exact absurd hexhausted (by decide)
    | maxRounds => exact absurd hexhausted (by decide)
    | manualRequest => exact absurd rfl h4.1
    | unverifiable =>
        simp only [decide_true, Bool.true_and, Bool.not_eq_false'] at hunverifiable
        obtain ⟨g, hg, hu⟩ := List.any_eq_true.mp hunverifiable
        have hpass := List.any_eq_false.mp h5 g hg
        unfold Gate.nonpass at hpass
        rw [of_decide_eq_true hu] at hpass
        exact absurd rfl hpass

/-- Where the required gates pass, every required rule has `PASS`. -/
theorem statusOf_pass {report : VerificationReport} {target : ArtifactId}
    (ht : target ∈ report.ids)
    (h : (requiredGates (resultsAffectingArtifact report target)).any Gate.nonpass = false)
    {rule : RuleDefinition} (hrule : rule ∈ report.rules) (ha : rule.applicability = .applicable)
    (hr : rule.required = true) : report.statusOf rule.ruleId target = some .pass := by
  obtain ⟨result, hone, hg⟩ := exists_gate report hrule ha ht
  have hpass := List.any_eq_false.mp h (rule, result) (mem_requiredGates.mpr ⟨hg, hr⟩)
  unfold Gate.nonpass at hpass
  have hs : result.status = .pass := by simpa using hpass
  unfold VerificationReport.statusOf
  rw [hone]
  exact congrArg some hs

/-! ### Two reports on one artifact -/

/-- Two reports have the same rules, with the same statuses for the artifact. -/
structure SameStatuses (a b : VerificationReport) (target : ArtifactId) : Prop where
  rules : ∀ rule, rule ∈ a.rules ↔ rule ∈ b.rules
  statuses : ∀ rule ∈ a.rules, a.statusOf rule.ruleId target = b.statusOf rule.ruleId target

/-- A gate of the one report is one of the other, but for its measurement. -/
theorem SameStatuses.gate {a b : VerificationReport} {target : ArtifactId}
    (h : SameStatuses a b target) (ha : target ∈ a.ids) (hb : target ∈ b.ids) {g : Gate}
    (hg : g ∈ resultsAffectingArtifact a target) :
    ∃ g' ∈ resultsAffectingArtifact b target, g'.1 = g.1 ∧ g'.2.status = g.2.status := by
  obtain ⟨hr, -, hrule, hid⟩ := mem_resultsAffectingArtifact.mp hg
  obtain ⟨rule, hfound, happ, -⟩ := a.checks.known g.2 hr
  rw [← hid, ruleById_self a.checks.rules_nodup hrule] at hfound
  cases hfound
  obtain ⟨result, hone, hg'⟩ := exists_gate b ((h.rules g.1).mp hrule) happ hb
  refine ⟨_, hg', rfl, ?_⟩
  have hs := h.statuses g.1 hrule
  unfold VerificationReport.statusOf at hs
  rw [matching_of_gate hg ha, hone] at hs
  exact (Option.some.inj hs).symm

section Same

variable {a b : VerificationReport} {target : ArtifactId}

theorem SameStatuses.symm (h : SameStatuses a b target) : SameStatuses b a target where
  rules := fun rule => (h.rules rule).symm
  statuses := fun rule hrule => (h.statuses rule ((h.rules rule).mpr hrule)).symm

/-- The required gates of the one pass if those of the other do. -/
theorem SameStatuses.passes (h : SameStatuses a b target) (ha : target ∈ a.ids)
    (hb : target ∈ b.ids)
    (hpass : (requiredGates (resultsAffectingArtifact b target)).any Gate.nonpass = false) :
    (requiredGates (resultsAffectingArtifact a target)).any Gate.nonpass = false := by
  rw [List.any_eq_false]
  intro g hg hn
  obtain ⟨hg, hr⟩ := mem_requiredGates.mp hg
  obtain ⟨g', hg', hrule, hstatus⟩ := h.gate ha hb hg
  have hr' : g'.1.required = true := by
    rw [hrule]
    exact hr
  apply List.any_eq_false.mp hpass g' (mem_requiredGates.mpr ⟨hg', hr'⟩)
  unfold Gate.nonpass at hn ⊢
  rw [hstatus]
  exact hn

/-- No gate of the one is manual if none of the other is. -/
theorem SameStatuses.notManual (h : SameStatuses a b target) (ha : target ∈ a.ids)
    (hb : target ∈ b.ids) (hfree : hasManualPolicy (resultsAffectingArtifact b target) = false) :
    hasManualPolicy (resultsAffectingArtifact a target) = false := by
  unfold hasManualPolicy at hfree ⊢
  rw [List.any_eq_false]
  intro g hg hm
  obtain ⟨g', hg', hrule, hstatus⟩ := h.gate ha hb hg
  apply List.any_eq_false.mp hfree g' hg'
  unfold Gate.manual at hm ⊢
  rw [hrule, hstatus]
  exact hm

/-- There is a required gate for the one if there is for the other. -/
theorem SameStatuses.gated (h : SameStatuses a b target) (ha : target ∈ a.ids)
    (hb : target ∈ b.ids) (hne : requiredGates (resultsAffectingArtifact b target) ≠ []) :
    requiredGates (resultsAffectingArtifact a target) ≠ [] := by
  obtain ⟨g, hg⟩ := List.exists_mem_of_ne_nil _ hne
  obtain ⟨hg, hr⟩ := mem_requiredGates.mp hg
  obtain ⟨g', hg', hrule, -⟩ := h.symm.gate hb ha hg
  refine List.ne_nil_of_mem (mem_requiredGates.mpr ⟨hg', ?_⟩)
  rw [hrule]
  exact hr

end Same

/-- Gates that pass, none of them manual, are approved. -/
theorem route_none_approved {relevant : List Gate} {status : ArtifactStatus}
    {reason : DecisionReason} (h : route none relevant = .ok (status, reason))
    (hpass : (requiredGates relevant).any Gate.nonpass = false)
    (hfree : hasManualPolicy relevant = false) :
    status = .approved ∧ reason = .allRequiredPass := by
  have hreject : (requiredGates relevant).any Gate.rejectsUnverifiable = false := by
    rw [List.any_eq_false]
    intro g hg hu
    apply List.any_eq_false.mp hpass g hg
    unfold Gate.nonpass
    rw [(of_decide_eq_true hu).1]
    rfl
  have hfail : (requiredGates relevant).any Gate.rejects = false := by
    rw [List.any_eq_false]
    intro g hg hr
    exact List.any_eq_false.mp hpass g hg (Gate.nonpass_of_rejects hr)
  unfold route at h
  simp only at h
  rw [hreject, hfail, hfree, hpass] at h
  cases h
  exact ⟨rfl, rfl⟩

/-- A history whose required gates pass, none of its gates manual, ends with
`PASS_ALL_REQUIRED`. -/
theorem nextRepairStep_passes {history : RepairHistory hashBytes digests}
    (ht : history.currentTargetArtifactId ∈ history.currentReport.ids)
    (hgates : requiredGates (resultsAffectingArtifact history.currentReport
      history.currentTargetArtifactId) ≠ [])
    (hpass : (requiredGates (resultsAffectingArtifact history.currentReport
      history.currentTargetArtifactId)).any Gate.nonpass = false)
    (hfree : hasManualPolicy (resultsAffectingArtifact history.currentReport
      history.currentTargetArtifactId) = false) (decisionId : DecisionId)
    (attemptId : AttemptId) :
    ∃ t, nextRepairStep history decisionId attemptId = .ok (.terminal t) ∧
      t.artifactDecision.repairStopReason = some .passAllRequired := by
  obtain ⟨routed, hrouted⟩ := decideArtifact_total ht hgates (validateStopReason_none _)
  have hstop : repairStopReason history = .ok (some .passAllRequired) := by
    have hcase := route_none_approved (decideArtifact_ok_iff.mp hrouted).2.2.2.1 hpass hfree
    unfold repairStopReason
    rw [hrouted, ok_bind, if_pos hcase]
    rfl
  have hvalid : validateStopReason (some .passAllRequired) (requiredGates
      (resultsAffectingArtifact history.currentReport history.currentTargetArtifactId)) =
        .ok () := by
    unfold validateStopReason
    rw [hpass]
    rfl
  obtain ⟨t, hterminal, hreason⟩ := terminal_of_valid (by decide) ht hgates hvalid
  exact ⟨t, nextRepairStep_stop hstop hterminal decisionId attemptId, hreason⟩

/-- The report of a history has the current artifact. -/
theorem RepairHistory.target_mem (history : RepairHistory hashBytes digests) :
    history.currentTargetArtifactId ∈ history.currentReport.ids := by
  obtain ⟨s, hs⟩ := history.replayedTo
  rw [hs.currentReport, hs.currentTarget]
  exact List.mem_map_of_mem hs.replayed.ref

/-! ### Paths -/

/-- Only what is approved lies under `approved/`. -/
theorem relativePath_approved {status : ArtifactStatus} {profile : OutputProfile}
    {inputAssetId : AssetId} {leaf : Text} :
    py "approved/" <+: relativePath status profile inputAssetId leaf ↔ status = .approved := by
  cases status with
  | approved =>
      refine iff_of_true ?_ rfl
      show py "approved/" <+: py "approved/" ++ profile.value ++ py "/" ++ leaf
      rw [List.append_assoc, List.append_assoc]
      exact List.prefix_append _ _
  | rejected =>
      refine iff_of_false ?_ (by decide)
      rintro ⟨rest, h⟩
      exact absurd (List.cons.inj h).1 (by decide)
  | manualReview =>
      refine iff_of_false ?_ (by decide)
      rintro ⟨rest, h⟩
      exact absurd (List.cons.inj h).1 (by decide)

/-- An item of a cohort has its path. -/
theorem CohortChecks.path {cohort : ExportCohort hashBytes digests}
    {plan : CompiledVerificationPlan} (h : CohortChecks cohort plan)
    {item : ExportItem hashBytes digests} (hi : item ∈ cohort.items) :
    ∃ path, item.path cohort.outputProfile = .ok path ∧
      (py "approved/" <+: path ↔ item.decision.artifactStatus = .approved) := by
  obtain ⟨index, hfits⟩ := h.sequence item hi
  obtain ⟨hseq, -⟩ := sequenceFits_ok_iff.mp hfits
  have hleaf : ∃ leaf, exportLeaf item.target item.sequenceIndex cohort.outputProfile =
      .ok leaf := by
    rw [hseq]
    cases cohort.outputProfile with
    | backgroundSequence => exact ⟨_, rfl⟩
    | xhsGrid => exact ⟨_, rfl⟩
    | talkingHeadCover => exact ⟨_, rfl⟩
  obtain ⟨leaf, hleaf⟩ := hleaf
  have hpath : item.path cohort.outputProfile = .ok (relativePath item.decision.artifactStatus
      cohort.outputProfile item.inputAssetId leaf) := by
    unfold ExportItem.path
    rw [hleaf]
    rfl
  exact ⟨_, hpath, relativePath_approved⟩

/-! ### Requests -/

/-- What a round checks, for all the requests. -/
theorem validateInvariants_spec {environmentHash : Sha256} {compiled : CompiledStyleSpec}
    {requests : List GenerationRequest} {jobId jobId' : Option JobId}
    (h : requests.foldlM (validateInvariants environmentHash compiled) jobId = .ok jobId') :
    ∀ request ∈ requests, request.compiledSpec = compiled := by
  induction requests generalizing jobId with
  | nil =>
      intro request hr
      cases hr
  | cons first rest ih =>
      obtain ⟨next, hfirst, h⟩ := bind_ok_iff.mp h
      have hspec : first.compiledSpec = compiled := by
        unfold validateInvariants at hfirst
        simp only [check_ok_iff, ensure_ok_iff, decide_eq_true_eq] at hfirst
        exact hfirst.2.2.2.1
      intro request hr
      rcases List.mem_cons.mp hr with rfl | hr
      · exact hspec
      · exact ih h request hr

/-- The current request is one of all. -/
theorem RepairHistory.currentRequest_mem_all (history : RepairHistory hashBytes digests) :
    history.currentRequest ∈ history.allRequests := by
  unfold RepairHistory.currentRequest RepairHistory.allRequests
  rcases hl : history.repairAttempts.getLast? with - | attempt
  · exact List.mem_cons_self
  · exact List.mem_cons_of_mem _ (List.mem_map_of_mem (List.mem_of_getLast? hl))

section Requests

variable {Environment : Type} {hashEnvironment : Environment → Sha256}
  {styleReferences : CompiledStyleSpec → List Spec.StyleReference}

/-- All items of a request are of one specification. -/
theorem ExportRequest.one_spec
    (request : ExportRequest hashEnvironment styleReferences hashBytes digests) :
    ∃ compiled, ∀ cohort ∈ request.cohorts, ∀ item ∈ cohort.items,
      item.history.currentRequest.compiledSpec = compiled := by
  have hv := request.valid
  unfold checkExportRequest at hv
  obtain ⟨-, hv⟩ := check_ok_iff.mp hv
  obtain ⟨-, hv⟩ := check_ok_iff.mp hv
  split at hv
  · cases hv
  · next first _ =>
    obtain ⟨jobId, hall, -⟩ := bind_ok_iff.mp hv
    refine ⟨first.history.currentRequest.compiledSpec, fun cohort hc item hi => ?_⟩
    apply validateInvariants_spec hall
    refine List.mem_flatMap.mpr ⟨cohort, hc, List.mem_flatMap.mpr ⟨item, hi, ?_⟩⟩
    exact item.history.currentRequest_mem_all

/-- The decision of an exported artifact is the one of the final report, whose
rules are those of the plan of its specification.  What is approved, and so
lies under `approved/`, has `PASS` there for every required rule.  It has in
its history too, which then ends for the recorded reason, where the two
reports give it the same statuses. -/
theorem exported_decisions
    (request : ExportRequest hashEnvironment styleReferences hashBytes digests)
    {cohort : ExportCohort hashBytes digests} (hc : cohort ∈ request.cohorts)
    {item : ExportItem hashBytes digests} (hi : item ∈ cohort.items) :
    decideArtifact cohort.finalReport item.target item.decision.repairStopReason false =
      .ok item.decision ∧
    (∃ path, item.path cohort.outputProfile = .ok path ∧
      (py "approved/" <+: path ↔ item.decision.artifactStatus = .approved)) ∧
    (item.decision.artifactStatus = .approved →
      item.decision.repairStopReason = some .passAllRequired ∧
      (∃ plan, exportPlanFor item.history.currentRequest.compiledSpec cohort.outputProfile =
          .ok plan ∧ ∀ rule ∈ plan.applicableRuleDefinitions, rule.required = true →
            cohort.finalReport.statusOf rule.ruleId item.target = some .pass) ∧
      (SameStatuses item.history.currentReport cohort.finalReport item.target →
        (∀ rule ∈ item.history.currentReport.rules, rule.applicability = .applicable →
          rule.required = true →
            item.history.currentReport.statusOf rule.ruleId item.target = some .pass) ∧
        ∀ decisionId attemptId, ∃ t,
          nextRepairStep item.history decisionId attemptId = .ok (.terminal t) ∧
            t.artifactDecision.repairStopReason = item.decision.repairStopReason)) := by
  obtain ⟨plan, hcohort⟩ := cohort.checks
  obtain ⟨-, hsome, hdecided⟩ := replayDecision_ok_iff.mp (hcohort.replayed item hi)
  refine ⟨hdecided, hcohort.path hi, fun happroved => ?_⟩
  obtain ⟨hpass, hfree, hreason⟩ := approved_of_decide hdecided happroved
  obtain ⟨hreported, hgates, -⟩ := decideArtifact_ok_iff.mp hdecided
  refine ⟨hreason hsome, ?_, fun hsame => ?_⟩
  · obtain ⟨compiled, hspec⟩ := request.one_spec
    obtain ⟨first, hf, hplan⟩ := hcohort.planned
    rw [hspec cohort hc first hf] at hplan
    rw [hspec cohort hc item hi]
    refine ⟨plan, hplan, fun rule hrule hr => ?_⟩
    have happ := (mem_applicableRuleDefinitions.mp hrule).2
    exact statusOf_pass hreported hpass ((hcohort.rules rule).mpr hrule) happ hr
  · have ht := item.history.target_mem
    have hopen := hsame.passes ht hreported hpass
    refine ⟨fun rule hrule happ hr => statusOf_pass ht hopen hrule happ hr, ?_⟩
    intro decisionId attemptId
    rw [hreason hsome]
    exact nextRepairStep_passes ht (hsame.gated ht hreported hgates) hopen
      (hsame.notManual ht hreported hfree) decisionId attemptId

end Requests

/-! ### A history that does not count -/

namespace UnboundHistory

/-- The report that passes the artifact its history fails. -/
def passingReport : VerificationReport :=
  ⟨[IdleRepairs.ref "artifact-0"], [IdleRepairs.rule.definition],
    [⟨IdleRepairs.rule.definition.ruleId, .pass, [(IdleRepairs.ref "artifact-0").artifactId], none⟩],
    by decide⟩

/-- Approved by that report. -/
def approvedItem : ExportItem (fun _ => sampleHash) IdleRepairs.digests where
  history := IdleRepairs.start
  terminal := ⟨⟨Id.lit .artifact "artifact-0", .approved, .allRequiredPass, some .passAllRequired,
    false, by decide, by decide⟩, none, by decide⟩
  sequenceIndex := none

/-- Rejected by the report of the history, as if the repair were exhausted. -/
def rejectedItem : ExportItem (fun _ => sampleHash) IdleRepairs.digests where
  history := IdleRepairs.start
  terminal := ⟨⟨Id.lit .artifact "artifact-0", .rejected, .repairExhausted, some .noImprovement,
    false, by decide, by decide⟩, none, by decide⟩
  sequenceIndex := none

def approvedCohort : ExportCohort (fun _ => sampleHash) IdleRepairs.digests :=
  ⟨.xhsGrid, passingReport, [approvedItem], by decide +kernel⟩

def rejectedCohort : ExportCohort (fun _ => sampleHash) IdleRepairs.digests :=
  ⟨.xhsGrid, IdleRepairs.firstReport, [rejectedItem], by decide +kernel⟩

def reference : Spec.StyleReference where
  assetSha256 := sampleHash
  sourceUrl := ⟨py "https://example.org/reference", by decide⟩
  license := ⟨py "CC BY 4.0", by decide⟩
  attribution := ⟨py "the studio", by decide⟩
  consent := .notApplicable

def credit : AssetCredit where
  asset := IdleRepairs.asset
  roles := [.input, .styleReference]
  sourceUrl := some (py "https://example.org/reference")
  license := some (py "CC BY 4.0")
  attribution := some (py "the studio")
  consent := some .notApplicable
  ordered := by decide

/-- The one environment. -/
def environmentHash (_ : Unit) : Sha256 := sampleHash

def styleReferences (_ : CompiledStyleSpec) : List Spec.StyleReference := [reference]

def approvedRequest : ExportRequest environmentHash styleReferences (fun _ => sampleHash)
    IdleRepairs.digests :=
  ⟨[approvedCohort], (), [credit], by decide +kernel⟩

def rejectedRequest : ExportRequest environmentHash styleReferences (fun _ => sampleHash)
    IdleRepairs.digests :=
  ⟨[rejectedCohort], (), [credit], by decide +kernel⟩

/-- The history asks for another generation. -/
theorem repairs : nextRepairStep IdleRepairs.start IdleRepairs.firstRepair.decision.decisionId
    IdleRepairs.firstRepair.request.attemptId =
      .ok (.next ⟨IdleRepairs.firstRepair.decision, IdleRepairs.firstRepair.request⟩) := by
  obtain ⟨s, hs⟩ := IdleRepairs.start.replayedTo
  have hs' : s = IdleRepairs.initial.start := (Except.ok.inj hs.loop).symm
  have hround : (replayAttempt IdleRepairs.digests s IdleRepairs.firstRepair).toOption.isSome =
      true := by
    rw [hs']
    decide +kernel
  rcases hr : replayAttempt IdleRepairs.digests s IdleRepairs.firstRepair with e | next
  · rw [hr] at hround
    cases hround
  · obtain ⟨plan, improved, hl, -⟩ := replayAttempt_ok_iff.mp hr
    refine hs.next hl ?_ ?_
    · rw [hs']
      decide
    · decide

end UnboundHistory

/-- Neither the stop reason nor the last verification of the history counts:
with the report of the history a request is accepted that records a stop
reason the history does not give, and with another report one that approves an
artifact whose last verification failed. -/
theorem unbound_history_exported :
    (UnboundHistory.rejectedRequest.cohorts = [UnboundHistory.rejectedCohort] ∧
      UnboundHistory.rejectedCohort.finalReport = IdleRepairs.start.currentReport ∧
      UnboundHistory.rejectedCohort.items = [UnboundHistory.rejectedItem] ∧
      UnboundHistory.rejectedItem.decision.repairStopReason = some .noImprovement) ∧
    (UnboundHistory.approvedRequest.cohorts = [UnboundHistory.approvedCohort] ∧
      UnboundHistory.approvedCohort.items = [UnboundHistory.approvedItem] ∧
      UnboundHistory.approvedItem.decision.artifactStatus = .approved ∧
      UnboundHistory.approvedItem.history.currentReport.statusOf
        IdleRepairs.rule.definition.ruleId UnboundHistory.approvedItem.target = some .fail) ∧
    nextRepairStep IdleRepairs.start IdleRepairs.firstRepair.decision.decisionId
      IdleRepairs.firstRepair.request.attemptId =
        .ok (.next ⟨IdleRepairs.firstRepair.decision, IdleRepairs.firstRepair.request⟩) :=
  ⟨⟨rfl, rfl, rfl, rfl⟩, ⟨rfl, rfl, rfl, by decide +kernel⟩, UnboundHistory.repairs⟩

/-! ### A repaired history -/

namespace RepairedHistory

/-- The report that passes the repaired artifact. -/
def passed : VerificationReport :=
  ⟨[IdleRepairs.ref "artifact-1"], [IdleRepairs.rule.definition],
    [⟨IdleRepairs.rule.definition.ruleId, .pass, [(IdleRepairs.ref "artifact-1").artifactId], none⟩],
    by decide⟩

/-- The first artifact fails, and its repair passes. -/
def history : RepairHistory (fun _ => sampleHash) IdleRepairs.digests where
  initialAttempt := IdleRepairs.initial
  repairAttempts := [{ IdleRepairs.firstRepair with report := passed }]
  rounds := 1
  consecutiveNoImprovement := 0
  seenStateKeys := [IdleRepairs.initial.request.state, IdleRepairs.firstRepair.request.state]
  valid := by decide +kernel

def item : ExportItem (fun _ => sampleHash) IdleRepairs.digests where
  history := history
  terminal := ⟨⟨Id.lit .artifact "artifact-1", .approved, .allRequiredPass, some .passAllRequired,
    false, by decide, by decide⟩, none, by decide⟩
  sequenceIndex := none

def cohort : ExportCohort (fun _ => sampleHash) IdleRepairs.digests :=
  ⟨.xhsGrid, passed, [item], by decide +kernel⟩

def request : ExportRequest UnboundHistory.environmentHash UnboundHistory.styleReferences
    (fun _ => sampleHash) IdleRepairs.digests :=
  ⟨[cohort], (), [UnboundHistory.credit], by decide +kernel⟩

theorem sameStatuses : SameStatuses item.history.currentReport cohort.finalReport item.target :=
  ⟨fun _ => Iff.rfl, fun _ _ => rfl⟩

end RepairedHistory

/-- The repaired artifact is exported as approved: it has its path, passes in the
final report and in its history, and the history ends for the recorded reason. -/
theorem exported_decisions_repaired :
    (∃ path, RepairedHistory.item.path .xhsGrid = .ok path ∧
      (py "approved/" <+: path ↔ RepairedHistory.item.decision.artifactStatus = .approved)) ∧
    (∃ plan, exportPlanFor RepairedHistory.history.currentRequest.compiledSpec .xhsGrid = .ok plan ∧
      ∀ rule ∈ plan.applicableRuleDefinitions, rule.required = true →
        RepairedHistory.passed.statusOf rule.ruleId RepairedHistory.item.target = some .pass) ∧
    (∀ rule ∈ RepairedHistory.history.currentReport.rules, rule.applicability = .applicable →
      rule.required = true → RepairedHistory.history.currentReport.statusOf rule.ruleId
        RepairedHistory.item.target = some .pass) ∧
    ∀ decisionId attemptId, ∃ t,
      nextRepairStep RepairedHistory.history decisionId attemptId = .ok (.terminal t) ∧
        t.artifactDecision.repairStopReason =
          RepairedHistory.item.decision.repairStopReason := by
  have hc : RepairedHistory.cohort ∈ RepairedHistory.request.cohorts := List.mem_singleton_self _
  have hi : RepairedHistory.item ∈ RepairedHistory.cohort.items := List.mem_singleton_self _
  obtain ⟨-, hpath, hpass⟩ := exported_decisions RepairedHistory.request hc hi
  obtain ⟨-, hplan, hhistory⟩ := hpass rfl
  obtain ⟨hcurrent, hstep⟩ := hhistory RepairedHistory.sameStatuses
  exact ⟨hpath, hplan, hcurrent, hstep⟩

end SpecStyle
