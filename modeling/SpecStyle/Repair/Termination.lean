/-
SpecStyle/Repair/Termination.lean

Repair runs are never stuck and end.

On every history of the machine a step answers (`step_total`), and every
artifact and report that fit its command (`Answers`) are taken in
(`answer_consumed`).  Each result uses up a round of the policy, so a run ends
(`RepairRun.bounded`).  An end is an end for good: asked again, the machine
gives the same stop reason, but for one refusal, that of a decision id already
executed where there was no action (`terminal_again`).
-/
import SpecStyle.Repair.HistoryMachine

namespace SpecStyle

open PyLib

section Machine

variable {hashBytes : Bytes → Sha256} {digests : Digests}

/-! ### Gates of a history -/

/-- The initial artifact has an applicable required gate. -/
def RepairHistory.gated (history : RepairHistory hashBytes digests) : Prop :=
  requiredGates (resultsAffectingArtifact history.initialAttempt.report
    history.initialAttempt.artifact.ref.artifactId) ≠ []

/-- A report of the plan on an artifact has a required gate if the plan has. -/
theorem MatchesPlan.gated_iff {plan : CompiledVerificationPlan} {report : VerificationReport}
    {target : ArtifactId} (h : MatchesPlan plan report target) :
    requiredGates (resultsAffectingArtifact report target) ≠ [] ↔ orderedRequired plan ≠ [] := by
  constructor
  · intro hne
    obtain ⟨g, hg⟩ := List.exists_mem_of_ne_nil _ hne
    obtain ⟨rule, hr, -⟩ := h.rule hg
    exact List.ne_nil_of_mem hr
  · intro hne
    obtain ⟨rule, hr⟩ := List.exists_mem_of_ne_nil _ hne
    obtain ⟨result, -, hg⟩ := h.gate hr
    exact List.ne_nil_of_mem hg

/-- What a step finds: one plan, whose rules the report has, with a gate. -/
structure Ready (history : RepairHistory hashBytes digests) (s : ReplayState hashBytes)
    (plan : CompiledVerificationPlan) : Prop where
  replayedTo : ReplayedTo history s
  planned : planFor s.request = .ok plan
  matching : MatchesPlan plan s.report s.target
  gate : requiredGates (resultsAffectingArtifact s.report s.target) ≠ []

/-- Every history with a gate is ready for a step. -/
theorem RepairHistory.ready {history : RepairHistory hashBytes digests} (hg : history.gated) :
    ∃ s plan, Ready history s plan := by
  obtain ⟨s, hs⟩ := history.replayedTo
  obtain ⟨href, plan, hplan, hrules⟩ := history.initialAttempt.checked
  have hfirst : MatchesPlan plan history.initialAttempt.report
      history.initialAttempt.artifact.ref.artifactId :=
    ⟨hrules, List.mem_map_of_mem href⟩
  have hmatch : MatchesPlan plan s.report s.target :=
    ⟨hs.replayed.rules plan hplan, List.mem_map_of_mem hs.replayed.ref⟩
  refine ⟨s, plan, hs, ?_, hmatch, hmatch.gated_iff.mpr (hfirst.gated_iff.mp hg)⟩
  rw [planFor_congr hs.replayed.spec hs.replayed.output]
  exact hplan

section Step

variable {history : RepairHistory hashBytes digests} {s : ReplayState hashBytes}
  {plan : CompiledVerificationPlan}

/-- A selection may be asked for. -/
theorem Ready.selectable (h : Ready history s plan) :
    Selectable s.request plan s.report s.target s.seen where
  matching := h.matching
  plan := planFor_ok_iff.mp h.planned
  version := by
    rw [h.replayedTo.replayed.spec]
    exact h.replayedTo.version
  seen := h.replayedTo.replayed.seen

/-- The id of the current attempt is one of the history. -/
theorem RepairHistory.currentRequest_mem (history : RepairHistory hashBytes digests) :
    history.currentRequest.attemptId ∈ attemptIds history := by
  unfold RepairHistory.currentRequest SpecStyle.attemptIds
  rcases hl : history.repairAttempts.getLast? with - | attempt
  · exact List.mem_cons_self
  · exact List.mem_cons_of_mem _ (List.mem_map_of_mem (List.mem_of_getLast? hl))

/-! ### Stop reasons -/

/-- A stop reason that fits the gates has its terminal. -/
theorem terminal_of_valid {stop : RepairStopReason} (hne : stop ≠ .noAction)
    (ht : history.currentTargetArtifactId ∈ history.currentReport.ids)
    (hg : requiredGates (resultsAffectingArtifact history.currentReport
      history.currentTargetArtifactId) ≠ [])
    (hv : validateStopReason (some stop) (requiredGates (resultsAffectingArtifact
      history.currentReport history.currentTargetArtifactId)) = .ok ()) :
    ∃ t, terminal history stop none = .ok (.terminal t) ∧
      t.artifactDecision.repairStopReason = some stop := by
  obtain ⟨d, hd⟩ := decideArtifact_total ht hg hv
  exact terminal_ok hd (decideArtifact_ok_iff.mp hd).2.2.2.2.2.1 hne

/-- The routes without a stop reason. -/
theorem route_none_cases {relevant : List Gate} {status : ArtifactStatus} {reason : DecisionReason}
    (h : route none relevant = .ok (status, reason)) :
    (status = .rejected ∧ reason = .requiredGateUnverifiable ∧
      (requiredGates relevant).any Gate.rejectsUnverifiable = true) ∨
    (status = .rejected ∧ reason = .requiredGateFailed) ∨
    (status = .manualReview ∧ reason = .manualPolicy) ∨
    (status = .approved ∧ reason = .allRequiredPass ∧
      (requiredGates relevant).any Gate.nonpass = false) := by
  unfold route at h
  simp only [Option.any_none, Bool.false_and, Bool.false_eq_true, if_false] at h
  split_ifs at h with h1 h2 h3 h4
  · cases h
    exact .inl ⟨rfl, rfl, h1⟩
  · cases h
    exact .inr (.inl ⟨rfl, rfl⟩)
  · cases h
    exact .inr (.inr (.inl ⟨rfl, rfl⟩))
  · cases h
    rw [Bool.not_eq_true'] at h4
    exact .inr (.inr (.inr ⟨rfl, rfl, h4⟩))

/-- A step ends for a reason with a terminal, or the gate failure is repaired. -/
theorem Ready.stop_cases (h : Ready history s plan) :
    (∃ stop t, repairStopReason history = .ok (some stop) ∧
      terminal history stop none = .ok (.terminal t) ∧
      t.artifactDecision.repairStopReason = some stop ∧ stop ≠ .noAction) ∨
    (repairStopReason history = .ok none ∧ GateFailed s.report s.target ∧
      history.repairAttempts.length <
        history.initialAttempt.request.compiledSpec.repair.maxRounds) := by
  have hs := h.replayedTo
  have ht := h.matching.target
  have hg := h.gate
  obtain ⟨d, hd⟩ := decideArtifact_total ht hg (validateStopReason_none _)
  have hroute := (decideArtifact_ok_iff.mp hd).2.2.2.1
  -- a reason for which the repair ends comes with its terminal
  have hends (stop : RepairStopReason) (hne : stop ≠ .noAction)
      (hr : repairStopReason history = .ok (some stop))
      (hv : validateStopReason (some stop)
        (requiredGates (resultsAffectingArtifact s.report s.target)) = .ok ()) :
      ∃ stop t, repairStopReason history = .ok (some stop) ∧
        terminal history stop none = .ok (.terminal t) ∧
        t.artifactDecision.repairStopReason = some stop ∧ stop ≠ .noAction := by
    rw [← hs.currentReport, ← hs.currentTarget] at ht hg hv
    obtain ⟨t, hterminal, hreason⟩ := terminal_of_valid hne ht hg hv
    exact ⟨stop, t, hr, hterminal, hreason, hne⟩
  have hrouted (stop : RepairStopReason)
      (hstop : d.artifactStatus = .approved ∧ d.decisionReason = .allRequiredPass ∧
          stop = .passAllRequired ∨
        d.artifactStatus = .rejected ∧ d.decisionReason = .requiredGateUnverifiable ∧
          stop = .unverifiable ∨
        d.artifactStatus = .manualReview ∧ d.decisionReason = .manualPolicy ∧
          stop = .manualRequest) : repairStopReason history = .ok (some stop) := by
    unfold repairStopReason
    rw [hs.currentReport, hs.currentTarget, hd, ok_bind]
    rcases hstop with ⟨ha, hb, rfl⟩ | ⟨ha, hb, rfl⟩ | ⟨ha, hb, rfl⟩ <;> simp only [ha, hb] <;> rfl
  rcases route_none_cases hroute with ⟨ha, hb, hany⟩ | ⟨ha, hb⟩ | ⟨ha, hb⟩ | ⟨ha, hb, hany⟩
  · refine .inl (hends .unverifiable (by decide) (hrouted _ (.inr (.inl ⟨ha, hb, rfl⟩))) ?_)
    obtain ⟨g, hgm, hgu⟩ := List.any_eq_true.mp hany
    have hunverifiable : (requiredGates (resultsAffectingArtifact s.report s.target)).any
        (fun g => g.2.status = .unverifiable) = true :=
      List.any_eq_true.mpr ⟨g, hgm, decide_eq_true (of_decide_eq_true hgu).1⟩
    unfold validateStopReason
    rw [hunverifiable]
    rfl
  · have hfailed : GateFailed s.report s.target := ⟨d, hd, ha, hb⟩
    have hstop := hs.stopReason hfailed
    split_ifs at hstop with hlate hout
    · obtain ⟨d', hd', hds⟩ := @GateFailed.exhausted _ _ hfailed .noImprovement (by decide)
      rw [← hs.currentReport, ← hs.currentTarget] at hd'
      obtain ⟨t, hterminal, hreason⟩ := terminal_ok hd' hds (by decide)
      exact .inl ⟨_, t, hstop, hterminal, hreason, by decide⟩
    · obtain ⟨d', hd', hds⟩ := @GateFailed.exhausted _ _ hfailed .maxRounds (by decide)
      rw [← hs.currentReport, ← hs.currentTarget] at hd'
      obtain ⟨t, hterminal, hreason⟩ := terminal_ok hd' hds (by decide)
      exact .inl ⟨_, t, hstop, hterminal, hreason, by decide⟩
    · exact .inr ⟨hstop, hfailed, Nat.lt_of_not_le hout⟩
  · exact .inl (hends .manualRequest (by decide) (hrouted _ (.inr (.inr ⟨ha, hb, rfl⟩))) rfl)
  · refine .inl (hends .passAllRequired (by decide) (hrouted _ (.inl ⟨ha, hb, rfl⟩)) ?_)
    unfold validateStopReason
    rw [hany]
    rfl

/-- Where there is a stop reason the step is its terminal, whatever the ids. -/
theorem nextRepairStep_stop {stop : RepairStopReason} {t : RepairTerminal}
    (hstop : repairStopReason history = .ok (some stop))
    (ht : terminal history stop none = .ok (.terminal t)) (decisionId : DecisionId)
    (attemptId : AttemptId) :
    nextRepairStep history decisionId attemptId = .ok (.terminal t) := by
  unfold nextRepairStep
  rw [rewrap_ok_iff, hstop, ok_bind]
  exact ht

/-! ### A step answers -/

/-- Without an action the machine ends. -/
theorem terminal_noAction (h : Ready history s plan) (hf : GateFailed s.report s.target)
    (n : NoAction) : ∃ t, terminal history .noAction (some n) = .ok (.terminal t) ∧
      t.artifactDecision.repairStopReason = some .noAction := by
  obtain ⟨d, hd, hds⟩ := @GateFailed.exhausted _ _ hf .noAction (by decide)
  rw [← h.replayedTo.currentReport, ← h.replayedTo.currentTarget] at hd
  have hvalid : (some n).isNone = decide (d.repairStopReason ≠ some .noAction) := by
    rw [hds]
    rfl
  refine ⟨⟨d, some n, hvalid⟩, ?_, hds⟩
  unfold terminal RepairTerminal.new
  rw [hd, ok_bind, dif_pos hvalid]
  rfl

/-- The ids of a step are not yet used in the history. -/
structure FreshIds (history : RepairHistory hashBytes digests) (decisionId : DecisionId)
    (attemptId : AttemptId) : Prop where
  decision : decisionId ∉ executedDecisionIds history
  attempt : attemptId ∉ attemptIds history

/-- With fresh ids a step answers. -/
theorem step_total (hg : history.gated) {decisionId : DecisionId} {attemptId : AttemptId}
    (hfresh : FreshIds history decisionId attemptId) :
    ∃ step, nextRepairStep history decisionId attemptId = .ok step := by
  obtain ⟨s, plan, h⟩ := RepairHistory.ready hg
  have hs := h.replayedTo
  rcases h.stop_cases with ⟨stop, t, hstop, ht, -⟩ | ⟨hstop, hf, -⟩
  · exact ⟨.terminal t, nextRepairStep_stop hstop ht _ _⟩
  · obtain ⟨selection, hsel⟩ := selectRepair_total h.selectable hf decisionId
    have hdecision : ensure (decide (decisionId ∉ executedDecisionIds history))
        "invalid repair transition" = .ok () := ensure_ok_iff.mpr (decide_eq_true hfresh.decision)
    have hattempt : ensure (decide (attemptId ∉ attemptIds history))
        "invalid repair transition" = .ok () := ensure_ok_iff.mpr (decide_eq_true hfresh.attempt)
    unfold nextRepairStep
    simp only [rewrap_ok_iff]
    rw [hstop, ok_bind]
    show ∃ step, (ensure _ _ >>= fun _ => _) = _
    rw [hdecision, ok_bind, hs.currentRequest, h.planned, ok_bind, hs.currentReport,
      hs.currentTarget, hs.seen, hsel, ok_bind]
    cases selection with
    | noAction n =>
        obtain ⟨t, ht, -⟩ := terminal_noAction h hf n
        exact ⟨_, ht⟩
    | decision d =>
        obtain ⟨hplan, -⟩ := selectRepair_decision hsel
        have hne : attemptId ≠ s.request.attemptId := by
          intro he
          apply hfresh.attempt
          rw [he, ← hs.currentRequest]
          exact history.currentRequest_mem
        obtain ⟨child, hchild⟩ : ∃ child, buildRepairRequest s.request d attemptId = .ok child :=
          ⟨⟨_, child_valid⟩, (buildRepairRequest_ok_iff hplan).mpr ⟨hne, rfl⟩⟩
        refine ⟨.next ⟨d, child⟩, ?_⟩
        show (ensure _ _ >>= fun _ => _) = _
        rw [hattempt, ok_bind, hchild]
        rfl

/-! ### An answer is taken in -/

/-- What a command asks for: an artifact of a fresh id with the hashes of the
request, and a report with the rules of the plan on the cohort with the target
slot replaced. -/
structure Answers (history : RepairHistory hashBytes digests) (command : NextGeneration)
    (artifact : GeneratedArtifact hashBytes) (report : VerificationReport) : Prop where
  initialId : artifact.ref.artifactId ≠ history.initialAttempt.artifact.ref.artifactId
  attemptId : ∀ attempt ∈ history.repairAttempts,
    artifact.ref.artifactId ≠ attempt.artifact.ref.artifactId
  hashes : artifact.requestHash = command.request.requestHash digests ∧
    artifact.generationFingerprint = command.request.generationFingerprint digests
  rules : ∀ plan, planFor history.currentRequest = .ok plan →
    report.rules = plan.applicableRuleDefinitions
  slot : replacesSlot history.currentReport.artifacts report.artifacts
    history.currentArtifact.ref artifact.ref = true

/-- What a command of the machine is. -/
structure Commanded (s : ReplayState hashBytes) (plan : CompiledVerificationPlan)
    (command : NextGeneration) : Prop where
  selected : selectRepair s.request plan s.report s.target command.decision.decisionId s.seen =
    .ok (.decision command.decision)
  request : buildRepairRequest s.request command.decision command.request.attemptId =
    .ok command.request
  decisionId : command.decision.decisionId ∉ s.decisionIds
  attemptId : command.request.attemptId ∉ s.attemptIds

/-- A step that asks for a generation has rounds left, and its command is
selected under fresh ids. -/
theorem Ready.of_next (h : Ready history s plan) {decisionId : DecisionId} {attemptId : AttemptId}
    {command : NextGeneration}
    (hn : nextRepairStep history decisionId attemptId = .ok (.next command)) :
    Commanded s plan command ∧ history.repairAttempts.length <
      history.initialAttempt.request.compiledSpec.repair.maxRounds := by
  have hs := h.replayedTo
  rcases h.stop_cases with ⟨stop, t, hstop, ht, -⟩ | ⟨hstop, hf, hrounds⟩
  · rw [nextRepairStep_stop hstop ht] at hn
    cases hn
  · unfold nextRepairStep at hn
    rw [rewrap_ok_iff, hstop, ok_bind] at hn
    obtain ⟨hdecision, hn⟩ := check_ok_iff.mp hn
    obtain ⟨p, hp, hn⟩ := bind_ok_iff.mp hn
    obtain ⟨selection, hsel, hn⟩ := bind_ok_iff.mp hn
    rw [ensure_ok_iff, decide_eq_true_eq, hs.executedDecisionIds] at hdecision
    rw [hs.currentRequest, h.planned] at hp
    cases hp
    rw [hs.currentRequest, hs.currentReport, hs.currentTarget, hs.seen] at hsel
    cases selection with
    | noAction n =>
        obtain ⟨t, ht, -⟩ := terminal_noAction h hf n
        change terminal history .noAction (some n) = _ at hn
        rw [ht] at hn
        cases hn
    | decision d =>
        obtain ⟨hattempt, hn⟩ := check_ok_iff.mp hn
        obtain ⟨child, hchild, hn⟩ := bind_ok_iff.mp hn
        rw [ensure_ok_iff, decide_eq_true_eq, hs.attemptIds] at hattempt
        rw [hs.currentRequest] at hchild
        cases hn
        obtain ⟨hplan, hid, -⟩ := selectRepair_decision hsel
        have hchildId : child.attemptId = attemptId := by
          rw [((buildRepairRequest_ok_iff hplan).mp hchild).2]
        subst hid hchildId
        exact ⟨⟨hsel, hchild, hdecision, hattempt⟩, hrounds⟩

/-- An answer to a command is a legal attempt. -/
theorem Commanded.legal (h : Ready history s plan) {command : NextGeneration}
    (hc : Commanded s plan command) {artifact : GeneratedArtifact hashBytes}
    {report : VerificationReport} (ha : Answers history command artifact report) :
    ∃ improved, LegalAttempt digests s ⟨s.report, command.decision, command.request, artifact,
      report⟩ plan improved := by
  have hs := h.replayedTo
  obtain ⟨hplan, -, hunseen, trigger, rest, hblocking, htrigger⟩ := selectRepair_decision hc.selected
  obtain ⟨-, hfields⟩ := (buildRepairRequest_ok_iff hplan).mp hc.request
  have hslot := ha.slot
  rw [hs.currentReport, hs.currentArtifact] at hslot
  have hrules : report.rules = plan.applicableRuleDefinitions := by
    apply ha.rules
    rw [hs.currentRequest]
    exact h.planned
  have hchild : MatchesPlan plan report artifact.ref.artifactId :=
    ⟨hrules, List.mem_map_of_mem (mem_of_replacesSlot hslot)⟩
  obtain ⟨improved, himproved⟩ := isRepairImprovement_ok h.matching hchild hblocking htrigger
  refine ⟨improved, ⟨h.planned, ?_, hc.selected, hc.request, hc.attemptId, hc.decisionId, ?_, ?_,
    hrules, hslot, himproved, ?_⟩⟩
  · exact VerificationReport.sameKey_iff.mpr ⟨rfl, rfl, List.Perm.refl _⟩
  · rw [hs.replayed.artifactIds, List.mem_cons, List.mem_map]
    rintro (he | ⟨attempt, hm, he⟩)
    · exact ha.initialId he
    · exact ha.attemptId attempt hm he.symm
  · exact decide_eq_true ha.hashes
  · intro hm
    have hstate : command.request.state =
        ⟨command.decision.patch.afterParameters, command.decision.patch.afterVariationIndex⟩ := by
      unfold GenerationRequest.state
      rw [hfields]
    rw [hstate] at hm
    have hf := List.any_eq_false.mp hunseen _ hm
    simp [RepairState.same] at hf

/-- Every answer to a command is taken in. -/
theorem answer_consumed (hg : history.gated) {decisionId : DecisionId} {attemptId : AttemptId}
    {command : NextGeneration}
    (hn : nextRepairStep history decisionId attemptId = .ok (.next command))
    {artifact : GeneratedArtifact hashBytes} {report : VerificationReport}
    (ha : Answers history command artifact report) :
    ∃ next, consumeRepairResult history command artifact report = .ok next := by
  obtain ⟨s, plan, h⟩ := RepairHistory.ready hg
  obtain ⟨hc, hrounds⟩ := h.of_next hn
  obtain ⟨improved, hl⟩ := hc.legal h ha
  obtain ⟨next, hnext, -⟩ := h.replayedTo.consumed hl hrounds
  exact ⟨next, hnext⟩

end Step

/-! ### Runs end -/

/-- A run of the machine that has taken in `n` results. -/
inductive RepairRun (history : RepairHistory hashBytes digests) :
    Nat → RepairHistory hashBytes digests → Prop
  | start : RepairRun history 0 history
  | round {n before next decisionId attemptId command artifact report} :
      RepairRun history n before →
      nextRepairStep before decisionId attemptId = .ok (.next command) →
      consumeRepairResult before command artifact report = .ok next →
      RepairRun history (n + 1) next

/-- Each result is one attempt more, under the same policy. -/
theorem RepairRun.attempts {history next : RepairHistory hashBytes digests} {n : Nat}
    (h : RepairRun history n next) : next.initialAttempt = history.initialAttempt ∧
      next.repairAttempts.length = history.repairAttempts.length + n := by
  induction h with
  | start => exact ⟨rfl, rfl⟩
  | round _ _ hc ih =>
      obtain ⟨hi, attempt, ha⟩ := consumed_attempts hc
      refine ⟨hi.trans ih.1, ?_⟩
      rw [ha, List.length_append, List.length_singleton, ih.2, Nat.add_assoc]

/-- A run has no more results than the policy has rounds, and after so many
the machine ends. -/
theorem RepairRun.bounded {history next : RepairHistory hashBytes digests} {n : Nat}
    (h : RepairRun history n next) (hg : history.gated) :
    history.repairAttempts.length + n ≤
        history.initialAttempt.request.compiledSpec.repair.maxRounds ∧
      (history.repairAttempts.length + n =
          history.initialAttempt.request.compiledSpec.repair.maxRounds →
        ∀ decisionId attemptId, ∃ t,
          nextRepairStep next decisionId attemptId = .ok (.terminal t)) := by
  obtain ⟨hi, hlen⟩ := h.attempts
  have hgn : next.gated := by
    unfold RepairHistory.gated
    rw [hi]
    exact hg
  obtain ⟨s, plan, hr⟩ := RepairHistory.ready hgn
  have hbound := hr.replayedTo.bounded
  rw [hlen, hi] at hbound
  refine ⟨hbound, ?_⟩
  intro hall decisionId attemptId
  rcases hr.stop_cases with ⟨stop, t, hstop, ht, -⟩ | ⟨-, -, hrounds⟩
  · exact ⟨t, nextRepairStep_stop hstop ht _ _⟩
  · rw [hlen, hi] at hrounds
    omega

/-! ### An end is an end -/

/-- Asked again after an end, the machine gives the same stop reason, or the
end had no action and the decision id is refused as executed. -/
theorem terminal_again {history : RepairHistory hashBytes digests} (hg : history.gated)
    {decisionId : DecisionId} {attemptId : AttemptId} {t : RepairTerminal}
    (h : nextRepairStep history decisionId attemptId = .ok (.terminal t)) (otherDecision : DecisionId)
    (otherAttempt : AttemptId) :
    (∃ t', nextRepairStep history otherDecision otherAttempt = .ok (.terminal t') ∧
      t'.artifactDecision.repairStopReason = t.artifactDecision.repairStopReason) ∨
    (t.artifactDecision.repairStopReason = some .noAction ∧
      otherDecision ∈ executedDecisionIds history ∧
      nextRepairStep history otherDecision otherAttempt =
        .error (.domain "invalid repair transition")) := by
  obtain ⟨s, plan, hr⟩ := RepairHistory.ready hg
  have hs := hr.replayedTo
  rcases hr.stop_cases with ⟨stop, t', hstop, ht', -⟩ | ⟨hstop, hf, -⟩
  · -- the reason does not look at the ids
    rw [nextRepairStep_stop hstop ht'] at h
    cases h
    exact .inl ⟨_, nextRepairStep_stop hstop ht' _ _, rfl⟩
  · unfold nextRepairStep at h ⊢
    rw [rewrap_ok_iff] at h
    rw [hstop, ok_bind] at h ⊢
    obtain ⟨-, h⟩ := check_ok_iff.mp h
    obtain ⟨p, hp, h⟩ := bind_ok_iff.mp h
    obtain ⟨selection, hsel, h⟩ := bind_ok_iff.mp h
    rw [hs.currentRequest, hr.planned] at hp
    cases hp
    cases selection with
    | decision d =>
        obtain ⟨-, h⟩ := check_ok_iff.mp h
        obtain ⟨_, -, h⟩ := bind_ok_iff.mp h
        cases h
    | noAction n =>
        obtain ⟨t', ht', hreason⟩ := terminal_noAction hr hf n
        change terminal history .noAction (some n) = _ at h
        rw [ht'] at h
        cases h
        by_cases hfresh : otherDecision ∈ executedDecisionIds history
        · refine .inr ⟨hreason, hfresh, ?_⟩
          have hrefused : ensure (decide (otherDecision ∉ executedDecisionIds history))
              "invalid repair transition" = .error (.domain "invalid repair transition") := by
            rw [decide_eq_false (not_not.mpr hfresh)]
            rfl
          show rewrap _ (ensure _ _ >>= fun _ => _) = _
          rw [hrefused]
          rfl
        · obtain ⟨m, hm⟩ := selectRepair_noAction otherDecision hsel
          obtain ⟨t'', ht'', hreason'⟩ := terminal_noAction hr hf m
          refine .inl ⟨t'', ?_, hreason'.trans hreason.symm⟩
          have hok : ensure (decide (otherDecision ∉ executedDecisionIds history))
              "invalid repair transition" = .ok () := ensure_ok_iff.mpr (decide_eq_true hfresh)
          show rewrap _ (ensure _ _ >>= fun _ => _) = _
          rw [rewrap_ok_iff, hok, ok_bind, hs.currentRequest, hr.planned, ok_bind,
            ← hs.currentRequest, hm, ok_bind]
          exact ht''

/-- What a run reaches is reachable and has its gate. -/
theorem RepairRun.reachable {history next : RepairHistory hashBytes digests} {n : Nat}
    (hr : RepairRun history n next) (h : ReachableHistory history) (hg : history.gated) :
    ReachableHistory next ∧ next.gated := by
  induction hr with
  | start => exact ⟨h, hg⟩
  | round _ hn hc ih =>
      obtain ⟨hi, -⟩ := consumed_attempts hc
      refine ⟨ih.1.consume hn hc, ?_⟩
      unfold RepairHistory.gated
      rw [hi]
      exact ih.2

/-- On every reachable history with a gate: a step with fresh ids answers,
every answer to a command is taken in, a run goes on among such histories for
no more results than there are rounds and has ended by then, and an end stays
one. -/
theorem repair_terminates {history : RepairHistory hashBytes digests}
    (h : ReachableHistory history) (hg : history.gated) :
    (∀ decisionId attemptId, FreshIds history decisionId attemptId →
      ∃ step, nextRepairStep history decisionId attemptId = .ok step) ∧
    (∀ decisionId attemptId command artifact report,
      nextRepairStep history decisionId attemptId = .ok (.next command) →
      Answers history command artifact report →
      ∃ next, consumeRepairResult history command artifact report = .ok next) ∧
    (∀ n next, RepairRun history n next → ReachableHistory next ∧ next.gated ∧
      history.repairAttempts.length + n ≤
        history.initialAttempt.request.compiledSpec.repair.maxRounds ∧
      (history.repairAttempts.length + n =
          history.initialAttempt.request.compiledSpec.repair.maxRounds →
        ∀ decisionId attemptId, ∃ t,
          nextRepairStep next decisionId attemptId = .ok (.terminal t))) ∧
    (∀ decisionId attemptId t, nextRepairStep history decisionId attemptId = .ok (.terminal t) →
      ∀ otherDecision otherAttempt,
        (∃ t', nextRepairStep history otherDecision otherAttempt = .ok (.terminal t') ∧
          t'.artifactDecision.repairStopReason = t.artifactDecision.repairStopReason) ∨
        (t.artifactDecision.repairStopReason = some .noAction ∧
          otherDecision ∈ executedDecisionIds history ∧
          nextRepairStep history otherDecision otherAttempt =
            .error (.domain "invalid repair transition"))) := by
  refine ⟨fun _ _ hfresh => step_total hg hfresh, ?_, ?_, ?_⟩
  · intro decisionId attemptId command artifact report hn ha
    exact answer_consumed hg hn ha
  · intro n next hr
    obtain ⟨hreach, hgn⟩ := hr.reachable h hg
    exact ⟨hreach, hgn, hr.bounded hg⟩
  · intro decisionId attemptId t ht otherDecision otherAttempt
    exact terminal_again hg ht otherDecision otherAttempt

end Machine

/-- The history of the idle repairs before the first. -/
def IdleRepairs.start : RepairHistory (fun _ => sampleHash) IdleRepairs.digests where
  initialAttempt := IdleRepairs.initial
  repairAttempts := []
  rounds := 0
  consecutiveNoImprovement := 0
  seenStateKeys := [IdleRepairs.initial.request.state]
  valid := by decide +kernel

theorem IdleRepairs.gated : IdleRepairs.start.gated := by
  unfold RepairHistory.gated
  decide +kernel

/-- There the step answers. -/
theorem repair_terminates_idle : ∃ step, nextRepairStep IdleRepairs.start
    (Id.lit .decision "decision-1") (Id.lit .attempt "attempt-1") = .ok step := by
  have hreach : ReachableHistory IdleRepairs.start :=
    .start (startRepairHistory_ok (RepairHistory.new_ok_iff.mpr ⟨rfl, rfl⟩))
  have hfresh : FreshIds IdleRepairs.start (Id.lit .decision "decision-1")
      (Id.lit .attempt "attempt-1") := ⟨by decide +kernel, by decide +kernel⟩
  exact (repair_terminates hreach IdleRepairs.gated).1 _ _ hfresh

/-! ### The last variation -/

namespace LastVariation

/-- Two idle attempts are allowed. -/
def stopAfterTwo : RepairSection := ⟨py "1.0", 3, 2, by decide⟩

def initial : InitialAttempt (fun _ => sampleHash) IdleRepairs.digests where
  request := ⟨IdleRepairs.fields stopAfterTwo "attempt-0" none (maxVariationIndex - 1),
    by decide +kernel⟩
  artifact := IdleRepairs.artifact "artifact-0"
  report := IdleRepairs.firstReport
  valid := by decide +kernel

/-- The sampling is retried with the last variation there is. -/
def repair : RepairAttempt fun _ => sampleHash where
  parentReport := IdleRepairs.firstReport
  decision := IdleRepairs.decision "decision-1" (maxVariationIndex - 1) (by decide)
  request := ⟨IdleRepairs.fields stopAfterTwo "attempt-1" (some (Id.lit .attempt "attempt-0"))
    maxVariationIndex, by decide +kernel⟩
  artifact := IdleRepairs.artifact "artifact-1"
  report := IdleRepairs.secondReport

def history : RepairHistory (fun _ => sampleHash) IdleRepairs.digests where
  initialAttempt := initial
  repairAttempts := [repair]
  rounds := 1
  consecutiveNoImprovement := 1
  seenStateKeys := [initial.request.state, repair.request.state]
  valid := by decide +kernel

theorem gated : history.gated := by
  unfold RepairHistory.gated
  decide +kernel

/-- One repair is in time. -/
theorem punctual : Punctual initial [repair] := by
  intro plan _ done rest hsplit hrest
  rcases done with - | ⟨attempt, done⟩
  · show 0 < 2
    decide
  · rw [List.cons_append, List.cons.injEq] at hsplit
    exact absurd (List.append_eq_nil_iff.mp hsplit.2.symm).2 hrest

/-- The machine produces the history. -/
theorem reachable : ReachableHistory history := by
  have hlegal : LegalHistory initial [repair] :=
    accepted_iff_legal.mp ⟨history, RepairHistory.new_ok_iff.mpr ⟨rfl, rfl⟩⟩
  obtain ⟨produced, hr, hi, hsame⟩ := produced_of_legal hlegal punctual
  have hattempts : produced.repairAttempts = [repair] := by
    rcases hp : produced.repairAttempts with - | ⟨a, rest⟩
    · rw [hp] at hsame
      cases hsame
    · rw [hp] at hsame
      cases hsame with
      | cons ha hrest =>
          cases hrest
          rcases a with ⟨⟨artifacts, rules, results, valid⟩, decision, request, artifact, report⟩
          obtain ⟨hparent, rfl, rfl, rfl, rfl⟩ := ha
          obtain ⟨rfl, rfl, hperm⟩ := VerificationReport.sameKey_iff.mp hparent
          obtain rfl := List.perm_singleton.mp hperm
          rfl
  have heq : RepairHistory.new initial [repair] = .ok produced :=
    RepairHistory.new_ok_iff.mpr ⟨hi, hattempts⟩
  have hnew : RepairHistory.new initial [repair] = .ok history :=
    RepairHistory.new_ok_iff.mpr ⟨rfl, rfl⟩
  rw [hnew] at heq
  rw [Except.ok.inj heq]
  exact hr

/-- No action is left for the report. -/
theorem selected (decisionId : DecisionId) :
    ∃ n, selectRepair history.currentRequest IdleRepairs.plan history.currentReport
      history.currentTargetArtifactId decisionId history.seenStateKeys = .ok (.noAction n) := by
  have hone : selectRepair history.currentRequest IdleRepairs.plan history.currentReport
      history.currentTargetArtifactId (Id.lit .decision "decision-2") history.seenStateKeys =
        .ok (.noAction ⟨Id.lit .decision "decision-2", [IdleRepairs.rule.definition.ruleId],
          [retrySampling], by decide, by decide⟩) := by
    decide +kernel
  exact selectRepair_noAction decisionId hone

end LastVariation

/-- Asked again with the id of the executed decision, the machine refuses
where it had ended without an action. -/
theorem terminal_again_refused : ReachableHistory LastVariation.history ∧
    LastVariation.history.gated ∧
    (∃ t, nextRepairStep LastVariation.history (Id.lit .decision "decision-2")
        (Id.lit .attempt "attempt-2") = .ok (.terminal t) ∧
      t.artifactDecision.repairStopReason = some .noAction) ∧
    nextRepairStep LastVariation.history (Id.lit .decision "decision-1")
      (Id.lit .attempt "attempt-2") = .error (.domain "invalid repair transition") := by
  have hstop : repairStopReason LastVariation.history = .ok none := by decide +kernel
  have hplan : planFor LastVariation.history.currentRequest = .ok IdleRepairs.plan := by
    decide +kernel
  have hfresh : ensure (decide (Id.lit .decision "decision-2" ∉
      executedDecisionIds LastVariation.history)) "invalid repair transition" = .ok () := by
    decide +kernel
  have hused : ensure (decide (Id.lit .decision "decision-1" ∉
      executedDecisionIds LastVariation.history)) "invalid repair transition" =
      .error (.domain "invalid repair transition") := by
    decide +kernel
  refine ⟨LastVariation.reachable, LastVariation.gated, ?_, ?_⟩
  · obtain ⟨s, plan, hr⟩ := RepairHistory.ready LastVariation.gated
    obtain ⟨n, hn⟩ := LastVariation.selected (Id.lit .decision "decision-2")
    have hf := (selectable_of_ok hn).2
    rw [hr.replayedTo.currentReport, hr.replayedTo.currentTarget] at hf
    obtain ⟨t, ht, hreason⟩ := terminal_noAction hr hf n
    refine ⟨t, ?_, hreason⟩
    unfold nextRepairStep
    rw [rewrap_ok_iff, hstop, ok_bind]
    show (ensure _ _ >>= fun _ => _) = _
    rw [hfresh, ok_bind, hplan, ok_bind, hn, ok_bind]
    exact ht
  · unfold nextRepairStep
    rw [hstop, ok_bind]
    show rewrap _ (ensure _ _ >>= fun _ => _) = _
    rw [hused]
    rfl

end SpecStyle
