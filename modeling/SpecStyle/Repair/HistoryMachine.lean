/-
SpecStyle/Repair/HistoryMachine.lean

The histories that are accepted, and those that the repair state machine
produces.

`AcceptedHistory` is the constructor of a history, `ProducedHistory` is reached
by asking for a step and taking its result in.  The constructor accepts the
legal attempts (`LegalHistory`); the machine produces those among them that come in time
(`Punctual`): it stops when `stop_after_no_improvement` attempts in a row have
improved nothing, and the replay does not look at that.  So the two agree on
a tuple exactly when it is not both legal and late
(`accepted_iff_produced_iff`).

A report is known by its key, so two tuples are the same when they differ in
the order of the results of a parent report only (`SameAttempt`).
-/
import SpecStyle.Repair.Replay

namespace SpecStyle

open PyLib

section Machine

variable {hashBytes : Bytes → Sha256} {digests : Digests}

/-! ### The machine -/

/-- A history of the state machine. -/
inductive ReachableHistory : RepairHistory hashBytes digests → Prop
  | start {request artifact report history} :
      startRepairHistory digests request artifact report = .ok history → ReachableHistory history
  | consume {history next command artifact report decisionId attemptId} :
      ReachableHistory history → nextRepairStep history decisionId attemptId = .ok (.next command) →
      consumeRepairResult history command artifact report = .ok next → ReachableHistory next

/-- Two attempts with the same parts, the parent report by its key. -/
structure SameAttempt (a b : RepairAttempt hashBytes) : Prop where
  parent : a.parentReport.sameKey b.parentReport = true
  decision : a.decision = b.decision
  request : a.request = b.request
  artifact : a.artifact = b.artifact
  report : a.report = b.report

/-- The constructor accepts the attempts. -/
def AcceptedHistory (initial : InitialAttempt hashBytes digests)
    (attempts : List (RepairAttempt hashBytes)) : Prop :=
  ∃ history, RepairHistory.new initial attempts = .ok history

/-- The machine produces the attempts. -/
def ProducedHistory (initial : InitialAttempt hashBytes digests)
    (attempts : List (RepairAttempt hashBytes)) : Prop :=
  ∃ history : RepairHistory hashBytes digests, ReachableHistory history ∧
    history.initialAttempt = initial ∧ List.Forall₂ SameAttempt history.repairAttempts attempts

/-- No attempt comes after a point where the machine ends. -/
def NoneAfterTerminal (initial : InitialAttempt hashBytes digests)
    (attempts : List (RepairAttempt hashBytes)) : Prop :=
  ∀ done rest, attempts = done ++ rest → rest ≠ [] →
    ∀ history, RepairHistory.new initial done = .ok history →
      ∀ decisionId attemptId t, nextRepairStep history decisionId attemptId ≠ .ok (.terminal t)

/-! ### Legal and punctual attempts -/

/-- Each attempt is legal after those before it. -/
inductive LegalFrom (digests : Digests) : ReplayState hashBytes → List (RepairAttempt hashBytes) →
    Prop
  | nil {s} : LegalFrom digests s []
  | cons {s attempt attempts plan improved} : LegalAttempt digests s attempt plan improved →
      LegalFrom digests (s.after attempt improved) attempts →
      LegalFrom digests s (attempt :: attempts)

/-- The attempts are legal, the policy is known and has rounds for them. -/
structure LegalHistory (initial : InitialAttempt hashBytes digests)
    (attempts : List (RepairAttempt hashBytes)) : Prop where
  each : LegalFrom digests initial.start attempts
  version : initial.request.compiledSpec.repair.policyVersion = py "1.0"
  rounds : attempts.length ≤ initial.request.compiledSpec.repair.maxRounds

/-- The attempt improves on the report before it. -/
def improvedBy (plan : CompiledVerificationPlan) (report : VerificationReport)
    (target : ArtifactId) (attempt : RepairAttempt hashBytes) : Bool :=
  match isRepairImprovement plan report attempt.report target attempt.artifact.ref.artifactId
    attempt.decision with
  | .ok improved => improved
  | .error _ => false

/-- A report, its target, and how many attempts in a row did not improve. -/
structure Progress where
  report : VerificationReport
  target : ArtifactId
  idle : Nat

/-- The progress after an attempt more. -/
def Progress.after (plan : CompiledVerificationPlan) (p : Progress)
    (attempt : RepairAttempt hashBytes) : Progress where
  report := attempt.report
  target := attempt.artifact.ref.artifactId
  idle := if improvedBy plan p.report p.target attempt then 0 else p.idle + 1

/-- The progress after the attempts. -/
def progressOf (plan : CompiledVerificationPlan) (initial : InitialAttempt hashBytes digests)
    (attempts : List (RepairAttempt hashBytes)) : Progress :=
  attempts.foldl (Progress.after plan)
    ⟨initial.report, initial.artifact.ref.artifactId, 0⟩

/-- Before each attempt fewer than `stop_after_no_improvement` in a row had
improved nothing. -/
def Punctual (initial : InitialAttempt hashBytes digests)
    (attempts : List (RepairAttempt hashBytes)) : Prop :=
  ∀ plan, planFor initial.request = .ok plan → ∀ done rest, attempts = done ++ rest → rest ≠ [] →
    (progressOf plan initial done).idle <
      initial.request.compiledSpec.repair.stopAfterNoImprovement

/-! ### Keys -/

theorem VerificationReport.sameKey_iff {a b : VerificationReport} :
    a.sameKey b = true ↔ a.artifacts = b.artifacts ∧ a.rules = b.rules ∧
      a.results.Perm b.results := by
  unfold VerificationReport.sameKey
  rw [decide_eq_true_eq, List.isPerm_iff]

theorem VerificationReport.sameKey_symm {a b : VerificationReport} (h : a.sameKey b = true) :
    b.sameKey a = true := by
  rw [sameKey_iff] at h ⊢
  exact ⟨h.1.symm, h.2.1.symm, h.2.2.symm⟩

theorem VerificationReport.sameKey_trans {a b c : VerificationReport} (h : a.sameKey b = true)
    (h' : b.sameKey c = true) : a.sameKey c = true := by
  rw [sameKey_iff] at h h' ⊢
  exact ⟨h.1.trans h'.1, h.2.1.trans h'.2.1, h.2.2.trans h'.2.2⟩

/-- The locals after a round do not depend on the parent report. -/
theorem SameAttempt.after_eq {a b : RepairAttempt hashBytes} (h : SameAttempt a b)
    (s : ReplayState hashBytes) (improved : Bool) : s.after a improved = s.after b improved := by
  unfold ReplayState.after
  rw [h.decision, h.request, h.artifact, h.report]

/-- Neither does the legality. -/
theorem SameAttempt.legal {a b : RepairAttempt hashBytes} (h : SameAttempt a b)
    {s : ReplayState hashBytes} {plan : CompiledVerificationPlan} {improved : Bool}
    (hl : LegalAttempt digests s a plan improved) : LegalAttempt digests s b plan improved := by
  rcases a with ⟨parent, decision, request, artifact, report⟩
  obtain ⟨hparent, rfl, rfl, rfl, rfl⟩ := h
  exact { hl with
    parent := VerificationReport.sameKey_trans (VerificationReport.sameKey_symm hparent) hl.parent }

/-- Nor do the locals of the whole loop. -/
theorem foldlM_same {s s' : ReplayState hashBytes} {as bs : List (RepairAttempt hashBytes)}
    (h : List.Forall₂ SameAttempt as bs)
    (hs : as.foldlM (replayAttempt digests) s = .ok s') :
    bs.foldlM (replayAttempt digests) s = .ok s' := by
  induction h generalizing s with
  | nil => exact hs
  | cons hab _ ih =>
      obtain ⟨t, ht, hs⟩ := bind_ok_iff.mp hs
      obtain ⟨plan, improved, hl, rfl⟩ := replayAttempt_ok_iff.mp ht
      rw [hab.after_eq] at hs
      exact bind_ok_iff.mpr ⟨_, replayAttempt_ok_iff.mpr ⟨plan, improved, hab.legal hl, rfl⟩, ih hs⟩

/-- Nor does the progress. -/
theorem progressOf_same {plan : CompiledVerificationPlan}
    {initial : InitialAttempt hashBytes digests} {as bs : List (RepairAttempt hashBytes)}
    (h : List.Forall₂ SameAttempt as bs) :
    progressOf plan initial as = progressOf plan initial bs := by
  unfold progressOf
  generalize (⟨initial.report, initial.artifact.ref.artifactId, 0⟩ : Progress) = p
  induction h generalizing p with
  | nil => rfl
  | cons hab _ ih =>
      rw [List.foldl_cons, List.foldl_cons, ih]
      unfold Progress.after improvedBy
      rw [hab.decision, hab.artifact, hab.report]

/-! ### What is accepted -/

/-- The loop goes through exactly the legal attempts. -/
theorem foldlM_ok_iff {s : ReplayState hashBytes} {attempts : List (RepairAttempt hashBytes)} :
    (∃ s', attempts.foldlM (replayAttempt digests) s = .ok s') ↔ LegalFrom digests s attempts := by
  induction attempts generalizing s with
  | nil => exact ⟨fun _ => .nil, fun _ => ⟨s, rfl⟩⟩
  | cons attempt attempts ih =>
      constructor
      · rintro ⟨s', h⟩
        obtain ⟨t, ht, h⟩ := bind_ok_iff.mp h
        obtain ⟨plan, improved, hl, rfl⟩ := replayAttempt_ok_iff.mp ht
        exact .cons hl (ih.mp ⟨s', h⟩)
      · intro h
        cases h with
        | cons hl hrest =>
            obtain ⟨s', h⟩ := ih.mpr hrest
            exact ⟨s', bind_ok_iff.mpr ⟨_, replayAttempt_ok_iff.mpr ⟨_, _, hl, rfl⟩, h⟩⟩

/-- What a history is, from its replay. -/
structure ReplayedTo (history : RepairHistory hashBytes digests) (s : ReplayState hashBytes) :
    Prop where
  loop : replayLoop history.initialAttempt history.repairAttempts = .ok s
  replayed : Replayed history.initialAttempt history.repairAttempts s
  version : history.initialAttempt.request.compiledSpec.repair.policyVersion = py "1.0"
  bounded : history.repairAttempts.length ≤
    history.initialAttempt.request.compiledSpec.repair.maxRounds
  rounds : history.rounds = history.repairAttempts.length
  idle : history.consecutiveNoImprovement = s.noImprovement
  seen : history.seenStateKeys = s.seen

/-- A replay that goes through. -/
theorem replay_ok_iff {initial : InitialAttempt hashBytes digests}
    {attempts : List (RepairAttempt hashBytes)} {r : Nat × Nat × List RepairState} :
    replay initial attempts = .ok r ↔ ∃ s, replayLoop initial attempts = .ok s ∧
      initial.request.compiledSpec.repair.policyVersion = py "1.0" ∧
      attempts.length ≤ initial.request.compiledSpec.repair.maxRounds ∧
      r = (attempts.length, s.noImprovement, s.seen) := by
  unfold replay
  constructor
  · intro h
    obtain ⟨s, hs, h⟩ := bind_ok_iff.mp h
    obtain ⟨policy, hp, h⟩ := bind_ok_iff.mp h
    obtain ⟨hlen, h⟩ := check_ok_iff.mp h
    have hspec := (replayed_loop hs).spec
    rw [ensure_ok_iff, decide_eq_true_eq, (repairPolicyFromRequest_fields hp).1, hspec] at hlen
    have hv := repairPolicyFromRequest_ok_iff.mp ⟨policy, hp⟩
    rw [hspec] at hv
    cases h
    exact ⟨s, hs, hv, hlen, rfl⟩
  · rintro ⟨s, hs, hv, hlen, rfl⟩
    have hspec := (replayed_loop hs).spec
    rw [← hspec] at hv hlen
    obtain ⟨policy, hp⟩ := repairPolicyFromRequest_ok_iff.mpr hv
    rw [← (repairPolicyFromRequest_fields hp).1] at hlen
    rw [hs, ok_bind, hp, ok_bind, ensure_ok_iff.mpr (decide_eq_true hlen)]
    rfl

theorem RepairHistory.new_ok_iff {initial : InitialAttempt hashBytes digests}
    {attempts : List (RepairAttempt hashBytes)} {history : RepairHistory hashBytes digests} :
    RepairHistory.new initial attempts = .ok history ↔
      history.initialAttempt = initial ∧ history.repairAttempts = attempts := by
  unfold RepairHistory.new
  split
  · next rounds idle seen hr =>
    constructor
    · intro h
      cases h
      exact ⟨rfl, rfl⟩
    · rcases history with ⟨i, as, r, n, k, hv⟩
      rintro ⟨rfl, rfl⟩
      rw [hr] at hv
      cases hv
      rfl
  · next e hr =>
    constructor
    · intro h
      cases h
    · rintro ⟨rfl, rfl⟩
      rw [history.valid] at hr
      cases hr

/-- A history starts from its initial attempt. -/
theorem startRepairHistory_ok {initial : InitialAttempt hashBytes digests}
    {history : RepairHistory hashBytes digests} (h : RepairHistory.new initial [] = .ok history) :
    startRepairHistory digests initial.request initial.artifact initial.report = .ok history := by
  have hnew : InitialAttempt.new digests initial.request initial.artifact initial.report =
      .ok initial := by
    unfold InitialAttempt.new
    split
    · rfl
    · next hv =>
      rw [initial.valid] at hv
      cases hv
  unfold startRepairHistory
  rw [rewrap_ok_iff, hnew]
  exact h

theorem RepairHistory.replayedTo (history : RepairHistory hashBytes digests) :
    ∃ s, ReplayedTo history s := by
  obtain ⟨s, hs, hv, hlen, hr⟩ := replay_ok_iff.mp history.valid
  obtain ⟨hrounds, hr⟩ := Prod.mk.inj hr
  obtain ⟨hidle, hseen⟩ := Prod.mk.inj hr
  exact ⟨s, hs, replayed_loop hs, hv, hlen, hrounds, hidle, hseen⟩

/-- The constructor accepts exactly the legal attempts. -/
theorem accepted_iff_legal {initial : InitialAttempt hashBytes digests}
    {attempts : List (RepairAttempt hashBytes)} :
    AcceptedHistory initial attempts ↔ LegalHistory initial attempts := by
  constructor
  · rintro ⟨history, h⟩
    obtain ⟨rfl, rfl⟩ := RepairHistory.new_ok_iff.mp h
    obtain ⟨s, hs⟩ := history.replayedTo
    exact ⟨foldlM_ok_iff.mp ⟨s, hs.loop⟩, hs.version, hs.bounded⟩
  · intro h
    obtain ⟨s, hs⟩ := foldlM_ok_iff.mpr h.each
    have hr := replay_ok_iff.mpr ⟨s, hs, h.version, h.rounds, rfl⟩
    exact ⟨⟨initial, attempts, _, _, _, hr⟩, RepairHistory.new_ok_iff.mpr ⟨rfl, rfl⟩⟩

/-- What is accepted does not depend on the parent reports but for their keys. -/
theorem LegalHistory.of_same {initial : InitialAttempt hashBytes digests}
    {as bs : List (RepairAttempt hashBytes)} (h : LegalHistory initial as)
    (hs : List.Forall₂ SameAttempt as bs) : LegalHistory initial bs where
  each := by
    obtain ⟨s, hloop⟩ := foldlM_ok_iff.mpr h.each
    exact foldlM_ok_iff.mp ⟨s, foldlM_same hs hloop⟩
  version := h.version
  rounds := by
    rw [← hs.length_eq]
    exact h.rounds

/-! ### A step -/

section Step

variable {history : RepairHistory hashBytes digests} {s : ReplayState hashBytes}

theorem ReplayedTo.currentRequest (h : ReplayedTo history s) :
    history.currentRequest = s.request := h.replayed.request.symm

theorem ReplayedTo.currentReport (h : ReplayedTo history s) : history.currentReport = s.report :=
  h.replayed.report.symm

theorem ReplayedTo.currentArtifact (h : ReplayedTo history s) :
    history.currentArtifact = s.artifact := h.replayed.artifact.symm

theorem ReplayedTo.currentTarget (h : ReplayedTo history s) :
    history.currentTargetArtifactId = s.target := by
  unfold RepairHistory.currentTargetArtifactId
  rw [h.currentArtifact]

theorem ReplayedTo.executedDecisionIds (h : ReplayedTo history s) :
    executedDecisionIds history = s.decisionIds := h.replayed.decisionIds.symm

theorem ReplayedTo.attemptIds (h : ReplayedTo history s) :
    attemptIds history = s.attemptIds := h.replayed.attemptIds.symm

/-- The idle attempts, counted from the attempts alone. -/
theorem progressOf_eq {initial : InitialAttempt hashBytes digests}
    {plan : CompiledVerificationPlan} (hplan : planFor initial.request = .ok plan)
    {attempts : List (RepairAttempt hashBytes)} {s : ReplayState hashBytes}
    (h : replayLoop initial attempts = .ok s) :
    progressOf plan initial attempts = ⟨s.report, s.target, s.noImprovement⟩ := by
  induction attempts using List.reverseRecOn generalizing s with
  | nil =>
      cases h
      rfl
  | append_singleton attempts attempt ih =>
      obtain ⟨t, ht, ha⟩ := replayLoop_concat.mp h
      obtain ⟨p, improved, hl, rfl⟩ := replayAttempt_ok_iff.mp ha
      have hr := replayed_loop ht
      have hsame : p = plan := by
        have hp := hl.planned
        rw [planFor_congr hr.spec hr.output, hplan] at hp
        exact (Except.ok.inj hp).symm
      subst hsame
      have hlast : progressOf p initial (attempts ++ [attempt]) =
          (progressOf p initial attempts).after p attempt := by
        unfold progressOf
        rw [List.foldl_append]
        rfl
      have himproved : improvedBy p t.report t.target attempt = improved := by
        unfold improvedBy
        rw [hl.improvement]
      rw [hlast, ih ht]
      unfold Progress.after
      rw [himproved]
      rfl

/-- On a gate failure the machine stops for the counters only. -/
theorem ReplayedTo.stopReason (h : ReplayedTo history s) (hg : GateFailed s.report s.target) :
    repairStopReason history = .ok
      (if history.initialAttempt.request.compiledSpec.repair.stopAfterNoImprovement ≤
          s.noImprovement then some .noImprovement
        else if history.initialAttempt.request.compiledSpec.repair.maxRounds ≤
          history.repairAttempts.length then some .maxRounds
        else none) := by
  obtain ⟨routed, hd, hstatus, hreason⟩ := hg
  have hv := h.version
  rw [← h.replayed.spec] at hv
  obtain ⟨policy, hp⟩ := repairPolicyFromRequest_ok_iff.mpr hv
  obtain ⟨hmax, hstop⟩ := repairPolicyFromRequest_fields hp
  rw [h.replayed.spec] at hmax hstop
  unfold repairStopReason
  rw [h.currentReport, h.currentTarget, hd, ok_bind, h.currentRequest, hp]
  simp only [hstatus, hreason, ok_bind]
  rw [hmax, hstop, h.idle, h.rounds]
  simp only [reduceCtorEq, and_self, and_false, if_false]
  split_ifs <;> rfl

/-- A failed gate is routed when the repair is exhausted. -/
theorem GateFailed.exhausted {report : VerificationReport} {target : ArtifactId}
    (h : GateFailed report target) {stop : RepairStopReason} (hs : stop ∈ exhaustedReasons) :
    ∃ d, decideArtifact report target (some stop) false = .ok d ∧
      d.repairStopReason = some stop := by
  obtain ⟨routed, hd, hstatus, hreason⟩ := h
  obtain ⟨ht, hne, -, hroute, -⟩ := decideArtifact_ok_iff.mp hd
  rw [hstatus, hreason] at hroute
  obtain ⟨g, hg, hrejects⟩ := List.any_eq_true.mp (rejects_of_route_failed hroute)
  have hopen : (requiredGates (resultsAffectingArtifact report target)).any Gate.nonpass = true :=
    List.any_eq_true.mpr ⟨g, hg, Gate.nonpass_of_rejects hrejects⟩
  have hvalid : validateStopReason (some stop)
      (requiredGates (resultsAffectingArtifact report target)) = .ok () := by
    have hpass : some stop ≠ some RepairStopReason.passAllRequired := by
      rintro ⟨⟩
      exact absurd hs (by decide)
    have hunverifiable : some stop ≠ some RepairStopReason.unverifiable := by
      rintro ⟨⟩
      exact absurd hs (by decide)
    unfold validateStopReason
    rw [hopen, decide_eq_false hpass, decide_eq_false hunverifiable]
    simp [ensure]
  obtain ⟨d, hd⟩ := decideArtifact_total ht hne hvalid
  exact ⟨d, hd, (decideArtifact_ok_iff.mp hd).2.2.2.2.2.1⟩

/-- A terminal for the counters. -/
theorem terminal_ok {stop : RepairStopReason} {d : ArtifactDecision}
    (hd : decideArtifact history.currentReport history.currentTargetArtifactId (some stop) false =
      .ok d) (hs : d.repairStopReason = some stop) (hne : stop ≠ .noAction) :
    ∃ t, terminal history stop none = .ok (.terminal t) ∧
      t.artifactDecision.repairStopReason = some stop := by
  have hvalid : (none : Option NoAction).isNone =
      decide (d.repairStopReason ≠ some .noAction) := by
    rw [hs]
    symm
    rw [Option.isNone_none, decide_eq_true_eq]
    exact fun h => hne (Option.some.inj h)
  refine ⟨⟨d, none, hvalid⟩, ?_, hs⟩
  unfold terminal RepairTerminal.new
  rw [hd, ok_bind, dif_pos hvalid]
  rfl

/-- After too many idle attempts the machine ends. -/
theorem ReplayedTo.late (h : ReplayedTo history s) (hg : GateFailed s.report s.target)
    (hlate : history.initialAttempt.request.compiledSpec.repair.stopAfterNoImprovement ≤
      s.noImprovement) (decisionId : DecisionId) (attemptId : AttemptId) :
    ∃ t, nextRepairStep history decisionId attemptId = .ok (.terminal t) ∧
      t.artifactDecision.repairStopReason = some .noImprovement := by
  have hstop := h.stopReason hg
  rw [if_pos hlate] at hstop
  obtain ⟨d, hd, hds⟩ := @GateFailed.exhausted _ _ hg .noImprovement (by decide)
  rw [← h.currentReport, ← h.currentTarget] at hd
  obtain ⟨t, ht, hreason⟩ := terminal_ok hd hds (by decide)
  refine ⟨t, ?_, hreason⟩
  unfold nextRepairStep
  rw [rewrap_ok_iff, hstop, ok_bind]
  exact ht

/-- A step that asks for a generation is selected and in time. -/
theorem ReplayedTo.of_next (h : ReplayedTo history s) {decisionId : DecisionId}
    {attemptId : AttemptId} {command : NextGeneration}
    (hn : nextRepairStep history decisionId attemptId = .ok (.next command)) :
    s.noImprovement <
      history.initialAttempt.request.compiledSpec.repair.stopAfterNoImprovement := by
  unfold nextRepairStep at hn
  rw [rewrap_ok_iff] at hn
  obtain ⟨stop, hstop, hn⟩ := bind_ok_iff.mp hn
  cases stop with
  | some reason =>
      -- a terminal is no command
      unfold terminal at hn
      obtain ⟨d, -, hn⟩ := bind_ok_iff.mp hn
      obtain ⟨t, -, hn⟩ := bind_ok_iff.mp hn
      cases hn
  | none =>
      obtain ⟨-, hn⟩ := check_ok_iff.mp hn
      obtain ⟨plan, -, hn⟩ := bind_ok_iff.mp hn
      obtain ⟨selection, hs, -⟩ := bind_ok_iff.mp hn
      obtain ⟨-, hg⟩ := selectable_of_ok hs
      rw [h.currentReport, h.currentTarget] at hg
      rw [h.stopReason hg] at hstop
      by_contra hlate
      rw [if_pos (Nat.le_of_not_lt hlate)] at hstop
      cases hstop

/-- A legal attempt in time is the next step of the machine. -/
theorem ReplayedTo.next (h : ReplayedTo history s) {attempt : RepairAttempt hashBytes}
    {plan : CompiledVerificationPlan} {improved : Bool}
    (hl : LegalAttempt digests s attempt plan improved)
    (htime : s.noImprovement <
      history.initialAttempt.request.compiledSpec.repair.stopAfterNoImprovement)
    (hrounds : history.repairAttempts.length <
      history.initialAttempt.request.compiledSpec.repair.maxRounds) :
    nextRepairStep history attempt.decision.decisionId attempt.request.attemptId =
      .ok (.next ⟨attempt.decision, attempt.request⟩) := by
  obtain ⟨-, hg⟩ := selectable_of_ok hl.selected
  have hstop := h.stopReason hg
  rw [if_neg (Nat.not_le_of_lt htime), if_neg (Nat.not_le_of_lt hrounds)] at hstop
  have hdecision : ensure (decide (attempt.decision.decisionId ∉ s.decisionIds))
      "invalid repair transition" = .ok () := ensure_ok_iff.mpr (decide_eq_true hl.decisionId)
  have hattempt : ensure (decide (attempt.request.attemptId ∉ s.attemptIds))
      "invalid repair transition" = .ok () := ensure_ok_iff.mpr (decide_eq_true hl.attemptId)
  unfold nextRepairStep
  rw [rewrap_ok_iff, hstop, ok_bind]
  show (ensure _ _ >>= fun _ => _) = _
  rw [h.executedDecisionIds, hdecision, ok_bind, h.currentRequest, hl.planned, ok_bind,
    h.currentReport, h.currentTarget, h.seen, hl.selected, ok_bind]
  show (ensure _ _ >>= fun _ => _) = _
  rw [h.attemptIds, hattempt, ok_bind, hl.request]
  rfl

/-- The result of that step is taken in. -/
theorem ReplayedTo.consumed (h : ReplayedTo history s) {attempt : RepairAttempt hashBytes}
    {plan : CompiledVerificationPlan} {improved : Bool}
    (hl : LegalAttempt digests s attempt plan improved)
    (hrounds : history.repairAttempts.length <
      history.initialAttempt.request.compiledSpec.repair.maxRounds) :
    ∃ next, consumeRepairResult history ⟨attempt.decision, attempt.request⟩ attempt.artifact
        attempt.report = .ok next ∧ next.initialAttempt = history.initialAttempt ∧
      next.repairAttempts = history.repairAttempts ++
        [{ attempt with parentReport := history.currentReport }] := by
  have hsame : SameAttempt attempt { attempt with parentReport := history.currentReport } := by
    refine ⟨?_, rfl, rfl, rfl, rfl⟩
    rw [h.currentReport]
    exact hl.parent
  have hloop : replayLoop history.initialAttempt (history.repairAttempts ++
      [{ attempt with parentReport := history.currentReport }]) = .ok (s.after _ improved) :=
    replayLoop_concat.mpr
      ⟨s, h.loop, replayAttempt_ok_iff.mpr ⟨plan, improved, hsame.legal hl, rfl⟩⟩
  have hlength : (history.repairAttempts ++
      [{ attempt with parentReport := history.currentReport }]).length ≤
      history.initialAttempt.request.compiledSpec.repair.maxRounds := by
    rw [List.length_append]
    exact hrounds
  have hreplay := replay_ok_iff.mpr ⟨_, hloop, h.version, hlength, rfl⟩
  refine ⟨⟨history.initialAttempt, _, _, _, _, hreplay⟩, ?_, rfl, rfl⟩
  have hfresh : ensure (decide (attempt.decision.decisionId ∉ s.decisionIds ∧
      attempt.request.attemptId ∉ s.attemptIds)) "invalid repair observation" = .ok () :=
    ensure_ok_iff.mpr (decide_eq_true ⟨hl.decisionId, hl.attemptId⟩)
  have hselected : selectRepair s.request plan history.currentReport
      history.currentTargetArtifactId attempt.decision.decisionId history.seenStateKeys =
      .ok (.decision attempt.decision) := by
    rw [h.currentReport, h.currentTarget, h.seen]
    exact hl.selected
  unfold consumeRepairResult
  rw [rewrap_ok_iff, h.executedDecisionIds, h.attemptIds, hfresh, ok_bind, h.currentRequest,
    hl.planned, ok_bind, hselected, ok_bind, hl.request, ok_bind,
    ensure_ok_iff.mpr (decide_eq_true ⟨rfl, rfl⟩), ok_bind]
  exact RepairHistory.new_ok_iff.mpr ⟨rfl, rfl⟩

/-- What taking a result in appends. -/
theorem consumed_attempts {next : RepairHistory hashBytes digests} {command : NextGeneration}
    {artifact : GeneratedArtifact hashBytes} {report : VerificationReport}
    (h : consumeRepairResult history command artifact report = .ok next) :
    next.initialAttempt = history.initialAttempt ∧ ∃ attempt,
      next.repairAttempts = history.repairAttempts ++ [attempt] := by
  unfold consumeRepairResult at h
  rw [rewrap_ok_iff] at h
  obtain ⟨-, h⟩ := check_ok_iff.mp h
  obtain ⟨_, -, h⟩ := bind_ok_iff.mp h
  obtain ⟨_, -, h⟩ := bind_ok_iff.mp h
  obtain ⟨_, -, h⟩ := bind_ok_iff.mp h
  obtain ⟨-, h⟩ := check_ok_iff.mp h
  obtain ⟨hi, ha⟩ := RepairHistory.new_ok_iff.mp h
  exact ⟨hi, _, ha⟩

end Step

/-! ### Runs -/

/-- What the machine produces is in time. -/
theorem ReachableHistory.punctual {history : RepairHistory hashBytes digests}
    (h : ReachableHistory history) : Punctual history.initialAttempt history.repairAttempts := by
  induction h with
  | start h =>
      unfold startRepairHistory at h
      rw [rewrap_ok_iff] at h
      obtain ⟨initial, -, h⟩ := bind_ok_iff.mp h
      obtain ⟨-, ha⟩ := RepairHistory.new_ok_iff.mp h
      intro plan _ done rest hsplit hrest
      rw [ha] at hsplit
      exact absurd (List.append_eq_nil_iff.mp hsplit.symm).2 hrest
  | @consume history next command artifact report decisionId attemptId _ hn hc ih =>
      obtain ⟨hi, attempt, ha⟩ := consumed_attempts hc
      obtain ⟨s, hs⟩ := history.replayedTo
      intro plan hplan done rest hsplit hrest
      rw [hi] at hplan ⊢
      rw [ha] at hsplit
      obtain ⟨more, last, rfl⟩ := rest.eq_nil_or_concat'.resolve_left hrest
      rw [← List.append_assoc] at hsplit
      have hmore : history.repairAttempts = done ++ more := (List.append_inj' hsplit rfl).1
      rcases more with - | ⟨x, more⟩
      · -- the attempts before the last: the step was in time
        rw [List.append_nil] at hmore
        rw [← hmore, progressOf_eq hplan hs.loop]
        exact hs.of_next hn
      · exact ih plan hplan done (x :: more) hmore (List.cons_ne_nil _ _)

/-- Legal attempts in time are produced. -/
theorem produced_of_legal {initial : InitialAttempt hashBytes digests}
    {attempts : List (RepairAttempt hashBytes)} (hl : LegalHistory initial attempts)
    (ht : Punctual initial attempts) : ProducedHistory initial attempts := by
  induction attempts using List.reverseRecOn with
  | nil =>
      obtain ⟨history, h⟩ := accepted_iff_legal.mpr hl
      obtain ⟨hi, ha⟩ := RepairHistory.new_ok_iff.mp h
      refine ⟨history, .start (startRepairHistory_ok h), hi, ?_⟩
      rw [ha]
      exact .nil
  | append_singleton attempts attempt ih =>
      obtain ⟨s', hs'⟩ := foldlM_ok_iff.mpr hl.each
      obtain ⟨s, hs, ha⟩ := replayLoop_concat.mp hs'
      obtain ⟨plan, improved, hlegal, -⟩ := replayAttempt_ok_iff.mp ha
      have hlen : attempts.length < initial.request.compiledSpec.repair.maxRounds := by
        have := hl.rounds
        rw [List.length_append] at this
        exact this
      have hbefore : LegalHistory initial attempts :=
        ⟨foldlM_ok_iff.mp ⟨s, hs⟩, hl.version, hlen.le⟩
      have hplan : planFor initial.request = .ok plan := by
        rw [← planFor_congr (replayed_loop hs).spec (replayed_loop hs).output]
        exact hlegal.planned
      have hidle := ht plan hplan attempts [attempt] rfl (List.cons_ne_nil _ _)
      rw [progressOf_eq hplan hs] at hidle
      obtain ⟨history, hr, rfl, hsame⟩ := ih hbefore fun p hp done rest hsplit hrest =>
        ht p hp done (rest ++ [attempt]) (by rw [hsplit, List.append_assoc]) (by simp)
      -- the history has the same locals, whatever its parent reports
      obtain ⟨t, hreplayed⟩ := history.replayedTo
      have hst : t = s := Except.ok.inj ((foldlM_same hsame hreplayed.loop).symm.trans hs)
      subst hst
      rw [← hsame.length_eq] at hlen
      have hnext := hreplayed.next hlegal hidle hlen
      obtain ⟨next, hc, hi, ha⟩ := hreplayed.consumed hlegal hlen
      refine ⟨next, hr.consume hnext hc, hi, ?_⟩
      rw [ha]
      refine List.rel_append hsame (.cons ⟨?_, rfl, rfl, rfl, rfl⟩ .nil)
      rw [hreplayed.currentReport]
      exact VerificationReport.sameKey_symm hlegal.parent

/-- What is produced is legal and in time. -/
theorem ProducedHistory.legal {initial : InitialAttempt hashBytes digests}
    {attempts : List (RepairAttempt hashBytes)} (h : ProducedHistory initial attempts) :
    LegalHistory initial attempts ∧ Punctual initial attempts := by
  obtain ⟨history, hr, rfl, hsame⟩ := h
  have hl : LegalHistory history.initialAttempt history.repairAttempts :=
    accepted_iff_legal.mp ⟨history, RepairHistory.new_ok_iff.mpr ⟨rfl, rfl⟩⟩
  refine ⟨hl.of_same hsame, ?_⟩
  intro plan hplan done rest hsplit hrest
  -- the attempts of the history split at the same place
  obtain ⟨as, bs, hdone, hbs, hsplit'⟩ : ∃ as bs, List.Forall₂ SameAttempt as done ∧
      List.Forall₂ SameAttempt bs rest ∧ history.repairAttempts = as ++ bs := by
    rw [hsplit] at hsame
    exact ⟨_, _, List.forall₂_take_append _ _ _ hsame, List.forall₂_drop_append _ _ _ hsame,
      (List.take_append_drop _ _).symm⟩
  rw [← progressOf_same hdone]
  refine hr.punctual plan hplan as bs hsplit' ?_
  rintro rfl
  cases hbs
  exact hrest rfl

/-- On a prefix of legal attempts in time the machine does not end. -/
theorem noneAfterTerminal_of_legal {initial : InitialAttempt hashBytes digests}
    {attempts : List (RepairAttempt hashBytes)} (hl : LegalHistory initial attempts)
    (ht : Punctual initial attempts) : NoneAfterTerminal initial attempts := by
  rintro done rest rfl hrest history hnew decisionId attemptId t hterminal
  obtain ⟨rfl, rfl⟩ := RepairHistory.new_ok_iff.mp hnew
  obtain ⟨s, hs⟩ := history.replayedTo
  rcases rest with - | ⟨attempt, rest⟩
  · exact hrest rfl
  -- the next attempt is legal, so the report fails a gate and an action is left
  obtain ⟨s', hs'⟩ := foldlM_ok_iff.mpr hl.each
  rw [List.foldlM_append] at hs'
  obtain ⟨u, hu, hs'⟩ := bind_ok_iff.mp hs'
  obtain rfl : u = s := Except.ok.inj (hu.symm.trans hs.loop)
  obtain ⟨v, hv, -⟩ := bind_ok_iff.mp hs'
  obtain ⟨plan, improved, hlegal, -⟩ := replayAttempt_ok_iff.mp hv
  have hplan : planFor history.initialAttempt.request = .ok plan := by
    rw [← planFor_congr hs.replayed.spec hs.replayed.output]
    exact hlegal.planned
  have hidle := ht plan hplan history.repairAttempts (attempt :: rest) rfl hrest
  rw [progressOf_eq hplan hs.loop] at hidle
  have hlen : history.repairAttempts.length <
      history.initialAttempt.request.compiledSpec.repair.maxRounds := by
    have := hl.rounds
    rw [List.length_append, List.length_cons] at this
    omega
  obtain ⟨-, hg⟩ := selectable_of_ok hlegal.selected
  have hstop := hs.stopReason hg
  rw [if_neg (Nat.not_le_of_lt hidle), if_neg (Nat.not_le_of_lt hlen)] at hstop
  unfold nextRepairStep at hterminal
  rw [rewrap_ok_iff, hstop, ok_bind] at hterminal
  obtain ⟨-, hterminal⟩ := check_ok_iff.mp hterminal
  obtain ⟨p, hp, hterminal⟩ := bind_ok_iff.mp hterminal
  obtain ⟨selection, hsel, hterminal⟩ := bind_ok_iff.mp hterminal
  rw [hs.currentRequest] at hp hsel
  obtain rfl := Except.ok.inj (hp.symm.trans hlegal.planned)
  rw [hs.currentReport, hs.currentTarget, hs.seen] at hsel
  cases selection with
  | noAction n =>
      obtain ⟨m, hm⟩ := selectRepair_noAction attempt.decision.decisionId hsel
      rw [hlegal.selected] at hm
      cases hm
  | decision d =>
      obtain ⟨-, hterminal⟩ := check_ok_iff.mp hterminal
      obtain ⟨_, -, hterminal⟩ := bind_ok_iff.mp hterminal
      cases hterminal

/-- The constructor and the machine agree on a tuple of attempts, and no
attempt comes after an end, exactly when the attempts are in time if they are
legal. -/
theorem accepted_iff_produced_iff (initial : InitialAttempt hashBytes digests)
    (attempts : List (RepairAttempt hashBytes)) :
    ((AcceptedHistory initial attempts ↔ ProducedHistory initial attempts) ∧
      (AcceptedHistory initial attempts → NoneAfterTerminal initial attempts)) ↔
    (LegalHistory initial attempts → Punctual initial attempts) := by
  rw [accepted_iff_legal]
  constructor
  · rintro ⟨hiff, -⟩ hl
    exact (hiff.mp hl).legal.2
  · intro h
    refine ⟨⟨fun hl => produced_of_legal hl (h hl), fun hp => hp.legal.1⟩, fun hl => ?_⟩
    exact noneAfterTerminal_of_legal hl (h hl)

end Machine

/-! ### Two idle repairs -/

namespace IdleRepairs

def pin : ResourcePin := ⟨py "template", py "1", sampleHash⟩

/-- A required rule that retries the sampling. -/
def rule : CompiledRule where
  definition := ⟨Id.lit .rule "SAMPLING_DEFECT", .l1, .item, true, .applicable,
    ⟨.reject, .reject⟩, fun _ => by decide⟩
  metricId := none
  thresholdBinding := none
  priority := 0
  affectedByActions := [retrySampling]
  bound := by
    intro b hb
    cases hb
  measured := fun _ hm => by cases hm
  actions_nodup := List.nodup_singleton _

def plan : CompiledVerificationPlan :=
  ⟨.xhsGrid, [rule], .notApplicable, none, by decide, by decide⟩

def defaults : GenerationParameters := ⟨.zero, .zero, .zero, by decide +kernel⟩

def spec (repair : RepairSection) : CompiledStyleSpec where
  repair := repair
  previewGraphs := []
  productionGraphs := [⟨.xhsGrid, (512, 512), .canny, [sampleHash], Id.lit .identifier "preset-1",
    defaults⟩]
  verificationPlans := [plan]
  compiledSpecHash := sampleHash

def asset : AssetRef := ⟨Id.lit .asset "asset-1", sampleHash⟩

def image : PreparedImage := ⟨asset, sampleHash, 512, 512⟩

def fields (repair : RepairSection) (attempt : String) (parent : Option AttemptId)
    (variationIndex : Nat) : RequestFields where
  jobId := Id.lit .job "job-1"
  attemptId := Id.lit .attempt attempt
  parentAttemptId := parent
  compiledSpec := spec repair
  generationProfile := .production
  outputProfile := .xhsGrid
  source := image
  styleReferences := [asset]
  prompt := ⟨pin, Id.lit .identifier "preset-1", [], []⟩
  controlInput := ⟨.canny, image⟩
  variationIndex := variationIndex
  environmentHash := sampleHash
  executionParameters := defaults

def digests : Digests := ⟨fun _ => sampleHash, fun _ => sampleHash⟩

def ref (name : String) : ArtifactRef := ⟨Id.lit .artifact name, sampleHash⟩

def artifact (name : String) : GeneratedArtifact fun _ => sampleHash :=
  ⟨ref name, [], sampleHash, sampleHash, rfl⟩

/-- The report on a failing artifact. -/
def results (name : String) : List RuleResult :=
  [⟨rule.definition.ruleId, .fail, [(ref name).artifactId], none⟩]

def firstReport : VerificationReport :=
  ⟨[ref "artifact-0"], [rule.definition], results "artifact-0", by decide⟩

def secondReport : VerificationReport :=
  ⟨[ref "artifact-1"], [rule.definition], results "artifact-1", by decide⟩

def thirdReport : VerificationReport :=
  ⟨[ref "artifact-2"], [rule.definition], results "artifact-2", by decide⟩

/-- At most three rounds, and a stop after one attempt that does not improve. -/
def stopAfterOne : RepairSection := ⟨py "1.0", 3, 1, by decide⟩

def initial : InitialAttempt (fun _ => sampleHash) digests where
  request := ⟨fields stopAfterOne "attempt-0" none 0, by decide +kernel⟩
  artifact := artifact "artifact-0"
  report := firstReport
  valid := by decide +kernel

/-- The decision to retry from a variation. -/
def decision (name : String) (index : Nat) (h : index + 1 ≤ maxVariationIndex) :
    RepairDecision where
  decisionId := Id.lit .decision name
  triggerRuleId := rule.definition.ruleId
  actionId := retrySampling
  patch := ⟨defaults, defaults, index, index + 1, ⟨Nat.le_of_succ_le h, h⟩, by
    rw [GenerationParameters.same_self, decide_eq_false (Nat.succ_ne_self index).symm]
    decide⟩

def firstRepair : RepairAttempt fun _ => sampleHash where
  parentReport := firstReport
  decision := decision "decision-1" 0 (by decide)
  request :=
    ⟨fields stopAfterOne "attempt-1" (some (Id.lit .attempt "attempt-0")) 1, by decide +kernel⟩
  artifact := artifact "artifact-1"
  report := secondReport

def secondRepair : RepairAttempt fun _ => sampleHash where
  parentReport := secondReport
  decision := decision "decision-2" 1 (by decide)
  request :=
    ⟨fields stopAfterOne "attempt-2" (some (Id.lit .attempt "attempt-1")) 2, by decide +kernel⟩
  artifact := artifact "artifact-2"
  report := thirdReport

/-- The second repair comes late. -/
theorem not_punctual : ¬ Punctual initial [firstRepair, secondRepair] := by
  intro h
  have hlate := h plan (by decide +kernel) [firstRepair] [secondRepair] rfl (by simp)
  revert hlate
  decide +kernel

end IdleRepairs

/-- Two repairs that do not improve are accepted, although the machine ends
after the first. -/
theorem idle_repairs_accepted :
    AcceptedHistory IdleRepairs.initial [IdleRepairs.firstRepair, IdleRepairs.secondRepair] ∧
    ¬ ProducedHistory IdleRepairs.initial [IdleRepairs.firstRepair, IdleRepairs.secondRepair] ∧
    ∃ history t, RepairHistory.new IdleRepairs.initial [IdleRepairs.firstRepair] = .ok history ∧
      nextRepairStep history (Id.lit .decision "decision-2") (Id.lit .attempt "attempt-2") =
        .ok (.terminal t) ∧
      t.artifactDecision.repairStopReason = some .noImprovement := by
  have haccepted : ((replay IdleRepairs.initial
      [IdleRepairs.firstRepair, IdleRepairs.secondRepair]).toOption.isSome) = true := by
    decide +kernel
  have hlegal : LegalHistory IdleRepairs.initial
      [IdleRepairs.firstRepair, IdleRepairs.secondRepair] := by
    rcases hr : replay IdleRepairs.initial [IdleRepairs.firstRepair, IdleRepairs.secondRepair] with
      e | r
    · rw [hr] at haccepted
      cases haccepted
    · obtain ⟨s, hs, hv, hlen, -⟩ := replay_ok_iff.mp hr
      exact ⟨foldlM_ok_iff.mp ⟨s, hs⟩, hv, hlen⟩
  refine ⟨accepted_iff_legal.mpr hlegal, fun h => IdleRepairs.not_punctual h.legal.2, ?_⟩
  -- the first repair alone is accepted too, and did not improve
  obtain ⟨s', hs'⟩ := foldlM_ok_iff.mpr hlegal.each
  change replayLoop IdleRepairs.initial ([IdleRepairs.firstRepair] ++ [IdleRepairs.secondRepair]) =
    .ok s' at hs'
  obtain ⟨s, hs, ha⟩ := replayLoop_concat.mp hs'
  obtain ⟨plan, improved, hl, -⟩ := replayAttempt_ok_iff.mp ha
  have hfirst : LegalHistory IdleRepairs.initial [IdleRepairs.firstRepair] :=
    ⟨foldlM_ok_iff.mp ⟨s, hs⟩, hlegal.version, by decide⟩
  obtain ⟨history, hh⟩ := accepted_iff_legal.mpr hfirst
  obtain ⟨hi, hattempts⟩ := RepairHistory.new_ok_iff.mp hh
  obtain ⟨t, ht⟩ := history.replayedTo
  have hloop := ht.loop
  rw [hi, hattempts] at hloop
  obtain rfl : t = s := Except.ok.inj (hloop.symm.trans hs)
  have hidle : t.noImprovement = 1 := by
    have hplan : planFor IdleRepairs.initial.request = .ok IdleRepairs.plan := by decide +kernel
    have hp := progressOf_eq hplan hs
    have hone : (progressOf IdleRepairs.plan IdleRepairs.initial
        [IdleRepairs.firstRepair]).idle = 1 := by
      decide +kernel
    rw [hp] at hone
    exact hone
  obtain ⟨-, hg⟩ := selectable_of_ok hl.selected
  obtain ⟨terminal, hnext, hreason⟩ := ht.late hg (by rw [hi, hidle]; decide)
    (Id.lit .decision "decision-2") (Id.lit .attempt "attempt-2")
  exact ⟨history, terminal, hh, hnext, hreason⟩

end SpecStyle
