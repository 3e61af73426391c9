/-
SpecStyle/Repair/Replay.lean

What a replayed history is.

A round of the replay accepts exactly the legal attempts (`LegalAttempt`),
and `Replayed` is what holds of the locals after any number of rounds: they
are those of the last attempt, the plan is the plan of the initial request,
the report has the rules of the plan and the artifact, and the states seen
are distinct.
-/
import SpecStyle.Repair.Loop
import Mathlib.Data.List.Induction

namespace SpecStyle

open PyLib

variable {hashBytes : Bytes → Sha256} {digests : Digests}

/-! ### Legal attempts -/

/-- What a round checks: the decision is selected, the request is built from
it, the ids are fresh, the artifact answers the request and the report has
the rules of the plan and the cohort with the one slot replaced. -/
structure LegalAttempt (digests : Digests) (s : ReplayState hashBytes)
    (attempt : RepairAttempt hashBytes) (plan : CompiledVerificationPlan) (improved : Bool) :
    Prop where
  planned : planFor s.request = .ok plan
  parent : attempt.parentReport.sameKey s.report = true
  selected : selectRepair s.request plan s.report s.target attempt.decision.decisionId s.seen =
    .ok (.decision attempt.decision)
  request : buildRepairRequest s.request attempt.decision attempt.request.attemptId =
    .ok attempt.request
  attemptId : attempt.request.attemptId ∉ s.attemptIds
  decisionId : attempt.decision.decisionId ∉ s.decisionIds
  artifactId : attempt.artifact.ref.artifactId ∉ s.artifactIds
  hashes : carriesHashes digests attempt.request attempt.artifact = true
  rules : attempt.report.rules = plan.applicableRuleDefinitions
  slot : replacesSlot s.report.artifacts attempt.report.artifacts s.artifact.ref
    attempt.artifact.ref = true
  improvement : isRepairImprovement plan s.report attempt.report s.target
    attempt.artifact.ref.artifactId attempt.decision = .ok improved
  unseen : attempt.request.state ∉ s.seen

/-- A round accepts exactly the legal attempts. -/
theorem replayAttempt_ok_iff {s s' : ReplayState hashBytes} {attempt : RepairAttempt hashBytes} :
    replayAttempt digests s attempt = .ok s' ↔
      ∃ plan improved, LegalAttempt digests s attempt plan improved ∧
        s' = s.after attempt improved := by
  unfold replayAttempt
  constructor
  · intro h
    obtain ⟨plan, hplan, h⟩ := bind_ok_iff.mp h
    obtain ⟨hparent, h⟩ := check_ok_iff.mp h
    obtain ⟨selected, hs, h⟩ := bind_ok_iff.mp h
    obtain ⟨hsel, h⟩ := check_ok_iff.mp h
    obtain ⟨expected, he, h⟩ := bind_ok_iff.mp h
    obtain ⟨hexp, h⟩ := check_ok_iff.mp h
    obtain ⟨hfresh, h⟩ := check_ok_iff.mp h
    obtain ⟨hhash, h⟩ := check_ok_iff.mp h
    obtain ⟨hrules, h⟩ := check_ok_iff.mp h
    obtain ⟨hslot, h⟩ := check_ok_iff.mp h
    obtain ⟨improved, himp, h⟩ := bind_ok_iff.mp h
    obtain ⟨hun, h⟩ := check_ok_iff.mp h
    unfold checkReport at hrules
    simp only [ensure_ok_iff, decide_eq_true_eq] at hparent hsel hexp hfresh hhash hrules hslot hun
    cases h
    subst hsel
    subst hexp
    exact ⟨plan, improved, ⟨hplan, hparent, hs, he, hfresh.1, hfresh.2.1, hfresh.2.2, hhash,
      hrules, hslot, himp, hun⟩, rfl⟩
  · rintro ⟨plan, improved, h, rfl⟩
    refine bind_ok_iff.mpr ⟨plan, h.planned, ?_⟩
    refine check_ok_iff.mpr ⟨ensure_ok_iff.mpr h.parent, ?_⟩
    refine bind_ok_iff.mpr ⟨_, h.selected, ?_⟩
    refine check_ok_iff.mpr ⟨ensure_ok_iff.mpr (decide_eq_true rfl), ?_⟩
    refine bind_ok_iff.mpr ⟨_, h.request, ?_⟩
    refine check_ok_iff.mpr ⟨ensure_ok_iff.mpr (decide_eq_true rfl), ?_⟩
    refine check_ok_iff.mpr ⟨ensure_ok_iff.mpr
      (decide_eq_true ⟨h.attemptId, h.decisionId, h.artifactId⟩), ?_⟩
    refine check_ok_iff.mpr ⟨ensure_ok_iff.mpr h.hashes, ?_⟩
    refine check_ok_iff.mpr ⟨ensure_ok_iff.mpr (decide_eq_true h.rules), ?_⟩
    refine check_ok_iff.mpr ⟨ensure_ok_iff.mpr h.slot, ?_⟩
    refine bind_ok_iff.mpr ⟨_, h.improvement, ?_⟩
    exact check_ok_iff.mpr ⟨ensure_ok_iff.mpr (decide_eq_true h.unseen), rfl⟩

/-- The loop on one attempt more. -/
theorem replayLoop_concat {initial : InitialAttempt hashBytes digests}
    {attempts : List (RepairAttempt hashBytes)} {attempt : RepairAttempt hashBytes}
    {s' : ReplayState hashBytes} :
    replayLoop initial (attempts ++ [attempt]) = .ok s' ↔
      ∃ s, replayLoop initial attempts = .ok s ∧ replayAttempt digests s attempt = .ok s' := by
  unfold replayLoop
  rw [List.foldlM_append, bind_ok_iff]
  constructor
  · rintro ⟨s, hs, h⟩
    obtain ⟨t, ht, h⟩ := bind_ok_iff.mp h
    cases h
    exact ⟨s, hs, ht⟩
  · rintro ⟨s, hs, h⟩
    exact ⟨s, hs, bind_ok_iff.mpr ⟨s', h, rfl⟩⟩

/-! ### Slots -/

/-- The new artifact stands in the child cohort. -/
theorem mem_of_replacesSlot {parent child : List ArtifactRef} {old new : ArtifactRef}
    (h : replacesSlot parent child old new = true) : new ∈ child := by
  unfold replacesSlot at h
  split at h
  · cases h
  · next slot _ =>
    rw [Bool.and_eq_true, beq_iff_eq] at h
    exact List.mem_of_getElem? h.2

/-! ### States -/

theorem RepairState.same_comm (a b : RepairState) : a.same b = b.same a := by
  unfold RepairState.same GenerationParameters.same
  rw [Binary64.same_comm a.parameters.ipAdapterScale,
    Binary64.same_comm a.parameters.img2imgStrength,
    Binary64.same_comm a.parameters.controlnetScale,
    BEq.comm (a := a.variationIndex)]

theorem validateSeen_ok_iff {seen : List RepairState} :
    validateSeen seen = .ok () ↔
      (∀ state ∈ seen, state.variationIndex ≤ maxVariationIndex) ∧
        seen.Pairwise fun a b => a.same b = false := by
  unfold validateSeen
  rw [ensure_ok_iff, Bool.and_eq_true, List.all_eq_true, decide_eq_true_eq]
  simp

/-- A state unlike those seen may be added. -/
theorem validateSeen_concat {seen : List RepairState} {state : RepairState}
    (h : validateSeen seen = .ok ()) (hi : state.variationIndex ≤ maxVariationIndex)
    (hu : seen.any state.same = false) : validateSeen (seen ++ [state]) = .ok () := by
  obtain ⟨hb, hp⟩ := validateSeen_ok_iff.mp h
  rw [validateSeen_ok_iff, List.pairwise_append]
  refine ⟨fun x hx => ?_, hp, List.pairwise_singleton _ _, fun x hx y hy => ?_⟩
  · rcases List.mem_append.mp hx with hx | hx
    · exact hb x hx
    · rw [List.mem_singleton.mp hx]
      exact hi
  · rw [List.mem_singleton.mp hy, RepairState.same_comm]
    have hf := List.any_eq_false.mp hu x hx
    simpa using hf

/-! ### What is replayed -/

/-- What holds of the locals after the attempts. -/
structure Replayed (initial : InitialAttempt hashBytes digests)
    (attempts : List (RepairAttempt hashBytes)) (s : ReplayState hashBytes) : Prop where
  request : s.request = (attempts.getLast?.map (·.request)).getD initial.request
  artifact : s.artifact = (attempts.getLast?.map (·.artifact)).getD initial.artifact
  report : s.report = (attempts.getLast?.map (·.report)).getD initial.report
  spec : s.request.compiledSpec = initial.request.compiledSpec
  output : s.request.outputProfile = initial.request.outputProfile
  rules : ∀ plan, planFor initial.request = .ok plan →
    s.report.rules = plan.applicableRuleDefinitions
  ref : s.artifact.ref ∈ s.report.artifacts
  seen : validateSeen s.seen = .ok ()
  attemptIds : s.attemptIds = initial.request.attemptId :: attempts.map (·.request.attemptId)
  artifactIds : s.artifactIds =
    initial.artifact.ref.artifactId :: attempts.map (·.artifact.ref.artifactId)
  decisionIds : s.decisionIds = attempts.map (·.decision.decisionId)

/-- What `_check_initial` has checked. -/
theorem InitialAttempt.checked (initial : InitialAttempt hashBytes digests) :
    initial.artifact.ref ∈ initial.report.artifacts ∧
      ∃ plan, planFor initial.request = .ok plan ∧
        initial.report.rules = plan.applicableRuleDefinitions := by
  have h := initial.valid
  unfold checkInitial at h
  obtain ⟨-, h⟩ := check_ok_iff.mp h
  obtain ⟨graph, -, h⟩ := bind_ok_iff.mp h
  obtain ⟨-, h⟩ := check_ok_iff.mp h
  obtain ⟨-, h⟩ := check_ok_iff.mp h
  obtain ⟨href, h⟩ := check_ok_iff.mp h
  obtain ⟨plan, hplan, h⟩ := bind_ok_iff.mp h
  unfold checkReport at h
  rw [ensure_ok_iff, decide_eq_true_eq] at href h
  exact ⟨href, plan, hplan, h⟩

theorem GenerationRequest.variationIndex_le (request : GenerationRequest) :
    request.variationIndex ≤ maxVariationIndex := by
  have h := request.valid
  unfold validateRequest at h
  obtain ⟨graph, -, h⟩ := bind_ok_iff.mp h
  obtain ⟨-, h⟩ := check_ok_iff.mp h
  obtain ⟨-, h⟩ := check_ok_iff.mp h
  rw [ensure_ok_iff, decide_eq_true_eq] at h
  unfold maxVariationIndex
  omega

theorem replayed_start (initial : InitialAttempt hashBytes digests) :
    Replayed initial [] initial.start where
  request := rfl
  artifact := rfl
  report := rfl
  spec := rfl
  output := rfl
  rules := by
    intro plan hplan
    obtain ⟨-, p, hp, hr⟩ := initial.checked
    rw [hp] at hplan
    cases hplan
    exact hr
  ref := initial.checked.1
  seen := by
    rw [validateSeen_ok_iff]
    refine ⟨fun state hs => ?_, List.pairwise_singleton _ _⟩
    rw [List.mem_singleton.mp hs]
    exact initial.request.variationIndex_le
  attemptIds := rfl
  artifactIds := rfl
  decisionIds := rfl

/-- The plan depends on the specification and the output profile. -/
theorem planFor_congr {a b : GenerationRequest} (hs : a.compiledSpec = b.compiledSpec)
    (ho : a.outputProfile = b.outputProfile) : planFor a = planFor b := by
  unfold planFor plansFor
  rw [hs, ho]

theorem planFor_ok_iff {request : GenerationRequest} {plan : CompiledVerificationPlan} :
    planFor request = .ok plan ↔ plansFor request = [plan] := by
  unfold planFor
  rcases plansFor request with - | ⟨p, - | ⟨q, rest⟩⟩
  · simp
  · simp
  · simp

/-- The request of a legal attempt keeps the specification and the profile
and is in the state of the patch. -/
theorem LegalAttempt.request_fields {s : ReplayState hashBytes}
    {attempt : RepairAttempt hashBytes} {plan : CompiledVerificationPlan} {improved : Bool}
    (h : LegalAttempt digests s attempt plan improved) :
    attempt.request.compiledSpec = s.request.compiledSpec ∧
      attempt.request.outputProfile = s.request.outputProfile ∧
      attempt.request.state = ⟨attempt.decision.patch.afterParameters,
        attempt.decision.patch.afterVariationIndex⟩ := by
  obtain ⟨hplan, -⟩ := selectRepair_decision h.selected
  obtain ⟨-, hf⟩ := (buildRepairRequest_ok_iff hplan).mp h.request
  unfold GenerationRequest.state
  rw [hf]
  exact ⟨rfl, rfl, rfl⟩

/-- A round keeps it. -/
theorem Replayed.step {initial : InitialAttempt hashBytes digests}
    {attempts : List (RepairAttempt hashBytes)} {s s' : ReplayState hashBytes}
    {attempt : RepairAttempt hashBytes} (hs : Replayed initial attempts s)
    (h : replayAttempt digests s attempt = .ok s') :
    Replayed initial (attempts ++ [attempt]) s' := by
  obtain ⟨plan, improved, hl, rfl⟩ := replayAttempt_ok_iff.mp h
  obtain ⟨hspec, hout, hstate⟩ := hl.request_fields
  obtain ⟨-, -, hun, -⟩ := selectRepair_decision hl.selected
  refine ⟨?_, ?_, ?_, hspec.trans hs.spec, hout.trans hs.output, ?_,
    mem_of_replacesSlot hl.slot, ?_, ?_, ?_, ?_⟩
  · simp [ReplayState.after]
  · simp [ReplayState.after]
  · simp [ReplayState.after]
  · intro p hp
    rw [← planFor_congr hs.spec hs.output, hl.planned] at hp
    cases hp
    exact hl.rules
  · refine validateSeen_concat hs.seen attempt.request.variationIndex_le ?_
    rw [hstate]
    exact hun
  · simp [ReplayState.after, hs.attemptIds]
  · simp [ReplayState.after, hs.artifactIds]
  · simp [ReplayState.after, hs.decisionIds]

/-- It holds after every replay. -/
theorem replayed_loop {initial : InitialAttempt hashBytes digests}
    {attempts : List (RepairAttempt hashBytes)} {s : ReplayState hashBytes}
    (h : replayLoop initial attempts = .ok s) : Replayed initial attempts s := by
  induction attempts using List.reverseRecOn generalizing s with
  | nil =>
      cases h
      exact replayed_start initial
  | append_singleton attempts attempt ih =>
      obtain ⟨t, ht, ha⟩ := replayLoop_concat.mp h
      exact (ih ht).step ha

end SpecStyle
