/-
SpecStyle/Repair/Improvement.lean

What the guardrail calls an improvement (`guardrails.py`).

Between two reports of one plan, a repair is an improvement exactly when every
required rule up to the trigger passes in the child.  The trigger did not pass
in the parent, so the first bit in which the gate vectors differ falls from one
to zero, and the vector gets smaller in the order of lists.

In a chain of improvements the child of a trial is the parent of the next one.
Its trigger blocks there, so it stands behind all the triggers before it: a
chain is no longer than the list of the required rules.
-/
import SpecStyle.Repair.HistoryMachine
import Mathlib.Data.List.Chain

namespace SpecStyle

open PyLib

/-- `required_gate_vector` -/
def requiredGateVector (plan : CompiledVerificationPlan) (report : VerificationReport)
    (target : ArtifactId) : Except Raised (List Nat) := do
  validatePlanReport plan report target
  ensure (!(orderedRequired plan).isEmpty) "plan has no applicable required gate"
  gateVector plan report target

/-! ### The order of the required rules -/

theorem CompiledRule.before_total (a b : CompiledRule) : a.before b ∨ b.before a :=
  le_total (toLex (a.definition.level.tier, toLex (a.priority, a.definition.ruleId.value))) _

theorem CompiledRule.before_trans {a b c : CompiledRule} (hab : a.before b) (hbc : b.before c) :
    a.before c :=
  le_trans hab hbc

/-- Two rules that stand before each other have one id. -/
theorem CompiledRule.ruleId_of_before {a b : CompiledRule} (hab : a.before b) (hba : b.before a) :
    a.definition.ruleId = b.definition.ruleId := by
  have hkey := le_antisymm hab hba
  apply Id.ext_value
  exact congrArg (fun k => (ofLex (ofLex k).2).2) hkey

theorem orderedRequired_sorted (plan : CompiledVerificationPlan) :
    (orderedRequired plan).Pairwise CompiledRule.before := by
  have : Std.Total CompiledRule.before := ⟨CompiledRule.before_total⟩
  have : IsTrans CompiledRule CompiledRule.before := ⟨fun _ _ _ => CompiledRule.before_trans⟩
  exact List.pairwise_insertionSort _ _

theorem orderedRequired_nodup (plan : CompiledVerificationPlan) :
    ((orderedRequired plan).map (·.definition.ruleId)).Nodup := by
  have hperm := (plan.rules.filter fun rule =>
    rule.definition.applicability = .applicable ∧ rule.definition.required = true).perm_insertionSort
    CompiledRule.before
  apply (hperm.map _).nodup_iff.mpr
  exact plan.rules_nodup.sublist (List.filter_sublist.map _)

/-- The required rules up to a rule are those before it in the list. -/
theorem before_iff_of_split {plan : CompiledVerificationPlan} {trigger : CompiledRule}
    {pre post : List CompiledRule} (hsplit : orderedRequired plan = pre ++ trigger :: post)
    {rule : CompiledRule} (hr : rule ∈ orderedRequired plan) :
    rule.before trigger ↔ rule ∈ pre ∨ rule = trigger := by
  have hsorted := orderedRequired_sorted plan
  have hnodup := orderedRequired_nodup plan
  rw [hsplit] at hr hsorted hnodup
  rw [List.pairwise_append, List.pairwise_cons] at hsorted
  constructor
  · intro hbefore
    rcases List.mem_append.mp hr with hpre | hrest
    · exact .inl hpre
    · rcases List.mem_cons.mp hrest with heq | hpost
      · exact .inr heq
      · -- a rule behind the trigger is another rule
        have hid := CompiledRule.ruleId_of_before hbefore (hsorted.2.1.1 rule hpost)
        rw [List.map_append, List.map_cons, List.nodup_append, List.nodup_cons] at hnodup
        exact absurd (List.mem_map.mpr ⟨rule, hpost, hid⟩) hnodup.2.1.1
  · rintro (hpre | rfl)
    · exact hsorted.2.2 rule hpre trigger List.mem_cons_self
    · exact (CompiledRule.before_total rule rule).elim id id

/-! ### An improvement -/

/-- The rule passes for the target. -/
def passes (report : VerificationReport) (target : ArtifactId) (rule : CompiledRule) : Bool :=
  report.statusOf rule.definition.ruleId target = some .pass

/-- A list of bits gets smaller when the first bit that differs falls. -/
theorem map_lt_map_of_prefix {α : Type} {f g : α → Nat} {pre post : List α} {t : α}
    (hpre : ∀ x ∈ pre, f x = 0) (ht : f t < g t) :
    (pre ++ t :: post).map f < (pre ++ t :: post).map g := by
  induction pre with
  | nil =>
      show f t :: post.map f < g t :: post.map g
      rw [List.cons_lt_cons_iff]
      exact .inl ht
  | cons x pre ih =>
      show f x :: (pre ++ t :: post).map f < g x :: (pre ++ t :: post).map g
      rw [List.cons_lt_cons_iff]
      have hx : f x = 0 := hpre x List.mem_cons_self
      have hrest := ih fun y hy => hpre y (List.mem_cons_of_mem _ hy)
      rcases Nat.eq_zero_or_pos (g x) with hg | hg
      · exact .inr ⟨hx.trans hg.symm, hrest⟩
      · exact .inl (by omega)

section Matching

variable {plan : CompiledVerificationPlan} {report : VerificationReport} {target : ArtifactId}

/-- The look-up of a required rule finds the status the rule has. -/
theorem MatchesPlan.passes_iff (h : MatchesPlan plan report target) {rule : CompiledRule}
    (hr : rule ∈ orderedRequired plan) : ∃ result,
      SpecStyle.resultFor report rule.definition.ruleId target = .ok result ∧
        report.matching rule.definition.ruleId target = [result] ∧
        (passes report target rule = true ↔ result.status = .pass) := by
  obtain ⟨result, hok, hone⟩ := h.resultFor hr
  refine ⟨result, hok, hone, ?_⟩
  unfold passes VerificationReport.statusOf
  rw [hone, decide_eq_true_iff]
  show some result.status = some .pass ↔ _
  exact Option.some_inj

/-- A rule that blocks does not pass. -/
theorem MatchesPlan.not_passes_of_blocks (h : MatchesPlan plan report target) {rule : CompiledRule}
    (hr : rule ∈ orderedRequired plan) (hb : blocks report target rule = true) :
    passes report target rule = false := by
  obtain ⟨result, -, hone, hiff⟩ := h.passes_iff hr
  rw [← Bool.not_eq_true, hiff]
  intro hpass
  unfold blocks at hb
  rw [hone] at hb
  simp [Gate.rejects, hpass] at hb

/-- The test of the rules before the trigger. -/
theorem prefixPasses_eq (h : MatchesPlan plan report target) {rules : List CompiledRule}
    (hr : ∀ rule ∈ rules, rule ∈ orderedRequired plan) :
    prefixPasses report target rules = .ok (rules.all (passes report target)) := by
  induction rules with
  | nil => rfl
  | cons rule rest ih =>
      obtain ⟨result, hok, -, hiff⟩ := h.passes_iff (hr rule List.mem_cons_self)
      have hrest := ih fun r hm => hr r (List.mem_cons_of_mem _ hm)
      unfold prefixPasses
      rw [hok, ok_bind, List.all_cons]
      split
      · rename_i hpass
        rw [hiff.mpr hpass, Bool.true_and]
        exact hrest
      · rename_i hpass
        rw [← hiff, Bool.not_eq_true] at hpass
        rw [hpass, Bool.false_and]

/-- The first blocking rule, where it stands in the list of the required rules. -/
theorem MatchesPlan.trigger_split (h : MatchesPlan plan report target) {trigger : CompiledRule}
    (hb : ((orderedRequired plan).filter (blocks report target)).head? = some trigger) :
    (passes report target trigger = false) ∧
      ∃ pre post, orderedRequired plan = pre ++ trigger :: post := by
  have hin := List.mem_filter.mp (List.mem_of_mem_head? hb)
  exact ⟨h.not_passes_of_blocks hin.1 hin.2, List.append_of_mem hin.1⟩

/-- The rules up to the trigger in the child make its vector smaller. -/
theorem gateBits_lt {child : VerificationReport} {childTarget : ArtifactId} {trigger : CompiledRule}
    {pre post : List CompiledRule} (hsplit : orderedRequired plan = pre ++ trigger :: post)
    (htrigger : passes report target trigger = false)
    (hchild : (pre ++ [trigger]).all (passes child childTarget) = true) :
    (orderedRequired plan).map (gateBit child childTarget) <
      (orderedRequired plan).map (gateBit report target) := by
  have hbit : ∀ rule ∈ pre ++ [trigger], gateBit child childTarget rule = 0 := by
    intro rule hr
    have hpass := List.all_eq_true.mp hchild rule hr
    exact if_pos (of_decide_eq_true hpass)
  have hone : gateBit report target trigger = 1 := if_neg (of_decide_eq_false htrigger)
  rw [hsplit]
  apply map_lt_map_of_prefix
  · intro rule hr
    exact hbit rule (List.mem_append_left _ hr)
  · rw [hone, hbit trigger (List.mem_append_right _ (List.mem_singleton_self trigger))]
    exact Nat.zero_lt_one

/-- What the guardrail answers: whether the rules up to the trigger pass. -/
theorem isRepairImprovement_eq {child : VerificationReport} {childTarget : ArtifactId}
    {d : RepairDecision} (h : MatchesPlan plan report target)
    (hc : MatchesPlan plan child childTarget) {trigger : CompiledRule} {pre post : List CompiledRule}
    (hsplit : orderedRequired plan = pre ++ trigger :: post)
    (hb : ((orderedRequired plan).filter (blocks report target)).head? = some trigger)
    (hd : d.triggerRuleId = trigger.definition.ruleId) :
    isRepairImprovement plan report child target childTarget d =
      .ok ((pre ++ [trigger]).all (passes child childTarget)) := by
  obtain ⟨htrigger, -⟩ := h.trigger_split hb
  have hin : ∀ rule ∈ pre ++ [trigger], rule ∈ orderedRequired plan := by
    intro rule hr
    rw [hsplit]
    rcases List.mem_append.mp hr with hr | hr
    · exact List.mem_append_left _ hr
    · rw [List.mem_singleton.mp hr]
      exact List.mem_append_right _ List.mem_cons_self
  have hlast : trigger ∈ pre ++ [trigger] := List.mem_append_right _ (List.mem_singleton_self _)
  obtain ⟨result, hok, -, hiff⟩ := hc.passes_iff (hin trigger hlast)
  -- the rules before the trigger are those with another id
  have hbefore : (orderedRequired plan).takeWhile
      (fun rule => rule.definition.ruleId ≠ d.triggerRuleId) = pre := by
    have hnodup := orderedRequired_nodup plan
    rw [hsplit, List.map_append, List.map_cons, List.nodup_append] at hnodup
    rw [hsplit, List.takeWhile_append_of_pos, List.takeWhile_cons_of_neg, List.append_nil]
    · simp [hd]
    · intro rule hr
      have hne := hnodup.2.2 _ (List.mem_map_of_mem hr) _ List.mem_cons_self
      simpa [hd] using hne
  have hmatch : ensure (decide (((orderedRequired plan).filter (blocks report target)).head?.map
      (·.definition.ruleId) = some d.triggerRuleId))
      "repair decision does not match parent blocking rule" = .ok () := by
    rw [ensure_ok_iff, decide_eq_true_eq, hb, hd]
    rfl
  have hreq : ensure (!(orderedRequired plan).isEmpty)
      "plan has no applicable required gate" = .ok () := by
    rw [ensure_ok_iff, hsplit]
    cases pre <;> rfl
  rw [← hd] at hok
  unfold isRepairImprovement
  rw [validatePlanReport_ok_iff.mpr h, ok_bind, validatePlanReport_ok_iff.mpr hc, ok_bind,
    blockingRules_ok h, ok_bind, hmatch, ok_bind]
  simp only
  rw [hreq, ok_bind, hok, ok_bind, hbefore,
    prefixPasses_eq hc fun rule hr => hin rule (List.mem_append_left _ hr), ok_bind,
    gateVector_ok hc, gateVector_ok h]
  cases hpre : pre.all (passes child childTarget) with
  | false =>
      rw [List.all_append, hpre, Bool.false_and]
      split <;> rfl
  | true =>
      split
      · rename_i hpass
        have hall : (pre ++ [trigger]).all (passes child childTarget) = true := by
          rw [List.all_append, hpre, List.all_cons, List.all_nil, hiff.mpr hpass]
          rfl
        rw [hall]
        show Except.ok (decide _) = Except.ok true
        rw [decide_eq_true (gateBits_lt hsplit htrigger hall)]
      · rename_i hpass
        rw [← hiff, Bool.not_eq_true] at hpass
        rw [List.all_append, hpre, List.all_cons, hpass]
        rfl

end Matching

/-! ### Trials -/

/-- What the guardrail is asked about: a decision on a parent, and the child it led to. -/
structure Trial where
  parent : VerificationReport
  child : VerificationReport
  parentTarget : ArtifactId
  childTarget : ArtifactId
  decision : RepairDecision

namespace Trial

variable (plan : CompiledVerificationPlan) (t u v : Trial)

/-- `is_repair_improvement` -/
def improvement : Except Raised Bool :=
  isRepairImprovement plan t.parent t.child t.parentTarget t.childTarget t.decision

/-- Both reports are those of the plan, and the decision is for the first rule
that blocks in the parent. -/
structure Triggered (trigger : CompiledRule) : Prop where
  parent : MatchesPlan plan t.parent t.parentTarget
  child : MatchesPlan plan t.child t.childTarget
  first : ((orderedRequired plan).filter (blocks t.parent t.parentTarget)).head? = some trigger
  decision : t.decision.triggerRuleId = trigger.definition.ruleId

/-- The child of the one is the parent of the other. -/
def leadsTo : Prop := t.child = u.parent ∧ t.childTarget = u.parentTarget

/-- The trigger of the one stands before the trigger of the other. -/
def triggeredBefore : Prop :=
  ∃ r ∈ orderedRequired plan, ∃ s ∈ orderedRequired plan,
    r.definition.ruleId = t.decision.triggerRuleId ∧
      s.definition.ruleId = u.decision.triggerRuleId ∧ ¬ s.before r

/-- The gate vector of the child of the one is larger than that of the other. -/
def vectorDrops : Prop :=
  ∃ before after, requiredGateVector plan t.child t.childTarget = .ok before ∧
    requiredGateVector plan u.child u.childTarget = .ok after ∧ after < before

variable {plan t u v}

/-- The guardrail answers, and says whether the required rules up to the trigger
pass in the child. -/
theorem Triggered.improvement_iff {trigger : CompiledRule} (h : t.Triggered plan trigger) :
    ∃ b, t.improvement plan = .ok b ∧ (b = true ↔ ∀ rule ∈ plan.rules,
      rule.definition.applicability = .applicable → rule.definition.required = true →
        rule.before trigger → passes t.child t.childTarget rule = true) := by
  obtain ⟨-, pre, post, hsplit⟩ := h.parent.trigger_split h.first
  refine ⟨_, isRepairImprovement_eq h.parent h.child hsplit h.first h.decision, ?_⟩
  rw [List.all_eq_true]
  constructor
  · intro hall rule hr ha hreq hbefore
    have hin : rule ∈ orderedRequired plan := mem_orderedRequired.mpr ⟨hr, ha, hreq⟩
    rcases (before_iff_of_split hsplit hin).mp hbefore with hpre | rfl
    · exact hall rule (List.mem_append_left _ hpre)
    · exact hall rule (List.mem_append_right _ (List.mem_singleton_self rule))
  · intro hall rule hr
    have hmem : rule ∈ pre ∨ rule = trigger := by simpa using hr
    have hin : rule ∈ orderedRequired plan := by
      rw [hsplit]
      rcases hmem with hpre | rfl
      · exact List.mem_append_left _ hpre
      · exact List.mem_append_right _ List.mem_cons_self
    obtain ⟨hm, ha, hreq⟩ := mem_orderedRequired.mp hin
    exact hall rule hm ha hreq ((before_iff_of_split hsplit hin).mpr hmem)

/-- An improvement has been triggered. -/
theorem triggered_of_improves (h : t.improvement plan = .ok true) :
    ∃ trigger, t.Triggered plan trigger := by
  obtain ⟨hparent, h⟩ := check_ok_iff.mp h
  obtain ⟨hchild, h⟩ := check_ok_iff.mp h
  obtain ⟨blocking, hblocking, h⟩ := bind_ok_iff.mp h
  obtain ⟨htrigger, -⟩ := check_ok_iff.mp h
  have hm := validatePlanReport_ok_iff.mp hparent
  rw [blockingRules_ok hm] at hblocking
  cases hblocking
  rw [ensure_ok_iff, decide_eq_true_eq, Option.map_eq_some_iff] at htrigger
  obtain ⟨trigger, hhead, hid⟩ := htrigger
  exact ⟨trigger, hm, validatePlanReport_ok_iff.mp hchild, hhead, hid.symm⟩

/-- What an improvement shows: its trigger, and the rules up to it. -/
theorem improves_spec (h : t.improvement plan = .ok true) :
    ∃ trigger ∈ orderedRequired plan, t.Triggered plan trigger ∧
      ∀ rule ∈ orderedRequired plan, rule.before trigger →
        passes t.child t.childTarget rule = true := by
  obtain ⟨trigger, htrigger⟩ := triggered_of_improves h
  obtain ⟨b, hb, hiff⟩ := htrigger.improvement_iff
  rw [h] at hb
  cases hb
  refine ⟨trigger, (List.mem_filter.mp (List.mem_of_mem_head? htrigger.first)).1, htrigger, ?_⟩
  intro rule hr hbefore
  obtain ⟨hm, ha, hreq⟩ := mem_orderedRequired.mp hr
  exact hiff.mp rfl rule hm ha hreq hbefore

theorem requiredGateVector_ok {report : VerificationReport} {target : ArtifactId}
    (h : MatchesPlan plan report target) {rule : CompiledRule} (hr : rule ∈ orderedRequired plan) :
    requiredGateVector plan report target =
      .ok ((orderedRequired plan).map (gateBit report target)) := by
  have hreq : ensure (!(orderedRequired plan).isEmpty)
      "plan has no applicable required gate" = .ok () := by
    rw [ensure_ok_iff, Bool.not_eq_true', List.isEmpty_eq_false_iff]
    exact List.ne_nil_of_mem hr
  unfold requiredGateVector
  rw [validatePlanReport_ok_iff.mpr h, ok_bind, hreq, ok_bind, gateVector_ok h]

/-- An improvement makes the gate vector smaller. -/
theorem vector_lt (h : t.improvement plan = .ok true) : ∃ before after,
    requiredGateVector plan t.parent t.parentTarget = .ok before ∧
      requiredGateVector plan t.child t.childTarget = .ok after ∧ after < before := by
  obtain ⟨trigger, hin, htrigger, hall⟩ := improves_spec h
  obtain ⟨hfails, pre, post, hsplit⟩ := htrigger.parent.trigger_split htrigger.first
  refine ⟨_, _, requiredGateVector_ok htrigger.parent hin, requiredGateVector_ok htrigger.child hin,
    gateBits_lt hsplit hfails ?_⟩
  rw [List.all_eq_true]
  intro rule hr
  have hmem : rule ∈ pre ∨ rule = trigger := by simpa using hr
  have hrule : rule ∈ orderedRequired plan := by
    rcases hmem with hpre | rfl
    · rw [hsplit]
      exact List.mem_append_left _ hpre
    · exact hin
  exact hall rule hrule ((before_iff_of_split hsplit hrule).mpr hmem)

/-! ### Chains -/

/-- The next trigger stands behind: it blocks in the parent, where the rules up to
the last trigger pass. -/
theorem triggeredBefore_of_leadsTo (hlink : t.leadsTo u) (ht : t.improvement plan = .ok true)
    (hu : u.improvement plan = .ok true) : t.triggeredBefore plan u := by
  obtain ⟨r, hr, htr, hall⟩ := improves_spec ht
  obtain ⟨s, hs, hus, -⟩ := improves_spec hu
  refine ⟨r, hr, s, hs, htr.decision.symm, hus.decision.symm, fun hbefore => ?_⟩
  have hpass := hall s hs hbefore
  rw [hlink.1, hlink.2, (hus.parent.trigger_split hus.first).1] at hpass
  cases hpass

theorem triggeredBefore_trans (htu : t.triggeredBefore plan u) (huv : u.triggeredBefore plan v) :
    t.triggeredBefore plan v := by
  obtain ⟨r, hr, s, hs, hrt, hsu, hrs⟩ := htu
  obtain ⟨s', hs', q, hq, hsu', hqv, hsq⟩ := huv
  have heq : s' = s := rule_eq_of_ruleId (mem_orderedRequired.mp hs').1 (mem_orderedRequired.mp hs).1
    (hsu'.trans hsu.symm)
  subst heq
  refine ⟨r, hr, q, hq, hrt, hqv, fun hqr => ?_⟩
  have hback : r.before s' := (CompiledRule.before_total r s').resolve_right hrs
  exact hsq (CompiledRule.before_trans hqr hback)

theorem vectorDrops_of_leadsTo (hlink : t.leadsTo u) (hu : u.improvement plan = .ok true) :
    t.vectorDrops plan u := by
  obtain ⟨before, after, hbefore, hafter, hlt⟩ := vector_lt hu
  rw [← hlink.1, ← hlink.2] at hbefore
  exact ⟨before, after, hbefore, hafter, hlt⟩

theorem vectorDrops_trans (htu : t.vectorDrops plan u) (huv : u.vectorDrops plan v) :
    t.vectorDrops plan v := by
  obtain ⟨x, y, hx, hy, hyx⟩ := htu
  obtain ⟨y', z, hy', hz, hzy⟩ := huv
  rw [hy] at hy'
  cases hy'
  exact ⟨x, z, hx, hz, List.lt_trans hzy hyx⟩

/-- What holds of neighbours and carries over holds of any two. -/
theorem pairwise_of_chain {R : Trial → Trial → Prop} (htrans : ∀ {t u v}, R t u → R u v → R t v)
    {trials : List Trial} (hchain : trials.IsChain R) : trials.Pairwise R := by
  have : Trans R R R := ⟨htrans⟩
  exact List.isChain_iff_pairwise.mp hchain

/-- A chain of improvements, with what its neighbours have of each other. -/
theorem chain_of_leadsTo {R : Trial → Trial → Prop} {trials : List Trial}
    (hR : ∀ t u, t.leadsTo u → t.improvement plan = .ok true → u.improvement plan = .ok true → R t u)
    (hlinks : trials.IsChain leadsTo) (himp : ∀ t ∈ trials, t.improvement plan = .ok true) :
    trials.IsChain R := by
  induction hlinks with
  | nil => exact .nil
  | singleton t => exact .singleton t
  | cons_cons hlink hrest ih =>
      refine .cons_cons ?_ (ih fun t ht => himp t (List.mem_cons_of_mem _ ht))
      exact hR _ _ hlink (himp _ List.mem_cons_self)
        (himp _ (List.mem_cons_of_mem _ List.mem_cons_self))

/-- A chain triggers each required rule at most once. -/
theorem chain_length {trials : List Trial} (htriggers : trials.Pairwise (triggeredBefore plan))
    (himp : ∀ t ∈ trials, t.improvement plan = .ok true) :
    trials.length ≤ (orderedRequired plan).length := by
  have hnodup : (trials.map (·.decision.triggerRuleId)).Nodup := by
    rw [List.Nodup, List.pairwise_map]
    refine htriggers.imp fun {t u} htu hid => ?_
    obtain ⟨r, hr, s, hs, hrt, hsu, hrs⟩ := htu
    have heq : s = r := rule_eq_of_ruleId (mem_orderedRequired.mp hs).1
      (mem_orderedRequired.mp hr).1 (hsu.trans (hid.symm.trans hrt.symm))
    subst heq
    exact hrs ((CompiledRule.before_total s s).elim id id)
  have hsub : trials.map (·.decision.triggerRuleId) ⊆
      (orderedRequired plan).map (·.definition.ruleId) := by
    intro id hid
    obtain ⟨t, ht, rfl⟩ := List.mem_map.mp hid
    obtain ⟨trigger, hin, htrigger, -⟩ := improves_spec (himp t ht)
    exact List.mem_map.mpr ⟨trigger, hin, htrigger.decision.symm⟩
  have hle := (List.subperm_of_subset hnodup hsub).length_le
  rwa [List.length_map, List.length_map] at hle

end Trial

/-! ### The trials of a history -/

section Histories

variable {hashBytes : Bytes → Sha256} {digests : Digests}

/-- What the replay asks the guardrail about, from a report and its target on. -/
def trialsFrom (report : VerificationReport) (target : ArtifactId) :
    List (RepairAttempt hashBytes) → List Trial
  | [] => []
  | attempt :: rest =>
    ⟨report, attempt.report, target, attempt.artifact.ref.artifactId, attempt.decision⟩ ::
      trialsFrom attempt.report attempt.artifact.ref.artifactId rest

/-- The trials of a history. -/
def RepairHistory.trials (history : RepairHistory hashBytes digests) : List Trial :=
  trialsFrom history.initialAttempt.report history.initialAttempt.artifact.ref.artifactId
    history.repairAttempts

/-- The child of an attempt is the parent of the next. -/
theorem trialsFrom_chain (report : VerificationReport) (target : ArtifactId)
    (attempts : List (RepairAttempt hashBytes)) :
    (trialsFrom report target attempts).IsChain Trial.leadsTo := by
  induction attempts generalizing report target with
  | nil => exact .nil
  | cons attempt rest ih =>
      cases rest with
      | nil => exact .singleton _
      | cons next rest =>
          have hrest := ih attempt.report attempt.artifact.ref.artifactId
          exact .cons_cons ⟨rfl, rfl⟩ hrest

theorem trialsFrom_answered {s : ReplayState hashBytes} {attempts : List (RepairAttempt hashBytes)}
    (h : LegalFrom digests s attempts) {plan : CompiledVerificationPlan}
    (hplan : planFor s.request = .ok plan) :
    ∀ t ∈ trialsFrom s.report s.target attempts, ∃ b, t.improvement plan = .ok b := by
  induction h with
  | nil =>
      intro t ht
      cases ht
  | cons hl hrest ih =>
      rename_i s attempt attempts plan' improved
      have hsame : plan' = plan := by
        have hplanned := hl.planned
        rw [hplan] at hplanned
        exact (Except.ok.inj hplanned).symm
      subst hsame
      intro t ht
      rcases List.mem_cons.mp ht with rfl | ht
      · exact ⟨improved, hl.improvement⟩
      · obtain ⟨hspec, hout, -⟩ := hl.request_fields
        exact ih ((planFor_congr hspec hout).trans hplan) t ht

/-- Every trial of a history has been answered. -/
theorem RepairHistory.trials_answered (history : RepairHistory hashBytes digests)
    {plan : CompiledVerificationPlan}
    (hplan : planFor history.initialAttempt.request = .ok plan) :
    ∀ t ∈ history.trials, ∃ b, t.improvement plan = .ok b := by
  obtain ⟨s, hs⟩ := history.replayedTo
  exact trialsFrom_answered (foldlM_ok_iff.mp ⟨s, hs.loop⟩) hplan

end Histories

/-- The trials of a history are a chain; so are any of them in a row. -/
theorem RepairHistory.trials_chain {hashBytes : Bytes → Sha256} {digests : Digests}
    (history : RepairHistory hashBytes digests) {run : List Trial}
    (hrun : run <:+: history.trials) : run.IsChain Trial.leadsTo := by
  obtain ⟨before, after, hsplit⟩ := hrun
  have hchain := trialsFrom_chain history.initialAttempt.report
    history.initialAttempt.artifact.ref.artifactId history.repairAttempts
  unfold RepairHistory.trials at hsplit
  rw [← hsplit] at hchain
  exact hchain.left_of_append.right_of_append

/-- A repair is an improvement exactly when the required rules up to its trigger
pass; an improvement makes the gate vector smaller; and in a chain of improvements
the vectors go down, the triggers go up, and there are fewer than `2 ^ k` steps. -/
theorem repair_improvement (plan : CompiledVerificationPlan) :
    (∀ (t : Trial) (trigger : CompiledRule), t.Triggered plan trigger →
      ∃ b, t.improvement plan = .ok b ∧ (b = true ↔ ∀ rule ∈ plan.rules,
        rule.definition.applicability = .applicable → rule.definition.required = true →
          rule.before trigger → passes t.child t.childTarget rule = true)) ∧
    (∀ t : Trial, t.improvement plan = .ok true → ∃ before after,
      requiredGateVector plan t.parent t.parentTarget = .ok before ∧
        requiredGateVector plan t.child t.childTarget = .ok after ∧ after < before) ∧
    ∀ trials : List Trial, trials.IsChain Trial.leadsTo →
      (∀ t ∈ trials, t.improvement plan = .ok true) →
        trials.Pairwise (Trial.vectorDrops plan) ∧
        trials.length ≤ 2 ^ (orderedRequired plan).length - 1 ∧
        trials.Pairwise (Trial.triggeredBefore plan) := by
  refine ⟨fun t trigger h => h.improvement_iff, fun t h => Trial.vector_lt h, ?_⟩
  intro trials hlinks himp
  have htriggers : trials.Pairwise (Trial.triggeredBefore plan) :=
    Trial.pairwise_of_chain (R := Trial.triggeredBefore plan) Trial.triggeredBefore_trans
      (Trial.chain_of_leadsTo (fun _ _ => Trial.triggeredBefore_of_leadsTo) hlinks himp)
  refine ⟨?_, ?_, htriggers⟩
  · exact Trial.pairwise_of_chain (R := Trial.vectorDrops plan) Trial.vectorDrops_trans
      (Trial.chain_of_leadsTo (fun _ _ hlink _ => Trial.vectorDrops_of_leadsTo hlink) hlinks himp)
  · have hlength := Trial.chain_length htriggers himp
    have hpow : (orderedRequired plan).length < 2 ^ (orderedRequired plan).length :=
      Nat.lt_two_pow_self
    omega

/-! ### Repairs over three levels -/

namespace LevelledRepairs

open IdleRepairs

/-- A required rule of the level, on the item. -/
def levelled (id : RuleId) (level : RuleLevel) : CompiledRule :=
  { rule with definition := { rule.definition with ruleId := id, level := level } }

def distance : CompiledRule := levelled (Id.lit .rule "A_STYLE_DISTANCE") .l2

def structureRule : CompiledRule := levelled (Id.lit .rule "B_STRUCTURE") .l3

def sampling : CompiledRule := levelled (Id.lit .rule "C_SAMPLING_DEFECT") .l1

/-- The rules stand in the plan against the order of their levels. -/
def plan : CompiledVerificationPlan :=
  ⟨.xhsGrid, [distance, structureRule, sampling], .notApplicable, none, by decide, by decide⟩

/-- The results of the three rules about an artifact. -/
def results (name : String) (a b c : RuleStatus) : List RuleResult :=
  [⟨distance.definition.ruleId, a, [(ref name).artifactId], none⟩,
   ⟨structureRule.definition.ruleId, b, [(ref name).artifactId], none⟩,
   ⟨sampling.definition.ruleId, c, [(ref name).artifactId], none⟩]

def definitions : List RuleDefinition :=
  [distance.definition, structureRule.definition, sampling.definition]

def report : VerificationReport :=
  ⟨[ref "artifact-0"], definitions, results "artifact-0" .fail .pass .fail, by decide⟩

/-- The sampling is repaired, and the structure lost. -/
def sampled : VerificationReport :=
  ⟨[ref "artifact-1"], definitions, results "artifact-1" .fail .fail .pass, by decide⟩

def restored : VerificationReport :=
  ⟨[ref "artifact-2"], definitions, results "artifact-2" .fail .pass .pass, by decide⟩

def firstTrial : Trial where
  parent := report
  child := sampled
  parentTarget := (ref "artifact-0").artifactId
  childTarget := (ref "artifact-1").artifactId
  decision := { firstRepair.decision with triggerRuleId := sampling.definition.ruleId }

def secondTrial : Trial where
  parent := sampled
  child := restored
  parentTarget := (ref "artifact-1").artifactId
  childTarget := (ref "artifact-2").artifactId
  decision := { firstRepair.decision with triggerRuleId := structureRule.definition.ruleId }

end LevelledRepairs

section

open LevelledRepairs

/-- Two repairs of a plan with rules of three levels. -/
theorem repair_improvement_levelled :
    (∃ b, firstTrial.improvement plan = .ok b ∧ (b = true ↔ ∀ rule ∈ plan.rules,
      rule.definition.applicability = .applicable → rule.definition.required = true →
        rule.before sampling → passes sampled firstTrial.childTarget rule = true)) ∧
    [firstTrial, secondTrial].Pairwise (Trial.vectorDrops plan) ∧
    [firstTrial, secondTrial].length ≤ 2 ^ (orderedRequired plan).length - 1 ∧
    [firstTrial, secondTrial].Pairwise (Trial.triggeredBefore plan) := by
  have hparent : MatchesPlan plan report firstTrial.parentTarget := ⟨by decide, by decide⟩
  have hchild : MatchesPlan plan sampled firstTrial.childTarget := ⟨by decide, by decide⟩
  obtain ⟨hiff, -, hchain⟩ := repair_improvement plan
  refine ⟨hiff firstTrial sampling ⟨hparent, hchild, by decide, rfl⟩, ?_⟩
  refine hchain [firstTrial, secondTrial] (.cons_cons ⟨rfl, rfl⟩ (.singleton _)) ?_
  intro t ht
  rcases List.mem_cons.mp ht with rfl | ht
  · decide
  · obtain rfl := List.mem_singleton.mp ht
    decide

end

end SpecStyle
