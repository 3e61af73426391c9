/-
SpecStyle/Spec/CompilerGates.lean

The gates of a compiled plan.

Of an accepted specification every plan has an applicable required rule of
level L1, and every applicable rule that takes its threshold from a profile
is bound to its metric in a profile of the context that stands.  A required
fidelity gate, though, need not take its threshold from anywhere: a rule with
no threshold source passes `_validate_l3`, and is compiled without a binding
(`gate_without_threshold`).  The plans are safe exactly when the plugin has a
gate with a threshold for each output (`gates_safe_iff`).
-/
import SpecStyle.Spec.Compiler
import SpecStyle.Spec.CompiledHash

namespace SpecStyle

namespace Compiler

open PyLib

variable {α : Type} {raw : Spec.StyleSpec} {context : CompilerContext}

/-! ### One resolution -/

/-- What resolves exactly once is the only one that is selected. -/
theorem one_ok {values : List α} {selects : α → Bool} {name : String} {value : α}
    (h : one values selects name = .ok value) :
    value ∈ values ∧ selects value = true ∧ ∀ v ∈ values, selects v = true → v = value := by
  unfold one at h
  split at h
  · next v hv =>
    cases h
    have hm : value ∈ values.filter selects := by
      rw [hv]
      exact List.mem_singleton_self value
    obtain ⟨hmem, hsel⟩ := List.mem_filter.mp hm
    refine ⟨hmem, hsel, fun w hw hs => ?_⟩
    have hw : w ∈ values.filter selects := List.mem_filter.mpr ⟨hw, hs⟩
    rw [hv] at hw
    exact List.mem_singleton.mp hw
  · cases h

/-! ### Rules -/

/-- The profile a capability takes its threshold from. -/
def thresholdProfile (rule : RuleCapability) (l2Profile : ThresholdProfileCapability)
    (l3Profile : Option ThresholdProfileCapability) : Option ThresholdProfileCapability :=
  match rule.thresholdSource with
  | .l2 => some l2Profile
  | .l3 => l3Profile
  | .none => none

/-- The binding of a metric of a profile. -/
def bindingOf (profile : ThresholdProfileCapability) (metric : ThresholdMetricCapability) :
    Compiled.ThresholdBinding :=
  ⟨profile.pin, profile.logicalName, profile.status, metric.metricId, metric.operator, metric.value,
    profile.calibrationDatasetSha256, profile.validationDatasetSha256,
    profile.annotationProtocolSha256, profile.productionApprovalSha256⟩

/-- An active rule with a threshold source is bound to its metric in the
profile of that source. -/
theorem binding_ok {rule : RuleCapability} {l2Profile : ThresholdProfileCapability}
    {l3Profile : Option ThresholdProfileCapability} {b : Option Compiled.ThresholdBinding}
    (h : binding rule true l2Profile l3Profile = .ok b) (hs : rule.thresholdSource ≠ .none) :
    ∃ profile ∈ thresholdProfile rule l2Profile l3Profile, ∃ metric ∈ profile.metrics,
      rule.metricId = some metric.metricId ∧ b = some (bindingOf profile metric) := by
  unfold binding at h
  cases hm : rule.metricId with
  | none => exact absurd (rule.measured.mpr hm) hs
  | some metricId =>
      rw [hm] at h
      simp only at h
      split at h
      · cases h
      · next profile hp =>
        obtain ⟨metric, hone, h⟩ := bind_ok_iff.mp h
        cases h
        obtain ⟨hmem, hsel, -⟩ := one_ok hone
        rw [decide_eq_true_eq] at hsel
        exact ⟨profile, hp, metric, hmem, by rw [hsel], rfl⟩

/-- A rule without a threshold source is not bound. -/
theorem binding_none {rule : RuleCapability} {active : Bool}
    {l2Profile : ThresholdProfileCapability} {l3Profile : Option ThresholdProfileCapability}
    (hs : rule.thresholdSource = .none) : binding rule active l2Profile l3Profile = .ok none := by
  unfold binding
  rw [rule.measured.mp hs]
  cases active <;> rfl

theorem ruleNew_ok {definition : RuleDefinition} {verifierPin : ResourcePin}
    {metricId : Option Identifier} {binding : Option Compiled.ThresholdBinding} {priority : Nat}
    {actions : List Identifier} {rule : Compiled.Rule}
    (h : Compiled.Rule.new definition verifierPin metricId binding priority actions = .ok rule) :
    rule.definition = definition ∧ rule.metricId = metricId ∧ rule.thresholdBinding = binding := by
  unfold Compiled.Rule.new at h
  split at h
  · cases h
    exact ⟨rfl, rfl, rfl⟩
  · cases h

/-- What is compiled of a capability. -/
structure RuleCompiles (raw : Spec.StyleSpec) (output : OutputProfile)
    (l2Profile : ThresholdProfileCapability)
    (l3 : Option (L3PluginCapability × ThresholdProfileCapability)) (capability : RuleCapability)
    (rule : Compiled.Rule) : Prop where
  ruleId : rule.definition.ruleId = capability.ruleId
  level : rule.definition.level = capability.level
  required : rule.definition.required = required capability raw
  applicable : rule.applicable = applicable capability raw.domain.profile output (l3.map Prod.fst)
  metricId : rule.metricId = capability.metricId
  binding : binding capability rule.applicable l2Profile (l3.map Prod.snd) = .ok rule.thresholdBinding

theorem ruleDefinition_ok {capability : RuleCapability} {required : Bool}
    {applicability : StaticApplicability} {gatePolicy : GatePolicy} {d : RuleDefinition}
    (h : ruleDefinition capability required applicability gatePolicy = .ok d) :
    d.ruleId = capability.ruleId ∧ d.level = capability.level ∧ d.required = required ∧
      d.applicability = applicability := by
  unfold ruleDefinition at h
  split_ifs at h
  cases h
  exact ⟨rfl, rfl, rfl, rfl⟩

theorem compiledRule_ok {capability : RuleCapability} {output : OutputProfile}
    {l2Profile : ThresholdProfileCapability}
    {l3 : Option (L3PluginCapability × ThresholdProfileCapability)} {rule : Compiled.Rule}
    (h : compiledRule capability raw output l2Profile l3 = .ok rule) :
    RuleCompiles raw output l2Profile l3 capability rule := by
  unfold compiledRule at h
  obtain ⟨definition, hd, h⟩ := bind_ok_iff.mp h
  obtain ⟨b, hb, h⟩ := bind_ok_iff.mp h
  obtain ⟨rfl, hm, rfl⟩ := ruleNew_ok h
  obtain ⟨hid, hlevel, hrequired, happ⟩ := ruleDefinition_ok hd
  have ha : rule.applicable = applicable capability raw.domain.profile output (l3.map Prod.fst) := by
    unfold Compiled.Rule.applicable
    rw [happ]
    cases applicable capability raw.domain.profile output (l3.map Prod.fst) <;> simp
  exact ⟨hid, hlevel, hrequired, ha, hm, by rw [ha]; exact hb⟩

/-! ### Plans -/

/-- What a plan is compiled of: one rule for each source rule. -/
structure PlanCompiles (raw : Spec.StyleSpec) (output : OutputProfile)
    (catalog : RuleCatalogCapability) (l2Profile : ThresholdProfileCapability)
    (l3 : Option (L3PluginCapability × ThresholdProfileCapability))
    (plan : Compiled.VerificationPlan) : Prop where
  ids_nodup : ((sourceRules catalog l3).map (·.ruleId)).Nodup
  source : ∀ rule ∈ plan.rules, ∃ capability ∈ sourceRules catalog l3,
    RuleCompiles raw output l2Profile l3 capability rule
  compiled : ∀ capability ∈ sourceRules catalog l3, ∃ rule ∈ plan.rules,
    RuleCompiles raw output l2Profile l3 capability rule
  thresholdPin : plan.l3ThresholdProfilePin = l3.map fun p => p.2.pin

theorem planNew_ok {output : OutputProfile} {outputPin : ResourcePin} {rules : List Compiled.Rule}
    {status : L3PlanStatus} {reason : Option Compiled.L3NotApplicableReason}
    {pluginPin thresholdPin : Option ResourcePin} {plan : Compiled.VerificationPlan}
    (h : Compiled.VerificationPlan.new output outputPin rules status reason pluginPin thresholdPin =
      .ok plan) :
    plan.outputProfile = output ∧ plan.rules = rules ∧ plan.l3ThresholdProfilePin = thresholdPin := by
  unfold Compiled.VerificationPlan.new at h
  split at h
  · cases h
    exact ⟨rfl, rfl, rfl⟩
  · cases h

theorem plan_ok {output : OutputProfileCapability} {catalog : RuleCatalogCapability}
    {l2Profile : ThresholdProfileCapability}
    {l3 : Option (L3PluginCapability × ThresholdProfileCapability)}
    {p : Compiled.VerificationPlan} (h : plan raw output catalog l2Profile l3 = .ok p) :
    p.outputProfile = output.profile ∧
      PlanCompiles raw output.profile catalog l2Profile l3 p := by
  unfold plan at h
  obtain ⟨hu, h⟩ := check_ok_iff.mp h
  obtain ⟨compiled, hc, h⟩ := bind_ok_iff.mp h
  have hu : ((sourceRules catalog l3).map (·.ruleId)).Nodup := by
    unfold uniqueRuleIds at hu
    rwa [ensure_ok_iff, decide_eq_true_eq] at hu
  have hnew : p.outputProfile = output.profile ∧
      p.rules = compiled.insertionSort (fun a b =>
        a.definition.ruleId.value ≤ b.definition.ruleId.value) ∧
      p.l3ThresholdProfilePin = l3.map fun p => p.2.pin := by
    rcases l3 with - | ⟨plugin, profile⟩
    · exact planNew_ok h
    · simp only at h
      split_ifs at h
      · exact planNew_ok h
      · exact planNew_ok h
  obtain ⟨hout, hrules, hpin⟩ := hnew
  refine ⟨hout, hu, fun rule hr => ?_, fun capability hcap => ?_, hpin⟩
  · rw [hrules, List.mem_insertionSort] at hr
    obtain ⟨capability, hm, hok⟩ := mapM_ok_source hc hr
    exact ⟨capability, hm, compiledRule_ok hok⟩
  · obtain ⟨rule, hm, hok⟩ := mapM_ok_image hc hcap
    exact ⟨rule, by rw [hrules, List.mem_insertionSort]; exact hm, compiledRule_ok hok⟩

/-! ### Accepted specifications -/

/-- What an accepting run of the compiler has resolved and checked for its
plans. -/
structure Accepts (raw : Spec.StyleSpec) (context : CompilerContext)
    (plans : List Compiled.VerificationPlan) (catalog : RuleCatalogCapability)
    (l2 : ThresholdProfileCapability)
    (l3 : Option (L3PluginCapability × ThresholdProfileCapability))
    (outs : List OutputProfileCapability) : Prop where
  catalogValid : validateCatalog catalog = .ok ()
  l2Found : ∃ encoder, l2Profile raw context encoder catalog = .ok l2
  l3Found : l3Resolution raw context = .ok l3
  l3Valid : validateL3 raw l3 = .ok ()
  outputsFound : outputs raw context = .ok outs
  planned : (outs.mapM fun output => plan raw output catalog l2 l3) = .ok plans
  covered : validateL1Coverage plans raw = .ok ()

/-- What an accepting run has resolved, and what it has made of it. -/
structure Resolves (raw : Spec.StyleSpec) (context : CompilerContext) (rt : RuntimeCapability)
    (ms : ResolvedModels) (enc : Compiled.ResolvedEncoder) (mp : StrengthMappingCapability)
    (outs : List OutputProfileCapability) (cat : RuleCatalogCapability)
    (l2 : ThresholdProfileCapability)
    (l3 : Option (L3PluginCapability × ThresholdProfileCapability))
    (ps : Compiled.StyleSpecParts) : Prop where
  runtimeFound : runtime raw context = .ok rt
  modelsFound : models raw context rt = .ok ms
  encoderFound : encoder raw context rt = .ok enc
  mappingFound : mapping raw context = .ok mp
  catalogFound : catalog raw context = .ok cat
  l2Found : l2Profile raw context enc cat = .ok l2
  accepts : Accepts raw context ps.verificationPlans cat l2 l3 outs
  drawn : graphs raw outs rt ms mp = .ok (ps.previewGraphs, ps.productionGraphs)
  source : ps.sourceSpec = raw

/-- **An accepting run**, read once. -/
theorem parts_inv {ps : Compiled.StyleSpecParts} (h : parts raw context = .ok ps) :
    ∃ rt ms enc mp outs cat l2 l3, Resolves raw context rt ms enc mp outs cat l2 l3 ps := by
  unfold parts at h
  obtain ⟨rt, hruntime, h⟩ := bind_ok_iff.mp h
  obtain ⟨ms, hmodels, h⟩ := bind_ok_iff.mp h
  obtain ⟨enc, hencoder, h⟩ := bind_ok_iff.mp h
  obtain ⟨mp, hmapping, h⟩ := bind_ok_iff.mp h
  obtain ⟨outs, houtputs, h⟩ := bind_ok_iff.mp h
  obtain ⟨cat, hcatalog, h⟩ := bind_ok_iff.mp h
  obtain ⟨hvalid, h⟩ := check_ok_iff.mp h
  obtain ⟨l2, hl2, h⟩ := bind_ok_iff.mp h
  obtain ⟨l3, hl3, h⟩ := bind_ok_iff.mp h
  obtain ⟨hl3Valid, h⟩ := check_ok_iff.mp h
  obtain ⟨plans, hplans, h⟩ := bind_ok_iff.mp h
  obtain ⟨hcovered, h⟩ := check_ok_iff.mp h
  obtain ⟨gs, hgraphs, h⟩ := bind_ok_iff.mp h
  cases h
  exact ⟨rt, ms, enc, mp, outs, cat, l2, l3, hruntime, hmodels, hencoder, hmapping, hcatalog, hl2,
    ⟨hvalid, ⟨enc, hl2⟩, hl3, hl3Valid, houtputs, hplans, hcovered⟩, hgraphs, rfl⟩

theorem parts_ok {ps : Compiled.StyleSpecParts} (h : parts raw context = .ok ps) :
    ∃ catalog l2 l3 outs, Accepts raw context ps.verificationPlans catalog l2 l3 outs := by
  obtain ⟨rt, ms, enc, mp, outs, cat, l2, l3, hr⟩ := parts_inv h
  exact ⟨cat, l2, l3, outs, hr.accepts⟩

theorem compileStyleSpec_ok {hashBytes : Bytes → Sha256} {compiled : Compiled.StyleSpec}
    (h : compileStyleSpec hashBytes raw context = .ok compiled) :
    parts raw context = .ok compiled.toStyleSpecParts := by
  unfold compileStyleSpec at h
  obtain ⟨ps, hp, h⟩ := bind_ok_iff.mp h
  rw [(Compiled.new_ok h).1]
  exact hp

/-- A specification is accepted exactly when its parts are. -/
theorem compileStyleSpec_ok_iff {hashBytes : Bytes → Sha256} {ps : Compiled.StyleSpecParts} :
    (∃ compiled, compileStyleSpec hashBytes raw context = .ok compiled ∧
      compiled.toStyleSpecParts = ps) ↔ parts raw context = .ok ps ∧ ps.acceptable = true := by
  rw [← @Compiled.new_ok_iff hashBytes ps]
  constructor
  · rintro ⟨compiled, h, rfl⟩
    have hp := compileStyleSpec_ok h
    unfold compileStyleSpec at h
    rw [hp, ok_bind] at h
    exact ⟨hp, compiled, h, rfl⟩
  · rintro ⟨hp, compiled, h, rfl⟩
    unfold compileStyleSpec
    rw [hp, ok_bind]
    exact ⟨compiled, h, rfl⟩

/-- A catalog has no rule of level L3: the kind of a rule fixes its level. -/
theorem validateCatalog_ok {catalog : RuleCatalogCapability}
    (h : validateCatalog catalog = .ok ()) : ∀ rule ∈ catalog.rules, rule.level ≠ .l3 := by
  intro rule hr hl
  unfold validateCatalog at h
  obtain ⟨-, h⟩ := check_ok_iff.mp h
  obtain ⟨-, h⟩ := check_ok_iff.mp h
  obtain ⟨hno, -⟩ := check_ok_iff.mp h
  simp only [ensure_ok_iff, Bool.not_eq_true', List.any_eq_false, Bool.not_eq_true] at hno
  have hk := hno rule hr
  rw [rule.kinded.1] at hl
  cases hkind : rule.kind <;> simp [hkind, RuleKind.isL3, RuleKind.level] at hk hl

/-- What `_validate_threshold_status` has checked. -/
theorem validateThresholdStatus_ok {profile : ThresholdProfileCapability}
    {rules : List RuleCapability} {plugin : Option L3PluginCapability}
    (h : validateThresholdStatus profile rules raw plugin = .ok ()) :
    profile.status ≠ .revoked ∧ ∀ rule ∈ rules, relevant profile.source raw plugin rule = true →
      required rule raw = true → profile.status = .validated := by
  unfold validateThresholdStatus at h
  rw [check_ok_iff, ensure_ok_iff, ensure_ok_iff, decide_eq_true_eq] at h
  refine ⟨h.1, fun rule hr hrel hreq => ?_⟩
  by_contra hne
  have hany : (rules.filter (relevant profile.source raw plugin)).any (required · raw) = true :=
    List.any_eq_true.mpr ⟨rule, List.mem_filter.mpr ⟨hr, hrel⟩, hreq⟩
  rw [hany, decide_eq_true hne] at h
  exact Bool.false_ne_true h.2

theorem l2Profile_ok {encoder : Compiled.ResolvedEncoder} {catalog : RuleCatalogCapability}
    {profile : ThresholdProfileCapability}
    (h : l2Profile raw context encoder catalog = .ok profile) :
    profile ∈ context.thresholdProfiles ∧ profile.source = .l2 ∧
      validateThresholdStatus profile catalog.rules raw none = .ok () := by
  unfold l2Profile at h
  obtain ⟨p, hone, h⟩ := bind_ok_iff.mp h
  obtain ⟨-, h⟩ := check_ok_iff.mp h
  obtain ⟨-, h⟩ := check_ok_iff.mp h
  obtain ⟨hstatus, h⟩ := check_ok_iff.mp h
  cases h
  obtain ⟨hmem, hsel, -⟩ := one_ok hone
  simp only [l2ProfileMatches, Bool.and_eq_true, decide_eq_true_eq] at hsel
  exact ⟨hmem, hsel.1, hstatus⟩

/-- What `_l3_resolution` has resolved. -/
structure L3Resolved (raw : Spec.StyleSpec) (context : CompilerContext) (config : Spec.L3Config)
    (plugin : L3PluginCapability) (profile : ThresholdProfileCapability) : Prop where
  configured : raw.verification.l3 = some config
  plugin_mem : plugin ∈ context.l3Plugins
  plugin_matches : pluginMatches raw config plugin = true
  plugin_unique : ∀ p ∈ context.l3Plugins, pluginMatches raw config p = true → p = plugin
  profile_mem : profile ∈ context.thresholdProfiles
  profile_matches : l3ProfileMatches raw config plugin profile = true
  status : validateThresholdStatus profile plugin.rules raw (some plugin) = .ok ()

theorem l3Resolution_ok {l3 : Option (L3PluginCapability × ThresholdProfileCapability)}
    (h : l3Resolution raw context = .ok l3) :
    (l3 = none ∧ raw.domain.fidelityRequired = false) ∨
      ∃ config plugin profile, l3 = some (plugin, profile) ∧
        L3Resolved raw context config plugin profile := by
  unfold l3Resolution at h
  split at h
  · obtain ⟨hf, h⟩ := check_ok_iff.mp h
    cases h
    rw [ensure_ok_iff, Bool.not_eq_true'] at hf
    exact .inl ⟨rfl, hf⟩
  · next config hc =>
    obtain ⟨-, h⟩ := check_ok_iff.mp h
    obtain ⟨plugin, hplugin, h⟩ := bind_ok_iff.mp h
    obtain ⟨profile, hprofile, h⟩ := bind_ok_iff.mp h
    obtain ⟨-, h⟩ := check_ok_iff.mp h
    obtain ⟨hstatus, h⟩ := check_ok_iff.mp h
    cases h
    obtain ⟨hpm, hps, hpu⟩ := one_ok hplugin
    obtain ⟨hfm, hfs, -⟩ := one_ok hprofile
    exact .inr ⟨config, plugin, profile, rfl, hc, hpm, hps, hpu, hfm, hfs, hstatus⟩

/-! ### Bound rules -/

/-- A rule is bound to its metric in a profile of the context that is not
revoked, and validated if the rule is required. -/
def Bound (context : CompilerContext) (rule : Compiled.Rule) : Prop :=
  ∃ profile ∈ context.thresholdProfiles, ∃ metric ∈ profile.metrics,
    rule.metricId = some metric.metricId ∧
    rule.thresholdBinding = some (bindingOf profile metric) ∧ profile.status ≠ .revoked ∧
    (rule.definition.required = true → profile.status = .validated)

/-- An applicable rule of an output is relevant for the profile of its source. -/
theorem relevant_of_applicable {source : ProfileSource} {rule : RuleCapability}
    {output : OutputProfile} {plugin : Option L3PluginCapability}
    (hsource : rule.thresholdSource = ProfileSource.threshold source)
    (ho : output ∈ raw.outputs.profiles.val)
    (ha : applicable rule raw.domain.profile output plugin = true) :
    relevant source raw plugin rule = true := by
  unfold relevant
  rw [decide_eq_true hsource, Bool.true_and]
  exact List.any_eq_true.mpr ⟨output, ho, ha⟩

/-- Below level L3 the plugin does not matter. -/
theorem applicable_plugin {rule : RuleCapability} {domain : DomainProfile} {output : OutputProfile}
    (hl : rule.level ≠ .l3) (p q : Option L3PluginCapability) :
    applicable rule domain output p = applicable rule domain output q := by
  unfold applicable
  rw [decide_eq_true hl, Bool.true_or, Bool.true_or]

section Safety

variable {plans : List Compiled.VerificationPlan} {catalog : RuleCatalogCapability}
  {l2 : ThresholdProfileCapability}
  {l3 : Option (L3PluginCapability × ThresholdProfileCapability)}
  {outs : List OutputProfileCapability}

theorem output_ok {domain : DomainProfile} {profile : OutputProfile}
    {capability : OutputProfileCapability} (h : output domain profile context = .ok capability) :
    capability.profile = profile := by
  unfold output at h
  obtain ⟨c, hone, h⟩ := bind_ok_iff.mp h
  obtain ⟨-, h⟩ := check_ok_iff.mp h
  cases h
  exact of_decide_eq_true (one_ok hone).2.1

/-- The plans stand in the order of the outputs. -/
theorem Accepts.outputs_eq (h : Accepts raw context plans catalog l2 l3 outs) :
    plans.map (·.outputProfile) = raw.outputs.profiles.val := by
  have hplans := mapM_ok_map (g := fun p : Compiled.VerificationPlan => p.outputProfile)
    (fun _ _ hp => (plan_ok hp).1) h.planned
  have houts := mapM_ok_map (g := fun o : OutputProfileCapability => o.profile) (k := id)
    (fun _ _ ho => output_ok ho) h.outputsFound
  rw [hplans, houts, List.map_id]

/-- A plan and what it is compiled of. -/
theorem Accepts.plan (h : Accepts raw context plans catalog l2 l3 outs)
    {p : Compiled.VerificationPlan} (hp : p ∈ plans) :
    p.outputProfile ∈ raw.outputs.profiles.val ∧
      PlanCompiles raw p.outputProfile catalog l2 l3 p := by
  constructor
  · rw [← h.outputs_eq]
    exact List.mem_map_of_mem hp
  · obtain ⟨o, -, ho⟩ := mapM_ok_source h.planned hp
    obtain ⟨hout, hc⟩ := plan_ok ho
    rw [hout]
    exact hc

/-- Every plan has its gate of level L1. -/
theorem Accepts.l1 (h : Accepts raw context plans catalog l2 l3 outs)
    {p : Compiled.VerificationPlan} (hp : p ∈ plans) : ∃ rule ∈ p.rules, isL1Gate rule = true := by
  have hcov := forM_ok_iff.mp h.covered
  have hlen : plans.length ≤ raw.outputs.profiles.val.length := by
    rw [← h.outputs_eq, List.length_map]
  have hmem : p ∈ (plans.zip raw.outputs.profiles.val).map Prod.fst := by
    rw [List.map_fst_zip hlen]
    exact hp
  obtain ⟨q, hq, rfl⟩ := List.mem_map.mp hmem
  have hok := hcov q hq
  rw [ensure_ok_iff] at hok
  exact List.any_eq_true.mp hok

/-- A catalog rule is bound in the L2 profile, a plugin rule in the L3 one. -/
theorem Accepts.bound (h : Accepts raw context plans catalog l2 l3 outs)
    {p : Compiled.VerificationPlan} (hp : p ∈ plans) {rule : Compiled.Rule} (hr : rule ∈ p.rules)
    (ha : rule.applicable = true) (hm : rule.metricId.isSome = true) : Bound context rule := by
  obtain ⟨hout, hplan⟩ := h.plan hp
  obtain ⟨capability, hcap, hc⟩ := hplan.source rule hr
  have hsource : capability.thresholdSource ≠ .none := by
    intro hs
    rw [hc.metricId, capability.measured.mp hs] at hm
    cases hm
  have hb := hc.binding
  have happ := hc.applicable
  rw [ha] at hb happ
  obtain ⟨profile, hprofile, metric, hmetric, hid, hbinding⟩ := binding_ok hb hsource
  -- where the profile comes from, and that its status was checked for this rule
  have hstands : profile ∈ context.thresholdProfiles ∧ profile.status ≠ .revoked ∧
      (required capability raw = true → profile.status = .validated) := by
    unfold thresholdProfile at hprofile
    have hmem := List.mem_append.mp hcap
    cases hs : capability.thresholdSource with
    | none => exact absurd hs hsource
    | l2 =>
        rw [hs] at hprofile
        obtain rfl := Option.some.inj hprofile
        have hlevel : capability.level = .l2 := capability.sourced.1 hs
        have hne : capability.level ≠ .l3 := by
          rw [hlevel]
          exact fun hl => by cases hl
        have hincat : capability ∈ catalog.rules := by
          rcases hmem with hmem | hmem
          · exact hmem
          · rcases l3 with - | ⟨plugin, profile'⟩
            · cases hmem
            · exact absurd (plugin.rules_l3 capability hmem) hne
        obtain ⟨encoder, hl2⟩ := h.l2Found
        obtain ⟨hin, hl2s, hstatus⟩ := l2Profile_ok hl2
        obtain ⟨hrev, hval⟩ := validateThresholdStatus_ok hstatus
        refine ⟨hin, hrev, fun hreq => hval capability hincat ?_ hreq⟩
        rw [applicable_plugin hne _ none] at happ
        exact relevant_of_applicable (by rw [hs, hl2s]; rfl) hout happ.symm
    | l3 =>
        rw [hs] at hprofile
        have hlevel : capability.level = .l3 := capability.sourced.2 hs
        rcases l3Resolution_ok h.l3Found with ⟨rfl, -⟩ | ⟨config, plugin, profile', rfl, hres⟩
        · cases hprofile
        · obtain rfl := Option.some.inj hprofile
          have hinplugin : capability ∈ plugin.rules := by
            rcases hmem with hmem | hmem
            · exact absurd hlevel (validateCatalog_ok h.catalogValid capability hmem)
            · exact hmem
          obtain ⟨hrev, hval⟩ := validateThresholdStatus_ok hres.status
          refine ⟨hres.profile_mem, hrev, fun hreq => hval capability hinplugin ?_ hreq⟩
          have hmatches := hres.profile_matches
          simp only [l3ProfileMatches, Bool.and_eq_true, decide_eq_true_eq] at hmatches
          exact relevant_of_applicable (by rw [hs, hmatches.1.1.1.1]; rfl) hout happ.symm
  obtain ⟨hin, hrev, hval⟩ := hstands
  refine ⟨profile, hin, metric, hmetric, by rw [hc.metricId, hid], hbinding, hrev, fun hreq => ?_⟩
  rw [hc.required] at hreq
  exact hval hreq

end Safety

/-! ### The fidelity gate -/

/-- The plan has an applicable required rule of the domain-fidelity kind that
is bound to a validated threshold of the resolved profile of level L3. -/
def FidelityGated (raw : Spec.StyleSpec) (context : CompilerContext)
    (p : Compiled.VerificationPlan) : Prop :=
  ∃ config ∈ raw.verification.l3, ∃ plugin ∈ context.l3Plugins,
    pluginMatches raw config plugin = true ∧ ∃ profile ∈ context.thresholdProfiles,
    l3ProfileMatches raw config plugin profile = true ∧ p.l3ThresholdProfilePin = some profile.pin ∧
    ∃ capability ∈ plugin.rules, capability.kind = .l3DomainFidelity ∧
    ∃ rule ∈ p.rules, rule.definition.ruleId = capability.ruleId ∧ rule.isL3 = true ∧
      rule.definition.required = true ∧ rule.applicable = true ∧
      profile.status = .validated ∧ ∃ metric ∈ profile.metrics,
      rule.thresholdBinding = some (bindingOf profile metric)

/-- The plugin of the specification has a fidelity gate with a threshold for
each output, where fidelity is required. -/
def ThresholdGates (raw : Spec.StyleSpec) (context : CompilerContext) : Prop :=
  raw.domain.fidelityRequired = true → ∀ output ∈ raw.outputs.profiles.val,
    ∃ config ∈ raw.verification.l3, ∃ plugin ∈ context.l3Plugins,
      pluginMatches raw config plugin = true ∧ ∃ rule ∈ plugin.rules,
      fidelityGate raw plugin output rule = true ∧ rule.thresholdSource ≠ .none

section Fidelity

variable {plans : List Compiled.VerificationPlan} {catalog : RuleCatalogCapability}
  {l2 : ThresholdProfileCapability}
  {l3 : Option (L3PluginCapability × ThresholdProfileCapability)}
  {outs : List OutputProfileCapability}

/-- Where fidelity is required there is a validated profile of level L3. -/
theorem Accepts.fidelity (h : Accepts raw context plans catalog l2 l3 outs)
    (hf : raw.domain.fidelityRequired = true) :
    ∃ config plugin profile, l3 = some (plugin, profile) ∧
      L3Resolved raw context config plugin profile ∧ profile.status = .validated := by
  rcases l3Resolution_ok h.l3Found with ⟨-, hno⟩ | ⟨config, plugin, profile, rfl, hres⟩
  · rw [hf] at hno
    cases hno
  · have hvalid := h.l3Valid
    unfold validateL3 at hvalid
    rw [if_pos hf] at hvalid
    obtain ⟨hs, -⟩ := check_ok_iff.mp hvalid
    rw [ensure_ok_iff, decide_eq_true_eq] at hs
    exact ⟨config, plugin, profile, rfl, hres, hs⟩

/-- A gate of the plugin with a threshold gates its plan. -/
theorem Accepts.gated (h : Accepts raw context plans catalog l2 l3 outs)
    (hf : raw.domain.fidelityRequired = true) {p : Compiled.VerificationPlan} (hp : p ∈ plans)
    (hgates : ThresholdGates raw context) : FidelityGated raw context p := by
  obtain ⟨config, plugin, profile, rfl, hres, hvalidated⟩ := h.fidelity hf
  obtain ⟨hout, hplan⟩ := h.plan hp
  obtain ⟨config', hconfig, plugin', hplugin, hmatches, capability, hcap, hgate, hsource⟩ :=
    hgates hf _ hout
  rw [hres.configured] at hconfig
  obtain rfl := Option.some.inj hconfig
  obtain rfl := hres.plugin_unique plugin' hplugin hmatches
  simp only [fidelityGate, Bool.and_eq_true, decide_eq_true_eq] at hgate
  obtain ⟨⟨hkind, happ⟩, hreq⟩ := hgate
  obtain ⟨rule, hr, hc⟩ := hplan.compiled capability (List.mem_append_right _ hcap)
  have ha : rule.applicable = true := hc.applicable.trans happ
  have hb := hc.binding
  rw [ha] at hb
  obtain ⟨profile', hprofile, metric, hmetric, -, hbinding⟩ := binding_ok hb hsource
  have hlevel : capability.level = .l3 := plugin'.rules_l3 capability hcap
  -- of the three sources only that of level L3 is left
  have hl3 : capability.thresholdSource = .l3 := by
    cases hs : capability.thresholdSource with
    | none => exact absurd hs hsource
    | l2 =>
        rw [capability.sourced.1 hs] at hlevel
        cases hlevel
    | l3 => rfl
  unfold thresholdProfile at hprofile
  rw [hl3] at hprofile
  obtain rfl := Option.some.inj hprofile
  refine ⟨config, hres.configured, plugin', hplugin, hmatches, profile, hres.profile_mem,
    hres.profile_matches, hplan.thresholdPin, capability, hcap, hkind, rule, hr, hc.ruleId, ?_, ?_,
    ha, hvalidated, metric, hmetric, hbinding⟩
  · unfold Compiled.Rule.isL3
    rw [hc.level, hlevel]
    rfl
  · rw [hc.required, hreq]

/-- A gated plan comes from a gate of the plugin with a threshold. -/
theorem Accepts.of_gated (h : Accepts raw context plans catalog l2 l3 outs)
    (hf : raw.domain.fidelityRequired = true)
    (hgated : ∀ p ∈ plans, FidelityGated raw context p) : ThresholdGates raw context := by
  intro _ output hout
  rw [← h.outputs_eq] at hout
  obtain ⟨p, hp, rfl⟩ := List.mem_map.mp hout
  obtain ⟨config, plugin, profile, rfl, hres, -⟩ := h.fidelity hf
  obtain ⟨-, hplan⟩ := h.plan hp
  obtain ⟨config', hconfig, plugin', hplugin, hmatches, profile', -, -, -, capability, hcap, hkind,
    rule, hr, hid, -, hreq, ha, -, metric, -, hbinding⟩ := hgated p hp
  rw [hres.configured] at hconfig
  obtain rfl := Option.some.inj hconfig
  obtain rfl := hres.plugin_unique plugin' hplugin hmatches
  -- the rule of the plan was compiled of this very capability
  obtain ⟨source, hsource, hc⟩ := hplan.source rule hr
  have hsame : source = capability := by
    refine List.inj_on_of_nodup_map hplan.ids_nodup hsource (List.mem_append_right _ hcap) ?_
    rw [← hc.ruleId, hid]
  subst hsame
  refine ⟨config, hres.configured, plugin', hplugin, hmatches, source, hcap, ?_, ?_⟩
  · unfold fidelityGate
    rw [hc.required] at hreq
    rw [hc.applicable] at ha
    rw [decide_eq_true hkind, hreq, Bool.and_true, Bool.true_and]
    exact ha
  · intro hs
    have hb := hc.binding
    rw [binding_none hs, hbinding] at hb
    cases hb

end Fidelity

/-- Of every accepted specification: there is a plan for each output; and every
plan has its applicable required rule of level L1, its applicable rules that
take a threshold (`RuleCapability.measured`: those with a metric) are bound, and
a required fidelity is gated, exactly when the plugin has a fidelity gate with
a threshold for each output. -/
theorem gates_safe_iff {hashBytes : Bytes → Sha256} {compiled : Compiled.StyleSpec}
    (h : compileStyleSpec hashBytes raw context = .ok compiled) :
    compiled.verificationPlans.map (·.outputProfile) = raw.outputs.profiles.val ∧
      ((∀ p ∈ compiled.verificationPlans,
        (∃ rule ∈ p.rules, isL1Gate rule = true) ∧
        (∀ rule ∈ p.rules, rule.applicable = true → rule.metricId.isSome = true →
          Bound context rule) ∧
        (raw.domain.fidelityRequired = true → FidelityGated raw context p)) ↔
      ThresholdGates raw context) := by
  obtain ⟨catalog, l2, l3, outs, ha⟩ := parts_ok (compileStyleSpec_ok h)
  refine ⟨ha.outputs_eq, fun hsafe hf => ?_, fun hgates p hp => ⟨ha.l1 hp, ?_, fun hf => ?_⟩⟩
  · exact ha.of_gated hf (fun p hp => (hsafe p hp).2.2 hf) hf
  · intro rule hr happ hm
    exact ha.bound hp hr happ hm
  · exact ha.gated hf hp hgates

/-! ### A required fidelity -/

namespace RequiredFidelity

/-- A text of a specification; one that is none stands for `x`. -/
def text (s : String) : Spec.SafeText :=
  if h : Spec.safeText 2048 (py s) = true then ⟨py s, h⟩ else ⟨py "x", by decide⟩

def zero : Spec.ScaleValue := ⟨.zero, by decide +kernel⟩

def one : Spec.ScaleValue := ⟨.one, by decide +kernel⟩

def side : Spec.ResolutionMember := ⟨512, by decide⟩

def reference : Spec.StyleReference :=
  ⟨sampleHash, ⟨py "https://example.org/style", by decide +kernel⟩, text "CC0", text "nobody", .obtained⟩

def gateDefaults : GatePolicy := ⟨.reject, .manualReview⟩

/-- A specification that requires fidelity for its one output. -/
def spec : Spec.StyleSpecV1 where
  schemaVersion := {}
  schemaUri := {}
  metadata := ⟨Id.lit .identifier "spec-1", ⟨py "style", by decide⟩, ⟨py "author", by decide⟩,
    ⟨py "2026-01-01T00:00:00Z", by decide +kernel⟩, none⟩
  runtime := ⟨{}, text "6.0", text "2.4", text "0.30", .float16⟩
  models := ⟨⟨text "base", text "r1", sampleHash⟩, ⟨text "adapter", text "r1", sampleHash⟩,
    ⟨.canny, text "canny", text "r1", sampleHash⟩⟩
  assets := ⟨⟨[reference], by decide⟩⟩
  profiles := ⟨⟨.lcm, (side, side), ⟨4, by decide⟩, ⟨.zero, by decide +kernel⟩⟩,
    ⟨{}, (side, side), ⟨30, by decide⟩, ⟨.zero, by decide +kernel⟩, text "euler"⟩⟩
  style := ⟨Id.lit .identifier "preset-1", zero, zero, zero⟩
  generation := ⟨zero, zero, {}, {}⟩
  domain := ⟨.productInstance, some (text "v1"), true⟩
  outputs := ⟨⟨[.xhsGrid], by decide⟩⟩
  verification := ⟨text "rules-1", gateDefaults,
    ⟨text "encoder", text "r1", text "p1",
      ⟨Id.lit .identifier "l2-profile", text "r1", sampleHash⟩⟩,
    some ⟨text "plugin", text "r1", text "l3-profile"⟩⟩
  repair := ⟨⟨text "policy-1", ⟨3, by decide⟩, ⟨1, by decide⟩⟩, by decide⟩
  replayContract := ⟨{}, ⟨zero, zero⟩, ⟨{}, {}⟩⟩

def pin (id : String) : ResourcePin := ⟨py id, py "r1", sampleHash⟩

def metric (id : String) : ThresholdMetricCapability := ⟨Id.lit .identifier id, .ge, .zero⟩

/-- A rule of a kind for the one output, with or without a threshold. -/
def rule (id : String) (kind : RuleKind) (scope : RuleScope) (requirement : RequirementMode)
    (source : ThresholdSource) (metricId : Option Identifier)
    (hmetric : source = .none ↔ metricId = Option.none)
    (hscope : ∀ s ∈ kind.scope?, scope = s)
    (hsource : (source = .l2 → kind.level = .l2) ∧ (source = .l3 → kind.level = .l3)) :
    RuleCapability where
  ruleId := Id.lit .rule id
  kind := kind
  level := kind.level
  scope := scope
  requirement := requirement
  supportedDomains := [.productInstance]
  supportedOutputProfiles := [.xhsGrid]
  verifierPin := pin "verifier"
  thresholdSource := source
  metricId := metricId
  priority := 0
  affectedByActions := []
  measured := hmetric
  actions_nodup := List.nodup_nil
  kinded := ⟨rfl, hscope⟩
  sourced := hsource

/-- The fidelity rule of the plugin. -/
def fidelityRule (threshold : Bool) : RuleCapability :=
  rule "FIDELITY" .l3DomainFidelity .item .fidelityRequired (if threshold then .l3 else .none)
    (if threshold then some (metric "fidelity").metricId else none)
    (by cases threshold <;> decide) (by decide) (by cases threshold <;> decide)

def catalogRules : List RuleCapability :=
  [rule "TECHNICAL" .l1Technical .item .alwaysRequired .none none (by decide) (by decide)
      (by decide),
    rule "STYLE" .l2StyleFidelity .item .alwaysRequired .l2 (some (metric "style").metricId)
      (by decide) (by decide) (by decide),
    rule "BATCH" .l2BatchConsistency .batch .alwaysAdvisory .l2 (some (metric "batch").metricId)
      (by decide) (by decide) (by decide)]

def l2Threshold : ThresholdProfileCapability :=
  ⟨pin "l2-profile", py "l2-profile", .l2, .validated, Id.lit .identifier "preset-1",
    .productInstance, some (pin "encoder"), none, [metric "style", metric "batch"], sampleHash,
    sampleHash, sampleHash, none, by decide, by decide⟩

def l3Threshold : ThresholdProfileCapability :=
  ⟨pin "l3-profile", py "l3-profile", .l3, .validated, Id.lit .identifier "preset-1",
    .productInstance, none, some (pin "plugin"), [metric "fidelity"], sampleHash,
    sampleHash, sampleHash, none, by decide, by decide⟩

def plugin (threshold : Bool) : L3PluginCapability :=
  ⟨pin "plugin", .productInstance, py "v1", [.xhsGrid], [fidelityRule threshold],
    by cases threshold <;> decide, by cases threshold <;> decide⟩

/-- A context for the specification, its fidelity rule with or without a
threshold. -/
def capabilities (threshold : Bool) : CompilerContext where
  compilerPin := pin "compiler"
  runtimeCapabilities := [⟨pin "runtime", {}, py "6.0", py "2.4", py "0.30", .float16⟩]
  modelCapabilities :=
    [⟨.base, pin "base", none, [.lcm, .sdxlBase], [.float16], [sampleHash], by decide⟩,
      ⟨.ipAdapter, pin "adapter", none, [.lcm, .sdxlBase], [.float16], [sampleHash], by decide⟩,
      ⟨.controlnet, pin "canny", some .canny, [.lcm, .sdxlBase], [.float16], [sampleHash],
        by decide⟩]
  encoderCapabilities := [⟨pin "encoder", py "p1", py "layer", py "cosine", [sampleHash]⟩]
  strengthMappings := [⟨pin "mapping", Id.lit .identifier "preset-1",
    [⟨zero, zero, zero⟩, ⟨one, one, one⟩], by decide +kernel⟩]
  outputProfileCapabilities :=
    [⟨pin "output", .xhsGrid, [.productInstance], [.preview, .production], none⟩]
  ruleCatalogs := [⟨py "rules-1", pin "catalog", catalogRules, by decide⟩]
  thresholdProfiles := [l2Threshold, l3Threshold]
  l3Plugins := [plugin threshold]

/-- The specification is accepted in either context. -/
theorem accepted (threshold : Bool) : ∃ compiled,
    compileStyleSpec (fun _ => sampleHash) (.v1 spec) (capabilities threshold) = .ok compiled := by
  have hparts : ((parts (.v1 spec) (capabilities threshold)).toOption.any
      fun ps => ps.acceptable) = true := by
    simp only [Compiled.StyleSpecParts.acceptable, Compiled.resolved_clean, Primitive.clean_graph,
      Primitive.clean_plan, Primitive.clean_encoder, Primitive.clean_runtime, Primitive.clean_rule,
      Primitive.clean_binding]
    cases threshold <;> decide +kernel
  rcases hp : parts (.v1 spec) (capabilities threshold) with e | ps
  · rw [hp] at hparts
    cases hparts
  · rw [hp] at hparts
    obtain ⟨compiled, h, -⟩ := compileStyleSpec_ok_iff.mpr ⟨hp, hparts⟩
    exact ⟨compiled, h⟩

end RequiredFidelity

/-- With a threshold the fidelity rule gates the plan. -/
theorem gates_safe_requiredFidelity : ∃ compiled,
    compileStyleSpec (fun _ => sampleHash) (.v1 RequiredFidelity.spec)
      (RequiredFidelity.capabilities true) = .ok compiled ∧
    ∀ p ∈ compiled.verificationPlans,
      FidelityGated (.v1 RequiredFidelity.spec) (RequiredFidelity.capabilities true) p := by
  obtain ⟨compiled, h⟩ := RequiredFidelity.accepted true
  have hgates : ThresholdGates (.v1 RequiredFidelity.spec) (RequiredFidelity.capabilities true) := by
    intro _ output ho
    obtain rfl := List.mem_singleton.mp ho
    exact ⟨_, rfl, RequiredFidelity.plugin true, List.mem_singleton_self _, by decide +kernel,
      RequiredFidelity.fidelityRule true, List.mem_singleton_self _, by decide +kernel, by decide⟩
  exact ⟨compiled, h, fun p hp => ((gates_safe_iff h).2.mpr hgates p hp).2.2 rfl⟩

/-- Without a threshold it does not, and the specification is accepted: its
applicable required rule of level L3 is bound to nothing. -/
theorem gate_without_threshold : ∃ compiled,
    compileStyleSpec (fun _ => sampleHash) (.v1 RequiredFidelity.spec)
      (RequiredFidelity.capabilities false) = .ok compiled ∧
    (Spec.StyleSpec.v1 RequiredFidelity.spec).domain.fidelityRequired = true ∧
    compiled.verificationPlans ≠ [] ∧ ∀ p ∈ compiled.verificationPlans,
      ¬ FidelityGated (.v1 RequiredFidelity.spec) (RequiredFidelity.capabilities false) p ∧
      ∀ rule ∈ p.rules, rule.isL3 = true → rule.applicable = true ∧
        rule.definition.required = true ∧ rule.thresholdBinding = none := by
  obtain ⟨compiled, h⟩ := RequiredFidelity.accepted false
  have hp := compileStyleSpec_ok h
  have hrules : ((parts (.v1 RequiredFidelity.spec) (RequiredFidelity.capabilities false)).toOption.any
      fun ps => !ps.verificationPlans.isEmpty && ps.verificationPlans.all fun p =>
        p.rules.all fun rule => !rule.isL3 || (rule.applicable && rule.definition.required &&
          rule.thresholdBinding.isNone)) = true := by
    decide +kernel
  rw [hp] at hrules
  simp only [Except.toOption, Option.any_some, Bool.and_eq_true, Bool.not_eq_true',
    List.isEmpty_eq_false_iff, List.all_eq_true, Bool.or_eq_true, Option.isNone_iff_eq_none] at hrules
  obtain ⟨hne, hall⟩ := hrules
  have hunbound : ∀ p ∈ compiled.verificationPlans, ∀ rule ∈ p.rules, rule.isL3 = true →
      rule.applicable = true ∧ rule.definition.required = true ∧ rule.thresholdBinding = none := by
    intro p hpp rule hr hl3
    rcases hall p hpp rule hr with hn | ⟨⟨ha, hreq⟩, hb⟩
    · rw [hl3] at hn
      cases hn
    · exact ⟨ha, hreq, hb⟩
  refine ⟨compiled, h, rfl, hne, fun p hpp => ⟨?_, hunbound p hpp⟩⟩
  rintro ⟨_, _, _, _, _, _, _, _, _, _, _, _, rule, hr, _, hl3, _, _, _, _, _, hb⟩
  rw [(hunbound p hpp rule hr hl3).2.2] at hb
  cases hb

end Compiler

end SpecStyle
