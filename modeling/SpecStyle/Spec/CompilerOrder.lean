/-
SpecStyle/Spec/CompilerOrder.lean

A compilation does not depend on the order of the capabilities, nor on
capabilities that the specification does not refer to.

Every step of the compiler asks its context through `one`, and otherwise
counts, looks for some rule or compares sets; the rules of a plan are sorted.
So in a context in another order (`Reordered`) every step does alike, and both
compilations give the same or both raise.  What is resolved is the only
capability that a reference selects (`references`): to add one that no
reference selects changes nothing, and to add a second one is refused.
-/
import SpecStyle.Lib.Alike
import SpecStyle.Spec.CompilerGates

namespace SpecStyle

namespace Compiler

open PyLib

variable {α β : Type} {raw : Spec.StyleSpec} {context context' : CompilerContext}

/-! ### Capabilities in another order -/

/-- The same rule, its actions in another order. -/
structure RuleReordered (rule rule' : RuleCapability) : Prop where
  ruleId : rule'.ruleId = rule.ruleId
  kind : rule'.kind = rule.kind
  level : rule'.level = rule.level
  scope : rule'.scope = rule.scope
  requirement : rule'.requirement = rule.requirement
  supportedDomains : rule'.supportedDomains = rule.supportedDomains
  supportedOutputProfiles : rule'.supportedOutputProfiles = rule.supportedOutputProfiles
  verifierPin : rule'.verifierPin = rule.verifierPin
  thresholdSource : rule'.thresholdSource = rule.thresholdSource
  metricId : rule'.metricId = rule.metricId
  priority : rule'.priority = rule.priority
  actions : rule.affectedByActions.Perm rule'.affectedByActions

/-- The same catalog, its rules in another order. -/
structure CatalogReordered (catalog catalog' : RuleCatalogCapability) : Prop where
  rulesetVersion : catalog'.rulesetVersion = catalog.rulesetVersion
  pin : catalog'.pin = catalog.pin
  rules : Shuffled RuleReordered catalog.rules catalog'.rules

/-- The same plugin, its rules in another order. -/
structure PluginReordered (plugin plugin' : L3PluginCapability) : Prop where
  pin : plugin'.pin = plugin.pin
  domainProfile : plugin'.domainProfile = plugin.domainProfile
  domainVerifierVersion : plugin'.domainVerifierVersion = plugin.domainVerifierVersion
  supportedOutputProfiles : plugin'.supportedOutputProfiles = plugin.supportedOutputProfiles
  rules : Shuffled RuleReordered plugin.rules plugin'.rules

/-- The same profile, its metrics in another order. -/
structure ProfileReordered (profile profile' : ThresholdProfileCapability) : Prop where
  pin : profile'.pin = profile.pin
  logicalName : profile'.logicalName = profile.logicalName
  source : profile'.source = profile.source
  status : profile'.status = profile.status
  stylePackId : profile'.stylePackId = profile.stylePackId
  domainProfile : profile'.domainProfile = profile.domainProfile
  encoderPin : profile'.encoderPin = profile.encoderPin
  pluginPin : profile'.pluginPin = profile.pluginPin
  metrics : profile.metrics.Perm profile'.metrics
  calibration : profile'.calibrationDatasetSha256 = profile.calibrationDatasetSha256
  validation : profile'.validationDatasetSha256 = profile.validationDatasetSha256
  annotation : profile'.annotationProtocolSha256 = profile.annotationProtocolSha256
  approval : profile'.productionApprovalSha256 = profile.productionApprovalSha256

/-- The same context, every tuple of it in another order. -/
structure Reordered (context context' : CompilerContext) : Prop where
  compilerPin : context'.compilerPin = context.compilerPin
  runtimes : context.runtimeCapabilities.Perm context'.runtimeCapabilities
  models : context.modelCapabilities.Perm context'.modelCapabilities
  encoders : context.encoderCapabilities.Perm context'.encoderCapabilities
  mappings : context.strengthMappings.Perm context'.strengthMappings
  outputs : context.outputProfileCapabilities.Perm context'.outputProfileCapabilities
  catalogs : Shuffled CatalogReordered context.ruleCatalogs context'.ruleCatalogs
  thresholds : Shuffled ProfileReordered context.thresholdProfiles context'.thresholdProfiles
  plugins : Shuffled PluginReordered context.l3Plugins context'.l3Plugins

/-- The same resolution of level L3. -/
def L3Reordered (l3 l3' : Option (L3PluginCapability × ThresholdProfileCapability)) : Prop :=
  Option.Rel (fun p q => PluginReordered p.1 q.1 ∧ ProfileReordered p.2 q.2) l3 l3'

/-! ### Resolution -/

/-- **Resolution does not depend on the order.** -/
theorem one_alike {R : α → β → Prop} {values : List α} {values' : List β} {selects : α → Bool}
    {selects' : β → Bool} {name : String} (h : Shuffled R values values')
    (hs : ∀ a b, R a b → selects a = selects' b) :
    Alike R (one values selects name) (one values' selects' name) := by
  have hfound := h.filter hs
  unfold one
  generalize values.filter selects = found at hfound
  generalize values'.filter selects' = found' at hfound
  obtain ⟨zs, hp, hr⟩ := hfound
  rcases found with - | ⟨a, - | ⟨a', rest⟩⟩
  · obtain rfl := hp.symm.eq_nil
    cases hr
    exact .error
  · obtain rfl := List.perm_singleton.mp hp.symm
    cases hr with
    | cons hab hnil =>
      cases hnil
      exact .ok hab
  · have hlen : 2 ≤ found'.length := by
      rw [← hr.length_eq, ← hp.length_eq]
      simp
    rcases found' with - | ⟨b, - | ⟨b', rest'⟩⟩
    · cases hlen
    · rw [List.length_singleton] at hlen
      omega
    · exact .error

/-- A tuple of one capability each. -/
theorem one_perm {values values' : List α} {selects : α → Bool} {name : String}
    (h : values.Perm values') : Alike Eq (one values selects name) (one values' selects name) :=
  one_alike (.of_perm h) fun a b hab => by rw [hab]

theorem runtime_alike (h : Reordered context context') :
    Alike Eq (runtime raw context) (runtime raw context') :=
  one_perm h.runtimes

theorem model_alike (h : Reordered context context') (rt : RuntimeCapability) (role : ModelRole)
    (identifier revision : Text) (sha256 : Sha256) (controlnetType : Option ControlnetType) :
    Alike Eq (model raw context rt role identifier revision sha256 controlnetType)
      (model raw context' rt role identifier revision sha256 controlnetType) := by
  unfold model
  exact (one_perm h.models).bind_eq fun capability => Alike.refl _

theorem models_alike (h : Reordered context context') (rt : RuntimeCapability) :
    Alike Eq (models raw context rt) (models raw context' rt) := by
  unfold models
  refine (model_alike h _ _ _ _ _ _).bind_eq fun base => ?_
  refine (model_alike h _ _ _ _ _ _).bind_eq fun ipAdapter => ?_
  refine (model_alike h _ _ _ _ _ _).bind_eq fun controlnet => ?_
  exact Alike.refl _

theorem encoder_alike (h : Reordered context context') (rt : RuntimeCapability) :
    Alike Eq (encoder raw context rt) (encoder raw context' rt) := by
  unfold encoder
  exact (one_perm h.encoders).bind_eq fun capability => Alike.refl _

theorem mapping_alike (h : Reordered context context') :
    Alike Eq (mapping raw context) (mapping raw context') := by
  unfold mapping
  exact (one_perm h.mappings).bind_eq fun capability => Alike.refl _

theorem outputs_alike (h : Reordered context context') :
    Alike Eq (outputs raw context) (outputs raw context') := by
  unfold outputs
  refine Alike.mapM fun profile => ?_
  unfold output
  exact (one_perm h.outputs).bind_eq fun capability => Alike.refl _

theorem catalog_alike (h : Reordered context context') :
    Alike CatalogReordered (catalog raw context) (catalog raw context') :=
  one_alike h.catalogs fun a b hab => by rw [hab.rulesetVersion]

/-! ### Rules -/

section Rules

variable {rules rules' : List RuleCapability} {plugin plugin' : Option L3PluginCapability}

theorem RuleReordered.required_eq {rule rule' : RuleCapability} (h : RuleReordered rule rule') :
    required rule raw = required rule' raw := by
  unfold required
  rw [h.requirement]

theorem RuleReordered.applicable_eq {rule rule' : RuleCapability} (h : RuleReordered rule rule')
    (hp : Option.Rel PluginReordered plugin plugin') (domain : DomainProfile)
    (output : OutputProfile) :
    applicable rule domain output plugin = applicable rule' domain output plugin' := by
  unfold applicable
  rw [h.supportedDomains, h.supportedOutputProfiles, h.level]
  cases hp with
  | none => rfl
  | some hp => rw [Option.any_some, Option.any_some, hp.supportedOutputProfiles]

theorem RuleReordered.relevant_eq {rule rule' : RuleCapability} (h : RuleReordered rule rule')
    (hp : Option.Rel PluginReordered plugin plugin') (source : ProfileSource) :
    relevant source raw plugin rule = relevant source raw plugin' rule' := by
  unfold relevant
  rw [h.thresholdSource]
  simp only [h.applicable_eq hp]

theorem uniqueRuleIds_eq (h : Shuffled RuleReordered rules rules') :
    uniqueRuleIds rules = uniqueRuleIds rules' := by
  have hids := h.map (f := RuleCapability.ruleId) (g := RuleCapability.ruleId) fun a b hab => by
    rw [hab.ruleId]
  unfold uniqueRuleIds
  rw [decide_eq_decide.mpr hids.nodup_iff]

theorem validateCatalog_eq {catalog catalog' : RuleCatalogCapability}
    (h : CatalogReordered catalog catalog') :
    validateCatalog catalog = validateCatalog catalog' := by
  have hcount : ∀ kind, (catalog.rules.filter (·.kind = kind)).length =
      (catalog'.rules.filter (·.kind = kind)).length := fun kind =>
    (h.rules.filter fun a b hab => by rw [hab.kind]).length_eq
  have htechnical : catalog.rules.any (·.kind = .l1Technical) =
      catalog'.rules.any (·.kind = .l1Technical) :=
    h.rules.any_eq fun a b hab => by rw [hab.kind]
  have hthreshold : (catalog.rules.any fun rule =>
      rule.kind = .l1Technical && rule.thresholdSource ≠ .none) =
        catalog'.rules.any fun rule => rule.kind = .l1Technical && rule.thresholdSource ≠ .none :=
    h.rules.any_eq fun a b hab => by rw [hab.kind, hab.thresholdSource]
  have hl3 : catalog.rules.any (·.kind.isL3) = catalog'.rules.any (·.kind.isL3) :=
    h.rules.any_eq fun a b hab => by rw [hab.kind]
  unfold validateCatalog
  simp only [hcount, htechnical, hthreshold, hl3, uniqueRuleIds_eq h.rules]

theorem expectedMetrics_perm (h : Shuffled RuleReordered rules rules')
    (hp : Option.Rel PluginReordered plugin plugin') (source : ProfileSource) :
    (expectedMetrics rules source raw plugin).Perm (expectedMetrics rules' source raw plugin') := by
  have hrelevant : ∀ a b, RuleReordered a b →
      relevant source raw plugin a = relevant source raw plugin' b :=
    fun a b hab => hab.relevant_eq hp source
  have hmetrics := (h.filter hrelevant).map (f := RuleCapability.metricId)
    (g := RuleCapability.metricId) fun a b hab => by rw [hab.metricId]
  have hsome := hmetrics.filterMap id
  rwa [List.filterMap_map, List.filterMap_map] at hsome

theorem sameMetrics_eq {profile profile' : ThresholdProfileCapability}
    {expected expected' : List Identifier} (h : ProfileReordered profile profile')
    (he : expected.Perm expected') :
    sameMetrics profile expected = sameMetrics profile' expected' := by
  have hids := h.metrics.map ThresholdMetricCapability.metricId
  unfold sameMetrics
  rw [Bool.eq_iff_iff]
  simp only [Bool.and_eq_true, List.all_eq_true, decide_eq_true_eq, hids.mem_iff, he.mem_iff]

theorem validateThresholdStatus_eq {profile profile' : ThresholdProfileCapability}
    (h : ProfileReordered profile profile') (hr : Shuffled RuleReordered rules rules')
    (hp : Option.Rel PluginReordered plugin plugin') :
    validateThresholdStatus profile rules raw plugin =
      validateThresholdStatus profile' rules' raw plugin' := by
  have hany : ((rules.filter (relevant profile.source raw plugin)).any (required · raw)) =
      (rules'.filter (relevant profile.source raw plugin')).any (required · raw) :=
    (hr.filter fun a b hab => hab.relevant_eq hp _).any_eq fun a b hab => hab.required_eq
  unfold validateThresholdStatus
  rw [h.status, h.source, hany]

end Rules

/-! ### Profiles and plugins -/

theorem l2Profile_alike (h : Reordered context context') (encoder : Compiled.ResolvedEncoder)
    {catalog catalog' : RuleCatalogCapability} (hc : CatalogReordered catalog catalog') :
    Alike ProfileReordered (l2Profile raw context encoder catalog)
      (l2Profile raw context' encoder catalog') := by
  unfold l2Profile
  refine (one_alike h.thresholds fun a b hab => ?_).bind fun profile profile' hp => ?_
  · unfold l2ProfileMatches
    rw [hab.source, hab.pin]
  · rw [hp.stylePackId, hp.domainProfile, hp.encoderPin,
      sameMetrics_eq hp (expectedMetrics_perm hc.rules .none .l2),
      validateThresholdStatus_eq hp hc.rules .none]
    refine (Alike.refl _).bind_eq fun _ => (Alike.refl _).bind_eq fun _ => ?_
    exact (Alike.refl _).bind_eq fun _ => .ok hp

theorem l3Resolution_alike (h : Reordered context context') :
    Alike L3Reordered (l3Resolution raw context) (l3Resolution raw context') := by
  unfold l3Resolution
  cases raw.verification.l3 with
  | none => exact (Alike.refl _).bind_eq fun _ => .ok .none
  | some config =>
    refine (Alike.refl _).bind_eq fun _ => ?_
    refine (one_alike h.plugins fun a b hab => ?_).bind fun plugin plugin' hplugin => ?_
    · unfold pluginMatches
      rw [hab.pin, hab.domainProfile, hab.domainVerifierVersion]
    refine (one_alike h.thresholds fun a b hab => ?_).bind fun profile profile' hprofile => ?_
    · unfold l3ProfileMatches
      rw [hab.source, hab.logicalName, hab.stylePackId, hab.domainProfile, hab.pluginPin,
        hplugin.pin]
    · have hexpected : (expectedMetrics plugin.rules .l3 raw (some plugin)).Perm
          (expectedMetrics plugin'.rules .l3 raw (some plugin')) :=
        expectedMetrics_perm hplugin.rules (.some hplugin) .l3
      simp only [hexpected.isEmpty_eq, sameMetrics_eq hprofile hexpected,
        validateThresholdStatus_eq hprofile hplugin.rules (.some hplugin)]
      refine (Alike.refl _).bind_eq fun _ => (Alike.refl _).bind_eq fun _ => ?_
      exact .ok (.some ⟨hplugin, hprofile⟩)

theorem validateL3_eq {l3 l3' : Option (L3PluginCapability × ThresholdProfileCapability)}
    (h : L3Reordered l3 l3') : validateL3 raw l3 = validateL3 raw l3' := by
  cases h with
  | none => rfl
  | @some p q h =>
    obtain ⟨hplugin, hprofile⟩ := h
    have hgate : ∀ output, p.1.rules.any (fidelityGate raw p.1 output) =
        q.1.rules.any (fidelityGate raw q.1 output) := by
      refine fun output => hplugin.rules.any_eq fun a b hab => ?_
      unfold fidelityGate
      rw [hab.kind, hab.applicable_eq (.some hplugin), hab.required_eq]
    unfold validateL3
    simp only [hprofile.status, hgate]

/-! ### Plans -/

section Plans

variable {l2 l2' : ThresholdProfileCapability}
  {l3 l3' : Option (L3PluginCapability × ThresholdProfileCapability)}

theorem L3Reordered.plugin (h : L3Reordered l3 l3') :
    Option.Rel PluginReordered (l3.map Prod.fst) (l3'.map Prod.fst) := by
  cases h with
  | none => exact .none
  | some h => exact .some h.1

theorem L3Reordered.profile (h : L3Reordered l3 l3') :
    Option.Rel ProfileReordered (l3.map Prod.snd) (l3'.map Prod.snd) := by
  cases h with
  | none => exact .none
  | some h => exact .some h.2

theorem sourceRules_shuffled {catalog catalog' : RuleCatalogCapability}
    (hc : CatalogReordered catalog catalog') (h : L3Reordered l3 l3') :
    Shuffled RuleReordered (sourceRules catalog l3) (sourceRules catalog' l3') := by
  unfold sourceRules
  refine hc.rules.append ?_
  cases h with
  | none => exact ⟨[], .nil, .nil⟩
  | some h => exact h.1.rules

theorem binding_alike {rule rule' : RuleCapability} (hr : RuleReordered rule rule') (active : Bool)
    (h2 : ProfileReordered l2 l2') (h3 : L3Reordered l3 l3') :
    Alike Eq (binding rule active l2 (l3.map Prod.snd))
      (binding rule' active l2' (l3'.map Prod.snd)) := by
  have hbound : ∀ {p p' : ThresholdProfileCapability} (metricId : Identifier),
      ProfileReordered p p' →
        Alike Eq
          (one p.metrics (fun item => item.metricId = metricId) "threshold metric" >>=
            fun metric => pure (some (bindingOf p metric)))
          (one p'.metrics (fun item => item.metricId = metricId) "threshold metric" >>=
            fun metric => pure (some (bindingOf p' metric))) := by
    intro p p' metricId hp
    refine (one_perm hp.metrics).bind_eq fun metric => .ok ?_
    unfold bindingOf
    rw [hp.pin, hp.logicalName, hp.status, hp.calibration, hp.validation, hp.annotation,
      hp.approval]
  have hprofile := h3.profile
  generalize l3.map Prod.snd = p3 at hprofile
  generalize l3'.map Prod.snd = p3' at hprofile
  unfold binding
  rw [hr.metricId, hr.thresholdSource]
  cases active with
  | false => exact Alike.refl _
  | true =>
    cases rule.metricId with
    | none => exact Alike.refl _
    | some metricId =>
      cases rule.thresholdSource with
      | none => exact .error
      | l2 => exact hbound metricId h2
      | l3 =>
        cases hprofile with
        | none => exact .error
        | some hp => exact hbound metricId hp

theorem actions_sorted {rule rule' : RuleCapability} (h : RuleReordered rule rule') :
    (rule.affectedByActions.insertionSort fun a b => a.value ≤ b.value) =
      rule'.affectedByActions.insertionSort fun a b => a.value ≤ b.value :=
  insertionSort_eq_of_perm Id.value h.actions
    (rule.actions_nodup.map fun _ _ => Id.ext_value)

theorem compiledRule_alike {rule rule' : RuleCapability} (hr : RuleReordered rule rule')
    (output : OutputProfile) (h2 : ProfileReordered l2 l2') (h3 : L3Reordered l3 l3') :
    Alike Eq (compiledRule rule raw output l2 l3) (compiledRule rule' raw output l2' l3') := by
  have hdefinition : ∀ required applicability gatePolicy,
      ruleDefinition rule required applicability gatePolicy =
        ruleDefinition rule' required applicability gatePolicy := by
    intro required applicability gatePolicy
    unfold ruleDefinition
    simp only [hr.ruleId, hr.level, hr.scope]
  have hrequired : required rule raw = required rule' raw := hr.required_eq
  unfold compiledRule
  simp only [hr.applicable_eq h3.plugin, hrequired, hdefinition]
  refine (Alike.refl _).bind_eq fun definition => ?_
  refine (binding_alike hr _ h2 h3).bind_eq fun b => ?_
  rw [hr.verifierPin, hr.metricId, hr.priority, actions_sorted hr]
  exact Alike.refl _

/-- **The plan of an output.** -/
theorem plan_alike (output : OutputProfileCapability) {catalog catalog' : RuleCatalogCapability}
    (hc : CatalogReordered catalog catalog') (h2 : ProfileReordered l2 l2')
    (h3 : L3Reordered l3 l3') :
    Alike Eq (plan raw output catalog l2 l3) (plan raw output catalog' l2' l3') := by
  have hrules := sourceRules_shuffled hc h3
  unfold plan
  rw [uniqueRuleIds_eq hrules]
  refine (Alike.refl _).bind_of fun _ _ hunique _ _ => ?_
  refine (hrules.mapM fun a b hab => compiledRule_alike hab _ h2 h3).bind_of
    fun compiled compiled' hok _ hcompiled => ?_
  -- the ids of the rules are unique, so the sorted rules are the same
  have hids : (compiled.map (·.definition.ruleId.value)).Nodup := by
    rw [← uniqueRuleIds_eq hrules] at hunique
    unfold uniqueRuleIds at hunique
    rw [ensure_ok_iff, decide_eq_true_eq] at hunique
    have hmap := mapM_ok_map (g := fun rule : Compiled.Rule => rule.definition.ruleId)
      (fun _ _ hrule => (compiledRule_ok hrule).ruleId) hok
    have hvalues : Function.Injective fun a : RuleId => a.value := fun _ _ => Id.ext_value
    have hnodup := hunique.map hvalues
    rwa [← hmap, List.map_map] at hnodup
  have hsorted := insertionSort_eq_of_perm
    (fun rule : Compiled.Rule => rule.definition.ruleId.value) hcompiled.perm hids
  simp only [hsorted]
  cases h3 with
  | none => exact Alike.refl _
  | some h =>
    simp only [h.1.pin, h.2.pin]
    exact Alike.refl _

end Plans

/-! ### The compiler -/

theorem parts_alike (h : Reordered context context') :
    Alike Eq (parts raw context) (parts raw context') := by
  unfold parts
  refine (runtime_alike h).bind_eq fun rt => ?_
  refine (models_alike h rt).bind_eq fun models => ?_
  refine (encoder_alike h rt).bind_eq fun encoder => ?_
  refine (mapping_alike h).bind_eq fun mapping => ?_
  refine (outputs_alike h).bind_eq fun outputs => ?_
  refine (catalog_alike h).bind fun catalog catalog' hc => ?_
  rw [validateCatalog_eq hc]
  refine (Alike.refl _).bind_eq fun _ => ?_
  refine (l2Profile_alike h encoder hc).bind fun l2 l2' h2 => ?_
  refine (l3Resolution_alike h).bind fun l3 l3' h3 => ?_
  rw [validateL3_eq h3]
  refine (Alike.refl _).bind_eq fun _ => ?_
  refine (Alike.mapM fun output => plan_alike output hc h2 h3).bind_eq fun plans => ?_
  rw [hc.pin, h.compilerPin]
  exact Alike.refl _

/-! ### One more capability -/

/-- The tuples of a context. -/
inductive Tuple where
  | runtimes | models | encoders | mappings | outputs | catalogs | thresholds | plugins

/-- What a tuple holds. -/
abbrev Tuple.Item : Tuple → Type
  | .runtimes => RuntimeCapability
  | .models => ModelCapability
  | .encoders => EncoderCapability
  | .mappings => StrengthMappingCapability
  | .outputs => OutputProfileCapability
  | .catalogs => RuleCatalogCapability
  | .thresholds => ThresholdProfileCapability
  | .plugins => L3PluginCapability

/-- A tuple of a context. -/
def tupleOf (context : CompilerContext) : (tuple : Tuple) → List tuple.Item
  | .runtimes => context.runtimeCapabilities
  | .models => context.modelCapabilities
  | .encoders => context.encoderCapabilities
  | .mappings => context.strengthMappings
  | .outputs => context.outputProfileCapabilities
  | .catalogs => context.ruleCatalogs
  | .thresholds => context.thresholdProfiles
  | .plugins => context.l3Plugins

/-- The reference to the profile of level L3, which is one of the plugin that was
resolved. -/
def l3References (raw : Spec.StyleSpec) (context : CompilerContext) (config : Spec.L3Config) :
    List (ThresholdProfileCapability → Bool) :=
  match one context.l3Plugins (pluginMatches raw config) "L3 plugin" with
  | .ok plugin => [l3ProfileMatches raw config plugin]
  | .error _ => []

/-- What a specification selects of a tuple, once for each reference. -/
def references (raw : Spec.StyleSpec) (context : CompilerContext) :
    (tuple : Tuple) → List (tuple.Item → Bool)
  | .runtimes => [runtimeMatches raw]
  | .models =>
    [(modelMatches · .base raw.models.base.id.val raw.models.base.revision.val
        raw.models.base.sha256 none),
      (modelMatches · .ipAdapter raw.models.ipAdapter.id.val raw.models.ipAdapter.revision.val
        raw.models.ipAdapter.sha256 none),
      (modelMatches · .controlnet raw.models.controlnet.id.val raw.models.controlnet.revision.val
        raw.models.controlnet.sha256 (some raw.models.controlnet.type))]
  | .encoders => [encoderMatches raw]
  | .mappings => [fun item => item.presetId = raw.style.presetId]
  | .outputs => raw.outputs.profiles.val.map fun profile item => item.profile = profile
  | .catalogs => [fun item => item.rulesetVersion = raw.verification.rulesetVersion.val]
  | .plugins => raw.verification.l3.toList.map (pluginMatches raw)
  | .thresholds =>
    l2ProfileMatches raw :: raw.verification.l3.toList.flatMap (l3References raw context)

/-- A list with one more element, at some place. -/
def putAt (place : Nat) (item : α) (values : List α) : List α :=
  values.take place ++ item :: values.drop place

/-- A context with one more capability. -/
def add (context : CompilerContext) (place : Nat) : (tuple : Tuple) → tuple.Item → CompilerContext
  | .runtimes, item =>
    { context with runtimeCapabilities := putAt place item context.runtimeCapabilities }
  | .models, item =>
    { context with modelCapabilities := putAt place item context.modelCapabilities }
  | .encoders, item =>
    { context with encoderCapabilities := putAt place item context.encoderCapabilities }
  | .mappings, item =>
    { context with strengthMappings := putAt place item context.strengthMappings }
  | .outputs, item =>
    { context with
      outputProfileCapabilities := putAt place item context.outputProfileCapabilities }
  | .catalogs, item => { context with ruleCatalogs := putAt place item context.ruleCatalogs }
  | .thresholds, item =>
    { context with thresholdProfiles := putAt place item context.thresholdProfiles }
  | .plugins, item => { context with l3Plugins := putAt place item context.l3Plugins }

theorem mem_l3References {config : Spec.L3Config} {plugin : L3PluginCapability}
    (hc : raw.verification.l3 = some config)
    (hp : one context.l3Plugins (pluginMatches raw config) "L3 plugin" = .ok plugin) :
    l3ProfileMatches raw config plugin ∈ references raw context .thresholds := by
  refine List.mem_cons_of_mem _ (List.mem_flatMap.mpr ⟨config, ?_, ?_⟩)
  · rw [hc]
    exact List.mem_cons_self
  · unfold l3References
    rw [hp]
    exact List.mem_cons_self

theorem putAt_perm (place : Nat) (item : α) (values : List α) :
    (putAt place item values).Perm (item :: values) := by
  unfold putAt
  refine List.perm_middle.trans ?_
  rw [List.take_append_drop]

theorem filter_putAt {place : Nat} {item : α} {values : List α} {selects : α → Bool}
    (h : selects item = false) :
    (putAt place item values).filter selects = values.filter selects := by
  unfold putAt
  rw [List.filter_append, List.filter_cons_of_neg (by rw [h]; exact Bool.false_ne_true),
    ← List.filter_append, List.take_append_drop]

/-- What is not selected is not resolved to. -/
theorem one_putAt {place : Nat} {item : α} {values : List α} {selects : α → Bool} {name : String}
    (h : selects item = false) :
    one (putAt place item values) selects name = one values selects name := by
  unfold one
  rw [filter_putAt h]

section Unmatched

variable {place : Nat} {tuple : Tuple} {item : tuple.Item}
  (h : ∀ selects ∈ references raw context tuple, selects item = false)

include h

theorem runtime_add : runtime raw (add context place tuple item) = runtime raw context := by
  cases tuple with
  | runtimes => exact one_putAt (h _ List.mem_cons_self)
  | _ => rfl

theorem models_add (rt : RuntimeCapability) :
    models raw (add context place tuple item) rt = models raw context rt := by
  cases tuple with
  | models =>
    have hmodel : ∀ role identifier revision sha256 controlnetType,
        (modelMatches · role identifier revision sha256 controlnetType) ∈
          references raw context .models →
        model raw (add context place .models item) rt role identifier revision sha256
            controlnetType =
          model raw context rt role identifier revision sha256 controlnetType := by
      intro role identifier revision sha256 controlnetType hs
      unfold model
      rw [show one (add context place .models item).modelCapabilities _ _ = _ from
        one_putAt (h _ hs)]
    unfold models
    simp only
    rw [hmodel _ _ _ _ _ List.mem_cons_self,
      hmodel _ _ _ _ _ (List.mem_cons_of_mem _ List.mem_cons_self),
      hmodel _ _ _ _ _ (List.mem_cons_of_mem _ (List.mem_cons_of_mem _ List.mem_cons_self))]
  | _ => rfl

theorem encoder_add (rt : RuntimeCapability) :
    encoder raw (add context place tuple item) rt = encoder raw context rt := by
  cases tuple with
  | encoders =>
    unfold encoder
    rw [show one (add context place .encoders item).encoderCapabilities _ _ = _ from
      one_putAt (h _ List.mem_cons_self)]
  | _ => rfl

theorem mapping_add : mapping raw (add context place tuple item) = mapping raw context := by
  cases tuple with
  | mappings =>
    unfold mapping
    rw [show one (add context place .mappings item).strengthMappings _ _ = _ from
      one_putAt (h _ List.mem_cons_self)]
  | _ => rfl

theorem outputs_add : outputs raw (add context place tuple item) = outputs raw context := by
  cases tuple with
  | outputs =>
    unfold outputs
    refine mapM_congr fun profile hp => ?_
    unfold output
    rw [show one (add context place .outputs item).outputProfileCapabilities _ _ = _ from
      one_putAt (h _ (List.mem_map_of_mem hp))]
  | _ => rfl

theorem catalog_add : catalog raw (add context place tuple item) = catalog raw context := by
  cases tuple with
  | catalogs => exact one_putAt (h _ List.mem_cons_self)
  | _ => rfl

theorem l2Profile_add (encoder : Compiled.ResolvedEncoder) (catalog : RuleCatalogCapability) :
    l2Profile raw (add context place tuple item) encoder catalog =
      l2Profile raw context encoder catalog := by
  cases tuple with
  | thresholds =>
    unfold l2Profile
    rw [show one (add context place .thresholds item).thresholdProfiles _ _ = _ from
      one_putAt (h _ List.mem_cons_self)]
  | _ => rfl

theorem l3Resolution_add :
    l3Resolution raw (add context place tuple item) = l3Resolution raw context := by
  unfold l3Resolution
  cases hc : raw.verification.l3 with
  | none => rfl
  | some config =>
    refine bind_congr fun _ => ?_
    cases tuple with
    | plugins =>
      have hmem : pluginMatches raw config ∈ references raw context .plugins := by
        unfold references
        rw [hc]
        exact List.mem_cons_self
      rw [show one (add context place .plugins item).l3Plugins _ _ = _ from one_putAt (h _ hmem)]
      rfl
    | thresholds =>
      show (one context.l3Plugins _ _ >>= _) = _
      cases hp : one context.l3Plugins (pluginMatches raw config) "L3 plugin" with
      | error e => rfl
      | ok plugin =>
        rw [ok_bind, ok_bind,
          show one (add context place .thresholds item).thresholdProfiles _ _ = _ from
            one_putAt (h _ (mem_l3References hc hp))]
    | _ => rfl

/-- **What no reference selects changes nothing.** -/
theorem parts_add : parts raw (add context place tuple item) = parts raw context := by
  have hpin : (add context place tuple item).compilerPin = context.compilerPin := by
    cases tuple <;> rfl
  unfold parts
  simp only [runtime_add h, models_add h, encoder_add h, mapping_add h, outputs_add h,
    catalog_add h, l2Profile_add h, l3Resolution_add h, hpin]

end Unmatched

/-! ### A second one -/

/-- Two that are selected are not resolved. -/
theorem one_ambiguous {place : Nat} {item first : α} {values : List α} {selects : α → Bool}
    {name : String} {found : α} (hfirst : first ∈ values) (hs : selects first = true)
    (hitem : selects item = true) : one (putAt place item values) selects name ≠ .ok found := by
  intro hone
  have hperm := (putAt_perm place item values).filter selects
  rw [List.filter_cons_of_pos hitem] at hperm
  have hpos : 0 < (values.filter selects).length :=
    List.length_pos_of_mem (List.mem_filter.mpr ⟨hfirst, hs⟩)
  unfold one at hone
  split at hone
  · next v hv =>
    rw [hv] at hperm
    have hlen := hperm.length_eq
    rw [List.length_singleton, List.length_cons] at hlen
    omega
  · cases hone

/-- Every reference of an accepted specification resolves. -/
theorem parts_resolves {ps : Compiled.StyleSpecParts} (h : parts raw context = .ok ps)
    (tuple : Tuple) : ∀ selects ∈ references raw context tuple,
      ∃ name found, one (tupleOf context tuple) selects name = .ok found := by
  obtain ⟨rt, ms, enc, mp, outs, cat, l2, l3, hruntime, hmodels, hencoder, hmapping, hcatalog, hl2,
    ⟨-, -, hl3, -, houtputs, -, -⟩, -, -⟩ := parts_inv h
  have hmodel : ∀ {role identifier revision sha256 controlnetType resolved},
      model raw context rt role identifier revision sha256 controlnetType = .ok resolved →
        ∃ name found, one context.modelCapabilities
          (modelMatches · role identifier revision sha256 controlnetType) name = .ok found := by
    intro _ _ _ _ _ _ hm
    obtain ⟨capability, hone, -⟩ := bind_ok_iff.mp hm
    exact ⟨_, capability, hone⟩
  intro selects hs
  cases tuple with
  | runtimes =>
    obtain rfl := List.mem_singleton.mp hs
    exact ⟨_, rt, hruntime⟩
  | models =>
    obtain ⟨base, hbase, hmodels⟩ := bind_ok_iff.mp hmodels
    obtain ⟨adapter, hadapter, hmodels⟩ := bind_ok_iff.mp hmodels
    obtain ⟨control, hcontrol, -⟩ := bind_ok_iff.mp hmodels
    simp only [references, List.mem_cons, List.not_mem_nil, or_false] at hs
    rcases hs with rfl | rfl | rfl
    · exact hmodel hbase
    · exact hmodel hadapter
    · exact hmodel hcontrol
  | encoders =>
    obtain rfl := List.mem_singleton.mp hs
    obtain ⟨capability, hone, -⟩ := bind_ok_iff.mp hencoder
    exact ⟨_, capability, hone⟩
  | mappings =>
    obtain rfl := List.mem_singleton.mp hs
    obtain ⟨capability, hone, -⟩ := bind_ok_iff.mp hmapping
    exact ⟨_, capability, hone⟩
  | outputs =>
    obtain ⟨profile, hp, rfl⟩ := List.mem_map.mp hs
    obtain ⟨out, -, hout⟩ := mapM_ok_image houtputs hp
    obtain ⟨capability, hone, -⟩ := bind_ok_iff.mp hout
    exact ⟨_, capability, hone⟩
  | catalogs =>
    obtain rfl := List.mem_singleton.mp hs
    exact ⟨_, cat, hcatalog⟩
  | plugins =>
    obtain ⟨config, hconfig, rfl⟩ := List.mem_map.mp hs
    have hc : raw.verification.l3 = some config := Option.mem_toList.mp hconfig
    unfold l3Resolution at hl3
    rw [hc] at hl3
    obtain ⟨-, hl3⟩ := check_ok_iff.mp hl3
    obtain ⟨plugin, hone, -⟩ := bind_ok_iff.mp hl3
    exact ⟨_, plugin, hone⟩
  | thresholds =>
    rcases List.mem_cons.mp hs with rfl | hs
    · obtain ⟨profile, hone, -⟩ := bind_ok_iff.mp hl2
      exact ⟨_, profile, hone⟩
    · obtain ⟨config, hconfig, hs⟩ := List.mem_flatMap.mp hs
      have hc : raw.verification.l3 = some config := Option.mem_toList.mp hconfig
      unfold l3Resolution at hl3
      rw [hc] at hl3
      obtain ⟨-, hl3⟩ := check_ok_iff.mp hl3
      obtain ⟨plugin, hplugin, hl3⟩ := bind_ok_iff.mp hl3
      obtain ⟨profile, hone, -⟩ := bind_ok_iff.mp hl3
      unfold l3References at hs
      rw [hplugin] at hs
      obtain rfl := List.mem_singleton.mp hs
      exact ⟨_, profile, hone⟩

theorem references_add {place : Nat} {tuple : Tuple} {item : tuple.Item}
    {selects : tuple.Item → Bool} (hs : selects ∈ references raw context tuple) :
    selects ∈ references raw (add context place tuple item) tuple := by
  cases tuple <;> exact hs

theorem tupleOf_add {place : Nat} {tuple : Tuple} {item : tuple.Item} :
    tupleOf (add context place tuple item) tuple = putAt place item (tupleOf context tuple) := by
  cases tuple <;> rfl

/-- **A second match is refused.** -/
theorem parts_ambiguous {place : Nat} {tuple : Tuple} {item first : tuple.Item}
    {selects : tuple.Item → Bool} (hs : selects ∈ references raw context tuple)
    (hmem : first ∈ tupleOf context tuple) (hfirst : selects first = true)
    (hitem : selects item = true) (ps : Compiled.StyleSpecParts) :
    parts raw (add context place tuple item) ≠ .ok ps := by
  intro h
  obtain ⟨name, found, hone⟩ := parts_resolves h tuple selects (references_add hs)
  rw [tupleOf_add] at hone
  exact one_ambiguous hmem hfirst hitem hone

/-! ### Compilations -/

/-- **Compilation is unambiguous and does not depend on the order.**  In a
reordered context the compilation gives the same, or both raise; one more
capability that no reference selects changes nothing; and one more that a
reference selects beside another is refused. -/
theorem compilation_order (hashBytes : Bytes → Sha256) (raw : Spec.StyleSpec)
    (context : CompilerContext) :
    (∀ context', Reordered context context' →
      (∃ compiled, compileStyleSpec hashBytes raw context = .ok compiled ∧
        compileStyleSpec hashBytes raw context' = .ok compiled) ∨
      (∃ e e', compileStyleSpec hashBytes raw context = .error e ∧
        compileStyleSpec hashBytes raw context' = .error e')) ∧
    (∀ place tuple item, (∀ selects ∈ references raw context tuple, selects item = false) →
      compileStyleSpec hashBytes raw (add context place tuple item) =
        compileStyleSpec hashBytes raw context) ∧
    ∀ place tuple item, ∀ selects ∈ references raw context tuple,
      ∀ first ∈ tupleOf context tuple, selects first = true → selects item = true →
        ∃ e, compileStyleSpec hashBytes raw (add context place tuple item) = .error e := by
  refine ⟨fun context' h => ?_, fun place tuple item h => ?_, ?_⟩
  · have halike : Alike Eq (compileStyleSpec hashBytes raw context)
        (compileStyleSpec hashBytes raw context') := by
      unfold compileStyleSpec
      exact (parts_alike h).bind_eq fun ps => Alike.refl _
    generalize compileStyleSpec hashBytes raw context = x at halike ⊢
    generalize compileStyleSpec hashBytes raw context' = y at halike ⊢
    cases halike with
    | @ok compiled compiled' heq =>
      subst heq
      exact .inl ⟨compiled, rfl, rfl⟩
    | error => exact .inr ⟨_, _, rfl, rfl⟩
  · unfold compileStyleSpec
    rw [parts_add h]
  · intro place tuple item selects hs first hmem hfirst hitem
    cases hc : compileStyleSpec hashBytes raw (add context place tuple item) with
    | error e => exact ⟨e, rfl⟩
    | ok compiled =>
      exact absurd (compileStyleSpec_ok hc) (parts_ambiguous hs hmem hfirst hitem _)

namespace RequiredFidelity

/-- The catalog, its rules from the last to the first. -/
def reversedCatalog : RuleCatalogCapability :=
  ⟨py "rules-1", pin "catalog", catalogRules.reverse, by decide⟩

/-- The profile of level L2, its metrics in the other order. -/
def reversedThreshold : ThresholdProfileCapability :=
  { l2Threshold with
    metrics := [metric "batch", metric "style"]
    metrics_nodup := by decide }

/-- The context of the specification in another order. -/
def reversed : CompilerContext :=
  { capabilities true with
    ruleCatalogs := [reversedCatalog]
    thresholdProfiles := [l3Threshold, reversedThreshold] }

theorem rule_refl (rule : RuleCapability) : RuleReordered rule rule :=
  ⟨rfl, rfl, rfl, rfl, rfl, rfl, rfl, rfl, rfl, rfl, rfl, .refl _⟩

theorem profile_refl (profile : ThresholdProfileCapability) : ProfileReordered profile profile :=
  ⟨rfl, rfl, rfl, rfl, rfl, rfl, rfl, rfl, .refl _, rfl, rfl, rfl, rfl⟩

theorem reversed_reordered : Reordered (capabilities true) reversed where
  compilerPin := rfl
  runtimes := .refl _
  models := .refl _
  encoders := .refl _
  mappings := .refl _
  outputs := .refl _
  catalogs := by
    refine ⟨_, .refl _, .cons ⟨rfl, rfl, ?_⟩ .nil⟩
    exact ⟨_, (List.reverse_perm _).symm, List.forall₂_same.mpr fun rule _ => rule_refl rule⟩
  thresholds := by
    refine ⟨_, List.Perm.swap _ _ _, .cons (profile_refl _) (.cons ?_ .nil)⟩
    exact ⟨rfl, rfl, rfl, rfl, rfl, rfl, rfl, rfl, List.Perm.swap _ _ _, rfl, rfl, rfl, rfl⟩
  plugins := by
    refine ⟨_, .refl _, .cons ⟨rfl, rfl, rfl, rfl, ?_⟩ .nil⟩
    exact ⟨_, .refl _, List.forall₂_same.mpr fun rule _ => rule_refl rule⟩

/-- A runtime of another version. -/
def otherRuntime : RuntimeCapability := ⟨pin "runtime", {}, py "7.0", py "2.4", py "0.30", .float16⟩

/-- The same runtime under another pin. -/
def secondRuntime : RuntimeCapability := ⟨pin "second", {}, py "6.0", py "2.4", py "0.30", .float16⟩

end RequiredFidelity

theorem compilation_order_requiredFidelity : ∃ compiled,
    compileStyleSpec (fun _ => sampleHash) (.v1 RequiredFidelity.spec) RequiredFidelity.reversed =
      .ok compiled ∧
    compileStyleSpec (fun _ => sampleHash) (.v1 RequiredFidelity.spec)
      (add (RequiredFidelity.capabilities true) 0 .runtimes RequiredFidelity.otherRuntime) =
        .ok compiled ∧
    ∃ e, compileStyleSpec (fun _ => sampleHash) (.v1 RequiredFidelity.spec)
      (add (RequiredFidelity.capabilities true) 1 .runtimes RequiredFidelity.secondRuntime) =
        .error e := by
  obtain ⟨horder, hadd, hsecond⟩ := compilation_order (fun _ => sampleHash)
    (.v1 RequiredFidelity.spec) (RequiredFidelity.capabilities true)
  obtain ⟨compiled, h⟩ := RequiredFidelity.accepted true
  refine ⟨compiled, ?_, ?_, ?_⟩
  · rcases horder _ RequiredFidelity.reversed_reordered with ⟨c, hc, hr⟩ | ⟨e, e', he, -⟩
    · rw [h] at hc
      cases hc
      exact hr
    · rw [h] at he
      cases he
  · rw [hadd 0 .runtimes RequiredFidelity.otherRuntime]
    · exact h
    · intro selects hs
      obtain rfl := List.mem_singleton.mp hs
      decide
  · exact hsecond 1 .runtimes RequiredFidelity.secondRuntime _ List.mem_cons_self _
      List.mem_cons_self (by decide) (by decide)

end Compiler

end SpecStyle
