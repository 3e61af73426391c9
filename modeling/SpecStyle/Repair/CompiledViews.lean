/-
SpecStyle/Repair/CompiledViews.lean

A compiled specification as repair and export read it.

The compiler puts out the classes of the source with all of their fields
(`Compiled.Rule` and so on); repair, routing and export read a part of them
(`CompiledRule` and so on).  The part is taken by `view`, and everything the
compiler puts out has one (`compileStyleSpec_viewed`).  A plan and its view
have the same applicable rules, so the report of the verifier is one that
repair accepts for the view (`verified_report_matches`).
-/
import SpecStyle.Repair.Policies
import SpecStyle.Verification.ProductionGate

namespace SpecStyle

open PyLib

namespace Compiled

/-! ### Rules -/

/-- What is read of a threshold. -/
def ThresholdBinding.view (binding : ThresholdBinding) : CompiledThresholdBinding :=
  ⟨binding.profilePin, binding.status, binding.metricId, binding.operator,
    binding.productionApprovalSha256⟩

/-- What `CompiledRule` has checked. -/
structure Rule.Checked (rule : Rule) : Prop where
  bound : ∀ b ∈ rule.thresholdBinding,
    rule.metricId = some b.metricId ∧ rule.definition.applicability = .applicable
  measured : rule.definition.applicability = .applicable → rule.metricId.isSome →
    rule.thresholdBinding.isSome
  actions : rule.affectedByActions.Nodup

theorem Rule.checked (rule : Rule) : Rule.Checked rule := by
  have h := rule.valid
  unfold checkRule at h
  obtain ⟨-, h⟩ := check_ok_iff.mp h
  obtain ⟨happlicable, h⟩ := check_ok_iff.mp h
  obtain ⟨hmetric, h⟩ := check_ok_iff.mp h
  obtain ⟨hmeasured, hactions⟩ := check_ok_iff.mp h
  rw [ensure_ok_iff] at happlicable hmetric hmeasured hactions
  refine ⟨fun b hb => ⟨?_, ?_⟩, fun ha hm => ?_, of_decide_eq_true hactions⟩
  · rw [Option.mem_def.mp hb, Option.all_some] at hmetric
    exact of_decide_eq_true hmetric
  · rw [Option.mem_def.mp hb] at happlicable
    cases ha : rule.definition.applicability with
    | applicable => rfl
    | notApplicable =>
      rw [ha] at happlicable
      cases happlicable
  · rw [ha, hm] at hmeasured
    cases hb : rule.thresholdBinding with
    | some b => rfl
    | none =>
      rw [hb] at hmeasured
      cases hmeasured

/-- What is read of a rule. -/
def Rule.view (rule : Rule) : CompiledRule where
  definition := rule.definition
  metricId := rule.metricId
  thresholdBinding := rule.thresholdBinding.map ThresholdBinding.view
  priority := rule.priority
  affectedByActions := rule.affectedByActions
  bound := by
    intro b hb
    obtain ⟨binding, hbinding, rfl⟩ := Option.mem_map.mp hb
    exact rule.checked.bound binding hbinding
  measured := by
    intro ha hm
    rw [Option.isSome_map]
    exact rule.checked.measured ha hm
  actions_nodup := rule.checked.actions

/-! ### Plans -/

/-- What is read of a plan. -/
def VerificationPlan.view (plan : VerificationPlan) : CompiledVerificationPlan where
  outputProfile := plan.outputProfile
  rules := plan.rules.map Rule.view
  l3Status := plan.l3Status
  l3ThresholdProfilePin := plan.l3ThresholdProfilePin
  rules_nonempty := by
    have h := plan.valid
    unfold checkPlan at h
    obtain ⟨hrules, -⟩ := check_ok_iff.mp h
    rw [ensure_ok_iff, Bool.not_eq_true', List.isEmpty_eq_false_iff] at hrules
    exact fun hnil => hrules (List.map_eq_nil_iff.mp hnil)
  rules_nodup := by
    rw [List.map_map]
    exact Production.plan_ids_nodup plan

/-- **A plan and its view** have the same applicable rules. -/
theorem VerificationPlan.applicableRuleDefinitions_view (plan : VerificationPlan) :
    plan.view.applicableRuleDefinitions = Production.applicableRuleDefinitions plan := by
  have hrules : ((plan.rules.map Rule.view).map fun rule => rule.definition).filter
      (fun d => d.applicability = .applicable) =
        (plan.rules.filter (·.applicable)).map (·.definition) := by
    rw [List.map_map, List.filter_map]
    rfl
  show List.insertionSort _ _ = List.insertionSort _ _
  rw [← hrules]
  rfl

/-! ### Graphs -/

/-- What is read of a graph: there is a type of the controlnet, and the scales
lie in the unit interval. -/
def ExecutionGraph.view (graph : ExecutionGraph) : Option CompiledExecutionGraph := do
  let controlnetType ← graph.controlnet.controlnetType
  if h : (graph.ipAdapterScale.inUnit && graph.img2imgStrength.inUnit &&
      graph.controlnetScale.inUnit) = true then
    some ⟨graph.outputProfile, graph.resolution, controlnetType, graph.styleReferenceHashes,
      graph.presetId, ⟨graph.ipAdapterScale, graph.img2imgStrength, graph.controlnetScale, h⟩⟩
  else none

theorem ExecutionGraph.new_ok {graph graph' : ExecutionGraph} (h : graph.new = .ok graph') :
    graph' = graph := by
  unfold ExecutionGraph.new at h
  obtain ⟨-, h⟩ := check_ok_iff.mp h
  obtain ⟨-, h⟩ := check_ok_iff.mp h
  cases h
  rfl

end Compiled

namespace Compiler

variable {raw : Spec.StyleSpec} {context : CompilerContext}

/-- The scales of a specification and of a mapping are valid by their types. -/
theorem graph_view {output : OutputProfileCapability} {profile : GenerationProfile}
    {runtime : RuntimeCapability} {models : ResolvedModels} {mapping : StrengthMappingCapability}
    {entry : StrengthMappingEntry} {g : Compiled.ExecutionGraph}
    (h : graph raw output profile runtime models mapping entry = .ok g)
    (htype : ∃ type, models.controlnet.controlnetType = some type) :
    ∃ view, g.view = some view := by
  obtain ⟨type, htype⟩ := htype
  have hg := Compiled.ExecutionGraph.new_ok h
  have hscales : (g.ipAdapterScale.inUnit && g.img2imgStrength.inUnit &&
      g.controlnetScale.inUnit) = true := by
    rw [hg]
    cases profile with
    | preview =>
      simp [entry.previewIpAdapterScale.property, raw.generation.img2imgStrength.property,
        raw.generation.controlnetScale.property]
    | production =>
      simp [entry.productionIpAdapterScale.property, raw.generation.img2imgStrength.property,
        raw.generation.controlnetScale.property]
  have hcontrolnet : g.controlnet.controlnetType = some type := by
    rw [hg]
    exact htype
  unfold Compiled.ExecutionGraph.view
  rw [hcontrolnet]
  exact ⟨_, dif_pos hscales⟩

theorem models_type {runtime : RuntimeCapability} {ms : ResolvedModels}
    (h : models raw context runtime = .ok ms) :
    ∃ type, ms.controlnet.controlnetType = some type := by
  unfold models at h
  obtain ⟨base, -, h⟩ := bind_ok_iff.mp h
  obtain ⟨ipAdapter, -, h⟩ := bind_ok_iff.mp h
  obtain ⟨controlnet, hcontrolnet, h⟩ := bind_ok_iff.mp h
  cases h
  unfold model at hcontrolnet
  obtain ⟨capability, -, hcontrolnet⟩ := bind_ok_iff.mp hcontrolnet
  obtain ⟨-, hcontrolnet⟩ := check_ok_iff.mp hcontrolnet
  cases hcontrolnet
  exact ⟨_, rfl⟩

/-- Every graph of the compiler has a view. -/
theorem parts_view {ps : Compiled.StyleSpecParts} (h : parts raw context = .ok ps) :
    (∀ g ∈ ps.previewGraphs, ∃ view, g.view = some view) ∧
      ∀ g ∈ ps.productionGraphs, ∃ view, g.view = some view := by
  obtain ⟨rt, ms, enc, mp, outs, cat, l2, l3, hr⟩ := parts_inv h
  have hmodels := hr.modelsFound
  have hgraphs := hr.drawn
  unfold graphs at hgraphs
  obtain ⟨entry, -, hgraphs⟩ := bind_ok_iff.mp hgraphs
  obtain ⟨preview, hpreview, hgraphs⟩ := bind_ok_iff.mp hgraphs
  obtain ⟨production, hproduction, hgraphs⟩ := bind_ok_iff.mp hgraphs
  obtain ⟨rfl, rfl⟩ : preview = ps.previewGraphs ∧ production = ps.productionGraphs :=
    Prod.mk.inj (Except.ok.inj hgraphs)
  constructor
  · intro g hg
    obtain ⟨output, -, hgraph⟩ := mapM_ok_source hpreview hg
    exact graph_view hgraph (models_type hmodels)
  · intro g hg
    obtain ⟨output, -, hgraph⟩ := mapM_ok_source hproduction hg
    exact graph_view hgraph (models_type hmodels)

end Compiler

/-! ### Specifications -/

namespace Spec

/-- What is read of the section `repair`. -/
def repairSection (fields : Repair) : RepairSection where
  policyVersion := fields.val.policyVersion.val
  maxRounds := fields.val.maxRounds.val
  stopAfterNoImprovement := fields.val.stopAfterNoImprovement.val
  bounds := by
    have hstop := fields.val.stopAfterNoImprovement.property
    have hmax := fields.val.maxRounds.property
    simp only [rounds, Bool.and_eq_true, decide_eq_true_eq] at hstop hmax
    exact ⟨hstop.1, of_decide_eq_true fields.property, hmax.2⟩

def StyleSpec.repair : StyleSpec → Repair
  | .v1 s => s.repair
  | .v11 s => s.repair

end Spec

/-- What is read of a compiled specification. -/
structure Compiled.StyleSpec.Viewed (compiled : Compiled.StyleSpec) (view : CompiledStyleSpec) :
    Prop where
  repair : view.repair = Spec.repairSection compiled.sourceSpec.repair
  preview : List.Forall₂ (fun g v => g.view = some v) compiled.previewGraphs view.previewGraphs
  production :
    List.Forall₂ (fun g v => g.view = some v) compiled.productionGraphs view.productionGraphs
  plans : view.verificationPlans = compiled.verificationPlans.map Compiled.VerificationPlan.view
  hash : view.compiledSpecHash = compiled.compiledSpecHash

/-- **Every compiled specification** has a view. -/
theorem Compiler.compileStyleSpec_viewed {hashBytes : Bytes → Sha256} {raw : Spec.StyleSpec}
    {context : CompilerContext} {compiled : Compiled.StyleSpec}
    (h : Compiler.compileStyleSpec hashBytes raw context = .ok compiled) :
    ∃ view, compiled.Viewed view := by
  obtain ⟨hpreview, hproduction⟩ := Compiler.parts_view (Compiler.compileStyleSpec_ok h)
  obtain ⟨preview, hpreview⟩ := exists_forall₂ hpreview
  obtain ⟨production, hproduction⟩ := exists_forall₂ hproduction
  exact ⟨⟨Spec.repairSection compiled.sourceSpec.repair, preview, production,
    compiled.verificationPlans.map Compiled.VerificationPlan.view, compiled.compiledSpecHash⟩,
    rfl, hpreview, hproduction, rfl, rfl⟩

/-- **The report of the verifier** for an accepted plan is one that repair accepts
for the view of the plan. -/
theorem Production.verified_report_matches {Evidence : Type} {pydantic : Spec.Pydantic}
    {hashBytes : Bytes → Sha256} {services : Services Evidence} {session : Session}
    {artifact : GeneratedArtifact hashBytes} {binding : LoadedBinding}
    {compiled independent : Compiled.StyleSpec} {generationProfile : GenerationProfile}
    {outputProfile : OutputProfile} {environmentHash : Sha256} {plan : Compiled.VerificationPlan}
    {context : CompilerContext} {structurePin : Option (Option ResourcePin)}
    (h : validateProductionBinding pydantic hashBytes binding compiled generationProfile
      outputProfile environmentHash session.graph plan context session.mappings structurePin =
        some (independent, session.plan))
    (hres : Resolves hashBytes services session.styleReferences) (hb : BoundedL2 session.plan) :
    ∃ results report, evaluateRules hashBytes services session artifact = .ok results ∧
      VerificationReport.new [artifact.ref] (applicableRuleDefinitions session.plan) results =
        .ok report ∧
      validatePlanReport session.plan.view report artifact.ref.artifactId = .ok () := by
  obtain ⟨hregistry, hadmitted⟩ := validateRuleBindings_some (validateProductionBinding_some h)
  have haccepted : Accepted session := ⟨hregistry, hadmitted⟩
  obtain ⟨results, hresults, -, hvalid⟩ := @evaluateRules_ok _ _ _ _ artifact haccepted hres hb
  refine ⟨results, ⟨[artifact.ref], applicableRuleDefinitions session.plan, results, hvalid⟩,
    hresults, ?_, ?_⟩
  · unfold VerificationReport.new
    split
    · rfl
    · next e he =>
      rw [hvalid] at he
      cases he
  · rw [validatePlanReport_ok_iff]
    exact ⟨(session.plan.applicableRuleDefinitions_view).symm, List.mem_singleton_self _⟩

end SpecStyle
