/-
SpecStyle/Verification/ProductionGate.lean

The gate of the production verifier, for every plan that its contracts accept.

A round of the loop has one of two ends: the result of its rule, or the error
of a broken contract.  Which of them depends on the threshold of the rule
alone, since `_threshold_outcome` wants every threshold between minus one and
one.  Of the rules that are accepted one kind can leave that range: a batch
rule of level L2 is a distance, and its threshold is bounded from below only.
So of an accepted plan the evaluation returns one result per applicable rule, in
order, each with its verdict, exactly when the thresholds of the applicable rules
of level L2 are at most one; otherwise it raises (`verifier_gate_iff`).
-/
import SpecStyle.Spec.CompilerGates
import SpecStyle.Verification.ProductionVerifier

namespace SpecStyle

namespace Production

open PyLib

variable {α β : Type}

/-! ### Contracts -/

@[simp] theorem contract_some_iff {c : Bool} : contract c = some () ↔ c = true := by
  cases c with
  | false => simp [contract]
  | true => simp [contract]

@[simp] theorem contract_true : contract true = some () := rfl

@[simp] theorem contract_false : contract false = none := rfl

theorem bind_some_iff {x : Option α} {f : α → Option β} {b : β} :
    (x >>= f) = some b ↔ ∃ a, x = some a ∧ f a = some b :=
  Option.bind_eq_some_iff

/-- A contract before the rest. -/
theorem then_some_iff {x : Option Unit} {y : Option β} {b : β} :
    (x >>= fun _ => y) = some b ↔ x = some () ∧ y = some b := by
  rcases x with - | ⟨⟩
  · simp
  · simp

/-- A loop over contracts keeps all of them. -/
theorem forM_some_iff {f : α → Option Unit} {xs : List α} :
    xs.forM f = some () ↔ ∀ x ∈ xs, f x = some () := by
  induction xs with
  | nil => simp [List.forM]
  | cons x xs ih =>
      show (f x >>= fun _ => xs.forM f) = some () ↔ _
      rw [List.forall_mem_cons, ← ih]
      rcases f x with - | ⟨⟩
      · simp
      · simp

@[simp] theorem orContract_some {a : α} : orContract (some a) = .ok a := rfl

@[simp] theorem orContract_none : orContract (none : Option α) = .error contractFailure := rfl

@[simp] theorem orKey_some {a : α} : orKey (some a) = .ok a := rfl

/-! ### Accepted rules -/

/-- A threshold of a rule of level L2 that the batch contract accepts. -/
def IsDistance (binding : Compiled.ThresholdBinding) : Prop :=
  binding.operator = .le ∧ 0 ≤ binding.value.value ∧ binding.status = .draft

/-- A threshold of a similarity. -/
def IsSimilarity (binding : Compiled.ThresholdBinding) : Prop :=
  binding.operator = .ge ∧ inScoreRange binding.value = true

/-- What the contracts have checked of an applicable rule, by its level. -/
structure Admitted (mappings : Mappings) (rule : Compiled.Rule) : Prop where
  technical : rule.definition.level = .l1 → rule.definition.ruleId ∈ mappings.map Prod.fst
  style : rule.definition.level = .l2 → ∃ binding, rule.thresholdBinding = some binding ∧
    (IsSimilarity binding ∨ IsDistance binding)
  domain : rule.definition.level = .l3 → ∃ binding, rule.thresholdBinding = some binding ∧
    IsSimilarity binding

section Admission

variable {context : CompilerContext} {binding : LoadedBinding} {compiled : Compiled.StyleSpec}
  {plan : Compiled.VerificationPlan} {mappings : Mappings} {rule : Compiled.Rule}

theorem boundProfile_some {profile : ThresholdProfileCapability}
    {metric : Compiled.ThresholdBinding} (h : boundProfile context rule = some (profile, metric)) :
    rule.thresholdBinding = some metric := by
  simp only [boundProfile, Option.bind_eq_bind, Option.bind_eq_some_iff] at h
  obtain ⟨metric', hm, profile', -, h⟩ := h
  cases h
  exact hm

/-- The profile of a rule has the status of its binding. -/
theorem profileMatchesBinding_status {profile : ThresholdProfileCapability}
    {metric : Compiled.ThresholdBinding} (hm : rule.thresholdBinding = some metric)
    (h : profileMatchesBinding profile rule = true) : profile.status = metric.status := by
  unfold profileMatchesBinding at h
  rw [hm] at h
  split at h
  · next b metric' hb hfilter =>
    cases hb
    simp only [Bool.and_eq_true, decide_eq_true_eq] at h
    exact h.1.1.1.1.1.1.1.2
  · cases h

theorem validateL2Binding_some {capability : RuleCapability}
    (h : validateL2Binding context binding compiled rule capability = some ()) :
    ∃ metric, rule.thresholdBinding = some metric ∧ (IsSimilarity metric ∨ IsDistance metric) := by
  simp only [validateL2Binding, Option.bind_eq_bind, Option.bind_eq_some_iff] at h
  obtain ⟨encoder, -, ⟨profile, metric⟩, hbound, h⟩ := h
  have hm := boundProfile_some hbound
  simp only [contract_some_iff, Bool.and_eq_true, Bool.or_eq_true] at h
  obtain ⟨hcommon, hitem | hbatch⟩ := h
  · simp only [validL2Item, Bool.and_eq_true, decide_eq_true_eq] at hitem
    exact ⟨metric, hm, .inl ⟨hitem.1.2, hitem.2⟩⟩
  · have hmatches : profileMatchesBinding profile rule = true := by
      simp only [validL2Common, Bool.and_eq_true] at hcommon
      exact hcommon.2
    have hstatus := profileMatchesBinding_status hm hmatches
    simp only [validL2Batch, Bool.and_eq_true, decide_eq_true_eq] at hbatch
    obtain ⟨⟨⟨-, hdraft⟩, hop⟩, hpos⟩ := hbatch
    rw [hstatus] at hdraft
    exact ⟨metric, hm, .inr ⟨hop, hpos, hdraft⟩⟩

theorem validateL3Binding_some {plugin : L3PluginCapability}
    (h : validateL3Binding context compiled plan rule plugin = some ()) :
    ∃ metric, rule.thresholdBinding = some metric ∧ IsSimilarity metric := by
  simp only [validateL3Binding, Option.bind_eq_bind, Option.bind_eq_some_iff] at h
  obtain ⟨⟨profile, metric⟩, hbound, capability, -, h⟩ := h
  refine ⟨metric, boundProfile_some hbound, ?_⟩
  simp only [contract_some_iff, Bool.and_eq_true, Bool.or_eq_true, decide_eq_true_eq] at h
  obtain ⟨-, hlegacy | hstructure⟩ := h
  · exact ⟨hlegacy.1.2, hlegacy.2⟩
  · simp only [validStructureL3, Bool.and_eq_true, decide_eq_true_eq] at hstructure
    obtain ⟨⟨⟨-, hop⟩, hlow⟩, hhigh⟩ := hstructure
    refine ⟨hop, ?_⟩
    unfold inScoreRange
    rw [Bool.and_eq_true, decide_eq_true_eq, decide_eq_true_eq]
    -- the range of a structure score is the upper half
    have hone : 0 ≤ Binary64.one.value := by decide +kernel
    exact ⟨by omega, hhigh⟩

theorem validateL1Bindings_some {applicable : List Compiled.Rule} {catalog : List RuleCapability}
    (h : validateL1Bindings mappings applicable catalog = some ()) :
    mappings = l1RuleRegistry ∧ ∀ r ∈ applicable, r.definition.level = .l1 →
      r.definition.ruleId ∈ mappings.map Prod.fst := by
  simp only [validateL1Bindings, validateL1Registry, then_some_iff, contract_some_iff,
    decide_eq_true_eq, Bool.and_eq_true] at h
  obtain ⟨hregistry, ⟨-, hids⟩, -⟩ := h
  refine ⟨hregistry, fun r hr hl => ?_⟩
  rw [List.all_eq_true] at hids
  have hmem : r.definition.ruleId ∈
      (applicable.filter fun rule => rule.definition.level = .l1).map (·.definition.ruleId) :=
    List.mem_map.mpr ⟨r, List.mem_filter.mpr ⟨hr, decide_eq_true hl⟩, rfl⟩
  exact of_decide_eq_true (hids _ hmem)

/-- Every applicable rule of an accepted plan is admitted. -/
theorem validateRuleBindings_some
    (h : validateRuleBindings context binding compiled plan mappings = some ()) :
    mappings = l1RuleRegistry ∧
      ∀ rule ∈ plan.rules, rule.applicable = true → Admitted mappings rule := by
  unfold validateRuleBindings at h
  obtain ⟨catalog, -, h⟩ := bind_some_iff.mp h
  obtain ⟨hl1, hrules⟩ := then_some_iff.mp h
  rw [forM_some_iff] at hrules
  obtain ⟨hregistry, htechnical⟩ := validateL1Bindings_some hl1
  refine ⟨hregistry, fun rule hr happ => ⟨?_, fun hl => ?_, fun hl => ?_⟩⟩
  · exact htechnical rule (List.mem_filter.mpr ⟨hr, happ⟩)
  · have hround := hrules rule hr
    unfold validateRuleBinding at hround
    rw [if_pos (by rw [happ, decide_eq_true hl]; rfl)] at hround
    simp only [Option.bind_eq_bind, Option.bind_eq_some_iff] at hround
    obtain ⟨capability, -, hround⟩ := hround
    exact validateL2Binding_some hround
  · have hround := hrules rule hr
    have hl3 : rule.isL3 = true := decide_eq_true hl
    unfold validateRuleBinding at hround
    rw [if_neg (by rw [hl]; simp), if_pos hl3] at hround
    simp only [Option.bind_eq_bind, Option.bind_eq_some_iff, happ, if_true] at hround
    obtain ⟨plugin, -, hround⟩ := hround
    exact validateL3Binding_some hround

theorem validateProductionBinding_some {pydantic : Spec.Pydantic} {hashBytes : Bytes → Sha256}
    {generationProfile : GenerationProfile} {outputProfile : OutputProfile}
    {environmentHash : Sha256} {graph : Compiled.ExecutionGraph}
    {supplied : Compiled.VerificationPlan} {structurePin : Option (Option ResourcePin)}
    {independent : Compiled.StyleSpec}
    (h : validateProductionBinding pydantic hashBytes binding compiled generationProfile
      outputProfile environmentHash graph supplied context mappings structurePin =
        some (independent, plan)) :
    validateRuleBindings context binding independent plan mappings = some () := by
  unfold validateProductionBinding at h
  obtain ⟨snapshot, -, h⟩ := bind_some_iff.mp h
  obtain ⟨independent', -, h⟩ := bind_some_iff.mp h
  obtain ⟨-, h⟩ := then_some_iff.mp h
  obtain ⟨canonical, hcanonical, h⟩ := bind_some_iff.mp h
  cases h
  unfold validateIndependent at hcanonical
  obtain ⟨matching, -, h⟩ := bind_some_iff.mp hcanonical
  obtain ⟨canonical, -, h⟩ := bind_some_iff.mp h
  obtain ⟨-, h⟩ := then_some_iff.mp h
  obtain ⟨-, h⟩ := then_some_iff.mp h
  obtain ⟨hrules, h⟩ := then_some_iff.mp h
  obtain ⟨-, h⟩ := then_some_iff.mp h
  cases h
  exact hrules

end Admission

/-! ### Thresholds -/

theorem canonicalScore_value (x : Binary64) : (canonicalScore x).value = x.value := by
  unfold canonicalScore
  split
  · next h =>
    rw [h]
    rfl
  · rfl

/-- The status of a rule that is not executed. -/
def inactiveStatus (status : ThresholdStatus) : RuleStatus :=
  if status = .revoked then .fail else .unverifiable

/-- The status of a score. -/
def scoreStatus (threshold : Binary64) (score : Score) : RuleStatus :=
  if threshold.value ≤ score.val.value then .pass else .fail

theorem thresholdOutcome_out {status : ThresholdStatus} {threshold : Binary64}
    {score : Option Binary64} (h : inScoreRange threshold = false) :
    thresholdOutcome status threshold score = none := by
  unfold thresholdOutcome
  rw [h]
  rfl

/-- Only a validated threshold is executed. -/
theorem thresholdOutcome_none {status : ThresholdStatus} {threshold : Binary64}
    (h : inScoreRange threshold = true) : thresholdOutcome status threshold none =
      some (if status = .validated then ⟨none, none, true⟩
        else ⟨some (inactiveStatus status), none, false⟩) := by
  unfold thresholdOutcome
  rw [h]
  by_cases hv : status = .validated
  · rw [if_pos hv, if_neg (not_not.mpr hv)]
    rfl
  · rw [if_neg hv, if_pos hv]
    rfl

theorem thresholdOutcome_score {threshold : Binary64} (h : inScoreRange threshold = true)
    (score : Score) : thresholdOutcome .validated threshold (some score.val) =
      some ⟨some (scoreStatus threshold score), some (canonicalScore score.val), false⟩ := by
  have hs : inScoreRange score.val = true := score.property
  unfold thresholdOutcome scoreStatus
  rw [h, ← canonicalScore_value score.val]
  show (contract (inScoreRange score.val) >>= fun _ => _) = _
  rw [hs]
  rfl

section Thresholds

variable {rule : Compiled.Rule} {artifactId : ArtifactId} {binding : Compiled.ThresholdBinding}

/-- A threshold out of range breaks the contract, whatever the status. -/
theorem metricWithoutExecution_error (hb : rule.thresholdBinding = some binding)
    (h : inScoreRange binding.value = false) :
    metricWithoutExecution rule artifactId = .error contractFailure := by
  unfold metricWithoutExecution
  rw [hb, orContract_some, ok_bind, thresholdOutcome_out h]
  rfl

theorem metricWithoutExecution_ok (hb : rule.thresholdBinding = some binding)
    (h : inScoreRange binding.value = true) :
    metricWithoutExecution rule artifactId = .ok (if binding.status = .validated then none
      else some ⟨rule.definition.ruleId, inactiveStatus binding.status, [artifactId], none⟩) := by
  unfold metricWithoutExecution
  rw [hb, orContract_some, ok_bind, thresholdOutcome_none h, orContract_some, ok_bind]
  by_cases hv : binding.status = .validated
  · rw [if_pos hv, if_pos hv]
    rfl
  · rw [if_neg hv, if_neg hv]
    rfl

/-- A score of a validated threshold is compared with it. -/
theorem metricResult_ok (hb : rule.thresholdBinding = some binding)
    (hv : binding.status = .validated) (h : inScoreRange binding.value = true) (score : Score) :
    metricResult rule artifactId score.val = .ok
      ⟨rule.definition.ruleId, scoreStatus binding.value score, [artifactId], some score.val⟩ := by
  have hsame : (canonicalScore score.val).same score.val = true :=
    Binary64.same_iff.mpr (canonicalScore_value score.val)
  unfold metricResult
  rw [hb, orContract_some, ok_bind, hv, thresholdOutcome_score h, orContract_some, ok_bind]
  show (orContract (contract ((canonicalScore score.val).same score.val)) >>= fun _ => _) = _
  rw [hsame]
  rfl

end Thresholds

/-! ### Technical checks -/

theorem L1Implementation.ofValue_value (implementation : L1Implementation) :
    L1Implementation.ofValue implementation.value = some implementation := by
  cases implementation <;> decide

/-- The check that an implementation maps to. -/
def L1Implementation.passes (implementation : L1Implementation) (image : DecodedImage)
    (expected : Nat × Nat) : Bool :=
  match implementation with
  | .decode => true
  | .dimensions => checkDimensionsDecoded image expected = .pass
  | .pixels => checkPixelsDecoded image = .pass
  | .bundle => checkDimensionsDecoded image expected = .pass && checkPixelsDecoded image = .pass

theorem checkDimensionsDecoded_cases (image : DecodedImage) (expected : Nat × Nat) :
    checkDimensionsDecoded image expected = .pass ∨
      checkDimensionsDecoded image expected = .fail := by
  unfold checkDimensionsDecoded
  split
  · exact .inr rfl
  · exact .inl rfl

theorem checkPixelsDecoded_cases (image : DecodedImage) :
    checkPixelsDecoded image = .pass ∨ checkPixelsDecoded image = .fail := by
  unfold checkPixelsDecoded
  split_ifs
  all_goals first | exact .inr rfl | exact .inl rfl

/-- An outcome of level L1 passes exactly when the image decodes and its check
passes. -/
theorem l1Outcome_some (implementation : L1Implementation) (decoded : Option DecodedImage)
    (expected : Nat × Nat) : ∃ outcome,
    l1Outcome implementation.value decoded.isSome
      (decoded.map fun image => checkDimensionsDecoded image expected)
      (decoded.map checkPixelsDecoded) = some outcome ∧
    (outcome.status = .pass ↔ ∃ image, decoded = some image ∧
      implementation.passes image expected = true) := by
  unfold l1Outcome
  rw [L1Implementation.ofValue_value]
  rcases decoded with - | image
  · refine ⟨_, rfl, ?_⟩
    cases implementation <;> simp
  · have hd := checkDimensionsDecoded_cases image expected
    have hp := checkPixelsDecoded_cases image
    simp only [Option.map_some, Option.some.injEq, exists_eq_left', L1Implementation.passes]
    -- both statuses are of two values, and each of the implementations reads them
    generalize checkDimensionsDecoded image expected = dimensions at *
    generalize checkPixelsDecoded image = pixels at *
    rcases hd with rfl | rfl <;> rcases hp with rfl | rfl <;> cases implementation <;>
      exact ⟨_, rfl, by decide⟩

/-! ### Evidence -/

section Evidence

variable {Evidence : Type} {services : Services Evidence}

/-- A cache keeps what the encoder returns. -/
def Coherent (services : Services Evidence) (cache : Cache Evidence) : Prop :=
  ∀ digest value, cache.lookup digest = some value → value = services.encode digest

theorem Coherent.nil : Coherent services [] := by
  intro digest value h
  cases h

theorem Coherent.cons {cache : Cache Evidence} (h : Coherent services cache) (digest : Sha256) :
    Coherent services ((digest, services.encode digest) :: cache) := by
  intro d value hl
  rw [List.lookup_cons] at hl
  by_cases hd : d = digest
  · subst hd
    simpa using hl.symm
  · have hne : (d == digest) = false := beq_eq_false_iff_ne.mpr hd
    rw [hne] at hl
    exact h d value hl

/-- With a coherent cache the evidence is that of the encoder. -/
theorem encodeEvidence_eq {cache : Cache Evidence} (h : Coherent services cache) (digest : Sha256) :
    (encodeEvidence services digest cache).1 = services.encode digest ∧
      Coherent services (encodeEvidence services digest cache).2 := by
  unfold encodeEvidence
  split
  · next value hl => exact ⟨h digest value hl, h⟩
  · exact ⟨rfl, h.cons digest⟩

theorem encodeAll_eq {cache : Cache Evidence} (h : Coherent services cache)
    (digests : List Sha256) :
    (inOrder (encodeEvidence services) digests cache).1 = digests.map services.encode ∧
      Coherent services (inOrder (encodeEvidence services) digests cache).2 := by
  induction digests generalizing cache with
  | nil => exact ⟨rfl, h⟩
  | cons digest digests ih =>
      obtain ⟨hd, hc⟩ := encodeEvidence_eq h digest
      obtain ⟨hds, hcs⟩ := ih hc
      rw [inOrder_cons]
      refine ⟨?_, hcs⟩
      rw [hds, hd, List.map_cons]

end Evidence

/-! ### Styles -/

section Styles

variable {Evidence : Type} {hashBytes : Bytes → Sha256} {services : Services Evidence}

/-- What is resolved for a style reference is its content. -/
def Resolves (hashBytes : Bytes → Sha256) (services : Services Evidence)
    (references : List AssetRef) : Prop :=
  ∀ reference ∈ references, ∀ content, services.styleResolver reference = some content →
    hashBytes content = reference.sha256

theorem resolveStyles_ok {references : List AssetRef}
    (h : Resolves hashBytes services references) :
    resolveStyles hashBytes services references =
      .ok (references.mapM services.styleResolver) := by
  induction references with
  | nil => rfl
  | cons reference references ih =>
      have ih := ih fun r hr => h r (List.mem_cons_of_mem _ hr)
      unfold resolveStyles
      rw [List.mapM_cons]
      cases hc : services.styleResolver reference with
      | none => rfl
      | some content =>
          have hhash := h reference List.mem_cons_self content hc
          simp only [hhash, decide_true, contract_true, orContract_some, ok_bind, ih]
          cases references.mapM services.styleResolver <;> rfl

/-- One content for each reference. -/
theorem zip_sha256 {references : List AssetRef} {contents : List Bytes}
    (h : references.mapM services.styleResolver = some contents) :
    (contents.zip references).map (fun p => p.2.sha256) = references.map (·.sha256) := by
  have hlen : contents.length = references.length := by
    induction references generalizing contents with
    | nil =>
        cases h
        rfl
    | cons reference references ih =>
        rw [List.mapM_cons] at h
        obtain ⟨content, -, h⟩ := bind_some_iff.mp h
        obtain ⟨rest, hrest, h⟩ := bind_some_iff.mp h
        cases h
        rw [List.length_cons, List.length_cons, ih hrest]
  have hsnd : (contents.zip references).map Prod.snd = references :=
    List.map_snd_zip (le_of_eq hlen.symm)
  calc (contents.zip references).map (fun p => p.2.sha256)
      = ((contents.zip references).map Prod.snd).map (·.sha256) := by rw [List.map_map]; rfl
    _ = references.map (·.sha256) := by rw [hsnd]

end Styles

/-! ### Verdicts -/

/-- The score satisfies the operator and the threshold of a binding. -/
def Satisfies (binding : Compiled.ThresholdBinding) (score : Score) : Prop :=
  match binding.operator with
  | .ge => binding.value.value ≤ score.val.value
  | .le => score.val.value ≤ binding.value.value

section Verdicts

variable {Evidence : Type} (hashBytes : Bytes → Sha256) (services : Services Evidence)
  (session : Session) (artifact : GeneratedArtifact hashBytes)

/-- The score of a metric rule, none where its evidence is missing. -/
def scoreOf (rule : Compiled.Rule) : Option Score :=
  match rule.definition.level with
  | .l1 => none
  | .l2 => do
    let _ ← session.styleReferences.mapM services.styleResolver
    let output ← services.encode artifact.ref.sha256
    let references ← session.styleReferences.mapM fun reference => services.encode reference.sha256
    return services.l2Similarity output references
  | .l3 =>
    if rule.metricId = some structureL3Metric then
      services.structureSimilarity rule.verifierPin session.sourceContent artifact.content
    else do
      let output ← services.encode artifact.ref.sha256
      let source ← services.encode session.sourceSha256
      return services.l3Similarity output source

/-- What the gate promises of the result of an applicable rule. -/
structure Verdict (definition : RuleDefinition) (result : RuleResult) : Prop where
  ruleId : result.ruleId = definition.ruleId
  affected : result.affectedArtifactIds = [artifact.ref.artifactId]
  technical : definition.level = .l1 → ∃ implementation : L1Implementation,
    (definition.ruleId, implementation.value) ∈ session.mappings ∧
    (result.status = .pass ↔ ∃ image, services.decodePng artifact.content = some image ∧
      implementation.passes image (finalOutputResolution session.graph) = true)
  measured : definition.level ≠ .l1 → ∃ rule ∈ session.plan.rules, rule.definition = definition ∧
    ∃ binding, rule.thresholdBinding = some binding ∧
    (result.status = .pass ↔ binding.status = .validated ∧
      ∃ score, scoreOf hashBytes services session artifact rule = some score ∧
        Satisfies binding score)

end Verdicts

/-! ### Rounds -/

section Rounds

variable {Evidence : Type} {hashBytes : Bytes → Sha256} {services : Services Evidence}
  {session : Session} {artifact : GeneratedArtifact hashBytes}

/-- The styles of a memo are the resolved ones, its cache that of the encoder. -/
structure Kept (services : Services Evidence) (session : Session) (memo : Memo Evidence) :
    Prop where
  styles : ∀ styles, memo.styles = some styles →
    styles = session.styleReferences.mapM services.styleResolver
  cache : Coherent services memo.cache

/-- The result of an executed rule. -/
def executedResult (rule : Compiled.Rule) (artifactId : ArtifactId)
    (binding : Compiled.ThresholdBinding) : Option Score → RuleResult
  | none => unverifiableResult rule artifactId
  | some score =>
    ⟨rule.definition.ruleId, scoreStatus binding.value score, [artifactId], some score.val⟩

theorem mapM_id_map {f : α → Option β} (xs : List α) : (xs.map f).mapM id = xs.mapM f := by
  induction xs with
  | nil => rfl
  | cons x xs ih => rw [List.map_cons, List.mapM_cons, List.mapM_cons, ih, id_eq]

variable {rule : Compiled.Rule} {binding : Compiled.ThresholdBinding}

variable (artifact) in
theorem l2Result_ok (hb : rule.thresholdBinding = some binding) (hv : binding.status = .validated)
    (hr : inScoreRange binding.value = true) (hl : rule.definition.level = .l2)
    {contents : List Bytes}
    (hs : session.styleReferences.mapM services.styleResolver = some contents)
    {cache : Cache Evidence} (hc : Coherent services cache) :
    ∃ cache', Coherent services cache' ∧
      l2Result hashBytes services session artifact rule contents cache =
        .ok (executedResult rule artifact.ref.artifactId binding
          (scoreOf hashBytes services session artifact rule), cache') := by
  obtain ⟨houtput, hc⟩ := encodeEvidence_eq hc artifact.ref.sha256
  obtain ⟨hreferences, hc⟩ := encodeAll_eq hc (session.styleReferences.map (·.sha256))
  refine ⟨_, hc, ?_⟩
  unfold l2Result scoreOf
  simp only [hl, hs, zip_sha256 hs, houtput, hreferences, List.map_map, mapM_id_map,
    Option.bind_eq_bind, Option.bind_some]
  have hcomp : (services.encode ∘ fun reference : AssetRef => reference.sha256) =
      fun reference => services.encode reference.sha256 := rfl
  rw [hcomp]
  cases services.encode artifact.ref.sha256 with
  | none => rfl
  | some output =>
      cases session.styleReferences.mapM fun reference => services.encode reference.sha256 with
      | none => rfl
      | some references =>
          simp only [metricResult_ok hb hv hr, ok_bind]
          rfl

variable (artifact) in
theorem l3Result_ok (hb : rule.thresholdBinding = some binding) (hv : binding.status = .validated)
    (hr : inScoreRange binding.value = true) (hl : rule.definition.level = .l3)
    {cache : Cache Evidence} (hc : Coherent services cache) :
    ∃ cache', Coherent services cache' ∧
      l3Result hashBytes services session artifact rule cache =
        .ok (executedResult rule artifact.ref.artifactId binding
          (scoreOf hashBytes services session artifact rule), cache') := by
  unfold l3Result scoreOf
  simp only [hl]
  by_cases hm : rule.metricId = some structureL3Metric
  · refine ⟨cache, hc, ?_⟩
    rw [if_pos hm, if_pos hm]
    cases services.structureSimilarity rule.verifierPin session.sourceContent artifact.content with
    | none => rfl
    | some score =>
        simp only [metricResult_ok hb hv hr, ok_bind]
        rfl
  · obtain ⟨houtput, hc⟩ := encodeEvidence_eq hc artifact.ref.sha256
    obtain ⟨hsource, hc⟩ := encodeEvidence_eq hc session.sourceSha256
    refine ⟨_, hc, ?_⟩
    rw [if_neg hm, if_neg hm]
    simp only [houtput, hsource]
    cases services.encode artifact.ref.sha256 with
    | none => rfl
    | some output =>
        cases services.encode session.sourceSha256 with
        | none => rfl
        | some source =>
            simp only [metricResult_ok hb hv hr, ok_bind]
            rfl

theorem evaluateL2_ok (hb : rule.thresholdBinding = some binding)
    (hv : binding.status = .validated) (hr : inScoreRange binding.value = true)
    (hl : rule.definition.level = .l2) (hres : Resolves hashBytes services session.styleReferences)
    {memo : Memo Evidence} (hmemo : Kept services session memo) :
    ∃ memo', Kept services session memo' ∧
      evaluateL2 hashBytes services session artifact rule memo =
        .ok (executedResult rule artifact.ref.artifactId binding
          (scoreOf hashBytes services session artifact rule), memo') := by
  have hstyles : memoStyles hashBytes services session memo =
      .ok (session.styleReferences.mapM services.styleResolver) := by
    unfold memoStyles
    cases hm : memo.styles with
    | none => exact resolveStyles_ok hres
    | some styles => rw [hmemo.styles styles hm]
  unfold evaluateL2
  rw [hstyles, ok_bind]
  cases hs : session.styleReferences.mapM services.styleResolver with
  | none =>
      refine ⟨⟨some none, memo.cache⟩, ⟨fun styles h => ?_, hmemo.cache⟩, ?_⟩
      · rw [← Option.some.inj h, hs]
      · unfold scoreOf
        simp only [hl, hs]
        rfl
  | some contents =>
      obtain ⟨cache, hc, hresult⟩ := l2Result_ok artifact hb hv hr hl hs hmemo.cache
      refine ⟨⟨some (some contents), cache⟩, ⟨fun styles h => ?_, hc⟩, ?_⟩
      · rw [← Option.some.inj h, hs]
      · simp only [hresult, ok_bind]
        rfl

/-- An executed rule passes exactly when its score reaches the threshold. -/
theorem executedResult_pass {artifactId : ArtifactId} {score : Option Score} :
    (executedResult rule artifactId binding score).status = .pass ↔
      ∃ s, score = some s ∧ binding.value.value ≤ s.val.value := by
  cases score with
  | none => simp [executedResult, unverifiableResult]
  | some s =>
      simp only [executedResult, scoreStatus, Option.some.injEq, exists_eq_left']
      split
      · next h => simp [h]
      · next h => simp [h]

end Rounds

/-! ### One round -/

/-- The threshold of a rule of level L2 is at most one. -/
def BoundedRule (rule : Compiled.Rule) : Prop :=
  rule.definition.level = .l2 → ∀ binding, rule.thresholdBinding = some binding →
    binding.value.value ≤ Binary64.one.value

theorem one_value_nonneg : 0 ≤ Binary64.one.value := by
  decide +kernel

/-- A metric rule is bound; its threshold is in range when it is bounded, and
when it is validated it is a similarity. -/
theorem Admitted.bound {mappings : Mappings} {rule : Compiled.Rule} (h : Admitted mappings rule)
    (hl : rule.definition.level ≠ .l1) : ∃ binding, rule.thresholdBinding = some binding ∧
      (BoundedRule rule → inScoreRange binding.value = true) ∧
      (binding.status = .validated → binding.operator = .ge) := by
  cases hlevel : rule.definition.level with
  | l1 => exact absurd hlevel hl
  | l2 =>
      obtain ⟨binding, hb, hsim | ⟨-, hpos, hdraft⟩⟩ := h.style hlevel
      · exact ⟨binding, hb, fun _ => hsim.2, fun _ => hsim.1⟩
      · refine ⟨binding, hb, fun hbounded => ?_, fun hv => ?_⟩
        · have hone := one_value_nonneg
          have hle := hbounded hlevel binding hb
          unfold inScoreRange
          rw [Bool.and_eq_true, decide_eq_true_eq, decide_eq_true_eq]
          exact ⟨by omega, hle⟩
        · rw [hdraft] at hv
          cases hv
  | l3 =>
      obtain ⟨binding, hb, hsim⟩ := h.domain hlevel
      exact ⟨binding, hb, fun _ => hsim.2, fun _ => hsim.1⟩

/-- A rule that is not bounded has its threshold out of range. -/
theorem unbounded_out {rule : Compiled.Rule} (hn : ¬ BoundedRule rule) :
    rule.definition.level = .l2 ∧ ∃ binding, rule.thresholdBinding = some binding ∧
      inScoreRange binding.value = false := by
  unfold BoundedRule at hn
  push Not at hn
  obtain ⟨hl, binding, hb, hlt⟩ := hn
  refine ⟨hl, binding, hb, ?_⟩
  unfold inScoreRange
  rw [decide_eq_false (not_le.mpr hlt), Bool.and_false]

section Run

variable {Evidence : Type} {hashBytes : Bytes → Sha256} {services : Services Evidence}
  {session : Session} {artifact : GeneratedArtifact hashBytes}

/-- The results of level L1, one for each mapped rule. -/
def Technical (services : Services Evidence) (session : Session)
    (artifact : GeneratedArtifact hashBytes) (mappings : Mappings)
    (l1 : List (RuleId × RuleResult)) : Prop :=
  ∀ ruleId ∈ mappings.map Prod.fst, ∃ result, l1.lookup ruleId = some result ∧
    result.ruleId = ruleId ∧ result.affectedArtifactIds = [artifact.ref.artifactId] ∧
    ∃ implementation : L1Implementation, (ruleId, implementation.value) ∈ mappings ∧
      (result.status = .pass ↔ ∃ image, services.decodePng artifact.content = some image ∧
        implementation.passes image (finalOutputResolution session.graph) = true)

/-- Every implementation of the registry is one. -/
theorem l1RuleRegistry_values : ∀ p ∈ l1RuleRegistry, ∃ implementation : L1Implementation,
    p.2 = implementation.value := by
  intro p hp
  simp only [l1RuleRegistry, List.mem_cons, List.not_mem_nil, or_false] at hp
  rcases hp with rfl | rfl | rfl | rfl
  · exact ⟨.bundle, rfl⟩
  · exact ⟨.decode, rfl⟩
  · exact ⟨.dimensions, rfl⟩
  · exact ⟨.pixels, rfl⟩

/-- The loop of `_l1_results` over mappings to implementations. -/
theorem technical_of_mappings (mappings : Mappings) (h : ∀ p ∈ mappings,
    ∃ implementation : L1Implementation, p.2 = implementation.value) :
    ∃ l1, l1Results hashBytes services { session with mappings := mappings } artifact = .ok l1 ∧
      Technical services session artifact mappings l1 := by
  induction mappings with
  | nil =>
      refine ⟨[], rfl, fun ruleId hr => ?_⟩
      cases hr
  | cons p mappings ih =>
      obtain ⟨rest, hrest, htechnical⟩ := ih fun q hq => h q (List.mem_cons_of_mem _ hq)
      obtain ⟨implementation, himpl⟩ := h p List.mem_cons_self
      obtain ⟨ruleId, text⟩ := p
      simp only at himpl
      subst himpl
      obtain ⟨outcome, houtcome, hpass⟩ := l1Outcome_some implementation
        (services.decodePng artifact.content) (finalOutputResolution session.graph)
      unfold l1Results at hrest ⊢
      rw [List.mapM_cons, hrest]
      simp only [houtcome, orContract_some, ok_bind]
      refine ⟨_, rfl, fun id hid => ?_⟩
      by_cases he : id = ruleId
      · subst he
        exact ⟨_, List.lookup_cons_self, rfl, rfl, implementation, List.mem_cons_self, hpass⟩
      · have hid : id ∈ mappings.map Prod.fst := by
          rw [List.map_cons, List.mem_cons] at hid
          exact hid.resolve_left he
        obtain ⟨result, hl, hr, ha, impl, hm, hp⟩ := htechnical id hid
        refine ⟨result, ?_, hr, ha, impl, List.mem_cons_of_mem _ hm, hp⟩
        rw [List.lookup_cons, beq_eq_false_iff_ne.mpr he]
        exact hl

variable {rule : Compiled.Rule} {l1 : List (RuleId × RuleResult)} {memo : Memo Evidence}

/-- What the loop knows of a definition of its list. -/
structure Evaluable (session : Session) (definition : RuleDefinition) (rule : Compiled.Rule) :
    Prop where
  found : ruleOf session.plan definition.ruleId = some rule
  mem : rule ∈ session.plan.rules
  definition_eq : rule.definition = definition
  admitted : Admitted session.mappings rule

/-- A round with a threshold in range has the result of its rule. -/
theorem evaluateRule_ok (hres : Resolves hashBytes services session.styleReferences)
    (hl1 : Technical services session artifact session.mappings l1)
    (hmemo : Kept services session memo) {definition : RuleDefinition}
    (h : Evaluable session definition rule) (hbounded : BoundedRule rule) :
    ∃ result memo', evaluateRule hashBytes services session artifact l1 definition memo =
        .ok (result, memo') ∧ Kept services session memo' ∧
      Verdict hashBytes services session artifact definition result := by
  obtain ⟨hfound, hmem, rfl, hadm⟩ := h
  unfold evaluateRule
  rw [hfound, orKey_some, ok_bind]
  by_cases htech : rule.definition.level = .l1
  · obtain ⟨result, hlookup, hid, haff, hpass⟩ := hl1 _ (hadm.technical htech)
    refine ⟨result, memo, ?_, hmemo, hid, haff, fun _ => hpass, fun hn => absurd htech hn⟩
    rw [if_pos htech, hlookup]
    rfl
  · obtain ⟨binding, hb, hrange, hge⟩ := hadm.bound htech
    have hr := hrange hbounded
    rw [if_neg htech, metricWithoutExecution_ok hb hr, ok_bind]
    by_cases hv : binding.status = .validated
    · -- the rule is executed, on its own level
      rw [if_pos hv]
      have hverdict : Verdict hashBytes services session artifact rule.definition
          (executedResult rule artifact.ref.artifactId binding
            (scoreOf hashBytes services session artifact rule)) := by
        refine ⟨?_, ?_, fun hn => absurd hn htech, fun _ => ?_⟩
        · cases scoreOf hashBytes services session artifact rule <;> rfl
        · cases scoreOf hashBytes services session artifact rule <;> rfl
        · refine ⟨rule, hmem, rfl, binding, hb, ?_⟩
          rw [executedResult_pass]
          constructor
          · rintro ⟨score, hs, hle⟩
            refine ⟨hv, score, hs, ?_⟩
            unfold Satisfies
            rw [hge hv]
            exact hle
          · rintro ⟨-, score, hs, hsat⟩
            refine ⟨score, hs, ?_⟩
            unfold Satisfies at hsat
            rw [hge hv] at hsat
            exact hsat
      by_cases hl2 : rule.definition.level = .l2
      · obtain ⟨memo', hkept, hresult⟩ := evaluateL2_ok hb hv hr hl2 hres hmemo
        refine ⟨_, memo', ?_, hkept, hverdict⟩
        dsimp only
        rw [if_pos hl2]
        exact hresult
      · have hl3 : rule.definition.level = .l3 := by
          cases hl : rule.definition.level with
          | l1 => exact absurd hl htech
          | l2 => exact absurd hl hl2
          | l3 => rfl
        obtain ⟨cache, hc, hresult⟩ := l3Result_ok artifact hb hv hr hl3 hmemo.cache
        refine ⟨_, { memo with cache := cache }, ?_, ⟨hmemo.styles, hc⟩, hverdict⟩
        dsimp only
        rw [if_neg hl2, hresult, ok_bind]
        rfl
    · rw [if_neg hv]
      refine ⟨_, memo, rfl, hmemo, rfl, rfl, fun hn => absurd hn htech, fun _ => ?_⟩
      refine ⟨rule, hmem, rfl, binding, hb, fun hpass => ?_, fun hp => absurd hp.1 hv⟩
      -- neither status of an inactive rule is a pass
      simp only [inactiveStatus] at hpass
      split_ifs at hpass

/-- A round with a threshold out of range breaks the contract. -/
theorem evaluateRule_error {definition : RuleDefinition} (h : Evaluable session definition rule)
    (hn : ¬ BoundedRule rule) :
    evaluateRule hashBytes services session artifact l1 definition memo =
      .error contractFailure := by
  obtain ⟨hfound, -, rfl, -⟩ := h
  obtain ⟨hl, binding, hb, hout⟩ := unbounded_out hn
  unfold evaluateRule
  rw [hfound, orKey_some, ok_bind, if_neg (by rw [hl]; simp), metricWithoutExecution_error hb hout]
  rfl

/-! ### The run -/

theorem evaluateLoop_ok (hres : Resolves hashBytes services session.styleReferences)
    (hl1 : Technical services session artifact session.mappings l1)
    {definitions : List RuleDefinition}
    (h : ∀ d ∈ definitions, ∃ rule, Evaluable session d rule ∧ BoundedRule rule)
    (hmemo : Kept services session memo) :
    ∃ results, evaluateLoop hashBytes services session artifact l1 definitions memo = .ok results ∧
      List.Forall₂ (Verdict hashBytes services session artifact) definitions results := by
  induction definitions generalizing memo with
  | nil => exact ⟨[], rfl, List.Forall₂.nil⟩
  | cons d ds ih =>
      obtain ⟨rule, he, hb⟩ := h d List.mem_cons_self
      obtain ⟨result, memo', hround, hkept, hverdict⟩ := evaluateRule_ok hres hl1 hmemo he hb
      obtain ⟨results, hrest, hall⟩ := ih (fun d hd => h d (List.mem_cons_of_mem _ hd)) hkept
      refine ⟨result :: results, ?_, List.Forall₂.cons hverdict hall⟩
      unfold evaluateLoop
      simp only [hround, ok_bind, hrest]
      rfl

theorem evaluateLoop_error (hres : Resolves hashBytes services session.styleReferences)
    (hl1 : Technical services session artifact session.mappings l1)
    {definitions : List RuleDefinition}
    (h : ∀ d ∈ definitions, ∃ rule, Evaluable session d rule)
    (hn : ∃ d ∈ definitions, ∃ rule, Evaluable session d rule ∧ ¬ BoundedRule rule)
    (hmemo : Kept services session memo) :
    evaluateLoop hashBytes services session artifact l1 definitions memo =
      .error contractFailure := by
  induction definitions generalizing memo with
  | nil =>
      obtain ⟨d, hd, -⟩ := hn
      cases hd
  | cons d ds ih =>
      obtain ⟨rule, he⟩ := h d List.mem_cons_self
      unfold evaluateLoop
      by_cases hb : BoundedRule rule
      · obtain ⟨result, memo', hround, hkept, -⟩ := evaluateRule_ok hres hl1 hmemo he hb
        have hn : ∃ d ∈ ds, ∃ rule, Evaluable session d rule ∧ ¬ BoundedRule rule := by
          obtain ⟨d', hd, rule', he', hb'⟩ := hn
          rcases List.mem_cons.mp hd with rfl | hd
          · have hsame : rule' = rule := Option.some.inj (he'.found.symm.trans he.found)
            rw [hsame] at hb'
            exact absurd hb hb'
          · exact ⟨d', hd, rule', he', hb'⟩
        have hrest := ih (fun d hd => h d (List.mem_cons_of_mem _ hd)) hn hkept
        simp only [hround, ok_bind, hrest]
        rfl
      · rw [evaluateRule_error he hb]
        rfl

end Run

/-! ### The definitions of a plan -/

theorem plan_ids_nodup (plan : Compiled.VerificationPlan) :
    (plan.rules.map (·.definition.ruleId)).Nodup := by
  have h := plan.valid
  unfold Compiled.checkPlan at h
  obtain ⟨-, h⟩ := check_ok_iff.mp h
  obtain ⟨hids, -⟩ := check_ok_iff.mp h
  rwa [ensure_ok_iff, decide_eq_true_eq] at hids

theorem mem_applicable {plan : Compiled.VerificationPlan} {d : RuleDefinition} :
    d ∈ applicableRuleDefinitions plan ↔
      ∃ rule ∈ plan.rules, rule.applicable = true ∧ rule.definition = d := by
  unfold applicableRuleDefinitions
  rw [List.mem_insertionSort, List.mem_map]
  constructor
  · rintro ⟨rule, hr, hd⟩
    obtain ⟨hmem, happ⟩ := List.mem_filter.mp hr
    exact ⟨rule, hmem, happ, hd⟩
  · rintro ⟨rule, hmem, happ, hd⟩
    exact ⟨rule, List.mem_filter.mpr ⟨hmem, happ⟩, hd⟩

theorem applicable_nodup (plan : Compiled.VerificationPlan) :
    ((applicableRuleDefinitions plan).map (·.ruleId)).Nodup := by
  have hperm := List.perm_insertionSort
    (fun a b : RuleDefinition => a.ruleId.value ≤ b.ruleId.value)
    ((plan.rules.filter (·.applicable)).map (·.definition))
  unfold applicableRuleDefinitions
  rw [(hperm.map (·.ruleId)).nodup_iff, List.map_map]
  exact (List.filter_sublist.map _).nodup (plan_ids_nodup plan)

/-- The rule of a plan is found by its id. -/
theorem ruleOf_self {plan : Compiled.VerificationPlan} {rule : Compiled.Rule}
    (h : rule ∈ plan.rules) : ruleOf plan rule.definition.ruleId = some rule := by
  unfold ruleOf
  cases hf : plan.rules.find? fun r => r.definition.ruleId = rule.definition.ruleId with
  | none =>
      have hno := List.find?_eq_none.mp hf rule h
      simp at hno
  | some r =>
      have hmem := List.mem_of_find?_eq_some hf
      have hid : r.definition.ruleId = rule.definition.ruleId := by simpa using List.find?_some hf
      rw [List.inj_on_of_nodup_map (plan_ids_nodup plan) hmem h hid]

/-! ### The report -/

/-- Results of unique ids: of each there is one. -/
theorem resultsOf_single {results : List RuleResult} (hu : (results.map (·.ruleId)).Nodup)
    {result : RuleResult} (h : result ∈ results) : resultsOf results result.ruleId = [result] := by
  induction results with
  | nil => cases h
  | cons r rs ih =>
      rw [List.map_cons, List.nodup_cons] at hu
      obtain ⟨hr, hu⟩ := hu
      unfold resultsOf
      rcases List.mem_cons.mp h with rfl | h
      · rw [List.filter_cons_of_pos (by simp), List.filter_eq_nil_iff.mpr]
        intro s hs hid
        apply hr
        rw [← of_decide_eq_true hid]
        exact List.mem_map_of_mem hs
      · rw [List.filter_cons_of_neg, ← ih hu h]
        · rfl
        · intro hid
          apply hr
          rw [of_decide_eq_true hid]
          exact List.mem_map_of_mem h

/-- One result for each rule, each of the one artifact, is a valid report. -/
theorem validateReport_of_single {reference : ArtifactRef} {rules : List RuleDefinition}
    {results : List RuleResult} (hu : (rules.map (·.ruleId)).Nodup)
    (happ : ∀ d ∈ rules, d.applicability = .applicable)
    (h : List.Forall₂ (fun d r => r.ruleId = d.ruleId ∧
      r.affectedArtifactIds = [reference.artifactId]) rules results) :
    validateReport [reference] rules results = .ok () := by
  have hids : results.map (·.ruleId) = rules.map (·.ruleId) := by
    clear hu happ
    induction h with
    | nil => rfl
    | cons hd _ ih => rw [List.map_cons, List.map_cons, ih, hd.1]
  have hu' : (results.map (·.ruleId)).Nodup := by rwa [hids]
  have hown : ∀ d ∈ rules, ∃ r ∈ results, r.ruleId = d.ruleId ∧
      r.affectedArtifactIds = [reference.artifactId] := by
    clear hu happ hids hu'
    intro d hd
    induction h with
    | nil => cases hd
    | cons hr _ ih =>
        rcases List.mem_cons.mp hd with rfl | hd
        · exact ⟨_, List.mem_cons_self, hr⟩
        · obtain ⟨r, hmem, hr⟩ := ih hd
          exact ⟨r, List.mem_cons_of_mem _ hmem, hr⟩
  rw [validateReport_ok_iff]
  refine ⟨List.cons_ne_nil _ _, List.nodup_singleton _, hu, fun result hr => ?_, fun d hd => ?_⟩
  · have hmem : result.ruleId ∈ rules.map (·.ruleId) := by
      rw [← hids]
      exact List.mem_map_of_mem hr
    obtain ⟨d, hd, hid⟩ := List.mem_map.mp hmem
    refine ⟨d, ?_, happ d hd, fun id hmem => ?_⟩
    · rw [← hid]
      exact ruleById_self hu hd
    · obtain ⟨r, hr', hid', haff⟩ := hown d hd
      have hsame : r = result := List.inj_on_of_nodup_map hu' hr' hr (hid'.trans hid)
      subst hsame
      rw [haff] at hmem
      exact hmem
  · obtain ⟨r, hr, hid, haff⟩ := hown d hd
    have hone := resultsOf_single hu' hr
    rw [hid] at hone
    unfold validateCoverage
    simp only [hone, happ d hd]
    -- one artifact is covered alike by an item rule and by a batch rule
    cases d.scope with
    | item =>
        rw [check_ok_iff, ensure_ok_iff, ensure_ok_iff]
        simp [coversItems, haff]
    | batch =>
        rw [ensure_ok_iff]
        simp [haff]

/-! ### The gate -/

/-- The thresholds of the applicable rules of level L2 are at most one. -/
def BoundedL2 (plan : Compiled.VerificationPlan) : Prop :=
  ∀ rule ∈ plan.rules, rule.applicable = true → BoundedRule rule

section Gate

variable {Evidence : Type} {hashBytes : Bytes → Sha256} {services : Services Evidence}
  {session : Session} {artifact : GeneratedArtifact hashBytes}

/-- The session of an accepted plan: its mappings are the registry, and every
applicable rule is admitted. -/
structure Accepted (session : Session) : Prop where
  registry : session.mappings = l1RuleRegistry
  admitted : ∀ rule ∈ session.plan.rules, rule.applicable = true → Admitted session.mappings rule

theorem Accepted.evaluable (h : Accepted session) {d : RuleDefinition}
    (hd : d ∈ applicableRuleDefinitions session.plan) : ∃ rule ∈ session.plan.rules,
      rule.applicable = true ∧ Evaluable session d rule := by
  obtain ⟨rule, hr, happ, rfl⟩ := mem_applicable.mp hd
  exact ⟨rule, hr, happ, ruleOf_self hr, hr, rfl, h.admitted rule hr happ⟩

theorem Accepted.technical (h : Accepted session) :
    ∃ l1, l1Results hashBytes services session artifact = .ok l1 ∧
      Technical services session artifact session.mappings l1 := by
  apply technical_of_mappings
  rw [h.registry]
  exact l1RuleRegistry_values

theorem Kept.start : Kept services session ⟨none, []⟩ where
  styles := by
    intro styles hs
    cases hs
  cache := Coherent.nil

theorem evaluateRules_ok (h : Accepted session)
    (hres : Resolves hashBytes services session.styleReferences) (hb : BoundedL2 session.plan) :
    ∃ results, evaluateRules hashBytes services session artifact = .ok results ∧
      List.Forall₂ (Verdict hashBytes services session artifact)
        (applicableRuleDefinitions session.plan) results ∧
      validateReport [artifact.ref] (applicableRuleDefinitions session.plan) results = .ok () := by
  obtain ⟨l1, hl1, htechnical⟩ : ∃ l1, l1Results hashBytes services session artifact = .ok l1 ∧
    Technical services session artifact session.mappings l1 := h.technical
  have heval : ∀ d ∈ applicableRuleDefinitions session.plan, ∃ rule,
      Evaluable session d rule ∧ BoundedRule rule := by
    intro d hd
    obtain ⟨rule, hr, happ, he⟩ := h.evaluable hd
    exact ⟨rule, he, hb rule hr happ⟩
  obtain ⟨results, hresults, hall⟩ := evaluateLoop_ok hres htechnical heval Kept.start
  refine ⟨results, ?_, hall, ?_⟩
  · unfold evaluateRules
    rw [hl1, ok_bind]
    exact hresults
  · apply validateReport_of_single (applicable_nodup session.plan)
    · intro d hd
      obtain ⟨rule, -, happ, rfl⟩ := mem_applicable.mp hd
      exact of_decide_eq_true happ
    · exact hall.imp fun d r hv => ⟨hv.ruleId, hv.affected⟩

theorem evaluateRules_error (h : Accepted session)
    (hres : Resolves hashBytes services session.styleReferences)
    (hn : ¬ BoundedL2 session.plan) :
    evaluateRules hashBytes services session artifact = .error contractFailure := by
  obtain ⟨l1, hl1, htechnical⟩ : ∃ l1, l1Results hashBytes services session artifact = .ok l1 ∧
    Technical services session artifact session.mappings l1 := h.technical
  unfold BoundedL2 at hn
  push Not at hn
  obtain ⟨rule, hr, happ, hb⟩ := hn
  have hmem : rule.definition ∈ applicableRuleDefinitions session.plan :=
    mem_applicable.mpr ⟨rule, hr, happ, rfl⟩
  have heval : ∀ d ∈ applicableRuleDefinitions session.plan, ∃ rule, Evaluable session d rule := by
    intro d hd
    obtain ⟨r, -, -, he⟩ := h.evaluable hd
    exact ⟨r, he⟩
  have hout : Evaluable session rule.definition rule :=
    ⟨ruleOf_self hr, hr, rfl, h.admitted rule hr happ⟩
  unfold evaluateRules
  rw [hl1, ok_bind]
  exact evaluateLoop_error hres htechnical heval ⟨_, hmem, rule, hout, hb⟩ Kept.start

end Gate

/-- Of every accepted plan, artifact, resolved styles and outcomes of the
services: exactly when the thresholds of level L2 are at most one, the
evaluation returns one result per applicable rule, in order, each with its
verdict, and these make a valid report; else it raises the error of a broken
contract. -/
theorem verifier_gate_iff {Evidence : Type} {pydantic : Spec.Pydantic}
    {hashBytes : Bytes → Sha256}
    {services : Services Evidence} {session : Session} {artifact : GeneratedArtifact hashBytes}
    {binding : LoadedBinding} {compiled independent : Compiled.StyleSpec}
    {generationProfile : GenerationProfile} {outputProfile : OutputProfile}
    {environmentHash : Sha256} {plan : Compiled.VerificationPlan} {context : CompilerContext}
    {structurePin : Option (Option ResourcePin)}
    (h : validateProductionBinding pydantic hashBytes binding compiled generationProfile
      outputProfile environmentHash session.graph plan context session.mappings structurePin =
        some (independent, session.plan))
    (hres : Resolves hashBytes services session.styleReferences) :
    ((∃ results, evaluateRules hashBytes services session artifact = .ok results ∧
        List.Forall₂ (Verdict hashBytes services session artifact)
          (applicableRuleDefinitions session.plan) results ∧
        validateReport [artifact.ref] (applicableRuleDefinitions session.plan) results = .ok ()) ↔
      BoundedL2 session.plan) ∧
    (¬ BoundedL2 session.plan →
      evaluateRules hashBytes services session artifact = .error contractFailure) := by
  obtain ⟨hregistry, hadmitted⟩ := validateRuleBindings_some (validateProductionBinding_some h)
  have haccepted : Accepted session := ⟨hregistry, hadmitted⟩
  refine ⟨⟨fun hok => ?_, evaluateRules_ok haccepted hres⟩, evaluateRules_error haccepted hres⟩
  by_contra hn
  obtain ⟨results, hresults, -⟩ := hok
  rw [evaluateRules_error haccepted hres hn] at hresults
  cases hresults

/-! ### A batch distance above one -/

namespace BatchDistance

open Compiler.RequiredFidelity

/-- A specification of one background sequence, with the adapter as encoder. -/
def backgroundSpec : Spec.StyleSpecV1 :=
  { spec with
    domain := ⟨.productInstance, some (text "v1"), false⟩
    outputs := ⟨⟨[.backgroundSequence], by decide⟩⟩
    verification := ⟨text "rules-1", gateDefaults,
      ⟨text "adapter", text "r1", text "p1",
        ⟨Id.lit .identifier "l2-profile", text "r1", sampleHash⟩⟩, none⟩ }

theorem unmeasured : ThresholdSource.none = .none ↔ (none : Option Identifier) = none := by decide

theorem measured (metricId : Identifier) :
    ThresholdSource.l2 = .none ↔ some metricId = Option.none := by simp

theorem technical_scope : ∀ s ∈ RuleKind.l1Technical.scope?, RuleScope.item = s := by decide

theorem technical_source : (ThresholdSource.none = .l2 → RuleKind.l1Technical.level = .l2) ∧
    (ThresholdSource.none = .l3 → RuleKind.l1Technical.level = .l3) := by decide

theorem style_scope : ∀ s ∈ RuleKind.l2StyleFidelity.scope?, RuleScope.item = s := by decide

theorem style_source : (ThresholdSource.l2 = .l2 → RuleKind.l2StyleFidelity.level = .l2) ∧
    (ThresholdSource.l2 = .l3 → RuleKind.l2StyleFidelity.level = .l3) := by decide

theorem batch_scope : ∀ s ∈ RuleKind.l2BatchConsistency.scope?, RuleScope.batch = s := by decide

theorem batch_source : (ThresholdSource.l2 = .l2 → RuleKind.l2BatchConsistency.level = .l2) ∧
    (ThresholdSource.l2 = .l3 → RuleKind.l2BatchConsistency.level = .l3) := by decide

def technicalRule (id : String) : RuleCapability :=
  { rule id .l1Technical .item .alwaysRequired .none none unmeasured technical_scope
      technical_source with
    supportedOutputProfiles := [.backgroundSequence] }

def backgroundRules : List RuleCapability :=
  [technicalRule "l1_bundle", technicalRule "l1_decode", technicalRule "l1_dimensions",
    technicalRule "l1_pixels",
    { rule "STYLE" .l2StyleFidelity .item .alwaysAdvisory .l2 (some l2Metric) (measured l2Metric)
        style_scope style_source with supportedOutputProfiles := [.backgroundSequence] },
    { rule "BATCH" .l2BatchConsistency .batch .alwaysAdvisory .l2 (some l2BatchMetric)
        (measured l2BatchMetric) batch_scope batch_source with
      supportedOutputProfiles := [.backgroundSequence] }]

/-- The threshold `1.5` or `1.0` of the batch rule. -/
def distance (wide : Bool) : Binary64 := if wide then ⟨false, 3 * 2 ^ 1073⟩ else .one

def draftThreshold (wide : Bool) : ThresholdProfileCapability :=
  ⟨pin "l2-profile", py "l2-profile", .l2, .draft, Id.lit .identifier "preset-1",
    .productInstance, some (pin "adapter"), none,
    [⟨l2Metric, .ge, .zero⟩, ⟨l2BatchMetric, .le, distance wide⟩], sampleHash, sampleHash,
    sampleHash, none, by decide, by cases wide <;> decide⟩

def backgroundContext (wide : Bool) : CompilerContext :=
  { capabilities false with
    encoderCapabilities := [⟨pin "adapter", py "p1", py "hidden_states[-2]",
      py "median_cosine_patch_mean_std_v1", [sampleHash]⟩]
    outputProfileCapabilities :=
      [⟨pin "output", .backgroundSequence, [.productInstance], [.preview, .production], none⟩]
    ruleCatalogs := [⟨py "rules-1", pin "catalog", backgroundRules, by decide⟩]
    thresholdProfiles := [draftThreshold wide]
    l3Plugins := [] }

def loaded : LoadedBinding :=
  ⟨sampleHash, (py "6.0", py "2.4", py "0.30", py "float16"), {}, pin "base", pin "adapter",
    pin "canny", pin "adapter", py "p1", py "hidden_states[-2]"⟩

/-- A threshold above one in a plan. -/
def hasWide (plan : Compiled.VerificationPlan) : Bool :=
  plan.rules.any fun rule => rule.applicable && rule.definition.level = .l2 &&
    rule.thresholdBinding.any fun binding => Binary64.one.value < binding.value.value

theorem hasWide_iff {plan : Compiled.VerificationPlan} :
    hasWide plan = false ↔ BoundedL2 plan := by
  unfold hasWide BoundedL2 BoundedRule
  simp only [List.any_eq_false, Bool.and_eq_true, decide_eq_true_eq, Option.any_eq_true,
    not_and, not_exists, not_lt]
  constructor
  · intro h rule hr happ hl binding hb
    exact h rule hr ⟨happ, hl⟩ binding hb
  · rintro h rule hr ⟨happ, hl⟩ binding hb
    exact h rule hr happ hl binding hb

/-- The parts of the specification are bound to the loaded pipeline. -/
def binds (wide : Bool) (ps : Compiled.StyleSpecParts) : Bool :=
  match ps.productionGraphs, ps.verificationPlans with
  | [graph], [plan] =>
    let compiled : Compiled.StyleSpec := ⟨ps, sampleHash⟩
    validateIndependent loaded compiled .production .backgroundSequence sampleHash graph plan
      (backgroundContext wide) l1RuleRegistry (some (some (pin "structure"))) compiled =
        some plan && hasWide plan = wide
  | _, _ => false

theorem sourceSnapshot_self {pydantic : Spec.Pydantic} (hpydantic : pydantic.Documented)
    (source : Spec.StyleSpec) : sourceSnapshot pydantic source = some source := by
  unfold sourceSnapshot
  rw [hpydantic.modelDump]
  cases source with
  | v1 s =>
      show (pydantic.styleSpecV1 (Spec.styleSpecV1.dump s).tuples).map _ = _
      rw [hpydantic.styleSpecV1, Option.map_some]
  | v11 s =>
      show (pydantic.styleSpecV11 (Spec.styleSpecV11.dump s).tuples).map _ = _
      rw [hpydantic.styleSpecV11, Option.map_some]

/-- The hash of one digest for all texts. -/
theorem compile_sampleHash {raw : Spec.StyleSpec} {context : CompilerContext}
    {compiled : Compiled.StyleSpec}
    (h : Compiler.compileStyleSpec (fun _ => sampleHash) raw context = .ok compiled) :
    compiled = ⟨compiled.toStyleSpecParts, sampleHash⟩ := by
  unfold Compiler.compileStyleSpec Compiled.StyleSpec.new at h
  obtain ⟨ps, -, h⟩ := bind_ok_iff.mp h
  obtain ⟨-, h⟩ := check_ok_iff.mp h
  obtain ⟨-, h⟩ := check_ok_iff.mp h
  obtain ⟨-, h⟩ := check_ok_iff.mp h
  obtain ⟨hash, hh, h⟩ := bind_ok_iff.mp h
  cases h
  unfold Compiled.canonicalHash at hh
  split at hh
  · cases hh
    rfl
  · cases hh

/-- The plan of the specification is accepted with either threshold. -/
theorem accepted_plan (wide : Bool) : ∃ compiled graph plan,
    validateProductionBinding .declared (fun _ => sampleHash) loaded compiled .production
      .backgroundSequence sampleHash graph plan (backgroundContext wide) l1RuleRegistry
      (some (some (pin "structure"))) = some (compiled, plan) ∧ hasWide plan = wide := by
  have hacceptable : ((Compiler.parts (.v1 backgroundSpec) (backgroundContext wide)).toOption.any
      fun ps => ps.acceptable) = true := by
    simp only [Compiled.StyleSpecParts.acceptable, Compiled.resolved_clean, Primitive.clean_graph,
      Primitive.clean_plan, Primitive.clean_encoder, Primitive.clean_runtime, Primitive.clean_rule,
      Primitive.clean_binding]
    cases wide <;> decide +kernel
  have hbinds : ((Compiler.parts (.v1 backgroundSpec) (backgroundContext wide)).toOption.any
      (binds wide)) = true := by
    cases wide <;> decide +kernel
  cases hp : Compiler.parts (.v1 backgroundSpec) (backgroundContext wide) with
  | error e =>
      rw [hp] at hbinds
      cases hbinds
  | ok ps =>
      rw [hp] at hacceptable hbinds
      simp only [Except.toOption, Option.any_some] at hacceptable hbinds
      obtain ⟨compiled, hcompiled, hparts⟩ :=
        (@Compiler.compileStyleSpec_ok_iff _ _ (fun _ => sampleHash) ps).mpr ⟨hp, hacceptable⟩
      have hsource : compiled.sourceSpec = .v1 backgroundSpec := by
        rw [hparts]
        obtain ⟨_, _, _, _, _, _, _, _, hresolves⟩ := Compiler.parts_inv hp
        exact hresolves.source
      have hhash := compile_sampleHash hcompiled
      rw [hparts] at hhash
      unfold binds at hbinds
      split at hbinds
      · next graph plan _ _ =>
        rw [Bool.and_eq_true, decide_eq_true_eq, decide_eq_true_eq, ← hhash] at hbinds
        obtain ⟨hvalid, hwide⟩ := hbinds
        refine ⟨compiled, graph, plan, ?_, hwide⟩
        have hsame : sameCompiled compiled compiled = true := by simp [sameCompiled]
        unfold validateProductionBinding
        rw [hsource, sourceSnapshot_self Spec.Pydantic.declared_documented]
        simp only [Option.bind_eq_bind, Option.bind_some, hcompiled, Except.toOption, hsame,
          contract_true, hvalid]
        rfl
      · cases hbinds

/-- An encoder without evidence, and an image that does not decode. -/
def blindServices : Services Unit where
  decodePng := fun _ => none
  encode := fun _ => none
  l2Similarity := fun _ _ => ⟨.zero, by decide +kernel⟩
  l3Similarity := fun _ _ => ⟨.zero, by decide +kernel⟩
  structureSimilarity := fun _ _ _ => none
  styleResolver := fun _ => some []

def image : GeneratedArtifact fun _ => sampleHash :=
  ⟨⟨Id.lit .artifact "image", sampleHash⟩, [], sampleHash, sampleHash, rfl⟩

def sessionOf (graph : Compiled.ExecutionGraph) (plan : Compiled.VerificationPlan) : Session :=
  ⟨plan, l1RuleRegistry, graph, [⟨Id.lit .asset "style", sampleHash⟩], [], sampleHash⟩

theorem resolves (graph : Compiled.ExecutionGraph) (plan : Compiled.VerificationPlan) :
    Resolves (fun _ => sampleHash) blindServices (sessionOf graph plan).styleReferences := by
  intro reference hr content _
  rw [List.mem_singleton.mp hr]

end BatchDistance

open BatchDistance in
/-- A threshold of one. -/
theorem verifier_gate_sample : ∃ compiled graph plan,
    validateProductionBinding .declared (fun _ => sampleHash) loaded compiled .production
      .backgroundSequence sampleHash graph plan (backgroundContext false) l1RuleRegistry
      (some (some (Compiler.RequiredFidelity.pin "structure"))) = some (compiled, plan) ∧
    ∃ results, evaluateRules (fun _ => sampleHash) blindServices (sessionOf graph plan) image =
      .ok results ∧
      validateReport [image.ref] (applicableRuleDefinitions plan) results = .ok () := by
  obtain ⟨compiled, graph, plan, h, hwide⟩ := accepted_plan false
  obtain ⟨results, hresults, -, hvalid⟩ :=
    (@verifier_gate_iff _ _ _ _ (sessionOf graph plan) image _ _ _ _ _ _ _ _ _ h
      (resolves graph plan)).1.mpr (hasWide_iff.mp hwide)
  exact ⟨compiled, graph, plan, h, results, hresults, hvalid⟩

open BatchDistance in
/-- A threshold of one and a half is accepted, and breaks the contract of the
evaluation. -/
theorem wide_batch_threshold : ∃ compiled graph plan,
    validateProductionBinding .declared (fun _ => sampleHash) loaded compiled .production
      .backgroundSequence sampleHash graph plan (backgroundContext true) l1RuleRegistry
      (some (some (Compiler.RequiredFidelity.pin "structure"))) = some (compiled, plan) ∧
    evaluateRules (fun _ => sampleHash) blindServices (sessionOf graph plan) image =
      .error (.infrastructure "production verification contract violation") := by
  obtain ⟨compiled, graph, plan, h, hwide⟩ := accepted_plan true
  obtain ⟨hregistry, hadmitted⟩ := validateRuleBindings_some (validateProductionBinding_some h)
  have hn : ¬ BoundedL2 plan := by
    rw [← hasWide_iff, hwide]
    decide
  exact ⟨compiled, graph, plan, h,
    evaluateRules_error ⟨hregistry, hadmitted⟩ (resolves graph plan) hn⟩

end Production

end SpecStyle
