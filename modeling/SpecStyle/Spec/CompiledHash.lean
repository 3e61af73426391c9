/-
SpecStyle/Spec/CompiledHash.lean

When the canonical hash of a compiled specification can be computed.

The payload is encoded strictly, so a lone surrogate in one of its texts is
refused.  A specification has none (`clean_dump`), whatever its version: the
hash exists or not by the texts of the context alone
(`canonicalHash_ok_iff`).
-/
import SpecStyle.Spec.CompiledPlans

namespace SpecStyle

open PyLib PyLib.Codec PyLib.Json

/-! ### Clean codecs -/

namespace Primitive

theorem ofPrims_eq_map (ps : List Prim) : ofPrims ps = ps.map ofPrim := by
  induction ps with
  | nil => rfl
  | cons p ps ih => rw [ofPrims, ih, List.map_cons]

theorem ofFields_eq_map (fs : List (String × Prim)) :
    ofFields fs = fs.map fun f => (py f.1, ofPrim f.2) := by
  induction fs with
  | nil => rfl
  | cons f fs ih => rw [ofFields, ih, List.map_cons]

@[simp] theorem clean_float (x : Binary64) : (float x).clean = true := by
  simp [float, clean, Binary64.hasSurrogate_repr]

end Primitive

/-- Every dump of a codec is clean. -/
class CleanCodec {α : Type} (c : Codec α) : Prop where
  clean_dump : ∀ a, (Primitive.ofPrim (c.dump a)).clean = true

/-- Every field of every dump is clean. -/
class CleanFields {α : Type} (F : Fields α) : Prop where
  clean_dump : ∀ a, ∀ f ∈ F.dump a, (Primitive.ofPrim f.2).clean = true

section Closure

variable {α β : Type} {c : Codec α} {d : Codec β} {F : Fields α} {G : Fields β}

instance (word : String) : CleanCodec (only word) where
  clean_dump := by
    intro a
    simp [only, Primitive.ofPrim, clean]

instance : CleanCodec onlyFalse := ⟨fun _ => rfl⟩

instance : CleanCodec Codec.bool := ⟨fun _ => rfl⟩

theorem clean_text {parse : Text → Option α} {value : α → Text} {h : ∀ a, parse (value a) = some a}
    (hv : ∀ a, hasSurrogate (value a) = false) : CleanCodec (.text parse value h) where
  clean_dump := by
    intro a
    simp [Codec.text, Primitive.ofPrim, clean, hv]

theorem clean_choice {all : List α} {value : α → Text}
    {h : ∀ a, all.find? (value · == value a) = some a} (hv : ∀ a, hasSurrogate (value a) = false) :
    CleanCodec (.choice all value h) where
  clean_dump := by
    intro a
    simp [Codec.choice, Primitive.ofPrim, clean, hv]

theorem clean_checked {test : Text → Bool} (ht : ∀ t, test t = true → hasSurrogate t = false) :
    CleanCodec (.checked test) :=
  clean_text fun a => ht a.val a.property

instance (test : Nat → Bool) : CleanCodec (.natural test) := ⟨fun _ => rfl⟩

instance (test : Binary64 → Bool) (ofInt : Int → Binary64) : CleanCodec (.number test ofInt) :=
  ⟨fun _ => Primitive.clean_float _⟩

instance [CleanCodec c] {h : ∀ a, (c.dump a).tuples ≠ .none} : CleanCodec (.optional c h) where
  clean_dump := by
    rintro (- | a)
    · rfl
    · exact CleanCodec.clean_dump a

instance [CleanCodec c] : CleanCodec (.tupleOf c) where
  clean_dump := by
    intro as
    show cleanItems (Primitive.ofPrims (as.map c.dump)) = true
    rw [Primitive.ofPrims_eq_map, cleanItems_iff]
    intro v hv
    obtain ⟨p, hp, rfl⟩ := List.mem_map.mp hv
    obtain ⟨a, -, rfl⟩ := List.mem_map.mp hp
    exact CleanCodec.clean_dump a

instance [CleanCodec c] [CleanCodec d] : CleanCodec (.pair c d) where
  clean_dump := by
    rintro ⟨a, b⟩
    show (clean (Primitive.ofPrim (c.dump a)) && (clean (Primitive.ofPrim (d.dump b)) && true)) =
      true
    rw [CleanCodec.clean_dump a, CleanCodec.clean_dump b]
    rfl

instance [CleanCodec c] {test : α → Bool} : CleanCodec (.refine c test) :=
  ⟨fun a => CleanCodec.clean_dump (c := c) a.val⟩

instance {name : String} [CleanCodec c] : CleanFields (.field name c) where
  clean_dump := by
    intro a f hf
    rw [List.mem_singleton.mp hf]
    exact CleanCodec.clean_dump a

instance {name : String} {value : α} [CleanCodec c] : CleanFields (.default name c value) where
  clean_dump := by
    intro a f hf
    rw [List.mem_singleton.mp hf]
    exact CleanCodec.clean_dump a

instance [CleanFields F] [CleanFields G] : CleanFields (.and F G) where
  clean_dump := by
    intro p f hf
    rcases List.mem_append.mp hf with hf | hf
    · exact CleanFields.clean_dump p.1 f hf
    · exact CleanFields.clean_dump p.2 f hf

instance {build : α → β} {parts : β → α} {h : ∀ b, build (parts b) = b} [CleanFields F] :
    CleanFields (.record F build parts h) :=
  ⟨fun b => CleanFields.clean_dump (parts b)⟩

instance {hnodup : F.names.Nodup} [CleanFields F] : CleanCodec (.model F hnodup) where
  clean_dump := by
    intro a
    show cleanFields (Primitive.ofFields (F.dump a)) = true
    rw [Primitive.ofFields_eq_map, cleanFields_iff]
    intro f hf
    obtain ⟨g, hg, rfl⟩ := List.mem_map.mp hf
    exact ⟨hasSurrogate_py _, CleanFields.clean_dump a g hg⟩

end Closure

/-! ### Specifications are clean -/

namespace Spec

theorem safeText_clean {limit : Nat} {t : Text} (h : safeText limit t = true) :
    hasSurrogate t = false := by
  simp only [safeText, Bool.and_eq_true, Bool.not_eq_true'] at h
  exact h.1.1.2

instance : CleanCodec safeTextCodec := clean_checked fun _ => safeText_clean
instance : CleanCodec nameStr := clean_checked fun _ => safeText_clean
instance : CleanCodec idLike := clean_text fun a => hasSurrogate_id a
instance : CleanCodec sha256Str := clean_text fun a => hasSurrogate_sha a

instance : CleanCodec httpUrlStr := by
  refine clean_checked fun t ht => ?_
  simp only [httpUrl, Bool.and_eq_true, Bool.not_eq_true'] at ht
  exact ht.1.1.1.2

instance : CleanCodec rfc3339Str := by
  refine clean_checked fun t ht => ?_
  simp only [rfc3339, Bool.and_eq_true, Bool.not_eq_true'] at ht
  simp_all

theorem hasSurrogate_dtype (a : Dtype) : hasSurrogate a.value = false := by
  cases a <;> exact hasSurrogate_py _

theorem hasSurrogate_controlnetType (a : ControlnetType) : hasSurrogate a.value = false := by
  cases a <;> exact hasSurrogate_py _

theorem hasSurrogate_outputProfile (a : OutputProfile) : hasSurrogate a.value = false := by
  cases a <;> exact hasSurrogate_py _

theorem hasSurrogate_onUnverifiable (a : OnUnverifiable) : hasSurrogate a.value = false := by
  cases a <;> exact hasSurrogate_py _

theorem hasSurrogate_onWarning (a : OnWarning) : hasSurrogate a.value = false := by
  cases a <;> exact hasSurrogate_py _

instance : CleanCodec dtype := clean_choice hasSurrogate_dtype
instance : CleanCodec controlnetType := clean_choice hasSurrogate_controlnetType
instance : CleanCodec outputProfile := clean_choice hasSurrogate_outputProfile
instance : CleanCodec onUnverifiable := clean_choice hasSurrogate_onUnverifiable
instance : CleanCodec onWarning := clean_choice hasSurrogate_onWarning

instance : CleanCodec previewPipeline :=
  clean_choice fun a => by cases a <;> exact hasSurrogate_py _

instance : CleanCodec consent :=
  clean_choice fun a => by cases a <;> exact hasSurrogate_py _

instance : CleanCodec domainProfile :=
  clean_choice fun a => by cases a <;> exact hasSurrogate_py _

instance : CleanCodec environmentPolicy :=
  clean_choice fun a => by cases a <;> exact hasSurrogate_py _

/-! The models are clean because their fields are. -/

instance : CleanCodec scaleValue := by unfold scaleValue; infer_instance
instance : CleanCodec guidanceValue := by unfold guidanceValue; infer_instance
instance : CleanCodec stepsValue := by unfold stepsValue; infer_instance
instance : CleanCodec resolution := by unfold resolution; infer_instance
instance : CleanCodec metadata := by unfold metadata; infer_instance
instance : CleanCodec runtime := by unfold runtime; infer_instance
instance : CleanCodec modelPin := by unfold modelPin; infer_instance
instance : CleanCodec controlNetPin := by unfold controlNetPin; infer_instance
instance : CleanCodec models := by unfold models; infer_instance
instance : CleanCodec styleReference := by unfold styleReference; infer_instance
instance : CleanCodec assets := by unfold assets; infer_instance
instance : CleanCodec previewProfile := by unfold previewProfile; infer_instance
instance : CleanCodec productionProfile := by unfold productionProfile; infer_instance
instance : CleanCodec profiles := by unfold profiles; infer_instance
instance : CleanFields styleFields := by unfold styleFields; infer_instance
instance : CleanCodec style := by unfold style; infer_instance
instance : CleanCodec generation := by unfold generation; infer_instance
instance : CleanCodec domain := by unfold domain; infer_instance
instance : CleanCodec outputs := by unfold outputs; infer_instance
instance : CleanCodec thresholdProfileRef := by unfold thresholdProfileRef; infer_instance
instance : CleanCodec l2Config := by unfold l2Config; infer_instance
instance : CleanCodec l3Config := by unfold l3Config; infer_instance
instance : CleanCodec gateDefaults := by unfold gateDefaults; infer_instance
instance : CleanCodec verification := by unfold verification; infer_instance
instance : CleanCodec repair := by unfold repair; infer_instance
instance : CleanCodec newBatch := by unfold newBatch; infer_instance
instance : CleanCodec toleratedDelta := by unfold toleratedDelta; infer_instance
instance : CleanFields replayFields := by unfold replayFields; infer_instance
instance : CleanCodec replayContract := by unfold replayContract; infer_instance
instance : CleanCodec styleV11 := by unfold styleV11; infer_instance
instance : CleanCodec replayContractV11 := by unfold replayContractV11; infer_instance

instance {Version Uri Style' Replay' : Type} {version : Codec Version} {uri : Codec Uri}
    {style' : Codec Style'} {replay' : Codec Replay'} [CleanCodec version] [CleanCodec uri]
    [CleanCodec style'] [CleanCodec replay'] :
    CleanFields (specFields version uri style' replay') := by
  unfold specFields
  infer_instance

instance : CleanCodec styleSpecV1 := by unfold styleSpecV1; infer_instance
instance : CleanCodec styleSpecV11 := by unfold styleSpecV11; infer_instance

/-- A specification has no surrogates. -/
theorem clean_dump (s : StyleSpec) : (Primitive.ofPrim s.dump).clean = true := by
  cases s with
  | v1 s => exact CleanCodec.clean_dump (c := styleSpecV1) s
  | v11 s => exact CleanCodec.clean_dump (c := styleSpecV11) s

end Spec

/-! ### The texts of the context -/

/-- A pin without surrogates. -/
def ResourcePin.clean (p : ResourcePin) : Bool := !hasSurrogate p.id && !hasSurrogate p.revision

namespace Primitive

@[simp] theorem clean_dict (fs : List (String × Json)) :
    (dict fs).clean = fs.all fun f => f.2.clean := by
  unfold dict
  induction fs with
  | nil => rfl
  | cons f fs ih =>
    rw [clean] at ih
    simp only [clean, List.map_cons, cleanFields, hasSurrogate_py, Bool.not_false, Bool.true_and, ih,
      List.all_cons]

@[simp] theorem clean_arr (vs : List Json) : (Json.arr vs).clean = vs.all Json.clean := by
  rw [Bool.eq_iff_iff, clean, cleanItems_iff, List.all_eq_true]

@[simp] theorem clean_str (s : Text) : (Json.str s).clean = !hasSurrogate s := rfl

@[simp] theorem clean_orNone {α : Type} (f : α → Json) (a : Option α) :
    (orNone f a).clean = a.all fun a => (f a).clean := by
  cases a <;> rfl

@[simp] theorem clean_whenSome {α : Type} (name : String) (f : α → Json) (a : Option α) :
    ((whenSome name f a).all fun g => g.2.clean) = a.all fun a => (f a).clean := by
  cases a <;> simp [whenSome]

@[simp] theorem clean_bool (b : Bool) : (Json.bool b).clean = true := rfl

@[simp] theorem clean_nat (n : Nat) : (nat n).clean = true := rfl

@[simp] theorem clean_size (r : Nat × Nat) : (size r).clean = true := rfl

@[simp] theorem clean_pin (p : ResourcePin) : (pin p).clean = p.clean := by
  simp [pin, ResourcePin.clean]

@[simp] theorem clean_encoder (e : Compiled.ResolvedEncoder) : (encoder e).clean =
    (e.pin.clean && !hasSurrogate e.preprocessingVersion && !hasSurrogate e.layer &&
      !hasSurrogate e.distanceFunction) := by
  simp [encoder, Bool.and_assoc]

@[simp] theorem clean_runtime (r : RuntimeCapability) : (runtime r).clean =
    (r.pin.clean && !hasSurrogate r.rocmVersion && !hasSurrogate r.torchVersion &&
      !hasSurrogate r.diffusersVersion) := by
  simp [runtime, Bool.and_assoc, Spec.hasSurrogate_dtype]

@[simp] theorem clean_model (m : Compiled.ResolvedModel) : (model m).clean = m.pin.clean := by
  have hrole : hasSurrogate m.role.value = false := by cases m.role <;> exact hasSurrogate_py _
  simp [model, hrole, Spec.hasSurrogate_controlnetType]

@[simp] theorem clean_renderContract (c : OutputRenderContract) : (renderContract c).clean = true := by
  have hfit : hasSurrogate c.fit.value = false := by cases c.fit <;> exact hasSurrogate_py _
  have hsequence : hasSurrogate c.sequenceSemantics.value = false := by
    cases c.sequenceSemantics <;> exact hasSurrogate_py _
  simp [renderContract, hfit, hsequence]

@[simp] theorem clean_graph (g : Compiled.ExecutionGraph) : (graph g).clean =
    (g.outputProfilePin.clean && g.scheduler.all (!hasSurrogate ·) && (runtime g.runtime).clean &&
      g.baseModel.pin.clean && g.ipAdapter.pin.clean && g.controlnet.pin.clean &&
      g.strengthMappingPin.clean) := by
  have hprofile : hasSurrogate g.generationProfile.value = false := by
    cases g.generationProfile <;> exact hasSurrogate_py _
  have hpipeline : hasSurrogate g.pipeline.value = false := by
    cases g.pipeline <;> exact hasSurrogate_py _
  have htrue : (g.styleReferenceHashes.all fun _ => true) = true := by simp [List.all_eq_true]
  simp [graph, hprofile, hpipeline, Spec.hasSurrogate_outputProfile, Bool.and_assoc,
    Function.comp_def, htrue]

@[simp] theorem clean_definition (d : RuleDefinition) : (definition d).clean = true := by
  have hlevel : hasSurrogate d.level.value = false := by cases d.level <;> exact hasSurrogate_py _
  have hscope : hasSurrogate d.scope.value = false := by cases d.scope <;> exact hasSurrogate_py _
  have happ : hasSurrogate d.applicability.value = false := by
    cases d.applicability <;> exact hasSurrogate_py _
  simp [definition, hlevel, hscope, happ, Spec.hasSurrogate_onUnverifiable,
    Spec.hasSurrogate_onWarning]

@[simp] theorem clean_binding (b : Compiled.ThresholdBinding) : (binding b).clean =
    (b.profilePin.clean && !hasSurrogate b.logicalName) := by
  have hstatus : hasSurrogate b.status.value = false := by cases b.status <;> exact hasSurrogate_py _
  have hoperator : hasSurrogate b.operator.value = false := by
    cases b.operator <;> exact hasSurrogate_py _
  simp [binding, hstatus, hoperator]

@[simp] theorem clean_rule (r : Compiled.Rule) : (rule r).clean =
    (r.verifierPin.clean && r.thresholdBinding.all fun b => (binding b).clean) := by
  have htrue : (r.affectedByActions.all fun _ => true) = true := by simp [List.all_eq_true]
  simp [rule, Function.comp_def, htrue]

@[simp] theorem clean_plan (p : Compiled.VerificationPlan) : (plan p).clean =
    (p.outputProfilePin.clean && p.rules.all (fun r => (rule r).clean) &&
      p.l3PluginPin.all ResourcePin.clean && p.l3ThresholdProfilePin.all ResourcePin.clean) := by
  have hstatus : hasSurrogate p.l3Status.value = false := by
    cases p.l3Status <;> exact hasSurrogate_py _
  have hreason : ∀ r : Compiled.L3NotApplicableReason, hasSurrogate r.value = false := by
    intro r
    cases r <;> exact hasSurrogate_py _
  simp [plan, hstatus, hreason, Spec.hasSurrogate_outputProfile, Bool.and_assoc, Function.comp_def]

end Primitive

/-! ### The hash -/

namespace Compiled

/-- The payload without the specification. -/
def StyleSpecParts.resolved (parts : StyleSpecParts) : Json :=
  Primitive.dict [("compiler_pin", Primitive.pin parts.compilerPin),
    ("ruleset_pin", Primitive.pin parts.rulesetPin),
    ("l2_encoder", Primitive.encoder parts.l2Encoder),
    ("preview_graphs", .arr (parts.previewGraphs.map Primitive.graph)),
    ("production_graphs", .arr (parts.productionGraphs.map Primitive.graph)),
    ("verification_plans", .arr (parts.verificationPlans.map Primitive.plan))]

theorem payload_clean (parts : StyleSpecParts) : parts.payload.clean = parts.resolved.clean := by
  simp [StyleSpecParts.payload, StyleSpecParts.resolved, Primitive.dict, clean, cleanFields,
    Spec.clean_dump]

theorem resolved_clean (parts : StyleSpecParts) : parts.resolved.clean =
    (parts.compilerPin.clean && parts.rulesetPin.clean &&
      (Primitive.encoder parts.l2Encoder).clean &&
      (parts.previewGraphs.all fun g => (Primitive.graph g).clean) &&
      (parts.productionGraphs.all fun g => (Primitive.graph g).clean) &&
      parts.verificationPlans.all fun p => (Primitive.plan p).clean) := by
  simp [StyleSpecParts.resolved, Function.comp_def, Bool.and_assoc]

/-- The hash exists exactly when what the context has resolved to is clean. -/
theorem canonicalHash_ok_iff {hashBytes : Bytes → Sha256} {parts : StyleSpecParts} :
    (∃ hash, canonicalHash hashBytes parts = .ok hash) ↔ parts.resolved.clean = true := by
  rw [← payload_clean]
  unfold canonicalHash
  have hs := hasSurrogate_dumps_clean parts.payload
  split
  · next bytes hb =>
    have hno : hasSurrogate (dumps false parts.payload) = false := by
      by_contra hne
      rw [Bool.not_eq_false, ← encodeUtf8_eq_none_iff, hb] at hne
      cases hne
    rw [hno] at hs
    exact ⟨fun _ => by simpa using hs.symm, fun _ => ⟨_, rfl⟩⟩
  · next hb =>
    rw [encodeUtf8_eq_none_iff, hs, Bool.not_eq_true'] at hb
    rw [hb]
    constructor
    · rintro ⟨hash, h⟩
      cases h
    · intro h
      cases h

/-- What `CompiledStyleSpec` takes. -/
def StyleSpecParts.acceptable (parts : StyleSpecParts) : Bool :=
  !parts.previewGraphs.isEmpty && !parts.productionGraphs.isEmpty &&
    !parts.verificationPlans.isEmpty && parts.resolved.clean

/-- What `CompiledStyleSpec` has checked. -/
theorem new_ok {hashBytes : Bytes → Sha256} {parts : StyleSpecParts} {compiled : StyleSpec}
    (h : StyleSpec.new hashBytes parts = .ok compiled) :
    compiled.toStyleSpecParts = parts ∧ parts.acceptable = true := by
  unfold StyleSpec.new at h
  obtain ⟨hpreview, h⟩ := check_ok_iff.mp h
  obtain ⟨hproduction, h⟩ := check_ok_iff.mp h
  obtain ⟨hplans, h⟩ := check_ok_iff.mp h
  obtain ⟨hash, hh, h⟩ := bind_ok_iff.mp h
  cases h
  unfold StyleSpecParts.acceptable
  rw [ensure_ok_iff.mp hpreview, ensure_ok_iff.mp hproduction, ensure_ok_iff.mp hplans,
    canonicalHash_ok_iff.mp ⟨hash, hh⟩]
  exact ⟨rfl, rfl⟩

/-- Parts make a compiled specification exactly when they are acceptable. -/
theorem new_ok_iff {hashBytes : Bytes → Sha256} {parts : StyleSpecParts} :
    (∃ compiled, StyleSpec.new hashBytes parts = .ok compiled ∧
      compiled.toStyleSpecParts = parts) ↔ parts.acceptable = true := by
  constructor
  · rintro ⟨compiled, h, -⟩
    exact (new_ok h).2
  · intro h
    simp only [StyleSpecParts.acceptable, Bool.and_eq_true] at h
    obtain ⟨⟨⟨hpreview, hproduction⟩, hplans⟩, hclean⟩ := h
    obtain ⟨hash, hh⟩ := (@canonicalHash_ok_iff hashBytes parts).mpr hclean
    refine ⟨⟨parts, hash⟩, ?_, rfl⟩
    unfold StyleSpec.new
    rw [ensure_ok_iff.mpr hpreview, ensure_ok_iff.mpr hproduction, ensure_ok_iff.mpr hplans, hh]
    rfl

end Compiled

end SpecStyle
