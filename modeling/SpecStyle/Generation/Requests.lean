/-
SpecStyle/Generation/Requests.lean

Generation requests and generated artifacts.

A request carries the proof of its own validation, so rebuilding one gives
the request back and the readers need not rebuild it.  The two hashes of a
request are functions of its fields; the functions (canonical JSON, then
SHA-256) are a parameter, `Digests`, and so is the hash of an artifact's
bytes.  Of a prepared image the model keeps what is compared: its source, its
hash and its size.
-/
import SpecStyle.Spec.CompiledModels

namespace SpecStyle

open PyLib

/-! ### Artifacts -/

/-- `GeneratedArtifact` -/
structure GeneratedArtifact (hashBytes : Bytes → Sha256) where
  ref : ArtifactRef
  content : Bytes
  requestHash : Sha256
  generationFingerprint : Sha256
  /-- `hash_bytes(self.content) == ref.sha256` -/
  hashed : hashBytes content = ref.sha256

/-! ### Parameters -/

/-- `GenerationParameters(...)` -/
def GenerationParameters.new (ipAdapterScale img2imgStrength controlnetScale : Binary64) :
    Except Raised GenerationParameters :=
  if h : (ipAdapterScale.inUnit && img2imgStrength.inUnit && controlnetScale.inUnit) = true then
    .ok ⟨ipAdapterScale, img2imgStrength, controlnetScale, h⟩
  else .error (.domain "invalid generation parameters")

/-- `==` on parameters, by value. -/
def GenerationParameters.same (a b : GenerationParameters) : Bool :=
  a.ipAdapterScale.same b.ipAdapterScale && a.img2imgStrength.same b.img2imgStrength &&
    a.controlnetScale.same b.controlnetScale

@[simp] theorem GenerationParameters.same_self (a : GenerationParameters) : a.same a = true := by
  simp [same]

/-! ### Materials -/

/-- `AssetRef` -/
structure AssetRef where
  assetId : AssetId
  sha256 : Sha256
  deriving DecidableEq

/-- `PreparedImage` -/
structure PreparedImage where
  source : AssetRef
  sha256 : Sha256
  width : Nat
  height : Nat
  deriving DecidableEq

/-- `RenderedPrompt` -/
structure RenderedPrompt where
  templatePin : ResourcePin
  presetId : Identifier
  positive : Text
  negative : Text
  deriving DecidableEq

/-- `PreparedControlInput` -/
structure PreparedControlInput where
  kind : ControlnetType
  image : PreparedImage
  deriving DecidableEq

/-- The arguments of `GenerationRequest`, the execution parameters resolved. -/
structure RequestFields where
  jobId : JobId
  attemptId : AttemptId
  parentAttemptId : Option AttemptId
  compiledSpec : CompiledStyleSpec
  generationProfile : GenerationProfile
  outputProfile : OutputProfile
  source : PreparedImage
  styleReferences : List AssetRef
  prompt : RenderedPrompt
  controlInput : PreparedControlInput
  variationIndex : Nat
  environmentHash : Sha256
  executionParameters : GenerationParameters
  deriving DecidableEq

/-! ### Validation -/

/-- `_resolve_graph` -/
def resolveGraph (spec : CompiledStyleSpec) (profile : GenerationProfile)
    (output : OutputProfile) : Except Raised CompiledExecutionGraph :=
  let graphs := match profile with
    | .preview => spec.previewGraphs
    | .production => spec.productionGraphs
  match graphs.filter fun graph => graph.outputProfile = output with
  | [graph] => .ok graph
  | _ => .error (.domain "generation selectors must resolve exactly one graph")

/-- `_validate_materials` -/
def validateMaterials (f : RequestFields) (graph : CompiledExecutionGraph) :
    Except Raised Unit := do
  ensure (!f.styleReferences.isEmpty) "style references must be a nonempty exact tuple"
  ensure (f.styleReferences.map (·.sha256) = graph.styleReferenceHashes)
    "style references do not match graph"
  ensure (f.prompt.presetId = graph.presetId ∧ f.controlInput.kind = graph.controlnetType)
    "request inputs do not match graph"
  ensure (f.source.width = graph.resolution.1 ∧ f.source.height = graph.resolution.2 ∧
      f.controlInput.image.width = graph.resolution.1 ∧
      f.controlInput.image.height = graph.resolution.2 ∧
      f.controlInput.image.source = f.source.source)
    "request image dimensions or source do not match graph"

/-- `GenerationRequest.__post_init__` -/
def validateRequest (f : RequestFields) : Except Raised Unit := do
  let graph ← resolveGraph f.compiledSpec f.generationProfile f.outputProfile
  ensure (!(f.parentAttemptId.isNone && !f.executionParameters.same graph.defaults))
    "generation parameter override requires parent attempt"
  validateMaterials f graph
  ensure (f.variationIndex < 2 ^ 31) "variation index must be an exact int in range"

/-- `GenerationRequest` -/
structure GenerationRequest extends RequestFields where
  valid : validateRequest toRequestFields = .ok ()
  deriving DecidableEq

/-- `GenerationRequest(...)` -/
def GenerationRequest.new (f : RequestFields) : Except Raised GenerationRequest :=
  match h : validateRequest f with
  | .ok () => .ok ⟨f, h⟩
  | .error e => .error e

theorem GenerationRequest.new_ok_iff {f : RequestFields} {request : GenerationRequest} :
    GenerationRequest.new f = .ok request ↔ request.toRequestFields = f := by
  unfold GenerationRequest.new
  split
  · next hv =>
    constructor
    · intro h
      cases h
      rfl
    · rintro rfl
      rfl
  · next e hv =>
    constructor
    · intro h
      cases h
    · rintro rfl
      rw [request.valid] at hv
      cases hv

/-- `request.graph`, which the constructor has resolved. -/
theorem GenerationRequest.graph_ok (request : GenerationRequest) :
    ∃ graph, resolveGraph request.compiledSpec request.generationProfile
      request.outputProfile = .ok graph := by
  have hv := request.valid
  unfold validateRequest at hv
  obtain ⟨graph, hg, -⟩ := bind_ok_iff.mp hv
  exact ⟨graph, hg⟩

/-! ### Hashes -/

/-- What the fingerprint of a request is made of: everything but the ids and
the environment.  The seed is derived from these fields too. -/
structure FingerprintMaterials where
  compiledSpecHash : Sha256
  generationProfile : GenerationProfile
  outputProfile : OutputProfile
  source : PreparedImage
  styleReferences : List AssetRef
  prompt : RenderedPrompt
  controlInput : PreparedControlInput
  executionParameters : GenerationParameters
  variationIndex : Nat

/-- What the request hash is made of. -/
structure RequestMaterials where
  generationFingerprint : Sha256
  jobId : JobId
  attemptId : AttemptId
  parentAttemptId : Option AttemptId
  environmentHash : Sha256

/-- The hash functions of the generation layer. -/
structure Digests where
  fingerprint : FingerprintMaterials → Sha256
  request : RequestMaterials → Sha256

/-- `generation_fingerprint` -/
def GenerationRequest.generationFingerprint (digests : Digests) (request : GenerationRequest) :
    Sha256 :=
  digests.fingerprint
    { compiledSpecHash := request.compiledSpec.compiledSpecHash
      generationProfile := request.generationProfile
      outputProfile := request.outputProfile
      source := request.source
      styleReferences := request.styleReferences
      prompt := request.prompt
      controlInput := request.controlInput
      executionParameters := request.executionParameters
      variationIndex := request.variationIndex }

/-- `request_hash` -/
def GenerationRequest.requestHash (digests : Digests) (request : GenerationRequest) : Sha256 :=
  digests.request
    { generationFingerprint := request.generationFingerprint digests
      jobId := request.jobId
      attemptId := request.attemptId
      parentAttemptId := request.parentAttemptId
      environmentHash := request.environmentHash }

end SpecStyle
