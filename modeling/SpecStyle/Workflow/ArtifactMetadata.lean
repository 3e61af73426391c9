/-
SpecStyle/Workflow/ArtifactMetadata.lean

What is written of an artifact is read back as the artifact.

The metadata of an artifact fit their bound, and with its content they give the
artifact again (`parseMetadata_encode`, `artifactFrom_metadata`).  So no two
artifacts share their metadata and their content (`encodeMetadata_inj`).  And
only what is written is read, byte by byte (`parseMetadata_some`,
`artifact_read_exact`).
-/
import SpecStyle.Workflow.CommitSucceeds
import SpecStyle.Workflow.ProductionArtifacts

namespace SpecStyle

open PyLib

namespace Artifacts

variable {hashBytes : Bytes → Sha256} {jobId : JobId}
  {artifact artifact' : GeneratedArtifact hashBytes}

/-- The content is one that `_validate_artifact` lets pass. -/
def Sized (artifact : GeneratedArtifact hashBytes) : Prop :=
  1 ≤ artifact.content.length ∧ artifact.content.length ≤ ArtifactKind.artifact.limit

theorem metadataKeys_nodup : metadataKeys.Nodup := by decide

/-- The document of some metadata. -/
def metadataRecord (jobId : JobId) (metadata : ArtifactMetadata) : List (Text × Json) :=
  [(py "schema", .str (py "specstyle.production_artifact.v1")),
    (py "job_id", .str jobId.value),
    (py "artifact_id", .str metadata.artifactId),
    (py "content_sha256", .str metadata.contentSha256),
    (py "size_bytes", .int metadata.sizeBytes),
    (py "media_type", .str (py "image/png")),
    (py "request_hash", .str metadata.requestHash),
    (py "generation_fingerprint", .str metadata.generationFingerprint)]

/-- The bytes of some metadata. -/
def encodeRecord (jobId : JobId) (metadata : ArtifactMetadata) : Bytes :=
  (Json.dumps true (.obj (metadataRecord jobId metadata))).flatMap utf8Char

/-- Metadata that may be read for an artifact.  The hashes may be in upper case. -/
structure Readable (artifactId : ArtifactId) (metadata : ArtifactMetadata) : Prop where
  artifactId : metadata.artifactId = artifactId.value
  size : 1 ≤ metadata.sizeBytes ∧ metadata.sizeBytes ≤ ArtifactKind.artifact.limit
  contentSha256 : ∃ sha, Sha256.new metadata.contentSha256 = .ok sha
  requestHash : ∃ sha, Sha256.new metadata.requestHash = .ok sha
  generationFingerprint : ∃ sha, Sha256.new metadata.generationFingerprint = .ok sha

theorem Sha256.new_hex {text : Text} {sha : Sha256} (h : Sha256.new text = .ok sha) :
    text.all isHex = true ∧ text.map lowerHex = sha.value := by
  unfold Sha256.new at h
  split_ifs at h with hhex
  cases h
  exact ⟨(Bool.and_eq_true_iff.mp hhex).2, rfl⟩

theorem hasSurrogate_hash {text : Text} (h : ∃ sha, Sha256.new text = .ok sha) :
    hasSurrogate text = false := by
  obtain ⟨sha, hsha⟩ := h
  apply hasSurrogate_of_ascii
  intro c hc
  have hhex := List.all_eq_true.mp (Sha256.new_hex hsha).1 c hc
  unfold isHex isLowerHex isDigit at hhex
  simp only [Bool.or_eq_true, Bool.and_eq_true, decide_eq_true_eq] at hhex
  omega

theorem exact_metadataRecord {artifactId : ArtifactId} {metadata : ArtifactMetadata}
    (h : Readable artifactId metadata) :
    Json.Exact true (.obj (metadataRecord jobId metadata)) := by
  have hid : hasSurrogate metadata.artifactId = false := by
    rw [h.artifactId]
    exact hasSurrogate_id artifactId
  refine ⟨metadataKeys_nodup, ?_⟩
  exact ⟨fun _ => by decide, fun _ => by decide, fun _ => by decide, fun _ => hasSurrogate_id jobId,
    fun _ => by decide, fun _ => hid, fun _ => by decide,
    fun _ => hasSurrogate_hash h.contentSha256, fun _ => by decide, trivial, fun _ => by decide,
    fun _ => by decide, fun _ => by decide, fun _ => hasSurrogate_hash h.requestHash,
    fun _ => by decide, fun _ => hasSurrogate_hash h.generationFingerprint, trivial⟩

/-- What the readers use of the metadata of an artifact. -/
def metadataOf (artifact : GeneratedArtifact hashBytes) : ArtifactMetadata :=
  ⟨artifact.ref.artifactId.value, artifact.ref.sha256.value, artifact.content.length,
    artifact.requestHash.value, artifact.generationFingerprint.value⟩

theorem encodeMetadata_eq :
    encodeMetadata jobId artifact = encodeRecord jobId (metadataOf artifact) := by
  have hrecord : artifactRecord jobId artifact = metadataRecord jobId (metadataOf artifact) := rfl
  unfold encodeMetadata encodeRecord
  rw [hrecord]

theorem readable_metadataOf (h : Sized artifact) :
    Readable artifact.ref.artifactId (metadataOf artifact) :=
  ⟨rfl, h, ⟨_, Sha256.new_value _⟩, ⟨_, Sha256.new_value _⟩, ⟨_, Sha256.new_value _⟩⟩

/-- The metadata fit the bound of their readers. -/
theorem encodeMetadata_length (h : Sized artifact) :
    1 ≤ (encodeMetadata jobId artifact).length ∧
      (encodeMetadata jobId artifact).length ≤ ArtifactKind.metadata.limit := by
  have hjob := Json.length_printStr true jobId.value
  have hjobLength := jobId.length_le
  have hid := Json.length_printStr true artifact.ref.artifactId.value
  have hidLength := artifact.ref.artifactId.length_le
  have hsha : ∀ sha : Sha256, (Json.printStr true sha.value).length = 66 := by
    intro sha
    have hvalid := sha.valid
    rw [Bool.and_eq_true] at hvalid
    rw [length_printStr_hex true hvalid.2, sha.length_eq]
  have hsize : (Json.intText artifact.content.length).length ≤ 8 := by
    have hle : artifact.content.length ≤ 32 * 1024 * 1024 := h.2
    exact length_intText (by omega) (by omega) (by omega)
  have hkeys : (metadataKeys.map fun key => (Json.printStr true key).length) =
      [8, 8, 13, 16, 12, 12, 14, 24] := by decide
  have hschema : (Json.printStr true (py "specstyle.production_artifact.v1")).length = 34 := by
    decide
  have hmedia : (Json.printStr true (py "image/png")).length = 11 := by decide
  simp only [metadataKeys, List.map_cons, List.map_nil, List.cons.injEq, and_true] at hkeys
  obtain ⟨h1, h2, h3, h4, h5, h6, h7, h8⟩ := hkeys
  have hne : artifactRecord jobId artifact ≠ [] := List.cons_ne_nil _ _
  unfold encodeMetadata
  have hexact : Json.Exact true (.obj (artifactRecord jobId artifact)) :=
    exact_metadataRecord (readable_metadataOf h)
  rw [Json.length_utf8_dumps hexact, Json.length_dumps_obj _ hne]
  simp only [artifactRecord, List.map_cons, List.map_nil, List.sum_cons, List.sum_nil,
    Json.fieldLength, Json.sortKeys, Json.print, hsha, ArtifactKind.limit]
  omega

/-- **Written metadata are read.** -/
theorem parseMetadata_record {artifactId : ArtifactId} {metadata : ArtifactMetadata}
    (h : Readable artifactId metadata) :
    parseMetadata jobId artifactId (encodeRecord jobId metadata) = some metadata := by
  have hexact : Json.Exact true (.obj (metadataRecord jobId metadata)) := exact_metadataRecord h
  have hload : (Reports.decodeAscii (encodeRecord jobId metadata)).bind Json.loads =
      some (Json.obj (metadataRecord jobId metadata)).sortKeys := by
    have hascii : ∀ c ∈ Json.dumps true (.obj (metadataRecord jobId metadata)), c.val < 0x80 :=
      fun c hc => (Json.mem_dumps hexact.joined hc).2 rfl
    obtain ⟨content, hencode, hdecode⟩ := Reports.decodeAscii_encode hascii
    rw [encodeUtf8_of_scalar (hasSurrogate_of_ascii hascii)] at hencode
    obtain rfl := Option.some.inj hencode
    show (Reports.decodeAscii (List.flatMap utf8Char _)).bind Json.loads = _
    rw [hdecode, Option.bind_some, Json.loads_dumps hexact]
  have hrecord : (metadataRecord jobId metadata).map Prod.fst = metadataKeys := rfl
  have hdict := Reports.exactDict_sorted hrecord
  have hkeys : ((metadataRecord jobId metadata).map Prod.fst).Nodup := metadataKeys_nodup
  have hdumps : (Json.dumps true (Json.obj (metadataRecord jobId metadata)).sortKeys).flatMap
      utf8Char = encodeRecord jobId metadata := by
    rw [Json.dumps_sortKeys]
    rfl
  have hschema := Reports.stringAt_written hkeys "schema" (.head _)
  have hjob := Reports.stringAt_written hkeys "job_id" (.tail _ (.head _))
  have hid := Reports.stringAt_written hkeys "artifact_id" (.tail _ (.tail _ (.head _)))
  have hsha := Reports.stringAt_written hkeys "content_sha256"
    (.tail _ (.tail _ (.tail _ (.head _))))
  have hsize := Reports.field_written hkeys (py "size_bytes")
    (.tail _ (.tail _ (.tail _ (.tail _ (.head _)))))
  have hmedia := Reports.stringAt_written hkeys "media_type"
    (.tail _ (.tail _ (.tail _ (.tail _ (.tail _ (.head _))))))
  have hrequest := Reports.stringAt_written hkeys "request_hash"
    (.tail _ (.tail _ (.tail _ (.tail _ (.tail _ (.tail _ (.head _)))))))
  have hfingerprint := Reports.stringAt_written hkeys "generation_fingerprint"
    (.tail _ (.tail _ (.tail _ (.tail _ (.tail _ (.tail _ (.tail _ (.head _))))))))
  have hint : exactInt (Json.int metadata.sizeBytes).sortKeys = some (metadata.sizeBytes : Int) :=
    rfl
  have hbounds : 1 ≤ (metadata.sizeBytes : Int) ∧
      (metadata.sizeBytes : Int) ≤ ArtifactKind.artifact.limit := by
    obtain ⟨hpos, hle⟩ := h.size
    omega
  obtain ⟨hvalue, -, ⟨sha, hsha'⟩, ⟨request, hrequest'⟩, ⟨fingerprint, hfingerprint'⟩⟩ := h
  unfold parseMetadata
  simp only [hload, hdict, hdumps, hschema, hjob, hid, hsha, hsize, hmedia, hrequest, hfingerprint,
    hint, hbounds, hvalue, hsha', hrequest', hfingerprint', Option.bind_eq_bind, Option.bind_some,
    Except.toOption, guard, if_true, and_self]
  rw [← hvalue]
  rfl

theorem parseMetadata_encode (h : Sized artifact) :
    parseMetadata jobId artifact.ref.artifactId (encodeMetadata jobId artifact) =
      some (metadataOf artifact) := by
  rw [encodeMetadata_eq]
  exact parseMetadata_record (readable_metadataOf h)

/-- **Metadata that are read are written so**, byte by byte. -/
theorem parseMetadata_some {artifactId : ArtifactId} {content : Bytes}
    {metadata : ArtifactMetadata} (h : parseMetadata jobId artifactId content = some metadata) :
    Readable artifactId metadata ∧ content = encodeRecord jobId metadata := by
  unfold parseMetadata at h
  simp only [Option.bind_eq_bind, Option.bind_eq_some_iff] at h
  obtain ⟨document, hload, value, hdict, _, hdumps, _, hschema, _, hjob, _, hid, _, hmedia,
    size, ⟨sizeField, hsize, hint⟩, _, hbounds, sha, hsha, request, hrequest, fingerprint,
    hfingerprint, _, hsha', _, hrequest', _, hfingerprint', hret⟩ := h
  cases hret
  obtain ⟨hpos, hmax⟩ := Reports.guard_some.mp hbounds
  have hsizeNat : ((size.toNat : Nat) : Int) = size := Int.toNat_of_nonneg (by omega)
  have hint' : sizeField = .int size := by
    cases sizeField <;> cases hint
    rfl
  have hsizes : 1 ≤ size.toNat ∧ size.toNat ≤ ArtifactKind.artifact.limit := by omega
  have hreadable : Readable artifactId
      ⟨artifactId.value, sha, size.toNat, request, fingerprint⟩ :=
    ⟨rfl, hsizes, ⟨_, Reports.toOption_some hsha'⟩,
      ⟨_, Reports.toOption_some hrequest'⟩, ⟨_, Reports.toOption_some hfingerprint'⟩⟩
  refine ⟨hreadable, ?_⟩
  -- the document is the record, up to the order of the keys
  have hunique : Json.Unique document := by
    obtain ⟨text, -, hload⟩ := hload
    exact Json.unique_loads hload
  have hsorted : document.sortKeys = (Json.obj (metadataRecord jobId
      ⟨artifactId.value, sha, size.toNat, request, fingerprint⟩)).sortKeys := by
    refine Reports.sorted_of_exact hunique hdict rfl metadataKeys_nodup ?_
    rw [metadataRecord, List.forall_mem_cons, List.forall_mem_cons, List.forall_mem_cons,
      List.forall_mem_cons, List.forall_mem_cons, List.forall_mem_cons, List.forall_mem_cons,
      List.forall_mem_singleton]
    exact ⟨⟨_, Reports.field_of_stringAt (Reports.guard_some.mp hschema), rfl⟩,
      ⟨_, Reports.field_of_stringAt (Reports.guard_some.mp hjob), rfl⟩,
      ⟨_, Reports.field_of_stringAt (Reports.guard_some.mp hid), rfl⟩,
      ⟨_, Reports.field_of_stringAt hsha, rfl⟩, ⟨_, hsize, by rw [hint', hsizeNat]⟩,
      ⟨_, Reports.field_of_stringAt (Reports.guard_some.mp hmedia), rfl⟩,
      ⟨_, Reports.field_of_stringAt hrequest, rfl⟩,
      ⟨_, Reports.field_of_stringAt hfingerprint, rfl⟩⟩
  rw [← Reports.guard_some.mp hdumps]
  unfold encodeRecord Json.dumps
  rw [hsorted]

/-- **The metadata and the content are the artifact.** -/
theorem artifactFrom_metadata :
    artifactFrom hashBytes (metadataOf artifact) artifact.content = some artifact := by
  unfold artifactFrom metadataOf
  simp only [artifact.hashed, Option.bind_eq_bind, Option.bind_some, Id.new_value,
    Sha256.new_value, Except.toOption, guard, if_true]
  rfl

/-- What `_artifact_from` has checked. -/
theorem artifactFrom_some {metadata : ArtifactMetadata} {content : Bytes}
    (h : artifactFrom hashBytes metadata content = some artifact) :
    content = artifact.content ∧ metadata.sizeBytes = content.length ∧
      metadata.artifactId = artifact.ref.artifactId.value ∧
      metadata.contentSha256 = artifact.ref.sha256.value ∧
      Sha256.new metadata.requestHash = .ok artifact.requestHash ∧
      Sha256.new metadata.generationFingerprint = .ok artifact.generationFingerprint := by
  unfold artifactFrom at h
  simp only [Option.bind_eq_bind, Option.bind_eq_some_iff] at h
  obtain ⟨_, hsize, _, hhash, artifactId, hid, sha256, hsha, request, hrequest, fingerprint,
    hfingerprint, hret⟩ := h
  split_ifs at hret with hhashed
  cases hret
  refine ⟨rfl, (Reports.guard_some.mp hsize).symm, (Id.new_ok (Reports.toOption_some hid)).symm, ?_,
    Reports.toOption_some hrequest, Reports.toOption_some hfingerprint⟩
  rw [← Reports.guard_some.mp hhash, hhashed]

/-- **Exactly what is written is read**: a reader takes a content and metadata for
an artifact only where they are its content and the bytes that are written of it,
but for the case of the digits of the two hashes that it does not compute. -/
theorem artifact_read_exact {artifactId : ArtifactId} {metadata content : Bytes} :
    ((parseMetadata jobId artifactId metadata).bind fun found =>
        artifactFrom hashBytes found content) = some artifact ↔
      artifact.ref.artifactId = artifactId ∧ Sized artifact ∧ content = artifact.content ∧
        ∃ request fingerprint, Sha256.new request = .ok artifact.requestHash ∧
          Sha256.new fingerprint = .ok artifact.generationFingerprint ∧
          metadata = encodeRecord jobId { metadataOf artifact with
            requestHash := request
            generationFingerprint := fingerprint } := by
  rw [Option.bind_eq_some_iff]
  constructor
  · rintro ⟨found, hparse, hfrom⟩
    obtain ⟨hreadable, rfl⟩ := parseMetadata_some hparse
    obtain ⟨rfl, hsize, hid, hsha, hrequest, hfingerprint⟩ := artifactFrom_some hfrom
    have hid' : artifact.ref.artifactId = artifactId :=
      Id.ext_value (hid.symm.trans hreadable.artifactId)
    have hsized : Sized artifact := by
      have hbounds := hreadable.size
      rw [hsize] at hbounds
      exact hbounds
    refine ⟨hid', hsized, rfl, found.requestHash, found.generationFingerprint, hrequest,
      hfingerprint, ?_⟩
    unfold metadataOf
    rw [← hid, ← hsha, ← hsize]
  · rintro ⟨rfl, hsized, rfl, request, fingerprint, hrequest, hfingerprint, rfl⟩
    refine ⟨_, parseMetadata_record ⟨rfl, hsized, ⟨_, Sha256.new_value _⟩, ⟨_, hrequest⟩,
      ⟨_, hfingerprint⟩⟩, ?_⟩
    unfold artifactFrom metadataOf
    simp only [artifact.hashed, hrequest, hfingerprint, Option.bind_eq_bind, Option.bind_some,
      Id.new_value, Sha256.new_value, Except.toOption, guard, if_true]
    rfl

/-- No two artifacts share their metadata and their content. -/
theorem encodeMetadata_inj (h : Sized artifact) (h' : Sized artifact')
    (hid : artifact.ref.artifactId = artifact'.ref.artifactId)
    (hcontent : artifact.content = artifact'.content)
    (hmetadata : encodeMetadata jobId artifact = encodeMetadata jobId artifact') :
    artifact = artifact' := by
  have hparse : parseMetadata jobId artifact.ref.artifactId (encodeMetadata jobId artifact) =
      some (metadataOf artifact) := parseMetadata_encode h
  rw [hid, hmetadata, parseMetadata_encode h'] at hparse
  have hread : artifactFrom hashBytes (metadataOf artifact) artifact.content = some artifact :=
    artifactFrom_metadata
  rw [← Option.some.inj hparse, hcontent, artifactFrom_metadata] at hread
  exact (Option.some.inj hread).symm

end Artifacts

end SpecStyle
