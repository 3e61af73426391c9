/-
SpecStyle/Generation/WeightManifest.lean

Manifests of model supplies and their verification (`weight_manifest.py`).

The directories under the root are a tree that nobody changes while it is
read; a descriptor is the node it was opened on.  Calls on the tree do not
fail for want of descriptors, stack or a permission to read.  The hash is a
parameter.

`verifyComponent` lists the component once and walks to every file of the
manifest again; `verifyComponent_iff` says that the two together accept
exactly the trees in which the files of the manifest are all there is
(`Supplied`).  The root digest is a hash of the canonical payload.  The
payload spells a surrogate pair like the character it stands for, and apart
from that it is the manifest, its files in the order of their paths
(`Alike`).
-/
import SpecStyle.Lib.FileTree
import SpecStyle.Lib.JsonJoin
import SpecStyle.Lib.JsonObjects
import SpecStyle.Calibration.EvidenceIo

namespace SpecStyle

open PyLib
open PyLib.TreeNode (parts spell)

namespace Weights

/-! ### Manifests -/

/-- `raise DomainError(message)` where the condition holds. -/
def refuse (condition : Bool) (error : Raised) : Except Raised Unit :=
  if condition then .error error else .ok ()

@[simp] theorem refuse_ok {condition : Bool} {error : Raised} :
    refuse condition error = .ok () ↔ condition = false := by
  unfold refuse
  split <;> simp [*]

/-- `_relative_path` -/
def relativePath (value : Text) (field : String) : Except Raised Unit := do
  let invalid := Raised.domain ("invalid " ++ field)
  refuse (value = [] || value.head? = some 0x2F || value.contains 0x5C) invalid
  match encodeUtf8 value with
  | none => .error .unicodeEncode
  | some bytes =>
    refuse (4096 < bytes.length ||
      (parts value).any (fun part => 255 < (part.flatMap utf8Char).length) ||
      (parts value).any (fun part => part = [] || part = py "." || part = py "..") ||
      value.any isControl) invalid

/-- One file of a manifest. -/
structure WeightFile where
  relativePath : Text
  sizeBytes : Nat
  sha256 : Sha256
  valid : Weights.relativePath relativePath "weight path" = .ok ()
  deriving DecidableEq

inductive EntrypointKind where
  | diffusersPretrained | diffusersIpAdapter
  deriving DecidableEq

def EntrypointKind.value : EntrypointKind → Text
  | .diffusersPretrained => py "diffusers_pretrained"
  | .diffusersIpAdapter => py "diffusers_ip_adapter"

/-- `ModelLoadEntrypoint.__post_init__` -/
def checkEntrypoint (kind : EntrypointKind) (subfolder : Text)
    (weightName imageEncoderFolder variant : Option Text) : Except Raised Unit := do
  relativePath subfolder "entrypoint subfolder"
  refuse (weightName = some []) (.domain "invalid entrypoint weight name")
  refuse (imageEncoderFolder = some []) (.domain "invalid entrypoint image encoder folder")
  refuse (variant = some []) (.domain "invalid entrypoint variant")
  weightName.forM fun value => relativePath value "entrypoint weight name"
  imageEncoderFolder.forM fun value => relativePath value "entrypoint image encoder folder"
  refuse (kind = .diffusersIpAdapter && weightName.isNone)
    (.domain "ip adapter entrypoint requires weight name")

structure ModelLoadEntrypoint where
  kind : EntrypointKind
  subfolder : Text
  weightName : Option Text
  imageEncoderFolder : Option Text
  variant : Option Text
  valid : checkEntrypoint kind subfolder weightName imageEncoderFolder variant = .ok ()
  deriving DecidableEq

/-- `effective_image_encoder_subfolder` -/
def effectiveImageEncoderSubfolder (entrypoint : ModelLoadEntrypoint) : Text :=
  let folder := entrypoint.imageEncoderFolder.getD (py "image_encoder")
  if folder.contains 0x2F then folder else entrypoint.subfolder ++ 0x2F :: folder

inductive ManifestRole where
  | base | ipAdapter | controlnet
  deriving DecidableEq

def ManifestRole.value : ManifestRole → Text
  | .base => py "base"
  | .ipAdapter => py "ip_adapter"
  | .controlnet => py "controlnet"

/-- `[0-9a-f]{40}(?:[0-9a-f]{24})?` -/
def isRevision (value : Text) : Bool :=
  (value.length == 40 || value.length == 64) && value.all isLowerHex

/-- `path.endswith(".safetensors")` -/
def isSafetensors (path : Text) : Bool := (py ".safetensors").isSuffixOf path

/-- `WeightManifest.__post_init__` -/
def checkManifest (modelId : Text) (role : ManifestRole) (revision relativeRoot : Text)
    (entrypoint : ModelLoadEntrypoint) (files : List WeightFile) : Except Raised Unit := do
  let paths := files.map (·.relativePath)
  refuse (modelId = []) (.domain "invalid weight manifest model")
  refuse (!isRevision revision) (.domain "invalid weight manifest revision")
  relativePath relativeRoot "weight manifest root"
  refuse (files.isEmpty) (.domain "invalid weight manifest files")
  refuse (!decide paths.Nodup) (.domain "invalid weight manifest files")
  let expectedKind :=
    if role = .ipAdapter then EntrypointKind.diffusersIpAdapter else .diffusersPretrained
  refuse (entrypoint.kind ≠ expectedKind) (.domain "invalid role entrypoint")
  let safetensorPaths := paths.filter isSafetensors
  refuse safetensorPaths.isEmpty (.domain "weight manifest requires safetensors")
  let entrypointSafetensors := safetensorPaths.filter (entrypoint.subfolder ++ [0x2F]).isPrefixOf
  refuse entrypointSafetensors.isEmpty
    (.domain "weight manifest entrypoint requires safetensors")
  if role = .ipAdapter then
    let weightPath := entrypoint.subfolder ++ 0x2F :: entrypoint.weightName.getD (py "None")
    refuse (!entrypointSafetensors.contains weightPath)
      (.domain "weight manifest ip weight must reference safetensors")
    let encoderRoot := effectiveImageEncoderSubfolder entrypoint
    refuse (!(paths.contains (encoderRoot ++ py "/config.json") &&
      paths.contains (encoderRoot ++ py "/model.safetensors")))
      (.domain "weight manifest image encoder config.json and model.safetensors required")

structure WeightManifest where
  modelId : Text
  role : ManifestRole
  revision : Text
  relativeRoot : Text
  entrypoint : ModelLoadEntrypoint
  files : List WeightFile
  rootSha256 : Sha256
  valid : checkManifest modelId role revision relativeRoot entrypoint files = .ok ()

/-! ### Digests -/

/-- A text, or `null` where there is none. -/
def optional : Option Text → Json
  | some value => .str value
  | none => .null

def filePayload (item : WeightFile) : Json :=
  .obj [(py "relative_path", .str item.relativePath), (py "size_bytes", .int item.sizeBytes),
    (py "sha256", .str item.sha256.value)]

/-- `sorted(manifest.files, key=lambda item: item.relative_path)` -/
def sortedFiles (manifest : WeightManifest) : List WeightFile :=
  manifest.files.insertionSort fun a b => a.relativePath ≤ b.relativePath

def entrypointPayload (entrypoint : ModelLoadEntrypoint) : Json :=
  .obj [(py "kind", .str entrypoint.kind.value), (py "subfolder", .str entrypoint.subfolder),
    (py "weight_name", optional entrypoint.weightName),
    (py "image_encoder_folder", optional entrypoint.imageEncoderFolder),
    (py "variant", optional entrypoint.variant)]

/-- The document of `_manifest_payload`, without the root. -/
def manifestDocument (manifest : WeightManifest) : Json :=
  .obj [(py "schema_version", .str (py "specstyle.weight-manifest.v1")),
    (py "model_id", .str manifest.modelId), (py "role", .str manifest.role.value),
    (py "revision", .str manifest.revision), (py "relative_root", .str manifest.relativeRoot),
    (py "entrypoint", entrypointPayload manifest.entrypoint),
    (py "files", .arr ((sortedFiles manifest).map filePayload))]

/-- `_manifest_payload(manifest, include_root=False)`.  The interpreter refuses to
write an integer of more than 4300 digits. -/
def manifestPayload (manifest : WeightManifest) : Except Raised Bytes :=
  if manifest.files.any fun item => 10 ^ 4300 ≤ item.sizeBytes then .error .value
  else match encodeUtf8 (Json.dumps true (manifestDocument manifest)) with
    | some payload => .ok payload
    | none => .error .unicodeEncode

section Verify

variable (hashBytes : Bytes → Sha256)

/-- `manifest_root_sha256` -/
def manifestRootSha256 (manifest : WeightManifest) : Except Raised Sha256 := do
  let payload ← manifestPayload manifest
  return hashBytes payload

/-- `WeightManifest.with_computed_root` -/
def withComputedRoot (manifest : WeightManifest) : Except Raised WeightManifest := do
  let root ← manifestRootSha256 hashBytes manifest
  return { manifest with rootSha256 := root }

/-! ### Verification -/

/-- `_require_trusted_node` -/
def requireTrustedNode (node : TreeNode) : Except Raised Unit :=
  refuse node.shared (.infrastructure "model supply node not trusted")

/-- `_validate_root_fd` -/
def validateRoot : TreeNode → Except Raised Unit
  | .dir shared entries => requireTrustedNode (.dir shared entries)
  | _ => .error (.infrastructure "model supply root invalid")

/-- Opening a node with `O_DIRECTORY | O_NOFOLLOW`, and `_require_trusted_node`. -/
def requireDirectory : TreeNode → Except Raised Unit
  | .dir shared entries => requireTrustedNode (.dir shared entries)
  | _ => .error (.infrastructure "model supply path refused")

/-- `_open_child_directory` -/
def openChildDirectory (parent : TreeNode) (component : Text) : Except Raised TreeNode :=
  match parent.child component with
  | none => .error (.infrastructure "model supply path refused")
  | some child => do
    requireDirectory child
    return child

/-- `_open_directory` -/
def openDirectory (parent : TreeNode) (relativePath : Text) : Except Raised TreeNode :=
  (parts relativePath).foldlM openChildDirectory parent

/-- `_open_regular_file`: no link is followed.  A directory opens as well, and is
refused once its status is read; so is anything else that opens. -/
def openRegularFile (parent : TreeNode) (filename : Text) : Except Raised TreeNode :=
  match parent.child filename with
  | none => .error (.infrastructure "model supply path refused")
  | some (.link _) => .error (.infrastructure "model supply path refused")
  | some child => .ok child

/-- `_allowed_weight_file` -/
def allowedWeightFile (relativePath : Text) : Bool :=
  isSafetensors relativePath ||
    [py ".json", py ".txt", py ".model"].any fun suffix => suffix.isSuffixOf relativePath

/-- `_read_and_hash` -/
def readAndHash (component : TreeNode) (item : WeightFile) : Except Raised Unit := do
  refuse (!allowedWeightFile item.relativePath)
    (.infrastructure "model supply weight format refused")
  let components := parts item.relativePath
  let directory ← components.dropLast.foldlM openChildDirectory component
  let file ← openRegularFile directory (components.getLastD [])
  requireTrustedNode file
  match file.content with
  | none => .error (.infrastructure "model supply file not regular")
  | some content => do
    refuse (content.length ≠ item.sizeBytes)
      (.infrastructure "model supply file size mismatch")
    refuse (hashBytes content ≠ item.sha256)
      (.infrastructure "model supply file hash mismatch")

mutual

/-- What `_listed_files` finds at an entry that is not shared. -/
def listedNode : TreeNode → Text → Except Raised (List Text)
  | .link _, _ => .error (.infrastructure "model supply path refused")
  | .file _ _, relativePath => .ok [relativePath]
  | .dir shared entries, relativePath => do
    requireDirectory (.dir shared entries)
    listedFiles entries relativePath
  | .special _, _ => .error (.infrastructure "model supply file not regular")

/-- `_listed_files` of a directory with these entries. -/
def listedFiles : List (Text × TreeNode) → Text → Except Raised (List Text)
  | [], _ => .ok []
  | (name, node) :: entries, pre => do
    requireTrustedNode node
    let found ← listedNode node (TreeNode.relative pre name)
    let rest ← listedFiles entries pre
    return found ++ rest

end

/-- Equality of two sets of texts. -/
def sameTexts (actual expected : List Text) : Bool :=
  actual.all expected.contains && expected.all actual.contains

/-- `_verify_component` -/
def verifyComponent (root : TreeNode) (manifest : WeightManifest) (keepOpen : Bool) :
    Except Raised (Option TreeNode) := do
  validateRoot root
  let digest ← manifestRootSha256 hashBytes manifest
  refuse (digest ≠ manifest.rootSha256) (.domain "weight manifest root digest mismatch")
  let component ← openDirectory root manifest.relativeRoot
  let actualFiles ← listedFiles component.entries []
  let expectedFiles := manifest.files.map (·.relativePath)
  refuse (!sameTexts actualFiles expectedFiles)
    (.infrastructure "model supply files do not match manifest")
  manifest.files.forM (readAndHash hashBytes component)
  return if keepOpen then some component else none

/-! ### What verification says -/

/-- The files of the manifest are all there is in the component: the way to it
is of directories, everything below is plain, and nothing is shared. -/
structure Supplied (root : TreeNode) (manifest : WeightManifest) (component : TreeNode) : Prop where
  way : ∀ k ≤ (parts manifest.relativeRoot).length, ∃ entries,
    root.follow ((parts manifest.relativeRoot).take k) = some (.dir false entries)
  opened : root.follow (parts manifest.relativeRoot) = some component
  clean : component.Clean
  files : ∀ path : Text,
    (component.fileAt (parts path)).map (fun content => (content.length, hashBytes content)) =
      (manifest.files.find? fun item => item.relativePath = path).map fun item =>
        (item.sizeBytes, item.sha256)
  suffixes : ∀ item ∈ manifest.files, allowedWeightFile item.relativePath = true

section Walk

variable {node parent child below : TreeNode} {name : Text} {path : List Text}

theorem requireTrustedNode_ok : requireTrustedNode node = .ok () ↔ node.shared = false := refuse_ok

theorem requireDirectory_ok :
    requireDirectory node = .ok () ↔ ∃ entries, node = .dir false entries := by
  cases node with
  | dir shared entries =>
    show requireTrustedNode _ = .ok () ↔ _
    rw [requireTrustedNode_ok]
    constructor
    · intro h
      have hs : shared = false := h
      exact ⟨entries, by rw [hs]⟩
    · rintro ⟨_, h⟩
      cases h
      rfl
  | _ =>
    constructor
    · intro h
      cases h
    · rintro ⟨_, h⟩
      cases h

theorem openChildDirectory_ok : openChildDirectory parent name = .ok child ↔
    parent.child name = some child ∧ ∃ entries, child = .dir false entries := by
  unfold openChildDirectory
  rcases hc : parent.child name with - | next
  · simp
  · show (requireDirectory next >>= fun _ => Except.ok next) = .ok child ↔ _
    rw [check_ok_iff, requireDirectory_ok]
    constructor
    · rintro ⟨hdir, hn⟩
      cases hn
      exact ⟨rfl, hdir⟩
    · rintro ⟨hn, hdir⟩
      cases hn
      exact ⟨hdir, rfl⟩

/-- Walking down opens what the way leads to, if all on it are directories that
are not shared. -/
theorem walk_ok : path.foldlM openChildDirectory node = .ok below ↔
    node.follow path = some below ∧ ∀ k < path.length, ∃ entries,
      node.follow (path.take (k + 1)) = some (.dir false entries) := by
  induction path generalizing node with
  | nil =>
    show Except.ok node = .ok below ↔ some node = some below ∧ _
    simp
  | cons name path ih =>
    rw [List.foldlM_cons, bind_ok_iff]
    constructor
    · rintro ⟨next, hnext, hrest⟩
      obtain ⟨hchild, entries, hdir⟩ := openChildDirectory_ok.mp hnext
      obtain ⟨hfollow, hway⟩ := ih.mp hrest
      rw [TreeNode.follow_cons, hchild]
      refine ⟨hfollow, fun k hk => ?_⟩
      rw [List.take_succ_cons, TreeNode.follow_cons, hchild, Option.bind_some]
      cases k with
      | zero => exact ⟨entries, congrArg some hdir⟩
      | succ k => exact hway k (Nat.lt_of_succ_lt_succ hk)
    · rintro ⟨hfollow, hway⟩
      obtain ⟨entries, hfirst⟩ := hway 0 (Nat.succ_pos _)
      rw [List.take_succ_cons, TreeNode.follow_cons] at hfirst
      obtain ⟨next, hchild, hnext⟩ := Option.bind_eq_some_iff.mp hfirst
      rw [TreeNode.follow_cons, hchild] at hfollow
      refine ⟨next, openChildDirectory_ok.mpr ⟨hchild, entries, Option.some.inj hnext⟩,
        ih.mpr ⟨hfollow, fun k hk => ?_⟩⟩
      obtain ⟨es, hk⟩ := hway (k + 1) (Nat.succ_lt_succ hk)
      rw [List.take_succ_cons, TreeNode.follow_cons, hchild] at hk
      exact ⟨es, hk⟩

/-- In a clean tree every way can be walked down to its last name. -/
theorem walk_clean (hclean : node.Clean) (h : node.follow (path ++ [name]) = some below) :
    ∃ parent, path.foldlM openChildDirectory node = .ok parent ∧
      parent.child name = some below := by
  induction path generalizing node with
  | nil =>
    rw [List.nil_append, TreeNode.follow_cons] at h
    obtain ⟨last, hlast, hb⟩ := Option.bind_eq_some_iff.mp h
    cases hb
    exact ⟨node, rfl, hlast⟩
  | cons d path ih =>
    rw [List.cons_append, TreeNode.follow_cons] at h
    obtain ⟨next, hnext, hb⟩ := Option.bind_eq_some_iff.mp h
    have hone : node.follow [d] = some next := by
      rw [TreeNode.follow_cons, hnext]
      rfl
    have hcleanNext : next.Clean := hclean.follow hone
    obtain ⟨parent, hwalk, hlast⟩ := ih hcleanNext hb
    -- something is below it, so it is a directory
    have hdir : ∃ entries, next = .dir false entries := by
      cases next with
      | dir shared entries =>
        have hs : shared = false := hcleanNext.self.1
        exact ⟨entries, by rw [hs]⟩
      | _ => cases path <;> cases hb
    refine ⟨parent, ?_, hlast⟩
    rw [List.foldlM_cons, bind_ok_iff]
    exact ⟨next, openChildDirectory_ok.mpr ⟨hnext, hdir⟩, hwalk⟩

end Walk

section Listing

mutual

/-- The listing of a node finds everything plain, and every file below. -/
theorem listedNode_ok (node : TreeNode) (h : node.Named) (hs : node.shared = false) (pre : Text)
    {found : List Text} (hl : listedNode node pre = .ok found) :
    node.Clean ∧ ∀ p, p ∈ found ↔ ∃ path content, node.fileAt path = some content ∧
      p = spell pre path := by
  cases node with
  | link => cases hl
  | special => cases hl
  | file shared content =>
    cases hl
    refine ⟨TreeNode.clean_file.mpr hs, fun p => ?_⟩
    rw [List.mem_singleton]
    constructor
    · rintro rfl
      exact ⟨[], content, rfl, rfl⟩
    · rintro ⟨path, content, hfile, rfl⟩
      cases path with
      | nil => rfl
      | cons => cases hfile
  | dir shared entries =>
    rw [listedNode, check_ok_iff] at hl
    have hchild : ∀ name below, (TreeNode.dir shared entries).child name = some below ↔
        (name, below) ∈ entries := fun name below => TreeNode.child_eq_some h
    have hentries : ∀ e ∈ entries, TreeNode.Named e.2 := by
      cases h with
      | dir _ _ _ hbelow => exact hbelow
    obtain ⟨hclean, hfound⟩ := listedFiles_ok entries hentries pre hl.2
    refine ⟨(TreeNode.clean_dir h).mpr ⟨hs, hclean⟩, fun p => ?_⟩
    rw [hfound]
    constructor
    · rintro ⟨e, he, path, content, hfile, rfl⟩
      refine ⟨e.1 :: path, content, ?_, rfl⟩
      unfold TreeNode.fileAt at hfile ⊢
      rw [TreeNode.follow_cons, (hchild _ _).mpr he]
      exact hfile
    · rintro ⟨path, content, hfile, rfl⟩
      cases path with
      | nil => cases hfile
      | cons name path =>
        unfold TreeNode.fileAt at hfile
        rw [TreeNode.follow_cons, Option.bind_assoc] at hfile
        obtain ⟨below, hb, hfile⟩ := Option.bind_eq_some_iff.mp hfile
        exact ⟨(name, below), (hchild _ _).mp hb, path, content, hfile, rfl⟩

theorem listedFiles_ok (entries : List (Text × TreeNode)) (h : ∀ e ∈ entries, TreeNode.Named e.2)
    (pre : Text) {found : List Text} (hl : listedFiles entries pre = .ok found) :
    (∀ e ∈ entries, e.2.Clean) ∧ ∀ p, p ∈ found ↔ ∃ e ∈ entries, ∃ path content,
      e.2.fileAt path = some content ∧ p = spell pre (e.1 :: path) := by
  cases entries with
  | nil =>
    cases hl
    simp
  | cons e entries =>
    cases e with
    | mk name node =>
    rw [listedFiles, check_ok_iff, bind_ok_iff] at hl
    obtain ⟨htrusted, here, hhere, hl⟩ := hl
    rw [bind_ok_iff] at hl
    obtain ⟨rest, hrest, hl⟩ := hl
    cases hl
    rw [List.forall_mem_cons] at h
    obtain ⟨hclean, hfound⟩ :=
      listedNode_ok node h.1 (requireTrustedNode_ok.mp htrusted) _ hhere
    obtain ⟨hcleanRest, hfoundRest⟩ := listedFiles_ok entries h.2 pre hrest
    refine ⟨List.forall_mem_cons.mpr ⟨hclean, hcleanRest⟩, fun p => ?_⟩
    rw [List.mem_append, hfound, hfoundRest]
    simp only [List.exists_mem_cons_iff, TreeNode.spell_cons]

end

mutual

/-- Everything plain can be listed. -/
theorem listedNode_clean (node : TreeNode) (h : node.Named) (hclean : node.Clean) (pre : Text) :
    ∃ found, listedNode node pre = .ok found := by
  cases node with
  | link => cases hclean.self.2
  | special => cases hclean.self.2
  | file shared content => exact ⟨_, rfl⟩
  | dir shared entries =>
    have hentries : ∀ e ∈ entries, TreeNode.Named e.2 := by
      cases h with
      | dir _ _ _ hbelow => exact hbelow
    obtain ⟨hs, hbelow⟩ := (TreeNode.clean_dir h).mp hclean
    obtain ⟨found, hfound⟩ := listedFiles_clean entries hentries hbelow pre
    refine ⟨found, ?_⟩
    rw [listedNode, check_ok_iff, requireDirectory_ok]
    exact ⟨⟨entries, by rw [hs]⟩, hfound⟩

theorem listedFiles_clean (entries : List (Text × TreeNode))
    (h : ∀ e ∈ entries, TreeNode.Named e.2) (hclean : ∀ e ∈ entries, e.2.Clean) (pre : Text) :
    ∃ found, listedFiles entries pre = .ok found := by
  cases entries with
  | nil => exact ⟨[], rfl⟩
  | cons e entries =>
    cases e with
    | mk name node =>
    rw [List.forall_mem_cons] at h hclean
    obtain ⟨here, hhere⟩ := listedNode_clean node h.1 hclean.1 (TreeNode.relative pre name)
    obtain ⟨rest, hrest⟩ := listedFiles_clean entries h.2 hclean.2 pre
    refine ⟨here ++ rest, ?_⟩
    rw [listedFiles, requireTrustedNode_ok.mpr hclean.1.self.1, ok_bind, hhere, ok_bind, hrest]
    rfl

end

end Listing

/-! ### Paths of a manifest -/

theorem checkManifest_nodup (manifest : WeightManifest) :
    (manifest.files.map (·.relativePath)).Nodup := by
  have h := manifest.valid
  unfold checkManifest at h
  rw [check_ok_iff, check_ok_iff, check_ok_iff, check_ok_iff, check_ok_iff] at h
  have hn := refuse_ok.mp h.2.2.2.2.1
  simpa using hn

/-- The file of a path in a manifest. -/
theorem find_file {manifest : WeightManifest} {item : WeightFile} {path : Text} :
    (manifest.files.find? fun item => item.relativePath = path) = some item ↔
      item ∈ manifest.files ∧ item.relativePath = path := by
  have hn := checkManifest_nodup manifest
  constructor
  · intro h
    exact ⟨List.mem_of_find?_eq_some h, by simpa using List.find?_some h⟩
  · rintro ⟨hmem, hpath⟩
    rcases hf : manifest.files.find? fun item => item.relativePath = path with - | other
    · have hnone := List.find?_eq_none.mp hf item hmem
      exact absurd hpath (by simpa using hnone)
    · have hother := List.mem_of_find?_eq_some hf
      have heq : other.relativePath = path := by simpa using List.find?_some hf
      have hitem : other = item := List.inj_on_of_nodup_map hn hother hmem (heq.trans hpath.symm)
      rw [hf, hitem]

section ReadAndHash

variable {component : TreeNode} {item : WeightFile}

/-- In a clean component, a file is accepted exactly if its suffix is allowed and
its content has the size and the hash. -/
theorem readAndHash_ok (hclean : component.Clean) :
    readAndHash hashBytes component item = .ok () ↔ allowedWeightFile item.relativePath = true ∧
      ∃ content, component.fileAt (parts item.relativePath) = some content ∧
        content.length = item.sizeBytes ∧ hashBytes content = item.sha256 := by
  obtain ⟨dirs, name, hparts⟩ : ∃ dirs name, parts item.relativePath = dirs ++ [name] :=
    ⟨_, _, (List.dropLast_append_getLast (TreeNode.parts_ne_nil _)).symm⟩
  unfold readAndHash
  rw [check_ok_iff, refuse_ok, Bool.not_eq_false', hparts]
  refine and_congr_right fun _ => ?_
  have hlast : (dirs ++ [name]).getLastD [] = name := by simp
  dsimp only
  rw [List.dropLast_concat, hlast, bind_ok_iff]
  constructor
  · rintro ⟨directory, hwalk, h⟩
    rw [bind_ok_iff] at h
    obtain ⟨file, hopen, h⟩ := h
    rw [check_ok_iff] at h
    obtain ⟨-, h⟩ := h
    have hchild : directory.child name = some file := by
      unfold openRegularFile at hopen
      split at hopen
      · cases hopen
      · cases hopen
      · next hc =>
        cases hopen
        exact hc
    rcases hcontent : file.content with - | content
    · rw [hcontent] at h
      cases h
    · rw [hcontent] at h
      simp only [check_ok_iff, refuse_ok, decide_eq_false_iff_not, not_not] at h
      refine ⟨content, ?_, h.1, h.2⟩
      unfold TreeNode.fileAt
      rw [TreeNode.follow_append, (walk_ok.mp hwalk).1, Option.bind_some, TreeNode.follow_cons, hchild]
      exact hcontent
  · rintro ⟨content, hfile, hlength, hhash⟩
    obtain ⟨file, hfollow, hcontent⟩ := Option.bind_eq_some_iff.mp hfile
    obtain ⟨directory, hwalk, hchild⟩ := walk_clean hclean hfollow
    have hshared := (hclean _ _ hfollow).1
    refine ⟨directory, hwalk, ?_⟩
    have hopen : openRegularFile directory name = .ok file := by
      unfold openRegularFile
      rw [hchild]
      cases file with
      | link => cases hcontent
      | _ => rfl
    rw [hopen, ok_bind, requireTrustedNode_ok.mpr hshared, ok_bind, hcontent]
    simp only [check_ok_iff, refuse_ok, decide_eq_false_iff_not, not_not]
    exact ⟨hlength, hhash⟩

end ReadAndHash

theorem sameTexts_iff {actual expected : List Text} :
    sameTexts actual expected = true ↔ ∀ p, p ∈ actual ↔ p ∈ expected := by
  unfold sameTexts
  simp only [Bool.and_eq_true, List.all_eq_true, List.contains_iff_mem]
  exact ⟨fun h p => ⟨h.1 p, h.2 p⟩, fun h => ⟨fun p => (h p).mp, fun p => (h p).mpr⟩⟩

section Component

variable {component : TreeNode} {manifest : WeightManifest} {found : List Text}

/-- What a listing of a component holds, as the texts at which it has a file. -/
theorem mem_listing (hnamed : component.Named)
    (hfound : ∀ p, p ∈ found ↔ ∃ path content, component.fileAt path = some content ∧
      p = spell [] path) (hdir : component.content = none) (p : Text) :
    p ∈ found ↔ ∃ content, component.fileAt (parts p) = some content := by
  rw [hfound]
  constructor
  · rintro ⟨path, content, hfile, rfl⟩
    obtain ⟨file, hfollow, -⟩ := Option.bind_eq_some_iff.mp hfile
    have hne : path ≠ [] := by
      rintro rfl
      rw [TreeNode.fileAt, TreeNode.follow_nil, Option.bind_some, hdir] at hfile
      cases hfile
    rw [TreeNode.parts_spell hne (hnamed.follow hfollow).2]
    exact ⟨content, hfile⟩
  · rintro ⟨content, hfile⟩
    obtain ⟨file, hfollow, -⟩ := Option.bind_eq_some_iff.mp hfile
    have hp := fun part hpart => ((hnamed.follow hfollow).2 part hpart).1
    exact ⟨_, content, hfile, (TreeNode.spell_parts hp).symm⟩

/-- The listing of a clean component succeeds, and is where it has files. -/
theorem listing_clean (hnamed : component.Named) (hclean : component.Clean)
    (hdir : component.content = none) : ∃ found, listedFiles component.entries [] = .ok found ∧
      ∀ p, p ∈ found ↔ ∃ content, component.fileAt (parts p) = some content := by
  cases component with
  | dir shared entries =>
    obtain ⟨found, hfound⟩ := listedNode_clean _ hnamed hclean []
    have hspec := listedNode_ok _ hnamed hclean.self.1 [] hfound
    rw [listedNode, check_ok_iff] at hfound
    exact ⟨found, hfound.2, mem_listing hnamed hspec.2 hdir⟩
  | file => cases hdir
  | link => cases hclean.self.2
  | special => cases hclean.self.2

/-- A component whose listing succeeds is clean. -/
theorem clean_of_listing {entries : List (Text × TreeNode)}
    (hnamed : TreeNode.Named (.dir false entries)) (hl : listedFiles entries [] = .ok found) :
    (TreeNode.dir false entries).Clean := by
  have hnode : listedNode (.dir false entries) [] = .ok found := by
    rw [listedNode, check_ok_iff, requireDirectory_ok]
    exact ⟨⟨entries, rfl⟩, hl⟩
  exact (listedNode_ok _ hnamed rfl [] hnode).1

/-- The files of a manifest are those of a component exactly if each is there as
the manifest has it and no other is there. -/
theorem files_iff : (∀ path : Text,
    (component.fileAt (parts path)).map (fun content => (content.length, hashBytes content)) =
      (manifest.files.find? fun item => item.relativePath = path).map fun item =>
        (item.sizeBytes, item.sha256)) ↔
    (∀ item ∈ manifest.files, ∃ content,
      component.fileAt (parts item.relativePath) = some content ∧
        content.length = item.sizeBytes ∧ hashBytes content = item.sha256) ∧
    ∀ path, (∃ content, component.fileAt (parts path) = some content) →
      path ∈ manifest.files.map (·.relativePath) := by
  constructor
  · intro h
    constructor
    · intro item hitem
      have hpath := h item.relativePath
      rw [find_file.mpr ⟨hitem, rfl⟩, Option.map_some, Option.map_eq_some_iff] at hpath
      obtain ⟨content, hfile, hpair⟩ := hpath
      rw [Prod.mk.injEq] at hpair
      exact ⟨content, hfile, hpair⟩
    · rintro path ⟨content, hfile⟩
      have hpath := h path
      rw [hfile, Option.map_some, eq_comm, Option.map_eq_some_iff] at hpath
      obtain ⟨item, hfind, -⟩ := hpath
      obtain ⟨hmem, heq⟩ := find_file.mp hfind
      exact List.mem_map.mpr ⟨item, hmem, heq⟩
  · rintro ⟨hitems, hothers⟩ path
    rcases hfind : manifest.files.find? fun item => item.relativePath = path with - | item
    · rw [hfind]
      rcases hfile : component.fileAt (parts path) with - | content
      · rfl
      · obtain ⟨item, hmem, heq⟩ := List.mem_map.mp (hothers path ⟨content, hfile⟩)
        have hnone := List.find?_eq_none.mp hfind item hmem
        exact absurd heq (by simpa using hnone)
    · obtain ⟨hmem, rfl⟩ := find_file.mp hfind
      obtain ⟨content, hfile, hlength, hhash⟩ := hitems item hmem
      rw [hfind, hfile, Option.map_some, Option.map_some, hlength, hhash]

end Component

/-- **Verification accepts exactly the supplied components.** -/
theorem verifyComponent_iff {root : TreeNode} {manifest : WeightManifest} {keepOpen : Bool}
    {opened : Option TreeNode} (hnamed : root.Named)
    (hroot : manifestRootSha256 hashBytes manifest = .ok manifest.rootSha256) :
    verifyComponent hashBytes root manifest keepOpen = .ok opened ↔
      ∃ component, Supplied hashBytes root manifest component ∧
        opened = if keepOpen then some component else none := by
  unfold verifyComponent
  rw [check_ok_iff, hroot, ok_bind, check_ok_iff, refuse_ok]
  have hdigest : decide (manifest.rootSha256 ≠ manifest.rootSha256) = false := by simp
  simp only [hdigest, true_and]
  have hvalid : validateRoot root = .ok () ↔ ∃ entries, root = .dir false entries := by
    rw [← requireDirectory_ok]
    cases root <;> simp [validateRoot, requireDirectory]
  rw [hvalid, bind_ok_iff]
  constructor
  · rintro ⟨⟨rootEntries, hdir⟩, component, hopen, h⟩
    obtain ⟨hfollow, hway⟩ := walk_ok.mp hopen
    rw [bind_ok_iff] at h
    obtain ⟨found, hfound, h⟩ := h
    rw [check_ok_iff, check_ok_iff, forM_ok_iff] at h
    obtain ⟨hsame, hread, h⟩ := h
    cases h
    -- the last directory of the way is the component
    have hlength : 0 < (parts manifest.relativeRoot).length :=
      List.length_pos_iff.mpr (TreeNode.parts_ne_nil _)
    obtain ⟨entries, hlast⟩ := hway ((parts manifest.relativeRoot).length - 1) (by omega)
    rw [Nat.sub_add_cancel hlength, List.take_length, hfollow] at hlast
    cases hlast
    have hnamedC := (hnamed.follow hfollow).1
    have hclean := clean_of_listing hnamedC hfound
    obtain ⟨found', hfound', hmem⟩ := listing_clean hnamedC hclean rfl
    obtain rfl : found = found' := Except.ok.inj (hfound.symm.trans hfound')
    have hsets := sameTexts_iff.mp (by simpa using refuse_ok.mp hsame)
    have hfiles := fun item hitem => (readAndHash_ok hashBytes hclean).mp (hread item hitem)
    refine ⟨_, ⟨fun k hk => ?_, hfollow, hclean, ?_, fun item hitem => (hfiles item hitem).1⟩, rfl⟩
    · cases k with
      | zero => exact ⟨rootEntries, congrArg some hdir⟩
      | succ k => exact hway k hk
    · exact (files_iff hashBytes).mpr ⟨fun item hitem => (hfiles item hitem).2,
        fun path hpath => (hsets path).mp ((hmem path).mpr hpath)⟩
  · rintro ⟨component, hs, rfl⟩
    obtain ⟨rootEntries, hfirst⟩ := hs.way 0 (Nat.zero_le _)
    refine ⟨⟨rootEntries, Option.some.inj hfirst⟩, component,
      walk_ok.mpr ⟨hs.opened, fun k hk => hs.way (k + 1) hk⟩, ?_⟩
    obtain ⟨entries, hlast⟩ := hs.way _ (Nat.le_refl _)
    rw [List.take_length, hs.opened] at hlast
    cases hlast
    obtain ⟨found, hfound, hmem⟩ := listing_clean (hnamed.follow hs.opened).1 hs.clean rfl
    obtain ⟨hitems, hothers⟩ := (files_iff hashBytes).mp hs.files
    rw [hfound, ok_bind, check_ok_iff, check_ok_iff, forM_ok_iff, refuse_ok, Bool.not_eq_false',
      sameTexts_iff]
    refine ⟨fun p => ⟨fun hp => hothers p ((hmem p).mp hp), fun hp => ?_⟩, fun item hitem => ?_, rfl⟩
    · obtain ⟨item, hitem, rfl⟩ := List.mem_map.mp hp
      obtain ⟨content, hfile, -⟩ := hitems item hitem
      exact (hmem _).mpr ⟨content, hfile⟩
    · exact (readAndHash_ok hashBytes hs.clean).mpr ⟨hs.suffixes item hitem, hitems item hitem⟩

end Verify

/-! ### What the root digest says -/

/-- Two manifests that are equal up to the order of their files, the root, and the
spelling of surrogate pairs in the model and the variant. -/
structure Alike (a b : WeightManifest) : Prop where
  modelId : Json.join a.modelId = Json.join b.modelId
  role : a.role = b.role
  revision : a.revision = b.revision
  relativeRoot : a.relativeRoot = b.relativeRoot
  kind : a.entrypoint.kind = b.entrypoint.kind
  subfolder : a.entrypoint.subfolder = b.entrypoint.subfolder
  weightName : a.entrypoint.weightName = b.entrypoint.weightName
  imageEncoderFolder : a.entrypoint.imageEncoderFolder = b.entrypoint.imageEncoderFolder
  variant : a.entrypoint.variant.map Json.join = b.entrypoint.variant.map Json.join
  files : a.files.Perm b.files

section Digest

variable {a b : WeightManifest}

theorem EntrypointKind.value_injective {k l : EntrypointKind} (h : k.value = l.value) : k = l := by
  revert h
  cases k <;> cases l <;> decide

theorem ManifestRole.value_injective {k l : ManifestRole} (h : k.value = l.value) : k = l := by
  revert h
  cases k <;> cases l <;> decide

/-- An accepted path can be encoded. -/
theorem relativePath_scalar {value : Text} {field : String} (h : relativePath value field = .ok ()) :
    hasSurrogate value = false := by
  rw [← Bool.not_eq_true, ← encodeUtf8_eq_none_iff]
  intro hnone
  unfold relativePath at h
  rw [check_ok_iff, hnone] at h
  cases h.2

theorem join_relativePath {value : Text} {field : String} (h : relativePath value field = .ok ()) :
    Json.join value = value := Json.join_of_hasSurrogate (relativePath_scalar h)

theorem isRevision_scalar {value : Text} (h : isRevision value = true) :
    hasSurrogate value = false := by
  unfold isRevision at h
  simp only [Bool.and_eq_true, List.all_eq_true] at h
  refine hasSurrogate_of_ascii fun c hc => ?_
  have hc := h.2 c hc
  unfold isLowerHex isDigit at hc
  simp at hc
  omega

theorem checkManifest_revision (m : WeightManifest) : Json.join m.revision = m.revision := by
  have h := m.valid
  unfold checkManifest at h
  rw [check_ok_iff, check_ok_iff] at h
  refine Json.join_of_hasSurrogate (isRevision_scalar ?_)
  simpa using refuse_ok.mp h.2.1

theorem checkManifest_root (m : WeightManifest) : Json.join m.relativeRoot = m.relativeRoot := by
  have h := m.valid
  unfold checkManifest at h
  rw [check_ok_iff, check_ok_iff, check_ok_iff] at h
  exact join_relativePath h.2.2.1

section Entrypoint

variable (e : ModelLoadEntrypoint)

theorem checkEntrypoint_subfolder : Json.join e.subfolder = e.subfolder := by
  have h := e.valid
  unfold checkEntrypoint at h
  rw [check_ok_iff] at h
  exact join_relativePath h.1

theorem map_join_of_forM {value : Option Text} {field : String}
    (h : (value.forM fun v => relativePath v field) = .ok ()) : value.map Json.join = value := by
  cases value with
  | none => rfl
  | some v => exact congrArg some (join_relativePath h)

theorem checkEntrypoint_weightName : e.weightName.map Json.join = e.weightName := by
  have h := e.valid
  unfold checkEntrypoint at h
  rw [check_ok_iff, check_ok_iff, check_ok_iff, check_ok_iff, check_ok_iff] at h
  exact map_join_of_forM h.2.2.2.2.1

theorem checkEntrypoint_imageEncoder :
    e.imageEncoderFolder.map Json.join = e.imageEncoderFolder := by
  have h := e.valid
  unfold checkEntrypoint at h
  rw [check_ok_iff, check_ok_iff, check_ok_iff, check_ok_iff, check_ok_iff, check_ok_iff] at h
  exact map_join_of_forM h.2.2.2.2.2.1

end Entrypoint

theorem optional_sortKeys (value : Option Text) : (optional value).sortKeys = optional value := by
  cases value <;> rfl

theorem optional_join (value : Option Text) :
    (optional value).joinStrings = optional (value.map Json.join) := by
  cases value <;> rfl

theorem optional_injective {v w : Option Text} (h : optional v = optional w) : v = w := by
  cases v <;> cases w <;> cases h <;> rfl

/-- The fields of a file, its texts joined. -/
theorem filePayload_join (item : WeightFile) :
    (filePayload item).joinStrings = filePayload item := by
  have hpath := join_relativePath item.valid
  have hsha := Json.join_of_hasSurrogate (hasSurrogate_sha item.sha256)
  unfold filePayload
  simp only [Json.joinStrings, Json.joinFields, hpath, hsha]

theorem filePayload_injective {item other : WeightFile}
    (h : (filePayload item).sortKeys = (filePayload other).sortKeys) : item = other := by
  have hkeys : [py "relative_path", py "size_bytes", py "sha256"].Nodup := by decide +kernel
  have hkey := Json.field_sorted h hkeys hkeys
  have hpath := hkey (py "relative_path")
  have hsize := hkey (py "size_bytes")
  have hsha := hkey (py "sha256")
  simp +decide [Json.field_cons, Json.sortKeys] at hpath hsize hsha
  cases item
  cases other
  simp only at hpath hsize hsha
  cases hpath
  cases hsize
  cases Sha256.ext_value hsha
  rfl

/-- The fields of the entrypoint, its texts joined. -/
theorem entrypointPayload_join (e : ModelLoadEntrypoint) :
    (entrypointPayload e).joinStrings = .obj [(py "kind", .str e.kind.value),
      (py "subfolder", .str e.subfolder), (py "weight_name", optional e.weightName),
      (py "image_encoder_folder", optional e.imageEncoderFolder),
      (py "variant", optional (e.variant.map Json.join))] := by
  have hkind : Json.join e.kind.value = e.kind.value := by
    cases e.kind <;> decide +kernel
  unfold entrypointPayload
  simp only [Json.joinStrings, Json.joinFields, optional_join, hkind, checkEntrypoint_subfolder,
    checkEntrypoint_weightName, checkEntrypoint_imageEncoder]

/-- The fields of the document, its texts joined. -/
theorem manifestDocument_join (m : WeightManifest) :
    (manifestDocument m).joinStrings = .obj [
      (py "schema_version", .str (py "specstyle.weight-manifest.v1")),
      (py "model_id", .str (Json.join m.modelId)), (py "role", .str m.role.value),
      (py "revision", .str m.revision), (py "relative_root", .str m.relativeRoot),
      (py "entrypoint", (entrypointPayload m.entrypoint).joinStrings),
      (py "files", .arr ((sortedFiles m).map filePayload))] := by
  have hschema : Json.join (py "specstyle.weight-manifest.v1") = py "specstyle.weight-manifest.v1" := by
    decide +kernel
  have hrole : Json.join m.role.value = m.role.value := by
    cases m.role <;> decide +kernel
  have hfiles : (sortedFiles m).map (Json.joinStrings ∘ filePayload) = (sortedFiles m).map filePayload :=
    List.map_congr_left fun item _ => filePayload_join item
  unfold manifestDocument
  simp only [Json.joinStrings, Json.joinFields, Json.joinItems_eq_map, List.map_map, hschema, hrole,
    hfiles, checkManifest_revision, checkManifest_root]

/-- The document with its texts joined can be read back. -/
theorem manifestDocument_joined (m : WeightManifest) :
    Json.Joined true (manifestDocument m).joinStrings := by
  have hoptional : ∀ value, Json.Joined true (optional (Option.map Json.join value)) := by
    intro value
    cases value with
    | none => trivial
    | some v => exact fun _ => Json.isJoined_join v
  have hfiles : ∀ items : List WeightFile,
      Json.JoinedItems true (items.map filePayload) := by
    intro items
    induction items with
    | nil => trivial
    | cons item items ih =>
      refine ⟨?_, ih⟩
      have hpath := Json.isJoined_of_hasSurrogate (relativePath_scalar item.valid)
      have hsha := Json.isJoined_of_hasSurrogate (hasSurrogate_sha item.sha256)
      simp +decide [filePayload, Json.Joined, Json.JoinedFields, hpath, hsha]
  have hentrypoint : Json.Joined true (entrypointPayload m.entrypoint).joinStrings := by
    have hkind : Json.isJoined m.entrypoint.kind.value = true := by
      cases m.entrypoint.kind <;> decide +kernel
    have hname := hoptional m.entrypoint.weightName
    have hencoder := hoptional m.entrypoint.imageEncoderFolder
    have hsub := Json.isJoined_join m.entrypoint.subfolder
    rw [checkEntrypoint_weightName] at hname
    rw [checkEntrypoint_imageEncoder] at hencoder
    rw [checkEntrypoint_subfolder] at hsub
    rw [entrypointPayload_join]
    simp +decide [Json.Joined, Json.JoinedFields, hkind, hname, hencoder, hsub, hoptional]
  have hrole : Json.isJoined m.role.value = true := by
    cases m.role <;> decide +kernel
  have hrevision := Json.isJoined_join m.revision
  have hroot := Json.isJoined_join m.relativeRoot
  rw [checkManifest_revision] at hrevision
  rw [checkManifest_root] at hroot
  rw [manifestDocument_join]
  simp +decide [Json.Joined, Json.JoinedFields, hentrypoint, hfiles, hrole, hrevision, hroot,
    Json.isJoined_join]

theorem sortedFiles_perm (m : WeightManifest) : (sortedFiles m).Perm m.files :=
  List.perm_insertionSort _ _

theorem sortedFiles_sorted (m : WeightManifest) :
    (sortedFiles m).Pairwise fun a b => a.relativePath ≤ b.relativePath := by
  have : Std.Total fun a b : WeightFile => a.relativePath ≤ b.relativePath :=
    ⟨fun a b => le_total a.relativePath b.relativePath⟩
  have : IsTrans WeightFile fun a b => a.relativePath ≤ b.relativePath :=
    ⟨fun a b c hab hbc => le_trans hab hbc⟩
  exact List.pairwise_insertionSort _ _

/-- Paths are unique, so the order of the files is lost in the sorted list. -/
theorem sortedFiles_eq_iff : sortedFiles a = sortedFiles b ↔ a.files.Perm b.files := by
  constructor
  · intro h
    exact (sortedFiles_perm a).symm.trans (h ▸ sortedFiles_perm b)
  · intro h
    have hperm : (sortedFiles a).Perm (sortedFiles b) :=
      ((sortedFiles_perm a).trans h).trans (sortedFiles_perm b).symm
    refine hperm.eq_of_pairwise (fun x y hx hy hxy hyx => ?_) (sortedFiles_sorted a)
      (sortedFiles_sorted b)
    have hxb : x ∈ b.files := h.mem_iff.mp ((sortedFiles_perm a).mem_iff.mp hx)
    have hyb : y ∈ b.files := (sortedFiles_perm b).mem_iff.mp hy
    exact List.inj_on_of_nodup_map (checkManifest_nodup b) hxb hyb (le_antisymm hxy hyx)

/-- The joined documents of two manifests are in one order exactly if the manifests
are alike. -/
theorem document_iff :
    (manifestDocument a).joinStrings.sortKeys = (manifestDocument b).joinStrings.sortKeys ↔
      Alike a b := by
  rw [manifestDocument_join, manifestDocument_join]
  constructor
  · intro h
    have hkeys : [py "schema_version", py "model_id", py "role", py "revision",
      py "relative_root", py "entrypoint", py "files"].Nodup := by decide +kernel
    have hkey := Json.field_sorted h hkeys hkeys
    have hmodel := hkey (py "model_id")
    have hrole := hkey (py "role")
    have hrevision := hkey (py "revision")
    have hroot := hkey (py "relative_root")
    have hentrypoint := hkey (py "entrypoint")
    have hfiles := hkey (py "files")
    simp +decide [Json.field_cons, Json.sortKeys] at hmodel hrole hrevision hroot hentrypoint hfiles
    rw [entrypointPayload_join, entrypointPayload_join] at hentrypoint
    have hinner : [py "kind", py "subfolder", py "weight_name", py "image_encoder_folder",
      py "variant"].Nodup := by decide +kernel
    have hfield := Json.field_sorted hentrypoint hinner hinner
    have hkind := hfield (py "kind")
    have hsub := hfield (py "subfolder")
    have hname := hfield (py "weight_name")
    have hencoder := hfield (py "image_encoder_folder")
    have hvariant := hfield (py "variant")
    simp +decide [Json.field_cons, Json.sortKeys] at hkind hsub
    simp +decide [Json.field_cons, optional_sortKeys] at hname hencoder hvariant
    rw [Json.sortItems_eq_map, Json.sortItems_eq_map, List.map_map, List.map_map] at hfiles
    have hsorted : sortedFiles a = sortedFiles b :=
      List.map_injective_iff.mpr (fun _ _ h => filePayload_injective h) hfiles
    exact ⟨hmodel, ManifestRole.value_injective hrole, hrevision, hroot,
      EntrypointKind.value_injective hkind, hsub, optional_injective hname,
      optional_injective hencoder, optional_injective hvariant, sortedFiles_eq_iff.mp hsorted⟩
  · intro h
    rw [entrypointPayload_join, entrypointPayload_join, h.modelId, h.role, h.revision,
      h.relativeRoot, h.kind, h.subfolder, h.weightName, h.imageEncoderFolder, h.variant,
      sortedFiles_eq_iff.mpr h.files]

/-- The payload is ASCII, so it is encoded. -/
theorem manifestPayload_ok {payload : Bytes} : manifestPayload a = .ok payload ↔
    (∀ item ∈ a.files, item.sizeBytes < 10 ^ 4300) ∧
      encodeUtf8 (Json.dumps true (manifestDocument a)) = some payload := by
  unfold manifestPayload
  generalize 10 ^ 4300 = limit
  rcases hany : a.files.any fun item => limit ≤ item.sizeBytes with - | -
  · have hall : ∀ item ∈ a.files, item.sizeBytes < limit := by simpa using hany
    simp only [Bool.false_eq_true, if_false]
    rcases he : encodeUtf8 (Json.dumps true (manifestDocument a)) with - | bytes
    · simp
    · simp only [Except.ok.injEq, Option.some.injEq]
      exact ⟨fun h => ⟨hall, h⟩, fun h => h.2⟩
  · simp only [if_true]
    constructor
    · intro h
      cases h
    · rintro ⟨hall, -⟩
      obtain ⟨item, hitem, hsize⟩ := List.any_eq_true.mp hany
      exact absurd (hall item hitem) (by simpa using hsize)

theorem exists_payload {m : WeightManifest} (h : ∀ item ∈ m.files, item.sizeBytes < 10 ^ 4300) :
    ∃ payload, manifestPayload m = .ok payload := by
  rcases he : encodeUtf8 (Json.dumps true (manifestDocument m)) with - | payload
  · rw [encodeUtf8_eq_none_iff, ← Json.dumps_joinStrings, hasSurrogate, List.any_eq_true] at he
    obtain ⟨c, hc, hs⟩ := he
    have hascii := (Json.mem_dumps (manifestDocument_joined m) hc).2 rfl
    unfold isSurrogate at hs
    simp at hs
    omega
  · exact ⟨payload, manifestPayload_ok.mpr ⟨h, he⟩⟩

/-- The root is no part of the payload. -/
theorem manifestPayload_root (m : WeightManifest) (root : Sha256) :
    manifestPayload { m with rootSha256 := root } = manifestPayload m := rfl

/-- The payloads of two manifests are equal exactly if the manifests are alike. -/
theorem payload_iff {p q : Bytes} (hp : manifestPayload a = .ok p) (hq : manifestPayload b = .ok q) :
    p = q ↔ Alike a b := by
  obtain ⟨-, hp⟩ := manifestPayload_ok.mp hp
  obtain ⟨-, hq⟩ := manifestPayload_ok.mp hq
  rw [← document_iff]
  constructor
  · rintro rfl
    have hdumps := (decodeUtf8_encodeUtf8 hp).symm.trans (decodeUtf8_encodeUtf8 hq)
    refine Json.dumps_injective (manifestDocument_joined a) (manifestDocument_joined b) ?_
    rw [Json.dumps_joinStrings, Json.dumps_joinStrings]
    exact Option.some.inj hdumps
  · intro h
    have hdumps : Json.dumps true (manifestDocument a) = Json.dumps true (manifestDocument b) := by
      rw [← Json.dumps_joinStrings, ← Json.dumps_sortKeys, h, Json.dumps_sortKeys,
        Json.dumps_joinStrings]
    rw [hdumps, hq] at hp
    exact (Option.some.inj hp).symm

end Digest

/-- Equality up to the order of the files and the root. -/
structure SameManifest (a b : WeightManifest) : Prop where
  modelId : a.modelId = b.modelId
  role : a.role = b.role
  revision : a.revision = b.revision
  relativeRoot : a.relativeRoot = b.relativeRoot
  entrypoint : a.entrypoint = b.entrypoint
  files : a.files.Perm b.files

/-- **Verification is exact, and so is the root digest.**  A manifest whose root
digest matches is verified exactly on the trees that supply it.  Where the hash
keeps two payloads apart, the root digests are equal exactly if the manifests are
alike. -/
theorem weight_manifest_exact (hashBytes : Bytes → Sha256) :
    (∀ (root : TreeNode) (manifest : WeightManifest) (keepOpen : Bool) (opened : Option TreeNode),
      root.Named → manifestRootSha256 hashBytes manifest = .ok manifest.rootSha256 →
      (verifyComponent hashBytes root manifest keepOpen = .ok opened ↔
        ∃ component, Supplied hashBytes root manifest component ∧
          opened = if keepOpen then some component else none)) ∧
    ∀ (a b : WeightManifest) (p q : Bytes), manifestPayload a = .ok p → manifestPayload b = .ok q →
      (hashBytes p = hashBytes q → p = q) →
      (manifestRootSha256 hashBytes a = manifestRootSha256 hashBytes b ↔ Alike a b) := by
  refine ⟨fun root manifest keepOpen opened hnamed hroot =>
    verifyComponent_iff hashBytes hnamed hroot, fun a b p q hp hq hapart => ?_⟩
  rw [← payload_iff hp hq]
  unfold manifestRootSha256
  rw [hp, hq, ok_bind, ok_bind]
  constructor
  · intro h
    exact hapart (Except.ok.inj h)
  · rintro rfl
    rfl

/-! ### A supplied component -/

namespace Sample

/-- The hash of the source language. -/
abbrev hash : Bytes → Sha256 := Calibration.Codec.standard.hashBytes

def weights : WeightFile where
  relativePath := py "unet/model.safetensors"
  sizeBytes := 3
  sha256 := hash [1, 2, 3]
  valid := by decide +kernel

def config : WeightFile where
  relativePath := py "unet/options/config.json"
  sizeBytes := 2
  sha256 := hash [0x7B, 0x7D]
  valid := by decide +kernel

/-- Beside the model, and empty. -/
def encoder : WeightFile where
  relativePath := py "text_encoder/model.safetensors"
  sizeBytes := 0
  sha256 := hash []
  valid := by decide +kernel

def files : List WeightFile := [encoder, weights, config]

def entrypoint : ModelLoadEntrypoint where
  kind := .diffusersPretrained
  subfolder := py "unet"
  weightName := none
  imageEncoderFolder := none
  variant := none
  valid := by decide +kernel

/-- A manifest before its root is computed. -/
def draft (modelId : Text) (h : modelId ≠ []) : WeightManifest where
  modelId := modelId
  role := .base
  revision := List.replicate 40 0x61
  relativeRoot := py "models/base"
  entrypoint := entrypoint
  files := files
  rootSha256 := sampleHash
  valid := by
    unfold checkManifest
    rw [check_ok_iff, refuse_ok]
    exact ⟨decide_eq_false h, by decide +kernel⟩

/-- A model whose name is one character beyond the basic plane. -/
def character : WeightManifest := draft [0x1F600] (List.cons_ne_nil _ _)

/-- The same name as two surrogates. -/
def surrogatePair : WeightManifest := draft [0xD83D, 0xDE00] (List.cons_ne_nil _ _)

theorem alike : Alike surrogatePair character where
  modelId := by decide
  role := rfl
  revision := rfl
  relativeRoot := rfl
  kind := rfl
  subfolder := rfl
  weightName := rfl
  imageEncoderFolder := rfl
  variant := rfl
  files := List.Perm.refl _

theorem small : ∀ item ∈ files, item.sizeBytes < 10 ^ 4300 := by
  intro item hitem
  have hdigit : item.sizeBytes < 10 ^ 1 := by
    revert item
    decide
  exact lt_of_lt_of_le hdigit (pow_le_pow_right₀ (by decide) (by decide))

/-- A directory with entries. -/
def directory (entries : List (String × TreeNode)) : TreeNode :=
  .dir false (entries.map fun e => (py e.1, e.2))

theorem named_directory {entries : List (String × TreeNode)}
    (hown : (entries.map fun e => py e.1).Nodup)
    (hname : entries.all (fun e => !(py e.1).isEmpty && !(py e.1).contains 0x2F) = true)
    (hbelow : ∀ e ∈ entries, e.2.Named) : (directory entries).Named := by
  refine .dir _ ?_ ?_ ?_
  · rw [List.map_map]
    exact hown
  · intro bound hbound
    obtain ⟨e, he, rfl⟩ := List.mem_map.mp hbound
    simpa [TreeNode.IsName] using List.all_eq_true.mp hname e he
  · intro bound hbound
    obtain ⟨e, he, rfl⟩ := List.mem_map.mp hbound
    exact hbelow e he

def unet : TreeNode := directory
  [("model.safetensors", .file false [1, 2, 3]),
   ("options", directory [("config.json", .file false [0x7B, 0x7D])])]

def component : TreeNode := directory
  [("unet", unet), ("text_encoder", directory [("model.safetensors", .file false [])])]

def root : TreeNode := directory [("models", directory [("base", component)])]

theorem named_single {name : String} {below : TreeNode}
    (hname : (!(py name).isEmpty && !(py name).contains 0x2F) = true) (h : below.Named) :
    (directory [(name, below)]).Named := by
  refine named_directory (List.nodup_singleton _) ?_ (List.forall_mem_singleton.mpr h)
  rw [List.all_cons, hname]
  rfl

theorem root_named : root.Named := by
  have hoptions := @named_single "config.json" _ (by decide +kernel) (.file false [0x7B, 0x7D])
  have hunet : unet.Named := by
    refine named_directory (by decide +kernel) (by decide +kernel) ?_
    rintro e (_ | ⟨_, _ | ⟨_, he⟩⟩)
    · exact .file _ _
    · exact hoptions
    · cases he
  have hencoder := @named_single "model.safetensors" _ (by decide +kernel) (.file false [])
  have hcomponent : component.Named := by
    refine named_directory (by decide +kernel) (by decide +kernel) ?_
    rintro e (_ | ⟨_, _ | ⟨_, he⟩⟩)
    · exact hunet
    · exact hencoder
    · cases he
  exact named_single (by decide +kernel) (named_single (by decide +kernel) hcomponent)

/-- The manifest with a root. -/
def rooted (root : Sha256) : WeightManifest := { character with rootSha256 := root }

theorem verified (manifest : WeightManifest) (hpath : manifest.relativeRoot = py "models/base")
    (hfiles : manifest.files = files)
    (hdigest : manifestRootSha256 hash manifest = .ok manifest.rootSha256) :
    verifyComponent hash root manifest true = .ok (some component) := by
  have hopen : openDirectory root (py "models/base") = .ok component := by
    rw [openDirectory, show parts (py "models/base") = [py "models", py "base"] by decide +kernel]
    rfl
  have hlisted : listedFiles component.entries [] =
      .ok [weights.relativePath, config.relativePath, encoder.relativePath] := by
    decide +kernel
  have hread : files.forM (readAndHash hash component) = .ok () := by decide +kernel
  unfold verifyComponent
  rw [hdigest, hpath, hfiles]
  show (refuse (decide (manifest.rootSha256 ≠ manifest.rootSha256)) _ >>= _) = _
  rw [refuse_ok.mpr (by simp), ok_bind, hopen, ok_bind, hlisted, ok_bind]
  show (refuse (!sameTexts _ (files.map (·.relativePath))) _ >>= _) = _
  rw [refuse_ok.mpr (by decide +kernel), ok_bind, hread]
  rfl

end Sample

/-- A surrogate pair in the name of a model has the root digest of its character. -/
theorem weight_manifest_surrogates : ¬ ∀ (a b : WeightManifest) (p q : Bytes),
    manifestPayload a = .ok p → manifestPayload b = .ok q →
    (Sample.hash p = Sample.hash q → p = q) →
    (manifestRootSha256 Sample.hash a = manifestRootSha256 Sample.hash b ↔ SameManifest a b) := by
  intro h
  obtain ⟨p, hp⟩ := exists_payload (m := Sample.surrogatePair) Sample.small
  obtain ⟨q, hq⟩ := exists_payload (m := Sample.character) Sample.small
  obtain rfl : p = q := (payload_iff hp hq).mpr Sample.alike
  have hroots : manifestRootSha256 Sample.hash Sample.surrogatePair =
      manifestRootSha256 Sample.hash Sample.character := by
    show (manifestPayload Sample.surrogatePair >>= _) = (manifestPayload Sample.character >>= _)
    rw [show manifestPayload Sample.surrogatePair = _ from hp,
      show manifestPayload Sample.character = _ from hq]
  have hsame := (h _ _ p p hp hq (fun _ => rfl)).mp hroots
  exact absurd hsame.modelId (by decide)

/-- A manifest of three files that its root supplies, and one of the same digest. -/
theorem weight_manifest_exact_sample : ∃ manifest,
    withComputedRoot Sample.hash Sample.character = .ok manifest ∧
    Supplied Sample.hash Sample.root manifest Sample.component ∧
    manifestRootSha256 Sample.hash Sample.surrogatePair = .ok manifest.rootSha256 := by
  obtain ⟨p, hp⟩ := exists_payload (m := Sample.surrogatePair) Sample.small
  obtain ⟨q, hq⟩ := exists_payload (m := Sample.character) Sample.small
  obtain rfl : p = q := (payload_iff hp hq).mpr Sample.alike
  have hroot : manifestRootSha256 Sample.hash Sample.character = .ok (Sample.hash p) := by
    unfold manifestRootSha256
    rw [hq]
    rfl
  have hrooted : manifestRootSha256 Sample.hash (Sample.rooted (Sample.hash p)) =
      .ok (Sample.rooted (Sample.hash p)).rootSha256 := by
    unfold manifestRootSha256 Sample.rooted
    rw [manifestPayload_root, hq]
    rfl
  refine ⟨Sample.rooted (Sample.hash p), ?_, ?_, ?_⟩
  · unfold withComputedRoot
    rw [hroot]
    rfl
  · have hverified := Sample.verified (Sample.rooted (Sample.hash p)) rfl rfl hrooted
    obtain ⟨component, hsupplied, hopened⟩ := ((weight_manifest_exact Sample.hash).1 _ _ _ _
      Sample.root_named hrooted).mp hverified
    rw [if_pos rfl] at hopened
    cases hopened
    exact hsupplied
  · rw [((weight_manifest_exact Sample.hash).2 _ _ p p hp hq (fun _ => rfl)).mpr Sample.alike]
    exact hroot

end Weights

end SpecStyle
