/-
SpecStyle/Calibration/SplitIsolation.lean

Isolation of the three splits of a held-out study.

The loop over the manifest keeps, for each kind of identity, a map from the
identity to its split, and refuses an identity that turns up in a second split.
The maps are keyed by text.  `Kept` says what such a map knows after some
samples; one round keeps it (`Kept.round`), so an accepted manifest has every
text in one split only (`partition_run`).

A hash is not its text: two spellings differ in the case of their digits
(`SameHash`).  An item's hashes are read in lower case, a cohort member's as
they are written.  So the splits are isolated by hash exactly when no hash of a
member is spelled in two ways (`Partitioned.isolated`,
`Isolated.spelledOnce`).
-/
import SpecStyle.Calibration.FormalEvidence
import Mathlib.Data.List.Dedup
import Mathlib.Data.List.Pairwise

namespace SpecStyle

open PyLib

namespace Calibration

variable {C : Codec}

/-! ### Maps from identities to splits -/

/-- The map knows the identities of each sample under its split. -/
def Kept (ids : Sample → List Text) (assigned : Assigned) (samples : List (SplitName × Sample)) :
    Prop :=
  ∀ s ∈ samples, ∀ i ∈ ids s.2, assigned.lookup i = some s.1

theorem uniqueSplit_ok {message : String} {split : SplitName} {assigned assigned' : Assigned}
    {identity : Text} (h : uniqueSplit message split assigned identity = .ok assigned') :
    (∀ s, assigned.lookup identity = some s → s = split) ∧
      assigned' = (identity, split) :: assigned := by
  obtain ⟨hc, h⟩ := check_ok_iff.mp h
  rw [demand_ok] at hc
  cases h
  refine ⟨fun s hs => ?_, rfl⟩
  rw [hs] at hc
  simpa using hc

/-- A new entry never contradicts an old one. -/
theorem uniqueSplit_lookup {message : String} {split : SplitName} {assigned assigned' : Assigned}
    {identity i : Text} {s : SplitName}
    (h : uniqueSplit message split assigned identity = .ok assigned')
    (hi : assigned.lookup i = some s) : assigned'.lookup i = some s := by
  obtain ⟨hold, rfl⟩ := uniqueSplit_ok h
  by_cases heq : i = identity
  · subst heq
    rw [List.lookup_cons_self, hold s hi]
  · rw [List.lookup_cons, beq_false_of_ne heq]
    exact hi

/-- All identities of a sample are entered, and the old entries stay. -/
theorem foldlM_uniqueSplit {message : String} {split : SplitName} {ids : List Text}
    {assigned assigned' : Assigned}
    (h : ids.foldlM (uniqueSplit message split) assigned = .ok assigned') :
    (∀ i s, assigned.lookup i = some s → assigned'.lookup i = some s) ∧
      ∀ i ∈ ids, assigned'.lookup i = some split := by
  induction ids generalizing assigned with
  | nil =>
      cases h
      exact ⟨fun _ _ hs => hs, fun i hi => nomatch hi⟩
  | cons identity ids ih =>
      rw [List.foldlM_cons] at h
      obtain ⟨assigned1, h1, h2⟩ := bind_ok_iff.mp h
      obtain ⟨hold, hnew⟩ := ih h2
      refine ⟨fun i s hs => hold i s (uniqueSplit_lookup h1 hs), fun i hi => ?_⟩
      rcases List.mem_cons.mp hi with rfl | hi
      · apply hold
        rw [(uniqueSplit_ok h1).2]
        exact List.lookup_cons_self
      · exact hnew i hi

/-- One sample more. -/
theorem Kept.round {ids : Sample → List Text} {assigned assigned' : Assigned}
    {samples : List (SplitName × Sample)} {message : String} {split : SplitName} {s : Sample}
    (hk : Kept ids assigned samples)
    (h : (ids s).foldlM (uniqueSplit message split) assigned = .ok assigned') :
    Kept ids assigned' (samples ++ [(split, s)]) := by
  obtain ⟨hold, hnew⟩ := foldlM_uniqueSplit h
  intro t ht i hi
  rcases List.mem_append.mp ht with ht | ht
  · exact hold i t.1 (hk t ht i hi)
  · rw [List.mem_singleton] at ht
    subst ht
    exact hnew i hi

/-- An identity of two samples stands in one split. -/
theorem Kept.unique {ids : Sample → List Text} {assigned : Assigned}
    {samples : List (SplitName × Sample)} (hk : Kept ids assigned samples)
    {s t : SplitName × Sample} (hs : s ∈ samples) (ht : t ∈ samples) {i : Text} (his : i ∈ ids s.2)
    (hit : i ∈ ids t.2) : s.1 = t.1 := by
  have h1 := hk s hs i his
  have h2 := hk t ht i hit
  exact Option.some.inj (h1.symm.trans h2)

/-! ### The partition -/

/-- The candidates of a sample are written in different ways. -/
theorem identities_nodup {raw : Dict} {unit : ObservationUnit} {identities : Identities}
    (h : identitiesOf C unit raw = .ok identities) : identities.candidates.Nodup := by
  unfold identitiesOf at h
  split at h
  · obtain ⟨expected, -, h⟩ := bind_ok_iff.mp h
    cases hm : raw.get "members" with
    | arr values =>
      rw [hm] at h
      obtain ⟨members, -, h⟩ := bind_ok_iff.mp h
      obtain ⟨hcounts, h⟩ := check_ok_iff.mp h
      obtain ⟨material, -, h⟩ := bind_ok_iff.mp h
      obtain ⟨digest, -, h⟩ := bind_ok_iff.mp h
      obtain ⟨-, h⟩ := check_ok_iff.mp h
      obtain ⟨binding, -, h⟩ := bind_ok_iff.mp h
      cases h
      simp only [demand_ok, Bool.and_eq_true, beq_iff_eq] at hcounts
      obtain ⟨⟨hlen, -⟩, hdedup⟩ := hcounts
      -- as many different texts as members
      rw [← List.dedup_eq_self]
      apply (List.dedup_sublist _).eq_of_length
      rw [hdedup, List.length_map, hlen]
    | _ =>
      rw [hm] at h
      cases h
  · obtain ⟨binding, -, h⟩ := bind_ok_iff.mp h
    obtain ⟨source, -, h⟩ := bind_ok_iff.mp h
    obtain ⟨reference, -, h⟩ := bind_ok_iff.mp h
    cases h
    exact List.nodup_singleton _

theorem sample_nodup {value : Json} {unit : ObservationUnit} {s : Sample}
    (h : sample C value unit = .ok s) : s.candidates.Nodup := by
  obtain ⟨raw, -, h⟩ := bind_ok_iff.mp h
  obtain ⟨sampleId, -, h⟩ := bind_ok_iff.mp h
  obtain ⟨_, -, h⟩ := bind_ok_iff.mp h
  obtain ⟨_, -, h⟩ := bind_ok_iff.mp h
  obtain ⟨_, -, h⟩ := bind_ok_iff.mp h
  obtain ⟨identities, hi, h⟩ := bind_ok_iff.mp h
  cases h
  exact identities_nodup hi

/-- What the loop knows after some values of the manifest. -/
structure Partitioned (C : Codec) (unit : ObservationUnit) (salt : Text) (values : List Json)
    (p : Partition) : Prop where
  read : List.Forall₂ (fun value s => sample C value unit = .ok s.2) values p.samples
  families : Kept (·.families) p.familySplits p.samples
  candidates : Kept (·.candidates) p.candidateSplits p.samples
  members : Kept (·.memberIds) p.memberSplits p.samples
  assigned : ∀ s ∈ p.samples, ∃ group, Sha256.new s.2.group = .ok group ∧
    assignSplit C group salt = .ok s.1

theorem mapError_ok {α ε ε' : Type} {f : ε → ε'} {x : Except ε α} {a : α}
    (h : x.mapError f = .ok a) : x = .ok a := by
  cases x with
  | ok b =>
      cases h
      rfl
  | error e => cases h

/-- One round of the loop. -/
theorem partition_round {unit : ObservationUnit} {salt : Text} {seen : List Json} {p p' : Partition}
    {value : Json} (hp : Partitioned C unit salt seen p)
    (h : partitionStep C unit salt p value = .ok p') :
    Partitioned C unit salt (seen ++ [value]) p' := by
  obtain ⟨s, hs, h⟩ := bind_ok_iff.mp h
  obtain ⟨group, hgroup, h⟩ := bind_ok_iff.mp h
  obtain ⟨split, hsplit, h⟩ := bind_ok_iff.mp h
  obtain ⟨-, h⟩ := check_ok_iff.mp h
  obtain ⟨groupSplits, -, h⟩ := bind_ok_iff.mp h
  obtain ⟨familySplits, hf, h⟩ := bind_ok_iff.mp h
  obtain ⟨candidateSplits, hc, h⟩ := bind_ok_iff.mp h
  obtain ⟨memberSplits, hm, h⟩ := bind_ok_iff.mp h
  obtain ⟨-, h⟩ := check_ok_iff.mp h
  cases h
  exact {
    read := List.rel_append hp.read (.cons hs .nil)
    families := hp.families.round hf
    candidates := hp.candidates.round hc
    members := hp.members.round hm
    assigned := by
      intro t ht
      rcases List.mem_append.mp ht with ht | ht
      · exact hp.assigned t ht
      · rw [List.mem_singleton] at ht
        subst ht
        exact ⟨group, mapError_ok hgroup, hsplit⟩ }

/-- The whole loop. -/
theorem partition_run {unit : ObservationUnit} {salt : Text} {values : List Json}
    {samples : List (SplitName × Sample)}
    (h : partitionSamples C values unit salt = .ok samples) :
    ∃ p, p.samples = samples ∧ Partitioned C unit salt values p := by
  obtain ⟨p, hp, h⟩ := bind_ok_iff.mp h
  cases h
  have hround : ∀ seen q value q', Partitioned C unit salt seen q →
      partitionStep C unit salt q value = .ok q' → Partitioned C unit salt (seen ++ [value]) q' :=
    fun seen q value q' hq hstep => partition_round hq hstep
  refine ⟨p, rfl, foldlM_ok_run hround ?_ hp⟩
  constructor
  case read => exact .nil
  all_goals
    intro s hs
    cases hs

/-! ### Isolation -/

/-- Two texts spell one hash. -/
def SameHash (s t : Text) : Prop := ∃ a, Sha256.new s = .ok a ∧ Sha256.new t = .ok a

/-- Both texts are hashes, and equal in lower case. -/
def spellsSame (s t : Text) : Bool :=
  match Sha256.new s, Sha256.new t with
  | .ok a, .ok b => a == b
  | _, _ => false

theorem spellsSame_iff {s t : Text} : spellsSame s t = true ↔ SameHash s t := by
  unfold spellsSame SameHash
  cases Sha256.new s with
  | error r => simp
  | ok a =>
    cases Sha256.new t with
    | error r => simp
    | ok b =>
      show (a == b) = true ↔ _
      rw [beq_iff_eq]
      constructor
      · rintro rfl
        exact ⟨a, rfl, rfl⟩
      · rintro ⟨c, ha, hb⟩
        cases ha
        cases hb
        rfl

instance SameHash.decidable (s t : Text) : Decidable (SameHash s t) :=
  decidable_of_iff _ spellsSame_iff

theorem SameHash.symm {s t : Text} (h : SameHash s t) : SameHash t s := by
  obtain ⟨a, hs, ht⟩ := h
  exact ⟨a, ht, hs⟩

/-- The splits share no identity, each sample is in the split of its isolation
group, and the members of a cohort are different candidates. -/
structure Isolated (C : Codec) (salt : Text) (samples : List (SplitName × Sample)) : Prop where
  groups : ∀ s ∈ samples, ∀ t ∈ samples, SameHash s.2.group t.2.group → s.1 = t.1
  families : ∀ s ∈ samples, ∀ t ∈ samples, ∀ f ∈ s.2.families, ∀ g ∈ t.2.families,
    SameHash f g → s.1 = t.1
  candidates : ∀ s ∈ samples, ∀ t ∈ samples, ∀ f ∈ s.2.candidates, ∀ g ∈ t.2.candidates,
    SameHash f g → s.1 = t.1
  members : ∀ s ∈ samples, ∀ t ∈ samples, ∀ m ∈ s.2.memberIds, m ∈ t.2.memberIds → s.1 = t.1
  assigned : ∀ s ∈ samples, ∃ group, Sha256.new s.2.group = .ok group ∧
    assignSplit C group salt = .ok s.1
  distinct : ∀ s ∈ samples, s.2.candidates.Pairwise fun f g => ¬ SameHash f g

/-- A family or a candidate of two splits is spelled in one way, and so is a
candidate of one sample. -/
structure SpelledOnce (samples : List (SplitName × Sample)) : Prop where
  families : ∀ s ∈ samples, ∀ t ∈ samples, s.1 ≠ t.1 → ∀ f ∈ s.2.families, ∀ g ∈ t.2.families,
    SameHash f g → f = g
  candidates : ∀ s ∈ samples, ∀ t ∈ samples, s.1 ≠ t.1 → ∀ f ∈ s.2.candidates,
    ∀ g ∈ t.2.candidates, SameHash f g → f = g
  cohort : ∀ s ∈ samples, ∀ f ∈ s.2.candidates, ∀ g ∈ s.2.candidates, SameHash f g → f = g

/-- A hash of both lists is spelled in one way. -/
def SpelledAlike (fs gs : List Text) : Prop := ∀ f ∈ fs, ∀ g ∈ gs, SameHash f g → f = g

instance SpelledAlike.decidable (fs gs : List Text) : Decidable (SpelledAlike fs gs) :=
  inferInstanceAs (Decidable (∀ f ∈ fs, ∀ g ∈ gs, SameHash f g → f = g))

instance SpelledOnce.decidable (samples : List (SplitName × Sample)) :
    Decidable (SpelledOnce samples) :=
  decidable_of_iff
    ((∀ s ∈ samples, ∀ t ∈ samples, s.1 ≠ t.1 → SpelledAlike s.2.families t.2.families) ∧
      (∀ s ∈ samples, ∀ t ∈ samples, s.1 ≠ t.1 → SpelledAlike s.2.candidates t.2.candidates) ∧
      ∀ s ∈ samples, SpelledAlike s.2.candidates s.2.candidates)
    ⟨fun ⟨hf, hc, hm⟩ => ⟨hf, hc, hm⟩, fun ⟨hf, hc, hm⟩ => ⟨hf, hc, hm⟩⟩

/-- Isolation by text is isolation by hash where a hash has one spelling. -/
theorem Partitioned.isolated {unit : ObservationUnit} {salt : Text} {values : List Json}
    {p : Partition} (hp : Partitioned C unit salt values p) (hs : SpelledOnce p.samples) :
    Isolated C salt p.samples := by
  have once : ∀ {ids : Sample → List Text} {assigned : Assigned}, Kept ids assigned p.samples →
      (∀ s ∈ p.samples, ∀ t ∈ p.samples, s.1 ≠ t.1 → ∀ f ∈ ids s.2, ∀ g ∈ ids t.2,
        SameHash f g → f = g) →
      ∀ s ∈ p.samples, ∀ t ∈ p.samples, ∀ f ∈ ids s.2, ∀ g ∈ ids t.2, SameHash f g → s.1 = t.1 := by
    intro ids assigned hk hone s hs t ht f hf g hg hsame
    by_contra hne
    have hfg := hone s hs t ht hne f hf g hg hsame
    subst hfg
    exact hne (hk.unique hs ht hf hg)
  exact {
    families := once hp.families hs.families
    candidates := once hp.candidates hs.candidates
    members := fun s hs t ht m hms hmt => hp.members.unique hs ht hms hmt
    assigned := hp.assigned
    groups := by
      -- the split is a function of the group's hash
      intro s hs t ht hsame
      obtain ⟨a, hsa, hta⟩ := hsame
      obtain ⟨b, hsb, hsplit⟩ := hp.assigned s hs
      obtain ⟨c, htc, htsplit⟩ := hp.assigned t ht
      rw [hsa] at hsb
      rw [hta] at htc
      cases hsb
      cases htc
      rw [hsplit] at htsplit
      exact Except.ok.inj htsplit
    distinct := by
      intro s hmem
      obtain ⟨value, -, hvalue⟩ := forall₂_source hp.read hmem
      have hnodup := sample_nodup hvalue
      exact hnodup.imp_of_mem fun hf hg hne hsame => hne (hs.cohort s hmem _ hf _ hg hsame) }

/-- Isolation leaves no hash of two splits, and none of two members, to spell. -/
theorem Isolated.spelledOnce {salt : Text} {samples : List (SplitName × Sample)}
    (h : Isolated C salt samples) : SpelledOnce samples where
  families := fun s hs t ht hne f hf g hg hsame =>
    absurd (h.families s hs t ht f hf g hg hsame) hne
  candidates := fun s hs t ht hne f hf g hg hsame =>
    absurd (h.candidates s hs t ht f hf g hg hsame) hne
  cohort := by
    intro s hs f hf g hg hsame
    by_contra hne
    have hsymm : Std.Symm fun f g : Text => ¬ SameHash f g := ⟨fun f g hfg h => hfg h.symm⟩
    exact (h.distinct s hs).forall hf hg hne hsame

/-- The samples of an accepted manifest come out of the loop. -/
theorem manifest_partitioned {data : Bytes} {target : TargetCell} {plan : Study C} {m : Manifest}
    (h : manifest C data target plan = .ok m) :
    ∃ values p, p.samples = m.samples ∧
      Partitioned C plan.metric.observationUnit plan.salt values p := by
  obtain ⟨document, -, h⟩ := bind_ok_iff.mp h
  obtain ⟨raw, -, h⟩ := bind_ok_iff.mp h
  obtain ⟨-, h⟩ := check_ok_iff.mp h
  obtain ⟨samples, hsamples, h⟩ := bind_ok_iff.mp h
  obtain ⟨digest, -, h⟩ := bind_ok_iff.mp h
  cases h
  obtain ⟨p, rfl, hp⟩ := partition_run hsamples
  exact ⟨_, p, rfl, hp⟩

/-- The manifest of a chain has been read from its document. -/
theorem readChain_manifest {documents : Documents} {chain : Chain C}
    (h : readChain C documents = .ok chain) :
    manifest C documents.sampleManifest chain.target chain.study = .ok chain.manifest := by
  obtain ⟨target, -, h⟩ := bind_ok_iff.mp h
  obtain ⟨plan, -, h⟩ := bind_ok_iff.mp h
  obtain ⟨-, h⟩ := check_ok_iff.mp h
  obtain ⟨m, hm, h⟩ := bind_ok_iff.mp h
  obtain ⟨calibration, -, h⟩ := bind_ok_iff.mp h
  obtain ⟨validation, -, h⟩ := bind_ok_iff.mp h
  obtain ⟨commitment, -, h⟩ := bind_ok_iff.mp h
  obtain ⟨approval, -, h⟩ := bind_ok_iff.mp h
  cases h
  exact hm

/-- The splits of an accepted manifest are isolated by hash exactly when no
hash that matters is spelled in two ways. -/
theorem split_isolation {documents : Documents} {report : Bytes}
    (h : prepareMetricEvidence C documents = .ok report) :
    ∃ chain, readChain C documents = .ok chain ∧
      (Isolated C chain.study.salt chain.manifest.samples ↔
        SpelledOnce chain.manifest.samples) := by
  obtain ⟨chain, hchain, -⟩ := bind_ok_iff.mp h
  refine ⟨chain, hchain, Isolated.spelledOnce, fun hs => ?_⟩
  obtain ⟨values, p, hp, hpart⟩ := manifest_partitioned (readChain_manifest hchain)
  rw [← hp] at hs ⊢
  exact hpart.isolated hs

/-! ### Documents as they are written -/

namespace Written

/-- A text. -/
def str (s : String) : Json := .str (py s)

/-- A hash as a number. -/
def hash (n : Nat) : Json := .str (hexDigest n)

/-- A hash of sixty-four equal digits. -/
def digits (c : CodePoint) : Json := .str (List.replicate 64 c)

def half : Json := .float (py "0.5")

/-- The canonical bytes of a document. -/
def bytesOf (document : Json) : Bytes := (encodeUtf8 (Json.dumps false document)).getD []

/-- The fields of an object. -/
def fieldsOf : Json → Dict
  | .obj fields => fields
  | _ => []

/-- An object that is written and read back. -/
def isPlain : Json → Bool
  | .obj fields =>
    decide (Json.Exact false (.obj fields)) &&
      decide (Json.Settled Floats.binary64 (.obj fields)) && !Json.surrogates (.obj fields)
  | _ => false

theorem canonicalJson_bytesOf {document : Json} (h : isPlain document = true) :
    canonicalJson .standard document = .ok (bytesOf document) := by
  cases document with
  | obj fields =>
    simp only [isPlain, Bool.and_eq_true, decide_eq_true_eq, Bool.not_eq_true'] at h
    obtain ⟨⟨hx, hs⟩, hc⟩ := h
    unfold canonicalJson bytesOf
    rw [← Json.hasSurrogate_dumps hx] at hc
    have hrewrite : (Json.obj fields).rewrite Codec.standard.toFloats = some (.obj fields) :=
      Json.rewrite_settled _ hs
    rw [hrewrite, Option.bind_some, encodeUtf8_of_scalar hc]
    rfl
  | _ => cases h

theorem load_bytesOf {document : Json} (h : isPlain document = true) :
    loadCanonical .standard (bytesOf document) = .ok (fieldsOf (Json.sortKeys document)) := by
  have hcanonical := canonicalJson_bytesOf h
  cases document with
  | obj fields =>
    simp only [isPlain, Bool.and_eq_true, decide_eq_true_eq, Bool.not_eq_true'] at h
    exact loadCanonical_canonicalJson h.1.1 h.1.2 hcanonical
  | _ => cases h

/-- The hash of the bytes of a document. -/
def HashIs (document : Json) (n : Nat) : Prop :=
  Codec.standard.hashBytes (bytesOf document) = ⟨hexDigest n, hexDigest_valid n⟩

instance HashIs.decidable (document : Json) (n : Nat) : Decidable (HashIs document n) :=
  inferInstanceAs (Decidable (_ = _))

end Written

/-! ### A copy in upper case

Two chains with three cohorts.  They differ in one candidate of calibration: it
is a test candidate in upper case, or one of its own.
-/

/-- The first candidate of calibration. -/
inductive FirstCandidate
  | copy
  | own

namespace FirstCandidate

open Written

def pin : Json := .obj [(py "id", str "p"), (py "revision", str "1"), (py "sha256", digits 0x30)]

def metric (id layer unit operator : String) : Json := .obj
  [(py "binding_pin", pin), (py "implementation_pin", pin), (py "layer", str layer),
   (py "metric_id", str id), (py "observation_unit", str unit), (py "operator", str operator),
   (py "preprocessor_pin", pin), (py "verifier_pin", pin)]

def targetCell : Json := .obj
  [(py "compiler_pin", pin), (py "domain_profile", str "structure_only"),
   (py "domain_verifier_version", str "1"), (py "generation_profile", str "production"),
   (py "metrics", .arr
     [metric "batch_style_consistency" "L2" "batch" "lte",
      metric "reference_style_statistics_similarity" "L2" "item" "gte",
      metric "structure_edge_similarity" "L3" "item" "gte"]),
   (py "output_profile", str "xhs_grid"), (py "output_profile_pin", pin),
   (py "rule_catalog_pin", pin),
   (py "schema_version", str "specstyle.production.target_cell.v1"), (py "style_pack_id", str "p"),
   (py "style_pack_pin", pin)]

def targetSha256 : Json := hash 0xdba643bacfd7bb9c3a778d70d8bf6dac4c4685a62bc13505baed697211e22389
def protocolSha256 : Json := hash 0x274c2398f15f95b3dc12bf50109278cbe6b21ab1c12e761b62e2f43e5a0935a0
def planSha256 : Json := hash 0x92d3d70d95f2c4ee9bb8ccbca1835cc26d0e70d538b398e1b0ca9c254490b3a7
def bindingsSha256 : Json := hash 0x8b0b2d7a2b1262f5c4519005e39260d2e4f1ed8de44cde5d63f6fb6795c6dd2c

/-- The digit of the candidate. -/
def digit : FirstCandidate → CodePoint
  | copy => 0x41
  | own => 0x34

def calibrationCohort : FirstCandidate → Json
  | copy => hash 0x14aa8f197d527eb5ef76db58e9a7ba1406d28add65b6e8b30cafb866d2517aa3
  | own => hash 0x06361dcb83a074e19e378646904e9af8677b3ac6e85e75fd31a15111de8e8f59

def manifestSha256 : FirstCandidate → Nat
  | copy => 0xc3d475943f398bcb840ed409337b0eb9c1c17fa59b326897a4b013fd5e52109a
  | own => 0x39a2824a7ae0b76f78b50f16663ae206351fb4b611a3e25f11f8fe5e69b4bae2

def calibrationSha256 : FirstCandidate → Nat
  | copy => 0x175dae4b61d477264ce6f16b8d940a92fe28b6f72e28e4a5ab8ee19540686d69
  | own => 0xee14138f5270e3897405c6bdbfa27fea8f920ca9b398dbd9f752b3d097e96587

def validationSha256 : FirstCandidate → Nat
  | copy => 0xa9e61cbb84b9c8e6b41078b884e4fcee0c207564b2a0aeaa3258cfb44a3919b0
  | own => 0x0221346ced016de609e3a1b86739d0bb6c52e3a61a61eba9b0cddb596d816dba

def commitmentSha256 : FirstCandidate → Nat
  | copy => 0x321ab0f0d96d52b192060adb0db80417008103f15958078c4ada29f3ee130909
  | own => 0xb19b9168605d8c48e4a87b79f1bb797fd5f81d0da6c5c69d384e14bdf904d97c

def receiptSha256 : FirstCandidate → Nat
  | copy => 0xd7c82c39a7bf2f7d9ac47e71a59807bb2388aab960e7b7330cc28a95e0f57400
  | own => 0xd075ec421799f21ea58a9a58315233490980b0f5f5dc91c2f8b34148afc203fd

def annotationProtocol : Json := .obj
  [(py "label_definition", str "d"), (py "metric_id", str "batch_style_consistency"),
   (py "observation_unit", str "batch"), (py "protocol_id", str "p"),
   (py "schema_version", str "specstyle.annotation_protocol.v2"),
   (py "target_cell_sha256", targetSha256)]

def studyPlan : Json := .obj
  [(py "annotation_protocol_sha256", protocolSha256), (py "layer", str "L2"),
   (py "metric_id", str "batch_style_consistency"), (py "observation_unit", str "batch"),
   (py "operator", str "lte"), (py "schema_version", str "specstyle.calibration.study_plan.v2"),
   (py "split", .obj
     [(py "algorithm", str "sha256_mod_60_20_20"), (py "minimum_negative_per_split", .int 1),
      (py "minimum_positive_per_split", .int 1), (py "salt", str "s")]),
   (py "study_id", str "s"), (py "target_cell_sha256", targetSha256),
   (py "targets", .obj [(py "max_fpr", half), (py "min_tpr", half)])]

def member (id : String) (candidate family : CodePoint) : Json := .obj
  [(py "candidate_sha256", digits candidate), (py "member_id", str id),
   (py "reference_family_sha256", digits family), (py "seed", .int 0),
   (py "source_family_sha256", digits family)]

def cohort (id split : String) (sha256 : Json) (group : CodePoint) (members : List Json) :
    Json := .obj
  [(py "annotation_record_sha256", digits 0x30), (py "cohort_sha256", sha256),
   (py "expected_count", .int 2), (py "isolation_group_sha256", digits group),
   (py "members", .arr members), (py "provenance_record_sha256", digits 0x30),
   (py "sample_id", str id), (py "split", str split)]

def testCohort : Json :=
  hash 0x811aab091e1d1b859a193e6d18e39ab0f35c84ff774d02987b9813324c5a9957
def otherTestCohort : Json :=
  hash 0x404f86aff88549b447cf4907c89023850aa707337bf15e9d8cdb02897a3b2f7c

def sampleManifest (first : FirstCandidate) : Json :=
  let a := member "a" 0x61 0x31
  let b := member "b" 0x62 0x31
  let c := member "c" first.digit 0x32
  let d := member "d" 0x33 0x32
  .obj
    [(py "observation_unit", str "batch"),
     (py "samples", .arr
       [cohort "c" "calibration" first.calibrationCohort 0x30 [c, d],
        cohort "t" "test" testCohort 0x38 [a, b],
        cohort "u" "test" otherTestCohort 0x38 [b, a]]),
     (py "schema_version", str "specstyle.calibration.sample_manifest.v2"),
     (py "study_plan_sha256", planSha256), (py "target_cell_sha256", targetSha256)]

def observations (first : FirstCandidate) (split : String) (values : List Json) : Json := .obj
  [(py "metric_id", str "batch_style_consistency"), (py "observation_unit", str "batch"),
   (py "observations", .arr values), (py "operator", str "lte"),
   (py "sample_manifest_sha256", hash first.manifestSha256),
   (py "schema_version", str "specstyle.calibration.observations.v2"), (py "split", str split),
   (py "study_plan_sha256", planSha256), (py "target_cell_sha256", targetSha256)]

def calibrationObservations (first : FirstCandidate) : Json := first.observations "calibration"
  [.obj [(py "annotation_record_sha256", digits 0x30), (py "label_positive", .bool true),
    (py "sample_binding_sha256", first.calibrationCohort), (py "sample_id", str "c"),
    (py "score", half)]]

def testCommitment (first : FirstCandidate) : Json := .obj
  [(py "negative_count", .int 1), (py "observation_unit", str "batch"),
   (py "positive_count", .int 1),
   (py "sample_bindings_sha256", bindingsSha256), (py "sample_ids", .arr [str "t", str "u"]),
   (py "sample_manifest_sha256", hash first.manifestSha256),
   (py "schema_version", str "specstyle.calibration.test_commitment.v2"),
   (py "sealed_test_observations_sha256", digits 0x30), (py "study_plan_sha256", planSha256),
   (py "target_cell_sha256", targetSha256)]

def labelApprovalReceipt (first : FirstCandidate) : Json := .obj
  [(py "annotation_protocol_sha256", protocolSha256), (py "approval_kind", str "HUMAN_LABELS"),
   (py "approved", .bool true), (py "approver_id", str "a"), (py "issued_at", str "n"),
   (py "label_source", str "HUMAN_APPROVED"),
   (py "observation_sha256s", .arr
     [hash first.calibrationSha256, hash first.validationSha256, digits 0x30]),
   (py "observation_unit", str "batch"), (py "receipt_id", str "r"),
   (py "sample_manifest_sha256", hash first.manifestSha256),
   (py "schema_version", str "specstyle.calibration.approval_receipt.v2"), (py "study_id", str "s"),
   (py "study_plan_sha256", planSha256), (py "target_cell_sha256", targetSha256)]

def documents (first : FirstCandidate) : Documents :=
  ⟨bytesOf targetCell, bytesOf studyPlan, bytesOf annotationProtocol,
    bytesOf first.sampleManifest, bytesOf first.calibrationObservations,
    bytesOf (first.observations "validation" []), bytesOf first.testCommitment,
    bytesOf first.labelApprovalReceipt⟩

/-! The parts of the evaluation: the documents are plain, and their hashes are
those the later documents name. -/

theorem shared_plain :
    [targetCell, studyPlan, annotationProtocol].all isPlain = true := by
  decide +kernel

theorem documents_plain (first : FirstCandidate) :
    [first.sampleManifest, first.calibrationObservations, first.observations "validation" [],
      first.testCommitment, first.labelApprovalReceipt].all isPlain = true := by
  cases first with
  | copy => decide +kernel
  | own => decide +kernel

/-- The hashes of what the two chains share, one evaluation after the other. -/
theorem shared_hashes :
    HashIs targetCell 0xdba643bacfd7bb9c3a778d70d8bf6dac4c4685a62bc13505baed697211e22389 ∧
    HashIs studyPlan 0x92d3d70d95f2c4ee9bb8ccbca1835cc26d0e70d538b398e1b0ca9c254490b3a7 ∧
    HashIs annotationProtocol
      0x274c2398f15f95b3dc12bf50109278cbe6b21ab1c12e761b62e2f43e5a0935a0 := by
  refine ⟨?_, ?_, ?_⟩
  · decide +kernel
  · decide +kernel
  · decide +kernel

/-- The hashes of a chain. -/
structure Hashed (first : FirstCandidate) : Prop where
  manifest : HashIs first.sampleManifest first.manifestSha256
  calibration : HashIs first.calibrationObservations first.calibrationSha256
  validation : HashIs (first.observations "validation" []) first.validationSha256
  commitment : HashIs first.testCommitment first.commitmentSha256
  receipt : HashIs first.labelApprovalReceipt first.receiptSha256

theorem hashed (first : FirstCandidate) : Hashed first := by
  constructor
  · cases first with
    | copy => decide +kernel
    | own => decide +kernel
  · cases first with
    | copy => decide +kernel
    | own => decide +kernel
  · cases first with
    | copy => decide +kernel
    | own => decide +kernel
  · cases first with
    | copy => decide +kernel
    | own => decide +kernel
  · cases first with
    | copy => decide +kernel
    | own => decide +kernel

/-- The chain is accepted; is a hash of its splits spelled in one way? -/
def spelledOnce (first : FirstCandidate) : Except Fault Bool := do
  let chain ← readChain .standard first.documents
  let _ ← reportOf .standard first.documents chain
  return decide (SpelledOnce chain.manifest.samples)

/-- Only a candidate of its own is spelled once. -/
def isOwn : FirstCandidate → Bool
  | copy => false
  | own => true

theorem spelledOnce_toOption (first : FirstCandidate) :
    first.spelledOnce.toOption = some first.isOwn := by
  have hshared := shared_plain
  have hplain := documents_plain first
  simp only [List.all_cons, List.all_nil, Bool.and_eq_true, and_true] at hshared hplain
  obtain ⟨h1, h2, h3⟩ := hshared
  obtain ⟨h4, h5, h6, h7, h8⟩ := hplain
  unfold spelledOnce readChain loadTargetCell study protocol manifest Calibration.observations
    commitment labelApproval reportOf report evidenceSha256 documents
  simp only [load_bytesOf h1, load_bytesOf h2, load_bytesOf h3, load_bytesOf h4, load_bytesOf h5,
    load_bytesOf h6, load_bytesOf h7, load_bytesOf h8, ok_bind]
  obtain ⟨hcell, hplan, hprotocol⟩ := shared_hashes
  obtain ⟨hmanifest, hcalibration, hvalidation, hcommitment, hlabels⟩ := hashed first
  rw [hcell, hplan, hprotocol, hmanifest, hcalibration, hvalidation, hcommitment, hlabels]
  cases first with
  | copy => decide +kernel
  | own => decide +kernel

/-- What the evaluation of the chains shows. -/
theorem accepted (first : FirstCandidate) :
    ∃ chain report, readChain .standard first.documents = .ok chain ∧
      prepareMetricEvidence .standard first.documents = .ok report ∧
      (SpelledOnce chain.manifest.samples ↔ first.isOwn = true) := by
  have hspelled : first.spelledOnce = .ok first.isOwn := by
    have h := spelledOnce_toOption first
    cases hs : first.spelledOnce with
    | ok b =>
      rw [hs] at h
      rw [Option.some.inj h]
    | error fault =>
      rw [hs] at h
      cases h
  obtain ⟨chain, hchain, h⟩ := bind_ok_iff.mp hspelled
  obtain ⟨report, hreport, h⟩ := bind_ok_iff.mp h
  refine ⟨chain, report, hchain, bind_ok_iff.mpr ⟨chain, hchain, hreport⟩, ?_⟩
  rw [← Except.ok.inj h]
  exact decide_eq_true_iff.symm

end FirstCandidate

/-- Both chains are accepted.  The splits of the one with a candidate of its own
are isolated, those of the one with a copy in upper case are not. -/
theorem split_isolation_two_chains :
    (∃ chain report, readChain .standard FirstCandidate.own.documents = .ok chain ∧
      prepareMetricEvidence .standard FirstCandidate.own.documents = .ok report ∧
      SpelledOnce chain.manifest.samples ∧
      Isolated .standard chain.study.salt chain.manifest.samples) ∧
    ∃ chain report, readChain .standard FirstCandidate.copy.documents = .ok chain ∧
      prepareMetricEvidence .standard FirstCandidate.copy.documents = .ok report ∧
      ¬ SpelledOnce chain.manifest.samples ∧
      ¬ Isolated .standard chain.study.salt chain.manifest.samples := by
  constructor
  · obtain ⟨chain, report, hchain, hreport, hspelled⟩ := FirstCandidate.own.accepted
    obtain ⟨chain', hchain', hisolated⟩ := split_isolation hreport
    cases hchain.symm.trans hchain'
    have honce : SpelledOnce chain.manifest.samples := hspelled.mpr rfl
    exact ⟨chain, report, hchain, hreport, honce, hisolated.mpr honce⟩
  · obtain ⟨chain, report, hchain, hreport, hspelled⟩ := FirstCandidate.copy.accepted
    obtain ⟨chain', hchain', hisolated⟩ := split_isolation hreport
    cases hchain.symm.trans hchain'
    have hcopy : ¬ SpelledOnce chain.manifest.samples := fun h => nomatch hspelled.mp h
    exact ⟨chain, report, hchain, hreport, hcopy, fun h => hcopy (hisolated.mp h)⟩

/-- The chain is accepted, and its splits are not isolated. -/
theorem upper_case_copy_leaks :
    ∃ chain report, readChain .standard FirstCandidate.copy.documents = .ok chain ∧
      prepareMetricEvidence .standard FirstCandidate.copy.documents = .ok report ∧
      ¬ Isolated .standard chain.study.salt chain.manifest.samples := by
  obtain ⟨chain, report, hchain, hreport, hspelled⟩ := FirstCandidate.copy.accepted
  exact ⟨chain, report, hchain, hreport, fun h => nomatch hspelled.mp h.spelledOnce⟩

end Calibration

end SpecStyle
