/-
SpecStyle/Spec/Migrations.lean

The migration of a specification from version 1.0 to 1.1, and what it keeps.

The migration dumps the source, makes its lists tuples, edits the dictionary
and validates it as version 1.1.  That never fails, and the result is the
source with two fields more (`migrateStyleSpec_v1`).  Without them the dump
is that of the source but for the version and the address of the schema, the
diff shows these four paths and no other, and the compiler cannot tell the
two apart (`migration_preserves`).
-/
import SpecStyle.Spec.Diff
import SpecStyle.Spec.CompilerGates

namespace SpecStyle

namespace Spec

open PyLib PyLib.Codec

/-! ### The registry -/

/-- `dict[key] = value` -/
def setField (fields : List (String × Prim)) (key : String) (value : Prim) :
    List (String × Prim) :=
  if (fields.lookup key).isSome then
    fields.map fun f => if f.1 = key then (key, value) else f
  else fields ++ [(key, value)]

def unsupported : Raised := .domain "unsupported style spec migration"

def validationFailed : Raised := .domain "style spec migration validation failed"

/-- `LEGACY_STRENGTH_MAPPING_VERSION` -/
def legacyStrengthMappingVersion : Text := py "legacy-unversioned"

/-- `DEFAULT_ENVIRONMENT_POLICY_V11` -/
def defaultEnvironmentPolicy : Text := py "advisory"

/-- `SCHEMA_URI_V11` -/
def schemaUriV11 : Text := py "schemas/style-spec-1.1.schema.json"

/-- The edits of `_migrate_1_0_to_1_1` to the dictionary of the source. -/
def edit (primitive : List (String × Prim)) : Except Raised (List (String × Prim)) :=
  let primitive := setField primitive "schema_version" (.str (py "1.1"))
  let primitive := setField primitive "schema_uri" (.str schemaUriV11)
  match primitive.lookup "style" with
  | some (.dict style) =>
    let style := setField style "strength_mapping_version" (.str legacyStrengthMappingVersion)
    let primitive := setField primitive "style" (.dict style)
    match primitive.lookup "replay_contract" with
    | some (.dict replay) =>
      let replay := setField replay "environment_policy" (.str defaultEnvironmentPolicy)
      .ok (setField primitive "replay_contract" (.dict replay))
    | _ => .error unsupported
  | _ => .error unsupported

section Migrate

variable (pydantic : Pydantic)

/-- `_migrate_1_0_to_1_1` -/
def migrate10To11 (source : StyleSpecV1) : Except Raised StyleSpecV11 :=
  match (pydantic.modelDump (.v1 source)).tuples with
  | .dict primitive => do
    let edited ← edit primitive
    match pydantic.styleSpecV11 (.dict edited) with
    | some target => return target
    | none => .error validationFailed
  | _ => .error unsupported

/-- The keys of `_EDGE`. -/
def edges : List (String × String) := [("1.0", "1.1")]

/-- `_EDGE` -/
def edge (source target : String) : Option (StyleSpec → Except Raised StyleSpec) :=
  if (source, target) = ("1.0", "1.1") then
    some fun s =>
      match s with
      | .v1 s => (migrate10To11 pydantic s).map .v11
      | .v11 _ => .error validationFailed
  else none

/-- The edges out of the end of a path: the path to the target, or the paths
to add to the frontier and the versions seen with them. -/
def extend (path : List String) (target : String) : List (String × String) → List String →
    List (List String) → List String ⊕ (List String × List (List String))
  | [], seen, added => .inr (seen, added)
  | (src, dst) :: es, seen, added =>
    if path.getLast? ≠ some src ∨ dst ∈ seen then extend path target es seen added
    else if dst = target then .inl (path ++ [dst])
    else extend path target es (dst :: seen) (added ++ [path ++ [dst]])

/-- The loop of `_shortest_path`; each version enters the frontier once. -/
def search (target : String) : Nat → List (List String) → List String → Option (List String)
  | 0, _, _ => none
  | _ + 1, [], _ => none
  | fuel + 1, path :: frontier, seen =>
    match extend path target edges seen [] with
    | .inl found => some found
    | .inr (seen, added) => search target fuel (frontier ++ added) seen

/-- `_shortest_path` -/
def shortestPath (source target : String) : Option (List String) :=
  if source = target then none else search target (edges.length + 2) [[source]] [source]

/-- `MigrationResult` -/
structure MigrationResult where
  sourceVersion : String
  targetVersion : String
  path : List String
  targetSpec : StyleSpecV11
  diff : SpecDiff

/-- The loop of `migrate_style_spec` over a path. -/
def migrateAlong : List String → StyleSpec → Except Raised StyleSpec
  | source :: target :: path, current =>
    match edge pydantic source target with
    | none => .error unsupported
    | some migrate => do
      let current ← migrate current
      if versionOf current ≠ target then .error validationFailed
      else migrateAlong (target :: path) current
  | _, current => .ok current

/-- `migrate_style_spec` -/
def migrateStyleSpec (source : StyleSpec) (targetVersion : String) :
    Except Raised MigrationResult := do
  let sourceVersion := versionOf source
  if sourceVersion = targetVersion then .error unsupported
  else
    match shortestPath sourceVersion targetVersion with
    | none => .error unsupported
    | some path =>
      if path.length < 2 then .error unsupported
      else do
        let current ← migrateAlong pydantic path source
        match current with
        | .v11 target =>
          return ⟨sourceVersion, targetVersion, path, target, semanticDiff pydantic source current⟩
        | .v1 _ => .error validationFailed

end Migrate

/-! ### The target -/

section Target

variable {pydantic : Pydantic}

/-- The source in version 1.1. -/
def upgrade (s : StyleSpecV1) : StyleSpecV11 where
  schemaVersion := {}
  schemaUri := {}
  metadata := s.metadata
  runtime := s.runtime
  models := s.models
  assets := s.assets
  profiles := s.profiles
  style := { s.style with strengthMappingVersion := ⟨legacyStrengthMappingVersion, by decide⟩ }
  generation := s.generation
  domain := s.domain
  outputs := s.outputs
  verification := s.verification
  repair := s.repair
  replayContract := { s.replayContract with environmentPolicy := .advisory }

/-- The edited dictionary is the dump of the target, its lists made tuples. -/
theorem edit_dump (s : StyleSpecV1) : ∃ primitive edited,
    (styleSpecV1.dump s).tuples = .dict primitive ∧ edit primitive = .ok edited ∧
      (styleSpecV11.dump (upgrade s)).tuples = .dict edited :=
  ⟨_, _, rfl, rfl, rfl⟩

/-- The migration gives the source in version 1.1. -/
theorem migrate10To11_eq (hpydantic : pydantic.Documented) (s : StyleSpecV1) :
    migrate10To11 pydantic s = .ok (upgrade s) := by
  obtain ⟨primitive, edited, hdump, hedit, htarget⟩ := edit_dump s
  have hsource : (pydantic.modelDump (.v1 s)).tuples = .dict primitive :=
    (congrArg Prim.tuples (hpydantic.modelDump (.v1 s))).trans hdump
  unfold migrate10To11
  rw [hsource]
  show (edit primitive >>= fun edited => _) = _
  rw [hedit, ok_bind, ← htarget, hpydantic.styleSpecV11]
  rfl

/-- `migrate_style_spec` on a source of version 1.0 -/
theorem migrateStyleSpec_v1 (hpydantic : pydantic.Documented) (s : StyleSpecV1) :
    migrateStyleSpec pydantic (.v1 s) "1.1" =
      .ok ⟨"1.0", "1.1", ["1.0", "1.1"], upgrade s,
        semanticDiff pydantic (.v1 s) (.v11 (upgrade s))⟩ := by
  have hpath : shortestPath "1.0" "1.1" = some ["1.0", "1.1"] := by decide
  have halong : migrateAlong pydantic ["1.0", "1.1"] (.v1 s) = .ok (.v11 (upgrade s)) := by
    show ((migrate10To11 pydantic s).map StyleSpec.v11 >>= fun current => _) = _
    rw [migrate10To11_eq hpydantic]
    rfl
  unfold migrateStyleSpec
  rw [show versionOf (.v1 s) = "1.0" from rfl, if_neg (by decide), hpath]
  show (if _ then _ else migrateAlong pydantic ["1.0", "1.1"] (.v1 s) >>= fun current => _) = _
  rw [if_neg (by decide), halong]
  rfl

end Target

/-! ### The diff -/

theorem walk_style (s : StyleSpecV1) :
    walk (style.dump s.style) (styleV11.dump (upgrade s).style) "style" =
      [⟨"style.strength_mapping_version", .added, .none, .str legacyStrengthMappingVersion⟩] := by
  apply walk_concat (style.dump_plain s.style)
  rw [styleFields.names_dump]
  decide

theorem walk_replayContract (s : StyleSpecV1) :
    walk (replayContract.dump s.replayContract)
      (replayContractV11.dump (upgrade s).replayContract) "replay_contract" =
      [⟨"replay_contract.environment_policy", .added, .none, .str defaultEnvironmentPolicy⟩] := by
  apply walk_concat (replayContract.dump_plain s.replayContract)
  rw [replayFields.names_dump]
  decide

/-- What the migration changes, in the order of the paths. -/
def migrationChanges : List FieldChange :=
  [⟨"replay_contract.environment_policy", .added, .none, .str defaultEnvironmentPolicy⟩,
    ⟨"schema_uri", .changed, .str (py "schemas/style-spec-1.0.schema.json"), .str schemaUriV11⟩,
    ⟨"schema_version", .changed, .str (py "1.0"), .str (py "1.1")⟩,
    ⟨"style.strength_mapping_version", .added, .none, .str legacyStrengthMappingVersion⟩]

/-- The fields of a source and of its target. -/
def rows (s : StyleSpecV1) : List Row :=
  [⟨"schema_version", .str (py "1.0"), .str (py "1.1")⟩,
    ⟨"schema_uri", .str (py "schemas/style-spec-1.0.schema.json"), .str schemaUriV11⟩,
    .same "metadata" metadata s.metadata, .same "runtime" runtime s.runtime,
    .same "models" models s.models, .same "assets" assets s.assets,
    .same "profiles" profiles s.profiles,
    ⟨"style", style.dump s.style, styleV11.dump (upgrade s).style⟩,
    .same "generation" generation s.generation, .same "domain" domain s.domain,
    .same "outputs" outputs s.outputs, .same "verification" verification s.verification,
    .same "repair" repair s.repair,
    ⟨"replay_contract", replayContract.dump s.replayContract,
      replayContractV11.dump (upgrade s).replayContract⟩]

/-- The walk over the two dumps finds these changes. -/
theorem walk_upgrade (s : StyleSpecV1) :
    walk (StyleSpec.v1 s).dump (StyleSpec.v11 (upgrade s)).dump "" = migrationChanges := by
  have hself {α : Type} (c : Codec α) (a : α) (path : String) :
      walk (c.dump a) (c.dump a) path = [] := walk_self _ (c.dump_plain a) path
  have hkeys : ((rows s).map Row.key).Nodup := by
    show ["schema_version", "schema_uri", "metadata", "runtime", "models", "assets", "profiles",
      "style", "generation", "domain", "outputs", "verification", "repair",
      "replay_contract"].Nodup
    decide
  have hrows := walk_rows (rows s) "" hkeys
  simp only [rows, List.map_cons, List.map_nil, Row.same, hself] at hrows
  refine Eq.trans hrows ?_
  -- two of the fields are dictionaries that differ
  rw [show childPath "" "style" = "style" from rfl,
    show childPath "" "replay_contract" = "replay_contract" from rfl, walk_style,
    walk_replayContract]
  rfl

/-- The diff of a source and its target. -/
theorem semanticDiff_upgrade {pydantic : Pydantic} (hpydantic : pydantic.Documented)
    (s : StyleSpecV1) :
    semanticDiff pydantic (.v1 s) (.v11 (upgrade s)) = ⟨"1.0", "1.1", migrationChanges⟩ := by
  unfold semanticDiff
  rw [hpydantic.modelDump, hpydantic.modelDump, walk_upgrade]
  rfl

/-! ### The compiler -/

/-- The compiler reads nothing of a specification that the migration changes. -/
theorem parts_upgrade (s : StyleSpecV1) (context : CompilerContext) :
    Compiler.parts (.v11 (upgrade s)) context =
      (fun ps => { ps with sourceSpec := StyleSpec.v11 (upgrade s) }) <$>
        Compiler.parts (.v1 s) context := by
  unfold Compiler.parts
  simp only [map_bind, map_pure]
  rfl

/-- Two compiled specifications agree in all that is generated and verified. -/
structure SameCompiled (a b : Compiled.StyleSpec) : Prop where
  encoder : a.l2Encoder = b.l2Encoder
  preview : a.previewGraphs = b.previewGraphs
  production : a.productionGraphs = b.productionGraphs
  plans : a.verificationPlans = b.verificationPlans

/-- A source that is accepted has a target that is, with the same plans. -/
theorem compile_upgrade {hashBytes : Bytes → Sha256} {s : StyleSpecV1} {context : CompilerContext}
    {a : Compiled.StyleSpec}
    (h : Compiler.compileStyleSpec hashBytes (.v1 s) context = .ok a) :
    ∃ b, Compiler.compileStyleSpec hashBytes (.v11 (upgrade s)) context = .ok b ∧
      SameCompiled a b := by
  have hparts := Compiler.compileStyleSpec_ok_iff.mp ⟨a, h, rfl⟩
  have htarget : Compiler.parts (.v11 (upgrade s)) context =
      .ok { a.toStyleSpecParts with sourceSpec := StyleSpec.v11 (upgrade s) } := by
    rw [parts_upgrade, hparts.1]
    rfl
  obtain ⟨b, hb, hps⟩ :=
    (@Compiler.compileStyleSpec_ok_iff _ _ hashBytes _).mpr ⟨htarget, hparts.2⟩
  refine ⟨b, hb, ?_, ?_, ?_, ?_⟩ <;> rw [hps]

/-- A target that is accepted has a source that is. -/
theorem compile_of_upgrade {hashBytes : Bytes → Sha256} {s : StyleSpecV1}
    {context : CompilerContext} {b : Compiled.StyleSpec}
    (h : Compiler.compileStyleSpec hashBytes (.v11 (upgrade s)) context = .ok b) :
    ∃ a, Compiler.compileStyleSpec hashBytes (.v1 s) context = .ok a := by
  have hparts := Compiler.compileStyleSpec_ok_iff.mp ⟨b, h, rfl⟩
  rw [parts_upgrade] at hparts
  rcases hs : Compiler.parts (.v1 s) context with e | ps
  · rw [hs] at hparts
    cases hparts.1
  · rw [hs] at hparts
    obtain ⟨hps, hacceptable⟩ := hparts
    rw [← Except.ok.inj hps] at hacceptable
    obtain ⟨a, ha, -⟩ :=
      (@Compiler.compileStyleSpec_ok_iff _ _ hashBytes _).mpr ⟨hs, hacceptable⟩
    exact ⟨a, ha⟩

/-! ### What the migration keeps -/

/-- A dictionary without a key. -/
def erase (key : String) : Prim → Prim
  | .dict fields => .dict (fields.filter fun f => f.1 ≠ key)
  | p => p

/-- A dictionary with the value of a key changed. -/
def update (key : String) (change : Prim → Prim) : Prim → Prim
  | .dict fields => .dict (fields.map fun f => if f.1 = key then (f.1, change f.2) else f)
  | p => p

/-- A dump without the fields that version 1.1 adds. -/
def withoutAdded (p : Prim) : Prim :=
  update "replay_contract" (erase "environment_policy")
    (update "style" (erase "strength_mapping_version") p)

/-- Erasing a key that stands last and nowhere else. -/
theorem erase_concat {fs : List (String × Prim)} {k : String} {p : Prim}
    (hk : k ∉ fs.map Prod.fst) : erase k (.dict (fs ++ [(k, p)])) = .dict fs := by
  have hfs : fs.filter (fun f => f.1 ≠ k) = fs := by
    rw [List.filter_eq_self]
    intro f hf
    rw [decide_eq_true_iff]
    rintro rfl
    exact hk (List.mem_map_of_mem hf)
  show Prim.dict ((fs ++ [(k, p)]).filter fun f => f.1 ≠ k) = _
  rw [List.filter_append, hfs, List.filter_cons_of_neg (by simp), List.filter_nil, List.append_nil]

theorem erase_style (s : StyleSpecV1) :
    erase "strength_mapping_version" (styleV11.dump (upgrade s).style) = style.dump s.style := by
  apply erase_concat
  rw [styleFields.names_dump]
  decide

theorem erase_replayContract (s : StyleSpecV1) :
    erase "environment_policy" (replayContractV11.dump (upgrade s).replayContract) =
      replayContract.dump s.replayContract := by
  apply erase_concat
  rw [replayFields.names_dump]
  decide

/-- The dumps of a source and its target without what the migration changes. -/
theorem erase_upgrade (s : StyleSpecV1) :
    erase "schema_uri" (erase "schema_version" (withoutAdded (styleSpecV11.dump (upgrade s)))) =
      erase "schema_uri" (erase "schema_version" (styleSpecV1.dump s)) := by
  have hsource : styleSpecV1.dump s = .dict ((rows s).map fun r => (r.key, r.left)) := rfl
  have htarget : styleSpecV11.dump (upgrade s) = .dict ((rows s).map fun r => (r.key, r.right)) :=
    rfl
  rw [hsource, htarget]
  simp [rows, Row.same, withoutAdded, update, erase_style, erase_replayContract]
  simp [erase]

/-- The migration to version 1.1 succeeds on every source.  Without the fields
it adds, the dump of the target is that of the source, apart from the version
and the address of the schema; the diff has these four paths; and the compiler
accepts the target exactly when it accepts the source, with the same encoder,
graphs and plans. -/
theorem migration_preserves {pydantic : Pydantic} (hpydantic : pydantic.Documented)
    (s : StyleSpecV1) : ∃ result,
    migrateStyleSpec pydantic (.v1 s) "1.1" = .ok result ∧
    erase "schema_uri"
        (erase "schema_version" (withoutAdded (pydantic.modelDump (.v11 result.targetSpec)))) =
      erase "schema_uri" (erase "schema_version" (pydantic.modelDump (.v1 s))) ∧
    result.diff = ⟨"1.0", "1.1", migrationChanges⟩ ∧
    result.diff.changes.map FieldChange.path = ["replay_contract.environment_policy", "schema_uri",
      "schema_version", "style.strength_mapping_version"] ∧
    ∀ (hashBytes : Bytes → Sha256) (context : CompilerContext),
      ((∃ b, Compiler.compileStyleSpec hashBytes (.v11 result.targetSpec) context = .ok b) ↔
        ∃ a, Compiler.compileStyleSpec hashBytes (.v1 s) context = .ok a) ∧
      ∀ a b, Compiler.compileStyleSpec hashBytes (.v1 s) context = .ok a →
        Compiler.compileStyleSpec hashBytes (.v11 result.targetSpec) context = .ok b →
        SameCompiled a b := by
  refine ⟨_, migrateStyleSpec_v1 hpydantic s, ?_, semanticDiff_upgrade hpydantic s, ?_, ?_⟩
  · rw [hpydantic.modelDump, hpydantic.modelDump]
    exact erase_upgrade s
  · show (semanticDiff pydantic (.v1 s) (.v11 (upgrade s))).changes.map FieldChange.path = _
    rw [semanticDiff_upgrade hpydantic]
    rfl
  · intro hashBytes context
    refine ⟨⟨?_, ?_⟩, ?_⟩
    · rintro ⟨b, hb⟩
      exact compile_of_upgrade hb
    · rintro ⟨a, ha⟩
      obtain ⟨b, hb, -⟩ := compile_upgrade ha
      exact ⟨b, hb⟩
    · intro a b ha hb
      obtain ⟨b', hb', hsame⟩ := compile_upgrade ha
      rw [hb] at hb'
      rw [Except.ok.inj hb']
      exact hsame

/-- A specification that requires fidelity is migrated, and the compiler accepts
it before and after with the same plans. -/
theorem migration_preserves_requiredFidelity : ∃ result a b,
    migrateStyleSpec .declared (.v1 Compiler.RequiredFidelity.spec) "1.1" = .ok result ∧
    result.diff.changes.map FieldChange.path = ["replay_contract.environment_policy", "schema_uri",
      "schema_version", "style.strength_mapping_version"] ∧
    Compiler.compileStyleSpec (fun _ => sampleHash) (.v1 Compiler.RequiredFidelity.spec)
      (Compiler.RequiredFidelity.capabilities true) = .ok a ∧
    Compiler.compileStyleSpec (fun _ => sampleHash) (.v11 result.targetSpec)
      (Compiler.RequiredFidelity.capabilities true) = .ok b ∧
    SameCompiled a b := by
  obtain ⟨result, hresult, -, -, hpaths, hcompile⟩ :=
    migration_preserves Pydantic.declared_documented Compiler.RequiredFidelity.spec
  obtain ⟨haccepted, hsame⟩ :=
    hcompile (fun _ => sampleHash) (Compiler.RequiredFidelity.capabilities true)
  obtain ⟨a, ha⟩ := Compiler.RequiredFidelity.accepted true
  obtain ⟨b, hb⟩ := haccepted.mpr ⟨a, ha⟩
  exact ⟨result, a, b, hresult, hpaths, ha, hb, hsame a b ha hb⟩

/-- The address of the schema is not kept: apart from the version alone, the
dumps differ. -/
theorem migration_changes_uri : ∃ result,
    migrateStyleSpec .declared (.v1 Compiler.RequiredFidelity.spec) "1.1" = .ok result ∧
    erase "schema_version" (withoutAdded (styleSpecV11.dump result.targetSpec)) ≠
      erase "schema_version" (styleSpecV1.dump Compiler.RequiredFidelity.spec) := by
  refine ⟨_, migrateStyleSpec_v1 Pydantic.declared_documented _, ?_⟩
  intro h
  have huri : schemaUriV11 = py "schemas/style-spec-1.0.schema.json" := by
    injection h with h
    injection h with h
    injection h with _ h
    injection h with h
  exact absurd huri (by decide)

end Spec

end SpecStyle
