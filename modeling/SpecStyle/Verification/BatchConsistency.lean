/-
SpecStyle/Verification/BatchConsistency.lean

The production metric of batch consistency, over exact real numbers.

The score of a cohort is the root mean square distance of its normalized
vectors from their centroid.  It does not depend on the order of the cohort or
on the lengths of the vectors, lies in the unit interval, and is zero exactly
if all vectors have one direction (`scored`).  The result affects the whole
cohort, and passes only on usable vectors under the formal rule with its pins
(`evaluate_pass_iff`).
-/
import SpecStyle.Lib.Dispersion
import SpecStyle.Spec.CompiledPlans

namespace SpecStyle

open PyLib

/-! ### The metric -/

/-- An artifact with its vector; `none` is an entry that is no finite float,
and a vector that is no tuple. -/
structure MetricItem where
  artifactId : ArtifactId
  vector : Option (List (Option ℝ))

/-- The entries of the vector. -/
def MetricItem.values (item : MetricItem) : List (Option ℝ) := item.vector.getD []

/-- A `RuleResult` with an exact score. -/
structure BatchResult where
  ruleId : RuleId
  status : RuleStatus
  affectedArtifactIds : List ArtifactId
  score : Option ℝ

namespace BatchConsistency

/-- `production_batch_consistency_pin` -/
def productionBatchConsistencyPin (ownBytes : Option Sha256) : Option ResourcePin :=
  ownBytes.map fun sha256 =>
    ⟨py "batch-style-consistency", py "normalized-centroid-rms-v1", sha256⟩

/-- `_formal_rule` -/
def formalRule (rule : Compiled.Rule) (runtimeVerifierPin : ResourcePin) : Bool :=
  match rule.thresholdBinding with
  | none => false
  | some binding =>
    rule.definition.level = .l2 && rule.definition.scope = .batch && rule.definition.required &&
      rule.definition.applicability = .applicable && rule.verifierPin = runtimeVerifierPin &&
      rule.metricId.map (·.value) = some (py "batch_style_consistency") &&
      binding.status = .validated && some binding.metricId = rule.metricId &&
      binding.operator = .le && binding.productionApprovalSha256.isSome

/-- The length of the first vector. -/
def dimension (items : List MetricItem) : Nat := (items.head?.map (·.values.length)).getD 0

/-- The conditions of `_normalized_vectors` before the norms are taken. -/
def validItems (n : Nat) (items : List MetricItem) : Bool :=
  2 ≤ items.length && items.all (fun item => item.vector.isSome) &&
    decide (items.map (·.artifactId)).Nodup &&
    items.all (fun item => item.values.length == n) && 0 < n &&
    items.all fun item => item.values.all Option.isSome

/-- The entries of a vector of length `n`. -/
def entries (n : Nat) (vector : List (Option ℝ)) : Fin n → ℝ := fun i => (vector.getD i none).getD 0

open Classical in
/-- `_normalized_vectors` -/
noncomputable def normalizedVectors (n : Nat) (items : List MetricItem) :
    Option (List (Fin n → ℝ)) :=
  if validItems n items then
    let vectors := items.map fun item => entries n item.values
    if ∃ v ∈ vectors, √(sqNorm v) ≤ 0 then none else some (vectors.map unit)
  else none

/-- `_dispersion` -/
noncomputable def dispersion {n : Nat} (vectors : List (Fin n → ℝ)) : ℝ :=
  let center := centroid vectors
  let squared := vectors.map fun vector => ∑ i, (vector i - center i) ^ 2
  √(squared.sum / vectors.length)

/-- The score of a cohort, if its vectors are usable. -/
noncomputable def cohortScore (items : List MetricItem) : Option ℝ :=
  (normalizedVectors (dimension items) items).map dispersion

/-- The threshold as a real number. -/
noncomputable def realValue (a : Binary64) : ℝ := a.value / 2 ^ 1074

open Classical in
/-- `evaluate_production_batch_consistency`; `ownBytes` is the hash of the file of
the implementation, unless it cannot be read. -/
noncomputable def evaluate (ownBytes : Option Sha256) (items : List MetricItem)
    (rule : Compiled.Rule) (runtimeImplementationPin runtimeVerifierPin : ResourcePin) :
    Except Raised BatchResult :=
  let ids := items.map (·.artifactId)
  if ids = [] ∨ ¬ ids.Nodup then .error .value
  else
    let implementationOk := some runtimeImplementationPin = productionBatchConsistencyPin ownBytes
    match cohortScore items, rule.thresholdBinding with
    | some score, some binding =>
      if implementationOk ∧ formalRule rule runtimeVerifierPin = true then
        .ok ⟨rule.definition.ruleId, if score ≤ realValue binding.value then .pass else .fail, ids,
          some score⟩
      else .ok ⟨rule.definition.ruleId, .unverifiable, ids, none⟩
    | _, _ => .ok ⟨rule.definition.ruleId, .unverifiable, ids, none⟩

/-! ### Cohorts of vectors -/

/-- A cohort whose vectors have the dimension `n`. -/
abbrev Cohort (n : Nat) := List (ArtifactId × (Fin n → ℝ))

/-- The items of a cohort. -/
def Cohort.items {n : Nat} (vs : Cohort n) : List MetricItem :=
  vs.map fun p => ⟨p.1, some (List.ofFn fun i => some (p.2 i))⟩

/-- The directions of its vectors. -/
noncomputable def Cohort.units {n : Nat} (vs : Cohort n) : List (Fin n → ℝ) :=
  vs.map fun p => unit p.2

/-- Two artifacts at least, with nonzero vectors of a positive dimension. -/
structure Usable {n : Nat} (vs : Cohort n) : Prop where
  dimension : 0 < n
  two : 2 ≤ vs.length
  nonzero : ∀ p ∈ vs, p.2 ≠ 0

section Cohorts

variable {n : Nat} {vs ws : Cohort n} {items : List MetricItem}

theorem dispersion_eq (us : List (Fin n → ℝ)) : dispersion us = √(meanSqDist us) := rfl

theorem Cohort.ids (vs : Cohort n) : vs.items.map (·.artifactId) = vs.map Prod.fst := by
  unfold Cohort.items
  rw [List.map_map]
  rfl

theorem entries_ofFn (v : Fin n → ℝ) : entries n (List.ofFn fun i => some (v i)) = v := by
  funext i
  unfold entries
  simp

theorem validItems_cohort (h : Usable vs) (hids : (vs.map Prod.fst).Nodup) :
    validItems n vs.items = true := by
  have htuple : vs.items.all (fun item => item.vector.isSome) = true := by
    rw [List.all_eq_true]
    intro item hitem
    obtain ⟨p, -, rfl⟩ := List.mem_map.mp hitem
    rfl
  have hlen : vs.items.all (fun item => item.values.length == n) = true := by
    rw [List.all_eq_true]
    intro item hitem
    obtain ⟨p, -, rfl⟩ := List.mem_map.mp hitem
    simp [MetricItem.values]
  have hsome : (vs.items.all fun item => item.values.all Option.isSome) = true := by
    rw [List.all_eq_true]
    intro item hitem
    obtain ⟨p, -, rfl⟩ := List.mem_map.mp hitem
    rw [List.all_eq_true]
    intro x hx
    obtain ⟨i, rfl⟩ := List.mem_ofFn.mp hx
    rfl
  have hcount : 2 ≤ vs.items.length := by
    unfold Cohort.items
    rw [List.length_map]
    exact h.two
  unfold validItems
  rw [htuple, hlen, hsome, Cohort.ids]
  simp [hids, hcount, h.dimension]

/-- The vectors of a usable cohort are normalized. -/
theorem normalizedVectors_cohort (h : Usable vs) (hids : (vs.map Prod.fst).Nodup) :
    normalizedVectors n vs.items = some vs.units := by
  have hvectors : (vs.items.map fun item => entries n item.values) = vs.map Prod.snd := by
    unfold Cohort.items
    rw [List.map_map]
    exact List.map_congr_left fun p _ => entries_ofFn p.2
  unfold normalizedVectors
  rw [if_pos (validItems_cohort h hids), hvectors, if_neg]
  · unfold Cohort.units
    rw [List.map_map]
    rfl
  · rintro ⟨v, hv, hle⟩
    obtain ⟨p, hp, rfl⟩ := List.mem_map.mp hv
    exact absurd (Real.sqrt_pos.mpr (sqNorm_pos (h.nonzero p hp))) (not_lt.mpr hle)

theorem dimension_cohort (hne : vs ≠ []) : dimension vs.items = n := by
  obtain ⟨p, rest, rfl⟩ := List.exists_cons_of_ne_nil hne
  unfold dimension Cohort.items
  simp [MetricItem.values]

theorem Usable.ne_nil (h : Usable vs) : vs ≠ [] := by
  rintro rfl
  have htwo := h.two
  rw [List.length_nil] at htwo
  omega

theorem cohortScore_cohort (h : Usable vs) (hids : (vs.map Prod.fst).Nodup) :
    cohortScore vs.items = some (dispersion vs.units) := by
  unfold cohortScore
  rw [dimension_cohort h.ne_nil, normalizedVectors_cohort h hids]
  rfl

/-- **Items with a score** are those of a usable cohort. -/
theorem cohort_of_score {s : ℝ} (h : cohortScore items = some s) :
    ∃ (n : Nat) (vs : Cohort n), items = vs.items ∧ Usable vs ∧ s = dispersion vs.units := by
  unfold cohortScore at h
  generalize dimension items = n at h
  obtain ⟨us, hus, rfl⟩ := Option.map_eq_some_iff.mp h
  unfold normalizedVectors at hus
  by_cases hvalid : validItems n items = true
  swap
  · rw [if_neg hvalid] at hus
    cases hus
  by_cases hnorm : ∃ v ∈ items.map fun item => entries n item.values, √(sqNorm v) ≤ 0
  · rw [if_pos hvalid, if_pos hnorm] at hus
    cases hus
  rw [if_pos hvalid, if_neg hnorm] at hus
  unfold validItems at hvalid
  simp only [Bool.and_eq_true, decide_eq_true_eq, List.all_eq_true, beq_iff_eq] at hvalid
  obtain ⟨⟨⟨⟨⟨htwo, htuple⟩, -⟩, hlen⟩, hn⟩, hsome⟩ := hvalid
  have hitems : ∀ item ∈ items,
      (⟨item.artifactId, some (List.ofFn fun i => some (entries n item.values i))⟩ : MetricItem) =
        item := by
    intro item hitem
    obtain ⟨id, vector | vector⟩ := item
    · cases htuple _ hitem
    have hl : vector.length = n := hlen _ hitem
    have hv : (List.ofFn fun i => some (entries n vector i)) = vector := by
      apply List.ext_getElem
      · rw [List.length_ofFn, hl]
      · intro i hi hi'
        have hisome := hsome _ hitem _ (List.getElem_mem hi')
        obtain ⟨x, hx⟩ := Option.isSome_iff_exists.mp hisome
        rw [List.getElem_ofFn]
        unfold entries
        simp [hi', hx]
    show (⟨id, some (List.ofFn fun i => some (entries n vector i))⟩ : MetricItem) = _
    rw [hv]
  refine ⟨n, items.map fun item => (item.artifactId, entries n item.values), ?_, ⟨hn, ?_, ?_⟩, ?_⟩
  · unfold Cohort.items
    rw [List.map_map]
    exact ((List.map_congr_left hitems).trans (List.map_id' items)).symm
  · rw [List.length_map]
    exact htwo
  · intro p hp hzero
    obtain ⟨item, hitem, rfl⟩ := List.mem_map.mp hp
    refine hnorm ⟨entries n item.values, List.mem_map.mpr ⟨item, hitem, rfl⟩, ?_⟩
    rw [show entries n item.values = 0 from hzero, sqNorm_eq_zero.mpr rfl, Real.sqrt_zero]
  · cases hus
    unfold Cohort.units
    rw [List.map_map, List.map_map]
    rfl

end Cohorts

/-! ### The score -/

/-- What the score of a cohort says. -/
structure Scored {n : Nat} (vs : Cohort n) (s : ℝ) : Prop where
  nonneg : 0 ≤ s
  le_one : s ≤ 1
  square : s ^ 2 = 1 - sqNorm (centroid vs.units)
  direction : s = 0 ↔ ∀ p ∈ vs, ∀ q ∈ vs, ∃ c : ℝ, 0 < c ∧ q.2 = c • p.2

section Score

variable {n : Nat} {vs ws : Cohort n}

theorem Usable.units_ne (h : Usable vs) : vs.units ≠ [] := by
  unfold Cohort.units
  simpa using h.ne_nil

theorem Usable.units_unit (h : Usable vs) : ∀ u ∈ vs.units, sqNorm u = 1 := by
  intro u hu
  obtain ⟨p, hp, rfl⟩ := List.mem_map.mp hu
  exact sqNorm_unit (h.nonzero p hp)

/-- **The score** is a dispersion. -/
theorem scored (h : Usable vs) : Scored vs (dispersion vs.units) := by
  have hsquare := meanSqDist_unit h.units_ne h.units_unit
  rw [dispersion_eq]
  refine ⟨Real.sqrt_nonneg _, ?_, ?_, ?_⟩
  · apply Real.sqrt_le_iff.mpr
    rw [hsquare]
    exact ⟨zero_le_one, by linarith [sqNorm_nonneg (centroid vs.units)]⟩
  · rw [Real.sq_sqrt (meanSqDist_nonneg _), hsquare]
  · rw [Real.sqrt_eq_zero (meanSqDist_nonneg _), meanSqDist_eq_zero_iff h.units_ne]
    constructor
    · intro hall p hp q hq
      rw [← unit_eq_iff (h.nonzero p hp) (h.nonzero q hq)]
      exact hall _ (List.mem_map.mpr ⟨p, hp, rfl⟩) _ (List.mem_map.mpr ⟨q, hq, rfl⟩)
    · rintro hall _ hu _ hw
      obtain ⟨p, hp, rfl⟩ := List.mem_map.mp hu
      obtain ⟨q, hq, rfl⟩ := List.mem_map.mp hw
      exact (unit_eq_iff (h.nonzero p hp) (h.nonzero q hq)).mpr (hall p hp q hq)

theorem Usable.perm (h : Usable vs) (hp : ws.Perm vs) : Usable ws where
  dimension := h.dimension
  two := hp.length_eq ▸ h.two
  nonzero := fun p hpw => h.nonzero p (hp.subset hpw)

theorem dispersion_perm (hp : ws.Perm vs) : dispersion ws.units = dispersion vs.units := by
  rw [dispersion_eq, dispersion_eq]
  exact congrArg Real.sqrt (meanSqDist_perm (hp.map _))

/-- A cohort with one vector scaled. -/
theorem Usable.scale {before after : Cohort n} {id : ArtifactId} {v : Fin n → ℝ} {c : ℝ}
    (hc : 0 < c) (h : Usable (before ++ (id, v) :: after)) : Usable (before ++ (id, c • v) :: after) where
  dimension := h.dimension
  two := by
    have htwo := h.two
    simp only [List.length_append, List.length_cons] at htwo ⊢
    exact htwo
  nonzero := by
    intro p hp
    rcases List.mem_append.mp hp with hp | hp
    · exact h.nonzero p (List.mem_append.mpr (.inl hp))
    · rcases List.mem_cons.mp hp with rfl | hp
      · have hv : v ≠ 0 := h.nonzero (id, v) (List.mem_append.mpr (.inr List.mem_cons_self))
        exact smul_ne_zero hc.ne' hv
      · exact h.nonzero p (List.mem_append.mpr (.inr (List.mem_cons_of_mem _ hp)))

theorem units_scale {before after : Cohort n} {id : ArtifactId} {v : Fin n → ℝ} {c : ℝ}
    (hc : 0 < c) : Cohort.units (before ++ (id, c • v) :: after) =
      Cohort.units (before ++ (id, v) :: after) := by
  unfold Cohort.units
  simp only [List.map_append, List.map_cons, unit_smul hc]

end Score

/-! ### The result -/

section Result

variable {ownBytes : Option Sha256} {rule : Compiled.Rule}
  {runtimeImplementationPin runtimeVerifierPin : ResourcePin} {items : List MetricItem}

/-- The score that is reported. -/
noncomputable def reportedScore (ownBytes : Option Sha256) (rule : Compiled.Rule)
    (runtimeImplementationPin runtimeVerifierPin : ResourcePin) (items : List MetricItem) :
    Option ℝ :=
  (evaluate ownBytes items rule runtimeImplementationPin runtimeVerifierPin).toOption.bind (·.score)

theorem formalRule_binding (h : formalRule rule runtimeVerifierPin = true) :
    ∃ binding, rule.thresholdBinding = some binding := by
  unfold formalRule at h
  rcases hb : rule.thresholdBinding with - | binding
  · rw [hb] at h
    cases h
  · exact ⟨binding, rfl⟩

/-- The formal rule with its pins. -/
def Formal (ownBytes : Option Sha256) (rule : Compiled.Rule)
    (runtimeImplementationPin runtimeVerifierPin : ResourcePin) : Prop :=
  some runtimeImplementationPin = productionBatchConsistencyPin ownBytes ∧
    formalRule rule runtimeVerifierPin = true

/-- A scored cohort under the formal rule. -/
theorem evaluate_formal {s : ℝ} {binding : Compiled.ThresholdBinding}
    (hids : items.map (·.artifactId) ≠ [] ∧ (items.map (·.artifactId)).Nodup)
    (hs : cohortScore items = some s) (hb : rule.thresholdBinding = some binding)
    (hf : Formal ownBytes rule runtimeImplementationPin runtimeVerifierPin) :
    evaluate ownBytes items rule runtimeImplementationPin runtimeVerifierPin =
      .ok ⟨rule.definition.ruleId, if s ≤ realValue binding.value then .pass else .fail,
        items.map (·.artifactId), some s⟩ := by
  unfold evaluate
  simp only
  rw [if_neg (not_or.mpr ⟨hids.1, not_not.mpr hids.2⟩), hs, hb]
  simp only
  rw [if_pos ⟨hf.1, hf.2⟩]

/-- Any other cohort, and any cohort under another rule or other pins. -/
theorem evaluate_informal
    (hids : items.map (·.artifactId) ≠ [] ∧ (items.map (·.artifactId)).Nodup)
    (h : cohortScore items = none ∨
      ¬ Formal ownBytes rule runtimeImplementationPin runtimeVerifierPin) :
    evaluate ownBytes items rule runtimeImplementationPin runtimeVerifierPin =
      .ok ⟨rule.definition.ruleId, .unverifiable, items.map (·.artifactId), none⟩ := by
  unfold evaluate
  simp only
  rw [if_neg (not_or.mpr ⟨hids.1, not_not.mpr hids.2⟩)]
  rcases hs : cohortScore items with - | s
  · rfl
  rcases hb : rule.thresholdBinding with - | binding
  · rfl
  simp only
  rw [if_neg]
  intro hf
  rcases h with h | h
  · rw [hs] at h
    cases h
  · exact h hf

theorem reportedScore_congr {items' : List MetricItem}
    (hids : items.map (·.artifactId) ≠ [] ∧ (items.map (·.artifactId)).Nodup)
    (hids' : items'.map (·.artifactId) ≠ [] ∧ (items'.map (·.artifactId)).Nodup)
    (hs : cohortScore items' = cohortScore items) :
    reportedScore ownBytes rule runtimeImplementationPin runtimeVerifierPin items' =
      reportedScore ownBytes rule runtimeImplementationPin runtimeVerifierPin items := by
  unfold reportedScore
  by_cases hf : Formal ownBytes rule runtimeImplementationPin runtimeVerifierPin
  · rcases h : cohortScore items with - | s
    · rw [evaluate_informal hids (.inl h), evaluate_informal hids' (.inl (hs.trans h))]
      rfl
    · obtain ⟨binding, hb⟩ := formalRule_binding hf.2
      rw [evaluate_formal hids h hb hf, evaluate_formal hids' (hs.trans h) hb hf]
      rfl
  · rw [evaluate_informal hids (.inr hf), evaluate_informal hids' (.inr hf)]
    rfl

theorem Cohort.ids_ok {n : Nat} {vs : Cohort n} (h : Usable vs) (hids : (vs.map Prod.fst).Nodup) :
    vs.items.map (·.artifactId) ≠ [] ∧ (vs.items.map (·.artifactId)).Nodup := by
  rw [Cohort.ids]
  exact ⟨by simpa using h.ne_nil, hids⟩

/-- **A result passes** exactly under the formal rule with its pins, on usable
vectors with a score within the threshold. -/
theorem evaluate_pass_iff
    (hids : items.map (·.artifactId) ≠ [] ∧ (items.map (·.artifactId)).Nodup) :
    ∃ result,
      evaluate ownBytes items rule runtimeImplementationPin runtimeVerifierPin = .ok result ∧
      result.affectedArtifactIds = items.map (·.artifactId) ∧
      (result.status = .pass ↔ Formal ownBytes rule runtimeImplementationPin runtimeVerifierPin ∧
        ∃ (n : Nat) (vs : Cohort n) (binding : Compiled.ThresholdBinding), items = vs.items ∧
          Usable vs ∧ rule.thresholdBinding = some binding ∧
          dispersion vs.units ≤ realValue binding.value) := by
  by_cases hf : Formal ownBytes rule runtimeImplementationPin runtimeVerifierPin
  · obtain ⟨binding, hb⟩ := formalRule_binding hf.2
    rcases hs : cohortScore items with - | s
    · refine ⟨_, evaluate_informal hids (.inl hs), rfl, ⟨fun h => (by cases h), ?_⟩⟩
      rintro ⟨-, n, vs, -, rfl, hvs, -, -⟩
      rw [cohortScore_cohort hvs (Cohort.ids vs ▸ hids.2)] at hs
      cases hs
    · refine ⟨_, evaluate_formal hids hs hb hf, rfl, ?_⟩
      show (if s ≤ realValue binding.value then RuleStatus.pass else .fail) = .pass ↔ _
      constructor
      · intro hpass
        have hle : s ≤ realValue binding.value := by
          by_contra hgt
          rw [if_neg hgt] at hpass
          cases hpass
        obtain ⟨n, vs, hitems, hvs, rfl⟩ := cohort_of_score hs
        exact ⟨hf, n, vs, binding, hitems, hvs, hb, hle⟩
      · rintro ⟨-, n, vs, b, rfl, hvs, hb', hle⟩
        rw [cohortScore_cohort hvs (Cohort.ids vs ▸ hids.2)] at hs
        cases hs
        rw [hb] at hb'
        cases hb'
        exact if_pos hle
  · refine ⟨_, evaluate_informal hids (.inr hf), rfl, ⟨fun h => (by cases h), ?_⟩⟩
    exact fun h => absurd h.1 hf

variable (ownBytes rule runtimeImplementationPin runtimeVerifierPin)

/-- **Batch consistency.**  On usable cohorts the score does not depend on
their order and on positive factors, and is a dispersion; every result affects
its whole cohort, and passes exactly under the formal rule with its pins, on
usable vectors with a score within the threshold. -/
theorem batch_consistency :
    (∀ (n : Nat) (vs : Cohort n), Usable vs → (vs.map Prod.fst).Nodup →
      (∀ ws : Cohort n, ws.Perm vs →
        reportedScore ownBytes rule runtimeImplementationPin runtimeVerifierPin ws.items =
          reportedScore ownBytes rule runtimeImplementationPin runtimeVerifierPin vs.items) ∧
      (∀ (before : Cohort n) (id : ArtifactId) (v : Fin n → ℝ) (after : Cohort n) (c : ℝ), 0 < c →
        vs = before ++ (id, v) :: after →
        reportedScore ownBytes rule runtimeImplementationPin runtimeVerifierPin
            (Cohort.items (before ++ (id, c • v) :: after)) =
          reportedScore ownBytes rule runtimeImplementationPin runtimeVerifierPin vs.items) ∧
      (Formal ownBytes rule runtimeImplementationPin runtimeVerifierPin →
        ∃ s, Scored vs s ∧
          reportedScore ownBytes rule runtimeImplementationPin runtimeVerifierPin vs.items =
            some s)) ∧
    ∀ items : List MetricItem, items ≠ [] → (items.map (·.artifactId)).Nodup →
      ∃ result,
        evaluate ownBytes items rule runtimeImplementationPin runtimeVerifierPin = .ok result ∧
        result.affectedArtifactIds = items.map (·.artifactId) ∧
        (result.status = .pass ↔ Formal ownBytes rule runtimeImplementationPin runtimeVerifierPin ∧
          ∃ (n : Nat) (vs : Cohort n) (binding : Compiled.ThresholdBinding), items = vs.items ∧
            Usable vs ∧ rule.thresholdBinding = some binding ∧
            dispersion vs.units ≤ realValue binding.value) := by
  refine ⟨fun n vs h hids => ⟨fun ws hp => ?_, ?_, fun hf => ?_⟩, fun items hne hids => ?_⟩
  · have hids' : (ws.map Prod.fst).Nodup := (hp.map _).nodup_iff.mpr hids
    refine reportedScore_congr (Cohort.ids_ok h hids) (Cohort.ids_ok (h.perm hp) hids') ?_
    rw [cohortScore_cohort h hids, cohortScore_cohort (h.perm hp) hids', dispersion_perm hp]
  · rintro before id v after c hc rfl
    have hids' : ((before ++ (id, c • v) :: after).map Prod.fst).Nodup := by
      simpa using hids
    refine reportedScore_congr (Cohort.ids_ok h hids) (Cohort.ids_ok (h.scale hc) hids') ?_
    rw [cohortScore_cohort h hids, cohortScore_cohort (h.scale hc) hids', units_scale hc]
  · obtain ⟨binding, hb⟩ := formalRule_binding hf.2
    refine ⟨_, scored h, ?_⟩
    unfold reportedScore
    rw [evaluate_formal (Cohort.ids_ok h hids) (cohortScore_cohort h hids) hb hf]
    rfl
  · exact evaluate_pass_iff ⟨by simpa using hne, hids⟩

end Result

/-! ### Two orthogonal vectors -/

namespace Sample

def verifierPin : ResourcePin := ⟨py "verifier", py "r1", sampleHash⟩

def ownPin : ResourcePin :=
  ⟨py "batch-style-consistency", py "normalized-centroid-rms-v1", sampleHash⟩

def metricId : Identifier := Id.lit .identifier "batch_style_consistency"

theorem stops : true = true → OnWarning.reject ≠ .continue := fun _ => by
  decide

def binding (threshold : Binary64) : Compiled.ThresholdBinding :=
  ⟨verifierPin, py "l2-profile", .validated, metricId, .le, threshold, sampleHash, sampleHash,
    sampleHash, some sampleHash⟩

/-- The formal rule with the threshold zero. -/
def strict : Compiled.Rule where
  definition :=
    ⟨Id.lit .rule "BATCH", .l2, .batch, true, .applicable, ⟨.reject, .reject⟩, stops⟩
  verifierPin := verifierPin
  metricId := some metricId
  thresholdBinding := some (binding .zero)
  priority := 0
  affectedByActions := []
  valid := by decide

/-- The formal rule with the threshold one. -/
def wide : Compiled.Rule where
  definition := strict.definition
  verifierPin := verifierPin
  metricId := some metricId
  thresholdBinding := some (binding .one)
  priority := 0
  affectedByActions := []
  valid := by decide +kernel

/-- Two orthogonal vectors. -/
def cohort : Cohort 2 :=
  [(Id.lit .artifact "one", ![1, 0]), (Id.lit .artifact "two", ![0, 2])]

theorem usable : Usable cohort where
  dimension := by decide
  two := by decide
  nonzero := by
    intro p hp hzero
    rcases List.mem_cons.mp hp with rfl | hp
    · exact one_ne_zero (congrFun hzero 0)
    · rcases List.mem_singleton.mp hp with rfl
      exact two_ne_zero (congrFun hzero 1)

theorem ids_nodup : (cohort.map Prod.fst).Nodup := by
  decide

theorem formal_wide : Formal (some sampleHash) wide ownPin verifierPin := ⟨rfl, by decide +kernel⟩

/-- No positive factor turns the one into the other. -/
theorem not_one_direction :
    ¬ ∀ p ∈ cohort, ∀ q ∈ cohort, ∃ c : ℝ, 0 < c ∧ q.2 = c • p.2 := by
  intro h
  obtain ⟨c, -, hc⟩ := h _ List.mem_cons_self _ (List.mem_cons_of_mem _ (List.mem_singleton_self _))
  have hsecond : (2 : ℝ) = c * 0 := congrFun hc 1
  rw [mul_zero] at hsecond
  exact two_ne_zero hsecond

theorem realValue_zero : realValue .zero = 0 := by
  unfold realValue
  simp [Binary64.value, Binary64.zero]

theorem realValue_one : realValue .one = 1 := by
  unfold realValue
  have hvalue : ((Binary64.one.value : Int) : ℝ) = 2 ^ 1074 := by
    simp only [Binary64.value, Binary64.one, Bool.false_eq_true, if_false, Nat.cast_pow,
      Nat.cast_ofNat, Int.cast_pow, Int.cast_ofNat]
  rw [hvalue]
  exact div_self (pow_ne_zero _ two_ne_zero)

end Sample

/-- Two orthogonal vectors have a positive score, also in the other order and with
the second one scaled.  They fail under the threshold zero, and pass under one. -/
theorem batch_consistency_orthogonal :
    (∃ s : ℝ, 0 < s ∧ s ≤ 1 ∧
      reportedScore (some sampleHash) Sample.wide Sample.ownPin Sample.verifierPin
        (Cohort.items Sample.cohort.reverse) = some s ∧
      reportedScore (some sampleHash) Sample.wide Sample.ownPin Sample.verifierPin
        (Cohort.items ([(Id.lit .artifact "one", ![1, 0])] ++
          (Id.lit .artifact "two", (3 : ℝ) • ![0, 2]) :: [] : Cohort 2)) = some s) ∧
    (∃ result, evaluate (some sampleHash) Sample.cohort.items Sample.strict Sample.ownPin
      Sample.verifierPin = .ok result ∧ result.status ≠ .pass) ∧
    ∃ result, evaluate (some sampleHash) Sample.cohort.items Sample.wide Sample.ownPin
      Sample.verifierPin = .ok result ∧ result.status = .pass := by
  have hids : (Sample.cohort.items.map (·.artifactId)).Nodup := Cohort.ids _ ▸ Sample.ids_nodup
  have hspec := scored Sample.usable
  obtain ⟨hcohorts, hresults⟩ :=
    batch_consistency (some sampleHash) Sample.wide Sample.ownPin Sample.verifierPin
  obtain ⟨hperm, hscale, hscored⟩ := hcohorts 2 Sample.cohort Sample.usable Sample.ids_nodup
  refine ⟨?_, ?_, ?_⟩
  · obtain ⟨s, hs, hreported⟩ := hscored Sample.formal_wide
    have hpositive : 0 < s :=
      hs.nonneg.lt_of_ne fun h => Sample.not_one_direction (hs.direction.mp h.symm)
    exact ⟨s, hpositive, hs.le_one, (hperm _ (List.reverse_perm _)).trans hreported,
      (hscale [_] _ _ [] 3 three_pos rfl).trans hreported⟩
  · obtain ⟨-, hstrict⟩ :=
      batch_consistency (some sampleHash) Sample.strict Sample.ownPin Sample.verifierPin
    obtain ⟨result, hresult, -, hpass⟩ := hstrict Sample.cohort.items (List.cons_ne_nil _ _) hids
    refine ⟨result, hresult, fun h => ?_⟩
    obtain ⟨-, n, vs, bound, hitems, hvs, hbound, hle⟩ := hpass.mp h
    cases hbound
    -- both cohorts have the score of their common items
    have hsame : some (dispersion vs.units) = some (dispersion Sample.cohort.units) := by
      rw [← cohortScore_cohort hvs (Cohort.ids vs ▸ hitems ▸ hids),
        ← cohortScore_cohort Sample.usable Sample.ids_nodup, hitems]
    rw [Option.some.inj hsame] at hle
    have hzero : dispersion Sample.cohort.units = 0 :=
      le_antisymm (hle.trans Sample.realValue_zero.le) hspec.nonneg
    exact Sample.not_one_direction (hspec.direction.mp hzero)
  · obtain ⟨result, hresult, -, hpass⟩ := hresults Sample.cohort.items (List.cons_ne_nil _ _) hids
    have hle : dispersion Sample.cohort.units ≤ realValue .one := by
      rw [Sample.realValue_one]
      exact hspec.le_one
    exact ⟨result, hresult,
      hpass.mpr ⟨Sample.formal_wide, 2, Sample.cohort, _, rfl, Sample.usable, rfl, hle⟩⟩

end BatchConsistency

end SpecStyle
