/-
SpecStyle/Lib/Dispersion.lean

How far a list of real vectors is spread around its centroid.

The mean squared distance from the centroid is the mean square minus the square
of the centroid (`meanSqDist_eq`).  For vectors of length one it is therefore
at most one, and it is zero exactly if they are all equal.  A unit vector says
in which direction a vector points (`unit_eq_iff`).
-/
import Mathlib.Analysis.Real.Sqrt
import Mathlib.Algebra.BigOperators.Fin

namespace PyLib

variable {n : Nat}

/-- The sum of the squares. -/
noncomputable def sqNorm (v : Fin n → ℝ) : ℝ := ∑ i, v i * v i

/-- The mean of each coordinate. -/
noncomputable def centroid (vs : List (Fin n → ℝ)) : Fin n → ℝ :=
  fun i => (vs.map fun v => v i).sum / vs.length

/-- The mean of the squared distances from the centroid. -/
noncomputable def meanSqDist (vs : List (Fin n → ℝ)) : ℝ :=
  (vs.map fun v => ∑ i, (v i - centroid vs i) ^ 2).sum / vs.length

/-! ### One coordinate -/

/-- The squared deviations from the mean. -/
theorem sum_sq_sub_mean {xs : List ℝ} (hne : xs ≠ []) :
    (xs.map fun x => (x - xs.sum / xs.length) ^ 2).sum =
      (xs.map fun x => x * x).sum - xs.length * (xs.sum / xs.length * (xs.sum / xs.length)) := by
  have hlen : (xs.length : ℝ) ≠ 0 := Nat.cast_ne_zero.mpr (List.length_pos_iff.mpr hne).ne'
  have hsum : ∀ (m : ℝ) (ys : List ℝ), (ys.map fun y => (y - m) ^ 2).sum =
      (ys.map fun y => y * y).sum - 2 * m * ys.sum + ys.length * (m * m) := by
    intro m ys
    induction ys with
    | nil => simp
    | cons y ys ih =>
      simp only [List.map_cons, List.sum_cons, List.length_cons, ih]
      push_cast
      ring
  rw [hsum]
  field_simp
  ring

/-- Sums over a list and over the coordinates. -/
theorem sum_map_sum {α : Type} (xs : List α) (f : α → Fin n → ℝ) :
    (xs.map fun x => ∑ i, f x i).sum = ∑ i, (xs.map fun x => f x i).sum := by
  induction xs with
  | nil => simp
  | cons x xs ih => simp only [List.map_cons, List.sum_cons, ih, Finset.sum_add_distrib]

theorem sum_map_nonneg {α : Type} {xs : List α} {f : α → ℝ} (h : ∀ x ∈ xs, 0 ≤ f x) :
    0 ≤ (xs.map f).sum :=
  List.sum_nonneg (by simpa using h)

/-! ### The mean squared distance -/

section MeanSqDist

variable {vs ws : List (Fin n → ℝ)}

/-- **The mean squared distance** is the mean square less the square of the centroid. -/
theorem meanSqDist_eq (hne : vs ≠ []) :
    meanSqDist vs = (vs.map sqNorm).sum / vs.length - sqNorm (centroid vs) := by
  have hlen : (vs.length : ℝ) ≠ 0 := Nat.cast_ne_zero.mpr (List.length_pos_iff.mpr hne).ne'
  have hcoord : ∀ i : Fin n, (vs.map fun v => (v i - centroid vs i) ^ 2).sum =
      (vs.map fun v => v i * v i).sum - vs.length * (centroid vs i * centroid vs i) := by
    intro i
    have h := @sum_sq_sub_mean (vs.map fun v => v i) (by simpa using hne)
    simp only [List.map_map, List.length_map, Function.comp_def] at h
    exact h
  unfold meanSqDist
  rw [sum_map_sum]
  simp only [hcoord, Finset.sum_sub_distrib, ← Finset.mul_sum]
  unfold sqNorm
  rw [sum_map_sum, sub_div, mul_div_cancel_left₀ _ hlen]

theorem meanSqDist_nonneg (vs : List (Fin n → ℝ)) : 0 ≤ meanSqDist vs :=
  div_nonneg (sum_map_nonneg fun _ _ => Finset.sum_nonneg fun _ _ => sq_nonneg _)
    (Nat.cast_nonneg _)

theorem sqNorm_nonneg (v : Fin n → ℝ) : 0 ≤ sqNorm v :=
  Finset.sum_nonneg fun _ _ => mul_self_nonneg _

/-- The order of the vectors does not matter. -/
theorem meanSqDist_perm (h : vs.Perm ws) : meanSqDist vs = meanSqDist ws := by
  have hcentroid : centroid vs = centroid ws := by
    funext i
    unfold centroid
    rw [(h.map _).sum_eq, h.length_eq]
  unfold meanSqDist
  rw [hcentroid, (h.map _).sum_eq, h.length_eq]

/-- Vectors of length one. -/
theorem meanSqDist_unit (hne : vs ≠ []) (hunit : ∀ v ∈ vs, sqNorm v = 1) :
    meanSqDist vs = 1 - sqNorm (centroid vs) := by
  have hlen : (vs.length : ℝ) ≠ 0 := Nat.cast_ne_zero.mpr (List.length_pos_iff.mpr hne).ne'
  have hsum : (vs.map sqNorm).sum = vs.length := by
    rw [List.map_congr_left hunit, List.map_const', List.sum_replicate, nsmul_eq_mul, mul_one]
  rw [meanSqDist_eq hne, hsum, div_self hlen]

/-- **Nothing is spread** exactly if all vectors are equal. -/
theorem meanSqDist_eq_zero_iff (hne : vs ≠ []) :
    meanSqDist vs = 0 ↔ ∀ v ∈ vs, ∀ w ∈ vs, v = w := by
  have hlen : (vs.length : ℝ) ≠ 0 := Nat.cast_ne_zero.mpr (List.length_pos_iff.mpr hne).ne'
  have hterm : ∀ x ∈ vs.map fun v => ∑ i, (v i - centroid vs i) ^ 2, (0 : ℝ) ≤ x := by
    intro x hx
    obtain ⟨v, -, rfl⟩ := List.mem_map.mp hx
    exact Finset.sum_nonneg fun _ _ => sq_nonneg _
  constructor
  · intro h
    unfold meanSqDist at h
    have hzero := (div_eq_zero_iff.mp h).resolve_right hlen
    have hcentroid : ∀ v ∈ vs, v = centroid vs := by
      intro v hv
      have hv0 := List.all_zero_of_le_zero_le_of_sum_eq_zero hterm hzero
        (List.mem_map.mpr ⟨v, hv, rfl⟩)
      funext i
      have hi := (Finset.sum_eq_zero_iff_of_nonneg fun _ _ => sq_nonneg _).mp hv0 i
        (Finset.mem_univ i)
      exact sub_eq_zero.mp (pow_eq_zero_iff two_ne_zero |>.mp hi)
    intro v hv w hw
    rw [hcentroid v hv, hcentroid w hw]
  · intro h
    obtain ⟨w, hw⟩ := List.exists_mem_of_ne_nil vs hne
    have hcentroid : centroid vs = w := by
      funext i
      unfold centroid
      have hconst : (vs.map fun v => v i) = vs.map fun _ => w i :=
        List.map_congr_left fun v hv => by rw [h v hv w hw]
      rw [hconst, List.map_const', List.sum_replicate, nsmul_eq_mul, mul_div_cancel_left₀ _ hlen]
    unfold meanSqDist
    rw [hcentroid]
    have hconst : (vs.map fun v => ∑ i, (v i - w i) ^ 2) = vs.map fun _ => (0 : ℝ) := by
      refine List.map_congr_left fun v hv => ?_
      rw [h v hv w hw]
      simp
    rw [hconst, List.map_const', List.sum_replicate, smul_zero, zero_div]

end MeanSqDist

/-! ### Directions -/

section Unit

variable {v w : Fin n → ℝ} {c : ℝ}

/-- The vector of length one in the same direction. -/
noncomputable def unit (v : Fin n → ℝ) : Fin n → ℝ := fun i => v i / √(sqNorm v)

theorem sqNorm_eq_zero : sqNorm v = 0 ↔ v = 0 := by
  unfold sqNorm
  rw [Finset.sum_eq_zero_iff_of_nonneg fun _ _ => mul_self_nonneg _]
  constructor
  · intro h
    funext i
    exact mul_self_eq_zero.mp (h i (Finset.mem_univ i))
  · rintro rfl i -
    exact mul_zero _

theorem sqNorm_pos (h : v ≠ 0) : 0 < sqNorm v :=
  lt_of_le_of_ne (sqNorm_nonneg v) fun h0 => h (sqNorm_eq_zero.mp h0.symm)

theorem sqNorm_smul (c : ℝ) (v : Fin n → ℝ) : sqNorm (c • v) = c ^ 2 * sqNorm v := by
  unfold sqNorm
  rw [Finset.mul_sum]
  refine Finset.sum_congr rfl fun i _ => ?_
  rw [Pi.smul_apply, smul_eq_mul]
  ring

theorem unit_eq_smul (v : Fin n → ℝ) : unit v = (√(sqNorm v))⁻¹ • v := by
  funext i
  rw [Pi.smul_apply, smul_eq_mul, mul_comm]
  rfl

theorem sqNorm_unit (h : v ≠ 0) : sqNorm (unit v) = 1 := by
  have hpos := sqNorm_pos h
  rw [unit_eq_smul, sqNorm_smul, inv_pow, Real.sq_sqrt hpos.le, inv_mul_cancel₀ hpos.ne']

/-- A positive factor does not change the direction. -/
theorem unit_smul (hc : 0 < c) (v : Fin n → ℝ) : unit (c • v) = unit v := by
  have hsqrt : √(sqNorm (c • v)) = c * √(sqNorm v) := by
    rw [sqNorm_smul, Real.sqrt_mul (sq_nonneg c), Real.sqrt_sq hc.le]
  funext i
  unfold unit
  rw [hsqrt, Pi.smul_apply, smul_eq_mul, mul_div_mul_left _ _ hc.ne']

/-- Two vectors have one direction exactly if one is a positive multiple of the other. -/
theorem unit_eq_iff (hv : v ≠ 0) (hw : w ≠ 0) : unit v = unit w ↔ ∃ c : ℝ, 0 < c ∧ w = c • v := by
  constructor
  · intro h
    have hv' : 0 < √(sqNorm v) := Real.sqrt_pos.mpr (sqNorm_pos hv)
    have hw' : 0 < √(sqNorm w) := Real.sqrt_pos.mpr (sqNorm_pos hw)
    refine ⟨√(sqNorm w) / √(sqNorm v), div_pos hw' hv', ?_⟩
    rw [unit_eq_smul, unit_eq_smul] at h
    have hscaled := congrArg (√(sqNorm w) • ·) h
    simp only [smul_smul, mul_inv_cancel₀ hw'.ne', one_smul] at hscaled
    rw [div_eq_mul_inv]
    exact hscaled.symm
  · rintro ⟨c, hc, rfl⟩
    exact (unit_smul hc v).symm

end Unit

end PyLib
