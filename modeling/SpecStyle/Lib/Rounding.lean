/-
SpecStyle/Lib/Rounding.lean

How far rounding to 53 bits moves a number.

A sum of two doubles is the exact sum rounded (`nearest`).  Rounding leaves a
number that needs no more than 53 bits alone (`nearest_of_fits`), and moves a
number below `2 ^ (e + 53)` by at most `2 ^ e` (`nearest_close`).
-/
import SpecStyle.Lib.Binary64

namespace PyLib

namespace Binary64

/-- An exact result rounded to a double. -/
def nearest (v : Int) : Int := if v < 0 then -(round v.natAbs) else round v.natAbs

/-- The magnitude is 53 bits and a power of two. -/
def Fits (v : Int) : Prop := ∃ m e, m < 2 ^ 53 ∧ v.natAbs = m * 2 ^ e

/-! ### Values of results -/

theorem value_add (a b : Binary64) : (add a b).value = nearest (a.value + b.value) := by
  unfold add nearest
  simp only
  generalize a.value + b.value = v
  by_cases hzero : v = 0
  · subst hzero
    rw [if_pos rfl, if_neg (lt_irrefl 0)]
    show (if _ then -((0 : Nat) : Int) else ((0 : Nat) : Int)) = _
    split_ifs <;> rfl
  · rw [if_neg hzero]
    show (if decide (v < 0) = true then _ else _) = _
    simp only [decide_eq_true_eq]

theorem value_neg (b : Binary64) : (⟨!b.negative, b.units⟩ : Binary64).value = -b.value := by
  rcases b with ⟨- | -, n⟩
  · rfl
  · exact (neg_neg (n : Int)).symm

theorem value_sub (a b : Binary64) : (sub a b).value = nearest (a.value - b.value) := by
  unfold sub
  rw [value_add, value_neg, Int.sub_eq_add_neg]

theorem value_pyMin (a b : Binary64) : (pyMin a b).value = min a.value b.value := by
  unfold pyMin lt
  split_ifs with h
  · rw [decide_eq_true_eq] at h
    exact (min_eq_right h.le).symm
  · rw [decide_eq_true_eq, not_lt] at h
    exact (min_eq_left h).symm

theorem value_pyMax (a b : Binary64) : (pyMax a b).value = max a.value b.value := by
  unfold pyMax lt
  split_ifs with h
  · rw [decide_eq_true_eq] at h
    exact (max_eq_right h.le).symm
  · rw [decide_eq_true_eq, not_lt] at h
    exact (max_eq_left h).symm

/-! ### Rounding -/

variable {n e : Nat}

/-- The weight of the last place. -/
theorem lastPlace_le (hn : 2 ^ 53 ≤ n) (h : n < 2 ^ (e + 53)) : Nat.log2 n - 52 ≤ e := by
  have hne : n ≠ 0 := by omega
  have hlog := (Nat.log2_lt hne).mpr h
  omega

theorem round_close (h : n < 2 ^ (e + 53)) : n ≤ round n + 2 ^ e ∧ round n ≤ n + 2 ^ e := by
  unfold round
  split_ifs with hsmall
  · exact ⟨Nat.le_add_right _ _, Nat.le_add_right _ _⟩
  · have hplace := lastPlace_le (not_lt.mp hsmall) h
    simp only
    generalize Nat.log2 n - 52 = k at hplace ⊢
    have hpow : 2 ^ k ≤ 2 ^ e := Nat.pow_le_pow_right (by decide) hplace
    have hpos : 0 < 2 ^ k := Nat.two_pow_pos k
    -- `n = q * 2 ^ k + r` with `r < 2 ^ k`
    have hdiv := Nat.div_add_mod' n (2 ^ k)
    have hmod := Nat.mod_lt n hpos
    split_ifs with hup
    · rw [Nat.add_mul, Nat.one_mul]
      omega
    · omega

/-- A number of 53 bits is left alone. -/
theorem round_of_fits {m : Nat} (hm : m < 2 ^ 53) : round (m * 2 ^ e) = m * 2 ^ e := by
  unfold round
  split_ifs with hsmall
  · rfl
  · have hlt : m * 2 ^ e < 2 ^ (e + 53) := by
      rw [pow_add, Nat.mul_comm (2 ^ e)]
      exact Nat.mul_lt_mul_of_pos_right hm (Nat.two_pow_pos e)
    have hplace := lastPlace_le (not_lt.mp hsmall) hlt
    simp only
    generalize Nat.log2 (m * 2 ^ e) - 52 = k at hplace ⊢
    have hdvd : 2 ^ k ∣ m * 2 ^ e := (Nat.pow_dvd_pow 2 hplace).mul_left m
    have hpos : 0 < 2 ^ k := Nat.two_pow_pos k
    -- nothing is cut off
    rw [Nat.mod_eq_zero_of_dvd hdvd, if_neg, Nat.div_mul_cancel hdvd]
    have hne : ¬ 0 = 2 ^ k := hpos.ne
    simp [hne]

variable {v : Int}

theorem nearest_of_fits (h : Fits v) : nearest v = v := by
  obtain ⟨m, e, hm, hv⟩ := h
  unfold nearest
  rw [hv, round_of_fits hm, ← hv]
  split_ifs <;> omega

theorem nearest_close (h : v.natAbs < 2 ^ (e + 53)) :
    v ≤ nearest v + 2 ^ e ∧ nearest v ≤ v + 2 ^ e := by
  have hround := round_close h
  have hcast : ((2 ^ e : Nat) : Int) = 2 ^ e := by push_cast; rfl
  unfold nearest
  rw [← hcast]
  generalize 2 ^ e = w at hround ⊢
  split_ifs <;> omega

end Binary64

end PyLib
