/-
SpecStyle/Lib/Checks.lean

Computations that may raise, and the rules to read what an accepting run has
checked.  A bind accepts exactly when both parts do, a loop over a list
accepts exactly when every round does, and a list comprehension that may
raise gives a list matched to its argument element by element.
-/
import Mathlib.Data.List.Forall2

namespace PyLib

variable {ε α β : Type}

/-! ### Sequences -/

/-- A bind returns exactly when its parts do. -/
theorem bind_ok_iff {x : Except ε α} {f : α → Except ε β} {b : β} :
    (x >>= f) = .ok b ↔ ∃ a, x = .ok a ∧ f a = .ok b := by
  rcases x with e | a
  · constructor
    · intro h
      cases h
    · rintro ⟨a, h, -⟩
      cases h
  · constructor
    · intro h
      exact ⟨a, rfl, h⟩
    · rintro ⟨a', h, hf⟩
      cases h
      exact hf

/-- A check before the rest. -/
theorem check_ok_iff {x : Except ε Unit} {y : Except ε β} {b : β} :
    (x >>= fun _ => y) = .ok b ↔ x = .ok () ∧ y = .ok b := by
  rw [bind_ok_iff]
  constructor
  · rintro ⟨⟨⟩, hx, hy⟩
    exact ⟨hx, hy⟩
  · rintro ⟨hx, hy⟩
    exact ⟨(), hx, hy⟩

@[simp] theorem ok_bind {f : α → Except ε β} {a : α} : (Except.ok a >>= f) = f a := rfl

@[simp] theorem error_bind {f : α → Except ε β} {e : ε} :
    ((Except.error e : Except ε α) >>= f) = .error e := rfl

/-! ### Loops -/

/-- A loop accepts exactly when every round does. -/
theorem forM_ok_iff {f : α → Except ε Unit} {xs : List α} :
    xs.forM f = .ok () ↔ ∀ x ∈ xs, f x = .ok () := by
  induction xs with
  | nil => simp [List.forM, pure, Except.pure]
  | cons x xs ih =>
      show (f x >>= fun _ => xs.forM f) = .ok () ↔ _
      rw [check_ok_iff, ih, List.forall_mem_cons]

/-- A comprehension returns one value for each element. -/
theorem mapM_ok_iff {f : α → Except ε β} {xs : List α} {ys : List β} :
    xs.mapM f = .ok ys ↔ List.Forall₂ (fun x y => f x = .ok y) xs ys := by
  induction xs generalizing ys with
  | nil =>
      rw [List.mapM_nil, List.forall₂_nil_left_iff]
      constructor
      · intro h
        cases h
        rfl
      · rintro rfl
        rfl
  | cons x xs ih =>
      rw [List.mapM_cons, bind_ok_iff]
      constructor
      · rintro ⟨y, hy, h⟩
        obtain ⟨zs, hzs, h⟩ := bind_ok_iff.mp h
        cases h
        exact .cons hy (ih.mp hzs)
      · intro h
        cases h with
        | cons hy hzs => exact ⟨_, hy, bind_ok_iff.mpr ⟨_, ih.mpr hzs, rfl⟩⟩

/-- What is matched to some element. -/
theorem forall₂_source {R : α → β → Prop} {xs : List α} {ys : List β} (h : List.Forall₂ R xs ys)
    {y : β} (hy : y ∈ ys) : ∃ x ∈ xs, R x y := by
  induction h with
  | nil => cases hy
  | cons hxy hrest ih =>
      rcases List.mem_cons.mp hy with rfl | hy
      · exact ⟨_, List.mem_cons_self, hxy⟩
      · obtain ⟨x, hx, hr⟩ := ih hy
        exact ⟨x, List.mem_cons_of_mem _ hx, hr⟩

/-- Every value of a comprehension comes from an element. -/
theorem mapM_ok_source {f : α → Except ε β} {xs : List α} {ys : List β} (h : xs.mapM f = .ok ys)
    {y : β} (hy : y ∈ ys) : ∃ x ∈ xs, f x = .ok y :=
  forall₂_source (mapM_ok_iff.mp h) hy

/-- Every element of a comprehension has a value. -/
theorem mapM_ok_image {f : α → Except ε β} {xs : List α} {ys : List β} (h : xs.mapM f = .ok ys)
    {x : α} (hx : x ∈ xs) : ∃ y ∈ ys, f x = .ok y := by
  induction mapM_ok_iff.mp h with
  | nil => cases hx
  | cons hxy hrest ih =>
      rcases List.mem_cons.mp hx with rfl | hx
      · exact ⟨_, List.mem_cons_self, hxy⟩
      · obtain ⟨y, hy, hf⟩ := ih (mapM_ok_iff.mpr hrest) hx
        exact ⟨y, List.mem_cons_of_mem _ hy, hf⟩

/-- What the values of a comprehension show, in the order of the elements. -/
theorem mapM_ok_map {γ : Type} {f : α → Except ε β} {g : β → γ} {k : α → γ} {xs : List α}
    {ys : List β} (hg : ∀ x y, f x = .ok y → g y = k x) (h : xs.mapM f = .ok ys) :
    ys.map g = xs.map k := by
  induction mapM_ok_iff.mp h with
  | nil => rfl
  | cons hxy hrest ih => rw [List.map_cons, List.map_cons, hg _ _ hxy, ih (mapM_ok_iff.mpr hrest)]

/-- Answers for every element make a list of answers. -/
theorem exists_forall₂ {R : α → β → Prop} {xs : List α} (h : ∀ x ∈ xs, ∃ y, R x y) :
    ∃ ys, List.Forall₂ R xs ys := by
  induction xs with
  | nil => exact ⟨[], .nil⟩
  | cons x xs ih =>
      obtain ⟨y, hy⟩ := h x List.mem_cons_self
      obtain ⟨ys, hys⟩ := ih fun a ha => h a (List.mem_cons_of_mem _ ha)
      exact ⟨y :: ys, .cons hy hys⟩

/-- A comprehension of total rounds returns the values. -/
theorem mapM_ok_of_forall {f : α → Except ε β} {g : α → β} {xs : List α}
    (h : ∀ x ∈ xs, f x = .ok (g x)) : xs.mapM f = .ok (xs.map g) := by
  rw [mapM_ok_iff, List.forall₂_map_right_iff, List.forall₂_same]
  exact h

/-- A loop keeps what each round keeps about the elements it has read. -/
theorem foldlM_ok_run {σ : Type} {f : σ → α → Except ε σ} {R : List α → σ → Prop}
    (hstep : ∀ seen s x s', R seen s → f s x = .ok s' → R (seen ++ [x]) s') {s s' : σ} (h0 : R [] s)
    {xs : List α} (h : xs.foldlM f s = .ok s') : R xs s' := by
  have hrun : ∀ seen s, R seen s → xs.foldlM f s = .ok s' → R (seen ++ xs) s' := by
    clear h0 h s
    induction xs with
    | nil =>
        intro seen s hr h
        cases h
        rwa [List.append_nil]
    | cons x xs ih =>
        intro seen s hr h
        rw [List.foldlM_cons] at h
        obtain ⟨s1, h1, h2⟩ := bind_ok_iff.mp h
        have := ih (seen ++ [x]) s1 (hstep seen s x s1 hr h1) h2
        rwa [List.append_assoc] at this
  exact hrun [] s h0 h

/-- A condition that never raises filters. -/
theorem filterM_ok_of_forall {f : α → Except ε Bool} {g : α → Bool} {xs : List α}
    (h : ∀ x ∈ xs, f x = .ok (g x)) : xs.filterM f = .ok (xs.filter g) := by
  have haux : ∀ acc, List.filterAuxM f xs acc = .ok ((xs.filter g).reverse ++ acc) := by
    induction xs with
    | nil =>
        intro acc
        rfl
    | cons x xs ih =>
        intro acc
        have ih := ih fun y hy => h y (List.mem_cons_of_mem _ hy)
        show (f x >>= fun b => List.filterAuxM f xs (cond b (x :: acc) acc)) = _
        rw [h x List.mem_cons_self, ok_bind, ih, List.filter_cons]
        cases g x with
        | false => rfl
        | true => simp
  show (List.filterAuxM f xs [] >>= fun ys => pure ys.reverse) = _
  rw [haux [], ok_bind]
  simp [pure, Except.pure]

end PyLib
