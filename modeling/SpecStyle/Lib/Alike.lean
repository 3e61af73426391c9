/-
SpecStyle/Lib/Alike.lean

Two computations that may raise, and lists in another order.

`Alike R x y` says that both return, and what they return is related, or that
both raise, whatever they raise.  A bind keeps it (`Alike.bind`), and so does a
comprehension over the same list (`Alike.mapM`).  `Shuffled R xs ys` says that
the one list is the other in another order, up to `R`: what does not tell
related elements apart filters, counts and maps such lists alike, and a
comprehension over them returns such lists (`Shuffled.mapM`).
-/
import SpecStyle.Lib.Checks
import Mathlib.Data.List.Perm.Basic
import Mathlib.Data.List.Sort

namespace PyLib

variable {ε α β γ δ : Type}

/-! ### Computations -/

/-- Both return, and related values, or both raise. -/
inductive Alike (R : α → β → Prop) : Except ε α → Except ε β → Prop
  | ok {a : α} {b : β} (h : R a b) : Alike R (.ok a) (.ok b)
  | error {e e' : ε} : Alike R (.error e) (.error e')

section Alike

variable {R : α → β → Prop} {S : γ → δ → Prop} {x : Except ε α} {y : Except ε β}

theorem Alike.refl (x : Except ε α) : Alike Eq x x := by
  rcases x with e | a
  · exact .error
  · exact .ok rfl

/-- The relation is read where both return. -/
theorem Alike.of_accepts (hxy : ∀ a, x = .ok a → ∃ b, y = .ok b ∧ R a b)
    (hyx : ∀ b, y = .ok b → ∃ a, x = .ok a) : Alike R x y := by
  rcases x with e | a
  · rcases y with e' | b
    · exact .error
    · obtain ⟨a, ha⟩ := hyx b rfl
      cases ha
  · obtain ⟨b, rfl, h⟩ := hxy a rfl
    exact .ok h

/-- **A bind.**  The rests are compared on what the first parts returned. -/
theorem Alike.bind_of {f : α → Except ε γ} {g : β → Except ε δ} (h : Alike R x y)
    (hfg : ∀ a b, x = .ok a → y = .ok b → R a b → Alike S (f a) (g b)) :
    Alike S (x >>= f) (y >>= g) := by
  cases h with
  | ok hab => exact hfg _ _ rfl rfl hab
  | error => exact .error

theorem Alike.bind {f : α → Except ε γ} {g : β → Except ε δ} (h : Alike R x y)
    (hfg : ∀ a b, R a b → Alike S (f a) (g b)) : Alike S (x >>= f) (y >>= g) :=
  h.bind_of fun a b _ _ hab => hfg a b hab

/-- After equal values the rest may be compared at one of them. -/
theorem Alike.bind_eq {x y : Except ε α} {f : α → Except ε γ} {g : α → Except ε δ}
    (h : Alike Eq x y) (hfg : ∀ a, Alike S (f a) (g a)) : Alike S (x >>= f) (y >>= g) := by
  refine h.bind fun a b hab => ?_
  subst hab
  exact hfg a

/-- A comprehension over one list. -/
theorem Alike.mapM {f g : γ → Except ε α} {xs : List γ} (h : ∀ a, Alike Eq (f a) (g a)) :
    Alike Eq (xs.mapM f) (xs.mapM g) := by
  induction xs with
  | nil => exact Alike.refl _
  | cons a xs ih =>
    rw [List.mapM_cons, List.mapM_cons]
    refine (h a).bind_eq fun b => ih.bind_eq fun bs => ?_
    exact Alike.refl _

end Alike

/-- A comprehension reads its elements only. -/
theorem mapM_congr {f g : α → Except ε β} {xs : List α} (h : ∀ x ∈ xs, f x = g x) :
    xs.mapM f = xs.mapM g := by
  induction xs with
  | nil => rfl
  | cons x xs ih =>
    rw [List.mapM_cons, List.mapM_cons, h x List.mem_cons_self,
      ih fun y hy => h y (List.mem_cons_of_mem _ hy)]

/-! ### Lists in another order -/

/-- The one list is the other in another order, up to a relation. -/
def Shuffled (R : α → β → Prop) (xs : List α) (ys : List β) : Prop :=
  ∃ zs, xs.Perm zs ∧ List.Forall₂ R zs ys

section Shuffled

variable {R : α → β → Prop} {S : γ → δ → Prop} {xs xs' : List α} {ys ys' : List β}

theorem Shuffled.of_perm {xs ys : List α} (h : xs.Perm ys) : Shuffled Eq xs ys :=
  ⟨ys, h, List.forall₂_same.mpr fun _ _ => rfl⟩

theorem Shuffled.perm {xs ys : List α} (h : Shuffled Eq xs ys) : xs.Perm ys := by
  obtain ⟨zs, hp, hr⟩ := h
  rw [List.forall₂_eq_eq_eq] at hr
  exact hr ▸ hp

theorem Shuffled.flip (h : Shuffled R xs ys) : Shuffled (fun b a => R a b) ys xs := by
  obtain ⟨zs, hp, hr⟩ := h
  obtain ⟨ws, hw, hperm⟩ := List.perm_comp_forall₂ hp hr
  exact ⟨ws, hperm.symm, hw.flip⟩

theorem Shuffled.append (h : Shuffled R xs ys) (h' : Shuffled R xs' ys') :
    Shuffled R (xs ++ xs') (ys ++ ys') := by
  obtain ⟨zs, hp, hr⟩ := h
  obtain ⟨zs', hp', hr'⟩ := h'
  exact ⟨zs ++ zs', hp.append hp', List.rel_append hr hr'⟩

/-- What does not tell related elements apart shows such lists alike. -/
theorem Shuffled.map {f : α → γ} {g : β → γ} (h : Shuffled R xs ys)
    (hfg : ∀ a b, R a b → f a = g b) : (xs.map f).Perm (ys.map g) := by
  obtain ⟨zs, hp, hr⟩ := h
  refine (hp.map f).trans (List.Perm.of_eq ?_)
  clear hp
  induction hr with
  | nil => rfl
  | cons hab _ ih => rw [List.map_cons, List.map_cons, hfg _ _ hab, ih]

theorem Shuffled.any_eq {p : α → Bool} {q : β → Bool} (h : Shuffled R xs ys)
    (hpq : ∀ a b, R a b → p a = q b) : xs.any p = ys.any q := by
  have hmap := (h.map hpq).any_eq (f := id)
  rwa [List.any_map, List.any_map] at hmap

theorem Shuffled.filter {p : α → Bool} {q : β → Bool} (h : Shuffled R xs ys)
    (hpq : ∀ a b, R a b → p a = q b) : Shuffled R (xs.filter p) (ys.filter q) := by
  obtain ⟨zs, hp, hr⟩ := h
  refine ⟨zs.filter p, hp.filter p, List.rel_filter (fun a b hab => ?_) hr⟩
  show p a = true ↔ q b = true
  rw [hpq a b hab]

theorem Shuffled.length_eq (h : Shuffled R xs ys) : xs.length = ys.length := by
  obtain ⟨zs, hp, hr⟩ := h
  rw [hp.length_eq, hr.length_eq]

/-- A comprehension over shuffled lists accepts both or none. -/
theorem Shuffled.mapM_ok {f : α → Except ε γ} {g : β → Except ε δ} {cs : List γ}
    (h : Shuffled R xs ys) (hfg : ∀ a b, R a b → Alike S (f a) (g b)) (hf : xs.mapM f = .ok cs) :
    ∃ ds, ys.mapM g = .ok ds ∧ Shuffled S cs ds := by
  obtain ⟨zs, hp, hr⟩ := h
  -- what was returned, in the order of the other list
  obtain ⟨ws, hw, hperm⟩ := List.perm_comp_forall₂ hp.symm (mapM_ok_iff.mp hf)
  have hdone : ∃ ds, List.Forall₂ (fun b d => g b = .ok d) ys ds ∧ List.Forall₂ S ws ds := by
    clear hf hp hperm
    induction hr generalizing ws with
    | nil =>
      cases hw
      exact ⟨[], .nil, .nil⟩
    | cons hab _ ih =>
      cases hw with
      | cons hc hw =>
        obtain ⟨ds, hds, hs⟩ := ih _ hw
        have hd := hfg _ _ hab
        rw [hc] at hd
        generalize hg : g _ = d at hd
        cases hd with
        | ok hcd => exact ⟨_ :: ds, .cons hg hds, .cons hcd hs⟩
  obtain ⟨ds, hds, hs⟩ := hdone
  exact ⟨ds, mapM_ok_iff.mpr hds, ws, hperm.symm, hs⟩

theorem Shuffled.mapM {f : α → Except ε γ} {g : β → Except ε δ} (h : Shuffled R xs ys)
    (hfg : ∀ a b, R a b → Alike S (f a) (g b)) : Alike (Shuffled S) (xs.mapM f) (ys.mapM g) := by
  refine Alike.of_accepts (fun cs hf => h.mapM_ok hfg hf) fun ds hg => ?_
  have hgf : ∀ b a, R a b → Alike (fun d c => S c d) (g b) (f a) := by
    intro b a hab
    have hd := hfg a b hab
    generalize f a = c, g b = d at hd
    cases hd with
    | ok hcd => exact .ok hcd
    | error => exact .error
  obtain ⟨cs, hf, -⟩ := h.flip.mapM_ok hgf hg
  exact ⟨cs, hf⟩

end Shuffled

/-! ### Sorting -/

/-- Lists in another order are sorted alike, by keys that tell their elements
apart. -/
theorem insertionSort_eq_of_perm {κ : Type} [LinearOrder κ] (key : α → κ) {xs ys : List α}
    (h : xs.Perm ys) (hkeys : (xs.map key).Nodup) :
    (xs.insertionSort fun a b => key a ≤ key b) = ys.insertionSort fun a b => key a ≤ key b := by
  have total : Std.Total fun a b => key a ≤ key b := ⟨fun a b => le_total (key a) (key b)⟩
  have trans : IsTrans α fun a b => key a ≤ key b := ⟨fun a b c => le_trans⟩
  have hperm := (List.perm_insertionSort (fun a b => key a ≤ key b) xs).trans
    (h.trans (List.perm_insertionSort (fun a b => key a ≤ key b) ys).symm)
  refine hperm.eq_of_pairwise (fun a b ha hb hab hba => ?_) (List.pairwise_insertionSort _ _)
    (List.pairwise_insertionSort _ _)
  have ha : a ∈ xs := (List.mem_insertionSort _).mp ha
  have hb : b ∈ xs := h.symm.subset ((List.mem_insertionSort _).mp hb)
  exact List.inj_on_of_nodup_map hkeys ha hb (le_antisymm hab hba)

end PyLib
