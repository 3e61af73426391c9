/-
SpecStyle/Lib/Threads.lean

Threads as a family of program counters, and mutual exclusion by one flag.

A lock of the source language is a flag with no owner: whoever releases it
frees it.  That exactly one thread is inside is a fact about where the
threads are, `Guards`, and each step that moves one thread keeps it
(`Guards.keep`), takes the lock (`Guards.acquire`) or frees it
(`Guards.release`).  The same for a list of named locks (`Owners`), and for a
number that says how many threads are inside (`Counts`).
-/
import Mathlib.Data.List.Nodup
import Mathlib.Logic.Function.Basic

namespace PyLib

variable {T P : Type*} {holds : P → Prop} {taken : Bool} {pc : T → P} {t u : T} {p : P}

/-- The flag is up exactly when some thread is inside, and then it is the only
one. -/
def Guards (holds : P → Prop) (taken : Bool) (pc : T → P) : Prop :=
  ∃ owner : Option T, taken = owner.isSome ∧ ∀ t, holds (pc t) ↔ owner = some t

/-- At most one thread is inside. -/
theorem Guards.unique (h : Guards holds taken pc) (ht : holds (pc t)) (hu : holds (pc u)) :
    t = u := by
  obtain ⟨owner, -, hown⟩ := h
  have := (hown t).mp ht
  rw [(hown u).mp hu] at this
  exact (Option.some.inj this).symm

/-- Nobody is inside a free lock. -/
theorem Guards.of_free (h : Guards holds false pc) (t : T) : ¬ holds (pc t) := by
  obtain ⟨owner, ho, hown⟩ := h
  intro ht
  rw [(hown t).mp ht] at ho
  cases ho

/-- A thread inside has the lock taken. -/
theorem Guards.taken_of (h : Guards holds taken pc) (ht : holds (pc t)) : taken = true := by
  obtain ⟨owner, ho, hown⟩ := h
  rw [ho, (hown t).mp ht]
  rfl

/-- Nobody is inside at the start. -/
theorem Guards.start (h : ∀ t, ¬ holds (pc t)) : Guards holds false pc :=
  ⟨none, rfl, fun t => ⟨fun ht => absurd ht (h t), fun ht => by cases ht⟩⟩

/-- Whoever was inside is, wherever the threads are now. -/
theorem Guards.congr {pc' : T → P} (h : Guards holds taken pc)
    (hpc : ∀ t, holds (pc' t) ↔ holds (pc t)) : Guards holds taken pc' := by
  obtain ⟨owner, ho, hown⟩ := h
  exact ⟨owner, ho, fun t => (hpc t).trans (hown t)⟩

/-- One thread is inside, and only that one. -/
theorem Guards.owner (t : T) (h : ∀ u, holds (pc u) ↔ u = t) : Guards holds true pc :=
  ⟨some t, rfl, fun u => (h u).trans ⟨fun hu => by rw [hu], fun hu => (Option.some.inj hu).symm⟩⟩

section Update

variable [DecidableEq T]

/-- A thread moves without entering or leaving. -/
theorem Guards.keep (h : Guards holds taken pc) (hp : holds p ↔ holds (pc t)) :
    Guards holds taken (Function.update pc t p) := by
  obtain ⟨owner, ho, hown⟩ := h
  refine ⟨owner, ho, fun u => ?_⟩
  by_cases hu : u = t
  · subst hu
    rw [Function.update_self, hp]
    exact hown u
  · rw [Function.update_of_ne hu]
    exact hown u

/-- A thread enters a free lock. -/
theorem Guards.acquire (h : Guards holds false pc) (hp : holds p) :
    Guards holds true (Function.update pc t p) := by
  refine ⟨some t, rfl, fun u => ?_⟩
  by_cases hu : u = t
  · subst hu
    rw [Function.update_self]
    exact ⟨fun _ => rfl, fun _ => hp⟩
  · rw [Function.update_of_ne hu]
    exact ⟨fun h' => absurd h' (h.of_free u), fun h' => absurd (Option.some.inj h').symm hu⟩

/-- The thread inside leaves. -/
theorem Guards.release (h : Guards holds taken pc) (ht : holds (pc t)) (hp : ¬ holds p) :
    Guards holds false (Function.update pc t p) := by
  refine Guards.start fun u hu => ?_
  by_cases hut : u = t
  · subst hut
    rw [Function.update_self] at hu
    exact hp hu
  · rw [Function.update_of_ne hut] at hu
    exact hut (h.unique hu ht)

end Update

/-! ### Named locks -/

section Owners

variable {K : Type*} {own : T → Option K} {held : List K} {k : K}

/-- Each lock that is held has exactly one owner. -/
structure Owners (own : T → Option K) (held : List K) : Prop where
  nodup : held.Nodup
  mem_iff : ∀ k, k ∈ held ↔ ∃ t, own t = some k
  unique : ∀ {t u k}, own t = some k → own u = some k → t = u

/-- Nobody owns a lock at the start. -/
theorem Owners.start (h : ∀ t, own t = none) : Owners own [] where
  nodup := List.nodup_nil
  mem_iff k := by simp [h]
  unique ht := by rw [h] at ht; cases ht

variable [DecidableEq T]

/-- A thread takes a free lock. -/
theorem Owners.take (h : Owners own held) (hk : k ∉ held) (ht : own t = none) :
    Owners (Function.update own t (some k)) (k :: held) := by
  have hfree : ∀ u, own u ≠ some k := fun u hu => hk ((h.mem_iff k).mpr ⟨u, hu⟩)
  refine ⟨List.nodup_cons.mpr ⟨hk, h.nodup⟩, fun j => ?_, ?_⟩
  · rw [List.mem_cons, h.mem_iff j]
    constructor
    · rintro (rfl | ⟨u, hu⟩)
      · exact ⟨t, Function.update_self ..⟩
      · refine ⟨u, ?_⟩
        rw [Function.update_of_ne, hu]
        rintro rfl
        rw [ht] at hu
        cases hu
    · rintro ⟨u, hu⟩
      by_cases hut : u = t
      · subst hut
        rw [Function.update_self] at hu
        exact .inl (Option.some.inj hu).symm
      · rw [Function.update_of_ne hut] at hu
        exact .inr ⟨u, hu⟩
  · intro u v j hu hv
    by_cases hut : u = t <;> by_cases hvt : v = t
    · rw [hut, hvt]
    · subst hut
      rw [Function.update_self] at hu
      rw [Function.update_of_ne hvt] at hv
      exact absurd (hv.trans hu.symm) (hfree v)
    · subst hvt
      rw [Function.update_self] at hv
      rw [Function.update_of_ne hut] at hu
      exact absurd (hu.trans hv.symm) (hfree u)
    · rw [Function.update_of_ne hut] at hu
      rw [Function.update_of_ne hvt] at hv
      exact h.unique hu hv

/-- An owner gives its lock back. -/
theorem Owners.release [DecidableEq K] (h : Owners own held) (ht : own t = some k) :
    Owners (Function.update own t none) (held.erase k) := by
  have hsome : ∀ {u j}, Function.update own t none u = some j → u ≠ t ∧ own u = some j := by
    intro u j hu
    by_cases hut : u = t
    · subst hut
      rw [Function.update_self] at hu
      cases hu
    · rw [Function.update_of_ne hut] at hu
      exact ⟨hut, hu⟩
  refine ⟨h.nodup.erase k, fun j => ?_, fun hu hv => h.unique (hsome hu).2 (hsome hv).2⟩
  rw [h.nodup.mem_erase_iff, h.mem_iff j]
  constructor
  · rintro ⟨hjk, u, hu⟩
    refine ⟨u, ?_⟩
    rw [Function.update_of_ne, hu]
    rintro rfl
    exact hjk (Option.some.inj (hu.symm.trans ht))
  · rintro ⟨u, hu⟩
    obtain ⟨hut, hu⟩ := hsome hu
    refine ⟨?_, u, hu⟩
    rintro rfl
    exact hut (h.unique hu ht)

end Owners

/-! ### Counters -/

section Counts

variable {inside : T → Prop} {n : Nat}

/-- There are `n` threads inside. -/
def Counts (inside : T → Prop) (n : Nat) : Prop :=
  ∃ ts : List T, ts.Nodup ∧ (∀ t, t ∈ ts ↔ inside t) ∧ n = ts.length

theorem Counts.start (h : ∀ t, ¬ inside t) : Counts inside 0 :=
  ⟨[], List.nodup_nil, fun t => ⟨fun ht => absurd ht List.not_mem_nil, fun ht => absurd ht (h t)⟩, rfl⟩

theorem Counts.congr {inside' : T → Prop} (h : Counts inside n) (hi : ∀ t, inside' t ↔ inside t) :
    Counts inside' n := by
  obtain ⟨ts, hnodup, hmem, hn⟩ := h
  exact ⟨ts, hnodup, fun t => (hmem t).trans (hi t).symm, hn⟩

theorem Counts.pos (h : Counts inside n) (ht : inside t) : 0 < n := by
  obtain ⟨ts, -, hmem, rfl⟩ := h
  exact List.length_pos_of_mem ((hmem t).mpr ht)

/-- A thread enters. -/
theorem Counts.enter {inside' : T → Prop} (h : Counts inside n) (ht : ¬ inside t)
    (hi : ∀ u, inside' u ↔ u = t ∨ inside u) : Counts inside' (n + 1) := by
  obtain ⟨ts, hnodup, hmem, rfl⟩ := h
  refine ⟨t :: ts, List.nodup_cons.mpr ⟨fun hin => ht ((hmem t).mp hin), hnodup⟩, fun u => ?_, rfl⟩
  rw [List.mem_cons, hi u, hmem u]

/-- A thread leaves. -/
theorem Counts.leave [DecidableEq T] {inside' : T → Prop} (h : Counts inside n) (ht : inside t)
    (hi : ∀ u, inside' u ↔ u ≠ t ∧ inside u) : Counts inside' (n - 1) := by
  obtain ⟨ts, hnodup, hmem, rfl⟩ := h
  refine ⟨ts.erase t, hnodup.erase t, fun u => ?_, ?_⟩
  · rw [hi u, hnodup.mem_erase_iff, hmem u]
  · rw [List.length_erase_of_mem ((hmem t).mpr ht)]

end Counts

end PyLib
