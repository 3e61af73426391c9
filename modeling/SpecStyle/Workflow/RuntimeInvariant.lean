/-
SpecStyle/Workflow/RuntimeInvariant.lean

What every reachable state of a production runtime satisfies.

The invariant, `RuntimeInv`, holds of a fresh runtime and is kept by one step
of one thread.  Most steps are quiet:
they change neither who is inside the run lock nor what is held or carried
(`RuntimeInv.quiet`).  The others are the starts of the calls, the failure of
the GPU, the ends, and the two calls that make and dispose of resources,
reopen and close; each has its own lemma.
-/
import SpecStyle.Workflow.RuntimeThreads

namespace SpecStyle

open PyLib

variable {Tid : Type} [DecidableEq Tid] {w w' : RuntimeWorld Tid} {t : Tid} {p : Pc}
variable {s : ProductionRuntime}

/-! ### The invariant -/

/-- What holds in every reachable state. -/
structure RuntimeInv (w : RuntimeWorld Tid) : Prop where
  guards : Guards (fun pc : Pc => pc.holdsRunLock = true) w.runtime.runLock w.pc
  closed_iff : w.runtime.closed = true ↔ w.runtime.readiness = .closed
  busy : w.runtime.readiness = .busy → ∃ t, (w.pc t).atWork = true
  atWork : ∀ t, (w.pc t).atWork = true →
    w.runtime.readiness = .busy ∨ w.runtime.readiness = .closed
  reopens : ∀ t, (w.pc t).reopens = true →
    w.runtime.readiness = .quarantined ∨ w.runtime.readiness = .closed
  quarantined : w.runtime.readiness = .quarantined → w.runtime.verifierFactory = none ∧
    (w.runtime.loaded ∈ w.released ∨ ∃ t, w.runtime.loaded ∈ (w.pc t).quarantines)
  owner : ∀ t, (w.pc t).ownsClose = true → w.runtime.closed = true ∧ w.closeDone = false
  one_owner : ∀ t u, (w.pc t).ownsClose = true → (w.pc u).ownsClose = true → t = u
  /-- No resource is forgotten. -/
  known : ∀ r < w.next,
    r ∈ w.released ∨ r ∈ w.runtime.ownedResources ∨ ∃ t, r ∈ (w.pc t).carries
  draining : ∀ t left, w.pc t = .disposing .close left → ∀ r < w.next, r ∈ w.released ∨ r ∈ left
  drained : (w.closeDone = true ∨ ∃ t, w.pc t = .closeUnlocked) →
    w.runtime.closed = true ∧ (∀ t, (w.pc t).holdsRunLock = false) ∧
      ∀ r < w.next, r ∈ w.released

omit [DecidableEq Tid] in
theorem RuntimeInv.start : RuntimeInv (RuntimeWorld.opened : RuntimeWorld Tid) where
  guards := Guards.start fun _ h => by cases h
  closed_iff := by
    constructor
    · intro h
      cases h
    · intro h
      cases h
  busy := fun h => by cases h
  atWork := fun _ h => by cases h
  reopens := fun _ h => by cases h
  quarantined := fun h => by cases h
  owner := fun _ h => by cases h
  one_owner := fun _ _ h => by cases h
  known := fun r h => by
    right
    left
    have hall : ∀ r ∈ List.range 4, r ∈ [1, 0, 2, 3] := by decide
    exact hall r (List.mem_range.mpr h)
  draining := fun _ _ h => by cases h
  drained := by
    rintro (h | ⟨_, h⟩)
    · cases h
    · cases h

/-! ### Places after a move -/

@[simp] theorem go_runtime : (w.go t p s).runtime = s := rfl

@[simp] theorem go_next : (w.go t p s).next = w.next := rfl

@[simp] theorem go_released : (w.go t p s).released = w.released := rfl

@[simp] theorem go_closeDone : (w.go t p s).closeDone = w.closeDone := rfl

@[simp] theorem go_pc_self : (w.go t p s).pc t = p := Function.update_self ..

theorem go_pc_of_ne {u : Tid} (h : u ≠ t) : (w.go t p s).pc u = w.pc u :=
  Function.update_of_ne h ..

/-- What a move leaves alike for the thread that moved is alike for all. -/
theorem go_congr {α : Type*} {f : Pc → α} (h : f p = f (w.pc t)) (u : Tid) :
    f ((w.go t p s).pc u) = f (w.pc u) := by
  by_cases hu : u = t
  · subst hu
    rw [go_pc_self, h]
  · rw [go_pc_of_ne hu]

/-- A thread at a place the move does not lead to was there before. -/
theorem go_pc_eq {q : Pc} {u : Tid} (hq : p ≠ q) (h : (w.go t p s).pc u = q) : w.pc u = q := by
  by_cases hu : u = t
  · subst hu
    rw [go_pc_self] at h
    exact absurd h hq
  · rw [go_pc_of_ne hu] at h
    exact h

/-! ### What a move leaves alone -/

theorem Pc.holds_of_atWork {q : Pc} (h : q.atWork = true) : q.holdsRunLock = true := by
  cases q with
  | working => rfl
  | onGpu => rfl
  | disposing why => cases why <;> cases h
  | _ => cases h

theorem Pc.holds_of_carries {q : Pc} {r : Resource} (h : r ∈ q.carries) :
    q.holdsRunLock = true := by
  cases q with
  | disposing why => cases why <;> rfl
  | pipelineLoaded => rfl
  | factoryCreated => rfl
  | _ => cases h

theorem Pc.holds_of_reopens {q : Pc} (h : q.reopens = true) : q.holdsRunLock = true := by
  cases q with
  | working => rfl
  | pipelineLoaded => rfl
  | factoryCreated => rfl
  | _ => cases h

/-- A reopen under way is neither at work nor closing. -/
theorem Pc.reopens_elim (q : Pc) (h : q.reopens = true) : q.atWork = false ∧
    q.ownsClose = false ∧ (∀ why left, q ≠ .disposing why left) ∧ q ≠ .closeUnlocked := by
  cases q with
  | working operation =>
      cases operation with
      | reopen => simp [atWork, ownsClose]
      | _ => cases h
  | pipelineLoaded => simp [atWork, ownsClose]
  | factoryCreated => simp [atWork, ownsClose]
  | _ => cases h

theorem Pc.quarantines_of_reopens {q : Pc} (h : q.reopens = true) : q.quarantines = [] := by
  cases q with
  | working => rfl
  | pipelineLoaded => rfl
  | factoryCreated => rfl
  | _ => cases h

theorem Pc.holds_of_quarantines {q : Pc} {r : Resource} (h : r ∈ q.quarantines) :
    q.holdsRunLock = true := by
  cases q with
  | disposing why => cases why <;> rfl
  | _ => cases h

/-- A move that neither begins nor ends a close leaves its owner alone. -/
theorem RuntimeInv.owner_go (h : RuntimeInv w) (ho : p.ownsClose = (w.pc t).ownsClose)
    (hc : w.runtime.closed = true → s.closed = true) {u : Tid}
    (hu : ((w.go t p s).pc u).ownsClose = true) :
    (s.closed = true ∧ w.closeDone = false) ∧
      ∀ v, ((w.go t p s).pc v).ownsClose = true → u = v := by
  rw [go_congr ho] at hu
  refine ⟨(h.owner u hu).imp hc id, fun v hv => ?_⟩
  rw [go_congr ho] at hv
  exact h.one_owner u v hu hv

/-- Resources pass between the runtime and the thread that moves. -/
theorem RuntimeInv.known_go (h : RuntimeInv w)
    (ho : ∀ r ∈ w.runtime.ownedResources,
      r ∈ w.released ∨ r ∈ s.ownedResources ∨ r ∈ p.carries)
    (hc : ∀ r ∈ (w.pc t).carries, r ∈ s.ownedResources ∨ r ∈ p.carries) (r : Resource)
    (hr : r < w.next) :
    r ∈ w.released ∨ r ∈ s.ownedResources ∨ ∃ u, r ∈ ((w.go t p s).pc u).carries := by
  have hmine : r ∈ s.ownedResources ∨ r ∈ p.carries →
      r ∈ s.ownedResources ∨ ∃ u, r ∈ ((w.go t p s).pc u).carries :=
    Or.imp id fun hp => ⟨t, by rw [go_pc_self]; exact hp⟩
  rcases h.known r hr with hk | hk | ⟨u, hu⟩
  · exact .inl hk
  · exact (ho r hk).imp id hmine
  · by_cases hut : u = t
    · subst hut
      exact .inr (hmine (hc r hu))
    · exact .inr (.inr ⟨u, by rw [go_pc_of_ne hut]; exact hu⟩)

/-- What only the thread inside the run lock does, nobody does once that
thread stops. -/
theorem RuntimeInv.none_go (h : RuntimeInv w) {f : Pc → Bool}
    (hf : ∀ q, f q = true → q.holdsRunLock = true) (hin : (w.pc t).holdsRunLock = true)
    (hp : f p = false) (u : Tid) : f ((w.go t p s).pc u) = false := by
  by_cases hut : u = t
  · subst hut
    rw [go_pc_self, hp]
  · rw [go_pc_of_ne hut]
    by_contra hw
    rw [Bool.not_eq_false] at hw
    exact hut (h.guards.unique (hf _ hw) hin)

/-- What a thread out of memory has left to close stays its own. -/
theorem RuntimeInv.quarantined_go (h : RuntimeInv w) (hr : w.runtime.readiness = .quarantined)
    (hf : s.verifierFactory = w.runtime.verifierFactory) (hl : s.loaded = w.runtime.loaded)
    (hq : ∀ r, r ∈ (w.pc t).quarantines → r ∈ p.quarantines) :
    s.verifierFactory = none ∧
      (s.loaded ∈ w.released ∨ ∃ u, s.loaded ∈ ((w.go t p s).pc u).quarantines) := by
  obtain ⟨hn, hk⟩ := h.quarantined hr
  refine ⟨hf.trans hn, ?_⟩
  rw [hl]
  refine hk.imp id ?_
  rintro ⟨u, hu⟩
  refine ⟨u, ?_⟩
  by_cases hut : u = t
  · subst hut
    rw [go_pc_self]
    exact hq _ hu
  · rw [go_pc_of_ne hut]
    exact hu

/-- A close that has let go of the run lock. -/
theorem RuntimeInv.drained_go (h : RuntimeInv w) (hp : p ≠ .closeUnlocked)
    (hd : w.closeDone = true ∨ ∃ u, (w.go t p s).pc u = .closeUnlocked) :
    w.runtime.closed = true ∧ (∀ u, (w.pc u).holdsRunLock = false) ∧
      ∀ r < w.next, r ∈ w.released :=
  h.drained (hd.imp id fun ⟨u, hu⟩ => ⟨u, go_pc_eq hp hu⟩)

/-- While a thread is inside the run lock, no close is through. -/
theorem RuntimeInv.not_drained_go (h : RuntimeInv w) (hin : (w.pc t).holdsRunLock = true)
    (hp : p ≠ .closeUnlocked) :
    ¬ (w.closeDone = true ∨ ∃ u, (w.go t p s).pc u = .closeUnlocked) := by
  intro hd
  obtain ⟨-, hh, -⟩ := h.drained_go hp hd
  rw [hh t] at hin
  cases hin

/-- While the owner of a close is inside it, the close is not through. -/
theorem RuntimeInv.not_drained_owner (h : RuntimeInv w) (hown : (w.pc t).ownsClose = true)
    (hne : w.pc t ≠ .closeUnlocked) (hp : p ≠ .closeUnlocked) :
    ¬ (w.closeDone = true ∨ ∃ u, (w.go t p s).pc u = .closeUnlocked) := by
  rintro (hd | ⟨u, hu⟩)
  · rw [(h.owner t hown).2] at hd
    cases hd
  · replace hu := go_pc_eq hp hu
    have hut := h.one_owner u t (by rw [hu]; rfl) hown
    subst hut
    exact hne hu

/-! ### Quiet steps -/

/-- Two states of the fields agree on all but the active job. -/
structure ProductionRuntime.SameCore (a b : ProductionRuntime) : Prop where
  factory : a.verifierFactory = b.verifierFactory
  loaded : a.loaded = b.loaded
  owned : a.ownedResources = b.ownedResources
  readiness : a.readiness = b.readiness
  closed : a.closed = b.closed
  runLock : a.runLock = b.runLock

theorem ProductionRuntime.SameCore.refl (a : ProductionRuntime) : a.SameCore a :=
  ⟨rfl, rfl, rfl, rfl, rfl, rfl⟩

theorem sameCore_mark (a : ProductionRuntime) (jobId : JobId) (reason : Text) :
    (a.markDurableCancel jobId reason).SameCore a := by
  unfold ProductionRuntime.markDurableCancel
  split_ifs
  · exact ⟨rfl, rfl, rfl, rfl, rfl, rfl⟩
  · exact .refl a

theorem sameCore_signalCancel (a : ProductionRuntime) (jobId : JobId) (reason : Text) :
    (a.signalCancel jobId reason).SameCore a := by
  unfold ProductionRuntime.signalCancel
  split_ifs
  · exact ⟨rfl, rfl, rfl, rfl, rfl, rfl⟩
  · exact .refl a

theorem sameCore_publishCloseSignal (a : ProductionRuntime) (jobId : Option JobId) :
    (a.publishCloseSignal jobId).SameCore a := by
  unfold ProductionRuntime.publishCloseSignal
  split_ifs
  · exact ⟨rfl, rfl, rfl, rfl, rfl, rfl⟩
  · exact .refl a

/-- Two places look alike to everyone else. -/
structure Pc.Alike (p q : Pc) : Prop where
  holds : p.holdsRunLock = q.holdsRunLock
  atWork : p.atWork = q.atWork
  reopens : p.reopens = true → q.reopens = true
  quarantines : ∀ r, r ∈ q.quarantines → r ∈ p.quarantines
  ownsClose : p.ownsClose = q.ownsClose
  carries : ∀ r, r ∈ q.carries → r ∈ p.carries
  not_draining : ∀ left, p ≠ .disposing .close left
  not_unlocked : p ≠ .closeUnlocked

/-- A step that leaves the readiness alone and moves a thread between places
of one kind: what is left to show is about the lock and the resources. -/
theorem RuntimeInv.steady (h : RuntimeInv w) {w' : RuntimeWorld Tid}
    (hpc : w'.pc = (w.go t p w.runtime).pc) (hr : w'.runtime.readiness = w.runtime.readiness)
    (hc : w'.runtime.closed = w.runtime.closed) (hd : w'.closeDone = w.closeDone)
    (hw : p.atWork = (w.pc t).atWork) (hre : p.reopens = true → (w.pc t).reopens = true)
    (ho : p.ownsClose = (w.pc t).ownsClose)
    (guards : Guards (fun pc : Pc => pc.holdsRunLock = true) w'.runtime.runLock w'.pc)
    (quarantined : w.runtime.readiness = .quarantined → w'.runtime.verifierFactory = none ∧
      (w'.runtime.loaded ∈ w'.released ∨ ∃ t, w'.runtime.loaded ∈ (w'.pc t).quarantines))
    (known : ∀ r < w'.next,
      r ∈ w'.released ∨ r ∈ w'.runtime.ownedResources ∨ ∃ t, r ∈ (w'.pc t).carries)
    (draining : ∀ t left, w'.pc t = .disposing .close left →
      ∀ r < w'.next, r ∈ w'.released ∨ r ∈ left)
    (drained : (w'.closeDone = true ∨ ∃ t, w'.pc t = .closeUnlocked) →
      w'.runtime.closed = true ∧ (∀ t, (w'.pc t).holdsRunLock = false) ∧
        ∀ r < w'.next, r ∈ w'.released) : RuntimeInv w' where
  guards := guards
  closed_iff := by
    rw [hc, hr]
    exact h.closed_iff
  busy := by
    rw [hr]
    intro hb
    obtain ⟨u, hu⟩ := h.busy hb
    exact ⟨u, by rw [hpc]; exact (go_congr hw u).trans hu⟩
  atWork := by
    intro u hu
    rw [hr]
    rw [hpc] at hu
    exact h.atWork u ((go_congr hw u).symm.trans hu)
  reopens := by
    intro u hu
    rw [hr]
    rw [hpc] at hu
    refine h.reopens u ?_
    by_cases hut : u = t
    · subst hut
      rw [go_pc_self] at hu
      exact hre hu
    · rw [go_pc_of_ne hut] at hu
      exact hu
  quarantined := fun hq => quarantined (hr.symm.trans hq)
  owner := by
    intro u hu
    rw [hpc] at hu
    rw [hc, hd]
    exact (h.owner_go ho id hu).1
  one_owner := by
    intro u v hu hv
    rw [hpc] at hu hv
    exact (h.owner_go ho id hu).2 v hv
  known := known
  draining := draining
  drained := drained

/-- A step between alike places that only touches the active job. -/
theorem RuntimeInv.quiet (h : RuntimeInv w) (hp : p.Alike (w.pc t)) (hs : s.SameCore w.runtime) :
    RuntimeInv (w.go t p s) := by
  refine h.steady rfl hs.readiness hs.closed rfl hp.atWork hp.reopens hp.ownsClose ?_ ?_ ?_ ?_ ?_
  · rw [go_runtime, hs.runLock]
    exact h.guards.keep (by rw [hp.holds])
  · exact fun hr => h.quarantined_go hr hs.factory hs.loaded hp.quarantines
  · exact h.known_go (s := s) (fun r hr => .inr (.inl (hs.owned ▸ hr)))
      fun r hr => .inr (hp.carries r hr)
  · exact fun u left hu => h.draining u left (go_pc_eq (hp.not_draining left) hu)
  · intro hd
    obtain ⟨hc, hh, hr⟩ := h.drained_go hp.not_unlocked hd
    exact ⟨hs.closed.trans hc, fun u => (go_congr hp.holds u).trans (hh u), hr⟩

/-! ### Starting -/

/-- A call that takes the run lock of an open runtime. -/
theorem RuntimeInv.begin (h : RuntimeInv w) {operation : Operation} (hop : operation ≠ .reopen)
    (hc : w.runtime.closed = false) (hl : w.runtime.runLock = false) (jobId : Option JobId)
    (ht : (w.pc t).ownsClose = false) (hcarries : (w.pc t).carries = []) :
    RuntimeInv (w.go t (.working operation) (w.runtime.begin jobId)) where
  guards := by
    have hg := h.guards
    rw [hl] at hg
    exact hg.acquire rfl
  closed_iff := by
    show w.runtime.closed = true ↔ RuntimeReadiness.busy = .closed
    simp [hc]
  busy := fun _ => ⟨t, by rw [go_pc_self]; exact decide_eq_true hop⟩
  atWork := fun _ _ => .inl rfl
  reopens := by
    intro u hu
    -- a reopen is inside the run lock, which was free
    by_cases hut : u = t
    · subst hut
      rw [go_pc_self] at hu
      cases operation with
      | reopen => exact absurd rfl hop
      | _ => cases hu
    · rw [go_pc_of_ne hut] at hu
      have hg := h.guards
      rw [hl] at hg
      exact absurd (Pc.holds_of_reopens hu) (hg.of_free u)
  quarantined := fun hr => by cases hr
  owner := fun u hu => (h.owner_go (by rw [ht]; rfl) id hu).1
  one_owner := fun u v hu => (h.owner_go (s := w.runtime) (by rw [ht]; rfl) id hu).2 v
  known := h.known_go (fun _ hr => .inr (.inl hr)) fun r hr => by
    rw [hcarries] at hr
    cases hr
  draining := fun u left hu => h.draining u left (go_pc_eq (by simp) hu)
  drained := by
    intro hd
    obtain ⟨hx, -⟩ := h.drained_go (by simp) hd
    rw [hc] at hx
    cases hx

/-- A reopen takes the run lock of a quarantined runtime. -/
theorem RuntimeInv.startReopen (h : RuntimeInv w) (hc : w.runtime.closed = false)
    (hr : w.runtime.readiness = .quarantined) (hl : w.runtime.runLock = false)
    (ht : w.pc t = .idle) :
    RuntimeInv (w.go t (.working .reopen) w.runtime.acquireRunLock) where
  guards := by
    have hg := h.guards
    rw [hl] at hg
    exact hg.acquire rfl
  closed_iff := h.closed_iff
  busy := by
    intro hb
    rw [show w.runtime.readiness = .busy from hb] at hr
    cases hr
  atWork := fun u hu => h.atWork u ((go_congr (by rw [ht]; rfl) u).symm.trans hu)
  reopens := fun _ _ => .inl hr
  quarantined := fun hq => h.quarantined_go hq rfl rfl fun r hx => by
    rw [ht] at hx
    cases hx
  owner := fun u hu => (h.owner_go (by rw [ht]; rfl) id hu).1
  one_owner := fun u v hu =>
    (h.owner_go (s := w.runtime.acquireRunLock) (by rw [ht]; rfl) id hu).2 v
  known := h.known_go (fun _ hr => .inr (.inl hr)) fun r hr => by
    rw [ht] at hr
    cases hr
  draining := fun u left hu => h.draining u left (go_pc_eq (by simp) hu)
  drained := by
    intro hd
    obtain ⟨hx, -⟩ := h.drained_go (by simp) hd
    rw [hc] at hx
    cases hx

/-! ### The failure of the GPU -/

/-- Out of memory: the pipeline and its factory pass to the thread that closes
them, and the runtime is quarantined unless it was closed meanwhile. -/
theorem RuntimeInv.outOfMemory (h : RuntimeInv w) {phase : GpuPhase} (ht : w.pc t = .onGpu phase) :
    RuntimeInv (w.go t (.disposing .outOfMemory w.runtime.pipelineResources)
      w.runtime.quarantineUnderLease) := by
  have hin : (w.pc t).holdsRunLock = true := by
    rw [ht]
    rfl
  have hnone := fun f hf => h.none_go (f := f)
    (p := .disposing .outOfMemory w.runtime.pipelineResources)
    (s := w.runtime.quarantineUnderLease) hf hin
  refine ⟨?_, ?_, ?_, ?_, ?_, ?_, ?_, ?_, ?_, ?_, ?_⟩
  · exact h.guards.keep (by rw [ht]; simp [Pc.holdsRunLock, Pc.operation])
  · show w.runtime.closed = true ↔
      (if w.runtime.closed then w.runtime.readiness else .quarantined) = .closed
    by_cases hc : w.runtime.closed = true
    · rw [if_pos hc]
      exact h.closed_iff
    · rw [if_neg hc]
      simp [hc]
  · intro hb
    have hb : (if w.runtime.closed then w.runtime.readiness else .quarantined) =
      RuntimeReadiness.busy := hb
    split_ifs at hb with hc
    rw [h.closed_iff.mp hc] at hb
    cases hb
  · intro u hu
    rw [hnone _ (fun _ => Pc.holds_of_atWork) rfl u] at hu
    cases hu
  · intro u hu
    rw [hnone _ (fun _ => Pc.holds_of_reopens) rfl u] at hu
    cases hu
  · refine fun _ => ⟨rfl, .inr ⟨t, ?_⟩⟩
    rw [go_pc_self]
    exact List.mem_append.mpr (.inr List.mem_cons_self)
  · exact fun u hu => (h.owner_go (by rw [ht]; rfl) id hu).1
  · exact fun u v hu =>
      (h.owner_go (s := w.runtime.quarantineUnderLease) (by rw [ht]; rfl) id hu).2 v
  · refine h.known_go (fun r hr => ?_) fun r hr => ?_
    · rcases List.mem_append.mp hr with hr | hr
      · exact .inr (.inr hr)
      · exact .inr (.inl (List.mem_append.mpr (.inr hr)))
    · rw [ht] at hr
      cases hr
  · exact fun u left hu => h.draining u left (go_pc_eq (by simp) hu)
  · exact fun hd => absurd hd (h.not_drained_go hin (by simp))

/-! ### Ending -/

/-- The section of `_finish_run`, after a result or after an error. -/
theorem RuntimeInv.finishRun (h : RuntimeInv w) {operation : Operation}
    (ht : w.pc t = .working operation ∨ w.pc t = .raising) :
    RuntimeInv (w.go t (.finishing operation) w.runtime.finishRun) := by
  obtain ⟨hin, hown, hcarries, hquar⟩ : (w.pc t).holdsRunLock = true ∧
      (w.pc t).ownsClose = false ∧ (w.pc t).carries = [] ∧ (w.pc t).quarantines = [] := by
    rcases ht with ht | ht
    · rw [ht]
      exact ⟨rfl, rfl, rfl, rfl⟩
    · rw [ht]
      exact ⟨rfl, rfl, rfl, rfl⟩
  have hnone := fun f hf => h.none_go (f := f) (p := .finishing operation)
    (s := w.runtime.finishRun) hf hin
  obtain ⟨hnb, hcl, hqr⟩ : w.runtime.finishRun.readiness ≠ .busy ∧
      (w.runtime.finishRun.readiness = .closed ↔ w.runtime.readiness = .closed) ∧
      (w.runtime.finishRun.readiness = .quarantined → w.runtime.readiness = .quarantined) := by
    have hci := h.closed_iff
    unfold ProductionRuntime.finishRun
    cases hr : w.runtime.readiness <;> cases hc : w.runtime.closed <;> simp_all
  refine ⟨?_, ?_, ?_, ?_, ?_, ?_, ?_, ?_, ?_, ?_, ?_⟩
  · exact h.guards.keep (by rw [hin]; simp [Pc.holdsRunLock, Pc.operation])
  · exact h.closed_iff.trans hcl.symm
  · exact fun hb => absurd hb hnb
  · intro u hu
    rw [hnone _ (fun _ => Pc.holds_of_atWork) rfl u] at hu
    cases hu
  · intro u hu
    rw [hnone _ (fun _ => Pc.holds_of_reopens) rfl u] at hu
    cases hu
  · refine fun hr => h.quarantined_go (hqr hr) rfl rfl fun r hx => ?_
    rw [hquar] at hx
    cases hx
  · exact fun u hu => (h.owner_go (by rw [hown]; rfl) id hu).1
  · exact fun u v hu => (h.owner_go (s := w.runtime.finishRun) (by rw [hown]; rfl) id hu).2 v
  · refine h.known_go (fun _ hr => .inr (.inl hr)) fun r hr => ?_
    rw [hcarries] at hr
    cases hr
  · exact fun u left hu => h.draining u left (go_pc_eq (by simp) hu)
  · exact fun hd => absurd hd (h.not_drained_go hin (by simp))

/-- The run lock is released. -/
theorem RuntimeInv.release (h : RuntimeInv w) {operation : Operation}
    (ht : w.pc t = .finishing operation) :
    RuntimeInv (w.go t .idle w.runtime.releaseRunLock) := by
  have hin : (w.pc t).holdsRunLock = true := by
    rw [ht]
    rfl
  refine h.steady rfl rfl rfl rfl (by rw [ht]; rfl) (by simp [Pc.reopens]) (by rw [ht]; rfl)
    ?_ ?_ ?_ ?_ ?_
  · exact h.guards.release hin (by simp [Pc.holdsRunLock, Pc.operation])
  · refine fun hr => h.quarantined_go hr rfl rfl fun r hx => ?_
    rw [ht] at hx
    cases hx
  · refine h.known_go (fun _ hr => .inr (.inl hr)) fun r hr => ?_
    rw [ht] at hr
    cases hr
  · exact fun u left hu => h.draining u left (go_pc_eq (by simp) hu)
  · exact fun hd => absurd hd (h.not_drained_go hin (by simp))

/-! ### Reopening -/

/-- A reopen makes a resource, which only its thread knows of. -/
theorem RuntimeInv.alloc (h : RuntimeInv w) (hp : p.reopens = true) (ht : (w.pc t).reopens = true)
    (hc : ∀ r, r ∈ (w.pc t).carries ∨ r = w.next → r ∈ p.carries) :
    RuntimeInv { w.go t p w.runtime with next := w.next + 1 } := by
  have hin := Pc.holds_of_reopens ht
  obtain ⟨hpw, hpo, hpd, hpu⟩ := p.reopens_elim hp
  obtain ⟨htw, hto, htd, -⟩ := (w.pc t).reopens_elim ht
  refine h.steady rfl rfl rfl rfl (by rw [hpw, htw]) (fun _ => ht) (by rw [hpo, hto]) ?_ ?_ ?_ ?_ ?_
  · exact h.guards.keep (by rw [hin, Pc.holds_of_reopens hp])
  · refine fun hr => h.quarantined_go (s := w.runtime) hr rfl rfl fun r hx => ?_
    rw [Pc.quarantines_of_reopens ht] at hx
    cases hx
  · intro r hr
    rcases Nat.lt_succ_iff_lt_or_eq.mp hr with hr | rfl
    · exact h.known_go (fun _ hr => .inr (.inl hr)) (fun r hr => .inr (hc r (.inl hr))) r hr
    · refine .inr (.inr ⟨t, ?_⟩)
      show w.next ∈ ((w.go t p w.runtime).pc t).carries
      rw [go_pc_self]
      exact hc _ (.inr rfl)
  · intro u left hu
    -- a close that disposes of the resources is inside the run lock, and so is this thread
    replace hu := go_pc_eq (s := w.runtime) (hpd .close left) hu
    have hut := h.guards.unique (t := u) (by rw [hu]; rfl) hin
    subst hut
    exact absurd hu (htd .close left)
  · exact fun hd => absurd hd (h.not_drained_go (s := w.runtime) hin hpu)

/-- The section that installs a new pipeline on an open runtime.  The pipeline
it replaces was closed when the runtime was quarantined. -/
theorem RuntimeInv.install (h : RuntimeInv w) {loaded factory : Resource}
    (ht : w.pc t = .factoryCreated loaded factory) (hc : w.runtime.closed = false) :
    RuntimeInv (w.go t (.finishing .reopen) (w.runtime.withPipeline loaded factory)) := by
  have hin : (w.pc t).holdsRunLock = true := by
    rw [ht]
    rfl
  have hnone := fun f hf => h.none_go (f := f) (p := .finishing .reopen)
    (s := w.runtime.withPipeline loaded factory) hf hin
  obtain ⟨hfac, hold⟩ : w.runtime.verifierFactory = none ∧ w.runtime.loaded ∈ w.released := by
    have hr : w.runtime.readiness = .quarantined := by
      rcases h.reopens t (by rw [ht]; rfl) with hr | hr
      · exact hr
      · rw [h.closed_iff.mpr hr] at hc
        cases hc
    obtain ⟨hn, hk | ⟨u, hu⟩⟩ := h.quarantined hr
    · exact ⟨hn, hk⟩
    · have hut := h.guards.unique (Pc.holds_of_quarantines hu) hin
      subst hut
      rw [ht] at hu
      cases hu
  refine ⟨?_, ?_, ?_, ?_, ?_, ?_, ?_, ?_, ?_, ?_, ?_⟩
  · exact h.guards.keep (by rw [hin]; simp [Pc.holdsRunLock, Pc.operation])
  · show w.runtime.closed = true ↔ RuntimeReadiness.ready = .closed
    simp [hc]
  · intro hb
    cases hb
  · intro u hu
    rw [hnone _ (fun _ => Pc.holds_of_atWork) rfl u] at hu
    cases hu
  · intro u hu
    rw [hnone _ (fun _ => Pc.holds_of_reopens) rfl u] at hu
    cases hu
  · intro hr
    cases hr
  · exact fun u hu => (h.owner_go (by rw [ht]; rfl) id hu).1
  · exact fun u v hu => (h.owner_go (s := w.runtime.withPipeline loaded factory)
      (by rw [ht]; rfl) id hu).2 v
  · refine h.known_go (fun r hr => ?_) fun r hr => ?_
    · rcases List.mem_append.mp hr with hr | hr
      · unfold ProductionRuntime.pipelineResources at hr
        rw [hfac] at hr
        rw [List.mem_singleton.mp hr]
        exact .inl hold
      · exact .inr (.inl (List.mem_append.mpr (.inr hr)))
    · rw [ht] at hr
      refine .inl (List.mem_append.mpr (.inl ?_))
      show r ∈ [factory, loaded]
      exact List.mem_pair.mpr (List.mem_pair.mp hr).symm
  · exact fun u left hu => h.draining u left (go_pc_eq (by simp) hu)
  · exact fun hd => absurd hd (h.not_drained_go hin (by simp))

/-! ### Closing -/

/-- One `close` of a resource. -/
theorem RuntimeInv.closeNext (h : RuntimeInv w) {why : Disposal} {r : Resource}
    {rs : List Resource} (ht : w.pc t = .disposing why (r :: rs)) :
    RuntimeInv { w.go t (.disposing why rs) w.runtime with released := r :: w.released } := by
  have hin : (w.pc t).holdsRunLock = true := by
    rw [ht]
    cases why <;> rfl
  have hmem : ∀ x, x ∈ w.released ∨ x ∈ r :: rs → x ∈ r :: w.released ∨ x ∈ rs := by
    intro x hx
    rcases hx with hx | hx
    · exact .inl (List.mem_cons_of_mem _ hx)
    · rcases List.mem_cons.mp hx with rfl | hx
      · exact .inl List.mem_cons_self
      · exact .inr hx
  have hgo : ∀ (f : Pc → List Resource) (x : Resource),
      f (.disposing why (r :: rs)) = [] ∧ f (.disposing why rs) = [] ∨
        f (.disposing why (r :: rs)) = r :: rs ∧ f (.disposing why rs) = rs →
      (x ∈ w.released ∨ ∃ u, x ∈ f (w.pc u)) →
      x ∈ r :: w.released ∨ ∃ u, x ∈ f ((w.go t (.disposing why rs) w.runtime).pc u) := by
    intro f x hf hx
    rcases hx with hx | ⟨u, hu⟩
    · exact .inl (List.mem_cons_of_mem _ hx)
    · by_cases hut : u = t
      · subst hut
        rw [ht] at hu
        rcases hf with ⟨hf, -⟩ | ⟨hf, hf'⟩
        · rw [hf] at hu
          cases hu
        · rw [hf] at hu
          refine (hmem x (.inr hu)).imp id fun hx => ⟨u, ?_⟩
          rw [go_pc_self, hf']
          exact hx
      · exact .inr ⟨u, by rw [go_pc_of_ne hut]; exact hu⟩
  refine h.steady (p := .disposing why rs) rfl rfl rfl rfl (by rw [ht]; rfl)
    (by simp [Pc.reopens]) (by rw [ht]; cases why <;> rfl) ?_ ?_ ?_ ?_ ?_
  · exact h.guards.keep (by rw [hin]; cases why <;> simp [Pc.holdsRunLock, Pc.operation])
  · intro hr
    obtain ⟨hn, hk⟩ := h.quarantined hr
    refine ⟨hn, hgo Pc.quarantines _ ?_ hk⟩
    cases why with
    | outOfMemory => exact .inr ⟨rfl, rfl⟩
    | reopenFailed => exact .inl ⟨rfl, rfl⟩
    | close => exact .inl ⟨rfl, rfl⟩
  · intro x hx
    rcases h.known x hx with hk | hk | hk
    · exact (hgo Pc.carries x (.inr ⟨rfl, rfl⟩) (.inl hk)).imp id .inr
    · exact .inr (.inl hk)
    · exact (hgo Pc.carries x (.inr ⟨rfl, rfl⟩) (.inr hk)).imp id .inr
  · intro u left hu x hx
    by_cases hut : u = t
    · subst hut
      have hu : (Pc.disposing why rs) = .disposing .close left := by
        rw [← hu]
        exact (go_pc_self (w := w) (s := w.runtime)).symm
      cases hu
      exact hmem x (h.draining u _ ht x hx)
    · have hu : w.pc u = .disposing .close left := by
        rw [← hu]
        exact (go_pc_of_ne (s := w.runtime) hut).symm
      exact (h.draining u left hu x hx).imp (List.mem_cons_of_mem _) id
  · exact fun hd => absurd hd (h.not_drained_go (s := w.runtime) hin (by simp))

/-- The section of `_begin_close` that makes its caller the owner. -/
theorem RuntimeInv.close (h : RuntimeInv w) (ht : w.pc t = .idle)
    (hc : w.runtime.closed = false) (jobId : Option JobId) :
    RuntimeInv (w.go t (.closing jobId) w.runtime.markClosed) := by
  have hnd : ¬ (w.closeDone = true ∨ ∃ u, (w.go t (.closing jobId) w.runtime.markClosed).pc u =
      .closeUnlocked) := by
    intro hd
    obtain ⟨hx, -⟩ := h.drained_go (by simp) hd
    rw [hc] at hx
    cases hx
  -- an open runtime has no owner of a close yet
  have hown : ∀ u, ((w.go t (.closing jobId) w.runtime.markClosed).pc u).ownsClose = true →
      u = t := by
    intro u hu
    by_contra hut
    rw [go_pc_of_ne hut] at hu
    rw [(h.owner u hu).1] at hc
    cases hc
  refine ⟨?_, ?_, ?_, ?_, ?_, ?_, ?_, ?_, ?_, ?_, ?_⟩
  · exact h.guards.keep (by rw [ht]; simp [Pc.holdsRunLock, Pc.operation])
  · exact ⟨fun _ => rfl, fun _ => rfl⟩
  · intro hb
    cases hb
  · exact fun _ _ => .inr rfl
  · exact fun _ _ => .inr rfl
  · intro hr
    cases hr
  · exact fun _ _ => ⟨rfl, Bool.eq_false_iff.mpr fun hd => hnd (.inl hd)⟩
  · exact fun u v hu hv => (hown u hu).trans (hown v hv).symm
  · refine h.known_go (fun _ hr => .inr (.inl hr)) fun r hr => ?_
    rw [ht] at hr
    cases hr
  · exact fun u left hu => h.draining u left (go_pc_eq (by simp) hu)
  · exact fun hd => absurd hd hnd

/-- The owner of a close moves on, and the runtime fields stay but for the run
lock and the factory. -/
theorem RuntimeInv.closeLocked (h : RuntimeInv w) {jobId : Option JobId}
    (ht : w.pc t = .closing jobId) (hl : w.runtime.runLock = false) :
    RuntimeInv (w.go t (.closeLocked jobId) w.runtime.acquireRunLock) := by
  have hown : (w.pc t).ownsClose = true := by
    rw [ht]
    rfl
  refine h.steady rfl rfl rfl rfl (by rw [ht]; rfl) (by simp [Pc.reopens]) (by rw [ht]; rfl)
    ?_ ?_ ?_ ?_ ?_
  · have hg := h.guards
    rw [hl] at hg
    exact hg.acquire rfl
  · refine fun hr => h.quarantined_go hr rfl rfl fun r hx => ?_
    rw [ht] at hx
    cases hx
  · refine h.known_go (fun _ hr => .inr (.inl hr)) fun r hr => ?_
    rw [ht] at hr
    cases hr
  · exact fun u left hu => h.draining u left (go_pc_eq (by simp) hu)
  · exact fun hd => absurd hd (h.not_drained_owner hown (by rw [ht]; simp) (by simp))

/-- The owner takes over everything the runtime owns. -/
theorem RuntimeInv.closeResources (h : RuntimeInv w) {jobId : Option JobId}
    (ht : w.pc t = .closeLocked jobId) :
    RuntimeInv (w.go t (.disposing .close w.runtime.ownedResources) w.runtime.dropFactory) := by
  have hin : (w.pc t).holdsRunLock = true := by
    rw [ht]
    rfl
  have hcl : w.runtime.readiness = .closed :=
    h.closed_iff.mp (h.owner t (by rw [ht]; rfl)).1
  refine h.steady rfl rfl rfl rfl (by rw [ht]; rfl) (by simp [Pc.reopens]) (by rw [ht]; rfl)
    ?_ ?_ ?_ ?_ ?_
  · exact h.guards.keep (by rw [hin]; simp [Pc.holdsRunLock])
  · intro hr
    rw [show w.runtime.readiness = .quarantined from hr] at hcl
    cases hcl
  · refine h.known_go (fun r hr => .inr (.inr hr)) fun r hr => ?_
    rw [ht] at hr
    cases hr
  · intro u left hu r hr
    by_cases hut : u = t
    · subst hut
      rw [go_pc_self] at hu
      cases hu
      rcases h.known r hr with hk | hk | ⟨v, hv⟩
      · exact .inl hk
      · exact .inr hk
      · -- nobody else is inside the run lock, and the owner carried nothing
        have hvu := h.guards.unique (Pc.holds_of_carries hv) hin
        subst hvu
        rw [ht] at hv
        cases hv
    · rw [go_pc_of_ne hut] at hu
      exact h.draining u left hu r hr
  · exact fun hd => absurd hd (h.not_drained_go hin (by simp))

/-- The owner has closed everything and releases the run lock. -/
theorem RuntimeInv.closeRelease (h : RuntimeInv w) (ht : w.pc t = .disposing .close []) :
    RuntimeInv (w.go t .closeUnlocked w.runtime.releaseRunLock) := by
  have hin : (w.pc t).holdsRunLock = true := by
    rw [ht]
    rfl
  refine h.steady rfl rfl rfl rfl (by rw [ht]; rfl) (by simp [Pc.reopens]) (by rw [ht]; rfl)
    ?_ ?_ ?_ ?_ ?_
  · exact h.guards.release hin (by simp [Pc.holdsRunLock, Pc.operation])
  · refine fun hr => h.quarantined_go hr rfl rfl fun r hx => ?_
    rw [ht] at hx
    cases hx
  · refine h.known_go (fun _ hr => .inr (.inl hr)) fun r hr => ?_
    rw [ht] at hr
    cases hr
  · exact fun u left hu => h.draining u left (go_pc_eq (by simp) hu)
  · refine fun _ => ⟨(h.owner t (by rw [ht]; rfl)).1,
      h.none_go (fun _ hq => hq) hin rfl, fun r hr => ?_⟩
    exact (h.draining t [] ht r hr).resolve_right (by simp)

/-- The owner sets the event the other callers wait for. -/
theorem RuntimeInv.closed (h : RuntimeInv w) (ht : w.pc t = .closeUnlocked) :
    RuntimeInv { w.go t .idle w.runtime with closeDone := true } := by
  obtain ⟨hc, hh, hr⟩ := h.drained (.inr ⟨t, ht⟩)
  have hnone : ∀ u, ((w.go t .idle w.runtime).pc u).ownsClose = false := by
    intro u
    by_cases hut : u = t
    · subst hut
      rw [go_pc_self]
      rfl
    · rw [go_pc_of_ne hut]
      by_contra hu
      rw [Bool.not_eq_false] at hu
      exact hut (h.one_owner u t hu (by rw [ht]; rfl))
  refine ⟨?_, h.closed_iff, ?_, ?_, ?_, ?_, ?_, ?_, ?_, ?_, ?_⟩
  · exact h.guards.keep (by rw [ht]; simp [Pc.holdsRunLock, Pc.operation])
  · intro hb
    obtain ⟨u, hu⟩ := h.busy hb
    exact ⟨u, (go_congr (s := w.runtime) (by rw [ht]; rfl) u).trans hu⟩
  · exact fun u hu => h.atWork u ((go_congr (s := w.runtime) (by rw [ht]; rfl) u).symm.trans hu)
  · exact fun u hu => h.reopens u ((go_congr (s := w.runtime) (by rw [ht]; rfl) u).symm.trans hu)
  · refine fun hr => h.quarantined_go (s := w.runtime) hr rfl rfl fun r hx => ?_
    rw [ht] at hx
    cases hx
  · exact fun u hu => by cases (hnone u).symm.trans hu
  · exact fun u v hu => by cases (hnone u).symm.trans hu
  · refine h.known_go (fun _ hr => .inr (.inl hr)) fun r hr => ?_
    rw [ht] at hr
    cases hr
  · exact fun u left hu => h.draining u left (go_pc_eq (s := w.runtime) (by simp) hu)
  · exact fun _ => ⟨hc, fun u => (go_congr (s := w.runtime) (by rw [ht]; rfl) u).trans (hh u), hr⟩

/-! ### Every step -/

/-- Two places outside the run lock, neither in a close. -/
theorem Pc.Alike.outside {q : Pc} (hp : p.holdsRunLock = false ∧ p.ownsClose = false)
    (hq : q.holdsRunLock = false ∧ q.ownsClose = false) : p.Alike q := by
  have hno : ∀ {x : Pc} {f : Pc → Bool}, (∀ y, f y = true → y.holdsRunLock = true) →
      x.holdsRunLock = false → f x = false := by
    intro x f hf hx
    by_contra hfx
    rw [Bool.not_eq_false] at hfx
    rw [hf x hfx] at hx
    cases hx
  refine ⟨by rw [hp.1, hq.1], ?_, ?_, ?_, by rw [hp.2, hq.2], ?_, ?_, ?_⟩
  · rw [hno (fun _ => Pc.holds_of_atWork) hp.1, hno (fun _ => Pc.holds_of_atWork) hq.1]
  · intro hx
    rw [hno (fun _ => Pc.holds_of_reopens) hp.1] at hx
    cases hx
  · intro r hr
    rw [Pc.holds_of_quarantines hr] at hq
    cases hq.1
  · intro r hr
    rw [Pc.holds_of_carries hr] at hq
    cases hq.1
  · rintro left rfl
    cases hp.1
  · rintro rfl
    cases hp.2

/-- Two places inside the run lock, neither in a close nor out of memory. -/
theorem Pc.Alike.inside {q : Pc} (hp : p.holdsRunLock = true ∧ p.ownsClose = false)
    (hq : q.holdsRunLock = true ∧ q.ownsClose = false ∧ q.quarantines = [])
    (hw : p.atWork = q.atWork) (hre : p.reopens = true → q.reopens = true)
    (hc : ∀ r ∈ q.carries, r ∈ p.carries) : p.Alike q := by
  refine ⟨by rw [hp.1, hq.1], hw, hre, ?_, by rw [hp.2, hq.2.1], hc, ?_, ?_⟩
  · intro r hr
    rw [hq.2.2] at hr
    cases hr
  · rintro left rfl
    cases hp.2
  · rintro rfl
    cases hp.2

omit [DecidableEq Tid] in
/-- A thread that stays where it is while the active job changes. -/
theorem RuntimeInv.sameCore (h : RuntimeInv w) (hs : s.SameCore w.runtime) :
    RuntimeInv { w with runtime := s } where
  guards := by
    rw [hs.runLock]
    exact h.guards
  closed_iff := by
    rw [hs.closed, hs.readiness]
    exact h.closed_iff
  busy := by
    rw [hs.readiness]
    exact h.busy
  atWork := by
    rw [hs.readiness]
    exact h.atWork
  reopens := by
    rw [hs.readiness]
    exact h.reopens
  quarantined := by
    rw [hs.readiness, hs.factory, hs.loaded]
    exact h.quarantined
  owner := by
    rw [hs.closed]
    exact h.owner
  one_owner := h.one_owner
  known := by
    rw [hs.owned]
    exact h.known
  draining := h.draining
  drained := by
    rw [hs.closed]
    exact h.drained

/-- **One step keeps the invariant.** -/
theorem RuntimeInv.step (h : RuntimeInv w) {move : Move} (hs : RuntimeStep w t move w') :
    RuntimeInv w' := by
  cases hs with
  | run at_ ok =>
      obtain ⟨hc, -, -, hl, jobId, -, rfl⟩ := ProductionRuntime.startRun_ok_iff.mp ok
      exact h.begin (by simp) hc hl _ (by rw [at_]; rfl) (by rw [at_]; rfl)
  | enterPhase at_ =>
      refine h.quiet ?_ (.refl _)
      rw [at_]
      exact Pc.Alike.inside ⟨rfl, rfl⟩ ⟨rfl, rfl, rfl⟩ rfl (fun hx => by cases hx) fun _ hr => hr
  | leavePhase at_ =>
      refine h.quiet ?_ (.refl _)
      rw [at_]
      exact Pc.Alike.inside ⟨rfl, rfl⟩ ⟨rfl, rfl, rfl⟩ rfl (fun hx => by cases hx) fun _ hr => hr
  | outOfMemory at_ => exact h.outOfMemory at_
  | raise at_ =>
      refine h.quiet ?_ (.refl _)
      rw [at_]
      exact Pc.Alike.inside ⟨rfl, rfl⟩ ⟨rfl, rfl, rfl⟩ rfl (fun hx => by cases hx) fun _ hr => hr
  | finishRaising at_ => exact h.finishRun (.inr at_)
  | mark at_ => exact h.sameCore (sameCore_mark ..)
  | publishExport at_ opened =>
      exact h.quiet (Pc.Alike.outside ⟨rfl, rfl⟩ (by rw [at_]; exact ⟨rfl, rfl⟩)) (.refl _)
  | startExport at_ ok =>
      obtain ⟨hc, -, hl, rfl⟩ := ProductionRuntime.startReady_ok_iff.mp ok
      exact h.begin (by simp) hc hl _ (by rw [at_]; rfl) (by rw [at_]; rfl)
  | exportRefused at_ =>
      exact h.quiet (Pc.Alike.outside ⟨rfl, rfl⟩ (by rw [at_]; exact ⟨rfl, rfl⟩)) (.refl _)
  | recoverExports at_ opened =>
      exact h.quiet (Pc.Alike.outside ⟨rfl, rfl⟩ (by rw [at_]; exact ⟨rfl, rfl⟩)) (.refl _)
  | startRecovery at_ ok =>
      obtain ⟨hc, -, hl, rfl⟩ := ProductionRuntime.startReady_ok_iff.mp ok
      exact h.begin (by simp) hc hl _ (by rw [at_]; rfl) (by rw [at_]; rfl)
  | recoveryRefused at_ =>
      exact h.quiet (Pc.Alike.outside ⟨rfl, rfl⟩ (by rw [at_]; exact ⟨rfl, rfl⟩)) (.refl _)
  | finish at_ not_reopen => exact h.finishRun (.inl at_)
  | release at_ => exact h.release at_
  | reopen at_ ok =>
      obtain ⟨hc, hr, hl, rfl⟩ := ProductionRuntime.startReopen_ok_iff.mp ok
      exact h.startReopen hc hr hl at_
  | load at_ =>
      refine h.alloc rfl (by rw [at_]; rfl) fun r hr => ?_
      rcases hr with hr | rfl
      · rw [at_] at hr
        cases hr
      · exact List.mem_singleton_self _
  | createFactory at_ =>
      refine h.alloc rfl (by rw [at_]; rfl) fun r hr => ?_
      rcases hr with hr | rfl
      · rw [at_] at hr
        rw [List.mem_singleton.mp hr]
        exact List.mem_cons_self
      · exact List.mem_cons_of_mem _ List.mem_cons_self
  | install at_ ok =>
      obtain ⟨hc, rfl⟩ := ProductionRuntime.installReopened_ok_iff.mp ok
      exact h.install at_ hc
  | installRefused at_ refused =>
      refine h.quiet ?_ (.refl _)
      rw [at_]
      exact Pc.Alike.inside ⟨rfl, rfl⟩ ⟨rfl, rfl, rfl⟩ rfl (fun hx => by cases hx)
        fun r hr => List.mem_pair.mpr (List.mem_pair.mp hr).symm
  | loadFailed at_ =>
      refine h.quiet ?_ (.refl _)
      rw [at_]
      exact Pc.Alike.inside ⟨rfl, rfl⟩ ⟨rfl, rfl, rfl⟩ rfl (fun hx => by cases hx) fun _ hr => hr
  | factoryFailed at_ =>
      refine h.quiet ?_ (.refl _)
      rw [at_]
      exact Pc.Alike.inside ⟨rfl, rfl⟩ ⟨rfl, rfl, rfl⟩ rfl (fun hx => by cases hx) fun _ hr => hr
  | reopenFailed at_ =>
      refine h.quiet ?_ (.refl _)
      rw [at_]
      exact Pc.Alike.inside ⟨rfl, rfl⟩ ⟨rfl, rfl, rfl⟩ rfl (fun hx => by cases hx) fun _ hr => hr
  | closeNext at_ => exact h.closeNext at_
  | cancel at_ opened =>
      exact h.quiet (Pc.Alike.outside ⟨rfl, rfl⟩ (by rw [at_]; exact ⟨rfl, rfl⟩)) (.refl _)
  | cancelFailed at_ =>
      exact h.quiet (Pc.Alike.outside ⟨rfl, rfl⟩ (by rw [at_]; exact ⟨rfl, rfl⟩)) (.refl _)
  | cancelled at_ =>
      exact h.quiet (Pc.Alike.outside ⟨rfl, rfl⟩ (by rw [at_]; exact ⟨rfl, rfl⟩))
        (sameCore_signalCancel ..)
  | closeActive active => exact h
  | close at_ owner =>
      obtain ⟨hc, rfl⟩ := ProductionRuntime.beginClose_eq_some_iff.mp owner
      exact h.close at_ hc _
  | closeAgain at_ late =>
      exact h.quiet (Pc.Alike.outside ⟨rfl, rfl⟩ (by rw [at_]; exact ⟨rfl, rfl⟩)) (.refl _)
  | closeSignal at_ => exact h.sameCore (sameCore_publishCloseSignal ..)
  | acquire at_ free => exact h.closeLocked at_ free
  | closeResources at_ => exact h.closeResources at_
  | closeRelease at_ => exact h.closeRelease at_
  | closed at_ => exact h.closed at_
  | wake at_ done =>
      exact h.quiet (Pc.Alike.outside ⟨rfl, rfl⟩ (by rw [at_]; exact ⟨rfl, rfl⟩)) (.refl _)

theorem ReachableRuntime.inv (h : ReachableRuntime w) : RuntimeInv w := by
  induction h with
  | refl => exact RuntimeInv.start
  | tail _ hs ih =>
      obtain ⟨t, move, hs⟩ := hs
      exact ih.step hs

end SpecStyle
