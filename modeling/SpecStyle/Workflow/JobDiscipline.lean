/-
SpecStyle/Workflow/JobDiscipline.lean

What the threads of one process do to the namespace of the job store.

A thread is outside, holds the lock of one job, or holds it and is in a
mutation of the namespace (`Grip`).  Only the thread in a mutation of a job
changes its directory, and when the mutation ends the directory loads again.
So a job directory loads unless a mutation of it is going on (`Agrees`).

A listing looks at the namespace without locks.  What it has seen is the
namespace of one instant as long as no mutation has been there since (`Scan`):
a mutation that goes on shows in the counter, and one that is over has moved
the epoch.
-/
import SpecStyle.Lib.TaskThreads
import SpecStyle.Lib.Threads
import SpecStyle.Workflow.JobCreation

namespace SpecStyle

open PyLib

variable {hash : Bytes → Sha256} {s s' t : Namespace} {h h' : JobHistory} {id other : JobId}
  {d : Dir}

/-! ### Calls -/

namespace Ns

variable (hash : Bytes → Sha256)

/-- `get_snapshot` -/
def getSnapshot (id : JobId) : Ns (Option JobSnapshot) :=
  withJobLock id do
    let decoded ← decodeJob hash id
    return decoded.snapshot

/-- `list_events` -/
def listEvents (id : JobId) : Ns (List Event) :=
  withJobLock id do
    let decoded ← decodeJob hash id
    return decoded.events

end Ns

/-- A call of a `JobStore`. -/
inductive JobCall where
  | list
  | load (id : JobId)
  | getSnapshot (id : JobId)
  | listEvents (id : JobId)
  | save (id : JobId) (snapshot : JobSnapshot)
  | append (id : JobId) (event : Event)

/-- The job that the call is about. -/
def JobCall.job : JobCall → Option JobId
  | list => none
  | load id => some id
  | getSnapshot id => some id
  | listEvents id => some id
  | save id _ => some id
  | append id _ => some id

/-- What a call returns. -/
inductive JobAnswer where
  | ids (ids : List JobId)
  | state (state : JobState)
  | snapshot (snapshot : Option JobSnapshot)
  | events (events : List Event)
  | saved
  | appended (event : Event)

/-- The program of a call; that of a listing is one turn of its loop. -/
def JobCall.program (hash : Bytes → Sha256) : JobCall → Ns (Option JobAnswer)
  | list => do
    let ids ← Ns.listTurn hash
    return ids.map .ids
  | load id => do
    let state ← Ns.load hash id
    return some (.state state)
  | getSnapshot id => do
    let snapshot ← Ns.getSnapshot hash id
    return some (.snapshot snapshot)
  | listEvents id => do
    let events ← Ns.listEvents hash id
    return some (.events events)
  | save id snapshot => do
    Ns.saveSnapshot hash id snapshot
    return some .saved
  | append id event => do
    let event ← Ns.appendEvent hash id event
    return some (.appended event)

/-- The stores of one process on one root. -/
def jobMachine (hash : Bytes → Sha256) :
    Machine Namespace Dir JobWork (Except Exn State) StoreExn JobAnswer JobCall :=
  ⟨works, JobCall.program hash⟩

abbrev JobHistory := History Namespace StoreExn JobAnswer JobCall

abbrev JobThreads (T : Type) :=
  Threads T Namespace Dir JobWork (Except Exn State) StoreExn JobAnswer JobCall

/-- The directory loads. -/
def Loadable (hash : Bytes → Sha256) (id : JobId) (d : Dir) : Prop := ∃ p J, Holds hash id d p J

/-- Nothing is being committed, and every job directory holds a job: what loads is
what has been committed. -/
structure Unchanging (hash : Bytes → Sha256) (s : Namespace) : Prop where
  mutations : s.mutations = 0
  loads : ∀ id d, s.dirAt id = some d → Loadable hash id d

/-- **A listing answers as of one instant** between its call and its return, at
which no commit goes on: with the jobs that load then, in order. -/
def ListsInstant (hash : Bytes → Sha256) (h : JobHistory)
    (f : Finished StoreExn JobAnswer JobCall) : Prop :=
  ∃ ids, f.result = .ok (.ids ids) ∧ (ids.Pairwise fun a b => a.value < b.value) ∧
    ∃ s ∈ h.between f.called f.returned, Unchanging hash s ∧
      ∀ id, id ∈ ids ↔ ∃ state, Ns.jobAt hash s id = .ok state

/-! ### What a thread knows -/

/-- What is under the root is the same. -/
structure SameFiles (s s' : Namespace) : Prop where
  jobs : s'.hasJobs = s.hasJobs
  ids : s'.ids = s.ids
  dirs : ∀ id, s'.dirAt id = s.dirAt id

theorem SameFiles.of_jobs (h : s'.jobs = s.jobs) : SameFiles s s' where
  jobs := by
    unfold Namespace.hasJobs
    rw [h]
  ids := by
    unfold Namespace.ids
    rw [h]
  dirs _ := Namespace.dirAt_congr h

theorem SameFiles.refl (s : Namespace) : SameFiles s s := .of_jobs rfl

theorem SameFiles.trans (h : SameFiles s s') (h' : SameFiles s' t) : SameFiles s t where
  jobs := h'.jobs.trans h.jobs
  ids := h'.ids.trans h.ids
  dirs id := (h'.dirs id).trans (h.dirs id)

/-- The lock that a thread holds and what it knows of the directory of the job:
`works` is in the middle of a commit. -/
inductive Grip where
  | free
  | holds (id : JobId) (x : Option Dir)
  | mutates (id : JobId) (x : Option Dir)
  | works (id : JobId)

/-- The job whose lock is held. -/
def Grip.owns : Grip → Option JobId
  | free => none
  | holds id _ => some id
  | mutates id _ => some id
  | works id => some id

/-- The job that is being changed. -/
def Grip.changes : Grip → Option JobId
  | free => none
  | holds _ _ => none
  | mutates id _ => some id
  | works id => some id

theorem Grip.owns_of_changes {p : Grip} (h : p.changes = some id) : p.owns = some id := by
  cases p with
  | free => cases h
  | holds id x => cases h
  | mutates id x => exact h
  | works id => exact h

def Grip.Knows (hash : Bytes → Sha256) : Grip → Namespace → Prop
  | free, _ => True
  | holds id x, s => s.dirAt id = x ∧ ∀ d ∈ x, Loadable hash id d
  | mutates id x, s => s.dirAt id = x
  | works id, s => s.hasJob id = true

/-- How far a listing is: in a turn, with the epoch it began in, it has seen the
files of one instant, or not only those.  In the end it has the instant of its
answer. -/
inductive Scan where
  | away
  | begun (called : Nat)
  | live (called epoch : Nat) (seen : Namespace)
  | lost (called epoch : Nat)
  | found (called : Nat) (seen : Namespace)

def Scan.Knows : Scan → JobHistory → Prop
  | away, _ => True
  | begun called, h => called ≤ h.past.length
  | live called epoch seen, h => seen ∈ h.instants called ∧ called ≤ h.past.length ∧
      epoch ≤ h.shared.epoch ∧
      (h.shared.epoch = epoch → h.shared.mutations = 0 → SameFiles seen h.shared)
  | lost called epoch, h => called ≤ h.past.length ∧ epoch ≤ h.shared.epoch ∧
      (h.shared.epoch = epoch → 0 < h.shared.mutations)
  | found called seen, h => seen ∈ h.instants called

/-- A thread: whether it knows of a directory `jobs`, its lock, and its listing. -/
structure Stance where
  jobs : Bool
  grip : Grip
  scan : Scan

/-- What a thread knows. -/
structure Stance.Knows (hash : Bytes → Sha256) (l : Stance) (h : JobHistory) : Prop where
  jobs : l.jobs = true → h.shared.hasJobs = true
  grip : l.grip.Knows hash h.shared
  scan : l.scan.Knows h

/-- What every thread knows. -/
structure Orderly (hash : Bytes → Sha256) (s : Namespace) : Prop where
  bound : s.bound = true → s.hasJobs = true
  settled : ∀ id d, s.dirAt id = some d → s.mutations = 0 ∨ id ∉ s.locked → Loadable hash id d

/-! ### What a thread does -/

/-- A step that changes no file, no lock and no counter. -/
structure Quietly (s s' : Namespace) : Prop where
  files : SameFiles s s'
  bound : s'.bound = true → s.bound = true ∨ s.hasJobs = true
  mutations : s'.mutations = s.mutations
  epoch : s'.epoch = s.epoch
  locked : s'.locked = s.locked

/-- A step that changes the directory of one job. -/
structure Writes (id : JobId) (s s' : Namespace) : Prop where
  jobs : s.hasJobs = true → s'.hasJobs = true
  dirs : ∀ other, other ≠ id → s'.dirAt other = s.dirAt other
  bound : s'.bound = s.bound
  mutations : s'.mutations = s.mutations
  epoch : s'.epoch = s.epoch
  locked : s'.locked = s.locked

theorem Quietly.refl (s : Namespace) : Quietly s s := ⟨.refl s, .inl, rfl, rfl, rfl⟩

theorem Writes.refl (id : JobId) (s : Namespace) : Writes id s s :=
  ⟨fun h => h, fun _ _ => rfl, rfl, rfl, rfl, rfl⟩

/-- How a step of a thread changes its lock and the namespace. -/
inductive Effect (hash : Bytes → Sha256) : Grip → Namespace → Grip → Namespace → Prop
  | quiet {p : Grip} {s s' : Namespace} (h : Quietly s s') : Effect hash p s p s'
  | takes {id : JobId} {s : Namespace} (hfree : id ∉ s.locked) :
      Effect hash .free s (.holds id (s.dirAt id)) (s.lock id)
  | releases {id : JobId} {x : Option Dir} {s : Namespace} :
      Effect hash (.holds id x) s .free (s.unlock id)
  | enters {id : JobId} {x : Option Dir} {s : Namespace} :
      Effect hash (.holds id x) s (.mutates id x) s.enter
  | leaves {id : JobId} {x : Option Dir} {s : Namespace} (hx : ∀ d ∈ x, Loadable hash id d) :
      Effect hash (.mutates id x) s (.holds id x) s.leave
  | writes {id : JobId} {p q : Grip} {s s' : Namespace} (hp : p.changes = some id)
      (hq : q.changes = some id) (h : Writes id s s') : Effect hash p s q s'

/-- What is asked of a part of a program: a steady one enters and leaves no
mutation. -/
inductive Mode where
  | any
  | steady

/-- A step of a thread, in which one more state is seen; a listing that is over
answers as of an instant. -/
structure Stance.Moves (mode : Mode) (hash : Bytes → Sha256) (l : Stance) (h : JobHistory)
    (l' : Stance) (h' : JobHistory) : Prop where
  effect : Effect hash l.grip h.shared l'.grip h'.shared
  changes : mode = .steady → l'.grip.changes = l.grip.changes
  states : ∃ s, h'.states = h.states ++ [s]
  knows : l'.Knows hash h'
  finished : ∀ f ∈ h'.finished, f ∈ h.finished ∨ (f.call = .list → ListsInstant hash h' f)

/-- The threads on the namespace. -/
def jobDiscipline (mode : Mode) (hash : Bytes → Sha256) :
    Discipline Namespace JobWork StoreExn JobAnswer JobCall Stance where
  idle := ⟨false, .free, .away⟩
  knows l h := Orderly hash h.shared ∧ l.Knows hash h
  moves l h l' h' := l.Moves mode hash h l' h'
  serves _ _ _ := True
  busy l job := l.grip.owns = some job.1

/-! ### What others do -/

/-- How the namespace looks after a step to a thread that has another lock. -/
structure Spares (changed : Option JobId) (s s' : Namespace) : Prop where
  jobs : s.hasJobs = true → s'.hasJobs = true
  dirs : ∀ other, changed ≠ some other → s'.dirAt other = s.dirAt other
  scan : (SameFiles s s' ∧ s'.epoch = s.epoch ∧ s'.mutations = s.mutations) ∨
    s.epoch < s'.epoch ∨ s'.epoch = s.epoch ∧ 0 < s'.mutations

/-- A step of a thread; one that changes a directory is in a mutation. -/
theorem Effect.spares {p q : Grip} (he : Effect hash p s q s')
    (hmut : p.changes.isSome = true → 0 < s.mutations) : Spares p.changes s s' := by
  have hquiet : ∀ {v c}, SameFiles s v → v.epoch = s.epoch → v.mutations = s.mutations →
      Spares c s v := by
    intro v c hf he hm
    exact ⟨fun hj => hf.jobs.trans hj, fun other _ => hf.dirs other, .inl ⟨hf, he, hm⟩⟩
  cases he with
  | quiet hq => exact hquiet hq.files hq.epoch hq.mutations
  | takes hfree => exact hquiet (.of_jobs rfl) rfl rfl
  | releases => exact hquiet (.of_jobs rfl) rfl rfl
  | enters => exact ⟨fun hj => hj, fun _ _ => rfl, .inr (.inr ⟨rfl, Nat.succ_pos _⟩)⟩
  | leaves hx => exact ⟨fun hj => hj, fun _ _ => rfl, .inr (.inl (Nat.lt_succ_self _))⟩
  | writes hp hq hw =>
      have hpos : 0 < s.mutations := by
        apply hmut
        rw [hp]
        rfl
      refine ⟨hw.jobs, fun other ho => hw.dirs other fun heq => ho ?_, .inr (.inr ⟨hw.epoch, ?_⟩)⟩
      · rw [hp, heq]
      · rwa [hw.mutations]

/-- How a step changes the number of mutations. -/
theorem Effect.counts {p q : Grip} (he : Effect hash p s q s') :
    (q.changes.isSome = p.changes.isSome ∧ s'.mutations = s.mutations) ∨
    (p.changes.isSome = false ∧ q.changes.isSome = true ∧ s'.mutations = s.mutations + 1) ∨
    (p.changes.isSome = true ∧ q.changes.isSome = false ∧ s'.mutations = s.mutations - 1) := by
  cases he with
  | quiet hq => exact .inl ⟨rfl, hq.mutations⟩
  | takes _ => exact .inl ⟨rfl, rfl⟩
  | releases => exact .inl ⟨rfl, rfl⟩
  | enters => exact .inr (.inl ⟨rfl, rfl, rfl⟩)
  | leaves _ => exact .inr (.inr ⟨rfl, rfl, rfl⟩)
  | writes hp hq hw =>
      refine .inl ⟨?_, hw.mutations⟩
      rw [hp, hq]

theorem length_past_of_states {x : Namespace} (hstates : h'.states = h.states ++ [x]) :
    h'.past.length = h.past.length + 1 := by
  have hlength := congrArg List.length hstates
  unfold History.states at hlength
  simp only [List.length_append, List.length_singleton] at hlength
  omega

theorem Scan.Knows.spared {k : Scan} {c : Option JobId} {x : Namespace} (hk : k.Knows h)
    (hs : Spares c h.shared h'.shared) (hstates : h'.states = h.states ++ [x]) : k.Knows h' := by
  have hlength := length_past_of_states hstates
  cases k with
  | away => trivial
  | begun called =>
      have hle : called ≤ h.past.length := hk
      show called ≤ h'.past.length
      omega
  | found called seen => exact History.mem_instants_of_states hstates hk
  | live called epoch seen =>
      obtain ⟨hseen, hcalled, hle, hsame⟩ := hk
      refine ⟨History.mem_instants_of_states hstates hseen, by omega, ?_⟩
      rcases hs.scan with ⟨hf, he, hm⟩ | hlt | ⟨he, hpos⟩
      · refine ⟨by rwa [he], fun hepoch hmut => (hsame ?_ ?_).trans hf⟩
        · rwa [he] at hepoch
        · rwa [hm] at hmut
      · exact ⟨by omega, fun hepoch => by omega⟩
      · exact ⟨by rwa [he], fun _ hmut => by omega⟩
  | lost called epoch =>
      obtain ⟨hcalled, hle, hpos⟩ := hk
      refine ⟨by omega, ?_⟩
      rcases hs.scan with ⟨-, he, hm⟩ | hlt | ⟨he, hmut⟩
      · refine ⟨by rwa [he], fun hepoch => ?_⟩
        rw [he] at hepoch
        rw [hm]
        exact hpos hepoch
      · exact ⟨by omega, fun hepoch => by omega⟩
      · exact ⟨by rwa [he], fun _ => hmut⟩

theorem Grip.Knows.spared {p : Grip} {c : Option JobId} (h : p.Knows hash s)
    (hs : Spares c s s') (hc : ∀ id, p.owns = some id → c ≠ some id) : p.Knows hash s' := by
  cases p with
  | free => trivial
  | holds id x => exact ⟨(hs.dirs id (hc id rfl)).trans h.1, h.2⟩
  | mutates id x => exact (hs.dirs id (hc id rfl)).trans h
  | works id =>
      have hdir := hs.dirs id (hc id rfl)
      have hjob : s.hasJob id = true := h
      show s'.hasJob id = true
      unfold Namespace.hasJob at *
      rw [hdir]
      exact hjob

/-- **What a thread knows stays true** when another moves. -/
theorem Stance.Knows.spared {l : Stance} {c : Option JobId} {x : Namespace} (hl : l.Knows hash h)
    (hs : Spares c h.shared h'.shared) (hstates : h'.states = h.states ++ [x])
    (hc : ∀ id, l.grip.owns = some id → c ≠ some id) : l.Knows hash h' :=
  ⟨fun hj => hs.jobs (hl.jobs hj), hl.grip.spared hs hc, hl.scan.spared hs hstates⟩

/-! ### The invariant -/

section Invariant

variable {T : Type} [DecidableEq T] {mode : Mode}

/-- The threads and the namespace agree. -/
structure Agrees (hash : Bytes → Sha256) (ls : T → Stance) (h : JobHistory) : Prop where
  bound : h.shared.bound = true → h.shared.hasJobs = true
  knows : ∀ t, (ls t).Knows hash h
  owners : Owners (fun t => (ls t).grip.owns) h.shared.locked
  mutators : Counts (fun t => (ls t).grip.changes.isSome = true) h.shared.mutations
  settled : ∀ id d, h.shared.dirAt id = some d → (∀ t, (ls t).grip.changes ≠ some id) →
    Loadable hash id d
  finished : ∀ f ∈ h.finished, f.call = .list → ListsInstant hash h f

variable {ls : T → Stance} {i : T} {l : Stance}

omit [DecidableEq T] in
theorem Agrees.orderly (ha : Agrees hash ls h) : Orderly hash h.shared where
  bound := ha.bound
  settled id d hd hs := by
    refine ha.settled id d hd fun t ht => ?_
    rcases hs with hzero | hfree
    · have hpos := ha.mutators.pos (t := t) (by rw [ht]; rfl)
      omega
    · exact hfree ((ha.owners.mem_iff id).mpr ⟨t, Grip.owns_of_changes ht⟩)

/-- **The files that no mutation is about load**, after a step too. -/
theorem Agrees.settled_step (ha : Agrees hash ls h) (hm : (ls i).Moves mode hash h l h')
    (hd : h'.shared.dirAt id = some d)
    (hfree : ∀ t, (Function.update ls i l t).grip.changes ≠ some id) : Loadable hash id d := by
  have hi := hfree i
  rw [Function.update_self] at hi
  have hothers : ∀ t, t ≠ i → (ls t).grip.changes ≠ some id := by
    intro t ht
    have := hfree t
    rwa [Function.update_of_ne ht] at this
  -- nobody changes the job before, if the one that moves does not
  have hnobody : (ls i).grip.changes ≠ some id → ∀ t, (ls t).grip.changes ≠ some id := by
    intro hl t
    by_cases ht : t = i
    · rwa [ht]
    · exact hothers t ht
  have hgrip := (ha.knows i).grip
  have hsettled := ha.settled id d
  have heffect := hm.effect
  revert heffect hgrip hnobody hi hsettled hd
  generalize (ls i).grip = p, l.grip = q, h.shared = s, h'.shared = s'
  intro hd hi hnobody hgrip hsettled heffect
  cases heffect with
  | quiet hq =>
      rw [hq.files.dirs id] at hd
      exact hsettled hd (hnobody hi)
  | takes _ => exact hsettled hd (hnobody fun hc => by cases hc)
  | releases => exact hsettled hd (hnobody fun hc => by cases hc)
  | enters => exact hsettled hd (hnobody fun hc => by cases hc)
  | @leaves job x _ hx =>
      by_cases hid : job = id
      · subst hid
        have hdir : s.dirAt job = x := hgrip
        exact hx d (hdir.symm.trans hd)
      · exact hsettled hd (hnobody fun hc => hid (Option.some.inj hc))
  | @writes job _ _ _ _ hp hq hw =>
      have hid : id ≠ job := by
        rintro rfl
        exact hi hq
      rw [hw.dirs id hid] at hd
      refine hsettled hd (hnobody fun hc => hid ?_)
      exact Option.some.inj (hc.symm.trans hp)

/-- The locks after a step. -/
theorem Agrees.owners_step (ha : Agrees hash ls h) (hm : (ls i).Moves mode hash h l h') :
    Owners (fun t => (Function.update ls i l t).grip.owns) h'.shared.locked := by
  rw [show (fun t => (Function.update ls i l t).grip.owns) =
    Function.update (fun t => (ls t).grip.owns) i l.grip.owns from
    Function.comp_update (fun l : Stance => l.grip.owns) ls i l]
  have hsame : l.grip.owns = (ls i).grip.owns → h'.shared.locked = h.shared.locked →
      Owners (Function.update (fun t => (ls t).grip.owns) i l.grip.owns) h'.shared.locked := by
    intro ho hl
    rw [ho, hl, Function.update_eq_self i fun t => (ls t).grip.owns]
    exact ha.owners
  have hown : (fun t => (ls t).grip.owns) i = (ls i).grip.owns := rfl
  have howners := ha.owners
  have heffect := hm.effect
  revert heffect hsame hown howners
  generalize (ls i).grip = p, l.grip = q, h.shared = s, h'.shared = s'
  intro hsame hown howners heffect
  cases heffect with
  | quiet hq => exact hsame rfl hq.locked
  | takes hfree => exact howners.take hfree hown
  | releases => exact howners.release hown
  | enters => exact hsame rfl rfl
  | leaves _ => exact hsame rfl rfl
  | writes hp hq hw =>
      exact hsame ((Grip.owns_of_changes hq).trans (Grip.owns_of_changes hp).symm) hw.locked

/-- The threads in a mutation after a step. -/
theorem Agrees.mutators_step (ha : Agrees hash ls h) (hm : (ls i).Moves mode hash h l h') :
    Counts (fun t => (Function.update ls i l t).grip.changes.isSome = true)
      h'.shared.mutations := by
  have hself : (Function.update ls i l i).grip = l.grip := by rw [Function.update_self]
  have hother : ∀ {u}, u ≠ i → (Function.update ls i l u).grip = (ls u).grip :=
    fun hu => by rw [Function.update_of_ne hu]
  rcases hm.effect.counts with ⟨hc, hn⟩ | ⟨hbefore, hafter, hn⟩ | ⟨hbefore, hafter, hn⟩
  · rw [hn]
    refine ha.mutators.congr fun u => ?_
    by_cases hu : u = i
    · rw [hu, hself, hc]
    · rw [hother hu]
  · rw [hn]
    refine ha.mutators.enter (t := i) (by simp [hbefore]) fun u => ?_
    by_cases hu : u = i
    · simp [hu, hafter]
    · simp [hu]
  · rw [hn]
    refine ha.mutators.leave (t := i) hbefore fun u => ?_
    by_cases hu : u = i
    · simp [hu, hafter]
    · simp [hu]

theorem ListsInstant.states {f : Finished StoreExn JobAnswer JobCall} {more : List Namespace}
    (hf : ListsInstant hash h f) (hstates : h'.states = h.states ++ more) :
    ListsInstant hash h' f := by
  obtain ⟨ids, hresult, hsorted, s, hs, hmem⟩ := hf
  exact ⟨ids, hresult, hsorted, s, History.mem_between_of_states hstates hs, hmem⟩

/-- **A step of a thread keeps the threads and the namespace in agreement.** -/
theorem Agrees.step (ha : Agrees hash ls h) (hm : (ls i).Moves mode hash h l h') :
    Agrees hash (Function.update ls i l) h' := by
  have hspares := hm.effect.spares fun hc => ha.mutators.pos hc
  obtain ⟨x, hstates⟩ := hm.states
  refine ⟨?_, fun t => ?_, ha.owners_step hm, ha.mutators_step hm,
    fun id d hd => ha.settled_step hm hd, fun f hf hlist => ?_⟩
  · have heffect := hm.effect
    have hjobs := hspares.jobs
    have hbound := ha.bound
    revert heffect hjobs hbound
    generalize (ls i).grip = p, l.grip = q, h.shared = s, h'.shared = s'
    intro heffect hjobs hbound hb
    cases heffect with
    | quiet hq => exact hjobs ((hq.bound hb).elim hbound fun hj => hj)
    | takes _ => exact hbound hb
    | releases => exact hbound hb
    | enters => exact hbound hb
    | leaves _ => exact hbound hb
    | writes _ _ hw =>
        rw [hw.bound] at hb
        exact hjobs (hbound hb)
  · by_cases ht : t = i
    · subst ht
      rw [Function.update_self]
      exact hm.knows
    · rw [Function.update_of_ne ht]
      refine (ha.knows t).spared hspares hstates fun id hown hc => ht ?_
      exact ha.owners.unique hown (Grip.owns_of_changes hc)
  · rcases hm.finished f hf with hold | hnew
    · exact (ha.finished f hold hlist).states hstates
    · exact hnew hlist

/-- The invariant of the threads. -/
def jobInvariant (T : Type) [DecidableEq T] (hash : Bytes → Sha256) :
    Invariant T (jobDiscipline .any hash) where
  holds := Agrees hash
  knows ha t := ⟨ha.orderly, ha.knows t⟩
  keeps ha hm := ha.step hm

/-- A store in which every job loads. -/
structure AllLoad (hash : Bytes → Sha256) (s : Namespace) : Prop where
  quiet : s.Quiet
  loads : ∀ id d, s.dirAt id = some d → Loadable hash id d

omit [DecidableEq T] in
theorem AllLoad.agrees (hs : AllLoad hash s) (past : List Namespace) :
    Agrees hash (fun _ : T => (jobDiscipline .any hash).idle) ⟨past, s, []⟩ where
  bound := hs.quiet.bound
  knows _ := ⟨(fun hj => by cases hj), trivial, trivial⟩
  owners := by
    show Owners _ s.locked
    rw [hs.quiet.locked]
    exact Owners.start fun _ => rfl
  mutators := by
    show Counts _ s.mutations
    rw [hs.quiet.mutations]
    exact Counts.start fun _ hc => by cases hc
  settled id d hd _ := hs.loads id d hd
  finished _ hf := absurd hf List.not_mem_nil

end Invariant

end SpecStyle
