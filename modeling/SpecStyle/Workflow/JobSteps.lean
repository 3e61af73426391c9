/-
SpecStyle/Workflow/JobSteps.lean

The calls that hold a job lock, among other threads.

Under its lock a thread knows the directory of its job, so a call does there
what it would do alone: it decodes what the directory says (`follows_decodeJob`),
and a commit makes of it what its run without faults makes (`follows_commitJob`).
A commit goes through or is refused before anything is changed
(`commit_outcome`), so the directory loads when the lock is released.
-/
import SpecStyle.Workflow.JobDiscipline

namespace SpecStyle

open PyLib

variable {hash : Bytes → Sha256} {s s' : Namespace} {h h' : JobHistory} {id : JobId}
  {x : Option Dir} {d : Dir} {l l' : Stance} {α β : Type} {present : Namespace → Bool}

/-- The program follows the discipline. -/
abbrev Follows (mode : Mode) (hash : Bytes → Sha256) (m : Ns α) (l : Stance)
    (Q : Except StoreExn α → Stance → Prop) : Prop := Plays (jobDiscipline mode hash) works m l Q

variable {m : Ns α} {Q : Except StoreExn α → Stance → Prop} {mode : Mode}

/-- What keeps to more follows the discipline. -/
theorem follows_any (hm : Follows mode hash m l Q) : Follows .any hash m l Q := by
  have hembeds : (jobDiscipline mode hash).Embeds (jobDiscipline .any hash) id :=
    ⟨fun _ _ hk => hk, fun _ _ _ _ _ hmove => ⟨hmove.effect, Mode.noConfusion, hmove.states,
      hmove.knows, hmove.finished⟩, fun _ _ hb => hb⟩
  refine (hm.embed hembeds).mono ?_
  rintro r _ ⟨l', rfl, hQ⟩
  exact hQ

/-! ### Single steps -/

/-- A step that leaves the listing of the thread as it is. -/
theorem Stance.Knows.moves (hl : l.Knows hash h) (he : Effect hash l.grip h.shared l'.grip s')
    (hscan : l'.scan = l.scan)
    (haway : l.grip.changes = none ∨ l.scan = .away)
    (hchanges : mode = .steady → l'.grip.changes = l.grip.changes)
    (hjobs : l'.jobs = true → s'.hasJobs = true) (hgrip : l'.grip.Knows hash s') :
    l.Moves mode hash h l' (h.goTo s') where
  effect := he
  changes := hchanges
  states := ⟨s', rfl⟩
  knows := by
    refine ⟨hjobs, hgrip, ?_⟩
    rw [hscan]
    rcases haway with hnone | haway
    · refine hl.scan.spared (he.spares fun hc => ?_) rfl
      rw [hnone] at hc
      cases hc
    · rw [haway]
      trivial
  finished f hf := .inl hf

/-- A step that changes nothing but what the thread knows. -/
theorem Stance.Moves.of_knows (hl' : l'.Knows hash (h.goTo h.shared))
    (hgrip : l'.grip = l.grip) : l.Moves mode hash h l' (h.goTo h.shared) where
  effect := by
    rw [hgrip]
    exact .quiet (.refl _)
  changes _ := congrArg Grip.changes hgrip
  states := ⟨h.shared, rfl⟩
  knows := hl'
  finished f hf := .inl hf

theorem Scan.Knows.goTo {k : Scan} (hk : k.Knows h) (hs : Quietly h.shared s') :
    k.Knows (h.goTo s') :=
  hk.spared (c := none) ⟨fun hj => hs.files.jobs.trans hj, fun other _ => hs.files.dirs other,
    .inl ⟨hs.files, hs.epoch, hs.mutations⟩⟩ rfl

theorem Stance.Knows.same (hl : l.Knows hash h) : l.Moves mode hash h l (h.goTo h.shared) :=
  .of_knows ⟨hl.jobs, hl.grip, hl.scan.goTo (.refl _)⟩ rfl

theorem follows_look {f : Namespace → α}
    (hQ : ∀ h, Orderly hash h.shared → l.Knows hash h → Q (.ok (f h.shared)) l) :
    Follows mode hash (Task.look f) l Q :=
  Plays.call fun h hk _ => ⟨l, hk.2.same, hQ h hk.1 hk.2⟩

/-- Opening a directory answers what is there at some time. -/
theorem follows_openDirectory {P : Bool → Prop}
    (hP : ∀ h, Orderly hash h.shared → l.Knows hash h → P (present h.shared))
    {Q : Except StoreExn Bool → Stance → Prop} (hQ : ∀ b, P b → Q (.ok b) l) :
    Follows mode hash (Ns.openDirectory present) l Q := by
  have hlook : Follows mode hash (Task.look present) l fun r l' => l' = l ∧ ∃ b, r = .ok b ∧ P b :=
    follows_look fun h ho hk => ⟨rfl, _, rfl, hP h ho hk⟩
  unfold Ns.openDirectory
  refine hlook.bind ?_ ?_
  · rintro b l' ⟨rfl, _, hb, hPb⟩
    cases hb
    cases b with
    | false => exact hQ _ hPb
    | true =>
        refine hlook.bind ?_ ?_
        · rintro b l'' ⟨rfl, _, hb, hPb⟩
          cases hb
          cases b with
          | false => exact hQ _ hPb
          | true => exact hlook.mono fun r l' ⟨hl, b, hb, hPb⟩ => by rw [hl, hb]; exact hQ b hPb
        · rintro e l'' ⟨-, _, hb, -⟩
          cases hb
  · rintro e l' ⟨-, _, hb, -⟩
    cases hb

/-- A thread that has opened `jobs` knows that it is there. -/
theorem follows_openJobs {Q : Except StoreExn Bool → Stance → Prop}
    (htrue : Q (.ok true) { l with jobs := true })
    (hfalse : ∀ h, Orderly hash h.shared → l.Knows hash h → h.shared.hasJobs = false →
      Q (.ok false) l) :
    Follows mode hash (Ns.openDirectory Namespace.hasJobs) l Q := by
  -- a look that finds `jobs`, or ends the call
  have hlook : Follows mode hash (Task.look Namespace.hasJobs) l fun r l' =>
      (r = .ok true ∧ l' = { l with jobs := true }) ∨ r = .ok false ∧ l' = l ∧ Q (.ok false) l := by
    refine Plays.call fun h hk _ => ?_
    by_cases hj : h.shared.hasJobs = true
    · refine ⟨{ l with jobs := true },
        Stance.Moves.of_knows ⟨fun _ => hj, hk.2.grip, ?_⟩ rfl, .inl ⟨?_, rfl⟩⟩
      · exact hk.2.scan.goTo (.refl _)
      · exact congrArg Except.ok hj
    · rw [Bool.not_eq_true] at hj
      exact ⟨l, hk.2.same, .inr ⟨congrArg Except.ok hj, rfl, hfalse h hk.1 hk.2 hj⟩⟩
  -- once found, it is found again
  have hagain : Follows mode hash (Task.look Namespace.hasJobs) { l with jobs := true } fun r l' =>
      r = .ok true ∧ l' = { l with jobs := true } :=
    follows_look fun h _ hk => ⟨congrArg Except.ok (hk.jobs rfl), rfl⟩
  unfold Ns.openDirectory
  refine hlook.bind ?_ ?_
  · rintro b l' (⟨hb, rfl⟩ | ⟨hb, rfl, hQ⟩)
    · cases hb
      refine hagain.bind ?_ ?_
      · rintro b l' ⟨hb, rfl⟩
        cases hb
        exact hagain.mono fun r l' ⟨hr, hl⟩ => by rw [hr, hl]; exact htrue
      · rintro e l' ⟨he, -⟩
        cases he
    · cases hb
      exact hQ
  · rintro e l' (⟨he, -⟩ | ⟨he, -⟩) <;> cases he

/-- `_bind_jobs_identity` of a directory that is there. -/
theorem follows_bindJobs {Q : Except StoreExn Unit → Stance → Prop} (hj : l.jobs = true)
    (haway : l.grip.changes = none ∨ l.scan = .away) (hQ : Q (.ok ()) l) :
    Follows mode hash (Ns.bindJobsIdentity true) l Q := by
  refine Plays.call fun h hk _ => ⟨l, ?_, hQ⟩
  have hjobs := hk.2.jobs hj
  refine hk.2.moves (.quiet ⟨.of_jobs rfl, fun _ => .inr hjobs, rfl, rfl, rfl⟩) rfl
    haway (fun _ => rfl) (fun _ => hjobs) ?_
  have hgrip := hk.2.grip
  revert hgrip
  cases l.grip <;> exact id

/-- The same where none has been found. -/
theorem follows_bindNone {Q : Except StoreExn Unit → Stance → Prop} (hok : Q (.ok ()) l)
    (he : ∀ h, Orderly hash h.shared → l.Knows hash h → h.shared.bound = true →
      Q (.error Ns.corruptStore) l) : Follows mode hash (Ns.bindJobsIdentity false) l Q := by
  refine Plays.call fun h hk _ => ?_
  by_cases hb : h.shared.bound = true
  · simp only [hb, Bool.false_eq_true, if_false, if_true]
    exact ⟨l, hk.2.same, he h hk.1 hk.2 hb⟩
  · simp only [hb, Bool.false_eq_true, if_false]
    exact ⟨l, hk.2.same, hok⟩

/-! ### Locks -/

section Locks

variable (hl : l.Knows hash h)

include hl

/-- A thread takes the lock of a job, and then knows its directory. -/
theorem Stance.Knows.takes (ho : Orderly hash h.shared) (hfree : l.grip = .free)
    (hunlocked : id ∉ h.shared.locked) {k : Scan} (hk : k.Knows h) :
    l.Moves mode hash h ⟨l.jobs, .holds id (h.shared.dirAt id), k⟩ (h.goTo (h.shared.lock id)) := by
  have htakes : Effect hash l.grip h.shared (.holds id (h.shared.dirAt id)) (h.shared.lock id) := by
    rw [hfree]
    exact .takes hunlocked
  have hnone : l.grip.changes = none := by
    rw [hfree]
    rfl
  have hloads : ∀ d ∈ h.shared.dirAt id, Loadable hash id d :=
    fun d hd => ho.settled id d hd (.inr hunlocked)
  refine ⟨htakes, fun _ => hnone.symm, ⟨_, rfl⟩, ⟨hl.jobs, ⟨rfl, hloads⟩, ?_⟩, fun f hf => .inl hf⟩
  refine hk.spared (htakes.spares fun hc => ?_) rfl
  rw [hnone] at hc
  cases hc

theorem Stance.Knows.releases (hgrip : l.grip = .holds id x) :
    l.Moves mode hash h { l with grip := .free } (h.goTo (h.shared.unlock id)) := by
  have hnone : l.grip.changes = none := by
    rw [hgrip]
    rfl
  refine hl.moves ?_ rfl (.inl hnone) (fun _ => hnone.symm) hl.jobs trivial
  rw [hgrip]
  exact .releases

theorem Stance.Knows.enters (hgrip : l.grip = .holds id x) (haway : l.scan = .away) :
    l.Moves .any hash h ⟨l.jobs, .mutates id x, .away⟩ (h.goTo h.shared.enter) := by
  have hdir : h.shared.dirAt id = x := by
    have hg := hl.grip
    rw [hgrip] at hg
    exact hg.1
  refine hl.moves ?_ haway.symm (.inr haway) Mode.noConfusion hl.jobs hdir
  rw [hgrip]
  exact .enters

/-- A mutation ends when its job loads. -/
theorem Stance.Knows.leaves (hgrip : l.grip = .mutates id x) (haway : l.scan = .away)
    (hx : ∀ d ∈ x, Loadable hash id d) :
    l.Moves .any hash h ⟨l.jobs, .holds id x, .away⟩ (h.goTo h.shared.leave) := by
  have hdir : h.shared.dirAt id = x := by
    have hg := hl.grip
    rw [hgrip] at hg
    exact hg
  refine hl.moves ?_ haway.symm (.inr haway) Mode.noConfusion hl.jobs ⟨hdir, hx⟩
  rw [hgrip]
  exact .leaves hx

end Locks

/-- What a thread does while it holds the lock of a job, from what it finds
when it gets the lock. -/
theorem follows_withJobLock (hfree : l.grip = .free)
    (hm : ∀ h, Orderly hash h.shared → l.Knows hash h → ∃ k : Scan, k.Knows h ∧
      ∀ l', l'.grip = .holds id (h.shared.dirAt id) → l'.scan = k →
        (∀ d ∈ h.shared.dirAt id, Loadable hash id d) →
        Follows mode hash m l' fun r l'' => (∃ x, l''.grip = .holds id x) ∧ Q r { l'' with grip := .free }) :
    Follows mode hash (Ns.withJobLock id m) l Q := by
  rintro h ⟨ho, hk⟩ hguard
  have hunlocked : id ∉ h.shared.locked := of_decide_eq_true hguard
  obtain ⟨k, hscan, hfollows⟩ := hm h ho hk
  refine ⟨_, hk.takes ho hfree hunlocked hscan, Plays.andFinally (hfollows _ rfl rfl fun d hd =>
    ho.settled id d hd (.inr hunlocked)) ?_⟩
  rintro r l'' ⟨⟨x, hx⟩, hQ⟩ h'' hk''
  exact ⟨_, hk''.2.releases hx, hQ⟩

/-- What a thread does in a mutation of its job, at whose end the job loads. -/
theorem follows_namespaceMutation {Q : Except StoreExn α → Stance → Prop}
    (hgrip : l.grip = .holds id x) (haway : l.scan = .away)
    (hm : ∀ l', l'.grip = .mutates id x → l'.scan = .away → Follows .any hash m l' fun r l'' =>
      ∃ x', l''.grip = .mutates id x' ∧ l''.scan = .away ∧ (∀ d ∈ x', Loadable hash id d) ∧
        ∀ l₃, l₃.grip = .holds id x' → l₃.scan = .away → Q r l₃) :
    Follows .any hash (Ns.namespaceMutation m) l Q := by
  rintro h ⟨-, hk⟩ -
  refine ⟨_, hk.enters hgrip haway, Plays.andFinally (hm _ rfl rfl) ?_⟩
  rintro r l'' ⟨x', hx', haway', hload, hQ⟩ h'' hk''
  exact ⟨_, hk''.2.leaves hx' haway' hload, hQ _ rfl rfl⟩

/-! ### Reading under a lock -/

/-- What is decoded of a job directory that may be missing. -/
def decodeOf (hash : Bytes → Sha256) (id : JobId) : Option Dir → Except StoreExn DecodedState
  | none => .ok (undecoded Ns.absentState)
  | some d => decodeDir hash id d

theorem quietly_setDir : Quietly s (s.setDir id ((s.dirAt id).getD emptyDir)) := by
  have hdirs : ∀ other, (s.setDir id ((s.dirAt id).getD emptyDir)).dirAt other = s.dirAt other :=
    Ns.sameDirs_setDir
  refine ⟨⟨?_, ?_, hdirs⟩, fun hb => .inl hb, rfl, rfl, rfl⟩
  · unfold Namespace.hasJobs Namespace.setDir
    cases s.jobs <;> rfl
  · unfold Namespace.ids Namespace.setDir
    cases s.jobs <;> rfl

/-- A read answers what the directory says, and leaves it. -/
theorem follows_inJob_read {Q : Except StoreExn State → Stance → Prop}
    (hgrip : l.grip = .holds id x)
    (hQ : Q ((readDir hash (x.getD emptyDir)).mapError .file) l) :
    Follows mode hash (Ns.inJob id (read hash)) l Q := by
  -- the directory stays what it was when the work began
  have hsame : ∀ h, l.Knows hash h →
      l.Moves mode hash h l (h.goTo (h.shared.setDir id (x.getD emptyDir))) := by
    intro h hk
    have hg := hk.grip
    rw [hgrip] at hg
    have hquiet : Quietly h.shared (h.shared.setDir id (x.getD emptyDir)) := by
      rw [← hg.1]
      exact quietly_setDir
    have hnone : l.grip.changes = none := by
      rw [hgrip]
      rfl
    refine hk.moves (.quiet hquiet) rfl (.inl hnone) (fun _ => rfl) (fun hj => ?_) ?_
    · exact hquiet.files.jobs.trans (hk.jobs hj)
    · rw [hgrip]
      exact ⟨(hquiet.files.dirs id).trans hg.1, hg.2⟩
  rintro h ⟨-, hk⟩
  have hdir : works.get (id, read hash) h.shared = x.getD emptyDir := by
    have hg := hk.grip
    rw [hgrip] at hg
    show (h.shared.dirAt id).getD emptyDir = _
    rw [hg.1]
  refine ⟨l, hk.same, ⟨?_, ?_, ?_⟩⟩
  · show l.grip.owns = some id
    rw [hgrip]
    rfl
  · rintro h' q hk' ⟨calls, -, rfl⟩
    rw [hdir, Ns.leaves_read]
    exact hsame h' hk'.2
  · intro h' hk'
    refine ⟨l, ?_, ?_⟩
    · show l.Moves mode hash h' l (h'.goTo (h'.shared.setDir id (exec (read hash) ⟨_, []⟩).2.dir))
      rw [hdir, Ns.exec_read]
      exact hsame h' hk'.2
    · show Q ((exec (read hash) ⟨_, []⟩).1.mapError .file) l
      rw [hdir, Ns.exec_read]
      exact hQ

theorem Stance.Knows.hasJob (hk : l.Knows hash h)
    (hgrip : l.grip = .holds id x ∨ l.grip = .mutates id x) :
    h.shared.dirAt id = x := by
  have hg := hk.grip
  rcases hgrip with hgrip | hgrip
  · rw [hgrip] at hg
    exact hg.1
  · rw [hgrip] at hg
    exact hg

theorem follows_requireJobBinding {Q : Except StoreExn Unit → Stance → Prop}
    (hgrip : l.grip = .holds id (some d) ∨ l.grip = .mutates id (some d)) (hQ : Q (.ok ()) l) :
    Follows mode hash (Ns.requireJobBinding id) l Q := by
  have hlook : ∀ present : Namespace → Bool, (∀ s, s.dirAt id = some d → present s = true) →
      Follows mode hash (Task.look present) l fun r l' => r = .ok true ∧ l' = l := by
    intro present hp
    exact follows_look fun h _ hk => ⟨congrArg Except.ok (hp _ (hk.hasJob hgrip)), rfl⟩
  unfold Ns.requireJobBinding
  refine (hlook _ fun _ => Namespace.hasJobs_of_dirAt).bind ?_ ?_
  · rintro b l' ⟨hb, rfl⟩
    cases hb
    refine Plays.require_bind rfl ((hlook _ fun _ => Namespace.hasJob_of_dirAt).bind ?_ ?_)
    · rintro b l'' ⟨hb, rfl⟩
      cases hb
      exact hQ
    · rintro e l'' ⟨he, -⟩
      cases he
  · rintro e l' ⟨he, -⟩
    cases he

/-- Opening a job directory to read it.  It is refused only if `jobs` was missing
and has been made meanwhile. -/
theorem follows_openJob {Q : Except StoreExn Bool → Stance → Prop} (hgrip : l.grip = .holds id x)
    (hQ : ∀ l', l'.grip = l.grip → l'.scan = l.scan → Q (.ok x.isSome) l')
    (he : l.jobs = false → x = none → Q (.error Ns.corruptStore) l) :
    Follows mode hash (Ns.openJob id) l Q := by
  have hopen : Follows mode hash (Ns.openDirectory Namespace.hasJobs) l fun r l' =>
      (r = .ok true ∧ l' = { l with jobs := true }) ∨
        r = .ok false ∧ l' = l ∧ l.jobs = false ∧ x = none := by
    refine follows_openJobs (.inl ⟨rfl, rfl⟩) fun h _ hk hj => .inr ⟨rfl, rfl, ?_, ?_⟩
    · rw [Bool.eq_false_iff]
      intro hknown
      rw [hk.jobs hknown] at hj
      cases hj
    rw [← hk.hasJob (.inl hgrip)]
    by_contra hne
    obtain ⟨d, hd⟩ := Option.ne_none_iff_exists'.mp hne
    rw [Namespace.hasJobs_of_dirAt hd] at hj
    cases hj
  unfold Ns.openJob
  refine hopen.bind ?_ ?_
  · rintro b l' (⟨hb, hl'⟩ | ⟨hb, hl', hunknown, hx⟩)
    · cases hb
      subst hl'
      have hbind : Follows mode hash (Ns.bindJobsIdentity true) { l with jobs := true } fun r l' =>
          r = .ok () ∧ l' = { l with jobs := true } :=
        follows_bindJobs rfl (.inl (by rw [hgrip]; rfl)) ⟨rfl, rfl⟩
      refine hbind.bind ?_ ?_
      · rintro _ l' ⟨-, rfl⟩
        refine follows_openDirectory (P := fun b => b = x.isSome) (fun h _ hk => ?_) ?_
        · show (h.shared.dirAt id).isSome = _
          rw [hk.hasJob (.inl hgrip)]
        · rintro b rfl
          exact hQ _ rfl rfl
      · rintro e l' ⟨hr, -⟩
        cases hr
    · cases hb
      subst hl'
      have hbind : Follows mode hash (Ns.bindJobsIdentity false) l' fun r l'' =>
          l'' = l' ∧ (r = .ok () ∨ r = .error Ns.corruptStore) :=
        follows_bindNone ⟨rfl, .inl rfl⟩ fun _ _ _ _ => ⟨rfl, .inr rfl⟩
      refine hbind.bind ?_ ?_
      · rintro _ l'' ⟨rfl, -⟩
        have hnone := hQ l'' rfl rfl
        rw [hx] at hnone
        exact hnone
      · rintro e l'' ⟨rfl, hr | hr⟩
        · cases hr
        · cases hr
          exact he hunknown hx
  · rintro e l' (⟨hr, -⟩ | ⟨hr, -⟩) <;> cases hr

/-- What is read of a job directory that may be missing. -/
def readOf (hash : Bytes → Sha256) : Option Dir → Except StoreExn State
  | none => .ok Ns.absentState
  | some d => (readDir hash d).mapError .file

theorem follows_readJob {Q : Except StoreExn State → Stance → Prop} (hgrip : l.grip = .holds id x)
    (hQ : ∀ l', l'.grip = l.grip → l'.scan = l.scan → Q (readOf hash x) l')
    (he : l.jobs = false → x = none → Q (.error Ns.corruptStore) l) :
    Follows mode hash (Ns.readJob hash id) l Q := by
  have hopen : Follows mode hash (Ns.openJob id) l fun r l' =>
      (r = .ok x.isSome ∧ l'.grip = l.grip ∧ l'.scan = l.scan) ∨
        (l.jobs = false ∧ x = none) ∧ r = .error Ns.corruptStore ∧ l' = l :=
    follows_openJob hgrip (fun l' hg hs => .inl ⟨rfl, hg, hs⟩)
      fun hunknown hx => .inr ⟨⟨hunknown, hx⟩, rfl, rfl⟩
  unfold Ns.readJob
  refine hopen.bind ?_ ?_
  · rintro b l' (⟨hb, hg, hs⟩ | ⟨-, hb, -⟩)
    · cases hb
      cases x with
      | none => exact hQ l' hg hs
      | some d =>
          have hgrip' := hg.trans hgrip
          have hread : Follows mode hash (Ns.inJob id (read hash)) l' fun r l'' =>
              r = readOf hash (some d) ∧ l'' = l' := follows_inJob_read hgrip' ⟨rfl, rfl⟩
          refine hread.bind ?_ ?_
          · rintro state l'' ⟨hr, rfl⟩
            have hbinding : Follows mode hash (Ns.requireJobBinding id) l'' fun r l₃ =>
                r = .ok () ∧ l₃ = l'' := follows_requireJobBinding (.inl hgrip') ⟨rfl, rfl⟩
            refine hbinding.bind ?_ ?_
            · rintro _ l₃ ⟨-, rfl⟩
              have hstate := hQ l₃ hg hs
              rw [← hr] at hstate
              exact hstate
            · rintro e l₃ ⟨hr, -⟩
              cases hr
          · rintro e l'' ⟨hr, rfl⟩
            rw [hr]
            exact hQ l'' hg hs
    · cases hb
  · rintro e l' (⟨hr, -⟩ | ⟨⟨hunknown, hx⟩, hr, rfl⟩)
    · cases hr
    · cases hr
      exact he hunknown hx

/-- An exception that leaves the store. -/
def translate : StoreExn → StoreExn
  | .file e => translateStorage e
  | e => e

theorem plays_translated {K : Type}
    {D : Discipline Namespace JobWork StoreExn JobAnswer JobCall K} {k : K}
    {Q : Except StoreExn α → K → Prop}
    (hm : Plays D works m k fun r k' => Q (r.mapError translate) k') :
    Plays D works (Ns.translated m) k Q := by
  refine hm.andThen fun r l' hr => ?_
  cases r with
  | ok a => exact hr
  | error e => cases e <;> exact hr

/-- **Under its lock a job decodes as its directory says.** -/
theorem follows_decodeJob {Q : Except StoreExn DecodedState → Stance → Prop}
    (hgrip : l.grip = .holds id x)
    (hQ : ∀ l', l'.grip = l.grip → l'.scan = l.scan → Q (decodeOf hash id x) l')
    (he : l.jobs = false → x = none → Q (.error (.raised corrupted)) l) :
    Follows mode hash (Ns.decodeJob hash id) l Q := by
  have hread : Follows mode hash (Ns.translated (Ns.readJob hash id)) l fun r l' =>
      (r = (readOf hash x).mapError translate ∧ l'.grip = l.grip ∧ l'.scan = l.scan) ∨
        (l.jobs = false ∧ x = none) ∧ r = .error (.raised corrupted) ∧ l' = l :=
    plays_translated (follows_readJob hgrip (fun l' hg hs => .inl ⟨rfl, hg, hs⟩)
      fun hunknown hx => .inr ⟨⟨hunknown, hx⟩, rfl, rfl⟩)
  -- decoding what was read
  have hdecode : decodeOf hash id x = (readOf hash x).mapError translate >>= fun p =>
      (decodePersisted id p).mapError .raised := by
    cases x with
    | none =>
        show Except.ok _ = (decodePersisted id Ns.absentState).mapError StoreExn.raised
        rw [decodePersisted_absent rfl]
        rfl
    | some d =>
        show decodeDir hash id d = ((readDir hash d).mapError .file).mapError translate >>= _
        unfold decodeDir
        cases readDir hash d <;> rfl
  unfold Ns.decodeJob
  refine hread.bind ?_ ?_
  · rintro p l' (⟨hr, hg, hs⟩ | ⟨-, hr, -⟩)
    · have hdone := hQ l' hg hs
      rw [hdecode, ← hr] at hdone
      exact hdone
    · cases hr
  · rintro e l' (⟨hr, hg, hs⟩ | ⟨⟨hunknown, hx⟩, hr, rfl⟩)
    · have hdone := hQ l' hg hs
      rw [hdecode, ← hr] at hdone
      exact hdone
    · cases hr
      exact he hunknown hx

/-! ### Committing in a mutation -/

theorem writes_makeJobs : Writes id s s.makeJobs where
  jobs _ := rfl
  dirs _ _ := Namespace.dirAt_makeJobs
  bound := rfl
  mutations := rfl
  epoch := rfl
  locked := rfl

theorem writes_makeJob (hj : s.hasJobs = true) : Writes id s (s.makeJob id) where
  jobs _ := by
    obtain ⟨jobs, hjobs⟩ := Option.isSome_iff_exists.mp hj
    unfold Namespace.hasJobs Namespace.makeJob
    rw [hjobs]
    rfl
  dirs other ho := by rw [Namespace.dirAt_makeJob hj, if_neg ho]
  bound := rfl
  mutations := rfl
  epoch := rfl
  locked := rfl

theorem writes_setDir (hj : s.hasJob id = true) : Writes id s (s.setDir id d) where
  jobs h := by
    unfold Namespace.hasJobs Namespace.setDir at *
    rwa [Option.isSome_map]
  dirs other ho := by rw [Namespace.dirAt_setDir hj, if_neg ho]
  bound := rfl
  mutations := rfl
  epoch := rfl
  locked := rfl

section Commit

variable {y : Option Dir}

/-- A step of a thread in a mutation. -/
theorem Stance.Knows.writes (hl : l.Knows hash h) (haway : l.scan = .away)
    (hp : l.grip.changes = some id) (hw : Writes id h.shared s') (hq : l'.grip.changes = some id)
    (haway' : l'.scan = .away) (hjobs : l'.jobs = true → s'.hasJobs = true)
    (hgrip : l'.grip.Knows hash s') : l.Moves mode hash h l' (h.goTo s') :=
  hl.moves (.writes hp hq hw) (haway'.trans haway.symm) (.inr haway)
    (fun _ => hq.trans hp.symm) hjobs hgrip

theorem follows_openOrCreateJobs {Q : Except StoreExn Unit → Stance → Prop}
    (hgrip : l.grip = .mutates id x) (haway : l.scan = .away)
    (hQ : Q (.ok ()) { l with jobs := true }) :
    Follows mode hash (Ns.openOrCreateDirectory Namespace.hasJobs Namespace.makeJobs) l Q := by
  have hopen : Follows mode hash (Ns.openDirectory Namespace.hasJobs) l fun r l' =>
      (r = .ok true ∧ l' = { l with jobs := true }) ∨ r = .ok false ∧ l' = l :=
    follows_openJobs (.inl ⟨rfl, rfl⟩) fun _ _ _ _ => .inr ⟨rfl, rfl⟩
  have hmake : Follows mode hash (Task.modify Namespace.makeJobs : Ns Unit) l fun r l' =>
      r = .ok () ∧ l' = { l with jobs := true } := by
    refine Plays.call fun h hk _ => ⟨_, ?_, rfl, rfl⟩
    have hw : Writes id h.shared h.shared.makeJobs := writes_makeJobs
    refine hk.2.writes haway (by rw [hgrip]; rfl) hw (by rw [hgrip]; rfl) haway (fun _ => rfl) ?_
    rw [hgrip]
    exact Namespace.dirAt_makeJobs.trans (hk.2.hasJob (.inr hgrip))
  -- once made, it is found
  have hagain : Follows mode hash (Ns.openDirectory Namespace.hasJobs) { l with jobs := true }
      fun r l' =>
      r = .ok true ∧ l' = { l with jobs := true } := by
    refine follows_openJobs ⟨rfl, rfl⟩ fun h _ hk hj => ?_
    rw [hk.jobs rfl] at hj
    cases hj
  unfold Ns.openOrCreateDirectory
  refine hopen.bind ?_ ?_
  · rintro b l' (⟨hb, rfl⟩ | ⟨hb, rfl⟩)
    · cases hb
      exact hQ
    · cases hb
      refine hmake.bind ?_ ?_
      · rintro _ l'' ⟨-, rfl⟩
        refine hagain.bind ?_ ?_
        · rintro b l'' ⟨hb, rfl⟩
          cases hb
          exact hQ
        · rintro e l'' ⟨he, -⟩
          cases he
      · rintro e l'' ⟨he, -⟩
        cases he
  · rintro e l' (⟨he, -⟩ | ⟨he, -⟩) <;> cases he

theorem follows_openOrCreateJobDir {Q : Except StoreExn Unit → Stance → Prop}
    (hgrip : l.grip = .mutates id x) (haway : l.scan = .away) (hj : l.jobs = true)
    (hQ : Q (.ok ()) { l with grip := .mutates id (some (x.getD emptyDir)) }) :
    Follows mode hash (Ns.openOrCreateDirectory (fun s => s.hasJob id) fun s => s.makeJob id) l Q := by
  have hopen : ∀ {k : Stance} {y}, k.grip = .mutates id y →
      Follows mode hash (Ns.openDirectory fun s => s.hasJob id) k fun r l' => l' = k ∧ r = .ok y.isSome := by
    intro k y hk
    refine follows_openDirectory (P := fun b => b = y.isSome) (fun h _ hknows => ?_)
      fun b hb => ⟨rfl, by rw [hb]⟩
    show (h.shared.dirAt id).isSome = _
    rw [hknows.hasJob (.inr hk)]
  unfold Ns.openOrCreateDirectory
  refine (hopen hgrip).bind ?_ ?_
  · rintro b l' ⟨rfl, hb⟩
    cases hb
    cases x with
    | some d =>
        have hsame : l' = { l' with grip := .mutates id (some d) } := by rw [← hgrip]
        rw [hsame]
        exact hQ
    | none =>
        have hmake : Follows mode hash (Task.modify fun s => s.makeJob id : Ns Unit) l' fun r l'' =>
            r = .ok () ∧ l'' = { l' with grip := .mutates id (some emptyDir) } := by
          refine Plays.call fun h hk _ => ⟨_, ?_, rfl, rfl⟩
          have hjobs := hk.2.jobs hj
          have hw : Writes id h.shared (h.shared.makeJob id) := writes_makeJob hjobs
          refine hk.2.writes haway (by rw [hgrip]; rfl) hw rfl haway (fun _ => hw.jobs hjobs) ?_
          show (h.shared.makeJob id).dirAt id = some emptyDir
          rw [Namespace.dirAt_makeJob hjobs, if_pos rfl, hk.2.hasJob (.inr hgrip)]
          rfl
        refine hmake.bind ?_ ?_
        · rintro _ l'' ⟨-, rfl⟩
          refine (hopen rfl).bind ?_ ?_
          · rintro b l'' ⟨rfl, hb⟩
            cases hb
            exact hQ
          · rintro e l'' ⟨-, he⟩
            cases he
        · rintro e l'' ⟨he, -⟩
          cases he
  · rintro e l' ⟨-, he⟩
    cases he

/-- In a mutation the job directory is opened or made. -/
theorem follows_openOrCreateJob {Q : Except StoreExn Unit → Stance → Prop}
    (hgrip : l.grip = .mutates id x) (haway : l.scan = .away)
    (hQ : ∀ l', l'.grip = .mutates id (some (x.getD emptyDir)) → l'.scan = .away → Q (.ok ()) l') :
    Follows mode hash (Ns.openOrCreateJob id) l Q := by
  have hjobs : Follows mode hash (Ns.openOrCreateDirectory Namespace.hasJobs Namespace.makeJobs) l
      fun r l' => r = .ok () ∧ l' = { l with jobs := true } :=
    follows_openOrCreateJobs hgrip haway ⟨rfl, rfl⟩
  have hbind : Follows mode hash (Ns.bindJobsIdentity true) { l with jobs := true } fun r l' =>
      r = .ok () ∧ l' = { l with jobs := true } := follows_bindJobs rfl (.inr haway) ⟨rfl, rfl⟩
  unfold Ns.openOrCreateJob
  refine hjobs.bind ?_ ?_
  · rintro _ l' ⟨-, rfl⟩
    refine hbind.bind ?_ ?_
    · rintro _ l' ⟨-, rfl⟩
      exact follows_openOrCreateJobDir hgrip haway rfl (hQ _ rfl haway)
    · rintro e l' ⟨he, -⟩
      cases he
  · rintro e l' ⟨he, -⟩
    cases he

/-- Work in the directory of the job makes of it what it makes without faults. -/
theorem follows_inJob {Q : Except StoreExn State → Stance → Prop} {m : Fs State}
    (hgrip : l.grip = .mutates id (some d)) (haway : l.scan = .away)
    (hQ : ∀ l', l'.grip = .mutates id (some (exec m ⟨d, []⟩).2.dir) → l'.scan = .away →
      Q ((exec m ⟨d, []⟩).1.mapError .file) l') : Follows mode hash (Ns.inJob id m) l Q := by
  have hset : ∀ {s : Namespace} {q}, s.hasJob id = true → (s.setDir id q).dirAt id = some q := by
    intro s q hs
    rw [Namespace.dirAt_setDir hs, if_pos rfl]
  rintro h ⟨-, hk⟩
  have hdir := hk.hasJob (.inr hgrip)
  have hget : works.get (id, m) h.shared = d := by
    show (h.shared.dirAt id).getD emptyDir = d
    rw [hdir]
    rfl
  refine ⟨⟨l.jobs, .works id, .away⟩, ?_, ⟨rfl, ?_, ?_⟩⟩
  · exact hk.writes haway (by rw [hgrip]; rfl) (.refl id _) rfl rfl hk.jobs
      (Namespace.hasJob_of_dirAt hdir)
  · rintro h' q ⟨-, hk'⟩ -
    have hjob : h'.shared.hasJob id = true := hk'.grip
    have hw : Writes id h'.shared (h'.shared.setDir id q) := writes_setDir hjob
    exact hk'.writes rfl rfl hw rfl rfl (fun hj => hw.jobs (hk'.jobs hj))
      (Namespace.hasJob_of_dirAt (hset hjob))
  · rintro h' ⟨-, hk'⟩
    have hjob : h'.shared.hasJob id = true := hk'.grip
    rw [hget]
    have hw : Writes id h'.shared (h'.shared.setDir id (exec m ⟨d, []⟩).2.dir) := writes_setDir hjob
    exact ⟨⟨l.jobs, .mutates id (some (exec m ⟨d, []⟩).2.dir), .away⟩, hk'.writes rfl rfl hw rfl rfl
      (fun hj => hw.jobs (hk'.jobs hj)) (hset hjob), hQ _ rfl rfl⟩

variable (hash) in
/-- A commit in a job directory that may be missing. -/
def commitOf (x : Option Dir) (expected : State) (snapshot : Bytes) (events : Option Bytes) :
    Except Exn State × Dir :=
  ((exec (commit hash expected snapshot events snapshotBytesEquivalent) ⟨x.getD emptyDir, []⟩).1,
    (exec (commit hash expected snapshot events snapshotBytesEquivalent) ⟨x.getD emptyDir, []⟩).2.dir)

/-- **In a mutation a job is committed to as it would be alone.** -/
theorem follows_committing {expected : State} {snapshot : Bytes} {events : Option Bytes}
    (hgrip : l.grip = .mutates id x) (haway : l.scan = .away) :
    Follows mode hash (Ns.translated do
        Ns.openOrCreateJob id
        let _ ← Ns.inJob id (commit hash expected snapshot events snapshotBytesEquivalent)
        Ns.requireJobBinding id) l fun r l' =>
      r = ((commitOf hash x expected snapshot events).1.mapError translateStorage).map (fun _ => ()) ∧
        l'.grip = .mutates id (some (commitOf hash x expected snapshot events).2) ∧
        l'.scan = .away := by
  refine plays_translated ?_
  have hopen : Follows mode hash (Ns.openOrCreateJob id) l fun r l'' => r = .ok () ∧
      l''.grip = .mutates id (some (x.getD emptyDir)) ∧ l''.scan = .away :=
    follows_openOrCreateJob hgrip haway fun _ hg hs => ⟨rfl, hg, hs⟩
  refine hopen.bind ?_ ?_
  · rintro _ l₁ ⟨-, hg₁, hs₁⟩
    have hwork : Follows mode hash (Ns.inJob id (commit hash expected snapshot events
        snapshotBytesEquivalent)) l₁ fun r l'' =>
        r = (commitOf hash x expected snapshot events).1.mapError .file ∧
        l''.grip = .mutates id (some (commitOf hash x expected snapshot events).2) ∧ l''.scan = .away :=
      follows_inJob hg₁ hs₁ fun _ hg hs => ⟨rfl, hg, hs⟩
    refine hwork.bind ?_ ?_
    · rintro t l₂ ⟨hr, hg₂, hs₂⟩
      refine follows_requireJobBinding (.inr hg₂) ⟨?_, hg₂, hs₂⟩
      rcases hc : (commitOf hash x expected snapshot events).1 with e | t'
      · rw [hc] at hr
        cases hr
      · rfl
    · rintro e l₂ ⟨hr, hg₂, hs₂⟩
      refine ⟨?_, hg₂, hs₂⟩
      rcases hc : (commitOf hash x expected snapshot events).1 with e' | t'
      · rw [hc] at hr
        cases hr
        rfl
      · rw [hc] at hr
        cases hr
  · rintro e l'' ⟨he, -⟩
    cases he

/-- A commit under the lock of the job. -/
theorem follows_commitJob {expected : State} {snapshot : Bytes} {events : Option Bytes}
    (hgrip : l.grip = .holds id x) (haway : l.scan = .away)
    (hload : Loadable hash id (commitOf hash x expected snapshot events).2) :
    Follows .any hash (Ns.commitJob hash id expected snapshot events) l fun _ l' =>
      (∃ x', l'.grip = .holds id x') ∧ l'.scan = .away := by
  refine follows_namespaceMutation hgrip haway fun l' hgrip' haway' =>
    (follows_committing hgrip' haway').mono ?_
  rintro r l'' ⟨-, hg, hs⟩
  refine ⟨_, hg, hs, fun d hd => ?_, fun l₃ hg hs => ⟨⟨_, hg⟩, hs⟩⟩
  cases hd
  exact hload

end Commit

/-! ### Commits go through or are refused -/

section Outcome

variable {p : State} {snapshot : Bytes} {events : Option Bytes} {J : Journal}

/-- **A commit goes through, or is refused** before anything is changed: because
a file gets too large, or no generation is left. -/
theorem commit_outcome (hs : readDir hash d = .ok p) (hkeep : events = none → p.events = none)
    (habsent : p.absent = true → events = none) (equivalent : Bytes → Bytes → Bool) :
    (∃ t d', Runs d (commit hash p snapshot events equivalent) t d' ∧
      Shows hash d' p.nextGeneration snapshot events t) ∨
    ∃ e, exec (commit hash p snapshot events equivalent) ⟨d, []⟩ = (.error e, ⟨d, []⟩) ∧
      (e = .storeError ∨ e = .generationExhausted) := by
  by_cases htargets : validTargets snapshot events = true
  · by_cases hmax : p.generation = some maxGeneration
    · refine .inr ⟨.generationExhausted, ?_, .inr rfl⟩
      have ha : p.absent ≠ true := by
        intro ha
        obtain ⟨-, -, hg⟩ := finals_of_absent hs (by simpa [State.absent] using ha)
        rw [hg] at hmax
        cases hmax
      refine (require_runs htargets).exec_bind.trans <| (read_runs hs).exec_bind.trans <|
        (require_runs (sameState_self p)).exec_bind.trans ?_
      rw [if_neg ha, hmax]
      rfl
    · exact .inl (commit_runs hs (sameState_self p) htargets hmax hkeep habsent equivalent)
  · refine .inr ⟨.storeError, ?_, .inl rfl⟩
    rw [Bool.not_eq_true] at htargets
    unfold commit
    rw [htargets, exec_bind]
    rfl

/-- What a commit leaves, and how it ends. -/
structure Committed (hash : Bytes → Sha256) (id : JobId) (r : Except Exn State × Dir) : Prop where
  loads : Loadable hash id r.2
  error : ∀ e, r.1 = .error e → e = .storeError ∨ e = .generationExhausted

/-- A commit to a job that loads. -/
theorem Holds.committed (hd : Holds hash id d p J) (hkeep : events = none → p.events = none)
    (hnew : ∀ t : State, t.snapshot = some snapshot → t.events = events → ∃ K, Persisted id t K) :
    Committed hash id (commitOf hash (some d) p snapshot events) := by
  have habsent : p.absent = true → events = none := by
    intro ha
    obtain ⟨data, hdata, -⟩ := hd.persisted.snapshot
    unfold State.absent at ha
    rw [hdata] at ha
    cases ha
  unfold commitOf
  rw [Option.getD_some]
  rcases commit_outcome hd.read hkeep habsent snapshotBytesEquivalent with
    ⟨t, d', hrun, hshows⟩ | ⟨e, hexec, he⟩
  · rw [show exec _ _ = _ from hrun]
    obtain ⟨K, hK⟩ := hnew t hshows.snapshot hshows.events
    exact ⟨⟨t, K, hshows.read, hK⟩, fun e he => by cases he⟩
  · rw [hexec]
    exact ⟨⟨p, J, hd⟩, fun e' he' => by cases he'; exact he⟩

/-- Of a job that is not there only the genesis is saved. -/
theorem genesis_of_update {snapshot : JobSnapshot} {D : DecodedState} {u : Unit}
    (hu : validateSnapshotUpdate id snapshot D = .ok u) (hD : D.snapshot = none) :
    snapshot = canonicalGenesis snapshot.job ∧ snapshot.job.jobId = id := by
  obtain ⟨K, hj, hs, -, -⟩ := validateSnapshotUpdate_ok hu
  have hjob : snapshot.job.jobId = id := by
    rw [← hs, ← hj]
    exact K.saved_jobId
  unfold validateSnapshotUpdate at hu
  rcases hv : validatedSnapshot id snapshot D.events with e | state
  · rw [hv] at hu
    cases hu
  · rw [hv, hD] at hu
    refine ⟨?_, hjob⟩
    by_contra hne
    rw [show (if snapshot ≠ canonicalGenesis snapshot.job then Except.error invalidSnapshot
      else Except.ok ()) = _ from if_pos hne] at hu
    cases hu

/-- A first commit. -/
theorem committed_genesis {job : Job} (hbudget : job.budget.maxAttemptsPerItem < 10 ^ 4300)
    (hdata : encodeSnapshot (canonicalGenesis job) = .ok snapshot) :
    Committed hash job.jobId (commitOf hash none Ns.absentState snapshot none) := by
  obtain ⟨h0, h1⟩ := length_genesis hbudget hdata
  obtain ⟨t, d', hrun, hshows⟩ := @Creating.commit_runs hash _ _ _ _ snapshotBytesEquivalent
    Ns.creating_emptyDir (sameState_self Ns.absentState) h0 h1
  unfold commitOf
  rw [Option.getD_none, show exec _ _ = _ from hrun]
  exact ⟨⟨t, .begun job, hshows.read, persisted_begun hdata hshows.snapshot hshows.events⟩,
    fun e he => by cases he⟩

/-- What a thread finds when it gets a lock. -/
theorem decodeOf_cases (hx : ∀ d ∈ x, Loadable hash id d) :
    (x = none ∧ decodeOf hash id x = .ok (undecoded Ns.absentState)) ∨
    ∃ d p J, x = some d ∧ Holds hash id d p J ∧ decodeOf hash id x = .ok (J.decoded p) := by
  cases x with
  | none => exact .inl ⟨rfl, rfl⟩
  | some d =>
      obtain ⟨p, J, hJ⟩ := hx d rfl
      exact .inr ⟨d, p, J, rfl, hJ, hJ.decodeDir⟩

/-- **A save leaves a job that loads.** -/
theorem committed_save {snapshot : JobSnapshot} {D : DecodedState} {data : Bytes} {u : Unit}
    (hx : ∀ d ∈ x, Loadable hash id d) (hD : decodeOf hash id x = .ok D)
    (hu : validateSnapshotUpdate id snapshot D = .ok u)
    (hprint : requirePrintable snapshot = .ok ()) (hencode : encodeSnapshot snapshot = .ok data) :
    Committed hash id (commitOf hash x D.persisted data D.persisted.events) := by
  have hbudget := requirePrintable_iff.mp hprint
  rcases decodeOf_cases hx with ⟨rfl, hnone⟩ | ⟨d, p, J, rfl, hJ, hsome⟩
  · obtain rfl := Except.ok.inj (hnone.symm.trans hD)
    obtain ⟨hgenesis, hjob⟩ := genesis_of_update hu rfl
    rw [hgenesis] at hencode
    subst hjob
    exact committed_genesis hbudget hencode
  · obtain rfl := Except.ok.inj (hsome.symm.trans hD)
    obtain ⟨K, -, -, -, hK⟩ := hJ.persisted.saved hu hencode
    exact hJ.committed (fun hnone => hnone) fun t h1 h2 => ⟨K, hK t h1 h2⟩

/-- **An append leaves a job that loads.** -/
theorem committed_append {e f : Event} {D : DecodedState} {state : JobState} {line : Bytes}
    (hx : ∀ d ∈ x, Loadable hash id d) (hD : decodeOf hash id x = .ok D)
    (hstate : D.state = some state)
    (hf : validateEvent id e state = .ok f) (hline : encodeEvent f = .ok line) :
    Committed hash id (commitOf hash x D.persisted (D.persisted.snapshot.getD [])
      (some (D.persisted.eventBytes ++ line))) := by
  rcases decodeOf_cases hx with ⟨rfl, hnone⟩ | ⟨d, p, J, rfl, hJ, hsome⟩
  · obtain rfl := Except.ok.inj (hnone.symm.trans hD)
    cases hstate
  · obtain rfl := Except.ok.inj (hsome.symm.trans hD)
    obtain rfl := Option.some.inj hstate
    obtain ⟨-, s, hs, hK⟩ := hJ.persisted.appended hf hline
    obtain ⟨data, hdata, -⟩ := hJ.persisted.snapshot
    show Committed hash id (commitOf hash (some d) p (p.snapshot.getD []) _)
    rw [hdata, Option.getD_some]
    exact hJ.committed (fun hnone => by cases hnone)
      fun t h1 h2 => ⟨_, hK t (h1.trans hdata.symm) h2⟩

end Outcome

/-! ### The calls -/

section Calls

variable {snapshot : JobSnapshot} {event : Event}

/-- What a call decides from the job it finds: its answer, and the snapshot and
events that it commits first. -/
abbrev Plan (α : Type) := DecodedState → Except StoreExn (α × Option (Bytes × Option Bytes))

variable (hash id) in
/-- What is decided is carried out. -/
def Ns.carryOut (decoded : DecodedState) : Except StoreExn (α × Option (Bytes × Option Bytes)) → Ns α
  | .error e => Task.raise e
  | .ok (a, none) => return a
  | .ok (a, some (data, events)) => do
    commitJob hash id decoded.persisted data events
    return a

variable (hash id) in
/-- A call under the lock of its job. -/
def Ns.planned (plan : Plan α) : Ns α := do
  let decoded ← decodeJob hash id
  carryOut hash id decoded (plan decoded)

/-- A step that may be refused. -/
theorem Ns.carryOut_bind {D : DecodedState} {r : Except Raised β}
    {f : β → Except StoreExn (α × Option (Bytes × Option Bytes))} :
    carryOut hash id D (r.mapError .raised >>= f) = liftRaised r >>= fun b => carryOut hash id D (f b) := by
  cases r <;> rfl

variable (hash x) in
/-- What a call answers and leaves that has decided. -/
def ending (decoded : DecodedState) :
    Except StoreExn (α × Option (Bytes × Option Bytes)) → Except StoreExn α × Option Dir
  | .error e => (.error e, x)
  | .ok (a, none) => (.ok a, x)
  | .ok (a, some (data, events)) =>
    (((commitOf hash x decoded.persisted data events).1.mapError translateStorage).map fun _ => a,
      some (commitOf hash x decoded.persisted data events).2)

variable (hash id) in
/-- What a plan answers and leaves in a job directory that may be missing. -/
def Plan.outcome (plan : Plan α) (x : Option Dir) : Except StoreExn α × Option Dir :=
  match decodeOf hash id x with
  | .error e => (.error e, x)
  | .ok decoded => ending hash x decoded (plan decoded)

variable (hash id) in
/-- What it commits loads, and it does not raise that the store is corrupted. -/
structure Plan.Sound (plan : Plan α) : Prop where
  commits : ∀ {x D a data events}, (∀ d ∈ x, Loadable hash id d) → decodeOf hash id x = .ok D →
    plan D = .ok (a, some (data, events)) →
    Committed hash id (commitOf hash x D.persisted data events)
  refuses : ∀ {D e}, plan D = .error e → e ≠ .raised corrupted

theorem Plan.outcome_error {plan : Plan α} {e : StoreExn} (h : decodeOf hash id x = .error e) :
    plan.outcome hash id x = (.error e, x) := by
  unfold Plan.outcome
  rw [h]

theorem Plan.outcome_ok {plan : Plan α} {D : DecodedState} (h : decodeOf hash id x = .ok D) :
    plan.outcome hash id x = ending hash x D (plan D) := by
  unfold Plan.outcome
  rw [h]

/-- **What a plan leaves loads**, and it never finds the store corrupted. -/
theorem Plan.Sound.outcome {plan : Plan α} (hplan : plan.Sound hash id)
    (hx : ∀ d ∈ x, Loadable hash id d) :
    (plan.outcome hash id x).1 ≠ .error (.raised corrupted) ∧
      ∀ d ∈ (plan.outcome hash id x).2, Loadable hash id d := by
  obtain ⟨D, hD⟩ : ∃ D, decodeOf hash id x = .ok D := by
    rcases decodeOf_cases hx with ⟨-, hD⟩ | ⟨_, _, _, -, -, hD⟩
    · exact ⟨_, hD⟩
    · exact ⟨_, hD⟩
  rw [Plan.outcome_ok hD]
  rcases hp : plan D with e | ⟨a, - | ⟨data, events⟩⟩
  · exact ⟨fun he => hplan.refuses hp (Except.error.inj he), hx⟩
  · exact ⟨fun he => (by cases he), hx⟩
  · have hcommit := hplan.commits hx hD hp
    refine ⟨fun he => ?_, fun d hd => ?_⟩
    · have hanswer : ((commitOf hash x D.persisted data events).1.mapError translateStorage).map
          (fun _ => a) = .error (.raised corrupted) := he
      rcases hc : (commitOf hash x D.persisted data events).1 with e | s
      · rw [hc] at hanswer
        have herror : translateStorage e = .raised corrupted := Except.error.inj hanswer
        rcases hcommit.error e hc with rfl | rfl
        · revert herror
          decide
        · revert herror
          decide
      · rw [hc] at hanswer
        cases hanswer
    · cases hd
      exact hcommit.loads

/-- **Under its lock a call leaves a job that loads.** -/
theorem follows_planned {plan : Plan α} (hplan : plan.Sound hash id) (hgrip : l.grip = .holds id x)
    (haway : l.scan = .away) (hx : ∀ d ∈ x, Loadable hash id d) :
    Follows .any hash (Ns.planned hash id plan) l fun _ l' =>
      (∃ x', l'.grip = .holds id x') ∧ l'.scan = .away := by
  have hdecode : Follows .any hash (Ns.decodeJob hash id) l fun r l' =>
      (∀ D, r = .ok D → decodeOf hash id x = .ok D) ∧ l'.grip = .holds id x ∧ l'.scan = .away :=
    follows_decodeJob hgrip (fun l' hg hs => ⟨fun _ hr => hr, hg.trans hgrip, hs.trans haway⟩)
      fun _ _ => ⟨fun _ hr => (by cases hr), hgrip, haway⟩
  unfold Ns.planned
  refine hdecode.bind ?_ fun _ _ hl => ⟨⟨_, hl.2.1⟩, hl.2.2⟩
  rintro D l' ⟨hD, hg, hs⟩
  rcases hp : plan D with e | ⟨a, - | ⟨data, events⟩⟩
  · exact ⟨⟨_, hg⟩, hs⟩
  · exact ⟨⟨_, hg⟩, hs⟩
  · exact (follows_commitJob hg hs (hplan.commits hx (hD D rfl) hp).loads).bind
      (fun _ _ hl => hl) fun _ _ hl => hl

/-- The thread holds no lock and is in no listing. -/
def Outside (l : Stance) : Prop := l.grip = .free ∧ l.scan = .away

/-- What a call does between taking a lock and giving it back. -/
theorem follows_locked {plan : Plan α} (hplan : plan.Sound hash id) (hl : Outside l) :
    Follows .any hash (Ns.withJobLock id (Ns.planned hash id plan)) l fun _ l' => Outside l' := by
  refine follows_withJobLock hl.1 fun h _ _ => ⟨.away, trivial, fun l' hg hs hx => ?_⟩
  exact (follows_planned hplan hg hs hx).mono fun _ _ ⟨hg', hs'⟩ => ⟨hg', rfl, hs'⟩

/-! ### Their plans -/

def loadPlan : Plan JobState := fun decoded => decoded.loaded.map fun state => (state, none)

def getSnapshotPlan : Plan (Option JobSnapshot) := fun decoded => .ok (decoded.snapshot, none)

def listEventsPlan : Plan (List Event) := fun decoded => .ok (decoded.events, none)

variable (id) in
def savePlan (snapshot : JobSnapshot) : Plan Unit := fun decoded => do
  (validateSnapshotUpdate id snapshot decoded).mapError .raised
  (requirePrintable snapshot).mapError .raised
  let data ← (encodeSnapshot snapshot).mapError .raised
  return ((), some (data, decoded.persisted.events))

/-- Of a job that is there. -/
def found {β : Type} (value : Option β) : Except StoreExn β :=
  value.elim (.error (.raised (.domain "job not found"))) .ok

variable (id) in
def appendPlan (event : Event) : Plan Event := fun decoded => do
  let state ← found decoded.state
  let _ ← found decoded.snapshot
  let finalized ← (validateEvent id event state).mapError .raised
  let line ← (encodeEvent finalized).mapError .raised
  let events := decoded.persisted.eventBytes ++ line
  if events.length > maxEvents then .error (.raised ioFailed)
  else return (finalized, some (decoded.persisted.snapshot.getD [], some events))

/-- An answer of the call, and what it leaves. -/
def answered (f : α → JobAnswer) (done : Except StoreExn α × Option Dir) :
    Except StoreExn JobAnswer × Option Dir := (done.1.map f, done.2)

variable (hash) in
/-- What a call about a job answers and leaves, alone in a job directory that may
be missing. -/
def JobCall.perform : JobCall → Option Dir → Option (Except StoreExn JobAnswer × Option Dir)
  | list, _ => none
  | load id, x => some (answered .state (loadPlan.outcome hash id x))
  | getSnapshot id, x => some (answered .snapshot (getSnapshotPlan.outcome hash id x))
  | listEvents id, x => some (answered .events (listEventsPlan.outcome hash id x))
  | save id snapshot, x =>
    match validateSnapshotCandidate id snapshot with
    | .error e => some (.error (.raised e), x)
    | .ok _ => some (answered (fun _ => .saved) ((savePlan id snapshot).outcome hash id x))
  | append id event, x => some (answered .appended ((appendPlan id event).outcome hash id x))

theorem loadPlan_sound : loadPlan.Sound hash id where
  commits {_ D _ _ _} _ _ hp := by
    unfold loadPlan DecodedState.loaded at hp
    cases hs : D.state <;> rw [hs] at hp <;> cases hp
  refuses {D _} hp := by
    unfold loadPlan DecodedState.loaded at hp
    cases hs : D.state with
    | none =>
        rw [hs] at hp
        cases hp
        decide
    | some state =>
        rw [hs] at hp
        cases hp

/-- Events are refused with domain errors. -/
theorem validateEvent_error {e : Event} {state : JobState} {x : Raised}
    (h : validateEvent id e state = .error x) : x ≠ corrupted := by
  have hduplicates : ∀ {payload y}, checkDuplicates payload state = .error y → y ≠ corrupted := by
    intro payload y hy
    unfold checkDuplicates at hy
    split at hy <;> (try split at hy) <;> cases hy <;> decide
  have htransition : ∀ {a b c y}, validateTransition a b c = .error y → y ≠ corrupted := by
    intro a b c y hy
    unfold validateTransition at hy
    split at hy
    · cases hy
      decide
    · split at hy <;> cases hy
      decide
  have hnew : ∀ {y}, Event.new (state.lastSequence + 1) e.jobId e.eventType e.fromState e.toState
      e.timestamp.value e.payload = .error y → y ≠ corrupted := by
    intro y hy
    unfold Event.new at hy
    split at hy
    · cases hy
      decide
    · split at hy
      · cases hy
        decide
      · split at hy
        · split at hy <;> cases hy
          decide
        · cases hy
          decide
  unfold validateEvent at h
  split at h
  · cases h
    decide
  · rcases hd : checkDuplicates e.payload state with y | u
    · rw [hd] at h
      cases h
      exact hduplicates hd
    · rw [hd] at h
      change (if _ then _ else _) = _ at h
      split at h
      · cases h
        decide
      · rcases ht : validateTransition state.job.status e.toState e.eventType with y | u
        · rw [ht] at h
          cases h
          exact htransition ht
        · rw [ht] at h
          change (Event.new .. >>= _) = _ at h
          rcases hf : Event.new (state.lastSequence + 1) e.jobId e.eventType e.fromState e.toState
            e.timestamp.value e.payload with y | f
          · rw [hf] at h
            cases h
            exact hnew hf
          · rw [hf] at h
            rcases hr : replayEvents state.snapshot [f] with y | s
            · simp only [Bind.bind, Except.bind, hr] at h
              cases h
              decide
            · simp only [Bind.bind, Except.bind, hr] at h
              cases h

theorem encodeEvent_error {e : Event} {x : Raised} (h : encodeEvent e = .error x) :
    x ≠ corrupted := by
  unfold encodeEvent at h
  rcases hc : canonicalJson (eventToPrimitive e) with y | data
  · rw [hc] at h
    cases h
    unfold canonicalJson at hc
    cases hu : encodeUtf8 (Json.dumps false (eventToPrimitive e)) <;> rw [hu] at hc <;> cases hc
    decide
  · rw [hc] at h
    cases h

theorem requirePrintable_error {x : Raised} (h : requirePrintable snapshot = .error x) :
    x ≠ corrupted := by
  unfold requirePrintable at h
  split at h <;> cases h
  decide

theorem encodeSnapshot_error {x : Raised} (h : encodeSnapshot snapshot = .error x) :
    x ≠ corrupted := by
  unfold encodeSnapshot canonicalJson at h
  cases hu : encodeUtf8 (Json.dumps false (snapshotToPrimitive snapshot)) <;> rw [hu] at h <;> cases h
  decide

theorem validateSnapshotUpdate_error {D : DecodedState} {x : Raised}
    (h : validateSnapshotUpdate id snapshot D = .error x) : x ≠ corrupted := by
  unfold validateSnapshotUpdate at h
  rcases hv : validatedSnapshot id snapshot D.events with y | state
  · rw [hv] at h
    cases h
    decide
  · rw [hv] at h
    rcases hD : D.snapshot with - | old
    · rw [hD] at h
      simp only at h
      split at h <;> cases h
      decide
    · rw [hD] at h
      simp only at h
      split at h <;> cases h
      decide

/-- What a save has decided. -/
theorem savePlan_cases (D : DecodedState) :
    (∃ e, savePlan id snapshot D = .error e ∧ e ≠ .raised corrupted) ∨
    ∃ data, validateSnapshotUpdate id snapshot D = .ok () ∧ requirePrintable snapshot = .ok () ∧
      encodeSnapshot snapshot = .ok data ∧
      savePlan id snapshot D = .ok ((), some (data, D.persisted.events)) := by
  unfold savePlan
  rcases hu : validateSnapshotUpdate id snapshot D with y | u
  · exact .inl ⟨_, rfl, fun he => validateSnapshotUpdate_error hu (StoreExn.raised.inj he)⟩
  · show (∃ e, ((requirePrintable snapshot).mapError StoreExn.raised >>= _) = _ ∧ _) ∨ _
    rcases hp : requirePrintable snapshot with y | v
    · exact .inl ⟨_, rfl, fun he => requirePrintable_error hp (StoreExn.raised.inj he)⟩
    · show (∃ e, ((encodeSnapshot snapshot).mapError StoreExn.raised >>= _) = _ ∧ _) ∨ _
      rcases hs : encodeSnapshot snapshot with y | data
      · exact .inl ⟨_, rfl, fun he => encodeSnapshot_error hs (StoreExn.raised.inj he)⟩
      · exact .inr ⟨data, rfl, rfl, rfl, rfl⟩

theorem savePlan_sound : (savePlan id snapshot).Sound hash id where
  commits {x D _ data events} hx hD hp := by
    rcases @savePlan_cases id snapshot D with ⟨e, he, -⟩ | ⟨bytes, hu, hprint, hs, hplan⟩
    · rw [he] at hp
      cases hp
    · rw [hplan] at hp
      cases hp
      exact committed_save hx hD hu hprint hs
  refuses {D e} hp := by
    rcases @savePlan_cases id snapshot D with ⟨e', he, hne⟩ | ⟨bytes, -, -, -, hplan⟩
    · rw [he] at hp
      cases hp
      exact hne
    · rw [hplan] at hp
      cases hp

/-- What an append has decided. -/
theorem appendPlan_cases (D : DecodedState) :
    (∃ e, appendPlan id event D = .error e ∧ e ≠ .raised corrupted) ∨
    ∃ state finalized line, D.state = some state ∧ validateEvent id event state = .ok finalized ∧
      encodeEvent finalized = .ok line ∧ appendPlan id event D = .ok (finalized,
        some (D.persisted.snapshot.getD [], some (D.persisted.eventBytes ++ line))) := by
  unfold appendPlan
  rcases hstate : D.state with - | state
  · exact .inl ⟨_, rfl, by decide⟩
  · rcases D.snapshot with - | old
    · exact .inl ⟨_, rfl, by decide⟩
    · show (∃ e, ((validateEvent id event state).mapError StoreExn.raised >>= _) = _ ∧ _) ∨ _
      rcases hf : validateEvent id event state with y | f
      · exact .inl ⟨_, rfl, fun he => validateEvent_error hf (StoreExn.raised.inj he)⟩
      · show (∃ e, ((encodeEvent f).mapError StoreExn.raised >>= _) = _ ∧ _) ∨ _
        rcases hline : encodeEvent f with y | line
        · exact .inl ⟨_, rfl, fun he => encodeEvent_error hline (StoreExn.raised.inj he)⟩
        · by_cases hlong : (D.persisted.eventBytes ++ line).length > maxEvents
          · exact .inl ⟨_, if_pos hlong, by decide⟩
          · refine .inr ⟨state, f, line, rfl, hf, hline, ?_⟩
            show ((validateEvent id event state).mapError StoreExn.raised >>= _) = _
            rw [hf]
            show ((encodeEvent f).mapError StoreExn.raised >>= _) = _
            rw [hline]
            exact if_neg hlong

theorem appendPlan_sound : (appendPlan id event).Sound hash id where
  commits {x D _ data events} hx hD hp := by
    rcases @appendPlan_cases id event D with ⟨e, he, -⟩ | ⟨state, f, line, hstate, hf, hline, hplan⟩
    · rw [he] at hp
      cases hp
    · rw [hplan] at hp
      cases hp
      exact committed_append hx hD hstate hf hline
  refuses {D e} hp := by
    rcases @appendPlan_cases id event D with ⟨e', he, hne⟩ | ⟨_, _, _, -, -, -, hplan⟩
    · rw [he] at hp
      cases hp
      exact hne
    · rw [hplan] at hp
      cases hp

/-- The call takes the lock of its job, and carries out a plan there. -/
structure Carries (hash : Bytes → Sha256) (c : JobCall) (id : JobId) (plan : Plan α)
    (f : α → JobAnswer) : Prop where
  program : c.program hash =
    Ns.withJobLock id (Ns.planned hash id plan) >>= fun a => pure (some (f a))
  perform : ∀ x, c.perform hash x = some (answered f (plan.outcome hash id x))
  sound : plan.Sound hash id

theorem load_carries : Carries hash (.load id) id loadPlan .state where
  program := by
    have hbody : (Ns.planned hash id loadPlan : Ns JobState) = Ns.decodeJob hash id >>= fun decoded =>
        decoded.state.elim (Task.raise (.raised (.domain "job not found"))) pure := by
      unfold Ns.planned
      congr 1
      funext decoded
      unfold loadPlan DecodedState.loaded
      cases decoded.state <;> rfl
    rw [hbody]
    show (do let state ← Ns.load hash id; return some (JobAnswer.state state)) = _
    unfold Ns.load
    congr 3
    funext decoded
    cases decoded.state <;> rfl
  perform _ := rfl
  sound := loadPlan_sound

theorem getSnapshot_carries : Carries hash (.getSnapshot id) id getSnapshotPlan .snapshot where
  program := rfl
  perform _ := rfl
  sound := { commits := fun _ _ hp => (by cases hp), refuses := fun hp => (by cases hp) }

theorem listEvents_carries : Carries hash (.listEvents id) id listEventsPlan .events where
  program := rfl
  perform _ := rfl
  sound := { commits := fun _ _ hp => (by cases hp), refuses := fun hp => (by cases hp) }

/-- A save of a candidate. -/
theorem save_carries (hv : validateSnapshotCandidate id snapshot = .ok snapshot) :
    Carries hash (.save id snapshot) id (savePlan id snapshot) fun _ => .saved where
  program := by
    show (do Ns.saveSnapshot hash id snapshot; return some JobAnswer.saved) = _
    unfold Ns.saveSnapshot Ns.planned
    rw [hv]
    show Ns.withJobLock id _ >>= _ = _
    congr 3
    funext D
    unfold savePlan
    rw [Ns.carryOut_bind]
    congr 1
    funext _
    rw [Ns.carryOut_bind]
    congr 1
    funext _
    rw [Ns.carryOut_bind]
    congr 1
    funext data
    exact (Task.bind_pure _).symm
  perform _ := by simp only [JobCall.perform, hv]
  sound := savePlan_sound

theorem append_carries : Carries hash (.append id event) id (appendPlan id event) .appended where
  program := by
    show (do let event ← Ns.appendEvent hash id event; return some (JobAnswer.appended event)) = _
    unfold Ns.appendEvent Ns.planned
    rw [rebuildEvent_self]
    show Ns.withJobLock id _ >>= _ = _
    congr 3
    funext D
    unfold appendPlan
    rcases D.state with - | state
    · rfl
    · rcases D.snapshot with - | old
      · rfl
      · show (Ns.liftRaised (validateEvent id event state) >>= _) =
          Ns.carryOut hash id D ((validateEvent id event state).mapError .raised >>= _)
        rw [Ns.carryOut_bind]
        congr 1
        funext finalized
        rw [Ns.carryOut_bind]
        congr 1
        funext line
        dsimp only
        split <;> rfl
  perform _ := rfl
  sound := appendPlan_sound

/-- **A call about a job** takes its lock and carries out a plan, or is a save
that is refused at once. -/
theorem JobCall.carries {c : JobCall} (hc : c.job = some id) :
    (∃ e, c.program hash = .done (.error (.raised e)) ∧ e ≠ corrupted ∧
      ∀ x, c.perform hash x = some (.error (.raised e), x)) ∨
    ∃ (α : Type) (plan : Plan α) (f : α → JobAnswer), Carries hash c id plan f := by
  cases c with
  | list => cases hc
  | load id =>
      cases hc
      exact .inr ⟨_, _, _, load_carries⟩
  | getSnapshot id =>
      cases hc
      exact .inr ⟨_, _, _, getSnapshot_carries⟩
  | listEvents id =>
      cases hc
      exact .inr ⟨_, _, _, listEvents_carries⟩
  | save id snapshot =>
      cases hc
      rcases hv : validateSnapshotCandidate id snapshot with e | candidate
      · refine .inl ⟨e, ?_, ?_, fun x => ?_⟩
        · show (do Ns.saveSnapshot hash id snapshot; return some JobAnswer.saved) = _
          unfold Ns.saveSnapshot
          rw [hv]
          rfl
        · unfold validateSnapshotCandidate at hv
          rw [rebuildSnapshot_self] at hv
          simp only at hv
          split at hv <;> cases hv
          decide
        · simp only [JobCall.perform, hv]
      · obtain rfl := validateSnapshotCandidate_ok hv
        exact .inr ⟨_, _, _, save_carries hv⟩
  | append id event =>
      cases hc
      exact .inr ⟨_, _, _, append_carries⟩

end Calls

end SpecStyle
