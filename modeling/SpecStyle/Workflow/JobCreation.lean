/-
SpecStyle/Workflow/JobCreation.lean

A job whose creation is interrupted.

Alone, the calls of the store answer what the directories say: a load what is
decoded (`load_alone`), a listing the jobs that load (`listTurn_alone`).
Wherever saving a first snapshot is killed, the other directories are as they
were, and the new one is missing or holds what a first commit leaves
(`saveSnapshot_within`).  In a new process all jobs are then listed and loaded
as before, and the snapshot is saved by a second call, but for one place: a
directory that has just been made is empty, and every listing refuses it until
the snapshot is saved (`creation_interrupted`).
-/
import SpecStyle.Workflow.JobNamespace
import SpecStyle.Workflow.GenesisStates

namespace SpecStyle

open PyLib

variable {hash : Bytes → Sha256} {s t u : Namespace} {id other : JobId} {d : Dir}

/-! ### Directories -/

namespace Namespace

theorem hasJobs_of_dirAt (h : s.dirAt id = some d) : s.hasJobs = true := by
  unfold dirAt at h
  unfold hasJobs
  rcases hj : s.jobs with - | jobs
  · rw [hj] at h
    cases h
  · rfl

theorem hasJob_of_dirAt (h : s.dirAt id = some d) : s.hasJob id = true := by
  unfold hasJob
  rw [h]
  rfl

theorem dirAt_congr (h : t.jobs = s.jobs) : t.dirAt id = s.dirAt id := by
  unfold dirAt
  rw [h]

theorem mem_ids : id ∈ s.ids ↔ (s.dirAt id).isSome = true := by
  unfold ids dirAt
  rcases s.jobs with - | jobs
  · simp
  · by_cases h : id ∈ jobs.ids <;> simp [h]

theorem nodup_ids : s.ids.Nodup := by
  unfold ids
  rcases s.jobs with - | jobs
  · exact List.nodup_nil
  · exact jobs.nodup

theorem dirAt_setDir (h : s.hasJob id = true) :
    (s.setDir id d).dirAt other = if other = id then some d else s.dirAt other := by
  unfold hasJob dirAt at h
  unfold setDir dirAt
  rcases hj : s.jobs with - | jobs
  · rw [hj] at h
    cases h
  · rw [hj] at h
    by_cases ho : other = id
    · subst ho
      have hid : other ∈ jobs.ids := by
        by_contra hn
        simp [hn] at h
      simp [Jobs.set, hid]
    · simp [Jobs.set, ho]

theorem setDir_self (h : s.dirAt id = some d) : s.setDir id d = s := by
  unfold dirAt at h
  unfold setDir
  rcases hj : s.jobs with - | jobs
  · rw [hj] at h
    cases h
  · rw [hj] at h
    have hd : jobs.dirs id = d := by
      by_cases hid : id ∈ jobs.ids
      · simpa [hid] using h
      · simp [hid] at h
    have hset : jobs.set id d = jobs := by
      unfold Jobs.set
      have hf : (fun other => if other = id then d else jobs.dirs other) = jobs.dirs := by
        funext other
        by_cases ho : other = id
        · rw [if_pos ho, ho, hd]
        · rw [if_neg ho]
      rw [hf]
    rw [Option.map_some, hset, ← hj]

@[simp] theorem dirAt_makeJobs : s.makeJobs.dirAt id = s.dirAt id := by
  unfold makeJobs dirAt
  cases s.jobs <;> simp

theorem makeJobs_self (h : s.hasJobs = true) : s.makeJobs = s := by
  unfold hasJobs at h
  unfold makeJobs
  obtain ⟨jobs, hj⟩ := Option.isSome_iff_exists.mp h
  rw [hj, Option.getD_some, ← hj]

theorem dirAt_makeJob (h : s.hasJobs = true) : (s.makeJob id).dirAt other =
    if other = id then some ((s.dirAt id).getD emptyDir) else s.dirAt other := by
  obtain ⟨jobs, hj⟩ := Option.isSome_iff_exists.mp h
  unfold makeJob dirAt
  rw [hj, Option.map_some, Option.bind_some, Option.bind_some, Option.bind_some]
  unfold Jobs.make
  by_cases hid : id ∈ jobs.ids
  · by_cases ho : other = id
    · subst ho
      simp [hid]
    · simp [hid, ho]
  · by_cases ho : other = id
    · subst ho
      simp [hid]
    · simp [hid, ho]

theorem makeJob_self (h : s.hasJob id = true) : s.makeJob id = s := by
  unfold hasJob dirAt at h
  unfold makeJob
  rcases hj : s.jobs with - | jobs
  · rw [hj] at h
    cases h
  · rw [hj] at h
    have hid : id ∈ jobs.ids := by
      by_contra hn
      simp [hn] at h
    rw [Option.map_some, Jobs.make, dif_pos hid, ← hj]

/-- The store has seen whether there is a directory `jobs`. -/
def touch (s : Namespace) : Namespace := { s with bound := s.hasJobs }

theorem touch_of_jobs (h : s.hasJobs = true) : s.touch = { s with bound := true } := by
  unfold touch
  rw [h]

theorem touch_of_none (hb : s.bound = true → s.hasJobs = true) (h : s.hasJobs = false) :
    s.bound = false ∧ s.touch = s := by
  have hbound : s.bound = false := by
    by_contra hne
    rw [Bool.not_eq_false] at hne
    rw [hb hne] at h
    cases h
  unfold touch
  rw [h, ← hbound]
  exact ⟨rfl, rfl⟩

/-- No call is going on. -/
structure Quiet (s : Namespace) : Prop where
  locked : s.locked = []
  mutations : s.mutations = 0
  bound : s.bound = true → s.hasJobs = true

theorem quiet_restart (s : Namespace) : s.restart.Quiet where
  locked := rfl
  mutations := rfl
  bound := fun h => by cases h

end Namespace

/-! ### The calls alone -/

namespace Ns

section Alone

variable {α : Type} {m : Ns α} {present : Namespace → Bool} {make : Namespace → Namespace}
  {r : Except StoreExn α} {a : α}

theorem openDirectory_alone : Alone works (openDirectory present) s (.ok (present s)) s := by
  unfold openDirectory
  refine Alone.look.bind ?_
  rcases h : present s
  · exact .pure
  · have hlook : Alone works (Task.look present : Ns Bool) s (.ok (present s)) s := Alone.look
    refine hlook.bind ?_
    rw [h] at hlook ⊢
    exact hlook

theorem openOrCreateDirectory_alone (hsame : present s = true → make s = s)
    (hmade : present (make s) = true) :
    Alone works (openOrCreateDirectory present make) s (.ok ()) (make s) := by
  unfold openOrCreateDirectory
  refine openDirectory_alone.bind ?_
  rcases h : present s
  · refine Alone.modify.bind (openDirectory_alone.bind ?_)
    exact Alone.require hmade
  · rw [hsame h]
    exact .pure

theorem bindJobsIdentity_alone :
    Alone works (bindJobsIdentity true) s (.ok ()) { s with bound := true } :=
  Alone.call rfl

theorem bindJobsIdentity_alone_none (h : s.bound = false) :
    Alone works (bindJobsIdentity false) s (.ok ()) s := by
  have hcall : Alone works (bindJobsIdentity false) s _ _ := Alone.call rfl
  simp only [h, Bool.false_eq_true, if_false] at hcall
  exact hcall

theorem openJob_alone (hb : s.bound = true → s.hasJobs = true) :
    Alone works (openJob id) s (.ok (s.hasJob id)) s.touch := by
  unfold openJob
  refine openDirectory_alone.bind ?_
  rcases h : s.hasJobs
  · obtain ⟨hbound, htouch⟩ := Namespace.touch_of_none hb h
    have hjob : s.hasJob id = false := by
      by_contra hj
      rw [Bool.not_eq_false] at hj
      obtain ⟨d, hd⟩ := Option.isSome_iff_exists.mp hj
      rw [Namespace.hasJobs_of_dirAt hd] at h
      cases h
    rw [htouch, hjob]
    exact (bindJobsIdentity_alone_none hbound).bind .pure
  · rw [Namespace.touch_of_jobs h]
    exact bindJobsIdentity_alone.bind openDirectory_alone

/-- The store after a job directory has been opened or made. -/
def opened (s : Namespace) (id : JobId) : Namespace :=
  ({ s.makeJobs with bound := true } : Namespace).makeJob id

theorem openOrCreateJob_alone : Alone works (openOrCreateJob id) s (.ok ()) (opened s id) := by
  have hjobs : s.makeJobs.hasJobs = true := rfl
  unfold openOrCreateJob
  refine (openOrCreateDirectory_alone Namespace.makeJobs_self hjobs).bind <|
    bindJobsIdentity_alone.bind ?_
  refine openOrCreateDirectory_alone Namespace.makeJob_self ?_
  unfold Namespace.hasJob
  rw [Namespace.dirAt_makeJob rfl, if_pos rfl]
  rfl

theorem requireJobBinding_alone (h : s.hasJob id = true) :
    Alone works (requireJobBinding id) s (.ok ()) s := by
  obtain ⟨d, hd⟩ := Option.isSome_iff_exists.mp h
  unfold requireJobBinding
  exact Alone.look.bind <| (Alone.require (Namespace.hasJobs_of_dirAt hd)).bind <|
    Alone.look.bind (Alone.require h)

/-- Work in a directory that is there. -/
theorem inJob_alone {m : Fs State} {r : Except Exn State} {d' : Dir} (hd : s.dirAt id = some d)
    (hm : exec m ⟨d, []⟩ = (r, ⟨d', []⟩)) :
    Alone works (inJob id m) s (r.mapError .file) (s.setDir id d') := by
  unfold inJob
  refine Alone.work ?_
  show Alone works (.done ((exec m ⟨(s.dirAt id).getD emptyDir, []⟩).1.mapError _)) (s.setDir id
    (exec m ⟨(s.dirAt id).getD emptyDir, []⟩).2.dir) _ _
  rw [hd, Option.getD_some, hm]
  exact .done

/-- Without faults a read answers, and changes nothing. -/
theorem exec_read (hash : Bytes → Sha256) (d : Dir) :
    exec (read hash) ⟨d, []⟩ = (readDir hash d, ⟨d, []⟩) := by
  obtain ⟨hd, hf, -⟩ := @read_views hash d ⟨d, []⟩ rfl
  exact Prod.ext read_views.faultless (World.mk.injEq .. ▸ ⟨hd, hf rfl⟩)

theorem inJob_read_alone (hd : s.dirAt id = some d) :
    Alone works (inJob id (read hash)) s ((readDir hash d).mapError .file) s := by
  have h := inJob_alone hd (exec_read hash d)
  rwa [Namespace.setDir_self hd] at h

theorem translated_alone (h : Alone works m s (.ok a) t) :
    Alone works (translated m) s (.ok a) t :=
  h.andThen .done

theorem translated_alone_file {e : Exn} (h : Alone works m s (.error (.file e)) t) :
    Alone works (translated m) s (.error (translateStorage e)) t :=
  h.andThen .done

theorem translated_alone_raised {e : Raised} (h : Alone works m s (.error (.raised e)) t) :
    Alone works (translated m) s (.error (.raised e)) t :=
  h.andThen .done

theorem withJobLock_alone (hl : id ∉ s.locked) (h : Alone works m (s.lock id) r t) :
    Alone works (withJobLock id m) s r (t.unlock id) :=
  .act (decide_eq_true hl) h.andFinally

theorem namespaceMutation_alone (h : Alone works m s.enter r t) :
    Alone works (namespaceMutation m) s r t.leave :=
  .act rfl h.andFinally

end Alone

/-! ### Loading -/

section Load

variable (hash s id)

/-- What is decoded for a job. -/
def decodeAt : Except StoreExn DecodedState :=
  match s.dirAt id with
  | none => .ok (undecoded absentState)
  | some d => decodeDir hash id d

/-- What is loaded for a job. -/
def jobAt : Except StoreExn JobState := decodeAt hash s id >>= DecodedState.loaded

variable {hash s id}

theorem decodeAt_congr (h : t.dirAt id = s.dirAt id) : decodeAt hash t id = decodeAt hash s id := by
  unfold decodeAt
  rw [h]

theorem decodeAt_dir (h : s.dirAt id = some d) : decodeAt hash s id = decodeDir hash id d := by
  unfold decodeAt
  rw [h]

theorem hasJob_iff : s.hasJob id = (s.dirAt id).isSome := rfl

theorem readJob_alone_none (hb : s.bound = true → s.hasJobs = true) (h : s.dirAt id = none) :
    Alone works (readJob hash id) s (.ok absentState) s.touch := by
  have hopen := @openJob_alone s id hb
  rw [hasJob_iff, h] at hopen
  exact hopen.bind .pure

theorem readJob_alone (hb : s.bound = true → s.hasJobs = true) (h : s.dirAt id = some d) :
    Alone works (readJob hash id) s ((readDir hash d).mapError .file) s.touch := by
  have hopen := @openJob_alone s id hb
  rw [hasJob_iff, h] at hopen
  have hdir : s.touch.dirAt id = some d := h
  have hread := @inJob_read_alone hash _ _ _ hdir
  refine hopen.bind ?_
  rcases hr : readDir hash d with e | p
  · rw [hr] at hread
    exact hread.bind_error
  · rw [hr] at hread
    exact hread.bind ((requireJobBinding_alone (Namespace.hasJob_of_dirAt hdir)).bind .pure)

theorem decodeJob_alone (hb : s.bound = true → s.hasJobs = true) :
    Alone works (decodeJob hash id) s (decodeAt hash s id) s.touch := by
  rcases hd : s.dirAt id with - | d
  · unfold decodeAt
    rw [hd]
    refine (translated_alone (readJob_alone_none hb hd)).bind ?_
    unfold liftRaised
    rw [decodePersisted_absent rfl]
    exact Alone.lift
  · rw [decodeAt_dir hd]
    unfold decodeDir
    have hread := @readJob_alone hash _ _ _ hb hd
    rcases hr : readDir hash d with e | p
    · rw [hr] at hread
      exact (translated_alone_file hread).bind_error
    · rw [hr] at hread
      exact (translated_alone hread).bind Alone.lift

/-- **A load answers what its directory says.** -/
theorem load_alone (hs : s.Quiet) : Alone works (load hash id) s (jobAt hash s id) s.touch := by
  have hl : id ∉ s.locked := by
    rw [hs.locked]
    exact List.not_mem_nil
  have hunlock : ((s.lock id).touch).unlock id = s.touch := by
    unfold Namespace.unlock Namespace.touch Namespace.lock
    simp only [List.erase_cons_head]
    rfl
  have hdecode : Alone works (decodeJob hash id) (s.lock id) (decodeAt hash s id) (s.lock id).touch :=
    decodeJob_alone (s := s.lock id) hs.bound
  rw [← hunlock]
  refine withJobLock_alone hl ?_
  unfold jobAt
  rcases hD : decodeAt hash s id with e | D
  · rw [hD] at hdecode
    exact hdecode.bind_error
  · rw [hD] at hdecode
    refine hdecode.bind ?_
    show Alone works _ _ D.loaded _
    unfold DecodedState.loaded
    rcases D.state with - | state
    · exact .done
    · exact .pure

end Load

/-! ### Listing -/

section List

variable (hash s)

/-- Whether the job loads. -/
def loads (id : JobId) : Bool := (jobAt hash s id).isOk

variable {hash s}

/-- The directory holds the job that is decoded, or swap files only. -/
theorem loads_of_atRest (h : AtRest hash id d) (hd : s.dirAt id = some d) :
    ∃ p D, readDir hash d = .ok p ∧ decodePersisted id p = .ok D ∧
      (D.state.isSome || p.slotOnly) = true ∧ loads hash s id = D.state.isSome := by
  obtain ⟨p, D, hp, hD, hrest⟩ := h
  refine ⟨p, D, hp, hD, hrest, ?_⟩
  unfold loads jobAt
  rw [decodeAt_dir hd]
  unfold decodeDir
  rw [hp]
  show Except.isOk (Except.mapError StoreExn.raised (decodePersisted id p) >>= DecodedState.loaded) = _
  rw [hD]
  show Except.isOk D.loaded = _
  unfold DecodedState.loaded
  cases D.state <;> rfl

theorem unlock_lock : (s.lock id).unlock id = s := by
  unfold Namespace.unlock Namespace.lock
  simp only [List.erase_cons_head]

/-- A directory at rest is listed if its job loads. -/
theorem validatedListedJob_alone (hl : id ∉ s.locked) (hd : s.dirAt id = some d)
    (hrest : AtRest hash id d) :
    Alone works (recoded (validatedListedJob hash id)) s (.ok (some (loads hash s id))) s := by
  obtain ⟨p, D, hp, hD, hor, hloads⟩ := loads_of_atRest hrest hd
  have hread := @inJob_read_alone hash (s.lock id) _ _ hd
  rw [hp] at hread
  have hstate : Alone works (validatedStateFromFd hash id) (s.lock id) (.ok D.state) (s.lock id) := by
    refine translated_alone (hread.bind ?_)
    unfold liftRaised
    rw [hD]
    refine Alone.lift.bind <| hread.bind <| (Alone.require (decide_eq_true rfl)).bind <|
      (Alone.require hor).bind .pure
  have hlock := withJobLock_alone hl hstate
  rw [unlock_lock] at hlock
  have hopen : Alone works (openDirectory fun s => s.hasJob id) s (.ok true) s := by
    have h := @openDirectory_alone s fun s => s.hasJob id
    rwa [Namespace.hasJob_of_dirAt hd] at h
  have hlisted : Alone works (validatedListedJob hash id) s (.ok (some D.state.isSome)) s :=
    hopen.bind (hlock.bind .pure)
  rw [hloads]
  exact hlisted.andThen .done

theorem emptyDir_read : readDir hash emptyDir = .ok absentState :=
  readDir_of_absent (by decide) rfl

/-- An empty directory is refused. -/
theorem validatedListedJob_alone_empty (hl : id ∉ s.locked) (hd : s.dirAt id = some emptyDir) :
    Alone works (recoded (validatedListedJob hash id)) s (.error corruptStore) s := by
  have hread := @inJob_read_alone hash (s.lock id) _ _ hd
  rw [emptyDir_read] at hread
  have hstate : Alone works (validatedStateFromFd hash id) (s.lock id)
      (.error (.raised corrupted)) (s.lock id) := by
    refine translated_alone_raised (hread.bind ?_)
    unfold liftRaised
    rw [decodePersisted_absent rfl]
    exact Alone.lift.bind <| hread.bind <| (Alone.require (decide_eq_true rfl)).bind <|
      Alone.bind_error .done
  have hlock := withJobLock_alone hl hstate
  rw [unlock_lock] at hlock
  have hopen : Alone works (openDirectory fun s => s.hasJob id) s (.ok true) s := by
    have h := @openDirectory_alone s fun s => s.hasJob id
    rwa [Namespace.hasJob_of_dirAt hd] at h
  refine (hopen.bind hlock.bind_error).andThen ?_
  show Alone works (Task.raise (if StoreExn.raised corrupted = .raised corrupted then _ else _)) _ _ _
  rw [if_pos rfl]
  exact .done

theorem recoded_bind_alone {names : List JobId} {found : Bool} (hd : s.hasJob id = true)
    (h : Alone works (recoded (validatedListedJob hash id)) s (.ok (some found)) s)
    (hrest : Alone works (validateListEntries hash names) s (.ok (some (names.filter (loads hash s)))) s)
    (hfound : found = loads hash s id) :
    Alone works (validateListEntries hash (id :: names)) s
      (.ok (some ((id :: names).filter (loads hash s)))) s := by
  subst hfound
  have hlook : Alone works (Task.look fun s => s.hasJob id : Ns Bool) s (.ok (s.hasJob id)) s :=
    Alone.look
  rw [hd] at hlook
  rw [List.filter_cons]
  exact h.bind (hlook.bind (hrest.bind .pure))

/-- Directories that are at rest are all gone through. -/
theorem validateListEntries_alone (hl : s.locked = []) {names : List JobId}
    (h : ∀ id ∈ names, ∃ d, s.dirAt id = some d ∧ AtRest hash id d) :
    Alone works (validateListEntries hash names) s
      (.ok (some (names.filter (loads hash s)))) s := by
  induction names with
  | nil => exact .pure
  | cons id names ih =>
    obtain ⟨d, hd, hrest⟩ := h id List.mem_cons_self
    have hlock : id ∉ s.locked := by
      rw [hl]
      exact List.not_mem_nil
    exact recoded_bind_alone (Namespace.hasJob_of_dirAt hd)
      (validatedListedJob_alone hlock hd hrest)
      (ih fun other ho => h other (List.mem_cons_of_mem _ ho)) rfl

/-- An empty directory among them makes the store corrupt. -/
theorem validateListEntries_alone_empty (hl : s.locked = []) {names : List JobId}
    (h : ∀ id ∈ names, ∃ d, s.dirAt id = some d ∧ (AtRest hash id d ∨ d = emptyDir))
    (hempty : ∃ id ∈ names, s.dirAt id = some emptyDir) :
    Alone works (validateListEntries hash names) s (.error corruptStore) s := by
  induction names with
  | nil =>
    obtain ⟨id, hid, -⟩ := hempty
    cases hid
  | cons id names ih =>
    have hlock : id ∉ s.locked := by
      rw [hl]
      exact List.not_mem_nil
    obtain ⟨d, hd, hrest | rfl⟩ := h id List.mem_cons_self
    · have hlook : Alone works (Task.look fun s => s.hasJob id : Ns Bool) s
          (.ok (s.hasJob id)) s := Alone.look
      rw [Namespace.hasJob_of_dirAt hd] at hlook
      refine (validatedListedJob_alone hlock hd hrest).bind (hlook.bind (Alone.bind_error (ih ?_ ?_)))
      · exact fun other ho => h other (List.mem_cons_of_mem _ ho)
      · obtain ⟨other, ho, he⟩ := hempty
        rcases List.mem_cons.mp ho with rfl | ho
        · -- an empty directory is not at rest
          rw [hd] at he
          cases he
          obtain ⟨p, D, hp, hD, hor⟩ := hrest
          rw [emptyDir_read] at hp
          cases hp
          rw [decodePersisted_absent rfl] at hD
          cases hD
          cases hor
        · exact ⟨other, ho, he⟩
    · exact (validatedListedJob_alone_empty hlock hd).bind_error

theorem sameNames_self (names : List JobId) : sameNames names names = true := by
  unfold sameNames
  have hall : names.all (· ∈ names) = true := List.all_eq_true.mpr fun _ h => decide_eq_true h
  rw [hall]
  rfl

theorem listOnce_alone_none (hs : s.Quiet) (h : s.hasJobs = false) :
    Alone works (listOnce hash) s (.ok (some [])) s := by
  have hopen : Alone works (openDirectory Namespace.hasJobs) s (.ok false) s := h ▸ openDirectory_alone
  have hlook : Alone works (Task.look Namespace.hasJobs : Ns Bool) s (.ok false) s := h ▸ Alone.look
  refine hopen.bind ?_
  exact (bindJobsIdentity_alone_none (Namespace.touch_of_none hs.bound h).1).bind <|
    hlook.bind <| (Alone.require rfl).bind .pure

theorem listOnce_alone (h : s.hasJobs = true)
    (hentries : Alone works (validateListEntries hash s.ids) s.touch
      (.ok (some (s.ids.filter (loads hash s)))) s.touch) :
    Alone works (listOnce hash) s (.ok (some (sortIds (s.ids.filter (loads hash s))))) s.touch := by
  have hopen : Alone works (openDirectory Namespace.hasJobs) s (.ok true) s := h ▸ openDirectory_alone
  have hlook : Alone works (Task.look Namespace.hasJobs : Ns Bool) s.touch (.ok true) s.touch :=
    h ▸ (Alone.look (s := s.touch))
  have hids : ∀ t : Namespace, Alone works (Task.look Namespace.ids : Ns (List JobId)) t (.ok t.ids) t :=
    fun _ => Alone.look
  refine hopen.bind ?_
  rw [Namespace.touch_of_jobs h] at hentries hlook ⊢
  refine bindJobsIdentity_alone.bind <| (hids _).bind <| hentries.bind <| (hids _).bind ?_
  show Alone works (if sameNames s.ids s.ids = true then _ else _) _ _ _
  rw [if_pos (sameNames_self _)]
  exact hlook.bind ((Alone.require rfl).bind .pure)

theorem stableEpoch_alone (h : s.mutations = 0) : Alone works stableEpoch s (.ok s.epoch) s := by
  unfold stableEpoch
  exact .act (by rw [h]; rfl) .done

/-- A listing that goes through in one turn. -/
theorem listTurn_alone {ids : List JobId} (hs : s.mutations = 0) (ht : t.mutations = 0)
    (hepoch : t.epoch = s.epoch) (h : Alone works (listOnce hash) s (.ok (some ids)) t) :
    Alone works (listTurn hash) s (.ok (some ids)) t := by
  have hagain := stableEpoch_alone ht
  rw [hepoch] at hagain
  refine translated_alone ((stableEpoch_alone hs).bind (h.andThen (hagain.bind ?_)))
  show Alone works (if s.epoch ≠ s.epoch then _ else _) _ _ _
  rw [if_neg (not_not.mpr rfl)]
  exact .pure

/-- A listing that finds the store corrupt, and nobody at work. -/
theorem listTurn_alone_corrupt (hs : s.mutations = 0) (ht : t.mutations = 0)
    (hepoch : t.epoch = s.epoch) (h : Alone works (listOnce hash) s (.error corruptStore) t) :
    Alone works (listTurn hash) s (.error (.raised corrupted)) t := by
  have hagain := stableEpoch_alone ht
  rw [hepoch] at hagain
  refine translated_alone_file (e := .corruptStore) ((stableEpoch_alone hs).bind (h.andThen ?_))
  show Alone works (if corruptStore = corruptStore then _ else _) _ _ _
  rw [if_pos rfl]
  refine hagain.bind ?_
  show Alone works (if s.epoch ≠ s.epoch then _ else _) _ _ _
  rw [if_neg (not_not.mpr rfl)]
  exact .done

theorem sortIds_sorted {ids : List JobId} (h : ids.Nodup) :
    (sortIds ids).Pairwise fun a b => a.value < b.value := by
  have : Std.Total fun a b : JobId => a.value ≤ b.value := ⟨fun a b => le_total a.value b.value⟩
  have : IsTrans JobId fun a b => a.value ≤ b.value := ⟨fun a b c hab hbc => le_trans hab hbc⟩
  have hsorted : (sortIds ids).Pairwise fun a b => a.value ≤ b.value :=
    List.pairwise_insertionSort _ _
  have hnodup : (sortIds ids).Nodup := (List.perm_insertionSort _ _).nodup_iff.mpr h
  refine (hsorted.and hnodup).imp fun {a b} hab => lt_of_le_of_ne hab.1 fun heq => hab.2 ?_
  cases a
  cases b
  cases heq
  rfl

theorem mem_sortIds {ids : List JobId} : id ∈ sortIds ids ↔ id ∈ ids := List.mem_insertionSort _

/-- The jobs that a listing should give. -/
def listIds (hash : Bytes → Sha256) (s : Namespace) : List JobId := sortIds (s.ids.filter (loads hash s))

theorem loads_iff : loads hash s id = true ↔ ∃ state, jobAt hash s id = .ok state := by
  unfold loads
  rcases jobAt hash s id with e | state
  · simp [Except.isOk, Except.toBool]
  · simp [Except.isOk, Except.toBool]

theorem dirAt_of_loads (h : loads hash s id = true) : (s.dirAt id).isSome = true := by
  rcases hd : s.dirAt id with - | d
  · obtain ⟨state, hstate⟩ := loads_iff.mp h
    unfold jobAt decodeAt at hstate
    rw [hd] at hstate
    cases hstate
  · rfl

theorem listIds_spec : (listIds hash s).Pairwise (fun a b => a.value < b.value) ∧
    ∀ id, id ∈ listIds hash s ↔ loads hash s id = true := by
  refine ⟨sortIds_sorted (Namespace.nodup_ids.filter _), fun id => ?_⟩
  unfold listIds
  rw [mem_sortIds, List.mem_filter, Namespace.mem_ids]
  exact ⟨fun h => h.2, fun h => ⟨dirAt_of_loads h, h⟩⟩

/-- **A listing gives the jobs that load**, where every directory is at rest. -/
theorem list_alone (hs : s.Quiet) (h : ∀ id d, s.dirAt id = some d → AtRest hash id d) :
    AloneLoop works (listTurn hash) s (.ok (listIds hash s)) s.touch := by
  refine .returns (listTurn_alone hs.mutations hs.mutations rfl ?_)
  rcases hj : s.hasJobs
  · have htouch := (Namespace.touch_of_none hs.bound hj).2
    have hids : listIds hash s = [] := by
      unfold Namespace.hasJobs at hj
      unfold listIds Namespace.ids
      rw [Option.isSome_eq_false_iff, Option.isNone_iff_eq_none] at hj
      rw [hj]
      rfl
    rw [htouch, hids]
    exact listOnce_alone_none hs hj
  · refine listOnce_alone hj (validateListEntries_alone (s := s.touch) hs.locked fun id hid => ?_)
    obtain ⟨d, hd⟩ := Option.isSome_iff_exists.mp (Namespace.mem_ids.mp hid)
    exact ⟨d, hd, h id d hd⟩

/-- **An empty job directory makes every listing fail.** -/
theorem list_alone_empty (hs : s.Quiet)
    (h : ∀ id d, s.dirAt id = some d → AtRest hash id d ∨ d = emptyDir)
    (hempty : s.dirAt id = some emptyDir) :
    AloneLoop works (listTurn hash) s (.error (.raised corrupted)) s.touch := by
  have hj := Namespace.hasJobs_of_dirAt hempty
  refine .raises (listTurn_alone_corrupt hs.mutations hs.mutations rfl ?_)
  have hentries : Alone works (validateListEntries hash s.ids) s.touch (.error corruptStore) s.touch := by
    refine validateListEntries_alone_empty (s := s.touch) hs.locked (fun other ho => ?_) ?_
    · obtain ⟨d, hd⟩ := Option.isSome_iff_exists.mp (Namespace.mem_ids.mp ho)
      exact ⟨d, hd, h other d hd⟩
    · exact ⟨id, Namespace.mem_ids.mpr (by rw [hempty]; rfl), hempty⟩
  have hopen : Alone works (openDirectory Namespace.hasJobs) s (.ok true) s := hj ▸ openDirectory_alone
  have hids : Alone works (Task.look Namespace.ids : Ns (List JobId)) s.touch (.ok s.ids) s.touch :=
    Alone.look
  refine hopen.bind ?_
  rw [Namespace.touch_of_jobs hj] at hentries hids ⊢
  exact bindJobsIdentity_alone.bind (hids.bind hentries.bind_error)

end List

/-! ### What a first save goes through -/

section Within

variable {α β : Type} {snapshot : Bytes} {job : Job}

/-- The directories while a job is created: the others as they were, and the
new one missing or on the way. -/
structure Creates (hash : Bytes → Sha256) (snapshot : Bytes) (id : JobId) (s u : Namespace) :
    Prop where
  others : ∀ other, other ≠ id → u.dirAt other = s.dirAt other
  own : u.dirAt id = none ∨ ∃ d p, u.dirAt id = some d ∧ Creating hash snapshot d p

/-- The same job directories. -/
def SameDirs (s u : Namespace) : Prop := ∀ id, u.dirAt id = s.dirAt id

theorem sameDirs_of_jobs (h : u.jobs = s.jobs) : SameDirs s u := fun _ => Namespace.dirAt_congr h

theorem SameDirs.trans (h : SameDirs s t) (h' : SameDirs t u) : SameDirs s u :=
  fun id => (h' id).trans (h id)

theorem Creates.congr (h : Creates hash snapshot id s t) (hu : SameDirs t u) :
    Creates hash snapshot id s u where
  others := fun other ho => (hu other).trans (h.others other ho)
  own := by
    rw [hu id]
    exact h.own

/-- The program changes no directory. -/
def Steady (m : Ns α) : Prop := ∀ s, Within works (SameDirs s) m s

theorem Steady.creates {m : Ns α} (hm : Steady m) (h : Creates hash snapshot id s t) :
    Within works (Creates hash snapshot id s) m t :=
  fun u hu => h.congr (hm t u hu)

theorem Steady.done {r : Except StoreExn α} : Steady (.done r : Ns α) :=
  fun _ => .done fun _ => rfl

theorem Steady.bind {m : Ns α} {f : α → Ns β} (hm : Steady m) (hf : ∀ a, Steady (f a)) :
    Steady (m >>= f) :=
  fun s => (hm s).bind fun a t ha u hu => (hm s t ha.reaches).trans (hf a t u hu)

theorem Steady.andThen {m : Ns α} {f : Except StoreExn α → Ns β} (hm : Steady m)
    (hf : ∀ r, Steady (f r)) : Steady (m.andThen f) :=
  fun s => (hm s).andThen fun r t hr u hu => (hm s t hr.reaches).trans (hf r t u hu)

theorem Steady.ite {c : Prop} [Decidable c] {m m' : Ns α} (hm : Steady m) (hm' : Steady m') :
    Steady (if c then m else m') := by
  split
  · exact hm
  · exact hm'

theorem Steady.call {guard : Namespace → Bool} {f : Namespace → Except StoreExn α × Namespace}
    (hf : ∀ s, (f s).2.jobs = s.jobs) : Steady (Task.call guard f) :=
  fun s => .act (fun _ => rfl) fun _ => .done (sameDirs_of_jobs (hf s))

theorem steady_look {f : Namespace → α} : Steady (Task.look f) := .call fun _ => rfl

theorem steady_require {c : Bool} {e : StoreExn} : Steady (Task.require c e) :=
  .ite .done .done

theorem steady_openDirectory {present : Namespace → Bool} : Steady (openDirectory present) :=
  steady_look.bind fun _ => .ite (steady_look.bind fun _ => .ite steady_look .done) .done

theorem steady_bindJobsIdentity {found : Bool} : Steady (bindJobsIdentity found) := by
  refine .call fun s => ?_
  split_ifs <;> rfl

theorem steady_openJob : Steady (openJob id) :=
  steady_openDirectory.bind fun _ => .ite (steady_bindJobsIdentity.bind fun _ => steady_openDirectory)
    (steady_bindJobsIdentity.bind fun _ => .done)

theorem steady_requireJobBinding : Steady (requireJobBinding id) :=
  steady_look.bind fun _ => steady_require.bind fun _ => steady_look.bind fun _ => steady_require

/-- What a read leaves, wherever it stops. -/
theorem leaves_read (faults : List Fault) : leaves (read hash) d faults = d :=
  (@read_views hash d ⟨d, faults⟩ rfl).1

theorem sameDirs_setDir : SameDirs s (s.setDir id ((s.dirAt id).getD emptyDir)) := by
  intro other
  rcases hd : s.dirAt id with - | d
  · -- nothing is there to be set
    unfold Namespace.dirAt at hd
    unfold Namespace.setDir Namespace.dirAt
    rcases hj : s.jobs with - | jobs
    · rfl
    · rw [hj] at hd
      have hid : id ∉ jobs.ids := fun hid => by simp [hid] at hd
      by_cases ho : other = id
      · subst ho
        simp [Jobs.set, hid]
      · simp [Jobs.set, ho]
  · rw [Option.getD_some, Namespace.setDir_self hd]

theorem steady_inJob_read : Steady (inJob id (read hash)) := by
  intro s
  have hself : ∀ calls, SameDirs s (s.setDir id (leaves (read hash)
      ((s.dirAt id).getD emptyDir) calls)) := by
    intro calls
    rw [leaves_read]
    exact sameDirs_setDir
  refine Within.work (fun _ => rfl) ?_ (.done (hself []))
  rintro p ⟨calls, -, rfl⟩
  exact hself _

theorem steady_decodeJob : Steady (decodeJob hash id) := by
  have hread : Steady (readJob hash id) :=
    steady_openJob.bind fun _ => .ite (steady_inJob_read.bind fun _ =>
      steady_requireJobBinding.bind fun _ => .done) .done
  refine Steady.bind (hread.andThen fun r => ?_) fun _ => .done
  cases r with
  | ok p => exact .done
  | error e => cases e <;> exact .done

/-- Making a directory, in steps that show the job missing or on the way. -/
theorem openOrCreateDirectory_within {present : Namespace → Bool} {make : Namespace → Namespace}
    (h : Creates hash snapshot id s t) (hmake : Creates hash snapshot id s (make t)) :
    Within works (Creates hash snapshot id s) (openOrCreateDirectory present make) t := by
  unfold openOrCreateDirectory
  refine (steady_openDirectory.creates h).bind fun found t' ht' => ?_
  obtain ⟨-, rfl⟩ := ht'.unique openDirectory_alone
  by_cases hfound : found = true
  · rw [if_pos hfound]
    exact .done h
  · rw [if_neg hfound]
    refine Within.bind (.act h fun _ => .done hmake) fun _ u hu => ?_
    obtain ⟨-, rfl⟩ := hu.unique (Alone.modify (f := make))
    exact (steady_openDirectory.bind fun _ => steady_require).creates hmake

theorem creating_emptyDir : Creating hash snapshot emptyDir absentState where
  read := emptyDir_read
  events := rfl
  generation := fun h => by cases h
  snapshot := .inl rfl

theorem dirAt_opened : (opened s id).dirAt other =
    if other = id then some ((s.dirAt id).getD emptyDir) else s.dirAt other := by
  unfold opened
  rw [Namespace.dirAt_makeJob rfl]
  show (if other = id then some ((s.makeJobs.dirAt id).getD emptyDir) else s.makeJobs.dirAt other) = _
  rw [Namespace.dirAt_makeJobs, Namespace.dirAt_makeJobs]

theorem openOrCreateJob_within (hnew : t.dirAt id = none) (h : Creates hash snapshot id s t) :
    Within works (Creates hash snapshot id s) (openOrCreateJob id) t := by
  have hjobs : Creates hash snapshot id s t.makeJobs := h.congr fun _ => Namespace.dirAt_makeJobs
  unfold openOrCreateJob
  refine (openOrCreateDirectory_within h hjobs).bind fun _ t1 h1 => ?_
  obtain ⟨-, rfl⟩ := h1.unique (openOrCreateDirectory_alone Namespace.makeJobs_self rfl)
  refine (steady_bindJobsIdentity.creates hjobs).bind fun _ t2 h2 => ?_
  obtain ⟨-, rfl⟩ := h2.unique bindJobsIdentity_alone
  refine openOrCreateDirectory_within (hjobs.congr (sameDirs_of_jobs rfl)) ?_
  show Creates hash snapshot id s (opened t id)
  refine ⟨fun other ho => ?_, .inr ⟨emptyDir, absentState, ?_, creating_emptyDir⟩⟩
  · rw [dirAt_opened, if_neg ho, h.others other ho]
  · rw [dirAt_opened, if_pos rfl, hnew, Option.getD_none]

theorem translated_within {P : Namespace → Prop} {m : Ns α} (hm : Within works P m s) :
    Within works P (translated m) s := by
  refine hm.andThen fun r t hr => ?_
  have ht := hm t hr.reaches
  cases r with
  | ok a => exact .done ht
  | error e => cases e <;> exact .done ht

/-- The commit of a first snapshot. -/
theorem commitJob_within (hnew : t.dirAt id = none) (h : Creates hash snapshot id s t)
    (expected : State) :
    Within works (Creates hash snapshot id s) (commitJob hash id expected snapshot none) t := by
  unfold commitJob namespaceMutation
  have henter : Creates hash snapshot id s t.enter := h.congr (sameDirs_of_jobs rfl)
  have htask : Within works (Creates hash snapshot id s) (translated do
      openOrCreateJob id
      let _ ← inJob id (commit hash expected snapshot none snapshotBytesEquivalent)
      requireJobBinding id) t.enter := by
    refine translated_within (Within.bind (openOrCreateJob_within hnew henter) fun _ t1 h1 => ?_)
    · obtain ⟨-, rfl⟩ := h1.unique openOrCreateJob_alone
      have hdir : (opened t.enter id).dirAt id = some emptyDir := by
        rw [dirAt_opened, if_pos rfl, show t.enter.dirAt id = none from hnew, Option.getD_none]
      have hopened : Creates hash snapshot id s (opened t.enter id) := by
        refine ⟨fun other ho => ?_, .inr ⟨emptyDir, absentState, hdir, creating_emptyDir⟩⟩
        rw [dirAt_opened, if_neg ho]
        exact henter.others other ho
      -- wherever the commit stops, the directory is on the way
      have hleaves : ∀ faults, Creates hash snapshot id s ((opened t.enter id).setDir id
          (leaves (commit hash expected snapshot none snapshotBytesEquivalent)
            (((opened t.enter id).dirAt id).getD emptyDir) faults)) := by
        intro faults
        rw [hdir, Option.getD_some]
        have hcommit := @commit_creating hash _ snapshot _ expected snapshotBytesEquivalent
          emptyDir_read rfl ⟨emptyDir, faults⟩ rfl
        have hcreating : ∃ p, Creating hash snapshot (leaves (commit hash expected snapshot none
            snapshotBytesEquivalent) emptyDir faults) p := by
          revert hcommit
          unfold leaves
          rcases exec (commit hash expected snapshot none snapshotBytesEquivalent)
            ⟨emptyDir, faults⟩ with ⟨e | p, w⟩ <;> exact fun h => h
        obtain ⟨p, hp⟩ := hcreating
        have hjob := Namespace.hasJob_of_dirAt hdir
        refine ⟨fun other ho => ?_, .inr ⟨_, p, ?_, hp⟩⟩
        · rw [Namespace.dirAt_setDir hjob, if_neg ho]
          exact hopened.others other ho
        · rw [Namespace.dirAt_setDir hjob, if_pos rfl]
      refine Within.bind (Within.work hopened ?_ (.done (hleaves []))) fun _ t2 h2 => ?_
      · rintro p ⟨calls, -, rfl⟩
        exact hleaves _
      · refine steady_requireJobBinding.creates ?_
        cases h2 with
        | work h2 =>
          obtain ⟨-, rfl⟩ := h2.of_done
          exact hleaves []
  refine Within.act h fun _ => htask.andFinally fun r u hr => ?_
  exact (htask u hr.reaches).congr (sameDirs_of_jobs rfl)

/-- **A killed save** leaves the new directory missing or on the way, and the
others as they were. -/
theorem saveSnapshot_within (hs : s.bound = true → s.hasJobs = true)
    (hnew : s.dirAt job.jobId = none)
    (hdata : encodeSnapshot (canonicalGenesis job) = .ok snapshot) :
    Within works (Creates hash snapshot job.jobId s)
      (saveSnapshot hash job.jobId (canonicalGenesis job)) s := by
  have hstart : Creates hash snapshot job.jobId s s := ⟨fun _ _ => rfl, .inl hnew⟩
  have hlock : Creates hash snapshot job.jobId s (s.lock job.jobId) :=
    hstart.congr (sameDirs_of_jobs rfl)
  unfold saveSnapshot
  refine Within.bind (.done hstart) fun genesis t ht => ?_
  obtain ⟨hgenesis, rfl⟩ := ht.of_done
  have hsame : genesis = canonicalGenesis job := by
    rcases hv : validateSnapshotCandidate job.jobId (canonicalGenesis job) with e | s'
    · rw [hv] at hgenesis
      cases hgenesis
    · rw [hv] at hgenesis
      cases hgenesis
      exact validateSnapshotCandidate_ok hv
  subst hsame
  have hbody : Within works (Creates hash snapshot job.jobId t) (do
      let decoded ← decodeJob hash job.jobId
      liftRaised (validateSnapshotUpdate job.jobId (canonicalGenesis job) decoded)
      liftRaised (requirePrintable (canonicalGenesis job))
      let data ← liftRaised (encodeSnapshot (canonicalGenesis job))
      commitJob hash job.jobId decoded.persisted data decoded.persisted.events)
      (t.lock job.jobId) := by
    refine (steady_decodeJob.creates hlock).bind fun D u hu => ?_
    obtain ⟨hD, rfl⟩ := hu.unique (decodeJob_alone (s := t.lock job.jobId) hs)
    have hDeq : D = undecoded absentState := by
      unfold decodeAt at hD
      rw [show (t.lock job.jobId).dirAt job.jobId = none from hnew] at hD
      exact Except.ok.inj hD
    subst hDeq
    have htouch : Creates hash snapshot job.jobId t (t.lock job.jobId).touch :=
      hlock.congr (sameDirs_of_jobs rfl)
    refine Within.bind (.done htouch) fun _ u hu => ?_
    obtain ⟨-, rfl⟩ := hu.of_done
    refine Within.bind (.done htouch) fun _ u hu => ?_
    obtain ⟨-, rfl⟩ := hu.of_done
    refine Within.bind (.done htouch) fun data u hu => ?_
    obtain ⟨hencode, rfl⟩ := hu.of_done
    rw [hdata] at hencode
    cases hencode
    exact commitJob_within (t := (t.lock job.jobId).touch) hnew htouch absentState
  refine Within.act hstart fun _ => hbody.andFinally fun r u hr => ?_
  exact (hbody u hr.reaches).congr (sameDirs_of_jobs rfl)

/-- What is decoded where a job is on the way, and the directory that a commit
will find. -/
theorem decodeAt_creating (hdata : encodeSnapshot (canonicalGenesis job) = .ok snapshot)
    (hown : s.dirAt job.jobId = none ∨
      ∃ d p, s.dirAt job.jobId = some d ∧ Creating hash snapshot d p) :
    ∃ D d, decodeAt hash s job.jobId = .ok D ∧
      Creating hash snapshot d D.persisted ∧ (s.dirAt job.jobId).getD emptyDir = d ∧
      D.events = [] ∧ ∀ old ∈ D.snapshot, old = canonicalGenesis job := by
  rcases hown with hd | ⟨d, p, hd, hp⟩
  · refine ⟨undecoded absentState, emptyDir, ?_, creating_emptyDir, by rw [hd]; rfl, rfl, ?_⟩
    · unfold decodeAt
      rw [hd]
    · exact fun old ho => by cases ho
  · rw [decodeAt_dir hd, hd]
    unfold decodeDir
    rw [hp.read]
    show ∃ D d', (decodePersisted job.jobId p).mapError StoreExn.raised = .ok D ∧ _
    rcases hp.decoded hdata with ⟨-, hdec⟩ | ⟨-, hdec⟩
    · rw [hdec]
      exact ⟨undecoded p, d, rfl, hp, rfl, rfl, fun old ho => by cases ho⟩
    · rw [hdec]
      refine ⟨(Journal.begun job).decoded p, d, rfl, hp, rfl, rfl, fun old ho => ?_⟩
      exact (Option.some.inj ho).symm

/-- **The snapshot is saved again**, and then the job loads. -/
theorem saveSnapshot_alone (hs : s.Quiet)
    (hdata : encodeSnapshot (canonicalGenesis job) = .ok snapshot)
    (hbudget : job.budget.maxAttemptsPerItem < 10 ^ 4300)
    (hown : s.dirAt job.jobId = none ∨
      ∃ d p, s.dirAt job.jobId = some d ∧ Creating hash snapshot d p) :
    ∃ t, Alone works (saveSnapshot hash job.jobId (canonicalGenesis job)) s (.ok ()) t ∧
      t.Quiet ∧ ∃ state, jobAt hash t job.jobId = .ok state := by
  obtain ⟨D, d, hD, hp, hd, hevents, hsnapshot⟩ := decodeAt_creating hdata hown
  obtain ⟨h0, h1⟩ := length_genesis hbudget hdata
  obtain ⟨p', d', hrun, hshows⟩ := @Creating.commit_runs _ _ _ _ _ snapshotBytesEquivalent hp
    (sameState_self D.persisted) h0 h1
  have hlocked : job.jobId ∉ s.locked := by
    rw [hs.locked]
    exact List.not_mem_nil
  have hcandidate : validateSnapshotCandidate job.jobId (canonicalGenesis job) =
      .ok (canonicalGenesis job) := by
    unfold validateSnapshotCandidate
    rw [rebuildSnapshot_self]
    exact if_pos rfl
  have hprint : requirePrintable (canonicalGenesis job) = .ok () :=
    requirePrintable_iff.mpr hbudget
  generalize hu : (s.lock job.jobId).touch.enter = u
  have hopened : (opened u job.jobId).dirAt job.jobId = some d := by
    rw [dirAt_opened, if_pos rfl, ← hd, ← hu]
    rfl
  have hjob := Namespace.hasJob_of_dirAt hopened
  have hset : ((opened u job.jobId).setDir job.jobId d').dirAt job.jobId = some d' := by
    rw [Namespace.dirAt_setDir hjob, if_pos rfl]
  have hcommit : Alone works (commitJob hash job.jobId D.persisted snapshot D.persisted.events)
      (s.lock job.jobId).touch (.ok ())
      ((opened u job.jobId).setDir job.jobId d').leave := by
    rw [hp.events]
    refine namespaceMutation_alone (translated_alone ?_)
    rw [hu]
    exact openOrCreateJob_alone.bind <| (inJob_alone hopened hrun).bind
      (requireJobBinding_alone (Namespace.hasJob_of_dirAt hset))
  refine ⟨((opened u job.jobId).setDir job.jobId d').leave.unlock job.jobId, ?_, ⟨?_, ?_, ?_⟩, ?_⟩
  · unfold saveSnapshot liftRaised
    rw [hcandidate]
    refine Alone.lift.bind (withJobLock_alone hlocked ?_)
    have hdecode : Alone works (decodeJob hash job.jobId) (s.lock job.jobId) (.ok D)
        (s.lock job.jobId).touch := by
      have h := @decodeJob_alone hash (s.lock job.jobId) job.jobId hs.bound
      rwa [show decodeAt hash (s.lock job.jobId) job.jobId = .ok D from hD] at h
    refine hdecode.bind ?_
    rw [validateSnapshotUpdate_begun hevents hsnapshot, hprint, hdata]
    exact Alone.lift.bind (Alone.lift.bind (Alone.lift.bind hcommit))
  · subst hu
    show (job.jobId :: s.locked).erase job.jobId = []
    rw [List.erase_cons_head, hs.locked]
  · subst hu
    show s.mutations + 1 - 1 = 0
    rw [hs.mutations]
  · exact fun _ => Namespace.hasJobs_of_dirAt hset
  · refine ⟨(Journal.begun job).state, ?_⟩
    have hpersisted := persisted_begun hdata hshows.snapshot hshows.events
    have hdir : (((opened u job.jobId).setDir job.jobId d').leave.unlock job.jobId).dirAt job.jobId =
        some d' := hset
    unfold jobAt
    rw [decodeAt_dir hdir, Holds.decodeDir ⟨hshows.read, hpersisted⟩]
    rfl

end Within

end Ns

/-! ### Interrupted creation -/

section Interrupted

variable (hash s)

/-- Alone, a load of the job answers `r`. -/
def LoadAnswers (id : JobId) (r : Except StoreExn JobState) : Prop :=
  ∃ t, Alone works (Ns.load hash id) s r t

/-- Alone, `list_job_ids` answers `r`. -/
def ListAnswers (r : Except StoreExn (List JobId)) : Prop :=
  ∃ t, AloneLoop works (Ns.listTurn hash) s r t

variable {hash s}

theorem loadAnswers_iff (hs : s.Quiet) {r : Except StoreExn JobState} :
    LoadAnswers hash s id r ↔ r = Ns.jobAt hash s id := by
  constructor
  · rintro ⟨t, ht⟩
    exact (ht.unique (Ns.load_alone hs)).1
  · rintro rfl
    exact ⟨_, Ns.load_alone hs⟩

theorem loadAnswers_ok_iff (hs : s.Quiet) :
    (∃ state, LoadAnswers hash s id (.ok state)) ↔ Ns.loads hash s id = true := by
  rw [Ns.loads_iff]
  refine exists_congr fun state => ?_
  rw [loadAnswers_iff hs, eq_comm]

/-- How the store is found by a new process, after a first snapshot of `job`
was to be saved in the state `s` and the process was killed in the state `u`. -/
structure Interrupted (hash : Bytes → Sha256) (s u : Namespace) (job : Job) : Prop where
  /-- The other jobs load as before. -/
  others : ∀ id, id ≠ job.jobId → ∀ r, LoadAnswers hash u.restart id r ↔ LoadAnswers hash s id r
  /-- Just after its directory was made, no job is listed. -/
  empty : u.dirAt job.jobId = some emptyDir →
    ListAnswers hash u.restart (.error (.raised corrupted))
  /-- Anywhere else exactly the jobs are listed that loaded before, and the new
  one if it loads. -/
  listed : u.dirAt job.jobId ≠ some emptyDir → ∃ ids, ListAnswers hash u.restart (.ok ids) ∧
    (ids.Pairwise fun a b => a.value < b.value) ∧
    ∀ id, id ∈ ids ↔ (∃ state, LoadAnswers hash s id (.ok state)) ∨
      id = job.jobId ∧ ∃ state, LoadAnswers hash u.restart id (.ok state)
  /-- The same snapshot is saved by a second call, and the job then loads. -/
  retried : job.budget.maxAttemptsPerItem < 10 ^ 4300 → ∃ t,
    Alone works (Ns.saveSnapshot hash job.jobId (canonicalGenesis job)) u.restart (.ok ()) t ∧
      ∃ state, LoadAnswers hash t job.jobId (.ok state)

/-- An empty directory has no names. -/
theorem emptyDir_of_names (h : d.names = ⟨[], false⟩) : d = emptyDir := by
  obtain ⟨files, foreign⟩ := d
  unfold Dir.names at h
  obtain ⟨hknown, hforeign⟩ := (Names.mk.injEq ..).mp h
  have hfiles : files = fun _ => none := by
    funext slot
    have hslot := List.filter_eq_nil_iff.mp hknown slot (Slot.mem_all slot)
    rw [Option.not_isSome_iff_eq_none] at hslot
    exact hslot
  have hf : foreign = false := hforeign
  rw [hfiles, hf]
  rfl

/-- **Interrupted creation.**  The other jobs are as they were; every listing
gives the jobs that load, unless the process was killed just after making the
job directory, which is then refused; and a second save goes through. -/
theorem creation_interrupted {job : Job} (hs : s.Quiet)
    (hrest : ∀ id d, s.dirAt id = some d → AtRest hash id d) (hnew : s.dirAt job.jobId = none)
    (hu : Reaches works (Ns.saveSnapshot hash job.jobId (canonicalGenesis job)) s u) :
    Interrupted hash s u job := by
  obtain ⟨snapshot, hdata, -⟩ := decodeSnapshot_encodeSnapshot (canonicalGenesis job)
  have hcreates := Ns.saveSnapshot_within hs.bound hnew hdata u hu
  have hquiet := Namespace.quiet_restart u
  have hdir : ∀ id, u.restart.dirAt id = u.dirAt id := fun _ => rfl
  have hothers : ∀ id, id ≠ job.jobId → Ns.jobAt hash u.restart id = Ns.jobAt hash s id := by
    intro id hid
    unfold Ns.jobAt
    rw [Ns.decodeAt_congr ((hdir id).trans (hcreates.others id hid))]
  refine ⟨fun id hid r => ?_, fun hempty => ?_, fun hnonempty => ?_, fun hbudget => ?_⟩
  · rw [loadAnswers_iff hquiet, loadAnswers_iff hs, hothers id hid]
  · refine ⟨_, Ns.list_alone_empty hquiet (fun id d hd => ?_) hempty⟩
    by_cases hid : id = job.jobId
    · subst hid
      rw [hdir, hempty] at hd
      exact .inr (Option.some.inj hd).symm
    · rw [hdir, hcreates.others id hid] at hd
      exact .inl (hrest id d hd)
  · have hatRest : ∀ id d, u.restart.dirAt id = some d → AtRest hash id d := by
      intro id d hd
      by_cases hid : id = job.jobId
      · subst hid
        rcases hcreates.own with hown | ⟨d', p, hown, hp⟩
        · rw [hdir, hown] at hd
          cases hd
        · rw [hdir, hown] at hd
          cases hd
          refine hp.atRest hdata fun hnames => hnonempty ?_
          rw [hown, emptyDir_of_names hnames]
      · rw [hdir, hcreates.others id hid] at hd
        exact hrest id d hd
    obtain ⟨hsorted, hmem⟩ := @Ns.listIds_spec hash u.restart
    refine ⟨_, ⟨_, Ns.list_alone hquiet hatRest⟩, hsorted, fun id => ?_⟩
    rw [hmem id, loadAnswers_ok_iff hs, loadAnswers_ok_iff hquiet]
    by_cases hid : id = job.jobId
    · constructor
      · exact fun h => .inr ⟨hid, h⟩
      · rintro (h | h)
        · have hsome := Ns.dirAt_of_loads h
          rw [hid, hnew] at hsome
          cases hsome
        · exact h.2
    · rw [show Ns.loads hash u.restart id = Ns.loads hash s id from
        congrArg Except.isOk (hothers id hid)]
      exact ⟨.inl, fun h => h.resolve_right fun h => hid h.1⟩
  · obtain ⟨t, ht, htq, state, hstate⟩ := Ns.saveSnapshot_alone hquiet hdata hbudget hcreates.own
    exact ⟨t, ht, state, (loadAnswers_iff htq).mpr hstate.symm⟩

/-- Before there is anything. -/
def newNamespace : Namespace := ⟨none, false, 0, 0, []⟩

theorem newNamespace_quiet : newNamespace.Quiet := ⟨rfl, rfl, fun h => by cases h⟩

/-- A save of a new job gets to where its directory is empty. -/
theorem reaches_empty {job : Job} (hs : s.Quiet) (hnew : s.dirAt job.jobId = none)
    (hbudget : job.budget.maxAttemptsPerItem < 10 ^ 4300) :
    ∃ u, Reaches works (Ns.saveSnapshot hash job.jobId (canonicalGenesis job)) s u ∧
      u.dirAt job.jobId = some emptyDir := by
  obtain ⟨snapshot, hdata, -⟩ := decodeSnapshot_encodeSnapshot (canonicalGenesis job)
  have hcandidate : validateSnapshotCandidate job.jobId (canonicalGenesis job) =
      .ok (canonicalGenesis job) := by
    unfold validateSnapshotCandidate
    rw [rebuildSnapshot_self]
    exact if_pos rfl
  have hprint : requirePrintable (canonicalGenesis job) = .ok () :=
    requirePrintable_iff.mpr hbudget
  have hlocked : job.jobId ∉ s.locked := by
    rw [hs.locked]
    exact List.not_mem_nil
  have hdecode : Alone works (Ns.decodeJob hash job.jobId) (s.lock job.jobId)
      (.ok (undecoded Ns.absentState)) (s.lock job.jobId).touch := by
    have h := @Ns.decodeJob_alone hash (s.lock job.jobId) job.jobId hs.bound
    rwa [show Ns.decodeAt hash (s.lock job.jobId) job.jobId = .ok (undecoded Ns.absentState) by
      unfold Ns.decodeAt
      rw [show (s.lock job.jobId).dirAt job.jobId = none from hnew]] at h
  refine ⟨Ns.opened (s.lock job.jobId).touch.enter job.jobId, ?_, ?_⟩
  · unfold Ns.saveSnapshot Ns.liftRaised
    rw [hcandidate]
    refine Alone.lift.bind_reaches (.act (decide_eq_true hlocked) (Reaches.andThen
      (hdecode.bind_reaches ?_)))
    rw [validateSnapshotUpdate_begun rfl (fun old ho => by cases ho), hprint, hdata]
    refine Alone.lift.bind_reaches (Alone.lift.bind_reaches (Alone.lift.bind_reaches ?_))
    exact .act rfl (Reaches.andThen (Reaches.andThen (Reaches.bind
      Ns.openOrCreateJob_alone.reaches)))
  · rw [Ns.dirAt_opened, if_pos rfl]
    show some ((s.dirAt job.jobId).getD emptyDir) = _
    rw [hnew]
    rfl

theorem sampleJob_budget : sampleJob.budget.maxAttemptsPerItem < 10 ^ 4300 :=
  lt_of_lt_of_le (by decide : sampleJob.budget.maxAttemptsPerItem < 10 ^ 1)
    (pow_le_pow_right₀ (by decide) (by decide))

/-- The first job of a store, killed just after its directory was made: a new
process cannot list the jobs. -/
theorem listing_refused_after_kill :
    ∃ u, Reaches works (Ns.saveSnapshot sampleSha sampleJob.jobId (canonicalGenesis sampleJob))
        newNamespace u ∧
      ListAnswers sampleSha u.restart (.error (.raised corrupted)) := by
  obtain ⟨u, hu, hempty⟩ := @reaches_empty sampleSha _ _ newNamespace_quiet rfl sampleJob_budget
  refine ⟨u, hu, _, Ns.list_alone_empty (Namespace.quiet_restart u) (fun id d hd => ?_) hempty⟩
  obtain ⟨snapshot, hdata, -⟩ := decodeSnapshot_encodeSnapshot (canonicalGenesis sampleJob)
  have hcreates := Ns.saveSnapshot_within newNamespace_quiet.bound rfl hdata u hu
  by_cases hid : id = sampleJob.jobId
  · subst hid
    exact .inr (Option.some.inj (hd.symm.trans hempty))
  · have hnone : u.dirAt id = none := hcreates.others id hid
    rw [show u.restart.dirAt id = u.dirAt id from rfl, hnone] at hd
    cases hd

/-- A store with one job. -/
def oneJob : Namespace :=
  ⟨some ⟨[sampleJob.jobId], List.nodup_singleton _, fun _ => createdDir⟩, false, 0, 0, []⟩

theorem oneJob_quiet : oneJob.Quiet := ⟨rfl, rfl, fun h => by cases h⟩

theorem oneJob_dirAt (hd : oneJob.dirAt id = some d) : id = sampleJob.jobId ∧ d = createdDir := by
  have hfound : (if id ∈ [sampleJob.jobId] then some createdDir else none) = some d := hd
  by_cases hid : id ∈ [sampleJob.jobId]
  · rw [if_pos hid] at hfound
    exact ⟨List.mem_singleton.mp hid, (Option.some.inj hfound).symm⟩
  · rw [if_neg hid] at hfound
    cases hfound

theorem oneJob_atRest (id : JobId) (d : Dir) (hd : oneJob.dirAt id = some d) :
    AtRest createdSha id d := by
  obtain ⟨rfl, rfl⟩ := oneJob_dirAt hd
  exact ⟨_, _, createdDir_holds.read, decodePersisted_journal createdDir_holds.persisted, rfl⟩

/-- Another job, that is new. -/
def secondJob : Job := { sampleJob with jobId := Id.lit .job "job-2" }

/-- Beside a job that loads, another is killed where its directory is empty, and
when its snapshot has been committed. -/
theorem creation_interrupted_second :
    (∃ u, u.dirAt secondJob.jobId = some emptyDir ∧ Interrupted createdSha oneJob u secondJob) ∧
    ∃ u, (∃ state, LoadAnswers createdSha u.restart secondJob.jobId (.ok state)) ∧
      Interrupted createdSha oneJob u secondJob := by
  have hnew : oneJob.dirAt secondJob.jobId = none := by decide
  obtain ⟨u, hu, hempty⟩ := @reaches_empty createdSha _ _ oneJob_quiet hnew sampleJob_budget
  obtain ⟨snapshot, hdata, -⟩ := decodeSnapshot_encodeSnapshot (canonicalGenesis secondJob)
  obtain ⟨t, ht, -, state, hstate⟩ := @Ns.saveSnapshot_alone createdSha _ _ _ oneJob_quiet hdata
    sampleJob_budget (.inl hnew)
  refine ⟨⟨u, hempty, creation_interrupted oneJob_quiet oneJob_atRest hnew hu⟩, t, ⟨state, ?_⟩,
    creation_interrupted oneJob_quiet oneJob_atRest hnew ht.reaches⟩
  rw [loadAnswers_iff (Namespace.quiet_restart t), ← hstate]
  unfold Ns.jobAt
  rw [Ns.decodeAt_congr (show t.restart.dirAt secondJob.jobId = t.dirAt secondJob.jobId from rfl)]

end Interrupted

end SpecStyle
