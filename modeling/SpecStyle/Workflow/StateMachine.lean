/-
SpecStyle/Workflow/StateMachine.lean

The job state machine and event replay.

`replayEvents` is the loop of the source: a cursor of status, sequence,
attempts, bundles and time, moved by one event at a time, and a `Job` and a
`JobState` constructed at the end.  `JobState.step` says once what an event
does to a state.  The two agree (`replayEvents_eq`): replay is the run of
`JobState.step`, and the constructors at its end never fail, because every
accepted event keeps the invariants that `JobState` carries.
-/
import SpecStyle.Lib.Run
import SpecStyle.Workflow.JobModels

namespace SpecStyle

open PyLib

/-! ### Transitions -/

/-- `TRANSITIONS` -/
def transitions : JobStatus → List JobStatus
  | .created => [.specValidated, .cancelled, .jobFailed]
  | .specValidated => [.specCompiled, .cancelled, .jobFailed]
  | .specCompiled => [.generating, .cancelled, .jobFailed]
  | .generating => [.verifying, .recoverableError, .cancelled, .jobFailed]
  | .verifying =>
    [.approved, .manualReview, .rejected, .repairSelecting, .recoverableError, .cancelled,
      .jobFailed]
  | .approved => [.exporting, .cancelled, .jobFailed]
  | .manualReview => [.exporting, .cancelled, .jobFailed]
  | .rejected => [.exporting, .cancelled, .jobFailed]
  | .repairSelecting => [.repairing, .rejected, .recoverableError, .cancelled, .jobFailed]
  | .repairing => [.verifying, .recoverableError, .cancelled, .jobFailed]
  | .exporting => [.completed, .recoverableError, .cancelled, .jobFailed]
  | .recoverableError =>
    [.generating, .verifying, .repairSelecting, .repairing, .exporting, .cancelled, .jobFailed]
  | .completed => []
  | .jobFailed => []
  | .cancelled => []

/-- `_EVENT_TO_STATE` -/
def eventToState : EventType → List JobStatus
  | .jobStarted => [.specValidated]
  | .specCompiled => [.specCompiled]
  | .attemptStarted => [.generating]
  | .attemptFinished => [.verifying]
  | .verifierFinished => [.approved, .manualReview, .rejected, .repairSelecting]
  | .repairStep => [.repairing]
  | .exportStarted => [.exporting]
  | .exportPublished => [.completed]
  | .recoverable => [.recoverableError]
  | .cancelRequested => [.cancelled]
  | .fatal => [.jobFailed]

/-- `validate_transition` -/
def validateTransition (fromState toState : JobStatus) (eventType : EventType) :
    Except Raised Unit :=
  if toState ∉ transitions fromState then .error (.domain "invalid job transition")
  else if toState ∉ eventToState eventType then .error (.domain "invalid job transition")
  else .ok ()

/-- No transition leaves a terminal status. -/
theorem transitions_terminal {s : JobStatus} (h : s ∈ terminalStatuses) : transitions s = [] := by
  revert s
  decide

/-! ### Replay -/

/-- `_check_bound_payload` -/
def checkBoundPayload (job : Job) (event : Event) : Except Raised Unit :=
  match event.payload with
  | .jobStarted compiledSpecHash cohortProfiles budget =>
    if compiledSpecHash ≠ job.compiledSpecHash ∨ cohortProfiles ≠ job.cohortProfiles ∨
        budget ≠ job.budget then
      .error (.domain "invalid job event")
    else .ok ()
  | .specCompiled compiledSpecHash =>
    if compiledSpecHash ≠ job.compiledSpecHash then .error (.domain "invalid job event")
    else .ok ()
  | _ => .ok ()

/-- `_check_idempotent`, with the two lists it appends to. -/
def checkIdempotent (event : Event) (attempts : List AttemptId) (bundles : List BundleName) :
    Except Raised (List AttemptId × List BundleName) :=
  match event.payload with
  | .attemptStarted _ _ attemptId _ =>
    if attemptId ∈ attempts then .error (.domain "invalid job event")
    else .ok (attempts ++ [attemptId], bundles)
  | .repairStep _ _ _ _ _ _ childAttemptId =>
    if childAttemptId ∈ attempts then .error (.domain "invalid job event")
    else .ok (attempts ++ [childAttemptId], bundles)
  | .exportPublished bundleName _ _ _ =>
    if bundleName ∈ bundles then .error (.domain "invalid job event")
    else .ok (attempts, bundles ++ [bundleName])
  | _ => .ok (attempts, bundles)

/-- The local variables of the replay loop. -/
structure Cursor where
  status : JobStatus
  last : Int
  attempts : List AttemptId
  bundles : List BundleName
  updatedAt : Timestamp

/-- The body of the replay loop. -/
def replayStep (job : Job) (c : Cursor) (event : Event) : Except Raised Cursor :=
  if event.jobId ≠ job.jobId ∨ event.sequence ≠ c.last + 1 ∨ event.fromState ≠ c.status ∨
      event.timestamp.value < c.updatedAt.value then
    .error (.domain "invalid job event")
  else do
    checkBoundPayload job event
    validateTransition c.status event.toState event.eventType
    let (attempts, bundles) ← checkIdempotent event c.attempts c.bundles
    return {
      status := event.toState, last := event.sequence, attempts, bundles
      updatedAt := event.timestamp }

/-- The job and the state constructed after the loop. -/
def replayEnd (job : Job) (c : Cursor) : Except Raised JobState := do
  let newJob ← Job.new job.jobId job.compiledSpecHash job.cohortProfiles.texts job.budget c.status
    job.createdAt.value c.updatedAt.value
  JobState.new newJob c.last c.attempts c.bundles

/-- `replay_events` -/
def replayEvents (snapshot : JobSnapshot) (events : List Event) : Except Raised JobState :=
  let start : Cursor := {
    status := snapshot.job.status, last := snapshot.lastSequence
    attempts := snapshot.attemptIds, bundles := snapshot.bundleNames
    updatedAt := snapshot.job.updatedAt }
  match events.foldlM (replayStep snapshot.job) start >>= replayEnd snapshot.job with
  | .ok state => .ok state
  | .error _ => .error (.domain "invalid job event")

/-! ### One step -/

/-- The attempt an event introduces. -/
def Payload.newAttempt : Payload → Option AttemptId
  | .attemptStarted _ _ attemptId _ => some attemptId
  | .repairStep _ _ _ _ _ _ childAttemptId => some childAttemptId
  | _ => none

/-- The bundle an event introduces. -/
def Payload.newBundle : Payload → Option BundleName
  | .exportPublished bundleName _ _ _ => some bundleName
  | _ => none

/-- The payload repeats the material the job was created with. -/
def Payload.BoundTo (job : Job) : Payload → Prop
  | .jobStarted compiledSpecHash cohortProfiles budget =>
    compiledSpecHash = job.compiledSpecHash ∧ cohortProfiles = job.cohortProfiles ∧
      budget = job.budget
  | .specCompiled compiledSpecHash => compiledSpecHash = job.compiledSpecHash
  | _ => True

instance (job : Job) (p : Payload) : Decidable (p.BoundTo job) := by
  cases p <;> unfold Payload.BoundTo <;> infer_instance

/-- The move is in both tables. -/
def Legal (fromState toState : JobStatus) (eventType : EventType) : Prop :=
  toState ∈ transitions fromState ∧ toState ∈ eventToState eventType

instance (f t : JobStatus) (k : EventType) : Decidable (Legal f t k) := by
  unfold Legal; infer_instance

/-- The state accepts the event. -/
structure JobState.Accepts (s : JobState) (e : Event) : Prop where
  job : e.jobId = s.job.jobId
  next : e.sequence = s.lastSequence + 1
  source : e.fromState = s.job.status
  later : s.job.updatedAt.value ≤ e.timestamp.value
  bound : e.payload.BoundTo s.job
  legal : Legal s.job.status e.toState e.eventType
  freshAttempt : ∀ a ∈ e.payload.newAttempt, a ∉ s.attemptIds
  freshBundle : ∀ b ∈ e.payload.newBundle, b ∉ s.bundleNames

theorem JobState.accepts_iff (s : JobState) (e : Event) :
    s.Accepts e ↔
      (e.jobId = s.job.jobId ∧ e.sequence = s.lastSequence + 1 ∧ e.fromState = s.job.status ∧
        s.job.updatedAt.value ≤ e.timestamp.value) ∧
      e.payload.BoundTo s.job ∧ Legal s.job.status e.toState e.eventType ∧
      (∀ a ∈ e.payload.newAttempt, a ∉ s.attemptIds) ∧
      ∀ b ∈ e.payload.newBundle, b ∉ s.bundleNames :=
  ⟨fun h => ⟨⟨h.job, h.next, h.source, h.later⟩, h.bound, h.legal, h.freshAttempt,
      h.freshBundle⟩,
    fun ⟨⟨h1, h2, h3, h4⟩, h5, h6, h7, h8⟩ => ⟨h1, h2, h3, h4, h5, h6, h7, h8⟩⟩

instance (s : JobState) (e : Event) : Decidable (s.Accepts e) :=
  decidable_of_iff' _ (s.accepts_iff e)

theorem nodup_concat_option {α : Type} {xs : List α} {o : Option α} (hx : xs.Nodup)
    (ho : ∀ a ∈ o, a ∉ xs) : (xs ++ o.toList).Nodup := by
  cases o with
  | none => simpa using hx
  | some a =>
    have hne : ∀ b ∈ xs, b ≠ a := by
      rintro b hb rfl
      exact ho b rfl hb
    simpa [List.nodup_append, hx] using hne

/-- The state after an accepted event. -/
def JobState.advance (s : JobState) (e : Event) (h : s.Accepts e) : JobState where
  job := {
    s.job with
    status := e.toState
    updatedAt := e.timestamp
    ordered := s.job.ordered.trans h.later }
  lastSequence := e.sequence
  attemptIds := s.attemptIds ++ e.payload.newAttempt.toList
  bundleNames := s.bundleNames ++ e.payload.newBundle.toList
  nonneg := by have := e.positive; omega
  attemptsNodup := nodup_concat_option s.attemptsNodup h.freshAttempt
  bundlesNodup := nodup_concat_option s.bundlesNodup h.freshBundle

/-- What one event does to a state. -/
def JobState.step (s : JobState) (e : Event) : Option JobState :=
  if h : s.Accepts e then some (s.advance e h) else none

theorem JobState.step_cases {s s' : JobState} {e : Event} (h : s.step e = some s') :
    ∃ ha : s.Accepts e, s' = s.advance e ha := by
  unfold JobState.step at h
  split at h
  · next ha => exact ⟨ha, (Option.some.inj h).symm⟩
  · cases h

/-! ### Replay is the run of the step -/

/-- The material of a job that no event changes. -/
def Job.material (job : Job) : JobId × Sha256 × CohortProfiles × JobBudget × Timestamp :=
  (job.jobId, job.compiledSpecHash, job.cohortProfiles, job.budget, job.createdAt)

/-- An accepted event keeps the material. -/
theorem JobState.step_material {s s' : JobState} {e : Event} (h : s.step e = some s') :
    s'.job.material = s.job.material := by
  obtain ⟨_, rfl⟩ := step_cases h
  rfl

theorem JobState.run_material {s s' : JobState} {es : List Event}
    (h : run step s es = some s') : s'.job.material = s.job.material :=
  run_preserves (P := fun t => t.job.material = s.job.material)
    (fun _ _ _ hm he => (step_material he).trans hm) rfl h

/-- The cursor of the loop at a state. -/
def JobState.cursor (s : JobState) : Cursor where
  status := s.job.status
  last := s.lastSequence
  attempts := s.attemptIds
  bundles := s.bundleNames
  updatedAt := s.job.updatedAt

theorem checkBoundPayload_ok {job : Job} {e : Event} :
    (∃ u, checkBoundPayload job e = .ok u) ↔ e.payload.BoundTo job := by
  unfold checkBoundPayload
  cases e.payload <;> simp [Payload.BoundTo]

theorem validateTransition_ok {f t : JobStatus} {k : EventType} :
    (∃ u, validateTransition f t k = .ok u) ↔ Legal f t k := by
  unfold validateTransition Legal
  split
  · simp_all
  · split <;> simp_all

theorem checkIdempotent_ok {e : Event} {as : List AttemptId} {bs : List BundleName}
    {r : List AttemptId × List BundleName} :
    checkIdempotent e as bs = .ok r ↔
      ((∀ a ∈ e.payload.newAttempt, a ∉ as) ∧ ∀ b ∈ e.payload.newBundle, b ∉ bs) ∧
        r = (as ++ e.payload.newAttempt.toList, bs ++ e.payload.newBundle.toList) := by
  unfold checkIdempotent
  cases e.payload <;> simp [Payload.newAttempt, Payload.newBundle] <;>
    first
    | exact eq_comm
    | split <;> simp_all [eq_comm]

theorem Job.material_ext {a b : Job} (h : a.material = b.material) :
    a.jobId = b.jobId ∧ a.compiledSpecHash = b.compiledSpecHash ∧
      a.cohortProfiles = b.cohortProfiles ∧ a.budget = b.budget ∧ a.createdAt = b.createdAt := by
  simpa [Job.material] using h

theorem Payload.boundTo_congr {a b : Job} (h : a.material = b.material) (p : Payload) :
    p.BoundTo a ↔ p.BoundTo b := by
  obtain ⟨-, hc, hp, hb, -⟩ := Job.material_ext h
  cases p <;> simp [Payload.BoundTo, hc, hp, hb]

/-- The loop body moves the cursor as the step moves the state. -/
theorem replayStep_ok {job : Job} {s : JobState} (hm : s.job.material = job.material) {e : Event}
    {c : Cursor} :
    replayStep job s.cursor e = .ok c ↔ ∃ h : s.Accepts e, c = (s.advance e h).cursor := by
  obtain ⟨hj, -⟩ := Job.material_ext hm
  have hb := Payload.boundTo_congr hm e.payload
  unfold replayStep
  constructor
  · intro h
    split at h
    · cases h
    next hg =>
    simp only [not_or, not_not, not_lt, JobState.cursor] at hg
    obtain ⟨h1, h2, h3, h4⟩ := hg
    rcases hc : checkBoundPayload job e with r | u
    · rw [hc] at h; cases h
    rcases hv : validateTransition s.cursor.status e.toState e.eventType with r | u'
    · rw [hc, hv] at h; cases h
    rcases hi : checkIdempotent e s.cursor.attempts s.cursor.bundles with r | ab
    · rw [hc, hv, hi] at h; cases h
    rw [hc, hv, hi] at h
    obtain ⟨⟨hfa, hfb⟩, rfl⟩ := checkIdempotent_ok.mp hi
    refine ⟨⟨h1.trans hj.symm, h2, h3, h4, hb.mpr (checkBoundPayload_ok.mp ⟨u, hc⟩),
      validateTransition_ok.mp ⟨u', hv⟩, hfa, hfb⟩, ?_⟩
    exact (Except.ok.inj h).symm
  · rintro ⟨ha, rfl⟩
    obtain ⟨u, hc⟩ := checkBoundPayload_ok.mpr (hb.mp ha.bound)
    obtain ⟨u', hv⟩ := validateTransition_ok.mpr ha.legal
    have hi := checkIdempotent_ok.mpr ⟨⟨ha.freshAttempt, ha.freshBundle⟩, rfl⟩
    have hlt : ¬ e.timestamp.value < s.job.updatedAt.value := not_lt.mpr ha.later
    rw [if_neg (by simp [JobState.cursor, ha.job, hj, ha.next, ha.source, hlt])]
    simp only [JobState.cursor, hc, hv, hi]
    rfl

/-- The loop is the run of the step. -/
theorem foldlM_replayStep {job : Job} (es : List Event) (s : JobState)
    (hm : s.job.material = job.material) :
    (es.foldlM (replayStep job) s.cursor).toOption
      = (run JobState.step s es).map JobState.cursor := by
  induction es generalizing s with
  | nil => rfl
  | cons e es ih =>
    rw [List.foldlM_cons, run_cons]
    rcases hr : replayStep job s.cursor e with r | c
    · -- refused by the loop, so by the step
      have hn : s.step e = none := by
        unfold JobState.step
        rw [dif_neg]
        intro ha
        have := (replayStep_ok hm).mpr ⟨ha, rfl⟩
        rw [hr] at this
        cases this
      rw [hn]
      rfl
    · obtain ⟨ha, rfl⟩ := (replayStep_ok hm).mp hr
      have hs : s.step e = some (s.advance e ha) := dif_pos ha
      rw [hs]
      exact ih _ ((JobState.step_material hs).trans hm)

/-- The constructors at the end of the loop do not fail. -/
theorem replayEnd_cursor {job : Job} {s : JobState} (hm : s.job.material = job.material) :
    replayEnd job s.cursor = .ok s := by
  obtain ⟨h1, h2, h3, h4, h5⟩ := Job.material_ext hm
  have hj := Job.new_self s.job
  unfold replayEnd JobState.cursor
  rw [← h1, ← h2, ← h3, ← h4, ← h5, hj]
  have hn : ¬ s.lastSequence < 0 := by have := s.nonneg; omega
  exact (dif_neg hn).trans (dif_pos ⟨s.attemptsNodup, s.bundlesNodup⟩)

/-- **Replay is the run of the step** from the state the snapshot holds. -/
theorem replayEvents_eq (snapshot : JobSnapshot) (events : List Event) :
    replayEvents snapshot events =
      match run JobState.step snapshot.state events with
      | some s => .ok s
      | none => .error (.domain "invalid job event") := by
  have hf := @foldlM_replayStep snapshot.job events snapshot.state rfl
  unfold replayEvents
  change (match events.foldlM (replayStep snapshot.job) snapshot.state.cursor >>=
      replayEnd snapshot.job with
    | .ok state => Except.ok state
    | .error _ => Except.error (Raised.domain "invalid job event")) = _
  rcases hl : events.foldlM (replayStep snapshot.job) snapshot.state.cursor with r | c
  · rw [hl] at hf
    rcases hr : run JobState.step snapshot.state events with - | s
    · rfl
    · rw [hr] at hf
      cases hf
  · rw [hl] at hf
    rcases hr : run JobState.step snapshot.state events with - | s
    · rw [hr] at hf
      cases hf
    · rw [hr] at hf
      obtain rfl : c = s.cursor := Option.some.inj hf
      have he : replayEnd snapshot.job s.cursor = .ok s :=
        replayEnd_cursor (JobState.run_material hr)
      change (match replayEnd snapshot.job s.cursor with
        | .ok state => Except.ok state
        | .error _ => Except.error (Raised.domain "invalid job event")) = _
      rw [he]

theorem replayEvents_ok {snapshot : JobSnapshot} {events : List Event} {s : JobState} :
    replayEvents snapshot events = .ok s ↔ run JobState.step snapshot.state events = some s := by
  rw [replayEvents_eq]
  cases run JobState.step snapshot.state events <;> simp

end SpecStyle
