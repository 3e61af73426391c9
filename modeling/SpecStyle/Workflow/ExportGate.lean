/-
SpecStyle/Workflow/ExportGate.lean

What an accepted event log says about the verification that precedes an
export.

The invariant is about a log without an `EXPORT_STARTED` (`BeforeExport`): in
a decision status the last event is the verifier's decision, and in any other
live status no decision has been taken at all, since a decision leads nowhere
but to the export, to cancellation or to failure.  An export therefore either
follows its decision immediately or starts from `RECOVERABLE_ERROR`, whose
row of the transition table lists `EXPORTING` whatever the interrupted status
was.
-/
import SpecStyle.Workflow.StateMachine

namespace SpecStyle

open PyLib

/-! ### Decisions and the first export -/

/-- The decision statuses. -/
def decisionStatuses : List JobStatus := [.approved, .manualReview, .rejected]

/-- The event is a verifier's decision. -/
def Event.Decides (e : Event) : Prop :=
  e.eventType = .verifierFinished ∧ e.toState ∈ decisionStatuses

/-- The event starts new work after a decision. -/
def Event.Reworks (e : Event) : Prop :=
  e.eventType = .attemptStarted ∨ e.eventType = .repairStep

/-- The events before the first `EXPORT_STARTED`. -/
def beforeExport (log : List Event) : List Event :=
  log.takeWhile fun e => e.eventType ≠ .exportStarted

/-- The first `EXPORT_STARTED`. -/
def firstExport (log : List Event) : Option Event :=
  log.find? fun e => e.eventType = .exportStarted

/-- Before the first export there is a decision, and between the last one and
the export no new work. -/
def ExportVerified (log : List Event) : Prop :=
  ∃ pre d mid, beforeExport log = pre ++ d :: mid ∧ d.Decides ∧
    ∀ e ∈ mid, ¬ e.Decides ∧ ¬ e.Reworks

/-- The job is exporting, has completed, or was exporting at some time. -/
def ReachesExport (log : List Event) (status : JobStatus) : Prop :=
  status = .exporting ∨ status = .completed ∨ ∃ e ∈ log, e.toState = .exporting

/-! ### The invariant before an export -/

/-- What a log without an export says in a status. -/
structure BeforeExport (log : List Event) (status : JobStatus) : Prop where
  notExported : status ≠ .exporting ∧ status ≠ .completed
  decided : status ∈ decisionStatuses → ∃ pre d, log = pre ++ [d] ∧ d.Decides
  undecided : status ∉ decisionStatuses → status ∉ terminalStatuses → ∀ e ∈ log, ¬ e.Decides

/-- Only `EXPORT_STARTED` leads to the export. -/
theorem eventToState_exporting {k : EventType} (h : .exporting ∈ eventToState k) :
    k = .exportStarted := by
  revert k
  decide

/-- Only the verifier decides. -/
theorem eventToState_decision {k : EventType} {t : JobStatus} (h : t ∈ eventToState k)
    (ht : t ∈ decisionStatuses) : k = .verifierFinished := by
  revert k t
  decide

/-- The export is left for good or for the detour, and only it completes. -/
theorem transitions_completed {f : JobStatus} (h : .completed ∈ transitions f) :
    f = .exporting := by
  revert f
  decide

/-- A decision leads to the export or to the end. -/
theorem transitions_decision {f t : JobStatus} (h : t ∈ transitions f)
    (hf : f ∈ decisionStatuses) : t = .exporting ∨ t ∈ terminalStatuses := by
  revert f t
  decide

/-- The export starts from a decision or from the detour. -/
theorem transitions_exporting {f : JobStatus} (h : .exporting ∈ transitions f) :
    f ∈ decisionStatuses ∨ f = .recoverableError := by
  revert f
  decide

/-- An event other than `EXPORT_STARTED` keeps the invariant. -/
theorem BeforeExport.step {log : List Event} {s s' : JobState} {e : Event}
    (hb : BeforeExport log s.job.status) (he : e.eventType ≠ .exportStarted)
    (h : s.step e = some s') : BeforeExport (log ++ [e]) s'.job.status := by
  obtain ⟨ha, rfl⟩ := JobState.step_cases h
  obtain ⟨hfrom, hkind⟩ := ha.legal
  change BeforeExport (log ++ [e]) e.toState
  have hne : e.toState ≠ .exporting := fun ht => by
    rw [ht] at hkind
    exact he (eventToState_exporting hkind)
  refine ⟨⟨hne, fun ht => ?_⟩, fun hd => ?_, fun hd hterm => ?_⟩
  · rw [ht] at hfrom
    exact hb.notExported.1 (transitions_completed hfrom)
  · exact ⟨log, e, rfl, eventToState_decision hkind hd, hd⟩
  · -- the status left was live and undecided too
    have hs : s.job.status ∉ decisionStatuses := fun hs =>
      (transitions_decision hfrom hs).elim hne hterm
    have ht : s.job.status ∉ terminalStatuses := fun ht => by
      rw [transitions_terminal ht] at hfrom
      cases hfrom
    intro x hx
    rcases List.mem_append.mp hx with hx | hx
    · exact hb.undecided hs ht x hx
    · rw [List.mem_singleton.mp hx]
      exact fun hx => hd hx.2

/-- The invariant holds after every accepted log without an export. -/
theorem beforeExport_run {s s' : JobState} (hs : s.job.status = .created) {log : List Event}
    (h : run JobState.step s log = some s') (hx : ∀ e ∈ log, e.eventType ≠ .exportStarted) :
    BeforeExport log s'.job.status := by
  have start : BeforeExport [] s.job.status := by
    rw [hs]
    exact ⟨by decide, fun hd => absurd hd (by decide), fun _ _ e he => by cases he⟩
  refine run_invariant
    (P := fun log s' => (∀ e ∈ log, e.eventType ≠ .exportStarted) → BeforeExport log s'.job.status)
    (fun _ => start) (fun log t e t' hp he hl => ?_) h hx
  exact (hp fun x hx => hl x (List.mem_append_left _ hx)).step (hl e (by simp)) he

/-! ### The first export -/

theorem beforeExport_split {log : List Event} {x : Event} (h : firstExport log = some x) :
    x.eventType = .exportStarted ∧
      (∀ e ∈ beforeExport log, e.eventType ≠ .exportStarted) ∧
      ∃ post, log = beforeExport log ++ x :: post := by
  unfold firstExport at h
  unfold beforeExport
  induction log with
  | nil => cases h
  | cons a log ih =>
    by_cases ha : a.eventType = .exportStarted
    · rw [List.find?_cons_of_pos (by simpa using ha)] at h
      cases h
      rw [List.takeWhile_cons_of_neg (by simpa using ha)]
      exact ⟨ha, by simp, log, rfl⟩
    · rw [List.find?_cons_of_neg (by simpa using ha)] at h
      obtain ⟨hx, hpre, post, hpost⟩ := ih h
      rw [List.takeWhile_cons_of_pos (by simpa using ha)]
      refine ⟨hx, ?_, post, ?_⟩
      · intro e he
        rcases List.mem_cons.mp he with rfl | he
        · exact ha
        · exact hpre e he
      · conv_lhs => rw [hpost]
        rfl

/-- A job that reached the export has a first `EXPORT_STARTED`. -/
theorem exists_firstExport {s s' : JobState} (hs : s.job.status = .created) {log : List Event}
    (h : run JobState.step s log = some s') (hr : ReachesExport log s'.job.status) :
    ∃ x, firstExport log = some x := by
  rcases hf : firstExport log with - | x
  · exfalso
    have hno : ∀ e ∈ log, e.eventType ≠ .exportStarted := by
      intro e he
      simpa using List.find?_eq_none.mp hf e he
    have hb := beforeExport_run hs h hno
    rcases hr with hr | hr | ⟨e, he, hto⟩
    · exact hb.notExported.1 hr
    · exact hb.notExported.2 hr
    · obtain ⟨pre, post, rfl⟩ := List.append_of_mem he
      obtain ⟨m, -, hm⟩ := run_split h
      obtain ⟨m', hm', -⟩ := Option.bind_eq_some_iff.mp hm
      obtain ⟨ha, -⟩ := JobState.step_cases hm'
      have hk := ha.legal.2
      rw [hto] at hk
      exact hno e he (eventToState_exporting hk)
  · exact ⟨x, rfl⟩

/-- **No job exports unverified work, the detour apart.**  A log accepted from
a created job that reaches the export has a first `EXPORT_STARTED`, and the
export is verified exactly when that event does not leave
`RECOVERABLE_ERROR`. -/
theorem exportVerified_iff {snapshot : JobSnapshot} {log : List Event} {s : JobState}
    (hs : snapshot.job.status = .created) (h : replayEvents snapshot log = .ok s)
    (hr : ReachesExport log s.job.status) :
    ∃ x, firstExport log = some x ∧
      (x.fromState ∈ decisionStatuses ∨ x.fromState = .recoverableError) ∧
      (ExportVerified log ↔ x.fromState ≠ .recoverableError) := by
  have hrun := replayEvents_ok.mp h
  obtain ⟨x, hx⟩ := exists_firstExport (s := snapshot.state) hs hrun hr
  obtain ⟨hkind, hno, post, hlog⟩ := beforeExport_split hx
  rw [hlog] at hrun
  obtain ⟨m, hm, hrest⟩ := run_split hrun
  obtain ⟨m', hm', -⟩ := Option.bind_eq_some_iff.mp hrest
  obtain ⟨ha, -⟩ := JobState.step_cases hm'
  have hb := beforeExport_run (s := snapshot.state) hs hm hno
  have hto : x.toState = .exporting := by
    have := ha.legal.2
    rw [hkind] at this
    simpa [eventToState] using this
  have hfrom := ha.legal.1
  rw [hto] at hfrom
  have hcases := transitions_exporting hfrom
  rw [← ha.source] at hcases
  refine ⟨x, hx, hcases, ?_, ?_⟩
  · rintro ⟨pre, d, mid, hsplit, hd, -⟩ hrec
    -- after a decision the status cannot be the detour
    rw [ha.source] at hrec
    refine hb.undecided (by rw [hrec]; decide) (by rw [hrec]; decide) d ?_ hd
    rw [hsplit]
    simp
  · intro hrec
    have hdec := hcases.resolve_right hrec
    rw [ha.source] at hdec
    obtain ⟨pre, d, hpre, hd⟩ := hb.decided hdec
    exact ⟨pre, d, [], hpre, hd, by simp⟩

/-- An attempt that fails recoverably, and an export. -/
def detourLog : List Event := sampleStart ++ [
  sampleEvent 3 .generating .recoverableError (.recoverable ⟨py "out of memory", by decide⟩),
  sampleEvent 4 .recoverableError .exporting (.exportStarted ⟨py "bundle-1", by decide⟩)]

/-- The detour takes a job from its first attempt straight to the export. -/
theorem detourLog_unverified :
    (∃ s, replayEvents sampleGenesis detourLog = .ok s ∧ s.job.status = .exporting) ∧
      sampleGenesis.job.status = .created ∧ ¬ ExportVerified detourLog := by
  refine ⟨?_, rfl, ?_⟩
  · have h : (run JobState.step sampleGenesis.state detourLog).map (·.job.status)
        = some .exporting := by decide
    obtain ⟨s, hs, hx⟩ := Option.map_eq_some_iff.mp h
    exact ⟨s, replayEvents_ok.mpr hs, hx⟩
  · rintro ⟨pre, d, mid, hsplit, hd, -⟩
    have hall : ∀ e ∈ beforeExport detourLog, e.toState ∉ decisionStatuses := by decide
    exact hall d (by rw [hsplit]; simp) hd.2

/-- An attempt that the verifier approves, and an export. -/
def approvedLog : List Event := sampleStart ++ [
  sampleEvent 3 .generating .verifying
    (.attemptFinished 0 0 (Id.lit .attempt "attempt-1") (Id.lit .artifact "artifact-1") sampleHash),
  sampleEvent 4 .verifying .approved
    (.verifierFinished 0 0 (Id.lit .artifact "artifact-1") .approved .allRequiredPass none),
  sampleEvent 5 .approved .exporting (.exportStarted ⟨py "bundle-1", by decide⟩)]

theorem exportVerified_iff_approvedLog :
    ∃ x, firstExport approvedLog = some x ∧
      (x.fromState ∈ decisionStatuses ∨ x.fromState = .recoverableError) ∧
      (ExportVerified approvedLog ↔ x.fromState ≠ .recoverableError) := by
  have h : (run JobState.step sampleGenesis.state approvedLog).map (·.job.status)
      = some .exporting := by decide
  obtain ⟨s, hs, hx⟩ := Option.map_eq_some_iff.mp h
  exact exportVerified_iff rfl (replayEvents_ok.mpr hs) (.inl hx)

end SpecStyle
