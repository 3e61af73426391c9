/-
SpecStyle/Workflow/JobJournal.lean

What a job directory is for: a journal.

A `Journal` is a created job, the events accepted since, and a saved state
somewhere along them.  Its fields carry the proof that the events replay, so
an unreadable journal cannot be built.  The two validators of the store speak
of journals: `validatedSnapshot` accepts a snapshot and events exactly if they
are those of a journal (`validatedSnapshot_iff`), and `validateEvent` accepts
an event exactly if the journal can be extended by it (`validateEvent_iff`).
-/
import SpecStyle.Lib.Checks
import SpecStyle.Workflow.JobStore

namespace SpecStyle

open PyLib

/-! ### Journals -/

/-- The events of one job, split at the saved state. -/
structure Journal where
  genesis : JobSnapshot
  created : genesis = canonicalGenesis genesis.job
  earlier : List Event
  saved : JobState
  later : List Event
  state : JobState
  replayedEarlier : run JobState.step genesis.state earlier = some saved
  replayedLater : run JobState.step saved later = some state

namespace Journal

def events (J : Journal) : List Event := J.earlier ++ J.later

/-- The state is the replay of all events from genesis. -/
theorem replayed (J : Journal) : run JobState.step J.genesis.state J.events = some J.state := by
  rw [events, run_append, J.replayedEarlier]
  exact J.replayedLater

theorem material_saved (J : Journal) : J.saved.job.material = J.genesis.job.material :=
  JobState.run_material J.replayedEarlier

theorem material_state (J : Journal) : J.state.job.material = J.genesis.job.material :=
  JobState.run_material J.replayed

/-- The job whose journal this is. -/
def jobId (J : Journal) : JobId := J.genesis.job.jobId

theorem state_jobId (J : Journal) : J.state.job.jobId = J.jobId :=
  (Job.material_ext J.material_state).1

theorem saved_jobId (J : Journal) : J.saved.job.jobId = J.jobId :=
  (Job.material_ext J.material_saved).1

/-- A journal that may come from another by appending events and saving. -/
structure Extends (J K : Journal) : Prop where
  genesis : K.genesis = J.genesis
  events : ∃ es, K.events = J.events ++ es
  saved : J.saved.lastSequence ≤ K.saved.lastSequence

theorem Extends.refl (J : Journal) : J.Extends J := ⟨rfl, ⟨[], by simp⟩, le_refl _⟩

theorem Extends.trans {J K L : Journal} (h : J.Extends K) (h' : K.Extends L) : J.Extends L := by
  obtain ⟨es, hes⟩ := h.events
  obtain ⟨fs, hfs⟩ := h'.events
  exact ⟨h'.genesis.trans h.genesis, ⟨es ++ fs, by rw [hfs, hes, List.append_assoc]⟩,
    h.saved.trans h'.saved⟩

/-- The journal with an event more. -/
def append (J : Journal) (e : Event) (s : JobState) (h : J.state.step e = some s) : Journal where
  genesis := J.genesis
  created := J.created
  earlier := J.earlier
  saved := J.saved
  later := J.later ++ [e]
  state := s
  replayedEarlier := J.replayedEarlier
  replayedLater := by
    rw [run_concat, J.replayedLater]
    exact h

theorem append_events (J : Journal) {e : Event} {s : JobState} (h : J.state.step e = some s) :
    (J.append e s h).events = J.events ++ [e] := by
  simp [append, events]

theorem extends_append (J : Journal) {e : Event} {s : JobState} (h : J.state.step e = some s) :
    J.Extends (J.append e s h) :=
  ⟨rfl, ⟨[e], J.append_events h⟩, le_refl _⟩

end Journal

/-! ### Sequence numbers -/

/-- Replay counts the events. -/
theorem run_lastSequence {s s' : JobState} {es : List Event} (h : run JobState.step s es = some s') :
    s'.lastSequence = s.lastSequence + es.length := by
  refine run_invariant (P := fun log t => t.lastSequence = s.lastSequence + log.length) (by simp)
    (fun log m e t hm he => ?_) h
  obtain ⟨ha, rfl⟩ := JobState.step_cases he
  change e.sequence = _
  rw [ha.next, hm, List.length_append, List.length_singleton]
  push_cast
  exact add_assoc _ _ _

theorem canonicalGenesis_congr {a b : Job} (h : a.material = b.material) :
    canonicalGenesis a = canonicalGenesis b := by
  obtain ⟨h1, h2, h3, h4, h5⟩ := Job.material_ext h
  cases a
  cases b
  cases h1
  cases h2
  cases h3
  cases h4
  cases h5
  rfl

@[simp] theorem canonicalGenesis_material (job : Job) :
    (canonicalGenesis job).job.material = job.material := rfl

@[simp] theorem canonicalGenesis_genesis (job : Job) :
    canonicalGenesis (canonicalGenesis job).job = canonicalGenesis job := rfl

namespace Journal

theorem saved_lastSequence (J : Journal) : J.saved.lastSequence = J.earlier.length := by
  rw [run_lastSequence J.replayedEarlier, J.created]
  exact zero_add _

theorem genesis_eq (J : Journal) : J.genesis = canonicalGenesis J.saved.job := by
  rw [J.created]
  exact canonicalGenesis_congr J.material_saved.symm

/-- The genesis, from the state. -/
theorem genesis_state (J : Journal) : canonicalGenesis J.state.job = J.genesis := by
  rw [J.created]
  exact canonicalGenesis_congr J.material_state

end Journal

/-! ### The validators -/

/-- **Snapshots are validated against a journal**: a snapshot and a list of
events are accepted exactly if they are those of a journal of the job. -/
theorem validatedSnapshot_iff {jobId : JobId} {snapshot : JobSnapshot} {events : List Event}
    {state : JobState} :
    validatedSnapshot jobId snapshot events = .ok state ↔
      ∃ J : Journal, J.jobId = jobId ∧ J.saved.snapshot = snapshot ∧ J.events = events ∧
        J.state = state := by
  constructor
  · intro h
    unfold validatedSnapshot at h
    split at h
    · cases h
    next hc =>
    rcases hr : replayEvents (canonicalGenesis snapshot.job)
        (events.take snapshot.lastSequence.toNat) with r | saved
    · rw [hr] at h
      cases h
    rw [hr] at h
    change (if snapshot ≠ saved.snapshot then _ else _) = _ at h
    split at h
    · cases h
    next hs =>
    refine ⟨⟨canonicalGenesis snapshot.job, rfl, _, saved, _, state, replayEvents_ok.mp hr,
      replayEvents_ok.mp h⟩, ?_, (not_not.mp hs).symm, List.take_append_drop _ _, rfl⟩
    exact not_not.mp fun hne => hc (.inl hne)
  · rintro ⟨J, rfl, rfl, rfl, rfl⟩
    have hlast : J.saved.snapshot.lastSequence = J.earlier.length := J.saved_lastSequence
    have hle : 0 ≤ J.saved.snapshot.lastSequence ∧
        J.saved.snapshot.lastSequence ≤ J.events.length := by
      rw [hlast, Journal.events, List.length_append]
      omega
    have hgen : canonicalGenesis J.saved.snapshot.job = J.genesis := J.genesis_eq.symm
    have htake : J.events.take J.saved.snapshot.lastSequence.toNat = J.earlier := by
      rw [hlast]
      simp [Journal.events]
    have hdrop : J.events.drop J.saved.snapshot.lastSequence.toNat = J.later := by
      rw [hlast]
      simp [Journal.events]
    have hjob : J.saved.snapshot.job.jobId = J.jobId := J.saved_jobId
    unfold validatedSnapshot
    rw [if_neg (not_or.mpr ⟨not_not.mpr hjob, not_not.mpr hle⟩), hgen, htake, hdrop,
      replayEvents_ok.mpr J.replayedEarlier]
    change (if J.saved.snapshot ≠ J.saved.snapshot then _ else _) = _
    rw [if_neg (not_not.mpr rfl)]
    exact replayEvents_ok.mpr J.replayedLater

/-- The event under another number. -/
def Event.numbered (e : Event) (n : Int) (h : 1 ≤ n) : Event :=
  { e with sequence := n, positive := h }

theorem Event.new_numbered (e : Event) {n : Int} (h : 1 ≤ n) :
    Event.new n e.jobId e.eventType e.fromState e.toState e.timestamp.value e.payload
      = .ok (e.numbered n h) :=
  Event.new_self (e.numbered n h)

/-- The number of the next event. -/
def JobState.nextNumber (s : JobState) : Int := s.lastSequence + 1

theorem JobState.nextNumber_pos (s : JobState) : 1 ≤ s.nextNumber := by
  have := s.nonneg
  unfold nextNumber
  omega

/-- The event as the store records it. -/
def Event.finalized (e : Event) (s : JobState) : Event := e.numbered s.nextNumber s.nextNumber_pos

theorem checkDuplicates_ok {p : Payload} {s : JobState}
    (ha : ∀ a ∈ p.newAttempt, a ∉ s.attemptIds) (hb : ∀ b ∈ p.newBundle, b ∉ s.bundleNames) :
    checkDuplicates p s = .ok () := by
  cases p with
  | attemptStarted _ _ attemptId _ => exact if_neg (ha attemptId rfl)
  | repairStep _ _ _ _ _ _ child => exact if_neg (ha child rfl)
  | exportPublished bundleName _ _ _ => exact if_neg (hb bundleName rfl)
  | _ => rfl

/-- A job that accepts an event is not terminal. -/
theorem JobState.Accepts.not_terminal {s : JobState} {e : Event} (h : s.Accepts e) :
    s.job.terminal = false := by
  by_contra ht
  have hm : s.job.status ∈ terminalStatuses := by
    simpa [Job.terminal] using ht
  have hl := h.legal.1
  rw [transitions_terminal hm] at hl
  cases hl

/-- **Events are validated against the state**: an event is accepted exactly if
the state steps by it under its next number. -/
theorem validateEvent_iff {jobId : JobId} {e f : Event} {s : JobState} (hj : s.job.jobId = jobId) :
    validateEvent jobId e s = .ok f ↔ f = e.finalized s ∧ ∃ s', s.step f = some s' := by
  constructor
  · intro h
    unfold validateEvent at h
    split at h
    · cases h
    rcases hd : checkDuplicates e.payload s with r | u
    · rw [hd] at h
      cases h
    rw [hd] at h
    change (if _ then _ else _) = _ at h
    split at h
    · cases h
    rcases hv : validateTransition s.job.status e.toState e.eventType with r | u
    · rw [hv] at h
      cases h
    rw [hv] at h
    change (Event.new s.nextNumber e.jobId e.eventType e.fromState e.toState e.timestamp.value
      e.payload >>= _) = _ at h
    rw [Event.new_numbered e s.nextNumber_pos] at h
    change (Except.ok (e.finalized s) >>= _) = _ at h
    simp only [ok_bind] at h
    rcases hr : replayEvents s.snapshot [e.finalized s] with r | s'
    · rw [hr] at h
      cases h
    · rw [hr] at h
      cases h
      exact ⟨rfl, s', by simpa using replayEvents_ok.mp hr⟩
  · rintro ⟨rfl, s', hs⟩
    obtain ⟨ha, rfl⟩ := JobState.step_cases hs
    obtain ⟨u, hv⟩ := validateTransition_ok.mpr ha.legal
    have hr : replayEvents s.snapshot [e.finalized s] = .ok (s.advance _ ha) :=
      replayEvents_ok.mpr (by simpa using hs)
    have hjob : e.jobId = jobId := ha.job.trans hj
    have hfrom : e.fromState = s.job.status := ha.source
    have hd : checkDuplicates e.payload s = .ok () := checkDuplicates_ok ha.freshAttempt ha.freshBundle
    have hn : Event.new (s.lastSequence + 1) e.jobId e.eventType e.fromState e.toState
        e.timestamp.value e.payload = .ok (e.finalized s) := Event.new_numbered e s.nextNumber_pos
    have hv : validateTransition s.job.status e.toState e.eventType = .ok u := hv
    unfold validateEvent
    rw [if_neg (by simp [ha.not_terminal]), hd, hv, hn]
    simp only [ok_bind]
    rw [if_neg (by simp [hjob, hfrom]), hr]
    rfl

/-- Incremental validation accepts an event exactly if full replay from genesis
accepts the extended log. -/
theorem validateEvent_iff_replay {J : Journal} {e : Event} :
    (∃ f, validateEvent J.jobId e J.state = .ok f) ↔
      ∃ s, replayEvents J.genesis (J.events ++ [e.finalized J.state]) = .ok s := by
  have hrun : ∀ f, run JobState.step J.genesis.state (J.events ++ [f]) = J.state.step f := by
    intro f
    rw [run_concat, J.replayed]
    rfl
  constructor
  · rintro ⟨f, hf⟩
    obtain ⟨rfl, s, hs⟩ := (validateEvent_iff J.state_jobId).mp hf
    exact ⟨s, replayEvents_ok.mpr ((hrun _).trans hs)⟩
  · rintro ⟨s, hs⟩
    exact ⟨_, (validateEvent_iff J.state_jobId).mpr ⟨rfl, s, (hrun _).symm.trans (replayEvents_ok.mp hs)⟩⟩

/-- The values the source rebuilds are the values themselves. -/
@[simp] theorem rebuildEvent_self (e : Event) : rebuildEvent e = .ok e := by
  unfold rebuildEvent
  rw [eventFromPrimitive_toPrimitive]
  exact if_pos rfl

@[simp] theorem rebuildSnapshot_self (s : JobSnapshot) : rebuildSnapshot s = .ok s := by
  unfold rebuildSnapshot
  rw [snapshotFromPrimitive_toPrimitive]
  exact if_pos rfl

end SpecStyle
