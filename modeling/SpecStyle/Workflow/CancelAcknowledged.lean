/-
SpecStyle/Workflow/CancelAcknowledged.lean

An acknowledged cancel is kept, unless it was lost on the way.

A cancel that comes before the run is remembered, and the run raises at its
first section.  A cancel that finds the job stored ends it, and a terminal
status takes no event (`appendStatus_ok`).  In between, from the first
section of the run to the genesis of its job, a cancel is remembered too, but
nobody reads it any more: `losesCancel` is that step.  Without it no
acknowledged cancel is lost (`acknowledged_cancel_kept`), and with it one can
be (`acknowledged_cancel_lost`).
-/
import SpecStyle.Lib.Checks
import SpecStyle.Workflow.RunOne

namespace SpecStyle

open PyLib

variable {Cid : Type} [DecidableEq Cid] {w w' : RunOneWorld Cid} {a : RunOneAct Cid}

/-! ### Acknowledgements -/

/-- `cancel` has returned `None`, or is about to. -/
def CancelPc.pends : CancelPc → Bool
  | .missing _ _ => true
  | .done _ .pending => true
  | _ => false

/-- `cancel` has returned a cancelled state, or is about to. -/
def CancelPc.cancels : CancelPc → Bool
  | .signalling _ _ => true
  | .done _ .cancelled => true
  | _ => false

/-- A call of `cancel` that returned without raising. -/
def CancelPc.acknowledged : CancelPc → Bool
  | .done _ .pending => true
  | .done _ .cancelled => true
  | _ => false

/-- `cancel` is to look for the snapshot. -/
def CancelPc.looks : CancelPc → Bool
  | .started _ _ => true
  | _ => false

/-- The run is on its way. -/
def RunPc.live : RunPc → Bool
  | .running _ => true
  | _ => false

/-- The step that loses a cancel: it looks for the snapshot of a run on its
way and finds none yet. -/
def RunOneWorld.losesCancel (w : RunOneWorld Cid) : RunOneAct Cid → Bool
  | .next c =>
    match w.cancel c with
    | .started _ _ => w.job.isNone && w.run.live
    | _ => false
  | _ => false

/-- The steps that lose no cancel. -/
def RunOneWorld.carefulStep (w : RunOneWorld Cid) (a : RunOneAct Cid) :
    Option (RunOneWorld Cid) :=
  if w.losesCancel a then none else w.step a

/-! ### The status of the job -/

theorem appendStatus_ok {status status' : JobStatus} {eventType : EventType}
    {fromState toState : JobStatus}
    (h : appendStatus status eventType fromState toState = .ok status') :
    status ∉ terminalStatuses ∧ status' = toState := by
  unfold appendStatus at h
  split_ifs at h with ht hf
  obtain ⟨-, h⟩ := check_ok_iff.mp h
  cases h
  exact ⟨ht, rfl⟩

/-- What a step does to the job: nothing that undoes an end, and nothing to a
job that is not there, but for the genesis. -/
structure JobMoves (w w' : RunOneWorld Cid) : Prop where
  ended : ∀ status ∈ terminalStatuses, w.job = some status → w'.job = some status
  unborn : w.job = none → w.run.live = false → w'.job = none

omit [DecidableEq Cid] in
theorem JobMoves.same (h : w'.job = w.job) : JobMoves w w' :=
  ⟨fun _ _ hs => h.trans hs, fun hn _ => h.trans hn⟩

omit [DecidableEq Cid] in
/-- A job that has not ended takes an event. -/
theorem JobMoves.event {status : JobStatus} (hs : w.job = some status)
    (hn : status ∉ terminalStatuses) : JobMoves w w' := by
  refine ⟨fun s hs' h => ?_, fun h => ?_⟩
  · rw [hs] at h
    cases h
    exact absurd hs' hn
  · rw [hs] at h
    cases h

/-! ### Steps of the run -/

/-- What an instruction leaves alone. -/
structure RunMoves (w w' : RunOneWorld Cid) : Prop extends JobMoves w w' where
  cancel : w'.cancel = w.cancel
  runStarted : w'.runStarted = w.runStarted
  pendingCancel : w'.pendingCancel = w.pendingCancel

/-- An exception is on its way, or through. -/
def RunPc.dead : RunPc → Bool
  | .unwinding _ => true
  | .raised => true
  | _ => false

omit [DecidableEq Cid] in
theorem raise_moves (first rest : List Instr) :
    RunMoves w (w.raise first rest) ∧ (w.raise first rest).run.dead = true :=
  ⟨⟨.same rfl, rfl, rfl, rfl⟩, rfl⟩

omit [DecidableEq Cid] in
theorem beginPublish_moves (rest : List Instr) : RunMoves w (w.beginPublish rest) ∧
    ((w.beginPublish rest).run = .running rest ∨ (w.beginPublish rest).run.dead = true) := by
  unfold RunOneWorld.beginPublish
  split
  · exact (raise_moves [] rest).imp id .inr
  · next status hs =>
    split_ifs
    · split
      · next s' ha => exact ⟨⟨.event hs (appendStatus_ok ha).1, rfl, rfl, rfl⟩, .inl rfl⟩
      · exact (raise_moves [] rest).imp id .inr
    · exact (raise_moves [] rest).imp id .inr

omit [DecidableEq Cid] in
theorem commitPublish_moves (rest : List Instr) : RunMoves w (w.commitPublish rest) ∧
    ((w.commitPublish rest).run = .running rest ∨ (w.commitPublish rest).run.dead = true) := by
  unfold RunOneWorld.commitPublish
  split_ifs with hj
  · split
    · next s' ha => exact ⟨⟨.event hj (appendStatus_ok ha).1, rfl, rfl, rfl⟩, .inl rfl⟩
    · exact ⟨⟨.same rfl, rfl, rfl, rfl⟩, .inr rfl⟩
  · exact (raise_moves [] rest).imp id .inr

omit [DecidableEq Cid] in
/-- An instruction leads to the rest, to the second half of a checkpoint, or
to an exception; the last one passes a completed job only. -/
theorem execute_moves {instr : Instr} {rest : List Instr} (hrun : w.run = .running (instr :: rest)) :
    RunMoves w (w.execute instr rest) ∧
      ((w.execute instr rest).run = .running rest ∧
          (instr = .readBack → (w.execute instr rest).job = some .completed) ∨
        (w.execute instr rest).run = .running (.confirm :: rest) ∧ instr = .checkpoint ∨
        (w.execute instr rest).run.dead = true) := by
  have hlive : w.run.live = true := by
    rw [hrun]
    rfl
  cases instr with
  | startRun =>
      simp only [RunOneWorld.execute]
      split
      · exact ⟨⟨.same rfl, rfl, rfl, rfl⟩, .inl ⟨rfl, fun h => by cases h⟩⟩
      · exact ⟨⟨.same rfl, rfl, rfl, rfl⟩, .inr (.inr rfl)⟩
  | startExport =>
      simp only [RunOneWorld.execute]
      split
      · exact ⟨⟨.same rfl, rfl, rfl, rfl⟩, .inl ⟨rfl, fun h => by cases h⟩⟩
      · exact ⟨⟨.same rfl, rfl, rfl, rfl⟩, .inr (.inr rfl)⟩
  | rejectDuplicate =>
      simp only [RunOneWorld.execute]
      split_ifs
      · exact ⟨⟨.same rfl, rfl, rfl, rfl⟩, .inl ⟨rfl, fun h => by cases h⟩⟩
      · exact (raise_moves [] rest).imp id fun h => .inr (.inr h)
  | checkpoint =>
      simp only [RunOneWorld.execute]
      split_ifs
      · exact ⟨⟨.same rfl, rfl, rfl, rfl⟩, .inr (.inl ⟨rfl, trivial⟩)⟩
      · exact ⟨⟨.same rfl, rfl, rfl, rfl⟩, .inl ⟨rfl, fun h => by cases h⟩⟩
  | confirm =>
      simp only [RunOneWorld.execute]
      split_ifs
      · exact (raise_moves [] rest).imp id fun h => .inr (.inr h)
      · exact ⟨⟨.same rfl, rfl, rfl, rfl⟩, .inl ⟨rfl, fun h => by cases h⟩⟩
  | genesis =>
      simp only [RunOneWorld.execute]
      split_ifs with hj
      · rw [Option.isNone_iff_eq_none] at hj
        refine ⟨⟨⟨fun _ _ hs => ?_, fun _ hl => ?_⟩, rfl, rfl, rfl⟩, .inl ⟨rfl, fun h => by cases h⟩⟩
        · rw [hj] at hs
          cases hs
        · rw [hlive] at hl
          cases hl
      · exact (raise_moves [] rest).imp id fun h => .inr (.inr h)
  | append eventType fromState toState =>
      simp only [RunOneWorld.execute]
      split
      · exact (raise_moves [] rest).imp id fun h => .inr (.inr h)
      · next status hs =>
        split
        · next s' ha =>
          exact ⟨⟨.event hs (appendStatus_ok ha).1, rfl, rfl, rfl⟩,
            .inl ⟨rfl, fun h => by cases h⟩⟩
        · exact (raise_moves [] rest).imp id fun h => .inr (.inr h)
  | work onFailure => exact ⟨⟨.same rfl, rfl, rfl, rfl⟩, .inl ⟨rfl, fun h => by cases h⟩⟩
  | fatal fromState => exact ⟨⟨.same rfl, rfl, rfl, rfl⟩, .inl ⟨rfl, fun h => by cases h⟩⟩
  | beginPublish =>
      refine (beginPublish_moves rest).imp id ?_
      rintro (h | h)
      · exact .inl ⟨h, fun hr => by cases hr⟩
      · exact .inr (.inr h)
  | commitPublish =>
      refine (commitPublish_moves rest).imp id ?_
      rintro (h | h)
      · exact .inl ⟨h, fun hr => by cases hr⟩
      · exact .inr (.inr h)
  | finishRun => exact ⟨⟨.same rfl, rfl, rfl, rfl⟩, .inl ⟨rfl, fun h => by cases h⟩⟩
  | releaseRunLock => exact ⟨⟨.same rfl, rfl, rfl, rfl⟩, .inl ⟨rfl, fun h => by cases h⟩⟩
  | readBack =>
      simp only [RunOneWorld.execute]
      split_ifs with hj
      · exact ⟨⟨.same rfl, rfl, rfl, rfl⟩, .inl ⟨rfl, fun _ => hj⟩⟩
      · exact (raise_moves [] rest).imp id fun h => .inr (.inr h)

omit [DecidableEq Cid] in
theorem unwind_moves (instr : Instr) (rest : List Instr) :
    RunMoves w (w.unwind instr rest) ∧ (w.unwind instr rest).run.dead = true := by
  cases instr with
  | fatal fromState =>
      simp only [RunOneWorld.unwind]
      split
      · next s' hs =>
        obtain ⟨status, hs, ha⟩ := Option.map_eq_some_iff.mp hs
        exact ⟨⟨.event hs (appendStatus_ok ha).1, rfl, rfl, rfl⟩, rfl⟩
      · exact ⟨⟨.same rfl, rfl, rfl, rfl⟩, rfl⟩
  | _ => exact ⟨⟨.same rfl, rfl, rfl, rfl⟩, rfl⟩

/-! ### The invariant -/

/-- What holds in every state reached without losing a cancel. -/
structure CancelInv (w : RunOneWorld Cid) : Prop where
  fresh : w.runStarted = false ↔ w.run = .idle
  looks : ∀ c, (w.cancel c).looks = true → w.runStarted = true
  unborn : w.run = .idle → w.job = none
  pends : ∀ c, (w.cancel c).pends = true →
    w.runStarted = false ∧ w.pendingCancel.isSome = true ∨ w.run.dead = true ∧ w.job = none
  cancels : ∀ c, (w.cancel c).cancels = true → w.job = some .cancelled
  /-- The last instruction of a run finds the job completed. -/
  ends : ∀ rest, w.run = .running rest →
    rest = [] ∧ w.job = some .completed ∨ rest.getLast? = some .readBack
  returned : w.run = .returned → w.job = some .completed

omit [DecidableEq Cid] in
theorem CancelInv.start (jobId : JobId) : CancelInv (RunOneWorld.opened jobId : RunOneWorld Cid) where
  fresh := ⟨fun _ => rfl, fun _ => rfl⟩
  looks := fun _ h => by cases h
  unborn := fun _ => rfl
  pends := fun _ h => by cases h
  cancels := fun _ h => by cases h
  ends := fun _ h => by cases h
  returned := fun h => by cases h

omit [DecidableEq Cid] in
/-- A step of a run that has started. -/
theorem CancelInv.ran (h : CancelInv w) (hm : RunMoves w w') (hstart : w.run ≠ .idle)
    (hlive : w.run.live = true ∨ w'.run.dead = true)
    (hne : w'.run ≠ .idle)
    (hends : ∀ rest, w'.run = .running rest →
      rest = [] ∧ w'.job = some .completed ∨ rest.getLast? = some .readBack)
    (hret : w'.run = .returned → w'.job = some .completed) : CancelInv w' where
  fresh := by
    rw [hm.runStarted]
    exact ⟨fun hf => absurd (h.fresh.mp hf) hstart, fun hi => absurd hi hne⟩
  looks := by
    intro c hc
    rw [hm.cancel] at hc
    rw [hm.runStarted]
    exact h.looks c hc
  unborn := fun hi => absurd hi hne
  pends := by
    intro c hc
    rw [hm.cancel] at hc
    rcases h.pends c hc with ⟨hf, -⟩ | ⟨hd, hj⟩
    · exact absurd (h.fresh.mp hf) hstart
    · have hnl : w.run.live = false := by
        cases hr : w.run <;> simp_all [RunPc.live, RunPc.dead]
      rcases hlive with hl | hl
      · rw [hnl] at hl
        cases hl
      · exact .inr ⟨hl, hm.unborn hj hnl⟩
  cancels := by
    intro c hc
    rw [hm.cancel] at hc
    exact hm.ended _ (by simp [terminalStatuses]) (h.cancels c hc)
  ends := hends
  returned := hret

/-- The next instruction of the run. -/
theorem CancelInv.advance (h : CancelInv w) (hs : w.step .advance = some w') : CancelInv w' := by
  simp only [RunOneWorld.step] at hs
  cases hrun : w.run with
  | running rest =>
      have hstart : w.run ≠ .idle := by simp [hrun]
      have hlive : w.run.live = true := by simp [hrun, RunPc.live]
      cases rest with
      | nil =>
          rw [hrun] at hs
          cases hs
          refine h.ran ⟨.same rfl, rfl, rfl, rfl⟩ hstart (.inl hlive) (by simp) (by simp) fun _ => ?_
          -- the list came to its end, so the job is completed
          rcases h.ends [] hrun with ⟨-, hj⟩ | hl
          · exact hj
          · cases hl
      | cons instr rest =>
          rw [hrun] at hs
          obtain rfl := Option.some.inj hs
          obtain ⟨hm, hto⟩ := execute_moves hrun
          have hlast : (instr :: rest).getLast? = some .readBack := by
            rcases h.ends _ hrun with ⟨hn, -⟩ | hl
            · cases hn
            · exact hl
          rcases hto with ⟨hr, hj⟩ | ⟨hr, rfl⟩ | hd
          · refine h.ran hm hstart (.inl hlive) (by simp [hr]) (fun rest' hr' => ?_) (by simp [hr])
            rw [hr] at hr'
            cases hr'
            cases rest with
            | nil =>
                rw [List.getLast?_singleton] at hlast
                exact .inl ⟨rfl, hj (Option.some.inj hlast)⟩
            | cons i is => exact .inr (by rw [← hlast, List.getLast?_cons_cons])
          · refine h.ran hm hstart (.inl hlive) (by simp [hr]) (fun rest' hr' => ?_) (by simp [hr])
            rw [hr] at hr'
            cases hr'
            cases rest with
            | nil => cases hlast
            | cons i is =>
                rw [List.getLast?_cons_cons] at hlast
                exact .inr (by rw [List.getLast?_cons_cons, hlast])
          · refine h.ran hm hstart (.inl hlive) ?_ (fun rest' hr' => ?_) fun hr => ?_
            · intro hi
              rw [hi] at hd
              cases hd
            · rw [hr'] at hd
              cases hd
            · rw [hr] at hd
              cases hd
  | unwinding rest =>
      have hstart : w.run ≠ .idle := by simp [hrun]
      cases rest with
      | nil =>
          rw [hrun] at hs
          cases hs
          exact h.ran ⟨.same rfl, rfl, rfl, rfl⟩ hstart (.inr rfl) (by simp) (by simp) (by simp)
      | cons instr rest =>
          rw [hrun] at hs
          obtain rfl := Option.some.inj hs
          obtain ⟨hm, hd⟩ := unwind_moves (w := w) instr rest
          refine h.ran hm hstart (.inr hd) ?_ (fun rest' hr' => ?_) fun hr => ?_
          · intro hi
            rw [hi] at hd
            cases hd
          · rw [hr'] at hd
            cases hd
          · rw [hr] at hd
            cases hd
  | _ =>
      rw [hrun] at hs
      cases hs

/-- The work at hand raises. -/
theorem CancelInv.fail (h : CancelInv w) (hs : w.step .fail = some w') : CancelInv w' := by
  have hraise : ∀ (x : RunOneWorld Cid) first rest, w.run.live = true → RunMoves w x →
      CancelInv (x.raise first rest) := by
    intro x first rest hl hm
    have hstart : w.run ≠ .idle := by
      intro hi
      rw [hi] at hl
      cases hl
    exact h.ran ⟨⟨hm.ended, hm.unborn⟩, hm.cancel, hm.runStarted, hm.pendingCancel⟩ hstart
      (.inl hl) (by simp [RunOneWorld.raise]) (by simp [RunOneWorld.raise])
      (by simp [RunOneWorld.raise])
  simp only [RunOneWorld.step] at hs
  split at hs
  · next onFailure rest hrun =>
    cases hs
    exact hraise w _ rest (by simp [hrun, RunPc.live]) ⟨.same rfl, rfl, rfl, rfl⟩
  · next rest hrun =>
    cases hs
    exact hraise w _ rest (by simp [hrun, RunPc.live]) ⟨.same rfl, rfl, rfl, rfl⟩
  · next rest hrun =>
    have hl : w.run.live = true := by simp [hrun, RunPc.live]
    split_ifs at hs
    · cases hs
      exact hraise { w with exportPhase := .unknown } _ rest hl ⟨.same rfl, rfl, rfl, rfl⟩
    · cases hs
      exact hraise w _ rest hl ⟨.same rfl, rfl, rfl, rfl⟩
  · cases hs

omit [DecidableEq Cid] in
/-- The first section of the run: a pending cancel stops it. -/
theorem CancelInv.call (h : CancelInv w) {shape : RunShape} (hi : w.run = .idle) :
    CancelInv (w.callRun shape) where
  fresh := by
    refine ⟨fun hf => (by cases hf), fun hr => ?_⟩
    unfold RunOneWorld.callRun at hr
    split_ifs at hr
  looks := fun _ _ => rfl
  unborn := by
    intro hr
    unfold RunOneWorld.callRun at hr
    split_ifs at hr
  pends := by
    intro c hc
    have hp : w.pendingCancel.isSome = true := by
      rcases h.pends c hc with ⟨-, hp⟩ | ⟨hd, -⟩
      · exact hp
      · rw [hi] at hd
        cases hd
    right
    unfold RunOneWorld.callRun
    rw [if_pos hp]
    exact ⟨rfl, h.unborn hi⟩
  cancels := h.cancels
  ends := by
    intro rest hr
    unfold RunOneWorld.callRun at hr
    split_ifs at hr
    cases hr
    right
    unfold runBody
    rw [List.getLast?_append]
    rfl
  returned := by
    intro hr
    unfold RunOneWorld.callRun at hr
    split_ifs at hr

/-! ### Steps of a cancel -/

/-- A cancel moves, and the run stays where it is. -/
structure CancelMoves (w w' : RunOneWorld Cid) (c : Cid) (pc : CancelPc) : Prop
    extends JobMoves w w' where
  cancel : w'.cancel = Function.update w.cancel c pc
  run : w'.run = w.run
  runStarted : w'.runStarted = w.runStarted
  pendingCancel : w.pendingCancel.isSome = true → w'.pendingCancel.isSome = true
  /-- No cancel makes a job. -/
  noJob : w.job = none → w'.job = none

theorem CancelInv.moved (h : CancelInv w) {c : Cid} {pc : CancelPc} (hm : CancelMoves w w' c pc)
    (hp : pc.pends = true → w'.runStarted = false ∧ w'.pendingCancel.isSome = true ∨
      w'.run.dead = true ∧ w'.job = none)
    (hk : pc.looks = true → w'.runStarted = true)
    (hc : pc.cancels = true → w'.job = some .cancelled) : CancelInv w' where
  fresh := by
    rw [hm.run, hm.runStarted]
    exact h.fresh
  looks := by
    intro d hd
    rw [hm.cancel] at hd
    by_cases hdc : d = c
    · subst hdc
      rw [Function.update_self] at hd
      exact hk hd
    · rw [Function.update_of_ne hdc] at hd
      rw [hm.runStarted]
      exact h.looks d hd
  unborn := by
    rw [hm.run]
    exact fun hi => hm.noJob (h.unborn hi)
  pends := by
    intro d hd
    rw [hm.cancel] at hd
    by_cases hdc : d = c
    · subst hdc
      rw [Function.update_self] at hd
      exact hp hd
    · rw [Function.update_of_ne hdc] at hd
      rw [hm.run, hm.runStarted]
      exact (h.pends d hd).imp (And.imp id hm.pendingCancel) (And.imp id hm.noJob)
  cancels := by
    intro d hd
    rw [hm.cancel] at hd
    by_cases hdc : d = c
    · subst hdc
      rw [Function.update_self] at hd
      exact hc hd
    · rw [Function.update_of_ne hdc] at hd
      exact hm.ended _ (by simp [terminalStatuses]) (h.cancels d hd)
  ends := by
    intro rest hr
    rw [hm.run] at hr
    exact (h.ends rest hr).imp (And.imp id (hm.ended _ (by simp [terminalStatuses]))) id
  returned := by
    intro hr
    rw [hm.run] at hr
    exact hm.ended _ (by simp [terminalStatuses]) (h.returned hr)

omit [DecidableEq Cid] in
/-- `_cancel_durable` ends the job, or found it cancelled. -/
theorem cancelDurable_ok {reason : Text} (h : w.cancelDurable reason = .ok w') :
    w'.job = some .cancelled ∧
      ∃ status, w.job = some status ∧ (status = .cancelled ∨ status ∉ terminalStatuses) ∧
        w' = { w with
          runtime := w.runtime.markDurableCancel w.jobId reason
          job := some .cancelled } := by
  unfold RunOneWorld.cancelDurable at h
  split at h
  · cases h
  · next hj =>
    cases h
    refine ⟨hj, .cancelled, hj, .inl rfl, ?_⟩
    cases w
    simp_all
  · next status hn hj =>
    split_ifs at h
    obtain ⟨s', ha, h⟩ := bind_ok_iff.mp h
    cases h
    obtain ⟨hs, rfl⟩ := appendStatus_ok ha
    exact ⟨rfl, status, hj, .inr hs, rfl⟩

omit [DecidableEq Cid] in
/-- The job after `_cancel_durable`. -/
theorem cancelDurable_moves {reason : Text} (h : w.cancelDurable reason = .ok w') :
    JobMoves w w' ∧ (w.job = none → w'.job = none) := by
  obtain ⟨hc, status, hj, hs, -⟩ := cancelDurable_ok h
  have hsome : w.job ≠ none := by simp [hj]
  refine ⟨⟨fun s ht hw => ?_, fun hn => absurd hn hsome⟩, fun hn => absurd hn hsome⟩
  rw [hj] at hw
  cases hw
  rcases hs with rfl | hs
  · exact hc
  · exact absurd ht hs

/-- A section of a cancel that was not lost. -/
theorem CancelInv.next (h : CancelInv w) {c : Cid} (hl : w.losesCancel (.next c) = false)
    (hs : w.cancelNext c = some w') : CancelInv w' := by
  unfold RunOneWorld.cancelNext at hs
  split at hs
  · next ui reason hc =>
    split_ifs at hs with hr
    · cases hs
      exact h.moved ⟨.same rfl, rfl, rfl, rfl, id, id⟩ (by simp [CancelPc.pends]) (fun _ => hr)
        (by simp [CancelPc.cancels])
    · -- the run has not started, and will find the cancel
      cases hs
      exact h.moved ⟨.same rfl, rfl, rfl, rfl, fun _ => rfl, id⟩
        (fun _ => .inl ⟨eq_false_of_ne_true hr, rfl⟩) (by simp [CancelPc.looks])
        (by simp [CancelPc.cancels])
  · next ui reason hc =>
    split_ifs at hs with hj
    · -- without a snapshot the run is over, or the cancel would be lost
      cases hs
      have hstart : w.runStarted = true := h.looks c (by rw [hc]; rfl)
      simp only [RunOneWorld.losesCancel, hc, hj, Bool.true_and] at hl
      rw [Option.isNone_iff_eq_none] at hj
      have hdead : w.run.dead = true := by
        cases hrun : w.run with
        | idle =>
            rw [h.fresh.mpr hrun] at hstart
            cases hstart
        | running rest =>
            rw [hrun] at hl
            cases hl
        | returned =>
            have hcompleted := h.returned hrun
            rw [hj] at hcompleted
            cases hcompleted
        | unwinding rest => rfl
        | raised => rfl
      exact h.moved ⟨.same rfl, rfl, rfl, rfl, id, id⟩ (fun _ => .inr ⟨hdead, hj⟩)
        (by simp [CancelPc.looks]) (by simp [CancelPc.cancels])
    · cases hs
      exact h.moved ⟨.same rfl, rfl, rfl, rfl, id, id⟩ (by simp [CancelPc.pends])
        (by simp [CancelPc.looks]) (by simp [CancelPc.cancels])
  · next ui reason hc =>
    cases hs
    have hp := h.pends c (by rw [hc]; rfl)
    exact h.moved ⟨.same rfl, rfl, rfl, rfl, fun _ => rfl, id⟩
      (fun _ => hp.imp (And.imp id fun _ => rfl) id) (by simp [CancelPc.looks])
      (by simp [CancelPc.cancels])
  · next ui reason hc =>
    split at hs
    · next x hx =>
      cases hs
      obtain ⟨_, -, hx⟩ := bind_ok_iff.mp hx
      obtain ⟨hm, hn⟩ := cancelDurable_moves hx
      obtain ⟨hj, status, -, -, rfl⟩ := cancelDurable_ok hx
      exact h.moved ⟨⟨hm.ended, hm.unborn⟩, rfl, rfl, rfl, id, hn⟩ (by simp [CancelPc.pends])
        (by simp [CancelPc.looks]) fun _ => rfl
    · cases hs
      exact h.moved ⟨.same rfl, rfl, rfl, rfl, id, id⟩ (by simp [CancelPc.pends])
        (by simp [CancelPc.looks]) (by simp [CancelPc.cancels])
  · next ui reason hc =>
    cases hs
    have hj : w.job = some .cancelled := h.cancels c (by rw [hc]; rfl)
    exact h.moved ⟨.same rfl, rfl, rfl, rfl, id, id⟩ (by simp [CancelPc.pends])
      (by simp [CancelPc.looks]) fun _ => hj
  · cases hs

/-- A call that has only begun, or was answered at once. -/
theorem CancelInv.called (h : CancelInv w) {c : Cid} {pc : CancelPc}
    (hm : CancelMoves w w' c pc)
    (hpc : (∃ ui reason, pc = .entered ui reason) ∨ ∃ text, pc = .answered text) :
    CancelInv w' := by
  rcases hpc with ⟨ui, reason, rfl⟩ | ⟨text, rfl⟩ <;>
    exact h.moved hm (by simp [CancelPc.pends]) (by simp [CancelPc.looks])
      (by simp [CancelPc.cancels])

/-- A step that loses no cancel keeps the invariant. -/
theorem CancelInv.step (h : CancelInv w) (hs : w.carefulStep a = some w') : CancelInv w' := by
  unfold RunOneWorld.carefulStep at hs
  split_ifs at hs with hl
  have hl : w.losesCancel a = false := eq_false_of_ne_true hl
  cases a with
  | call shape =>
      simp only [RunOneWorld.step] at hs
      split_ifs at hs with hi
      cases hs
      exact h.call hi
  | advance => exact h.advance hs
  | fail => exact h.fail hs
  | register =>
      cases hs
      exact ⟨h.fresh, h.looks, h.unborn, h.pends, h.cancels, h.ends, h.returned⟩
  | setPhase phase =>
      cases hs
      exact ⟨h.fresh, h.looks, h.unborn, h.pends, h.cancels, h.ends, h.returned⟩
  | cancel c reason =>
      simp only [RunOneWorld.step] at hs
      split_ifs at hs
      cases hs
      exact h.called ⟨.same rfl, rfl, rfl, rfl, id, id⟩ (.inl ⟨_, _, rfl⟩)
  | cancelJob c =>
      simp only [RunOneWorld.step] at hs
      split_ifs at hs
      split at hs
      · cases hs
        exact h.called ⟨.same rfl, rfl, rfl, rfl, id, id⟩ (.inr ⟨_, rfl⟩)
      · cases hs
        exact h.called ⟨.same rfl, rfl, rfl, rfl, id, id⟩ (.inl ⟨_, _, rfl⟩)
  | cancelRegistered c =>
      simp only [RunOneWorld.step] at hs
      split_ifs at hs
      · cases hs
        exact h.called ⟨.same rfl, rfl, rfl, rfl, id, id⟩ (.inl ⟨_, _, rfl⟩)
      · cases hs
        exact h.called ⟨.same rfl, rfl, rfl, rfl, id, id⟩ (.inr ⟨_, rfl⟩)
  | next c => exact h.next hl hs

/-! ### The result -/

omit [DecidableEq Cid] in
/-- What an acknowledged cancel has done for good. -/
theorem CancelInv.kept (h : CancelInv w) {c : Cid} (hc : (w.cancel c).acknowledged = true) :
    w.run ≠ .returned ∧ w.job ≠ some .completed := by
  have hor : (w.cancel c).pends = true ∨ (w.cancel c).cancels = true := by
    cases hw : w.cancel c with
    | done ui outcome =>
        rw [hw] at hc
        cases outcome with
        | pending => exact .inl rfl
        | cancelled => exact .inr rfl
        | raised e => cases hc
    | _ =>
        rw [hw] at hc
        cases hc
  have hjob : w.job = none ∨ w.job = some .cancelled := by
    rcases hor with hp | hp
    · rcases h.pends c hp with ⟨hf, -⟩ | ⟨-, hj⟩
      · exact .inl (h.unborn (h.fresh.mp hf))
      · exact .inl hj
    · exact .inr (h.cancels c hp)
  have hne : w.job ≠ some .completed := by
    rcases hjob with hj | hj <;> simp [hj]
  exact ⟨fun hr => hne (h.returned hr), hne⟩

omit [DecidableEq Cid] in
/-- "cancel requested" is what `cancel_job` answers when the cancel pends. -/
theorem answer_requested {outcome : CancelOutcome} (h : outcome.answer = "cancel requested") :
    outcome = .pending := by
  cases outcome with
  | pending => rfl
  | cancelled => simp [CancelOutcome.answer] at h
  | raised e =>
      simp only [CancelOutcome.answer] at h
      split_ifs at h <;> simp at h

/-- A call of `cancel` that has ended stays so. -/
theorem done_stays {c : Cid} {ui : Bool} {outcome : CancelOutcome}
    (hd : w.cancel c = .done ui outcome) (hs : w.step a = some w') :
    w'.cancel c = .done ui outcome := by
  have hother : ∀ d pc, w.cancel d = .idle →
      Function.update w.cancel d pc c = .done ui outcome := by
    intro d pc hi
    have hne : c ≠ d := by
      rintro rfl
      rw [hd] at hi
      cases hi
    rw [Function.update_of_ne hne, hd]
  cases a with
  | call shape =>
      simp only [RunOneWorld.step] at hs
      split_ifs at hs
      cases hs
      exact hd
  | advance =>
      simp only [RunOneWorld.step] at hs
      split at hs
      · next instr rest hrun =>
        cases hs
        rw [(execute_moves hrun).1.cancel, hd]
      · cases hs
        exact hd
      · next instr rest hrun =>
        cases hs
        rw [(unwind_moves instr rest).1.cancel, hd]
      · cases hs
        exact hd
      · cases hs
  | fail =>
      simp only [RunOneWorld.step] at hs
      split at hs
      · cases hs
        exact hd
      · cases hs
        exact hd
      · split_ifs at hs <;> cases hs <;> exact hd
      · cases hs
  | register =>
      cases hs
      exact hd
  | setPhase phase =>
      cases hs
      exact hd
  | cancel d reason =>
      simp only [RunOneWorld.step] at hs
      split_ifs at hs with hi
      cases hs
      exact hother d _ hi
  | cancelJob d =>
      simp only [RunOneWorld.step] at hs
      split_ifs at hs with hi
      split at hs <;> cases hs <;> exact hother d _ hi.1
  | cancelRegistered d =>
      simp only [RunOneWorld.step] at hs
      split_ifs at hs with hi <;> cases hs <;> exact hother d _ hi.1
  | next d =>
      have hne : c ≠ d := by
        rintro rfl
        simp only [RunOneWorld.step, RunOneWorld.cancelNext, hd] at hs
        cases hs
      have hkeep : ∀ pc, Function.update w.cancel d pc c = .done ui outcome := by
        intro pc
        rw [Function.update_of_ne hne, hd]
      simp only [RunOneWorld.step, RunOneWorld.cancelNext] at hs
      split at hs
      · split_ifs at hs <;> cases hs <;> exact hkeep _
      · split_ifs at hs <;> cases hs <;> exact hkeep _
      · cases hs
        exact hkeep _
      · split at hs
        · next x hx =>
          cases hs
          obtain ⟨_, -, hx⟩ := bind_ok_iff.mp hx
          obtain ⟨-, status, -, -, rfl⟩ := cancelDurable_ok hx
          exact hkeep _
        · cases hs
          exact hkeep _
      · cases hs
        exact hkeep _
      · cases hs

/-- In a run that loses no cancel, whatever the order of the steps: once a call
of `cancel` has returned, by itself or for a `cancel_job` that answers "cancel
requested", the run returns no result and the job is never completed. -/
theorem acknowledged_cancel_kept {jobId : JobId} {log later : List (RunOneAct Cid)}
    (hrun : run RunOneWorld.carefulStep (RunOneWorld.opened jobId) log = some w)
    (hlater : run RunOneWorld.carefulStep w later = some w') (c : Cid) :
    ((w.cancel c).acknowledged = true ∨
        ∃ outcome, w.cancel c = .done true outcome ∧ outcome.answer = "cancel requested") →
      w'.run ≠ .returned ∧ w'.job ≠ some .completed := by
  have keep : ∀ (s : RunOneWorld Cid) (e : RunOneAct Cid) (s' : RunOneWorld Cid), CancelInv s →
      s.carefulStep e = some s' → CancelInv s' := fun s e s' hi hs => hi.step hs
  have h' : CancelInv w' := run_preserves keep (run_preserves keep (.start jobId) hrun) hlater
  have hstays : ∀ ui outcome, w.cancel c = .done ui outcome → w'.cancel c = .done ui outcome := by
    intro ui outcome hd
    refine run_preserves (P := fun s => s.cancel c = .done ui outcome) (fun s e s' hp hs => ?_) hd
      hlater
    unfold RunOneWorld.carefulStep at hs
    split_ifs at hs
    exact done_stays hp hs
  rintro (hc | ⟨outcome, hc, ha⟩)
  · cases hw : w.cancel c with
    | done ui outcome =>
        rw [hw] at hc
        exact h'.kept (by rw [hstays ui outcome hw, hc])
    | _ =>
        rw [hw] at hc
        cases hc
  · obtain rfl := answer_requested ha
    exact h'.kept (by rw [hstays true _ hc]; rfl)

/-- A cancel of the user interface, right after the genesis of the job. -/
def cancelledLog : List (RunOneAct Bool) :=
  [.register, .call (.direct .approved)] ++ List.replicate 8 .advance ++
    [.cancelJob false, .next false, .next false, .next false, .next false]

theorem acknowledged_cancel_kept_genesis :
    ∃ w w' : RunOneWorld Bool,
      run RunOneWorld.carefulStep (RunOneWorld.opened (Id.lit .job "job-1")) cancelledLog = some w ∧
      run RunOneWorld.carefulStep w (List.replicate 5 .advance) = some w' ∧
      w.cancel false = .done true .cancelled ∧ w'.run = .raised ∧
      w'.run ≠ .returned ∧ w'.job ≠ some .completed := by
  have hrun : ∃ w : RunOneWorld Bool,
      run RunOneWorld.carefulStep (RunOneWorld.opened (Id.lit .job "job-1")) cancelledLog = some w ∧
        w.cancel false = .done true .cancelled ∧
        ∃ w', run RunOneWorld.carefulStep w (List.replicate 5 .advance) = some w' ∧
          w'.run = .raised := ⟨_, rfl, rfl, _, rfl, rfl⟩
  obtain ⟨w, hw, hc, w', hw', hr⟩ := hrun
  exact ⟨w, w', hw, hw', hc, hr, acknowledged_cancel_kept hw hw' false (.inl (by rw [hc]; rfl))⟩

/-- A cancel right after the first section of the run, and a second one right
after the genesis: the first is acknowledged, the second answered "cancel
already requested", and the job completes. -/
theorem acknowledged_cancel_lost :
    (run RunOneWorld.step (RunOneWorld.opened (Id.lit .job "job-1") : RunOneWorld Bool)
        ([.register, .call (.direct .approved), .cancelJob false, .next false, .next false,
            .next false] ++
          List.replicate 8 .advance ++ [.cancelJob true] ++ List.replicate 53 .advance)).map
      (fun w => ((w.cancel false).answer?, (w.cancel true).answer?, w.run, w.job)) =
    some (some "cancel requested", some "cancel already requested", .returned,
      some .completed) := by
  decide +kernel

end SpecStyle
