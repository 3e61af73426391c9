/-
SpecStyle/Workflow/BatchPublication.lean

When a batch is published.

`BatchHost` is everything a run calls: it answers each call as a function of
the calls made so far, so it may raise or answer anything at any moment.  The
run writes one event for each call it makes.

Main results: `publication_journaled` (a commit happens once, after the whole
script of one frozen cohort, and whatever was staged is committed or closed)
and `computes_batch` (a host that does not look at the calls made so far gets
the result of the plain `runAtomicProductionBatch`).
-/
import SpecStyle.Lib.Hoare
import SpecStyle.Workflow.ProductionBatch

namespace SpecStyle

open PyLib

variable {hashBytes : Bytes → Sha256} {ε : Type}

/-! ### What a run calls -/

/-- What `publisher.stage` returned: whether its `commit` and its `close` can
be called. -/
structure StageAnswer where
  commitCallable : Bool
  closeCallable : Bool

/-- The staged object is a publication. -/
def StageAnswer.publishable (answer : StageAnswer) : Bool :=
  answer.commitCallable && answer.closeCallable

/-- A call that is over.  `false`, or `none`, if it raised; the receipt of a
commit is `none` if what it returned is not one. -/
inductive BatchEvent where
  | build (returned : Bool)
  | record (phase : ProductionBatchPhase) (binding : Sha256) (returned : Bool)
  | checkpoint (phase : ProductionBatchPhase) (returned : Bool)
  | cancelled (answer : Option Bool)
  | verify (returned : Bool)
  | stage (answer : Option StageAnswer)
  | commit (answer : Option (Option BatchPublicationReceipt))
  | close (returned : Bool)

/-- The callbacks, the publisher and the journal, if there is one.  An answer
of the wrong type is `none`. -/
structure BatchHost (hashBytes : Bytes → Sha256) (ε : Type) where
  buildCandidates : List BatchEvent → ProductionBatchReservation →
    Except ε (Option (List (ProductionBatchCandidate hashBytes)))
  verifyBatch : List BatchEvent → FrozenProductionCohort →
    List (ProductionBatchCandidate hashBytes) → CompiledRule → Except ε (Option RuleResult)
  stage : List BatchEvent → FrozenProductionCohort → VerificationReport →
    List ArtifactDecision → List (ProductionBatchCandidate hashBytes) → Except ε StageAnswer
  commit : List BatchEvent → Except ε (Option BatchPublicationReceipt)
  close : List BatchEvent → Except ε Unit
  checkpoint : List BatchEvent → ProductionBatchPhase → Except ε Unit
  cancelled : List BatchEvent → Except ε Bool
  journal : Option (List BatchEvent → Identifier → ProductionBatchPhase → Sha256 → Except ε Unit)

/-- What leaves a run: an exception of its own, or one of the host. -/
inductive BatchRaised (ε : Type) where
  | own (raised : Raised)
  | host (raised : ε)

/-- A program that makes calls. -/
abbrev BatchRun (ε α : Type) := Prog (BatchRaised ε) (List BatchEvent) α

/-- A computation of the run itself. -/
def BatchRun.lift {α : Type} : Except Raised α → BatchRun ε α
  | .ok a => pure a
  | .error e => throw (.own e)

/-- A call of the host. -/
def BatchRun.call {α : Type} (answer : List BatchEvent → Except ε α)
    (event : Option α → BatchEvent) : BatchRun ε α := do
  match answer (← get) with
  | .ok a => do
    modify (· ++ [event (some a)])
    return a
  | .error e => do
    modify (· ++ [event none])
    throw (.host e)

namespace BatchHost

variable (host : BatchHost hashBytes ε)

/-- `_persist` -/
def persist (reservation : ProductionBatchReservation) (phase : ProductionBatchPhase)
    (binding : Sha256) : BatchRun ε Unit :=
  match host.journal with
  | none => pure ()
  | some record =>
    BatchRun.call (record · reservation.batchId phase binding) (.record phase binding ·.isSome)

/-- `_checkpoint` -/
def checkpointed (phase : ProductionBatchPhase) (cancelled : BatchRun ε Bool) :
    BatchRun ε Unit := do
  BatchRun.call (host.checkpoint · phase) (.checkpoint phase ·.isSome)
  if ← cancelled then
    throw (.own (.domain "production batch cancelled"))

/-- `_persist`, then `_checkpoint` with the `cancelled` of the run. -/
def reach (reservation : ProductionBatchReservation) (phase : ProductionBatchPhase)
    (binding : Sha256) : BatchRun ε Unit := do
  host.persist reservation phase binding
  host.checkpointed phase (BatchRun.call host.cancelled .cancelled)

/-- `_validate_candidates` on what the builder returned. -/
def validateBuilt (reservation : ProductionBatchReservation) (target : ProductionBatchTarget)
    (plan : CompiledVerificationPlan) :
    Option (List (ProductionBatchCandidate hashBytes)) →
      Except Raised (List (ProductionBatchCandidate hashBytes))
  | some candidates => validateCandidates reservation target plan candidates
  | none => .error (.domain (invalidBatch "cohort"))

/-- `_validate_batch_result` on what the verifier returned. -/
def validateObserved (rule : CompiledRule)
    (candidates : List (ProductionBatchCandidate hashBytes)) :
    Option RuleResult → Except Raised RuleResult
  | some result => validateBatchResult rule candidates result
  | none => .error (.domain (invalidBatch "result"))

/-- `type(publication) is not BatchPublicationReceipt` -/
def validatePublication : Option BatchPublicationReceipt → Except Raised BatchPublicationReceipt
  | some receipt => .ok receipt
  | none => .error (.domain (invalidBatch "publication"))

/-- The `try` of `run_atomic_production_batch`. -/
def commitOrClose (reservation : ProductionBatchReservation) (routing : Sha256) :
    BatchRun ε (Option BatchPublicationReceipt) :=
  tryCatch
    (do
      host.reach reservation .exportStaged routing
      BatchRun.call host.commit .commit)
    fun raised => do
      BatchRun.call host.close (.close ·.isSome)
      throw raised

/-- `run_atomic_production_batch`, from the staged publication on. -/
def publish (reservation : ProductionBatchReservation) (manifest : FrozenProductionCohort)
    (report : VerificationReport) (decisions : List ArtifactDecision) (routing : Sha256)
    (staged : StageAnswer) : BatchRun ε ProductionBatchResult := do
  BatchRun.lift (ensure staged.publishable (invalidBatch "publisher"))
  let publication ← host.commitOrClose reservation routing
  let publication ← BatchRun.lift (validatePublication publication)
  host.persist reservation .completed publication.bundleSha256
  -- the last checkpoint cannot cancel
  host.checkpointed .completed (pure false)
  return ⟨manifest, report, decisions, publication⟩

/-- `run_atomic_production_batch` -/
def runAtomicProductionBatch (reservation : ProductionBatchReservation)
    (target : ProductionBatchTarget) (plan : CompiledVerificationPlan) :
    BatchRun ε ProductionBatchResult := do
  let rule ← BatchRun.lift
    (batchRule plan target.l2ProfileApprovalSha256 target.l3ProfileApprovalSha256)
  let built ← BatchRun.call (host.buildCandidates · reservation) (.build ·.isSome)
  let candidates ← BatchRun.lift (validateBuilt reservation target plan built)
  let manifest ← BatchRun.lift (freezeProductionCohort reservation target plan candidates)
  host.reach reservation .candidatesReady manifest.manifestSha256
  host.reach reservation .cohortFrozen manifest.manifestSha256
  let observed ← BatchRun.call (host.verifyBatch · manifest candidates rule) (.verify ·.isSome)
  let batchResult ← BatchRun.lift (validateObserved rule candidates observed)
  let batchBinding ← BatchRun.lift (batchResultBinding hashBytes manifest batchResult)
  host.reach reservation .batchVerified batchBinding
  let report ← BatchRun.lift (finalReport plan candidates batchResult)
  let decisions ← BatchRun.lift (routeCohort report candidates)
  let routing ← BatchRun.lift (routingBinding hashBytes batchBinding decisions)
  host.reach reservation .routed routing
  let staged ← BatchRun.call (host.stage · manifest report decisions candidates) .stage
  host.publish reservation manifest report decisions routing staged

end BatchHost

/-! ### The script of a cohort -/

/-- One frozen cohort with everything a run derives from it. -/
structure FrozenRun (hashBytes : Bytes → Sha256) (reservation : ProductionBatchReservation)
    (target : ProductionBatchTarget) (plan : CompiledVerificationPlan) where
  candidates : List (ProductionBatchCandidate hashBytes)
  manifest : FrozenProductionCohort
  batchResult : RuleResult
  batchBinding : Sha256
  report : VerificationReport
  decisions : List ArtifactDecision
  routing : Sha256
  frozen : freezeProductionCohort reservation target plan candidates = .ok manifest
  verified : batchResultBinding hashBytes manifest batchResult = .ok batchBinding
  reported : finalReport plan candidates batchResult = .ok report
  decided : routeCohort report candidates = .ok decisions
  routed : routingBinding hashBytes batchBinding decisions = .ok routing

/-- A phase recorded, if there is a journal, and its checkpoint passed with
`cancelled` answering false. -/
def reached (journaled : Bool) (phase : ProductionBatchPhase) (binding : Sha256) :
    List BatchEvent :=
  (if journaled then [.record phase binding true] else []) ++
    [.checkpoint phase true, .cancelled (some false)]

namespace FrozenRun

variable {reservation : ProductionBatchReservation} {target : ProductionBatchTarget}
  {plan : CompiledVerificationPlan} (cohort : FrozenRun hashBytes reservation target plan)

/-- The calls up to the routing. -/
def routedCalls (journaled : Bool) : List BatchEvent :=
  [.build true] ++ reached journaled .candidatesReady cohort.manifest.manifestSha256 ++
    reached journaled .cohortFrozen cohort.manifest.manifestSha256 ++ [.verify true] ++
    reached journaled .batchVerified cohort.batchBinding ++
    reached journaled .routed cohort.routing

/-- All calls before the commit. -/
def script (journaled : Bool) (staged : StageAnswer) : List BatchEvent :=
  cohort.routedCalls journaled ++ [.stage (some staged)] ++
    reached journaled .exportStaged cohort.routing

end FrozenRun

/-! ### Quiet calls -/

namespace BatchEvent

/-- A call of the staged `commit`. -/
def isCommit : BatchEvent → Bool
  | .commit _ => true
  | _ => false

/-- `stage` returned a publication. -/
def opens : BatchEvent → Bool
  | .stage (some answer) => answer.publishable
  | _ => false

/-- The staged publication is committed, or closed. -/
def settles : BatchEvent → Bool
  | .commit (some _) => true
  | .close _ => true
  | _ => false

/-- Neither a commit nor a staged publication. -/
def Quiet (event : BatchEvent) : Prop := event.isCommit = false ∧ event.opens = false

end BatchEvent

/-- All calls are quiet. -/
def AllQuiet (calls : List BatchEvent) : Prop := ∀ event ∈ calls, event.Quiet

theorem AllQuiet.append {calls calls' : List BatchEvent} (h : AllQuiet calls)
    (h' : AllQuiet calls') : AllQuiet (calls ++ calls') := by
  intro event he
  rcases List.mem_append.mp he with he | he
  · exact h event he
  · exact h' event he

theorem AllQuiet.single {event : BatchEvent} (h : event.Quiet) : AllQuiet [event] := by
  intro other ho
  rw [List.mem_singleton.mp ho]
  exact h

theorem AllQuiet.nil : AllQuiet [] := by
  intro event he
  cases he

theorem reached_quiet (journaled : Bool) (phase : ProductionBatchPhase) (binding : Sha256) :
    AllQuiet (reached journaled phase binding) := by
  apply AllQuiet.append
  · cases journaled
    · exact .nil
    · exact .single ⟨rfl, rfl⟩
  · exact (AllQuiet.single ⟨rfl, rfl⟩).append (.single ⟨rfl, rfl⟩)

/-- A list splits in one way at an element that is alone of its kind. -/
theorem split_unique {α : Type} {p : α → Bool} {x y : α} {before before' after after' : List α}
    (h : before ++ x :: after = before' ++ y :: after') (hbefore : ∀ e ∈ before, p e = false)
    (hafter : ∀ e ∈ after, p e = false) (hy : p y = true) :
    before = before' ∧ x = y ∧ after = after' := by
  refine (List.append_cons_inj_of_notMem ?_ ?_).mp h
  · intro hm
    exact Bool.false_ne_true ((hbefore y hm).symm.trans hy)
  · intro hm
    exact Bool.false_ne_true ((hafter y hm).symm.trans hy)

/-! ### What a trace must satisfy -/

section Traces

variable {reservation : ProductionBatchReservation} {target : ProductionBatchTarget}
  {plan : CompiledVerificationPlan} {journaled : Bool} {calls : List BatchEvent}

variable (hashBytes reservation target plan journaled) in
/-- A commit is the only one and follows the script of a frozen cohort; a
staged publication is committed or closed. -/
structure Published (calls : List BatchEvent) : Prop where
  once : ∀ before answer after, calls = before ++ .commit answer :: after →
    (∀ event ∈ before ++ after, event.isCommit = false) ∧
      ∃ (cohort : FrozenRun hashBytes reservation target plan) (staged : StageAnswer),
        staged.publishable = true ∧ before = cohort.script journaled staged
  settled : ∀ before staged after, calls = before ++ .stage (some staged) :: after →
    staged.publishable = true → ∃ event ∈ after, event.settles = true

theorem Published.of_quiet (h : AllQuiet calls) :
    Published hashBytes reservation target plan journaled calls where
  once := by
    rintro before answer after rfl
    cases (h (.commit answer) (List.mem_append_cons_self)).1
  settled := by
    rintro before staged after rfl hpublishable
    have hopens : staged.publishable = false :=
      (h (.stage (some staged)) (List.mem_append_cons_self)).2
    exact absurd hpublishable (by rw [hopens]; exact Bool.false_ne_true)

/-- The staged publication is closed before any commit. -/
theorem Published.of_closed {before after : List BatchEvent} {staged : StageAnswer}
    {returned : Bool} (hbefore : AllQuiet before) (hafter : AllQuiet after) :
    Published hashBytes reservation target plan journaled
      (before ++ .stage (some staged) :: (after ++ [.close returned])) where
  once := by
    intro before' answer after' h
    have hmem : BatchEvent.commit answer ∈
        before ++ .stage (some staged) :: (after ++ [.close returned]) := by
      rw [h]
      exact List.mem_append_cons_self
    rcases List.mem_append.mp hmem with hmem | hmem
    · cases (hbefore _ hmem).1
    · rcases List.mem_cons.mp hmem with hmem | hmem
      · cases hmem
      · rcases List.mem_append.mp hmem with hmem | hmem
        · cases (hafter _ hmem).1
        · cases List.mem_singleton.mp hmem
  settled := by
    intro before' staged' after' h hpublishable
    have hrest : AllQuiet (after ++ [.close returned]) := hafter.append (.single ⟨rfl, rfl⟩)
    obtain ⟨-, -, rfl⟩ := split_unique (p := BatchEvent.opens) h (fun e he => (hbefore e he).2)
      (fun e he => (hrest e he).2) hpublishable
    exact ⟨.close returned, List.mem_append_right _ (List.mem_singleton_self _), rfl⟩

theorem routedCalls_quiet (cohort : FrozenRun hashBytes reservation target plan) :
    AllQuiet (cohort.routedCalls journaled) := by
  unfold FrozenRun.routedCalls
  have hone : ∀ event : BatchEvent, event.Quiet → AllQuiet [event] := fun _ => .single
  apply AllQuiet.append
  · apply AllQuiet.append
    · apply AllQuiet.append
      · apply AllQuiet.append
        · exact (hone _ ⟨rfl, rfl⟩).append (reached_quiet _ _ _)
        · exact reached_quiet _ _ _
      · exact hone _ ⟨rfl, rfl⟩
    · exact reached_quiet _ _ _
  · exact reached_quiet _ _ _

/-- The commit follows the script, and is alone. -/
theorem Published.of_commit (cohort : FrozenRun hashBytes reservation target plan)
    {staged : StageAnswer} (hpublishable : staged.publishable = true)
    {answer : Option (Option BatchPublicationReceipt)} {after : List BatchEvent}
    (hafter : AllQuiet after)
    (hsettles : ∃ event ∈ BatchEvent.commit answer :: after, event.settles = true) :
    Published hashBytes reservation target plan journaled
      (cohort.script journaled staged ++ .commit answer :: after) where
  once := by
    intro before' answer' after' h
    have hscript : ∀ event ∈ cohort.script journaled staged, event.isCommit = false := by
      intro event he
      rcases List.mem_append.mp he with he | he
      · rcases List.mem_append.mp he with he | he
        · exact (routedCalls_quiet cohort event he).1
        · rw [List.mem_singleton.mp he]
          rfl
      · exact (reached_quiet _ _ _ event he).1
    obtain ⟨rfl, -, rfl⟩ := split_unique (p := BatchEvent.isCommit) h hscript
      (fun e he => (hafter e he).1) rfl
    refine ⟨?_, cohort, staged, hpublishable, rfl⟩
    intro event he
    rcases List.mem_append.mp he with he | he
    · exact hscript event he
    · exact (hafter event he).1
  settled := by
    intro before' staged' after' h hpublishable'
    have hrest : ∀ event ∈ reached journaled .exportStaged cohort.routing ++
        .commit answer :: after, event.opens = false := by
      intro event he
      rcases List.mem_append.mp he with he | he
      · exact (reached_quiet _ _ _ event he).2
      · rcases List.mem_cons.mp he with rfl | he
        · rfl
        · exact (hafter event he).2
    unfold FrozenRun.script at h
    rw [List.append_assoc, List.append_assoc, List.singleton_append] at h
    obtain ⟨-, -, rfl⟩ := split_unique (p := BatchEvent.opens) h
      (fun e he => (routedCalls_quiet cohort e he).2) hrest hpublishable'
    obtain ⟨event, he, hs⟩ := hsettles
    exact ⟨event, List.mem_append_right _ he, hs⟩

end Traces

/-! ### One call -/

section Calls

variable {α β : Type} {s : List BatchEvent} {Q : β → List BatchEvent → Prop}
  {R : BatchRaised ε → List BatchEvent → Prop} {f : α → BatchRun ε β}

theorem exec_call (answer : List BatchEvent → Except ε α) (event : Option α → BatchEvent)
    (s : List BatchEvent) :
    exec (BatchRun.call answer event) s = match answer s with
      | .ok a => (.ok a, s ++ [event (some a)])
      | .error e => (.error (.host e), s ++ [event none]) := by
  unfold BatchRun.call
  rw [exec_bind, exec_get]
  dsimp only
  cases answer s <;> rfl

theorem call_spec (answer : List BatchEvent → Except ε α) (event : Option α → BatchEvent) :
    Triple (fun t => t = s) (BatchRun.call answer event)
      (fun a t => t = s ++ [event (some a)]) fun _ t => t = s ++ [event none] := by
  intro s' hs
  subst hs
  rw [exec_call]
  cases answer s' <;> rfl

theorem call_then {answer : List BatchEvent → Except ε α} {event : Option α → BatchEvent}
    (hf : ∀ a, Triple (fun t => t = s ++ [event (some a)]) (f a) Q R)
    (hr : ∀ e, R e (s ++ [event none])) :
    Triple (fun t => t = s) (BatchRun.call answer event >>= f) Q R := by
  refine Triple.bind ((call_spec answer event).conseq (fun _ h => h) (fun _ _ h => h) ?_) hf
  rintro e _ rfl
  exact hr e

theorem lift_then {x : Except Raised α} (hf : ∀ a, x = .ok a → Triple (fun t => t = s) (f a) Q R)
    (hr : ∀ e, x = .error e → R (.own e) s) :
    Triple (fun t => t = s) (BatchRun.lift x >>= f) Q R := by
  intro s' hs
  subst hs
  rw [exec_bind]
  cases x with
  | ok a => exact hf a rfl s' rfl
  | error e => exact hr e rfl

/-- The trace grows by quiet calls. -/
def QuietFrom (s t : List BatchEvent) : Prop := ∃ added, AllQuiet added ∧ t = s ++ added

theorem QuietFrom.refl : QuietFrom s s := ⟨[], .nil, (List.append_nil s).symm⟩

theorem QuietFrom.single {event : BatchEvent} (h : event.Quiet) : QuietFrom s (s ++ [event]) :=
  ⟨[event], .single h, rfl⟩

theorem QuietFrom.trans {t u : List BatchEvent} (h : QuietFrom s t) (h' : QuietFrom t u) :
    QuietFrom s u := by
  obtain ⟨added, ha, rfl⟩ := h
  obtain ⟨added', ha', rfl⟩ := h'
  exact ⟨added ++ added', ha.append ha', List.append_assoc s added added'⟩

end Calls

/-! ### One phase -/

section Phases

variable {host : BatchHost hashBytes ε} {reservation : ProductionBatchReservation}
  {phase : ProductionBatchPhase} {binding : Sha256} {s : List BatchEvent}

theorem persist_spec : Triple (fun t => t = s) (host.persist reservation phase binding)
    (fun _ t => t = s ++ if host.journal.isSome then [.record phase binding true] else [])
    fun _ t => QuietFrom s t := by
  unfold BatchHost.persist
  cases host.journal with
  | none => exact Triple.pure fun t h => h.trans (List.append_nil s).symm
  | some record =>
      refine (call_spec _ _).conseq (fun _ h => h) (fun _ _ h => h) ?_
      rintro _ _ rfl
      exact .single ⟨rfl, rfl⟩

theorem persisted_quiet {journaled : Bool} :
    QuietFrom s (s ++ if journaled then [.record phase binding true] else []) := by
  cases journaled
  · exact ⟨[], .nil, rfl⟩
  · exact .single ⟨rfl, rfl⟩

/-- A phase is reached as its part of the script says, or stops quietly. -/
theorem reach_spec : Triple (fun t => t = s) (host.reach reservation phase binding)
    (fun _ t => t = s ++ reached host.journal.isSome phase binding) fun _ t => QuietFrom s t := by
  refine Triple.bind persist_spec fun _ => ?_
  apply call_then
  · intro _
    apply call_then
    · rintro (_ | _)
      · apply Triple.pure
        rintro _ rfl
        unfold reached
        rw [List.append_assoc, List.append_assoc]
        rfl
      · apply Triple.throw
        rintro _ rfl
        exact (persisted_quiet.trans (.single ⟨rfl, rfl⟩)).trans (.single ⟨rfl, rfl⟩)
    · intro _
      exact (persisted_quiet.trans (.single ⟨rfl, rfl⟩)).trans (.single ⟨rfl, rfl⟩)
  · intro _
    exact persisted_quiet.trans (.single ⟨rfl, rfl⟩)

theorem persist_quiet : Triple (fun t => QuietFrom s t) (host.persist reservation phase binding)
    (fun _ t => QuietFrom s t) fun _ t => QuietFrom s t := by
  intro t ht
  refine (persist_spec.conseq (fun _ h => h) ?_ fun _ _ h => ht.trans h) t rfl
  rintro _ _ rfl
  exact ht.trans persisted_quiet

/-- The last checkpoint cannot cancel. -/
theorem completed_quiet : Triple (fun t => QuietFrom s t)
    (host.checkpointed phase (pure false)) (fun _ t => QuietFrom s t) fun _ t => QuietFrom s t := by
  intro t ht
  have hone : ∀ returned, QuietFrom s (t ++ [.checkpoint phase returned]) := fun _ =>
    ht.trans (.single ⟨rfl, rfl⟩)
  refine call_then (s := t) (fun _ => Triple.pure ?_) (fun _ => hone _) t rfl
  rintro _ rfl
  exact hone _

theorem reach_then {β : Type} {Q : β → List BatchEvent → Prop}
    {R : BatchRaised ε → List BatchEvent → Prop} {f : Unit → BatchRun ε β}
    (hf : Triple (fun t => t = s ++ reached host.journal.isSome phase binding) (f ()) Q R)
    (hr : ∀ e t, QuietFrom s t → R e t) :
    Triple (fun t => t = s) (host.reach reservation phase binding >>= f) Q R :=
  Triple.bind (reach_spec.conseq (fun _ h => h) (fun _ _ h => h) hr) fun _ => hf

end Phases

/-! ### The run -/

section Law

variable {host : BatchHost hashBytes ε} {reservation : ProductionBatchReservation}
  {target : ProductionBatchTarget} {plan : CompiledVerificationPlan}

variable (host reservation target plan) in
/-- What a result says: it is made of the cohort whose script the commit
followed and of the receipt of that commit. -/
def ResultOf (result : ProductionBatchResult) (calls : List BatchEvent) : Prop :=
  ∃ (cohort : FrozenRun hashBytes reservation target plan) (staged : StageAnswer)
    (after : List BatchEvent),
    calls = cohort.script host.journal.isSome staged ++
      .commit (some (some result.publication)) :: after ∧
    result.manifest = cohort.manifest ∧ result.report = cohort.report ∧
      result.decisions = cohort.decisions

variable (host reservation target plan) in
/-- The law of a trace, for this host. -/
abbrev Lawful (calls : List BatchEvent) : Prop :=
  Published hashBytes reservation target plan host.journal.isSome calls

/-- The phase and the commit, or the handler has closed the publication. -/
theorem commitOrClose_spec (cohort : FrozenRun hashBytes reservation target plan)
    {staged : StageAnswer} (hpublishable : staged.publishable = true) :
    Triple (fun t => t = cohort.routedCalls host.journal.isSome ++ [.stage (some staged)])
      (host.commitOrClose reservation cohort.routing)
      (fun publication t => t = cohort.script host.journal.isSome staged ++
        [.commit (some publication)])
      fun _ t => Lawful host reservation target plan t := by
  refine Triple.tryCatch (I := fun _ t =>
    QuietFrom (cohort.routedCalls host.journal.isSome ++ [.stage (some staged)]) t ∨
      t = cohort.script host.journal.isSome staged ++ [.commit none]) ?_ ?_
  · apply reach_then
    · refine (call_spec _ _).conseq (fun _ h => h) (fun _ _ h => h) ?_
      intro _ t h
      exact .inr h
    · intro _ t h
      exact .inl h
  · intro raised s hs
    -- the close is called in either case, whether or not it raises
    have hclose : ∀ returned, Lawful host reservation target plan (s ++ [.close returned]) := by
      intro returned
      rcases hs with ⟨added, hadded, rfl⟩ | rfl
      · rw [List.append_assoc, List.append_assoc]
        exact .of_closed (routedCalls_quiet cohort) hadded
      · rw [List.append_assoc]
        exact .of_commit cohort hpublishable (.single ⟨rfl, rfl⟩)
          ⟨.close returned, List.mem_cons_of_mem _ (List.mem_singleton_self _), rfl⟩
    have hthen : Triple (fun t => t = s)
        (BatchRun.call host.close (.close ·.isSome) >>= fun _ => throw raised)
        (fun (_ : Option BatchPublicationReceipt) _ => False)
        fun _ t => Lawful host reservation target plan t := by
      apply call_then
      · intro _
        apply Triple.throw
        rintro _ rfl
        exact hclose _
      · intro _
        exact hclose _
    exact hthen.conseq (fun _ h => h) (fun _ _ h => h.elim) (fun _ _ h => h) s rfl

/-- From the staged publication on. -/
theorem publish_spec (cohort : FrozenRun hashBytes reservation target plan) (staged : StageAnswer) :
    Triple (fun t => t = cohort.routedCalls host.journal.isSome ++ [.stage (some staged)])
      (host.publish reservation cohort.manifest cohort.report cohort.decisions cohort.routing staged)
      (fun result t => Lawful host reservation target plan t ∧
        ResultOf host reservation target plan result t)
      fun _ t => Lawful host reservation target plan t := by
  have hafter : ∀ (publication : Option BatchPublicationReceipt) (t : List BatchEvent),
      QuietFrom (cohort.script host.journal.isSome staged ++ [.commit (some publication)]) t →
      staged.publishable = true → Lawful host reservation target plan t := by
    rintro publication _ ⟨added, hadded, rfl⟩ hpublishable
    rw [List.append_assoc]
    exact .of_commit cohort hpublishable hadded ⟨_, List.mem_cons_self, rfl⟩
  apply lift_then
  · intro _ hensured
    have hpublishable : staged.publishable = true := ensure_ok_iff.mp hensured
    refine Triple.bind (commitOrClose_spec cohort hpublishable) fun answer => ?_
    apply lift_then
    · intro publication hreceipt
      have hanswer : answer = some publication := by
        cases answer with
        | none => cases hreceipt
        | some _ => exact congrArg some (Except.ok.inj hreceipt)
      subst hanswer
      have hpersist : Triple
          (QuietFrom (cohort.script host.journal.isSome staged ++
            [.commit (some (some publication))]))
          (host.persist reservation .completed publication.bundleSha256) _ _ := persist_quiet
      refine Triple.bind (hpersist.conseq ?_ (fun _ _ h => h)
        fun _ t h => hafter _ t h hpublishable) fun _ => ?_
      · rintro _ rfl
        exact .refl
      refine Triple.bind (completed_quiet.conseq (fun _ h => h) (fun _ _ h => h)
        fun _ t h => hafter _ t h hpublishable) fun _ => ?_
      apply Triple.pure
      rintro _ ⟨added, hadded, rfl⟩
      refine ⟨hafter _ _ ⟨added, hadded, rfl⟩ hpublishable, cohort, staged, added, ?_, rfl, rfl, rfl⟩
      exact List.append_assoc _ _ _
    · intro _ _
      exact hafter answer _ .refl hpublishable
  · -- what was staged is no publication
    intro _ hrefused
    have hopens : staged.publishable = false := by
      cases h : staged.publishable with
      | false => rfl
      | true =>
          rw [h] at hrefused
          cases hrefused
    exact .of_quiet ((routedCalls_quiet cohort).append (.single ⟨rfl, hopens⟩))

/-- The law of every run. -/
theorem runAtomicProductionBatch_spec :
    Triple (fun t => t = []) (host.runAtomicProductionBatch reservation target plan)
      (fun result t => Lawful host reservation target plan t ∧
        ResultOf host reservation target plan result t)
      fun _ t => Lawful host reservation target plan t := by
  have hquiet : ∀ {calls : List BatchEvent}, AllQuiet calls → ∀ (_ : BatchRaised ε) t,
      QuietFrom calls t → Lawful host reservation target plan t := by
    rintro calls hcalls _ _ ⟨added, hadded, rfl⟩
    exact .of_quiet (hcalls.append hadded)
  have hone : ∀ {calls : List BatchEvent} (event : BatchEvent), AllQuiet calls → event.Quiet →
      AllQuiet (calls ++ [event]) := fun _ hcalls hevent => hcalls.append (.single hevent)
  refine lift_then (fun rule _ => ?_) fun _ _ => .of_quiet .nil
  refine call_then (fun built => ?_) fun _ => .of_quiet (hone _ .nil ⟨rfl, rfl⟩)
  have h₁ := hone (.build true) .nil ⟨rfl, rfl⟩
  refine lift_then (fun candidates _ => ?_) fun _ _ => .of_quiet h₁
  refine lift_then (fun manifest hfrozen => ?_) fun _ _ => .of_quiet h₁
  refine reach_then ?_ (hquiet h₁)
  have h₂ := h₁.append (reached_quiet host.journal.isSome .candidatesReady manifest.manifestSha256)
  refine reach_then ?_ (hquiet h₂)
  have h₃ := h₂.append (reached_quiet host.journal.isSome .cohortFrozen manifest.manifestSha256)
  refine call_then (fun observed => ?_) fun _ => .of_quiet (hone _ h₃ ⟨rfl, rfl⟩)
  have h₄ := hone (.verify true) h₃ ⟨rfl, rfl⟩
  refine lift_then (fun batchResult _ => ?_) fun _ _ => .of_quiet h₄
  refine lift_then (fun batchBinding hverified => ?_) fun _ _ => .of_quiet h₄
  refine reach_then ?_ (hquiet h₄)
  have h₅ := h₄.append (reached_quiet host.journal.isSome .batchVerified batchBinding)
  refine lift_then (fun report hreported => ?_) fun _ _ => .of_quiet h₅
  refine lift_then (fun decisions hdecided => ?_) fun _ _ => .of_quiet h₅
  refine lift_then (fun routing hrouted => ?_) fun _ _ => .of_quiet h₅
  refine reach_then ?_ (hquiet h₅)
  have h₆ := h₅.append (reached_quiet host.journal.isSome .routed routing)
  refine call_then (fun staged => ?_) fun _ => .of_quiet (hone _ h₆ ⟨rfl, rfl⟩)
  exact publish_spec ⟨candidates, manifest, batchResult, batchBinding, report, decisions, routing,
    hfrozen, hverified, hreported, hdecided, hrouted⟩ staged

end Law

/-- **A publication is journaled, not cancelled, and not leaked.**  Whatever
the host does, in the calls of a run: a commit is the only one and comes after
exactly the script of one frozen cohort (each phase recorded, if there is a
journal, and each question for a cancellation answered false); a staged
publication is committed or closed; and a result is made of the decisions
bound in that script and of the receipt of that commit. -/
theorem publication_journaled (host : BatchHost hashBytes ε)
    (reservation : ProductionBatchReservation) (target : ProductionBatchTarget)
    (plan : CompiledVerificationPlan) :
    Lawful host reservation target plan
        (exec (host.runAtomicProductionBatch reservation target plan) []).2 ∧
      ∀ result, (exec (host.runAtomicProductionBatch reservation target plan) []).1 = .ok result →
        ResultOf host reservation target plan result
          (exec (host.runAtomicProductionBatch reservation target plan) []).2 := by
  have hspec : Triple _ (host.runAtomicProductionBatch reservation target plan) _ _ :=
    runAtomicProductionBatch_spec
  have h := hspec [] rfl
  rcases hx : exec (host.runAtomicProductionBatch reservation target plan) [] with
    ⟨raised | result, calls⟩
  · rw [hx] at h
    refine ⟨h, fun _ h => ?_⟩
    cases h
  · rw [hx] at h
    refine ⟨h.1, fun result' h' => ?_⟩
    cases h'
    exact h.2

/-! ### Hosts that do not look at the trace -/

/-- The exception, whoever raised it. -/
def BatchRaised.value : BatchRaised Raised → Raised
  | .own raised => raised
  | .host raised => raised

/-- Plain callbacks as a host.  Asked whether it is cancelled, it answers for
the phase of the checkpoint just passed. -/
def BatchCallbacks.host (cb : BatchCallbacks hashBytes) : BatchHost hashBytes Raised where
  buildCandidates _ reservation := (cb.buildCandidates reservation).map some
  verifyBatch _ manifest candidates rule := (cb.verifyBatch manifest candidates rule).map some
  stage _ manifest report decisions candidates :=
    (cb.stage manifest report decisions candidates).map fun _ => ⟨true, true⟩
  commit _ := cb.commit.map some
  close _ := .ok ()
  checkpoint _ phase := cb.checkpoint phase
  cancelled calls :=
    match calls.getLast? with
    | some (.checkpoint phase _) => .ok (cb.cancelled phase)
    | _ => .ok false
  journal := some fun _ => cb.record

section Computes

variable {α β γ : Type}

/-- From any trace, the program returns or raises what the computation does. -/
def Computes (m : BatchRun Raised α) (x : Except Raised α) : Prop :=
  ∀ s, (exec m s).1.mapError BatchRaised.value = x

theorem Computes.pure (a : α) : Computes (Pure.pure a) (.ok a) := fun _ => rfl

theorem Computes.lift (x : Except Raised α) : Computes (BatchRun.lift x) x := by
  intro s
  cases x <;> rfl

theorem Computes.bind {m : BatchRun Raised α} {x : Except Raised α} {f : α → BatchRun Raised β}
    {g : α → Except Raised β} (hm : Computes m x) (hf : ∀ a, Computes (f a) (g a)) :
    Computes (m >>= f) (x >>= g) := by
  intro s
  have hx := hm s
  rw [exec_bind]
  rcases hrun : exec m s with ⟨e | a, s'⟩
  · rw [hrun] at hx
    subst hx
    rfl
  · rw [hrun] at hx
    subst hx
    exact hf a s'

/-- A call whose answer does not depend on the trace. -/
theorem Computes.call_map {answer : List BatchEvent → Except Raised γ}
    {event : Option γ → BatchEvent} {x : Except Raised α} {h : α → γ}
    {f : γ → BatchRun Raised β} {g : α → Except Raised β} (hanswer : ∀ s, answer s = x.map h)
    (hf : ∀ a, Computes (f (h a)) (g a)) :
    Computes (BatchRun.call answer event >>= f) (x >>= g) := by
  intro s
  rw [exec_bind, exec_call, hanswer s]
  cases x with
  | ok a => exact hf a _
  | error e => rfl

end Computes

section Refines

variable (cb : BatchCallbacks hashBytes) (reservation : ProductionBatchReservation)
  {phase : ProductionBatchPhase} {binding : Sha256}

theorem computes_persist :
    Computes (cb.host.persist reservation phase binding)
      (cb.record reservation.batchId phase binding) := by
  intro s
  unfold BatchHost.persist BatchCallbacks.host
  dsimp only
  rw [exec_call]
  cases cb.record reservation.batchId phase binding <;> rfl

theorem computes_checkpointed :
    Computes (cb.host.checkpointed phase (BatchRun.call cb.host.cancelled .cancelled))
      (cb.checkpoint phase >>= fun _ =>
        ensure (!cb.cancelled phase) "production batch cancelled") := by
  intro s
  unfold BatchHost.checkpointed BatchCallbacks.host
  rw [exec_bind, exec_call]
  dsimp only
  cases cb.checkpoint phase with
  | error e => rfl
  | ok _ =>
      dsimp only
      rw [exec_bind, exec_call]
      rw [List.getLast?_concat, ok_bind]
      dsimp only
      cases cb.cancelled phase <;> rfl

theorem computes_reach :
    Computes (cb.host.reach reservation phase binding) (cb.reach reservation phase binding) :=
  (computes_persist cb reservation).bind fun _ => computes_checkpointed cb

theorem computes_commitOrClose {routing : Sha256} :
    Computes (cb.host.commitOrClose reservation routing)
      (cb.reach reservation .exportStaged routing >>= fun _ => cb.commit.map some) := by
  have htry : Computes (do
      cb.host.reach reservation .exportStaged routing
      BatchRun.call cb.host.commit .commit)
      (cb.reach reservation .exportStaged routing >>= fun _ => cb.commit.map some) := by
    apply (computes_reach cb reservation).bind
    intro _ s
    rw [exec_call]
    unfold BatchCallbacks.host
    dsimp only
    cases cb.commit <;> rfl
  intro s
  unfold BatchHost.commitOrClose
  rw [exec_tryCatch, ← htry s]
  rcases exec _ s with ⟨raised | answer, s'⟩
  · -- the handler raises the exception again, once the close has returned
    dsimp only
    rw [exec_bind, exec_call]
    rfl
  · rfl

theorem computes_publish (manifest : FrozenProductionCohort) (report : VerificationReport)
    (decisions : List ArtifactDecision) (routing : Sha256) :
    Computes (cb.host.publish reservation manifest report decisions routing ⟨true, true⟩) (do
      cb.reach reservation .exportStaged routing
      let publication ← cb.commit
      cb.record reservation.batchId .completed publication.bundleSha256
      cb.checkpoint .completed
      return (⟨manifest, report, decisions, publication⟩ : ProductionBatchResult)) := by
  have hrest : ∀ answer : Option BatchPublicationReceipt, Computes (do
      let publication ← BatchRun.lift (BatchHost.validatePublication answer)
      cb.host.persist reservation .completed publication.bundleSha256
      cb.host.checkpointed .completed (pure false)
      return (⟨manifest, report, decisions, publication⟩ : ProductionBatchResult)) (do
      let publication ← BatchHost.validatePublication answer
      cb.record reservation.batchId .completed publication.bundleSha256
      cb.checkpoint .completed
      return (⟨manifest, report, decisions, publication⟩ : ProductionBatchResult)) := by
    intro answer
    refine (Computes.lift _).bind fun publication => ?_
    refine (computes_persist cb reservation).bind fun _ => ?_
    refine Computes.bind ?_ fun _ => Computes.pure _
    intro s
    unfold BatchHost.checkpointed BatchCallbacks.host
    rw [exec_bind, exec_call]
    dsimp only
    cases cb.checkpoint .completed <;> rfl
  have h : Computes (cb.host.commitOrClose reservation routing >>= _) _ :=
    (computes_commitOrClose cb reservation).bind hrest
  intro s
  refine (h s).trans ?_
  cases cb.reach reservation .exportStaged routing with
  | error _ => rfl
  | ok _ => cases cb.commit <;> rfl

/-- **A host that does not look at the trace gets the plain run.** -/
theorem computes_batch (target : ProductionBatchTarget) (plan : CompiledVerificationPlan) :
    Computes (cb.host.runAtomicProductionBatch reservation target plan)
      (SpecStyle.runAtomicProductionBatch cb reservation target plan) := by
  refine (Computes.lift _).bind fun rule => ?_
  refine Computes.call_map (fun _ => rfl) fun built => ?_
  refine (Computes.lift _).bind fun candidates => ?_
  refine (Computes.lift _).bind fun manifest => ?_
  refine (computes_reach cb reservation).bind fun _ => ?_
  refine (computes_reach cb reservation).bind fun _ => ?_
  refine Computes.call_map (fun _ => rfl) fun observed => ?_
  refine (Computes.lift _).bind fun batchResult => ?_
  refine (Computes.lift _).bind fun batchBinding => ?_
  refine (computes_reach cb reservation).bind fun _ => ?_
  refine (Computes.lift _).bind fun report => ?_
  refine (Computes.lift _).bind fun decisions => ?_
  refine (Computes.lift _).bind fun routing => ?_
  refine (computes_reach cb reservation).bind fun _ => ?_
  refine Computes.call_map (fun _ => rfl) fun _ => ?_
  exact computes_publish cb reservation manifest report decisions routing

end Refines

end SpecStyle
