/-
SpecStyle/Workflow/JobStoreCoherence.lean

The job store keeps a journal.

A persisted state that decodes is that of a journal (`Persisted`).  Appending
an event extends the journal by it (`appendEvent_triple`), saving a snapshot
moves its saved state (`saveSnapshot_triple`), and a call that raises leaves
a directory that, if it can be read at all, holds the old journal or the new
one.  From the first follows the coherence of append and load
(`append_coherent`).
-/
import SpecStyle.Workflow.JobJournal

namespace SpecStyle

open PyLib

variable {hash : Bytes → Sha256} {d : Dir} {jobId : JobId} {p t : State} {J : Journal}

/-! ### Persisted journals -/

/-- The persisted bytes are those of the journal. -/
structure Persisted (jobId : JobId) (p : State) (J : Journal) : Prop where
  snapshot : ∃ data, p.snapshot = some data ∧ decodeSnapshot data = .ok J.saved.snapshot
  events : decodeEvents jobId p.eventBytes = .ok J.events
  job : J.jobId = jobId

theorem Persisted.congr (h : Persisted jobId p J) (hs : t.snapshot = p.snapshot)
    (he : t.events = p.events) : Persisted jobId t J where
  snapshot := by rw [hs]; exact h.snapshot
  events := by rw [State.eventBytes, he]; exact h.events
  job := h.job

/-- What is decoded from a journal. -/
def Journal.decoded (J : Journal) (p : State) : DecodedState :=
  ⟨p, some J.saved.snapshot, J.events, some J.state⟩

/-- Nothing is decoded where there is no snapshot. -/
def undecoded (p : State) : DecodedState := ⟨p, none, [], none⟩

theorem decodePersisted_absent (h : p.snapshot = none) :
    decodePersisted jobId p = .ok (undecoded p) := by
  unfold decodePersisted State.absent
  rw [h]
  rfl

/-- **What decodes is a journal.** -/
theorem decodePersisted_ok {D : DecodedState} :
    decodePersisted jobId p = .ok D ↔
      (p.snapshot = none ∧ D = undecoded p) ∨ ∃ J, Persisted jobId p J ∧ D = J.decoded p := by
  rcases hp : p.snapshot with - | data
  · rw [decodePersisted_absent hp]
    constructor
    · intro h
      cases h
      exact .inl ⟨rfl, rfl⟩
    · rintro (⟨-, rfl⟩ | ⟨J, ⟨⟨data, hd, -⟩, -, -⟩, -⟩)
      · rfl
      · rw [hp] at hd
        cases hd
  · have habs : p.absent = false := by rw [State.absent, hp]; rfl
    unfold decodePersisted
    rw [habs]
    constructor
    · intro h
      right
      rcases hdec : decodePresent jobId p with r | D'
      · rw [hdec] at h
        cases h
      · rw [hdec] at h
        cases h
        unfold decodePresent at hdec
        rw [hp, Option.getD_some] at hdec
        rcases hsn : decodeSnapshot data with r | snapshot
        · rw [hsn] at hdec
          cases hdec
        rcases hev : decodeEvents jobId p.eventBytes with r | events
        · rw [hsn, hev] at hdec
          cases hdec
        rcases hv : validatedSnapshot jobId snapshot events with r | state
        · rw [hsn, hev] at hdec
          change (validatedSnapshot jobId snapshot events >>= _) = _ at hdec
          rw [hv] at hdec
          cases hdec
        rw [hsn, hev] at hdec
        change (validatedSnapshot jobId snapshot events >>= _) = _ at hdec
        rw [hv] at hdec
        obtain ⟨J, hj, rfl, rfl, rfl⟩ := validatedSnapshot_iff.mp hv
        exact ⟨J, ⟨⟨data, hp, hsn⟩, hev, hj⟩, (Except.ok.inj hdec).symm⟩
    · rintro (⟨h, -⟩ | ⟨J, ⟨⟨data', hd, hsn⟩, hev, hj⟩, rfl⟩)
      · cases h
      · rw [hp] at hd
        cases hd
        have hv : validatedSnapshot jobId J.saved.snapshot J.events = .ok J.state :=
          validatedSnapshot_iff.mpr ⟨J, hj, rfl, rfl, rfl⟩
        have hdec : decodePresent jobId p = .ok (J.decoded p) := by
          unfold decodePresent
          rw [hp, Option.getD_some, hsn, hev]
          change (validatedSnapshot jobId J.saved.snapshot J.events >>= _) = _
          rw [hv]
          rfl
        rw [hdec]
        rfl

theorem decodePersisted_journal (h : Persisted jobId p J) :
    decodePersisted jobId p = .ok (J.decoded p) :=
  decodePersisted_ok.mpr (.inr ⟨J, h, rfl⟩)

/-! ### Reading a directory -/

/-- What `_decode_job` answers. -/
def decodeDir (hash : Bytes → Sha256) (jobId : JobId) (d : Dir) : Except StoreExn DecodedState :=
  (readDir hash d).mapError translateStorage >>= fun p => (decodePersisted jobId p).mapError .raised

theorem liftRaised_views {α : Type} (r : Except Raised α) :
    Views d (liftRaised r) (r.mapError .raised) := by
  cases r
  · exact Views.throw _
  · exact Views.pure _

/-- An outcome of pure code, and then the rest. -/
theorem liftRaised_bind {α β : Type} {r : Except Raised α} {f : α → Store β}
    {Q : β → World → Prop} {R : StoreExn → World → Prop}
    (hf : ∀ a, r = .ok a → Triple (DirIs d) (f a) Q R) (hR : ∀ e w, w.dir = d → R e w) :
    Triple (DirIs d) (liftRaised r >>= f) Q R := by
  refine (liftRaised_views r).bind_triple (fun a ha => hf a ?_) hR
  rcases r with e | b
  · cases ha
  · cases ha
    rfl

theorem openDirectory_views : Views d openDirectory (.ok ()) :=
  (look_views _).bind_ok <| (look_views _).bind_ok <| (look_views _).bind_ok (Views.pure _)

theorem openOrCreateDirectory_views : Views d openOrCreateDirectory (.ok ()) :=
  openDirectory_views.bind_ok <| (look_views _).bind_ok openDirectory_views

theorem openJob_views (create : Bool) : Views d (openJob create) (.ok ()) := by
  cases create
  · exact openDirectory_views.bind_ok openDirectory_views
  · exact openOrCreateDirectory_views.bind_ok openOrCreateDirectory_views

theorem requireJobBinding_views : Views d requireJobBinding (.ok ()) :=
  (look_views _).bind_ok <| (look_views _).bind_ok (Views.pure _)

theorem closeJob_views : Views d closeJob (.ok ()) :=
  (look_views _).bind_ok <| (look_views _).bind_ok (Views.pure _)

theorem readJob_views : Views d (readJob hash) (readDir hash d) := by
  have hread := @read_views hash d
  unfold readJob
  refine (openJob_views false).bind_ok ?_
  rcases h : readDir hash d with e | p
  · rw [h] at hread
    exact hread.bind_error
  · rw [h] at hread
    exact hread.bind_ok <| requireJobBinding_views.bind_ok <| closeJob_views.bind_ok (Views.pure p)

theorem decodeJob_views : Views d (decodeJob hash jobId) (decodeDir hash jobId d) :=
  readJob_views.adapt.bind fun _ _ => liftRaised_views _

/-- An operation that only looks. -/
theorem operation_views {α : Type} {body : Store α} {r : Except StoreExn α} (h : Views d body r) :
    Views d (operation body) r := by
  unfold operation
  refine (look_views .storeError).adapt.bind_ok ?_
  rcases r with e | a
  · exact h.bind_error
  · exact h.bind_ok <| (look_views .storeError).adapt.bind_ok (Views.pure a)

/-- The state in a decoded state. -/
def DecodedState.loaded (D : DecodedState) : Except StoreExn JobState :=
  match D.state with
  | some state => .ok state
  | none => .error (.raised (.domain "job not found"))

theorem load_views : Views d (load hash jobId) (decodeDir hash jobId d >>= DecodedState.loaded) := by
  refine operation_views (decodeJob_views.bind fun D _ => ?_)
  unfold DecodedState.loaded
  rcases D.state with - | state
  · exact Views.throw _
  · exact Views.pure _

theorem getSnapshot_views :
    Views d (getSnapshot hash jobId) (decodeDir hash jobId d >>= fun D => .ok D.snapshot) :=
  operation_views (decodeJob_views.bind fun D _ => Views.pure D.snapshot)

theorem listEvents_views :
    Views d (listEvents hash jobId) (decodeDir hash jobId d >>= fun D => .ok D.events) :=
  operation_views (decodeJob_views.bind fun D _ => Views.pure D.events)

/-- What an operation answers when none of its calls fails. -/
def answer {α : Type} (m : Store α) (d : Dir) : Except StoreExn α := (exec m ⟨d, []⟩).1

/-- The directory holds the journal. -/
structure Holds (hash : Bytes → Sha256) (jobId : JobId) (d : Dir) (p : State) (J : Journal) :
    Prop where
  read : readDir hash d = .ok p
  persisted : Persisted jobId p J

theorem Holds.decodeDir (h : Holds hash jobId d p J) : decodeDir hash jobId d = .ok (J.decoded p) := by
  unfold SpecStyle.decodeDir
  rw [h.read]
  change (decodePersisted jobId p).mapError StoreExn.raised = _
  rw [decodePersisted_journal h.persisted]
  rfl

theorem Holds.load (h : Holds hash jobId d p J) : answer (load hash jobId) d = .ok J.state := by
  rw [answer, load_views.faultless, h.decodeDir]
  rfl

theorem Holds.listEvents (h : Holds hash jobId d p J) :
    answer (listEvents hash jobId) d = .ok J.events := by
  rw [answer, listEvents_views.faultless, h.decodeDir]
  rfl

theorem Holds.getSnapshot (h : Holds hash jobId d p J) :
    answer (getSnapshot hash jobId) d = .ok (some J.saved.snapshot) := by
  rw [answer, getSnapshot_views.faultless, h.decodeDir]
  rfl

/-- What can be decoded: a directory without a pair, or one that holds a journal. -/
theorem decodeDir_ok {D : DecodedState} (h : decodeDir hash jobId d = .ok D) :
    ∃ p, readDir hash d = .ok p ∧
      ((p.snapshot = none ∧ D = undecoded p) ∨ ∃ J, Persisted jobId p J ∧ D = J.decoded p) := by
  unfold decodeDir at h
  rcases hr : readDir hash d with e | p
  · rw [hr] at h
    cases h
  · rw [hr] at h
    change (decodePersisted jobId p).mapError StoreExn.raised = _ at h
    rcases hd : decodePersisted jobId p with e | D'
    · rw [hd] at h
      cases h
    · rw [hd] at h
      cases h
      exact ⟨p, rfl, decodePersisted_ok.mp hd⟩

/-- **A job that loads has a journal.** -/
theorem holds_of_load {s : JobState} (h : answer (load hash jobId) d = .ok s) :
    ∃ p J, Holds hash jobId d p J ∧ J.state = s := by
  rw [answer, load_views.faultless] at h
  rcases hd : decodeDir hash jobId d with e | D
  · rw [hd] at h
    cases h
  · rw [hd] at h
    obtain ⟨p, hr, ⟨-, rfl⟩ | ⟨J, hJ, rfl⟩⟩ := decodeDir_ok hd
    · cases h
    · exact ⟨p, J, ⟨hr, hJ⟩, Except.ok.inj h⟩

/-! ### Committing -/

/-- A domain error. -/
def StoreExn.isDomain : StoreExn → Bool
  | .raised r => r.isDomain
  | .file _ => false

/-- An infrastructure error, or an exception of the file layer. -/
def StoreExn.isInfrastructure : StoreExn → Bool
  | .raised (.infrastructure _) => true
  | .raised _ => false
  | .file _ => true

theorem StoreExn.isDomain_infrastructure {x : StoreExn} (h : x.isDomain = true) :
    x.isInfrastructure = false := by
  rcases x with r | e
  · cases r <;> first | rfl | cases h
  · cases h

theorem translateStorage_infrastructure (e : Exn) : (translateStorage e).isInfrastructure = true := by
  cases e <;> rfl

/-- A look whose exceptions are translated, and then the rest. -/
theorem translated_bind {α β : Type} {m : Fs α} {r : Except Exn α} {f : α → Store β}
    {Q : β → World → Prop} {R : StoreExn → World → Prop} (hm : Views d m r)
    (hf : ∀ a, r = .ok a → Triple (DirIs d) (f a) Q R)
    (hR : ∀ e w, e.isInfrastructure = true → w.dir = d → R e w) :
    Triple (DirIs d) (adapt translateStorage m >>= f) Q R := by
  refine (Triple.adapt (hm.triple.conseq (fun _ h => h) (fun _ _ h => h) ?_)).bind
    fun a => Triple.pure_pre (hf a)
  exact fun e w hw => hR _ w (translateStorage_infrastructure e) hw

/-- Whatever the directory shows is an outcome of the commit. -/
def ShowsOutcome (hash : Bytes → Sha256) (p : State) (snapshot : Bytes) (events : Option Bytes)
    (d : Dir) : Prop :=
  ∀ t, readDir hash d = .ok t → Outcome p snapshot events t

theorem Shows.outcome {snapshot : Bytes} {events : Option Bytes}
    (h : Shows hash d p.nextGeneration snapshot events t) : ShowsOutcome hash p snapshot events d := by
  intro u hu
  rw [h.read] at hu
  cases hu
  exact .inr ⟨h.snapshot, h.events, .inl h.generation⟩

/-- A commit of the store shows the new pair, or raises and shows an outcome. -/
theorem commitJob_triple (hp : readDir hash d = .ok p) (snapshot : Bytes) (events : Option Bytes) :
    Triple (DirIs d) (commitJob hash p snapshot events)
      (fun _ w => ∃ t, Shows hash w.dir p.nextGeneration snapshot events t)
      fun e w => e.isInfrastructure = true ∧ ShowsOutcome hash p snapshot events w.dir := by
  have hold : ∀ (e : Exn) (w : World), w.dir = d → (translateStorage e).isInfrastructure = true ∧
      ShowsOutcome hash p snapshot events w.dir := by
    intro e w hw
    refine ⟨translateStorage_infrastructure e, fun t ht => ?_⟩
    rw [hw] at ht
    exact Outcome.of_old rfl hp ht
  unfold commitJob
  refine Triple.adapt ((openJob_views true).bind_triple (fun _ _ => ?_) hold)
  refine ((commit_triple hp p snapshot events snapshotBytesEquivalent).conseq (fun _ h => h)
    (fun _ _ h => h) fun e w h => ⟨translateStorage_infrastructure e, h⟩).bind fun t => ?_
  refine Triple.of_dirs (K := fun d => Shows hash d p.nextGeneration snapshot events t)
    fun d' hd' => ?_
  have hnew : ∀ (e : Exn) (w : World), w.dir = d' → (translateStorage e).isInfrastructure = true ∧
      ShowsOutcome hash p snapshot events w.dir := by
    intro e w hw
    refine ⟨translateStorage_infrastructure e, ?_⟩
    rw [hw]
    exact hd'.outcome
  refine requireJobBinding_views.bind_triple (fun _ _ => ?_) hnew
  refine (closeJob_views.triple).conseq (fun _ h => h) (fun _ w hw => ⟨t, ?_⟩) hnew
  rw [hw.1]
  exact hd'

/-! ### Appending an event -/

theorem mapM_append_ok {α β : Type} {f : α → Except Raised β} {xs ys : List α} {as bs : List β}
    (hx : xs.mapM f = .ok as) (hy : ys.mapM f = .ok bs) : (xs ++ ys).mapM f = .ok (as ++ bs) := by
  rw [List.mapM_append, hx, hy]
  rfl

/-- **Appending to a log**: a log that decodes, with the line of an event after
it, decodes to its events and that one. -/
theorem decodeEvents_append {data : Bytes} {es : List Event} {e : Event}
    (hd : decodeEvents jobId data = .ok es) (hj : e.jobId = jobId) :
    decodeEvents jobId (data ++ (eventLine e ++ [newline])) = .ok (es ++ [e]) := by
  unfold decodeEvents at hd ⊢
  split at hd
  · cases hd
  next hend =>
  have hlast : ¬ (data ++ (eventLine e ++ [newline]) ≠ [] ∧
      (data ++ (eventLine e ++ [newline])).getLast? ≠ some newline) := by
    simp [List.getLast?_append]
  have hline : splitLines (eventLine e ++ [newline]) = [eventLine e] :=
    splitLines_line (eventLine_noBreak e) []
  -- the new line starts where the log ended
  have hsplit : splitLines (data ++ (eventLine e ++ [newline]))
      = splitLines data ++ [eventLine e] := by
    rcases List.eq_nil_or_concat data with rfl | ⟨rest, b, rfl⟩
    · exact hline
    · have hb : b = newline := by
        simpa using hend
      subst hb
      rw [List.concat_eq_append, List.append_assoc, List.singleton_append, splitLines_append, hline]
  have hlast' : [eventLine e].mapM (decodeLine jobId) = .ok [e] := by
    rw [List.mapM_cons, decodeLine_eventLine hj]
    rfl
  rw [if_neg hlast, hsplit]
  exact mapM_append_ok hd hlast'

/-- The persisted journal after an accepted event. -/
theorem Persisted.append {e : Event} {s : JobState} (h : Persisted jobId p J)
    (hs : J.state.step e = some s) (hsn : t.snapshot = p.snapshot)
    (hev : t.events = some (p.eventBytes ++ (eventLine e ++ [newline]))) :
    Persisted jobId t (J.append e s hs) where
  snapshot := by rw [hsn]; exact h.snapshot
  events := by
    obtain ⟨ha, -⟩ := JobState.step_cases hs
    rw [State.eventBytes, hev, J.append_events]
    exact decodeEvents_append h.events (ha.job.trans (J.state_jobId.trans h.job))
  job := h.job

/-- What an append writes is the journal with the event. -/
theorem Persisted.appended {e f : Event} {line : Bytes} (h : Persisted jobId p J)
    (hf : validateEvent jobId e J.state = .ok f) (hline : encodeEvent f = .ok line) :
    f = e.finalized J.state ∧ ∃ s, ∃ hs : J.state.step f = some s, ∀ t : State,
      t.snapshot = p.snapshot → t.events = some (p.eventBytes ++ line) →
      Persisted jobId t (J.append f s hs) := by
  obtain ⟨rfl, s, hs⟩ := (validateEvent_iff (J.state_jobId.trans h.job)).mp hf
  have hscalar := (encodeEvent_iff _).mp ⟨line, hline⟩
  rw [encodeEvent_scalar hscalar] at hline
  cases hline
  exact ⟨rfl, s, hs, fun t h1 h2 => h.append hs h1 h2⟩

/-- What is readable holds the journal or an extension of it. -/
def HoldsExtension (hash : Bytes → Sha256) (jobId : JobId) (J : Journal) (d : Dir) : Prop :=
  ∀ t, readDir hash d = .ok t → ∃ K, Persisted jobId t K ∧ J.Extends K

theorem Holds.holdsExtension {K : Journal} (h : Holds hash jobId d p K) (hK : J.Extends K) :
    HoldsExtension hash jobId J d := by
  intro t ht
  rw [h.read] at ht
  cases ht
  exact ⟨K, h.persisted, hK⟩

/-- **Appending an event.**  If it succeeds the directory holds the journal with
the event; if it raises, only an infrastructure error may have changed anything, and
whatever else has happened the directory holds an extension of the journal. -/
theorem appendEvent_triple (h : Holds hash jobId d p J) (e : Event) :
    Triple (DirIs d) (appendEvent hash jobId e)
      (fun f w => f = e.finalized J.state ∧ ∃ s, ∃ hs : J.state.step f = some s, ∃ t,
        Holds hash jobId w.dir t (J.append f s hs))
      fun x w => (x.isInfrastructure = false → w.dir = d) ∧ HoldsExtension hash jobId J w.dir := by
  have hkeep : ∀ (x : StoreExn) (w : World), w.dir = d →
      (x.isInfrastructure = false → w.dir = d) ∧ HoldsExtension hash jobId J w.dir := by
    intro x w hw
    rw [hw]
    exact ⟨fun _ => rfl, h.holdsExtension (Journal.Extends.refl J)⟩
  obtain ⟨data, hdata, -⟩ := h.persisted.snapshot
  unfold appendEvent
  rw [rebuildEvent_self]
  refine liftRaised_bind (fun e' he => ?_) hkeep
  cases he
  unfold operation
  refine (look_views .storeError).adapt.bind_triple (fun _ _ => ?_) hkeep
  refine Triple.bind (I := fun f w => f = e.finalized J.state ∧ ∃ s,
    ∃ hs : J.state.step f = some s, ∃ t, Holds hash jobId w.dir t (J.append f s hs)) ?_ fun f => ?_
  · refine decodeJob_views.bind_triple (fun D hD => ?_) hkeep
    rw [h.decodeDir] at hD
    cases hD
    simp only [Journal.decoded]
    refine liftRaised_bind (fun f hf => ?_) hkeep
    refine liftRaised_bind (fun line hline => ?_) hkeep
    -- what the commit shows is the journal with the event, or without it
    obtain ⟨rfl, s, hs, hnew⟩ := h.persisted.appended hf hline
    refine Triple.ite (fun _ => Triple.throw fun w hw => hkeep _ w hw) fun _ => ?_
    rw [hdata] at hnew
    rw [hdata, Option.getD_some]
    refine ((commitJob_triple h.read data _).conseq (fun _ h => h) (fun _ _ h => h) ?_).bind
      fun _ => Triple.pure ?_
    · rintro x w ⟨hx, hout⟩
      refine ⟨fun hnot => (Bool.false_ne_true (hnot.symm.trans hx)).elim, fun t ht => ?_⟩
      rcases hout t ht with ⟨h1, h2, -⟩ | ⟨h1, h2, -⟩
      · exact ⟨J, h.persisted.congr h1 h2, Journal.Extends.refl J⟩
      · exact ⟨_, hnew t h1 h2, J.extends_append hs⟩
    · rintro w ⟨t, ht⟩
      exact ⟨rfl, s, hs, t, ht.read, hnew t ht.snapshot ht.events⟩
  · refine Triple.of_dirs (K := fun d' => f = e.finalized J.state ∧ ∃ s,
      ∃ hs : J.state.step f = some s, ∃ t, Holds hash jobId d' t (J.append f s hs)) ?_
    rintro d' ⟨hf, s, hs, t, ht⟩
    have hext : HoldsExtension hash jobId J d' := ht.holdsExtension (J.extends_append hs)
    refine translated_bind (look_views .storeError) (fun _ _ => Triple.pure fun w hw => ?_) ?_
    · rw [show w.dir = d' from hw]
      exact ⟨hf, s, hs, t, ht⟩
    · intro x w hx hw
      rw [hw]
      exact ⟨fun hnot => (Bool.false_ne_true (hnot.symm.trans hx)).elim, hext⟩

/-- What an event does to the state of a job. -/
structure Applied (s : JobState) (e : Event) (s' : JobState) : Prop where
  status : s'.job.status = e.toState
  sequence : s'.lastSequence = e.sequence
  attempts : s'.attemptIds = s.attemptIds ++ e.payload.newAttempt.toList
  bundles : s'.bundleNames = s.bundleNames ++ e.payload.newBundle.toList
  updated : s'.job.updatedAt = e.timestamp
  material : s'.job.material = s.job.material

theorem JobState.applied_of_step {s s' : JobState} {e : Event} (h : s.step e = some s') :
    Applied s e s' := by
  obtain ⟨_, rfl⟩ := step_cases h
  exact ⟨rfl, rfl, rfl, rfl, rfl, rfl⟩

/-- What an append may do to a job in the state `s` with the events `es`. -/
inductive Appends (hash : Bytes → Sha256) (jobId : JobId) (d : Dir) (s : JobState)
    (es : List Event) (e : Event) : Except StoreExn Event × World → Prop
  | accepted {w : World} {s' : JobState}
      (events : answer (listEvents hash jobId) w.dir = .ok (es ++ [e.finalized s]))
      (state : answer (load hash jobId) w.dir = .ok s') (applied : Applied s (e.finalized s) s')
      (snapshot : answer (getSnapshot hash jobId) w.dir = answer (getSnapshot hash jobId) d) :
      Appends hash jobId d s es e (.ok (e.finalized s), w)
  | refused {x : StoreExn} {w : World} (unchanged : x.isDomain = true → w.dir = d) :
      Appends hash jobId d s es e (.error x, w)

/-- **Append and load agree.**  On a job that loads, whatever fails meanwhile: an
append that succeeds adds the event under its next number to the events, moves
the state by it and leaves the snapshot; an append that raises a domain error
changes nothing; and the event is valid exactly if the extended log replays. -/
theorem append_coherent {s : JobState} {es : List Event}
    (hload : answer (load hash jobId) d = .ok s)
    (hlist : answer (listEvents hash jobId) d = .ok es) (e : Event) (faults : List Fault) :
    Appends hash jobId d s es e (exec (appendEvent hash jobId e) ⟨d, faults⟩) ∧
      ((∃ f, validateEvent jobId e s = .ok f) ↔
        ∃ s', replayEvents (canonicalGenesis s.job) (es ++ [e.finalized s]) = .ok s') := by
  obtain ⟨p, J, h, rfl⟩ := holds_of_load hload
  obtain rfl : J.events = es := Except.ok.inj (h.listEvents.symm.trans hlist)
  refine ⟨?_, ?_⟩
  · have ht := appendEvent_triple h e ⟨d, faults⟩ rfl
    rcases hx : exec (appendEvent hash jobId e) ⟨d, faults⟩ with ⟨x | f, w⟩
    · rw [hx] at ht
      exact .refused fun hdom => ht.1 (StoreExn.isDomain_infrastructure hdom)
    · rw [hx] at ht
      obtain ⟨rfl, s', hs, t, hw⟩ := ht
      exact .accepted (hw.listEvents.trans (by rw [J.append_events])) hw.load
        (JobState.applied_of_step hs) (hw.getSnapshot.trans h.getSnapshot.symm)
  · rw [J.genesis_state, ← h.persisted.job]
    exact validateEvent_iff_replay

/-- The bytes of the snapshot of a job just created. -/
def createdBytes : Bytes := (Json.dumps false (snapshotToPrimitive sampleGenesis)).flatMap utf8Char

/-- SHA-256 at the snapshot, and at the line of the first event. -/
def createdSha (data : Bytes) : Sha256 :=
  if data = createdBytes then
    ⟨py "c39ec39e1d728c0ccfc5156f4515d9a233c327c82f73643ed957fe333637633c", by decide⟩
  else ⟨py "2bff599f2bb7bc9643eead79928b5f73bd4ce3542be1a5297ec976452728902c", by decide⟩

/-- A directory that holds the snapshot alone. -/
def createdDir : Dir :=
  ⟨fun name => if name = .snapshot then some ⟨1, true, 1, createdBytes⟩ else none, false⟩

def createdRead : State :=
  ⟨some createdBytes, none, some ⟨1, 1, createdBytes.length⟩, none, none, none, false⟩

def createdJournal : Journal :=
  ⟨sampleGenesis, rfl, [], sampleGenesis.state, [], sampleGenesis.state, rfl, rfl⟩

theorem createdDir_sound : createdDir.sound = true := by decide +kernel

theorem createdDir_holds : Holds createdSha sampleJob.jobId createdDir createdRead createdJournal := by
  have hread : readDir createdSha createdDir = .ok createdRead := by
    unfold readDir
    rw [createdDir_sound]
    rfl
  obtain ⟨data, hd, hs⟩ := decodeSnapshot_encodeSnapshot sampleGenesis
  have hc : encodeSnapshot sampleGenesis = .ok createdBytes :=
    canonicalJson_ok (exact_snapshot _) (surrogates_snapshot _)
  rw [hc] at hd
  cases hd
  exact ⟨hread, ⟨createdBytes, rfl, hs⟩, rfl, rfl⟩

/-- The first event of a job just created. -/
theorem append_coherent_created :
    Appends createdSha sampleJob.jobId createdDir createdJournal.state createdJournal.events
        startedEvent
        (exec (appendEvent createdSha sampleJob.jobId startedEvent) ⟨createdDir, []⟩) ∧
      ((∃ f, validateEvent sampleJob.jobId startedEvent createdJournal.state = .ok f) ↔
        ∃ s, replayEvents (canonicalGenesis createdJournal.state.job)
          (createdJournal.events ++ [startedEvent.finalized createdJournal.state]) = .ok s) :=
  append_coherent createdDir_holds.load createdDir_holds.listEvents startedEvent []

/-! ### Saving a snapshot -/

theorem validateSnapshotCandidate_ok {snapshot snapshot' : JobSnapshot}
    (h : validateSnapshotCandidate jobId snapshot = .ok snapshot') : snapshot' = snapshot := by
  unfold validateSnapshotCandidate at h
  rw [rebuildSnapshot_self] at h
  simp only at h
  split at h
  · exact (Except.ok.inj h).symm
  · cases h

/-- An accepted snapshot is that of a journal with the same events. -/
theorem validateSnapshotUpdate_ok {snapshot : JobSnapshot} {D : DecodedState} {u : Unit}
    (h : validateSnapshotUpdate jobId snapshot D = .ok u) :
    ∃ K : Journal, K.jobId = jobId ∧ K.saved.snapshot = snapshot ∧ K.events = D.events ∧
      ∀ old ∈ D.snapshot, canonicalGenesis old.job = canonicalGenesis snapshot.job ∧
        old.lastSequence ≤ snapshot.lastSequence := by
  unfold validateSnapshotUpdate at h
  rcases hv : validatedSnapshot jobId snapshot D.events with r | s
  · rw [hv] at h
    cases h
  rw [hv] at h
  obtain ⟨K, hj, hs, he, -⟩ := validatedSnapshot_iff.mp hv
  refine ⟨K, hj, hs, he, ?_⟩
  rintro old ho
  simp only [Option.mem_def.mp ho] at h
  split at h
  · cases h
  next hc =>
  simp only [not_or, not_not, not_lt] at hc
  exact ⟨hc.1, hc.2.1⟩

/-- What an accepted save writes is a journal with the same events. -/
theorem persisted_of_update {snapshot : JobSnapshot} {D : DecodedState} {u : Unit} {data : Bytes}
    (hevents : decodeEvents jobId p.eventBytes = .ok D.events)
    (hu : validateSnapshotUpdate jobId snapshot D = .ok u)
    (hdata : encodeSnapshot snapshot = .ok data) :
    ∃ K : Journal, K.events = D.events ∧ K.saved.snapshot = snapshot ∧
      (∀ old ∈ D.snapshot, canonicalGenesis old.job = canonicalGenesis snapshot.job ∧
        old.lastSequence ≤ snapshot.lastSequence) ∧
      ∀ t : State, t.snapshot = some data → t.events = p.events → Persisted jobId t K := by
  obtain ⟨K, hj, hs, he, hold⟩ := validateSnapshotUpdate_ok hu
  refine ⟨K, he, hs, hold, fun t h1 h2 => ⟨⟨data, h1, ?_⟩, ?_, hj⟩⟩
  · obtain ⟨data', hd1, hd2⟩ := decodeSnapshot_encodeSnapshot snapshot
    rw [hdata] at hd1
    cases hd1
    rw [hd2, hs]
  · rw [State.eventBytes, h2, he]
    exact hevents

/-- The journal of a save over a journal extends it. -/
theorem Persisted.saved {snapshot : JobSnapshot} {u : Unit} {data : Bytes} (h : Persisted jobId p J)
    (hu : validateSnapshotUpdate jobId snapshot (J.decoded p) = .ok u)
    (hdata : encodeSnapshot snapshot = .ok data) :
    ∃ K : Journal, J.Extends K ∧ K.events = J.events ∧ K.saved.snapshot = snapshot ∧
      ∀ t : State, t.snapshot = some data → t.events = p.events → Persisted jobId t K := by
  obtain ⟨K, he, hs, hold, hnew⟩ := persisted_of_update h.events hu hdata
  obtain ⟨hgen, hlast⟩ := hold _ rfl
  refine ⟨K, ⟨?_, ⟨[], by rw [he]; simp [Journal.decoded]⟩, ?_⟩, he, hs, hnew⟩
  · rw [K.genesis_eq, J.genesis_eq, show canonicalGenesis J.saved.job = _ from hgen, ← hs]
    rfl
  · rw [← hs] at hlast
    exact hlast

end SpecStyle
