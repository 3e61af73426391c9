/-
SpecStyle/Workflow/StoreLinearizable.lean

The job store is linearizable.

Whatever the threads of a process do, their calls answer as they would one
after another, each alone, in an order that keeps to real time
(`store_linearizable`).

A call that commits takes effect when its mutation ends, and another call about
a job when it gives the lock of the job back.  A listing takes effect at its
last look at the epoch: no mutation goes on then, and none has ended since the
turn began.  A ledger keeps the calls that have taken effect, in their order,
with the store that they lead to one after another (`Ledger`).  There a job
directory is what it is in the shared store, as long as no mutation of it goes
on.
-/
import SpecStyle.Workflow.CallsAlone

namespace SpecStyle

open PyLib

variable {hash : Bytes → Sha256} {T : Type}

/-! ### Linearizability -/

/-- Calls one after another, each alone, with what they answer. -/
inductive RunsAlone (hash : Bytes → Sha256) (start : Namespace) :
    List (JobCall × Except StoreExn JobAnswer) → Namespace → Prop
  | none : RunsAlone hash start [] start
  | next {done s c r t} (h : RunsAlone hash start done s)
      (hcall : AloneLoop works (c.program hash) s r t) : RunsAlone hash start (done ++ [(c, r)]) t

abbrev JobFinished := Finished StoreExn JobAnswer JobCall

/-- Calls that go on, each of a thread of its own, as if they returned now. -/
def UnderWay (w : JobThreads T) (pending : List JobFinished) : Prop :=
  ∃ ts : List T, ts.Nodup ∧ List.Forall₂ (fun t f => ∃ r, w.running t = some r ∧
    f.call = r.call ∧ f.called = r.called ∧ f.returned = w.history.past.length) ts pending

/-- **The calls are those of one order**: all that are over, and some that go on,
one after another.  No call comes after one that was called when it had returned
already, each answers what it answers alone, and in the end the job directories
are those of the store, except where a lock is held. -/
structure InOrder (hash : Bytes → Sha256) (start : Namespace) (w : JobThreads T)
    (pending order : List JobFinished) (s : Namespace) : Prop where
  underWay : UnderWay w pending
  calls : order.Perm (w.history.finished ++ pending)
  realTime : order.Pairwise fun f g => f.called ≤ g.returned
  alone : RunsAlone hash start (order.map fun f => (f.call, f.result)) s
  dirs : ∀ id, id ∉ w.history.shared.locked → w.history.shared.dirAt id = s.dirAt id

/-! ### The ledger -/

/-- A call that has taken effect. -/
structure Entry where
  call : JobCall
  called : Nat
  effect : Nat
  result : Except StoreExn JobAnswer

/-- Where the call of a thread is: in a mutation of its job, whose directory was
`x`, or elsewhere before or after its effect. -/
inductive Turn where
  | outside
  | going (c : JobCall) (called : Nat)
  | changing (c : JobCall) (called : Nat) (x : Option Dir)
  | answered (e : Entry)

/-- The call that the thread is in. -/
def Turn.call : Turn → Option (JobCall × Nat)
  | outside => none
  | going c n => some (c, n)
  | changing c n _ => some (c, n)
  | answered e => some (e.call, e.called)

/-- The call has begun by now. -/
def Turn.Begun (h : JobHistory) (turn : Turn) : Prop :=
  ∀ c n, turn.call = some (c, n) → n ≤ h.past.length

/-- What a step does for the call of its thread. -/
inductive Turn.Moves (hash : Bytes → Sha256) (l l' : Stance) (h h' : JobHistory) :
    Turn → Turn → Prop
  | stays {turn} (hchanges : l'.grip.changes = l.grip.changes)
      (hfinished : h'.finished = h.finished) : Moves hash l l' h h' turn turn
  | begins {c} (hchanges : l'.grip.changes = l.grip.changes)
      (hfinished : h'.finished = h.finished) :
      Moves hash l l' h h' .outside (.going c h.past.length)
  | refuses {c id r} (hc : c.job = some id) (hperform : ∀ x, c.perform hash x = some (r, x))
      (hchanges : l'.grip.changes = l.grip.changes) (hfinished : h'.finished = h.finished) :
      Moves hash l l' h h' .outside (.answered ⟨c, h.past.length, h.past.length, r⟩)
  | enters {c n id x} (hgrip : l.grip = .holds id x) (hgrip' : l'.grip = .mutates id x)
      (hfinished : h'.finished = h.finished) :
      Moves hash l l' h h' (.going c n) (.changing c n x)
  | leaves {c n id x y r} (hgrip : l.grip = .mutates id y) (hgrip' : l'.grip = .holds id y)
      (hc : c.job = some id) (hperform : c.perform hash x = some (r, y))
      (hfinished : h'.finished = h.finished) :
      Moves hash l l' h h' (.changing c n x) (.answered ⟨c, n, h.past.length, r⟩)
  | answers {c n id x r} (hgrip : l.grip = .holds id x) (hc : c.job = some id)
      (hperform : c.perform hash x = some (r, x)) (hchanges : l'.grip.changes = l.grip.changes)
      (hfinished : h'.finished = h.finished) :
      Moves hash l l' h h' (.going c n) (.answered ⟨c, n, h.past.length, r⟩)
  | lists {n} (hmutations : h.shared.mutations = 0)
      (hchanges : l'.grip.changes = l.grip.changes) (hfinished : h'.finished = h.finished) :
      Moves hash l l' h h' (.going .list n)
        (.answered ⟨.list, n, h.past.length, .ok (.ids (Ns.sortIds h.shared.ids))⟩)
  | returns {e} (hchanges : l'.grip.changes = l.grip.changes)
      (hfinished : h'.finished = h.finished ++ [⟨e.call, e.called, h.past.length, e.result⟩]) :
      Moves hash l l' h h' (.answered e) .outside

/-- The threads on the namespace, with their calls. -/
def storeDiscipline (hash : Bytes → Sha256) :
    Discipline Namespace JobWork StoreExn JobAnswer JobCall (Stance × Turn) where
  idle := ((jobDiscipline .any hash).idle, .outside)
  knows k h := (jobDiscipline .any hash).knows k.1 h ∧ h.shared.hasJobs = true ∧ k.2.Begun h
  moves k h k' h' := k.1.Moves .any hash h k'.1 h' ∧ k'.2.Begun h' ∧
    Turn.Moves hash k.1 k'.1 h h' k.2 k'.2
  serves k c n := k.2.call = some (c, n)
  busy k job := k.1.grip.owns = some job.1

/-- The call is over with what its entry says. -/
structure Entry.Over (e : Entry) (f : JobFinished) : Prop where
  call : f.call = e.call
  called : f.called = e.called
  result : f.result = e.result
  effect : e.effect ≤ f.returned

/-- The calls that have taken effect, and those of them that are over or are still
to return.  One after another they lead to the store `s`. -/
structure Ledger (hash : Bytes → Sha256) (start : Namespace) (ks : T → Stance × Turn)
    (h : JobHistory) (s : Namespace) (log ended : List Entry) (opened : List (T × Entry)) :
    Prop where
  alone : RunsAlone hash start (log.map fun e => (e.call, e.result)) s
  loads : AllLoad hash s
  jobs : s.hasJobs = true
  dirs : ∀ id, (∀ t, (ks t).1.grip.changes ≠ some id) → h.shared.dirAt id = s.dirAt id
  changing : ∀ t c n x id, (ks t).2 = .changing c n x → (ks t).1.grip.changes = some id →
    s.dirAt id = x
  sorted : log.Pairwise fun e e' => e.effect ≤ e'.effect
  past : ∀ e ∈ log, e.called ≤ e.effect ∧ e.effect < h.past.length
  sound : ∀ e ∈ log, e.result ≠ .error (.raised corrupted)
  balance : log.Perm (ended ++ opened.map Prod.snd)
  ended : List.Forall₂ Entry.Over ended h.finished
  nodup : (opened.map Prod.fst).Nodup
  opened : ∀ t e, (t, e) ∈ opened ↔ (ks t).2 = .answered e

section Ledger

variable [DecidableEq T] {ks : T → Stance × Turn} {h h' : JobHistory} {s s' start : Namespace}
  {log ended : List Entry} {opened : List (T × Entry)} {i : T} {k : Stance × Turn} {id : JobId}

/-- A step keeps the directories that nobody changes. -/
theorem Effect.sameDir {p q : Grip} (he : Effect hash p s q s') (hp : p.changes ≠ some id) :
    s'.dirAt id = s.dirAt id := by
  cases he with
  | quiet hq => exact hq.files.dirs id
  | takes _ => rfl
  | releases => rfl
  | enters => rfl
  | leaves _ => rfl
  | writes hp' _ hw =>
      refine hw.dirs id ?_
      rintro rfl
      exact hp hp'

omit [DecidableEq T] in
/-- The others do not change the job that a thread owns. -/
theorem Agrees.unowned {ls : T → Stance} (ha : Agrees hash ls h) (hown : (ls i).grip.owns = some id)
    {t : T} (ht : t ≠ i) : (ls t).grip.changes ≠ some id := by
  intro hc
  exact ht (ha.owners.unique (Grip.owns_of_changes hc) hown)

/-- A step after which the same calls have taken effect. -/
theorem Ledger.keeps (hL : Ledger hash start ks h s log ended opened)
    (hdirs : ∀ id, (∀ t, (Function.update ks i k t).1.grip.changes ≠ some id) →
      h'.shared.dirAt id = s.dirAt id)
    (hchanging : ∀ c n x id, k.2 = .changing c n x → k.1.grip.changes = some id → s.dirAt id = x)
    (hanswered : ∀ e, k.2 = .answered e ↔ (ks i).2 = .answered e)
    (hpast : h.past.length ≤ h'.past.length) (hfinished : h'.finished = h.finished) :
    Ledger hash start (Function.update ks i k) h' s log ended opened where
  alone := hL.alone
  loads := hL.loads
  jobs := hL.jobs
  dirs := hdirs
  changing t c n x id ht hid := by
    by_cases hi : t = i
    · subst hi
      rw [Function.update_self] at ht hid
      exact hchanging c n x id ht hid
    · rw [Function.update_of_ne hi] at ht hid
      exact hL.changing t c n x id ht hid
  sorted := hL.sorted
  past e he := ⟨(hL.past e he).1, (hL.past e he).2.trans_le hpast⟩
  sound := hL.sound
  balance := hL.balance
  ended := by
    rw [hfinished]
    exact hL.ended
  nodup := hL.nodup
  opened t e := by
    rw [hL.opened t e]
    by_cases hi : t = i
    · subst hi
      rw [Function.update_self]
      exact (hanswered e).symm
    · rw [Function.update_of_ne hi]

/-- A step by which the call of its thread takes effect. -/
theorem Ledger.takes (hL : Ledger hash start ks h s log ended opened) {e : Entry}
    (hrun : AloneLoop works (e.call.program hash) s e.result s') (hloads : AllLoad hash s')
    (hjobs : s'.hasJobs = true) (hsound : e.result ≠ .error (.raised corrupted))
    (hdirs : ∀ id, (∀ t, (Function.update ks i k t).1.grip.changes ≠ some id) →
      h'.shared.dirAt id = s'.dirAt id)
    (hothers : ∀ t id, t ≠ i → (ks t).1.grip.changes = some id → s'.dirAt id = s.dirAt id)
    (hk : k.2 = .answered e) (hbefore : ∀ e, (ks i).2 ≠ .answered e)
    (hcalled : e.called ≤ e.effect) (heffect : e.effect = h.past.length)
    (hpast : h'.past.length = h.past.length + 1) (hfinished : h'.finished = h.finished) :
    Ledger hash start (Function.update ks i k) h' s' (log ++ [e]) ended ((i, e) :: opened) where
  alone := by
    rw [List.map_append]
    exact .next hL.alone hrun
  loads := hloads
  jobs := hjobs
  dirs := hdirs
  changing t c n x id ht hid := by
    by_cases hi : t = i
    · subst hi
      rw [Function.update_self, hk] at ht
      cases ht
    · rw [Function.update_of_ne hi] at ht hid
      exact (hothers t id hi hid).trans (hL.changing t c n x id ht hid)
  sorted := by
    refine List.pairwise_append.mpr ⟨hL.sorted, List.pairwise_singleton _ _, ?_⟩
    intro e' he' e'' he''
    obtain rfl := List.mem_singleton.mp he''
    rw [heffect]
    exact (hL.past e' he').2.le
  past e' he' := by
    rcases List.mem_append.mp he' with hold | hnew
    · have := hL.past e' hold
      omega
    · obtain rfl := List.mem_singleton.mp hnew
      exact ⟨hcalled, by omega⟩
  sound e' he' := by
    rcases List.mem_append.mp he' with hold | hnew
    · exact hL.sound e' hold
    · obtain rfl := List.mem_singleton.mp hnew
      exact hsound
  balance := by
    rw [List.map_cons]
    refine (List.perm_append_singleton e log).trans ?_
    exact (hL.balance.cons e).trans List.perm_middle.symm
  ended := by
    rw [hfinished]
    exact hL.ended
  nodup := by
    refine List.nodup_cons.mpr ⟨fun hi => ?_, hL.nodup⟩
    obtain ⟨⟨t, e'⟩, hmem, ht⟩ := List.mem_map.mp hi
    subst ht
    exact hbefore e' ((hL.opened t e').mp hmem)
  opened t e' := by
    rw [List.mem_cons, hL.opened t e', Prod.mk.injEq]
    by_cases hi : t = i
    · subst hi
      rw [Function.update_self, hk, Turn.answered.injEq]
      constructor
      · rintro (⟨-, rfl⟩ | ht)
        · rfl
        · exact absurd ht (hbefore e')
      · rintro rfl
        exact .inl ⟨rfl, rfl⟩
    · rw [Function.update_of_ne hi]
      exact ⟨fun ht => ht.elim (fun ht => absurd ht.1 hi) fun ht => ht, .inr⟩

/-- A step by which a call returns. -/
theorem Ledger.returns (hL : Ledger hash start ks h s log ended opened) {e : Entry}
    (hdirs : ∀ id, (∀ t, (Function.update ks i k t).1.grip.changes ≠ some id) →
      h'.shared.dirAt id = s.dirAt id)
    (hk : k.2 = .outside) (he : (ks i).2 = .answered e) (hpast : h.past.length ≤ h'.past.length)
    (hfinished : h'.finished = h.finished ++ [⟨e.call, e.called, h.past.length, e.result⟩]) :
    ∃ left, Ledger hash start (Function.update ks i k) h' s log (ended ++ [e]) left := by
  obtain ⟨before, behind, hopened⟩ := List.append_of_mem ((hL.opened i e).mpr he)
  have hnodup := hL.nodup
  rw [hopened, List.map_append, List.map_cons, List.nodup_middle, List.nodup_cons,
    ← List.map_append] at hnodup
  refine ⟨before ++ behind, ⟨hL.alone, hL.loads, hL.jobs, hdirs, fun t c n x id ht hid => ?_,
    hL.sorted, fun e he => ⟨(hL.past e he).1, (hL.past e he).2.trans_le hpast⟩, hL.sound, ?_, ?_,
    hnodup.2,
    fun t e' => ?_⟩⟩
  · by_cases hi : t = i
    · subst hi
      rw [Function.update_self, hk] at ht
      cases ht
    · rw [Function.update_of_ne hi] at ht hid
      exact hL.changing t c n x id ht hid
  · refine hL.balance.trans ?_
    rw [hopened, List.map_append, List.map_cons, List.map_append, List.append_assoc]
    exact List.Perm.append_left ended List.perm_middle
  · rw [hfinished]
    have hmem : e ∈ log := hL.balance.mem_iff.mpr (List.mem_append_right _
      (List.mem_map_of_mem (hopened ▸ List.mem_append_right _ List.mem_cons_self)))
    exact List.rel_append hL.ended (.cons ⟨rfl, rfl, rfl, (hL.past e hmem).2.le⟩ .nil)
  · have hiff := hL.opened t e'
    rw [hopened, List.mem_append, List.mem_cons, Prod.mk.injEq] at hiff
    rw [List.mem_append]
    by_cases hi : t = i
    · subst hi
      rw [Function.update_self, hk]
      refine ⟨fun ht => absurd ?_ hnodup.1, fun ht => by cases ht⟩
      exact List.mem_map.mpr ⟨(t, e'), List.mem_append.mpr ht, rfl⟩
    · rw [Function.update_of_ne hi, ← hiff]
      exact ⟨fun ht => ht.imp_right .inr,
        fun ht => ht.imp_right fun ht => ht.resolve_left fun heq => hi heq.1⟩

end Ledger

/-! ### A step of a thread -/

section Step

variable [DecidableEq T] {ks : T → Stance × Turn} {h h' : JobHistory} {s s' start : Namespace}
  {log ended : List Entry} {opened : List (T × Entry)} {i : T} {k : Stance × Turn} {id : JobId}

/-- What nobody changes after a step in which no mutation begins, nobody has
changed before it. -/
theorem unchanged_before (hk : (ks i).1.grip.changes = k.1.grip.changes ∨
      (ks i).1.grip.changes ≠ some id)
    (hfree : ∀ t, (Function.update ks i k t).1.grip.changes ≠ some id) :
    ∀ t, (ks t).1.grip.changes ≠ some id := by
  intro t
  have ht := hfree t
  by_cases hi : t = i
  · subst hi
    rw [Function.update_self] at ht
    rcases hk with hk | hk
    · rwa [hk]
    · exact hk
  · rwa [Function.update_of_ne hi] at ht

/-- The jobs that are found when no mutation goes on are those that a listing
finds alone. -/
theorem listIds_of_dirs (hs : AllLoad hash s) (hdirs : ∀ id, h.shared.dirAt id = s.dirAt id) :
    Ns.listIds hash s = Ns.sortIds h.shared.ids := by
  obtain ⟨hsorted, hmem⟩ := @Ns.listIds_spec hash s
  have hloads : ∀ id, Ns.loads hash s id = true ↔ (s.dirAt id).isSome = true := by
    intro id
    refine ⟨Ns.dirAt_of_loads, fun hid => ?_⟩
    obtain ⟨d, hd⟩ := Option.isSome_iff_exists.mp hid
    obtain ⟨p, J, hJ⟩ := hs.loads id d hd
    exact Ns.loads_iff.mpr ⟨J.state, hJ.jobAt hd⟩
  have hsorted' := @Ns.sortIds_sorted h.shared.ids Namespace.nodup_ids
  have hne : ∀ {ids : List JobId}, (ids.Pairwise fun a b => a.value < b.value) → ids.Nodup :=
    fun hids => hids.imp fun {a b} hab heq => absurd (heq ▸ hab) (lt_irrefl _)
  refine List.Perm.eq_of_pairwise (fun a b _ _ hab hba => absurd (hab.trans hba) (lt_irrefl _))
    hsorted hsorted' ?_
  refine (List.perm_ext_iff_of_nodup (hne hsorted) (hne hsorted')).mpr fun id => ?_
  rw [hmem, hloads, Ns.mem_sortIds, Namespace.mem_ids, hdirs]

/-- **The ledger after a step of a thread.** -/
theorem Ledger.step (ha : Agrees hash (fun t => (ks t).1) h)
    (hbegun : (ks i).2.Begun h) (hL : Ledger hash start ks h s log ended opened)
    (hm : (storeDiscipline hash).moves (ks i) h k h') :
    ∃ s log ended opened, Ledger hash start (Function.update ks i k) h' s log ended opened := by
  obtain ⟨hstance, -, hturn⟩ := hm
  obtain ⟨v, hstates⟩ := hstance.states
  have hlength := length_past_of_states hstates
  -- the directories of a store that has those of `s`, if no mutation begins or ends
  have hsame : ∀ {s' : Namespace}, (∀ id, s'.dirAt id = s.dirAt id) →
      k.1.grip.changes = (ks i).1.grip.changes →
      ∀ id, (∀ t, (Function.update ks i k t).1.grip.changes ≠ some id) →
        h'.shared.dirAt id = s'.dirAt id := by
    intro s' hdirs hchanges id hfree
    have hbefore := unchanged_before (.inl hchanges.symm) hfree
    rw [hdirs, ← hL.dirs id hbefore]
    exact hstance.effect.sameDir (hbefore i)
  have hfound : ∀ {id x}, (ks i).1.grip = .holds id x → s.dirAt id = x := by
    intro id x hgrip
    have hknows := (ha.knows i).grip
    rw [hgrip] at hknows
    rw [← hL.dirs id fun t => ?_]
    · exact hknows.1
    · by_cases ht : t = i
      · rw [ht, hgrip]
        exact fun hc => by cases hc
      · exact ha.unowned (i := i) (by rw [hgrip]; rfl) ht
  generalize hold : (ks i).2 = turn, hnew : k.2 = turn' at hturn
  cases hturn with
  | stays hchanges hfinished =>
      refine ⟨s, log, ended, opened, hL.keeps (hsame (fun _ => rfl) hchanges) ?_ ?_ (by omega)
        hfinished⟩
      · intro c n x id hk hid
        rw [hchanges] at hid
        exact hL.changing i c n x id (hold.trans (hnew.symm.trans hk)) hid
      · intro e
        rw [hold, hnew]
  | begins hchanges hfinished =>
      refine ⟨s, log, ended, opened, hL.keeps (hsame (fun _ => rfl) hchanges) ?_ ?_ (by omega)
        hfinished⟩
      · intro c n x id hk
        rw [hnew] at hk
        cases hk
      · intro e
        rw [hold, hnew]
        exact ⟨fun he => (by cases he), fun he => (by cases he)⟩
  | @refuses c id r hc hperform hchanges hfinished =>
      obtain ⟨s', hrun, hloads, hturns, hsound⟩ :=
        JobCall.perform_alone hc hL.loads hL.jobs (hperform _)
      have hdirs : ∀ other, s'.dirAt other = s.dirAt other := by
        intro other
        by_cases ho : other = id
        · rw [ho]
          exact hturns.dir
        · exact hturns.others other ho
      refine ⟨s', _, _, _, hL.takes hrun hloads (hturns.jobs hL.jobs) hsound (hsame hdirs hchanges)
        (fun _ id _ _ => hdirs id) hnew ?_ (Nat.le_refl _) rfl hlength hfinished⟩
      intro e
      rw [hold]
      exact fun he => by cases he
  | @enters c n id x hgrip hgrip' hfinished =>
      have hnone : ∀ {id}, (ks i).1.grip.changes ≠ some id := by
        rw [hgrip]
        exact fun hc => by cases hc
      refine ⟨s, log, ended, opened, hL.keeps (fun other hfree => ?_) ?_ ?_ (by omega) hfinished⟩
      · have hbefore := unchanged_before (.inr hnone) hfree
        rw [← hL.dirs other hbefore]
        exact hstance.effect.sameDir hnone
      · intro c' n' x' id' hk hid
        rw [hnew] at hk
        cases hk
        rw [hgrip'] at hid
        cases hid
        exact hfound hgrip
      · intro e
        rw [hold, hnew]
        exact ⟨fun he => (by cases he), fun he => (by cases he)⟩
  | @leaves c n id x y r hgrip hgrip' hc hperform hfinished =>
      have hchanges : (ks i).1.grip.changes = some id := by
        rw [hgrip]
        rfl
      have hx : s.dirAt id = x := hL.changing i c n x id hold hchanges
      rw [← hx] at hperform
      obtain ⟨s', hrun, hloads, hturns, hsound⟩ :=
        JobCall.perform_alone hc hL.loads hL.jobs hperform
      refine ⟨s', _, _, _, hL.takes hrun hloads (hturns.jobs hL.jobs) hsound (fun other hfree => ?_)
        (fun t other ht hother => ?_) hnew ?_ ?_ rfl hlength hfinished⟩
      · by_cases ho : other = id
        · subst ho
          have hknows := hstance.knows.grip
          rw [hgrip'] at hknows
          rw [hturns.dir]
          exact hknows.1
        · have hother : (ks i).1.grip.changes ≠ some other := by
            rw [hchanges]
            exact fun heq => ho (Option.some.inj heq).symm
          have hbefore := unchanged_before (.inr hother) hfree
          rw [hturns.others other ho, ← hL.dirs other hbefore]
          exact hstance.effect.sameDir hother
      · refine hturns.others other ?_
        rintro rfl
        exact ha.unowned (i := i) (Grip.owns_of_changes hchanges) ht hother
      · intro e
        rw [hold]
        exact fun he => by cases he
      · exact hbegun c n (by rw [hold]; rfl)
  | @answers c n id x r hgrip hc hperform hchanges hfinished =>
      have hx := hfound hgrip
      rw [← hx] at hperform
      obtain ⟨s', hrun, hloads, hturns, hsound⟩ :=
        JobCall.perform_alone hc hL.loads hL.jobs hperform
      have hdirs : ∀ other, s'.dirAt other = s.dirAt other := by
        intro other
        by_cases ho : other = id
        · rw [ho]
          exact hturns.dir
        · exact hturns.others other ho
      refine ⟨s', _, _, _, hL.takes hrun hloads (hturns.jobs hL.jobs) hsound (hsame hdirs hchanges)
        (fun _ id _ _ => hdirs id) hnew ?_ ?_ rfl hlength hfinished⟩
      · intro e
        rw [hold]
        exact fun he => by cases he
      · exact hbegun c n (by rw [hold]; rfl)
  | @lists n hmutations hchanges hfinished =>
      have hnobody : ∀ id t, (ks t).1.grip.changes ≠ some id := by
        intro id t ht
        have hpos := ha.mutators.pos (t := t) (by rw [ht]; rfl)
        omega
      have hdirs : ∀ id, h.shared.dirAt id = s.dirAt id := fun id => hL.dirs id (hnobody id)
      have hrun : AloneLoop works (JobCall.program hash .list) s
          (.ok (.ids (Ns.sortIds h.shared.ids))) s.touch := by
        rw [← listIds_of_dirs hL.loads hdirs]
        refine (Ns.list_alone hL.loads.quiet fun id d hd => ?_).map (g := JobAnswer.ids)
        obtain ⟨p, J, hJ⟩ := hL.loads.loads id d hd
        exact ⟨_, _, hJ.read, decodePersisted_journal hJ.persisted, rfl⟩
      have hloads : AllLoad hash s.touch :=
        ⟨⟨hL.loads.quiet.locked, hL.loads.quiet.mutations, fun hb => hb⟩, hL.loads.loads⟩
      refine ⟨s.touch, _, _, _, hL.takes hrun hloads hL.jobs (fun he => by cases he)
        (hsame (fun _ => rfl) hchanges) (fun _ _ _ _ => rfl) hnew ?_ ?_ rfl hlength hfinished⟩
      · intro e
        rw [hold]
        exact fun he => by cases he
      · exact hbegun .list n (by rw [hold]; rfl)
  | @returns e hchanges hfinished =>
      obtain ⟨left, hleft⟩ :=
        hL.returns (hsame (fun _ => rfl) hchanges) hnew hold (by omega) hfinished
      exact ⟨s, log, _, left, hleft⟩

/-- The invariant of the threads with their calls. -/
structure Kept (hash : Bytes → Sha256) (start : Namespace) (ks : T → Stance × Turn)
    (h : JobHistory) : Prop where
  agrees : Agrees hash (fun t => (ks t).1) h
  jobs : h.shared.hasJobs = true
  begun : ∀ t, (ks t).2.Begun h
  ledger : ∃ s log ended opened, Ledger hash start ks h s log ended opened

def storeInvariant (T : Type) [DecidableEq T] (hash : Bytes → Sha256) (start : Namespace) :
    Invariant T (storeDiscipline hash) where
  holds := Kept hash start
  knows hk t := ⟨⟨hk.agrees.orderly, hk.agrees.knows t⟩, hk.jobs, hk.begun t⟩
  keeps {ks h i k h'} hk hm := by
    obtain ⟨s, log, ended, opened, hL⟩ := hk.ledger
    obtain ⟨v, hstates⟩ := hm.1.states
    have hlength := length_past_of_states hstates
    refine ⟨?_, ?_, fun t => ?_, hL.step hk.agrees (hk.begun i) hm⟩
    · have hagrees := hk.agrees.step (i := i) hm.1
      rwa [← show (fun t => (Function.update ks i k t).1) =
        Function.update (fun t => (ks t).1) i k.1 from
        Function.comp_update (fun k : Stance × Turn => k.1) ks i k] at hagrees
    · exact (hm.1.effect.spares fun hc => hk.agrees.mutators.pos hc).jobs hk.jobs
    · by_cases ht : t = i
      · rw [ht, Function.update_self]
        exact hm.2.1
      · rw [Function.update_of_ne ht]
        intro c n hcall
        have hle := hk.begun t c n hcall
        omega

end Step

/-! ### The calls -/

section Calls

variable {h h' : JobHistory} {id : JobId} {x : Option Dir} {l : Stance} {turn : Turn} {c : JobCall}
  {n : Nat} {α : Type} {m : Ns α} {plan : Plan α} {f : α → JobAnswer}

/-- The program keeps to the discipline, with its call. -/
abbrev Enacts (hash : Bytes → Sha256) (m : Ns α) (k : Stance × Turn)
    (Q : Except StoreExn α → Stance × Turn → Prop) : Prop :=
  Plays (storeDiscipline hash) works m k Q

/-- What enters and leaves no mutation needs no change of the turn. -/
theorem storeDiscipline_embeds (turn : Turn) :
    (jobDiscipline .steady hash).Embeds (storeDiscipline hash) fun l => (l, turn) where
  knows _ _ hk := hk.1
  moves l h l' s hk hm := by
    refine ⟨⟨hm.effect, Mode.noConfusion, hm.states, hm.knows, hm.finished⟩, fun c n hcall => ?_,
      .stays (hm.changes rfl) rfl⟩
    have hle := hk.2.2 c n hcall
    have hlength : (h.goTo s).past.length = h.past.length + 1 := List.length_append ..
    omega
  busy _ _ hb := hb

theorem enacts_of_follows {Q : Except StoreExn α → Stance → Prop}
    (hm : Follows .steady hash m l Q) :
    Enacts hash m (l, turn) fun r k => ∃ l', k = (l', turn) ∧ Q r l' :=
  hm.embed (storeDiscipline_embeds turn)

theorem Turn.Begun.goTo {s : Namespace} (hk : turn.Begun h) : turn.Begun (h.goTo s) := by
  intro c n hcall
  have hle := hk c n hcall
  have hlength : (h.goTo s).past.length = h.past.length + 1 := List.length_append ..
  omega

/-- The call has its answer, or is to have it for the directory that is there. -/
def Settles (hash : Bytes → Sha256) (id : JobId) (c : JobCall) (n : Nat)
    (r : Except StoreExn JobAnswer) (k : Stance × Turn) : Prop :=
  k.1.scan = .away ∧ ∃ x, k.1.grip = .holds id x ∧
    ((k.2 = .going c n ∧ c.perform hash x = some (r, x)) ∨
      ∃ effect, k.2 = .answered ⟨c, n, effect, r⟩)

/-- **A commit takes effect** when its mutation ends. -/
theorem enacts_commitJob {expected : State} {data : Bytes} {events : Option Bytes}
    {r : Except StoreExn JobAnswer} (hc : c.job = some id) (hgrip : l.grip = .holds id x)
    (haway : l.scan = .away)
    (hloads : Loadable hash id (commitOf hash x expected data events).2)
    (hperform : c.perform hash x = some (r, some (commitOf hash x expected data events).2)) :
    Enacts hash (Ns.commitJob hash id expected data events) (l, .going c n) fun r' k =>
      r' = ((commitOf hash x expected data events).1.mapError translateStorage).map (fun _ => ()) ∧
        Settles hash id c n r k := by
  rintro h ⟨⟨-, hk⟩, -, hbegun⟩ -
  refine ⟨(⟨l.jobs, .mutates id x, .away⟩, .changing c n x),
    ⟨hk.enters hgrip haway, hbegun.goTo, .enters hgrip rfl rfl⟩, ?_⟩
  refine Plays.andFinally (enacts_of_follows (follows_committing rfl rfl)) ?_
  rintro r' _ ⟨l', rfl, hr, hg, hs⟩ h' ⟨⟨-, hk'⟩, -, hbegun'⟩
  refine ⟨(⟨l'.jobs, .holds id _, .away⟩, .answered ⟨c, n, h'.past.length, r⟩),
    ⟨hk'.leaves hg hs ?_, hbegun'.goTo, .leaves hg rfl hc hperform rfl⟩,
    hr, rfl, _, rfl, .inr ⟨_, rfl⟩⟩
  rintro d hd
  cases hd
  exact hloads

/-- **Under its lock a call answers as it does alone.** -/
theorem enacts_planned (hcarries : Carries hash c id plan f) (hc : c.job = some id)
    (hjobs : l.jobs = true) (hgrip : l.grip = .holds id x) (haway : l.scan = .away)
    (hx : ∀ d ∈ x, Loadable hash id d) :
    Enacts hash (Ns.planned hash id plan) (l, .going c n) fun r k =>
      Settles hash id c n (r.map f) k := by
  have hperform := hcarries.perform x
  have hdecode : Enacts hash (Ns.decodeJob hash id) (l, .going c n) fun r k =>
      ∃ l', k = (l', .going c n) ∧ r = decodeOf hash id x ∧ l'.grip = .holds id x ∧
        l'.scan = .away := by
    refine enacts_of_follows (follows_decodeJob hgrip
      (fun l' hg hs => ⟨rfl, hg.trans hgrip, hs.trans haway⟩) fun hunknown _ => ?_)
    rw [hjobs] at hunknown
    cases hunknown
  unfold Ns.planned
  refine hdecode.bind ?_ ?_
  · rintro D _ ⟨l', rfl, hD, hg, hs⟩
    rw [Plan.outcome_ok hD.symm] at hperform
    rcases hp : plan D with e | ⟨a, - | ⟨data, events⟩⟩
    · rw [hp] at hperform
      exact ⟨hs, x, hg, .inl ⟨rfl, hperform⟩⟩
    · rw [hp] at hperform
      exact ⟨hs, x, hg, .inl ⟨rfl, hperform⟩⟩
    · rw [hp] at hperform
      have hcommit :
          Enacts hash (Ns.commitJob hash id D.persisted data events) (l', .going c n) _ :=
        enacts_commitJob hc hg hs (hcarries.sound.commits hx hD.symm hp).loads hperform
      have hanswer : ∀ k,
          Settles hash id c n ((ending hash x D (.ok (a, some (data, events)))).1.map f) k →
          Settles hash id c n ((((commitOf hash x D.persisted data events).1.mapError
            translateStorage).map fun _ => a).map f) k := fun _ hk => hk
      refine hcommit.bind ?_ ?_
      · rintro u k ⟨hr, hk⟩
        have hk := hanswer k hk
        rcases hdone : (commitOf hash x D.persisted data events).1 with e | t
        · rw [hdone] at hr
          cases hr
        · rw [hdone] at hk
          exact hk
      · rintro e k ⟨hr, hk⟩
        have hk := hanswer k hk
        rcases hdone : (commitOf hash x D.persisted data events).1 with e' | t
        · rw [hdone] at hr hk
          cases hr
          exact hk
        · rw [hdone] at hr
          cases hr
  · rintro e _ ⟨l', rfl, hD, hg, hs⟩
    rw [Plan.outcome_error hD.symm] at hperform
    exact ⟨hs, x, hg, .inl ⟨rfl, hperform⟩⟩

/-- **A call about a job takes effect** before it has given the lock back. -/
theorem enacts_locked (hcarries : Carries hash c id plan f) (hc : c.job = some id)
    (hjobs : l.jobs = true) (hl : Outside l) :
    Enacts hash (Ns.withJobLock id (Ns.planned hash id plan)) (l, .going c n) fun r k =>
      Outside k.1 ∧ ∃ effect, k.2 = .answered ⟨c, n, effect, r.map f⟩ := by
  rintro h ⟨⟨ho, hk⟩, -, hbegun⟩ hguard
  have hunlocked : id ∉ h.shared.locked := of_decide_eq_true hguard
  have hnone : l.grip.changes = none := by
    rw [hl.1]
    rfl
  refine ⟨(⟨l.jobs, .holds id (h.shared.dirAt id), .away⟩, .going c n),
    ⟨hk.takes ho hl.1 hunlocked (k := .away) trivial, hbegun.goTo, .stays hnone.symm rfl⟩, ?_⟩
  have hplanned := enacts_planned (n := n) hcarries hc
    (l := ⟨l.jobs, .holds id (h.shared.dirAt id), .away⟩) hjobs rfl rfl
    fun d hd => ho.settled id d hd (.inr hunlocked)
  refine Plays.andFinally hplanned ?_
  rintro r ⟨l', turn⟩ ⟨hs, x, hg, hturn⟩ h' ⟨⟨-, hk'⟩, -, hbegun'⟩
  have hreleases : l'.Moves .any hash h' { l' with grip := .free }
      (h'.goTo (h'.shared.unlock id)) := hk'.releases hg
  have hchanges : Grip.changes .free = l'.grip.changes := by
    rw [hg]
    rfl
  rcases hturn with ⟨rfl, hperform⟩ | ⟨effect, rfl⟩
  · exact ⟨({ l' with grip := .free }, .answered ⟨c, n, h'.past.length, r.map f⟩),
      ⟨hreleases, hbegun'.goTo, .answers hg hc hperform hchanges rfl⟩, ⟨rfl, hs⟩, _, rfl⟩
  · exact ⟨({ l' with grip := .free }, .answered ⟨c, n, effect, r.map f⟩),
      ⟨hreleases, hbegun'.goTo, .stays hchanges rfl⟩, ⟨rfl, hs⟩, _, rfl⟩

/-- How a call ends: it has its answer, or is a listing that is begun again. -/
def JobCall.Enacted (hash : Bytes → Sha256) (c : JobCall) (n : Nat)
    (r : Except StoreExn (Option JobAnswer)) (k : Stance × Turn) : Prop :=
  c.Ends hash n r k.1 ∧ ((r = .ok none ∧ k.2 = .going c n) ∨
    ∃ effect result, k.2 = .answered ⟨c, n, effect, result⟩ ∧ r = result.map some)

/-- A listing takes effect when it has found the jobs of now. -/
theorem list_enacts (hgrip : l.grip = .free) (hscan : l.scan = .begun n) :
    Enacts hash (JobCall.program hash .list) (l, .going .list n)
      (JobCall.Enacted hash .list n) := by
  let answer (seen : Namespace) : Except StoreExn JobAnswer := .ok (.ids (Ns.sortIds seen.ids))
  have hfinds : FindsNow hash (storeDiscipline hash) (fun l => (l, .going .list n)) n
      fun l' seen k => ∃ effect, k = (l', .answered ⟨.list, n, effect, answer seen⟩) := by
    rintro l l' h seen ⟨-, -, hbegun⟩ hzero hsame - - hmove
    have hanswer : answer seen = .ok (.ids (Ns.sortIds h.shared.ids)) := by rw [hsame.ids]
    refine ⟨(l', .answered ⟨.list, n, h.past.length, answer seen⟩),
      ⟨⟨hmove.effect, Mode.noConfusion, hmove.states, hmove.knows, hmove.finished⟩,
        hbegun.goTo, ?_⟩, _, rfl⟩
    rw [hanswer]
    exact .lists hzero (hmove.changes rfl) rfl
  have hturn : Enacts hash (Ns.listTurn hash) (l, .going .list n) fun r k => TurnEnds hash n r k.1 ∧
      ((r = .ok none ∧ k.2 = .going .list n) ∨
        ∃ effect seen, k.2 = .answered ⟨.list, n, effect, answer seen⟩ ∧
          r = .ok (some (Ns.sortIds seen.ids))) := by
    refine plays_listTurn (storeDiscipline_embeds _) hfinds hgrip hscan
      (fun l' e hg hs => ⟨⟨hg, .inl ⟨rfl, e, hs⟩⟩, .inl ⟨rfl, rfl⟩⟩) ?_
    rintro l' seen _ hg hs ⟨effect, rfl⟩ hunchanging
    exact ⟨⟨hg, .inr ⟨seen, hs, rfl, hunchanging⟩⟩, .inr ⟨effect, seen, rfl, rfl⟩⟩
  refine hturn.bind ?_ ?_
  · rintro ids k ⟨hends, ⟨hr, hk⟩ | ⟨effect, seen, hk, hr⟩⟩
    · cases hr
      exact ⟨⟨_, hends, rfl⟩, .inl ⟨rfl, hk⟩⟩
    · cases hr
      exact ⟨⟨_, hends, rfl⟩, .inr ⟨effect, _, hk, rfl⟩⟩
  · rintro e k ⟨-, ⟨hr, -⟩ | ⟨_, _, -, hr⟩⟩ <;> cases hr

/-- The thread has begun a call, with what it knows. -/
theorem enacts_begins (hk : (storeDiscipline hash).knows (storeDiscipline hash).idle h) {k : Scan}
    (hscan : k.Knows h) : (storeDiscipline hash).moves (storeDiscipline hash).idle h
      (⟨true, .free, k⟩, .going c h.past.length) (h.goTo h.shared) := by
  obtain ⟨-, hjobs, -⟩ := hk
  refine ⟨.of_knows ⟨fun _ => hjobs, trivial, hscan.goTo (.refl _)⟩ rfl, fun c n hcall => ?_,
    .begins rfl rfl⟩
  cases hcall
  have hlength : (h.goTo h.shared).past.length = h.past.length + 1 := List.length_append ..
  omega

/-- **Every call keeps to the discipline.** -/
theorem jobMachine_enacts :
    (jobMachine hash).Follows (storeDiscipline hash) (JobCall.Enacted hash) where
  calls c h hk := by
    cases hjob : c.job with
    | none =>
        cases c <;> cases hjob
        have hbegun : (Scan.begun h.past.length).Knows h := Nat.le_refl _
        exact ⟨_, enacts_begins hk hbegun, rfl, list_enacts rfl rfl⟩
    | some id =>
        have hends : ∀ r l, Outside l → r ≠ .ok none → c.Ends hash h.past.length r l := by
          intro r l hl hr
          cases c with
          | list => cases hjob
          | _ => exact ⟨hl, hr⟩
        have hne : ∀ result : Except StoreExn JobAnswer, result.map some ≠ .ok none := by
          intro result hr
          cases result <;> cases hr
        rcases @JobCall.carries hash id c hjob with
          ⟨e, hprogram, -, hperform⟩ | ⟨_, plan, f, hcarries⟩
        · refine ⟨(_, .answered ⟨c, h.past.length, h.past.length, .error (.raised e)⟩),
            ⟨hk.1.2.same, fun c n hcall => ?_, .refuses hjob hperform rfl rfl⟩, rfl, ?_⟩
          · cases hcall
            have hlength : (h.goTo h.shared).past.length = h.past.length + 1 :=
              List.length_append ..
            show h.past.length ≤ (h.goTo h.shared).past.length
            omega
          · show Enacts hash (c.program hash) _ _
            rw [hprogram]
            exact ⟨hends _ _ ⟨rfl, rfl⟩ (fun hr => by cases hr), .inr ⟨_, _, rfl, rfl⟩⟩
        · refine ⟨_, enacts_begins hk (k := .away) trivial, rfl, ?_⟩
          show Enacts hash (c.program hash) _ _
          rw [hcarries.program]
          refine (enacts_locked hcarries hjob rfl ⟨rfl, rfl⟩).bind ?_ ?_
          · rintro a k ⟨hout, effect, hk⟩
            exact ⟨hends _ _ hout (fun hr => by cases hr), .inr ⟨effect, _, hk, rfl⟩⟩
          · rintro e k ⟨hout, effect, hk⟩
            exact ⟨hends _ _ hout (fun hr => by cases hr), .inr ⟨effect, _, hk, rfl⟩⟩
  again c n k h hends hk := by
    obtain ⟨l, turn⟩ := k
    obtain ⟨hends, ⟨-, hturn⟩ | ⟨effect, result, -, hr⟩⟩ := hends
    · cases c with
      | list =>
          obtain ⟨_, ⟨hgrip, ⟨rfl, e, hscan⟩ | ⟨seen, -, rfl, -⟩⟩, hr⟩ := hends
          · have hlost := hk.1.2.scan
            rw [hscan] at hlost
            have hbegun : (Scan.begun n).Knows h := hlost.1
            have hturn' : turn = .going .list n := hturn
            subst hturn'
            exact ⟨(⟨l.jobs, l.grip, .begun n⟩, .going .list n),
              ⟨.of_knows ⟨hk.1.2.jobs, hk.1.2.grip, hbegun.goTo (.refl _)⟩ rfl, hk.2.2.goTo,
                .stays rfl rfl⟩, list_enacts hgrip rfl⟩
          · cases hr
      | load id => exact absurd rfl hends.2
      | getSnapshot id => exact absurd rfl hends.2
      | listEvents id => exact absurd rfl hends.2
      | save id snapshot => exact absurd rfl hends.2
      | append id event => exact absurd rfl hends.2
    · cases result <;> cases hr
  returns c n k h result hends hk := by
    obtain ⟨l, turn⟩ := k
    obtain ⟨hends, ⟨hr, -⟩ | ⟨effect, result', hturn, hr⟩⟩ := hends
    · cases result <;> cases hr
    · obtain rfl : result = result' := by
        cases result <;> cases result' <;> cases hr <;> rfl
      have hturn' : turn = .answered ⟨c, n, effect, result⟩ := hturn
      subst hturn'
      have hfree : l.grip = .free := by
        cases c with
        | list =>
            obtain ⟨_, ⟨hgrip, -⟩, -⟩ := hends
            exact hgrip
        | _ => exact hends.1.1
      have hchanges : Grip.changes .free = l.grip.changes := by rw [hfree]
      exact ⟨returns_follow hends hk.1.2, (fun c n hcall => by cases hcall), .returns hchanges rfl⟩
  serves {k h k' s c n} hk hm hcall := by
    obtain ⟨l, turn⟩ := k
    obtain ⟨l', turn'⟩ := k'
    obtain ⟨-, -, hturn⟩ := hm
    have hcall' : turn.call = some (c, n) := hcall
    cases hturn with
    | returns _ hfinished =>
        have hlength : h.finished.length = (h.finished ++ [_]).length :=
          congrArg List.length hfinished
        rw [List.length_append, List.length_singleton] at hlength
        omega
    | stays _ _ => exact hcall'
    | begins _ _ => cases hcall'
    | refuses _ _ _ _ => cases hcall'
    | enters _ _ _ => exact hcall'
    | leaves _ _ _ _ _ => exact hcall'
    | answers _ _ _ _ _ => exact hcall'
    | lists _ _ _ => exact hcall'

end Calls

/-! ### The theorem -/

section Order

variable [DecidableEq T] {w w' : JobThreads T}

/-- At the start nothing has taken effect. -/
theorem AtStart.kept (hw : AtStart hash w) (hjobs : w.history.shared.hasJobs = true) :
    Played (storeInvariant T hash w.history.shared) (jobMachine hash) (JobCall.Enacted hash) w := by
  refine .start ⟨?_, hjobs, (fun _ _ _ hcall => by cases hcall),
    w.history.shared, [], [], [], ⟨.none, hw.loads, hjobs, fun _ _ => rfl,
      (fun _ _ _ _ _ hturn => by cases hturn), .nil, (fun _ he => absurd he List.not_mem_nil),
      (fun _ he => absurd he List.not_mem_nil), .nil, ?_, .nil, fun t e => ?_⟩⟩ hw.idle
  · have hagrees := hw.loads.agrees (T := T) w.history.past
    rw [← hw.finished] at hagrees
    exact hagrees
  · rw [hw.finished]
    exact .nil
  · exact ⟨fun he => absurd he List.not_mem_nil, fun hturn => by cases hturn⟩

theorem entry_of_mem {log : List Entry} {order : List JobFinished} {f : JobFinished}
    (h : List.Forall₂ Entry.Over log order) (hf : f ∈ order) : ∃ e ∈ log, e.Over f := by
  induction h with
  | nil => exact absurd hf List.not_mem_nil
  | cons hover _ ih =>
      rcases List.mem_cons.mp hf with rfl | hf
      · exact ⟨_, List.mem_cons_self, hover⟩
      · obtain ⟨e, he, hover⟩ := ih hf
        exact ⟨e, List.mem_cons_of_mem _ he, hover⟩

/-- In the order of their effects no call comes after one that was called when it
had returned. -/
theorem realTime_of_sorted {log : List Entry} {order : List JobFinished}
    (h : List.Forall₂ Entry.Over log order)
    (hsorted : log.Pairwise fun e e' => e.effect ≤ e'.effect)
    (hcalled : ∀ e ∈ log, e.called ≤ e.effect) :
    order.Pairwise fun f g => f.called ≤ g.returned := by
  induction h with
  | nil => exact .nil
  | @cons e f log order hover hrest ih =>
      obtain ⟨hfirst, hsorted⟩ := List.pairwise_cons.mp hsorted
      refine List.pairwise_cons.mpr ⟨fun g hg => ?_, ih hsorted fun e' he' =>
        hcalled e' (List.mem_cons_of_mem _ he')⟩
      obtain ⟨e', he', hover'⟩ := entry_of_mem hrest hg
      calc f.called = e.called := hover.called
        _ ≤ e.effect := hcalled e List.mem_cons_self
        _ ≤ e'.effect := hfirst e' he'
        _ ≤ g.returned := hover'.effect

theorem answers_of_over {log : List Entry} {order : List JobFinished}
    (h : List.Forall₂ Entry.Over log order) :
    order.map (fun f => (f.call, f.result)) = log.map fun e => (e.call, e.result) := by
  induction h with
  | nil => rfl
  | cons hover _ ih => rw [List.map_cons, List.map_cons, ih, hover.call, hover.result]

/-- **The store is linearizable**: whatever the threads do, in whatever order,
their calls are those of one order in which each runs alone. -/
theorem store_linearizable (hw : AtStart hash w) (hjobs : w.history.shared.hasJobs = true)
    (hsteps : (jobMachine hash).Steps w w') :
    ∃ pending order s, InOrder hash w.history.shared w' pending order s := by
  obtain ⟨ks, hkept, hserves⟩ := ((hw.kept hjobs).steps jobMachine_enacts hsteps).serves
  obtain ⟨s, log, ended, opened, hL⟩ := hkept.ledger
  let now := w'.history.past.length
  let pending := opened.map fun te : T × Entry =>
    (⟨te.2.call, te.2.called, now, te.2.result⟩ : JobFinished)
  have hmem : ∀ te ∈ opened, te.2 ∈ log := fun te hte =>
    hL.balance.mem_iff.mpr (List.mem_append_right _ (List.mem_map_of_mem hte))
  have hpending : List.Forall₂ Entry.Over (opened.map Prod.snd) pending := by
    refine List.forall₂_map_left_iff.mpr (List.forall₂_map_right_iff.mpr ?_)
    exact List.forall₂_same.mpr fun te hte => ⟨rfl, rfl, rfl, (hL.past _ (hmem te hte)).2.le⟩
  -- the calls in the order of their entries
  obtain ⟨order, horder, hperm⟩ :=
    List.perm_comp_forall₂ hL.balance (List.rel_append hL.ended hpending)
  refine ⟨pending, order, s, ⟨⟨opened.map Prod.fst, hL.nodup, ?_⟩, hperm,
    realTime_of_sorted horder hL.sorted fun e he => (hL.past e he).1, ?_, fun id hid => ?_⟩⟩
  · refine List.forall₂_map_left_iff.mpr (List.forall₂_map_right_iff.mpr ?_)
    refine List.forall₂_same.mpr fun te hte => ?_
    have hturn := (hL.opened te.1 te.2).mp hte
    rcases hserves te.1 with ⟨-, hidle⟩ | ⟨r, hrun, hcall⟩
    · rw [hidle] at hturn
      cases hturn
    · have hcall' : (ks te.1).2.call = some (r.call, r.called) := hcall
      rw [hturn] at hcall'
      obtain ⟨hc, hn⟩ := Prod.mk.inj (Option.some.inj hcall')
      exact ⟨r, hrun, hc, hn, rfl⟩
  · rw [answers_of_over horder]
    exact hL.alone
  · refine hL.dirs id fun t ht => hid ?_
    exact (hkept.agrees.owners.mem_iff id).mpr ⟨t, Grip.owns_of_changes ht⟩

/-- **No call ever finds the store corrupted.** -/
theorem never_corrupted (hw : AtStart hash w) (hjobs : w.history.shared.hasJobs = true)
    (hsteps : (jobMachine hash).Steps w w') {f : JobFinished} (hf : f ∈ w'.history.finished) :
    f.result ≠ .error (.raised corrupted) := by
  obtain ⟨ks, hkept, -⟩ := ((hw.kept hjobs).steps jobMachine_enacts hsteps).serves
  obtain ⟨s, log, ended, opened, hL⟩ := hkept.ledger
  obtain ⟨e, he, hover⟩ := entry_of_mem hL.ended hf
  rw [hover.result]
  exact hL.sound e (hL.balance.mem_iff.mpr (List.mem_append_left _ he))

/-- While one thread has begun to load a job just created, another appends its
first event. -/
theorem append_created : ∃ w' f g, (jobMachine createdSha).Steps createdThreads w' ∧
    w'.history.finished = [f, g] ∧ f.call = .append sampleJob.jobId startedEvent ∧
    g.call = .load sampleJob.jobId ∧ g.called < f.called := by
  let s := createdThreads.history.shared
  let M := jobMachine createdSha
  let c : JobCall := .append sampleJob.jobId startedEvent
  let l : JobCall := .load sampleJob.jobId
  obtain ⟨r, y, hperform⟩ : ∃ r y, c.perform createdSha (s.dirAt sampleJob.jobId) = some (r, y) :=
    ⟨_, _, rfl⟩
  obtain ⟨t, hrun, hloads, hturns, -⟩ :=
    JobCall.perform_alone rfl createdThreads_atStart.loads rfl hperform
  obtain ⟨r', y', hperform'⟩ : ∃ r y, l.perform createdSha (t.dirAt sampleJob.jobId) = some (r, y) :=
    ⟨_, _, rfl⟩
  obtain ⟨u, hrun', -⟩ := JobCall.perform_alone rfl hloads (hturns.jobs rfl) hperform'
  have happends : AloneLoop M.works (M.program c) s r t := hrun
  have hloaded : AloneLoop M.works (M.program l) t r' u := hrun'
  let loading : JobThreads Bool :=
    ⟨createdThreads.history.goTo s,
      Function.update createdThreads.running false (some (M.start l 0))⟩
  let appending : JobThreads Bool :=
    ⟨loading.history.goTo s, Function.update loading.running true (some (M.start c 1))⟩
  have hloading : M.Step createdThreads loading := .calls l rfl
  have happending : M.Step loading appending := .calls c rfl
  obtain ⟨v, f, hran, hfinished, hcall, hcalled, -⟩ :=
    Machine.Steps.of_aloneLoop (M := M) (w := appending) (t := true) happends rfl rfl
  have hstill : v.running false = some (M.start l 0) := hran.others false (by decide)
  obtain ⟨w', g, hran', hfinished', hcall', hcalled', -⟩ :=
    Machine.Steps.of_aloneLoop (M := M) (w := v) (t := false) hloaded hran.shared hstill
  refine ⟨w', f, g, .head hloading (.head happending (hran.steps.trans hran'.steps)), ?_, hcall,
    hcall', ?_⟩
  · rw [hfinished', hfinished]
    rfl
  · rw [hcalled, hcalled']
    exact Nat.zero_lt_one

theorem store_linearizable_created : ∃ w' f g, (jobMachine createdSha).Steps createdThreads w' ∧
    w'.history.finished = [f, g] ∧ f.call = .append sampleJob.jobId startedEvent ∧
    g.call = .load sampleJob.jobId ∧ g.called < f.called ∧
    ∃ pending order s, InOrder createdSha createdThreads.history.shared w' pending order s := by
  obtain ⟨w', f, g, hsteps, hfinished, hf, hg, hcalled⟩ := append_created
  exact ⟨w', f, g, hsteps, hfinished, hf, hg, hcalled, store_linearizable createdThreads_atStart rfl hsteps⟩

theorem never_corrupted_created : ∃ w' f g, (jobMachine createdSha).Steps createdThreads w' ∧
    w'.history.finished = [f, g] ∧ g.called < f.called ∧ f.result ≠ .error (.raised corrupted) ∧
    g.result ≠ .error (.raised corrupted) := by
  obtain ⟨w', f, g, hsteps, hfinished, -, -, hcalled⟩ := append_created
  have hf : f ∈ w'.history.finished := by
    rw [hfinished]
    exact List.mem_cons_self
  have hg : g ∈ w'.history.finished := by
    rw [hfinished]
    exact List.mem_cons_of_mem _ (List.mem_singleton_self g)
  exact ⟨w', f, g, hsteps, hfinished, hcalled, never_corrupted createdThreads_atStart rfl hsteps hf,
    never_corrupted createdThreads_atStart rfl hsteps hg⟩

end Order

end SpecStyle
