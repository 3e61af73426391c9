/-
SpecStyle/Workflow/CallsAlone.lean

The calls about a job, alone in a store whose jobs load.

Alone a call takes the lock of its job, decodes the directory, and carries out
its plan.  So it ends with what `JobCall.perform` says of the directory that is
there, and all jobs load after it (`JobCall.perform_alone`).
-/
import SpecStyle.Workflow.ListLinearizable

namespace SpecStyle

open PyLib

variable {hash : Bytes → Sha256} {s t u : Namespace} {id : JobId} {x y : Option Dir} {d : Dir}
  {α : Type} {plan : Plan α} {c : JobCall} {r : Except StoreExn JobAnswer}

/-- From `s` to `t` the directory of the job becomes `y`, and no other does. -/
structure Turns (id : JobId) (y : Option Dir) (s t : Namespace) : Prop where
  jobs : s.hasJobs = true → t.hasJobs = true
  dir : t.dirAt id = y
  others : ∀ other, other ≠ id → t.dirAt other = s.dirAt other
  mutations : t.mutations = s.mutations
  locked : t.locked = s.locked

theorem Turns.same (hjobs : t.hasJobs = s.hasJobs) (hdirs : ∀ other, t.dirAt other = s.dirAt other)
    (hmutations : t.mutations = s.mutations) (hlocked : t.locked = s.locked) :
    Turns id (s.dirAt id) s t :=
  ⟨fun hj => hjobs.trans hj, hdirs id, fun other _ => hdirs other, hmutations, hlocked⟩

theorem Turns.touch : Turns id (s.dirAt id) s s.touch := .same rfl (fun _ => rfl) rfl rfl

theorem Turns.after_touch (h : Turns id y s.touch t) : Turns id y s t :=
  ⟨h.jobs, h.dir, h.others, h.mutations, h.locked⟩

namespace Ns

theorem opened_turns : Turns id (some ((s.dirAt id).getD emptyDir)) s (opened s id) := by
  have hdirs : ∀ other, ({ s.makeJobs with bound := true } : Namespace).dirAt other = s.dirAt other :=
    fun other => Namespace.dirAt_makeJobs
  have hmade : ∀ other, (opened s id).dirAt other =
      if other = id then some ((s.dirAt id).getD emptyDir) else s.dirAt other := by
    intro other
    unfold opened
    rw [Namespace.dirAt_makeJob rfl, hdirs, hdirs]
  refine ⟨fun _ => rfl, ?_, fun other ho => ?_, rfl, rfl⟩
  · rw [hmade, if_pos rfl]
  · rw [hmade, if_neg ho]

/-- Alone, a commit in a mutation. -/
theorem commitJob_alone {expected : State} {data : Bytes} {events : Option Bytes} :
    ∃ t, Alone works (commitJob hash id expected data events) s
        (((commitOf hash (s.dirAt id) expected data events).1.mapError translateStorage).map
          fun _ => ()) t ∧
      Turns id (some (commitOf hash (s.dirAt id) expected data events).2) s t := by
  have hopened : Turns id (some ((s.enter.dirAt id).getD emptyDir)) s.enter (opened s.enter id) :=
    opened_turns
  have hjob : (opened s.enter id).hasJob id = true := Namespace.hasJob_of_dirAt hopened.dir
  let v := (opened s.enter id).setDir id (commitOf hash (s.dirAt id) expected data events).2
  have hdirs : ∀ other, v.dirAt other = if other = id then
      some (commitOf hash (s.dirAt id) expected data events).2 else
      (opened s.enter id).dirAt other := fun other => Namespace.dirAt_setDir hjob
  have hdir : v.dirAt id = some (commitOf hash (s.dirAt id) expected data events).2 := by
    rw [hdirs, if_pos rfl]
  -- the work in the directory that has been opened
  have hwork : Alone works (inJob id (commit hash expected data events snapshotBytesEquivalent))
      (opened s.enter id)
      ((commitOf hash (s.dirAt id) expected data events).1.mapError .file) v := by
    have hget : works.get (id, commit hash expected data events snapshotBytesEquivalent)
        (opened s.enter id) = (s.dirAt id).getD emptyDir := by
      show ((opened s.enter id).dirAt id).getD emptyDir = _
      rw [hopened.dir]
      rfl
    refine .work ?_
    rw [hget]
    exact .done
  refine ⟨v.leave, namespaceMutation_alone ?_, ?_⟩
  · rcases hr : (commitOf hash (s.dirAt id) expected data events).1 with e | p
    · rw [hr] at hwork
      exact translated_alone_file (openOrCreateJob_alone.bind hwork.bind_error)
    · rw [hr] at hwork
      exact translated_alone (openOrCreateJob_alone.bind
        (hwork.bind (requireJobBinding_alone (Namespace.hasJob_of_dirAt hdir))))
  · refine ⟨fun _ => Namespace.hasJobs_of_dirAt hdir, hdir, fun other ho => ?_, ?_, rfl⟩
    · show v.dirAt other = s.dirAt other
      rw [hdirs, if_neg ho]
      exact hopened.others other ho
    · show s.mutations + 1 - 1 = s.mutations
      rfl

/-- **Alone under its lock a call does what its plan says.** -/
theorem planned_alone (hb : s.bound = true → s.hasJobs = true) :
    ∃ t, Alone works (planned hash id plan) s (plan.outcome hash id (s.dirAt id)).1 t ∧
      Turns id (plan.outcome hash id (s.dirAt id)).2 s t := by
  have hdecode : Alone works (decodeJob hash id) s (decodeOf hash id (s.dirAt id)) s.touch := by
    have hat : decodeAt hash s id = decodeOf hash id (s.dirAt id) := by
      unfold decodeAt decodeOf
      cases s.dirAt id <;> rfl
    rw [← hat]
    exact decodeJob_alone hb
  rcases hD : decodeOf hash id (s.dirAt id) with e | D
  · rw [hD] at hdecode
    rw [Plan.outcome_error hD]
    exact ⟨s.touch, hdecode.bind_error, .touch⟩
  · rw [hD] at hdecode
    rw [Plan.outcome_ok hD]
    unfold planned
    rcases hp : plan D with e | ⟨a, - | ⟨data, events⟩⟩
    · refine ⟨s.touch, hdecode.bind ?_, .touch⟩
      rw [hp]
      exact .done
    · refine ⟨s.touch, hdecode.bind ?_, .touch⟩
      rw [hp]
      exact .pure
    · obtain ⟨t, hcommit, hturns⟩ :=
        @commitJob_alone hash s.touch id D.persisted data events
      refine ⟨t, hdecode.bind ?_, hturns.after_touch⟩
      rw [hp]
      show Alone works (commitJob hash id D.persisted data events >>= fun _ => pure a) s.touch
        (((commitOf hash (s.dirAt id) D.persisted data events).1.mapError translateStorage).map
          fun _ => a) t
      have hcommit' : Alone works (commitJob hash id D.persisted data events) s.touch
          (((commitOf hash (s.dirAt id) D.persisted data events).1.mapError translateStorage).map
            fun _ => ()) t := hcommit
      rcases hr : (commitOf hash (s.dirAt id) D.persisted data events).1 with e | p
      · rw [hr] at hcommit'
        exact hcommit'.bind_error
      · rw [hr] at hcommit'
        exact hcommit'.bind .pure

theorem locked_alone (hb : s.bound = true → s.hasJobs = true) (hl : id ∉ s.locked) :
    ∃ t, Alone works (withJobLock id (planned hash id plan)) s
        (plan.outcome hash id (s.dirAt id)).1 t ∧
      Turns id (plan.outcome hash id (s.dirAt id)).2 s t := by
  obtain ⟨t, halone, hturns⟩ := @planned_alone hash (s.lock id) id α plan hb
  refine ⟨t.unlock id, withJobLock_alone hl halone,
    ⟨hturns.jobs, hturns.dir, hturns.others, hturns.mutations, ?_⟩⟩
  show t.locked.erase id = s.locked
  rw [hturns.locked]
  exact List.erase_cons_head ..

end Ns

/-- A store where the job has come to load. -/
theorem AllLoad.turns (hs : AllLoad hash s) (hjobs : s.hasJobs = true) (h : Turns id y s t)
    (hy : ∀ d ∈ y, Loadable hash id d) : AllLoad hash t where
  quiet := ⟨h.locked.trans hs.quiet.locked, h.mutations.trans hs.quiet.mutations,
    fun _ => h.jobs hjobs⟩
  loads other d hd := by
    by_cases ho : other = id
    · subst ho
      rw [h.dir] at hd
      exact hy d hd
    · rw [h.others other ho] at hd
      exact hs.loads other d hd

/-- **Alone a call about a job does what it performs** on the directory that is
there; it does not find the store corrupted, and all jobs load after it. -/
theorem JobCall.perform_alone (hc : c.job = some id) (hs : AllLoad hash s)
    (hjobs : s.hasJobs = true) (hperform : c.perform hash (s.dirAt id) = some (r, y)) :
    ∃ t, AloneLoop works (c.program hash) s r t ∧ AllLoad hash t ∧ Turns id y s t ∧
      r ≠ .error (.raised corrupted) := by
  rcases @JobCall.carries hash id c hc with ⟨e, hprogram, hne, hrefused⟩ | ⟨_, plan, f, hcarries⟩
  · obtain ⟨rfl, rfl⟩ := Prod.mk.inj (Option.some.inj ((hrefused _).symm.trans hperform))
    rw [hprogram]
    exact ⟨s, .raises .done, hs, .same rfl (fun _ => rfl) rfl rfl,
      fun he => hne (StoreExn.raised.inj (Except.error.inj he))⟩
  · have hanswered := Option.some.inj ((hcarries.perform _).symm.trans hperform)
    have hl : id ∉ s.locked := by
      rw [hs.quiet.locked]
      exact List.not_mem_nil
    obtain ⟨t, halone, hturns⟩ := @Ns.locked_alone hash s id _ plan hs.quiet.bound hl
    obtain ⟨hnever, hloads⟩ := hcarries.sound.outcome fun d hd => hs.loads id d hd
    obtain ⟨hr, rfl⟩ := Prod.mk.inj hanswered
    rw [hcarries.program, ← hr]
    refine ⟨t, ?_, hs.turns hjobs hturns hloads, hturns, ?_⟩
    · rcases ho : (plan.outcome hash id (s.dirAt id)).1 with e | a
      · rw [ho] at halone
        exact .raises halone.bind_error
      · rw [ho] at halone
        exact .returns (halone.bind .pure)
    · intro he
      rcases ho : (plan.outcome hash id (s.dirAt id)).1 with e | a
      · rw [ho] at he hnever
        have hraised : e = .raised corrupted := Except.error.inj he
        exact hnever (congrArg Except.error hraised)
      · rw [ho] at he
        cases he

end SpecStyle
