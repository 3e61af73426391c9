/-
SpecStyle/Workflow/ListLinearizable.lean

Listing the jobs among other threads.

A turn of a listing begins in an epoch without mutations.  As long as none has
been there since, each of its steps sees the files of that instant (`Sees`), and
all of them load; once one has, whatever the turn sees is thrown away at its
end, since the epoch has moved (`listTurn_follows`).  So a listing never finds
the store corrupted, and answers with the jobs of one instant between its call
and its return (`list_linearizable`).
-/
import SpecStyle.Workflow.JobSteps

namespace SpecStyle

open PyLib

variable {hash : Bytes → Sha256} {s s' seen : Namespace} {h h' : JobHistory} {id : JobId}
  {x : Option Dir} {d : Dir} {l l' : Stance} {α β : Type} {n e : Nat} {m : Ns α}
  {a : Except StoreExn α}

/-! ### What a turn sees -/

/-- The turn has seen nothing but the files of one instant. -/
def Live (n e : Nat) (seen : Namespace) (l : Stance) : Prop :=
  l.grip = .free ∧ l.scan = .live n e seen

/-- A mutation has been there since. -/
def Lost (n e : Nat) (l : Stance) : Prop := l.grip = .free ∧ l.scan = .lost n e

/-- Whatever it sees, the program is refused at most as for a corrupt store. -/
def Wanders (hash : Bytes → Sha256) (n e : Nat) (m : Ns α) : Prop :=
  ∀ l, Lost n e l → Follows .steady hash m l fun r l' =>
    Lost n e l' ∧ ∀ x, r = .error x → x = Ns.corruptStore

/-- **The program answers `a`** if it sees the files of one instant only. -/
structure Sees (hash : Bytes → Sha256) (n e : Nat) (seen : Namespace) (m : Ns α)
    (a : Except StoreExn α) : Prop where
  live : ∀ l, Live n e seen l → Follows .steady hash m l fun r l' => (Live n e seen l' ∧ r = a) ∨
    Lost n e l' ∧ ∀ x, r = .error x → x = Ns.corruptStore
  lost : Wanders hash n e m

/-- At a step the turn sees the files of its instant, or it is lost. -/
theorem Live.cases (hl : Live n e seen l) (hk : l.Knows hash h) :
    SameFiles seen h.shared ∨ (Scan.lost n e).Knows h := by
  have hscan := hk.scan
  rw [hl.2] at hscan
  obtain ⟨-, hcalled, hle, hsame⟩ := hscan
  by_cases hstill : h.shared.epoch = e ∧ h.shared.mutations = 0
  · exact .inl (hsame hstill.1 hstill.2)
  · exact .inr ⟨hcalled, hle, fun hepoch => Nat.pos_of_ne_zero fun hzero => hstill ⟨hepoch, hzero⟩⟩

theorem Wanders.done {r : Except StoreExn α} (hr : ∀ x, r = .error x → x = Ns.corruptStore) :
    Wanders hash n e (.done r : Ns α) := fun _ hl => ⟨hl, hr⟩

theorem Wanders.bind {f : α → Ns β} (hm : Wanders hash n e m) (hf : ∀ a, Wanders hash n e (f a)) :
    Wanders hash n e (m >>= f) := by
  intro l hl
  refine (hm l hl).bind (fun a l' hl' => hf a l' hl'.1) fun x l' hl' => ⟨hl'.1, fun y hy => ?_⟩
  cases hy
  exact hl'.2 x rfl

theorem Wanders.look {f : Namespace → α} : Wanders hash n e (Task.look f) :=
  fun _ hl => follows_look fun _ _ _ => ⟨hl, fun _ hx => by cases hx⟩

theorem Wanders.ite {c : Prop} [Decidable c] {m' : Ns α} (hm : Wanders hash n e m)
    (hm' : Wanders hash n e m') : Wanders hash n e (if c then m else m') := by
  split
  · exact hm
  · exact hm'

theorem Wanders.require {c : Bool} : Wanders hash n e (Task.require c Ns.corruptStore) := by
  refine .ite (.done fun x hx => by cases hx) (.done fun x hx => ?_)
  cases hx
  rfl

theorem Wanders.openDirectory {present : Namespace → Bool} :
    Wanders hash n e (Ns.openDirectory present) :=
  Wanders.look.bind fun _ => .ite (Wanders.look.bind fun _ => .ite .look
    (.done fun x hx => by cases hx)) (.done fun x hx => by cases hx)

theorem Sees.done (r : α) : Sees hash n e seen (pure r) (.ok r) :=
  ⟨fun _ hl => .inl ⟨hl, rfl⟩, .done fun x hx => by cases hx⟩

theorem Sees.bind {b : α} {a : Except StoreExn β} {f : α → Ns β} (hm : Sees hash n e seen m (.ok b))
    (hf : Sees hash n e seen (f b) a) (hlost : ∀ b, Wanders hash n e (f b)) :
    Sees hash n e seen (m >>= f) a := by
  refine ⟨fun l hl => (hm.live l hl).bind ?_ ?_, hm.lost.bind hlost⟩
  · rintro c l' (⟨hl', hc⟩ | ⟨hl', -⟩)
    · cases hc
      exact hf.live l' hl'
    · exact (hlost c l' hl').mono fun r l'' hr => .inr hr
  · rintro y l' (⟨-, hy⟩ | ⟨hl', hy⟩)
    · cases hy
    · refine .inr ⟨hl', fun z hz => ?_⟩
      cases hz
      exact hy y rfl

/-- A look at the files. -/
theorem Sees.look {f : Namespace → α} (hf : ∀ s, SameFiles seen s → f s = f seen) :
    Sees hash n e seen (Task.look f) (.ok (f seen)) := by
  refine ⟨fun l hl => Plays.call fun h hk _ => ?_, .look⟩
  rcases hl.cases hk.2 with hsame | hlost
  · exact ⟨l, hk.2.same, .inl ⟨hl, congrArg Except.ok (hf _ hsame)⟩⟩
  · exact ⟨{ l with scan := .lost n e }, .of_knows ⟨hk.2.jobs, hk.2.grip, hlost.goTo (.refl _)⟩ rfl,
      .inr ⟨⟨hl.1, rfl⟩, fun x hx => by cases hx⟩⟩

theorem Sees.require {c : Bool} (hc : c = true) :
    Sees hash n e seen (Task.require c Ns.corruptStore) (.ok ()) := by
  subst hc
  exact .done ()

theorem Sees.openDirectory {present : Namespace → Bool}
    (hp : ∀ s, SameFiles seen s → present s = present seen) :
    Sees hash n e seen (Ns.openDirectory present) (.ok (present seen)) := by
  have hlook : Sees hash n e seen (Task.look present) (.ok (present seen)) := .look hp
  have hlost : ∀ b : Bool,
      Wanders hash n e (if b = true then Task.look present else return false) :=
    fun b => .ite .look (.done fun x hx => by cases hx)
  unfold Ns.openDirectory
  refine hlook.bind ?_ fun b => .ite (Wanders.look.bind hlost) (.done fun x hx => by cases hx)
  rcases hb : present seen
  · exact .done false
  · rw [hb] at hlook
    exact hlook.bind hlook hlost

/-! ### The entries -/

/-- Under the lock a job that is there has a state, and an empty place is
refused. -/
theorem follows_validatedState (hgrip : l.grip = .holds id x) (hx : ∀ d ∈ x, Loadable hash id d) :
    Follows .steady hash (Ns.validatedStateFromFd hash id) l fun r l' => l' = l ∧
      ((x = none ∧ r = .error (.raised corrupted)) ∨
        x.isSome = true ∧ ∃ state, r = .ok (some state)) := by
  unfold Ns.validatedStateFromFd
  refine plays_translated ?_
  have hread : Follows .steady hash (Ns.inJob id (read hash)) l fun r l' =>
      l' = l ∧ r = (readDir hash (x.getD emptyDir)).mapError .file :=
    follows_inJob_read hgrip ⟨rfl, rfl⟩
  cases x with
  | none =>
      rw [Option.getD_none, Ns.emptyDir_read] at hread
      refine hread.bind ?_ ?_
      · rintro p l' ⟨rfl, hp⟩
        cases hp
        rw [decodePersisted_absent rfl]
        refine hread.bind ?_ ?_
        · rintro p l'' ⟨rfl, hp⟩
          cases hp
          exact Plays.require_bind (decide_eq_true rfl) ⟨rfl, .inl ⟨rfl, rfl⟩⟩
        · rintro y l'' ⟨-, hy⟩
          cases hy
      · rintro y l' ⟨-, hy⟩
        cases hy
  | some d =>
      obtain ⟨p, J, hJ⟩ := hx d rfl
      rw [Option.getD_some, hJ.read] at hread
      refine hread.bind ?_ ?_
      · rintro p l' ⟨rfl, hp⟩
        cases hp
        rw [decodePersisted_journal hJ.persisted]
        refine hread.bind ?_ ?_
        · rintro p l'' ⟨rfl, hp⟩
          cases hp
          exact Plays.require_bind (decide_eq_true rfl) ⟨rfl, .inr ⟨rfl, J.state, rfl⟩⟩
        · rintro y l'' ⟨-, hy⟩
          cases hy
      · rintro y l' ⟨-, hy⟩
        cases hy

/-- The locked part of an entry: a job that is there has a state, unless the turn
is lost. -/
theorem follows_lockedEntry (hfree : l.grip = .free)
    (hk : ∀ h, l.Knows hash h → (h.shared.hasJob id = true ∧ l.scan = .live n e seen) ∨
      (Scan.lost n e).Knows h) :
    Follows .steady hash (Ns.withJobLock id (Ns.validatedStateFromFd hash id)) l fun r l' =>
      (l.scan = .live n e seen ∧ Live n e seen l' ∧ ∃ state, r = .ok (some state)) ∨
        Lost n e l' ∧ ∀ x, r = .error x → x = .raised corrupted := by
  refine follows_withJobLock hfree fun h _ hl => ?_
  rcases hk h hl with ⟨hjob, hlive⟩ | hlost
  · have hscan := hl.scan
    rw [hlive] at hscan
    refine ⟨_, hscan, fun l' hg hs hx => (follows_validatedState hg hx).mono ?_⟩
    rintro r l'' ⟨rfl, ⟨hnone, -⟩ | ⟨-, hstate⟩⟩
    · have hsome : (h.shared.dirAt id).isSome = true := hjob
      rw [hnone] at hsome
      cases hsome
    · exact ⟨⟨_, hg⟩, .inl ⟨hlive, ⟨rfl, hs⟩, hstate⟩⟩
  · refine ⟨_, hlost, fun l' hg hs hx => (follows_validatedState hg hx).mono ?_⟩
    rintro r l'' ⟨rfl, ⟨-, hr⟩ | ⟨-, state, hr⟩⟩
    · refine ⟨⟨_, hg⟩, .inr ⟨⟨rfl, hs⟩, fun y hy => ?_⟩⟩
      rw [hr] at hy
      exact (Except.error.inj hy).symm
    · refine ⟨⟨_, hg⟩, .inr ⟨⟨rfl, hs⟩, fun y hy => ?_⟩⟩
      rw [hr] at hy
      cases hy

/-- A corrupted job is a corrupt store. -/
def recode (e : StoreExn) : StoreExn := if e = .raised corrupted then Ns.corruptStore else e

theorem follows_recoded {Q : Except StoreExn α → Stance → Prop}
    (hm : Follows .steady hash m l fun r l' => Q (r.mapError recode) l') :
    Follows .steady hash (Ns.recoded m) l Q := by
  refine hm.andThen fun r l' hr => ?_
  cases r <;> exact hr

/-- An entry whose directory has been opened. -/
theorem follows_entry (seen : Namespace) (hfree : l.grip = .free)
    (hk : ∀ h, l.Knows hash h → (h.shared.hasJob id = true ∧ l.scan = .live n e seen) ∨
      (Scan.lost n e).Knows h) :
    Follows .steady hash (do
      let state ← Ns.withJobLock id (Ns.validatedStateFromFd hash id)
      return some state.isSome) l fun r l' =>
        (l.scan = .live n e seen ∧ Live n e seen l' ∧ r.mapError recode = .ok (some true)) ∨
          Lost n e l' ∧ ∀ x, r.mapError recode = .error x → x = Ns.corruptStore := by
  refine (follows_lockedEntry hfree hk).bind ?_ ?_
  · rintro state l' (⟨hl, hl', _, hstate⟩ | ⟨hl', -⟩)
    · cases hstate
      exact .inl ⟨hl, hl', rfl⟩
    · exact .inr ⟨hl', fun x hx => by cases hx⟩
  · rintro y l' (⟨-, -, _, hstate⟩ | ⟨hl', hy⟩)
    · cases hstate
    · obtain rfl := hy y rfl
      exact .inr ⟨hl', fun x hx => (Except.error.inj hx).symm⟩

/-- The same where the turn is lost. -/
theorem follows_lostEntry (hl : Lost n e l) :
    Follows .steady hash (do
      let state ← Ns.withJobLock id (Ns.validatedStateFromFd hash id)
      return some state.isSome) l fun r l' =>
        Lost n e l' ∧ ∀ x, r.mapError recode = .error x → x = Ns.corruptStore := by
  have hk : ∀ h, l.Knows hash h → (h.shared.hasJob id = true ∧ l.scan = .live n e newNamespace) ∨
      (Scan.lost n e).Knows h := by
    intro h hk
    have hscan := hk.scan
    rw [hl.2] at hscan
    exact .inr hscan
  refine (follows_entry newNamespace hl.1 hk).mono ?_
  rintro r l' (⟨hlive, -⟩ | hlost)
  · rw [hl.2] at hlive
    cases hlive
  · exact hlost

/-- Where the turn is lost, an entry is refused at most as for a corrupt store. -/
theorem wanders_listedJob : Wanders hash n e (Ns.recoded (Ns.validatedListedJob hash id)) := by
  have hopen : Wanders hash n e (Ns.openDirectory fun s => s.hasJob id) := .openDirectory
  intro l hl
  refine follows_recoded ((hopen l hl).bind ?_ ?_)
  · rintro b l' ⟨hl', -⟩
    cases b with
    | false => exact ⟨hl', fun x hx => by cases hx⟩
    | true => exact follows_lostEntry hl'
  · rintro y l' ⟨hl', hy⟩
    obtain rfl := hy y rfl
    exact ⟨hl', fun x hx => (Except.error.inj hx).symm⟩

/-- **An entry that was there in the instant is listed**, unless the turn is
lost. -/
theorem sees_listedJob (hjob : seen.hasJob id = true) :
    Sees hash n e seen (Ns.recoded (Ns.validatedListedJob hash id)) (.ok (some true)) := by
  have hsame : ∀ s, SameFiles seen s → s.hasJob id = seen.hasJob id := by
    intro s hs
    unfold Namespace.hasJob
    rw [hs.dirs id]
  have hopen : Sees hash n e seen (Ns.openDirectory fun s => s.hasJob id) (.ok (seen.hasJob id)) :=
    .openDirectory hsame
  rw [hjob] at hopen
  refine ⟨fun l hl => follows_recoded ((hopen.live l hl).bind ?_ ?_), wanders_listedJob⟩
  · rintro b l' (⟨hl', hb⟩ | ⟨hl', -⟩)
    · cases hb
      have hk : ∀ h, l'.Knows hash h → (h.shared.hasJob id = true ∧ l'.scan = .live n e seen) ∨
          (Scan.lost n e).Knows h := by
        intro h hk
        rcases hl'.cases hk with hfiles | hlost
        · exact .inl ⟨(hsame _ hfiles).trans hjob, hl'.2⟩
        · exact .inr hlost
      refine (follows_entry seen hl'.1 hk).mono ?_
      rintro r l'' (⟨-, hl'', hr⟩ | hlost)
      · exact .inl ⟨hl'', hr⟩
      · exact .inr hlost
    · cases b with
      | false => exact .inr ⟨hl', fun x hx => by cases hx⟩
      | true => exact (follows_lostEntry hl').mono fun r l'' hlost => .inr hlost
  · rintro y l' (⟨-, hy⟩ | ⟨hl', hy⟩)
    · cases hy
    · obtain rfl := hy y rfl
      exact .inr ⟨hl', fun x hx => (Except.error.inj hx).symm⟩

theorem wanders_entries (ids : List JobId) :
    Wanders hash n e (Ns.validateListEntries hash ids) := by
  induction ids with
  | nil => exact .done fun x hx => by cases hx
  | cons id ids ih =>
      unfold Ns.validateListEntries
      refine wanders_listedJob.bind fun checked => ?_
      cases checked with
      | none => exact .done fun x hx => by cases hx
      | some found =>
          refine Wanders.look.bind fun _ => .ite (ih.bind fun _ => ?_) ?_
          · exact .done fun x hx => by cases hx
          exact .done fun x hx => by cases hx

/-- **The entries of the instant are listed.** -/
theorem sees_entries {ids : List JobId} (hids : ∀ id ∈ ids, seen.hasJob id = true) :
    Sees hash n e seen (Ns.validateListEntries hash ids) (.ok (some ids)) := by
  induction ids with
  | nil => exact .done (some [])
  | cons id ids ih =>
      have hjob := hids id List.mem_cons_self
      have hrest := ih fun other ho => hids other (List.mem_cons_of_mem _ ho)
      have hnext : ∀ found : Bool, Wanders hash n e (do
          let rest ← Ns.validateListEntries hash ids
          return rest.map fun rest => if found then id :: rest else rest) :=
        fun found => (wanders_entries ids).bind fun _ => .done fun x hx => by cases hx
      unfold Ns.validateListEntries
      refine (sees_listedJob hjob).bind ?_ fun checked => ?_
      · have hlook : Sees hash n e seen (Task.look fun s => s.hasJob id)
            (.ok (seen.hasJob id)) := by
          refine .look fun s hs => ?_
          unfold Namespace.hasJob
          rw [hs.dirs id]
        rw [hjob] at hlook
        refine hlook.bind (hrest.bind (.done _) fun _ => ?_) fun b => ?_
        · exact .done fun x hx => by cases hx
        · exact .ite (hnext true) (.done fun x hx => by cases hx)
      · cases checked with
        | none => exact .done fun x hx => by cases hx
        | some found =>
            exact Wanders.look.bind fun _ => .ite (hnext found) (.done fun x hx => by cases hx)

/-! ### One turn -/

/-- Looking for `jobs` in a turn. -/
theorem follows_lookJobs (hl : Live n e seen l ∨ Lost n e l) :
    Follows .steady hash (Task.look Namespace.hasJobs) l fun r l' => ∃ b, r = .ok b ∧
      (b = true → l'.jobs = true) ∧ ((Live n e seen l' ∧ b = seen.hasJobs) ∨ Lost n e l') ∧
      (Lost n e l → Lost n e l') := by
  refine Plays.call fun h hk _ => ?_
  have hquiet : ∀ k : Scan, k.Knows h →
      l.Moves .steady hash h ⟨h.shared.hasJobs, l.grip, k⟩ (h.goTo h.shared) :=
    fun k hknows => .of_knows ⟨fun hj => hj, hk.2.grip, hknows.goTo (.refl _)⟩ rfl
  rcases hl with hl | hl
  · rcases hl.cases hk.2 with hsame | hlost
    · refine ⟨_, hquiet l.scan hk.2.scan, _, rfl, fun hj => hj, .inl ⟨hl, hsame.jobs⟩, ?_⟩
      intro hlost
      exact hlost
    · exact ⟨_, hquiet _ hlost, _, rfl, fun hj => hj, .inr ⟨hl.1, rfl⟩, fun _ => ⟨hl.1, rfl⟩⟩
  · exact ⟨_, hquiet l.scan hk.2.scan, _, rfl, fun hj => hj, .inr hl, fun hlost => hlost⟩

/-- Opening `jobs` in a turn. -/
theorem follows_turnJobs (hl : Live n e seen l ∨ Lost n e l) :
    Follows .steady hash (Ns.openDirectory Namespace.hasJobs) l fun r l' => ∃ b, r = .ok b ∧
      (b = true → l'.jobs = true) ∧ ((Live n e seen l' ∧ b = seen.hasJobs) ∨ Lost n e l') ∧
      (Lost n e l → Lost n e l') := by
  have hgo : ∀ {l' : Stance} {b : Bool}, (Live n e seen l' ∧ b = seen.hasJobs) ∨ Lost n e l' →
      Live n e seen l' ∨ Lost n e l' := fun h => h.imp And.left id
  unfold Ns.openDirectory
  refine (follows_lookJobs hl).bind ?_ ?_
  · rintro b l₁ ⟨_, hb, hj, hl₁, hlost₁⟩
    cases hb
    cases b with
    | false => exact ⟨_, rfl, hj, hl₁, hlost₁⟩
    | true =>
        refine (follows_lookJobs (hgo hl₁)).bind ?_ ?_
        · rintro b l₂ ⟨_, hb, hj, hl₂, hlost₂⟩
          cases hb
          cases b with
          | false => exact ⟨_, rfl, hj, hl₂, fun h => hlost₂ (hlost₁ h)⟩
          | true =>
              refine (follows_lookJobs (hgo hl₂)).mono ?_
              rintro r l₃ ⟨b, hb, hj, hl₃, hlost₃⟩
              exact ⟨b, hb, hj, hl₃, fun h => hlost₃ (hlost₂ (hlost₁ h))⟩
        · rintro y l₂ ⟨_, hy, -⟩
          cases hy
  · rintro y l' ⟨_, hy, -⟩
    cases hy

theorem wanders_bindNone : Wanders hash n e (Ns.bindJobsIdentity false) := fun _ hl =>
  follows_bindNone ⟨hl, fun x hx => by cases hx⟩
    fun _ _ _ _ => ⟨hl, fun x hx => (Except.error.inj hx).symm⟩

/-- Where there was no `jobs` in the instant, none is bound. -/
theorem sees_bindNone (hseen : seen.hasJobs = false) :
    Sees hash n e seen (Ns.bindJobsIdentity false) (.ok ()) := by
  refine ⟨fun l hl => Plays.call fun h hk _ => ?_, wanders_bindNone⟩
  rcases hl.cases hk.2 with hsame | hlost
  · have hb : h.shared.bound = false := by
      by_contra hne
      rw [Bool.not_eq_false] at hne
      have hj := hk.1.bound hne
      rw [hsame.jobs, hseen] at hj
      cases hj
    simp only [hb, Bool.false_eq_true, if_false]
    exact ⟨l, hk.2.same, .inl ⟨hl, trivial⟩⟩
  · have hmove : l.Moves .steady hash h { l with scan := .lost n e } (h.goTo h.shared) :=
      .of_knows ⟨hk.2.jobs, hk.2.grip, hlost.goTo (.refl _)⟩ rfl
    by_cases hb : h.shared.bound = true
    · simp only [hb, Bool.false_eq_true, if_false, if_true]
      exact ⟨_, hmove, .inr ⟨⟨hl.1, rfl⟩, fun x hx => (Except.error.inj hx).symm⟩⟩
    · simp only [hb, Bool.false_eq_true, if_false]
      exact ⟨_, hmove, .inr ⟨⟨hl.1, rfl⟩, fun x hx => by cases hx⟩⟩

theorem Wanders.pure {c : α} : Wanders hash n e (Pure.pure c : Ns α) :=
  .done fun x hx => by cases hx

theorem wanders_missing : Wanders hash n e (do
    Ns.bindJobsIdentity false
    let jobs ← Task.look Namespace.hasJobs
    Task.require (!jobs) Ns.corruptStore
    return some [] : Ns (Option (List JobId))) :=
  wanders_bindNone.bind fun _ => Wanders.look.bind fun _ => Wanders.require.bind fun _ => .pure

/-- Where there was no `jobs` in the instant, no job is listed. -/
theorem sees_missing (hseen : seen.hasJobs = false) :
    Sees hash n e seen (do
      Ns.bindJobsIdentity false
      let jobs ← Task.look Namespace.hasJobs
      Task.require (!jobs) Ns.corruptStore
      return some [] : Ns (Option (List JobId))) (.ok (some [])) := by
  have hjobs : Sees hash n e seen (Task.look Namespace.hasJobs) (.ok seen.hasJobs) :=
    .look fun s hs => hs.jobs
  refine (sees_bindNone hseen).bind (hjobs.bind ?_ fun _ => Wanders.require.bind fun _ => .pure)
    fun _ => Wanders.look.bind fun _ => Wanders.require.bind fun _ => .pure
  rw [hseen]
  exact (Sees.require rfl).bind (.done _) fun _ => .pure

/-- **A turn lists the jobs of its instant**, unless it is lost. -/
theorem sees_listOnce :
    Sees hash n e seen (Ns.listOnce hash) (.ok (some (Ns.sortIds seen.ids))) := by
  have hids : Sees hash n e seen (Task.look Namespace.ids) (.ok seen.ids) :=
    .look fun s hs => hs.ids
  have hjobs : Sees hash n e seen (Task.look Namespace.hasJobs) (.ok seen.hasJobs) :=
    .look fun s hs => hs.jobs
  have hjob : ∀ id ∈ seen.ids, seen.hasJob id = true := fun id hid => Namespace.mem_ids.mp hid
  have hbind : ∀ {l : Stance}, l.jobs = true → l.grip = .free →
      Follows .steady hash (Ns.bindJobsIdentity true) l fun r l' => r = .ok () ∧ l' = l :=
    fun hj hg => follows_bindJobs hj (.inl (by rw [hg]; rfl)) ⟨rfl, rfl⟩
  -- what a lost turn does once `jobs` is open
  have hopened : ∀ F : List JobId → Option (List JobId) → Ns (Option (List JobId)),
      (∀ before listed, Wanders hash n e (F before listed)) → Wanders hash n e (do
        let before ← Task.look Namespace.ids
        Ns.validateListEntries hash before >>= F before) :=
    fun F hF => Wanders.look.bind fun before => (wanders_entries before).bind (hF before)
  have hanswer : ∀ {c c' : Option (List JobId)} {p : List JobId → Prop} [DecidablePred p],
      Wanders hash n e (do
        let after ← Task.look Namespace.ids
        if p after then
          let jobs ← Task.look Namespace.hasJobs
          Task.require jobs Ns.corruptStore
          return c
        else return c') := fun {_ _ _} _ => Wanders.look.bind fun _ => .ite
          (Wanders.look.bind fun _ => Wanders.require.bind fun _ => .pure) .pure
  unfold Ns.listOnce
  refine ⟨fun l hl => (follows_turnJobs (.inl hl)).bind ?_ ?_, fun l hl => ?_⟩
  · rintro b l₁ ⟨_, hb, hj, hl₁, -⟩
    cases hb
    cases b with
    | true =>
        refine (hbind (hj rfl) (hl₁.elim (fun h => h.1.1) fun h => h.1)).bind ?_ ?_
        · rintro _ l₂ ⟨-, rfl⟩
          rcases hl₁ with ⟨hl₁, hseen⟩ | hl₁
          · rw [← hseen] at hjobs
            refine (hids.bind ((sees_entries hjob).bind (hids.bind ?_ ?_) ?_) ?_).live l₂ hl₁
            · show Sees hash n e seen (if _ then _ else _) _
              rw [if_pos (Ns.sameNames_self _)]
              exact hjobs.bind ((Sees.require rfl).bind (.done _) fun _ => .pure)
                fun _ => Wanders.require.bind fun _ => .pure
            · exact fun _ =>
                .ite (Wanders.look.bind fun _ => Wanders.require.bind fun _ => .pure) .pure
            · rintro (- | listed)
              · exact .pure
              · exact hanswer
            · refine fun before => (wanders_entries before).bind ?_
              rintro (- | listed)
              · exact .pure
              · exact hanswer
          · refine (hopened _ (fun before listed => ?_) l₂ hl₁).mono fun r l' h => .inr h
            cases listed with
            | none => exact .pure
            | some listed => exact hanswer
        · rintro y l₂ ⟨hy, -⟩
          cases hy
    | false =>
        rcases hl₁ with ⟨hl₁, hseen⟩ | hl₁
        · have hempty : seen.ids = [] := by
            unfold Namespace.hasJobs at hseen
            unfold Namespace.ids
            cases hjobs : seen.jobs with
            | none => rfl
            | some jobs =>
                rw [hjobs] at hseen
                cases hseen
          rw [hempty]
          exact (sees_missing hseen.symm).live l₁ hl₁
        · exact (wanders_missing l₁ hl₁).mono fun r l' h => .inr h
  · rintro y l₁ ⟨_, hy, -⟩
    cases hy
  · have hturn : Follows .steady hash (Ns.openDirectory Namespace.hasJobs) l _ :=
      follows_turnJobs (.inr hl : Live n e seen l ∨ Lost n e l)
    refine hturn.bind ?_ ?_
    · rintro b l₁ ⟨_, hb, hj, -, hlost⟩
      cases hb
      have hl₁ := hlost hl
      cases b with
      | true =>
          refine (hbind (hj rfl) hl₁.1).bind ?_ ?_
          · rintro _ l₂ ⟨-, rfl⟩
            refine hopened _ (fun before listed => ?_) l₂ hl₁
            cases listed with
            | none => exact .pure
            | some listed => exact hanswer
          · rintro y l₂ ⟨hy, -⟩
            cases hy
      | false => exact wanders_missing l₁ hl₁
    · rintro y l₁ ⟨_, hy, -⟩
      cases hy

/-- How a turn ends: with the jobs of an instant, or with nothing where it is
lost. -/
def TurnEnds (hash : Bytes → Sha256) (n : Nat) (r : Except StoreExn (Option (List JobId)))
    (l : Stance) : Prop :=
  l.grip = .free ∧ ((r = .ok none ∧ ∃ e, l.scan = .lost n e) ∨
    ∃ seen, l.scan = .found n seen ∧ r = .ok (some (Ns.sortIds seen.ids)) ∧ Unchanging hash seen)

section Turns

variable {K : Type} {D : Discipline Namespace JobWork StoreExn JobAnswer JobCall K} {f : Stance → K}
  {P : Stance → Namespace → K → Prop}

/-- What a thread does when a listing of its own has found the jobs of now. -/
def FindsNow (hash : Bytes → Sha256) (D : Discipline Namespace JobWork StoreExn JobAnswer JobCall K)
    (f : Stance → K) (n : Nat) (P : Stance → Namespace → K → Prop) : Prop :=
  ∀ {l l' h seen}, D.knows (f l) h → h.shared.mutations = 0 → SameFiles seen h.shared →
    l'.grip = .free → l'.scan = .found n seen → l.Moves .steady hash h l' (h.goTo h.shared) →
    ∃ k, D.moves (f l) h k (h.goTo h.shared) ∧ P l' seen k

/-- The epoch at the end of a turn: it is the one of the beginning only if no
mutation has been there. -/
theorem plays_again {m : Ns (Option (List JobId))}
    {Q : Except StoreExn (Option (List JobId)) → K → Prop}
    (hf : (jobDiscipline .steady hash).Embeds D f) (hfinds : FindsNow hash D f n P)
    (hl : Live n e seen l ∨ Lost n e l)
    (hlive : Live n e seen l → ∀ l' k, l'.grip = .free → l'.scan = .found n seen → P l' seen k →
      Plays D works m k Q)
    (hlost : ∀ l', Lost n e l' → Q (.ok none) (f l')) :
    Plays D works (do
      let again ← Ns.stableEpoch
      if again ≠ e then return none else m) (f l) Q := by
  rintro h hD hguard
  have hk := (hf.knows l h hD).2
  have hzero : h.shared.mutations = 0 := eq_of_beq hguard
  have hscan := hk.scan
  have hmove : ∀ k : Scan, k.Knows h →
      l.Moves .steady hash h ⟨l.jobs, l.grip, k⟩ (h.goTo h.shared) :=
    fun k hknows => .of_knows ⟨hk.jobs, hk.grip, hknows.goTo (.refl _)⟩ rfl
  by_cases hepoch : h.shared.epoch = e
  · rcases hl with hl | hl
    · rw [hl.2] at hscan
      obtain ⟨hseen, -, -, hsame⟩ := hscan
      obtain ⟨k, hmoves, hP⟩ := @hfinds _ ⟨l.jobs, l.grip, .found n seen⟩ _ _ hD hzero
        (hsame hepoch hzero) hl.1 rfl (hmove _ hseen)
      refine ⟨k, hmoves, ?_⟩
      show Plays D works (if h.shared.epoch ≠ e then _ else _) _ Q
      rw [if_neg (not_not.mpr hepoch)]
      exact hlive hl ⟨l.jobs, l.grip, .found n seen⟩ k hl.1 rfl hP
    · rw [hl.2] at hscan
      have hpos := hscan.2.2 hepoch
      omega
  · have hknows : (Scan.lost n e).Knows h := by
      rcases hl with hl | hl
      · rw [hl.2] at hscan
        exact ⟨hscan.2.1, hscan.2.2.1, fun he => absurd he hepoch⟩
      · rwa [hl.2] at hscan
    refine ⟨_, hf.moves _ _ _ _ hD (hmove _ hknows), ?_⟩
    show Plays D works (if h.shared.epoch ≠ e then _ else _) _ Q
    rw [if_pos hepoch]
    exact hlost _ ⟨hl.elim And.left And.left, rfl⟩

/-- **A turn of a listing** answers as of an instant, or is begun again. -/
theorem plays_listTurn {Q : Except StoreExn (Option (List JobId)) → K → Prop}
    (hf : (jobDiscipline .steady hash).Embeds D f) (hfinds : FindsNow hash D f n P)
    (hgrip : l.grip = .free) (hscan : l.scan = .begun n)
    (hlost : ∀ l' e, l'.grip = .free → l'.scan = .lost n e → Q (.ok none) (f l'))
    (hfound : ∀ l' seen k, l'.grip = .free → l'.scan = .found n seen → P l' seen k →
      Unchanging hash seen → Q (.ok (some (Ns.sortIds seen.ids))) k) :
    Plays D works (Ns.listTurn hash) (f l) Q := by
  refine plays_translated ?_
  -- the turn begins when there is no mutation
  rintro h hD hguard
  obtain ⟨ho, hk⟩ := hf.knows l h hD
  have hzero : h.shared.mutations = 0 := eq_of_beq hguard
  have hcalled : n ≤ h.past.length := by
    have hbegun := hk.scan
    rwa [hscan] at hbegun
  have hknows : (Scan.live n h.shared.epoch h.shared).Knows h :=
    ⟨h.shared_mem_instants hcalled, hcalled, Nat.le_refl _, fun _ _ => .refl _⟩
  refine ⟨f ⟨l.jobs, l.grip, .live n h.shared.epoch h.shared⟩,
    hf.moves _ _ _ _ hD (.of_knows ⟨hk.jobs, hk.grip, hknows.goTo (.refl _)⟩ rfl), ?_⟩
  have hunchanging : Unchanging hash h.shared :=
    ⟨hzero, fun id d hd => ho.settled id d hd (.inl hzero)⟩
  have hlive : Live n h.shared.epoch h.shared ⟨l.jobs, l.grip, .live n h.shared.epoch h.shared⟩ :=
    ⟨hgrip, rfl⟩
  have hturn := ((@sees_listOnce hash _ _ _).live _ hlive).embed hf
  refine hturn.andThen ?_
  rintro r _ ⟨l', rfl, ⟨hl', rfl⟩ | ⟨hl', hcorrupt⟩⟩
  · exact plays_again hf hfinds (.inl hl')
      (fun _ l'' k hg hs hP => hfound l'' _ k hg hs hP hunchanging)
      fun l'' hl'' => hlost _ _ hl''.1 hl''.2
  · have hagain : ∀ m : Ns (Option (List JobId)), Plays D works (do
        let again ← Ns.stableEpoch
        if again ≠ h.shared.epoch then return none else m) (f l')
        fun r k => Q (r.mapError translate) k := by
      intro m
      refine @plays_again hash h.shared _ _ _ K D f P m _ hf hfinds (.inr hl') (fun hlive => ?_)
        fun l'' hl'' => hlost _ _ hl''.1 hl''.2
      have hcontra := hlive.2.symm.trans hl'.2
      cases hcontra
    cases r with
    | error x =>
        obtain rfl := hcorrupt x rfl
        exact hagain _
    | ok result => exact hagain _

end Turns

theorem listTurn_follows (hgrip : l.grip = .free) (hscan : l.scan = .begun n) :
    Follows .steady hash (Ns.listTurn hash) l (TurnEnds hash n) := by
  have hembeds : (jobDiscipline .steady hash).Embeds (jobDiscipline .steady hash) id :=
    ⟨fun _ _ hk => hk, fun _ _ _ _ _ hmove => hmove, fun _ _ hb => hb⟩
  have hfinds : FindsNow hash (jobDiscipline .steady hash) id n fun l _ k => k = l :=
    fun _ _ _ _ _ hmove => ⟨_, hmove, rfl⟩
  refine plays_listTurn hembeds hfinds hgrip hscan
    (fun l' e hg hs => ⟨hg, .inl ⟨rfl, e, hs⟩⟩) ?_
  rintro l' seen _ hg hs rfl hunchanging
  exact ⟨hg, .inr ⟨seen, hs, rfl, hunchanging⟩⟩

/-! ### All calls -/

/-- How a call ends: a listing as its turns, and the others are never begun
again. -/
def JobCall.Ends (hash : Bytes → Sha256) :
    JobCall → Nat → Except StoreExn (Option JobAnswer) → Stance → Prop
  | list, n, r, l => ∃ turn, TurnEnds hash n turn l ∧ r = turn.map fun ids => ids.map .ids
  | _, _, r, l => Outside l ∧ r ≠ .ok none

theorem Holds.jobAt {p : State} {J : Journal} (h : Holds hash id d p J) (hd : s.dirAt id = some d) :
    Ns.jobAt hash s id = .ok J.state := by
  unfold Ns.jobAt
  rw [Ns.decodeAt_dir hd, h.decodeDir]
  rfl

theorem follows_answered {f : α → JobAnswer} (hm : Follows .any hash m l fun _ l' => Outside l') :
    Follows .any hash (m >>= fun a => pure (some (f a))) l fun r l' => Outside l' ∧ r ≠ .ok none :=
  hm.bind (fun _ _ hl' => ⟨hl', fun hr => by cases hr⟩) fun _ _ hl' => ⟨hl', fun hr => by cases hr⟩

theorem list_follows (hgrip : l.grip = .free) (hscan : l.scan = .begun n) :
    Follows .steady hash (JobCall.program hash .list) l (JobCall.Ends hash .list n) :=
  (listTurn_follows hgrip hscan).bind (fun _ _ hl' => ⟨_, hl', rfl⟩) fun _ _ hl' => ⟨_, hl', rfl⟩

/-- A call begins at the end of what has been. -/
theorem calls_follow (c : JobCall)
    (hk : (jobDiscipline .any hash).knows (jobDiscipline .any hash).idle h) :
    ∃ l, (jobDiscipline .any hash).moves (jobDiscipline .any hash).idle h l (h.goTo h.shared) ∧
      (jobDiscipline .any hash).serves l c h.past.length ∧
      Plays (jobDiscipline .any hash) (jobMachine hash).works ((jobMachine hash).program c) l
        (c.Ends hash h.past.length) := by
  cases hjob : c.job with
  | none =>
      cases c <;> cases hjob
      have hbegun : (Scan.begun h.past.length).Knows h := Nat.le_refl _
      exact ⟨⟨false, .free, .begun h.past.length⟩,
        .of_knows ⟨hk.2.jobs, trivial, hbegun.goTo (.refl _)⟩ rfl, trivial,
        follows_any (list_follows rfl rfl)⟩
  | some id =>
      refine ⟨_, hk.2.same, trivial, ?_⟩
      show Follows .any hash (c.program hash) _ _
      have hidle : Outside (jobDiscipline .any hash).idle := ⟨rfl, rfl⟩
      have hends : ∀ r l, Outside l ∧ r ≠ .ok none → c.Ends hash h.past.length r l := by
        intro r l hl
        cases c with
        | list => cases hjob
        | _ => exact hl
      rcases @JobCall.carries hash id c hjob with ⟨e, hprogram, -⟩ | ⟨_, plan, f, hcarries⟩
      · rw [hprogram]
        exact hends _ _ ⟨hidle, fun hr => by cases hr⟩
      · rw [hcarries.program]
        exact (follows_answered (follows_locked hcarries.sound hidle)).mono hends

/-- A call that returns leaves the thread idle, and a listing has answered as of
an instant. -/
theorem returns_follow {c : JobCall} {result : Except StoreExn JobAnswer}
    (hends : c.Ends hash n (result.map some) l) (hk : l.Knows hash h) :
    l.Moves .any hash h ⟨false, .free, .away⟩ (h.finish ⟨c, n, h.past.length, result⟩) := by
  have hstates : (h.finish ⟨c, n, h.past.length, result⟩).states = h.states ++ [h.shared] := rfl
  have hmoves : l.grip = .free → (c = .list →
        ListsInstant hash (h.finish ⟨c, n, h.past.length, result⟩) ⟨c, n, h.past.length, result⟩) →
      l.Moves .any hash h ⟨false, .free, .away⟩ (h.finish ⟨c, n, h.past.length, result⟩) := by
    intro hgrip hlist
    refine ⟨?_, Mode.noConfusion, ⟨_, hstates⟩,
      ⟨(fun hj => by cases hj), trivial, trivial⟩, fun f hf => ?_⟩
    · rw [hgrip]
      exact .quiet (.refl _)
    · rcases List.mem_append.mp hf with hold | hnew
      · exact .inl hold
      · obtain rfl := List.mem_singleton.mp hnew
        exact .inr hlist
  cases c with
  | list =>
      obtain ⟨turn, ⟨hgrip, ⟨rfl, -⟩ | ⟨seen, hscan, rfl, hunchanging⟩⟩, hturn⟩ := hends
      · cases result <;> cases hturn
      · refine hmoves hgrip fun _ => ?_
        have hseen := hk.scan
        rw [hscan] at hseen
        have hresult : result = .ok (.ids (Ns.sortIds seen.ids)) := by
          cases result <;> cases hturn
          rfl
        refine ⟨_, hresult, Ns.sortIds_sorted Namespace.nodup_ids, seen,
          History.mem_between_of_states hstates (History.mem_between hseen), hunchanging,
          fun id => ?_⟩
        rw [Ns.mem_sortIds, Namespace.mem_ids, ← Ns.loads_iff]
        refine ⟨fun hid => ?_, Ns.dirAt_of_loads⟩
        obtain ⟨d, hd⟩ := Option.isSome_iff_exists.mp hid
        obtain ⟨p, J, hJ⟩ := hunchanging.loads id d hd
        exact Ns.loads_iff.mpr ⟨J.state, hJ.jobAt hd⟩
  | load id => exact hmoves hends.1.1 fun hc => by cases hc
  | getSnapshot id => exact hmoves hends.1.1 fun hc => by cases hc
  | listEvents id => exact hmoves hends.1.1 fun hc => by cases hc
  | save id snapshot => exact hmoves hends.1.1 fun hc => by cases hc
  | append id event => exact hmoves hends.1.1 fun hc => by cases hc

/-- **Every call follows the discipline.** -/
theorem jobMachine_follows :
    (jobMachine hash).Follows (jobDiscipline .any hash) (JobCall.Ends hash) where
  calls c _ hk := calls_follow c hk
  again c n l h hends hk := by
    cases c with
    | list =>
        obtain ⟨turn, ⟨hgrip, ⟨rfl, e, hscan⟩ | ⟨seen, -, rfl, -⟩⟩, hturn⟩ := hends
        · have hlost := hk.2.scan
          rw [hscan] at hlost
          have hbegun : (Scan.begun n).Knows h := hlost.1
          exact ⟨⟨l.jobs, l.grip, .begun n⟩,
            .of_knows ⟨hk.2.jobs, hk.2.grip, hbegun.goTo (.refl _)⟩ rfl,
            follows_any (list_follows hgrip rfl)⟩
        · cases hturn
    | load id => exact absurd rfl hends.2
    | getSnapshot id => exact absurd rfl hends.2
    | listEvents id => exact absurd rfl hends.2
    | save id snapshot => exact absurd rfl hends.2
    | append id event => exact absurd rfl hends.2
  returns _ _ _ _ _ hends hk := returns_follow hends hk.2
  serves _ _ _ := trivial

section Linearizable

variable {T : Type} [DecidableEq T] {w w' : JobThreads T}

/-- Nobody is in a call of a store in which every job loads. -/
structure AtStart (hash : Bytes → Sha256) (w : JobThreads T) : Prop where
  loads : AllLoad hash w.history.shared
  idle : ∀ t, w.running t = none
  finished : w.history.finished = []

theorem AtStart.played (hw : AtStart hash w) :
    Played (jobInvariant T hash) (jobMachine hash) (JobCall.Ends hash) w := by
  refine .start ?_ hw.idle
  show Agrees hash _ w.history
  have hagrees := hw.loads.agrees (T := T) w.history.past
  rw [← hw.finished] at hagrees
  exact hagrees

/-- **Two threads are never at work in one job directory**, so that each piece
of work there is one of the job's lock holder. -/
theorem work_exclusive (hw : AtStart hash w) (hsteps : (jobMachine hash).Steps w w') {i j : T}
    {r r' : Running Namespace Dir JobWork (Except Exn State) StoreExn JobAnswer JobCall}
    {job job' : JobWork} {k k' : Except Exn State → Ns (Option JobAnswer)} {p p' : Dir}
    (hi : w'.running i = some r) (hr : r.point = ⟨.work job k, some p⟩)
    (hj : w'.running j = some r') (hr' : r'.point = ⟨.work job' k', some p'⟩)
    (hjob : job.1 = job'.1) : i = j := by
  obtain ⟨ls, hagrees, hbusy⟩ := (hw.played.steps jobMachine_follows hsteps).at_work
  have hbusyi : (ls i).grip.owns = some job.1 := hbusy i r job k p hi hr
  have hbusyj : (ls j).grip.owns = some job'.1 := hbusy j r' job' k' p' hj hr'
  rw [hjob] at hbusyi
  exact hagrees.owners.unique hbusyi hbusyj

/-- **A listing is linearizable**: whatever the other threads do, and however
often it is begun again, it answers with the jobs of one instant between its
call and its return, at which no commit goes on. -/
theorem list_linearizable (hw : AtStart hash w) (hsteps : (jobMachine hash).Steps w w')
    {f : Finished StoreExn JobAnswer JobCall} (hf : f ∈ w'.history.finished)
    (hlist : f.call = .list) :
    ListsInstant hash w'.history f := by
  obtain ⟨ls, hagrees, -⟩ := hw.played.steps jobMachine_follows hsteps
  exact Agrees.finished hagrees f hf hlist

/-- The store of a job just created, before any call. -/
def createdThreads : JobThreads Bool where
  history.past := []
  history.shared := oneJob
  history.finished := []
  running _ := none

theorem createdThreads_atStart : AtStart createdSha createdThreads where
  loads := by
    refine ⟨⟨rfl, rfl, fun hb => by cases hb⟩, fun id d hd => ?_⟩
    obtain ⟨rfl, rfl⟩ := oneJob_dirAt hd
    exact ⟨_, _, createdDir_holds⟩
  idle _ := rfl
  finished := rfl

/-- One thread has begun to append an event, and another lists the jobs. -/
theorem list_linearizable_created :
    ∃ w', (jobMachine createdSha).Steps createdThreads w' ∧ ∃ f ∈ w'.history.finished,
      f.call = .list ∧ ListsInstant createdSha w'.history f := by
  let s := createdThreads.history.shared
  let M := jobMachine createdSha
  have hlists : AloneLoop M.works (M.program JobCall.list) s
      ((Except.ok (Ns.listIds createdSha s)).map .ids) s.touch := by
    refine (Ns.list_alone createdThreads_atStart.loads.quiet fun id d hd => ?_).map
    obtain ⟨rfl, rfl⟩ := oneJob_dirAt hd
    exact ⟨_, _, createdDir_holds.read, decodePersisted_journal createdDir_holds.persisted, rfl⟩
  let started : JobCall := .append sampleJob.jobId startedEvent
  let appending : JobThreads Bool :=
    ⟨createdThreads.history.goTo s,
      Function.update createdThreads.running true (some (M.start started 0))⟩
  let listing : JobThreads Bool :=
    ⟨appending.history.goTo s,
      Function.update appending.running false (some (M.start JobCall.list 1))⟩
  have happending : M.Step createdThreads appending := .calls _ rfl
  have hlisting : M.Step appending listing := .calls JobCall.list rfl
  obtain ⟨w', f, hran, hfinished, hcall, -⟩ :=
    Machine.Steps.of_aloneLoop (M := M) (w := listing) (t := false) hlists rfl rfl
  have hreached : M.Steps createdThreads w' := .head happending (.head hlisting hran.steps)
  have hf : f ∈ w'.history.finished := by
    rw [hfinished]
    exact List.mem_append_right _ (List.mem_singleton_self f)
  exact ⟨w', hreached, f, hf, hcall, list_linearizable createdThreads_atStart hreached hf hcall⟩

end Linearizable

end SpecStyle
