/-
SpecStyle/Workflow/ArtifactCalls.lean

The calls on one production artifact, any number of them, in any order.

Each call is safe in the growth of the directory: a put that returns has its
artifact committed and on the disk (`put_safe`), a read that returns an
artifact returns the committed one (`getById_safe`).  A call that starts behind
a commit sees it (`getById_late`).  The main theorem puts them together for any
schedule (`artifact_write_once`).
-/
import SpecStyle.Workflow.ArtifactWriteOnce

namespace SpecStyle

open PyLib

namespace Artifacts

section Steps

variable {hashBytes : Bytes → Sha256} {jobId : JobId} {artifactId : ArtifactId} {α : Type}
  {given : GeneratedArtifact hashBytes → Prop}
  {P R : (growth jobId artifactId given).Fact} {Q : α → (growth jobId artifactId given).Fact}
  {kind : ArtifactKind} {n : Nat} {content : Bytes} {artifact : GeneratedArtifact hashBytes}

/-! ### Recovery -/

theorem recoverAlias_safe {token : Nat} : Safe (growth jobId artifactId given)
    (fun _ => .top) (recoverAlias kind token) P := by
  refine Safe.bind namedStat_safe fun before => Safe.bind namedStat_safe fun target => ?_
  refine Safe.bind requireRegular_safe fun _ => Safe.bind Safe.require fun _ => ?_
  refine Safe.bind (translate_safe unlink_safe) fun _ => ?_
  refine Safe.bind (I := fun _ => .top) (fsyncEntries_safe fun _ _ _ => trivial) fun _ => ?_
  refine Safe.bind namedStat_safe fun after => Safe.bind requireRegular_safe fun _ => ?_
  exact Safe.require.conseq (fun _ _ h => h) fun _ _ _ _ _ => trivial

theorem recoverAliases_safe {plans : List (ArtifactKind × Nat)} :
    Safe (growth jobId artifactId given) (fun _ => .top) (recoverAliases plans) P := by
  induction plans generalizing P with
  | nil => exact Safe.pure fun _ _ _ => trivial
  | cons plan rest ih => exact Safe.bind recoverAlias_safe fun _ => ih

theorem statAll_safe {names : List ArtifactName} :
    Safe (growth jobId artifactId given) (fun _ => .top) (statAll names) P := by
  induction names generalizing P with
  | nil => exact Safe.pure fun _ _ _ => trivial
  | cons name rest ih =>
      refine Safe.bind namedStat_safe fun result => Safe.bind requireRegular_safe fun _ => ?_
      exact Safe.bind ih fun _ => Safe.pure fun _ _ _ => trivial

theorem recoverNamespace_safe :
    Safe (growth jobId artifactId given) (fun _ => .top) recoverNamespace P := by
  refine Safe.bind (I := fun _ => .top) ?_ fun results => ?_
  · refine Safe.bind (I := fun _ => .top) (translate_safe (look_safe fun _ _ _ _ _ _ => trivial))
      fun names => Safe.bind Safe.require fun _ => statAll_safe
  · cases aliasPlans results with
    | none => exact Safe.throw
    | some plans => exact recoverAliases_safe

/-! ### What is committed -/

/-- A name is bound to one file, meant to hold one content. -/
theorem Holds.unique {s : ArtifactDirectory} {n m : Nat} {content content' : Bytes}
    (h : Holds s kind n content) (h' : Holds s kind m content') : content = content' := by
  obtain rfl : n = m := Option.some.inj (h.1.symm.trans h'.1)
  exact h.2.2.symm.trans h'.2.2

/-- **There is one committed artifact.** -/
theorem Commits.unique {s : ArtifactDirectory} {a b : GeneratedArtifact hashBytes}
    (ha : Commits jobId a s) (hb : Commits jobId b s)
    (hid : a.ref.artifactId = b.ref.artifactId) : a = b := by
  obtain ⟨_, hac⟩ := ha.content
  obtain ⟨_, hbc⟩ := hb.content
  obtain ⟨_, ham⟩ := ha.metadata
  obtain ⟨_, hbm⟩ := hb.metadata
  exact encodeMetadata_inj ha.sized hb.sized hid (hac.unique hbc) (ham.unique hbm)

/-- Both final names are on the disk. -/
def SyncedNames (jobId : JobId) (artifactId : ArtifactId)
    (given : GeneratedArtifact hashBytes → Prop) :
    (growth jobId artifactId given).Fact where
  holds s := ∀ kind, ∃ n, s.syncedFinal kind = some n
  up hg h kind := (h kind).imp fun n hn => hg.syncedFinal kind n hn

/-- The artifact is committed for this name. -/
def CommittedAs (artifactId : ArtifactId) (jobId : JobId) (artifact : GeneratedArtifact hashBytes) :
    (growth jobId artifactId given).Fact :=
  (Committed jobId artifactId given artifact).and
    (.const (artifact.ref.artifactId = artifactId))

/-- What is read is committed, and on the disk where it was synced. -/
def Read (artifactId : ArtifactId) (jobId : JobId) (sync : Bool)
    (result : Option (GeneratedArtifact hashBytes)) : (growth jobId artifactId given).Fact where
  holds s := ∀ artifact, result = some artifact → (CommittedAs artifactId jobId artifact).holds s ∧
    (sync = true → (SyncedNames jobId artifactId given).holds s)
  up hg h artifact hr := ⟨(CommittedAs artifactId jobId artifact).up hg (h artifact hr).1,
    fun hsync => (SyncedNames jobId artifactId given).up hg ((h artifact hr).2 hsync)⟩

theorem syncCommitted_safe {raw : Bytes} : Safe (growth jobId artifactId given)
    (fun _ => SyncedNames jobId artifactId given) (syncCommitted raw)
    (Committed jobId artifactId given artifact) := by
  refine Safe.bind (readFile_safe (R := .top) fun _ _ _ _ => trivial) fun durable => ?_
  refine Safe.bind Safe.require fun _ => ?_
  apply fsyncEntries_safe
  rintro s - ⟨⟨hcommits, -⟩, -⟩ kind
  cases kind with
  | artifact => exact hcommits.content.imp fun _ hn => hn.1
  | metadata => exact hcommits.metadata.imp fun _ hn => hn.1

/-- What `_read_committed` returns is committed; and where it returns nothing,
`R` holds, which is known while nothing is committed. -/
theorem readCommitted_safe {sync : Bool}
    (h : ∀ s, Kept jobId artifactId given s → P.holds s → s.final .metadata = none → R.holds s) :
    Safe (growth jobId artifactId given)
      (fun result => (Read artifactId jobId sync result).and (.when (result = none) R))
      (readCommitted hashBytes jobId artifactId sync) P := by
  refine Safe.bind (readFile_safe h) fun raw => ?_
  cases raw with
  | none =>
      apply Safe.pure
      exact fun _ _ h => ⟨(fun artifact hne => by cases hne), fun _ => h.2.2 rfl⟩
  | some raw =>
      -- the metadata are those of the committed artifact
      refine Safe.choose (R := fun artifact => (CommittedAs artifactId jobId artifact).and
        (.const (raw = encodeMetadata jobId artifact))) ?_ fun artifact => Safe.of_const ?_
      · rintro s hs ⟨-, hpublished, -⟩
        obtain ⟨n, hn⟩ := hpublished rfl
        obtain ⟨artifact, hid, -, hcommits⟩ := hs.metadata n hn.1
        obtain ⟨m, hm⟩ := hcommits.metadata
        exact ⟨artifact, ⟨hcommits, hid⟩, hn.unique hm⟩
      rintro rfl
      refine Safe.of_const ?_
      rintro rfl
      refine Safe.pre (R := (Committed jobId artifact.ref.artifactId given artifact).and
        (.const (Sized artifact))) (Safe.of_const fun hsized => ?_) fun _ _ h => ⟨h, h.sized⟩
      dsimp only
      rw [parseMetadata_encode hsized]
      refine Safe.bind (I := fun metadata => .const (metadata = metadataOf artifact))
        (Safe.pure fun _ _ _ => rfl) fun metadata => Safe.of_const ?_
      rintro rfl
      refine Safe.bind (readFile_safe (R := .top) fun _ _ _ _ => trivial) fun content => ?_
      cases content with
      | none => exact Safe.throw
      | some content =>
          -- and the content is its content
          refine Safe.bind (I := fun c => .const (c = content)) (Safe.pure fun _ _ _ => rfl)
            fun c => Safe.of_const ?_
          rintro rfl
          refine Safe.pre (R := (Committed jobId artifact.ref.artifactId given artifact).and
            (.const (c = artifact.content))) (Safe.of_const ?_) ?_
          case refine_2 =>
            rintro s - ⟨hcommits, hpublished, -⟩
            obtain ⟨n, hn⟩ := hpublished rfl
            obtain ⟨m, hm⟩ := hcommits.content
            exact ⟨hcommits, hn.unique hm⟩
          rintro rfl
          rw [artifactFrom_metadata]
          refine Safe.bind (I := fun result => .const (result = artifact))
            (Safe.pure fun _ _ _ => rfl) fun result => Safe.of_const ?_
          rintro rfl
          refine Safe.bind (onlyIf_safe syncCommitted_safe) fun _ => Safe.pure ?_
          rintro s - ⟨hcommits, hsynced⟩
          refine ⟨fun other hother => ?_, (fun hne => by cases hne)⟩
          cases hother
          exact ⟨⟨hcommits, rfl⟩, hsynced⟩

/-! ### Putting -/

theorem storeContent_safe {current : Option Bytes}
    (hsized : 1 ≤ content.length ∧ content.length ≤ ArtifactKind.artifact.limit) :
    Safe (growth jobId artifactId given)
      (fun _ => Stored jobId artifactId given .artifact content) (storeContent content current)
      ((Deep jobId artifactId given levels.length).and (.when current.isSome
        (Published jobId artifactId given .artifact (current.getD [])))) := by
  cases current with
  | none => exact atomicPublish_safe.pre fun _ _ h => ⟨h.1, hsized, fun hkind => by cases hkind⟩
  | some current =>
      refine Safe.bind Safe.require fun _ => Safe.of_const fun hcurrent => ?_
      obtain rfl : current = content := of_decide_eq_true hcurrent
      refine fsyncEntries_published.conseq (fun _ _ h => h.2 rfl) ?_
      exact fun _ _ _ h hsynced => ⟨h.2 rfl, hsynced⟩

theorem putMetadata_safe {metadata : Bytes} : Safe (growth jobId artifactId given)
    (fun _ => Stored jobId artifactId given .metadata metadata) (putMetadata metadata)
    ((Deep jobId artifactId given levels.length).and
      (Publishable jobId artifactId given .metadata metadata)) :=
  Safe.bind Safe.require fun _ => atomicPublish_safe.pre fun _ _ h => h.1

/-- The artifact is committed, and all of it is on the disk. -/
def PutDone (artifactId : ArtifactId) (jobId : JobId) (artifact : GeneratedArtifact hashBytes) :
    (growth jobId artifactId given).Fact :=
  (CommittedAs artifactId jobId artifact).and (SyncedNames jobId artifactId given)

theorem putMissing_safe (hsized : Sized artifact) (hid : artifact.ref.artifactId = artifactId)
    (hgiven : given artifact) :
    Safe (growth jobId artifactId given) (fun _ => PutDone artifactId jobId artifact)
      (putMissing hashBytes jobId artifact) (Deep jobId artifactId given levels.length) := by
  refine Safe.bind (readFile_safe (R := .top) fun _ _ _ _ => trivial) fun current => ?_
  refine Safe.bind ((storeContent_safe hsized).pre fun _ _ h => ⟨h.1, h.2.1⟩) fun _ => ?_
  refine putMetadata_safe.conseq ?_ ?_
  · rintro s - ⟨⟨hdeep, -⟩, hcontent, hname⟩
    exact ⟨hdeep, encodeMetadata_length hsized,
      fun _ => ⟨artifact, hid, hgiven, hsized, hcontent, hname, rfl⟩⟩
  · rintro _ s - ⟨-, hcontent, hname⟩ ⟨hmetadata, hname'⟩
    refine ⟨⟨⟨hsized, hcontent, hmetadata⟩, hid⟩, fun kind => ?_⟩
    cases kind with
    | artifact => exact hname
    | metadata => exact hname'

theorem eq_of_sameArtifact {a b : GeneratedArtifact hashBytes} (h : sameArtifact a b = true) :
    a = b := by
  obtain ⟨ref, content, requestHash, fingerprint, hashed⟩ := a
  obtain ⟨ref', content', requestHash', fingerprint', hashed'⟩ := b
  unfold sameArtifact at h
  simp only [Bool.and_eq_true, decide_eq_true_eq] at h
  obtain ⟨⟨⟨rfl, rfl⟩, rfl⟩, rfl⟩ := h
  rfl

theorem putOpen_safe (hsized : Sized artifact) (hid : artifact.ref.artifactId = artifactId)
    (hgiven : given artifact) :
    Safe (growth jobId artifactId given) (fun _ => PutDone artifactId jobId artifact)
      (putOpen hashBytes jobId artifact) (Deep jobId artifactId given levels.length) := by
  subst hid
  refine Safe.bind recoverNamespace_safe fun _ => ?_
  refine Safe.bind (readCommitted_safe (R := .top) fun _ _ _ _ => trivial) fun committed => ?_
  cases committed with
  | none => exact (putMissing_safe hsized rfl hgiven).pre fun _ _ h => h.1.1
  | some committed =>
      refine Safe.require.conseq (fun _ _ h => h) ?_
      rintro _ s - ⟨-, hread, -⟩ hsame
      obtain rfl := eq_of_sameArtifact hsame
      exact ⟨(hread committed rfl).1, (hread committed rfl).2 rfl⟩

/-- **A put that returns** has its artifact committed and on the disk. -/
theorem put_safe (hid : artifact.ref.artifactId = artifactId) (hgiven : given artifact) :
    Safe (growth jobId artifactId given)
      (fun _ => (PutDone artifactId jobId artifact).and (SyncedPath levels))
      (put hashBytes jobId artifact) P := by
  refine Safe.bind Safe.require fun _ => Safe.of_const fun hrequired => ?_
  rw [Bool.and_eq_true, decide_eq_true_eq, decide_eq_true_eq] at hrequired
  refine Safe.bind (openScope_safe (R := .top) fun _ _ _ _ _ _ => trivial) fun opened => ?_
  refine Safe.bind Safe.require fun _ => Safe.of_const fun hopened => ?_
  refine Safe.bind ((putOpen_safe hrequired hid hgiven).pre ?_) fun _ => ?_
  · rintro s hs ⟨-, hpath, -⟩
    exact hs.levels 3 (hpath ⟨hopened, rfl⟩ 3 (by decide))
  · exact closeFds_safe.conseq (fun _ _ h => h) fun _ _ _ h _ => ⟨h.2, h.1.2.1 ⟨hopened, rfl⟩⟩

/-! ### Getting -/

/-- What is read by the identifier is committed; and where nothing is read, `R`
holds, which is known while nothing is committed. -/
theorem getById_safe
    (h : ∀ s, Kept jobId artifactId given s → P.holds s → s.final .metadata = none → R.holds s) :
    Safe (growth jobId artifactId given)
      (fun result => (Read artifactId jobId false result).and (.when (result = none) R))
      (getById hashBytes jobId artifactId) P := by
  -- where the path is short, there is no metadata
  have hshort : ∀ s, Kept jobId artifactId given s → P.holds s → ∀ level ∈ levels,
      s.depth ≤ level → R.holds s := by
    intro s hs hP level hlevel hdepth
    refine h s hs hP (Option.eq_none_iff_forall_ne_some.mpr fun n hn => ?_)
    have hdeep : 4 ≤ s.depth := hs.deep .metadata n hn
    have hlt : ∀ l ∈ levels, l < 4 := by decide
    have := hlt level hlevel
    omega
  refine Safe.bind (openScope_safe hshort) fun opened => Safe.ite (fun _ => ?_) fun hopened => ?_
  · refine Safe.bind recoverNamespace_safe fun _ => ?_
    refine Safe.bind ((readCommitted_safe h).pre fun _ _ h => h.1.1) fun result => ?_
    exact Safe.bind closeFds_safe fun _ => Safe.pure fun _ _ h => h.1.2
  · have hfalse : opened = false := Bool.eq_false_of_not_eq_true hopened
    exact Safe.pure fun _ _ h => ⟨(fun artifact hne => by cases hne), fun _ => h.2.2 hfalse⟩

/-- **A read behind the commit** returns the committed artifact. -/
theorem getById_late : Safe (growth jobId artifactId given)
    (fun result => .const (result = some artifact)) (getById hashBytes jobId artifactId)
    (CommittedAs artifactId jobId artifact) := by
  refine (getById_safe (R := .const False) ?_).conseq (fun _ _ h => h) ?_
  · rintro s - ⟨hcommits, -⟩ hnone
    obtain ⟨n, hn⟩ := hcommits.metadata
    rw [hn.1] at hnone
    cases hnone
  · rintro result s - ⟨hcommits, hid⟩ ⟨hread, habsent⟩
    cases result with
    | none => exact (habsent rfl).elim
    | some other =>
        obtain ⟨⟨hother, hid'⟩, -⟩ := hread other rfl
        exact congrArg some (hother.unique hcommits (hid'.trans hid.symm))

end Steps

end Artifacts

end SpecStyle
