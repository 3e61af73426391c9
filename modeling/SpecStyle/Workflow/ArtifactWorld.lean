/-
SpecStyle/Workflow/ArtifactWorld.lean

One production artifact under any calls, in any number, order and interleaving,
with any of their system calls failing, and with power losses.

A power loss ends all calls.  Of what was not synced it leaves anything: a file
may hold other bytes, a name may be gone, and a temporary name that was removed
may be back (`PowerLoss`).

Whatever happens, one artifact at most is ever answered, and somebody put it
(`artifact_agreement`); what is published stays, byte by byte, and whoever calls
behind it is answered with it (`artifact_published_stays`).  An artifact of which
a put has returned survives power losses as well (`artifact_put_durable`).  And
from whatever this leaves, a call that is alone and of which no system call
fails ends as the directory has it (`artifact_put_alone`, `artifact_get_alone`).
-/
import SpecStyle.Workflow.ArtifactAlone

namespace SpecStyle

open PyLib

/-- A call on one artifact.  A neighbour is a call on another artifact or on a
report, as far as its way is the one to this artifact. -/
inductive ArtifactCall (hashBytes : Bytes → Sha256) (artifactId : ArtifactId) where
  | put (artifact : GeneratedArtifact hashBytes) (own : artifact.ref.artifactId = artifactId)
  | getById
  | getByRef (sha256 : Sha256)
  | neighbour (create : Bool) (levels : Fin 4)

/-- The directory of the artifact, and the calls on it. -/
abbrev ArtifactWorld (hashBytes : Bytes → Sha256) (artifactId : ArtifactId) :=
  Shared ArtifactDirectory CallOutcome ArtifactExn (Option (GeneratedArtifact hashBytes))
    (ArtifactCall hashBytes artifactId)

namespace Artifacts

variable {hashBytes : Bytes → Sha256} {jobId : JobId} {artifactId : ArtifactId}
  {given : GeneratedArtifact hashBytes → Prop} {s t : ArtifactDirectory}
  {artifact : GeneratedArtifact hashBytes}

/-! ### Power losses -/

/-- What a power loss leaves of a directory.  The names on the way that were
synced, up to the first that was not, are there.  Where the directory of the
artifact is there, so are its synced final names.  A temporary name may be there
if it ever was.  A file that was synced as it is, is as it was. -/
structure PowerLoss (s t : ArtifactDirectory) : Prop where
  shorter : t.depth ≤ s.depth
  path : ∀ depth, (∀ level < depth, s.syncedLevels level = true) → depth ≤ t.depth
  levels : ∀ level, t.syncedLevels level = true ↔ level < t.depth
  deep : ∀ kind n, t.final kind = some n → Artifacts.levels.length ≤ t.depth
  final : ∀ kind n, t.final kind = some n → s.final kind = some n
  survives : Artifacts.levels.length ≤ t.depth →
    ∀ kind n, s.syncedFinal kind = some n → t.final kind = some n
  synced : t.syncedFinal = t.final
  nodup : t.temps.Nodup
  temps : ∀ temp ∈ t.temps, Artifacts.levels.length ≤ t.depth ∧ temp.2 < s.next ∧
    (s.files temp.2).kind = temp.1
  next : t.next = s.next
  kind : ∀ n, (t.files n).kind = (s.files n).kind
  disk : ∀ n, (t.files n).synced = (t.files n).data ∧ (t.files n).meant = (t.files n).data
  files : ∀ n, (s.files n).synced = (s.files n).data → (t.files n).data = (s.files n).data

/-- A file that was whole and on the disk is so. -/
theorem PowerLoss.whole (h : PowerLoss s t) {n : Nat}
    (hn : (s.files n).data = (s.files n).meant ∧ (s.files n).synced = (s.files n).meant) :
    (t.files n).meant = (s.files n).meant := by
  rw [(h.disk n).2, h.files n (hn.2.trans hn.1.symm)]
  exact hn.1

/-- The metadata are behind the content, on the disk too; so where they are left,
it is. -/
theorem PowerLoss.commits (h : PowerLoss s t) (hs : Kept jobId artifactId given s)
    (hcommits : Commits jobId artifact s) (hnames : ∀ kind, ∃ n, t.final kind = some n) :
    Commits jobId artifact t := by
  have hholds : ∀ {kind content}, (∃ n, Holds s kind n content) → ∃ n, Holds t kind n content := by
    rintro kind content ⟨n, hn, hused, hmeant⟩
    obtain ⟨m, hm⟩ := hnames kind
    obtain rfl : n = m := Option.some.inj (hn.symm.trans (h.final kind m hm))
    refine ⟨n, hm, ?_, (h.whole (hs.whole kind n hn)).trans hmeant⟩
    rw [h.next]
    exact hused
  exact ⟨hcommits.sized, hholds hcommits.content, hholds hcommits.metadata⟩

/-- **A power loss keeps the invariant.** -/
theorem powerLoss_kept (hs : Kept jobId artifactId given s) (h : PowerLoss s t) :
    Kept jobId artifactId given t where
  files n _ := by
    obtain ⟨hsynced, hmeant⟩ := h.disk n
    refine ⟨?_, ?_, fun _ => hmeant.symm⟩
    · exact hmeant ▸ List.prefix_rfl
    · exact hmeant ▸ hsynced ▸ List.prefix_rfl
  temps := by
    refine ⟨h.nodup, fun temp htemp => ?_⟩
    obtain ⟨hdeep, hused, hkind⟩ := h.temps temp htemp
    exact ⟨h.next ▸ hused, hdeep, (h.kind temp.2).trans hkind⟩
  used kind n hn := by
    rw [h.next]
    exact hs.used kind n (h.final kind n hn)
  deep := h.deep
  kinds kind n hn := (h.kind n).trans (hs.kinds kind n (h.final kind n hn))
  whole kind n hn := by
    obtain ⟨hsynced, hmeant⟩ := h.disk n
    exact ⟨hmeant.symm, hsynced.trans hmeant.symm⟩
  sized kind n hn := by
    have hfinal := h.final kind n hn
    rw [h.whole (hs.whole kind n hfinal)]
    exact hs.sized kind n hfinal
  synced kind n hn := by
    rw [h.synced] at hn
    exact hn
  levels level hlevel := (h.levels level).mp hlevel
  ordered n hn := by
    obtain ⟨m, hm⟩ := hs.ordered n (h.final .metadata n hn)
    rw [h.synced]
    exact ⟨m, h.survives (h.deep .metadata n hn) .artifact m hm⟩
  metadata n hn := by
    obtain ⟨artifact, hid, hgiven, hcommits⟩ := hs.metadata n (h.final .metadata n hn)
    obtain ⟨m, hm⟩ := hs.ordered n (h.final .metadata n hn)
    refine ⟨artifact, hid, hgiven, h.commits hs hcommits fun kind => ?_⟩
    cases kind with
    | artifact => exact ⟨m, h.survives (h.deep .metadata n hn) .artifact m hm⟩
    | metadata => exact ⟨n, hn⟩

/-- The directory where a power loss took no more than the temporary names. -/
def rebooted (s : ArtifactDirectory) : ArtifactDirectory :=
  { s with
    syncedLevels := fun level => level < s.depth
    temps := []
    syncedFinal := s.final
    files := fun n =>
      { s.files n with meant := (s.files n).data, synced := (s.files n).data } }

theorem powerLoss_rebooted (hs : Kept jobId artifactId given s) : PowerLoss s (rebooted s) where
  shorter := Nat.le_refl _
  path depth h := by
    by_contra hnot
    exact absurd (hs.levels s.depth (h s.depth (Nat.lt_of_not_le hnot))) (Nat.lt_irrefl _)
  levels _ := decide_eq_true_iff
  deep := hs.deep
  final _ _ hn := hn
  survives _ := hs.synced
  synced := rfl
  nodup := .nil
  temps _ hnone := by cases hnone
  next := rfl
  kind _ := rfl
  disk _ := ⟨rfl, rfl⟩
  files _ _ := rfl

/-- What a put has made true. -/
def Durable (artifactId : ArtifactId) (jobId : JobId) (artifact : GeneratedArtifact hashBytes) :
    (growth jobId artifactId given).Fact :=
  (PutDone artifactId jobId artifact).and (SyncedPath levels)

/-- **A power loss keeps what a put has made true.** -/
theorem powerLoss_durable (hs : Kept jobId artifactId given s)
    (hdone : (Durable artifactId jobId artifact : (growth jobId artifactId given).Fact).holds s)
    (h : PowerLoss s t) :
    (Durable artifactId jobId artifact : (growth jobId artifactId given).Fact).holds t := by
  obtain ⟨⟨⟨hcommits, hid⟩, hnames⟩, hpath⟩ := hdone
  have hdeep : levels.length ≤ t.depth := by
    apply h.path
    intro level hlevel
    apply hpath
    have hall : ∀ l < levels.length, l ∈ levels := by decide
    exact hall level hlevel
  have hnames' : ∀ kind, ∃ n, t.final kind = some n := fun kind =>
    (hnames kind).imp fun n hn => h.survives hdeep kind n hn
  refine ⟨⟨⟨h.commits hs hcommits hnames', hid⟩, fun kind => ?_⟩, fun level hlevel => ?_⟩
  · rw [h.synced]
    exact hnames' kind
  · rw [h.levels]
    have hall : ∀ l ∈ levels, l < levels.length := by decide
    exact (hall level hlevel).trans_le hdeep

/-! ### The calls -/

/-- What a call runs.  A put and a neighbour answer nothing. -/
def program (jobId : JobId) :
    ArtifactCall hashBytes artifactId → ArtifactProgram (Option (GeneratedArtifact hashBytes))
  | .put artifact _ => do
    put hashBytes jobId artifact
    return none
  | .getById => getById hashBytes jobId artifactId
  | .getByRef sha256 => getByRef hashBytes jobId ⟨artifactId, sha256⟩
  | .neighbour create count => do
    let _ ← openScope create (levels.take count)
    return none

/-- The artifact that a call that has returned speaks of. -/
def subject : ArtifactCall hashBytes artifactId → Option (GeneratedArtifact hashBytes) →
    Option (GeneratedArtifact hashBytes)
  | .put artifact _, _ => some artifact
  | .getById, result => result
  | .getByRef _, result => result
  | .neighbour _ _, _ => none

/-- What is true when a call returns. -/
def Returned (jobId : JobId) (call : ArtifactCall hashBytes artifactId)
    (result : Option (GeneratedArtifact hashBytes)) : (growth jobId artifactId given).Fact :=
  match call with
  | .put artifact _ => Durable artifactId jobId artifact
  | .getById => Read artifactId jobId false result
  | .getByRef _ => Read artifactId jobId false result
  | .neighbour _ _ => .top

theorem getByRef_safe {P : (growth jobId artifactId given).Fact} {sha256 : Sha256} :
    Safe (growth jobId artifactId given) (Read artifactId jobId false)
      (getByRef hashBytes jobId ⟨artifactId, sha256⟩) P := by
  refine Safe.bind (getById_safe (R := .top) fun _ _ _ _ => trivial) fun result => Safe.pure ?_
  rintro s - ⟨-, hread, -⟩ other hother
  exact hread other (Option.eq_some_of_filter_eq_some hother)

theorem neighbour_safe {P : (growth jobId artifactId given).Fact}
    {Q : Option (GeneratedArtifact hashBytes) → (growth jobId artifactId given).Fact}
    {create : Bool} {list : List Nat}
    (h : ∀ s, Kept jobId artifactId given s → P.holds s → (Q none).holds s) :
    Safe (growth jobId artifactId given) Q (do let _ ← openScope create list; return none) P :=
  Safe.bind (openScope_safe (R := .top) fun _ _ _ _ _ _ => trivial) fun _ =>
    Safe.pure fun s hs hP => h s hs hP.1

/-- Every call is safe. -/
theorem program_safe {call : ArtifactCall hashBytes artifactId}
    (hgiven : ∀ artifact own, call = .put artifact own → given artifact) :
    Safe (growth jobId artifactId given) (Returned jobId call) (program jobId call) .top := by
  cases call with
  | put artifact own =>
      refine Safe.bind (put_safe own (hgiven artifact own rfl)) fun _ => Safe.pure ?_
      exact fun _ _ h => h.2
  | getById =>
      refine (getById_safe (R := .top) fun _ _ _ _ => trivial).conseq (fun _ _ h => h) ?_
      exact fun _ _ _ _ h => h.1
  | getByRef sha256 => exact getByRef_safe
  | neighbour create count => exact neighbour_safe fun _ _ _ => trivial

/-- What a call answers that finds the artifact committed; a put finds it its
own. -/
def Seen (artifact : GeneratedArtifact hashBytes) (call : ArtifactCall hashBytes artifactId)
    (result : Option (GeneratedArtifact hashBytes)) : Prop :=
  match call with
  | .put other _ => other = artifact
  | .getById => result = some artifact
  | .getByRef sha256 => result = if artifact.ref.sha256 = sha256 then some artifact else none
  | .neighbour _ _ => True

/-- **A call behind the commit** answers with the committed artifact. -/
theorem program_late {call : ArtifactCall hashBytes artifactId} :
    Safe (growth jobId artifactId fun _ => True) (fun result => .const (Seen artifact call result))
      (program jobId call) (CommittedAs artifactId jobId artifact) := by
  cases call with
  | put other own =>
      refine Safe.bind (put_safe own trivial) fun _ => Safe.pure ?_
      rintro s - ⟨⟨hcommits, hid⟩, ⟨⟨hother, -⟩, -⟩, -⟩
      exact hother.unique hcommits (own.trans hid.symm)
  | getById => exact getById_late
  | getByRef sha256 =>
      refine Safe.bind getById_late fun result => Safe.pure ?_
      rintro s - ⟨⟨-, hid⟩, hresult⟩
      obtain rfl : result = some artifact := hresult
      show (some artifact).filter _ = _
      rw [Option.filter_some]
      apply if_congr _ rfl rfl
      rw [decide_eq_true_eq]
      constructor
      · intro href
        rw [href]
      · rintro rfl
        rw [← hid]
  | neighbour create count => exact neighbour_safe fun _ _ _ => trivial

/-! ### Worlds -/

/-- Nothing is there, and nobody has called. -/
def start (hashBytes : Bytes → Sha256) (artifactId : ArtifactId) :
    ArtifactWorld hashBytes artifactId :=
  ⟨.empty, []⟩

/-- What the events of a log lead to from the start. -/
abbrev History (jobId : JobId)
    (log : List (Crashing CallOutcome (ArtifactCall hashBytes artifactId)))
    (w : ArtifactWorld hashBytes artifactId) : Prop :=
  Shared.Later (program jobId) PowerLoss (start hashBytes artifactId) log w

section Worlds

variable {past log : List (Crashing CallOutcome (ArtifactCall hashBytes artifactId))}
  {v w x : ArtifactWorld hashBytes artifactId}

/-- Every world keeps the invariant, for the artifacts that were given to a put. -/
theorem history_safe (h : History jobId log w)
    (hgiven : ∀ artifact own, .sched (.start (.put artifact own)) ∈ log → given artifact) :
    Shared.AllSafe (growth jobId artifactId given) (Returned jobId) w := by
  have hstart : Shared.AllSafe (growth jobId artifactId given) (Returned jobId)
      (start hashBytes artifactId) := ⟨kept_empty, fun _ hnone => by cases hnone⟩
  refine h.safe (fun _ _ => powerLoss_kept) hstart ?_
  rintro call hcall
  apply program_safe
  rintro artifact own rfl
  exact hgiven artifact own hcall

theorem history_kept (h : History jobId log w) :
    Shared.AllSafe (growth jobId artifactId fun _ => True) (Returned jobId) w :=
  history_safe h fun _ _ _ => trivial

/-- What the final files hold is the artifact. -/
def Present (jobId : JobId) (artifact : GeneratedArtifact hashBytes) (s : ArtifactDirectory) :
    Prop :=
  (∃ n, s.final .artifact = some n ∧ (s.files n).data = artifact.content) ∧
    ∃ n, s.final .metadata = some n ∧ (s.files n).data = encodeMetadata jobId artifact

theorem present_iff (hs : Kept jobId artifactId given s) :
    Present jobId artifact s ↔ Commits jobId artifact s := by
  constructor
  · rintro ⟨⟨c, hc, hcontent⟩, m, hm, hmetadata⟩
    have hmeant := (hs.whole .artifact c hc).1.symm.trans hcontent
    refine ⟨?_, ⟨c, hc, hs.used .artifact c hc, hmeant⟩, m, hm, hs.used .metadata m hm, ?_⟩
    · have hsized := hs.sized .artifact c hc
      rw [hmeant] at hsized
      exact hsized
    · exact (hs.whole .metadata m hm).1.symm.trans hmetadata
  · rintro ⟨-, ⟨c, hc, -, hcontent⟩, m, hm, -, hmetadata⟩
    exact ⟨⟨c, hc, (hs.whole .artifact c hc).1.trans hcontent⟩, m, hm,
      (hs.whole .metadata m hm).1.trans hmetadata⟩

/-- A call that has returned speaks of the committed artifact. -/
theorem subject_committed (hw : Shared.AllSafe (growth jobId artifactId given) (Returned jobId) w)
    {call : ArtifactCall hashBytes artifactId} {result : Option (GeneratedArtifact hashBytes)}
    (hreturned : (call, .done (.ok result)) ∈ w.threads)
    (hsubject : subject call result = some artifact) :
    (CommittedAs artifactId jobId artifact : (growth jobId artifactId given).Fact).holds
      w.state := by
  have hfinished := hw.finished hreturned
  cases call with
  | put other own =>
      cases hsubject
      exact hfinished.1.1
  | getById => exact (hfinished artifact hsubject).1
  | getByRef sha256 => exact (hfinished artifact hsubject).1
  | neighbour create count => cases hsubject

/-! ### One run -/

section Sample

def sampleArtifact : GeneratedArtifact fun _ => sampleHash :=
  ⟨⟨Id.lit .artifact "artifact-1", sampleHash⟩, [0], sampleHash, sampleHash, rfl⟩

abbrev sampleJob : JobId := Id.lit .job "job-1"

abbrev SampleWorld := ArtifactWorld (fun _ => sampleHash) sampleArtifact.ref.artifactId

abbrev sampleStart : SampleWorld := start _ _

theorem sample_sized : Sized sampleArtifact := ⟨by decide, by decide⟩

/-- An artifact is put where nothing is. -/
theorem sample_put : ∃ log v, History sampleJob log v ∧ v.state.temps = [] ∧
    Commits sampleJob sampleArtifact v.state ∧
    v.threads = [(.put sampleArtifact rfl, .done (.ok none))] := by
  have hfits : Aliased .empty ∧ Agrees sampleJob sampleArtifact .empty := by
    refine ⟨fun _ hnone => ?_, fun _ hnone => ?_, fun _ hnone => ?_⟩
    · cases hnone
    · cases hnone
    · cases hnone
  have hkept : Kept sampleJob sampleArtifact.ref.artifactId
      (fun _ : GeneratedArtifact fun _ => sampleHash => True) .empty := kept_empty
  have hcall : Ends CallOutcome.Unfailing (program sampleJob (.put sampleArtifact rfl))
      ArtifactDirectory.empty fun r t => r = .ok none ∧ t.temps = [] := by
    apply Ends.bind (a := ())
    refine (put_alone hkept sample_sized trivial).mono ?_
    rintro r t ⟨hok, -⟩
    obtain ⟨rfl, htemps⟩ := hok hfits
    exact ⟨rfl, rfl, htemps⟩
  obtain ⟨log, r, t, hrun, rfl, htemps⟩ :=
    hcall.started (i := .succeeds) trivial (w := sampleStart)
  have hv : History sampleJob (log.map .sched) ⟨t, sampleStart.threads ++ [_]⟩ := .of_run hrun
  refine ⟨_, _, hv, htemps, ?_, rfl⟩
  exact (subject_committed (history_kept hv) (List.mem_singleton_self _) rfl).1

end Sample

/-! ### The store -/

/-- **One artifact is answered.**  Whatever calls run, and however they are
interleaved, fail or lose power: the artifact that a call has returned is the one
that the final files hold, somebody put it, and every other call that has
returned speaks of the same. -/
theorem artifact_agreement (h : History jobId log w) {call : ArtifactCall hashBytes artifactId}
    {result : Option (GeneratedArtifact hashBytes)}
    (hreturned : (call, .done (.ok result)) ∈ w.threads)
    (hsubject : subject call result = some artifact) :
    Present jobId artifact w.state ∧
      (∃ own, .sched (.start (.put artifact own)) ∈ log) ∧
      ∀ call' result' other, (call', .done (.ok result')) ∈ w.threads →
        subject call' result' = some other → other = artifact := by
  -- the invariant for what is given to a put in this log
  have hw : Shared.AllSafe
      (growth jobId artifactId fun a => ∃ own, .sched (.start (.put a own)) ∈ log)
      (Returned jobId) w := history_safe h fun a own hput => ⟨own, hput⟩
  obtain ⟨hcommits, hid⟩ := subject_committed hw hreturned hsubject
  refine ⟨(present_iff hw.1).mpr hcommits, ?_, ?_⟩
  · obtain ⟨m, hm⟩ := hcommits.metadata
    obtain ⟨other, hother, hgiven, hcommits'⟩ := hw.1.metadata m hm.1
    obtain rfl := hcommits'.unique hcommits (hother.trans hid.symm)
    exact hgiven
  · intro call' result' other hreturned' hsubject'
    obtain ⟨hcommits', hid'⟩ := subject_committed hw hreturned' hsubject'
    exact hcommits'.unique hcommits (hid'.trans hid.symm)

/-- Whoever calls behind the commit is answered with the artifact. -/
theorem late_seen (hv : History jobId past v) (hid : artifact.ref.artifactId = artifactId)
    (hcommits : Commits jobId artifact v.state)
    {log : List (Sched CallOutcome (ArtifactCall hashBytes artifactId))}
    (hw : run (Shared.step (program jobId)) v log = some w) {j : Nat}
    {call : ArtifactCall hashBytes artifactId} {result : Option (GeneratedArtifact hashBytes)}
    (hj : v.threads.length ≤ j) (hreturned : w.threads[j]? = some (call, .done (.ok result))) :
    Seen artifact call result :=
  Shared.run_late (fun _ => program_safe fun _ _ _ => trivial) (fun _ => program_late)
    (history_kept hv) (show (CommittedAs artifactId jobId artifact).holds v.state from
      ⟨hcommits, hid⟩) hw hj hreturned

/-- **What is published stays.**  No step of any call changes a byte of a file
under a final name, or the name; and a call that starts where an artifact is
published, and returns, is answered with it, or is a put of it. -/
theorem artifact_published_stays (hv : History jobId past v)
    {log : List (Sched CallOutcome (ArtifactCall hashBytes artifactId))}
    (hw : run (Shared.step (program jobId)) v log = some w) :
    (∀ kind n, v.state.final kind = some n →
      w.state.final kind = some n ∧ (w.state.files n).data = (v.state.files n).data) ∧
    ∀ artifact : GeneratedArtifact hashBytes, artifact.ref.artifactId = artifactId →
      Present jobId artifact v.state → ∀ j call result, v.threads.length ≤ j →
        w.threads[j]? = some (call, .done (.ok result)) → Seen artifact call result := by
  have hkept := history_kept hv
  obtain ⟨hg, hkept'⟩ :=
    Shared.run_safe (fun _ => program_safe fun _ _ _ => trivial) hkept hw
  constructor
  · intro kind n hn
    have hfinal := hg.final kind n hn
    refine ⟨hfinal, ?_⟩
    rw [(hkept'.1.whole kind n hfinal).1, (hkept.1.whole kind n hn).1]
    exact (hg.files n (hkept.1.used kind n hn)).meant
  · intro artifact hid hpresent j call result hj hreturned
    exact late_seen hv hid ((present_iff hkept.1).mp hpresent) hw hj hreturned

/-- Behind the put, the artifact is read. -/
theorem sample_get : ∃ past, ∃ v : SampleWorld, ∃ log w result, History sampleJob past v ∧
    Present sampleJob sampleArtifact v.state ∧ v.threads.length = 1 ∧
    run (Shared.step (program sampleJob)) v log = some w ∧
      w.threads = [(.put sampleArtifact rfl, .done (.ok none)), (.getById, .done (.ok result))] := by
  obtain ⟨past, v, hv, htemps, hcommits, hthreads⟩ := sample_put
  have haliased : Aliased v.state := by
    intro temp htemp
    rw [htemps] at htemp
    cases htemp
  let call : ArtifactCall (fun _ => sampleHash) sampleArtifact.ref.artifactId := .getById
  have hcall : Ends CallOutcome.Unfailing (program sampleJob call) v.state
      fun r _ => ∃ result, r = .ok result := by
    refine (getById_alone (history_kept hv).1).mono ?_
    rintro r t ⟨hread, -⟩
    obtain ⟨-, result, hr, -⟩ := hread haliased
    exact ⟨result, hr⟩
  obtain ⟨log, r, t, hrun, result, rfl⟩ := hcall.started (i := .succeeds) trivial (w := v)
  refine ⟨past, v, log, _, result, hv, (present_iff (history_kept hv).1).mpr hcommits, ?_, hrun, ?_⟩
  · rw [hthreads]
    rfl
  · rw [hthreads]
    rfl

/-- After the put and the read: the artifact is there, and both speak of it. -/
theorem artifact_agreement_sample : ∃ log, ∃ w : SampleWorld, ∃ result, History sampleJob log w ∧
    (.getById, .done (.ok result)) ∈ w.threads ∧ Present sampleJob sampleArtifact w.state ∧
      (∃ own, .sched (.start (.put sampleArtifact own)) ∈ log) ∧
      ∀ other, result = some other → other = sampleArtifact := by
  obtain ⟨past, v, log, w, result, hv, -, -, hrun, hthreads⟩ := sample_get
  have hput : (.put sampleArtifact rfl, .done (.ok none)) ∈ w.threads := by
    rw [hthreads]
    exact List.mem_cons_self
  have hget : (.getById, .done (.ok result)) ∈ w.threads := by
    rw [hthreads]
    exact List.mem_cons_of_mem _ (List.mem_singleton_self _)
  have hw := hv.trans (.of_run hrun)
  obtain ⟨hpresent, hgiven, hsame⟩ := artifact_agreement hw hput rfl
  exact ⟨_, w, result, hw, hget, hpresent, hgiven,
    fun other hother => hsame _ result other hget hother⟩

theorem artifact_published_stays_sample : ∃ past, ∃ v : SampleWorld, ∃ log w,
    History sampleJob past v ∧
    run (Shared.step (program sampleJob)) v log = some w ∧
      w.threads[1]? = some (.getById, .done (.ok (some sampleArtifact))) := by
  obtain ⟨past, v, log, w, result, hv, hpresent, hlength, hrun, hthreads⟩ := sample_get
  have hread : w.threads[1]? = some (.getById, .done (.ok result)) := by rw [hthreads]; rfl
  have hseen : Seen sampleArtifact .getById result :=
    (artifact_published_stays hv hrun).2 sampleArtifact rfl hpresent 1 _ result
      (Nat.le_of_eq hlength) hread
  obtain rfl : result = some sampleArtifact := hseen
  exact ⟨past, v, log, w, hv, hrun, hread⟩

/-- **A put that has returned is durable.**  Its artifact is published in every
world that follows, whatever calls run and however often power is lost; and
whoever calls there is answered with it. -/
theorem artifact_put_durable (hv : History jobId past v)
    {own : artifact.ref.artifactId = artifactId}
    {result : Option (GeneratedArtifact hashBytes)}
    (hput : (.put artifact own, .done (.ok result)) ∈ v.threads)
    (hw : Shared.Later (program jobId) PowerLoss v log w) :
    Present jobId artifact w.state ∧
      ∀ more x, run (Shared.step (program jobId)) w more = some x → ∀ j call answer,
        w.threads.length ≤ j → x.threads[j]? = some (call, .done (.ok answer)) →
          Seen artifact call answer := by
  have hkept := history_kept hv
  have hdurable := hw.keeps (fun _ _ => powerLoss_kept) (fun _ _ => powerLoss_durable)
    (fun _ => program_safe fun _ _ _ => trivial) hkept (hkept.finished hput)
  obtain ⟨⟨⟨hcommits, hid⟩, -⟩, -⟩ := hdurable
  have hlater := hv.trans hw
  refine ⟨(present_iff (history_kept hlater).1).mpr hcommits, ?_⟩
  intro more x hx j call answer hj hreturned
  exact late_seen hlater hid hcommits hx hj hreturned

theorem artifact_put_durable_sample : ∃ log, ∃ w : SampleWorld,
    History sampleJob (log ++ [.crash]) w ∧ Present sampleJob sampleArtifact w.state := by
  obtain ⟨log, v, hv, -, -, hthreads⟩ := sample_put
  have hreturned : (.put sampleArtifact rfl, .done (.ok none)) ∈ v.threads := by
    rw [hthreads]
    exact List.mem_singleton_self _
  have hloss := powerLoss_rebooted (history_kept hv).1
  have hlater : Shared.Later (program sampleJob) PowerLoss v ([] ++ [.crash])
      ⟨rebooted v.state, []⟩ := Shared.Later.refl.crash hloss
  exact ⟨log, _, hv.trans hlater, (artifact_put_durable hv hreturned hlater).1⟩

/-! ### Alone in a world -/

/-- What is published fits the artifact. -/
def Fits (jobId : JobId) (artifact : GeneratedArtifact hashBytes) (s : ArtifactDirectory) : Prop :=
  (∀ n, s.final .artifact = some n → (s.files n).data = artifact.content) ∧
    ∀ n, s.final .metadata = some n → (s.files n).data = encodeMetadata jobId artifact

theorem fits_iff (hs : Kept jobId artifactId given s) :
    Fits jobId artifact s ↔ Agrees jobId artifact s := by
  constructor
  · rintro ⟨hcontent, hmetadata⟩
    refine ⟨fun n hn => ?_, fun n hn => ?_⟩
    · rw [← (hs.whole .artifact n hn).1]
      exact hcontent n hn
    · rw [← (hs.whole .metadata n hn).1]
      exact hmetadata n hn
  · rintro ⟨hcontent, hmetadata⟩
    refine ⟨fun n hn => ?_, fun n hn => ?_⟩
    · rw [(hs.whole .artifact n hn).1]
      exact hcontent n hn
    · rw [(hs.whole .metadata n hn).1]
      exact hmetadata n hn

/-- **A put alone**, from whatever crashes and power losses have left: it
returns exactly when every temporary name is one more name of its own final file
and what is published fits, and then the artifact is published and there is no
temporary name; otherwise the store is corrupted, and the final names are as they
were. -/
theorem artifact_put_alone (h : History jobId log w)
    (own : artifact.ref.artifactId = artifactId) :
    Ends CallOutcome.Unfailing (put hashBytes jobId artifact) w.state fun r t =>
      (¬ Sized artifact → r = .error .invalid ∧ t = w.state) ∧
        (Sized artifact → Aliased w.state ∧ Fits jobId artifact w.state →
          r = .ok () ∧ t.temps = [] ∧ Present jobId artifact t) ∧
        (Sized artifact → ¬ (Aliased w.state ∧ Fits jobId artifact w.state) →
          r = .error .corrupted ∧ t.final = w.state.final) := by
  subst own
  have hkept := (history_kept h).1
  by_cases hsized : Sized artifact
  · have hput := put_alone hkept hsized trivial
    have hsafe : Ends CallOutcome.Unfailing (put hashBytes jobId artifact) w.state fun r t =>
        Grows w.state t ∧ Kept jobId artifact.ref.artifactId (fun _ => True) t ∧
          ∀ a, r = .ok a → (Durable artifact.ref.artifactId jobId artifact :
            (growth jobId artifact.ref.artifactId fun _ => True).Fact).holds t :=
      (put_safe (P := .top) rfl trivial).ends hkept trivial
    refine (hput.and hsafe).mono ?_
    rintro r t ⟨⟨hok, hrefused⟩, -, ht, hdone⟩
    rw [fits_iff hkept]
    refine ⟨fun hnot => absurd hsized hnot, fun _ hyes => ?_, fun _ => hrefused⟩
    obtain ⟨rfl, htemps⟩ := hok hyes
    obtain ⟨⟨⟨hcommits, -⟩, -⟩, -⟩ := hdone () rfl
    exact ⟨rfl, htemps, (present_iff ht).mpr hcommits⟩
  · have hinvalid : Alone (put hashBytes jobId artifact) w.state (.error .invalid) w.state := by
      apply Gives.bind_error
      refine Gives.ends Gives.require ⟨?_, rfl⟩
      rw [if_neg]
      rw [Bool.and_eq_true, decide_eq_true_eq, decide_eq_true_eq]
      exact hsized
    exact Gives.ends hinvalid ⟨fun _ => ⟨rfl, rfl⟩, fun hs => absurd hs hsized,
      fun hs => absurd hs hsized⟩

/-- A put that stops after so many of its system calls. -/
def stoppedPut (calls : Nat) : Option SampleWorld :=
  run (Shared.step (program sampleJob)) sampleStart
    (.start (.put sampleArtifact rfl) :: List.replicate calls (.act 0 .succeeds))

/-- The temporary names, and what is published. -/
def leftOver (w : SampleWorld) : List (ArtifactKind × Nat) × Option Nat × Bytes × Option Nat :=
  (w.state.temps, w.state.final .artifact, (w.state.files 0).data, w.state.final .metadata)

theorem stoppedPut_linked :
    (stoppedPut 46).map leftOver = some ([(.artifact, 0)], some 0, [0], none) := by
  decide +kernel

theorem stoppedPut_written :
    (stoppedPut 40).map leftOver = some ([(.artifact, 0)], none, [0], none) := by
  decide +kernel

/-- Where a put has stopped once its content is linked, a second goes through;
where it has stopped before, the store is corrupted for the second. -/
theorem artifact_put_alone_stopped :
    (∃ w, stoppedPut 46 = some w ∧ Ends CallOutcome.Unfailing
      (put (fun _ => sampleHash) sampleJob sampleArtifact) w.state
        fun r t => r = .ok () ∧ t.temps = [] ∧ Present sampleJob sampleArtifact t) ∧
    ∃ w, stoppedPut 40 = some w ∧ Ends CallOutcome.Unfailing
      (put (fun _ => sampleHash) sampleJob sampleArtifact) w.state
        fun r t => r = .error .corrupted ∧ t.final = w.state.final := by
  constructor
  · obtain ⟨w, hw, hleft⟩ := Option.map_eq_some_iff.mp stoppedPut_linked
    obtain ⟨htemps, hrest⟩ := Prod.mk.inj hleft
    obtain ⟨hfinal, hrest⟩ := Prod.mk.inj hrest
    obtain ⟨hdata, hmetadata⟩ := Prod.mk.inj hrest
    have haliased : Aliased w.state := by
      intro temp htemp
      rw [htemps] at htemp
      obtain rfl := List.mem_singleton.mp htemp
      exact hfinal
    have hfits : Fits sampleJob sampleArtifact w.state := by
      refine ⟨fun n hn => ?_, fun n hn => ?_⟩
      · obtain rfl := Option.some.inj (hfinal.symm.trans hn)
        exact hdata
      · rw [hmetadata] at hn
        cases hn
    refine ⟨w, hw, (artifact_put_alone (.of_run hw) rfl).mono ?_⟩
    rintro r t ⟨-, hok, -⟩
    exact hok sample_sized ⟨haliased, hfits⟩
  · obtain ⟨w, hw, hleft⟩ := Option.map_eq_some_iff.mp stoppedPut_written
    obtain ⟨htemps, hrest⟩ := Prod.mk.inj hleft
    obtain ⟨hfinal, -⟩ := Prod.mk.inj hrest
    have hloose : ¬ Aliased w.state := by
      intro haliased
      have h := haliased (.artifact, 0) (by rw [htemps]; exact List.mem_singleton_self _)
      rw [hfinal] at h
      cases h
    refine ⟨w, hw, (artifact_put_alone (.of_run hw) rfl).mono ?_⟩
    rintro r t ⟨-, -, hrefused⟩
    exact hrefused sample_sized fun h => hloose h.1

/-- **A read alone**, from whatever crashes and power losses have left: it
returns exactly when every temporary name is one more name of its own final file,
and then it answers with what is published and has the reference that was asked
for; otherwise the store is corrupted, and nothing is changed. -/
theorem artifact_get_alone (h : History jobId log w) (sha256 : Sha256) :
    Ends CallOutcome.Unfailing (getByRef hashBytes jobId ⟨artifactId, sha256⟩) w.state fun r t =>
      (Aliased w.state → t.temps = [] ∧ ∃ result, r = .ok result ∧
        ∀ artifact : GeneratedArtifact hashBytes, result = some artifact ↔
          artifact.ref = ⟨artifactId, sha256⟩ ∧ Present jobId artifact w.state) ∧
        (¬ Aliased w.state → r = .error .corrupted ∧ t = w.state) := by
  have hkept := (history_kept h).1
  refine ends_bind.mpr ((getById_alone hkept).mono ?_)
  rintro r t ⟨hread, hrefused⟩
  by_cases ha : Aliased w.state
  · obtain ⟨htemps, result, rfl, hanswers⟩ := hread ha
    refine ⟨fun found hfound => ?_, fun _ he => by cases he⟩
    cases hfound
    refine ⟨fun _ => ⟨htemps, _, rfl, fun artifact => ?_⟩, fun hnot => absurd ha hnot⟩
    rw [Option.filter_eq_some_iff, decide_eq_true_eq, present_iff hkept]
    constructor
    · rintro ⟨hresult, href⟩
      have hid : artifact.ref.artifactId = artifactId := by rw [href]
      exact ⟨href, (hanswers artifact hid).mp hresult⟩
    · rintro ⟨href, hcommits⟩
      have hid : artifact.ref.artifactId = artifactId := by rw [href]
      exact ⟨(hanswers artifact hid).mpr hcommits, href⟩
  · obtain ⟨rfl, hsame⟩ := hrefused ha
    refine ⟨(fun _ hb => by cases hb), fun e he => ?_⟩
    cases he
    exact ⟨fun hyes => absurd hyes ha, fun _ => ⟨rfl, hsame⟩⟩

theorem artifact_get_alone_sample : ∃ log, ∃ v : SampleWorld, History sampleJob log v ∧
    Ends CallOutcome.Unfailing (getByRef (fun _ => sampleHash) sampleJob sampleArtifact.ref)
      v.state fun r _ => r = .ok (some sampleArtifact) := by
  obtain ⟨log, v, hv, htemps, hcommits, -⟩ := sample_put
  have haliased : Aliased v.state := by
    intro temp htemp
    rw [htemps] at htemp
    cases htemp
  have hpresent := (present_iff (history_kept hv).1).mpr hcommits
  refine ⟨log, v, hv, (artifact_get_alone hv sampleHash).mono ?_⟩
  rintro r t ⟨hread, -⟩
  obtain ⟨-, result, rfl, hanswers⟩ := hread haliased
  rw [(hanswers sampleArtifact).mpr ⟨rfl, hpresent⟩]

end Worlds

end Artifacts

end SpecStyle
