/-
SpecStyle/Workflow/ArtifactWriteOnce.lean

The store of production artifacts is written once.

The directory grows (`Grows`): a final name keeps its file, a file that is
whole stays whole, what is on the disk stays there.  Whoever links a name knows
that the file is whole and on the disk, and that the metadata belong to the
content (`Kept`).  So whatever is read is the one artifact that is committed
(`Committed`), for any number of calls in any order, with crashes and failures.

The bytes of a file in the making need no owner: `meant` says what its one
writer is going to write, and a write at an offset that is reached goes on with
it, whoever has written before (`overwrite_prefix`).
-/
import SpecStyle.Workflow.ArtifactMetadata

namespace SpecStyle

open PyLib

namespace Artifacts

/-! ### One write -/

/-- A chunk of a text, written at an offset over a beginning of the text. -/
theorem overwrite_prefix {α : Type} {text data chunk : List α} {offset : Nat}
    (hdata : data <+: text) (hoffset : offset ≤ data.length) (hchunk : chunk <+: text.drop offset) :
    data.take offset ++ chunk ++ data.drop (offset + chunk.length) <+: text ∧
      (data.take offset ++ chunk ++ data.drop (offset + chunk.length)).length =
        max data.length (offset + chunk.length) := by
  obtain ⟨rest, rfl⟩ := hdata
  obtain ⟨tail, htail⟩ := hchunk
  have htake : (data.take offset).length = offset := by
    rw [List.length_take]
    omega
  rw [List.drop_append_of_le_length hoffset] at htail
  have hwhole : data ++ rest = data.take offset ++ chunk ++ tail := by
    rw [List.append_assoc, htail, ← List.append_assoc, List.take_append_drop]
  constructor
  · rcases Nat.lt_or_ge data.length (offset + chunk.length) with hlt | hge
    · -- the chunk reaches beyond what is there
      rw [List.drop_eq_nil_of_le hlt.le, List.append_nil, hwhole]
      exact List.prefix_append _ _
    · have hhead : data.take (offset + chunk.length) = data.take offset ++ chunk := by
        have htakes := congrArg (List.take (offset + chunk.length)) hwhole
        rw [List.take_append_of_le_length hge, List.take_left'] at htakes
        · exact htakes
        · rw [List.length_append, htake]
      rw [← hhead, List.take_append_drop]
      exact List.prefix_append _ _
  · rw [List.length_append, List.length_append, List.length_drop, htake]
    omega

/-! ### The directory grows -/

/-- What a file has of what it is meant to hold only becomes more. -/
structure FileGrows (file file' : StoredFile) : Prop where
  kind : file'.kind = file.kind
  meant : file'.meant = file.meant
  length : file.data.length ≤ file'.data.length
  whole : file.data = file.meant → file'.data = file'.meant
  synced : file.synced = file.meant → file'.synced = file'.meant

theorem FileGrows.refl (file : StoredFile) : FileGrows file file :=
  ⟨rfl, rfl, Nat.le_refl _, id, id⟩

theorem FileGrows.trans {a b c : StoredFile} (h : FileGrows a b) (h' : FileGrows b c) :
    FileGrows a c :=
  ⟨h'.kind.trans h.kind, h'.meant.trans h.meant, h.length.trans h'.length,
    fun hw => h'.whole (h.whole hw), fun hs => h'.synced (h.synced hs)⟩

/-- A file is a beginning of what it is meant to hold, on the disk as well. -/
structure FileKept (file : StoredFile) : Prop where
  begun : file.data <+: file.meant
  disk : file.synced <+: file.meant
  synced : file.synced = file.meant → file.data = file.meant

/-- Nothing that is there, whole or on the disk is lost. -/
structure Grows (s t : ArtifactDirectory) : Prop where
  depth : s.depth ≤ t.depth
  levels : ∀ level, s.syncedLevels level = true → t.syncedLevels level = true
  next : s.next ≤ t.next
  final : ∀ kind n, s.final kind = some n → t.final kind = some n
  syncedFinal : ∀ kind n, s.syncedFinal kind = some n → t.syncedFinal kind = some n
  files : ∀ n < s.next, FileGrows (s.files n) (t.files n)

theorem Grows.refl (s : ArtifactDirectory) : Grows s s :=
  ⟨Nat.le_refl _, fun _ h => h, Nat.le_refl _, fun _ _ h => h, fun _ _ h => h,
    fun _ _ => .refl _⟩

theorem Grows.trans {a b c : ArtifactDirectory} (h : Grows a b) (h' : Grows b c) : Grows a c where
  depth := h.depth.trans h'.depth
  levels level hl := h'.levels level (h.levels level hl)
  next := h.next.trans h'.next
  final kind n hn := h'.final kind n (h.final kind n hn)
  syncedFinal kind n hn := h'.syncedFinal kind n (h.syncedFinal kind n hn)
  files n hn := (h.files n hn).trans (h'.files n (hn.trans_le h.next))

/-- A temporary name is one of a file in use, made for this kind. -/
structure TempKept (s : ArtifactDirectory) (temp : ArtifactKind × Nat) : Prop where
  used : temp.2 < s.next
  deep : Artifacts.levels.length ≤ s.depth
  kind : (s.files temp.2).kind = temp.1

theorem TempKept.up {s t : ArtifactDirectory} {temp : ArtifactKind × Nat} (hg : Grows s t)
    (h : TempKept s temp) : TempKept t temp :=
  ⟨h.used.trans_le hg.next, h.deep.trans hg.depth, (hg.files _ h.used).kind.trans h.kind⟩

section Growth

variable {hashBytes : Bytes → Sha256} {jobId : JobId} {artifactId : ArtifactId}
  {given : GeneratedArtifact hashBytes → Prop}

/-- Behind the final name there is the file, meant to hold the content. -/
def Holds (s : ArtifactDirectory) (kind : ArtifactKind) (n : Nat) (content : Bytes) : Prop :=
  s.final kind = some n ∧ n < s.next ∧ (s.files n).meant = content

theorem Holds.up {s t : ArtifactDirectory} {kind : ArtifactKind} {n : Nat} {content : Bytes}
    (hg : Grows s t) (h : Holds s kind n content) : Holds t kind n content :=
  ⟨hg.final kind n h.1, h.2.1.trans_le hg.next, (hg.files n h.2.1).meant.trans h.2.2⟩

/-- The final names are those of the artifact. -/
structure Commits (jobId : JobId) (artifact : GeneratedArtifact hashBytes) (s : ArtifactDirectory) :
    Prop where
  sized : Sized artifact
  content : ∃ n, Holds s .artifact n artifact.content
  metadata : ∃ n, Holds s .metadata n (encodeMetadata jobId artifact)

theorem Commits.up {artifact : GeneratedArtifact hashBytes} {s t : ArtifactDirectory}
    (hg : Grows s t) (h : Commits jobId artifact s) : Commits jobId artifact t where
  sized := h.sized
  content := h.content.imp fun _ hn => hn.up hg
  metadata := h.metadata.imp fun _ hn => hn.up hg

/-- What the store keeps: files are beginnings of what they are meant to hold;
behind a final name there is a whole file, on the disk, of a size that its
readers accept; and the metadata are those of the content. -/
structure Kept (jobId : JobId) (artifactId : ArtifactId)
    (given : GeneratedArtifact hashBytes → Prop)
    (s : ArtifactDirectory) : Prop where
  files : ∀ n < s.next, FileKept (s.files n)
  temps : s.temps.Nodup ∧ ∀ temp ∈ s.temps, TempKept s temp
  used : ∀ kind n, s.final kind = some n → n < s.next
  deep : ∀ kind n, s.final kind = some n → Artifacts.levels.length ≤ s.depth
  kinds : ∀ kind n, s.final kind = some n → (s.files n).kind = kind
  whole : ∀ kind n, s.final kind = some n → (s.files n).data = (s.files n).meant ∧
    (s.files n).synced = (s.files n).meant
  sized : ∀ kind n, s.final kind = some n →
    1 ≤ (s.files n).meant.length ∧ (s.files n).meant.length ≤ kind.limit
  synced : ∀ kind n, s.syncedFinal kind = some n → s.final kind = some n
  levels : ∀ level, s.syncedLevels level = true → level < s.depth
  ordered : ∀ n, s.final .metadata = some n → ∃ m, s.syncedFinal .artifact = some m
  metadata : ∀ n, s.final .metadata = some n → ∃ artifact : GeneratedArtifact hashBytes,
    artifact.ref.artifactId = artifactId ∧ given artifact ∧ Commits jobId artifact s

theorem kept_empty : Kept jobId artifactId given .empty where
  files _ h := by cases h
  temps := ⟨.nil, fun _ h => by cases h⟩
  used _ _ h := by cases h
  deep _ _ h := by cases h
  kinds _ _ h := by cases h
  whole _ _ h := by cases h
  sized _ _ h := by cases h
  synced _ _ h := by cases h
  levels _ h := by cases h
  ordered _ h := by cases h
  metadata _ h := by cases h

/-- The directory grows and keeps its invariant. -/
def growth (jobId : JobId) (artifactId : ArtifactId)
    (given : GeneratedArtifact hashBytes → Prop) :
    Growth ArtifactDirectory where
  le := Grows
  inv := Kept jobId artifactId given
  refl := Grows.refl
  trans h h' := h.trans h'

/-! ### What the calls do to it -/

section Effects

variable {s t : ArtifactDirectory}

/-- Growth with the same final names. -/
theorem Kept.grown (hs : Kept jobId artifactId given s) (hg : Grows s t)
    (hfinal : t.final = s.final)
    (hsynced : ∀ kind n, t.syncedFinal kind = some n → s.final kind = some n)
    (hlevels : ∀ level, t.syncedLevels level = true → level < t.depth)
    (hfiles : ∀ n < t.next, FileKept (t.files n))
    (htemps : t.temps.Nodup ∧ ∀ temp ∈ t.temps, TempKept t temp) :
    Kept jobId artifactId given t where
  files := hfiles
  temps := htemps
  used kind n hn := by
    rw [hfinal] at hn
    exact (hs.used kind n hn).trans_le hg.next
  deep kind n hn := by
    rw [hfinal] at hn
    exact (hs.deep kind n hn).trans hg.depth
  kinds kind n hn := by
    rw [hfinal] at hn
    exact (hg.files n (hs.used kind n hn)).kind.trans (hs.kinds kind n hn)
  whole kind n hn := by
    rw [hfinal] at hn
    have hgrows := hg.files n (hs.used kind n hn)
    exact ⟨hgrows.whole (hs.whole kind n hn).1, hgrows.synced (hs.whole kind n hn).2⟩
  sized kind n hn := by
    rw [hfinal] at hn
    rw [(hg.files n (hs.used kind n hn)).meant]
    exact hs.sized kind n hn
  synced kind n hn := by
    rw [hfinal]
    exact hsynced kind n hn
  levels := hlevels
  ordered n hn := by
    rw [hfinal] at hn
    exact (hs.ordered n hn).imp fun m hm => hg.syncedFinal .artifact m hm
  metadata n hn := by
    rw [hfinal] at hn
    obtain ⟨artifact, hid, hgiven, hcommits⟩ := hs.metadata n hn
    exact ⟨artifact, hid, hgiven, hcommits.up hg⟩

@[simp] theorem setFile_files (n m : Nat) (file : StoredFile) : (s.setFile n file).files m =
    if m = n then { file with changed := s.clock } else s.files m :=
  Function.update_apply _ _ _ _

@[simp] theorem syncFile_files (n m : Nat) : (s.syncFile n).files m =
    if m = n then { s.files n with synced := (s.files n).data } else s.files m :=
  Function.update_apply _ _ _ _

/-- The temporary names stay. -/
theorem Kept.tempsGrown (hs : Kept jobId artifactId given s) (hg : Grows s t)
    (htemps : t.temps = s.temps) : t.temps.Nodup ∧ ∀ temp ∈ t.temps, TempKept t temp := by
  rw [htemps]
  exact ⟨hs.temps.1, fun temp htemp => (hs.temps.2 temp htemp).up hg⟩

/-- A file changes. -/
theorem setFile_grows (hs : Kept jobId artifactId given s) {n : Nat} {file : StoredFile}
    (hfile : FileGrows (s.files n) file) (hkept : FileKept file) :
    Grows s (s.setFile n file) ∧ Kept jobId artifactId given (s.setFile n file) := by
  have hg : Grows s (s.setFile n file) := by
    refine ⟨Nat.le_refl _, fun _ h => h, Nat.le_refl _, fun _ _ h => h, fun _ _ h => h, ?_⟩
    intro m _
    rw [setFile_files]
    split
    · next heq =>
        subst heq
        exact ⟨hfile.kind, hfile.meant, hfile.length, hfile.whole, hfile.synced⟩
    · exact .refl _
  refine ⟨hg, hs.grown hg rfl hs.synced hs.levels ?_ (hs.tempsGrown hg rfl)⟩
  intro m hm
  rw [setFile_files]
  split
  · exact ⟨hkept.begun, hkept.disk, hkept.synced⟩
  · exact hs.files m hm

theorem touch_grows (hs : Kept jobId artifactId given s) {n : Nat} (hn : n < s.next) :
    Grows s (s.touch n) ∧ Kept jobId artifactId given (s.touch n) :=
  setFile_grows hs (.refl _) (hs.files n hn)

/-- A write goes on with what the file is meant to hold. -/
theorem write_grows (hs : Kept jobId artifactId given s) {n offset : Nat} {chunk : Bytes}
    (hn : n < s.next) (hoffset : offset ≤ (s.files n).data.length)
    (hchunk : chunk <+: (s.files n).meant.drop offset) :
    Grows s (s.write n offset chunk) ∧ Kept jobId artifactId given (s.write n offset chunk) ∧
      ((s.write n offset chunk).files n).data.length =
        max (s.files n).data.length (offset + chunk.length) := by
  obtain ⟨hbegun, hlength⟩ := overwrite_prefix (hs.files n hn).begun hoffset hchunk
  have hdata : ((s.write n offset chunk).files n).data = (s.files n).data.take offset ++ chunk ++
      (s.files n).data.drop (offset + chunk.length) := by
    show ((s.setFile n _).files n).data = _
    rw [setFile_files, if_pos rfl]
  -- what is whole cannot become longer
  have hwhole : (s.files n).data = (s.files n).meant → (s.files n).data.take offset ++ chunk ++
      (s.files n).data.drop (offset + chunk.length) = (s.files n).meant := by
    intro hwhole
    apply hbegun.eq_of_length
    apply Nat.le_antisymm hbegun.length_le
    rw [hlength, ← hwhole]
    exact Nat.le_max_left _ _
  have hgrows : (s.files n).data.length ≤ ((s.files n).data.take offset ++ chunk ++
      (s.files n).data.drop (offset + chunk.length)).length := by
    rw [hlength]
    exact Nat.le_max_left _ _
  let file : StoredFile := { s.files n with
    data := (s.files n).data.take offset ++ chunk ++
      (s.files n).data.drop (offset + chunk.length) }
  have hfile : FileGrows (s.files n) file := ⟨rfl, rfl, hgrows, hwhole, id⟩
  have hkept : FileKept file :=
    ⟨hbegun, (hs.files n hn).disk, fun h => hwhole ((hs.files n hn).synced h)⟩
  obtain ⟨hg, hk⟩ := setFile_grows hs hfile hkept
  refine ⟨hg, hk, ?_⟩
  rw [hdata, hlength]

theorem syncFile_grows (hs : Kept jobId artifactId given s) {n : Nat} (hn : n < s.next) :
    Grows s (s.syncFile n) ∧ Kept jobId artifactId given (s.syncFile n) := by
  have hkept := hs.files n hn
  have hg : Grows s (s.syncFile n) := by
    refine ⟨Nat.le_refl _, fun _ h => h, Nat.le_refl _, fun _ _ h => h, fun _ _ h => h, ?_⟩
    intro m _
    rw [syncFile_files]
    split
    · next heq =>
        subst heq
        exact ⟨rfl, rfl, Nat.le_refl _, id, hkept.synced⟩
    · exact .refl _
  refine ⟨hg, hs.grown hg rfl hs.synced hs.levels ?_ (hs.tempsGrown hg rfl)⟩
  intro m hm
  rw [syncFile_files]
  split
  · exact ⟨hkept.begun, hkept.begun, id⟩
  · exact hs.files m hm

theorem syncEntries_grows (hs : Kept jobId artifactId given s) :
    Grows s s.syncEntries ∧ Kept jobId artifactId given s.syncEntries := by
  have hg : Grows s s.syncEntries :=
    ⟨Nat.le_refl _, fun _ h => h, Nat.le_refl _, fun _ _ h => h, hs.synced, fun _ _ => .refl _⟩
  exact ⟨hg, hs.grown hg rfl (fun _ _ h => h) hs.levels hs.files (hs.tempsGrown hg rfl)⟩

theorem syncLevel_grows (hs : Kept jobId artifactId given s) (level : Nat) :
    Grows s (s.syncLevel level) ∧ Kept jobId artifactId given (s.syncLevel level) := by
  have hlevels : ∀ l, (s.syncLevel level).syncedLevels l =
      if l = level then decide (level < s.depth) else s.syncedLevels l := fun l =>
    Function.update_apply _ _ _ _
  have hg : Grows s (s.syncLevel level) := by
    refine ⟨Nat.le_refl _, fun l hl => ?_, Nat.le_refl _, fun _ _ h => h, fun _ _ h => h,
      fun _ _ => .refl _⟩
    rw [hlevels]
    split
    · next heq =>
        subst heq
        exact decide_eq_true (hs.levels l hl)
    · exact hl
  refine ⟨hg, hs.grown hg rfl hs.synced ?_ hs.files (hs.tempsGrown hg rfl)⟩
  intro l hl
  rw [hlevels] at hl
  split at hl
  · next heq =>
      subst heq
      exact of_decide_eq_true hl
  · exact hs.levels l hl

theorem mkdir_grows {level : Nat} (hs : Kept jobId artifactId given s)
    (h : mkdir level s = .ok t) : Grows s t ∧ Kept jobId artifactId given t := by
  unfold mkdir at h
  split at h
  · cases h
  · split at h
    · next heq =>
        cases h
        have hg : Grows s { s with depth := level + 1 } :=
          ⟨heq ▸ Nat.le_succ _, fun _ h => h, Nat.le_refl _, fun _ _ h => h, fun _ _ h => h,
            fun _ _ => .refl _⟩
        refine ⟨hg, hs.grown hg rfl hs.synced ?_ hs.files (hs.tempsGrown hg rfl)⟩
        intro l hl
        exact (hs.levels l hl).trans_le hg.depth
    · cases h

/-- A new file is one that nobody knows. -/
theorem created_grows (hs : Kept jobId artifactId given s)
    (hdeep : Artifacts.levels.length ≤ s.depth) (kind : ArtifactKind) (content : Bytes) :
    Grows s (created kind content s) ∧
      Kept jobId artifactId given (created kind content s) := by
  have hfiles : ∀ m, (created kind content s).files m =
      if m = s.next then ⟨kind, content, [], [], s.clock⟩ else s.files m := fun m =>
    Function.update_apply _ _ _ _
  have hg : Grows s (created kind content s) := by
    refine ⟨Nat.le_refl _, fun _ h => h, Nat.le_succ _, fun _ _ h => h, fun _ _ h => h, ?_⟩
    intro m hm
    rw [hfiles, if_neg hm.ne]
    exact .refl _
  refine ⟨hg, hs.grown hg rfl hs.synced hs.levels ?_ ⟨?_, ?_⟩⟩
  · intro m hm
    rw [hfiles]
    split
    · exact ⟨List.nil_prefix, List.nil_prefix, id⟩
    · next hne => exact hs.files m (Nat.lt_of_le_of_ne (Nat.le_of_lt_succ hm) hne)
  · apply List.nodup_append.mpr
    refine ⟨hs.temps.1, List.nodup_singleton _, ?_⟩
    rintro temp htemp other hother rfl
    rw [List.mem_singleton.mp hother] at htemp
    exact (Nat.lt_irrefl _ (hs.temps.2 _ htemp).used).elim
  · intro temp htemp
    rcases List.mem_append.mp htemp with htemp | htemp
    · exact (hs.temps.2 temp htemp).up hg
    · rw [List.mem_singleton.mp htemp]
      refine ⟨Nat.lt_succ_self _, hdeep, ?_⟩
      show ((created kind content s).files s.next).kind = kind
      rw [hfiles, if_pos rfl]

theorem unlink_grows {kind : ArtifactKind} {token : Nat} (hs : Kept jobId artifactId given s)
    (h : unlink kind token s = .ok t) : Grows s t ∧ Kept jobId artifactId given t := by
  unfold unlink at h
  split at h
  · next hmem =>
      cases h
      obtain ⟨hg, hk⟩ := touch_grows hs (hs.temps.2 _ hmem).used
      refine ⟨⟨hg.depth, hg.levels, hg.next, hg.final, hg.syncedFinal, hg.files⟩,
        ⟨hk.files, ⟨hs.temps.1.filter _, ?_⟩, hk.used, hk.deep, hk.kinds, hk.whole, hk.sized,
          hk.synced, hk.levels, hk.ordered, fun n hn => ?_⟩⟩
      · intro temp htemp
        have hkept := (hs.temps.2 temp (List.mem_of_mem_filter htemp)).up hg
        exact ⟨hkept.used, hkept.deep, hkept.kind⟩
      · obtain ⟨artifact, hid, hgiven, hcommits⟩ := hk.metadata n hn
        exact ⟨artifact, hid, hgiven, hcommits.sized, hcommits.content, hcommits.metadata⟩
  · cases h

/-- Whoever links a name has a whole file, on the disk; and metadata are linked
behind their content. -/
theorem link_grows {kind : ArtifactKind} {n : Nat} (hs : Kept jobId artifactId given s)
    (hwhole : (s.files n).data = (s.files n).meant)
    (hsynced : (s.files n).synced = (s.files n).meant)
    (hsized : 1 ≤ (s.files n).meant.length ∧ (s.files n).meant.length ≤ kind.limit)
    (hmetadata : kind = .metadata → ∃ artifact : GeneratedArtifact hashBytes,
      artifact.ref.artifactId = artifactId ∧ given artifact ∧ Sized artifact ∧
        (∃ m, Holds s .artifact m artifact.content) ∧ (∃ m, s.syncedFinal .artifact = some m) ∧
          (s.files n).meant = encodeMetadata jobId artifact)
    (h : link kind n s = .ok t) :
    Grows s t ∧ Kept jobId artifactId given t ∧ t.final kind = some n := by
  unfold link at h
  split at h
  · next hmem =>
      split at h
      · cases h
      · next hnone =>
          cases h
          obtain ⟨hn, hdeep, hkind⟩ := hs.temps.2 _ hmem
          obtain ⟨hg, hk⟩ := touch_grows hs hn
          have hfinal : ∀ k, Function.update s.final kind (some n) k =
              if k = kind then some n else s.final k := fun k => Function.update_apply _ _ _ _
          have hkept : ∀ k m, s.final k = some m →
              Function.update s.final kind (some n) k = some m := by
            intro k m hm
            rw [hfinal, if_neg, hm]
            rintro rfl
            rw [hnone] at hm
            cases hm
          have hmeant : ∀ m, ((s.touch n).files m).meant = (s.files m).meant := by
            intro m
            rw [ArtifactDirectory.touch, setFile_files]
            split
            · next heq => rw [heq]
            · rfl
          have hgrows : Grows s { s.touch n with final := Function.update s.final kind (some n) } :=
            ⟨hg.depth, hg.levels, hg.next, hkept, hg.syncedFinal, hg.files⟩
          have hcases : ∀ k m, Function.update s.final kind (some n) k = some m →
              (k = kind ∧ m = n) ∨ s.final k = some m := by
            intro k m hm
            rw [hfinal] at hm
            split at hm
            · next heq => exact .inl ⟨heq, (Option.some.inj hm).symm⟩
            · exact .inr hm
          refine ⟨hgrows, ⟨hk.files, ⟨hk.temps.1, fun temp htemp => ?_⟩, fun k m hm => ?_,
            fun _ _ _ => hdeep, fun k m hm => ?_, fun k m hm => ?_,
            fun k m hm => ?_, fun k m hm => hkept k m (hs.synced k m hm), hk.levels,
            fun m hm => ?_, fun m hm => ?_⟩, Function.update_self _ _ _⟩
          · have htempKept := hk.temps.2 temp htemp
            exact ⟨htempKept.used, htempKept.deep, htempKept.kind⟩
          · rcases hcases k m hm with ⟨rfl, rfl⟩ | hm
            · exact hn
            · exact hs.used k m hm
          · rcases hcases k m hm with ⟨rfl, rfl⟩ | hm
            · exact (hg.files m hn).kind.trans hkind
            · exact hk.kinds k m hm
          · rcases hcases k m hm with ⟨rfl, rfl⟩ | hm
            · exact ⟨(hg.files m hn).whole hwhole, (hg.files m hn).synced hsynced⟩
            · exact hk.whole k m hm
          · show 1 ≤ ((s.touch n).files m).meant.length ∧
              ((s.touch n).files m).meant.length ≤ k.limit
            rw [hmeant]
            rcases hcases k m hm with ⟨rfl, rfl⟩ | hm
            · exact hsized
            · exact hs.sized k m hm
          · rcases hcases .metadata m hm with ⟨rfl, rfl⟩ | hm
            · obtain ⟨artifact, -, -, -, -, hordered, -⟩ := hmetadata rfl
              exact hordered
            · exact hs.ordered m hm
          · rcases hcases .metadata m hm with ⟨rfl, rfl⟩ | hm
            · obtain ⟨artifact, hid, hgiven, hsized, ⟨c, hc⟩, -, hencode⟩ := hmetadata rfl
              refine ⟨artifact, hid, hgiven, hsized, ⟨c, hc.up hgrows⟩, m, ?_, hn, ?_⟩
              · exact Function.update_self ArtifactKind.metadata (some m) s.final
              · exact (hmeant m).trans hencode
            · obtain ⟨artifact, hid, hgiven, hcommits⟩ := hs.metadata m hm
              exact ⟨artifact, hid, hgiven, hcommits.up hgrows⟩
  · cases h

end Effects

/-! ### Facts -/

section Facts

variable (jobId artifactId given)

/-- The file is meant to hold the content. -/
def MeantFor (n : Nat) (content : Bytes) : (growth jobId artifactId given).Fact where
  holds s := n < s.next ∧ (s.files n).meant = content
  up hg h := ⟨h.1.trans_le hg.next, (hg.files n h.1).meant.trans h.2⟩

/-- The file holds so many bytes. -/
def Reached (n length : Nat) : (growth jobId artifactId given).Fact where
  holds s := n < s.next ∧ length ≤ (s.files n).data.length
  up hg h := ⟨h.1.trans_le hg.next, h.2.trans (hg.files n h.1).length⟩

/-- The file holds the content that it is meant to hold. -/
def Fixed (n : Nat) (content : Bytes) : (growth jobId artifactId given).Fact where
  holds s := n < s.next ∧ (s.files n).meant = content ∧ (s.files n).data = (s.files n).meant
  up hg h := ⟨h.1.trans_le hg.next, (hg.files n h.1).meant.trans h.2.1,
    (hg.files n h.1).whole h.2.2⟩

/-- The file is on the disk. -/
def SyncedFile (n : Nat) : (growth jobId artifactId given).Fact where
  holds s := n < s.next ∧ (s.files n).synced = (s.files n).meant
  up hg h := ⟨h.1.trans_le hg.next, (hg.files n h.1).synced h.2⟩

/-- The content is published under the final name. -/
def Published (kind : ArtifactKind) (content : Bytes) : (growth jobId artifactId given).Fact where
  holds s := ∃ n, Holds s kind n content
  up hg h := h.imp fun _ hn => hn.up hg

/-- The final name is on the disk. -/
def SyncedName (kind : ArtifactKind) : (growth jobId artifactId given).Fact where
  holds s := ∃ n, s.syncedFinal kind = some n
  up hg h := h.imp fun n hn => hg.syncedFinal kind n hn

/-- The directories up to a level are there. -/
def Deep (level : Nat) : (growth jobId artifactId given).Fact where
  holds s := level ≤ s.depth
  up hg h := h.trans hg.depth

/-- The name of the directory is on the disk. -/
def SyncedLevel (level : Nat) : (growth jobId artifactId given).Fact where
  holds s := s.syncedLevels level = true
  up hg h := hg.levels level h

/-- The artifact is committed. -/
def Committed (artifact : GeneratedArtifact hashBytes) :
    (growth jobId artifactId given).Fact where
  holds s := Commits jobId artifact s
  up hg h := h.up hg

/-- The content may be linked: metadata belong to an artifact whose content is
published, under a name that is on the disk. -/
def Publishable (kind : ArtifactKind) (content : Bytes) :
    (growth jobId artifactId given).Fact where
  holds s := (1 ≤ content.length ∧ content.length ≤ kind.limit) ∧
    (kind = .metadata → ∃ artifact : GeneratedArtifact hashBytes,
      artifact.ref.artifactId = artifactId ∧ given artifact ∧ Sized artifact ∧
        (∃ m, Holds s .artifact m artifact.content) ∧ (∃ m, s.syncedFinal .artifact = some m) ∧
          content = encodeMetadata jobId artifact)
  up hg h := ⟨h.1, fun hkind => by
    obtain ⟨artifact, hid, hgiven, hsized, hcontent, hordered, hencode⟩ := h.2 hkind
    exact ⟨artifact, hid, hgiven, hsized, hcontent.imp fun _ hm => hm.up hg,
      hordered.imp fun m hm => hg.syncedFinal .artifact m hm, hencode⟩⟩

end Facts

/-! ### Every step -/

section Steps

variable {α : Type} {P R : (growth jobId artifactId given).Fact}
  {Q : α → (growth jobId artifactId given).Fact} {kind : ArtifactKind} {n : Nat}
  {content : Bytes}

theorem look_safe {view : CallOutcome → ArtifactDirectory → Except ArtifactExn α}
    (h : ∀ outcome s a, Kept jobId artifactId given s → P.holds s → view outcome s = .ok a →
      (Q a).holds s) : Safe (growth jobId artifactId given) Q (look view) P := by
  apply Safe.call
  intro outcome s hs hP
  cases outcome with
  | fails => exact ⟨Grows.refl s, hs, fun _ ha => by cases ha⟩
  | failsAfter => exact ⟨Grows.refl s, hs, fun _ ha => by cases ha⟩
  | _ => exact ⟨Grows.refl s, hs, fun a ha => h _ s a hs hP ha⟩

theorem mutate_safe {change : ArtifactDirectory → Except ArtifactExn ArtifactDirectory}
    (h : ∀ s t, Kept jobId artifactId given s → P.holds s → change s = .ok t →
      Grows s t ∧ Kept jobId artifactId given t ∧ R.holds t) :
    Safe (growth jobId artifactId given) (fun _ => R) (mutate change) P := by
  apply Safe.call
  intro outcome s hs hP
  have hsettle : ∀ result : Except ArtifactExn Unit,
      Grows s (settle result s (change s)).2 ∧
        Kept jobId artifactId given (settle result s (change s)).2 ∧
          ∀ a, (settle result s (change s)).1 = .ok a → R.holds (settle result s (change s)).2 := by
    intro result
    cases hc : change s with
    | error raised => exact ⟨Grows.refl s, hs, fun _ ha => by cases ha⟩
    | ok t =>
        obtain ⟨hg, hk, hR⟩ := h s t hs hP hc
        exact ⟨hg, hk, fun _ _ => hR⟩
  cases outcome with
  | fails => exact ⟨Grows.refl s, hs, fun _ ha => by cases ha⟩
  | _ => exact hsettle _

theorem bare_safe : Safe (growth jobId artifactId given) (fun _ => .top) bare P :=
  look_safe fun _ _ _ _ _ _ => trivial

theorem translate_safe {m : ArtifactProgram α} {raised : ArtifactExn}
    (h : Safe (growth jobId artifactId given) Q m P) :
    Safe (growth jobId artifactId given) Q (translate m raised) P :=
  Safe.tryCatch h fun _ => Safe.throw

theorem catching_safe {m : ArtifactProgram α} {caught : ArtifactExn} {answer : α}
    (h : Safe (growth jobId artifactId given) Q m P)
    (hanswer : ∀ s, Kept jobId artifactId given s → P.holds s → (Q answer).holds s) :
    Safe (growth jobId artifactId given) Q (catching m caught answer) P := by
  refine Safe.tryCatch h fun e => Safe.ite ?_ fun _ => Safe.throw
  intro _
  exact Safe.pure hanswer

theorem onlyIf_safe {m : ArtifactProgram Unit} {condition : Bool}
    (h : Safe (growth jobId artifactId given) (fun _ => R) m P) :
    Safe (growth jobId artifactId given) (fun _ => .when (condition = true) R)
      (onlyIf condition m) P := by
  refine Safe.ite (fun _ => ?_) fun hc => ?_
  · exact h.conseq (fun _ _ h => h) fun _ _ _ _ hR _ => hR
  · exact Safe.pure fun _ _ _ hc' => absurd hc' hc

theorem closeFd_safe : Safe (growth jobId artifactId given) (fun _ => .top) closeFd P :=
  translate_safe bare_safe

theorem closeFds_safe {count : Nat} {failed : Bool} :
    Safe (growth jobId artifactId given) (fun _ => .top) (closeFds count failed) P := by
  induction count generalizing failed P with
  | zero => exact Safe.require.conseq (fun _ _ h => h) fun _ _ _ _ _ => trivial
  | succ count ih =>
      refine Safe.bind (I := fun _ => .top) (Safe.tryCatch ?_ fun _ => ?_) fun _ => ih
      · exact Safe.bind closeFd_safe fun _ => Safe.pure fun _ _ _ => trivial
      · exact Safe.pure fun _ _ _ => trivial

theorem fsyncFile_safe (hn : ∀ s, Kept jobId artifactId given s → P.holds s → n < s.next)
    (h : ∀ s, Kept jobId artifactId given s → P.holds s → R.holds (s.syncFile n)) :
    Safe (growth jobId artifactId given) (fun _ => R) (fsyncFile n) P := by
  apply translate_safe
  apply mutate_safe
  rintro s t hs hP ht
  cases ht
  obtain ⟨hg, hk⟩ := syncFile_grows hs (hn s hs hP)
  exact ⟨hg, hk, h s hs hP⟩

theorem fsyncEntries_safe
    (h : ∀ s, Kept jobId artifactId given s → P.holds s → R.holds s.syncEntries) :
    Safe (growth jobId artifactId given) (fun _ => R) fsyncEntries P := by
  apply translate_safe
  apply mutate_safe
  rintro s t hs hP ht
  cases ht
  obtain ⟨hg, hk⟩ := syncEntries_grows hs
  exact ⟨hg, hk, h s hs hP⟩

/-- A published name is on the disk when the directory is synced. -/
theorem fsyncEntries_published : Safe (growth jobId artifactId given)
    (fun _ => SyncedName jobId artifactId given kind) fsyncEntries
    (Published jobId artifactId given kind content) := by
  apply fsyncEntries_safe
  rintro s - ⟨n, hn⟩
  exact ⟨n, hn.1⟩

theorem fsyncLevel_safe {level : Nat} : Safe (growth jobId artifactId given)
    (fun _ => SyncedLevel jobId artifactId given level) (fsyncLevel level)
    (Deep jobId artifactId given (level + 1)) := by
  apply translate_safe
  apply mutate_safe
  rintro s t hs hdeep ht
  cases ht
  obtain ⟨hg, hk⟩ := syncLevel_grows hs level
  refine ⟨hg, hk, ?_⟩
  show Function.update s.syncedLevels level (decide (level < s.depth)) level = true
  rw [Function.update_self]
  exact decide_eq_true hdeep

/-! ### Directories -/

/-- Where a directory is not found, `R` holds, which is known of a path that
short. -/
theorem openNamed_safe {level : Nat}
    (h : ∀ s, Kept jobId artifactId given s → P.holds s → s.depth ≤ level → R.holds s) :
    Safe (growth jobId artifactId given)
      (fun opened => (Growth.Fact.when (opened = true)
        (Deep jobId artifactId given (level + 1))).and (.when (opened = false) R))
      (translate (openNamed level) .corrupted) P := by
  apply translate_safe
  apply look_safe
  rintro _ s a hs hP ha
  cases ha
  refine ⟨fun hopened => ?_, fun hclosed => h s hs hP (not_lt.mp (of_decide_eq_false hclosed))⟩
  have hlt : level < s.depth := of_decide_eq_true hopened
  exact hlt

theorem directoryIsSecure_safe :
    Safe (growth jobId artifactId given) (fun _ => .top) directoryIsSecure P :=
  Safe.bind (translate_safe bare_safe) fun _ => Safe.bind (translate_safe bare_safe) fun _ =>
    translate_safe bare_safe

theorem tryMkdir_safe {level : Nat} :
    Safe (growth jobId artifactId given) (fun _ => .top) (tryMkdir level) P := by
  refine translate_safe (catching_safe ?_ fun _ _ _ => trivial)
  refine Safe.bind (I := fun _ => .top) (mutate_safe ?_) fun _ => Safe.pure fun _ _ _ => trivial
  intro s t hs _ ht
  obtain ⟨hg, hk⟩ := mkdir_grows hs ht
  exact ⟨hg, hk, trivial⟩

theorem openDirectory_safe {level : Nat} {create : Bool}
    (h : ∀ s, Kept jobId artifactId given s → P.holds s → s.depth ≤ level → R.holds s) :
    Safe (growth jobId artifactId given)
      (fun opened => (Growth.Fact.when (opened = true)
        (Deep jobId artifactId given (level + 1))).and (.when (opened = false) R))
      (openDirectory level create) P := by
  refine Safe.bind (openNamed_safe h) fun found => Safe.ite ?_ ?_
  · intro hfound
    refine Safe.bind directoryIsSecure_safe fun _ => Safe.pure ?_
    exact fun _ _ h => ⟨fun _ => h.1.2.1 hfound, (fun hne => by cases hne)⟩
  · intro hfound
    refine Safe.ite (fun _ => ?_) fun _ => Safe.pure ?_
    · refine Safe.bind tryMkdir_safe fun created => ?_
      refine Safe.bind (openNamed_safe (R := .top) fun _ _ _ _ => trivial) fun opened => ?_
      refine Safe.bind Safe.require fun _ => Safe.of_const fun hopened => ?_
      refine Safe.bind directoryIsSecure_safe fun _ => ?_
      refine Safe.bind (onlyIf_safe (fsyncLevel_safe.pre fun _ _ h => h.1.2.1 hopened)) fun _ => ?_
      exact Safe.pure fun _ _ h => ⟨fun _ => h.1.1.2.1 hopened, (fun hne => by cases hne)⟩
    · have hfalse : found = false := Bool.eq_false_of_not_eq_true hfound
      exact fun _ _ h => ⟨(fun hne => by cases hne), fun _ => h.2.2 hfalse⟩

/-- The names on the way are on the disk. -/
def SyncedPath (list : List Nat) : (growth jobId artifactId given).Fact where
  holds s := ∀ level ∈ list, s.syncedLevels level = true
  up hg h level hlevel := hg.levels level (h level hlevel)

theorem openScope_safe {create : Bool} {list : List Nat}
    (h : ∀ s, Kept jobId artifactId given s → P.holds s → ∀ level ∈ list, s.depth ≤ level →
      R.holds s) :
    Safe (growth jobId artifactId given)
      (fun opened => (Growth.Fact.when (opened = true ∧ create = true) (SyncedPath list)).and
        (.when (opened = false) R)) (openScope create list) P := by
  induction list generalizing P with
  | nil =>
      exact Safe.pure fun _ _ _ => ⟨(fun _ _ h => by cases h), (fun hne => by cases hne)⟩
  | cons level rest ih =>
      refine Safe.bind (openDirectory_safe fun s hs hP => h s hs hP level List.mem_cons_self)
        fun opened => Safe.ite ?_ ?_
      · intro hopened
        refine Safe.bind (onlyIf_safe (fsyncLevel_safe.pre fun _ _ h => h.2.1 hopened)) fun _ => ?_
        have hrest : ∀ s, Kept jobId artifactId given s → P.holds s → ∀ l ∈ rest,
            s.depth ≤ l → R.holds s :=
          fun s hs hP l hl => h s hs hP l (List.mem_cons_of_mem _ hl)
        refine (ih hrest).conseq (fun _ _ h => h.1.1) ?_
        rintro result s - ⟨-, hlevel⟩ ⟨hrest, habsent⟩
        refine ⟨fun hresult l hl => ?_, habsent⟩
        rcases List.mem_cons.mp hl with rfl | hl
        · exact hlevel hresult.2
        · exact hrest hresult l hl
      · intro hopened
        refine Safe.bind closeFds_safe fun _ => Safe.pure ?_
        rintro _ - h
        exact ⟨fun hne => (by cases hne.1), fun _ => h.1.2.2 (Bool.eq_false_of_not_eq_true hopened)⟩

/-! ### Reading -/

theorem fstat_safe {Q : FileStat → (growth jobId artifactId given).Fact}
    (h : ∀ s, Kept jobId artifactId given s → P.holds s → (Q (s.stat n)).holds s) :
    Safe (growth jobId artifactId given) Q (fstat n) P := by
  apply translate_safe
  apply look_safe
  rintro _ s a hs hP ha
  cases ha
  exact h s hs hP

theorem namedStat_safe {name : ArtifactName} :
    Safe (growth jobId artifactId given) (fun _ => .top) (namedStat name) P :=
  translate_safe (look_safe fun _ _ _ _ _ _ => trivial)

theorem requireRegular_safe {result : FileStat} {links : Option Nat} {minimum maximum : Nat} :
    Safe (growth jobId artifactId given)
      (fun _ => .const (minimum ≤ result.size ∧ result.size ≤ maximum))
      (requireRegular result links minimum maximum) P := by
  refine Safe.require.conseq (fun _ _ h => h) ?_
  intro _ _ _ _ hc
  have hc : _ = true := hc
  rw [Bool.and_eq_true, Bool.and_eq_true] at hc
  exact ⟨of_decide_eq_true hc.1.2, of_decide_eq_true hc.2⟩

/-- What follows from the length of the file at one moment. -/
theorem inspectOpenFile_safe {name : ArtifactName} {expected links : Nat}
    (h : ∀ s, Kept jobId artifactId given s → P.holds s →
      (s.files n).data.length = expected → R.holds s) :
    Safe (growth jobId artifactId given) (fun _ => R)
      (inspectOpenFile n name expected links) P := by
  refine Safe.bind (I := fun opened : FileStat => .when (opened.size = expected) R)
    (fstat_safe fun s hs hP hsize => h s hs hP hsize) fun opened => ?_
  refine Safe.bind namedStat_safe fun named => Safe.bind requireRegular_safe fun _ => ?_
  refine Safe.bind requireRegular_safe fun _ => Safe.bind Safe.require fun _ => Safe.pure ?_
  rintro s - ⟨⟨⟨⟨⟨-, hwhen⟩, -⟩, hsize⟩, -⟩, -⟩
  exact hwhen (Nat.le_antisymm hsize.2 hsize.1)

theorem osRead_safe {offset amount : Nat} : Safe (growth jobId artifactId given)
    (fun chunk => .const (chunk <+: content.drop offset)) (osRead n offset amount)
    (Fixed jobId artifactId given n content) := by
  apply look_safe
  rintro outcome s chunk - ⟨-, hmeant, hwhole⟩ h
  rw [hwhole, hmeant] at h
  cases outcome with
  | shortRead m =>
      cases h
      exact (List.take_prefix _ _).trans (List.take_prefix _ _)
  | _ =>
      cases h
      exact List.take_prefix _ _

theorem readChunks_safe {expected turns : Nat} {start : Bytes} (hstart : start <+: content)
    (hturns : expected ≤ turns + start.length) : Safe (growth jobId artifactId given)
      (fun result => .const (result <+: content ∧ expected ≤ result.length))
      (readChunks n expected turns start) (Fixed jobId artifactId given n content) := by
  induction turns generalizing start with
  | zero => exact Safe.pure fun _ _ _ => ⟨hstart, by omega⟩
  | succ turns ih =>
      refine Safe.ite (fun hle => Safe.pure fun _ _ _ => ⟨hstart, hle⟩) fun _ => ?_
      refine Safe.bind (translate_safe osRead_safe) fun chunk => Safe.of_const fun hchunk => ?_
      refine Safe.bind Safe.require fun _ => Safe.of_const fun hrequired => ?_
      rw [Bool.and_eq_true, decide_eq_true_eq] at hrequired
      have hpos : 0 < chunk.length := List.length_pos_iff.mpr hrequired.1
      apply ih
      · obtain ⟨rest, rfl⟩ := hstart
        rw [List.drop_left] at hchunk
        exact List.prefix_append_right_inj start |>.mpr hchunk
      · rw [List.length_append]
        omega

theorem readExactBounded_safe {expected maximum : Nat} : Safe (growth jobId artifactId given)
    (fun result => .const (result <+: content ∧ expected ≤ result.length))
    (readExactBounded n expected maximum) (Fixed jobId artifactId given n content) := by
  refine Safe.bind Safe.require fun _ => ?_
  refine Safe.bind ((readChunks_safe List.nil_prefix (Nat.le_refl _)).pre fun _ _ h => h.1)
    fun result => ?_
  refine Safe.bind (I := fun _ => .top) (translate_safe (look_safe fun _ _ _ _ _ _ => trivial))
    fun extra => Safe.bind Safe.require fun _ => Safe.pure ?_
  rintro s - ⟨⟨⟨-, hresult⟩, -⟩, -⟩
  exact hresult

theorem syncOpen_safe {name : ArtifactName} {size : Nat} {after : FileStat}
    (hn : ∀ s, Kept jobId artifactId given s → P.holds s → n < s.next) :
    Safe (growth jobId artifactId given) (fun _ => .top) (syncOpen n name size after) P := by
  refine Safe.bind (I := fun _ => .top) (fsyncFile_safe hn fun _ _ _ => trivial) fun _ => ?_
  refine Safe.bind (I := fun _ => .top) (inspectOpenFile_safe fun _ _ _ _ => trivial) fun _ => ?_
  exact Safe.require.conseq (fun _ _ h => h) fun _ _ _ _ _ => trivial

/-- A whole file is read as it is. -/
theorem readOpen_safe {name : ArtifactName} {expected : Option Nat} {maximum : Nat} {sync : Bool} :
    Safe (growth jobId artifactId given) (fun result => .const (result = content))
      (readOpen n name expected maximum sync) (Fixed jobId artifactId given n content) := by
  refine Safe.bind (I := fun _ => .top) (fstat_safe fun _ _ _ => trivial) fun initial => ?_
  refine Safe.bind (I := fun _ => .const (content.length = expected.getD initial.size))
    (inspectOpenFile_safe ?_) fun before => ?_
  · rintro s - ⟨⟨-, hmeant, hwhole⟩, -⟩ hsize
    rw [hwhole, hmeant] at hsize
    exact hsize
  refine Safe.bind Safe.require fun _ => ?_
  refine Safe.bind (readExactBounded_safe.pre fun _ _ h => h.1.1.1) fun result => ?_
  refine Safe.bind (I := fun _ => .top) (inspectOpenFile_safe fun _ _ _ _ => trivial)
    fun after => ?_
  refine Safe.bind Safe.require fun _ => ?_
  refine Safe.bind (onlyIf_safe (syncOpen_safe fun _ _ h => h.1.1.1.1.1.1.1)) fun _ => Safe.pure ?_
  rintro s - ⟨⟨⟨⟨⟨⟨-, hlength⟩, -⟩, hbegun, hle⟩, -⟩, -⟩, -⟩
  -- a beginning that is as long as the whole
  exact hbegun.eq_of_length (Nat.le_antisymm hbegun.length_le (hlength ▸ hle))

/-- What `_read_file` finds under a final name is published there; and where it
finds nothing, `R` holds, which is known where the name is not there. -/
theorem readFile_safe {missingOk : Bool} {expected : Option Nat} {maximum : Nat} {sync : Bool}
    (h : ∀ s, Kept jobId artifactId given s → P.holds s → s.final kind = none → R.holds s) :
    Safe (growth jobId artifactId given)
      (fun result => (Growth.Fact.when result.isSome
        (Published jobId artifactId given kind (result.getD []))).and (.when (result = none) R))
      (readFile (.final kind) missingOk expected maximum sync) P := by
  let named : Nat → Bytes → (growth jobId artifactId given).Fact := fun n content =>
    (Fixed jobId artifactId given n content).and
      (Published jobId artifactId given kind content)
  let opened : Option Nat → (growth jobId artifactId given).Fact := fun found =>
    ⟨fun s => ∀ n, found = some n → ∃ content, (named n content).holds s,
      fun hg h n hn => (h n hn).imp fun content hc => (named n content).up hg hc⟩
  refine Safe.bind (I := fun found => (opened found).and (.when (found = none) R))
    (translate_safe (look_safe ?_)) fun found => ?_
  · rintro _ s found hs hP hlookup
    cases hlookup
    refine ⟨fun n hn => ?_, h s hs hP⟩
    have hfinal : s.final kind = some n := hn
    exact ⟨_, ⟨hs.used kind n hfinal, rfl, (hs.whole kind n hfinal).1⟩, n, hfinal,
      hs.used kind n hfinal, rfl⟩
  · cases found with
    | none =>
        refine Safe.bind Safe.require fun _ => Safe.pure ?_
        exact fun _ _ h => ⟨(fun hne => by cases hne), fun _ => h.1.2.2 rfl⟩
    | some n =>
        refine Safe.choose (R := named n) (fun s _ h => h.2.1 n rfl) fun content => ?_
        refine Safe.bind (readOpen_safe.pre fun _ _ h => h.1) fun result => Safe.of_const ?_
        rintro rfl
        refine Safe.bind closeFd_safe fun _ => Safe.pure ?_
        exact fun _ _ h => ⟨fun _ => h.1.2, (fun hne => by cases hne)⟩

/-! ### Publishing -/

theorem osWrite_safe {written : Nat} {chunk : Bytes} (hchunk : chunk <+: content.drop written) :
    Safe (growth jobId artifactId given)
      (fun amount => Reached jobId artifactId given n (written + amount))
      (osWrite n written chunk) ((MeantFor jobId artifactId given n content).and
        (Reached jobId artifactId given n written)) := by
  apply Safe.call
  rintro outcome s hs ⟨⟨hn, hmeant⟩, -, hreached⟩
  have hwrite : ∀ part, part <+: chunk → Grows s (s.write n written part) ∧
      Kept jobId artifactId given (s.write n written part) ∧
        written + part.length ≤ ((s.write n written part).files n).data.length := by
    intro part hpart
    have hpart' : part <+: (s.files n).meant.drop written := by
      rw [hmeant]
      exact hpart.trans hchunk
    obtain ⟨hg, hk, hlength⟩ := write_grows hs hn hreached hpart'
    refine ⟨hg, hk, ?_⟩
    rw [hlength]
    exact Nat.le_max_right _ _
  obtain ⟨hg, hk, hlength⟩ := hwrite chunk List.prefix_rfl
  cases outcome with
  | fails => exact ⟨Grows.refl s, hs, fun _ ha => by cases ha⟩
  | failsAfter => exact ⟨hg, hk, fun _ ha => by cases ha⟩
  | shortWrite m =>
      obtain ⟨hg, hk, hlength⟩ := hwrite (chunk.take m) (List.take_prefix _ _)
      refine ⟨hg, hk, fun a ha => ?_⟩
      cases ha
      exact ⟨hn.trans_le hg.next, hlength⟩
  | _ =>
      refine ⟨hg, hk, fun a ha => ?_⟩
      cases ha
      exact ⟨hn.trans_le hg.next, hlength⟩

theorem writeAll_safe {turns written : Nat} : Safe (growth jobId artifactId given)
    (fun _ => .top) (writeAll n content turns written)
    ((MeantFor jobId artifactId given n content).and
      (Reached jobId artifactId given n written)) := by
  induction turns generalizing written with
  | zero => exact Safe.pure fun _ _ _ => trivial
  | succ turns ih =>
      refine Safe.ite (fun _ => Safe.pure fun _ _ _ => trivial) fun _ => ?_
      refine Safe.bind (translate_safe (osWrite_safe (List.take_prefix _ _))) fun amount => ?_
      refine Safe.bind Safe.require fun _ => ih.pre ?_
      exact fun _ _ h => ⟨h.1.1.1, h.1.2⟩

theorem openTemp_safe : Safe (growth jobId artifactId given)
    (fun n => MeantFor jobId artifactId given n content) (openTemp kind content)
    (Deep jobId artifactId given levels.length) := by
  refine Safe.bind (translate_safe bare_safe) fun _ => ?_
  refine Safe.bind (I := fun n => MeantFor jobId artifactId given n content)
    (translate_safe (Safe.call ?_)) fun n => ?_
  · rintro outcome s hs ⟨hdeep, -⟩
    obtain ⟨hg, hk⟩ := created_grows hs hdeep kind content
    have hmeant : s.next < (created kind content s).next ∧
        ((created kind content s).files s.next).meant = content := by
      refine ⟨Nat.lt_succ_self _, ?_⟩
      show (Function.update s.files s.next ⟨kind, content, [], [], s.clock⟩ s.next).meant = content
      rw [Function.update_self]
    cases outcome with
    | fails => exact ⟨Grows.refl s, hs, fun _ ha => by cases ha⟩
    | failsAfter => exact ⟨hg, hk, fun _ ha => by cases ha⟩
    | _ =>
        refine ⟨hg, hk, fun a ha => ?_⟩
        cases ha
        exact hmeant
  · refine Safe.bind (I := fun _ => .top) (inspectOpenFile_safe fun _ _ _ _ => trivial)
      fun _ => Safe.pure ?_
    exact fun _ _ h => h.1.2

theorem unlink_safe : Safe (growth jobId artifactId given) (fun _ => .top)
    (mutate (unlink kind n)) P := by
  apply mutate_safe
  intro s t hs _ ht
  obtain ⟨hg, hk⟩ := unlink_grows hs ht
  exact ⟨hg, hk, trivial⟩

theorem osStat_safe {name : ArtifactName} :
    Safe (growth jobId artifactId given) (fun _ => .top) (osStat name) P :=
  look_safe fun _ _ _ _ _ _ => trivial

theorem cleaning_safe {m : ArtifactProgram α}
    (h : Safe (growth jobId artifactId given) Q m P) :
    Safe (growth jobId artifactId given) Q (cleaning kind n m) P := by
  refine Safe.tryCatch h fun _ => Safe.bind (I := fun _ => .top) ?_ fun _ => Safe.throw
  refine Safe.tryCatch ?_ fun _ => Safe.pure fun _ _ _ => trivial
  refine Safe.bind (I := fun _ => .top) (look_safe fun _ _ _ _ _ _ => trivial) fun opened => ?_
  refine Safe.bind osStat_safe fun named => ?_
  refine Safe.ite (fun _ => ?_) fun _ => Safe.pure fun _ _ _ => trivial
  refine Safe.bind unlink_safe fun _ => mutate_safe ?_
  rintro s t hs - ht
  cases ht
  obtain ⟨hg, hk⟩ := syncEntries_grows hs
  exact ⟨hg, hk, trivial⟩

theorem unlinkOwned_safe {links : Nat} : Safe (growth jobId artifactId given)
    (fun _ => .top) (unlinkOwned kind n links) P := by
  refine Safe.bind (I := fun _ => .top) (Safe.tryCatch ?_ fun e => ?_) fun stats => ?_
  · refine Safe.bind (I := fun _ => .top) ?_ fun _ => Safe.pure fun _ _ _ => trivial
    refine Safe.bind (I := fun _ => .top) (look_safe fun _ _ _ _ _ _ => trivial) fun opened => ?_
    exact Safe.bind osStat_safe fun named => Safe.pure fun _ _ _ => trivial
  · exact Safe.ite (fun _ => Safe.pure fun _ _ _ => trivial) fun _ => Safe.throw
  · cases stats with
    | none => exact Safe.pure fun _ _ _ => trivial
    | some stats => exact Safe.bind Safe.require fun _ => translate_safe unlink_safe

/-- A claim that succeeds publishes the content. -/
theorem claimTemp_safe : Safe (growth jobId artifactId given)
    (fun linked => .when (linked = true) (Published jobId artifactId given kind content))
    (claimTemp kind n) (((Fixed jobId artifactId given n content).and
      (SyncedFile jobId artifactId given n)).and
        (Publishable jobId artifactId given kind content)) := by
  refine translate_safe (catching_safe ?_ fun _ _ _ h => by cases h)
  refine Safe.bind (mutate_safe ?_) fun _ => Safe.pure fun _ _ h _ => h.2
  rintro s t hs ⟨⟨⟨hn, hmeant, hwhole⟩, -, hsynced⟩, hsized, hmetadata⟩ ht
  obtain ⟨hg, hk, hfinal⟩ := link_grows hs hwhole hsynced (hmeant ▸ hsized) (hmeant ▸ hmetadata) ht
  exact ⟨hg, hk, n, hfinal, hn.trans_le hg.next, (hg.files n hn).meant.trans hmeant⟩

theorem writeTemp_safe : Safe (growth jobId artifactId given)
    (fun linked => .when (linked = true) (Published jobId artifactId given kind content))
    (writeTemp kind n content) ((MeantFor jobId artifactId given n content).and
      (Publishable jobId artifactId given kind content)) := by
  refine Safe.bind (writeAll_safe.pre ?_) fun _ => ?_
  · exact fun _ _ h => ⟨h.1, h.1.1, Nat.zero_le _⟩
  -- the length says that the file is whole
  refine Safe.bind (I := fun _ => Fixed jobId artifactId given n content)
    (inspectOpenFile_safe ?_) fun _ => ?_
  · rintro s hs ⟨⟨⟨hn, hmeant⟩, -⟩, -⟩ hlength
    refine ⟨hn, hmeant, (hs.files n hn).begun.eq_of_length ?_⟩
    rw [hlength, hmeant]
  refine Safe.bind (I := fun _ => SyncedFile jobId artifactId given n)
    (fsyncFile_safe (fun _ _ h => h.2.1) ?_) fun _ => ?_
  · rintro s - ⟨-, hn, -, hwhole⟩
    refine ⟨hn, ?_⟩
    rw [syncFile_files, if_pos rfl]
    exact hwhole
  refine Safe.bind (I := fun _ => .top) (inspectOpenFile_safe fun _ _ _ _ => trivial) fun _ => ?_
  refine claimTemp_safe.pre ?_
  rintro s - ⟨⟨⟨⟨⟨-, hpublishable⟩, -⟩, hfixed⟩, hsynced⟩, -⟩
  exact ⟨⟨hfixed, hsynced⟩, hpublishable⟩

/-- The content is published, and its name is on the disk. -/
def Stored (jobId : JobId) (artifactId : ArtifactId)
    (given : GeneratedArtifact hashBytes → Prop)
    (kind : ArtifactKind) (content : Bytes) : (growth jobId artifactId given).Fact :=
  (Published jobId artifactId given kind content).and (SyncedName jobId artifactId given kind)

theorem settleTemp_safe {linked : Bool} : Safe (growth jobId artifactId given)
    (fun _ => Stored jobId artifactId given kind content) (settleTemp kind n content linked)
    (.when (linked = true) (Published jobId artifactId given kind content)) := by
  refine Safe.ite (fun hlinked => ?_) fun _ => cleaning_safe ?_
  · refine Safe.pre (R := Published jobId artifactId given kind content) ?_
      fun _ _ h => h hlinked
    refine Safe.bind (I := fun _ => .top) (inspectOpenFile_safe fun _ _ _ _ => trivial) fun _ => ?_
    refine Safe.bind unlinkOwned_safe fun _ => ?_
    refine Safe.bind (fsyncEntries_published.pre fun _ _ h => h.1.1) fun _ => ?_
    refine Safe.bind (I := fun _ => .top) (inspectOpenFile_safe fun _ _ _ _ => trivial) fun _ => ?_
    exact Safe.pure fun _ _ h => ⟨h.1.1.1.1, h.1.2⟩
  · refine Safe.bind (readFile_safe (R := .top) fun _ _ _ _ => trivial) fun current => ?_
    refine Safe.bind Safe.require fun _ => Safe.of_const fun hcurrent => ?_
    obtain rfl : current = some content := of_decide_eq_true hcurrent
    refine Safe.bind unlinkOwned_safe fun _ => ?_
    refine fsyncEntries_published.conseq (fun _ _ h => h.1.2.1 rfl) ?_
    exact fun _ _ _ h hsynced => ⟨h.1.2.1 rfl, hsynced⟩

/-- What `_atomic_publish` publishes is stored. -/
theorem atomicPublish_safe : Safe (growth jobId artifactId given)
    (fun _ => Stored jobId artifactId given kind content) (atomicPublish kind content)
    ((Deep jobId artifactId given levels.length).and
      (Publishable jobId artifactId given kind content)) := by
  refine Safe.bind (openTemp_safe.pre fun _ _ h => h.1) fun n => ?_
  refine Safe.bind (cleaning_safe (writeTemp_safe.pre fun _ _ h => ⟨h.2, h.1.2⟩)) fun linked => ?_
  refine Safe.bind (settleTemp_safe.pre fun _ _ h => h.2) fun _ => ?_
  exact closeFd_safe.conseq (fun _ _ h => h) fun _ _ _ h _ => h.2

end Steps

end Growth

end Artifacts

end SpecStyle
