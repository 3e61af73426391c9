/-
SpecStyle/Workflow/GenesisStates.lean

The directory of a job that is being created.

A first snapshot is small (`length_genesis`), so its commit goes through in an
empty directory.  Wherever such a commit raises or stops, the directory is sound
and shows no job or the new one (`Creating`), and the same snapshot is accepted
over what is shown there (`validateSnapshotUpdate_begun`, `Creating.commit_runs`).
-/
import SpecStyle.Workflow.CommitSound
import SpecStyle.Workflow.JobStoreCoherence

namespace SpecStyle

open PyLib

variable {hash : Bytes → Sha256} {d : Dir} {jobId : JobId}

/-! ### The size of a first snapshot -/

section Size

theorem length_utf8Char (c : CodePoint) : (utf8Char c).length ≤ 4 := by
  unfold utf8Char
  simp only
  split_ifs <;> simp

theorem length_utf8 (s : Text) : (s.flatMap utf8Char).length ≤ 4 * s.length := by
  induction s with
  | nil => exact Nat.le_refl _
  | cons c s ih =>
    have hc := length_utf8Char c
    rw [List.flatMap_cons, List.length_append, List.length_cons]
    omega

theorem length_printProfiles (ps : List OutputProfile) :
    (Json.printItems false (Json.sortItems ((ps.map OutputProfile.value).map .str))).length ≤
      31 * ps.length := by
  induction ps with
  | nil => exact Nat.le_refl _
  | cons p ps ih =>
    have hp : (Json.printStr false p.value).length ≤ 30 := by cases p <;> decide
    simp only [List.map_cons, Json.sortItems, Json.sortKeys, Json.printItems, Json.print,
      List.length_cons, List.length_append]
    omega

theorem length_profiles (p : CohortProfiles) :
    (Json.print false (Json.sortKeys (profilesToPrimitive p))).length ≤ 100 := by
  have hcount : p.value.length ≤ 3 := by
    have hall : p.value ⊆ OutputProfile.all := fun q _ => by cases q <;> decide
    exact (p.nodup.subperm hall).length_le
  unfold profilesToPrimitive CohortProfiles.texts
  generalize p.value = ps at hcount
  have hitems := length_printProfiles ps
  rcases ps with - | ⟨q, qs⟩
  · decide
  · simp only [List.map_cons, Json.sortKeys, Json.sortItems, Json.print,
      Json.printItems, List.length_cons, List.length_append, List.length_nil] at hcount hitems ⊢
    omega

theorem Timestamp.length_eq (t : Timestamp) : t.value.length = 24 := by
  have hvalid := t.valid
  unfold isTimestamp at hvalid
  rw [Bool.and_eq_true, beq_iff_eq] at hvalid
  exact hvalid.1

theorem length_sha (h : Sha256) : (Json.printStr false h.value).length = 66 := by
  have hvalid := validHash_value h
  unfold validHash at hvalid
  rw [Bool.and_eq_true, beq_iff_eq] at hvalid
  rw [length_printStr_hex false hvalid.2, hvalid.1]

theorem length_job (job : Job) (hbudget : job.budget.maxAttemptsPerItem < 10 ^ 4300) :
    (Json.print false (Json.sortKeys (jobToPrimitive job))).length ≤ 8000 := by
  have hbudget : (Json.print false (Json.sortKeys (budgetToPrimitive job.budget))).length ≤
      4400 := by
    have hint := length_intText (k := 4300) (by decide)
      (le_trans (by decide) job.budget.valid) hbudget
    have hdumps := Json.length_dumps_obj false
      (List.cons_ne_nil (py "max_attempts_per_item", .int job.budget.maxAttemptsPerItem) [])
    have hkey : (Json.printStr false (py "max_attempts_per_item")).length = 23 := by decide
    simp only [Json.dumps, List.map_cons, List.map_nil, List.sum_cons, List.sum_nil,
      Json.fieldLength, Json.sortKeys, Json.print, hkey] at hdumps
    unfold budgetToPrimitive
    simp only [Json.sortKeys]
    omega
  have hdumps := @Json.length_dumps_obj false [
    (py "job_id", .str job.jobId.value),
    (py "compiled_spec_hash", .str job.compiledSpecHash.value),
    (py "cohort_profiles", profilesToPrimitive job.cohortProfiles),
    (py "budget", budgetToPrimitive job.budget),
    (py "status", .str job.status.value),
    (py "created_at", .str job.createdAt.value),
    (py "updated_at", .str job.updatedAt.value)] (List.cons_ne_nil _ _)
  have hid := (Json.length_printStr false job.jobId.value).trans
    (Nat.add_le_add_right (Nat.mul_le_mul_left 12 job.jobId.length_le) 2)
  have hcreated := Json.length_printStr false job.createdAt.value
  have hupdated := Json.length_printStr false job.updatedAt.value
  rw [Timestamp.length_eq] at hcreated hupdated
  have hprofiles := length_profiles job.cohortProfiles
  have hstatus : (Json.printStr false job.status.value).length ≤ 30 := by
    cases job.status <;> decide
  have hkey : ∀ k ∈ jobKeys, (Json.printStr false k).length ≤ 20 := by decide
  have hkey1 := hkey (py "job_id") (by decide)
  have hkey2 := hkey (py "compiled_spec_hash") (by decide)
  have hkey3 := hkey (py "cohort_profiles") (by decide)
  have hkey4 := hkey (py "budget") (by decide)
  have hkey5 := hkey (py "status") (by decide)
  have hkey6 := hkey (py "created_at") (by decide)
  have hkey7 := hkey (py "updated_at") (by decide)
  have hprint : ∀ s : Text, Json.print false (Json.sortKeys (.str s)) = Json.printStr false s :=
    fun _ => rfl
  change (Json.dumps false (.obj _)).length ≤ _
  rw [hdumps]
  simp only [List.map_cons, List.map_nil, List.sum_cons, List.sum_nil, Json.fieldLength, hprint,
    length_sha]
  omega

theorem length_snapshot {s : JobSnapshot} (hlast : s.lastSequence = 0) (hattempts : s.attemptIds = [])
    (hbundles : s.bundleNames = []) (hbudget : s.job.budget.maxAttemptsPerItem < 10 ^ 4300) :
    (Json.dumps false (snapshotToPrimitive s)).length ≤ 9000 := by
  have hjob := length_job s.job hbudget
  have hdumps := @Json.length_dumps_obj false [
    (py "schema_version", .str snapshotVersion),
    (py "job", jobToPrimitive s.job),
    (py "last_sequence", .int s.lastSequence),
    (py "attempt_ids", .arr (s.attemptIds.map fun a => .str a.value)),
    (py "bundle_names", .arr (s.bundleNames.map fun b => .str b.value))] (List.cons_ne_nil _ _)
  have hkey : ∀ k ∈ snapshotKeys, (Json.printStr false k).length ≤ 20 := by decide
  have hkey1 := hkey (py "schema_version") (by decide)
  have hkey2 := hkey (py "job") (by decide)
  have hkey3 := hkey (py "last_sequence") (by decide)
  have hkey4 := hkey (py "attempt_ids") (by decide)
  have hkey5 := hkey (py "bundle_names") (by decide)
  have hversion : (Json.print false (Json.sortKeys (.str snapshotVersion))).length = 32 := by
    decide
  have hzero : (Json.print false (Json.sortKeys (.int 0))).length = 1 := by decide
  have hempty : (Json.print false (Json.sortKeys (.arr []))).length = 2 := by decide
  clear hbudget
  change (Json.dumps false (.obj _)).length ≤ _
  rw [hdumps]
  simp only [hlast, hattempts, hbundles, List.map_cons, List.map_nil, List.sum_cons,
    List.sum_nil, Json.fieldLength, hversion, hzero, hempty]
  omega

/-- A first snapshot fits into its file. -/
theorem length_genesis {job : Job} {data : Bytes}
    (hbudget : job.budget.maxAttemptsPerItem < 10 ^ 4300)
    (h : encodeSnapshot (canonicalGenesis job) = .ok data) :
    0 < data.length ∧ data.length ≤ maxSnapshot := by
  have hv := exact_snapshot (canonicalGenesis job)
  have hne : data ≠ [] := by
    rintro rfl
    obtain ⟨data', hd, hdec⟩ := decodeSnapshot_encodeSnapshot (canonicalGenesis job)
    rw [h] at hd
    cases hd
    cases hdec
  refine ⟨List.length_pos_iff.mpr hne, ?_⟩
  unfold encodeSnapshot at h
  rw [canonicalJson_ok hv (surrogates_snapshot _)] at h
  cases h
  have hsize := @length_snapshot (canonicalGenesis job) rfl rfl rfl hbudget
  have hbytes := length_utf8 (Json.dumps false (snapshotToPrimitive (canonicalGenesis job)))
  unfold maxSnapshot
  omega

end Size

/-! ### The directory of a job that is being created -/

/-- What a directory shows along a first commit: no pair, or the first one,
under its marker or without one yet. -/
structure Creating (hash : Bytes → Sha256) (snapshot : Bytes) (d : Dir) (s : State) : Prop where
  read : readDir hash d = .ok s
  events : s.events = none
  generation : s.generation ≠ some maxGeneration
  snapshot : s.snapshot = none ∨ s.snapshot = some snapshot

section Creating

variable {snapshot : Bytes} {s expected : State} {job : Job} {equivalent : Bytes → Bytes → Bool}

/-- Where no pair is shown, the state tells whether there are names. -/
theorem state_of_absent (hs : readDir hash d = .ok s) (ha : s.snapshot = none) :
    s = ⟨none, none, none, none, none, none, d.names ≠ ⟨[], false⟩⟩ := by
  obtain ⟨hf, -, -⟩ := finals_of_absent hs ha
  rw [readDir_of_absent (sound_of_readDir hs) hf] at hs
  exact (Except.ok.inj hs).symm

theorem creating_of_absent (hd : d.sound = true) (hf : d.finals = ⟨none, none, none⟩) :
    ∃ s, Creating hash snapshot d s := by
  refine ⟨_, readDir_of_absent hd hf, rfl, ?_, .inl rfl⟩
  intro hg
  cases hg

theorem Shows.creating {generation : Int} (h : Shows hash d generation snapshot none s)
    (hg : generation ≠ maxGeneration) : Creating hash snapshot d s where
  read := h.read
  events := h.events
  generation := by
    rw [h.generation]
    exact fun heq => hg (Option.some.inj heq)
  snapshot := .inr h.snapshot

theorem creating_of_beginning (hd : d.sound = true) (hf : Beginning hash snapshot d.finals) :
    ∃ s, Creating hash snapshot d s := by
  rcases hf with hf | hf | hf
  · exact creating_of_absent hd hf
  · obtain ⟨s, hs, hsn, hev, hg, -⟩ := @readDir_of_legacy hash _ _ _ hd hf
    refine ⟨s, hs, hev, ?_, .inr hsn⟩
    rw [hg]
    exact fun h => by cases h
  · obtain ⟨s, hs⟩ := readDir_of_clean (le_refl 0) (by decide) hd hf
    exact ⟨s, hs.creating (by decide)⟩

/-- **A first commit** goes through such directories only, wherever it raises or
stops. -/
theorem commit_creating (hs : readDir hash d = .ok s) (ha : s.snapshot = none) :
    Triple (DirIs d) (commit hash expected snapshot none equivalent)
      (fun _ w => ∃ s, Creating hash snapshot w.dir s)
      fun _ w => ∃ s, Creating hash snapshot w.dir s := by
  obtain ⟨hf, -, -⟩ := finals_of_absent hs ha
  have hd := sound_of_readDir hs
  have hkeep : ∀ (e : Exn) (w : World), w.dir = d → ∃ s, Creating hash snapshot w.dir s := by
    rintro _ w rfl
    exact creating_of_absent hd hf
  unfold commit
  refine require_bind (fun _ => read_views.bind_triple (fun current hc => ?_) hkeep) hkeep
  obtain rfl : current = s := Except.ok.inj (hc.symm.trans hs)
  refine require_bind (fun _ => ?_) hkeep
  refine Triple.ite (fun _ => require_bind (fun _ => ?_) hkeep) fun h => absurd ?_ h
  · have hsound := (@genesis_keepsSound hash snapshot equivalent).conseq
      (fun w (hw : DirIs d w) => isSound_of_dir hd hw) (fun _ _ h => h) fun _ _ h => h
    refine ((genesis_triple hf).and hsound).conseq (fun _ h => h) ?_ ?_
    · exact fun t w h => ⟨t, h.1.creating (by decide)⟩
    · exact fun _ w h => creating_of_beginning h.2 h.1
  · rw [State.absent, ha]
    rfl

/-- The first snapshot is committed over whatever an earlier attempt has left. -/
theorem Creating.commit_runs (h : Creating hash snapshot d s) (hsame : sameState s expected = true)
    (h0 : 0 < snapshot.length) (h1 : snapshot.length ≤ maxSnapshot) :
    ∃ t d', Runs d (commit hash expected snapshot none equivalent) t d' ∧
      Shows hash d' s.nextGeneration snapshot none t :=
  SpecStyle.commit_runs h.read hsame (validTargets_iff.mpr ⟨h0, h1, fun _ he => by cases he⟩)
    h.generation (fun _ => h.events) (fun _ => rfl) equivalent

/-- The journal of a job without events. -/
def Journal.begun (job : Job) : Journal :=
  ⟨canonicalGenesis job, rfl, [], (canonicalGenesis job).state, [], (canonicalGenesis job).state,
    rfl, rfl⟩

theorem persisted_begun (hdata : encodeSnapshot (canonicalGenesis job) = .ok snapshot)
    (hs : s.snapshot = some snapshot) (he : s.events = none) :
    Persisted job.jobId s (Journal.begun job) where
  snapshot := by
    obtain ⟨data, hd, hdec⟩ := decodeSnapshot_encodeSnapshot (canonicalGenesis job)
    rw [hdata] at hd
    cases hd
    exact ⟨snapshot, hs, hdec⟩
  events := by
    unfold State.eventBytes
    rw [he]
    rfl
  job := rfl

/-- What is decoded from such a directory: nothing, or the new job. -/
theorem Creating.decoded (h : Creating hash snapshot d s)
    (hdata : encodeSnapshot (canonicalGenesis job) = .ok snapshot) :
    (s.snapshot = none ∧ decodePersisted job.jobId s = .ok (undecoded s)) ∨
      s.snapshot = some snapshot ∧
        decodePersisted job.jobId s = .ok ((Journal.begun job).decoded s) := by
  rcases h.snapshot with hs | hs
  · exact .inl ⟨hs, decodePersisted_absent hs⟩
  · exact .inr ⟨hs, decodePersisted_journal (persisted_begun hdata hs h.events)⟩

/-- **The first snapshot is accepted again.** -/
theorem validateSnapshotUpdate_begun {D : DecodedState} (hevents : D.events = [])
    (hsnapshot : ∀ old ∈ D.snapshot, old = canonicalGenesis job) :
    validateSnapshotUpdate job.jobId (canonicalGenesis job) D = .ok () := by
  have hv : validatedSnapshot job.jobId (canonicalGenesis job) [] =
      .ok (canonicalGenesis job).state :=
    validatedSnapshot_iff.mpr ⟨Journal.begun job, rfl, rfl, rfl, rfl⟩
  unfold validateSnapshotUpdate
  rw [hevents, hv]
  rcases hs : D.snapshot with - | old
  · exact if_neg (not_not.mpr rfl)
  · obtain rfl := hsnapshot old hs
    refine if_neg (not_or.mpr ⟨not_not.mpr rfl, not_or.mpr ⟨lt_irrefl _, fun h => h.2 rfl⟩⟩)

/-- The directory holds a job that decodes, or nothing but swap files. -/
def AtRest (hash : Bytes → Sha256) (jobId : JobId) (d : Dir) : Prop :=
  ∃ s D, readDir hash d = .ok s ∧ decodePersisted jobId s = .ok D ∧
    (D.state.isSome || s.slotOnly) = true

/-- **A job that is being created is at rest** as soon as there is a file. -/
theorem Creating.atRest (h : Creating hash snapshot d s)
    (hdata : encodeSnapshot (canonicalGenesis job) = .ok snapshot)
    (hnames : d.names ≠ ⟨[], false⟩) : AtRest hash job.jobId d := by
  rcases h.decoded hdata with ⟨hs, hdec⟩ | ⟨hs, hdec⟩
  · refine ⟨s, _, h.read, hdec, ?_⟩
    rw [state_of_absent h.read hs]
    exact decide_eq_true hnames
  · exact ⟨s, _, h.read, hdec, rfl⟩

end Creating

end SpecStyle
