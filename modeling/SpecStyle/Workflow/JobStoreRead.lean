/-
SpecStyle/Workflow/JobStoreRead.lean

What `read` finds in a directory.

`readDir` is the answer without the calls: a directory whose names are known
and whose files are trusted and within their limits shows the state of its
three final files, and any other is corrupt.  `read` is a view of it
(`read_views`): faults apart it answers `readDir`, and a fault can only make
it raise.  Only the bytes of the final files decide what is shown
(`readDir_ok`), and a marker is read back as it was written
(`parseMarker_markerBytes`).
-/
import SpecStyle.Lib.JsonRoundTrip
import SpecStyle.Workflow.JobStoreTransaction

namespace SpecStyle

open PyLib

variable {hash : Bytes → Sha256} {d : Dir}

/-! ### Markers -/

/-- The fields of a marker. -/
def markerFields (hash : Bytes → Sha256) (phase : Phase) (generation : Int) (snapshot : Bytes)
    (events : Option Bytes) : List (Text × Json) := [
  (py "version", .int 1),
  (py "phase", .str phase.value),
  (py "generation", .int generation),
  (py "snapshot_sha256", .str (hash snapshot).value),
  (py "events_sha256", hashValue hash events)]

theorem exact_markerFields (phase : Phase) (generation : Int) (snapshot : Bytes)
    (events : Option Bytes) :
    Json.Exact true (.obj (markerFields hash phase generation snapshot events)) := by
  have hp : hasSurrogate phase.value = false := by cases phase <;> decide
  have he : Json.Exact true (hashValue hash events) := by
    cases events
    · trivial
    · exact fun _ => hasSurrogate_sha _
  simp +decide [markerFields, Json.Exact, Json.ExactFields, hp, he]

theorem validHash_value (a : Sha256) : validHash a.value = true := a.valid

theorem markerBytes_eq (phase : Phase) (generation : Int) (snapshot : Bytes)
    (events : Option Bytes) :
    markerBytes hash phase generation snapshot events
      = canonicalMarker (.obj (markerFields hash phase generation snapshot events)) := rfl

theorem markerFields_keys (phase : Phase) (generation : Int) (snapshot : Bytes)
    (events : Option Bytes) :
    (markerFields hash phase generation snapshot events).map Prod.fst = markerKeys := rfl

/-- The fields of a marker describe it, in whatever order they stand. -/
theorem validateMarkerFields_eq {fs : List (Text × Json)} {phase : Phase} {generation : Int}
    {snapshot : Bytes} {events : Option Bytes} (h0 : 0 ≤ generation) (h1 : generation ≤ maxGeneration)
    (hf : ∀ k, Json.field fs k = Json.field (markerFields hash phase generation snapshot events) k) :
    validateMarkerFields fs
      = some ⟨phase, generation, (hash snapshot).value, events.map fun e => (hash e).value⟩ := by
  have hm : memberOf Phase.all Phase.value phase.value = some phase := by cases phase <;> decide
  unfold validateMarkerFields
  simp +decide only [hf, markerFields, Json.field_cons, if_true, if_false, hm, validHash_value,
    h0, h1, and_self]
  cases events with
  | none => rfl
  | some e => simp only [hashValue, validHash_value, if_true, Option.map_some]

/-- The fields of a marker hold no object. -/
theorem sortFields_markerFields (phase : Phase) (generation : Int) (snapshot : Bytes)
    (events : Option Bytes) :
    Json.sortFields (markerFields hash phase generation snapshot events)
      = markerFields hash phase generation snapshot events := by
  cases events <;> rfl

/-- A written marker is read back, if its generation is within bounds. -/
theorem parseMarker_markerBytes (phase : Phase) {generation : Int} (h0 : 0 ≤ generation)
    (h1 : generation ≤ maxGeneration) (snapshot : Bytes) (events : Option Bytes) :
    parseMarker (markerBytes hash phase generation snapshot events)
      = some ⟨phase, generation, (hash snapshot).value, events.map fun e => (hash e).value⟩ := by
  have hex := @exact_markerFields hash phase generation snapshot events
  have hkeys := @markerFields_keys hash phase generation snapshot events
  have hsort := @sortFields_markerFields hash phase generation snapshot events
  have hval := fun fs => @validateMarkerFields_eq hash fs phase generation snapshot events h0 h1
  have hne : markerFields hash phase generation snapshot events ≠ [] := List.cons_ne_nil _ _
  rw [markerBytes_eq]
  generalize markerFields hash phase generation snapshot events = fs at *
  have hload := Json.loadsBytes_dumps hne hex
  have hperm := Json.sortKeys_keys fs
  have hdump := Json.dumps_sortKeys true (.obj fs)
  have hfield : ∀ k, Json.field (Json.orderFields fs) k = Json.field fs k :=
    Json.field_orderFields hex.1
  rw [Json.sortKeys] at hdump
  rw [hsort] at hload hperm hdump
  unfold parseMarker canonicalMarker
  simp only [hload, hdump, hperm.mem_iff, hkeys]
  rw [if_pos ⟨⟨fun _ h => h, fun _ h => h⟩, trivial⟩]
  exact hval _ hfield

/-- What is parsed is within bounds. -/
theorem parseMarker_bounds {data : Bytes} {m : Marker} (h : parseMarker data = some m) :
    0 ≤ m.generation ∧ m.generation ≤ maxGeneration := by
  unfold parseMarker at h
  split at h
  · split at h
    · unfold validateMarkerFields at h
      split at h
      · split at h
        · cases h
        · split at h
          · next hc =>
            split at h
            · cases h
              exact ⟨hc.2.1, hc.2.2.1⟩
            · split at h
              · cases h
                exact ⟨hc.2.1, hc.2.2.1⟩
              · cases h
            · cases h
          · cases h
      · cases h
    · cases h
  · cases h

/-! ### The state a directory shows -/

/-- The record of a final file. -/
def Dir.record (d : Dir) (name : Slot) : Option FileRecord :=
  (d.files name).map fun n => ⟨n.data, n.identity⟩

/-- The file at a name, if there is one, is trusted and within its limits. -/
def Dir.validAt (d : Dir) (name : Slot) : Bool :=
  (d.files name).all fun n => n.valid (limits name).1 (limits name).2

/-- The names are known and their files valid. -/
def Dir.sound (d : Dir) : Bool := !d.foreign && Slot.all.all d.validAt

/-- What `read` answers. -/
def readDir (hash : Bytes → Sha256) (d : Dir) : Except Exn State :=
  if d.sound then
    stateOfRecords hash (d.names ≠ ⟨[], false⟩) (d.record .snapshot) (d.record .events)
      (d.record .marker)
  else .error .corruptStore

theorem Dir.sound_iff : d.sound = true ↔ d.foreign = false ∧ ∀ name, d.validAt name = true := by
  unfold Dir.sound
  simp only [Bool.and_eq_true, Bool.not_eq_true', List.all_eq_true]
  exact and_congr_right fun _ =>
    ⟨fun h name => h name (Slot.mem_all name), fun h name _ => h name⟩

theorem Dir.validAt_some {name : Slot} {n : Node} (hn : d.files name = some n) :
    d.validAt name = n.valid (limits name).1 (limits name).2 := by
  unfold Dir.validAt
  rw [hn]
  rfl

/-- A valid file, or none, is read as its record. -/
theorem readFile_record {name : Slot} (hv : d.validAt name = true) :
    Views d (readFile name (limits name).1 (limits name).2 true) (.ok (d.record name)) := by
  have h := readFile_views (d := d) name (limits name).1 (limits name).2 true
  unfold Dir.record
  rcases hn : d.files name with - | n
  · rw [hn] at h
    exact h
  · rw [Dir.validAt_some hn] at hv
    rw [hn] at h
    simpa only [hv, if_true, Option.map_some] using h

theorem inspectFile_record {name : Slot} (hv : d.validAt name = true) :
    Views d (inspectFile name (limits name).1 (limits name).2 true)
      (.ok ((d.record name).map (·.identity))) := by
  have h := inspectFile_views (d := d) name (limits name).1 (limits name).2 true
  unfold Dir.record
  rcases hn : d.files name with - | n
  · rw [hn] at h
    exact h
  · rw [Dir.validAt_some hn] at hv
    rw [hn] at h
    simpa only [hv, if_true, Option.map_some] using h

theorem inspectAll_views (names : List Slot) (hp : ∀ name ∈ names, (d.files name).isSome) :
    Views d (inspectAll names)
      (if names.all d.validAt then .ok () else .error .corruptStore) := by
  induction names with
  | nil => exact Views.pure ()
  | cons name names ih =>
    obtain ⟨n, hn⟩ := Option.isSome_iff_exists.mp (hp name (by simp))
    have h := inspectFile_views (d := d) name (limits name).1 (limits name).2 false
    rw [hn] at h
    rw [List.all_cons, Dir.validAt_some hn]
    by_cases hv : n.valid (limits name).1 (limits name).2 = true
    · simp only [hv, if_true, Bool.true_and] at h ⊢
      exact h.bind_ok (ih fun x hx => hp x (by simp [hx]))
    · simp only [hv, Bool.false_and, Bool.false_eq_true, if_false] at h ⊢
      exact h.bind_error

theorem names_all_validAt : d.names.known.all d.validAt = Slot.all.all d.validAt := by
  unfold Dir.names
  rw [List.all_filter]
  congr 1
  funext name
  unfold Dir.validAt
  cases d.files name <;> rfl

theorem validateNamespace_views :
    Views d validateNamespace (if d.sound then .ok d.names else .error .corruptStore) := by
  unfold validateNamespace
  refine directoryNames_views.bind_ok ?_
  have hall := inspectAll_views (d := d) d.names.known fun name h => (List.mem_filter.mp h).2
  rw [names_all_validAt] at hall
  unfold Dir.sound
  rcases hf : d.foreign
  · refine (require_views (by simp [Dir.names, hf]) _).bind_ok ?_
    by_cases hv : Slot.all.all d.validAt = true
    · simp only [hv, if_true] at hall
      simp only [Bool.not_false, hv, Bool.and_self, if_true]
      exact hall.bind_ok (Views.pure _)
    · simp only [hv] at hall
      simp only [Bool.not_false, hv, Bool.and_false]
      exact hall.bind_error
  · refine Views.bind_error ?_
    unfold require
    simp only [Dir.names, hf]
    exact Views.throw _

/-- What the bytes of a marker say about the state that is read under it. -/
def MarkerTells (s : State) : Option Bytes → Prop
  | none => s.generation = none
  | some m => ∃ p, parseMarker m = some p ∧ p.phase = .clean ∧
      s.generation = some p.generation ∧ s.snapshot.isSome

/-- The fields of a state come from the records. -/
theorem stateOfRecords_ok {slotOnly : Bool} {snapshot events marker : Option FileRecord}
    {s : State} (h : stateOfRecords hash slotOnly snapshot events marker = .ok s) :
    s.snapshot = snapshot.map (·.data) ∧ s.events = events.map (·.data) ∧
      s.snapshotIdentity = snapshot.map (·.identity) ∧
      s.eventsIdentity = events.map (·.identity) ∧
      s.markerIdentity = marker.map (·.identity) ∧ MarkerTells s (marker.map (·.data)) := by
  unfold stateOfRecords at h
  rcases marker with - | m
  · unfold legacyState at h
    rcases snapshot with - | sn
    · rcases events with - | ev
      · cases h
        exact ⟨rfl, rfl, rfl, rfl, rfl, rfl⟩
      · cases h
    · cases h
      exact ⟨rfl, rfl, rfl, rfl, rfl, rfl⟩
  · rcases snapshot with - | sn
    · cases h
    · simp only at h
      rcases hp : parseMarker m.data with - | p
      · rw [hp] at h
        cases h
      · rw [hp] at h
        simp only at h
        split at h
        · next hc =>
          cases h
          exact ⟨rfl, rfl, rfl, rfl, rfl, p, hp, hc.1, rfl, rfl⟩
        · cases h

theorem stateOfRecords_error {slotOnly : Bool} {snapshot events marker : Option FileRecord}
    {e : Exn} (h : stateOfRecords hash slotOnly snapshot events marker = .error e) :
    e = .corruptStore := by
  unfold stateOfRecords legacyState at h
  split at h
  · split at h
    · split at h
      · cases h; rfl
      · cases h
    · cases h
  · split at h
    · cases h; rfl
    · split at h
      · cases h; rfl
      · split at h
        · cases h
        · cases h; rfl

theorem requireIdentity_views {name : Slot} (hv : d.validAt name = true)
    {expected : Option Identity} (he : expected = (d.record name).map (·.identity)) :
    Views d (requireIdentity name expected) (.ok ()) :=
  (inspectFile_record hv).bind_ok (require_views (by simp [he]) _)

theorem liftExcept_views {α : Type} (r : Except Exn α) : Views d (liftExcept r) r := by
  cases r
  · exact Views.throw _
  · exact Views.pure _

/-- **Reading is a view**: faults apart it answers `readDir`, and a fault can
only make it raise. -/
theorem read_views : Views d (read hash) (readDir hash d) := by
  have hns := validateNamespace_views (d := d)
  unfold read readDir
  by_cases hs : d.sound = true
  · rw [if_pos hs] at hns ⊢
    have hv := (Dir.sound_iff.mp hs).2
    refine hns.bind_ok <| (readFile_record (hv .snapshot)).bind_ok <|
      (readFile_record (hv .events)).bind_ok <| (readFile_record (hv .marker)).bind_ok ?_
    have hl := liftExcept_views (d := d) (stateOfRecords hash (d.names ≠ ⟨[], false⟩)
      (d.record .snapshot) (d.record .events) (d.record .marker))
    rcases hst : stateOfRecords hash (d.names ≠ ⟨[], false⟩) (d.record .snapshot)
      (d.record .events) (d.record .marker) with e | s
    · rw [hst] at hl
      exact hl.bind_error
    · rw [hst] at hl
      obtain ⟨-, -, h1, h2, h3, -⟩ := stateOfRecords_ok hst
      exact hl.bind_ok <| directoryNames_views.bind_ok <| (require_views (by simp) _).bind_ok <|
        (requireIdentity_views (hv _) h1).bind_ok <|
        (requireIdentity_views (hv _) h2).bind_ok <|
        (requireIdentity_views (hv _) h3).bind_ok (Views.pure s)
  · rw [if_neg hs] at hns ⊢
    exact hns.bind_error

/-! ### The bytes that decide -/

/-- The bytes of the final files. -/
structure Finals where
  snapshot : Option Bytes
  events : Option Bytes
  marker : Option Bytes
  deriving DecidableEq

/-- The bytes under a name. -/
def Dir.bytesAt (d : Dir) (name : Slot) : Option Bytes := (d.files name).map (·.data)

def Dir.finals (d : Dir) : Finals := ⟨d.bytesAt .snapshot, d.bytesAt .events, d.bytesAt .marker⟩

theorem Dir.record_data (name : Slot) : (d.record name).map (·.data) = d.bytesAt name := by
  unfold Dir.record Dir.bytesAt
  cases d.files name <;> rfl

/-- A directory is read as corrupt, or not at all. -/
theorem readDir_error {e : Exn} (h : readDir hash d = .error e) : e = .corruptStore := by
  unfold readDir at h
  split at h
  · exact stateOfRecords_error h
  · cases h
    rfl

/-- **What is read comes from the final files**: their bytes, and the
generation of a clean marker. -/
theorem readDir_ok {s : State} (h : readDir hash d = .ok s) :
    s.snapshot = d.finals.snapshot ∧ s.events = d.finals.events ∧
      s.markerIdentity.isSome = d.finals.marker.isSome ∧ MarkerTells s d.finals.marker := by
  unfold readDir at h
  split at h
  swap
  · cases h
  obtain ⟨h1, h2, -, -, h5, h6⟩ := stateOfRecords_ok h
  rw [Dir.record_data] at h1 h2 h6
  refine ⟨h1, h2, ?_, h6⟩
  rw [h5]
  unfold Dir.record Dir.finals Dir.bytesAt
  cases d.files .marker <;> rfl

/-- Under a pending marker nothing is read. -/
theorem readDir_pending {generation : Int} (h0 : 0 ≤ generation) (h1 : generation ≤ maxGeneration)
    {snapshot : Bytes} {events : Option Bytes}
    (hm : d.finals.marker = some (markerBytes hash .pending generation snapshot events)) :
    readDir hash d = .error .corruptStore := by
  rcases h : readDir hash d with e | s
  · rw [readDir_error h]
  · obtain ⟨-, -, -, hc⟩ := readDir_ok h
    rw [hm] at hc
    obtain ⟨p, hp, hphase, -⟩ := hc
    rw [parseMarker_markerBytes _ h0 h1] at hp
    cases hp
    cases hphase

/-- Under a clean marker the generation is the one written. -/
theorem readDir_clean {generation : Int} (h0 : 0 ≤ generation) (h1 : generation ≤ maxGeneration)
    {snapshot : Bytes} {events : Option Bytes} {s : State}
    (hm : d.finals.marker = some (markerBytes hash .clean generation snapshot events))
    (h : readDir hash d = .ok s) : s.generation = some generation := by
  obtain ⟨-, -, -, hc⟩ := readDir_ok h
  rw [hm] at hc
  obtain ⟨p, hp, -, hg, -⟩ := hc
  rw [parseMarker_markerBytes _ h0 h1] at hp
  cases hp
  exact hg

end SpecStyle
