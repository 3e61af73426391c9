/-
SpecStyle/Workflow/CommitAtomicity.lean

Crash atomicity of the marker transaction.

Whatever a commit does, and wherever it raises or the process stops, the
bytes of the three final files are of one of a few kinds (`Committing`,
`Bootstrapping`): the old ones, anything under a pending marker, or the new
pair under its clean marker.  Swap files never matter.  Reading each kind
(`readDir_ok`) gives the theorem: a later `read` finds the directory corrupt,
or the old pair, or the new pair with the next generation (`commit_atomic`).
-/
import SpecStyle.Workflow.JobStoreRead

namespace SpecStyle

open PyLib

variable {hash : Bytes → Sha256} {d d' : Dir} {slot final t : Slot}
variable {α β : Type} {Q : α → World → Prop} {R : Exn → World → Prop}

/-! ### What a rename does -/

theorem Dir.exchange_final (hf : (d.files final).isSome)
    (hs : (d.files slot).isSome) : (d.exchange slot final).files final = d.files slot := by
  obtain ⟨m, hm⟩ := Option.isSome_iff_exists.mp hf
  obtain ⟨n, hn⟩ := Option.isSome_iff_exists.mp hs
  simp [Dir.exchange, hm, hn]

theorem Dir.exchange_other (h1 : t ≠ slot) (h2 : t ≠ final) :
    (d.exchange slot final).files t = d.files t := by
  unfold Dir.exchange
  split
  · rw [Dir.set_other _ _ h2, Dir.set_other _ _ h1]
  · rfl

/-- Exchanging twice changes nothing. -/
theorem Dir.exchange_exchange (hne : slot ≠ final) :
    (d.exchange slot final).exchange slot final = d := by
  rcases hf : d.files final with - | m
  · simp [Dir.exchange, hf]
  · rcases hs : d.files slot with - | n
    · simp [Dir.exchange, hf, hs]
    · have h1 : (d.exchange slot final) = (d.set slot (some m)).set final (some n) := by
        simp [Dir.exchange, hf, hs]
      rw [h1]
      simp only [Dir.exchange, Dir.set_same, Dir.set_other _ _ hne]
      unfold Dir.set
      congr 1
      funext x
      by_cases hx : x = final
      · simp [hx, hf]
      · by_cases hx' : x = slot
        · simp [hx', hne, hs]
        · simp [hx, hx']

theorem Dir.move_final (hf : d.files final = none) (hs : (d.files slot).isSome) :
    (d.move slot final).files final = d.files slot := by
  obtain ⟨n, hn⟩ := Option.isSome_iff_exists.mp hs
  simp [Dir.move, hf, hn]

theorem Dir.move_other (h1 : t ≠ slot) (h2 : t ≠ final) :
    (d.move slot final).files t = d.files t := by
  unfold Dir.move
  split
  · rw [Dir.set_other _ _ h2, Dir.set_other _ _ h1]
  · rfl

/-- Two directories with the same final files have the same bytes there. -/
theorem finals_congr (hs : d'.files .snapshot = d.files .snapshot)
    (he : d'.files .events = d.files .events) (hm : d'.files .marker = d.files .marker) :
    d'.finals = d.finals := by
  unfold Dir.finals Dir.bytesAt
  rw [hs, he, hm]

/-- The swap names. -/
def Slot.isSwap : Slot → Bool
  | .snapshotSwap | .eventsSwap | .markerSwap => true
  | _ => false

/-- A swap file is none of the final ones. -/
theorem finals_set (h : slot.isSwap = true) (o : Option Node) : (d.set slot o).finals = d.finals := by
  refine finals_congr ?_ ?_ ?_ <;> refine Dir.set_other _ _ ?_ <;> rintro rfl <;> cases h

theorem onlyAt_finals (h : slot.isSwap = true) {w : World} (hw : OnlyAt slot d w) :
    w.dir.finals = d.finals := by
  obtain ⟨o, ho⟩ := hw
  rw [ho, finals_set h]

/-- The new directory differs from the old one in two names at most. -/
def OffPair (slot final : Slot) (d d' : Dir) : Prop :=
  ∀ t, t ≠ slot → t ≠ final → d'.files t = d.files t

/-! ### Rules for programs that look and change -/

/-- The final files have these bytes. -/
def FinalsAre (f : Finals) (w : World) : Prop := w.dir.finals = f

theorem Triple.of_finals {f : Finals} {m : Fs α}
    (h : ∀ d, d.finals = f → Triple (DirIs d) m Q R) : Triple (FinalsAre f) m Q R :=
  fun w hw => h w.dir hw w rfl

theorem require_triple {c : Bool} {e : Exn} (hR : ∀ e w, w.dir = d → R e w) :
    Triple (DirIs d) (require c e) (fun _ w => DirIs d w ∧ c = true) R := by
  unfold require
  exact Triple.ite (fun hc => Triple.pure fun _ hw => ⟨hw, hc⟩) fun _ => Triple.throw (hR e)

/-- A condition, and then the rest. -/
theorem require_bind {c : Bool} {e : Exn} {m : Fs α} (hm : c = true → Triple (DirIs d) m Q R)
    (hR : ∀ e w, w.dir = d → R e w) : Triple (DirIs d) (require c e >>= fun _ => m) Q R :=
  (require_triple hR).bind fun _ => Triple.pure_pre hm

theorem doIf_triple {c : Bool} {m : Fs Unit} {Q : Unit → World → Prop}
    (ht : c = true → Triple (DirIs d) m Q R) (hf : c = false → ∀ w, w.dir = d → Q () w) :
    Triple (DirIs d) (doIf c m) Q R := by
  unfold doIf
  exact Triple.ite ht fun hc => Triple.pure (hf (Bool.eq_false_iff.mpr hc))

/-- The program leaves the directory as it is. -/
def Keeps (d : Dir) (m : Fs α) : Prop := Triple (DirIs d) m (fun _ => DirIs d) fun _ => DirIs d

theorem requirePublished_keeps (name : Slot) (expected : Identity) (maximum : Nat) :
    Keeps d (requirePublished name expected maximum) := by
  unfold Keeps requirePublished
  refine (inspectFile_views _ _ _ _).bind_triple (fun current _ => ?_) fun _ _ hw => hw
  rcases current with - | current
  · exact Triple.throw fun _ hw => hw
  · exact (require_triple fun _ _ hw => hw).conseq (fun _ h => h) (fun _ _ h => h.1) fun _ _ h => h

theorem fsyncDirectory_views : Views d fsyncDirectory (.ok ()) :=
  (look_views .storeError).bind_ok (Views.pure _)

/-! ### Exchanging and publishing a file -/

/-- A rollback undoes the exchange, or leaves it. -/
theorem rollbackIfStable_triple (hne : slot ≠ final) (published retired : Identity) :
    Triple (DirIs (d.exchange slot final)) (rollbackIfStable slot final published retired)
      (fun _ w => w.dir = d ∨ w.dir = d.exchange slot final)
      fun _ w => w.dir = d ∨ w.dir = d.exchange slot final := by
  unfold rollbackIfStable
  refine (inspectFile_views _ _ _ _).bind_triple (fun latestFinal _ => ?_) fun _ _ hw => .inr hw
  refine (inspectFile_views _ _ _ _).bind_triple (fun latestSlot _ => ?_) fun _ _ hw => .inr hw
  rcases latestFinal with - | latestFinal
  · exact Triple.pure fun _ hw => .inr hw
  rcases latestSlot with - | latestSlot
  · exact Triple.pure fun _ hw => .inr hw
  refine Triple.ite (fun _ => ?_) fun _ => Triple.pure fun _ hw => .inr hw
  refine (renameExchange_triple slot final).conseq (fun _ hw => hw) ?_ ?_
  · intro _ w hw
    exact .inl (hw.1.trans (Dir.exchange_exchange hne))
  · rintro e w (hw | hw)
    · exact .inr hw
    · exact .inl (hw.trans (Dir.exchange_exchange hne))

/-- The exchange is made, or, where the files were not the expected ones, it is
made, undone or left out. -/
theorem exchangeExpected_triple (hne : slot ≠ final) (candidate : Identity)
    (expected : Option Identity) :
    Triple (DirIs d) (exchangeExpected slot final candidate expected)
      (fun _ w => w.dir = d.exchange slot final ∧ (d.files final).isSome ∧ (d.files slot).isSome)
      fun _ w => w.dir = d ∨ w.dir = d.exchange slot final := by
  unfold exchangeExpected
  rcases expected with - | expected
  · exact Triple.throw fun _ hw => .inl hw
  refine (inspectFile_views _ _ _ _).bind_triple (fun current _ => ?_) fun _ _ hw => .inl hw
  refine require_bind (fun _ => ?_) fun _ _ hw => .inl hw
  refine (renameExchange_triple slot final).bind fun _ => Triple.pure_pre fun hfs => ?_
  -- from here on the directory is the exchanged one, or is exchanged back
  refine (inspectFile_views _ _ _ _).bind_triple (fun published _ => ?_) fun _ _ hw => .inr hw
  refine (inspectFile_views _ _ _ _).bind_triple (fun retired _ => ?_) fun _ _ hw => .inr hw
  rcases published with - | published
  · exact Triple.throw fun _ hw => .inr hw
  rcases retired with - | retired
  · exact Triple.throw fun _ hw => .inr hw
  refine Triple.ite (fun _ => Triple.pure fun _ hw => ⟨hw, hfs⟩) fun _ => ?_
  exact (rollbackIfStable_triple hne _ _).bind fun _ => Triple.throw fun _ hw => hw

/-- A published file holds the data, and no third name is touched. -/
theorem publishFile_triple (hne : slot ≠ final) (data : Bytes) (maximum : Nat)
    (expected : Option Identity) :
    Triple (DirIs d) (publishFile slot final data maximum expected)
      (fun _ w => w.dir.bytesAt final = some data ∧ OffPair slot final d w.dir)
      fun _ w => OffPair slot final d w.dir := by
  have hoff : ∀ (o : Option Node) (w : World), w.dir = d.set slot o → OffPair slot final d w.dir :=
    fun o w hw t h1 _ => by rw [hw, Dir.set_other _ _ h1]
  unfold publishFile
  refine ((writeSlot_triple slot data maximum).conseq (fun _ h => h) (fun _ _ h => h)
    fun _ w ⟨o, ho⟩ => hoff o w ho).bind fun candidate => ?_
  refine Triple.exists_pre fun n => Triple.pure_pre fun hn => ?_
  have hslot : (d.set slot (some n)).files slot = some n := Dir.set_same d slot _
  have hmove : OffPair slot final d ((d.set slot (some n)).move slot final) := fun t h1 h2 => by
    rw [Dir.move_other h1 h2, Dir.set_other _ _ h1]
  have hexch : OffPair slot final d ((d.set slot (some n)).exchange slot final) := fun t h1 h2 => by
    rw [Dir.exchange_other h1 h2, Dir.set_other _ _ h1]
  rcases expected with - | expected
  · refine Triple.bind (I := fun _ w => w.dir = (d.set slot (some n)).move slot final ∧
        (d.set slot (some n)).files final = none) ?_ fun _ => Triple.pure_pre fun hnone => ?_
    · refine Triple.tryCatch ((renameNoreplace_triple slot final).conseq (fun _ h => h)
        (fun _ w h => ⟨h.1, h.2.1⟩) (R := fun _ w => OffPair slot final d w.dir) ?_) ?_
      · rintro e w ⟨hw | hw, -⟩
        · exact hoff _ w hw
        · rw [hw]
          exact hmove
      · intro e
        cases e <;> exact Triple.throw fun _ hw => hw
    · have hpost : ((d.set slot (some n)).move slot final).bytesAt final = some data := by
        unfold Dir.bytesAt
        rw [Dir.move_final hnone (by rw [hslot]; rfl), hslot, Option.map_some, hn]
      refine (requirePublished_keeps final candidate maximum).conseq (fun _ h => h) ?_ ?_
      · intro _ w hw
        rw [show w.dir = _ from hw]
        exact ⟨hpost, hmove⟩
      · intro e w hw
        rw [show w.dir = _ from hw]
        exact hmove
  · refine (exchangeExpected_triple hne candidate (some expected)).conseq (fun _ h => h) ?_ ?_
    · rintro _ w ⟨hw, hf, hs⟩
      rw [hw]
      refine ⟨?_, hexch⟩
      unfold Dir.bytesAt
      rw [Dir.exchange_final hf hs, hslot, Option.map_some, hn]
    · rintro e w (hw | hw)
      · exact hoff _ w hw
      · rw [hw]
        exact hexch

/-! ### The bytes along a commit -/

/-- Under a pending marker, whatever the other files are. -/
def Pending (hash : Bytes → Sha256) (generation : Int) (snapshot : Bytes) (events : Option Bytes)
    (f : Finals) : Prop :=
  f.marker = some (markerBytes hash .pending generation snapshot events)

/-- The new pair under its clean marker. -/
def cleanFinals (hash : Bytes → Sha256) (generation : Int) (snapshot : Bytes)
    (events : Option Bytes) : Finals :=
  ⟨some snapshot, events, some (markerBytes hash .clean generation snapshot events)⟩

/-- The final files in the course of a commit over a clean state. -/
def Committing (hash : Bytes → Sha256) (old : Finals) (generation : Int) (snapshot : Bytes)
    (events : Option Bytes) (f : Finals) : Prop :=
  f = old ∨ Pending hash generation snapshot events f ∨
    f = cleanFinals hash generation snapshot events

/-- The final files while a first marker is published. -/
def Bootstrapping (hash : Bytes → Sha256) (snapshot : Bytes) (events : Option Bytes)
    (f : Finals) : Prop :=
  f = ⟨some snapshot, events, none⟩ ∨ f = cleanFinals hash 0 snapshot events

/-- `read` accepts the directory and shows the pair under the generation. -/
structure Shows (hash : Bytes → Sha256) (d : Dir) (generation : Int) (snapshot : Bytes)
    (events : Option Bytes) (s : State) : Prop where
  read : readDir hash d = .ok s
  snapshot : s.snapshot = some snapshot
  events : s.events = events
  generation : s.generation = some generation

theorem finals_move_marker {n : Node} (hm : d.files .marker = none)
    (hs : d.files .markerSwap = some n) :
    (d.move .markerSwap .marker).finals = { d.finals with marker := some n.data } := by
  unfold Dir.finals Dir.bytesAt
  rw [Dir.move_other (by decide) (by decide), Dir.move_other (by decide) (by decide),
    Dir.move_final hm (by rw [hs]; rfl), hs]
  rfl

theorem finals_exchange_marker {n : Node} (hm : (d.files .marker).isSome)
    (hs : d.files .markerSwap = some n) :
    (d.exchange .markerSwap .marker).finals = { d.finals with marker := some n.data } := by
  unfold Dir.finals Dir.bytesAt
  rw [Dir.exchange_other (by decide) (by decide), Dir.exchange_other (by decide) (by decide),
    Dir.exchange_final hm (by rw [hs]; rfl), hs]
  rfl

theorem finals_move_snapshot {n : Node} (hm : d.files .snapshot = none)
    (hs : d.files .snapshotSwap = some n) :
    (d.move .snapshotSwap .snapshot).finals = { d.finals with snapshot := some n.data } := by
  unfold Dir.finals Dir.bytesAt
  rw [Dir.move_other (t := .events) (by decide) (by decide),
    Dir.move_other (t := .marker) (by decide) (by decide),
    Dir.move_final hm (by rw [hs]; rfl), hs]
  rfl

/-- A read shows what its result says. -/
theorem readDir_shows {generation : Int} {snapshot : Bytes} {events : Option Bytes} {s : State}
    (h0 : 0 ≤ generation) (h1 : generation ≤ maxGeneration)
    (hf : d.finals = cleanFinals hash generation snapshot events)
    (h : readDir hash d = .ok s) : Shows hash d generation snapshot events s := by
  obtain ⟨hs, he, -, -⟩ := readDir_ok h
  rw [hf] at hs he
  exact ⟨h, hs, he, readDir_clean h0 h1 (by rw [hf]; rfl) h⟩

/-! ### Publishing the clean marker -/

section Clean

variable {generation : Int} {snapshot : Bytes} {events : Option Bytes}

/-- What is accepted is what `read` shows. -/
theorem acceptClean_triple :
    Triple (DirIs d) (acceptClean hash generation snapshot events)
      (fun r w => w.dir = d ∧ ∀ s, r = some s → Shows hash d generation snapshot events s)
      fun _ => DirIs d := by
  unfold acceptClean
  refine Triple.bind (I := fun r w => DirIs d w ∧ ∀ s, r = some s → readDir hash d = .ok s) ?_ ?_
  · refine Triple.tryCatch (I := fun _ => DirIs d) ?_ fun e => ?_
    · refine read_views.bind_triple (fun s hs => Triple.pure fun w hw => ⟨hw, ?_⟩) fun _ _ hw => hw
      rintro _ ⟨⟩
      exact hs
    · cases e <;> first
        | exact Triple.throw fun _ hw => hw
        | exact Triple.pure fun _ hw => ⟨hw, fun _ h => by cases h⟩
  · intro r
    refine Triple.pure_pre fun hr => ?_
    rcases r with - | s
    · exact Triple.pure fun _ hw => ⟨hw, fun _ h => by cases h⟩
    · refine Triple.ite (fun hc => Triple.pure fun _ hw => ⟨hw, ?_⟩)
        fun _ => Triple.pure fun _ hw => ⟨hw, fun _ h => by cases h⟩
      rintro _ ⟨⟩
      exact ⟨hr s rfl, hc.2.1, hc.2.2, hc.1⟩

theorem acceptedOr_triple (e : Exn) (r : Option State) :
    Triple (fun w => w.dir = d ∧ ∀ s, r = some s → Shows hash d generation snapshot events s)
      (acceptedOr e r) (fun s w => w.dir = d ∧ Shows hash d generation snapshot events s)
      fun _ => DirIs d := by
  rcases r with - | s
  · exact Triple.throw fun _ hw => hw.1
  · exact Triple.pure fun _ hw => ⟨hw.1, hw.2 s rfl⟩

theorem confirmUncertainClean_triple :
    Triple (DirIs d) (confirmUncertainClean hash generation snapshot events)
      (fun r w => w.dir = d ∧ ∀ s, r = some s → Shows hash d generation snapshot events s)
      fun _ => DirIs d := by
  unfold confirmUncertainClean
  refine (acceptClean_triple.conseq (fun _ h => h) (fun _ _ h => h.1) fun _ _ h => h).bind fun r => ?_
  rcases r with - | s
  · exact Triple.pure fun _ hw => ⟨hw, fun _ h => by cases h⟩
  · exact fsyncDirectory_views.bind_triple (fun _ _ => acceptClean_triple) fun _ _ hw => hw

theorem compensateCleanFsync_triple (cause : Exn) :
    Triple (DirIs d) (compensateCleanFsync hash generation snapshot events cause)
      (fun s w => w.dir = d ∧ Shows hash d generation snapshot events s) fun _ => DirIs d := by
  unfold compensateCleanFsync
  refine Triple.bind (I := fun _ => DirIs d)
    ((acceptClean_triple.bind (acceptedOr_triple cause)).conseq (fun _ h => h) (fun _ _ h => h.1)
      fun _ _ h => h) fun _ => ?_
  exact fsyncDirectory_views.bind_triple
    (fun _ _ => acceptClean_triple.bind (acceptedOr_triple .corruptStore)) fun _ _ hw => hw

theorem inspectExchanged_keeps : Keeps d inspectExchanged := by
  unfold inspectExchanged
  refine Triple.tryCatch (I := fun _ => DirIs d) ?_ fun e => ?_
  · refine (inspectFile_views _ _ _ _).bind_triple (fun _ _ => ?_) fun _ _ hw => hw
    exact (inspectFile_views _ _ _ _).bind_triple (fun _ _ => Triple.pure fun _ hw => hw) fun _ _ hw => hw
  · cases e <;> exact Triple.throw fun _ hw => hw

/-- The markers are exchanged, or nothing is done. -/
theorem exchangeClean_triple (pending candidate : Identity) :
    Triple (DirIs d) (exchangeClean pending candidate)
      (fun _ w => w.dir = d.exchange .markerSwap .marker ∧ (d.files .marker).isSome)
      fun _ w => w.dir = d ∨ w.dir = d.exchange .markerSwap .marker := by
  unfold exchangeClean
  refine (inspectFile_views _ _ _ _).bind_triple (fun current _ => ?_) fun _ _ hw => .inl hw
  refine require_bind (fun _ => ?_) fun _ _ hw => .inl hw
  refine (renameExchange_triple .markerSwap .marker).bind fun _ => Triple.pure_pre fun hfs => ?_
  refine Triple.bind (inspectExchanged_keeps.conseq (fun _ h => h) (fun _ _ h => h)
    fun _ _ h => .inr h) fun p => ?_
  exact (require_triple fun _ _ hw => .inr hw).conseq (fun _ h => h) (fun _ _ h => ⟨h.1, hfs.1⟩)
    fun _ _ h => h

/-- The final files while the clean marker is published. -/
def Confirming (hash : Bytes → Sha256) (generation : Int) (snapshot : Bytes)
    (events : Option Bytes) (f : Finals) : Prop :=
  f = ⟨some snapshot, events, some (markerBytes hash .pending generation snapshot events)⟩ ∨
    f = cleanFinals hash generation snapshot events

/-- A handler that confirms the new state returns what `read` shows. -/
theorem confirm_triple (hd : Confirming hash generation snapshot events d.finals) {m : Fs State}
    (hm : Triple (DirIs d) m (fun s w => w.dir = d ∧ Shows hash d generation snapshot events s)
      fun _ => DirIs d) :
    Triple (DirIs d) (some <$> m)
      (fun r w => Confirming hash generation snapshot events w.dir.finals ∧
        ∀ s, r = some s → Shows hash w.dir generation snapshot events s)
      fun _ w => Confirming hash generation snapshot events w.dir.finals := by
  refine (hm.conseq (fun _ h => h) (fun _ _ h => h) fun _ w (h : w.dir = d) => by rwa [h]).bind
    fun s => Triple.pure fun w hw => ?_
  rw [hw.1]
  refine ⟨hd, ?_⟩
  rintro _ ⟨⟩
  exact hw.2

/-- **Publishing the clean marker**: what is returned is what `read` shows, and
wherever it stops the pending marker or the clean one is in place. -/
theorem publishClean_triple (pending : Identity)
    (hf : d.finals = ⟨some snapshot, events, some (markerBytes hash .pending generation snapshot events)⟩) :
    Triple (DirIs d) (publishClean hash pending generation snapshot events)
      (fun s w => Shows hash w.dir generation snapshot events s)
      fun _ w => Confirming hash generation snapshot events w.dir.finals := by
  unfold publishClean
  refine ((writeSlot_triple .markerSwap _ maxMarker).conseq (fun _ h => h) (fun _ _ h => h)
    fun _ w h => .inl ((onlyAt_finals rfl h).trans hf)).bind fun candidate => ?_
  refine Triple.exists_pre fun n => Triple.pure_pre fun hn => ?_
  have hset : (d.set .markerSwap (some n)).finals = d.finals := finals_set rfl _
  have hslot : (d.set .markerSwap (some n)).files .markerSwap = some n := Dir.set_same ..
  generalize d.set .markerSwap (some n) = d1 at hset hslot
  -- the directories that the exchange can leave
  have hkind : ∀ w : World, w.dir = d1 ∨ w.dir = d1.exchange .markerSwap .marker →
      Confirming hash generation snapshot events w.dir.finals := by
    rintro w (hw | hw)
    · exact .inl (by rw [hw, hset, hf])
    · rcases hm : d1.files .marker with - | m
      · refine .inl ?_
        rw [hw, ← hf, ← hset]
        simp [Dir.exchange, hm]
      · refine .inr ?_
        rw [hw, finals_exchange_marker (by rw [hm]; rfl) hslot, hset, hf, hn]
        rfl
  refine Triple.bind (I := fun r w => Confirming hash generation snapshot events w.dir.finals ∧
      ∀ s, r = some s → Shows hash w.dir generation snapshot events s) ?_ fun early => ?_
  · refine Triple.tryCatch
      (I := fun _ w => Confirming hash generation snapshot events w.dir.finals) ?_ fun e => ?_
    · refine ((exchangeClean_triple pending candidate).conseq (fun _ h => h)
        (fun _ w h => hkind w (.inr h.1)) fun _ w h => hkind w h).bind fun _ => ?_
      refine Triple.of_dirs (K := fun d => Confirming hash generation snapshot events d.finals)
        fun d2 hd2 => ?_
      refine fsyncDirectory_views.bind_triple (fun _ _ => Triple.pure fun w hw => ?_) fun _ w hw => ?_
      · exact ⟨by rw [show w.dir = d2 from hw]; exact hd2, fun _ h => by cases h⟩
      · rw [hw]
        exact hd2
    · refine Triple.of_dirs (K := fun d => Confirming hash generation snapshot events d.finals)
        fun d2 hd2 => ?_
      refine Triple.ite (fun _ => confirm_triple hd2 ?_) fun _ =>
        Triple.ite (fun _ => confirm_triple hd2 ?_) fun _ =>
        Triple.ite (fun _ => confirm_triple hd2 ?_) fun _ => Triple.throw fun w hw => ?_
      · exact confirmUncertainClean_triple.bind (acceptedOr_triple _)
      · exact confirmUncertainClean_triple.bind (acceptedOr_triple _)
      · exact compensateCleanFsync_triple e
      · rw [show w.dir = d2 from hw]
        exact hd2
  · rcases early with - | s
    · refine fun w hw => Triple.of_dirs (Q := fun s w => Shows hash w.dir generation snapshot events s)
        (K := fun d => Confirming hash generation snapshot events d.finals) ?_ w hw.1
      intro d2 hd2
      refine (acceptClean_triple.bind (acceptedOr_triple .corruptStore)).conseq (fun _ h => h) ?_ ?_
      · rintro s w ⟨hw, hs⟩
        rw [hw]
        exact hs
      · intro _ w hw
        rw [show w.dir = d2 from hw]
        exact hd2
    · exact Triple.pure fun w hw => hw.2 s rfl

end Clean

/-! ### Committing over a clean state -/

theorem offPair_snapshot (h : OffPair .snapshotSwap .snapshot d d') :
    d'.finals = { d.finals with snapshot := d'.bytesAt .snapshot } := by
  unfold Dir.finals Dir.bytesAt
  rw [h .events (by decide) (by decide), h .marker (by decide) (by decide)]

theorem offPair_events (h : OffPair .eventsSwap .events d d') :
    d'.finals = { d.finals with events := d'.bytesAt .events } := by
  unfold Dir.finals Dir.bytesAt
  rw [h .snapshot (by decide) (by decide), h .marker (by decide) (by decide)]

/-- Changed files are published one by one, under the marker that is in place. -/
theorem publishChangedState_triple {current : State} {snapshot : Bytes} {events : Option Bytes}
    (hs : current.snapshot = d.finals.snapshot) (he : current.events = d.finals.events)
    (hnone : events = none → current.events = none) :
    Triple (DirIs d) (publishChangedState current snapshot events)
      (fun _ => FinalsAre ⟨some snapshot, events, d.finals.marker⟩)
      fun _ w => w.dir.finals.marker = d.finals.marker := by
  unfold publishChangedState
  refine Triple.bind (I := fun _ => FinalsAre ⟨some snapshot, d.finals.events, d.finals.marker⟩)
    ?_ fun _ => Triple.of_finals fun d1 hd1 => ?_
  · refine doIf_triple (fun _ => ?_) fun hc w hw => ?_
    · refine (publishFile_triple (by decide) snapshot maxSnapshot _).conseq (fun _ h => h) ?_ ?_
      · rintro _ w ⟨hb, hoff⟩
        rw [FinalsAre, offPair_snapshot hoff, hb]
      · intro _ w hoff
        rw [offPair_snapshot hoff]
    · have hc : some snapshot = current.snapshot := by simpa using hc
      rw [FinalsAre, show w.dir = d from hw, hc, hs]
  · refine doIf_triple (fun hc => ?_) fun hc w hw => ?_
    · refine (publishFile_triple (by decide) (events.getD []) maxEvents _).conseq (fun _ h => h) ?_ ?_
      · rintro _ w ⟨hb, hoff⟩
        rw [FinalsAre, offPair_events hoff, hb, hd1]
        rcases events with - | e
        · exact absurd (hnone rfl).symm (by simpa using hc)
        · rfl
      · intro _ w hoff
        rw [offPair_events hoff, hd1]
    · have hc : events = current.events := by simpa using hc
      rw [FinalsAre, show w.dir = d1 from hw, hd1, hc, he]

/-- **Committing over a clean state**: what is returned is what `read` shows,
and wherever it stops the files are of one of the kinds of `Committing`. -/
theorem commitClean_triple {current : State} {generation : Int} {snapshot : Bytes}
    {events : Option Bytes} (hs : current.snapshot = d.finals.snapshot)
    (he : current.events = d.finals.events) (hnone : events = none → current.events = none) :
    Triple (DirIs d) (commitClean hash current snapshot events generation)
      (fun s w => Shows hash w.dir generation snapshot events s)
      fun _ w => Committing hash d.finals generation snapshot events w.dir.finals := by
  unfold commitClean
  refine ((writeSlot_triple .markerSwap _ maxMarker).conseq (fun _ h => h) (fun _ _ h => h)
    fun _ w h => .inl (onlyAt_finals rfl h)).bind fun pendingId => ?_
  refine Triple.exists_pre fun n => Triple.pure_pre fun hn => ?_
  have hset : (d.set .markerSwap (some n)).finals = d.finals := finals_set rfl _
  have hslot : (d.set .markerSwap (some n)).files .markerSwap = some n := Dir.set_same ..
  generalize d.set .markerSwap (some n) = d1 at hset hslot
  have hpend : (d1.files .marker).isSome → (d1.exchange .markerSwap .marker).finals =
      { d.finals with marker := some (markerBytes hash .pending generation snapshot events) } := by
    intro hm
    rw [finals_exchange_marker hm hslot, hset, hn]
  refine Triple.bind (I := fun _ => FinalsAre { d.finals with marker := some _ })
    ((exchangeExpected_triple (by decide) _ _).conseq (fun _ h => h)
      (fun _ w h => by rw [FinalsAre, h.1, hpend h.2.1]) ?_)
    fun _ => Triple.of_finals fun d2 hd2 => ?_
  · rintro e w (hw | hw)
    · exact .inl (by rw [hw, hset])
    · rcases hm : d1.files .marker with - | m
      · refine .inl ?_
        rw [hw, ← hset]
        simp [Dir.exchange, hm]
      · refine .inr (.inl ?_)
        rw [Pending, hw, hpend (by rw [hm]; rfl)]
  have hmark : d2.finals.marker = some (markerBytes hash .pending generation snapshot events) := by
    rw [hd2]
  refine fsyncDirectory_views.bind_triple (fun _ _ => ?_) fun _ w hw => .inr (.inl (by rw [Pending, hw, hmark]))
  refine ((publishChangedState_triple (by rw [hs, hd2]) (by rw [he, hd2]) hnone).conseq
    (fun _ h => h) (fun _ _ h => h) fun _ w h => .inr (.inl (h.trans hmark))).bind
    fun _ => Triple.of_finals fun d3 hd3 => ?_
  rw [hmark] at hd3
  refine fsyncDirectory_views.bind_triple (fun _ _ => ?_) fun _ w hw => .inr (.inl (by rw [Pending, hw, hd3]))
  refine (publishClean_triple pendingId hd3).conseq (fun _ h => h) (fun _ _ h => h) ?_
  rintro _ w (h | h)
  · exact .inr (.inl (by rw [Pending, h]))
  · exact .inr (.inr h)

/-! ### Publishing a first state -/

/-- A pair that is shown has its marker. -/
theorem shows_bootstrapping {snapshot : Bytes} {events : Option Bytes} {s : State}
    (hb : Bootstrapping hash snapshot events d.finals) (hs : Shows hash d 0 snapshot events s) :
    d.finals = cleanFinals hash 0 snapshot events := by
  rcases hb with hb | hb
  · obtain ⟨-, -, -, hm⟩ := readDir_ok hs.read
    rw [hb] at hm
    have hg := hs.generation
    rw [show s.generation = none from hm] at hg
    cases hg
  · exact hb

/-- A re-read that is accepted shows the pair under generation 0. -/
theorem rereadBootstrap_triple {legacy : State} {snapshot : Bytes} {events : Option Bytes}
    {otherwise : Exn} (hb : Bootstrapping hash snapshot events d.finals) :
    Triple (DirIs d) (rereadBootstrap hash legacy otherwise)
      (fun s w => w.dir = d ∧ Shows hash d 0 snapshot events s) fun _ => DirIs d := by
  unfold rereadBootstrap
  refine read_views.bind_triple (fun s hs => require_bind (fun hc => Triple.pure fun w hw => ⟨hw, ?_⟩)
    fun _ _ hw => hw) fun _ _ hw => hw
  have hg : s.generation = some 0 := by
    simp only [Bool.and_eq_true, beq_iff_eq] at hc
    exact hc.1
  rcases hb with hb | hb
  · obtain ⟨-, -, -, hm⟩ := readDir_ok hs
    rw [hb] at hm
    rw [show s.generation = none from hm] at hg
    cases hg
  · exact readDir_shows le_rfl (by decide) hb hs

/-- **Publishing a first marker**: what is returned is what `read` shows, and
wherever it stops the pair is in place, with its marker or without one. -/
theorem bootstrap_triple {legacy : State} {snapshot : Bytes} {events : Option Bytes}
    (hf : d.finals = ⟨some snapshot, events, none⟩) (hs : legacy.snapshot = some snapshot)
    (he : legacy.events = events) :
    Triple (DirIs d) (bootstrap hash legacy)
      (fun s w => Shows hash w.dir 0 snapshot events s ∧ w.dir.finals = cleanFinals hash 0 snapshot events)
      fun _ w => Bootstrapping hash snapshot events w.dir.finals := by
  unfold bootstrap
  have hkeep : ∀ w : World, w.dir = d → Bootstrapping hash snapshot events w.dir.finals :=
    fun w hw => .inl (by rw [hw, hf])
  refine require_bind (fun _ => ?_) fun _ w hw => hkeep w hw
  rw [hs, he, Option.getD_some]
  refine ((writeSlot_triple .markerSwap _ maxMarker).conseq (fun _ h => h) (fun _ _ h => h)
    fun _ w h => .inl ((onlyAt_finals rfl h).trans hf)).bind fun candidate => ?_
  refine Triple.exists_pre fun n => Triple.pure_pre fun hn => ?_
  have hset : (d.set .markerSwap (some n)).finals = d.finals := finals_set rfl _
  have hslot : (d.set .markerSwap (some n)).files .markerSwap = some n := Dir.set_same ..
  generalize d.set .markerSwap (some n) = d1 at hset hslot
  have hnone : d1.files .marker = none := by
    have hm : d1.finals.marker = none := by rw [hset, hf]
    unfold Dir.finals Dir.bytesAt at hm
    simpa using hm
  have hmoved : (d1.move .markerSwap .marker).finals = cleanFinals hash 0 snapshot events := by
    rw [finals_move_marker hnone hslot, hset, hf, hn]
    rfl
  refine Triple.bind (I := fun r w => w.dir.finals = cleanFinals hash 0 snapshot events ∧
    ∀ s, r = some s → Shows hash w.dir 0 snapshot events s) ?_ fun early => ?_
  · refine Triple.tryCatch (I := fun _ w => Bootstrapping hash snapshot events w.dir.finals) ?_ fun e => ?_
    · refine ((renameNoreplace_triple _ _).conseq (fun _ h => h) (fun _ _ h => h) ?_).bind
        fun _ => Triple.pure fun w hw => ?_
      · rintro e w ⟨hw | hw, -⟩
        · exact .inl (by rw [hw, hset, hf])
        · exact .inr (by rw [hw, hmoved])
      · exact ⟨by rw [hw.1, hmoved], fun _ h => by cases h⟩
    · refine Triple.of_dirs (K := fun d => Bootstrapping hash snapshot events d.finals)
        fun d2 hd2 => ?_
      have hkeep2 : ∀ w : World, w.dir = d2 → Bootstrapping hash snapshot events w.dir.finals :=
        fun w hw => by rwa [hw]
      -- a re-read that is accepted has found the marker
      have hshown : ∀ {w : World} {s : State}, w.dir = d2 → Shows hash d2 0 snapshot events s →
          w.dir.finals = cleanFinals hash 0 snapshot events ∧
            ∀ t, some s = some t → Shows hash w.dir 0 snapshot events t := by
        intro w s hw hs
        rw [hw]
        refine ⟨shows_bootstrapping hd2 hs, ?_⟩
        rintro _ ⟨⟩
        exact hs
      cases e with
      | destinationExists =>
        refine ((rereadBootstrap_triple hd2).conseq (fun _ h => h) (fun _ _ h => h)
          fun _ w hw => hkeep2 w hw).bind fun s => Triple.pure fun w hw => hshown hw.1 hw.2
      | renameUncertain =>
        refine ((rereadBootstrap_triple hd2).conseq (fun _ h => h) (fun _ _ h => h)
          fun _ w hw => hkeep2 w hw).bind fun s => Triple.pure_pre fun hs => ?_
        exact fsyncDirectory_views.bind_triple (fun _ _ => Triple.pure fun w hw => hshown hw hs)
          fun _ w hw => hkeep2 w hw
      | _ => exact Triple.throw fun w hw => hkeep2 w hw
  · rcases early with - | s
    · refine fun w hw => Triple.of_finals (Q := fun s w => Shows hash w.dir 0 snapshot events s ∧
        w.dir.finals = cleanFinals hash 0 snapshot events) ?_ w hw.1
      intro d2 hd2
      have hkeep2 : ∀ w : World, w.dir = d2 → Bootstrapping hash snapshot events w.dir.finals :=
        fun w hw => .inr (by rw [hw, hd2])
      refine Triple.bind ((requirePublished_keeps _ _ _).conseq (fun _ h => h) (fun _ _ h => h)
        fun _ w hw => hkeep2 w hw) fun _ => ?_
      refine fsyncDirectory_views.bind_triple (fun _ _ => ?_) fun _ w hw => hkeep2 w hw
      refine read_views.triple.conseq (fun _ h => h) ?_ fun _ w hw => hkeep2 w hw
      rintro s w ⟨hw, hs⟩
      rw [hw]
      exact ⟨readDir_shows le_rfl (by decide) hd2 hs, hd2⟩
    · exact Triple.pure fun w hw => ⟨hw.2 s rfl, hw.1⟩

/-- The final files while a first snapshot is published. -/
def Beginning (hash : Bytes → Sha256) (snapshot : Bytes) (f : Finals) : Prop :=
  f = ⟨none, none, none⟩ ∨ Bootstrapping hash snapshot none f

/-- A legacy state is given its marker, a clean one has it. -/
theorem bootstrapIfLegacy_triple {s : State} {snapshot : Bytes} {events : Option Bytes}
    (hb : Bootstrapping hash snapshot events d.finals) (hs : readDir hash d = .ok s) :
    Triple (DirIs d) (bootstrapIfLegacy hash s)
      (fun s w => Shows hash w.dir 0 snapshot events s ∧ w.dir.finals = cleanFinals hash 0 snapshot events)
      fun _ w => Bootstrapping hash snapshot events w.dir.finals := by
  obtain ⟨h1, h2, h3, h4⟩ := readDir_ok hs
  unfold bootstrapIfLegacy
  refine Triple.ite (fun hl => ?_) fun hl => Triple.pure fun w hw => ?_
  · rcases hb with hb | hb
    · rw [hb] at h1 h2
      exact bootstrap_triple hb h1 h2
    · -- a legacy state has no marker
      rw [hb] at h3
      rw [State.legacy, Bool.and_eq_true, ← Option.not_isSome, h3] at hl
      cases hl.2
  · rw [show w.dir = d from hw]
    rcases hb with hb | hb
    · rw [hb] at h1 h3
      exact absurd (by rw [State.legacy, h1, ← Option.not_isSome, h3]; rfl) hl
    · exact ⟨readDir_shows le_rfl (by decide) hb hs, hb⟩

/-- An existing first snapshot is accepted where the directory holds the snapshot. -/
theorem acceptExistingGenesis_triple {snapshot : Bytes} {equivalent : Bytes → Bytes → Bool}
    (hf : d.finals = ⟨none, none, none⟩ ∨ d.finals = ⟨some snapshot, none, none⟩) (uncertain : Bool) :
    Triple (DirIs d) (acceptExistingGenesis hash snapshot equivalent uncertain)
      (fun s w => Shows hash w.dir 0 snapshot none s) fun _ w => Beginning hash snapshot w.dir.finals := by
  unfold acceptExistingGenesis
  have hkeep : ∀ w : World, w.dir = d → Beginning hash snapshot w.dir.finals := by
    intro w hw
    rw [hw]
    exact hf.imp id .inl
  refine read_views.bind_triple (fun concurrent hc => ?_) fun _ w hw => hkeep w hw
  refine require_bind (fun hv => ?_) fun _ w hw => hkeep w hw
  obtain ⟨hcs, -, -, -⟩ := readDir_ok hc
  -- without a snapshot there is nothing to accept
  have hb : Bootstrapping hash snapshot none d.finals := by
    rcases hf with hf | hf
    · rw [hf] at hcs
      rw [hcs] at hv
      cases hv
    · exact .inl hf
  have hboot := (bootstrapIfLegacy_triple hb hc).conseq (fun _ h => h) (fun _ _ h => h.1)
    fun _ w h => (.inr h : Beginning hash snapshot w.dir.finals)
  refine Triple.ite (fun _ => ?_) fun _ => hboot
  exact fsyncDirectory_views.bind_triple (fun _ _ => hboot) fun _ w hw => hkeep w hw

/-- What the first rename leaves: the new snapshot in place, or the state of the
writer that was there before. -/
def Renamed (hash : Bytes → Sha256) (snapshot : Bytes) (early : Option State) (w : World) : Prop :=
  match early with
  | none => w.dir.finals = ⟨some snapshot, none, none⟩
  | some s => Shows hash w.dir 0 snapshot none s

/-- **Publishing a first snapshot** into a directory that shows no pair. -/
theorem genesis_triple {snapshot : Bytes} {equivalent : Bytes → Bytes → Bool}
    (hf : d.finals = ⟨none, none, none⟩) :
    Triple (DirIs d) (genesis hash snapshot equivalent)
      (fun s w => Shows hash w.dir 0 snapshot none s) fun _ w => Beginning hash snapshot w.dir.finals := by
  unfold genesis
  have hkeep : ∀ w : World, w.dir = d → Beginning hash snapshot w.dir.finals :=
    fun w hw => .inl (by rw [hw, hf])
  refine require_bind (fun _ => ?_) fun _ w hw => hkeep w hw
  refine read_views.bind_triple (fun current hc => ?_) fun _ w hw => hkeep w hw
  obtain ⟨hcs, -, -, -⟩ := readDir_ok hc
  rw [hf] at hcs
  refine Triple.ite (fun h => absurd h (by simp [State.absent, hcs])) fun _ => ?_
  refine ((writeSlot_triple .snapshotSwap _ maxSnapshot).conseq (fun _ h => h) (fun _ _ h => h)
    fun _ w h => .inl ((onlyAt_finals rfl h).trans hf)).bind fun candidate => ?_
  refine Triple.exists_pre fun n => Triple.pure_pre fun hn => ?_
  have hset : (d.set .snapshotSwap (some n)).finals = d.finals := finals_set rfl _
  have hslot : (d.set .snapshotSwap (some n)).files .snapshotSwap = some n := Dir.set_same ..
  generalize d.set .snapshotSwap (some n) = d1 at hset hslot
  have hnone : d1.files .snapshot = none := by
    have hm : d1.finals.snapshot = none := by rw [hset, hf]
    unfold Dir.finals Dir.bytesAt at hm
    simpa using hm
  have hmoved : (d1.move .snapshotSwap .snapshot).finals = ⟨some snapshot, none, none⟩ := by
    rw [finals_move_snapshot hnone hslot, hset, hf, hn]
  refine Triple.bind (I := Renamed hash snapshot) ?_ fun early => ?_
  · refine Triple.tryCatch (I := fun _ w => w.dir.finals = ⟨none, none, none⟩ ∨
        w.dir.finals = ⟨some snapshot, none, none⟩) ?_ fun e => ?_
    · refine ((renameNoreplace_triple _ _).conseq (fun _ h => h) (fun _ _ h => h) ?_).bind
        fun _ => Triple.pure fun w hw => ?_
      · rintro e w ⟨hw | hw, -⟩
        · exact .inl (by rw [hw, hset, hf])
        · exact .inr (by rw [hw, hmoved])
      · change w.dir.finals = _
        rw [hw.1, hmoved]
    · refine Triple.of_dirs (K := fun d => d.finals = ⟨none, none, none⟩ ∨
        d.finals = ⟨some snapshot, none, none⟩) fun d2 hd2 => ?_
      have hkeep2 : ∀ w : World, w.dir = d2 → Beginning hash snapshot w.dir.finals := by
        intro w hw
        rw [hw]
        exact hd2.imp id .inl
      cases e with
      | destinationExists => exact (acceptExistingGenesis_triple hd2 false).bind fun s => Triple.pure fun w hw => hw
      | renameUncertain => exact (acceptExistingGenesis_triple hd2 true).bind fun s => Triple.pure fun w hw => hw
      | _ => exact Triple.throw fun w hw => hkeep2 w hw
  · rcases early with - | s
    · refine Triple.of_finals fun d2 hd2 => ?_
      have hkeep2 : ∀ w : World, w.dir = d2 → Beginning hash snapshot w.dir.finals :=
        fun w hw => .inr (.inl (by rw [hw, hd2]))
      refine Triple.bind ((requirePublished_keeps _ _ _).conseq (fun _ h => h) (fun _ _ h => h)
        fun _ w hw => hkeep2 w hw) fun _ => ?_
      refine fsyncDirectory_views.bind_triple (fun _ _ => ?_) fun _ w hw => hkeep2 w hw
      refine read_views.bind_triple (fun legacy hl => ?_) fun _ w hw => hkeep2 w hw
      obtain ⟨hls, hle, -, -⟩ := readDir_ok hl
      rw [hd2] at hls hle
      exact (bootstrap_triple hd2 hls hle).conseq (fun _ h => h) (fun _ _ h => h.1)
        fun _ _ h => .inr h
    · exact Triple.pure fun w hw => hw

/-! ### The theorem -/

/-- The generation under which a commit publishes the new pair. -/
def State.nextGeneration (s : State) : Int :=
  match s.generation with
  | some generation => generation + 1
  | none => if s.absent then 0 else 1

/-- What `read` may find after a commit over `s`: the old pair, under its
generation or, if it had none, under the first one; or the new pair under the
next generation or, as a first pair, without a marker yet. -/
def Outcome (s : State) (snapshot : Bytes) (events : Option Bytes) (t : State) : Prop :=
  (t.snapshot = s.snapshot ∧ t.events = s.events ∧
      (t.generation = s.generation ∨ s.legacy ∧ t.generation = some 0)) ∨
    (t.snapshot = some snapshot ∧ t.events = events ∧
      (t.generation = some s.nextGeneration ∨ s.absent ∧ t.generation = none))

/-- What `read` answers in a directory. -/
def readBack (hash : Bytes → Sha256) (d : Dir) (faults : List Fault) : Except Exn State :=
  (exec (read hash) ⟨d, faults⟩).1

/-- The directory that a program leaves. -/
def leaves {ε : Type} (m : Prog ε World α) (d : Dir) (faults : List Fault) : Dir :=
  (exec m ⟨d, faults⟩).2.dir

/-- What a later read may answer: an outcome, or an exception, which without
faults is `CorruptStore`. -/
inductive LaterRead (s : State) (snapshot : Bytes) (events : Option Bytes) (faults : List Fault) :
    Except Exn State → Prop
  | found {t : State} (h : Outcome s snapshot events t) :
    LaterRead s snapshot events faults (.ok t)
  | raised {e : Exn} (h : faults = [] → e = .corruptStore) :
    LaterRead s snapshot events faults (.error e)

section Outcomes

variable {s t : State} {generation : Int} {snapshot : Bytes} {events : Option Bytes}

/-- The bytes of the final files decide what is read. -/
theorem readDir_congr (hf : d'.finals = d.finals) (hs : readDir hash d = .ok s)
    (ht : readDir hash d' = .ok t) :
    t.snapshot = s.snapshot ∧ t.events = s.events ∧ t.generation = s.generation := by
  obtain ⟨hs1, hs2, -, hs3⟩ := readDir_ok hs
  obtain ⟨ht1, ht2, -, ht3⟩ := readDir_ok ht
  rw [hf] at ht1 ht2 ht3
  refine ⟨by rw [ht1, hs1], by rw [ht2, hs2], ?_⟩
  rcases hm : d.finals.marker with - | m
  · rw [hm] at hs3 ht3
    exact ht3.trans hs3.symm
  · rw [hm] at hs3 ht3
    obtain ⟨p, hp, -, hg, -⟩ := hs3
    obtain ⟨q, hq, -, hg', -⟩ := ht3
    rw [hp] at hq
    cases hq
    rw [hg, hg']

theorem Outcome.of_old (hf : d'.finals = d.finals) (hs : readDir hash d = .ok s)
    (ht : readDir hash d' = .ok t) : Outcome s snapshot events t := by
  obtain ⟨h1, h2, h3⟩ := readDir_congr hf hs ht
  exact .inl ⟨h1, h2, .inl h3⟩

/-- What the files of a bootstrap show. -/
theorem readDir_bootstrapping (hb : Bootstrapping hash snapshot events d.finals)
    (ht : readDir hash d = .ok t) :
    t.snapshot = some snapshot ∧ t.events = events ∧
      (t.generation = none ∨ t.generation = some 0) := by
  rcases hb with hb | hb
  · obtain ⟨h1, h2, -, h3⟩ := readDir_ok ht
    rw [hb] at h1 h2 h3
    exact ⟨h1, h2, .inl h3⟩
  · have h := readDir_shows le_rfl (by decide) hb ht
    exact ⟨h.snapshot, h.events, .inr h.generation⟩

/-- The files under a state without a generation. -/
theorem finals_of_unmarked (hs : readDir hash d = .ok s) (hg : s.generation = none) :
    d.finals = ⟨s.snapshot, s.events, none⟩ ∧ s.markerIdentity = none := by
  obtain ⟨h1, h2, h3, h4⟩ := readDir_ok hs
  rcases hm : d.finals.marker with - | m
  · rw [hm] at h3
    refine ⟨?_, by simpa using h3⟩
    rw [h1, h2, ← hm]
  · rw [hm] at h4
    obtain ⟨p, -, -, hp, -⟩ := h4
    rw [hg] at hp
    cases hp

/-- A state without a snapshot is that of a directory without final files. -/
theorem finals_of_absent (hs : readDir hash d = .ok s) (ha : s.snapshot = none) :
    d.finals = ⟨none, none, none⟩ ∧ s.events = none ∧ s.generation = none := by
  obtain ⟨h1, h2, -, h4⟩ := readDir_ok hs
  rcases hm : d.finals.marker with - | m
  · rw [hm] at h4
    have he : s.events = none := by
      unfold readDir at hs
      split at hs
      · unfold stateOfRecords at hs
        have hrec : d.record .marker = none := by
          unfold Dir.finals Dir.bytesAt at hm
          unfold Dir.record
          simpa using hm
        have hsn : d.record .snapshot = none := by
          rw [ha] at h1
          unfold Dir.finals Dir.bytesAt at h1
          unfold Dir.record
          simpa using h1.symm
        rw [hrec, hsn] at hs
        unfold legacyState at hs
        rcases hev : d.record .events with - | ev
        · rw [hev] at hs
          cases hs
          rfl
        · rw [hev] at hs
          cases hs
      · cases hs
    refine ⟨?_, he, h4⟩
    rw [show d.finals = ⟨d.finals.snapshot, d.finals.events, d.finals.marker⟩ from rfl, ← h1, ← h2,
      hm, ha, he]
  · rw [hm] at h4
    obtain ⟨p, -, -, -, hp⟩ := h4
    rw [ha] at hp
    cases hp

/-- A generation comes from a clean marker. -/
theorem bounds_of_marked (hs : readDir hash d = .ok s) (hg : s.generation = some generation) :
    0 ≤ generation ∧ generation ≤ maxGeneration ∧ s.legacy = false := by
  obtain ⟨-, -, h3, h4⟩ := readDir_ok hs
  rcases hm : d.finals.marker with - | m
  · rw [hm] at h4
    rw [show s.generation = none from h4] at hg
    cases hg
  · rw [hm] at h3 h4
    obtain ⟨p, hp, -, hpg, -⟩ := h4
    rw [hg] at hpg
    cases hpg
    obtain ⟨h0, h1⟩ := parseMarker_bounds hp
    refine ⟨h0, h1, ?_⟩
    rw [State.legacy, ← Option.not_isSome, h3]
    simp

end Outcomes

/-- The final files where a commit over `s` may stop: those that were there, those
along a first commit or along the first marker of a legacy state, a pending
marker, or the new pair. -/
inductive StoppedAt (hash : Bytes → Sha256) (s : State) (snapshot : Bytes) (events : Option Bytes)
    (old : Finals) : Finals → Prop
  | old : StoppedAt hash s snapshot events old old
  | first {f} (ha : s.absent = true) (he : events = none) (h : Beginning hash snapshot f) :
    StoppedAt hash s snapshot events old f
  | legacy {S f} (hS : s.snapshot = some S) (hl : s.legacy = true)
    (h : Bootstrapping hash S s.events f) : StoppedAt hash s snapshot events old f
  | pending {f} (h0 : 0 ≤ s.nextGeneration) (h1 : s.nextGeneration ≤ maxGeneration)
    (h : Pending hash s.nextGeneration snapshot events f) : StoppedAt hash s snapshot events old f
  | clean (h0 : 0 ≤ s.nextGeneration) (h1 : s.nextGeneration ≤ maxGeneration) (ha : s.absent = false) :
    StoppedAt hash s snapshot events old (cleanFinals hash s.nextGeneration snapshot events)

/-- What is read there is an outcome. -/
theorem StoppedAt.outcome {s t : State} {snapshot : Bytes} {events : Option Bytes}
    (h : StoppedAt hash s snapshot events d.finals d'.finals) (hs : readDir hash d = .ok s)
    (ht : readDir hash d' = .ok t) : Outcome s snapshot events t := by
  generalize hf : d'.finals = f at h
  cases h with
  | old => exact Outcome.of_old hf hs ht
  | first ha he h =>
      subst hf he
      obtain ⟨hold, -, hg⟩ := finals_of_absent hs (by simpa [State.absent] using ha)
      rcases h with h | h
      · exact Outcome.of_old (h.trans hold.symm) hs ht
      · obtain ⟨h1, h2, h3 | h3⟩ := readDir_bootstrapping h ht
        · exact .inr ⟨h1, h2, .inr ⟨ha, h3⟩⟩
        · exact .inr ⟨h1, h2, .inl (by rw [h3, State.nextGeneration, hg]; simp [ha])⟩
  | legacy hS hl h =>
      subst hf
      obtain ⟨h1, h2, h3 | h3⟩ := readDir_bootstrapping h ht
      · have hg : s.generation = none := by
          rcases hg : s.generation with - | g
          · rfl
          · obtain ⟨-, -, hl'⟩ := bounds_of_marked hs hg
            rw [hl] at hl'
            cases hl'
        exact .inl ⟨h1.trans hS.symm, h2, .inl (h3.trans hg.symm)⟩
      · exact .inl ⟨h1.trans hS.symm, h2, .inr ⟨hl, h3⟩⟩
  | pending h0 h1 h =>
      subst hf
      rw [readDir_pending h0 h1 h] at ht
      cases ht
  | clean h0 h1 _ =>
      have h := readDir_shows h0 h1 hf ht
      exact .inr ⟨h.snapshot, h.events, .inl h.generation⟩

/-- **Committing**: what is returned is what `read` shows, the new pair under the
next generation; and wherever it stops, the final files are of one of these kinds. -/
theorem commit_stops {s : State} (hs : readDir hash d = .ok s) (expected : State)
    (snapshot : Bytes) (events : Option Bytes) (equivalent : Bytes → Bytes → Bool) :
    Triple (DirIs d) (commit hash expected snapshot events equivalent)
      (fun t w => Shows hash w.dir s.nextGeneration snapshot events t)
      fun _ w => StoppedAt hash s snapshot events d.finals w.dir.finals := by
  have hkeep : ∀ (e : Exn) (w : World), w.dir = d →
      StoppedAt hash s snapshot events d.finals w.dir.finals := by
    intro _ w hw
    rw [hw]
    exact .old
  unfold commit
  refine require_bind (fun _ => ?_) hkeep
  refine read_views.bind_triple (fun current hc => ?_) hkeep
  obtain rfl : current = s := by
    rw [hs] at hc
    exact (Except.ok.inj hc).symm
  refine require_bind (fun _ => ?_) hkeep
  refine Triple.ite (fun ha => ?_) fun ha => ?_
  · -- genesis
    refine require_bind (fun hn => ?_) hkeep
    obtain rfl : events = none := by simpa using hn
    obtain ⟨hf, -, hg⟩ := finals_of_absent hs (by simpa [State.absent] using ha)
    refine (genesis_triple hf).conseq (fun _ h => h) ?_ fun _ _ h => .first ha rfl h
    intro t w h
    rw [State.nextGeneration, hg]
    simpa [ha] using h
  · refine require_bind (fun hmax => require_bind (fun hev => ?_) hkeep) hkeep
    have hthere : current.absent = false := by simpa using ha
    have hnone : events = none → current.events = none := by
      rintro rfl
      simpa using hev
    rcases hg : current.generation with - | g
    · -- a legacy state gets its first marker, and then the commit is one over a clean state
      obtain ⟨S, hS⟩ : ∃ S, current.snapshot = some S := by
        rw [State.absent, Option.isNone_iff_eq_none] at ha
        exact Option.ne_none_iff_exists'.mp ha
      obtain ⟨hf, hm⟩ := finals_of_unmarked hs hg
      have hlegacy : current.legacy = true := by simp [State.legacy, hS, hm]
      have hnext : current.nextGeneration = 1 := by
        rw [State.nextGeneration, hg]
        exact if_neg ha
      have h0 : 0 ≤ current.nextGeneration := by
        rw [hnext]
        decide
      have h1 : current.nextGeneration ≤ maxGeneration := by
        rw [hnext]
        decide
      rw [hS] at hf
      refine ((bootstrapIfLegacy_triple (.inl hf) hs).conseq (fun _ h => h) (fun _ _ h => h)
        fun _ _ h => .legacy hS hlegacy h).bind fun marked => ?_
      refine Triple.of_dirs (K := fun d => Shows hash d 0 S current.events marked ∧
        d.finals = cleanFinals hash 0 S current.events) fun d2 hd2 => ?_
      obtain ⟨hshow, hd2⟩ := hd2
      unfold commitNext
      rw [hshow.generation]
      show Triple (DirIs d2) (commitClean hash marked snapshot events 1) _ _
      rw [← hnext]
      refine (commitClean_triple (by rw [hshow.snapshot, hd2]; rfl)
        (by rw [hshow.events, hd2]; rfl) fun h => by rw [hshow.events, hnone h]).conseq
        (fun _ h => h) (fun _ _ h => h) ?_
      rintro _ w (h | h | h)
      · exact .legacy hS hlegacy (.inr (h.trans hd2))
      · exact .pending h0 h1 h
      · rw [h]
        exact .clean h0 h1 hthere
    · obtain ⟨h0, h1, hlegacy⟩ := bounds_of_marked hs hg
      have hlt : g + 1 ≤ maxGeneration := by
        have hne : g ≠ maxGeneration := by simpa [hg] using hmax
        omega
      have hnext : current.nextGeneration = g + 1 := by rw [State.nextGeneration, hg]
      obtain ⟨hfs, hfe, -, -⟩ := readDir_ok hs
      unfold bootstrapIfLegacy
      rw [hlegacy]
      unfold commitNext
      refine Triple.bind (I := fun marked w => DirIs d w ∧ marked = current)
        (Triple.pure fun w hw => ⟨hw, rfl⟩) fun marked => Triple.pure_pre ?_
      rintro rfl
      rw [hg]
      show Triple (DirIs d) (commitClean hash marked snapshot events (g + 1)) _ _
      rw [← hnext]
      refine (commitClean_triple hfs hfe hnone).conseq (fun _ h => h) (fun _ _ h => h) ?_
      rintro _ w (h | h | h)
      · rw [h]
        exact .old
      · exact .pending (by omega) (by omega) h
      · rw [h]
        exact .clean (by omega) (by omega) hthere

/-- Wherever a commit stops, `read` finds an outcome. -/
theorem commit_triple {s : State} (hs : readDir hash d = .ok s) (expected : State)
    (snapshot : Bytes) (events : Option Bytes) (equivalent : Bytes → Bytes → Bool) :
    Triple (DirIs d) (commit hash expected snapshot events equivalent)
      (fun t w => Shows hash w.dir s.nextGeneration snapshot events t)
      fun _ w => ∀ t, readDir hash w.dir = .ok t → Outcome s snapshot events t :=
  (commit_stops hs expected snapshot events equivalent).conseq (fun _ h => h) (fun _ _ h => h)
    fun _ _ h _ ht => h.outcome hs ht

/-- **Crash atomicity**: whatever a commit is asked for over a directory that
`read` accepts, and whatever fails or stops in it, a later `read` finds an
outcome or raises. -/
theorem commit_atomic {s : State} (hs : readBack hash d [] = .ok s) (expected : State)
    (snapshot : Bytes) (events : Option Bytes) (equivalent : Bytes → Bytes → Bool)
    (faults later : List Fault) :
    LaterRead s snapshot events later (readBack hash
      (leaves (commit hash expected snapshot events equivalent) d faults) later) := by
  rw [readBack, read_views.faultless] at hs
  have h := commit_triple hs expected snapshot events equivalent ⟨d, faults⟩ rfl
  have hread : ∀ t, readDir hash (leaves (commit hash expected snapshot events equivalent) d faults)
      = .ok t → Outcome s snapshot events t := by
    revert h
    unfold leaves
    rcases exec (commit hash expected snapshot events equivalent) ⟨d, faults⟩ with ⟨e | u, w⟩
    · exact id
    · intro h t ht
      rw [show readDir hash w.dir = .ok u from h.read] at ht
      cases ht
      exact .inr ⟨h.snapshot, h.events, .inl h.generation⟩
  generalize leaves (commit hash expected snapshot events equivalent) d faults = after at hread
  have hv := (@read_views hash after ⟨after, later⟩ rfl).2.2
  unfold readBack
  rcases hx : (exec (read hash) ⟨after, later⟩).1 with e | t
  · rw [hx] at hv
    refine .raised fun hl => ?_
    rcases hv with hv | ⟨hne, -⟩
    · exact readDir_error hv.symm
    · exact absurd hl hne
  · rw [hx] at hv
    rcases hv with hv | ⟨-, e, he⟩
    · exact .found (hread t hv.symm)
    · cases he

/-! ### A legacy directory -/

/-- SHA-256 at the snapshots of the example below. -/
def sampleSha (data : Bytes) : Sha256 :=
  if data = [1] then
    ⟨py "4bf5122f344554c53bde2ebb8cd2b7e3d1600ad631c385a5d7cce23c7785459a", by decide⟩
  else ⟨py "dbc1b4c900ffe48d575b5da5c638040125f65db0fe3e24494b76ea986457d986", by decide⟩

/-- A directory with a snapshot and no marker. -/
def legacyDir : Dir :=
  ⟨fun name => if name = .snapshot then some ⟨1, true, 1, [1]⟩ else none, false⟩

def legacyRead : State := ⟨some [1], none, some ⟨1, 1, 1⟩, none, none, none, false⟩

theorem legacyDir_read : readBack sampleSha legacyDir [] = .ok legacyRead := rfl

/-- A commit that stops at its fortieth call. -/
theorem commit_atomic_stopped :
    LaterRead legacyRead [2] none [] (readBack sampleSha
      (leaves (commit sampleSha legacyRead [2] none fun _ _ => false) legacyDir
        (List.replicate 39 .none ++ [.stops])) []) := by
  have h := @commit_atomic sampleSha legacyDir legacyRead legacyDir_read legacyRead [2] none
    (fun _ _ => false) (List.replicate 39 .none ++ [.stops]) []
  exact h

set_option maxRecDepth 20000 in
/-- The new pair of a legacy directory has generation 1: its first marker, of
generation 0, is that of the old pair. -/
theorem legacy_commit_generation :
    readBack sampleSha legacyDir [] = .ok legacyRead ∧ legacyRead.legacy = true ∧
      (readBack sampleSha (leaves (commit sampleSha legacyRead [2] none fun _ _ => false)
        legacyDir []) []).toOption.map (fun t => (t.snapshot, t.events, t.generation))
        = some (some [2], none, some 1) := by
  refine ⟨legacyDir_read, rfl, ?_⟩
  decide +kernel

end SpecStyle
