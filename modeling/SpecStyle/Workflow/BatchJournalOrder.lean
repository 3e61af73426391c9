/-
SpecStyle/Workflow/BatchJournalOrder.lean

The journal is an append-only prefix of the phase order.

`Ordered` is the invariant: the phases of a batch are an initial segment, and
each file is the document of its batch and phase for some binding.  `Extends`
is the preorder: a file that is visible stays as it is.  Both hold through
every step of every recorder, whoever moves in between (`record_safe`), so
they hold of any schedule of any number of recorders.

A recorder alone on the store, none of whose calls fails, succeeds exactly
when the document is stored behind its predecessors (`record_ends`).
-/
import SpecStyle.Workflow.BatchJournal

namespace SpecStyle

open PyLib

namespace JournalStore

variable {s t : JournalStore} {batchId batchId' : Identifier} {phase phase' : ProductionBatchPhase}

/-! ### Files and directories -/

theorem directory_setDirectory {d : BatchDirectory} (h : s.batches.isSome) :
    (s.setDirectory batchId d).directory batchId' =
      if batchId' = batchId then some d else s.directory batchId' := by
  obtain ⟨b, hb⟩ := Option.isSome_iff_exists.mp h
  show ((s.batches.map _).bind _) = _
  unfold directory
  rw [hb]
  rfl

theorem file_setDirectory {d : BatchDirectory} (h : s.batches.isSome) :
    (s.setDirectory batchId d).file batchId' phase =
      if batchId' = batchId then d.files phase else s.file batchId' phase := by
  unfold file
  rw [directory_setDirectory h]
  split
  · rfl
  · rfl

theorem batches_isSome_of_directory {d : BatchDirectory} (h : s.directory batchId = some d) :
    s.batches.isSome := by
  obtain ⟨b, hb, -⟩ := Option.bind_eq_some_iff.mp h
  rw [hb]
  rfl

theorem trusted_batch : s.trusted (.batch batchId) = (s.directory batchId).map (·.trusted) := rfl

/-! ### The invariant -/

/-- What every recorder keeps. -/
structure Ordered (s : JournalStore) : Prop where
  initial : ∀ batchId phase earlier, earlier ∈ ProductionBatchPhase.earlier phase →
    (s.file batchId phase).isSome → (s.file batchId earlier).isSome
  documents : ∀ batchId phase file, s.file batchId phase = some file →
    file.trusted = true ∧ ∃ binding, file.content = document batchId phase binding
  trusted : ∀ name flag, s.trusted name = some flag → flag = true

theorem ordered_empty : Ordered empty where
  initial := by
    intro _ _ _ _ h
    cases h
  documents := by
    intro _ _ _ h
    cases h
  trusted := by
    rintro (_ | _) _ h
    · cases h
    · cases h

/-- Nothing that is visible changes. -/
def Extends (s t : JournalStore) : Prop :=
  ∀ batchId phase file, s.file batchId phase = some file → t.file batchId phase = some file

/-- The journal grows. -/
def growth : Growth JournalStore where
  le := Extends
  inv := Ordered
  refl _ _ _ _ h := h
  trans h h' batchId phase file hf := h' batchId phase file (h batchId phase file hf)

/-! ### Facts -/

/-- The file of a phase. -/
def FileIs (batchId : Identifier) (phase : ProductionBatchPhase) (file : PhaseFile) : growth.Fact :=
  ⟨fun s => s.file batchId phase = some file, fun h hf => h batchId phase file hf⟩

/-- The content of a phase. -/
def Stored (batchId : Identifier) (phase : ProductionBatchPhase) (content : Bytes) : growth.Fact :=
  ⟨fun s => ∃ file, s.file batchId phase = some file ∧ file.content = content,
    fun h ⟨file, hf, hc⟩ => ⟨file, h batchId phase file hf, hc⟩⟩

/-- Some phases are there. -/
def AllPresent (batchId : Identifier) (list : List ProductionBatchPhase) : growth.Fact :=
  ⟨fun s => ∀ phase ∈ list, (s.file batchId phase).isSome, by
    intro s t hle h phase hp
    obtain ⟨file, hf⟩ := Option.isSome_iff_exists.mp (h phase hp)
    rw [hle batchId phase file hf]
    rfl⟩

/-! ### The two changes of the store -/

/-- A new directory holds no file yet. -/
theorem mkdir_grows {name : DirectoryName} (hs : Ordered s) (h : Journal.mkdir name s = .ok t) :
    (∀ batchId phase, t.file batchId phase = s.file batchId phase) ∧ Ordered t := by
  have hkeep : (∀ batchId phase, t.file batchId phase = s.file batchId phase) ∧
      ∀ name flag, t.trusted name = some flag → flag = true := by
    cases name with
    | batches =>
        dsimp only [Journal.mkdir] at h
        split at h
        · cases h
        · next hnone =>
            cases h
            constructor
            · intro batchId phase
              unfold file directory
              rw [hnone]
              rfl
            · rintro (_ | _) flag hflag
              · exact (Option.some.inj hflag).symm
              · cases hflag
    | batch batchId =>
        dsimp only [Journal.mkdir] at h
        split at h
        · cases h
        · cases h
        · next b hb hnone =>
            cases h
            have hsome : s.batches.isSome := by
              rw [hb]
              rfl
            constructor
            · intro batchId' phase
              rw [file_setDirectory hsome]
              split
              · next heq =>
                  subst heq
                  unfold file
                  rw [hnone]
                  rfl
              · rfl
            · rintro (_ | batchId') flag hflag
              · apply hs.trusted .batches flag
                rw [← hflag]
                unfold trusted setDirectory
                rw [hb]
                rfl
              · rw [trusted_batch, directory_setDirectory hsome] at hflag
                split at hflag
                · exact (Option.some.inj hflag).symm
                · exact hs.trusted (.batch batchId') flag hflag
  refine ⟨hkeep.1, ⟨?_, ?_, hkeep.2⟩⟩
  · intro batchId phase earlier hmem
    rw [hkeep.1, hkeep.1]
    exact hs.initial batchId phase earlier hmem
  · intro batchId phase file
    rw [hkeep.1]
    exact hs.documents batchId phase file

/-- What a link does, where it is possible. -/
theorem link_ok {temporary : Bytes} (h : Journal.link batchId phase temporary s = .ok t) :
    s.file batchId phase = none ∧ ∀ batchId' phase', t.file batchId' phase' =
      if batchId' = batchId ∧ phase' = phase then some ⟨true, temporary⟩
      else s.file batchId' phase' := by
  unfold Journal.link at h
  split at h
  · cases h
  · next d hd =>
      split at h
      · cases h
      · next hnone =>
          cases h
          have hfile : ∀ phase, s.file batchId phase = d.files phase := by
            intro phase
            unfold file
            rw [hd]
            rfl
          refine ⟨(hfile phase).trans hnone, ?_⟩
          intro batchId' phase'
          rw [file_setDirectory (batches_isSome_of_directory hd)]
          by_cases hb : batchId' = batchId
          · subst hb
            rw [if_pos rfl, hfile]
            by_cases hp : phase' = phase
            · rw [if_pos ⟨rfl, hp⟩]
              exact if_pos hp
            · rw [if_neg fun h => hp h.2]
              exact if_neg hp
          · rw [if_neg hb, if_neg fun h => hb h.1]

theorem link_trusted {temporary : Bytes} (h : Journal.link batchId phase temporary s = .ok t)
    (name : DirectoryName) : t.trusted name = s.trusted name := by
  unfold Journal.link at h
  split at h
  · cases h
  · next d hd =>
      split at h
      · cases h
      · cases h
        have hsome := batches_isSome_of_directory hd
        cases name with
        | batches =>
            unfold trusted setDirectory
            rw [Option.map_map]
            rfl
        | batch batchId' =>
            rw [trusted_batch, trusted_batch, directory_setDirectory hsome]
            split
            · next heq =>
                subst heq
                rw [hd]
                rfl
            · rfl

/-- A link of the right document behind its predecessors keeps the order. -/
theorem link_grows {binding : Sha256} (hs : Ordered s)
    (hearlier : ∀ p ∈ phase.earlier, (s.file batchId p).isSome)
    (h : Journal.link batchId phase (document batchId phase binding) s = .ok t) :
    Extends s t ∧ Ordered t := by
  obtain ⟨hnone, hfile⟩ := link_ok h
  have hextends : Extends s t := by
    intro batchId' phase' file hf
    rw [hfile, if_neg]
    · exact hf
    · rintro ⟨rfl, rfl⟩
      rw [hnone] at hf
      cases hf
  have hpresent : ∀ {b p}, (s.file b p).isSome → (t.file b p).isSome := by
    intro b p hp
    obtain ⟨file, hf⟩ := Option.isSome_iff_exists.mp hp
    rw [hextends b p file hf]
    rfl
  refine ⟨hextends, ?_, ?_, ?_⟩
  · intro batchId' phase' earlier hmem hsome
    rw [hfile] at hsome
    split at hsome
    · next heq =>
        obtain ⟨rfl, rfl⟩ := heq
        exact hpresent (hearlier earlier hmem)
    · exact hpresent (hs.initial batchId' phase' earlier hmem hsome)
  · intro batchId' phase' file hf
    rw [hfile] at hf
    split at hf
    · next heq =>
        obtain ⟨rfl, rfl⟩ := heq
        cases hf
        exact ⟨rfl, binding, rfl⟩
    · exact hs.documents batchId' phase' file hf
  · intro name flag
    rw [link_trusted h]
    exact hs.trusted name flag

end JournalStore

open JournalStore

/-! ### Every step -/

namespace Journal

variable {α : Type} {P : growth.Fact} {Q : α → growth.Fact} {batchId : Identifier}
  {phase : ProductionBatchPhase} {binding : Sha256}

theorem look_safe {view : CallOutcome → JournalStore → Except JournalExn α}
    (h : ∀ outcome s a, growth.inv s → P.holds s → view outcome s = .ok a → (Q a).holds s) :
    Safe growth Q (look view) P := by
  apply Safe.call
  intro outcome s hs hP
  cases outcome with
  | fails => exact ⟨growth.refl s, hs, fun _ ha => by cases ha⟩
  | failsAfter => exact ⟨growth.refl s, hs, fun _ ha => by cases ha⟩
  | _ => exact ⟨growth.refl s, hs, fun a ha => h _ s a hs hP ha⟩

theorem mutate_safe {change : JournalStore → Except JournalExn JournalStore}
    (h : ∀ s t, growth.inv s → P.holds s → change s = .ok t → growth.le s t ∧ growth.inv t) :
    Safe growth (fun _ => .top) (mutate change) P := by
  apply Safe.call
  intro outcome s hs hP
  have hsettle : ∀ result, growth.le s (settle result s (change s)).2 ∧
      growth.inv (settle result s (change s)).2 := by
    intro result
    cases hc : change s with
    | error raised => exact ⟨growth.refl s, hs⟩
    | ok t => exact h s t hs hP hc
  cases outcome with
  | fails => exact ⟨growth.refl s, hs, fun _ _ => trivial⟩
  | _ => exact ⟨(hsettle _).1, (hsettle _).2, fun _ _ => trivial⟩

theorem bare_safe : Safe growth (fun _ => .top) bare P :=
  look_safe fun _ _ _ _ _ _ => trivial

theorem translate_safe {m : Recorder α} {raised : JournalExn} (h : Safe growth Q m P) :
    Safe growth Q (translate m raised) P :=
  Safe.tryCatch h fun _ => Safe.throw

theorem sync_safe : Safe growth (fun _ => .top) sync P := translate_safe bare_safe

theorem secureDirectory_safe {name : DirectoryName} :
    Safe growth (fun _ => .top) (secureDirectory name) P := by
  refine Safe.bind (I := fun _ => .top) (translate_safe (look_safe fun _ _ _ _ _ _ => trivial)) ?_
  intro _
  exact Safe.require.conseq (fun _ _ h => h) fun _ _ _ _ _ => trivial

theorem openNamed_safe {name : DirectoryName} :
    Safe growth (fun _ => .top) (openNamed name) P :=
  look_safe fun _ _ _ _ _ _ => trivial

theorem createMissing_safe {name : DirectoryName} {found : Bool} :
    Safe growth (fun _ => .top) (createMissing name found) P := by
  cases found with
  | true => exact Safe.pure fun _ _ _ => trivial
  | false =>
      apply translate_safe
      refine Safe.bind (mutate_safe ?_) fun _ => ?_
      · intro s t hs _ h
        obtain ⟨hfiles, ht⟩ := mkdir_grows hs h
        refine ⟨fun batchId phase file hf => ?_, ht⟩
        rw [hfiles]
        exact hf
      · refine Safe.bind sync_safe fun _ => Safe.bind openNamed_safe fun _ => ?_
        exact Safe.require.conseq (fun _ _ h => h) fun _ _ _ _ _ => trivial

theorem openDirectory_safe {name : DirectoryName} :
    Safe growth (fun _ => .top) (openDirectory name) P := by
  refine Safe.bind Safe.require fun _ => ?_
  refine Safe.bind (translate_safe openNamed_safe) fun _ => Safe.bind createMissing_safe fun _ => ?_
  refine Safe.tryCatch secureDirectory_safe fun _ => ?_
  exact Safe.bind bare_safe fun _ => Safe.throw

/-- What `_read` finds is what is stored, and stays stored. -/
theorem readOpen_safe : Safe growth
    (fun content => .when content.isSome (Stored batchId phase (content.getD [])))
    (readOpen batchId phase) P := by
  refine Safe.bind (I := FileIs batchId phase) (look_safe ?_) fun file => ?_
  · intro _ s file _ _ h
    split at h
    · next hf =>
        cases h
        exact hf
    · cases h
  refine Safe.bind Safe.require fun _ => ?_
  refine Safe.bind (I := fun content =>
    .when (content.length = file.content.length) (Stored batchId phase content))
    (look_safe ?_) fun content => ?_
  · rintro outcome s content - ⟨⟨-, hf⟩, -⟩ h hlength
    have hwhole : ((s.file batchId phase).elim [] (·.content)).take (file.content.length + 1) =
        file.content := by
      rw [show s.file batchId phase = some file from hf]
      exact List.take_of_length_le (Nat.le_succ _)
    rw [hwhole] at h
    refine ⟨file, hf, ?_⟩
    cases outcome with
    | shortRead n =>
        -- a read that took all bytes is not short
        cases h
        rw [List.length_take] at hlength
        exact (List.take_of_length_le (by omega)).symm
    | _ =>
        cases h
        rfl
  · refine Safe.bind Safe.require fun _ => Safe.pure ?_
    rintro s - ⟨⟨⟨-, -⟩, hwhen⟩, hlength⟩ -
    exact hwhen (of_decide_eq_true hlength)

theorem read_safe : Safe growth
    (fun content => .when content.isSome (Stored batchId phase (content.getD [])))
    (read batchId phase) P := by
  refine Safe.bind (I := fun _ => .top)
    (translate_safe (look_safe fun _ _ _ _ _ _ => trivial)) fun found => ?_
  apply Safe.ite
  · intro _
    exact Safe.andFinally (translate_safe readOpen_safe) bare_safe
  · intro _
    apply Safe.pure
    rintro _ - - h
    cases h

/-! ### Publishing -/

theorem writeAll_safe {turns : Nat} {temporary content : Bytes} (h : content.length ≤ turns) :
    Safe growth (fun written => .const (written = temporary ++ content))
      (writeAll turns temporary content) P := by
  induction turns generalizing temporary content P with
  | zero =>
      have hnil : content = [] := List.eq_nil_of_length_eq_zero (Nat.le_zero.mp h)
      subst hnil
      exact Safe.pure fun _ _ _ => (List.append_nil temporary).symm
  | succ turns ih =>
      apply Safe.ite
      · rintro rfl
        exact Safe.pure fun _ _ _ => (List.append_nil temporary).symm
      · intro _
        refine Safe.bind (translate_safe bare_written) fun written => ?_
        refine Safe.bind Safe.require fun _ => Safe.of_const fun hpos => ?_
        have hpos : 0 < written := of_decide_eq_true hpos
        refine (ih ?_).conseq (fun _ _ h => h) ?_
        · rw [List.length_drop]
          omega
        · rintro r _ - - rfl
          show temporary ++ content.take written ++ content.drop written = temporary ++ content
          rw [List.append_assoc, List.take_append_drop]
where
  bare_written {P : growth.Fact} {chunk : Bytes} :
      Safe growth (fun _ => .top) (osWrite chunk) P :=
    look_safe fun _ _ _ _ _ _ => trivial

theorem writeTemporary_safe {content : Bytes} :
    Safe growth (fun temporary => .const (temporary = content)) (writeTemporary content) P := by
  refine Safe.bind (translate_safe bare_safe) fun _ => Safe.tryCatch ?_ fun _ => ?_
  · refine Safe.bind (writeAll_safe (Nat.le_refl _)) fun temporary => ?_
    refine Safe.bind sync_safe fun _ => Safe.bind bare_safe fun _ => Safe.pure ?_
    rintro _ - h
    exact h.1.1.2
  · exact Safe.bind bare_safe fun _ => Safe.throw

theorem publish_safe : Safe growth (fun _ => .top)
    (publish batchId phase (document batchId phase binding)) (AllPresent batchId phase.earlier) := by
  refine Safe.bind writeTemporary_safe fun temporary => Safe.of_const ?_
  rintro rfl
  refine Safe.tryCatch ?_ fun raised => ?_
  · refine Safe.bind (mutate_safe fun s t hs hP h => link_grows hs hP h) fun _ => ?_
    exact Safe.bind sync_safe fun _ => Safe.bind bare_safe fun _ => sync_safe
  · apply Safe.ite
    · intro _
      exact Safe.tryCatch bare_safe fun _ => Safe.pure fun _ _ _ => trivial
    · intro _
      exact Safe.throw

/-! ### Recording -/

theorem anyMissing_safe {list : List ProductionBatchPhase} :
    Safe growth (fun missing => .when (missing = false) (AllPresent batchId list))
      (anyMissing batchId list) P := by
  induction list generalizing P with
  | nil =>
      apply Safe.pure
      rintro _ - - - phase hp
      cases hp
  | cons phase rest ih =>
      refine Safe.bind read_safe fun content => Safe.ite ?_ ?_
      · intro _
        apply Safe.pure
        rintro _ - - h
        cases h
      · intro hnone
        refine ih.conseq (fun _ _ h => h) ?_
        rintro missing s - ⟨-, hstored⟩ hrest hmissing phase' hp
        rcases List.mem_cons.mp hp with rfl | hp
        · obtain ⟨file, hf, -⟩ := hstored (by
            cases content with
            | none => exact absurd rfl hnone
            | some _ => rfl)
          rw [hf]
          rfl
        · exact hrest hmissing phase' hp

/-- The document is stored behind its predecessors. -/
def Recorded (batchId : Identifier) (phase : ProductionBatchPhase) (binding : Sha256) :
    growth.Fact :=
  (AllPresent batchId phase.earlier).and (Stored batchId phase (document batchId phase binding))

theorem recordOpen_safe : Safe growth (fun _ => Recorded batchId phase binding)
    (recordOpen batchId phase (document batchId phase binding)) P := by
  refine Safe.bind anyMissing_safe fun missing => Safe.bind Safe.require fun _ => ?_
  refine Safe.of_const fun hmissing => ?_
  have hpresent : ∀ s, (P.and (.when (missing = false) (AllPresent batchId phase.earlier))).holds s →
      (AllPresent batchId phase.earlier).holds s := by
    intro s h
    apply h.2
    cases missing
    · rfl
    · cases hmissing
  refine Safe.bind read_safe fun existing => ?_
  cases existing with
  | some content =>
      refine Safe.require.conseq (fun _ _ h => h) ?_
      rintro _ s - ⟨hP, hstored⟩ hequal
      obtain rfl : content = document batchId phase binding := of_decide_eq_true hequal
      exact ⟨hpresent s hP, hstored rfl⟩
  | none =>
      refine Safe.bind (publish_safe.pre fun s _ h => hpresent s h.1) fun _ => ?_
      refine Safe.bind read_safe fun stored => ?_
      refine Safe.require.conseq (fun _ _ h => h) ?_
      rintro _ s - ⟨⟨⟨hP, -⟩, -⟩, hstored⟩ hequal
      obtain rfl : stored = some (document batchId phase binding) := of_decide_eq_true hequal
      exact ⟨hpresent s hP, hstored rfl⟩

/-- **Every step of a recorder lets the journal grow**, and where it returns
the document is stored behind its predecessors. -/
theorem record_safe :
    Safe growth (fun _ => Recorded batchId phase binding) (record batchId phase binding) P := by
  refine Safe.bind Safe.require fun _ => Safe.bind openDirectory_safe fun _ => ?_
  refine Safe.andFinally (Safe.bind openDirectory_safe fun _ => ?_) bare_safe
  exact Safe.andFinally recordOpen_safe bare_safe

/-! ### A recorder alone, without failures -/

section Alone

variable {s t : JournalStore} {r : Except JournalExn α}

/-- Alone, and no call fails. -/
abbrev Clean (m : Recorder α) (s : JournalStore) (r : Except JournalExn α) (t : JournalStore) :
    Prop :=
  Gives CallOutcome.Clean m s r t

theorem look_clean {view : JournalStore → Except JournalExn α} (h : view s = r) :
    Clean (look fun _ => view) s r s := by
  subst h
  intro outcome hclean
  cases outcome with
  | succeeds => exact ⟨rfl, rfl⟩
  | shortWrite n => exact ⟨rfl, rfl⟩
  | _ => exact hclean.elim

theorem bare_clean : Clean bare s (.ok ()) s := look_clean rfl

theorem mutate_clean {change : JournalStore → Except JournalExn JournalStore}
    (h : change s = .ok t) : Clean (mutate change) s (.ok ()) t := by
  have hsettle : settle (.ok ()) s (change s) = (.ok (), t) := by
    rw [h]
    rfl
  intro outcome hclean
  cases outcome with
  | succeeds => exact Prod.ext_iff.mp hsettle
  | shortWrite n => exact Prod.ext_iff.mp hsettle
  | _ => exact hclean.elim

theorem translate_clean {m : Recorder α} {raised : JournalExn} {a : α}
    (h : Clean m s (.ok a) t) : Clean (translate m raised) s (.ok a) t :=
  Gives.tryCatch_ok h

theorem sync_clean : Clean sync s (.ok ()) s := translate_clean bare_clean

theorem isJournalName_identifier : isJournalName batchId.value = true := by
  have hv := batchId.valid
  rcases ht : batchId.value with - | ⟨c, rest⟩
  · rw [ht] at hv
    cases hv
  · rw [ht] at hv
    unfold isIdText at hv
    unfold isJournalName
    rw [Bool.and_eq_true, Bool.and_eq_true, List.all_eq_true] at hv
    rw [Bool.and_eq_true, Bool.and_eq_true, List.all_eq_true]
    refine ⟨⟨hv.1.1, fun d hd => ?_⟩, hv.2⟩
    rw [hv.1.2 d hd]
    rfl

theorem isJournalName_text (name : DirectoryName) : isJournalName name.text = true := by
  cases name with
  | batches => decide
  | batch batchId => exact isJournalName_identifier

theorem secureDirectory_clean {name : DirectoryName} (h : s.trusted name = some true) :
    Clean (secureDirectory name) s (.ok ()) s := by
  refine Gives.bind (a := s.trusted name) (translate_clean (look_clean rfl)) ?_
  rw [h]
  exact Gives.require

/-- The directory is there afterwards, and no file has changed. -/
theorem openDirectory_clean (name : DirectoryName) (hs : Ordered s)
    (hparent : name ≠ .batches → s.batches.isSome) :
    ∃ t, Clean (openDirectory name) s (.ok ()) t ∧ Ordered t ∧ (t.trusted name).isSome ∧
      ∀ batchId phase, t.file batchId phase = s.file batchId phase := by
  have hopen : Clean (translate (openNamed name) .invalid) s (.ok (s.trusted name).isSome) s :=
    translate_clean (look_clean rfl)
  rcases hfound : s.trusted name with - | flag
  · rw [hfound] at hopen
    obtain ⟨t, hmkdir⟩ : ∃ t, mkdir name s = .ok t := by
      cases name with
      | batches =>
          have hnone : s.batches = none := Option.map_eq_none_iff.mp hfound
          dsimp only [mkdir]
          rw [hnone]
          exact ⟨_, rfl⟩
      | batch batchId =>
          have hnone : s.directory batchId = none := Option.map_eq_none_iff.mp hfound
          obtain ⟨b, hb⟩ := Option.isSome_iff_exists.mp (hparent fun h => by cases h)
          dsimp only [mkdir]
          rw [hnone, hb]
          exact ⟨_, rfl⟩
    obtain ⟨hfiles, ht⟩ := mkdir_grows hs hmkdir
    have hcreated : t.trusted name = some true := by
      cases name with
      | batches =>
          dsimp only [mkdir] at hmkdir
          split at hmkdir
          · cases hmkdir
          · cases hmkdir
            rfl
      | batch batchId =>
          dsimp only [mkdir] at hmkdir
          split at hmkdir
          · cases hmkdir
          · cases hmkdir
          · next b hb hnone =>
              cases hmkdir
              have hsome : s.batches.isSome := by
                rw [hb]
                rfl
              rw [trusted_batch, directory_setDirectory hsome, if_pos rfl]
              rfl
    have hnamed : Clean (openNamed name) t (.ok true) t := by
      apply look_clean
      rw [hcreated]
      rfl
    refine ⟨t, ?_, ht, by rw [hcreated]; rfl, hfiles⟩
    apply Gives.check (isJournalName_text name)
    apply hopen.bind
    refine Gives.bind (a := ()) (translate_clean ?_) (Gives.tryCatch_ok (secureDirectory_clean hcreated))
    exact (mutate_clean hmkdir).bind (sync_clean.bind (hnamed.bind Gives.require))
  · have htrue : flag = true := hs.trusted name flag hfound
    subst htrue
    rw [hfound] at hopen
    refine ⟨s, ?_, hs, by rw [hfound]; rfl, fun _ _ => rfl⟩
    apply Gives.check (isJournalName_text name)
    apply hopen.bind
    exact Gives.pure.bind (Gives.tryCatch_ok (secureDirectory_clean hfound))

theorem readOpen_clean {file : PhaseFile} (hs : Ordered s) (hf : s.file batchId phase = some file) :
    Clean (readOpen batchId phase) s (.ok (some file.content)) s := by
  obtain ⟨htrusted, binding, hcontent⟩ := hs.documents batchId phase file hf
  have hlength : 1 ≤ (document batchId phase binding).length ∧
      (document batchId phase binding).length ≤ 4096 := document_length
  rw [← hcontent] at hlength
  have hread : Clean (osRead batchId phase file.content.length) s (.ok file.content) s := by
    have hwhole : ((s.file batchId phase).elim [] (·.content)).take (file.content.length + 1) =
        file.content := by
      rw [hf]
      exact List.take_of_length_le (Nat.le_succ _)
    intro outcome hclean
    cases outcome with
    | succeeds => exact ⟨congrArg _ hwhole, rfl⟩
    | shortWrite n => exact ⟨congrArg _ hwhole, rfl⟩
    | _ => exact hclean.elim
  refine Gives.bind (a := file) (look_clean ?_) ?_
  · rw [hf]
  apply Gives.check
  · rw [htrusted, decide_eq_true hlength.1, decide_eq_true hlength.2]
    rfl
  apply hread.bind
  exact Gives.check (decide_eq_true rfl) Gives.pure

theorem read_clean (hs : Ordered s) :
    Clean (read batchId phase) s (.ok ((s.file batchId phase).map (·.content))) s := by
  refine Gives.bind (a := (s.file batchId phase).isSome) (translate_clean (look_clean rfl)) ?_
  rcases hf : s.file batchId phase with - | file
  · exact Gives.pure
  · exact Gives.andFinally (translate_clean (readOpen_clean hs hf)) bare_clean

theorem anyMissing_clean (hs : Ordered s) (list : List ProductionBatchPhase) :
    Clean (anyMissing batchId list) s
      (.ok (list.any fun phase => (s.file batchId phase).isNone)) s := by
  induction list with
  | nil => exact Gives.pure
  | cons phase rest ih =>
      apply (read_clean hs).bind
      rw [List.any_cons]
      rcases s.file batchId phase with - | file
      · exact Gives.pure
      · exact ih

theorem writeAll_clean {turns : Nat} {temporary content : Bytes} (h : content.length ≤ turns) :
    Clean (writeAll turns temporary content) s (.ok (temporary ++ content)) s := by
  induction turns generalizing temporary content with
  | zero =>
      have hnil : content = [] := List.eq_nil_of_length_eq_zero (Nat.le_zero.mp h)
      subst hnil
      rw [List.append_nil]
      exact Gives.pure
  | succ turns ih =>
      unfold writeAll
      split
      · next hnil =>
          subst hnil
          rw [List.append_nil]
          exact Gives.pure
      · next hne =>
          have hpos : 0 < content.length := List.length_pos_iff.mpr hne
          -- what one write takes is not determined, what all of them take is
          have hrest : ∀ written, 0 < written → Ends CallOutcome.Clean (do
              Code.require (0 < written) .unavailable
              writeAll turns (temporary ++ content.take written) (content.drop written)) s
              fun r t => r = .ok (temporary ++ content) ∧ t = s := by
            intro written hw
            apply Gives.check (decide_eq_true hw)
            have hlen : (content.drop written).length ≤ turns := by
              rw [List.length_drop]
              omega
            have hturn : Clean (writeAll turns (temporary ++ content.take written)
                (content.drop written)) s _ s := ih hlen
            rwa [List.append_assoc, List.take_append_drop] at hturn
          apply ends_bind.mpr
          apply ends_tryCatch.mpr
          intro outcome hclean
          cases outcome with
          | succeeds =>
              refine ⟨fun a ha => ⟨fun b hb => ?_, fun _ he => by cases he⟩, fun _ he => by cases he⟩
              cases ha
              cases hb
              exact hrest _ hpos
          | shortWrite n =>
              refine ⟨fun a ha => ⟨fun b hb => ?_, fun _ he => by cases he⟩, fun _ he => by cases he⟩
              cases ha
              cases hb
              exact hrest _ (Nat.lt_min.mpr ⟨hclean, hpos⟩)
          | _ => exact hclean.elim

theorem writeTemporary_clean {content : Bytes} :
    Clean (writeTemporary content) s (.ok content) s := by
  apply (translate_clean bare_clean).bind
  apply Gives.tryCatch_ok
  apply (writeAll_clean (Nat.le_refl _)).bind
  exact sync_clean.bind (bare_clean.bind Gives.pure)

theorem publish_clean {content : Bytes} (hnone : s.file batchId phase = none)
    (hdirectory : (s.directory batchId).isSome) :
    ∃ t, link batchId phase content s = .ok t ∧ Clean (publish batchId phase content) s (.ok ()) t := by
  obtain ⟨d, hd⟩ := Option.isSome_iff_exists.mp hdirectory
  have hfiles : d.files phase = none := by
    unfold file at hnone
    rw [hd] at hnone
    exact hnone
  obtain ⟨t, hlink⟩ : ∃ t, link batchId phase content s = .ok t := by
    unfold link
    rw [hd]
    dsimp only
    rw [hfiles]
    exact ⟨_, rfl⟩
  refine ⟨t, hlink, writeTemporary_clean.bind (Gives.tryCatch_ok ?_)⟩
  exact (mutate_clean hlink).bind (sync_clean.bind (bare_clean.bind sync_clean))

/-- Behind its predecessors a recorder stores the document, unless another
one is there. -/
theorem recordOpen_clean (phase : ProductionBatchPhase) (binding : Sha256) (hs : Ordered s)
    (hdirectory : (s.directory batchId).isSome) :
    ∃ r t, Clean (recordOpen batchId phase (document batchId phase binding)) s r t ∧
      (r = .ok () ↔ (Recorded batchId phase binding).holds t) := by
  have hmissing : Clean (anyMissing batchId phase.earlier) s _ s := anyMissing_clean hs _
  by_cases hpresent : (AllPresent batchId phase.earlier).holds s
  · have hnone : (phase.earlier.any fun p => (s.file batchId p).isNone) = false := by
      apply List.any_eq_false.mpr
      intro p hp
      obtain ⟨file, hf⟩ := Option.isSome_iff_exists.mp (hpresent p hp)
      rw [hf]
      exact Bool.false_ne_true
    rw [hnone] at hmissing
    rcases hf : s.file batchId phase with - | file
    · obtain ⟨t, hlink, hpublish⟩ : ∃ t,
          link batchId phase (document batchId phase binding) s = .ok t ∧ _ :=
        publish_clean hf hdirectory
      obtain ⟨hextends, ht⟩ := link_grows hs hpresent hlink
      have hstored : t.file batchId phase = some ⟨true, document batchId phase binding⟩ := by
        rw [(link_ok hlink).2, if_pos ⟨rfl, rfl⟩]
      refine ⟨.ok (), t, ?_, iff_of_true rfl ⟨?_, ⟨_, hstored, rfl⟩⟩⟩
      · apply hmissing.bind
        apply Gives.check rfl
        apply (read_clean hs).bind
        rw [hf]
        apply hpublish.bind
        apply (read_clean ht).bind
        rw [hstored]
        exact Gives.require_true (decide_eq_true rfl)
      · exact (AllPresent batchId phase.earlier).up hextends hpresent
    · refine ⟨if decide (file.content = document batchId phase binding) then .ok ()
        else .error .drift, s, ?_, ?_⟩
      · apply hmissing.bind
        apply Gives.check rfl
        apply (read_clean hs).bind
        rw [hf]
        exact Gives.require
      · constructor
        · intro h
          split at h
          · next hequal => exact ⟨hpresent, file, hf, of_decide_eq_true hequal⟩
          · cases h
        · rintro ⟨-, file', hf', hequal⟩
          obtain rfl : file = file' := Option.some.inj (hf.symm.trans hf')
          rw [if_pos (decide_eq_true hequal)]
  · have hsome : (phase.earlier.any fun p => (s.file batchId p).isNone) = true := by
      apply Bool.eq_true_of_not_eq_false
      intro hfalse
      apply hpresent
      intro p hp
      have := List.any_eq_false.mp hfalse p hp
      cases hf : s.file batchId p with
      | none =>
          rw [hf] at this
          exact absurd rfl this
      | some _ => rfl
    rw [hsome] at hmissing
    refine ⟨.error .invalid, s, hmissing.bind (Gives.bind_error Gives.require), ?_⟩
    exact ⟨fun h => (by cases h), fun h => absurd h.1 hpresent⟩

/-- **A recorder alone, none of whose calls fails**, succeeds exactly when the
document is stored behind its predecessors. -/
theorem record_clean (batchId : Identifier) (phase : ProductionBatchPhase) (binding : Sha256)
    (hs : Ordered s) :
    ∃ r t, Clean (record batchId phase binding) s r t ∧
      (r = .ok () ↔ (Recorded batchId phase binding).holds t) := by
  obtain ⟨t₁, hbatches, ht₁, hsome, -⟩ := openDirectory_clean .batches hs
    fun h => absurd rfl h
  have hparent : t₁.batches.isSome := by
    rwa [trusted, Option.isSome_map] at hsome
  obtain ⟨t₂, hbatch, ht₂, hsome₂, -⟩ := openDirectory_clean (.batch batchId) ht₁
    fun _ => hparent
  have hdirectory : (t₂.directory batchId).isSome := by
    rwa [trusted_batch, Option.isSome_map] at hsome₂
  obtain ⟨r, t, hopen, hiff⟩ := recordOpen_clean phase binding ht₂ hdirectory
  refine ⟨r, t, ?_, hiff⟩
  apply Gives.check isJournalName_identifier
  apply hbatches.bind
  exact Gives.andFinally (hbatch.bind (Gives.andFinally hopen bare_clean)) bare_clean

end Alone

end Journal

/-! ### Any number of recorders -/

/-- One call of `record`. -/
structure RecordCall where
  batchId : Identifier
  phase : ProductionBatchPhase
  binding : Sha256
  deriving DecidableEq

/-- Recorders on one root.  One that crashed is there for ever, unfinished. -/
abbrev JournalWorld := Shared JournalStore CallOutcome JournalExn Unit RecordCall

/-- A recorder starts, or one of them makes its next system call. -/
abbrev JournalEvent := Sched CallOutcome RecordCall

namespace JournalWorld

/-- The root before the first recorder. -/
def start : JournalWorld := ⟨.empty, []⟩

/-- One event. -/
def step : JournalWorld → JournalEvent → Option JournalWorld :=
  Shared.step fun call : RecordCall => Journal.record call.batchId call.phase call.binding

/-- A call that returned. -/
def Succeeded (w : JournalWorld) (call : RecordCall) : Prop :=
  (call, .done (.ok ())) ∈ w.threads

/-- The phases of every batch are an initial segment of the phase order. -/
def Initial (s : JournalStore) : Prop :=
  ∀ batchId, ∃ count, ∀ phase, (s.file batchId phase).isSome ↔ phase ∈ phases.take count

end JournalWorld

section Schedules

variable {batchId : Identifier} {s : JournalStore} {log : List JournalEvent} {w : JournalWorld}

theorem initial_of_ordered (hs : Ordered s) : JournalWorld.Initial s := by
  intro batchId
  let present : ProductionBatchPhase → Bool := fun phase => (s.file batchId phase).isSome
  have htake : phases.take (phases.takeWhile present).length = phases.takeWhile present :=
    (List.prefix_iff_eq_take.mp (List.takeWhile_prefix present)).symm
  refine ⟨(phases.takeWhile present).length, fun phase => ?_⟩
  rw [htake]
  constructor
  · intro hpresent
    obtain ⟨later, hsplit⟩ : ∃ later, phases = phase.earlier ++ phase :: later := by
      cases phase <;> exact ⟨_, rfl⟩
    have hearlier : ∀ p ∈ phase.earlier, present p = true := fun p hp =>
      hs.initial batchId phase p hp hpresent
    rw [hsplit, List.takeWhile_append_of_pos hearlier,
      List.takeWhile_cons_of_pos (p := present) hpresent]
    exact List.mem_append_right _ List.mem_cons_self
  · intro hmem
    exact List.all_eq_true.mp (List.all_takeWhile (p := present)) phase hmem

/-- What any schedule keeps. -/
theorem journal_safe {v : JournalWorld}
    (hv : Shared.AllSafe growth
      (fun call _ => Journal.Recorded call.batchId call.phase call.binding) v)
    (h : run JournalWorld.step v log = some w) : growth.le v.state w.state ∧
      Shared.AllSafe growth
        (fun call _ => Journal.Recorded call.batchId call.phase call.binding) w :=
  Shared.run_safe (fun _ => Journal.record_safe) hv h

theorem start_safe : Shared.AllSafe growth
    (fun (call : RecordCall) (_ : Unit) =>
      Journal.Recorded call.batchId call.phase call.binding) JournalWorld.start :=
  ⟨ordered_empty, fun _ h => by cases h⟩

end Schedules

/-- **The journal is an append-only prefix of the phase order.**  After any
schedule of any number of recorders, crashes and failures included: the phases
of each batch are an initial segment; what was visible before is there
unchanged; a call that returned has its document stored behind its
predecessors; two calls that returned for one phase of one batch had one
binding; and a call that is alone from here on, and of which no system call
fails, returns exactly when its document is stored behind its predecessors. -/
theorem journal_append_only {log : List JournalEvent} {w : JournalWorld}
    (h : run JournalWorld.step .start log = some w) :
    JournalWorld.Initial w.state ∧
      (∀ before after v, log = before ++ after → run JournalWorld.step .start before = some v →
        Extends v.state w.state) ∧
      (∀ call, w.Succeeded call →
        (Journal.Recorded call.batchId call.phase call.binding).holds w.state) ∧
      (∀ call call', w.Succeeded call → w.Succeeded call' → call.batchId = call'.batchId →
        call.phase = call'.phase → call.binding = call'.binding) ∧
      ∀ call : RecordCall, Ends CallOutcome.Clean
        (Journal.record call.batchId call.phase call.binding) w.state fun r t =>
          r = .ok () ↔ (Journal.Recorded call.batchId call.phase call.binding).holds t := by
  obtain ⟨-, hsafe⟩ := journal_safe start_safe h
  have hrecorded : ∀ call, w.Succeeded call →
      (Journal.Recorded call.batchId call.phase call.binding).holds w.state :=
    fun call hcall => hsafe.finished hcall
  refine ⟨initial_of_ordered hsafe.1, ?_, hrecorded, ?_, ?_⟩
  · rintro before after v rfl hv
    obtain ⟨v', hv', hafter⟩ := run_split h
    obtain rfl : v = v' := Option.some.inj (hv.symm.trans hv')
    exact (journal_safe (journal_safe start_safe hv).2 hafter).1
  · rintro ⟨batchId, phase, binding⟩ ⟨_, _, binding'⟩ hcall hcall' rfl rfl
    obtain ⟨-, file, hf, hcontent⟩ := hrecorded _ hcall
    obtain ⟨-, file', hf', hcontent'⟩ := hrecorded _ hcall'
    obtain rfl : file = file' := Option.some.inj (hf.symm.trans hf')
    exact document_inj (hcontent.symm.trans hcontent')
  · intro call
    obtain ⟨r, t, hclean, hiff⟩ := Journal.record_clean call.batchId call.phase call.binding
      hsafe.1
    exact hclean.ends hiff

/-! ### A failure after the link -/

namespace FailedSync

/-- The first phase of a batch. -/
def call : RecordCall :=
  ⟨Id.lit .identifier "batch-1", .candidatesReady, sampleHash⟩

/-- The first `fsync` of the directory after the link fails; the descriptors
are closed. -/
def log : List JournalEvent :=
  .start call :: List.replicate 16 (.act 0 .succeeds) ++
    [.act 0 .fails, .act 0 .succeeds, .act 0 .succeeds]

/-- The calls and how they ended, and the content of the phase. -/
def observe (w : JournalWorld) :
    List (RecordCall × Option (Except JournalExn Unit)) × Option Bytes :=
  (w.threads.map fun t => (t.1, t.2.result),
    (w.state.file call.batchId call.phase).map (·.content))

theorem observed : (run JournalWorld.step .start log).map observe =
    some ([(call, some (.error .unavailable))],
      some (document call.batchId call.phase call.binding)) := by
  decide +kernel

theorem reached : ∃ w, run JournalWorld.step .start log = some w ∧
    w.threads = [(call, .done (.error .unavailable))] ∧
      (Journal.Recorded call.batchId call.phase call.binding).holds w.state := by
  obtain ⟨w, hw, hobserved⟩ := Option.map_eq_some_iff.mp observed
  obtain ⟨hthreads, hfile⟩ := Prod.mk.inj hobserved
  obtain ⟨⟨task, code⟩, hone, hpair⟩ := List.map_eq_singleton_iff.mp hthreads
  obtain ⟨rfl, hresult⟩ := Prod.mk.inj hpair
  refine ⟨w, hw, ?_, ?_, Option.map_eq_some_iff.mp hfile⟩
  · have hcode : code = .done (.error .unavailable) := Code.result_eq_some_iff.mp hresult
    rw [hone, hcode]
  · intro phase hp
    cases hp

end FailedSync

/-- The document is stored behind its predecessors, and the call has raised. -/
theorem recorded_but_raised : ∃ w, run JournalWorld.step .start FailedSync.log = some w ∧
    (FailedSync.call, .done (.error .unavailable)) ∈ w.threads ∧
      (Journal.Recorded FailedSync.call.batchId FailedSync.call.phase
        FailedSync.call.binding).holds w.state := by
  obtain ⟨w, hw, hthreads, hrecorded⟩ := FailedSync.reached
  refine ⟨w, hw, ?_, hrecorded⟩
  rw [hthreads]
  exact List.mem_singleton_self _

namespace ContestedPhase

/-- Another binding for the same phase. -/
def rival : RecordCall :=
  ⟨FailedSync.call.batchId, .candidatesReady, otherHash⟩

/-- The next phase. -/
def later : RecordCall := ⟨FailedSync.call.batchId, .cohortFrozen, sampleHash⟩

/-- While the first call records its phase and fails after the link, the rival
has checked that the phase is free; the next phase is recorded at the end. -/
def contest : List JournalEvent :=
  [.start FailedSync.call, .start rival] ++ List.replicate 8 (.act 0 .succeeds) ++
    List.replicate 7 (.act 1 .succeeds) ++ List.replicate 8 (.act 0 .succeeds) ++
    [.act 0 .fails, .act 0 .succeeds, .act 0 .succeeds] ++ List.replicate 10 (.act 1 .succeeds)

def log : List JournalEvent := contest ++ .start later :: List.replicate 23 (.act 2 .succeeds)

theorem observed : (run JournalWorld.step .start log).map (fun w =>
    w.threads.map fun t => (t.1, t.2.result)) =
      some [(FailedSync.call, some (.error .unavailable)), (rival, some (.error .drift)),
        (later, some (.ok ()))] := by
  decide +kernel

theorem reached : ∃ v w, run JournalWorld.step .start contest = some v ∧
    run JournalWorld.step .start log = some w ∧ w.Succeeded later := by
  obtain ⟨w, hw, hthreads⟩ := Option.map_eq_some_iff.mp observed
  obtain ⟨v, hv, -⟩ := run_split hw
  refine ⟨v, w, hv, hw, ?_⟩
  have hmem : (later, some (.ok ())) ∈ w.threads.map fun t => (t.1, t.2.result) := by
    rw [hthreads]
    decide
  obtain ⟨⟨call, code⟩, ht, hpair⟩ := List.mem_map.mp hmem
  obtain ⟨rfl, hresult⟩ := Prod.mk.inj hpair
  have hcode : code = .done (.ok ()) := Code.result_eq_some_iff.mp hresult
  rw [hcode] at ht
  exact ht

end ContestedPhase

/-- The journal after a phase has been contested: it is in order, what was
visible stays, and the next phase is stored behind it. -/
theorem journal_append_only_contested : ∃ v w,
    run JournalWorld.step .start ContestedPhase.contest = some v ∧
    run JournalWorld.step .start ContestedPhase.log = some w ∧
    JournalWorld.Initial w.state ∧ Extends v.state w.state ∧
    (Journal.Recorded ContestedPhase.later.batchId ContestedPhase.later.phase
      ContestedPhase.later.binding).holds w.state := by
  obtain ⟨v, w, hv, hw, hlater⟩ := ContestedPhase.reached
  obtain ⟨hinitial, hextends, hrecorded, -⟩ := journal_append_only hw
  exact ⟨v, w, hv, hw, hinitial, hextends _ _ v rfl hv, hrecorded _ hlater⟩

end SpecStyle
