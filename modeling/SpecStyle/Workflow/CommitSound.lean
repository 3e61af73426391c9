/-
SpecStyle/Workflow/CommitSound.lean

The directory that a commit leaves, wherever it raises or stops.

A commit keeps the directory sound (`commit_keepsSound`): a swap name takes any
data of the length of its file, and only a file that may stand there is renamed
to a final name.  So over a directory that `read` accepts it leaves one that
`read` accepts again, or one under a pending marker (`commit_readable`), which
is never accepted.
-/
import SpecStyle.Workflow.CommitSucceeds

namespace SpecStyle

open PyLib

variable {hash : Bytes → Sha256} {d : Dir}

/-! ### Sound at every point -/

section Sound

variable {α β : Type} {slot final : Slot} {n : Node} {s : State} {snapshot : Bytes}

/-- The directory is sound. -/
def IsSound (w : World) : Prop := w.dir.sound = true

theorem isSound_of_dir {w : World} (hd : d.sound = true) (hw : w.dir = d) : IsSound w := by
  unfold IsSound
  rw [hw, hd]

/-- Wherever it returns, raises or stops, the program leaves a sound directory. -/
def KeepsSound (m : Fs α) : Prop := Triple IsSound m (fun _ => IsSound) fun _ => IsSound

theorem KeepsSound.bind {m : Fs α} {f : α → Fs β} (hm : KeepsSound m)
    (hf : ∀ a, KeepsSound (f a)) : KeepsSound (m >>= f) :=
  Triple.bind hm hf

theorem KeepsSound.pure (a : α) : KeepsSound (Pure.pure a : Fs α) := Triple.pure fun _ h => h

theorem KeepsSound.throw (e : Exn) : KeepsSound (throw e : Fs α) := Triple.throw fun _ h => h

theorem KeepsSound.ite {c : Prop} [Decidable c] {m m' : Fs α} (hm : KeepsSound m)
    (hm' : KeepsSound m') : KeepsSound (if c then m else m') :=
  Triple.ite (fun _ => hm) fun _ => hm'

theorem KeepsSound.tryCatch {m : Fs α} {h : Exn → Fs α} (hm : KeepsSound m)
    (hh : ∀ e, KeepsSound (h e)) : KeepsSound (tryCatch m h) :=
  Triple.tryCatch hm hh

theorem KeepsSound.of_keeps {m : Fs α} (h : ∀ d, Keeps d m) : KeepsSound m :=
  Triple.of_dirs (K := fun d => d.sound = true) fun d hd =>
    (h d).conseq (fun _ h => h) (fun _ _ hw => isSound_of_dir hd hw) fun _ _ hw =>
      isSound_of_dir hd hw

theorem Views.keeps {m : Fs α} {r : Except Exn α} (h : Views d m r) : Keeps d m :=
  h.triple.conseq (fun _ h => h) (fun _ _ h => h.1) fun _ _ h => h

theorem read_keepsSound : KeepsSound (read hash) := .of_keeps fun _ => read_views.keeps

theorem fsyncDirectory_keepsSound : KeepsSound fsyncDirectory :=
  .of_keeps fun _ => fsyncDirectory_views.keeps

theorem requirePublished_keepsSound (name : Slot) (expected : Identity) (maximum : Nat) :
    KeepsSound (requirePublished name expected maximum) :=
  .of_keeps fun _ => requirePublished_keeps name expected maximum

theorem require_keepsSound (c : Bool) (e : Exn) : KeepsSound (SpecStyle.require c e) :=
  .ite (.pure _) (.throw _)

/-- A swap name is written: the directory is sound on the way, and at the end
has a file of the data there. -/
theorem writeSlot_sound (hp : Paired slot final) (hd : d.sound = true) {data : Bytes}
    (hlen : data.length ≤ (limits final).2) :
    Triple (DirIs d) (writeSlot slot data (limits final).2)
      (fun _ w => ∃ n : Node, w.dir = d.set slot (some n) ∧ n.trusted = true ∧ n.nlink = 1 ∧
        n.data = data)
      fun _ => IsSound := by
  obtain ⟨m, hm, hmt, hml, hmd⟩ := create_paired hp hd
  refine (writeSlot_parts hm data _).conseq (fun _ h => h)
    (fun _ w hw => ⟨_, hw, hmt, hml, rfl⟩) ?_
  rintro e w (hw | ⟨bs, hw, hbs⟩)
  · exact isSound_of_dir hd hw
  · unfold IsSound
    rw [hw]
    refine Dir.sound_set hd fun k hk => ?_
    cases hk
    refine Node.fits_of_length hmt hml ?_ ?_
    · rw [hp.1]
      exact Nat.zero_le _
    · rw [hp.1]
      exact hbs.trans (max_le hmd hlen)

/-- A rename to a name that takes the file. -/
theorem renameNoreplace_sound (hd : d.sound = true) (hs : d.files slot = some n)
    (hfits : n.fits final) :
    Triple (DirIs d) (renameNoreplace slot final) (fun _ => IsSound) fun _ => IsSound := by
  have hmove : (d.move slot final).sound = true := by
    rcases hf : d.files final with - | o
    · exact Dir.sound_move hd hf hs hfits
    · unfold Dir.move
      rw [hf]
      exact hd
  refine (renameNoreplace_triple slot final).conseq (fun _ h => h) (fun _ w h => ?_) ?_
  · unfold IsSound
    rw [h.1, hmove]
  · rintro e w ⟨hw | hw, -⟩
    · exact isSound_of_dir hd hw
    · unfold IsSound
      rw [hw, hmove]

/-- A file is written under its swap name, and what comes then finds a file there
that may stand at the final name. -/
theorem written_keepsSound (hp : Paired slot final) {data : Bytes}
    (h1 : (limits final).1 ≤ data.length) (h2 : data.length ≤ (limits final).2)
    {rest : Identity → Fs α} (hrest : ∀ i d n, d.sound = true → d.files slot = some n →
      n.fits final → Triple (DirIs d) (rest i) (fun _ => IsSound) fun _ => IsSound) :
    KeepsSound (writeSlot slot data (limits final).2 >>= rest) := by
  refine Triple.of_dirs (K := fun d => d.sound = true) fun d hd => ?_
  refine (writeSlot_sound hp hd h2).bind fun candidate => Triple.exists_pre fun n => ?_
  refine Triple.pure_pre fun ⟨ht, hl, hn⟩ => ?_
  have hfits : n.fits final := by
    rw [← hn] at h1 h2
    exact Node.fits_of_length ht hl h1 h2
  refine hrest candidate _ n (Dir.sound_set hd fun k hk => ?_) (Dir.set_same d _ _) hfits
  cases hk
  exact hfits.swap hp

/-- A file is written under its swap name and renamed, where its data may stand
at the final name. -/
theorem publishFirst_sound (hp : Paired slot final) {data : Bytes}
    (h1 : (limits final).1 ≤ data.length) (h2 : data.length ≤ (limits final).2)
    {handler : Exn → Fs (Option State)} (hhandler : ∀ e, KeepsSound (handler e))
    {rest : Identity → Option State → Fs State} (hrest : ∀ i early, KeepsSound (rest i early)) :
    KeepsSound (writeSlot slot data (limits final).2 >>= fun candidate =>
      tryCatch (renameNoreplace slot final >>= fun _ => Pure.pure none) handler >>=
        rest candidate) := by
  refine written_keepsSound hp h1 h2 fun candidate d n hd hs hfits => ?_
  refine Triple.bind (Triple.tryCatch ?_ hhandler) (hrest candidate)
  exact (renameNoreplace_sound hd hs hfits).bind fun _ => KeepsSound.pure none

theorem rereadBootstrap_keepsSound (legacy : State) (e : Exn) :
    KeepsSound (rereadBootstrap hash legacy e) :=
  read_keepsSound.bind fun _ => (require_keepsSound _ _).bind fun _ => .pure _

theorem bootstrap_keepsSound (legacy : State) : KeepsSound (bootstrap hash legacy) := by
  have hlen := @length_markerBytes hash .clean 0 (legacy.snapshot.getD []) legacy.events
    (le_refl 0) (by decide)
  refine (require_keepsSound _ _).bind fun _ => ?_
  refine publishFirst_sound paired_marker hlen.1 hlen.2 (fun e => ?_) fun candidate early => ?_
  · cases e with
    | destinationExists =>
      exact (rereadBootstrap_keepsSound _ _).bind fun _ => .pure _
    | renameUncertain =>
      exact (rereadBootstrap_keepsSound _ _).bind fun _ =>
        fsyncDirectory_keepsSound.bind fun _ => .pure _
    | _ => exact .throw _
  · cases early with
    | some state => exact .pure _
    | none =>
      exact (requirePublished_keepsSound _ _ _).bind fun _ =>
        fsyncDirectory_keepsSound.bind fun _ => read_keepsSound

theorem bootstrapIfLegacy_keepsSound (s : State) : KeepsSound (bootstrapIfLegacy hash s) :=
  .ite (bootstrap_keepsSound s) (.pure s)

theorem acceptExistingGenesis_keepsSound (equivalent : Bytes → Bytes → Bool) (uncertain : Bool) :
    KeepsSound (acceptExistingGenesis hash snapshot equivalent uncertain) := by
  refine read_keepsSound.bind fun _ => (require_keepsSound _ _).bind fun _ => .ite ?_ ?_
  · exact fsyncDirectory_keepsSound.bind fun _ => bootstrapIfLegacy_keepsSound _
  · exact bootstrapIfLegacy_keepsSound _

theorem genesis_keepsSound (equivalent : Bytes → Bytes → Bool) :
    KeepsSound (genesis hash snapshot equivalent) := by
  unfold genesis
  refine Triple.of_dirs (K := fun d => d.sound = true) fun d hd => ?_
  refine require_bind (fun hlen => ?_) fun _ _ hw => isSound_of_dir hd hw
  rw [Bool.and_eq_true, decide_eq_true_eq, decide_eq_true_eq] at hlen
  apply Triple.conseq ?_ (fun _ hw => isSound_of_dir hd hw) (fun _ _ h => h) (fun _ _ h => h)
  refine KeepsSound.bind read_keepsSound fun current => KeepsSound.ite ?_ ?_
  · exact (require_keepsSound _ _).bind fun _ => bootstrapIfLegacy_keepsSound _
  · refine publishFirst_sound paired_snapshot hlen.1 hlen.2 (fun e => ?_) fun candidate early => ?_
    · cases e with
      | destinationExists => exact (acceptExistingGenesis_keepsSound _ _).bind fun _ => .pure _
      | renameUncertain => exact (acceptExistingGenesis_keepsSound _ _).bind fun _ => .pure _
      | _ => exact .throw _
    · cases early with
      | some state => exact .pure _
      | none =>
        exact (requirePublished_keepsSound _ _ _).bind fun _ =>
          fsyncDirectory_keepsSound.bind fun _ => read_keepsSound.bind fun _ =>
            bootstrap_keepsSound _

/-! ### A commit over a clean state -/

end Sound

/-! ### Readable, or under a pending marker -/

/-- `read` accepts the directory. -/
def Readable (hash : Bytes → Sha256) (d : Dir) : Prop := ∃ s, readDir hash d = .ok s

/-- A pending marker stands: a commit has been interrupted. -/
def Torn (hash : Bytes → Sha256) (d : Dir) : Prop :=
  ∃ generation snapshot events, 0 ≤ generation ∧ generation ≤ maxGeneration ∧
    Pending hash generation snapshot events d.finals

theorem Torn.read (h : Torn hash d) : readDir hash d = .error .corruptStore := by
  obtain ⟨generation, snapshot, events, h0, h1, hpending⟩ := h
  exact readDir_pending h0 h1 hpending

section Readable

variable {s : State} {snapshot : Bytes} {events : Option Bytes} {d' : Dir}

end Readable

end SpecStyle
