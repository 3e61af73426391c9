/-
SpecStyle/Workflow/CommitSucceeds.lean

A commit without faults goes through.

`Runs d m a d'` says that the program returns `a` and leaves `d'`, with no
fault on the way.  A look runs as the view says; a slot takes its data; a
rename goes through where its names allow it.  From there the two paths of a
commit are followed step by step: a first state (`genesis_runs`), and a new
pair over a clean one (`commitClean_runs`).
-/
import SpecStyle.Workflow.CommitAtomicity

namespace SpecStyle

open PyLib

variable {hash : Bytes → Sha256} {d d' d'' : Dir} {slot final name : Slot} {n o : Node}

/-! ### Running without faults -/

section Running

variable {ε α β : Type} {m : Prog ε World α} {f : α → Prog ε World β} {a : α} {b : β}

/-- Without faults the program returns `a` and leaves the directory `d'`. -/
def Runs (d : Dir) (m : Prog ε World α) (a : α) (d' : Dir) : Prop :=
  exec m ⟨d, []⟩ = (.ok a, ⟨d', []⟩)

theorem Runs.pure : Runs d (Pure.pure a : Prog ε World α) a d := rfl

theorem Runs.bind (hm : Runs d m a d') (hf : Runs d' (f a) b d'') : Runs d (m >>= f) b d'' := by
  unfold Runs at hm hf ⊢
  rw [PyLib.exec_bind, hm]
  exact hf

theorem Runs.exec_bind (hm : Runs d m a d') : exec (m >>= f) ⟨d, []⟩ = exec (f a) ⟨d', []⟩ := by
  unfold Runs at hm
  rw [PyLib.exec_bind, hm]

theorem Runs.tryCatch {h : ε → Prog ε World α} (hm : Runs d m a d') :
    Runs d (tryCatch m h) a d' := by
  unfold Runs at hm ⊢
  rw [exec_tryCatch, hm]

/-- A `try` whose body goes through and gives no early result. -/
theorem Runs.tryNone {m : Prog ε World Unit} {h : ε → Prog ε World (Option α)}
    (hm : Runs d m () d') :
    Runs d (MonadExcept.tryCatch (m >>= fun _ => Pure.pure none) h) none d' :=
  Runs.tryCatch (Runs.bind (f := fun _ => Pure.pure none) hm Runs.pure)

theorem Runs.ite_pos {c : Prop} [Decidable c] {m' : Prog ε World α} (hc : c)
    (hm : Runs d m a d') : Runs d (if c then m else m') a d' := by
  rw [if_pos hc]
  exact hm

theorem Runs.ite_neg {c : Prop} [Decidable c] {m' : Prog ε World α} (hc : ¬ c)
    (hm : Runs d m a d') : Runs d (if c then m' else m) a d' := by
  rw [if_neg hc]
  exact hm

theorem Views.runs (h : Views d m (.ok a)) : Runs d m a d := by
  obtain ⟨hd, hf, -⟩ := h ⟨d, []⟩ rfl
  exact Prod.ext h.faultless (World.mk.injEq .. ▸ ⟨hd, hf rfl⟩)

theorem require_runs {c : Bool} {e : Exn} (hc : c = true) : Runs d (require c e) () d :=
  (require_views hc e).runs

theorem mutate_runs (e : Exn) (change : Dir → Dir) : Runs d (mutate e change) () (change d) := rfl

end Running

/-! ### Sound directories -/

/-- A swap name has the bound of its final name, and none below. -/
def Paired (slot final : Slot) : Prop :=
  limits slot = (0, (limits final).2) ∧ slot.isSwap = true ∧ final.isSwap = false

theorem paired_snapshot : Paired .snapshotSwap .snapshot := ⟨rfl, rfl, rfl⟩

theorem paired_events : Paired .eventsSwap .events := ⟨rfl, rfl, rfl⟩

theorem paired_marker : Paired .markerSwap .marker := ⟨rfl, rfl, rfl⟩

theorem Paired.ne (h : Paired slot final) : slot ≠ final := by
  rintro rfl
  have hswap := h.2.1
  rw [h.2.2] at hswap
  exact Bool.noConfusion hswap

theorem Node.valid_iff {lo hi : Nat} : n.valid lo hi = true ↔
    n.trusted = true ∧ n.nlink = 1 ∧ lo ≤ n.data.length ∧ n.data.length ≤ hi := by
  unfold Node.valid
  simp only [Bool.and_eq_true, beq_iff_eq, decide_eq_true_eq, and_assoc]

/-- The file may stand at the name. -/
def Node.fits (n : Node) (name : Slot) : Prop :=
  n.valid (limits name).1 (limits name).2 = true

theorem Dir.fits_of_sound (hd : d.sound = true) (hn : d.files name = some n) : n.fits name := by
  have hv := (Dir.sound_iff.mp hd).2 name
  rw [Dir.validAt_some hn] at hv
  exact hv

/-- What may stand at the final name may stand at its swap name. -/
theorem Node.fits.swap (hp : Paired slot final) (h : n.fits final) : n.fits slot := by
  unfold Node.fits at h ⊢
  rw [hp.1]
  rw [Node.valid_iff] at h ⊢
  exact ⟨h.1, h.2.1, Nat.zero_le _, h.2.2.2⟩

theorem Dir.sound_set {bound : Option Node} (hd : d.sound = true)
    (hfits : ∀ n, bound = some n → n.fits name) : (d.set name bound).sound = true := by
  obtain ⟨hforeign, hvalid⟩ := Dir.sound_iff.mp hd
  rw [Dir.sound_iff]
  refine ⟨hforeign, fun t => ?_⟩
  by_cases ht : t = name
  · subst ht
    rcases bound with - | n
    · unfold Dir.validAt
      rw [Dir.set_same]
      rfl
    · rw [Dir.validAt_some (Dir.set_same _ _ _)]
      exact hfits n rfl
  · have hv := hvalid t
    unfold Dir.validAt at hv ⊢
    rw [Dir.set_other _ _ ht]
    exact hv

theorem Dir.move_eq (hf : d.files final = none) (hs : d.files slot = some n) :
    d.move slot final = (d.set slot none).set final (some n) := by
  unfold Dir.move
  rw [hf, hs]

theorem Dir.exchange_eq (hf : d.files final = some o) (hs : d.files slot = some n) :
    d.exchange slot final = (d.set slot (some o)).set final (some n) := by
  unfold Dir.exchange
  rw [hf, hs]

theorem Dir.sound_move (hd : d.sound = true) (hf : d.files final = none)
    (hs : d.files slot = some n) (hfits : n.fits final) : (d.move slot final).sound = true := by
  rw [Dir.move_eq hf hs]
  refine Dir.sound_set (Dir.sound_set hd fun m hm => ?_) fun m hm => ?_
  · cases hm
  · cases hm
    exact hfits

theorem Dir.sound_exchange (hp : Paired slot final) (hd : d.sound = true)
    (hf : d.files final = some o) (hs : d.files slot = some n) (hfits : n.fits final) :
    (d.exchange slot final).sound = true := by
  rw [Dir.exchange_eq hf hs]
  refine Dir.sound_set (Dir.sound_set hd fun m hm => ?_) fun m hm => ?_
  · cases hm
    exact (Dir.fits_of_sound hd hf).swap hp
  · cases hm
    exact hfits

/-! ### The calls -/

theorem osWrite_runs (chunk : Bytes) :
    Runs d (osWrite name chunk) chunk.length (d.edit name (· ++ chunk)) := rfl

/-- The whole of the data is written in one turn. -/
theorem writeAll_runs (data : Bytes) :
    Runs (d.set name (some n)) (writeAll name data.length data) ()
      (d.set name (some { n with data := n.data ++ data })) := by
  rcases data with - | ⟨b, data⟩
  · rw [List.append_nil]
    exact Runs.pure
  · have hwrite := @osWrite_runs (d.set name (some n)) name (b :: data)
    rw [edit_set] at hwrite
    refine Runs.ite_neg (List.cons_ne_nil b data) (hwrite.bind ?_)
    refine (require_runs (by simp)).bind ?_
    rw [List.drop_length]
    -- nothing is left, whatever the turns
    rcases data with - | ⟨c, data⟩
    · exact Runs.pure
    · exact Runs.ite_pos rfl Runs.pure

/-- Opening a swap name finds or makes a file of its own there. -/
theorem create_paired (hp : Paired slot final) (hd : d.sound = true) :
    ∃ m : Node, d.create slot = d.set slot (some m) ∧ m.trusted = true ∧ m.nlink = 1 ∧
      m.data.length ≤ (limits final).2 := by
  rcases hs : d.files slot with - | m
  · refine ⟨⟨d.fresh, true, 1, []⟩, ?_, rfl, rfl, Nat.zero_le _⟩
    unfold Dir.create
    rw [hs]
  · have hfits := Dir.fits_of_sound hd hs
    unfold Node.fits at hfits
    rw [hp.1, Node.valid_iff] at hfits
    refine ⟨m, ?_, hfits.1, hfits.2.1, hfits.2.2.2⟩
    unfold Dir.create
    rw [hs]
    show d = d.set slot (some m)
    rw [← hs, Dir.set_self]

/-- A swap name takes any data. -/
theorem writeSlot_runs (hp : Paired slot final) (hd : d.sound = true) (data : Bytes) :
    ∃ n : Node, n.data = data ∧ n.trusted = true ∧ n.nlink = 1 ∧
      Runs d (writeSlot slot data (limits final).2) n.identity (d.set slot (some n)) := by
  obtain ⟨m, hm, hmt, hml, hmd⟩ := create_paired hp hd
  have hvalid : ∀ n : Node, n.trusted = true → n.nlink = 1 → ∀ lo hi, lo ≤ n.data.length →
      n.data.length ≤ hi → Runs (d.set slot (some n)) (validateFile n lo hi) n.identity
        (d.set slot (some n)) := fun n ht hl lo hi h1 h2 =>
    (validateFile_views (Node.valid_iff.mpr ⟨ht, hl, h1, h2⟩)).runs
  have hstat : ∀ (n : Node) (e : Exn),
      Runs (d.set slot (some n)) (statFile slot e) n (d.set slot (some n)) := fun n e =>
    (statFile_views (Dir.set_same d slot _) e).runs
  refine ⟨{ m with data := data }, rfl, hmt, hml, ?_⟩
  have hagain := hvalid { m with data := data } hmt hml data.length data.length (le_refl _)
    (le_refl _)
  have hcreate := @mutate_runs d .storeError fun d => d.create slot
  have htrunc := @mutate_runs (d.set slot (some m)) .storeError fun d => d.edit slot fun _ => []
  have hall := @writeAll_runs d slot { m with data := [] } data
  simp only [hm] at hcreate
  rw [edit_set] at htrunc
  rw [List.nil_append] at hall
  refine hcreate.bind <| (hstat m _).bind <| (hvalid m hmt hml 0 _ (Nat.zero_le _) hmd).bind <|
    htrunc.bind <| hall.bind <| (look_views .storeError).runs.bind <| (hstat _ _).bind <|
    hagain.bind <| (hstat _ _).bind <| hagain.bind <| (require_runs ?_).bind <|
    (look_views .storeError).runs.bind Runs.pure
  simp [Identity.sameInode]

theorem renameNoreplace_runs (hf : d.files final = none) (hs : d.files slot = some n) :
    Runs d (renameNoreplace slot final) () (d.move slot final) := by
  show exec (noreplaceCall slot final) ⟨d, []⟩ = _
  unfold noreplaceCall
  rw [exec_bind, exec_get]
  simp [hf, hs]

theorem renameExchange_runs (hf : d.files final = some o) (hs : d.files slot = some n) :
    Runs d (renameExchange slot final) () (d.exchange slot final) := by
  show exec (exchangeCall slot final) ⟨d, []⟩ = _
  unfold exchangeCall
  rw [exec_bind, exec_get]
  simp [hf, hs]

theorem inspectFile_runs {lo hi : Nat} {missingOk : Bool} (hn : d.files name = some n)
    (hv : n.valid lo hi = true) :
    Runs d (inspectFile name lo hi missingOk) (some n.identity) d := by
  have hviews := inspectFile_views (d := d) name lo hi missingOk
  rw [hn] at hviews
  simp only [hv, if_true] at hviews
  exact hviews.runs

/-- A file that may stand at its name is found there, whatever the lower bound
up to that of the name. -/
theorem Node.fits.valid {lo : Nat} (h : n.fits name) (hlo : lo ≤ (limits name).1) :
    n.valid lo (limits name).2 = true := by
  unfold Node.fits at h
  rw [Node.valid_iff] at h ⊢
  exact ⟨h.1, h.2.1, hlo.trans h.2.2.1, h.2.2.2⟩

theorem requirePublished_runs (hn : d.files name = some n) (hfits : n.fits name) :
    Runs d (requirePublished name n.identity (limits name).2) () d := by
  refine (inspectFile_runs hn (hfits.valid (Nat.zero_le _))).bind ?_
  exact require_runs (by simp [Identity.sameInode])

theorem fsyncDirectory_runs : Runs d fsyncDirectory () d := fsyncDirectory_views.runs

theorem exchangeExpected_runs (hp : Paired slot final) (hd : d.sound = true)
    (hf : d.files final = some o) (hs : d.files slot = some n) (hfits : n.fits final) :
    Runs d (exchangeExpected slot final n.identity (some o.identity)) ()
      (d.exchange slot final) := by
  have hofits := Dir.fits_of_sound hd hf
  have hne := hp.ne
  have hfinal : (d.exchange slot final).files final = some n := by
    rw [Dir.exchange_eq hf hs, Dir.set_same]
  have hslot : (d.exchange slot final).files slot = some o := by
    rw [Dir.exchange_eq hf hs, Dir.set_other _ _ hne, Dir.set_same]
  refine (inspectFile_runs hf (hofits.valid (Nat.zero_le _))).bind <|
    (require_runs ?_).bind <| (renameExchange_runs hf hs).bind <|
    (inspectFile_runs hfinal (hfits.valid (Nat.zero_le _))).bind <|
    (inspectFile_runs hslot ((hofits.swap hp).valid (Nat.zero_le _))).bind ?_
  · simp [sameIdentity, Identity.sameInode]
  · exact Runs.ite_pos (by simp [Identity.sameInode]) Runs.pure

/-! ### The length of a marker -/

theorem length_natText {k n : Nat} (hk : 0 < k) (hn : n < 10 ^ k) :
    (Json.natText n).length ≤ k := by
  induction k generalizing n with
  | zero => exact absurd hk (lt_irrefl 0)
  | succ k ih =>
    by_cases h10 : n < 10
    · rw [Json.natText_of_lt h10]
      exact Nat.succ_le_succ (Nat.zero_le k)
    · rw [Json.natText_of_ge (not_lt.mp h10), List.length_append, List.length_singleton]
      have hdiv : n / 10 < 10 ^ k := by
        rw [pow_succ] at hn
        omega
      rcases k with - | k
      · rw [pow_zero] at hdiv
        omega
      · exact Nat.succ_le_succ (ih (Nat.succ_pos k) hdiv)

theorem length_intText {k : Nat} {n : Int} (hk : 0 < k) (h0 : 0 ≤ n) (hn : n < 10 ^ k) :
    (Json.intText n).length ≤ k := by
  unfold Json.intText
  rw [if_neg (not_lt.mpr h0)]
  have hcast : ((10 ^ k : Nat) : Int) = 10 ^ k := by push_cast; rfl
  exact length_natText hk (by omega)

/-- A text of hexadecimal digits is written as it is. -/
theorem length_printStr_hex (a : Bool) {s : Text} (hs : s.all isLowerHex = true) :
    (Json.printStr a s).length = s.length + 2 := by
  have hchar : ∀ c, isLowerHex c = true → (Json.escapeChar a c).length = 1 := by
    intro c hc
    unfold isLowerHex isDigit at hc
    simp only [Bool.or_eq_true, Bool.and_eq_true, decide_eq_true_eq] at hc
    have hne : ∀ k : CodePoint, k.val < 0x30 ∨ k.val = 0x5C → c ≠ k := by
      rintro k hk rfl
      omega
    unfold Json.escapeChar
    rw [if_neg (hne _ (by decide)), if_neg (hne _ (by decide)), if_neg (hne _ (by decide)),
      if_neg (hne _ (by decide)), if_neg (hne _ (by decide)), if_neg (hne _ (by decide)),
      if_neg (hne _ (by decide)), if_neg (by omega), if_neg]
    · rfl
    · rw [Bool.and_eq_true, decide_eq_true_eq]
      omega
  have hchars : (s.flatMap (Json.escapeChar a)).length = s.length := by
    induction s with
    | nil => rfl
    | cons c s ih =>
      rw [List.all_cons, Bool.and_eq_true] at hs
      rw [List.flatMap_cons, List.length_append, hchar c hs.1, ih hs.2, List.length_cons]
      omega
  unfold Json.printStr
  rw [List.length_cons, List.length_append, List.length_singleton, hchars]

/-- A marker fits into its file. -/
theorem length_markerBytes {phase : Phase} {generation : Int} {snapshot : Bytes}
    {events : Option Bytes} (h0 : 0 ≤ generation) (h1 : generation ≤ maxGeneration) :
    1 ≤ (markerBytes hash phase generation snapshot events).length ∧
      (markerBytes hash phase generation snapshot events).length ≤ maxMarker := by
  have hint := length_intText (k := 19) (by decide) h0 (by
    unfold maxGeneration at h1
    omega)
  have hsha : ∀ h : Sha256, (Json.printStr true h.value).length = 66 := by
    intro h
    have hvalid := validHash_value h
    unfold validHash at hvalid
    rw [Bool.and_eq_true, beq_iff_eq] at hvalid
    rw [length_printStr_hex true hvalid.2, hvalid.1]
  have hphase : (Json.printStr true phase.value).length ≤ 9 := by cases phase <;> decide
  have hevents : (Json.print true (Json.sortKeys (hashValue hash events))).length ≤ 66 := by
    cases events with
    | none => exact (by decide : (Json.print true Json.null).length ≤ 66)
    | some e => exact (hsha _).le
  have hdumps : (Json.dumps true (.obj (markerFields hash phase generation snapshot events))).length
      = 1 + ((markerFields hash phase generation snapshot events).map fun f =>
        Json.fieldLength true (f.1, Json.sortKeys f.2)).sum :=
    Json.length_dumps_obj true (List.cons_ne_nil _ _)
  rw [markerBytes_eq]
  unfold canonicalMarker
  rw [Json.length_utf8_dumps (exact_markerFields ..), hdumps]
  have hversion : (Json.printStr true (py "version")).length = 9 := by decide
  have hphaseKey : (Json.printStr true (py "phase")).length = 7 := by decide
  have hgeneration : (Json.printStr true (py "generation")).length = 12 := by decide
  have hsnapshot : (Json.printStr true (py "snapshot_sha256")).length = 17 := by decide
  have heventsKey : (Json.printStr true (py "events_sha256")).length = 15 := by decide
  have hone : (Json.intText 1).length = 1 := by decide
  simp only [markerFields, List.map_cons, List.map_nil, List.sum_cons, List.sum_nil,
    Json.fieldLength, Json.sortKeys, Json.print, hsha]
  unfold maxMarker
  omega

/-! ### What a sound directory shows -/

section Reading

variable {generation : Int} {snapshot : Bytes} {events : Option Bytes} {s : State}

theorem Dir.record_of_bytes {bytes : Option Bytes} (h : d.bytesAt name = bytes) :
    (d.record name).map (·.data) = bytes := by
  rw [Dir.record_data, h]

/-- A pair under its clean marker is shown. -/
theorem readDir_of_clean (h0 : 0 ≤ generation) (h1 : generation ≤ maxGeneration)
    (hd : d.sound = true) (hf : d.finals = cleanFinals hash generation snapshot events) :
    ∃ s, Shows hash d generation snapshot events s := by
  obtain ⟨hs, he, hm⟩ := (Finals.mk.injEq ..).mp hf
  have hs := Dir.record_of_bytes hs
  have he := Dir.record_of_bytes he
  obtain ⟨r, hr, hrd⟩ := Option.map_eq_some_iff.mp (Dir.record_of_bytes hm)
  obtain ⟨q, hq, rfl⟩ := Option.map_eq_some_iff.mp hs
  have hread : ∃ s, readDir hash d = .ok s := by
    unfold readDir
    rw [if_pos hd, hr, hq]
    unfold stateOfRecords
    simp only
    rw [hrd, parseMarker_markerBytes _ h0 h1, he]
    simp only
    rw [if_pos ⟨trivial, by simp [verifyHashes]⟩]
    exact ⟨_, rfl⟩
  obtain ⟨s, hread⟩ := hread
  exact ⟨s, readDir_shows h0 h1 hf hread⟩

/-- A snapshot without a marker is shown as a legacy state. -/
theorem readDir_of_legacy (hd : d.sound = true) (hf : d.finals = ⟨some snapshot, events, none⟩) :
    ∃ s, readDir hash d = .ok s ∧ s.snapshot = some snapshot ∧ s.events = events ∧
      s.generation = none ∧ s.legacy = true := by
  obtain ⟨hs, he, hm⟩ := (Finals.mk.injEq ..).mp hf
  have hm := Option.map_eq_none_iff.mp (Dir.record_of_bytes hm)
  obtain ⟨q, hq, hqd⟩ := Option.map_eq_some_iff.mp (Dir.record_of_bytes hs)
  have hread : ∃ s, readDir hash d = .ok s ∧ s.markerIdentity = none := by
    unfold readDir
    rw [if_pos hd, hm, hq]
    exact ⟨_, rfl, rfl⟩
  obtain ⟨s, hread, hmarker⟩ := hread
  obtain ⟨h1, h2, -, h4⟩ := readDir_ok hread
  rw [hf] at h1 h2 h4
  refine ⟨s, hread, h1, h2, h4, ?_⟩
  rw [State.legacy, h1, hmarker]
  rfl

/-- A directory without final files is shown as absent. -/
theorem readDir_of_absent (hd : d.sound = true) (hf : d.finals = ⟨none, none, none⟩) :
    readDir hash d = .ok ⟨none, none, none, none, none, none, d.names ≠ ⟨[], false⟩⟩ := by
  obtain ⟨hs, he, hm⟩ := (Finals.mk.injEq ..).mp hf
  have hs := Option.map_eq_none_iff.mp (Dir.record_of_bytes hs)
  have he := Option.map_eq_none_iff.mp (Dir.record_of_bytes he)
  have hm := Option.map_eq_none_iff.mp (Dir.record_of_bytes hm)
  unfold readDir
  rw [if_pos hd, hs, he, hm]
  rfl

theorem sound_of_readDir (h : readDir hash d = .ok s) : d.sound = true := by
  unfold readDir at h
  split at h
  · assumption
  · cases h

theorem read_runs (h : readDir hash d = .ok s) : Runs d (read hash) s d := by
  have hviews := @read_views hash d
  rw [h] at hviews
  exact hviews.runs

end Reading

/-! ### A first state -/

section Genesis

variable {snapshot : Bytes} {events : Option Bytes} {s : State}

theorem finals_set_swap (hp : Paired slot final) : (d.set slot (some n)).finals = d.finals :=
  finals_set hp.2.1 _

theorem files_set_final (hp : Paired slot final) : (d.set slot (some n)).files final =
    d.files final :=
  Dir.set_other d _ hp.ne.symm

/-- A file of data may stand where the length of the data allows it. -/
theorem Node.fits_of_length (ht : n.trusted = true) (hl : n.nlink = 1)
    (h1 : (limits name).1 ≤ n.data.length) (h2 : n.data.length ≤ (limits name).2) :
    n.fits name :=
  Node.valid_iff.mpr ⟨ht, hl, h1, h2⟩

theorem fits_marker {phase : Phase} {generation : Int} (ht : n.trusted = true) (hl : n.nlink = 1)
    (hn : n.data = markerBytes hash phase generation snapshot events) (h0 : 0 ≤ generation)
    (h1 : generation ≤ maxGeneration) : n.fits .marker := by
  have hlen := @length_markerBytes hash phase generation snapshot events h0 h1
  rw [← hn] at hlen
  exact Node.fits_of_length ht hl hlen.1 hlen.2

/-- The first marker is published. -/
theorem bootstrap_runs (hs : readDir hash d = .ok s) (hlegacy : s.legacy = true)
    (hf : d.finals = ⟨some snapshot, events, none⟩) :
    ∃ t d', Runs d (bootstrap hash s) t d' ∧ Shows hash d' 0 snapshot events t ∧
      d'.finals = cleanFinals hash 0 snapshot events := by
  have hd := sound_of_readDir hs
  obtain ⟨hss, hse, -, -⟩ := readDir_ok hs
  rw [hf] at hss hse
  have hmarker : d.files .marker = none := by
    have hm := congrArg Finals.marker hf
    exact Option.map_eq_none_iff.mp hm
  obtain ⟨n, hn, ht, hl, hwrite⟩ := writeSlot_runs paired_marker hd
    (markerBytes hash .clean 0 snapshot events)
  have hfits := fits_marker ht hl hn (le_refl 0) (by decide)
  have hd1 : (d.set .markerSwap (some n)).sound = true := by
    refine Dir.sound_set hd fun m hm => ?_
    cases hm
    exact hfits.swap paired_marker
  have hfinal : (d.set .markerSwap (some n)).files .marker = none := by
    rw [files_set_final paired_marker, hmarker]
  have hslot : (d.set .markerSwap (some n)).files .markerSwap = some n := Dir.set_same d _ _
  have hd2 := Dir.sound_move hd1 hfinal hslot hfits
  have hfinals : ((d.set .markerSwap (some n)).move .markerSwap .marker).finals =
      cleanFinals hash 0 snapshot events := by
    rw [finals_move_marker hfinal hslot, finals_set_swap paired_marker, hf, hn]
    rfl
  obtain ⟨t, ht'⟩ := readDir_of_clean (le_refl 0) (by decide) hd2 hfinals
  refine ⟨t, _, ?_, ht', hfinals⟩
  unfold bootstrap
  rw [hss, hse]
  refine (require_runs hlegacy).bind <| hwrite.bind <|
    (renameNoreplace_runs hfinal hslot).tryNone.bind <|
    (requirePublished_runs ?_ hfits).bind <| fsyncDirectory_runs.bind (read_runs ht'.read)
  rw [Dir.move_final hfinal (by rw [hslot]; rfl), hslot]

/-- A first snapshot is published, and then its marker. -/
theorem genesis_runs (hd : d.sound = true) (hf : d.finals = ⟨none, none, none⟩)
    (h0 : 0 < snapshot.length) (h1 : snapshot.length ≤ maxSnapshot)
    (equivalent : Bytes → Bytes → Bool) :
    ∃ t d', Runs d (genesis hash snapshot equivalent) t d' ∧ Shows hash d' 0 snapshot none t := by
  have hread := @readDir_of_absent hash d hd hf
  have hnone : d.files .snapshot = none := by
    have hs := congrArg Finals.snapshot hf
    exact Option.map_eq_none_iff.mp hs
  obtain ⟨n, hn, ht, hl, hwrite⟩ := writeSlot_runs paired_snapshot hd snapshot
  have hfits : n.fits .snapshot := by
    rw [← hn] at h0 h1
    exact Node.fits_of_length ht hl h0 h1
  have hd1 : (d.set .snapshotSwap (some n)).sound = true := by
    refine Dir.sound_set hd fun m hm => ?_
    cases hm
    exact hfits.swap paired_snapshot
  have hfinal : (d.set .snapshotSwap (some n)).files .snapshot = none := by
    rw [files_set_final paired_snapshot, hnone]
  have hslot : (d.set .snapshotSwap (some n)).files .snapshotSwap = some n := Dir.set_same d _ _
  have hd2 := Dir.sound_move hd1 hfinal hslot hfits
  have hfinals : ((d.set .snapshotSwap (some n)).move .snapshotSwap .snapshot).finals =
      ⟨some snapshot, none, none⟩ := by
    rw [finals_move_snapshot hfinal hslot, finals_set_swap paired_snapshot, hf, hn]
  obtain ⟨legacy, hlegacy, -, -, -, hleg⟩ := @readDir_of_legacy hash _ _ _ hd2 hfinals
  obtain ⟨t, d', hboot, hshows, -⟩ := bootstrap_runs hlegacy hleg hfinals
  refine ⟨t, d', ?_, hshows⟩
  refine (require_runs ?_).bind <| (read_runs hread).bind <| Runs.ite_neg ?_ <| hwrite.bind <|
    (renameNoreplace_runs hfinal hslot).tryNone.bind <|
    (requirePublished_runs ?_ hfits).bind <| fsyncDirectory_runs.bind <|
    (read_runs hlegacy).bind hboot
  · rw [Bool.and_eq_true, decide_eq_true_eq, decide_eq_true_eq]
    exact ⟨h0, h1⟩
  · exact Bool.noConfusion
  · rw [Dir.move_final hfinal (by rw [hslot]; rfl), hslot]

end Genesis

/-! ### A new pair over a clean one -/

section Clean

variable {snapshot : Bytes} {events : Option Bytes} {s : State}

/-- The identities of a state are those of the files. -/
theorem readDir_identities (hs : readDir hash d = .ok s) :
    s.snapshotIdentity = (d.files .snapshot).map Node.identity ∧
      s.eventsIdentity = (d.files .events).map Node.identity ∧
      s.markerIdentity = (d.files .marker).map Node.identity := by
  have hrecord : ∀ name, (d.record name).map (·.identity) = (d.files name).map Node.identity := by
    intro name
    unfold Dir.record
    cases d.files name <;> rfl
  unfold readDir at hs
  rw [if_pos (sound_of_readDir hs)] at hs
  obtain ⟨-, -, h1, h2, h3, -⟩ := stateOfRecords_ok hs
  rw [hrecord] at h1 h2 h3
  exact ⟨h1, h2, h3⟩

/-- A file is published, be it the first under its name or not. -/
theorem publishFile_runs (hp : Paired slot final) (hd : d.sound = true) {data : Bytes}
    (h1 : (limits final).1 ≤ data.length) (h2 : data.length ≤ (limits final).2) :
    ∃ d', Runs d (publishFile slot final data (limits final).2
        ((d.files final).map Node.identity)) () d' ∧
      d'.sound = true ∧ d'.bytesAt final = some data ∧ OffPair slot final d d' := by
  obtain ⟨n, hn, ht, hl, hwrite⟩ := writeSlot_runs hp hd data
  have hfits : n.fits final := by
    rw [← hn] at h1 h2
    exact Node.fits_of_length ht hl h1 h2
  have hd1 : (d.set slot (some n)).sound = true := by
    refine Dir.sound_set hd fun m hm => ?_
    cases hm
    exact hfits.swap hp
  have hslot : (d.set slot (some n)).files slot = some n := Dir.set_same d _ _
  rcases hf : d.files final with - | o
  · have hfinal : (d.set slot (some n)).files final = none := by
      rw [files_set_final hp, hf]
    have hmoved := @Dir.move_final _ slot _ hfinal (by rw [hslot]; rfl)
    rw [hslot] at hmoved
    refine ⟨_, ?_, Dir.sound_move hd1 hfinal hslot hfits, ?_, fun t h1 h2 => ?_⟩
    · exact hwrite.bind <| (renameNoreplace_runs hfinal hslot).tryCatch.bind
        (requirePublished_runs hmoved hfits)
    · unfold Dir.bytesAt
      rw [hmoved, Option.map_some, hn]
    · rw [Dir.move_other h1 h2, Dir.set_other _ _ h1]
  · have hfinal : (d.set slot (some n)).files final = some o := by
      rw [files_set_final hp, hf]
    refine ⟨_, ?_, Dir.sound_exchange hp hd1 hfinal hslot hfits, ?_, fun t h1 h2 => ?_⟩
    · exact hwrite.bind (exchangeExpected_runs hp hd1 hfinal hslot hfits)
    · unfold Dir.bytesAt
      rw [Dir.exchange_final (by rw [hfinal]; rfl) (by rw [hslot]; rfl), hslot, Option.map_some, hn]
    · rw [Dir.exchange_other h1 h2, Dir.set_other _ _ h1]

/-- What has changed is published. -/
theorem publishChangedState_runs (hd : d.sound = true)
    (hs : s.snapshot = d.bytesAt .snapshot) (he : s.events = d.bytesAt .events)
    (hsi : s.snapshotIdentity = (d.files .snapshot).map Node.identity)
    (hei : s.eventsIdentity = (d.files .events).map Node.identity)
    (h0 : 0 < snapshot.length) (h1 : snapshot.length ≤ maxSnapshot)
    (h2 : ∀ e, events = some e → e.length ≤ maxEvents) (hkeep : events = none → s.events = none) :
    ∃ d', Runs d (publishChangedState s snapshot events) () d' ∧ d'.sound = true ∧
      d'.bytesAt .snapshot = some snapshot ∧ d'.bytesAt .events = events ∧
      d'.files .marker = d.files .marker := by
  -- the snapshot
  obtain ⟨d1, hrun1, hd1, hsnap1, hoff1⟩ : ∃ d1,
      Runs d (doIf (some snapshot ≠ s.snapshot) <|
        publishFile .snapshotSwap .snapshot snapshot maxSnapshot s.snapshotIdentity) () d1 ∧
      d1.sound = true ∧ d1.bytesAt .snapshot = some snapshot ∧
      OffPair .snapshotSwap .snapshot d d1 := by
    by_cases hc : some snapshot = s.snapshot
    · refine ⟨d, Runs.ite_neg (by simp [hc]) Runs.pure, hd, ?_, fun _ _ _ => rfl⟩
      rw [← hs, hc]
    · obtain ⟨d1, hrun, hrest⟩ := publishFile_runs paired_snapshot hd h0 h1
      rw [hsi]
      exact ⟨d1, Runs.ite_pos (by simpa using hc) hrun, hrest⟩
  have hevents1 : d1.files .events = d.files .events := hoff1 _ (by decide) (by decide)
  -- and the events
  obtain ⟨d2, hrun2, hd2, hev2, hoff2⟩ : ∃ d2,
      Runs d1 (doIf (events ≠ s.events) <|
        publishFile .eventsSwap .events (events.getD []) maxEvents s.eventsIdentity) () d2 ∧
      d2.sound = true ∧ d2.bytesAt .events = events ∧ OffPair .eventsSwap .events d1 d2 := by
    by_cases hc : events = s.events
    · refine ⟨d1, Runs.ite_neg (by simp [hc]) Runs.pure, hd1, ?_, fun _ _ _ => rfl⟩
      unfold Dir.bytesAt
      rw [hevents1, hc, he]
      rfl
    · rcases events with - | e
      · exact absurd (hkeep rfl).symm hc
      · obtain ⟨d2, hrun, hrest⟩ := publishFile_runs paired_events hd1 (Nat.zero_le e.length)
          (h2 e rfl)
        rw [hei, ← hevents1]
        exact ⟨d2, Runs.ite_pos (by simpa using hc) hrun, hrest⟩
  refine ⟨d2, hrun1.bind hrun2, hd2, ?_, hev2, ?_⟩
  · unfold Dir.bytesAt at hsnap1 ⊢
    rw [hoff2 .snapshot (by decide) (by decide), hsnap1]
  · rw [hoff2 .marker (by decide) (by decide), hoff1 .marker (by decide) (by decide)]

theorem acceptClean_runs {generation : Int} {t : State}
    (h : Shows hash d generation snapshot events t) :
    Runs d (acceptClean hash generation snapshot events) (some t) d := by
  have hbody : Runs d (some <$> read hash) (some t) d :=
    Runs.bind (f := fun a => Pure.pure (some a)) (read_runs h.read) Runs.pure
  exact hbody.tryCatch.bind (Runs.ite_pos ⟨h.generation, h.snapshot, h.events⟩ Runs.pure)

/-- The clean marker replaces the pending one. -/
theorem publishClean_runs {generation : Int} (hd : d.sound = true)
    (h0 : 0 ≤ generation) (h1 : generation ≤ maxGeneration) (hm : d.files .marker = some o)
    (hs : d.bytesAt .snapshot = some snapshot) (he : d.bytesAt .events = events) :
    ∃ t d', Runs d (publishClean hash o.identity generation snapshot events) t d' ∧
      Shows hash d' generation snapshot events t := by
  obtain ⟨n, hn, ht, hl, hwrite⟩ := writeSlot_runs paired_marker hd
    (markerBytes hash .clean generation snapshot events)
  have hfits := fits_marker ht hl hn h0 h1
  have hofits := Dir.fits_of_sound hd hm
  have hd1 : (d.set .markerSwap (some n)).sound = true := by
    refine Dir.sound_set hd fun m hm => ?_
    cases hm
    exact hfits.swap paired_marker
  have hfinal : (d.set .markerSwap (some n)).files .marker = some o := by
    rw [files_set_final paired_marker, hm]
  have hslot : (d.set .markerSwap (some n)).files .markerSwap = some n := Dir.set_same d _ _
  have hd2 := Dir.sound_exchange paired_marker hd1 hfinal hslot hfits
  have hfinals : ((d.set .markerSwap (some n)).exchange .markerSwap .marker).finals =
      cleanFinals hash generation snapshot events := by
    rw [finals_exchange_marker (by rw [hfinal]; rfl) hslot, finals_set_swap paired_marker, hn]
    unfold Dir.finals
    rw [hs, he]
    rfl
  obtain ⟨t, ht'⟩ := readDir_of_clean h0 h1 hd2 hfinals
  refine ⟨t, _, ?_, ht'⟩
  have hfinal2 : ((d.set .markerSwap (some n)).exchange .markerSwap .marker).files .marker =
      some n := by
    rw [Dir.exchange_eq hfinal hslot, Dir.set_same]
  have hslot2 : ((d.set .markerSwap (some n)).exchange .markerSwap .marker).files .markerSwap =
      some o := by
    rw [Dir.exchange_eq hfinal hslot, Dir.set_other _ _ (by decide), Dir.set_same]
  have hinspect : Runs ((d.set .markerSwap (some n)).exchange .markerSwap .marker) inspectExchanged
      (some n.identity, some o.identity)
      ((d.set .markerSwap (some n)).exchange .markerSwap .marker) :=
    ((inspectFile_runs hfinal2 (hfits.valid (le_refl 1))).bind <|
      Runs.bind (f := fun retired => Pure.pure (some n.identity, retired))
        (inspectFile_runs hslot2 (hofits.swap paired_marker)) Runs.pure).tryCatch
  have hexchange : Runs (d.set .markerSwap (some n)) (exchangeClean o.identity n.identity) ()
      ((d.set .markerSwap (some n)).exchange .markerSwap .marker) :=
    (inspectFile_runs hfinal (hofits.valid (le_refl 1))).bind <|
      (require_runs (by simp [sameIdentity, Identity.sameInode])).bind <|
      (renameExchange_runs hfinal hslot).bind <| hinspect.bind <|
      require_runs (by simp [sameIdentity, Identity.sameInode])
  refine hwrite.bind <| Runs.bind (a := none) (Runs.tryCatch ?_) <|
    (acceptClean_runs ht').bind Runs.pure
  exact hexchange.bind (fsyncDirectory_runs.bind Runs.pure)

/-- **A clean commit** goes through. -/
theorem commitClean_runs {g : Int} (hs : readDir hash d = .ok s) (hg : s.generation = some g)
    (hmax : g + 1 ≤ maxGeneration) (h0 : 0 < snapshot.length) (h1 : snapshot.length ≤ maxSnapshot)
    (h2 : ∀ e, events = some e → e.length ≤ maxEvents) (hkeep : events = none → s.events = none) :
    ∃ t d', Runs d (commitClean hash s snapshot events (g + 1)) t d' ∧
      Shows hash d' (g + 1) snapshot events t := by
  have hd := sound_of_readDir hs
  obtain ⟨hg0, -, -⟩ := bounds_of_marked hs hg
  obtain ⟨hss, hse, hsm, -⟩ := readDir_ok hs
  obtain ⟨hsi, hei, hmi⟩ := readDir_identities hs
  obtain ⟨o, ho⟩ : ∃ o, d.files .marker = some o := by
    rcases hm : d.files .marker with - | o
    · obtain ⟨-, -, -, hmt⟩ := readDir_ok hs
      unfold Dir.finals Dir.bytesAt at hmt
      rw [hm] at hmt
      rw [show s.generation = none from hmt] at hg
      cases hg
    · exact ⟨o, rfl⟩
  obtain ⟨n, hn, ht, hl, hwrite⟩ := writeSlot_runs paired_marker hd
    (markerBytes hash .pending (g + 1) snapshot events)
  have hfits := fits_marker ht hl hn (by omega) hmax
  have hd1 : (d.set .markerSwap (some n)).sound = true := by
    refine Dir.sound_set hd fun m hm => ?_
    cases hm
    exact hfits.swap paired_marker
  have hfinal : (d.set .markerSwap (some n)).files .marker = some o := by
    rw [files_set_final paired_marker, ho]
  have hslot : (d.set .markerSwap (some n)).files .markerSwap = some n := Dir.set_same d _ _
  have hd2 := Dir.sound_exchange paired_marker hd1 hfinal hslot hfits
  -- under the pending marker the other files are as before
  have hother : ∀ t, t ≠ .markerSwap → t ≠ .marker →
      ((d.set .markerSwap (some n)).exchange .markerSwap .marker).files t = d.files t := by
    intro t h1 h2
    rw [Dir.exchange_other h1 h2, Dir.set_other _ _ h1]
  have hsnap := hother .snapshot (by decide) (by decide)
  have hev := hother .events (by decide) (by decide)
  have hmark : ((d.set .markerSwap (some n)).exchange .markerSwap .marker).files .marker =
      some n := by
    rw [Dir.exchange_eq hfinal hslot, Dir.set_same]
  generalize hd2' : (d.set .markerSwap (some n)).exchange .markerSwap .marker = d2 at *
  obtain ⟨d3, hrun3, hd3, hsnap3, hev3, hmark3⟩ := publishChangedState_runs hd2
    (by rw [hss]; unfold Dir.finals Dir.bytesAt; rw [hsnap])
    (by rw [hse]; unfold Dir.finals Dir.bytesAt; rw [hev])
    (by rw [hsi, hsnap]) (by rw [hei, hev]) h0 h1 h2 hkeep
  obtain ⟨t, d4, hrun4, hshows⟩ := @publishClean_runs hash _ _ _ _ _ hd3 (by omega) hmax
    (hmark3.trans hmark) hsnap3 hev3
  refine ⟨t, d4, ?_, hshows⟩
  have hexchange := exchangeExpected_runs paired_marker hd1 hfinal hslot hfits
  rw [hd2'] at hexchange
  unfold commitClean
  rw [hmi, ho]
  exact hwrite.bind <| hexchange.bind <| fsyncDirectory_runs.bind <| hrun3.bind <|
    fsyncDirectory_runs.bind hrun4

end Clean

/-! ### The commit -/

theorem sameState_self (s : State) : sameState s s = true := by
  have hid : ∀ i : Option Identity, sameIdentity i i = true := by
    intro i
    cases i with
    | none => rfl
    | some i => simp [sameIdentity, Identity.sameInode]
  simp [sameState, hid]

theorem validTargets_iff {snapshot : Bytes} {events : Option Bytes} :
    validTargets snapshot events = true ↔ 0 < snapshot.length ∧ snapshot.length ≤ maxSnapshot ∧
      ∀ e, events = some e → e.length ≤ maxEvents := by
  unfold validTargets
  rw [Bool.and_eq_true, Bool.and_eq_true, decide_eq_true_eq, decide_eq_true_eq, and_assoc]
  cases events <;> simp

/-- **A commit goes through**: over a state that is read, with files within
their bounds, a generation to come and no log lost, it shows the new pair. -/
theorem commit_runs {s expected : State} {snapshot : Bytes} {events : Option Bytes}
    (hs : readDir hash d = .ok s) (hsame : sameState s expected = true)
    (htargets : validTargets snapshot events = true) (hmax : s.generation ≠ some maxGeneration)
    (hkeep : events = none → s.events = none) (habsent : s.absent = true → events = none)
    (equivalent : Bytes → Bytes → Bool) :
    ∃ t d', Runs d (commit hash expected snapshot events equivalent) t d' ∧
      Shows hash d' s.nextGeneration snapshot events t := by
  obtain ⟨h0, h1, h2⟩ := validTargets_iff.mp htargets
  have hd := sound_of_readDir hs
  by_cases ha : s.absent = true
  · -- genesis
    obtain rfl := habsent ha
    obtain ⟨hf, -, hg⟩ := finals_of_absent hs (by simpa [State.absent] using ha)
    obtain ⟨t, d', hrun, hshows⟩ := @genesis_runs hash _ _ hd hf h0 h1 equivalent
    have hnext : s.nextGeneration = 0 := by
      rw [State.nextGeneration, hg]
      exact if_pos ha
    rw [hnext]
    exact ⟨t, d', (require_runs htargets).bind <| (read_runs hs).bind <|
      (require_runs hsame).bind <| Runs.ite_pos ha <| (require_runs rfl).bind hrun, hshows⟩
  · have hlost : (!(s.events.isSome && events.isNone)) = true := by
      cases events with
      | none => rw [hkeep rfl]; rfl
      | some e => simp
    -- the common front of the two cases
    have hfront : ∀ {t d'}, Runs d (bootstrapIfLegacy hash s >>= fun current =>
        commitNext hash current snapshot events) t d' →
        Runs d (commit hash expected snapshot events equivalent) t d' := fun hrun =>
      (require_runs htargets).bind <| (read_runs hs).bind <| (require_runs hsame).bind <|
        Runs.ite_neg ha <| (require_runs (by simpa using hmax)).bind <|
        (require_runs hlost).bind hrun
    rcases hg : s.generation with - | g
    · -- a legacy state gets its first marker
      obtain ⟨S, hS⟩ : ∃ S, s.snapshot = some S := by
        rw [State.absent, Option.isNone_iff_eq_none] at ha
        exact Option.ne_none_iff_exists'.mp ha
      obtain ⟨hf, hm⟩ := finals_of_unmarked hs hg
      rw [hS] at hf
      have hlegacy : s.legacy = true := by simp [State.legacy, hS, hm]
      have hnext : s.nextGeneration = 0 + 1 := by
        rw [State.nextGeneration, hg]
        exact if_neg ha
      obtain ⟨marked, d1, hboot, hmarked, -⟩ := bootstrap_runs hs hlegacy hf
      have hkeep1 : events = none → marked.events = none := fun h => by
        rw [hmarked.events, hkeep h]
      obtain ⟨t, d2, hrun, hshows⟩ := commitClean_runs hmarked.read hmarked.generation (by decide)
        h0 h1 h2 hkeep1
      rw [hnext]
      refine ⟨t, d2, hfront ((Runs.ite_pos hlegacy hboot).bind ?_), hshows⟩
      unfold commitNext
      rw [hmarked.generation]
      exact hrun
    · obtain ⟨hg0, hg1, hlegacy⟩ := bounds_of_marked hs hg
      have hne : g ≠ maxGeneration := by
        rintro rfl
        exact hmax hg
      obtain ⟨t, d', hrun, hshows⟩ := commitClean_runs hs hg (by omega) h0 h1 h2 hkeep
      have hnext : s.nextGeneration = g + 1 := by rw [State.nextGeneration, hg]
      rw [hnext]
      refine ⟨t, d', hfront ((Runs.ite_neg (by rw [hlegacy]; exact Bool.false_ne_true)
        Runs.pure).bind ?_), hshows⟩
      unfold commitNext
      rw [hg]
      exact hrun

end SpecStyle
