/-
SpecStyle/Workflow/ArtifactAlone.lean

A call on a production artifact that is alone, and of which no system call
fails.

What a crash has left is recovered exactly when every temporary name is one
more name of its own final file (`Aliased`): then the link counts are what the
recovery expects (`links_eq`, `aliasPlan_names`), and it leaves the final names
alone (`recoverNamespace_alone`).  Behind it a put publishes what is missing,
and a read returns what is committed.
-/
import SpecStyle.Workflow.ArtifactCalls

namespace SpecStyle

open PyLib

/-- The call does not fail, and a read or a write does a byte at least. -/
def CallOutcome.Unfailing : CallOutcome → Prop
  | .succeeds => True
  | .shortRead n => 0 < n
  | .shortWrite n => 0 < n
  | _ => False

namespace Artifacts

variable {hashBytes : Bytes → Sha256} {jobId : JobId} {artifactId : ArtifactId} {α β : Type}
  {given : GeneratedArtifact hashBytes → Prop}
  {s t u : ArtifactDirectory} {r : Except ArtifactExn α} {kind : ArtifactKind} {n : Nat}
  {content : Bytes} {artifact : GeneratedArtifact hashBytes}

/-- Alone, and no call fails. -/
abbrev Alone (m : ArtifactProgram α) (s : ArtifactDirectory) (r : Except ArtifactExn α)
    (t : ArtifactDirectory) : Prop :=
  Gives CallOutcome.Unfailing m s r t

/-! ### System calls -/

theorem look_alone {view : ArtifactDirectory → Except ArtifactExn α} (h : view s = r) :
    Alone (look fun _ => view) s r s := by
  subst h
  intro outcome hclean
  cases outcome with
  | fails => exact hclean.elim
  | failsAfter => exact hclean.elim
  | _ => exact ⟨rfl, rfl⟩

theorem mutate_alone {change : ArtifactDirectory → Except ArtifactExn ArtifactDirectory}
    (h : change s = .ok t) : Alone (mutate change) s (.ok ()) t := by
  have hsettle : settle (.ok ()) s (change s) = (.ok (), t) := by
    rw [h]
    rfl
  intro outcome hclean
  cases outcome with
  | fails => exact hclean.elim
  | failsAfter => exact hclean.elim
  | _ => exact Prod.ext_iff.mp hsettle

theorem translate_alone {m : ArtifactProgram α} {raised : ArtifactExn} {a : α}
    (h : Alone m s (.ok a) t) : Alone (translate m raised) s (.ok a) t :=
  Gives.tryCatch_ok h

theorem closeFd_alone : Alone closeFd s (.ok ()) s := translate_alone (look_alone rfl)

theorem closeFds_alone (count : Nat) : Alone (closeFds count false) s (.ok ()) s := by
  induction count with
  | zero => exact Gives.pure
  | succ count ih =>
      have hclosed : Alone (tryCatch (do closeFd; return true) fun _ => return false) s
          (.ok true) s := Gives.tryCatch_ok (closeFd_alone.bind Gives.pure)
      exact hclosed.bind ih

theorem fsyncEntries_alone : Alone fsyncEntries s (.ok ()) s.syncEntries :=
  translate_alone (mutate_alone rfl)

theorem fsyncLevel_alone (level : Nat) : Alone (fsyncLevel level) s (.ok ()) (s.syncLevel level) :=
  translate_alone (mutate_alone rfl)

theorem fstat_alone : Alone (fstat n) s (.ok (s.stat n)) s := translate_alone (look_alone rfl)

theorem osStat_alone {name : ArtifactName} (h : s.lookup name = some n) :
    Alone (osStat name) s (.ok (s.stat n)) s := by
  apply look_alone
  rw [h]

theorem namedStat_alone {name : ArtifactName} (h : s.lookup name = some n) :
    Alone (namedStat name) s (.ok (s.stat n)) s :=
  translate_alone (osStat_alone h)

theorem requireRegular_alone {result : FileStat} {links : Option Nat} {minimum maximum : Nat}
    (hlinks : ∀ k, links = some k → result.links = k) (hmin : minimum ≤ result.size)
    (hmax : result.size ≤ maximum) :
    Alone (requireRegular result links minimum maximum) s (.ok ()) s := by
  apply Gives.require_true
  rw [decide_eq_true hmin, decide_eq_true hmax]
  cases links with
  | none => rfl
  | some k => rw [Option.all_some, decide_eq_true (hlinks k rfl)]; rfl

/-- The open file is the one under the name, with these links and this size. -/
theorem inspectOpenFile_alone {name : ArtifactName} {expected links : Nat}
    (hname : s.lookup name = some n) (hlinks : s.links n = links)
    (hsize : (s.files n).data.length = expected) :
    Alone (inspectOpenFile n name expected links) s (.ok (s.stat n)) s := by
  have hregular : Alone (requireRegular (s.stat n) (some links) expected expected) s
      (.ok ()) s := by
    apply requireRegular_alone
    · rintro k hk
      cases hk
      exact hlinks
    · exact hsize.ge
    · exact hsize.le
  apply fstat_alone.bind
  apply (namedStat_alone hname).bind
  apply hregular.bind
  apply hregular.bind
  exact Gives.check (decide_eq_true rfl) Gives.pure

/-- A file of another size is refused. -/
theorem inspectOpenFile_refused {name : ArtifactName} {expected links : Nat}
    (hname : s.lookup name = some n) (hsize : (s.files n).data.length ≠ expected) :
    Alone (inspectOpenFile n name expected links) s (.error .corrupted) s := by
  apply fstat_alone.bind
  apply (namedStat_alone hname).bind
  apply Gives.bind_error
  refine Gives.ends Gives.require ⟨?_, rfl⟩
  rw [if_neg]
  rw [Bool.and_eq_true, Bool.and_eq_true, decide_eq_true_eq, decide_eq_true_eq]
  rintro ⟨⟨-, hmin⟩, hmax⟩
  exact hsize (Nat.le_antisymm hmax hmin)

/-! ### Reading -/

theorem readChunks_alone {turns : Nat} {start : Bytes} (hstart : start <+: (s.files n).data)
    (hturns : (s.files n).data.length ≤ turns + start.length) :
    Alone (readChunks n (s.files n).data.length turns start) s (.ok (s.files n).data) s := by
  induction turns generalizing start with
  | zero =>
      have hwhole : start = (s.files n).data :=
        hstart.eq_of_length (Nat.le_antisymm hstart.length_le (by omega))
      rw [← hwhole]
      exact Gives.pure
  | succ turns ih =>
      unfold readChunks
      split
      · next hle =>
          rw [← hstart.eq_of_length (Nat.le_antisymm hstart.length_le hle)]
          exact Gives.pure
      · next hlt =>
          have hchunk : ∀ chunk, chunk <+: ((s.files n).data.drop start.length).take
              (min chunkSize ((s.files n).data.length - start.length)) → chunk ≠ [] →
              Alone (do
                Code.require (chunk ≠ [] && chunk.length ≤
                  min chunkSize ((s.files n).data.length - start.length)) .corrupted
                readChunks n (s.files n).data.length turns (start ++ chunk)) s
                (.ok (s.files n).data) s := by
            intro chunk hbegun hne
            have hlen := hbegun.length_le
            rw [List.length_take, List.length_drop] at hlen
            apply Gives.check
            · rw [Bool.and_eq_true, decide_eq_true_eq, decide_eq_true_eq]
              exact ⟨hne, hlen.trans (Nat.min_le_left _ _)⟩
            · have hpos : 0 < chunk.length := List.length_pos_iff.mpr hne
              apply ih
              · obtain ⟨rest, hrest⟩ := hstart
                rw [← hrest, List.drop_left] at hbegun
                rw [← hrest]
                exact (List.prefix_append_right_inj start).mpr
                  (hbegun.trans (List.take_prefix _ _))
              · rw [List.length_append]
                omega
          have hpos : 0 < (((s.files n).data.drop start.length).take
              (min chunkSize ((s.files n).data.length - start.length))).length := by
            rw [List.length_take, List.length_drop]
            unfold chunkSize
            omega
          apply ends_bind.mpr
          apply ends_tryCatch.mpr
          intro outcome hclean
          cases outcome with
          | fails => exact hclean.elim
          | failsAfter => exact hclean.elim
          | shortRead k =>
              refine ⟨fun a ha => ⟨fun b hb => ?_, fun _ he => by cases he⟩,
                fun _ he => by cases he⟩
              cases ha
              cases hb
              apply hchunk _ (List.take_prefix _ _)
              apply List.ne_nil_of_length_pos
              rw [List.length_take]
              exact Nat.lt_min.mpr ⟨hclean, hpos⟩
          | _ =>
              refine ⟨fun a ha => ⟨fun b hb => ?_, fun _ he => by cases he⟩,
                fun _ he => by cases he⟩
              cases ha
              cases hb
              exact hchunk _ List.prefix_rfl (List.ne_nil_of_length_pos hpos)

theorem readExactBounded_alone {maximum : Nat} (hpos : 1 ≤ (s.files n).data.length)
    (hmax : (s.files n).data.length ≤ maximum) :
    Alone (readExactBounded n (s.files n).data.length maximum) s (.ok (s.files n).data) s := by
  apply Gives.check
  · rw [decide_eq_true hpos, decide_eq_true hmax]
    rfl
  apply (readChunks_alone List.nil_prefix (Nat.le_refl _)).bind
  have hextra : Alone (osRead n (s.files n).data.length 1) s (.ok []) s := by
    have hnil : ((s.files n).data.drop (s.files n).data.length).take 1 = [] := by
      rw [List.drop_length, List.take_nil]
    intro outcome hclean
    cases outcome with
    | fails => exact hclean.elim
    | failsAfter => exact hclean.elim
    | shortRead k =>
        refine ⟨?_, rfl⟩
        show Except.ok ((((s.files n).data.drop (s.files n).data.length).take 1).take k) = _
        rw [hnil, List.take_nil]
    | _ => exact ⟨congrArg Except.ok hnil, rfl⟩
  apply (translate_alone hextra).bind
  exact Gives.check (decide_eq_true rfl) Gives.pure

/-- A file that is on the disk is not changed by syncing it. -/
theorem syncFile_self (h : (s.files n).synced = (s.files n).data) : s.syncFile n = s := by
  have hfile : { s.files n with synced := (s.files n).data } = s.files n := by
    rw [← h]
  unfold ArtifactDirectory.syncFile
  dsimp only
  rw [hfile, Function.update_eq_self]

/-- A file that is whole and on the disk, under one name, is read. -/
theorem readOpen_alone {name : ArtifactName} {expected : Option Nat} {maximum : Nat} {sync : Bool}
    (hname : s.lookup name = some n) (hlinks : s.links n = 1)
    (hexpected : ∀ k, expected = some k → k = (s.files n).data.length)
    (hpos : 1 ≤ (s.files n).data.length) (hmax : (s.files n).data.length ≤ maximum)
    (hsynced : (s.files n).synced = (s.files n).data) :
    Alone (readOpen n name expected maximum sync) s (.ok (s.files n).data) s := by
  have hsize : expected.getD (s.stat n).size = (s.files n).data.length := by
    cases expected with
    | none => rfl
    | some k => exact hexpected k rfl
  have hinspect : Alone (inspectOpenFile n name (s.files n).data.length 1) s (.ok (s.stat n)) s :=
    inspectOpenFile_alone hname hlinks rfl
  apply fstat_alone.bind
  rw [hsize]
  apply hinspect.bind
  apply Gives.check
  · rw [decide_eq_true hpos, decide_eq_true hmax]
    rfl
  apply (readExactBounded_alone hpos hmax).bind
  apply hinspect.bind
  apply Gives.check (decide_eq_true rfl)
  refine Gives.bind (a := ()) ?_ Gives.pure
  cases sync with
  | false => exact Gives.pure
  | true =>
      have hsync : Alone (fsyncFile n) s (.ok ()) s := by
        apply translate_alone
        apply mutate_alone
        rw [syncFile_self hsynced]
      exact hsync.bind (hinspect.bind (Gives.require_true (decide_eq_true rfl)))

/-! ### Links and names -/

/-- A file has its final name and its temporary name, where they are there. -/
theorem links_eq (hs : Kept jobId artifactId given s) (hkind : (s.files n).kind = kind) :
    s.links n = (if s.final kind = some n then 1 else 0) +
      if (kind, n) ∈ s.temps then 1 else 0 := by
  have hother : ∀ k, k ≠ kind → s.final k ≠ some n := fun k hne hk =>
    hne ((hs.kinds k n hk).symm.trans hkind)
  have hfinals : ([ArtifactKind.artifact, .metadata].countP fun k => s.final k = some n) =
      if s.final kind = some n then 1 else 0 := by
    rw [List.countP_cons, List.countP_cons, List.countP_nil]
    cases kind with
    | artifact => simp [hother .metadata (by decide)]
    | metadata => simp [hother .artifact (by decide)]
  have htemps : (s.temps.countP fun temp => temp.2 = n) =
      if (kind, n) ∈ s.temps then 1 else 0 := by
    have hcount : (s.temps.countP fun temp => temp.2 = n) = s.temps.count (kind, n) := by
      rw [List.count_eq_countP]
      apply List.countP_congr
      intro temp htemp
      rw [decide_eq_true_eq, beq_iff_eq]
      constructor
      · rintro rfl
        exact Prod.ext ((hs.temps.2 temp htemp).kind.symm.trans hkind) rfl
      · rintro rfl
        rfl
    rw [hcount]
    split
    · next hmem => exact List.count_eq_one_of_mem hs.temps.1 hmem
    · next hmem => exact List.count_eq_zero_of_not_mem hmem
  unfold ArtifactDirectory.links
  rw [hfinals, htemps]

/-- Every temporary name is one more name of its own final file. -/
def Aliased (s : ArtifactDirectory) : Prop :=
  ∀ temp ∈ s.temps, s.final temp.1 = some temp.2

/-- The file under a name that is there. -/
def inodeOf (s : ArtifactDirectory) : ArtifactName → Nat
  | .final kind => (s.final kind).getD 0
  | .temp _ token => token

theorem lookup_names {name : ArtifactName} (h : name ∈ s.names) :
    s.lookup name = some (inodeOf s name) := by
  rcases List.mem_append.mp h with h | h
  · obtain ⟨k, hk, rfl⟩ := List.mem_map.mp h
    have hsome : (s.final k).isSome = true := (List.mem_filter.mp hk).2
    obtain ⟨m, hm⟩ := Option.isSome_iff_exists.mp hsome
    show s.final k = some ((s.final k).getD 0)
    rw [hm]
    rfl
  · obtain ⟨temp, htemp, rfl⟩ := List.mem_map.mp h
    exact if_pos htemp

/-- What `_namespace_stats` returns. -/
def nameStats (s : ArtifactDirectory) : List (ArtifactName × FileStat) :=
  s.names.map fun name => (name, s.stat (inodeOf s name))

/-- The tokens of a kind. -/
def tokens (s : ArtifactDirectory) (kind : ArtifactKind) : List Nat :=
  (s.temps.filter fun temp => temp.1 = kind).map Prod.snd

theorem mem_tokens {token : Nat} : token ∈ tokens s kind ↔ (kind, token) ∈ s.temps := by
  unfold tokens
  rw [List.mem_map]
  constructor
  · rintro ⟨⟨k, m⟩, htemp, rfl⟩
    obtain ⟨hmem, hk⟩ := List.mem_filter.mp htemp
    have hk : k = kind := of_decide_eq_true hk
    rwa [← hk]
  · intro hmem
    exact ⟨(kind, token), List.mem_filter.mpr ⟨hmem, decide_eq_true rfl⟩, rfl⟩

theorem tokens_nodup (hs : Kept jobId artifactId given s) : (tokens s kind).Nodup := by
  refine (List.nodup_map_iff_inj_on (hs.temps.1.filter _)).mpr ?_
  rintro ⟨k, m⟩ h ⟨k', m'⟩ h' rfl
  have hk : k = kind := of_decide_eq_true (List.mem_filter.mp h).2
  have hk' : k' = kind := of_decide_eq_true (List.mem_filter.mp h').2
  rw [hk, hk']

theorem tempsOf_nameStats :
    tempsOf kind (nameStats s) = (tokens s kind).map fun token => (token, s.stat token) := by
  have hfinals : ∀ kinds : List ArtifactKind, tempsOf kind ((kinds.map ArtifactName.final).map
      fun name => (name, s.stat (inodeOf s name))) = [] := by
    intro kinds
    induction kinds with
    | nil => rfl
    | cons k kinds ih => exact ih
  have htemps : ∀ temps : List (ArtifactKind × Nat), tempsOf kind
      ((temps.map fun temp => ArtifactName.temp temp.1 temp.2).map
        fun name => (name, s.stat (inodeOf s name))) =
      ((temps.filter fun temp => temp.1 = kind).map Prod.snd).map
        fun token => (token, s.stat token) := by
    intro temps
    induction temps with
    | nil => rfl
    | cons temp temps ih =>
        unfold tempsOf at ih ⊢
        simp only [List.map_cons, List.filterMap_cons, List.filter_cons]
        by_cases hk : temp.1 = kind
        · simp only [hk, if_true, decide_true, List.map_cons, ih]
          rfl
        · simp only [hk, if_false, decide_false, Bool.false_eq_true, ih]
  unfold nameStats ArtifactDirectory.names tokens
  rw [List.map_append]
  unfold tempsOf at hfinals htemps ⊢
  rw [List.filterMap_append, hfinals, htemps, List.nil_append]

theorem lookup_nameStats : (nameStats s).lookup (.final kind) = (s.final kind).map s.stat := by
  have htemps : ∀ temps : List (ArtifactKind × Nat),
      ((temps.map fun temp => ArtifactName.temp temp.1 temp.2).map
        fun name => (name, s.stat (inodeOf s name))).lookup (.final kind) = none := by
    intro temps
    induction temps with
    | nil => rfl
    | cons temp temps ih => exact ih
  have hne : (ArtifactName.final .artifact == ArtifactName.final .metadata) = false ∧
      (ArtifactName.final .metadata == ArtifactName.final .artifact) = false := ⟨rfl, rfl⟩
  unfold nameStats ArtifactDirectory.names
  rw [List.map_append, List.lookup_append, htemps, Option.or_none]
  rcases hA : s.final .artifact with - | a <;> rcases hM : s.final .metadata with - | m <;>
    cases kind <;> simp [hA, hM, hne, inodeOf, List.lookup_cons]

/-! ### What the recovery decides -/

/-- The plan for a kind: an alias is removed, and all else must be in order. -/
theorem aliasPlan_eq (hs : Kept jobId artifactId given s) :
    (∀ token ∈ tokens s kind, s.final kind = some token) ∧
        aliasPlan (nameStats s) kind = some (tokens s kind).head? ∧ (tokens s kind).length ≤ 1 ∨
      (∃ token ∈ tokens s kind, s.final kind ≠ some token) ∧
        aliasPlan (nameStats s) kind = none := by
  have hnodup : (tokens s kind).Nodup := tokens_nodup hs
  have hlinks : ∀ m, s.final kind = some m →
      s.links m = 1 + if m ∈ tokens s kind then 1 else 0 := by
    intro m hm
    rw [links_eq hs (hs.kinds kind m hm), if_pos hm]
    simp only [mem_tokens]
  unfold aliasPlan
  rw [lookup_nameStats, tempsOf_nameStats]
  rcases hfinal : s.final kind with - | m
  · rcases htokens : tokens s kind with - | ⟨token, rest⟩
    · exact .inl ⟨fun _ h => (by cases h), rfl, Nat.zero_le _⟩
    · exact .inr ⟨⟨token, List.mem_cons_self, fun h => by cases h⟩, rfl⟩
  · have hm := hlinks m hfinal
    rcases htokens : tokens s kind with - | ⟨token, - | ⟨next, rest⟩⟩
    · rw [htokens, if_neg List.not_mem_nil] at hm
      refine .inl ⟨fun _ h => (by cases h), ?_, Nat.zero_le _⟩
      exact if_pos hm
    · by_cases heq : m = token
      · subst heq
        rw [htokens, if_pos List.mem_cons_self] at hm
        refine .inl ⟨?_, ?_, Nat.le_refl _⟩
        · intro other hother
          rw [List.mem_singleton.mp hother]
        · exact if_pos ⟨hm, decide_eq_true rfl⟩
      · -- the final file has one name, and the temporary name is another's
        have hne : m ∉ [token] := fun h => heq (List.mem_singleton.mp h)
        rw [htokens, if_neg hne] at hm
        refine .inr ⟨⟨token, List.mem_cons_self, fun h => heq (Option.some.inj h)⟩, ?_⟩
        refine if_neg fun h => ?_
        have htwo : s.links m = 2 := h.1
        omega
    · rw [htokens] at hnodup
      have hdistinct : token ≠ next := fun h =>
        (List.nodup_cons.mp hnodup).1 (h ▸ List.mem_cons_self)
      refine .inr ⟨?_, rfl⟩
      by_cases heq : m = token
      · exact ⟨next, List.mem_cons_of_mem _ List.mem_cons_self,
          fun h => hdistinct (heq.symm.trans (Option.some.inj h))⟩
      · exact ⟨token, List.mem_cons_self, fun h => heq (Option.some.inj h)⟩

/-- The aliases to remove. -/
def plansOf (s : ArtifactDirectory) : List (ArtifactKind × Nat) :=
  ((tokens s .artifact).head?.map (Prod.mk .artifact)).toList ++
    ((tokens s .metadata).head?.map (Prod.mk .metadata)).toList

/-- The recovery has a plan exactly when every temporary name is an alias, and
then it is to remove all of them. -/
theorem aliasPlans_aliased (hs : Kept jobId artifactId given s) (ha : Aliased s) :
    aliasPlans (nameStats s) = some (plansOf s) ∧ (plansOf s).Nodup ∧
      (∀ plan, plan ∈ plansOf s ↔ plan ∈ s.temps) ∧ s.temps.length ≤ 2 := by
  have htokens : ∀ kind, aliasPlan (nameStats s) kind = some (tokens s kind).head? ∧
      (tokens s kind).length ≤ 1 := by
    intro kind
    rcases aliasPlan_eq hs with ⟨-, hplan, hlen⟩ | ⟨⟨token, htoken, hne⟩, -⟩
    · exact ⟨hplan, hlen⟩
    · exact absurd (ha _ (mem_tokens.mp htoken)) hne
  have hmem : ∀ plan, plan ∈ plansOf s ↔ plan ∈ s.temps := by
    rintro ⟨k, token⟩
    have hhead : ∀ kind, (tokens s kind).head? = some token ↔ token ∈ tokens s kind := by
      intro kind
      have hlen := (htokens kind).2
      generalize tokens s kind = list at hlen ⊢
      rcases list with - | ⟨a, - | ⟨b, rest⟩⟩
      · simp
      · simp [eq_comm]
      · simp at hlen
    unfold plansOf
    rw [← mem_tokens, List.mem_append, Option.mem_toList, Option.mem_toList, Option.map_eq_some_iff,
      Option.map_eq_some_iff]
    constructor
    · rintro (⟨_, hm, heq⟩ | ⟨_, hm, heq⟩)
      · cases heq
        exact (hhead _).mp hm
      · cases heq
        exact (hhead _).mp hm
    · intro hm
      cases k with
      | artifact => exact .inl ⟨token, (hhead _).mpr hm, rfl⟩
      | metadata => exact .inr ⟨token, (hhead _).mpr hm, rfl⟩
  have hnodup : (plansOf s).Nodup := by
    unfold plansOf
    rcases (tokens s .artifact).head? with - | a <;>
      rcases (tokens s .metadata).head? with - | m <;> simp
  have hlength : (plansOf s).length ≤ 2 := by
    unfold plansOf
    rcases (tokens s .artifact).head? with - | a <;>
      rcases (tokens s .metadata).head? with - | m <;> simp
  refine ⟨?_, hnodup, hmem, ?_⟩
  · unfold aliasPlans
    rw [(htokens .artifact).1, (htokens .metadata).1]
    rfl
  · exact ((List.perm_ext_iff_of_nodup hs.temps.1 hnodup).mpr
      fun plan => (hmem plan).symm).length_eq.trans_le hlength

theorem aliasPlans_stray (hs : Kept jobId artifactId given s) (ha : ¬ Aliased s) :
    aliasPlans (nameStats s) = none := by
  unfold Aliased at ha
  push Not at ha
  obtain ⟨⟨kind, token⟩, htemp, hne⟩ := ha
  have hnone : aliasPlan (nameStats s) kind = none := by
    rcases aliasPlan_eq hs with ⟨hall, -⟩ | ⟨-, hplan⟩
    · exact absurd (hall token (mem_tokens.mpr htemp)) hne
    · exact hplan
  unfold aliasPlans
  cases kind with
  | artifact =>
      rw [hnone]
      rfl
  | metadata =>
      rw [hnone]
      cases aliasPlan (nameStats s) .artifact <;> rfl

/-! ### Recovery -/

/-- The size is one that `_namespace_stats` accepts. -/
def SizeFits (s : ArtifactDirectory) (name : ArtifactName) : Prop :=
  minimumSize name ≤ (s.files (inodeOf s name)).data.length ∧
    (s.files (inodeOf s name)).data.length ≤ name.kind.limit

theorem statAll_alone {names : List ArtifactName}
    (hnames : ∀ name ∈ names, s.lookup name = some (inodeOf s name))
    (hfits : ∀ name ∈ names, SizeFits s name) : Alone (statAll names) s
      (.ok (names.map fun name => (name, s.stat (inodeOf s name)))) s := by
  induction names with
  | nil => exact Gives.pure
  | cons name rest ih =>
      obtain ⟨hname, hnames⟩ := List.forall_mem_cons.mp hnames
      obtain ⟨⟨hmin, hmax⟩, hfits⟩ := List.forall_mem_cons.mp hfits
      apply (namedStat_alone hname).bind
      apply (requireRegular_alone (fun _ h => by cases h) hmin hmax).bind
      exact (ih hnames hfits).bind Gives.pure

theorem statAll_refused {names : List ArtifactName}
    (hnames : ∀ name ∈ names, s.lookup name = some (inodeOf s name))
    (hfits : ¬ ∀ name ∈ names, SizeFits s name) :
    Alone (statAll names) s (.error .corrupted) s := by
  induction names with
  | nil => exact absurd (fun _ h => by cases h) hfits
  | cons name rest ih =>
      obtain ⟨hname, hnames⟩ := List.forall_mem_cons.mp hnames
      apply (namedStat_alone hname).bind
      by_cases hfit : SizeFits s name
      · have hrest : ¬ ∀ other ∈ rest, SizeFits s other := fun hall =>
          hfits (List.forall_mem_cons.mpr ⟨hfit, hall⟩)
        apply (requireRegular_alone (fun _ h => by cases h) hfit.1 hfit.2).bind
        exact (ih hnames hrest).bind_error
      · apply Gives.bind_error
        refine Gives.ends Gives.require ⟨?_, rfl⟩
        rw [if_neg]
        rw [Bool.and_eq_true, Bool.and_eq_true, decide_eq_true_eq, decide_eq_true_eq]
        exact fun h => hfit ⟨h.1.2, h.2⟩

/-- The final names and what their files are meant to hold are as before. -/
structure Like (s t : ArtifactDirectory) : Prop where
  final : t.final = s.final
  meant : ∀ n, (t.files n).meant = (s.files n).meant
  depth : s.depth ≤ t.depth

theorem Like.refl (s : ArtifactDirectory) : Like s s := ⟨rfl, fun _ => rfl, Nat.le_refl _⟩

theorem Like.trans (h : Like s t) (h' : Like t u) : Like s u :=
  ⟨h'.final.trans h.final, fun n => (h'.meant n).trans (h.meant n), h.depth.trans h'.depth⟩

theorem setFile_meant {file : StoredFile} (h : file.meant = (s.files n).meant) (m : Nat) :
    ((s.setFile n file).files m).meant = (s.files m).meant := by
  rw [setFile_files]
  split
  · next heq => rw [heq]; exact h
  · rfl

/-- An alias is removed. -/
theorem recoverAlias_alone {token : Nat} (hs : Kept jobId artifactId given s)
    (hmem : (kind, token) ∈ s.temps) (hfinal : s.final kind = some token) :
    ∃ t, Alone (recoverAlias kind token) s (.ok ()) t ∧ Kept jobId artifactId given t ∧
      Like s t ∧ t.temps = s.temps.filter fun temp => temp ≠ (kind, token) := by
  let u : ArtifactDirectory :=
    { s.touch token with temps := s.temps.filter fun temp => temp ≠ (kind, token) }
  have hunlink : unlink kind token s = .ok u := if_pos hmem
  obtain ⟨-, hu⟩ := unlink_grows hs hunlink
  obtain ⟨-, ht⟩ := syncEntries_grows hu
  have hsize : ∀ d : ArtifactDirectory, Kept jobId artifactId given d →
      d.final kind = some token → 1 ≤ (d.files token).data.length ∧
        (d.files token).data.length ≤ kind.limit := by
    intro d hd hf
    rw [(hd.whole kind token hf).1]
    exact hd.sized kind token hf
  -- two names before, one behind
  have hbefore : s.links token = 2 := by
    rw [links_eq hs (hs.kinds kind token hfinal), if_pos hfinal, if_pos hmem]
  have hafter : u.syncEntries.links token = 1 := by
    have hnot : (kind, token) ∉ u.syncEntries.temps := fun h =>
      of_decide_eq_true (List.mem_filter.mp h).2 rfl
    rw [links_eq ht (ht.kinds kind token hfinal), if_neg hnot]
    exact congrArg (· + 0) (if_pos hfinal)
  refine ⟨u.syncEntries, ?_, ht, ⟨rfl, setFile_meant rfl, Nat.le_refl _⟩, rfl⟩
  have htemp : s.lookup (.temp kind token) = some token := if_pos hmem
  have htarget : s.lookup (.final kind) = some token := hfinal
  apply (namedStat_alone htemp).bind
  apply (namedStat_alone htarget).bind
  refine Gives.bind (a := ())
    (requireRegular_alone ?_ (hsize s hs hfinal).1 (hsize s hs hfinal).2) ?_
  · rintro k hk
    cases hk
    exact hbefore
  apply Gives.check (decide_eq_true rfl)
  apply (translate_alone (mutate_alone hunlink)).bind
  apply fsyncEntries_alone.bind
  have hfinal' : u.syncEntries.lookup (.final kind) = some token := hfinal
  apply (namedStat_alone hfinal').bind
  refine Gives.bind (a := ())
    (requireRegular_alone ?_ (hsize _ ht hfinal).1 (hsize _ ht hfinal).2) ?_
  · rintro k hk
    cases hk
    exact hafter
  exact Gives.require_true (decide_eq_true rfl)

theorem recoverAliases_alone {plans : List (ArtifactKind × Nat)} (hnodup : plans.Nodup)
    (hs : Kept jobId artifactId given s)
    (hplans : ∀ plan ∈ plans, plan ∈ s.temps ∧ s.final plan.1 = some plan.2) :
    ∃ t, Alone (recoverAliases plans) s (.ok ()) t ∧ Kept jobId artifactId given t ∧
      Like s t ∧ t.temps = s.temps.filter fun temp => temp ∉ plans := by
  induction plans generalizing s with
  | nil =>
      refine ⟨s, Gives.pure, hs, .refl s, ?_⟩
      exact (List.filter_eq_self.mpr fun _ _ => decide_eq_true List.not_mem_nil).symm
  | cons plan rest ih =>
      obtain ⟨hfresh, hnodup⟩ := List.nodup_cons.mp hnodup
      obtain ⟨⟨hmem, hfinal⟩, hrest⟩ := List.forall_mem_cons.mp hplans
      obtain ⟨t, halone, ht, hlike, htemps⟩ := recoverAlias_alone hs hmem hfinal
      have hrest' : ∀ other ∈ rest, other ∈ t.temps ∧ t.final other.1 = some other.2 := by
        intro other hother
        rw [htemps, hlike.final]
        refine ⟨List.mem_filter.mpr ⟨(hrest other hother).1, decide_eq_true ?_⟩,
          (hrest other hother).2⟩
        rintro rfl
        exact hfresh hother
      obtain ⟨u, halone', hu, hlike', htemps'⟩ := ih hnodup ht hrest'
      refine ⟨u, halone.bind halone', hu, hlike.trans hlike', ?_⟩
      rw [htemps', htemps, List.filter_filter]
      apply List.filter_congr
      intro temp _
      simp only [List.mem_cons, not_or, Bool.decide_and]
      exact Bool.and_comm _ _

theorem scandir_alone : Alone (translate (look fun _ s => .ok s.names) .unavailable) s
    (.ok s.names) s :=
  translate_alone (look_alone rfl)

theorem namespaceStats_alone (hshort : s.names.length ≤ maxJobEntries)
    (hfits : ∀ name ∈ s.names, SizeFits s name) :
    Alone namespaceStats s (.ok (nameStats s)) s := by
  apply scandir_alone.bind
  apply Gives.check (decide_eq_true hshort)
  exact statAll_alone (fun name hname => lookup_names hname) hfits

/-- **Recovery of aliases**: they are gone, and nothing else is changed. -/
theorem recoverNamespace_alone (hs : Kept jobId artifactId given s) (ha : Aliased s) :
    ∃ t, Alone recoverNamespace s (.ok ()) t ∧ Kept jobId artifactId given t ∧ Like s t ∧
      t.temps = [] := by
  obtain ⟨hplans, hnodup, hmem, hlength⟩ := aliasPlans_aliased hs ha
  have hshort : s.names.length ≤ maxJobEntries := by
    unfold ArtifactDirectory.names maxJobEntries
    have hfinals := List.length_filter_le (fun kind => (s.final kind).isSome)
      [ArtifactKind.artifact, .metadata]
    rw [List.length_append, List.length_map, List.length_map]
    have htwo : [ArtifactKind.artifact, .metadata].length = 2 := rfl
    omega
  have hfits : ∀ name ∈ s.names, SizeFits s name := by
    have hfinal : ∀ kind n, s.final kind = some n → 1 ≤ (s.files n).data.length ∧
        (s.files n).data.length ≤ kind.limit := by
      intro kind n hn
      rw [(hs.whole kind n hn).1]
      exact hs.sized kind n hn
    intro name hname
    have hlookup := lookup_names hname
    cases name with
    | final kind => exact hfinal kind _ hlookup
    | temp kind token =>
        have htemp : (kind, token) ∈ s.temps := by
          by_contra hnot
          rw [show s.lookup (.temp kind token) = none from if_neg hnot] at hlookup
          cases hlookup
        exact ⟨Nat.zero_le _, (hfinal kind token (ha _ htemp)).2⟩
  obtain ⟨t, halone, ht, hlike, htemps⟩ := recoverAliases_alone hnodup hs fun plan hplan =>
    ⟨(hmem plan).mp hplan, ha plan ((hmem plan).mp hplan)⟩
  refine ⟨t, ?_, ht, hlike, ?_⟩
  · apply (namespaceStats_alone hshort hfits).bind
    rw [hplans]
    exact halone
  · rw [htemps]
    exact List.filter_eq_nil_iff.mpr fun temp htemp h =>
      of_decide_eq_true h ((hmem temp).mpr htemp)

/-- **Any other leftover** is refused, and nothing is changed. -/
theorem recoverNamespace_stray (hs : Kept jobId artifactId given s) (ha : ¬ Aliased s) :
    Alone recoverNamespace s (.error .corrupted) s := by
  by_cases hshort : s.names.length ≤ maxJobEntries
  · by_cases hfits : ∀ name ∈ s.names, SizeFits s name
    · apply (namespaceStats_alone hshort hfits).bind
      rw [aliasPlans_stray hs ha]
      exact Gives.throw
    · apply Gives.bind_error
      apply scandir_alone.bind
      apply Gives.check (decide_eq_true hshort)
      exact statAll_refused (fun name hname => lookup_names hname) hfits
  · apply Gives.bind_error
    apply scandir_alone.bind
    apply Gives.bind_error
    refine Gives.ends Gives.require ⟨?_, rfl⟩
    exact if_neg fun h => hshort (of_decide_eq_true h)

/-! ### Directories -/

theorem openNamed_alone (level : Nat) : Alone (translate (openNamed level) .corrupted) s
    (.ok (level < s.depth)) s :=
  translate_alone (look_alone rfl)

theorem directoryIsSecure_alone : Alone directoryIsSecure s (.ok ()) s := by
  have hbare : Alone (translate bare .unavailable) s (.ok ()) s := translate_alone (look_alone rfl)
  exact hbare.bind (hbare.bind hbare)

/-- A directory that is there is opened. -/
theorem openDirectory_found {level : Nat} {create : Bool} (h : level < s.depth) :
    Alone (openDirectory level create) s (.ok true) s := by
  apply (openNamed_alone level).bind
  rw [decide_eq_true h]
  exact directoryIsSecure_alone.bind Gives.pure

/-- A directory that is not there is made. -/
theorem openDirectory_made (hs : Kept jobId artifactId given s) {level : Nat}
    (h : level ≤ s.depth) : ∃ t, Alone (openDirectory level true) s (.ok true) t ∧
      Kept jobId artifactId given t ∧ Like s t ∧ t.temps = s.temps ∧ level < t.depth := by
  rcases Nat.lt_or_eq_of_le h with hlt | rfl
  · exact ⟨s, openDirectory_found hlt, hs, .refl s, rfl, hlt⟩
  · let u : ArtifactDirectory := { s with depth := s.depth + 1 }
    have hmkdir : mkdir s.depth s = .ok u := by
      unfold mkdir
      rw [if_neg (Nat.lt_irrefl _), if_pos rfl]
    obtain ⟨-, hu⟩ := mkdir_grows hs hmkdir
    obtain ⟨-, ht⟩ := syncLevel_grows hu s.depth
    have hlike : Like s (u.syncLevel s.depth) := ⟨rfl, fun _ => rfl, Nat.le_succ _⟩
    refine ⟨u.syncLevel s.depth, ?_, ht, hlike, rfl, Nat.lt_succ_self _⟩
    apply (openNamed_alone s.depth).bind
    rw [decide_eq_false (Nat.lt_irrefl _)]
    have htry : Alone (tryMkdir s.depth) s (.ok true) u :=
      translate_alone (Gives.tryCatch_ok ((mutate_alone hmkdir).bind Gives.pure))
    apply htry.bind
    apply (openNamed_alone s.depth).bind
    apply Gives.check (decide_eq_true (Nat.lt_succ_self s.depth))
    exact directoryIsSecure_alone.bind ((fsyncLevel_alone s.depth).bind Gives.pure)

/-- The path is made as far as it is missing. -/
theorem openScope_made (count : Nat) {start : Nat} (hs : Kept jobId artifactId given s)
    (hstart : start ≤ s.depth) :
    ∃ t, Alone (openScope true (List.range' start count)) s (.ok true) t ∧
      Kept jobId artifactId given t ∧ Like s t ∧ t.temps = s.temps ∧ start + count ≤ t.depth := by
  induction count generalizing s start with
  | zero => exact ⟨s, Gives.pure, hs, .refl s, rfl, hstart⟩
  | succ count ih =>
      obtain ⟨t, hopen, ht, hlike, htemps, hdepth⟩ := openDirectory_made hs hstart
      obtain ⟨-, hu⟩ := syncLevel_grows ht start
      have hdeep : start + 1 ≤ (t.syncLevel start).depth := hdepth
      obtain ⟨u, hrest, hu, hlike', htemps', hdepth'⟩ := ih hu hdeep
      have hsync : Like t (t.syncLevel start) := ⟨rfl, fun _ => rfl, Nat.le_refl _⟩
      refine ⟨u, hopen.bind ((fsyncLevel_alone start).bind hrest), hu,
        hlike.trans (hsync.trans hlike'), htemps'.trans htemps, by omega⟩

/-- The path is there. -/
theorem openScope_found {list : List Nat} (h : ∀ level ∈ list, level < s.depth) :
    Alone (openScope false list) s (.ok true) s := by
  induction list with
  | nil => exact Gives.pure
  | cons level rest ih =>
      obtain ⟨hlevel, hrest⟩ := List.forall_mem_cons.mp h
      exact (openDirectory_found hlevel).bind (Gives.pure.bind (ih hrest))

/-- The path is not there. -/
theorem openScope_missing {list : List Nat} (h : ¬ ∀ level ∈ list, level < s.depth) :
    Alone (openScope false list) s (.ok false) s := by
  induction list with
  | nil => exact absurd (fun _ hl => by cases hl) h
  | cons level rest ih =>
      by_cases hlevel : level < s.depth
      · have hrest : ¬ ∀ l ∈ rest, l < s.depth := fun hall =>
          h (List.forall_mem_cons.mpr ⟨hlevel, hall⟩)
        exact (openDirectory_found hlevel).bind (Gives.pure.bind (ih hrest))
      · have hclosed : Alone (openDirectory level false) s (.ok false) s := by
          apply (openNamed_alone level).bind
          rw [decide_eq_false hlevel]
          exact Gives.pure
        exact hclosed.bind ((closeFds_alone level).bind Gives.pure)

/-! ### What is committed -/

/-- With no temporary names a final file has one name. -/
theorem links_clean (hs : Kept jobId artifactId given s) (htemps : s.temps = [])
    (hn : s.final kind = some n) : s.links n = 1 := by
  rw [links_eq hs (hs.kinds kind n hn), if_pos hn, htemps, if_neg List.not_mem_nil]

theorem osOpen_alone {name : ArtifactName} :
    Alone (translate (osOpen name) .corrupted) s (.ok (s.lookup name)) s :=
  translate_alone (look_alone rfl)

theorem readFile_alone {missingOk sync : Bool} {expected : Option Nat}
    (hs : Kept jobId artifactId given s) (htemps : s.temps = []) (hn : s.final kind = some n)
    (hexpected : ∀ k, expected = some k → k = (s.files n).meant.length) :
    Alone (readFile (.final kind) missingOk expected kind.limit sync) s
      (.ok (some (s.files n).meant)) s := by
  have hlookup : s.lookup (.final kind) = some n := hn
  obtain ⟨hwhole, hsynced⟩ := hs.whole kind n hn
  obtain ⟨hpos, hmax⟩ := hs.sized kind n hn
  have hopen : Alone (translate (osOpen (.final kind)) .corrupted) s (.ok (some n)) s := by
    rw [← hlookup]
    exact osOpen_alone
  have hread : Alone (readOpen n (.final kind) expected kind.limit sync) s
      (.ok (s.files n).data) s := by
    apply readOpen_alone hlookup (links_clean hs htemps hn)
    · rwa [hwhole]
    · rwa [hwhole]
    · rwa [hwhole]
    · rw [hwhole, hsynced]
  rw [hwhole] at hread
  exact hopen.bind (hread.bind (closeFd_alone.bind Gives.pure))

theorem readFile_none {expected : Option Nat} {maximum : Nat} {sync : Bool}
    (hn : s.final kind = none) :
    Alone (readFile (.final kind) true expected maximum sync) s (.ok none) s := by
  have hlookup : s.lookup (.final kind) = none := hn
  have hopen : Alone (translate (osOpen (.final kind)) .corrupted) s (.ok none) s := by
    rw [← hlookup]
    exact osOpen_alone
  exact hopen.bind (Gives.check rfl Gives.pure)

/-- A file of another size than expected is refused. -/
theorem readFile_refused {missingOk sync : Bool} {expected maximum : Nat}
    (hs : Kept jobId artifactId given s) (hn : s.final kind = some n)
    (hexpected : (s.files n).meant.length ≠ expected) :
    Alone (readFile (.final kind) missingOk (some expected) maximum sync) s
      (.error .corrupted) s := by
  have hlookup : s.lookup (.final kind) = some n := hn
  have hopen : Alone (translate (osOpen (.final kind)) .corrupted) s (.ok (some n)) s := by
    rw [← hlookup]
    exact osOpen_alone
  apply hopen.bind
  apply Gives.bind_error
  apply fstat_alone.bind
  apply Gives.bind_error
  apply inspectOpenFile_refused hlookup
  rwa [(hs.whole kind n hn).1]

theorem readCommitted_none {sync : Bool} (hn : s.final .metadata = none) :
    Alone (readCommitted hashBytes jobId artifactId sync) s (.ok none) s :=
  (readFile_none hn).bind Gives.pure

/-- The committed artifact is read. -/
theorem readCommitted_alone {sync : Bool}
    (hs : Kept jobId artifact.ref.artifactId given s) (htemps : s.temps = [])
    (hc : Commits jobId artifact s) :
    Alone (readCommitted hashBytes jobId artifact.ref.artifactId sync) s (.ok (some artifact))
      (if sync then s.syncEntries else s) := by
  obtain ⟨hsized, ⟨c, hc, -, hcontent⟩, ⟨m, hm, -, hmetadata⟩⟩ := hc
  have hraw : ∀ {missingOk sync : Bool} {expected : Option Nat},
      (∀ k, expected = some k → k = (encodeMetadata jobId artifact).length) →
      Alone (readFile (.final .metadata) missingOk expected ArtifactKind.metadata.limit sync) s
        (.ok (some (encodeMetadata jobId artifact))) s := by
    intro missingOk sync expected hexpected
    rw [← hmetadata] at hexpected ⊢
    exact readFile_alone hs htemps hm hexpected
  have hread : Alone (readFile (.final .artifact) false (some (metadataOf artifact).sizeBytes)
      ArtifactKind.artifact.limit sync) s (.ok (some artifact.content)) s := by
    rw [← hcontent]
    apply readFile_alone hs htemps hc
    rintro k hk
    cases hk
    exact congrArg List.length hcontent.symm
  apply (hraw fun _ h => by cases h).bind
  dsimp only
  rw [parseMetadata_encode hsized]
  apply Gives.pure.bind
  apply hread.bind
  apply Gives.pure.bind
  rw [artifactFrom_metadata]
  apply Gives.pure.bind
  cases sync with
  | false => exact Gives.pure.bind Gives.pure
  | true =>
      refine Gives.bind (a := ()) ?_ Gives.pure
      apply (hraw fun k hk => (Option.some.inj hk).symm).bind
      exact Gives.check (decide_eq_true rfl) fsyncEntries_alone

/-! ### Publishing -/

/-- A call that ends well is one under the handler that cleans up. -/
theorem cleaning_alone {m : ArtifactProgram α} {a : α} {P : ArtifactDirectory → Prop}
    (h : Ends CallOutcome.Unfailing m s fun r t => r = .ok a ∧ P t) :
    Ends CallOutcome.Unfailing (cleaning kind n m) s fun r t => r = .ok a ∧ P t := by
  refine ends_tryCatch.mpr (h.mono ?_)
  rintro _ t ⟨rfl, hP⟩
  exact ⟨fun _ hb => ⟨hb.symm, hP⟩, fun _ he => by cases he⟩

/-- All of the content is written, and nothing else is touched. -/
theorem writeAll_alone {turns written : Nat} (hs : Kept jobId artifactId given s)
    (hn : n < s.next) (hmeant : (s.files n).meant = content)
    (hwritten : (s.files n).data.length = written) (hturns : content.length ≤ turns + written) :
    Ends CallOutcome.Unfailing (writeAll n content turns written) s fun r t => r = .ok () ∧
      Kept jobId artifactId given t ∧ Grows s t ∧ Like s t ∧ t.temps = s.temps ∧
        (t.files n).data.length = content.length := by
  have hle : written ≤ content.length := by
    rw [← hwritten, ← hmeant]
    exact (hs.files n hn).begun.length_le
  induction turns generalizing s written with
  | zero => exact ⟨rfl, hs, .refl s, .refl s, rfl, by omega⟩
  | succ turns ih =>
      unfold writeAll
      split
      · next hdone => exact ⟨rfl, hs, .refl s, .refl s, rfl, by omega⟩
      · next hmore =>
          have hchunk : ∀ part, part <+: (content.drop written).take chunkSize → 0 < part.length →
              Ends CallOutcome.Unfailing (do
                Code.require (0 < part.length) .unavailable
                writeAll n content turns (written + part.length)) (s.write n written part)
                fun r t => r = .ok () ∧ Kept jobId artifactId given t ∧ Grows s t ∧ Like s t ∧
                  t.temps = s.temps ∧ (t.files n).data.length = content.length := by
            intro part hpart hpos
            have hbegun : part <+: (s.files n).meant.drop written := by
              rw [hmeant]
              exact hpart.trans (List.take_prefix _ _)
            obtain ⟨hg, hk, hlength⟩ := write_grows hs hn hwritten.ge hbegun
            have hlike : Like s (s.write n written part) :=
              ⟨rfl, setFile_meant rfl, Nat.le_refl _⟩
            have hsmall : part.length ≤ content.length - written := by
              have := hpart.length_le
              rw [List.length_take, List.length_drop] at this
              omega
            apply ends_bind.mpr
            apply ends_require.mpr
            rw [if_pos (decide_eq_true hpos)]
            refine ⟨fun _ _ => ?_, fun _ he => by cases he⟩
            have hrest := ih hk (hn.trans_le hg.next) ((hlike.meant n).trans hmeant)
              (show _ = written + part.length by rw [hlength]; omega) (by omega) (by omega)
            apply hrest.mono
            rintro r t ⟨hr, ht, hg', hlike', htemps, hdata⟩
            exact ⟨hr, ht, hg.trans hg', hlike.trans hlike', htemps, hdata⟩
          have hpos : 0 < ((content.drop written).take chunkSize).length := by
            rw [List.length_take, List.length_drop]
            unfold chunkSize
            omega
          apply ends_bind.mpr
          apply ends_tryCatch.mpr
          intro outcome hclean
          cases outcome with
          | fails => exact hclean.elim
          | failsAfter => exact hclean.elim
          | shortWrite k =>
              refine ⟨fun a ha => ⟨fun b hb => ?_, fun _ he => by cases he⟩,
                fun _ he => by cases he⟩
              cases ha
              cases hb
              apply hchunk _ (List.take_prefix _ _)
              rw [List.length_take]
              exact Nat.lt_min.mpr ⟨hclean, hpos⟩
          | _ =>
              refine ⟨fun a ha => ⟨fun b hb => ?_, fun _ he => by cases he⟩,
                fun _ he => by cases he⟩
              cases ha
              cases hb
              exact hchunk _ List.prefix_rfl hpos

/-- A new file stands under its temporary name alone. -/
theorem openTemp_alone (hs : Kept jobId artifactId given s) (hdeep : levels.length ≤ s.depth) :
    Alone (openTemp kind content) s (.ok s.next) (created kind content s) := by
  obtain ⟨-, hk⟩ := created_grows hs hdeep kind content
  have hfile : (created kind content s).files s.next = ⟨kind, content, [], [], s.clock⟩ :=
    Function.update_self _ _ _
  have hmem : (kind, s.next) ∈ (created kind content s).temps :=
    List.mem_append_right _ (List.mem_singleton_self _)
  have hfinal : (created kind content s).final kind ≠ some s.next := fun h =>
    (Nat.lt_irrefl _ (hs.used kind s.next h)).elim
  have hlinks : (created kind content s).links s.next = 1 := by
    rw [links_eq hk (show _ = kind by rw [hfile]), if_neg hfinal, if_pos hmem]
  have hcreate : Alone (osCreate kind content) s (.ok s.next) (created kind content s) := by
    intro outcome hclean
    cases outcome with
    | fails => exact hclean.elim
    | failsAfter => exact hclean.elim
    | _ => exact ⟨rfl, rfl⟩
  have hlookup : (created kind content s).lookup (.temp kind s.next) = some s.next := if_pos hmem
  have hbare : Alone (translate bare .unavailable) s (.ok ()) s := translate_alone (look_alone rfl)
  apply hbare.bind
  apply (translate_alone hcreate).bind
  refine Gives.bind (inspectOpenFile_alone hlookup hlinks ?_) Gives.pure
  rw [hfile]
  rfl

/-- The temporary name is removed. -/
theorem unlinkOwned_alone {links : Nat} (hmem : (kind, n) ∈ s.temps) (hlinks : s.links n = links) :
    Alone (unlinkOwned kind n links) s (.ok ())
      { s.touch n with temps := s.temps.filter fun temp => temp ≠ (kind, n) } := by
  have hlookup : s.lookup (.temp kind n) = some n := if_pos hmem
  have hstats : Alone (ownedStats kind n) s (.ok (s.stat n, s.stat n)) s := by
    have hopened : Alone (look fun _ s => .ok (s.stat n)) s (.ok (s.stat n)) s := look_alone rfl
    exact hopened.bind ((osStat_alone hlookup).bind Gives.pure)
  refine Gives.bind (a := some (s.stat n, s.stat n))
    (Gives.tryCatch_ok (hstats.bind Gives.pure)) ?_
  apply Gives.check
  · rw [Bool.and_eq_true, decide_eq_true_eq]
    exact ⟨decide_eq_true rfl, hlinks⟩
  · exact translate_alone (mutate_alone (if_pos hmem))

/-- The file is written, put on the disk and linked. -/
theorem writeTemp_alone (hs : Kept jobId artifactId given s) (htemps : s.temps = [(kind, n)])
    (hfree : s.final kind = none) (hmeant : (s.files n).meant = content)
    (hdata : (s.files n).data.length = 0)
    (hpublishable : (Publishable jobId artifactId given kind content).holds s) :
    Ends CallOutcome.Unfailing (writeTemp kind n content) s fun r t => r = .ok true ∧
      Kept jobId artifactId given t ∧ Grows s t ∧ t.temps = [(kind, n)] ∧
        t.final = Function.update s.final kind (some n) ∧
          (t.files n).data.length = content.length := by
  have hmem : (kind, n) ∈ s.temps := htemps ▸ List.mem_singleton_self _
  apply Ends.bind
  refine Ends.mono (writeAll_alone hs (hs.temps.2 _ hmem).used hmeant hdata (Nat.le_refl _)) ?_
  rintro _ t ⟨rfl, ht, hg, hlike, htemps', hlength⟩
  refine ⟨rfl, ?_⟩
  have htemps : t.temps = [(kind, n)] := htemps'.trans htemps
  have hmem : (kind, n) ∈ t.temps := htemps ▸ List.mem_singleton_self _
  have hfree : t.final kind = none := (congrFun hlike.final kind).trans hfree
  have hmeant : (t.files n).meant = content := (hlike.meant n).trans hmeant
  have hpublishable := (Publishable jobId artifactId given kind content).up hg hpublishable
  obtain ⟨hn, -, hkind⟩ := ht.temps.2 _ hmem
  have hwhole : (t.files n).data = (t.files n).meant := by
    apply (ht.files n hn).begun.eq_of_length
    rw [hlength, hmeant]
  -- the file is on the disk
  obtain ⟨hgu, hu⟩ := syncFile_grows ht hn
  have hfile : (t.syncFile n).files n = { t.files n with synced := (t.files n).data } := by
    rw [syncFile_files, if_pos rfl]
  have hlinks : t.links n = 1 := by
    rw [links_eq ht hkind, if_neg (by rw [hfree]; exact fun h => by cases h), if_pos hmem]
  have hlinks' : (t.syncFile n).links n = 1 := hlinks
  have hlookup : t.lookup (.temp kind n) = some n := if_pos hmem
  have hlookup' : (t.syncFile n).lookup (.temp kind n) = some n := hlookup
  have hlength' : ((t.syncFile n).files n).data.length = content.length := by
    rw [hfile]
    exact hlength
  -- and the final name is free
  obtain ⟨u, hlink⟩ : ∃ u, link kind n (t.syncFile n) = .ok u := by
    unfold link
    rw [if_pos (show (kind, n) ∈ (t.syncFile n).temps from hmem),
      show (t.syncFile n).final kind = none from hfree]
    exact ⟨_, rfl⟩
  have hsynced : ((t.syncFile n).files n).synced = ((t.syncFile n).files n).meant := by
    rw [hfile]
    exact hwhole
  have hwhole' : ((t.syncFile n).files n).data = ((t.syncFile n).files n).meant := by
    rw [hfile]
    exact hwhole
  have hmeant' : ((t.syncFile n).files n).meant = content := by
    rw [hfile]
    exact hmeant
  obtain ⟨hsized, hmetadata⟩ :=
    (Publishable jobId artifactId given kind content).up hgu hpublishable
  obtain ⟨hgl, hk, -⟩ := link_grows hu hwhole' hsynced (hmeant'.symm ▸ hsized)
    (hmeant'.symm ▸ hmetadata) hlink
  have hshape : u.temps = t.temps ∧ u.final = Function.update t.final kind (some n) ∧
      (u.files n).data.length = content.length := by
    unfold link at hlink
    rw [if_pos (show (kind, n) ∈ (t.syncFile n).temps from hmem),
      show (t.syncFile n).final kind = none from hfree] at hlink
    cases hlink
    refine ⟨rfl, rfl, ?_⟩
    show (((t.syncFile n).touch n).files n).data.length = content.length
    rw [ArtifactDirectory.touch, setFile_files, if_pos rfl]
    exact hlength'
  have hclaim : Alone (claimTemp kind n) (t.syncFile n) (.ok true) u :=
    translate_alone (Gives.tryCatch_ok ((mutate_alone hlink).bind Gives.pure))
  have hsync : Alone (fsyncFile n) t (.ok ()) (t.syncFile n) := translate_alone (mutate_alone rfl)
  refine Gives.ends ((inspectOpenFile_alone hlookup hlinks hlength).bind (hsync.bind
    ((inspectOpenFile_alone hlookup' hlinks' hlength').bind hclaim))) ?_
  refine ⟨rfl, hk, hg.trans (hgu.trans hgl), hshape.1.trans htemps, ?_, hshape.2.2⟩
  rw [hshape.2.1, hlike.final]

/-- Behind the claim the temporary name is removed. -/
theorem settleLinked_alone (hs : Kept jobId artifactId given s)
    (htemps : s.temps = [(kind, n)]) (hn : s.final kind = some n)
    (hlength : (s.files n).data.length = content.length) :
    ∃ t, Alone (settleLinked kind n content) s (.ok ()) t ∧ Kept jobId artifactId given t ∧
      Grows s t ∧ t.temps = [] ∧ t.final = s.final := by
  have hmem : (kind, n) ∈ s.temps := htemps ▸ List.mem_singleton_self _
  let u : ArtifactDirectory :=
    { s.touch n with temps := s.temps.filter fun temp => temp ≠ (kind, n) }
  have hunlink : unlink kind n s = .ok u := if_pos hmem
  obtain ⟨hgu, hu⟩ := unlink_grows hs hunlink
  obtain ⟨hgt, ht⟩ := syncEntries_grows hu
  have hempty : u.syncEntries.temps = [] := by
    show s.temps.filter _ = []
    rw [htemps]
    exact List.filter_eq_nil_iff.mpr fun temp htemp h =>
      of_decide_eq_true h (List.mem_singleton.mp htemp)
  have hbefore : s.links n = 2 := by
    rw [links_eq hs (hs.kinds kind n hn), if_pos hn, if_pos hmem]
  have hafter : u.syncEntries.links n = 1 := links_clean ht hempty hn
  have hlookup : s.lookup (.final kind) = some n := hn
  have hlookup' : u.syncEntries.lookup (.final kind) = some n := hn
  have hlength' : (u.syncEntries.files n).data.length = content.length := by
    show ((s.touch n).files n).data.length = content.length
    rw [ArtifactDirectory.touch, setFile_files, if_pos rfl]
    exact hlength
  refine ⟨u.syncEntries, ?_, ht, hgu.trans hgt, hempty, rfl⟩
  apply (inspectOpenFile_alone hlookup hbefore hlength).bind
  apply (unlinkOwned_alone hmem hbefore).bind
  apply fsyncEntries_alone.bind
  exact (inspectOpenFile_alone hlookup' hafter hlength').bind Gives.pure

/-- Where the final name is free, the content is published under it, and no
temporary name is left. -/
theorem atomicPublish_alone (hs : Kept jobId artifactId given s) (htemps : s.temps = [])
    (hdeep : levels.length ≤ s.depth) (hfree : s.final kind = none)
    (hpublishable : (Publishable jobId artifactId given kind content).holds s) :
    Ends CallOutcome.Unfailing (atomicPublish kind content) s fun r t => r = .ok () ∧
      Kept jobId artifactId given t ∧ Grows s t ∧ t.temps = [] ∧
        ∀ other, other ≠ kind → t.final other = s.final other := by
  have hcreated : (created kind content s).temps = [(kind, s.next)] := by
    show s.temps ++ [(kind, s.next)] = _
    rw [htemps, List.nil_append]
  obtain ⟨hg, hk⟩ := created_grows hs hdeep kind content
  have hfile : (created kind content s).files s.next = ⟨kind, content, [], [], s.clock⟩ :=
    Function.update_self _ _ _
  have hmeant : ((created kind content s).files s.next).meant = content := by rw [hfile]
  have hdata : ((created kind content s).files s.next).data.length = 0 := by rw [hfile]; rfl
  apply Ends.bind
  refine Gives.ends (openTemp_alone hs hdeep) ⟨rfl, ?_⟩
  apply Ends.bind
  refine Ends.mono (cleaning_alone (writeTemp_alone hk hcreated hfree hmeant hdata
    ((Publishable jobId artifactId given kind content).up hg hpublishable))) ?_
  rintro _ t ⟨rfl, ht, hg', htemps', hfinal, hlength⟩
  refine ⟨rfl, ?_⟩
  have hn : t.final kind = some s.next := by
    rw [hfinal]
    exact Function.update_self _ _ _
  obtain ⟨u, hsettle, hu, hgu, hempty, hfinal'⟩ := settleLinked_alone ht htemps' hn hlength
  have hwhole : Alone (do
      settleTemp kind s.next content true
      closeFd) t (.ok ()) u := hsettle.bind closeFd_alone
  refine Gives.ends hwhole ⟨rfl, hu, hg.trans (hg'.trans hgu), hempty, fun other hne => ?_⟩
  rw [hfinal', hfinal]
  exact Function.update_of_ne hne _ _

/-! ### Putting -/

/-- What is published is of this artifact. -/
structure Agrees (jobId : JobId) (artifact : GeneratedArtifact hashBytes) (s : ArtifactDirectory) :
    Prop where
  content : ∀ n, s.final .artifact = some n → (s.files n).meant = artifact.content
  metadata : ∀ n, s.final .metadata = some n →
    (s.files n).meant = encodeMetadata jobId artifact

theorem Like.agrees (h : Like s t) : Agrees jobId artifact t ↔ Agrees jobId artifact s := by
  constructor
  · intro ha
    refine ⟨fun n hn => ?_, fun n hn => ?_⟩
    · rw [← h.meant]
      exact ha.content n (by rw [h.final]; exact hn)
    · rw [← h.meant]
      exact ha.metadata n (by rw [h.final]; exact hn)
  · intro ha
    refine ⟨fun n hn => ?_, fun n hn => ?_⟩
    · rw [h.meant]
      exact ha.content n (by rw [← h.final]; exact hn)
    · rw [h.meant]
      exact ha.metadata n (by rw [← h.final]; exact hn)

/-- Where metadata are published, an artifact agrees when it is the committed
one. -/
theorem agrees_iff {other : GeneratedArtifact hashBytes} (hc : Commits jobId other s)
    (hsized : Sized artifact) (hid : other.ref.artifactId = artifact.ref.artifactId) :
    Agrees jobId artifact s ↔ other = artifact := by
  obtain ⟨hsized', ⟨c, hcontent⟩, ⟨m, hmetadata⟩⟩ := hc
  constructor
  · intro ha
    have hencode : encodeMetadata jobId other = encodeMetadata jobId artifact :=
      hmetadata.2.2.symm.trans (ha.metadata m hmetadata.1)
    exact encodeMetadata_inj hsized' hsized hid
      (hcontent.2.2.symm.trans (ha.content c hcontent.1)) hencode
  · rintro rfl
    refine ⟨fun n hn => ?_, fun n hn => ?_⟩
    · obtain rfl : c = n := Option.some.inj (hcontent.1.symm.trans hn)
      exact hcontent.2.2
    · obtain rfl : m = n := Option.some.inj (hmetadata.1.symm.trans hn)
      exact hmetadata.2.2

/-- The metadata are published behind the content. -/
theorem putMetadata_alone {metadata : Bytes} (hs : Kept jobId artifactId given s)
    (htemps : s.temps = []) (hdeep : levels.length ≤ s.depth) (hfree : s.final .metadata = none)
    (hpublishable : (Publishable jobId artifactId given .metadata metadata).holds s) :
    Ends CallOutcome.Unfailing (putMetadata metadata) s fun r t => r = .ok () ∧ t.temps = [] := by
  obtain ⟨hpos, hmax⟩ := hpublishable.1
  apply Ends.bind
  refine Gives.ends (Gives.require_true ?_) ⟨rfl, ?_⟩
  · rw [decide_eq_true hpos, decide_eq_true hmax]
    rfl
  apply (atomicPublish_alone hs htemps hdeep hfree hpublishable).mono
  rintro r t ⟨hr, -, -, hempty, -⟩
  exact ⟨hr, hempty⟩

/-- Behind its stored content an artifact may publish its metadata. -/
theorem publishable_metadata (hsized : Sized artifact) (hgiven : given artifact)
    (hstored : (Stored jobId artifact.ref.artifactId given .artifact artifact.content).holds s) :
    (Publishable jobId artifact.ref.artifactId given .metadata
      (encodeMetadata jobId artifact)).holds s :=
  ⟨encodeMetadata_length hsized,
    fun _ => ⟨artifact, rfl, hgiven, hsized, hstored.1, hstored.2, rfl⟩⟩

/-- What is there when the metadata are put. -/
structure ContentReady (jobId : JobId) (given : GeneratedArtifact hashBytes → Prop)
    (artifact : GeneratedArtifact hashBytes) (s : ArtifactDirectory) : Prop where
  kept : Kept jobId artifact.ref.artifactId given s
  temps : s.temps = []
  deep : levels.length ≤ s.depth
  free : s.final .metadata = none
  stored : (Stored jobId artifact.ref.artifactId given .artifact artifact.content).holds s

/-- The content is published where nothing is. -/
theorem storeContent_published (hs : Kept jobId artifact.ref.artifactId given s)
    (htemps : s.temps = []) (hdeep : levels.length ≤ s.depth) (hsized : Sized artifact)
    (hfree : s.final .metadata = none) (hn : s.final .artifact = none) :
    Ends CallOutcome.Unfailing (storeContent artifact.content none) s fun r t =>
      r = .ok () ∧ ContentReady jobId given artifact t := by
  have hpublishable : (Publishable jobId artifact.ref.artifactId given .artifact
      artifact.content).holds s := ⟨hsized, fun h => by cases h⟩
  have hstored : Ends CallOutcome.Unfailing (atomicPublish .artifact artifact.content) s
      fun r t => Grows s t ∧ Kept jobId artifact.ref.artifactId given t ∧ ∀ a, r = .ok a →
        (Stored jobId artifact.ref.artifactId given .artifact artifact.content).holds t :=
    atomicPublish_safe.ends hs ⟨hdeep, hpublishable⟩
  refine ((atomicPublish_alone hs htemps hdeep hn hpublishable).and hstored).mono ?_
  rintro _ t ⟨⟨rfl, ht, hg, hempty, hothers⟩, -, -, hdone⟩
  have hfree' : t.final .metadata = none :=
    (hothers .metadata (fun h => by cases h)).trans hfree
  exact ⟨rfl, ht, hempty, hdeep.trans hg.depth, hfree', hdone () rfl⟩

/-- The content that is there is synced. -/
theorem storeContent_present {n : Nat} (hs : Kept jobId artifact.ref.artifactId given s)
    (htemps : s.temps = []) (hdeep : levels.length ≤ s.depth) (hfree : s.final .metadata = none)
    (hn : s.final .artifact = some n) (hcontent : (s.files n).meant = artifact.content) :
    Ends CallOutcome.Unfailing (storeContent artifact.content (some (s.files n).meant)) s
      fun r t => r = .ok () ∧ ContentReady jobId given artifact t := by
  obtain ⟨-, ht⟩ := syncEntries_grows hs
  have hstore : Alone (storeContent artifact.content (some (s.files n).meant)) s (.ok ())
      s.syncEntries := Gives.check (decide_eq_true hcontent) fsyncEntries_alone
  refine Gives.ends hstore ⟨rfl, ht, htemps, hdeep, hfree, ?_⟩
  exact ⟨⟨n, hn, hs.used .artifact n hn, hcontent⟩, n, hn⟩

/-- Behind the content the metadata are put. -/
theorem putBehind_alone {current : Option Bytes} {metadata : Bytes}
    (hstore : Ends CallOutcome.Unfailing (storeContent artifact.content current) s fun r t =>
      r = .ok () ∧ ContentReady jobId given artifact t)
    (hpublishable : ∀ t, ContentReady jobId given artifact t →
      (Publishable jobId artifact.ref.artifactId given .metadata metadata).holds t) :
    Ends CallOutcome.Unfailing (do storeContent artifact.content current; putMetadata metadata) s
      fun r t => r = .ok () ∧ t.temps = [] := by
  apply Ends.bind
  refine hstore.mono ?_
  rintro _ t ⟨rfl, hready⟩
  refine ⟨rfl, ?_⟩
  exact putMetadata_alone hready.kept hready.temps hready.deep hready.free (hpublishable t hready)

theorem putMissing_alone (hs : Kept jobId artifact.ref.artifactId given s)
    (htemps : s.temps = []) (hdeep : levels.length ≤ s.depth) (hsized : Sized artifact)
    (hgiven : given artifact) (hfree : s.final .metadata = none) :
    Ends CallOutcome.Unfailing (putMissing hashBytes jobId artifact) s fun r t =>
      (Agrees jobId artifact s → r = .ok () ∧ t.temps = []) ∧
        (¬ Agrees jobId artifact s → r = .error .corrupted ∧ t.final = s.final) := by
  have hmetadata : ∀ t, ContentReady jobId given artifact t →
      (Publishable jobId artifact.ref.artifactId given .metadata
        (encodeMetadata jobId artifact)).holds t :=
    fun t ht => publishable_metadata hsized hgiven ht.stored
  unfold putMissing
  generalize encodeMetadata jobId artifact = metadata at hmetadata ⊢
  rcases hn : s.final .artifact with - | n
  · -- nothing is published
    have hagrees : Agrees jobId artifact s := by
      refine ⟨fun n h => ?_, fun n h => ?_⟩
      · rw [hn] at h
        cases h
      · rw [hfree] at h
        cases h
    apply Ends.bind
    refine Gives.ends (readFile_none hn) ⟨rfl, ?_⟩
    have hstore := storeContent_published hs htemps hdeep hsized hfree hn
    exact (putBehind_alone hstore hmetadata).mono fun r u h =>
      ⟨fun _ => h, fun hnot => absurd hagrees hnot⟩
  · by_cases hsize : (s.files n).meant.length = artifact.content.length
    · have hread : Alone (readFile (.final .artifact) true (some artifact.content.length)
          ArtifactKind.artifact.limit true) s (.ok (some (s.files n).meant)) s := by
        apply readFile_alone hs htemps hn
        rintro k hk
        cases hk
        exact hsize.symm
      apply Ends.bind
      refine Gives.ends hread ⟨rfl, ?_⟩
      by_cases hcontent : (s.files n).meant = artifact.content
      · -- the content is there
        have hagrees : Agrees jobId artifact s := by
          refine ⟨fun m h => ?_, fun m h => ?_⟩
          · obtain rfl : n = m := Option.some.inj (hn.symm.trans h)
            exact hcontent
          · rw [hfree] at h
            cases h
        have hstore := storeContent_present hs htemps hdeep hfree hn hcontent
        exact (putBehind_alone hstore hmetadata).mono fun r u h =>
          ⟨fun _ => h, fun hnot => absurd hagrees hnot⟩
      · have hrefused : Alone (storeContent artifact.content (some (s.files n).meant)) s
            (.error .corrupted) s := by
          apply Gives.bind_error
          refine Gives.ends Gives.require ⟨?_, rfl⟩
          exact if_neg fun h => hcontent (of_decide_eq_true h)
        refine Gives.ends hrefused.bind_error ⟨fun ha => ?_, fun _ => ⟨rfl, rfl⟩⟩
        exact absurd (ha.content n hn) hcontent
    · refine Gives.ends (readFile_refused hs hn hsize).bind_error
        ⟨fun ha => ?_, fun _ => ⟨rfl, rfl⟩⟩
      exact absurd (congrArg List.length (ha.content n hn)) hsize

theorem sameArtifact_self (artifact : GeneratedArtifact hashBytes) :
    sameArtifact artifact artifact = true := by
  simp [sameArtifact]

theorem putOpen_alone (hs : Kept jobId artifact.ref.artifactId given s)
    (hdeep : levels.length ≤ s.depth) (hsized : Sized artifact) (hgiven : given artifact) :
    Ends CallOutcome.Unfailing (putOpen hashBytes jobId artifact) s fun r t =>
      (Aliased s ∧ Agrees jobId artifact s → r = .ok () ∧ t.temps = []) ∧
        (¬ (Aliased s ∧ Agrees jobId artifact s) → r = .error .corrupted ∧ t.final = s.final) := by
  by_cases ha : Aliased s
  · obtain ⟨t, hrecover, ht, hlike, hempty⟩ := recoverNamespace_alone hs ha
    have hdeep' : levels.length ≤ t.depth := hdeep.trans hlike.depth
    apply Ends.bind
    refine Gives.ends hrecover ⟨rfl, ?_⟩
    rcases hn : t.final .metadata with - | n
    · apply Ends.bind
      refine Gives.ends (readCommitted_none hn) ⟨rfl, ?_⟩
      apply (putMissing_alone ht hempty hdeep' hsized hgiven hn).mono
      rintro r u ⟨hok, hrefused⟩
      refine ⟨fun h => hok (hlike.agrees.mpr h.2), fun h => ?_⟩
      obtain ⟨hr, hfinal⟩ := hrefused fun hagrees => h ⟨ha, hlike.agrees.mp hagrees⟩
      exact ⟨hr, hfinal.trans hlike.final⟩
    · obtain ⟨other, hid, -, hcommits⟩ := ht.metadata n hn
      have hread : Alone (readCommitted hashBytes jobId artifact.ref.artifactId true) t
          (.ok (some other)) t.syncEntries := by
        rw [← hid] at ht ⊢
        exact readCommitted_alone ht hempty hcommits
      have hagrees : Agrees jobId artifact s ↔ other = artifact :=
        hlike.agrees.symm.trans (agrees_iff hcommits hsized hid)
      apply Ends.bind
      refine Gives.ends hread ⟨rfl, ?_⟩
      by_cases hsame : other = artifact
      · subst hsame
        refine Gives.ends (Gives.require_true (sameArtifact_self _)) ⟨fun _ => ⟨rfl, hempty⟩, ?_⟩
        exact fun h => absurd ⟨ha, hagrees.mpr rfl⟩ h
      · refine Gives.ends Gives.require ⟨fun h => absurd (hagrees.mp h.2) hsame, fun _ => ?_⟩
        exact ⟨if_neg fun h => hsame (eq_of_sameArtifact h), hlike.final⟩
  · have hrefused := recoverNamespace_stray hs ha
    refine Gives.ends hrefused.bind_error ⟨fun h => absurd h.1 ha, fun _ => ?_⟩
    exact ⟨rfl, rfl⟩

/-- **A put alone**, none of whose calls fails, succeeds exactly when the
leftovers are aliases and what is published is of its artifact. -/
theorem put_alone (hs : Kept jobId artifact.ref.artifactId given s) (hsized : Sized artifact)
    (hgiven : given artifact) :
    Ends CallOutcome.Unfailing (put hashBytes jobId artifact) s fun r t =>
      (Aliased s ∧ Agrees jobId artifact s → r = .ok () ∧ t.temps = []) ∧
        (¬ (Aliased s ∧ Agrees jobId artifact s) → r = .error .corrupted ∧ t.final = s.final) := by
  obtain ⟨t, hscope, ht, hlike, htemps, hdepth⟩ := openScope_made 4 hs (Nat.zero_le _)
  have haliased : Aliased t ↔ Aliased s := by
    unfold Aliased
    rw [htemps, hlike.final]
  have hagrees : Agrees jobId artifact t ↔ Agrees jobId artifact s := hlike.agrees
  apply Ends.bind
  refine Gives.ends (Gives.require_true ?_) ⟨rfl, ?_⟩
  · rw [decide_eq_true hsized.1, decide_eq_true hsized.2]
    rfl
  apply Ends.bind
  refine Gives.ends hscope ⟨rfl, ?_⟩
  apply Ends.bind
  refine Gives.ends (Gives.require_true rfl) ⟨rfl, ?_⟩
  have hopen := putOpen_alone ht (show levels.length ≤ t.depth by exact hdepth) hsized hgiven
  rw [haliased, hagrees] at hopen
  refine ends_bind.mpr (hopen.mono ?_)
  rintro r u ⟨hok, hrefused⟩
  by_cases h : Aliased s ∧ Agrees jobId artifact s
  · obtain ⟨rfl, hempty⟩ := hok h
    refine ⟨fun _ _ => ?_, fun _ he => by cases he⟩
    exact Gives.ends (closeFds_alone _) ⟨fun _ => ⟨rfl, hempty⟩, fun hnot => absurd h hnot⟩
  · obtain ⟨rfl, hfinal⟩ := hrefused h
    refine ⟨(fun _ hb => by cases hb), fun e he => ?_⟩
    cases he
    exact ⟨fun hyes => absurd hyes h, fun _ => ⟨rfl, hfinal.trans hlike.final⟩⟩

/-! ### Getting -/

/-- Where a directory is missing, there are no names. -/
theorem shallow (hs : Kept jobId artifactId given s)
    (hdeep : ¬ ∀ level ∈ levels, level < s.depth) : s.temps = [] ∧ ∀ kind, s.final kind = none := by
  have hshort : s.depth < 4 := by
    by_contra hnot
    have hlt : ∀ level ∈ levels, level < 4 := by decide
    exact hdeep fun level hlevel => (hlt level hlevel).trans_le (Nat.le_of_not_lt hnot)
  constructor
  · rw [List.eq_nil_iff_forall_not_mem]
    intro temp htemp
    exact absurd (hs.temps.2 temp htemp).deep (Nat.not_le_of_lt hshort)
  · intro kind
    rw [Option.eq_none_iff_forall_ne_some]
    intro n hn
    exact absurd (hs.deep kind n hn) (Nat.not_le_of_lt hshort)

/-- Nothing is committed without metadata. -/
theorem not_commits (hn : s.final .metadata = none) : ¬ Commits jobId artifact s := by
  intro hcommits
  obtain ⟨n, hm, -⟩ := hcommits.metadata
  rw [hn] at hm
  cases hm

theorem Like.commits (h : Like s t) (hs : Kept jobId artifactId given s)
    (hc : Commits jobId artifact t) : Commits jobId artifact s := by
  have hholds : ∀ {kind n content}, Holds t kind n content → Holds s kind n content := by
    rintro kind n content ⟨hn, -, hmeant⟩
    rw [h.final] at hn
    exact ⟨hn, hs.used kind n hn, (h.meant n).symm.trans hmeant⟩
  exact ⟨hc.sized, hc.content.imp fun _ => hholds, hc.metadata.imp fun _ => hholds⟩

/-- The result is the artifact that is committed, if there is one. -/
def Answers (jobId : JobId) (artifactId : ArtifactId) (s : ArtifactDirectory)
    (result : Option (GeneratedArtifact hashBytes)) : Prop :=
  ∀ artifact, artifact.ref.artifactId = artifactId →
    (result = some artifact ↔ Commits jobId artifact s)

theorem answers_none (hn : s.final .metadata = none) :
    Answers jobId artifactId s (none : Option (GeneratedArtifact hashBytes)) :=
  fun _ _ => ⟨(fun h => by cases h), fun h => absurd h (not_commits hn)⟩

theorem answers_some (hc : Commits jobId artifact s) :
    Answers jobId artifact.ref.artifactId s (some artifact) := by
  intro other hid
  constructor
  · intro h
    cases h
    exact hc
  · intro hother
    exact congrArg some (hc.unique hother hid.symm)

/-- **A read alone**, none of whose calls fails, returns what is committed
exactly when the leftovers are aliases. -/
theorem getById_alone (hs : Kept jobId artifactId given s) :
    Ends CallOutcome.Unfailing (getById hashBytes jobId artifactId) s fun r t =>
      (Aliased s → t.temps = [] ∧ ∃ result, r = .ok result ∧ Answers jobId artifactId s result) ∧
        (¬ Aliased s → r = .error .corrupted ∧ t = s) := by
  by_cases hdeep : ∀ level ∈ levels, level < s.depth
  · apply Ends.bind
    refine Gives.ends (openScope_found hdeep) ⟨rfl, ?_⟩
    by_cases ha : Aliased s
    · obtain ⟨t, hrecover, ht, hlike, hempty⟩ := recoverNamespace_alone hs ha
      apply Ends.bind
      refine Gives.ends hrecover ⟨rfl, ?_⟩
      have hclose : ∀ result : Option (GeneratedArtifact hashBytes), Alone
          (do closeFds levels.length false; return result) t (.ok result) t := fun result =>
        (closeFds_alone levels.length).bind Gives.pure
      rcases hn : t.final .metadata with - | n
      · apply Ends.bind
        refine Gives.ends (readCommitted_none hn) ⟨rfl, ?_⟩
        refine Gives.ends (hclose none) ⟨fun _ => ⟨hempty, none, rfl, ?_⟩, fun h => absurd ha h⟩
        rw [hlike.final] at hn
        exact answers_none hn
      · obtain ⟨artifact, rfl, -, hcommits⟩ := ht.metadata n hn
        apply Ends.bind
        refine Gives.ends (readCommitted_alone ht hempty hcommits) ⟨rfl, ?_⟩
        refine Gives.ends (hclose (some artifact)) ⟨fun _ => ⟨hempty, some artifact, rfl, ?_⟩, ?_⟩
        · exact answers_some (hlike.commits hs hcommits)
        · exact fun h => absurd ha h
    · have hrefused := recoverNamespace_stray hs ha
      refine Gives.ends hrefused.bind_error ⟨fun h => absurd h ha, fun _ => ⟨rfl, rfl⟩⟩
  · obtain ⟨htemps, hfinal⟩ := shallow hs hdeep
    have hnone : Alone (getById hashBytes jobId artifactId) s (.ok none) s :=
      (openScope_missing hdeep).bind Gives.pure
    refine Gives.ends hnone ⟨fun _ => ⟨htemps, none, rfl, answers_none (hfinal .metadata)⟩, ?_⟩
    refine fun h => absurd (fun temp htemp => ?_) h
    rw [htemps] at htemp
    cases htemp

end Artifacts

end SpecStyle
