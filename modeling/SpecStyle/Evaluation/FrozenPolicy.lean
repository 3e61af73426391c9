/-
SpecStyle/Evaluation/FrozenPolicy.lean

The frozen policy of an accepted ledger.  Every record keeps the budget of its
arm, walks through the seed schedule of its input from the first seed on
(`SeedWalk`), and has its candidate chosen by the law of its arm
(`FrozenRecord`).

The walk is an invariant of the loop over the attempts (`Walked`): the last
position stands for the current seed, and in the repairing arms the next unused
seed is the one behind it.
-/
import SpecStyle.Evaluation.MachineEvidence
import SpecStyle.Calibration.SplitIsolation
import Mathlib.Data.List.Chain

namespace SpecStyle

open PyLib Calibration

namespace Evaluation

variable {C : Codec}

/-! ### The walk through the schedule -/

/-- How an arm moves in the schedule from one attempt to the next. -/
def Arm.advances : Arm → Nat → Nat → Prop
  | .singlePass, _, _ => False
  | .randomRetry, p, q => q = p + 1
  | .verifierBestOfK, p, q => q = p + 1
  | .directedNoGuardrail, p, q => q = p ∨ q = p + 1
  | .fullSpecstyle, p, q => q = p ∨ q = p + 1

theorem Arm.advances_near {arm : Arm} {p q : Nat} (h : arm.advances p q) : q = p ∨ q = p + 1 := by
  cases arm with
  | singlePass => exact h.elim
  | randomRetry => exact .inr h
  | verifierBestOfK => exact .inr h
  | directedNoGuardrail => exact h
  | fullSpecstyle => exact h

/-- The seeds are those at the positions, which start at the first seed and
move as the arm moves. -/
structure SeedWalk (arm : Arm) (schedule seeds : List Int) (positions : List Nat) : Prop where
  start : ∀ p ∈ positions.head?, p = 0
  moves : positions.IsChain arm.advances
  reads : List.Forall₂ (fun p seed => schedule[p]? = some seed) positions seeds

/-- A walk of single steps meets everything from its start to its end. -/
theorem mem_walk {R : Nat → Nat → Prop} (hR : ∀ p q, R p q → q = p ∨ q = p + 1) {a : Nat}
    {ps : List Nat} (h : (a :: ps).IsChain R) :
    ∃ used, a < used ∧ ∀ p, p ∈ a :: ps ↔ a ≤ p ∧ p < used := by
  induction ps generalizing a with
  | nil =>
      refine ⟨a + 1, Nat.lt_succ_self a, fun p => ?_⟩
      rw [List.mem_singleton]
      omega
  | cons b ps ih =>
      rw [List.isChain_cons_cons] at h
      obtain ⟨hab, hps⟩ := h
      obtain ⟨used, hlt, hmem⟩ := ih hps
      have hnear := hR a b hab
      refine ⟨used, by omega, fun p => ?_⟩
      rw [List.mem_cons, hmem]
      omega

/-- The seeds used are an initial part of the schedule. -/
theorem SeedWalk.initial {arm : Arm} {schedule seeds : List Int} {positions : List Nat}
    (h : SeedWalk arm schedule seeds positions) :
    ∃ used ≤ schedule.length, ∀ p, p ∈ positions ↔ p < used := by
  cases positions with
  | nil => exact ⟨0, Nat.zero_le _, fun p => by simp⟩
  | cons a ps =>
      have ha : a = 0 := h.start a rfl
      subst ha
      obtain ⟨used, hlt, hmem⟩ := mem_walk (fun p q => Arm.advances_near) h.moves
      refine ⟨used, ?_, fun p => by rw [hmem]; simp⟩
      -- the last position used is one of the schedule
      have hlast : used - 1 ∈ 0 :: ps := (hmem _).mpr ⟨Nat.zero_le _, by omega⟩
      have hread : ∃ seed, schedule[used - 1]? = some seed := by
        obtain ⟨seed, -, hseed⟩ := forall₂_source h.reads.flip hlast
        exact ⟨seed, hseed⟩
      obtain ⟨seed, hseed⟩ := hread
      have := (List.getElem?_eq_some_iff.mp hseed).1
      omega

/-! ### One attempt -/

/-- What the checks of one attempt show. -/
structure AttemptChecked (arm : Arm) (item : Attempt C) : Prop where
  artifact : item.status = .generated → item.artifactSha256.isSome
  passes : item.qaPass = true → item.status = .generated
  scored : arm = .verifierBestOfK → (item.utilityScore.isSome ↔ item.status = .generated)

/-- Only a generated attempt of the arm with utilities has a utility. -/
theorem validateAttemptStrategy_scored {attempt : Dict} {generated : Bool} {arm : Arm} {index : Nat}
    {contract : Json} {r : Option C.Carrier × List Text × Option Text}
    (h : validateAttemptStrategy C attempt generated arm index contract = .ok r) :
    r.1.isSome ↔ arm = .verifierBestOfK ∧ generated = true := by
  obtain ⟨rules, -, h⟩ := bind_ok_iff.mp h
  obtain ⟨action, -, h⟩ := bind_ok_iff.mp h
  obtain ⟨result, -, h⟩ := bind_ok_iff.mp h
  obtain ⟨binding, -, h⟩ := bind_ok_iff.mp h
  obtain ⟨utility, hutility, h⟩ := bind_ok_iff.mp h
  obtain ⟨-, h⟩ := check_ok_iff.mp h
  cases h
  show utility.isSome ↔ _
  unfold validateAttemptStrategy.utilityScore at hutility
  split at hutility
  case isTrue hscored =>
    obtain ⟨-, hutility⟩ := check_ok_iff.mp hutility
    obtain ⟨u, -, hutility⟩ := bind_ok_iff.mp hutility
    cases hutility
    exact ⟨fun _ => hscored, fun _ => rfl⟩
  case isFalse hunscored =>
    obtain ⟨-, hutility⟩ := check_ok_iff.mp hutility
    cases hutility
    exact ⟨fun h => (by cases h), fun h => absurd h hunscored⟩

/-- A round appends one checked attempt, under the seed that is expected there. -/
theorem attemptStep_ok {b : RecordBindings} {loop loop' : AttemptLoop C} {value : Json}
    (h : attemptStep C b loop value = .ok loop') :
    ∃ (item : Attempt C) (next : Nat), loop' = ⟨item.seed, next, loop.parsed ++ [item]⟩ ∧
      AttemptChecked b.arm item ∧ ∃ reason,
        expectedSeed b.arm loop.parsed.length reason b.seeds loop.currentSeed loop.nextSeed
          = .ok (item.seed, next) := by
  obtain ⟨attempt, -, h⟩ := bind_ok_iff.mp h
  obtain ⟨gpuSeconds, -, h⟩ := bind_ok_iff.mp h
  obtain ⟨⟨seed, next⟩, hseeds, h⟩ := bind_ok_iff.mp h
  obtain ⟨generationIndex, -, h⟩ := bind_ok_iff.mp h
  obtain ⟨written, -, h⟩ := bind_ok_iff.mp h
  obtain ⟨model, -, h⟩ := bind_ok_iff.mp h
  obtain ⟨runtime, -, h⟩ := bind_ok_iff.mp h
  obtain ⟨materials, -, h⟩ := bind_ok_iff.mp h
  obtain ⟨hbound, h⟩ := check_ok_iff.mp h
  obtain ⟨qaPass, -, h⟩ := bind_ok_iff.mp h
  obtain ⟨request, -, h⟩ := bind_ok_iff.mp h
  obtain ⟨-, h⟩ := check_ok_iff.mp h
  obtain ⟨artifact, -, h⟩ := bind_ok_iff.mp h
  obtain ⟨qaResult, -, h⟩ := bind_ok_iff.mp h
  obtain ⟨status, -, h⟩ := bind_ok_iff.mp h
  obtain ⟨hgenerated, h⟩ := check_ok_iff.mp h
  obtain ⟨hpass, h⟩ := check_ok_iff.mp h
  obtain ⟨⟨utility, rules, action⟩, hstrategy, h⟩ := bind_ok_iff.mp h
  cases h
  rw [demand_ok] at hbound hgenerated hpass
  simp only [Bool.and_eq_true, beq_iff_eq] at hbound
  have hseed : (written : Int) = seed := hbound.1.1.1.2
  subst hseed
  refine ⟨⟨_, _, _, _, _, _, _, _, _⟩, next, rfl, ⟨?_, ?_, ?_⟩, attempt.get "seed_reason", hseeds⟩
  · show status = .generated → (artifact.map _).isSome
    rintro rfl
    rw [Option.isSome_map]
    cases artifact with
    | some a => rfl
    | none => exact absurd hgenerated (by simp)
  · show qaPass = true → status = .generated
    intro hq
    rw [hq, Bool.not_true, Bool.or_false, beq_iff_eq] at hpass
    exact hpass
  · show b.arm = .verifierBestOfK → (utility.isSome ↔ status = .generated)
    intro harm
    have hs := validateAttemptStrategy_scored hstrategy
    simp only [harm, true_and, beq_iff_eq] at hs
    exact hs

/-! ### The loop over the attempts -/

/-- The attempts read so far walk through the schedule, and the loop knows where
they stand. -/
structure Walked (b : RecordBindings) (loop : AttemptLoop C) (positions : List Nat) : Prop where
  walk : SeedWalk b.arm b.seeds (loop.parsed.map (·.seed)) positions
  first : positions = [] → loop.nextSeed = 1
  current : ∀ p ∈ positions.getLast?, b.seeds[p]? = some loop.currentSeed
  next : b.arm.repairs = true → ∀ p ∈ positions.getLast?, loop.nextSeed = p + 1
  single : b.arm.repairs = false → ∀ p ∈ positions.getLast?, p + 1 = positions.length
  checked : ∀ item ∈ loop.parsed, AttemptChecked b.arm item

/-- What `expectedSeed` can answer: the first seed, the seed of the attempt's own
index, the current seed again, or the next unused one. -/
inductive Expected (arm : Arm) (seeds : List Int) (index : Nat) (currentSeed : Int)
    (nextSeed : Nat) : Int → Nat → Prop where
  | initial (hindex : index = 0) : Expected arm seeds index currentSeed nextSeed
      (seeds.getD 0 0) nextSeed
  | inOrder (hindex : index ≠ 0) (harm : arm = .randomRetry ∨ arm = .verifierBestOfK) :
      Expected arm seeds index currentSeed nextSeed (seeds.getD index 0) nextSeed
  | again (hindex : index ≠ 0) (harm : arm = .directedNoGuardrail ∨ arm = .fullSpecstyle) :
      Expected arm seeds index currentSeed nextSeed currentSeed nextSeed
  | unused (hindex : index ≠ 0) (harm : arm = .directedNoGuardrail ∨ arm = .fullSpecstyle)
      (hroom : nextSeed < seeds.length) :
      Expected arm seeds index currentSeed nextSeed (seeds.getD nextSeed 0) (nextSeed + 1)

theorem expectedSeed_ok {arm : Arm} {index : Nat} {reason : Json} {seeds : List Int}
    {currentSeed seed : Int} {nextSeed next : Nat}
    (h : expectedSeed arm index reason seeds currentSeed nextSeed = .ok (seed, next)) :
    Expected arm seeds index currentSeed nextSeed seed next := by
  have repairing (harm : arm = .directedNoGuardrail ∨ arm = .fullSpecstyle) (hindex : index ≠ 0)
      (h : (if isText reason (py "FROZEN_REPAIR") then .ok (currentSeed, nextSeed)
        else if isText reason (py "SAMPLING_DEFECT_RETRY") && nextSeed < seeds.length then
          .ok (seeds.getD nextSeed 0, nextSeed + 1)
        else .error (.domain "invalid machine evaluation ledger") : Except Fault (Int × Nat))
        = .ok (seed, next)) : Expected arm seeds index currentSeed nextSeed seed next := by
    split at h
    · cases h
      exact .again hindex harm
    · split at h
      case isTrue hroom =>
        cases h
        rw [Bool.and_eq_true, decide_eq_true_iff] at hroom
        exact .unused hindex harm hroom.2
      case isFalse => cases h
  unfold expectedSeed at h
  dsimp only at h
  split at h
  case isTrue hindex =>
    split at h
    · cases h
      exact .initial hindex
    · cases h
  case isFalse hindex =>
    cases arm with
    | singlePass => cases h
    | randomRetry =>
        dsimp only at h
        split at h
        · cases h
          exact .inOrder hindex (.inl rfl)
        · cases h
    | verifierBestOfK =>
        dsimp only at h
        split at h
        · cases h
          exact .inOrder hindex (.inr rfl)
        · cases h
    | directedNoGuardrail => exact repairing (.inl rfl) hindex h
    | fullSpecstyle => exact repairing (.inr rfl) hindex h

/-- Where the walk goes with the next attempt. -/
structure NextPosition (b : RecordBindings) (positions : List Nat) (seed : Int) (next p : Nat) :
    Prop where
  reads : b.seeds[p]? = some seed
  start : positions = [] → p = 0
  moves : ∀ q ∈ positions.getLast?, b.arm.advances q p
  next : b.arm.repairs = true → next = p + 1
  single : b.arm.repairs = false → p = positions.length

/-- The seed that is expected for the next attempt is one step further on. -/
theorem Walked.nextPosition {b : RecordBindings} {loop : AttemptLoop C} {positions : List Nat}
    (hw : Walked b loop positions) (hroom : positions.length < b.seeds.length) {seed : Int}
    {next : Nat}
    (h : Expected b.arm b.seeds positions.length loop.currentSeed loop.nextSeed seed next) :
    ∃ p, NextPosition b positions seed next p := by
  have hget : ∀ i, i < b.seeds.length → b.seeds[i]? = some (b.seeds.getD i 0) := by
    intro i hi
    rw [List.getD_eq_getElem?_getD, List.getElem?_eq_getElem hi]
    rfl
  have hrepairs (harm : b.arm = .directedNoGuardrail ∨ b.arm = .fullSpecstyle) :
      b.arm.repairs = true := by
    rcases harm with harm | harm <;> rw [harm] <;> rfl
  have hlast (hindex : positions.length ≠ 0) : ∃ q, positions.getLast? = some q := by
    rw [← Option.isSome_iff_exists, List.getLast?_isSome]
    exact List.ne_nil_of_length_pos (Nat.pos_of_ne_zero hindex)
  cases h with
  | initial hindex =>
      have hnil : positions = [] := List.eq_nil_of_length_eq_zero hindex
      subst hnil
      exact ⟨0, hget 0 hroom, fun _ => rfl, nofun, fun _ => hw.first rfl, fun _ => rfl⟩
  | inOrder hindex harm =>
      have hplain : b.arm.repairs = false := by
        rcases harm with harm | harm <;> rw [harm] <;> rfl
      refine ⟨positions.length, hget _ hroom, ?_, ?_, ?_, fun _ => rfl⟩
      · intro hnil
        exact absurd (by rw [hnil]; rfl) hindex
      · intro q hq
        have hq : q + 1 = positions.length := hw.single hplain q hq
        rcases harm with harm | harm <;> rw [harm] <;> exact hq.symm
      · rw [hplain]
        exact nofun
  | again hindex harm =>
      obtain ⟨q, hq⟩ := hlast hindex
      refine ⟨q, hw.current q hq, ?_, ?_, fun hr => hw.next hr q hq, ?_⟩
      · intro hnil
        exact absurd (by rw [hnil]; rfl) hindex
      · intro q' hq'
        rw [hq] at hq'
        cases hq'
        rcases harm with harm | harm <;> rw [harm] <;> exact .inl rfl
      · rw [hrepairs harm]
        exact nofun
  | unused hindex harm hroom =>
      obtain ⟨q, hq⟩ := hlast hindex
      have hnext : loop.nextSeed = q + 1 := hw.next (hrepairs harm) q hq
      refine ⟨loop.nextSeed, hget _ hroom, ?_, ?_, fun _ => rfl, ?_⟩
      · intro hnil
        exact absurd (by rw [hnil]; rfl) hindex
      · intro q' hq'
        rw [hq] at hq'
        cases hq'
        rcases harm with harm | harm <;> rw [harm] <;> exact .inr hnext
      · rw [hrepairs harm]
        exact nofun

/-- A round keeps the walk. -/
theorem Walked.round {b : RecordBindings} {loop loop' : AttemptLoop C} {positions : List Nat}
    (hw : Walked b loop positions) (hroom : loop.parsed.length < b.seeds.length) {value : Json}
    (h : attemptStep C b loop value = .ok loop') : ∃ positions', Walked b loop' positions' := by
  obtain ⟨item, next, rfl, hchecked, reason, hseed⟩ := attemptStep_ok h
  have hlength : loop.parsed.length = positions.length := by
    rw [hw.walk.reads.length_eq, List.length_map]
  rw [hlength] at hroom hseed
  obtain ⟨p, hp⟩ := hw.nextPosition hroom (expectedSeed_ok hseed)
  refine ⟨positions ++ [p], ⟨?_, ?_, ?_⟩, ?_, ?_, ?_, ?_, ?_⟩
  · intro q hq
    cases positions with
    | nil =>
        cases hq
        exact hp.start rfl
    | cons a ps => exact hw.walk.start q hq
  · rw [List.isChain_append]
    refine ⟨hw.walk.moves, List.isChain_singleton p, fun q hq r hr => ?_⟩
    cases hr
    exact hp.moves q hq
  · rw [List.map_append]
    exact List.rel_append hw.walk.reads (.cons hp.reads .nil)
  · intro hnil
    exact absurd hnil (by simp)
  · intro q hq
    rw [List.getLast?_concat] at hq
    cases hq
    exact hp.reads
  · intro hr q hq
    rw [List.getLast?_concat] at hq
    cases hq
    exact hp.next hr
  · intro hr q hq
    rw [List.getLast?_concat] at hq
    cases hq
    rw [List.length_append, hp.single hr]
    rfl
  · intro x hx
    rcases List.mem_append.mp hx with hx | hx
    · exact hw.checked x hx
    · rw [List.mem_singleton.mp hx]
      exact hchecked

/-- An attempt is added for each value. -/
theorem Walked.run {b : RecordBindings} {items : List Json} {loop : AttemptLoop C}
    (hroom : items.length ≤ b.seeds.length)
    (h : items.foldlM (attemptStep C b) ⟨b.seeds.getD 0 0, 1, []⟩ = .ok loop) :
    loop.parsed.length = items.length ∧ ∃ positions, Walked b loop positions := by
  let R (seen : List Json) (loop : AttemptLoop C) : Prop :=
    loop.parsed.length = seen.length ∧
      (seen.length ≤ b.seeds.length → ∃ positions, Walked b loop positions)
  have hrun : R items loop := by
    refine foldlM_ok_run ?_ ?_ h
    · rintro seen loop value loop' ⟨hlength, hwalked⟩ hstep
      refine ⟨?_, fun hseen => ?_⟩
      · obtain ⟨item, next, rfl, -⟩ := attemptStep_ok hstep
        rw [List.length_append, List.length_append, hlength]
        rfl
      · rw [List.length_append, List.length_singleton] at hseen
        obtain ⟨positions, hw⟩ := hwalked (by omega)
        exact hw.round (by omega) hstep
    · refine ⟨rfl, fun _ => ⟨[], ⟨nofun, .nil, .nil⟩, fun _ => rfl, nofun, nofun, nofun, nofun⟩⟩
  exact ⟨hrun.1, hrun.2 hroom⟩

/-- The attempts of a record walk through the schedule of its input. -/
theorem readAttempts_ok {b : RecordBindings} {values : Json} {attempts : List (Attempt C)}
    (h : readAttempts C b values = .ok attempts) :
    attempts ≠ [] ∧ (∀ item ∈ attempts, AttemptChecked b.arm item) ∧
      ∃ positions, SeedWalk b.arm b.seeds (attempts.map (·.seed)) positions := by
  unfold readAttempts at h
  split at h
  · obtain ⟨hroom, h⟩ := check_ok_iff.mp h
    obtain ⟨loop, hloop, h⟩ := bind_ok_iff.mp h
    cases h
    rw [demand_ok, Bool.and_eq_true, decide_eq_true_iff, Bool.not_eq_true',
      List.isEmpty_eq_false_iff] at hroom
    obtain ⟨hlength, positions, hw⟩ := Walked.run hroom.2 hloop
    refine ⟨?_, hw.checked, positions, hw.walk⟩
    apply List.ne_nil_of_length_pos
    rw [hlength]
    exact List.length_pos_of_ne_nil hroom.1
  · cases h

/-! ### The terminal -/

/-- What the checks of a terminal show. -/
structure TerminalChecked (attempts : List (Attempt C)) (t : TerminalRead) : Prop where
  candidate : t.candidate.isSome ↔ ∃ item ∈ attempts, item.artifactSha256.isSome
  carried : ∀ c, t.candidate = some c → ∃ item ∈ attempts, item.artifactSha256 = some c
  verdict : ∀ item, selectedAttempt attempts t.candidate = some item →
    (t.terminal = .approved ↔ item.qaPass = true)
  failed : t.candidate = none → t.terminal = .failed

theorem validateTerminal_ok {raw : Dict} {attempts : List (Attempt C)} {reasons : List Text}
    {t : TerminalRead} (h : validateTerminal raw attempts reasons = .ok t) :
    TerminalChecked attempts t := by
  obtain ⟨candidate, -, h⟩ := bind_ok_iff.mp h
  obtain ⟨blindId, -, h⟩ := bind_ok_iff.mp h
  obtain ⟨finalPass, -, h⟩ := bind_ok_iff.mp h
  obtain ⟨initialPass, -, h⟩ := bind_ok_iff.mp h
  obtain ⟨terminal, -, h⟩ := bind_ok_iff.mp h
  obtain ⟨hall, h⟩ := check_ok_iff.mp h
  cases h
  rw [demand_ok] at hall
  simp only [Bool.and_eq_true] at hall
  obtain ⟨⟨⟨⟨⟨⟨⟨⟨-, -⟩, hcarried⟩, hfailed⟩, hnone⟩, -⟩, hverdict⟩, -⟩, -⟩ := hall
  rw [beq_iff_eq] at hfailed hnone
  have hmem : ∀ c, c ∈ attempts.filterMap (·.artifactSha256) ↔
      ∃ item ∈ attempts, item.artifactSha256 = some c := fun c => List.mem_filterMap
  refine ⟨?_, ?_, ?_, ?_⟩
  · show candidate.isSome ↔ _
    rw [← Option.not_isNone, hnone, Bool.not_eq_true', List.isEmpty_eq_false_iff_exists_mem]
    constructor
    · rintro ⟨c, hc⟩
      obtain ⟨item, hi, hitem⟩ := (hmem c).mp hc
      exact ⟨item, hi, by rw [hitem]; rfl⟩
    · rintro ⟨item, hi, hitem⟩
      obtain ⟨c, hc⟩ := Option.isSome_iff_exists.mp hitem
      exact ⟨c, (hmem c).mpr ⟨item, hi, hc⟩⟩
  · intro c hc
    have hc : candidate = some c := hc
    rw [hc, Option.all_some, List.contains_iff_mem] at hcarried
    exact (hmem c).mp hcarried
  · intro item hitem
    have hitem : selectedAttempt attempts candidate = some item := hitem
    rw [hitem, Option.all_some, beq_iff_eq] at hverdict
    rw [hverdict, beq_iff_eq]
  · intro hc
    have hc : candidate = none := hc
    have hempty : (terminal == .failed) = true := by
      rw [← hfailed, ← hnone, hc]
      rfl
    exact beq_iff_eq.mp hempty

/-! ### The choice of the candidate -/

/-- Every number is at most the largest. -/
theorem le_largest (hC : C.toFloats.Ordered) (best : C.Carrier) (xs : List C.Carrier) :
    ∀ x ∈ best :: xs, C.le x (largest best xs) = true := by
  induction xs generalizing best with
  | nil =>
      intro x hx
      rw [List.mem_singleton.mp hx]
      exact (hC.total best best).elim id id
  | cons y ys ih =>
      intro x hx
      show C.le x (largest (if C.le y best then best else y) ys) = true
      split
      · rename_i hy
        -- the best so far is at least the next number
        rcases List.mem_cons.mp hx with rfl | hx
        · exact ih _ x List.mem_cons_self
        · rcases List.mem_cons.mp hx with rfl | hx
          · exact hC.trans x best _ hy (ih best best List.mem_cons_self)
          · exact ih best x (List.mem_cons_of_mem _ hx)
      · rename_i hy
        have hbest : C.le best y = true := (hC.total best y).resolve_right hy
        rcases List.mem_cons.mp hx with rfl | hx
        · exact hC.trans x y _ hbest (ih y y List.mem_cons_self)
        · exact ih y x hx

/-- The attempt is the first one of maximal utility among those with an artifact. -/
structure FirstBest (attempts : List (Attempt C)) (i : Nat) (item : Attempt C) (u : C.Carrier) :
    Prop where
  here : attempts[i]? = some item
  utility : item.utilityScore = some u
  maximal : ∀ (j : Nat) other, attempts[j]? = some other → other.artifactSha256.isSome →
    ∃ w, other.utilityScore = some w ∧ C.le w u = true ∧ (j < i → C.le u w = false)

theorem bestOf_firstBest (hC : C.toFloats.Ordered) {attempts : List (Attempt C)}
    {selected : Option (Attempt C)} (h : bestOf (withArtifact attempts) = .ok selected)
    {item : Attempt C} (hitem : selected = some item) : ∃ i u, FirstBest attempts i item u := by
  obtain ⟨utilities, hutilities, h⟩ := bind_ok_iff.mp h
  subst hitem
  have hscore : ∀ other ∈ withArtifact attempts, ∃ w ∈ utilities, other.utilityScore = some w := by
    intro other hother
    obtain ⟨w, hw, hs⟩ := mapM_ok_image hutilities hother
    refine ⟨w, hw, ?_⟩
    unfold utilityOf at hs
    cases hu : other.utilityScore with
    | some u =>
        rw [hu] at hs
        cases hs
        rfl
    | none =>
        rw [hu] at hs
        cases hs
  cases utilities with
  | nil => cases h
  | cons u us =>
      have hle := le_largest hC u us
      have hfind : (withArtifact attempts).find?
          (fun item => item.utilityScore.any (C.same (largest u us))) = some item :=
        Except.ok.inj h
      generalize largest u us = top at hle hfind
      unfold withArtifact at hfind
      rw [List.find?_filter, List.find?_eq_some_iff_getElem] at hfind
      obtain ⟨hp, i, hi, hget, hbefore⟩ := hfind
      rw [decide_eq_true_iff, Option.any_eq_true] at hp
      obtain ⟨-, v, hv, hsame⟩ := hp
      unfold Floats.same at hsame
      rw [Bool.and_eq_true] at hsame
      refine ⟨i, v, ?_, hv, ?_⟩
      · rw [List.getElem?_eq_getElem hi, hget]
      · intro j other hj hartifact
        obtain ⟨hj', hother⟩ := List.getElem?_eq_some_iff.mp hj
        have hmem : other ∈ withArtifact attempts :=
          List.mem_filter.mpr ⟨List.mem_of_getElem? hj, hartifact⟩
        obtain ⟨w, hw, hscored⟩ := hscore other hmem
        refine ⟨w, hscored, hC.trans w top v (hle w hw) hsame.1, fun hji => ?_⟩
        -- an earlier attempt with this utility would have been found first
        by_contra hvw
        rw [Bool.not_eq_false] at hvw
        have hno := hbefore j hji
        rw [hother, hartifact, hscored] at hno
        have htop : C.le top w = true := hC.trans top v w hsame.1 hvw
        simp [Floats.same, htop, hle w hw] at hno

/-! ### Stopping -/

/-- The kinds with which an arm may stop before its budget. -/
def Arm.earlyKinds : Arm → List Text
  | .directedNoGuardrail =>
    [py "GENERATION_FAILED", py "NO_ACTION_AVAILABLE", py "UNVERIFIABLE"]
  | .fullSpecstyle =>
    [py "GENERATION_FAILED", py "NO_ACTION_AVAILABLE", py "UNVERIFIABLE", py "NO_IMPROVEMENT",
     py "GUARDRAIL_REJECTED"]
  | _ => []

/-- The budget of an arm: one attempt in the single pass, the budget of the
protocol elsewhere. -/
def Arm.budget (arm : Arm) (maximum : Nat) : Nat :=
  match arm with
  | .singlePass => 1
  | _ => maximum

theorem earlyRepair_kind {arm : Arm} (harm : arm.repairs = true) {attempts : List (Attempt C)}
    {last : Attempt C} {event : StopEvent} (h : earlyRepair arm attempts last event = true) :
    event.kind ∈ arm.earlyKinds := by
  have both : ∀ kind ∈ [py "GENERATION_FAILED", py "NO_ACTION_AVAILABLE", py "UNVERIFIABLE"],
      kind ∈ arm.earlyKinds := by
    intro kind hkind
    cases arm with
    | directedNoGuardrail => exact hkind
    | fullSpecstyle =>
        exact List.mem_append_left [py "NO_IMPROVEMENT", py "GUARDRAIL_REJECTED"] hkind
    | _ => cases harm
  unfold earlyRepair at h
  dsimp only at h
  split at h
  case isTrue hkind =>
    rw [hkind]
    exact both _ (by simp)
  case isFalse =>
    split at h
    case isTrue hkind =>
      rw [hkind]
      exact both _ (by simp)
    case isFalse =>
      split at h
      case isTrue hkind =>
        rw [hkind]
        exact both _ (by simp)
      case isFalse =>
        split at h
        case isTrue => cases h
        case isFalse hfull =>
          have hfull : arm = .fullSpecstyle := not_not.mp hfull
          subst hfull
          split at h
          case isTrue hkind =>
            rw [hkind]
            simp [Arm.earlyKinds]
          case isFalse =>
            simp only [Bool.and_eq_true, beq_iff_eq] at h
            rw [h.1.1.1.1]
            simp [Arm.earlyKinds]

/-- What the law of stopping shows of a record. -/
structure StoppingChecked (arm : Arm) (attempts : List (Attempt C)) (candidate : Option Text)
    (maximum : Nat) (event : StopEvent) : Prop where
  single : arm = .singlePass → attempts.length = 1
  whole : arm = .verifierBestOfK → attempts.length = maximum
  lastPasses : arm ≠ .verifierBestOfK → ∀ (i : Nat) item, attempts[i]? = some item →
    item.qaPass = true → i + 1 = attempts.length
  lastArtifact : arm ≠ .verifierBestOfK → ∀ c, candidate = some c →
    ∃ item, (withArtifact attempts).getLast? = some item ∧ item.artifactSha256 = some c
  best : arm = .verifierBestOfK → ∀ c, candidate = some c →
    ∃ i item u, FirstBest attempts i item u ∧ item.artifactSha256 = some c
  early : attempts.length < arm.budget maximum → (∀ item ∈ attempts, item.qaPass = false) →
    arm.repairs = true ∧ event.kind ∈ arm.earlyKinds

theorem validStop_length {arm : Arm} {attempts : List (Attempt C)} {last : Attempt C}
    {maximum : Nat} {event : StopEvent} (h : validStop arm attempts last maximum event = true) :
    (arm = .singlePass → attempts.length = 1) ∧
      (arm = .verifierBestOfK → attempts.length = maximum) := by
  constructor
  · rintro rfl
    simp only [validStop, Bool.and_eq_true, beq_iff_eq] at h
    exact h.1.1
  · rintro rfl
    simp only [validStop, Bool.and_eq_true, beq_iff_eq] at h
    exact h.1.1

/-- Without a pass and before its budget, only a repairing arm stops, and early. -/
theorem validStop_early {arm : Arm} {attempts : List (Attempt C)} {last : Attempt C}
    {maximum : Nat} {event : StopEvent} (h : validStop arm attempts last maximum event = true)
    (hshort : attempts.length < arm.budget maximum)
    (hnone : ∀ item ∈ attempts, item.qaPass = false) :
    arm.repairs = true ∧ event.kind ∈ arm.earlyKinds := by
  have hpassed : attempts.any (·.qaPass) = false := by
    rw [List.any_eq_false]
    intro item hi
    rw [hnone item hi]
    exact Bool.false_ne_true
  have hfull (hlt : attempts.length < maximum) : (attempts.length == maximum) = false := by
    rw [beq_eq_false_iff_ne]
    exact hlt.ne
  have hlength := validStop_length h
  cases arm with
  | singlePass => exact absurd (hlength.1 rfl) (Nat.ne_of_lt hshort)
  | verifierBestOfK => exact absurd (hlength.2 rfl) (Nat.ne_of_lt hshort)
  | randomRetry => simp [validStop, hpassed, hfull hshort] at h
  | directedNoGuardrail =>
      simp only [validStop, hpassed, hfull hshort, Bool.false_and, Bool.not_false, Bool.true_and,
        Bool.or_false, Bool.false_or, Bool.and_eq_true] at h
      exact ⟨rfl, earlyRepair_kind rfl h.2⟩
  | fullSpecstyle =>
      simp only [validStop, hpassed, hfull hshort, Bool.false_and, Bool.not_false, Bool.true_and,
        Bool.or_false, Bool.false_or, Bool.and_eq_true] at h
      exact ⟨rfl, earlyRepair_kind rfl h.2⟩

/-- The law outside the arm that picks the best of all: the first pass is the last
attempt, and the candidate is the last artifact. -/
theorem lastLaw (attempts : List (Attempt C)) (candidate : Option Text)
    (h : (do
      demand ((attempts.findIdx? fun (item : Attempt C) => item.qaPass).all
          (· == attempts.length - 1)) "invalid machine evaluation ledger"
      demand (candidate.all fun c =>
          (withArtifact attempts).getLast?.any fun (item : Attempt C) =>
            item.artifactSha256 == some c)
        "invalid machine evaluation ledger") = .ok ()) :
    (∀ (i : Nat) item, attempts[i]? = some item → item.qaPass = true → i + 1 = attempts.length) ∧
      ∀ c, candidate = some c →
        ∃ item, (withArtifact attempts).getLast? = some item ∧ item.artifactSha256 = some c := by
  obtain ⟨hpass, hlast⟩ := check_ok_iff.mp h
  rw [demand_ok] at hpass hlast
  constructor
  · intro i item hi hq
    obtain ⟨hlt, hget⟩ := List.getElem?_eq_some_iff.mp hi
    cases hfirst : attempts.findIdx? (·.qaPass) with
    | none =>
        rw [List.findIdx?_eq_none_iff] at hfirst
        exact absurd hq (by rw [hfirst item (List.mem_of_getElem? hi)]; exact Bool.false_ne_true)
    | some j =>
        rw [hfirst, Option.all_some, beq_iff_eq] at hpass
        obtain ⟨hj, -, hbefore⟩ := List.findIdx?_eq_some_iff_getElem.mp hfirst
        -- no attempt before the first pass passes
        have hij : j ≤ i := by
          by_contra hlt'
          have hno := hbefore i (by omega)
          rw [hget, hq] at hno
          exact hno rfl
        omega
  · rintro c rfl
    rw [Option.all_some, Option.any_eq_true] at hlast
    obtain ⟨item, hitem, hc⟩ := hlast
    exact ⟨item, hitem, beq_iff_eq.mp hc⟩

theorem validateStopping_ok (hC : C.toFloats.Ordered) {arm : Arm} {attempts : List (Attempt C)}
    {last : Attempt C} {candidate : Option Text} {maximum : Nat} {event : StopEvent}
    (h : validateStopping arm attempts last candidate maximum event = .ok ()) :
    StoppingChecked arm attempts candidate maximum event := by
  obtain ⟨hstop, h⟩ := check_ok_iff.mp h
  rw [demand_ok] at hstop
  obtain ⟨hsingle, hwhole⟩ := validStop_length hstop
  have hlaw (harm : arm ≠ .verifierBestOfK) := lastLaw attempts candidate
    (by
      cases arm with
      | verifierBestOfK => exact absurd rfl harm
      | _ => exact h)
  refine ⟨hsingle, hwhole, fun harm => (hlaw harm).1, fun harm => (hlaw harm).2, ?_,
    validStop_early hstop⟩
  rintro rfl c rfl
  obtain ⟨selected, hbest, h⟩ := bind_ok_iff.mp h
  rw [demand_ok, Option.any_eq_true] at h
  obtain ⟨item, hitem, hc⟩ := h
  obtain ⟨i, u, hfirst⟩ := bestOf_firstBest hC hbest hitem
  exact ⟨i, item, u, hfirst, beq_iff_eq.mp hc⟩

/-! ### Records -/

/-- What an accepted ledger shows of the record of an input and an arm. -/
structure FrozenRecord (protocol : Protocol) (slot : Text × Arm) (r : ReadRecord C) : Prop where
  place : r.record.inputId = slot.1 ∧ r.record.arm = slot.2
  checked : ∀ item ∈ r.attempts, AttemptChecked slot.2 item
  generations : r.record.generationsUsed = r.attempts.length
  budget : 1 ≤ r.attempts.length ∧ r.attempts.length ≤ protocol.maximum
  walk : ∃ positions,
    SeedWalk slot.2 (protocol.seeds slot.1) (r.attempts.map (·.seed)) positions ∧
      ∃ used ≤ (protocol.seeds slot.1).length, ∀ p, p ∈ positions ↔ p < used
  stopping : StoppingChecked slot.2 r.attempts r.record.candidateSha256 protocol.maximum r.stopEvent
  /-- A record is approved when its selected attempt, the first that has the
  candidate as its artifact, has passed. -/
  approved : r.record.terminal = .approved ↔ ∃ c item, r.record.candidateSha256 = some c ∧
    selectedAttempt r.attempts (some c) = some item ∧ item.qaPass = true
  /-- So it is for every attempt with that artifact, when they agree. -/
  agreed : ∀ c, r.record.candidateSha256 = some c →
    (∀ x ∈ r.attempts, ∀ y ∈ r.attempts, x.artifactSha256 = some c → y.artifactSha256 = some c →
      x.qaPass = y.qaPass) →
    ∀ x ∈ r.attempts, x.artifactSha256 = some c → (r.record.terminal = .approved ↔ x.qaPass = true)

/-- The selected attempt has the candidate as its artifact. -/
theorem selectedAttempt_some {attempts : List (Attempt C)} {c : Text} {item : Attempt C}
    (h : selectedAttempt attempts (some c) = some item) :
    item ∈ attempts ∧ item.artifactSha256 = some c := by
  unfold selectedAttempt at h
  refine ⟨List.mem_of_find?_eq_some h, ?_⟩
  have hfound := List.find?_some h
  rwa [beq_iff_eq] at hfound

theorem TerminalChecked.selected {attempts : List (Attempt C)} {t : TerminalRead}
    (h : TerminalChecked attempts t) {c : Text} (hc : t.candidate = some c) :
    ∃ item, selectedAttempt attempts (some c) = some item := by
  obtain ⟨item, hi, hitem⟩ := h.carried c hc
  rw [← Option.isSome_iff_exists]
  unfold selectedAttempt
  rw [List.find?_isSome]
  exact ⟨item, hi, beq_iff_eq.mpr hitem⟩

theorem TerminalChecked.approved {attempts : List (Attempt C)} {t : TerminalRead}
    (h : TerminalChecked attempts t) : t.terminal = .approved ↔ ∃ c item, t.candidate = some c ∧
      selectedAttempt attempts (some c) = some item ∧ item.qaPass = true := by
  constructor
  · intro happroved
    cases hcandidate : t.candidate with
    | none =>
        have hfailed := h.failed hcandidate
        rw [happroved] at hfailed
        cases hfailed
    | some c =>
        obtain ⟨item, hitem⟩ := h.selected hcandidate
        exact ⟨c, item, rfl, hitem, (h.verdict item (by rw [hcandidate, hitem])).mp happroved⟩
  · rintro ⟨c, item, hc, hitem, hq⟩
    exact (h.verdict item (by rw [hc, hitem])).mpr hq

theorem TerminalChecked.agreed {attempts : List (Attempt C)} {t : TerminalRead}
    (h : TerminalChecked attempts t) {c : Text} (hc : t.candidate = some c)
    (hagree : ∀ x ∈ attempts, ∀ y ∈ attempts, x.artifactSha256 = some c →
      y.artifactSha256 = some c → x.qaPass = y.qaPass) {x : Attempt C} (hx : x ∈ attempts)
    (hartifact : x.artifactSha256 = some c) : t.terminal = .approved ↔ x.qaPass = true := by
  obtain ⟨item, hitem⟩ := h.selected hc
  obtain ⟨hmem, hsame⟩ := selectedAttempt_some hitem
  rw [h.verdict item (by rw [hc, hitem]), hagree item hmem x hx hsame hartifact]

/-- An accepted record keeps the frozen policy. -/
theorem machineRecord_frozen (hC : C.toFloats.Ordered)
    {close : C.Carrier → List C.Carrier → Bool} {protocol : Protocol} {sealedAt : Text}
    {value : Json} {slot : Text × Arm} {r : ReadRecord C}
    (h : machineRecord C close protocol sealedAt value slot.1 slot.2 = .ok r) :
    FrozenRecord protocol slot r := by
  obtain ⟨raw, -, h⟩ := bind_ok_iff.mp h
  obtain ⟨attempts, hattempts, h⟩ := bind_ok_iff.mp h
  obtain ⟨reasons, -, h⟩ := bind_ok_iff.mp h
  obtain ⟨terminal, hterminal, h⟩ := bind_ok_iff.mp h
  obtain ⟨event, -, h⟩ := bind_ok_iff.mp h
  obtain ⟨generations, -, h⟩ := bind_ok_iff.mp h
  obtain ⟨gpuSeconds, -, h⟩ := bind_ok_iff.mp h
  obtain ⟨hbudget, h⟩ := check_ok_iff.mp h
  obtain ⟨observed, -, h⟩ := bind_ok_iff.mp h
  obtain ⟨-, h⟩ := check_ok_iff.mp h
  obtain ⟨trace, -, h⟩ := bind_ok_iff.mp h
  obtain ⟨-, h⟩ := check_ok_iff.mp h
  rw [demand_ok] at hbudget
  simp only [Bool.and_eq_true, beq_iff_eq, decide_eq_true_eq] at hbudget
  obtain ⟨⟨⟨⟨-, hgenerations⟩, hmaximum⟩, -⟩, -⟩ := hbudget
  obtain ⟨hne, hitems, positions, hwalk⟩ := readAttempts_ok hattempts
  have hchecked := validateTerminal_ok hterminal
  split at h
  · cases h
  · obtain ⟨hstopping, h⟩ := check_ok_iff.mp h
    cases h
    exact {
      place := ⟨rfl, rfl⟩
      checked := hitems
      generations := hgenerations
      budget := ⟨List.length_pos_of_ne_nil hne, hgenerations ▸ hmaximum⟩
      walk := ⟨positions, hwalk, hwalk.initial⟩
      stopping := validateStopping_ok hC hstopping
      approved := hchecked.approved
      agreed := fun c hc hagree x hx => hchecked.agreed hc hagree hx }

/-! ### The ledger -/

/-- A schedule of the protocol has the whole budget, each seed once. -/
theorem loadProtocol_schedules {data : Bytes} {protocol : Protocol}
    (h : loadProtocol C data = .ok protocol) {i : Text} (hi : i ∈ protocol.inputIds) :
    (protocol.seeds i).length = protocol.maximum ∧ (protocol.seeds i).Nodup := by
  obtain ⟨document, -, h⟩ := bind_ok_iff.mp (catching_ok.mp h)
  obtain ⟨raw, -, h⟩ := bind_ok_iff.mp h
  obtain ⟨inputIds, -, h⟩ := bind_ok_iff.mp h
  obtain ⟨-, h⟩ := check_ok_iff.mp h
  obtain ⟨budget, -, h⟩ := bind_ok_iff.mp h
  obtain ⟨maximum, -, h⟩ := bind_ok_iff.mp h
  obtain ⟨-, h⟩ := check_ok_iff.mp h
  obtain ⟨evidenceClass, -, h⟩ := bind_ok_iff.mp h
  obtain ⟨-, h⟩ := check_ok_iff.mp h
  obtain ⟨studyId, -, h⟩ := bind_ok_iff.mp h
  obtain ⟨dataset, -, h⟩ := bind_ok_iff.mp h
  obtain ⟨bindings, -, h⟩ := bind_ok_iff.mp h
  obtain ⟨materials, -, h⟩ := bind_ok_iff.mp h
  obtain ⟨requests, -, h⟩ := bind_ok_iff.mp h
  obtain ⟨schedules, hschedules, h⟩ := bind_ok_iff.mp h
  obtain ⟨strategies, -, h⟩ := bind_ok_iff.mp h
  obtain ⟨blind, -, h⟩ := bind_ok_iff.mp h
  obtain ⟨-, h⟩ := check_ok_iff.mp h
  cases h
  have hschedule := validateSchedules_ok hschedules hi
  show (Protocol.seeds _ i).length = maximum ∧ _
  unfold Protocol.seeds
  dsimp only
  unfold isSchedule at hschedule
  split at hschedule
  case h_1 items hitems =>
    simp only [Bool.and_eq_true, beq_iff_eq] at hschedule
    refine ⟨?_, ?_⟩
    · rw [List.length_map]
      exact hschedule.1.1
    · have hself : (items.map intOf).dedup = items.map intOf := by
        apply (List.dedup_sublist _).eq_of_length
        rw [hschedule.2, List.length_map]
      rw [← hself]
      exact List.nodup_dedup _
  case h_2 => cases hschedule

/-- Every record of an accepted ledger keeps the frozen policy of its protocol. -/
theorem frozen_policy (hC : C.toFloats.Ordered) {close : C.Carrier → List C.Carrier → Bool}
    {protocolData sealedData ledgerData : Bytes} {evidence : EvaluationEvidence C}
    (h : loadMachineEvidence C close protocolData sealedData ledgerData = .ok evidence) :
    (∀ i ∈ evidence.protocol.inputIds,
      (evidence.protocol.seeds i).length = evidence.protocol.maximum ∧
        (evidence.protocol.seeds i).Nodup) ∧
      List.Forall₂ (FrozenRecord evidence.protocol) evidence.protocol.slots evidence.records := by
  obtain ⟨protocol, hprotocol, h⟩ := bind_ok_iff.mp (catching_ok.mp h)
  obtain ⟨sealed, -, h⟩ := bind_ok_iff.mp h
  obtain ⟨protocolSha256, -, h⟩ := bind_ok_iff.mp h
  obtain ⟨-, h⟩ := check_ok_iff.mp h
  obtain ⟨document, -, h⟩ := bind_ok_iff.mp h
  obtain ⟨ledger, -, h⟩ := bind_ok_iff.mp h
  obtain ⟨sealedSha256, -, h⟩ := bind_ok_iff.mp h
  split at h
  case h_1 values hvalues =>
    obtain ⟨hlength, h⟩ := check_ok_iff.mp h
    obtain ⟨sealedAt, -, h⟩ := bind_ok_iff.mp h
    obtain ⟨times, -, h⟩ := bind_ok_iff.mp h
    obtain ⟨records, hrecords, h⟩ := bind_ok_iff.mp h
    obtain ⟨-, h⟩ := check_ok_iff.mp h
    obtain ⟨-, h⟩ := check_ok_iff.mp h
    cases h
    refine ⟨fun i hi => loadProtocol_schedules hprotocol hi, ?_⟩
    rw [demand_ok] at hlength
    simp only [Bool.and_eq_true, beq_iff_eq] at hlength
    have hslots : protocol.slots = (values.zip protocol.slots).map Prod.snd := by
      rw [List.map_snd_zip]
      exact hlength.1.1.2.ge
    show List.Forall₂ (FrozenRecord protocol) protocol.slots records
    rw [hslots, List.forall₂_map_left_iff]
    refine (mapM_ok_iff.mp hrecords).imp fun p r hr => ?_
    exact machineRecord_frozen hC hr
  case h_2 => cases h

/-! ### A ledger of budget two -/

namespace BudgetTwo

open Calibration.Written

def zeros : Json := digits 0x30

def arms : Json := .arr (formalArms.map fun arm => .str arm.value)

def perInput (value : Json) : Dict := [(py "i", value)]

def bindings : Dict :=
  [(py "compiler_sha256", zeros), (py "final_qa_contract_sha256", zeros),
   (py "model_supply_sha256", zeros), (py "preprocessor_sha256", zeros),
   (py "production_context_sha256", zeros), (py "runtime_sha256", zeros),
   (py "threshold_profile_sha256", zeros)]

def strategies : Dict :=
  [(py "a_strategy_contract_sha256", zeros), (py "b_strategy_contract_sha256", zeros),
   (py "c_strategy_contract_sha256", zeros), (py "c_tie_break", str "lowest_seed_index"),
   (py "c_utility_sha256", zeros), (py "d_guardrail_mode", str "DISABLED_EVALUATION_ONLY"),
   (py "d_strategy_contract_sha256", zeros), (py "e_guardrail_mode", str "ENFORCED"),
   (py "e_strategy_contract_sha256", zeros)]

def blind : Dict :=
  [(py "adjudication", str "majority_boolean"), (py "minimum_raters_per_artifact", .int 1),
   (py "protocol_sha256", zeros), (py "randomization_protocol_sha256", zeros)]

/-- One input, and two generations for each of the arms B to E. -/
def protocolDocument : Json := .obj
  [(py "arms", arms), (py "bindings", .obj bindings), (py "blind", .obj blind),
   (py "budget", .obj [(py "a_generations", .int 1), (py "max_generations_b_to_e", .int 2)]),
   (py "dataset_manifest_sha256", zeros), (py "evidence_class", str "TEST_ONLY"),
   (py "generation_materials_sha256s", .obj (perInput zeros)),
   (py "initial_request_sha256s", .obj (perInput zeros)), (py "input_ids", .arr [str "i"]),
   (py "missingness_rule", str "all_inputs_denominator_labels_required_for_artifacts"),
   (py "schema_version", str "specstyle.evaluation.five_arm_protocol.v1"),
   (py "seed_schedules", .obj (perInput (.arr [.int 0, .int 1]))),
   (py "statistics", .obj
     [(py "bootstrap_resamples", .int 1000), (py "bootstrap_seed", .int 0),
      (py "confidence_level", half), (py "method", str "paired_percentile_bootstrap_bonferroni"),
      (py "minimum_effect", half), (py "multiple_comparison", str "bonferroni_six_one_sided"),
      (py "noninferiority_margin", half), (py "sample_size", .int 1)]),
   (py "strategies", .obj strategies), (py "study_id", str "s")]

def protocolNumber : Nat := 0xc1f24698fb94282f3a5c713ca2b0c00e8b1d0bcac53c8dbee27288b915fad8db

def newYear : Json := str "2026-01-01T00:00:00Z"

def sealedDocument : Json := .obj
  [(py "production_approval_sha256", zeros), (py "production_context_sha256", zeros),
   (py "protocol_sha256", hash protocolNumber), (py "repo_sha", zeros),
   (py "schema_version", str "specstyle.evaluation.sealed_protocol.v1"),
   (py "sealed_at", newYear), (py "threshold_profile_sha256", zeros),
   (py "trust_level", str "LOCAL_PROCESS_ONLY")]

def sealedNumber : Nat := 0x5444c526de866199975d036ad4826a71f2609ea680dcb078bb41dfd6d4bfea52

/-- An attempt; without an artifact it has failed. -/
def attempt (index : Nat) (artifact : Option CodePoint) (passed : Bool) (reason : String)
    (utility : Option String) : Json :=
  let scored : Json := if utility.isSome then zeros else .null
  .obj
    [(py "artifact_sha256", (artifact.map digits).getD .null),
     (py "generation_index", .int index), (py "generation_materials_sha256", zeros),
     (py "generation_status",
       if artifact.isSome then str "GENERATED" else str "GENERATION_FAILED"),
     (py "gpu_seconds", .float (py "0.0")), (py "guardrail_decision", str "NOT_APPLICABLE"),
     (py "model_supply_sha256", zeros), (py "qa_pass", .bool passed),
     (py "qa_result_sha256", if artifact.isSome then zeros else .null),
     (py "repair_action_sha256", .null), (py "request_sha256", zeros), (py "runtime_sha256", zeros),
     (py "seed", .int index), (py "seed_reason", str reason), (py "trigger_rule_ids", .arr []),
     (py "utility_contract_sha256", scored), (py "utility_result_sha256", scored),
     (py "utility_score", (utility.map fun u => Json.float (py u)).getD .null)]

/-- What differs between the records. -/
structure Entry where
  arm : Arm
  attempts : List Json
  initialPass : Bool
  candidate : Option CodePoint
  terminal : MachineTerminal
  kind : String
  trace : Nat

/-- The single pass has one failing attempt, the arm that picks the best of all two,
and the first repairing arm stops after a failed generation. -/
def entries : List Entry :=
  [⟨.singlePass, [attempt 0 (some 0x61) false "INITIAL" none], false, some 0x61, .rejected,
      "SINGLE_PASS_COMPLETE", 0x7a6375ccd396e9cf4609d71d3db58a2c8ffecb63aa9527df7b8f673a010d0816⟩,
   ⟨.randomRetry, [attempt 0 (some 0x62) true "INITIAL" none], true, some 0x62, .approved,
      "QA_PASSED", 0x6f157c24567bd02760b9723d3b0d560f2dde36e892517c758e71ed697fc21efc⟩,
   ⟨.verifierBestOfK,
      [attempt 0 (some 0x63) false "INITIAL" (some "0.25"),
       attempt 1 (some 0x64) false "VERIFIER_CANDIDATE" (some "0.5")], false, some 0x64, .rejected,
      "BUDGET_EXHAUSTED", 0xe8015b388d55ba7957947d75e701886b9c458830efc3a74328f24e27bbc558cf⟩,
   ⟨.directedNoGuardrail, [attempt 0 none false "INITIAL" none], false, none, .failed,
      "GENERATION_FAILED", 0xfe83ebef46e1043abeaadb69e1cb4b9187feb514633f01c1bbace5cb6ae4965c⟩,
   ⟨.fullSpecstyle, [attempt 0 (some 0x65) true "INITIAL" none], true, some 0x65, .approved,
      "QA_PASSED", 0x1491c88e72a5e9b0eae247a7960912964cf1b8bf1552d2cd908693615186761a⟩]

namespace Entry

variable (e : Entry)

def candidateSha256 : Json := (e.candidate.map digits).getD .null

def reasons : Json := .arr (if e.terminal = .approved then [] else [str "r"])

def stopEvent : Json := .obj
  [(py "generation_index", .int (e.attempts.length - 1)),
   (py "guardrail_decision", str "NOT_APPLICABLE"), (py "kind", str e.kind),
   (py "repair_action_sha256", .null), (py "result_sha256", zeros),
   (py "trigger_rule_ids", .arr [])]

def traceDocument : Json := .obj
  [(py "arm", .str e.arm.value), (py "strategy_contract_sha256", zeros),
   (py "attempts", .arr e.attempts),
   (py "decision", .obj
     [(py "candidate_sha256", e.candidateSha256), (py "failure_reasons", e.reasons),
      (py "machine_terminal", .str e.terminal.value), (py "stop_event", e.stopEvent)])]

def blindId : Option Text :=
  e.candidate.map fun c =>
    py "blind-" ++ [c] ++ py "00000000000" ++ py "4000" ++ py "8000" ++ py "000000000000"

def record : Json := .obj
  [(py "arm", .str e.arm.value), (py "attempts", .arr e.attempts),
   (py "blind_artifact_id", (e.blindId.map Json.str).getD .null),
   (py "candidate_sha256", e.candidateSha256), (py "failure_reasons", e.reasons),
   (py "final_machine_pass", .bool (decide (e.terminal = .approved))),
   (py "final_qa_contract_sha256", zeros), (py "generations_used", .int e.attempts.length),
   (py "gpu_seconds", .float (py "0.0")), (py "initial_machine_pass", .bool e.initialPass),
   (py "input_id", str "i"), (py "machine_terminal", .str e.terminal.value),
   (py "observed_at", newYear), (py "stop_event", e.stopEvent),
   (py "strategy_contract_sha256", zeros), (py "strategy_trace_sha256", hash e.trace)]

end Entry

/-- The assignment, presented in the opposite order. -/
def ledgerDocument : Json := .obj
  [(py "blind_assignment_receipt", .obj
     [(py "issued_at", newYear),
      (py "mapping_sha256",
        hash 0xc96dbcc4b82d1b354097d54ebe7c370d76ca9782064513a6583c8f2d61585129),
      (py "presentation_order_sha256",
        hash 0xb9de875a1dd16465e438b507ad45bb41557a239a3cf22a23d5c006d30821e47c),
      (py "randomization_protocol_sha256", zeros), (py "randomizer_id", str "r"),
      (py "schema_version", str "specstyle.evaluation.blind_assignment_receipt.v1"),
      (py "trust_level", str "UNVERIFIED_EXTERNAL_RANDOMIZER")]),
   (py "blind_presentation_order", .arr ((entries.filterMap Entry.blindId).reverse.map .str)),
   (py "execution_trust", str "UNVERIFIED_EXTERNAL_EXECUTOR"), (py "profile", str "production"),
   (py "records", .arr (entries.map Entry.record)),
   (py "schema_version", str "specstyle.evaluation.machine_ledger.v1"),
   (py "sealed_protocol_sha256", hash sealedNumber)]

/-- `math.isclose(total, sum(parts), rel_tol=0.0, abs_tol=1e-9)` -/
def isClose (total : Binary64) (parts : List Binary64) : Bool :=
  (Binary64.sub total (parts.foldl Binary64.add Binary64.zero)).units ≤
    (Binary64.ofRatio 1 (10 ^ 9)).units

/-! The documents whose hashes the ledger names are plain, and have those hashes. -/

def known : List (Json × Nat) :=
  (protocolDocument, protocolNumber) :: (sealedDocument, sealedNumber) ::
    entries.map fun e => (e.traceDocument, e.trace)

theorem known_plain : (ledgerDocument :: known.map Prod.fst).all isPlain = true := by
  decide +kernel

/-- The hashes, one evaluation after the other. -/
theorem known_hashes : ∀ k ∈ known, HashIs k.1 k.2 := by
  intro k hk
  simp only [known, entries, List.map_cons, List.map_nil, List.mem_cons, List.not_mem_nil,
    or_false] at hk
  rcases hk with rfl | rfl | rfl | rfl | rfl | rfl | rfl
  · decide +kernel
  · decide +kernel
  · decide +kernel
  · decide +kernel
  · decide +kernel
  · decide +kernel
  · decide +kernel

theorem known_isPlain {k : Json × Nat} (hk : k ∈ known) : isPlain k.1 = true := by
  have hall := known_plain
  rw [List.all_cons, Bool.and_eq_true, List.all_eq_true] at hall
  exact hall.2 k.1 (List.mem_map_of_mem hk)

theorem evidenceSha256_known {k : Json × Nat} (hk : k ∈ known) :
    evidenceSha256 .standard (bytesOf k.1) = .ok ⟨hexDigest k.2, hexDigest_valid k.2⟩ := by
  unfold evidenceSha256
  rw [load_bytesOf (known_isPlain hk), ok_bind, known_hashes k hk]
  rfl

/-- The document that is hashed as the trace of a record. -/
def traceOf (arm : Arm) (contract : Json) (attempts : List (Attempt .standard)) (decision : Json) :
    Json := .obj
  [(py "arm", .str arm.value), (py "strategy_contract_sha256", contract),
   (py "attempts", .arr (attempts.map fun item => .obj item.raw)), (py "decision", decision)]

/-- `_strategy_trace_sha256`, with the traces that are known. -/
def knownTrace (arm : Arm) (contract : Json) (attempts : List (Attempt .standard))
    (decision : Json) : Except Fault Sha256 :=
  match entries.find? fun e => (traceOf arm contract attempts decision).eqb e.traceDocument with
  | some e => .ok ⟨hexDigest e.trace, hexDigest_valid e.trace⟩
  | none => strategyTraceSha256 .standard arm contract attempts decision

theorem strategyTraceSha256_known : strategyTraceSha256 .standard = knownTrace := by
  funext arm contract attempts decision
  unfold knownTrace
  split
  case h_1 e he =>
    have hmem : (e.traceDocument, e.trace) ∈ known :=
      List.mem_cons_of_mem _ (List.mem_cons_of_mem _
        (List.mem_map_of_mem (List.mem_of_find?_eq_some he)))
    have hsame := List.find?_some he
    unfold strategyTraceSha256
    show (canonicalJson .standard (traceOf arm contract attempts decision) >>= _) = _
    rw [Json.eq_of_eqb hsame, canonicalJson_bytesOf (known_isPlain hmem), ok_bind]
    exact evidenceSha256_known hmem
  case h_2 => rfl

/-- The ledger is accepted, with a single pass that has failed. -/
def stopsEarly : Except Fault Bool := do
  let evidence ← loadMachineEvidence .standard isClose (bytesOf protocolDocument)
    (bytesOf sealedDocument) (bytesOf ledgerDocument)
  return decide (∃ r ∈ evidence.records, r.record.arm = .singlePass ∧
    r.attempts.length < evidence.protocol.maximum ∧ ∀ item ∈ r.attempts, item.qaPass = false)

theorem stopsEarly_true : stopsEarly.toOption = some true := by
  have hplain := known_plain
  simp only [known, List.map_cons, List.all_cons, Bool.and_eq_true] at hplain
  obtain ⟨hledger, hprotocol, hsealed, -⟩ := hplain
  unfold stopsEarly loadMachineEvidence loadProtocol loadSealedProtocol machineRecord
  rw [strategyTraceSha256_known, load_bytesOf hprotocol, load_bytesOf hsealed, load_bytesOf hledger,
    evidenceSha256_known (List.mem_cons_self ..),
    evidenceSha256_known (List.mem_cons_of_mem _ (List.mem_cons_self ..))]
  decide +kernel

/-- What the evaluation of the ledger shows. -/
theorem accepted : ∃ evidence, loadMachineEvidence .standard isClose (bytesOf protocolDocument)
      (bytesOf sealedDocument) (bytesOf ledgerDocument) = .ok evidence ∧
    ∃ r ∈ evidence.records, r.record.arm = .singlePass ∧
      r.attempts.length < evidence.protocol.maximum ∧ ∀ item ∈ r.attempts, item.qaPass = false := by
  have hearly : stopsEarly = .ok true := by
    have h := stopsEarly_true
    cases hs : stopsEarly with
    | ok b =>
        rw [hs] at h
        rw [Option.some.inj h]
    | error fault =>
        rw [hs] at h
        cases h
  obtain ⟨evidence, hevidence, h⟩ := bind_ok_iff.mp hearly
  exact ⟨evidence, hevidence, of_decide_eq_true (Except.ok.inj h)⟩

end BudgetTwo

open Calibration.Written in
/-- The ledger of budget two, as a case of `frozen_policy`. -/
theorem frozen_policy_budget_two :
    ∃ evidence, loadMachineEvidence .standard BudgetTwo.isClose (bytesOf BudgetTwo.protocolDocument)
        (bytesOf BudgetTwo.sealedDocument) (bytesOf BudgetTwo.ledgerDocument) = .ok evidence ∧
      List.Forall₂ (FrozenRecord evidence.protocol) evidence.protocol.slots evidence.records := by
  obtain ⟨evidence, hevidence, -⟩ := BudgetTwo.accepted
  exact ⟨evidence, hevidence, (frozen_policy Floats.binary64_ordered hevidence).2⟩

open Calibration.Written in
/-- The single pass stops before the budget of the protocol, without a pass. -/
theorem single_pass_stops_early :
    ∃ evidence, loadMachineEvidence .standard BudgetTwo.isClose (bytesOf BudgetTwo.protocolDocument)
        (bytesOf BudgetTwo.sealedDocument) (bytesOf BudgetTwo.ledgerDocument) = .ok evidence ∧
      ∃ r ∈ evidence.records, r.attempts.length < evidence.protocol.maximum ∧
        (∀ item ∈ r.attempts, item.qaPass = false) ∧
        r.record.arm ≠ .directedNoGuardrail ∧ r.record.arm ≠ .fullSpecstyle := by
  obtain ⟨evidence, hevidence, r, hr, harm, hshort, hnone⟩ := BudgetTwo.accepted
  refine ⟨evidence, hevidence, r, hr, hshort, hnone, ?_, ?_⟩
  · rw [harm]
    exact nofun
  · rw [harm]
    exact nofun

end Evaluation

end SpecStyle
