/-
SpecStyle/Repair/StateBox.lean

The states a repair history goes through.

An action moves one coordinate of the state of a request: a parameter by the
step, cut to [0, 1], or the variation index by one (`Moved`).  The request of
an attempt is the one before it with new ids and the moved state
(`StepsFrom`); along a whole history the states are distinct, the materials
are those of the initial request, and the variation index counts the retries.

The parameters are the doubles of the source.  A sum is rounded to a double;
where it needs no rounding the step is exact.
-/
import SpecStyle.Lib.Rounding
import SpecStyle.Repair.Replay

namespace SpecStyle

open PyLib

/-! ### One step -/

/-- `after` is `before + _STEP`, cut to one, and larger than `before`. -/
structure StepsUp (before after : Binary64) : Prop where
  value : after.value =
    min Binary64.one.value (Binary64.nearest (before.value + Binary64.tenth.value))
  exact : Binary64.Fits (before.value + Binary64.tenth.value) →
    after.value = min Binary64.one.value (before.value + Binary64.tenth.value)
  rises : before.value < after.value

/-- `after` is `before - _STEP`, cut to zero, and smaller than `before`. -/
structure StepsDown (before after : Binary64) : Prop where
  value : after.value = max 0 (Binary64.nearest (before.value - Binary64.tenth.value))
  exact : Binary64.Fits (before.value - Binary64.tenth.value) →
    after.value = max 0 (before.value - Binary64.tenth.value)
  falls : after.value < before.value

/-- What an action does to a state. -/
inductive Moved : Identifier → RepairState → RepairState → Prop
  | styleUp {ip ip' img ctrl index h h'} (hstep : StepsUp ip ip') :
      Moved increaseStyleScale ⟨⟨ip, img, ctrl, h⟩, index⟩ ⟨⟨ip', img, ctrl, h'⟩, index⟩
  | styleDown {ip ip' img ctrl index h h'} (hstep : StepsDown ip ip') :
      Moved decreaseStyleScale ⟨⟨ip, img, ctrl, h⟩, index⟩ ⟨⟨ip', img, ctrl, h'⟩, index⟩
  | denoise {ip img img' ctrl index h h'} (hstep : StepsDown img img') :
      Moved reduceDenoise ⟨⟨ip, img, ctrl, h⟩, index⟩ ⟨⟨ip, img', ctrl, h'⟩, index⟩
  | structureUp {ip img ctrl ctrl' index h h'} (hstep : StepsUp ctrl ctrl') :
      Moved increaseStructure ⟨⟨ip, img, ctrl, h⟩, index⟩ ⟨⟨ip, img, ctrl', h'⟩, index⟩
  | retry {parameters index} :
      Moved retrySampling ⟨parameters, index⟩ ⟨parameters, index + 1⟩

section Steps

variable {v : Binary64}

/-- Rounding a sum or a difference of numbers in [0, 1] moves it by less than
the step. -/
theorem nearest_step {x : Int} (hx : x.natAbs ≤ Binary64.one.units + Binary64.tenth.units) :
    x < Binary64.nearest x + Binary64.tenth.value ∧
      Binary64.nearest x < x + Binary64.tenth.value := by
  -- in units of 2 ^ 1018, a sixteenth of the last place
  have hunit : ∀ n, ∃ u, u = 2 ^ n ∧ 0 < u := fun n => ⟨_, rfl, Nat.two_pow_pos n⟩
  obtain ⟨u, hu, hpos⟩ := hunit 1018
  have htenth : Binary64.tenth.units = 0x1999999999999a * u := by
    rw [hu]
    rfl
  have hone : Binary64.one.units = 2 ^ 56 * u := by
    unfold Binary64.one
    rw [hu, show 1074 = 56 + 1018 from rfl, pow_add]
  have hbound : (2 : Nat) ^ (1022 + 53) = 2 ^ 57 * u := by
    rw [hu, show 1022 + 53 = 57 + 1018 from rfl, pow_add]
  have hplace : (2 : Int) ^ 1022 = ((2 ^ 4 * u : Nat) : Int) := by
    rw [hu, show 1022 = 4 + 1018 from rfl, pow_add, Nat.cast_mul, Nat.cast_pow, Nat.cast_pow]
    rfl
  have hclose := @Binary64.nearest_close 1022 x
  rw [hbound, hplace] at hclose
  rw [hone, htenth] at hx
  have hclose := hclose (by omega)
  rw [show Binary64.tenth.value = ((Binary64.tenth.units : Nat) : Int) from rfl, htenth]
  omega

theorem inUnit_iff : v.inUnit = true ↔ 0 ≤ v.value ∧ v.value ≤ Binary64.one.value := by
  unfold Binary64.inUnit
  rw [Bool.and_eq_true, decide_eq_true_eq, decide_eq_true_eq]

theorem value_stepUp : (stepUp v).value =
    min Binary64.one.value (Binary64.nearest (v.value + Binary64.tenth.value)) := by
  unfold stepUp
  rw [Binary64.value_pyMin, Binary64.value_add]

theorem value_stepDown : (stepDown v).value =
    max 0 (Binary64.nearest (v.value - Binary64.tenth.value)) := by
  unfold stepDown
  rw [Binary64.value_pyMax, Binary64.value_sub]
  rfl

/-- A step that changes the number raises it. -/
theorem stepsUp (hv : v.inUnit = true) (hchanged : v.same (stepUp v) = false) :
    StepsUp v (stepUp v) where
  value := value_stepUp
  exact := fun hfits => by rw [value_stepUp, Binary64.nearest_of_fits hfits]
  rises := by
    rw [inUnit_iff] at hv
    have hne : v.value ≠ (stepUp v).value := by
      rw [Ne, ← Binary64.same_iff, hchanged]
      exact Bool.false_ne_true
    have hle : v.value ≤ (stepUp v).value := by
      rw [value_stepUp]
      refine le_min hv.2 ?_
      have hone : Binary64.one.value = Binary64.one.units := rfl
      have htenth : Binary64.tenth.value = Binary64.tenth.units := rfl
      have hnear := (@nearest_step (v.value + Binary64.tenth.value) (by omega)).1
      omega
    exact lt_of_le_of_ne hle hne

/-- A step that changes the number lowers it. -/
theorem stepsDown (hv : v.inUnit = true) (hchanged : v.same (stepDown v) = false) :
    StepsDown v (stepDown v) where
  value := value_stepDown
  exact := fun hfits => by rw [value_stepDown, Binary64.nearest_of_fits hfits]
  falls := by
    rw [inUnit_iff] at hv
    have hne : (stepDown v).value ≠ v.value := by
      rw [ne_comm, Ne, ← Binary64.same_iff, hchanged]
      exact Bool.false_ne_true
    have hle : (stepDown v).value ≤ v.value := by
      rw [value_stepDown]
      refine max_le hv.1 ?_
      have hone : Binary64.one.value = Binary64.one.units := rfl
      have htenth : Binary64.tenth.value = Binary64.tenth.units := rfl
      have hnear := (@nearest_step (v.value - Binary64.tenth.value) (by omega)).2
      omega
    exact lt_of_le_of_ne hle hne

end Steps

/-! ### The patch of an action -/

section Patches

variable {request : GenerationRequest} {action : Identifier} {patch : RepairPatch}

theorem GenerationParameters.new_ok {ip img ctrl : Binary64} {p : GenerationParameters}
    (h : GenerationParameters.new ip img ctrl = .ok p) : ∃ hunit, p = ⟨ip, img, ctrl, hunit⟩ := by
  unfold GenerationParameters.new at h
  split_ifs at h with hunit
  cases h
  exact ⟨hunit, rfl⟩

/-- A patch that keeps the variation index changes the parameters. -/
theorem RepairPatch.changed (hindex : patch.beforeVariationIndex = patch.afterVariationIndex) :
    patch.beforeParameters.same patch.afterParameters = false := by
  have hone := patch.oneCategory
  rw [decide_eq_true hindex] at hone
  exact eq_false_of_ne_true hone

/-- A patch of the parameters: the index stays and some parameter changes. -/
theorem parametersPatch_ok {p : GenerationParameters} {ip img ctrl : Binary64} {index : Nat}
    (h : (do
      let after ← GenerationParameters.new ip img ctrl
      RepairPatch.new p after index index) = .ok patch) :
    ∃ hunit, patch.afterParameters = ⟨ip, img, ctrl, hunit⟩ ∧ patch.afterVariationIndex = index ∧
      (p.ipAdapterScale.same ip && p.img2imgStrength.same img && p.controlnetScale.same ctrl) =
        false := by
  obtain ⟨after, hafter, h⟩ := bind_ok_iff.mp h
  obtain ⟨hunit, rfl⟩ := GenerationParameters.new_ok hafter
  obtain ⟨hb, ha, hi, hj⟩ := RepairPatch.new_ok h
  have hchanged := patch.changed (hi.trans hj.symm)
  rw [hb, ha] at hchanged
  exact ⟨hunit, ha, hj, hchanged⟩

/-- The patch of an action moves the state of the request. -/
theorem patchFor_moved (h : patchFor request action = .ok patch) :
    Moved action request.state ⟨patch.afterParameters, patch.afterVariationIndex⟩ := by
  unfold GenerationRequest.state
  unfold patchFor at h
  generalize request.executionParameters = p at h ⊢
  obtain ⟨ip, img, ctrl, hunit⟩ := p
  have hbox := hunit
  rw [Bool.and_eq_true, Bool.and_eq_true] at hbox
  obtain ⟨⟨hip, himg⟩, hctrl⟩ := hbox
  simp only at h
  split_ifs at h with h1 h2 h3 h4 h5
  · obtain ⟨_, ha, hj, hchanged⟩ := parametersPatch_ok h
    rw [ha, hj, h1]
    exact .styleUp (stepsUp hip (by simpa using hchanged))
  · obtain ⟨_, ha, hj, hchanged⟩ := parametersPatch_ok h
    rw [ha, hj, h2]
    exact .styleDown (stepsDown hip (by simpa using hchanged))
  · obtain ⟨_, ha, hj, hchanged⟩ := parametersPatch_ok h
    rw [ha, hj, h3]
    exact .denoise (stepsDown himg (by simpa using hchanged))
  · obtain ⟨_, ha, hj, hchanged⟩ := parametersPatch_ok h
    rw [ha, hj, h4]
    exact .structureUp (stepsUp hctrl (by simpa using hchanged))
  · obtain ⟨-, ha, -, hj⟩ := RepairPatch.new_ok h
    rw [ha, hj, h5]
    exact .retry

/-- Only a retry changes the variation index. -/
theorem Moved.variationIndex {s t : RepairState} (h : Moved action s t) :
    t.variationIndex = s.variationIndex + if action = retrySampling then 1 else 0 := by
  cases h with
  | retry => rw [if_pos rfl]
  | _ => rw [if_neg (by decide), Nat.add_zero]

end Patches

/-! ### The requests of a history -/

section Histories

variable {hashBytes : Bytes → Sha256} {digests : Digests}

/-- The request of an attempt is the one before it but for the attempt id, the
parent link and the state, which the action has moved. -/
structure StepsFrom (parent : GenerationRequest) (attempt : RepairAttempt hashBytes) : Prop where
  fields : attempt.request.toRequestFields =
    { parent.toRequestFields with
      attemptId := attempt.request.attemptId
      parentAttemptId := some parent.attemptId
      variationIndex := attempt.request.variationIndex
      executionParameters := attempt.request.executionParameters }
  attemptId : attempt.request.attemptId ≠ parent.attemptId
  moved : Moved attempt.decision.actionId parent.state attempt.request.state

/-- Every attempt steps from the one before it, the first from the parent. -/
def Chained : GenerationRequest → List (RepairAttempt hashBytes) → Prop
  | _, [] => True
  | parent, attempt :: attempts => StepsFrom parent attempt ∧ Chained attempt.request attempts

/-- The fields of a request that are neither ids of attempts nor its state. -/
def GenerationRequest.materials (request : GenerationRequest) :=
  (request.jobId, request.compiledSpec, request.generationProfile, request.outputProfile,
    request.source, request.styleReferences, request.prompt, request.controlInput,
    request.environmentHash)

/-- The number of `RETRY_SAMPLING` attempts. -/
def retries (attempts : List (RepairAttempt hashBytes)) : Nat :=
  attempts.countP fun attempt => attempt.decision.actionId = retrySampling

/-- The requests of a history, in order. -/
def RepairHistory.requests (history : RepairHistory hashBytes digests) :
    List GenerationRequest :=
  history.initialAttempt.request :: history.repairAttempts.map (·.request)

/-! ### Runs of the replay -/

/-- A legal attempt steps from the request before it. -/
theorem LegalAttempt.stepsFrom {s : ReplayState hashBytes} {attempt : RepairAttempt hashBytes}
    {plan : CompiledVerificationPlan} {improved : Bool}
    (h : LegalAttempt digests s attempt plan improved) : StepsFrom s.request attempt := by
  obtain ⟨hplan, -⟩ := selectRepair_decision h.selected
  obtain ⟨hid, hfields⟩ := (buildRepairRequest_ok_iff hplan).mp h.request
  obtain ⟨-, -, -, hpatch, -⟩ := planRepairAction_ok_iff.mp hplan
  obtain ⟨-, -, hstate⟩ := h.request_fields
  refine ⟨?_, hid, ?_⟩
  · rw [hfields]
  · rw [hstate]
    exact patchFor_moved hpatch

/-- After a run of the replay the attempts are chained and their states are
among those seen. -/
theorem chained_run {attempts : List (RepairAttempt hashBytes)} {s s' : ReplayState hashBytes}
    (h : attempts.foldlM (replayAttempt digests) s = .ok s') :
    Chained s.request attempts ∧ s'.seen = s.seen ++ attempts.map (·.request.state) := by
  induction attempts generalizing s with
  | nil =>
      cases h
      exact ⟨trivial, (List.append_nil _).symm⟩
  | cons attempt attempts ih =>
      rw [List.foldlM_cons] at h
      obtain ⟨t, ht, h⟩ := bind_ok_iff.mp h
      obtain ⟨plan, improved, hlegal, rfl⟩ := replayAttempt_ok_iff.mp ht
      obtain ⟨hchain, hseen⟩ := ih h
      refine ⟨⟨hlegal.stepsFrom, hchain⟩, ?_⟩
      rw [hseen]
      show s.seen ++ [attempt.request.state] ++ _ = _
      rw [List.append_assoc]
      rfl

/-! ### What a chain keeps -/

variable {parent : GenerationRequest} {attempt : RepairAttempt hashBytes}
  {attempts : List (RepairAttempt hashBytes)}

theorem StepsFrom.materials (h : StepsFrom parent attempt) :
    attempt.request.materials = parent.materials := by
  unfold GenerationRequest.materials
  rw [h.fields]

theorem StepsFrom.variationIndex (h : StepsFrom parent attempt) :
    attempt.request.variationIndex =
      parent.variationIndex + if attempt.decision.actionId = retrySampling then 1 else 0 :=
  h.moved.variationIndex

theorem Chained.materials (h : Chained parent attempts) :
    ∀ attempt ∈ attempts, attempt.request.materials = parent.materials := by
  induction attempts generalizing parent with
  | nil => exact fun _ hmem => absurd hmem List.not_mem_nil
  | cons first attempts ih =>
      obtain ⟨hfirst, hrest⟩ := h
      intro attempt hmem
      rcases List.mem_cons.mp hmem with rfl | hmem
      · exact hfirst.materials
      · exact (ih hrest attempt hmem).trans hfirst.materials

/-- The variation index of an attempt is between that of the first request
and so many more as there are attempts. -/
theorem Chained.variationIndex (h : Chained parent attempts) :
    ∀ attempt ∈ attempts, parent.variationIndex ≤ attempt.request.variationIndex ∧
      attempt.request.variationIndex ≤ parent.variationIndex + attempts.length := by
  induction attempts generalizing parent with
  | nil => exact fun _ hmem => absurd hmem List.not_mem_nil
  | cons first attempts ih =>
      obtain ⟨hfirst, hrest⟩ := h
      have hindex := hfirst.variationIndex
      rw [List.length_cons]
      intro attempt hmem
      rcases List.mem_cons.mp hmem with rfl | hmem
      · split_ifs at hindex <;> omega
      · have hbetween := ih hrest attempt hmem
        split_ifs at hindex <;> omega

/-- The last request counts the retries. -/
theorem Chained.last (h : Chained parent attempts) :
    ((attempts.getLast?.map (·.request)).getD parent).variationIndex =
      parent.variationIndex + retries attempts := by
  induction attempts generalizing parent with
  | nil => rfl
  | cons first attempts ih =>
      obtain ⟨hfirst, hrest⟩ := h
      have hlast : (((first :: attempts).getLast?.map (·.request)).getD parent) =
          (attempts.getLast?.map (·.request)).getD first.request := by
        rw [List.getLast?_cons]
        cases attempts.getLast? <;> rfl
      have hcount : retries (first :: attempts) = retries attempts +
          if first.decision.actionId = retrySampling then 1 else 0 := by
        unfold retries
        simp only [List.countP_cons, decide_eq_true_eq]
      rw [hlast, ih hrest, hfirst.variationIndex, hcount]
      omega

/-! ### Histories -/

namespace RepairHistory

variable (history : RepairHistory hashBytes digests)

theorem replayed : ∃ s, replayLoop history.initialAttempt history.repairAttempts = .ok s ∧
    history.repairAttempts.length ≤ s.request.compiledSpec.repair.maxRounds := by
  have hvalid := history.valid
  unfold replay at hvalid
  obtain ⟨s, hs, hvalid⟩ := bind_ok_iff.mp hvalid
  obtain ⟨policy, hpolicy, hvalid⟩ := bind_ok_iff.mp hvalid
  obtain ⟨hlength, -⟩ := check_ok_iff.mp hvalid
  rw [ensure_ok_iff, decide_eq_true_eq, (repairPolicyFromRequest_fields hpolicy).1] at hlength
  exact ⟨s, hs, hlength⟩

theorem chained : Chained history.initialAttempt.request history.repairAttempts := by
  obtain ⟨s, hs, -⟩ := history.replayed
  exact (chained_run hs).1

theorem rounds_le : history.repairAttempts.length ≤
    history.initialAttempt.request.compiledSpec.repair.maxRounds := by
  obtain ⟨s, hs, hlength⟩ := history.replayed
  rw [(replayed_loop hs).spec] at hlength
  exact hlength

theorem states_pairwise :
    (history.requests.map (·.state)).Pairwise (fun s t => s.same t = false) := by
  obtain ⟨s, hs, -⟩ := history.replayed
  have hseen := (validateSeen_ok_iff.mp (replayed_loop hs).seen).2
  rw [(chained_run hs).2] at hseen
  have hstates : history.requests.map (·.state) = [history.initialAttempt.request.state] ++
      history.repairAttempts.map (·.request.state) := by
    unfold requests
    rw [List.map_cons, List.map_map]
    rfl
  rw [hstates]
  exact hseen

theorem index_between : ∀ request ∈ history.requests,
    history.initialAttempt.request.variationIndex ≤ request.variationIndex ∧
      request.variationIndex ≤ history.initialAttempt.request.variationIndex +
        history.initialAttempt.request.compiledSpec.repair.maxRounds := by
  intro request hmem
  rcases List.mem_cons.mp hmem with rfl | hmem
  · exact ⟨le_refl _, Nat.le_add_right _ _⟩
  · obtain ⟨attempt, hattempt, rfl⟩ := List.mem_map.mp hmem
    have hbetween := history.chained.variationIndex attempt hattempt
    have hrounds := history.rounds_le
    omega

end RepairHistory

/-- A repair never comes back to a state, each attempt moves one coordinate of
the state of its parent by a step and keeps the rest of the request, and the
variation index grows by the number of retries, at most `max_rounds`: two runs
so far apart use no index in common. -/
theorem repair_states_fresh (history : RepairHistory hashBytes digests) :
    (history.requests.map (·.state)).Pairwise (fun s t => s.same t = false) ∧
      Chained history.initialAttempt.request history.repairAttempts ∧
      (∀ request ∈ history.requests,
        request.materials = history.initialAttempt.request.materials) ∧
      history.currentRequest.variationIndex =
        history.initialAttempt.request.variationIndex + retries history.repairAttempts ∧
      history.currentRequest.variationIndex ≤ history.initialAttempt.request.variationIndex +
        history.initialAttempt.request.compiledSpec.repair.maxRounds ∧
      ∀ other : RepairHistory hashBytes digests,
        history.initialAttempt.request.variationIndex +
            history.initialAttempt.request.compiledSpec.repair.maxRounds + 1 ≤
          other.initialAttempt.request.variationIndex →
        ∀ a ∈ history.requests, ∀ b ∈ other.requests, a.variationIndex ≠ b.variationIndex := by
  have hchain := history.chained
  have hrounds := history.rounds_le
  have hretries : retries history.repairAttempts ≤ history.repairAttempts.length :=
    List.countP_le_length
  have hlast := hchain.last
  refine ⟨history.states_pairwise, hchain, ?_, hlast, hlast.trans_le (by omega), ?_⟩
  · intro request hmem
    rcases List.mem_cons.mp hmem with rfl | hmem
    · rfl
    · obtain ⟨attempt, hattempt, rfl⟩ := List.mem_map.mp hmem
      exact hchain.materials attempt hattempt
  · intro other hapart a ha b hb
    have hle := (history.index_between a ha).2
    have hge := (other.index_between b hb).1
    omega

end Histories

end SpecStyle
