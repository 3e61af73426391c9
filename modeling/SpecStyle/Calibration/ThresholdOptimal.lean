/-
SpecStyle/Calibration/ThresholdOptimal.lean

Which threshold the search finds.

With the operator fixed, a score is held against a threshold by one relation,
and a threshold is stricter than another when it would pass it itself.  A
threshold accepts the same pairs as the least of the scores it accepts, so the
scores are thresholds enough (`exists_score`); the grid is tried from the
strictest on, so the first threshold that meets the targets is the strictest
(`find_sorted`).
-/
import SpecStyle.Calibration.ThresholdSearch

namespace SpecStyle

open PyLib

namespace Calibration

/-! ### Lists in order -/

section Lists

variable {α : Type} (ge : α → α → Bool) (p : α → Bool) {l : List α}

/-- The first hit in a sorted list is the greatest. -/
theorem find_sorted (hself : ∀ a, ge a a = true) (hs : l.Pairwise fun a b => ge a b = true) {r : α}
    (h : l.find? p = some r) : r ∈ l ∧ p r = true ∧ ∀ x ∈ l, p x = true → ge r x = true := by
  induction l with
  | nil => cases h
  | cons a l ih =>
      rw [List.pairwise_cons] at hs
      rw [List.find?_cons] at h
      split at h
      · rename_i ha
        cases h
        refine ⟨List.mem_cons_self, ha, fun x hx _ => ?_⟩
        rcases List.mem_cons.mp hx with rfl | hx
        · exact hself x
        · exact hs.1 x hx
      · rename_i ha
        obtain ⟨hr, hpr, hall⟩ := ih hs.2 h
        refine ⟨List.mem_cons_of_mem _ hr, hpr, fun x hx hpx => ?_⟩
        rcases List.mem_cons.mp hx with rfl | hx
        · rw [hpx] at ha
          cases ha
        · exact hall x hx hpx

/-- Among the hits there is a least one. -/
theorem exists_least (htotal : ∀ a b, ge a b = true ∨ ge b a = true)
    (htrans : ∀ a b c, ge a b = true → ge b c = true → ge a c = true)
    (h : ∃ x ∈ l, p x = true) : ∃ m ∈ l, p m = true ∧ ∀ x ∈ l, p x = true → ge x m = true := by
  induction l with
  | nil =>
      obtain ⟨x, hx, -⟩ := h
      cases hx
  | cons a l ih =>
      by_cases hl : ∃ x ∈ l, p x = true
      · obtain ⟨m, hm, hpm, hall⟩ := ih hl
        by_cases hpa : p a = true
        · rcases htotal a m with ham | hma
          · refine ⟨m, List.mem_cons_of_mem _ hm, hpm, fun x hx hpx => ?_⟩
            rcases List.mem_cons.mp hx with rfl | hx
            · exact ham
            · exact hall x hx hpx
          · refine ⟨a, List.mem_cons_self, hpa, fun x hx hpx => ?_⟩
            rcases List.mem_cons.mp hx with rfl | hx
            · exact (htotal x x).elim id id
            · exact htrans x m a (hall x hx hpx) hma
        · refine ⟨m, List.mem_cons_of_mem _ hm, hpm, fun x hx hpx => ?_⟩
          rcases List.mem_cons.mp hx with rfl | hx
          · exact absurd hpx hpa
          · exact hall x hx hpx
      · obtain ⟨x, hx, hpx⟩ := h
        have hxa : x = a := by
          rcases List.mem_cons.mp hx with rfl | hx
          · rfl
          · exact absurd ⟨x, hx, hpx⟩ hl
        subst hxa
        refine ⟨x, List.mem_cons_self, hpx, fun y hy hpy => ?_⟩
        rcases List.mem_cons.mp hy with rfl | hy
        · exact (htotal y y).elim id id
        · exact absurd ⟨y, hy, hpy⟩ hl

end Lists

/-! ### Thresholds -/

/-- The numbers are in a linear order, and no part of something is the rate zero. -/
structure Linear (C : Codec) : Prop where
  ordered : C.toFloats.Ordered
  antisymm : ∀ a b, C.le a b = true → C.le b a = true → a = b
  zero_div : ∀ n, C.div 0 (n + 1) = C.zero

section Search

variable {C : Codec}

theorem passes_total (hC : Linear C) (op : Operator) (a b : C.Carrier) :
    passes C a b op = true ∨ passes C b a op = true := by
  cases op with
  | gte => exact hC.ordered.total b a
  | lte => exact hC.ordered.total a b

theorem passes_trans (hC : Linear C) (op : Operator) (a b c : C.Carrier)
    (hab : passes C a b op = true) (hbc : passes C b c op = true) : passes C a c op = true := by
  cases op with
  | gte => exact hC.ordered.trans c b a hbc hab
  | lte => exact hC.ordered.trans a b c hab hbc

theorem passes_antisymm (hC : Linear C) (op : Operator) (a b : C.Carrier)
    (hab : passes C a b op = true) (hba : passes C b a op = true) : a = b := by
  cases op with
  | gte => exact hC.antisymm a b hba hab
  | lte => exact hC.antisymm a b hab hba

/-- The thresholds accept the same pairs. -/
def SamePredictions (pairs : List (ScoredPair C)) (op : Operator) (t u : C.Carrier) : Prop :=
  ∀ p ∈ pairs, passes C p.score t op = passes C p.score u op

/-- The threshold meets both targets. -/
def meets (pairs : List (ScoredPair C)) (op : Operator) (maxFpr minTpr t : C.Carrier) : Bool :=
  match binaryRates C pairs t op with
  | .ok rates => C.le minTpr rates.1 && C.le rates.2 maxFpr
  | .error _ => false

theorem meets_eq {pairs : List (ScoredPair C)} {op : Operator} {maxFpr minTpr t : C.Carrier}
    {rates : C.Carrier × C.Carrier} (h : binaryRates C pairs t op = .ok rates) :
    meets pairs op maxFpr minTpr t = (C.le minTpr rates.1 && C.le rates.2 maxFpr) := by
  unfold meets
  rw [h]

/-- Thresholds that accept the same pairs have the same rates. -/
theorem binaryRates_congr {pairs : List (ScoredPair C)} {op : Operator} {t u : C.Carrier}
    (h : SamePredictions pairs op t u) : binaryRates C pairs t op = binaryRates C pairs u op := by
  have hcounts : confusion C pairs t op = confusion C pairs u op := by
    unfold confusion
    apply List.foldl_ext
    intro counts p hp
    rw [h p hp]
  unfold binaryRates
  rw [hcounts]

/-- Nothing accepted is no true positive. -/
theorem confusion_tp_zero {pairs : List (ScoredPair C)} {op : Operator} {t : C.Carrier}
    (h : ∀ p ∈ pairs, passes C p.score t op = false) : (confusion C pairs t op).tp = 0 := by
  have hrun : ∀ counts : Confusion, counts.tp = 0 → (pairs.foldl (fun counts p =>
      counts.add p.labelPositive (passes C p.score t op)) counts).tp = 0 := by
    induction pairs with
    | nil =>
        intro counts hcounts
        exact hcounts
    | cons p pairs ih =>
        intro counts hcounts
        rw [List.foldl_cons, h p List.mem_cons_self]
        apply ih fun q hq => h q (List.mem_cons_of_mem _ hq)
        cases p.labelPositive with
        | true => exact hcounts
        | false => exact hcounts
  exact hrun ⟨0, 0, 0, 0⟩ rfl

/-- A threshold that meets a positive target accepts some pair. -/
theorem exists_accepted (hC : Linear C) {pairs : List (ScoredPair C)} {op : Operator}
    {maxFpr minTpr t : C.Carrier} (hpositive : C.le minTpr C.zero = false)
    (h : meets pairs op maxFpr minTpr t = true) : ∃ p ∈ pairs, passes C p.score t op = true := by
  by_contra hnone
  have hno : ∀ p ∈ pairs, passes C p.score t op = false := by
    intro p hp
    rw [← Bool.not_eq_true]
    exact fun hpass => hnone ⟨p, hp, hpass⟩
  have htp := confusion_tp_zero hno
  cases hrates : binaryRates C pairs t op with
  | error fault =>
      unfold meets at h
      rw [hrates] at h
      cases h
  | ok rates =>
      rw [meets_eq hrates, Bool.and_eq_true] at h
      obtain ⟨-, hrates⟩ := check_ok_iff.mp hrates
      cases hrates
      have hzero : (if (confusion C pairs t op).tp + (confusion C pairs t op).fn = 0 then C.zero
          else C.div (confusion C pairs t op).tp
            ((confusion C pairs t op).tp + (confusion C pairs t op).fn)) = C.zero := by
        split
        · rfl
        · rename_i hne
          rw [htp, Nat.zero_add] at hne ⊢
          obtain ⟨n, hn⟩ := Nat.exists_eq_succ_of_ne_zero hne
          rw [hn]
          exact hC.zero_div n
      rw [hzero, hpositive] at h
      cases h.1

/-- The scores are thresholds enough. -/
theorem exists_score (hC : Linear C) {pairs : List (ScoredPair C)} {op : Operator}
    {maxFpr minTpr t : C.Carrier} (hpositive : C.le minTpr C.zero = false)
    (h : meets pairs op maxFpr minTpr t = true) :
    ∃ s ∈ pairs.map (·.score), SamePredictions pairs op t s := by
  obtain ⟨p, hp, hpass⟩ := exists_accepted hC hpositive h
  obtain ⟨s, hs, hst, hleast⟩ := exists_least (fun a b => passes C a b op)
    (fun s => passes C s t op) (passes_total hC op) (passes_trans hC op)
    ⟨p.score, List.mem_map_of_mem hp, hpass⟩
  refine ⟨s, hs, fun q hq => ?_⟩
  rw [Bool.eq_iff_iff]
  constructor
  · intro hqt
    exact hleast q.score (List.mem_map_of_mem hq) hqt
  · intro hqs
    exact passes_trans hC op q.score s t hqs hst

/-! ### The search -/

/-- Arguments that the search accepts, with a positive target. -/
structure Targets (C : Codec) (pairs : List (ScoredPair C)) (metricId : Text)
    (maxFpr minTpr : C.Carrier) : Prop where
  pairs : pairs ≠ []
  metricId : metricId ≠ []
  fprInUnit : inUnit C maxFpr = true
  tprInUnit : inUnit C minTpr = true
  positive : C.le minTpr C.zero = false

variable {pairs : List (ScoredPair C)} {metricId : Text} {op : Operator} {maxFpr minTpr : C.Carrier}

/-- The loop finds the first threshold that meets the targets. -/
theorem firstMeeting_eq (hpairs : pairs ≠ []) (grid : List C.Carrier) :
    firstMeeting C pairs op maxFpr minTpr grid =
      .ok (grid.find? (meets pairs op maxFpr minTpr)) := by
  have hdemand : demand (!pairs.isEmpty) "invalid pairs" = .ok () := by
    rw [demand_ok, Bool.not_eq_true', List.isEmpty_eq_false_iff]
    exact hpairs
  induction grid with
  | nil => rfl
  | cons t grid ih =>
      unfold firstMeeting
      rw [List.find?_cons]
      cases hrates : binaryRates C pairs t op with
      | error fault =>
          unfold binaryRates at hrates
          rw [hdemand] at hrates
          cases hrates
      | ok rates =>
          rw [ok_bind, meets_eq hrates, ih]
          cases C.le minTpr rates.1 && C.le rates.2 maxFpr <;> rfl

/-- What the search gives for a grid. -/
def found (pairs : List (ScoredPair C)) (op : Operator) (maxFpr minTpr : C.Carrier)
    (grid : List C.Carrier) : Except Fault C.Carrier :=
  match (strictestFirst C op grid).find? (meets pairs op maxFpr minTpr) with
  | some best => .ok best
  | none => .error (.domain "no threshold meets calibration targets")

theorem select_eq (h : Targets C pairs metricId maxFpr minTpr)
    {candidates : Option (List C.Carrier)}
    (hgrid : candidates.getD (distinctScores C (pairs.map (·.score))) ≠ []) :
    selectThresholdOnCalibration C pairs metricId op maxFpr minTpr candidates =
      found pairs op maxFpr minTpr (candidates.getD (distinctScores C (pairs.map (·.score)))) := by
  have hpairs : demand (!pairs.isEmpty) "invalid calibration pairs" = .ok () := by
    rw [demand_ok, Bool.not_eq_true', List.isEmpty_eq_false_iff]
    exact h.pairs
  have hmetric : demand (metricId != []) "invalid metric" = .ok () := by
    rw [demand_ok, bne_iff_ne]
    exact h.metricId
  have hnonempty : demand (!(candidates.getD (distinctScores C (pairs.map (·.score)))).isEmpty)
      "invalid candidate thresholds" = .ok () := by
    rw [demand_ok, Bool.not_eq_true', List.isEmpty_eq_false_iff]
    exact hgrid
  unfold selectThresholdOnCalibration
  rw [hpairs, ok_bind, hmetric, ok_bind, demand_ok.mpr h.fprInUnit, ok_bind,
    demand_ok.mpr h.tprInUnit, ok_bind]
  simp only
  rw [hnonempty, ok_bind, firstMeeting_eq h.pairs, ok_bind]
  rfl

/-- The grid is tried from the strictest threshold on. -/
theorem strictestFirst_sorted (hC : Linear C) (op : Operator) (grid : List C.Carrier) :
    (strictestFirst C op grid).Pairwise (fun a b => passes C a b op = true) ∧
      (strictestFirst C op grid).Perm grid := by
  cases op with
  | gte =>
      have : Std.Total fun a b => C.le b a = true := ⟨fun a b => hC.ordered.total b a⟩
      have : IsTrans C.Carrier fun a b => C.le b a = true :=
        ⟨fun a b c hab hbc => hC.ordered.trans c b a hbc hab⟩
      exact ⟨List.pairwise_insertionSort (fun a b => C.le b a = true) grid,
        List.perm_insertionSort _ _⟩
  | lte =>
      have : Std.Total fun a b => C.le a b = true := ⟨hC.ordered.total⟩
      have : IsTrans C.Carrier fun a b => C.le a b = true := ⟨hC.ordered.trans⟩
      exact ⟨List.pairwise_insertionSort (fun a b => C.le a b = true) grid,
        List.perm_insertionSort _ _⟩

/-- The strictest threshold of the grid that meets the targets. -/
structure StrictestOf (pairs : List (ScoredPair C)) (op : Operator) (maxFpr minTpr : C.Carrier)
    (grid : List C.Carrier) (r : C.Carrier) : Prop where
  mem : r ∈ grid
  meets : meets pairs op maxFpr minTpr r = true
  strictest : ∀ t ∈ grid, Calibration.meets pairs op maxFpr minTpr t = true → passes C r t op = true

theorem found_cases (hC : Linear C) (grid : List C.Carrier) :
    (∃ r, found pairs op maxFpr minTpr grid = .ok r ∧ StrictestOf pairs op maxFpr minTpr grid r) ∨
      found pairs op maxFpr minTpr grid =
        .error (.domain "no threshold meets calibration targets") ∧
        ∀ t ∈ grid, meets pairs op maxFpr minTpr t = false := by
  obtain ⟨hsorted, hperm⟩ := strictestFirst_sorted hC op grid
  unfold found
  cases hfind : (strictestFirst C op grid).find? (meets pairs op maxFpr minTpr) with
  | some r =>
      obtain ⟨hmem, hmeets, hall⟩ := find_sorted (fun a b => passes C a b op) _
        (fun a => (passes_total hC op a a).elim id id) hsorted hfind
      exact .inl ⟨r, rfl, hperm.mem_iff.mp hmem, hmeets, fun t ht => hall t (hperm.mem_iff.mpr ht)⟩
  | none =>
      refine .inr ⟨rfl, fun t ht => ?_⟩
      rw [List.find?_eq_none] at hfind
      exact Bool.eq_false_iff.mpr (hfind t (hperm.mem_iff.mpr ht))

/-- The strictest threshold of a grid is what the search finds there. -/
theorem found_of_strictest (hC : Linear C) {grid : List C.Carrier} {r : C.Carrier}
    (h : StrictestOf pairs op maxFpr minTpr grid r) :
    found pairs op maxFpr minTpr grid = .ok r := by
  rcases found_cases hC grid with ⟨s, hs, hstrict⟩ | ⟨-, hnone⟩
  · rw [hs, passes_antisymm hC op s r (hstrict.strictest r h.mem h.meets)
      (h.strictest s hstrict.mem hstrict.meets)]
  · have hmeets := h.meets
    rw [hnone r h.mem] at hmeets
    cases hmeets

/-- The scores, each once. -/
theorem mem_distinctScores (hC : Linear C) {xs : List C.Carrier} {x : C.Carrier} :
    x ∈ distinctScores C xs ↔ x ∈ xs := by
  induction xs with
  | nil => exact Iff.rfl
  | cons y ys ih =>
      unfold distinctScores
      rw [List.mem_cons, List.mem_cons, List.mem_filter, ih, Bool.not_eq_true']
      constructor
      · rintro (hx | ⟨hx, -⟩)
        · exact .inl hx
        · exact .inr hx
      · rintro (hx | hx)
        · exact .inl hx
        · by_cases hsame : C.same y x = true
          · unfold Floats.same at hsame
            rw [Bool.and_eq_true] at hsame
            exact .inl (hC.antisymm x y hsame.2 hsame.1)
          · exact .inr ⟨hx, Bool.eq_false_iff.mpr hsame⟩

/-- The default grid: the scores themselves. -/
theorem select_default (h : Targets C pairs metricId maxFpr minTpr) :
    selectThresholdOnCalibration C pairs metricId op maxFpr minTpr none =
      found pairs op maxFpr minTpr (distinctScores C (pairs.map (·.score))) := by
  apply select_eq h
  show distinctScores C (pairs.map (·.score)) ≠ []
  cases hp : pairs with
  | nil => exact absurd hp h.pairs
  | cons p rest =>
      show distinctScores C (p.score :: rest.map (·.score)) ≠ []
      unfold distinctScores
      exact List.cons_ne_nil _ _

/-- The strictest of all thresholds: it meets the targets, and whatever meets them
accepts all that it accepts. -/
structure Strictest (pairs : List (ScoredPair C)) (op : Operator) (maxFpr minTpr r : C.Carrier) :
    Prop where
  meets : meets pairs op maxFpr minTpr r = true
  accepted : ∀ t, Calibration.meets pairs op maxFpr minTpr t = true →
    ∀ p ∈ pairs, passes C p.score r op = true → passes C p.score t op = true
  /-- A threshold at least as strict that meets the targets makes no difference. -/
  same : ∀ t, Calibration.meets pairs op maxFpr minTpr t = true → passes C t r op = true →
    SamePredictions pairs op t r

/-- Thresholds that accept the same pairs meet the same targets. -/
theorem meets_congr {t u : C.Carrier} (h : SamePredictions pairs op t u) :
    meets pairs op maxFpr minTpr t = meets pairs op maxFpr minTpr u := by
  unfold meets
  rw [binaryRates_congr h]

/-- The strictest of the scores is the strictest of all thresholds. -/
theorem strictest_of_scores (hC : Linear C) (hpositive : C.le minTpr C.zero = false) {r : C.Carrier}
    (h : StrictestOf pairs op maxFpr minTpr (distinctScores C (pairs.map (·.score))) r) :
    Strictest pairs op maxFpr minTpr r := by
  have haccepted : ∀ t, meets pairs op maxFpr minTpr t = true →
      ∀ p ∈ pairs, passes C p.score r op = true → passes C p.score t op = true := by
    intro t ht p hp hpass
    obtain ⟨s, hs, hsame⟩ := exists_score hC hpositive ht
    have hrs : passes C r s op = true :=
      h.strictest s ((mem_distinctScores hC).mpr hs) (by rw [← meets_congr hsame]; exact ht)
    rw [hsame p hp]
    exact passes_trans hC op p.score r s hpass hrs
  refine ⟨h.meets, haccepted, fun t ht htr p hp => ?_⟩
  rw [Bool.eq_iff_iff]
  constructor
  · intro hpt
    exact passes_trans hC op p.score t r hpt htr
  · exact haccepted t ht p hp

/-- The search for the default grid: the strictest of all thresholds, or none
meets the targets. -/
theorem select_strictest (hC : Linear C) (h : Targets C pairs metricId maxFpr minTpr) :
    (∃ r, selectThresholdOnCalibration C pairs metricId op maxFpr minTpr none = .ok r ∧
      Strictest pairs op maxFpr minTpr r) ∨
    selectThresholdOnCalibration C pairs metricId op maxFpr minTpr none =
        .error (.domain "no threshold meets calibration targets") ∧
      ∀ t, meets pairs op maxFpr minTpr t = false := by
  rw [select_default h]
  rcases found_cases hC (distinctScores C (pairs.map (·.score))) with ⟨r, hr, hstrict⟩ | ⟨hr, hnone⟩
  · exact .inl ⟨r, hr, strictest_of_scores hC h.positive hstrict⟩
  · refine .inr ⟨hr, fun t => ?_⟩
    rw [← Bool.not_eq_true]
    intro ht
    obtain ⟨s, hs, hsame⟩ := exists_score hC h.positive ht
    rw [meets_congr hsame, hnone s ((mem_distinctScores hC).mpr hs)] at ht
    cases ht

/-! ### Grids -/

/-- The order and the repetitions of a grid do not matter. -/
theorem select_grid (hC : Linear C) (h : Targets C pairs metricId maxFpr minTpr)
    {grid grid' : List C.Carrier} (hsame : ∀ x, x ∈ grid ↔ x ∈ grid') :
    selectThresholdOnCalibration C pairs metricId op maxFpr minTpr (some grid) =
      selectThresholdOnCalibration C pairs metricId op maxFpr minTpr (some grid') := by
  by_cases hgrid : grid = []
  · have hgrid' : grid' = [] := by
      apply List.eq_nil_iff_forall_not_mem.mpr
      intro x hx
      rw [← hsame, hgrid] at hx
      cases hx
    rw [hgrid, hgrid']
  · have hgrid' : grid' ≠ [] := by
      obtain ⟨x, hx⟩ := List.exists_mem_of_ne_nil grid hgrid
      exact List.ne_nil_of_mem ((hsame x).mp hx)
    have heq : selectThresholdOnCalibration C pairs metricId op maxFpr minTpr (some grid) =
        found pairs op maxFpr minTpr grid := by
      apply select_eq h
      exact hgrid
    have heq' : selectThresholdOnCalibration C pairs metricId op maxFpr minTpr (some grid') =
        found pairs op maxFpr minTpr grid' := by
      apply select_eq h
      exact hgrid'
    rw [heq, heq']
    rcases found_cases hC grid with ⟨r, hr, hstrict⟩ | ⟨hr, hnone⟩
    · rw [hr]
      refine (found_of_strictest hC ⟨(hsame r).mp hstrict.mem, hstrict.meets, ?_⟩).symm
      exact fun t ht => hstrict.strictest t ((hsame t).mpr ht)
    · have hcases : _ ∨ found pairs op maxFpr minTpr grid' = _ ∧ _ := found_cases hC grid'
      rcases hcases with ⟨r, -, hstrict⟩ | ⟨hr', -⟩
      · have hmeets := hstrict.meets
        rw [hnone r ((hsame r).mpr hstrict.mem)] at hmeets
        cases hmeets
      · rw [hr, hr']

/-! ### The other operator -/

/-- A change of sign: it turns the order around, and twice is none. -/
structure Negation (C : Codec) (neg : C.Carrier → C.Carrier) : Prop where
  le : ∀ a b, C.le (neg a) (neg b) = C.le b a
  neg_neg : ∀ a, neg (neg a) = a

/-- The pairs with their scores negated. -/
def negated (neg : C.Carrier → C.Carrier) (pairs : List (ScoredPair C)) : List (ScoredPair C) :=
  pairs.map fun p => ⟨p.sampleId, neg p.score, p.labelPositive⟩

section Negated

variable {neg : C.Carrier → C.Carrier}

theorem binaryRates_negated (hneg : Negation C neg) (t : C.Carrier) :
    binaryRates C (negated neg pairs) (neg t) .gte = binaryRates C pairs t .lte := by
  have hcounts : confusion C (negated neg pairs) (neg t) .gte = confusion C pairs t .lte := by
    unfold confusion negated
    rw [List.foldl_map]
    apply List.foldl_ext
    intro counts p hp
    show counts.add p.labelPositive (C.le (neg t) (neg p.score)) = _
    rw [hneg.le]
    rfl
  unfold binaryRates
  rw [hcounts]
  unfold negated
  rw [List.isEmpty_map]

theorem meets_negated (hneg : Negation C neg) (t : C.Carrier) :
    meets (negated neg pairs) .gte maxFpr minTpr (neg t) = meets pairs .lte maxFpr minTpr t := by
  unfold meets
  rw [binaryRates_negated hneg]

theorem mem_negated_scores (hneg : Negation C neg) {x : C.Carrier} :
    x ∈ (negated neg pairs).map (·.score) ↔ neg x ∈ pairs.map (·.score) := by
  unfold negated
  rw [List.map_map, List.mem_map, List.mem_map]
  constructor
  · rintro ⟨p, hp, rfl⟩
    exact ⟨p, hp, (hneg.neg_neg p.score).symm⟩
  · rintro ⟨p, hp, hx⟩
    exact ⟨p, hp, by rw [Function.comp_apply, hx, hneg.neg_neg]⟩

/-- The search with the one operator is that with the other on negated scores. -/
theorem select_negated (hC : Linear C) (h : Targets C pairs metricId maxFpr minTpr)
    (hneg : Negation C neg) :
    selectThresholdOnCalibration C pairs metricId .lte maxFpr minTpr none =
      (selectThresholdOnCalibration C (negated neg pairs) metricId .gte maxFpr minTpr none).map
        neg := by
  have h' : Targets C (negated neg pairs) metricId maxFpr minTpr :=
    ⟨fun hnil => h.pairs (List.map_eq_nil_iff.mp hnil), h.metricId, h.fprInUnit, h.tprInUnit,
      h.positive⟩
  rw [select_default h, select_default h']
  rcases found_cases hC (distinctScores C ((negated neg pairs).map (·.score))) with
    ⟨r, hr, hstrict⟩ | ⟨hr, hnone⟩
  · rw [hr]
    apply found_of_strictest hC
    have hmem := (mem_negated_scores hneg).mp ((mem_distinctScores hC).mp hstrict.mem)
    refine ⟨(mem_distinctScores hC).mpr hmem, ?_, fun t ht hmeets => ?_⟩
    · rw [← meets_negated hneg, hneg.neg_neg]
      exact hstrict.meets
    · have hin : neg t ∈ distinctScores C ((negated neg pairs).map (·.score)) := by
        rw [mem_distinctScores hC, mem_negated_scores hneg, hneg.neg_neg]
        exact (mem_distinctScores hC).mp ht
      have hrt := hstrict.strictest (neg t) hin (by rw [meets_negated hneg]; exact hmeets)
      show C.le (neg r) t = true
      rw [← hneg.neg_neg t, hneg.le]
      exact hrt
  · rw [hr]
    have hcases : _ ∨
        found pairs .lte maxFpr minTpr (distinctScores C (pairs.map (·.score))) = _ ∧ _ :=
      found_cases hC (distinctScores C (pairs.map (·.score)))
    rcases hcases with ⟨r, -, hstrict⟩ | ⟨hr', -⟩
    · have hin : neg r ∈ distinctScores C ((negated neg pairs).map (·.score)) := by
        rw [mem_distinctScores hC, mem_negated_scores hneg, hneg.neg_neg]
        exact (mem_distinctScores hC).mp hstrict.mem
      have hmeets := hnone (neg r) hin
      rw [meets_negated hneg, hstrict.meets] at hmeets
      cases hmeets
    · rw [hr']
      rfl

end Negated

/-! ### Freezing -/

/-- What the search has found meets the targets, on every grid. -/
theorem select_meets (hC : Linear C) (h : Targets C pairs metricId maxFpr minTpr)
    {candidates : Option (List C.Carrier)} {r : C.Carrier}
    (hr : selectThresholdOnCalibration C pairs metricId op maxFpr minTpr candidates = .ok r) :
    meets pairs op maxFpr minTpr r = true := by
  by_cases hgrid : candidates.getD (distinctScores C (pairs.map (·.score))) = []
  · unfold selectThresholdOnCalibration at hr
    have hempty : demand (!(candidates.getD (distinctScores C (pairs.map (·.score)))).isEmpty)
        "invalid candidate thresholds" ≠ .ok () := by
      rw [hgrid]
      exact fun h => by cases h
    obtain ⟨-, -, hr⟩ := bind_ok_iff.mp hr
    obtain ⟨-, -, hr⟩ := bind_ok_iff.mp hr
    obtain ⟨-, -, hr⟩ := bind_ok_iff.mp hr
    obtain ⟨-, -, hr⟩ := bind_ok_iff.mp hr
    obtain ⟨_, hdemand, -⟩ := bind_ok_iff.mp hr
    exact absurd hdemand hempty
  · rw [select_eq h hgrid] at hr
    obtain ⟨s, hs, hstrict⟩ | ⟨hnone, -⟩ := found_cases hC _
    · rw [hs] at hr
      cases hr
      exact hstrict.meets
    · rw [hnone] at hr
      cases hr

/-- A threshold that met the targets is rejected for what the validation shows only. -/
theorem freeze_rejected {t : C.Carrier} {validation : List (ScoredPair C)}
    {d : ThresholdDecision C} (ht : meets pairs op maxFpr minTpr t = true)
    (h : freezeThreshold C metricId op t pairs validation maxFpr minTpr = .ok d) :
    d.status = .rejected ↔ meets validation op maxFpr minTpr t = false := by
  unfold freezeThreshold at h
  obtain ⟨cal, hcal, h⟩ := bind_ok_iff.mp h
  obtain ⟨val, hval, h⟩ := bind_ok_iff.mp h
  cases h
  rw [meets_eq hcal] at ht
  rw [meets_eq hval]
  have hmet : (!C.le minTpr cal.1 || !C.le cal.2 maxFpr) = false := by
    rw [← Bool.not_and, ht]
    rfl
  show (if (!C.le minTpr cal.1 || !C.le cal.2 maxFpr) = true then ThresholdOutcome.rejected
    else if (!C.le minTpr val.1 || !C.le val.2 maxFpr) = true then .rejected
    else .validationPassed) = .rejected ↔ _
  rw [hmet, if_neg Bool.false_ne_true, ← Bool.not_and]
  cases C.le minTpr val.1 && C.le val.2 maxFpr <;> decide

end Search

/-- Exact rationals. -/
def rationals : Codec where
  Carrier := ℚ
  le a b := decide (a ≤ b)
  compareInt a n := compare a n
  div a b := a / b
  print _ := []
  read _ := none
  hashBytes := Codec.standard.hashBytes

theorem rationals_le {a b : ℚ} : rationals.le a b = true ↔ a ≤ b := decide_eq_true_iff

theorem rationals_linear : Linear rationals where
  ordered := {
    total := fun (a b : ℚ) =>
      (Rat.le_total (a := a) (b := b)).imp rationals_le.mpr rationals_le.mpr
    trans := fun (_ _ _ : ℚ) hab hbc =>
      rationals_le.mpr (Rat.le_trans (rationals_le.mp hab) (rationals_le.mp hbc)) }
  antisymm := fun (_ _ : ℚ) hab hba => Rat.le_antisymm (rationals_le.mp hab) (rationals_le.mp hba)
  zero_div n := by
    show ((0 : Nat) : ℚ) / ((n + 1 : Nat) : ℚ) = ((0 : Nat) : ℚ) / ((1 : Nat) : ℚ)
    rw [Nat.cast_zero, zero_div, zero_div]

theorem rationals_negation : Negation rationals fun x : ℚ => -x where
  le := fun (a b : ℚ) => by
    show decide (-a ≤ -b) = decide (b ≤ a)
    rw [decide_eq_decide]
    exact neg_le_neg_iff
  neg_neg := fun (a : ℚ) => neg_neg a

end Calibration

open Calibration in
/-- Threshold selection: the strictest of all thresholds is found on the default grid,
none is found only where none meets the targets, both operators are one search, a grid
counts as a set, and what was found is rejected for what the validation shows only. -/
theorem threshold_selection {C : Codec} (hC : Linear C) {pairs : List (ScoredPair C)}
    {metricId : Text} {op : Operator} {maxFpr minTpr : C.Carrier}
    (h : Targets C pairs metricId maxFpr minTpr) :
    (∀ r, selectThresholdOnCalibration C pairs metricId op maxFpr minTpr none = .ok r →
      Strictest pairs op maxFpr minTpr r) ∧
    (selectThresholdOnCalibration C pairs metricId op maxFpr minTpr none =
        .error (.domain "no threshold meets calibration targets") ↔
      ∀ t, meets pairs op maxFpr minTpr t = false) ∧
    (∀ fault, selectThresholdOnCalibration C pairs metricId op maxFpr minTpr none = .error fault →
      fault = .domain "no threshold meets calibration targets") ∧
    (∀ neg, Negation C neg →
      selectThresholdOnCalibration C pairs metricId .lte maxFpr minTpr none =
        (selectThresholdOnCalibration C (negated neg pairs) metricId .gte maxFpr minTpr none).map
          neg) ∧
    (∀ grid grid' : List C.Carrier, (∀ x, x ∈ grid ↔ x ∈ grid') →
      selectThresholdOnCalibration C pairs metricId op maxFpr minTpr (some grid) =
        selectThresholdOnCalibration C pairs metricId op maxFpr minTpr (some grid')) ∧
    ∀ candidates r validation d,
      selectThresholdOnCalibration C pairs metricId op maxFpr minTpr candidates = .ok r →
      freezeThreshold C metricId op r pairs validation maxFpr minTpr = .ok d →
      (d.status = .rejected ↔ meets validation op maxFpr minTpr r = false) := by
  refine ⟨fun r hr => ?_, ?_, fun fault hfault => ?_, fun neg hneg => select_negated hC h hneg,
    fun grid grid' hsame => select_grid hC h hsame,
    fun candidates r validation d hr hd => freeze_rejected (select_meets hC h hr) hd⟩
  · rcases select_strictest hC h with ⟨s, hs, hstrict⟩ | ⟨hs, -⟩
    · rw [hs] at hr
      cases hr
      exact hstrict
    · rw [hs] at hr
      cases hr
  · rcases select_strictest hC h with ⟨s, hs, hstrict⟩ | ⟨hs, hnone⟩
    · rw [hs]
      constructor
      · intro hr
        cases hr
      · intro hall
        have hmeets := hstrict.meets
        rw [hall s] at hmeets
        cases hmeets
    · exact ⟨fun _ => hnone, fun _ => hs⟩
  · rcases select_strictest hC h with ⟨s, hs, -⟩ | ⟨hs, -⟩
    · rw [hs] at hfault
      cases hfault
    · rw [hs] at hfault
      cases hfault
      rfl

namespace TiedScores

open Calibration

def half : rationals.Carrier := (1 / 2 : ℚ)

def quarters (n : Nat) : rationals.Carrier := (n / 4 : ℚ)

/-- Two of the scores are the same. -/
def pairs : List (ScoredPair rationals) :=
  [⟨py "a", quarters 1, false⟩, ⟨py "b", half, true⟩, ⟨py "c", half, false⟩,
    ⟨py "d", quarters 3, true⟩]

theorem targets : Targets rationals pairs (py "iou") half (quarters 3) where
  pairs := List.cons_ne_nil _ _
  metricId := by decide
  fprInUnit := by decide +kernel
  tprInUnit := by decide +kernel
  positive := by decide +kernel

instance : DecidableEq rationals.Carrier := inferInstanceAs (DecidableEq ℚ)

theorem selected :
    selectThresholdOnCalibration rationals pairs (py "iou") .gte half (quarters 3) none =
      .ok half := by
  have hfirst : (strictestFirst rationals .gte
      (distinctScores rationals (pairs.map (·.score)))).find?
      (meets pairs .gte half (quarters 3)) = some half := by
    decide +kernel
  rw [select_default targets]
  unfold found
  rw [hfirst]

end TiedScores

open Calibration TiedScores in
/-- Of the tied scores the positive one is needed: the threshold is theirs.  The
search from below is the one of the negated scores from above. -/
theorem threshold_selection_tied :
    Strictest pairs .gte half (quarters 3) half ∧
    selectThresholdOnCalibration rationals pairs (py "iou") .lte half (quarters 3) none =
      (selectThresholdOnCalibration rationals (negated (fun x : ℚ => -x) pairs) (py "iou") .gte
        half (quarters 3) none).map fun x : ℚ => -x := by
  obtain ⟨hstrictest, -, -, hmirror, -⟩ :=
    @threshold_selection rationals rationals_linear pairs (py "iou") .gte half (quarters 3) targets
  exact ⟨hstrictest half selected, hmirror _ rationals_negation⟩

end SpecStyle
