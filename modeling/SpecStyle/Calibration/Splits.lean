/-
SpecStyle/Calibration/Splits.lean

The split manifest (`splits.py`).

Samples are sent to one of three splits by the hash of their content, and a
manifest hash is taken over a text in which the samples of a split are sorted
rows `sample_id:content_sha256`, the rows joined by commas and the parts by
bars.  A sample id is any text.  Where no id of the one manifest holds the end of
a row of the other (`NoRowEnds`), the texts tell the splits apart (`parts_eq`);
a row, a comma and an id are again an id, whose row is that of two samples
(`merged`).
-/
import SpecStyle.Calibration.FormalEvidence
import SpecStyle.Lib.Records
import Mathlib.Data.List.Infix

namespace SpecStyle

open PyLib

namespace Calibration

/-- `SampleRef`, as its `__post_init__` accepts it -/
structure SampleRef where
  sampleId : Text
  contentSha256 : Sha256
  styleId : Text
  contentId : Text
  labelPositive : Bool
  sampleId_ne : sampleId ≠ []
  styleId_ne : styleId ≠ []
  contentId_ne : contentId ≠ []

/-- `SplitManifest` -/
structure SplitManifest where
  protocolVersion : Text
  calibration : List SampleRef
  validation : List SampleRef
  test : List SampleRef
  manifestHash : Sha256

/-- `SplitManifest.__post_init__` -/
def SplitManifest.new (protocolVersion : Text) (calibration validation test : List SampleRef)
    (manifestHash : Sha256) : Except Fault SplitManifest := do
  demand (protocolVersion != []) "invalid split protocol"
  return ⟨protocolVersion, calibration, validation, test, manifestHash⟩

/-- The samples of a split. -/
def SplitManifest.split (m : SplitManifest) : SplitName → List SampleRef
  | .calibration => m.calibration
  | .validation => m.validation
  | .test => m.test

/-! ### The manifest text -/

def comma : CodePoint := 0x2C

def colon : CodePoint := 0x3A

def bar : CodePoint := 0x7C

/-- `f"{s.sample_id}:{s.content_sha256.value}"` -/
def rowText (sampleId : Text) (contentSha256 : Sha256) : Text :=
  sampleId ++ colon :: contentSha256.value

/-- The rows of a split, sorted. -/
def rows (items : List SampleRef) : List Text :=
  (items.map fun s => rowText s.sampleId s.contentSha256).insertionSort fun a b => a ≤ b

/-- `part` of `_manifest_material` -/
def part (name : Text) (items : List SampleRef) : Text :=
  name ++ colon :: [comma].intercalate (rows items)

/-- `_manifest_material` -/
def manifestMaterial (protocol : Text) (cal val test : List SampleRef) : Text :=
  [bar].intercalate [protocol, part (py "cal") cal, part (py "val") val, part (py "test") test]

/-- What the manifest hash is taken over. -/
def SplitManifest.material (m : SplitManifest) : Text :=
  manifestMaterial m.protocolVersion m.calibration m.validation m.test

/-! ### Building a manifest -/

/-- `s1 & s2` of the content ids is not empty. -/
def overlap (s1 s2 : List SampleRef) : Bool :=
  s1.any fun s => s2.any fun t => s.contentId == t.contentId

/-- `_assert_content_id_isolation` -/
def assertContentIdIsolation (cal val test : List SampleRef) : Except Fault Unit := do
  demand (!overlap cal val) "content_id leak calibration/validation"
  demand (!overlap cal test) "content_id leak calibration/test"
  demand (!overlap val test) "content_id leak validation/test"

/-- `buckets[name].append(sample)` -/
def addTo (buckets : SplitName → List SampleRef) (name : SplitName) (sample : SampleRef) :
    SplitName → List SampleRef :=
  fun n => if n = name then buckets n ++ [sample] else buckets n

variable (C : Codec)

/-- The loop of `build_split_manifest`, with the ids and the hashes seen so far. -/
def fillBuckets (salt : Text) : List SampleRef → List Text → List Sha256 →
    (SplitName → List SampleRef) → Except Fault (SplitName → List SampleRef)
  | [], _, _, buckets => .ok buckets
  | sample :: rest, seenIds, seenHashes, buckets => do
    demand (!seenIds.contains sample.sampleId) "duplicate sample id"
    demand (!seenHashes.contains sample.contentSha256) "duplicate content hash leakage"
    let name ← assignSplit C sample.contentSha256 salt
    fillBuckets salt rest (sample.sampleId :: seenIds) (sample.contentSha256 :: seenHashes)
      (addTo buckets name sample)

/-- `hash_bytes(material.encode())` -/
def hashText (material : Text) : Except Fault Sha256 :=
  match encodeUtf8 material with
  | none => .error (.raised .unicodeEncode)
  | some data => .ok (C.hashBytes data)

/-- `build_split_manifest` -/
def buildSplitManifest (samples : List SampleRef) (protocolVersion salt : Text) :
    Except Fault SplitManifest := do
  let buckets ← fillBuckets C salt samples [] [] fun _ => []
  let cal := buckets .calibration
  let val := buckets .validation
  let test := buckets .test
  assertContentIdIsolation cal val test
  let hash ← hashText C (manifestMaterial protocolVersion cal val test)
  SplitManifest.new protocolVersion cal val test hash

/-! ### The splits -/

section Fill

variable {C} {salt : Text}

/-- The sample is assigned to the split. -/
def assigned (C : Codec) (salt : Text) (n : SplitName) (s : SampleRef) : Bool :=
  match assignSplit C s.contentSha256 salt with
  | .ok m => m == n
  | .error _ => false

theorem assigned_iff {n : SplitName} {s : SampleRef} :
    assigned C salt n s = true ↔ assignSplit C s.contentSha256 salt = .ok n := by
  unfold assigned
  cases assignSplit C s.contentSha256 salt with
  | error fault =>
      constructor
      · intro h
        cases h
      · intro h
        cases h
  | ok m =>
      show (m == n) = true ↔ _
      rw [beq_iff_eq, Except.ok.injEq]

/-- What the loop does with a list of samples: each goes behind those of its split. -/
theorem fillBuckets_ok {samples : List SampleRef} {ids : List Text} {hashes : List Sha256}
    {buckets filled : SplitName → List SampleRef}
    (h : fillBuckets C salt samples ids hashes buckets = .ok filled) :
    (∀ n, filled n = buckets n ++ samples.filter (assigned C salt n)) ∧
      (∀ s ∈ samples, ∃ n, assigned C salt n s = true) ∧
      (∀ s ∈ samples, s.sampleId ∉ ids) ∧ (samples.map (·.sampleId)).Nodup := by
  induction samples generalizing ids hashes buckets with
  | nil =>
      cases h
      exact ⟨fun n => (List.append_nil _).symm, List.forall_mem_nil _, List.forall_mem_nil _,
        List.nodup_nil⟩
  | cons s rest ih =>
      obtain ⟨hid, h⟩ := check_ok_iff.mp h
      obtain ⟨-, h⟩ := check_ok_iff.mp h
      obtain ⟨name, hname, h⟩ := bind_ok_iff.mp h
      obtain ⟨hfilled, hall, hids, hnodup⟩ := ih h
      rw [demand_ok, Bool.not_eq_true', List.contains_eq_mem, decide_eq_false_iff_not] at hid
      have hassigned : ∀ n, assigned C salt n s = decide (n = name) := by
        intro n
        rw [Bool.eq_iff_iff, assigned_iff, hname, decide_eq_true_iff, Except.ok.injEq]
        exact eq_comm
      refine ⟨fun n => ?_, ?_, ?_, ?_⟩
      · rw [hfilled n, List.filter_cons, hassigned n]
        unfold addTo
        by_cases hn : n = name
        · rw [if_pos hn, if_pos (decide_eq_true hn), List.append_assoc]
          rfl
        · rw [if_neg hn, if_neg (by rw [decide_eq_false hn]; exact Bool.false_ne_true)]
      · rw [List.forall_mem_cons]
        exact ⟨⟨name, by rw [hassigned]; exact decide_eq_true rfl⟩, hall⟩
      · rw [List.forall_mem_cons]
        exact ⟨hid, fun t ht hmem => hids t ht (List.mem_cons_of_mem _ hmem)⟩
      · rw [List.map_cons, List.nodup_cons]
        refine ⟨fun hmem => ?_, hnodup⟩
        obtain ⟨t, ht, heq⟩ := List.mem_map.mp hmem
        apply hids t ht
        rw [heq]
        exact List.mem_cons_self

variable {samples : List SampleRef} {protocolVersion : Text} {m : SplitManifest}

/-- What a manifest is of: each split has the samples assigned to it, in their order. -/
structure Built (C : Codec) (samples : List SampleRef) (protocolVersion salt : Text)
    (m : SplitManifest) : Prop where
  version : m.protocolVersion = protocolVersion
  version_ne : protocolVersion ≠ []
  split : ∀ n, m.split n = samples.filter (assigned C salt n)
  assigned : ∀ s ∈ samples, ∃ n, assigned C salt n s = true
  ids : (samples.map (·.sampleId)).Nodup
  hash : hashText C m.material = .ok m.manifestHash

theorem build_ok (h : buildSplitManifest C samples protocolVersion salt = .ok m) :
    Built C samples protocolVersion salt m := by
  obtain ⟨buckets, hfill, h⟩ := bind_ok_iff.mp h
  obtain ⟨-, h⟩ := check_ok_iff.mp h
  obtain ⟨hash, hhash, h⟩ := bind_ok_iff.mp h
  obtain ⟨hversion, h⟩ := check_ok_iff.mp h
  cases h
  rw [demand_ok, bne_iff_ne] at hversion
  obtain ⟨hfilled, hall, -, hnodup⟩ := fillBuckets_ok hfill
  refine ⟨rfl, hversion, fun n => ?_, hall, hnodup, hhash⟩
  cases n with
  | calibration => exact hfilled .calibration
  | validation => exact hfilled .validation
  | test => exact hfilled .test

/-- Every sample is in exactly one of the three filters. -/
theorem filters_perm (h : ∀ s ∈ samples, ∃ n, assigned C salt n s = true) :
    (samples.filter (assigned C salt .calibration) ++
      (samples.filter (assigned C salt .validation) ++
        samples.filter (assigned C salt .test))).Perm samples := by
  induction samples with
  | nil => exact .nil
  | cons s rest ih =>
      rw [List.forall_mem_cons] at h
      have ih := ih h.2
      obtain ⟨n, hn⟩ := h.1
      have hother : ∀ m, m ≠ n → assigned C salt m s = false := by
        intro m hm
        rw [← Bool.not_eq_true, assigned_iff, assigned_iff.mp hn, Except.ok.injEq]
        exact fun heq => hm heq.symm
      cases n with
      | calibration =>
          rw [List.filter_cons_of_pos hn,
            List.filter_cons_of_neg (by rw [hother .validation (by decide)]; decide),
            List.filter_cons_of_neg (by rw [hother .test (by decide)]; decide)]
          exact ih.cons s
      | validation =>
          rw [List.filter_cons_of_pos hn,
            List.filter_cons_of_neg (by rw [hother .calibration (by decide)]; decide),
            List.filter_cons_of_neg (by rw [hother .test (by decide)]; decide)]
          exact List.perm_middle.trans (ih.cons s)
      | test =>
          rw [List.filter_cons_of_pos hn,
            List.filter_cons_of_neg (by rw [hother .calibration (by decide)]; decide),
            List.filter_cons_of_neg (by rw [hother .validation (by decide)]; decide)]
          exact (List.perm_middle.append_left _).trans (List.perm_middle.trans (ih.cons s))

end Fill

/-- The samples of a split, as pairs of an id and a content hash. -/
def SplitManifest.pairs (m : SplitManifest) (n : SplitName) : List (Text × Sha256) :=
  (m.split n).map fun s => (s.sampleId, s.contentSha256)

/-- Each split has the same pairs in both manifests. -/
def SameSplits (m m' : SplitManifest) : Prop := ∀ n p, p ∈ m.pairs n ↔ p ∈ m'.pairs n

/-! ### What the text says -/

/-- The rows of a split are those of its pairs. -/
theorem rows_perm {items items' : List SampleRef}
    (h : (items.map fun s => (s.sampleId, s.contentSha256)).Perm
      (items'.map fun s => (s.sampleId, s.contentSha256))) : rows items = rows items' := by
  have hmap : ∀ items : List SampleRef, (items.map fun s => rowText s.sampleId s.contentSha256) =
      (items.map fun s => (s.sampleId, s.contentSha256)).map fun p => rowText p.1 p.2 := by
    intro items
    rw [List.map_map]
    rfl
  have hperm : (rows items).Perm (rows items') := by
    unfold rows
    rw [hmap, hmap]
    exact (List.perm_insertionSort _ _).trans ((h.map _).trans (List.perm_insertionSort _ _).symm)
  exact hperm.eq_of_pairwise (fun a b _ _ hab hba => le_antisymm hab hba)
    (List.pairwise_insertionSort _ _) (List.pairwise_insertionSort _ _)

/-- A row tells its id and its hash. -/
theorem rowText_inj {id id' : Text} {h h' : Sha256} (heq : rowText id h = rowText id' h') :
    id = id' ∧ h = h' := by
  obtain ⟨hid, hhash⟩ := List.append_inj' heq (by
    rw [List.length_cons, List.length_cons, h.length_eq, h'.length_eq])
  exact ⟨hid, Sha256.ext_value (List.cons.inj hhash).2⟩

/-- The pairs are told by the rows. -/
theorem mem_rows {items : List SampleRef} {p : Text × Sha256} :
    rowText p.1 p.2 ∈ rows items ↔ p ∈ items.map fun s => (s.sampleId, s.contentSha256) := by
  unfold rows
  rw [List.mem_insertionSort, List.mem_map, List.mem_map]
  constructor
  · rintro ⟨s, hs, heq⟩
    obtain ⟨hid, hhash⟩ := rowText_inj heq
    exact ⟨s, hs, by rw [hid, hhash]⟩
  · rintro ⟨s, hs, rfl⟩
    exact ⟨s, hs, rfl⟩

/-! ### Ends of rows -/

/-- The delimiters of rows and of parts. -/
def delim (c : CodePoint) : Prop := c = comma ∨ c = bar

/-- The text begins with one of the hashes and a delimiter. -/
def rowEndAt (hashes : List Sha256) (t : Text) : Bool :=
  hashes.any fun h => (h.value ++ [comma]).isPrefixOf t || (h.value ++ [bar]).isPrefixOf t

/-- One of the hashes stands in the text with a delimiter behind it. -/
def hasRowEnd (hashes : List Sha256) (t : Text) : Bool := t.tails.any (rowEndAt hashes)

theorem Sha256.hex {h : Sha256} {c : CodePoint} (hc : c ∈ h.value) : isLowerHex c = true := by
  have hvalid := h.valid
  rw [Bool.and_eq_true, List.all_eq_true] at hvalid
  exact hvalid.2 c hc

theorem delim_not_hex {c : CodePoint} (h : delim c) : isLowerHex c = false := by
  rcases h with rfl | rfl <;> decide

theorem rowEndAt_iff {hashes : List Sha256} {t : Text} :
    rowEndAt hashes t = true ↔ ∃ h ∈ hashes, ∃ d, delim d ∧ h.value ++ [d] <+: t := by
  unfold rowEndAt
  rw [List.any_eq_true]
  constructor
  · rintro ⟨h, hh, hend⟩
    rw [Bool.or_eq_true, List.isPrefixOf_iff_prefix, List.isPrefixOf_iff_prefix] at hend
    rcases hend with hend | hend
    · exact ⟨h, hh, comma, .inl rfl, hend⟩
    · exact ⟨h, hh, bar, .inr rfl, hend⟩
  · rintro ⟨h, hh, d, hd, hend⟩
    refine ⟨h, hh, ?_⟩
    rw [Bool.or_eq_true, List.isPrefixOf_iff_prefix, List.isPrefixOf_iff_prefix]
    rcases hd with rfl | rfl
    · exact .inl hend
    · exact .inr hend

/-- An id with a row and a delimiter in it has the end of a row. -/
theorem hasRowEnd_of_row {hashes : List Sha256} {d : CodePoint} {h : Sha256} (hh : h ∈ hashes)
    (hd : delim d) (u v : Text) : hasRowEnd hashes (u ++ ((h.value ++ [d]) ++ v)) = true := by
  unfold hasRowEnd
  rw [List.any_eq_true]
  exact ⟨_, (List.mem_tails _ _).mpr (List.suffix_append _ _),
    rowEndAt_iff.mpr ⟨h, hh, d, hd, List.prefix_append _ _⟩⟩

/-- A colon among the next sixty-four is no digit. -/
theorem rowEndAt_colon {hashes : List Sha256} {w v : Text} (hw : w.length < 64) :
    rowEndAt hashes (w ++ colon :: v) = false := by
  rw [← Bool.not_eq_true, rowEndAt_iff]
  rintro ⟨h, -, d, -, u, heq⟩
  have hmem : colon ∈ h.value := by
    have hget : (h.value ++ [d] ++ u)[w.length]? = some colon := by
      rw [heq, List.getElem?_append_right (Nat.le_refl _), Nat.sub_self]
      rfl
    rw [List.append_assoc, List.getElem?_append_left (by rw [h.length_eq]; exact hw)] at hget
    exact List.mem_of_getElem? hget
  exact absurd (Sha256.hex hmem) (by decide)

/-- A short heading makes no end of a row. -/
theorem hasRowEnd_heading {hashes : List Sha256} {w v : Text} (hw : w.length < 64)
    (hv : hasRowEnd hashes v = false) : hasRowEnd hashes (w ++ colon :: v) = false := by
  induction w with
  | nil =>
      unfold hasRowEnd at hv ⊢
      show (List.tails (colon :: v)).any (rowEndAt hashes) = false
      rw [List.tails_cons, List.any_cons, hv, Bool.or_false]
      exact rowEndAt_colon (w := []) hw
  | cons c w ih =>
      have hcolon := @rowEndAt_colon hashes (c :: w) v hw
      have ih := ih (Nat.lt_of_succ_lt hw)
      unfold hasRowEnd at ih ⊢
      rw [List.cons_append] at hcolon ⊢
      rw [List.tails_cons, List.any_cons, hcolon, Bool.false_or]
      exact ih

/-- A row with one of its own hashes, whose id holds none of the others with a
delimiter behind it. -/
def PlainRow (own other : List Sha256) (r : Text) : Prop :=
  ∃ id, ∃ h ∈ own, hasRowEnd other id = false ∧ r = rowText id h

variable {own other : List Sha256}

theorem PlainRow.heading {r : Text} (h : PlainRow own other r) {w : Text} (hw : w.length < 64) :
    PlainRow own other (w ++ colon :: r) := by
  obtain ⟨id, hash, hown, hplain, rfl⟩ := h
  refine ⟨w ++ colon :: id, hash, hown, hasRowEnd_heading hw hplain, ?_⟩
  unfold rowText
  rw [List.append_assoc]
  rfl

theorem PlainRow.length {r : Text} (h : PlainRow own other r) : 65 ≤ r.length := by
  obtain ⟨id, hash, -, -, rfl⟩ := h
  unfold rowText
  rw [List.length_append, List.length_cons, hash.length_eq]
  omega

/-- No row goes on over the end of one whose hash its id does not hold. -/
theorem plainRow_not_longer {r r' : Text} {d : CodePoint} (hd : delim d)
    (hr : PlainRow own other r) (hr' : PlainRow other own r') : ¬r ++ [d] <+: r' := by
  obtain ⟨id, h, hown, -, rfl⟩ := hr
  obtain ⟨id', h', -, hplain, rfl⟩ := hr'
  rintro ⟨w, heq⟩
  have hwhole : ∀ v, id' ≠ (rowText id h ++ [d]) ++ v := by
    rintro v rfl
    have hend := hasRowEnd_of_row hown hd (id ++ [colon]) v
    have htext : (rowText id h ++ [d]) ++ v = (id ++ [colon]) ++ ((h.value ++ [d]) ++ v) := by
      unfold rowText
      simp only [List.append_assoc, List.cons_append, List.nil_append]
    rw [htext, hend] at hplain
    cases hplain
  rcases List.append_eq_append_iff.mp heq with ⟨v, hv, -⟩ | ⟨v, hv, hrest⟩
  · exact hwhole v hv
  · -- the delimiter would be the colon or a digit of the other hash
    have hlast : d ∈ v := by
      rcases List.eq_nil_or_concat v with rfl | ⟨v', b, rfl⟩
      · rw [List.append_nil] at hv
        exact absurd (by rw [List.append_nil]; exact hv.symm) (hwhole [])
      · rw [List.concat_eq_append, ← List.append_assoc] at hv
        obtain ⟨rfl⟩ := List.cons.inj (List.append_inj' hv rfl).2
        rw [List.concat_eq_append]
        exact List.mem_append_right _ List.mem_cons_self
    have hmem : d ∈ colon :: h'.value := by
      rw [hrest]
      exact List.mem_append_left _ hlast
    rcases List.mem_cons.mp hmem with rfl | hmem
    · rcases hd with hd | hd <;> exact absurd hd (by decide)
    · have hhex := Sha256.hex hmem
      rw [delim_not_hex hd] at hhex
      cases hhex

theorem plainRow_apart : Records.Apart delim (PlainRow own other) (PlainRow other own) :=
  fun _ _ _ hd => ⟨plainRow_not_longer hd, plainRow_not_longer hd⟩

/-! ### One reading -/

/-- What begins with a bar follows the last row of a split. -/
theorem rest_bar (x : Text) : Records.Rest (fun c => delim c ∧ c ≠ comma) (bar :: x) :=
  Records.Rest.cons ⟨.inr rfl, by decide⟩ x

/-- `|name:` -/
def heading (name : Text) : Text := bar :: name ++ [colon]

theorem heading_append (name x : Text) : heading name ++ x = bar :: (name ++ colon :: x) := by
  unfold heading
  simp only [List.cons_append, List.append_assoc, List.nil_append]

/-- The joined rows, behind which something follows. -/
abbrev joined (rs : List Text) : Text := [comma].intercalate rs

/-- Rows before what no rows can begin are determined. -/
theorem joined_eq {rs rs' : List Text} {y y' : Text} (hrs : ∀ r ∈ rs, PlainRow own other r)
    (hrs' : ∀ r ∈ rs', PlainRow other own r) (hy : Records.Rest (fun c => delim c ∧ c ≠ comma) y)
    (hy' : Records.Rest (fun c => delim c ∧ c ≠ comma) y')
    (hno : ∀ q qs, (∀ r ∈ q :: qs, PlainRow other own r) → y ≠ joined (q :: qs) ++ y')
    (hno' : ∀ q qs, (∀ r ∈ q :: qs, PlainRow own other r) → y' ≠ joined (q :: qs) ++ y)
    (heq : joined rs ++ y = joined rs' ++ y') : rs = rs' ∧ y = y' := by
  cases rs with
  | nil =>
      cases rs' with
      | nil => exact ⟨rfl, heq⟩
      | cons q qs => exact absurd heq (hno q qs hrs')
  | cons q qs =>
      cases rs' with
      | nil => exact absurd heq.symm (hno' q qs hrs)
      | cons q' qs' =>
          exact Records.join_eq plainRow_apart (.inl rfl) (List.cons_ne_nil _ _)
            (List.cons_ne_nil _ _) hrs hrs' hy hy' heq

/-- A heading before rows is part of the first of them. -/
theorem heading_joined (name : Text) {q : Text} {qs : List Text} (hname : name.length < 60)
    (h : ∀ r ∈ q :: qs, PlainRow own other r) :
    heading name ++ joined (q :: qs) = joined ((heading name ++ q) :: qs) ∧
      ∀ r ∈ (heading name ++ q) :: qs, PlainRow own other r := by
  refine ⟨Records.append_join comma _ q qs, ?_⟩
  rw [List.forall_mem_cons] at h ⊢
  refine ⟨?_, h.2⟩
  have hplain := h.1.heading (w := bar :: name) (by rw [List.length_cons]; omega)
  rw [heading_append]
  exact hplain

theorem joined_length {q : Text} {qs : List Text} (h : ∀ r ∈ q :: qs, PlainRow own other r) :
    65 ≤ (joined (q :: qs)).length := by
  have hjoin := Records.join_cons comma q qs []
  rw [List.append_nil] at hjoin
  rw [joined, hjoin, List.length_append]
  exact Nat.le_add_right_of_le (h q List.mem_cons_self).length

/-- The test part begins with no row that the validation part could have. -/
theorem test_not_rows {t t' : List Text} {q : Text} {qs : List Text}
    (ht : ∀ r ∈ t, PlainRow own other r) (hq : ∀ r ∈ q :: qs, PlainRow other own r) :
    heading (py "test") ++ joined t ≠ joined (q :: qs) ++ (heading (py "test") ++ joined t') := by
  intro heq
  cases t with
  | nil =>
      have hlen := congrArg List.length heq
      have hrows := joined_length hq
      simp only [List.length_append] at hlen
      have hnil : (joined []).length = 0 := rfl
      omega
  | cons p ps =>
      obtain ⟨hjoin, hplain⟩ := heading_joined (py "test") (by decide) ht
      rw [hjoin, ← List.append_nil (joined _), heading_append] at heq
      obtain ⟨-, hend⟩ := Records.join_eq plainRow_apart (.inl rfl) (List.cons_ne_nil _ _)
        (List.cons_ne_nil _ _) hplain hq Records.Rest.nil (rest_bar _) heq
      cases hend

/-- The validation part begins with no row that the calibration part could have. -/
theorem validation_not_rows {v t : List Text} {y : Text} {q : Text} {qs : List Text}
    (hv : ∀ r ∈ v, PlainRow own other r) (ht : ∀ r ∈ t, PlainRow own other r)
    (hq : ∀ r ∈ q :: qs, PlainRow other own r) :
    heading (py "val") ++ (joined v ++ (heading (py "test") ++ joined t)) ≠
      joined (q :: qs) ++ (heading (py "val") ++ y) := by
  intro heq
  cases v with
  | cons p ps =>
      obtain ⟨hjoin, hplain⟩ := heading_joined (py "val") (by decide) hv
      rw [← List.append_assoc, hjoin, heading_append, heading_append] at heq
      obtain ⟨-, hend⟩ := Records.join_eq plainRow_apart (.inl rfl) (List.cons_ne_nil _ _)
        (List.cons_ne_nil _ _) hplain hq (rest_bar _) (rest_bar _) heq
      exact absurd (List.cons.inj (List.cons.inj hend).2).1 (by decide)
  | nil =>
      cases t with
      | nil =>
          have hlen := congrArg List.length heq
          have hrows := joined_length hq
          simp only [List.length_append] at hlen
          have hnil : (joined []).length = 0 := rfl
          have htest : (heading (py "test")).length = 6 := rfl
          omega
      | cons p ps =>
          obtain ⟨hjoin, hplain⟩ := heading_joined (py "test") (by decide) ht
          obtain ⟨hjoin', hplain'⟩ := heading_joined (py "val") (by decide) hplain
          have hnil : joined [] = [] := rfl
          rw [hnil, List.nil_append, hjoin, hjoin', ← List.append_nil (joined _),
            heading_append] at heq
          obtain ⟨-, hend⟩ := Records.join_eq plainRow_apart (.inl rfl) (List.cons_ne_nil _ _)
            (List.cons_ne_nil _ _) hplain' hq Records.Rest.nil (rest_bar _) heq
          cases hend

/-- The text of three parts has one reading. -/
theorem parts_eq {c v t c' v' t' : List Text} (hc : ∀ r ∈ c, PlainRow own other r)
    (hv : ∀ r ∈ v, PlainRow own other r) (ht : ∀ r ∈ t, PlainRow own other r)
    (hc' : ∀ r ∈ c', PlainRow other own r) (hv' : ∀ r ∈ v', PlainRow other own r)
    (ht' : ∀ r ∈ t', PlainRow other own r)
    (heq : joined c ++ (heading (py "val") ++ (joined v ++ (heading (py "test") ++ joined t))) =
      joined c' ++ (heading (py "val") ++ (joined v' ++ (heading (py "test") ++ joined t')))) :
    c = c' ∧ v = v' ∧ t = t' := by
  have hrest : ∀ name x, Records.Rest (fun c => delim c ∧ c ≠ comma) (heading name ++ x) := by
    intro name x
    rw [heading_append]
    exact rest_bar _
  obtain ⟨hcal, heq⟩ := joined_eq hc hc' (hrest _ _) (hrest _ _)
    (fun q qs hq => validation_not_rows hv ht hq)
    (fun q qs hq => validation_not_rows hv' ht' hq) heq
  obtain ⟨hval, heq⟩ := joined_eq hv hv' (hrest _ _) (hrest _ _)
    (fun q qs hq => test_not_rows ht hq) (fun q qs hq => test_not_rows ht' hq)
    (List.append_cancel_left heq)
  have hend : ∀ {own other : List Sha256} q qs, (∀ r ∈ q :: qs, PlainRow own other r) →
      ([] : Text) ≠ joined (q :: qs) ++ [] := by
    intro own other q qs hq hnil
    have hlen := joined_length hq
    rw [List.append_nil] at hnil
    rw [← hnil] at hlen
    exact absurd hlen (by decide)
  have heq := List.append_cancel_left heq
  rw [← List.append_nil (joined t), ← List.append_nil (joined t')] at heq
  obtain ⟨htest, -⟩ := joined_eq ht ht' Records.Rest.nil Records.Rest.nil hend hend heq
  exact ⟨hcal, hval, htest⟩

/-- The manifest text, part by part. -/
theorem manifestMaterial_eq (protocol : Text) (cal val test : List SampleRef) :
    manifestMaterial protocol cal val test =
      protocol ++ (heading (py "cal") ++ (joined (rows cal) ++
        (heading (py "val") ++ (joined (rows val) ++
          (heading (py "test") ++ joined (rows test)))))) := by
  unfold manifestMaterial part
  rw [List.intercalate_cons_cons, List.intercalate_cons_cons, List.intercalate_cons_cons,
    List.intercalate_singleton, heading_append, heading_append, heading_append]
  simp only [List.append_assoc, List.cons_append, List.nil_append]

/-- The content hashes of samples. -/
def contentHashes (items : List SampleRef) : List Sha256 := items.map (·.contentSha256)

/-- No sample id of the one tuple holds a content hash of the other with a comma or
a bar behind it. -/
def NoRowEnds (a b : List SampleRef) : Prop :=
  ∀ s ∈ a, hasRowEnd (contentHashes b) s.sampleId = false

theorem rows_plain {a b items : List SampleRef} (hsub : ∀ s ∈ items, s ∈ a) (h : NoRowEnds a b) :
    ∀ r ∈ rows items, PlainRow (contentHashes a) (contentHashes b) r := by
  intro r hr
  unfold rows at hr
  rw [List.mem_insertionSort] at hr
  obtain ⟨s, hs, rfl⟩ := List.mem_map.mp hr
  exact ⟨s.sampleId, s.contentSha256, List.mem_map_of_mem (hsub s hs), h s (hsub s hs), rfl⟩

section Manifests

variable {C} {salt protocolVersion : Text} {a b : List SampleRef} {m m' : SplitManifest}

/-- The same splits have the same text. -/
theorem material_of_sameSplits (hm : buildSplitManifest C a protocolVersion salt = .ok m)
    (hm' : buildSplitManifest C b protocolVersion salt = .ok m') (h : SameSplits m m') :
    m.material = m'.material := by
  have hnodup : ∀ {samples : List SampleRef} {m : SplitManifest},
      buildSplitManifest C samples protocolVersion salt = .ok m → ∀ n, (m.pairs n).Nodup := by
    intro samples m hm n
    have hfst : ((m.split n).map (·.sampleId)).Nodup := by
      rw [(build_ok hm).split]
      exact (build_ok hm).ids.sublist (List.filter_sublist.map _)
    unfold SplitManifest.pairs
    refine List.Nodup.of_map Prod.fst ?_
    rw [List.map_map]
    exact hfst
  have hrows : ∀ n, rows (m.split n) = rows (m'.split n) := fun n =>
    rows_perm ((List.perm_ext_iff_of_nodup (hnodup hm n) (hnodup hm' n)).mpr (h n))
  unfold SplitManifest.material
  rw [manifestMaterial_eq, manifestMaterial_eq, (build_ok hm).version, (build_ok hm').version,
    show rows m.calibration = rows m'.calibration from hrows .calibration,
    show rows m.validation = rows m'.validation from hrows .validation,
    show rows m.test = rows m'.test from hrows .test]

/-- Where no id holds the end of a row of the other tuple, the text tells the splits. -/
theorem sameSplits_of_material (hm : buildSplitManifest C a protocolVersion salt = .ok m)
    (hm' : buildSplitManifest C b protocolVersion salt = .ok m')
    (ha : NoRowEnds a b) (hb : NoRowEnds b a) (h : m.material = m'.material) :
    SameSplits m m' := by
  have hplain : ∀ {samples others : List SampleRef} {m : SplitManifest},
      buildSplitManifest C samples protocolVersion salt = .ok m → NoRowEnds samples others → ∀ n,
      ∀ r ∈ rows (m.split n), PlainRow (contentHashes samples) (contentHashes others) r := by
    intro samples others m hm hsamples n
    refine rows_plain (fun s hs => ?_) hsamples
    rw [(build_ok hm).split] at hs
    exact List.mem_of_mem_filter hs
  unfold SplitManifest.material at h
  rw [manifestMaterial_eq, manifestMaterial_eq, (build_ok hm).version, (build_ok hm').version] at h
  have h := List.append_cancel_left (List.append_cancel_left h)
  obtain ⟨hcal, hval, htest⟩ := parts_eq (hplain hm ha .calibration) (hplain hm ha .validation)
    (hplain hm ha .test) (hplain hm' hb .calibration) (hplain hm' hb .validation)
    (hplain hm' hb .test) h
  have hrows : ∀ n, rows (m.split n) = rows (m'.split n) := by
    intro n
    cases n with
    | calibration => exact hcal
    | validation => exact hval
    | test => exact htest
  intro n p
  unfold SplitManifest.pairs
  rw [← mem_rows, ← mem_rows, hrows n]

end Manifests

/-! ### Two samples as one -/

/-- The sample whose row is the rows of two. -/
def merged (s t : SampleRef) : SampleRef :=
  { t with
    sampleId := rowText s.sampleId s.contentSha256 ++ comma :: t.sampleId
    sampleId_ne := List.append_ne_nil_of_right_ne_nil _ (List.cons_ne_nil _ _) }

section Merged

variable {C} {salt protocolVersion : Text} {s t : SampleRef} {n : SplitName} {m : SplitManifest}

/-- The manifest of samples that are all in one split. -/
def oneSplit (protocolVersion : Text) (n : SplitName) (items : List SampleRef) (hash : Sha256) :
    SplitManifest where
  protocolVersion := protocolVersion
  calibration := if .calibration = n then items else []
  validation := if .validation = n then items else []
  test := if .test = n then items else []
  manifestHash := hash

/-- Two samples of one split and the one whose row is theirs have the same text. -/
theorem oneSplit_merged (hash hash' : Sha256)
    (hle : rowText s.sampleId s.contentSha256 ≤ rowText t.sampleId t.contentSha256) :
    (oneSplit protocolVersion n [s, t] hash).material =
      (oneSplit protocolVersion n [merged s t] hash').material := by
  have htwo : rows [s, t] =
      [rowText s.sampleId s.contentSha256, rowText t.sampleId t.contentSha256] := by
    unfold rows
    simp only [List.map_cons, List.map_nil, List.insertionSort_cons, List.insertionSort_nil,
      List.orderedInsert_nil, List.orderedInsert_cons]
    exact if_pos hle
  have hjoined : joined (rows [s, t]) = joined (rows [merged s t]) := by
    have hone : rows [merged s t] = [rowText (merged s t).sampleId t.contentSha256] := rfl
    rw [htwo, hone, joined, List.intercalate_cons_cons, List.intercalate_singleton, joined,
      List.intercalate_singleton]
    unfold merged rowText
    simp only [List.append_assoc, List.cons_append, List.nil_append]
  unfold SplitManifest.material
  rw [manifestMaterial_eq, manifestMaterial_eq]
  unfold oneSplit
  cases n with
  | calibration => simp only [reduceCtorEq, if_true, if_false, hjoined]
  | validation => simp only [reduceCtorEq, if_true, if_false, hjoined]
  | test => simp only [reduceCtorEq, if_true, if_false, hjoined]

/-- Distinct samples of one split fill it. -/
theorem fillBuckets_oneSplit {items : List SampleRef} {ids : List Text} {hashes : List Sha256}
    {buckets : SplitName → List SampleRef} (hids : (items.map (·.sampleId)).Nodup)
    (hnew : ∀ s ∈ items, s.sampleId ∉ ids) (hhashes : (items.map (·.contentSha256)).Nodup)
    (hnew' : ∀ s ∈ items, s.contentSha256 ∉ hashes)
    (hassign : ∀ s ∈ items, assignSplit C s.contentSha256 salt = .ok n) :
    fillBuckets C salt items ids hashes buckets =
      .ok fun k => if k = n then buckets k ++ items else buckets k := by
  induction items generalizing ids hashes buckets with
  | nil =>
      show Except.ok buckets = _
      congr 1
      funext k
      rw [List.append_nil, ite_self]
  | cons s rest ih =>
      rw [List.map_cons, List.nodup_cons] at hids hhashes
      rw [List.forall_mem_cons] at hnew hnew' hassign
      have hid : demand (!ids.contains s.sampleId) "duplicate sample id" = .ok () := by
        rw [demand_ok, Bool.not_eq_true', List.contains_eq_mem, decide_eq_false_iff_not]
        exact hnew.1
      have hhash : demand (!hashes.contains s.contentSha256) "duplicate content hash leakage" =
          .ok () := by
        rw [demand_ok, Bool.not_eq_true', List.contains_eq_mem, decide_eq_false_iff_not]
        exact hnew'.1
      unfold fillBuckets
      rw [hid, ok_bind, hhash, ok_bind, hassign.1, ok_bind,
        ih hids.2 ?_ hhashes.2 ?_ hassign.2]
      · congr 1
        funext k
        unfold addTo
        split
        · rw [List.append_assoc]
          rfl
        · rfl
      · intro t ht hmem
        rcases List.mem_cons.mp hmem with heq | hmem
        · exact hids.1 (heq ▸ List.mem_map_of_mem ht)
        · exact hnew.2 t ht hmem
      · intro t ht hmem
        rcases List.mem_cons.mp hmem with heq | hmem
        · exact hhashes.1 (heq ▸ List.mem_map_of_mem ht)
        · exact hnew'.2 t ht hmem

/-- One split alone is isolated. -/
theorem oneSplit_isolated (items : List SampleRef) (hash : Sha256) :
    assertContentIdIsolation (oneSplit protocolVersion n items hash).calibration
      (oneSplit protocolVersion n items hash).validation
      (oneSplit protocolVersion n items hash).test = .ok () := by
  have hnone : ∀ items, overlap items [] = false := by
    intro items
    unfold overlap
    rw [List.any_eq_false]
    intro s _ h
    cases h
  unfold assertContentIdIsolation oneSplit
  cases n with
  | calibration =>
      show (demand (!overlap items []) _ >>= fun _ =>
        demand (!overlap items []) _ >>= fun _ => _) = _
      rw [hnone]
      rfl
  | validation =>
      show (demand (!overlap items []) _) = _
      rw [hnone]
      rfl
  | test => rfl

/-- The manifest of distinct samples of one split. -/
theorem build_oneSplit (items : List SampleRef) (hids : (items.map (·.sampleId)).Nodup)
    (hhashes : (items.map (·.contentSha256)).Nodup)
    (hassign : ∀ s ∈ items, assignSplit C s.contentSha256 salt = .ok n)
    (hprotocol : protocolVersion ≠ []) {hash : Sha256}
    (hhash : hashText C (oneSplit protocolVersion n items hash).material = .ok hash) :
    buildSplitManifest C items protocolVersion salt =
      .ok (oneSplit protocolVersion n items hash) := by
  have hnew : demand (protocolVersion != []) "invalid split protocol" = .ok () := by
    rw [demand_ok, bne_iff_ne]
    exact hprotocol
  unfold buildSplitManifest
  rw [fillBuckets_oneSplit hids (fun _ _ => List.not_mem_nil) hhashes
    (fun _ _ => List.not_mem_nil) hassign, ok_bind]
  show (assertContentIdIsolation (oneSplit protocolVersion n items hash).calibration
      (oneSplit protocolVersion n items hash).validation
      (oneSplit protocolVersion n items hash).test >>= fun _ =>
    hashText C (oneSplit protocolVersion n items hash).material >>= fun hash' =>
    SplitManifest.new protocolVersion (oneSplit protocolVersion n items hash).calibration
      (oneSplit protocolVersion n items hash).validation
      (oneSplit protocolVersion n items hash).test hash') = _
  rw [oneSplit_isolated, ok_bind, hhash, ok_bind]
  unfold SplitManifest.new
  rw [hnew, ok_bind]
  rfl

/-- The splits of two samples and of their merged sample differ. -/
theorem oneSplit_not_same (hash hash' : Sha256) :
    ¬SameSplits (oneSplit protocolVersion n [s, t] hash)
      (oneSplit protocolVersion n [merged s t] hash') := by
  intro hsame
  have hpairs : ∀ items hash, (oneSplit protocolVersion n items hash).pairs n =
      items.map fun s => (s.sampleId, s.contentSha256) := by
    intro items hash
    unfold SplitManifest.pairs
    cases n <;> rfl
  have hmem := hsame n (s.sampleId, s.contentSha256)
  rw [hpairs, hpairs] at hmem
  have hid := congrArg (fun p => p.1.length) (List.mem_singleton.mp (hmem.mp List.mem_cons_self))
  unfold merged rowText at hid
  simp only [List.length_append, List.length_cons] at hid
  omega

/-- Two samples of one split, and the one whose row is theirs: the splits differ,
the texts do not. -/
theorem merged_collides (hm : buildSplitManifest C [s, t] protocolVersion salt = .ok m)
    (hs : assignSplit C s.contentSha256 salt = .ok n)
    (ht : assignSplit C t.contentSha256 salt = .ok n)
    (hle : rowText s.sampleId s.contentSha256 ≤ rowText t.sampleId t.contentSha256) :
    ∃ m', buildSplitManifest C [merged s t] protocolVersion salt = .ok m' ∧
      m.material = m'.material ∧ ¬SameSplits m m' := by
  have hbuilt := build_ok hm
  have hone : m = oneSplit protocolVersion n [s, t] m.manifestHash := by
    have hsplit : ∀ k, m.split k = if k = n then [s, t] else [] := by
      intro k
      rw [hbuilt.split]
      split
      · rename_i hk
        rw [List.filter_eq_self, List.forall_mem_cons, List.forall_mem_cons, hk]
        exact ⟨assigned_iff.mpr hs, assigned_iff.mpr ht, List.forall_mem_nil _⟩
      · rename_i hk
        rw [List.filter_eq_nil_iff, List.forall_mem_cons, List.forall_mem_cons, assigned_iff,
          assigned_iff, hs, ht]
        have hne : ¬(Except.ok n : Except Fault SplitName) = .ok k := fun h => hk (by cases h; rfl)
        exact ⟨hne, hne, List.forall_mem_nil _⟩
    have hcal := hsplit .calibration
    have hval := hsplit .validation
    have htest := hsplit .test
    have hversion := hbuilt.version
    cases m with
    | mk version cal val test hash =>
        unfold SplitManifest.split at hcal hval htest
        unfold oneSplit
        simp only at hcal hval htest hversion
        rw [← hcal, ← hval, ← htest, hversion]
  have htext : m.material = (oneSplit protocolVersion n [merged s t] m.manifestHash).material := by
    rw [hone]
    exact oneSplit_merged _ _ hle
  refine ⟨oneSplit protocolVersion n [merged s t] m.manifestHash, ?_, htext, ?_⟩
  · refine build_oneSplit [merged s t] (List.nodup_singleton _)
      (List.nodup_singleton _) ?_ ?_ ?_
    · rw [List.forall_mem_cons]
      exact ⟨ht, List.forall_mem_nil _⟩
    · exact hbuilt.version_ne
    · rw [← htext]
      exact hbuilt.hash
  · rw [hone]
    exact oneSplit_not_same _ _

end Merged

end Calibration

open Calibration in
/-- The manifest hash and the splits.  Every sample is in exactly one split; the
same splits have the same text; where no sample id holds the end of a row of the
other tuple, the text tells the splits; where an id is a row, a comma and an id, it does not. -/
theorem split_manifest_commits (C : Codec) (protocolVersion salt : Text) :
    (∀ samples m, buildSplitManifest C samples protocolVersion salt = .ok m →
      (m.calibration ++ (m.validation ++ m.test)).Perm samples ∧
      (samples.map (·.sampleId)).Nodup ∧
      ∀ n s, s ∈ m.split n ↔ s ∈ samples ∧ assignSplit C s.contentSha256 salt = .ok n) ∧
    (∀ a b m m', buildSplitManifest C a protocolVersion salt = .ok m →
      buildSplitManifest C b protocolVersion salt = .ok m' →
      (SameSplits m m' → m.material = m'.material) ∧
      (NoRowEnds a b → NoRowEnds b a → (m.material = m'.material ↔ SameSplits m m'))) ∧
    ∀ s t m n, buildSplitManifest C [s, t] protocolVersion salt = .ok m →
      assignSplit C s.contentSha256 salt = .ok n → assignSplit C t.contentSha256 salt = .ok n →
      rowText s.sampleId s.contentSha256 ≤ rowText t.sampleId t.contentSha256 →
      ∃ m', buildSplitManifest C [merged s t] protocolVersion salt = .ok m' ∧
        m.material = m'.material ∧ ¬SameSplits m m' := by
  refine ⟨fun samples m hm => ?_, fun a b m m' hm hm' => ⟨?_, fun ha hb => ⟨?_, ?_⟩⟩,
    fun s t m n hm hs ht hle => merged_collides hm hs ht hle⟩
  · have hbuilt := build_ok hm
    refine ⟨?_, hbuilt.ids, fun n s => ?_⟩
    · rw [show m.calibration = _ from hbuilt.split .calibration,
        show m.validation = _ from hbuilt.split .validation,
        show m.test = _ from hbuilt.split .test]
      exact filters_perm hbuilt.assigned
    · rw [hbuilt.split, List.mem_filter, assigned_iff]
  · exact material_of_sameSplits hm hm'
  · exact sameSplits_of_material hm hm' ha hb
  · exact material_of_sameSplits hm hm'

namespace TwoFrames

open Calibration

def frame (sampleId : Text) (hash : Sha256) (h : sampleId ≠ []) : SampleRef :=
  ⟨sampleId, hash, py "ink", py "harbour", true, h, by decide, by decide⟩

def first : SampleRef := frame (py "a") sampleHash (by decide)

def second : SampleRef := frame (py "b") otherHash (by decide)

def protocol : Text := py "split-v1"

def salt : Text := py "lookfile-split-v1"

theorem both_calibration :
    assigned Codec.standard salt .calibration first = true ∧
      assigned Codec.standard salt .calibration second = true := by
  refine ⟨?_, ?_⟩
  · decide +kernel
  · decide +kernel

theorem all_calibration {items : List SampleRef} (h : ∀ s ∈ items, s = first ∨ s = second) :
    ∀ s ∈ items, assignSplit Codec.standard s.contentSha256 salt = .ok .calibration := by
  intro s hs
  rcases h s hs with rfl | rfl
  · exact assigned_iff.mp both_calibration.1
  · exact assigned_iff.mp both_calibration.2

/-- Frames whose text can be encoded are accepted. -/
theorem accepted {items : List SampleRef} (h : ∀ s ∈ items, s = first ∨ s = second)
    (hids : (items.map (·.sampleId)).Nodup) (hhashes : (items.map (·.contentSha256)).Nodup)
    (hscalar : hasSurrogate (manifestMaterial protocol items [] []) = false) :
    ∃ m, buildSplitManifest Codec.standard items protocol salt = .ok m := by
  have hhash : hashText Codec.standard (manifestMaterial protocol items [] []) =
      .ok (Codec.standard.hashBytes
        ((manifestMaterial protocol items [] []).flatMap utf8Char)) := by
    unfold hashText
    rw [encodeUtf8_of_scalar hscalar]
  exact ⟨_, build_oneSplit items hids hhashes (all_calibration h) (by decide) hhash⟩

theorem two_accepted :
    ∃ m, buildSplitManifest Codec.standard [first, second] protocol salt = .ok m := by
  apply accepted _ (by decide) (by decide)
  · decide +kernel
  · intro s hs
    simpa using hs

theorem one_accepted : ∃ m, buildSplitManifest Codec.standard [second] protocol salt = .ok m := by
  apply accepted _ (by decide) (by decide)
  · decide +kernel
  · intro s hs
    exact .inr (List.mem_singleton.mp hs)

end TwoFrames

open Calibration TwoFrames in
/-- The frames `a` and `b`, and one frame whose id is the row of `a`, a comma and `b`. -/
theorem frames_share_text :
    ∃ m m', buildSplitManifest Codec.standard [first, second] protocol salt = .ok m ∧
      buildSplitManifest Codec.standard [merged first second] protocol salt = .ok m' ∧
      m.material = m'.material ∧ ¬SameSplits m m' := by
  obtain ⟨m, hm⟩ := two_accepted
  obtain ⟨m', hm', htext, hdiffer⟩ := merged_collides hm (assigned_iff.mp both_calibration.1)
    (assigned_iff.mp both_calibration.2) (by decide)
  exact ⟨m, m', hm, hm', htext, hdiffer⟩

open Calibration TwoFrames in
/-- Two frames, and one of them: no id holds a hash, so the texts tell them apart. -/
theorem split_manifest_commits_frames :
    ∃ m m', buildSplitManifest Codec.standard [first, second] protocol salt = .ok m ∧
      buildSplitManifest Codec.standard [second] protocol salt = .ok m' ∧
      (m.material = m'.material ↔ SameSplits m m') := by
  obtain ⟨m, hm⟩ := two_accepted
  obtain ⟨m', hm'⟩ := one_accepted
  exact ⟨m, m', hm, hm', ((split_manifest_commits Codec.standard protocol salt).2.1 _ _ m m' hm
    hm').2 (by unfold NoRowEnds; decide) (by unfold NoRowEnds; decide)⟩

end SpecStyle
