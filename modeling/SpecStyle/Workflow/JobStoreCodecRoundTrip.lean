/-
SpecStyle/Workflow/JobStoreCodecRoundTrip.lean

Decoding inverts encoding, wherever encoding succeeds.

The decoder reads an object by its keys, so it reads from the canonical text,
whose keys are in order, what it reads from the primitive itself
(`eventFromPrimitive_sortKeys`, `snapshotFromPrimitive_sortKeys`); and from
the primitive it reads the value (`eventFromPrimitive_toPrimitive`,
`snapshotFromPrimitive_toPrimitive`).  The canonical text has no control
character, so a line ends exactly where its event does.

Every text of a snapshot is ASCII, and of an event every text but the free
reason.  `_safe_text` admits a lone surrogate there, which the strict UTF-8
encoder refuses: an event is encoded exactly when its reason holds none
(`encodeEvent_iff`), and that is the whole condition of the round trip
(`codec_roundtrip_iff`).
-/
import SpecStyle.Workflow.JobStoreCodec

namespace SpecStyle

open PyLib Json

/-! ### Reading sees nothing of the order of keys -/

/-- The fields as the canonical text orders them. -/
def canonicalFields (fs : Fields) : Fields := orderFields (sortFields fs)

theorem bind_map_congr {α β γ : Type} {x : Except Raised α} {f : α → β}
    {g : β → Except Raised γ} {h : α → Except Raised γ}
    (hgh : ∀ a, x = .ok a → g (f a) = h a) : (f <$> x) >>= g = x >>= h := by
  cases x with
  | error e => rfl
  | ok a => exact hgh a rfl

theorem bind_congr_ok {α γ : Type} {x : Except Raised α} {g h : α → Except Raised γ}
    (hgh : ∀ a, x = .ok a → g a = h a) : x >>= g = x >>= h := by
  cases x with
  | error e => rfl
  | ok a => exact hgh a rfl

theorem exactKeys_obj {v : Json} {keys : List Text} {data : Fields}
    (h : exactKeys v keys = .ok data) : v = .obj data := by
  unfold exactKeys at h
  cases v with
  | obj fields =>
    simp only at h
    split at h
    · rw [Except.ok.inj h]
    · cases h
  | _ => cases h

theorem exactKeys_sortKeys (v : Json) (keys : List Text) :
    exactKeys (sortKeys v) keys = canonicalFields <$> exactKeys v keys := by
  cases v with
  | obj fields =>
    have hp := sortKeys_keys fields
    simp only [sortKeys, exactKeys, hp.mem_iff]
    split <;> rfl
  | _ => rfl

theorem getField_eq {fs : Fields} {k : Text} {v : Json} :
    getField fs k = .ok v ↔ field fs k = some v := by
  unfold getField
  cases field fs k <;> simp

section Canonical

variable {fs : Fields} (hk : (fs.map Prod.fst).Nodup)
include hk

theorem getField_canonical (k : Text) :
    getField (canonicalFields fs) k = sortKeys <$> getField fs k := by
  unfold getField canonicalFields
  rw [field_sortKeys hk]
  cases field fs k <;> rfl

theorem strValue_canonical (k : Text) : strValue (canonicalFields fs) k = strValue fs k := by
  unfold strValue
  rw [getField_canonical hk]
  exact bind_map_congr fun v _ => by cases v <;> rfl

theorem intValue_canonical (k : Text) : intValue (canonicalFields fs) k = intValue fs k := by
  unfold intValue
  rw [getField_canonical hk]
  exact bind_map_congr fun v _ => by cases v <;> rfl

theorem idValue_canonical (k : Text) (kind : IdKind) :
    idValue (canonicalFields fs) k kind = idValue fs k kind := by
  unfold idValue
  rw [strValue_canonical hk]

theorem shaValue_canonical (k : Text) : shaValue (canonicalFields fs) k = shaValue fs k := by
  unfold shaValue
  rw [strValue_canonical hk]

theorem enumValue_canonical {α : Type} (k : Text) (all : List α) (value : α → Text) :
    enumValue (canonicalFields fs) k all value = enumValue fs k all value := by
  unfold enumValue
  rw [strValue_canonical hk]

theorem optIdValue_canonical (k : Text) (kind : IdKind) (v : Json) :
    optIdValue (canonicalFields fs) k kind (sortKeys v) = optIdValue fs k kind v := by
  cases v <;> simp only [sortKeys, optIdValue, idValue_canonical hk]

theorem optStopReason_canonical (k : Text) (v : Json) :
    optStopReason (canonicalFields fs) k (sortKeys v) = optStopReason fs k v := by
  cases v <;> simp only [sortKeys, optStopReason, enumValue_canonical hk]

end Canonical

theorem strList_sortKeys (v : Json) (name : String) :
    strList (sortKeys v) name = strList v name := by
  cases v with
  | arr items =>
    have hs : ∀ items : List Json, (sortItems items).mapM (fun item => (strOf item).toOption)
        = items.mapM fun item => (strOf item).toOption := by
      intro items
      induction items with
      | nil => rfl
      | cons w ws ih =>
        have hw : strOf (sortKeys w) = strOf w := by cases w <;> rfl
        rw [sortItems, List.mapM_cons, List.mapM_cons, ih, hw]
    simp only [sortKeys, strList, hs]
  | _ => rfl

/-- The object under a key, read with its own keys. -/
theorem exactKeys_getField_canonical {α : Type} {fs : Fields} (hk : (fs.map Prod.fst).Nodup)
    (hf : ExactFields false fs) (k : Text) (keys : List Text) {g h : Fields → Except Raised α}
    (hgh : ∀ d, (d.map Prod.fst).Nodup → ExactFields false d → g (canonicalFields d) = h d) :
    (getField (canonicalFields fs) k >>= fun v => exactKeys v keys >>= g)
      = getField fs k >>= fun v => exactKeys v keys >>= h := by
  rw [getField_canonical hk]
  refine bind_map_congr fun v hv => ?_
  rw [exactKeys_sortKeys]
  refine bind_map_congr fun d hd => ?_
  have hex := exact_of_field hf (getField_eq.mp hv)
  rw [exactKeys_obj hd] at hex
  exact hgh d hex.1 hex.2

theorem strList_getField_canonical {α : Type} {fs : Fields} (hk : (fs.map Prod.fst).Nodup)
    (k : Text) (name : String) (g : List Text → Except Raised α) :
    (getField (canonicalFields fs) k >>= fun v => strList v name >>= g)
      = getField fs k >>= fun v => strList v name >>= g := by
  rw [getField_canonical hk]
  exact bind_map_congr fun v _ => by rw [strList_sortKeys]

theorem jobFromPrimitive_sortKeys {v : Json} (hv : Exact false v) :
    jobFromPrimitive (sortKeys v) = jobFromPrimitive v := by
  unfold jobFromPrimitive
  rw [exactKeys_sortKeys]
  refine bind_map_congr fun data hdata => ?_
  rw [exactKeys_obj hdata] at hv
  refine exactKeys_getField_canonical hv.1 hv.2 _ _ fun budget hb _ => ?_
  simp only [idValue_canonical hv.1, shaValue_canonical hv.1, strList_getField_canonical hv.1,
    strValue_canonical hv.1, intValue_canonical hb]

theorem snapshotFromPrimitive_sortKeys {v : Json} (hv : Exact false v) :
    snapshotFromPrimitive (sortKeys v) = snapshotFromPrimitive v := by
  unfold snapshotFromPrimitive
  rw [exactKeys_sortKeys]
  refine bind_map_congr fun data hdata => ?_
  rw [exactKeys_obj hdata] at hv
  have hver : ∀ w, isSnapshotVersion (sortKeys w) = isSnapshotVersion w := fun w => by
    cases w <;> rfl
  simp only [intValue_canonical hv.1, strList_getField_canonical hv.1]
  rw [getField_canonical hv.1, getField_canonical hv.1]
  refine bind_map_congr fun w _ => ?_
  rw [hver]
  split
  · rfl
  · refine bind_map_congr fun j hj => ?_
    rw [jobFromPrimitive_sortKeys (exact_of_field hv.2 (getField_eq.mp hj))]

theorem payloadBuilders_canonical {fs : Fields} (hk : (fs.map Prod.fst).Nodup)
    (hf : ExactFields false fs) (k : EventType) :
    payloadBuilders (canonicalFields fs) k = payloadBuilders fs k := by
  cases k with
  | jobStarted =>
    refine exactKeys_getField_canonical hk hf _ _ fun budget hb _ => ?_
    simp only [shaValue_canonical hk, strList_getField_canonical hk, intValue_canonical hb]
  | attemptStarted =>
    simp only [payloadBuilders, getField_canonical hk]
    refine bind_map_congr fun v _ => ?_
    simp only [intValue_canonical hk, idValue_canonical hk, optIdValue_canonical hk]
  | verifierFinished =>
    simp only [payloadBuilders, getField_canonical hk]
    refine bind_map_congr fun v _ => ?_
    simp only [intValue_canonical hk, idValue_canonical hk, enumValue_canonical hk,
      optStopReason_canonical hk]
  | _ =>
    simp only [payloadBuilders, intValue_canonical hk, idValue_canonical hk,
      shaValue_canonical hk, strValue_canonical hk]

/-- **The decoder reads from the canonical text what it reads from the
primitive.** -/
theorem eventFromPrimitive_sortKeys {v : Json} (hv : Exact false v) :
    eventFromPrimitive (sortKeys v) = eventFromPrimitive v := by
  unfold eventFromPrimitive
  rw [exactKeys_sortKeys]
  refine bind_map_congr fun data hdata => ?_
  rw [exactKeys_obj hdata] at hv
  rw [enumValue_canonical hv.1]
  refine bind_congr_ok fun k _ => exactKeys_getField_canonical hv.1 hv.2 _ _ fun p hp hpf => ?_
  simp only [intValue_canonical hv.1, idValue_canonical hv.1, enumValue_canonical hv.1,
    strValue_canonical hv.1, payloadBuilders_canonical hp hpf]

/-! ### Reading a primitive -/

theorem exactKeys_self {fs : Fields} {keys : List Text} (h : fs.map Prod.fst = keys) :
    exactKeys (.obj fs) keys = .ok fs := by
  subst h
  exact if_pos ⟨fun _ h => h, fun _ h => h⟩

@[simp] theorem strList_strs (ts : List Text) (name : String) :
    strList (.arr (ts.map .str)) name = .ok ts := by
  have hm : (ts.map Json.str).mapM (fun item => (strOf item).toOption) = some ts := by
    induction ts with
    | nil => rfl
    | cons t ts ih =>
      rw [List.map_cons, List.mapM_cons, ih]
      rfl
  simp only [strList, hm]

@[simp] theorem strList_profiles (p : CohortProfiles) (name : String) :
    strList (profilesToPrimitive p) name = .ok p.texts :=
  strList_strs _ _

@[simp] theorem strList_values {α : Type} (value : α → Text) (as : List α) (name : String) :
    strList (.arr (as.map fun a => .str (value a))) name = .ok (as.map value) := by
  rw [← strList_strs (as.map value) name, List.map_map]
  rfl

@[simp] theorem mapM_idNew {kind : IdKind} (as : List (Id kind)) :
    as.mapM (Id.new kind ∘ Id.value) = .ok as := by
  induction as with
  | nil => rfl
  | cons a as ih =>
    rw [List.mapM_cons, Function.comp, Id.new_value, ih]
    rfl

@[simp] theorem jobFromPrimitive_toPrimitive (job : Job) :
    jobFromPrimitive (jobToPrimitive job) = .ok job := by
  simp +decide [jobFromPrimitive, jobToPrimitive, jobKeys, budgetToPrimitive, exactKeys, getField,
    field_cons, idValue, shaValue, strValue, intValue, strOf, intOf, bind, Except.bind]

@[simp] theorem snapshotFromPrimitive_toPrimitive (s : JobSnapshot) :
    snapshotFromPrimitive (snapshotToPrimitive s) = .ok s := by
  simp +decide [snapshotFromPrimitive, snapshotToPrimitive, snapshotKeys, exactKeys, getField,
    field_cons, intValue, intOf, bind, Except.bind]

/-- Each payload class is read back under the keys of its event type. -/
theorem payload_fromPrimitive (p : Payload) :
    ∃ data, exactKeys (payloadToPrimitive p) (payloadKeys p.eventType) = .ok data ∧
      payloadBuilders data p.eventType = .ok p := by
  cases p with
  | attemptStarted _ _ _ parent =>
    refine ⟨_, rfl, ?_⟩
    cases parent <;>
      simp +decide [payloadBuilders, Payload.eventType, getField, field_cons, optStr, optIdValue,
        idValue, strValue, intValue, strOf, intOf, bind, Except.bind, pure, Except.pure]
  | verifierFinished _ _ _ _ _ stop =>
    refine ⟨_, rfl, ?_⟩
    cases stop <;>
      simp +decide [payloadBuilders, Payload.eventType, getField, field_cons, optStr,
        optStopReason, idValue, enumValue, strValue, intValue, strOf, intOf, bind, Except.bind,
        pure, Except.pure]
  | _ =>
    refine ⟨_, rfl, ?_⟩
    simp +decide [payloadBuilders, Payload.eventType, budgetToPrimitive, exactKeys, getField,
      field_cons, idValue, shaValue, strValue, intValue, strOf, intOf, bind, Except.bind, pure,
      Except.pure]

/-- **The decoder reads an event from its primitive.** -/
@[simp] theorem eventFromPrimitive_toPrimitive (e : Event) :
    eventFromPrimitive (eventToPrimitive e) = .ok e := by
  obtain ⟨data, hkeys, hbuild⟩ := payload_fromPrimitive e.payload
  change exactKeys (payloadToPrimitive e.payload) (payloadKeys e.eventType) = .ok data at hkeys
  change payloadBuilders data e.eventType = .ok e.payload at hbuild
  unfold eventFromPrimitive
  rw [show exactKeys (eventToPrimitive e) eventKeys = .ok _ from exactKeys_self rfl]
  simp +decide [getField, field_cons, hkeys, hbuild, enumValue, idValue, strValue, intValue, strOf,
    intOf, bind, Except.bind]

/-! ### Texts without surrogates -/

theorem hasSurrogate_bundleName (b : BundleName) : hasSurrogate b.value = false :=
  hasSurrogate_id (⟨b.value, b.valid⟩ : Identifier)

@[simp] theorem hasSurrogate_timestamp (t : Timestamp) : hasSurrogate t.value = false := by
  refine hasSurrogate_of_ascii fun c hc => ?_
  have hv := t.valid
  simp only [isTimestamp, Bool.and_eq_true, beq_iff_eq, List.all_eq_true] at hv
  obtain ⟨i, hi, rfl⟩ := List.mem_iff_getElem.mp hc
  have hj : i < timestampPattern.length := hv.1 ▸ hi
  have hz := hv.2 (t.value[i], timestampPattern[i]) (by
    rw [List.mem_iff_getElem]
    exact ⟨i, by simp [hj, hi], by simp⟩)
  have hp : timestampPattern.all (fun d => d.val < 0x80) = true := by decide
  simp only at hz
  split at hz
  · unfold isDigit at hz
    simp at hz
    omega
  · rw [of_decide_eq_true hz]
    exact of_decide_eq_true (List.all_eq_true.mp hp _ (List.getElem_mem _))

@[simp] theorem hasSurrogate_outputProfile (a : OutputProfile) : hasSurrogate a.value = false := by
  cases a <;> decide

@[simp] theorem hasSurrogate_jobStatus (a : JobStatus) : hasSurrogate a.value = false := by
  cases a <;> decide

@[simp] theorem hasSurrogate_eventType (a : EventType) : hasSurrogate a.value = false := by
  cases a <;> decide

@[simp] theorem hasSurrogate_artifactStatus (a : ArtifactStatus) :
    hasSurrogate a.value = false := by
  cases a <;> decide

@[simp] theorem hasSurrogate_decisionReason (a : DecisionReason) :
    hasSurrogate a.value = false := by
  cases a <;> decide

@[simp] theorem hasSurrogate_repairStopReason (a : RepairStopReason) :
    hasSurrogate a.value = false := by
  cases a <;> decide

@[simp] theorem hasSurrogate_fatalFamily (a : FatalErrorFamily) : hasSurrogate a.value = false := by
  cases a <;> decide

theorem surrogatesItems_values {α : Type} (value : α → Text)
    (h : ∀ a, hasSurrogate (value a) = false) (as : List α) :
    surrogatesItems (as.map fun a => .str (value a)) = false := by
  induction as with
  | nil => rfl
  | cons a as ih => simp [surrogatesItems, surrogates, h, ih]

theorem surrogates_profiles (p : CohortProfiles) :
    surrogates (profilesToPrimitive p) = false := by
  have h := surrogatesItems_values OutputProfile.value hasSurrogate_outputProfile p.value
  unfold profilesToPrimitive CohortProfiles.texts
  rw [List.map_map]
  exact h

/-- The free text of a payload. -/
def Payload.reason : Payload → Option SafeText
  | .recoverable reason => some reason
  | .cancelRequested reason => some reason
  | .fatal _ reason => some reason
  | _ => none

/-- No surrogate in the free text. -/
def Payload.Scalar (p : Payload) : Prop := ∀ r ∈ p.reason, hasSurrogate r.value = false

theorem surrogates_job (job : Job) : surrogates (jobToPrimitive job) = false := by
  simp +decide [jobToPrimitive, budgetToPrimitive, surrogates, surrogatesFields,
    surrogates_profiles]

theorem surrogates_snapshot (s : JobSnapshot) : surrogates (snapshotToPrimitive s) = false := by
  simp +decide [snapshotToPrimitive, surrogates, surrogatesFields, surrogates_job,
    surrogatesItems_values Id.value hasSurrogate_id,
    surrogatesItems_values BundleName.value hasSurrogate_bundleName]

/-- Only the free text of a payload may hold a surrogate. -/
theorem surrogates_payload (p : Payload) :
    surrogates (payloadToPrimitive p) = false ↔ p.Scalar := by
  cases p with
  | attemptStarted _ _ _ parent =>
    cases parent <;>
      simp +decide [payloadToPrimitive, Payload.Scalar, Payload.reason, optStr, surrogates,
        surrogatesFields]
  | verifierFinished _ _ _ _ _ stop =>
    cases stop <;>
      simp +decide [payloadToPrimitive, Payload.Scalar, Payload.reason, optStr, surrogates,
        surrogatesFields]
  | _ =>
    simp +decide [payloadToPrimitive, Payload.Scalar, Payload.reason, budgetToPrimitive,
      surrogates, surrogatesFields, surrogates_profiles, hasSurrogate_bundleName]

theorem surrogates_event (e : Event) :
    surrogates (eventToPrimitive e) = false ↔ e.payload.Scalar := by
  rw [← surrogates_payload]
  simp +decide [eventToPrimitive, surrogates, surrogatesFields]

/-! ### Exact primitives -/

theorem exactItems_values {α : Type} (value : α → Text) (as : List α) :
    ExactItems false (as.map fun a => .str (value a)) := by
  rw [exactItems_iff]
  intro v hv
  obtain ⟨a, -, rfl⟩ := List.mem_map.mp hv
  exact fun h => absurd h (by decide)

theorem exact_profiles (p : CohortProfiles) : Exact false (profilesToPrimitive p) := by
  have h := exactItems_values OutputProfile.value p.value
  unfold profilesToPrimitive CohortProfiles.texts
  rw [List.map_map]
  exact h

theorem exact_job (job : Job) : Exact false (jobToPrimitive job) := by
  simp +decide [jobToPrimitive, budgetToPrimitive, Exact, ExactFields, exact_profiles]

theorem exact_snapshot (s : JobSnapshot) : Exact false (snapshotToPrimitive s) := by
  simp +decide [snapshotToPrimitive, Exact, ExactFields, exact_job,
    exactItems_values Id.value, exactItems_values BundleName.value]

theorem exact_payload (p : Payload) : Exact false (payloadToPrimitive p) := by
  cases p with
  | attemptStarted _ _ _ parent =>
    cases parent <;> simp +decide [payloadToPrimitive, optStr, Exact, ExactFields]
  | verifierFinished _ _ _ _ _ stop =>
    cases stop <;> simp +decide [payloadToPrimitive, optStr, Exact, ExactFields]
  | _ =>
    simp +decide [payloadToPrimitive, budgetToPrimitive, Exact, ExactFields, exact_profiles]

theorem exact_event (e : Event) : Exact false (eventToPrimitive e) := by
  simp +decide [eventToPrimitive, Exact, ExactFields, exact_payload]

/-! ### Bytes -/

theorem canonicalJson_ok {v : Json} (hv : Exact false v) (hs : surrogates v = false) :
    canonicalJson v = .ok ((dumps false v).flatMap utf8Char) := by
  unfold canonicalJson
  rw [encodeUtf8_of_scalar (by rw [hasSurrogate_dumps hv, hs])]

theorem canonicalJson_error {v : Json} (hv : Exact false v) (hs : surrogates v = true) :
    canonicalJson v = .error .unicodeEncode := by
  unfold canonicalJson
  rw [(encodeUtf8_eq_none_iff _).mpr (by rw [hasSurrogate_dumps hv, hs])]

/-- The canonical bytes of an object are parsed back to it. -/
theorem parseJson_canonical {fs : Fields} (hne : fs ≠ []) (hv : Exact false (.obj fs)) :
    parseJson ((dumps false (.obj fs)).flatMap utf8Char) = .ok (.obj (canonicalFields fs)) := by
  unfold parseJson
  rw [loadsBytes_dumps hne hv]
  rfl

/-- The canonical bytes hold no line end. -/
theorem canonical_noBreak {v : Json} (hv : Exact false v) {b : Byte}
    (hb : b ∈ (dumps false v).flatMap utf8Char) : isBreak b = false := by
  obtain ⟨c, hc, hbc⟩ := List.mem_flatMap.mp hb
  have hp := (mem_dumps hv.joined hc).1
  by_contra h
  rcases isBreak_iff.mp (Bool.eq_true_of_not_eq_false h) with rfl | rfl
  · have := mem_utf8Char_ascii hbc (by decide)
    rw [← this] at hp
    exact absurd hp (by decide)
  · have := mem_utf8Char_ascii hbc (by decide)
    rw [← this] at hp
    exact absurd hp (by decide)

/-- **Snapshots round-trip.** -/
theorem decodeSnapshot_encodeSnapshot (s : JobSnapshot) :
    ∃ data, encodeSnapshot s = .ok data ∧ decodeSnapshot data = .ok s := by
  have hv := exact_snapshot s
  have hs := snapshotFromPrimitive_sortKeys hv
  have hp : parseJson ((dumps false (snapshotToPrimitive s)).flatMap utf8Char)
      = .ok (sortKeys (snapshotToPrimitive s)) :=
    parseJson_canonical (List.cons_ne_nil _ _) hv
  refine ⟨_, canonicalJson_ok hv (surrogates_snapshot s), ?_⟩
  unfold decodeSnapshot
  rw [hp]
  exact hs.trans (snapshotFromPrimitive_toPrimitive s)

/-- The line of an event, without its line end. -/
def eventLine (e : Event) : Bytes := (dumps false (eventToPrimitive e)).flatMap utf8Char

theorem encodeEvent_scalar {e : Event} (he : e.payload.Scalar) :
    encodeEvent e = .ok (eventLine e ++ [newline]) := by
  unfold encodeEvent
  rw [canonicalJson_ok (exact_event e) ((surrogates_event e).mpr he)]
  rfl

/-- A surrogate in the free text stops the encoder. -/
theorem encodeEvent_surrogate {e : Event} (he : ¬ e.payload.Scalar) :
    encodeEvent e = .error .unicodeEncode := by
  have hs : surrogates (eventToPrimitive e) = true := by
    rw [← surrogates_event e] at he
    simpa using he
  unfold encodeEvent
  rw [canonicalJson_error (exact_event e) hs]
  rfl

theorem encodeEvent_iff (e : Event) : (∃ data, encodeEvent e = .ok data) ↔ e.payload.Scalar := by
  constructor
  · rintro ⟨data, h⟩
    by_contra he
    rw [encodeEvent_surrogate he] at h
    cases h
  · exact fun he => ⟨_, encodeEvent_scalar he⟩

/-- The line of an event is decoded to it. -/
theorem decodeLine_eventLine {jobId : JobId} {e : Event} (hj : e.jobId = jobId) :
    decodeLine jobId (eventLine e) = .ok e := by
  have hv := exact_event e
  have hs := eventFromPrimitive_sortKeys hv
  rw [eventFromPrimitive_toPrimitive] at hs
  have hp : parseJson (eventLine e) = .ok (sortKeys (eventToPrimitive e)) :=
    parseJson_canonical (List.cons_ne_nil _ _) hv
  have hne : eventLine e ≠ [] := by
    intro h
    rw [h] at hp
    revert hp
    exact fun hp => by cases hp
  unfold decodeLine
  rw [if_neg hne, hp]
  change (do
    let event ← eventFromPrimitive (sortKeys (eventToPrimitive e))
    if event.jobId ≠ jobId then throw (.domain "invalid job event")
    return event : Except Raised Event) = _
  rw [hs]
  exact if_neg (not_not.mpr hj)

theorem eventLine_noBreak (e : Event) : ∀ b ∈ eventLine e, isBreak b = false :=
  fun _ hb => canonical_noBreak (exact_event e) hb

/-! ### Logs -/

/-- The concatenation of the encoded events. -/
def encodeEvents (events : List Event) : Except Raised Bytes :=
  List.flatten <$> events.mapM encodeEvent

/-- The bytes of a log whose reasons hold no surrogate. -/
def logBytes (events : List Event) : Bytes := events.flatMap fun e => eventLine e ++ [newline]

theorem encodeEvents_scalar {es : List Event} (hs : ∀ e ∈ es, e.payload.Scalar) :
    encodeEvents es = .ok (logBytes es) := by
  have hm : es.mapM encodeEvent = .ok (es.map fun e => eventLine e ++ [newline]) := by
    induction es with
    | nil => rfl
    | cons e es ih =>
      rw [List.mapM_cons, encodeEvent_scalar (hs e (by simp)), ih fun x hx => hs x (by simp [hx])]
      rfl
  unfold encodeEvents logBytes
  rw [hm, List.flatMap_def]
  rfl

theorem encodeEvents_ok {es : List Event} {data : Bytes} (h : encodeEvents es = .ok data) :
    ∀ e ∈ es, e.payload.Scalar := by
  unfold encodeEvents at h
  induction es generalizing data with
  | nil => simp
  | cons e es ih =>
    rw [List.mapM_cons] at h
    rcases he : encodeEvent e with r | d
    · rw [he] at h
      cases h
    rcases hes : es.mapM encodeEvent with r | ds
    · rw [he, hes] at h
      cases h
    rw [hes] at ih
    intro x hx
    rcases List.mem_cons.mp hx with rfl | hx
    · exact (encodeEvent_iff x).mp ⟨d, he⟩
    · exact ih rfl x hx

/-- The lines of a log are the lines of its events. -/
theorem splitLines_logBytes (es : List Event) : splitLines (logBytes es) = es.map eventLine := by
  induction es with
  | nil => rfl
  | cons e es ih =>
    unfold logBytes at ih ⊢
    rw [List.flatMap_cons, List.append_assoc, List.singleton_append,
      splitLines_line (eventLine_noBreak e), ih, List.map_cons]

theorem logBytes_getLast (es : List Event) :
    logBytes es = [] ∨ (logBytes es).getLast? = some newline := by
  unfold logBytes
  induction es with
  | nil => exact .inl rfl
  | cons e es ih =>
    right
    rw [List.flatMap_cons]
    rcases ih with ih | ih
    · rw [ih]
      simp
    · rw [List.getLast?_append, ih]
      rfl

/-- **A log is decoded to its events**, in order, none split, merged or
dropped. -/
theorem decodeEvents_logBytes {jobId : JobId} {es : List Event} (hj : ∀ e ∈ es, e.jobId = jobId) :
    decodeEvents jobId (logBytes es) = .ok es := by
  have hend : ¬ (logBytes es ≠ [] ∧ (logBytes es).getLast? ≠ some newline) := fun h =>
    (logBytes_getLast es).elim h.1 h.2
  unfold decodeEvents
  rw [if_neg hend, splitLines_logBytes]
  clear hend
  induction es with
  | nil => rfl
  | cons e es ih =>
    rw [List.map_cons, List.mapM_cons, decodeLine_eventLine (hj e (by simp)),
      ih fun x hx => hj x (by simp [hx])]
    rfl

/-- Encoding the log and decoding it gives the log back. -/
def RoundTrips (jobId : JobId) (events : List Event) : Prop :=
  ∃ data, encodeEvents events = .ok data ∧ decodeEvents jobId data = .ok events

theorem roundTrips_iff {jobId : JobId} {es : List Event} (hj : ∀ e ∈ es, e.jobId = jobId) :
    RoundTrips jobId es ↔ ∀ e ∈ es, e.payload.Scalar := by
  constructor
  · rintro ⟨data, h, -⟩
    exact encodeEvents_ok h
  · intro hs
    exact ⟨_, encodeEvents_scalar hs, decodeEvents_logBytes hj⟩

/-- Decoded events are events of the job. -/
theorem decodeEvents_jobId {jobId : JobId} {data : Bytes} {es : List Event}
    (h : decodeEvents jobId data = .ok es) : ∀ e ∈ es, e.jobId = jobId := by
  unfold decodeEvents at h
  split at h
  · cases h
  generalize splitLines data = ls at h
  induction ls generalizing es with
  | nil =>
    cases h
    simp
  | cons l ls ih =>
    rw [List.mapM_cons] at h
    rcases hl : decodeLine jobId l with r | e
    · rw [hl] at h
      cases h
    rcases hls : ls.mapM (decodeLine jobId) with r | es'
    · rw [hl, hls] at h
      cases h
    rw [hl, hls] at h
    cases h
    intro x hx
    rcases List.mem_cons.mp hx with rfl | hx
    · unfold decodeLine at hl
      split at hl
      · cases hl
      rcases hp : parseJson l >>= eventFromPrimitive with r | e
      · rw [hp] at hl
        cases hl
      rw [hp] at hl
      by_cases hj : e.jobId = jobId
      · have he : Except.ok e = Except.ok (ε := Raised) x := by
          rw [← hl]
          exact (if_neg (not_not.mpr hj)).symm
        rw [← Except.ok.inj he]
        exact hj
      · have he : Except.error (Raised.domain "invalid job event") = Except.ok x := by
          rw [← hl]
          exact (if_pos hj).symm
        cases he
    · exact ih hls x hx

/-- **The codec round-trips exactly the events whose reasons hold no
surrogate.**  Snapshots always do, and so does what was decoded, on the same
condition. -/
theorem codec_roundtrip_iff (snapshot : JobSnapshot) (jobId : JobId) (data : Bytes)
    (events : List Event) :
    (∃ data, encodeSnapshot snapshot = .ok data ∧ decodeSnapshot data = .ok snapshot) ∧
    ((∀ e ∈ events, e.jobId = jobId) →
      (RoundTrips jobId events ↔ ∀ e ∈ events, e.payload.Scalar)) ∧
    (decodeEvents jobId data = .ok events →
      (RoundTrips jobId events ↔ ∀ e ∈ events, e.payload.Scalar)) :=
  ⟨decodeSnapshot_encodeSnapshot snapshot, roundTrips_iff,
    fun h => roundTrips_iff (decodeEvents_jobId h)⟩

/-- A cancellation whose reason is one unpaired surrogate. -/
def surrogateCancel : Event :=
  sampleEvent 0 .created .cancelled (.cancelRequested ⟨[0xD800], by decide⟩)

/-- The code constructs the event and cannot encode it. -/
theorem surrogateCancel_not_encoded :
    encodeEvent surrogateCancel = .error .unicodeEncode ∧
      ¬ RoundTrips sampleJob.jobId [surrogateCancel] := by
  have hs : ¬ surrogateCancel.payload.Scalar := fun h =>
    absurd (h ⟨[0xD800], by decide⟩ rfl) (by decide)
  refine ⟨encodeEvent_surrogate hs, fun h => hs ?_⟩
  exact (roundTrips_iff (by decide)).mp h _ (by simp)

end SpecStyle
