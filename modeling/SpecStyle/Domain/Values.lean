/-
SpecStyle/Domain/Values.lean

The value objects of the domain layer: identifiers, hashes, enumerations and
the exceptions the code raises.

A constructor of the source that validates its argument is a function `new`
into `Except Raised`; its result carries the validity proof, so an invalid
identifier or hash cannot be built.  The dynamic type tests of the source
(`type(value) is JobId`) are the types here.  An identifier of each class is
one type with the class as a parameter, which keeps the classes apart as the
source does.
-/
import SpecStyle.Lib.Text

namespace SpecStyle

open PyLib

/-! ### Exceptions -/

/-- What the modelled code raises. -/
inductive Raised where
  /-- `DomainError(message)`. -/
  | domain (message : String)
  /-- `DomainError(f"{message}: {value!r}")`. -/
  | domainAbout (message : String) (value : Text)
  /-- `InfrastructureError(message)`. -/
  | infrastructure (message : String)
  /-- `ValueError`, from a lookup of an enumeration member. -/
  | value
  /-- `KeyError`. -/
  | key
  /-- `UnicodeEncodeError`, from a strict encoder. -/
  | unicodeEncode
  deriving DecidableEq

/-- A domain error of either shape. -/
def Raised.isDomain : Raised → Bool
  | .domain _ => true
  | .domainAbout _ _ => true
  | _ => false

/-! ### Identifiers -/

/-- The identifier classes. -/
inductive IdKind where
  | identifier | job | asset | attempt | artifact | decision | rule
  deriving DecidableEq

/-- `[A-Za-z0-9_-]` -/
def isIdTail (c : CodePoint) : Bool := isLetter c || isDigit c || c = 0x5F || c = 0x2D

/-- `re.fullmatch(r"[A-Za-z0-9][A-Za-z0-9_-]{0,127}", value, re.ASCII)` -/
def isIdText : Text → Bool
  | [] => false
  | c :: s => (isLetter c || isDigit c) && s.all isIdTail && s.length ≤ 127

/-- An identifier of one class. -/
structure Id (kind : IdKind) where
  value : Text
  valid : isIdText value = true
  deriving DecidableEq

abbrev Identifier := Id .identifier
abbrev JobId := Id .job
abbrev AssetId := Id .asset
abbrev AttemptId := Id .attempt
abbrev ArtifactId := Id .artifact
abbrev DecisionId := Id .decision
abbrev RuleId := Id .rule

instance Id.lawfulBEq {kind : IdKind} : LawfulBEq (Id kind) := inferInstance

theorem Id.ext_value {kind : IdKind} {a b : Id kind} (h : a.value = b.value) : a = b := by
  cases a; cases b; cases h; rfl

/-- `Identifier(value)` and its subclasses. -/
def Id.new (kind : IdKind) (value : Text) : Except Raised (Id kind) :=
  if h : isIdText value = true then .ok ⟨value, h⟩
  else .error (.domainAbout "invalid identifier" value)

/-- The identifier of a literal; one that is none stands for `x`. -/
def Id.lit (kind : IdKind) (s : String) : Id kind :=
  if h : isIdText (py s) = true then ⟨py s, h⟩ else ⟨py "x", by decide⟩

/-- A stored identifier is accepted again. -/
@[simp] theorem Id.new_value {kind : IdKind} (a : Id kind) : Id.new kind a.value = .ok a := by
  simp [Id.new, a.valid]

theorem Id.new_ok {kind : IdKind} {value : Text} {a : Id kind} (h : Id.new kind value = .ok a) :
    a.value = value := by
  unfold Id.new at h
  split at h
  · cases h; rfl
  · cases h

theorem Id.length_le {kind : IdKind} (a : Id kind) : a.value.length ≤ 128 := by
  have hv := a.valid
  rcases ht : a.value with - | ⟨c, t⟩
  · exact Nat.zero_le _
  · rw [ht] at hv
    simp only [isIdText, Bool.and_eq_true, decide_eq_true_eq] at hv
    exact Nat.succ_le_succ hv.2

@[simp] theorem hasSurrogate_id {kind : IdKind} (a : Id kind) : hasSurrogate a.value = false := by
  refine hasSurrogate_of_ascii fun c hc => ?_
  have hv := a.valid
  have hall : ∀ c ∈ a.value, (isLetter c || isDigit c) = true ∨ isIdTail c = true := by
    intro c hc
    rcases ht : a.value with - | ⟨d, t⟩
    · rw [ht] at hc
      cases hc
    · rw [ht] at hc hv
      simp only [isIdText, Bool.and_eq_true, List.all_eq_true] at hv
      rcases List.mem_cons.mp hc with rfl | hc
      · exact .inl hv.1.1
      · exact .inr (hv.1.2 c hc)
  have hc := hall c hc
  unfold isIdTail isLetter isDigit at hc
  simp only [Fin.ext_iff] at hc
  simp at hc
  omega

/-! ### Hashes -/

/-- A lower-case hexadecimal digit. -/
def isLowerHex (c : CodePoint) : Bool := isDigit c || (0x61 ≤ c.val && c.val ≤ 0x66)

/-- `[0-9a-fA-F]` -/
def isHex (c : CodePoint) : Bool := isLowerHex c || (0x41 ≤ c.val && c.val ≤ 0x46)

/-- `str.lower` on a hexadecimal digit. -/
def lowerHex (c : CodePoint) : CodePoint :=
  if 0x41 ≤ c.val && c.val ≤ 0x46 then Fin.ofNat _ (c.val + 0x20) else c

/-- A SHA-256 value, lower case. -/
structure Sha256 where
  value : Text
  valid : (value.length == 64 && value.all isLowerHex) = true
  deriving DecidableEq

theorem Sha256.length_eq (a : Sha256) : a.value.length = 64 := by
  have hv := a.valid
  rw [Bool.and_eq_true, beq_iff_eq] at hv
  exact hv.1

theorem Sha256.ext_value {a b : Sha256} (h : a.value = b.value) : a = b := by
  cases a; cases b; cases h; rfl

theorem isLowerHex_lowerHex {c : CodePoint} (h : isHex c = true) :
    isLowerHex (lowerHex c) = true := by
  unfold lowerHex
  split
  · next hc =>
    simp only [Bool.and_eq_true, decide_eq_true_eq] at hc
    have hv : (Fin.ofNat 0x110000 (c.val + 0x20)).val = c.val + 0x20 :=
      Nat.mod_eq_of_lt (by omega)
    unfold isLowerHex
    rw [hv]
    simp
    omega
  · next hc =>
    unfold isHex at h
    simpa [hc] using h

theorem lowerHex_of_lower {c : CodePoint} (h : isLowerHex c = true) : lowerHex c = c := by
  unfold isLowerHex isDigit at h
  unfold lowerHex
  simp at h
  rw [if_neg (by simp; omega)]

/-- `Sha256(value)`: 64 hexadecimal digits, stored in lower case. -/
def Sha256.new (value : Text) : Except Raised Sha256 :=
  if h : (value.length == 64 && value.all isHex) = true then
    .ok ⟨value.map lowerHex, by
      simp only [Bool.and_eq_true, beq_iff_eq, List.all_eq_true] at h
      simp only [List.length_map, List.all_map, Bool.and_eq_true, beq_iff_eq, List.all_eq_true]
      exact ⟨h.1, fun c hc => isLowerHex_lowerHex (h.2 c hc)⟩⟩
  else .error (.domainAbout "invalid sha256" value)

/-- A stored hash is accepted again. -/
@[simp] theorem Sha256.new_value (a : Sha256) : Sha256.new a.value = .ok a := by
  have hv := a.valid
  simp only [Bool.and_eq_true, beq_iff_eq, List.all_eq_true] at hv
  have hx : (a.value.length == 64 && a.value.all isHex) = true := by
    simp only [Bool.and_eq_true, beq_iff_eq, List.all_eq_true]
    exact ⟨hv.1, fun c hc => by unfold isHex; rw [hv.2 c hc, Bool.true_or]⟩
  have hm : a.value.map lowerHex = a.value := by
    conv_rhs => rw [← List.map_id a.value]
    exact List.map_congr_left fun c hc => lowerHex_of_lower (hv.2 c hc)
  unfold Sha256.new
  rw [dif_pos hx]
  exact congrArg Except.ok (Sha256.ext_value hm)

@[simp] theorem hasSurrogate_sha (a : Sha256) : hasSurrogate a.value = false := by
  refine hasSurrogate_of_ascii fun c hc => ?_
  have hv := a.valid
  simp only [Bool.and_eq_true, List.all_eq_true] at hv
  have hc := hv.2 c hc
  unfold isLowerHex isDigit at hc
  simp at hc
  omega

/-- The hash of sixty-four digits `a`. -/
def sampleHash : Sha256 := ⟨List.replicate 64 0x61, by decide⟩

/-- The hash of sixty-four digits `b`. -/
def otherHash : Sha256 := ⟨List.replicate 64 0x62, by decide⟩

/-! ### Enumerations -/

/-- `Kind(value)` of an enumeration whose members are `all`: the member with
that value, if there is one. -/
def memberOf {α : Type} (all : List α) (value : α → Text) (t : Text) : Option α :=
  all.find? fun a => value a == t

/-- `RuleStatus` -/
inductive RuleStatus where
  | pass | fail | warning | unverifiable
  deriving DecidableEq

/-- `ArtifactStatus` -/
inductive ArtifactStatus where
  | approved | rejected | manualReview
  deriving DecidableEq

/-- `DecisionReason` -/
inductive DecisionReason where
  | allRequiredPass | requiredGateFailed | requiredGateUnverifiable | repairExhausted
  | manualPolicy
  deriving DecidableEq

/-- `RepairStopReason` -/
inductive RepairStopReason where
  | passAllRequired | noAction | noImprovement | maxRounds | unverifiable | manualRequest
  deriving DecidableEq

/-- `RuleLevel` -/
inductive RuleLevel where
  | l1 | l2 | l3
  deriving DecidableEq

/-- `RuleScope` -/
inductive RuleScope where
  | item | batch
  deriving DecidableEq

/-- `OutputProfile` -/
inductive OutputProfile where
  | xhsGrid | talkingHeadCover | backgroundSequence
  deriving DecidableEq

def RuleStatus.value : RuleStatus → Text
  | .pass => py "PASS"
  | .fail => py "FAIL"
  | .warning => py "WARNING"
  | .unverifiable => py "UNVERIFIABLE"

def ArtifactStatus.all : List ArtifactStatus := [.approved, .rejected, .manualReview]

def ArtifactStatus.value : ArtifactStatus → Text
  | .approved => py "APPROVED"
  | .rejected => py "REJECTED"
  | .manualReview => py "MANUAL_REVIEW"

def DecisionReason.all : List DecisionReason :=
  [.allRequiredPass, .requiredGateFailed, .requiredGateUnverifiable, .repairExhausted,
    .manualPolicy]

def DecisionReason.value : DecisionReason → Text
  | .allRequiredPass => py "ALL_REQUIRED_PASS"
  | .requiredGateFailed => py "REQUIRED_GATE_FAILED"
  | .requiredGateUnverifiable => py "REQUIRED_GATE_UNVERIFIABLE"
  | .repairExhausted => py "REPAIR_EXHAUSTED"
  | .manualPolicy => py "MANUAL_POLICY"

def RepairStopReason.all : List RepairStopReason :=
  [.passAllRequired, .noAction, .noImprovement, .maxRounds, .unverifiable, .manualRequest]

def RepairStopReason.value : RepairStopReason → Text
  | .passAllRequired => py "PASS_ALL_REQUIRED"
  | .noAction => py "NO_ACTION"
  | .noImprovement => py "NO_IMPROVEMENT"
  | .maxRounds => py "MAX_ROUNDS"
  | .unverifiable => py "UNVERIFIABLE"
  | .manualRequest => py "MANUAL_REQUEST"

def OutputProfile.all : List OutputProfile := [.xhsGrid, .talkingHeadCover, .backgroundSequence]

def OutputProfile.value : OutputProfile → Text
  | .xhsGrid => py "xhs_grid"
  | .talkingHeadCover => py "talking_head_cover"
  | .backgroundSequence => py "background_sequence"

@[simp] theorem ArtifactStatus.memberOf_value (a : ArtifactStatus) :
    memberOf all value a.value = some a := by
  cases a <;> decide

@[simp] theorem DecisionReason.memberOf_value (a : DecisionReason) :
    memberOf all value a.value = some a := by
  cases a <;> decide

@[simp] theorem RepairStopReason.memberOf_value (a : RepairStopReason) :
    memberOf all value a.value = some a := by
  cases a <;> decide

@[simp] theorem OutputProfile.memberOf_value (a : OutputProfile) :
    memberOf all value a.value = some a := by
  cases a <;> decide

end SpecStyle
