/-
SpecStyle/Observability/JsonLogging.lean

What a log record may show of its context.

`_sanitize` copies a tree of values with a budget of nodes, a limit of depth
and a limit of items, and puts a marker where something is left out.  What is
stored under a sensitive key is never looked at: it costs no node, so two trees
that agree elsewhere have one copy (`sanitize_congr`).  A copy holds nothing
but accepted scalars and markers (`sanitize_clean`), is no deeper than the
levels (`sanitize_depth`), and every container pays for its own entries with
the node it takes from the budget (`sanitize_size`).
-/
import SpecStyle.Lib.FloatText
import SpecStyle.Lib.Traverse
import SpecStyle.Domain.Values
import SpecStyle.Observability.Environment
import Mathlib.Data.List.Infix

namespace SpecStyle

open PyLib

/-! ### Values -/

/-- A value that is logged, as a finite tree.  The attribute `value` of a frozen
object is `none` if it is missing or no text; a key of a dictionary is `none`
if it is no text. -/
inductive LogValue where
  | null
  | bool (b : Bool)
  | int (n : Int)
  /-- `none` is a number that is not finite. -/
  | float (x : Option Binary64)
  /-- An object of one of `_IDENTIFIER_TYPES`. -/
  | identifier (value : Option Text)
  | sha256 (value : Option Text)
  | publicText (value : Option Text)
  /-- An object of any other type, a plain text among them. -/
  | other
  /-- A list or a tuple. -/
  | list (items : List LogValue)
  | dict (entries : List (Option Text × LogValue))

namespace JsonLogging

/-- `MAX_LOG_DEPTH` -/
def maxLogDepth : Nat := 6

/-- `MAX_LOG_NODES` -/
def maxLogNodes : Nat := 128

/-- `MAX_LOG_CONTAINER_ITEMS` -/
def maxLogContainerItems : Nat := 64

def redactedUnsupported : Text := py "[REDACTED_UNSUPPORTED]"

def redactedNodes : Text := py "[REDACTED_NODES]"

def redactedDepth : Text := py "[REDACTED_DEPTH]"

def redactedContainer : Text := py "[REDACTED_CONTAINER]"

def redactedSensitive : Text := py "[REDACTED_SENSITIVE]"

/-- The fixed redaction markers. -/
def markers : List Text :=
  [redactedUnsupported, redactedNodes, redactedDepth, redactedContainer, redactedSensitive]

/-- `_KEY.fullmatch(key)`: `[a-z][a-z0-9_]{0,63}` -/
def isKey : Text → Bool
  | [] => false
  | c :: s => (0x61 ≤ c.val && c.val ≤ 0x7A) && s.length ≤ 63 &&
      s.all fun c => (0x61 ≤ c.val && c.val ≤ 0x7A) || isDigit c || c = 0x5F

/-- `_SENSITIVE` -/
def sensitive : List Text :=
  [py "password", py "passwd", py "secret", py "token", py "authorization", py "credential",
    py "cookie", py "session", py "apikey", py "accesskey", py "privatekey", py "clientsecret"]

/-- `_EXACT_SENSITIVE` -/
def exactSensitive : List Text :=
  [py "env", py "environ", py "environment", py "environmentvariables", py "hostname", py "user",
    py "username", py "home", py "homedir"]

/-- `_sensitive_key`; `lower` is `str.lower`. -/
def sensitiveKey (lower : Text → Text) (key : Text) : Bool :=
  let normalized := (lower key).filter fun c => !(py "_-.").contains c
  exactSensitive.contains normalized || sensitive.any fun word => decide (word <:+: normalized)

/-- The text a frozen object shows: its attribute, if that is valid. -/
def shown (valid : Text → Bool) (value : Option Text) : Json :=
  .str (if value.any valid then value.getD [] else redactedUnsupported)

/-- `_SHA_VALUE.fullmatch` -/
def isShaText (s : Text) : Bool := s.length == 64 && s.all isLowerHex

/-- `-(2**63) <= n <= 2**63 - 1` -/
def isInt64 (n : Int) : Bool := -2 ^ 63 ≤ n && n ≤ 2 ^ 63 - 1

/-- `_scalar`; `none` is a value that is no scalar. -/
def scalar : LogValue → Option Json
  | .null => some .null
  | .bool b => some (.bool b)
  | .int n => some (if isInt64 n then .int n else .str redactedUnsupported)
  | .float (some x) => some (.float x.repr)
  | .float none => some (.str redactedUnsupported)
  | .identifier value => some (shown isIdText value)
  | .sha256 value => some (shown isShaText value)
  | .publicText value => some (shown isSafeObservationText value)
  | .other => none
  | .list _ => none
  | .dict _ => none

section Sanitize

variable (lower : Text → Text)

/-- One entry of a dictionary; `below` copies a value. -/
def entry (below : LogValue → Nat → Json × Nat) (e : Option Text × LogValue) (nodes : Nat) :
    (Text × Json) × Nat :=
  let key := e.1.getD []
  if sensitiveKey lower key then ((key, .str redactedSensitive), nodes)
  else
    let copy := below e.2 nodes
    ((key, copy.1), copy.2)

/-- `sorted(value)`, with the values. -/
def sortedEntries (entries : List (Option Text × LogValue)) : List (Option Text × LogValue) :=
  entries.insertionSort fun e f => e.1.getD [] ≤ f.1.getD []

/-- What becomes of a value within the budget and the depth; `below` copies
the values in it. -/
def copyValue (below : LogValue → Nat → Json × Nat) (value : LogValue) (nodes : Nat) : Json × Nat :=
  match scalar value, value with
  | some result, _ => (result, nodes)
  | none, .list items =>
    if maxLogContainerItems < items.length then (.str redactedContainer, nodes)
    else
      let copies := inOrder below items nodes
      (.arr copies.1, copies.2)
  | none, .dict entries =>
    if maxLogContainerItems < entries.length then (.str redactedContainer, nodes)
    else if entries.any (fun e => !e.1.any isKey) then (.str redactedContainer, nodes)
    else
      let copies := inOrder (entry lower below) (sortedEntries entries) nodes
      (.obj copies.1, copies.2)
  | none, _ => (.str redactedUnsupported, nodes)

/-- `_sanitize`; the levels are `MAX_LOG_DEPTH + 1 - depth`, and the number of
nodes is returned with the copy.  A tree has no cycles. -/
def sanitize : Nat → LogValue → Nat → Json × Nat
  | 0 => fun _ nodes =>
    (.str (if maxLogNodes < nodes + 1 then redactedNodes else redactedDepth), nodes + 1)
  | levels + 1 => fun value nodes =>
    if maxLogNodes < nodes + 1 then (.str redactedNodes, nodes + 1)
    else copyValue lower (sanitize levels) value (nodes + 1)

/-- `sanitize_log_value` -/
def sanitizeLogValue (value : LogValue) : Json := (sanitize lower (maxLogDepth + 1) value 0).1

end Sanitize

/-! ### What is not looked at -/

mutual

/-- Two values that differ only in what is stored under sensitive keys. -/
inductive AgreeOff (lower : Text → Text) : LogValue → LogValue → Prop
  | same (value : LogValue) : AgreeOff lower value value
  | list {items items' : List LogValue} (h : List.Forall₂ (AgreeOff lower) items items') :
      AgreeOff lower (.list items) (.list items')
  | dict {entries entries' : List (Option Text × LogValue)}
      (h : List.Forall₂ (AgreeEntry lower) entries entries') :
      AgreeOff lower (.dict entries) (.dict entries')

/-- Two entries under one key, which is sensitive or has values that agree. -/
inductive AgreeEntry (lower : Text → Text) :
    Option Text × LogValue → Option Text × LogValue → Prop
  | hidden {key : Text} (h : sensitiveKey lower key = true) (v w : LogValue) :
      AgreeEntry lower (some key, v) (some key, w)
  | plain (key : Option Text) {v w : LogValue} (h : AgreeOff lower v w) :
      AgreeEntry lower (key, v) (key, w)

end

section Agree

variable {lower : Text → Text} {below : LogValue → Nat → Json × Nat}
  {r : Option Text × LogValue → Option Text × LogValue → Prop}
  {entries entries' : List (Option Text × LogValue)}

/-- Entries with the same keys are put in the same order. -/
theorem sortedEntries_forall₂ (hkey : ∀ e f, r e f → e.1 = f.1)
    (h : List.Forall₂ r entries entries') :
    List.Forall₂ r (sortedEntries entries) (sortedEntries entries') := by
  obtain ⟨hlen, hzip⟩ := List.forall₂_iff_zip.mp h
  have hkeys : ∀ p ∈ entries.zip entries', p.1.1 = p.2.1 := fun p hp => hkey _ _ (hzip hp)
  have hfst := List.map_insertionSort (fun p q : _ × _ => p.1.1.getD [] ≤ q.1.1.getD [])
    (fun e f : Option Text × LogValue => e.1.getD [] ≤ f.1.getD []) Prod.fst
    (entries.zip entries') fun p _ q _ => Iff.rfl
  have hsnd := List.map_insertionSort (fun p q : _ × _ => p.1.1.getD [] ≤ q.1.1.getD [])
    (fun e f : Option Text × LogValue => e.1.getD [] ≤ f.1.getD []) Prod.snd
    (entries.zip entries') fun p hp q hq => by rw [hkeys p hp, hkeys q hq]
  rw [List.map_fst_zip hlen.le] at hfst
  rw [List.map_snd_zip hlen.ge] at hsnd
  show List.Forall₂ r (entries.insertionSort _) (entries'.insertionSort _)
  rw [← hfst, ← hsnd, List.forall₂_map_left_iff, List.forall₂_map_right_iff]
  exact List.forall₂_same.mpr fun p hp => hzip ((List.mem_insertionSort _).mp hp)

/-- A test of the keys. -/
theorem any_congr {p : Option Text → Bool} (h : List.Forall₂ r entries entries')
    (hkey : ∀ e f, r e f → e.1 = f.1) :
    (entries.any fun e => p e.1) = entries'.any fun e => p e.1 := by
  induction h with
  | nil => rfl
  | cons hef _ ih =>
    rw [List.any_cons, List.any_cons, ih, hkey _ _ hef]

theorem AgreeEntry.key {e f : Option Text × LogValue} (h : AgreeEntry lower e f) : e.1 = f.1 := by
  cases h with
  | hidden => rfl
  | plain => rfl

/-- What is stored under a sensitive key takes no part. -/
theorem entry_congr (hbelow : ∀ v w, AgreeOff lower v w → below v = below w)
    {e f : Option Text × LogValue} (h : AgreeEntry lower e f) :
    entry lower below e = entry lower below f := by
  funext nodes
  unfold entry
  cases h with
  | hidden h v w =>
    simp only [Option.getD_some]
    rw [if_pos h, if_pos h]
  | plain key h =>
    simp only
    rw [hbelow _ _ h]

theorem copyValue_congr (hbelow : ∀ v w, AgreeOff lower v w → below v = below w) {v w : LogValue}
    (h : AgreeOff lower v w) (nodes : Nat) :
    copyValue lower below v nodes = copyValue lower below w nodes := by
  cases h with
  | same => rfl
  | list h =>
    show (if _ then _ else _) = (if _ then _ else _)
    rw [h.length_eq, inOrder_congr hbelow h]
  | dict h =>
    have hany := any_congr (p := fun key : Option Text => !key.any isKey) h fun e f => AgreeEntry.key
    have hcopies := inOrder_congr (fun e f hef => entry_congr hbelow hef)
      (sortedEntries_forall₂ (fun e f => AgreeEntry.key) h) nodes
    show (if _ then _ else if _ then _ else _) = (if _ then _ else if _ then _ else _)
    rw [h.length_eq, hany, hcopies]

/-- **Noninterference**: nothing under a sensitive key changes the copy, nor
the nodes that are left for what follows. -/
theorem sanitize_congr (levels : Nat) {v w : LogValue} (h : AgreeOff lower v w) :
    sanitize lower levels v = sanitize lower levels w := by
  induction levels generalizing v w with
  | zero => rfl
  | succ levels ih =>
    funext nodes
    unfold sanitize
    rw [copyValue_congr (fun v w hvw => ih hvw) h]

end Agree

/-! ### What a copy holds -/

/-- A tree of accepted scalars and markers, under accepted keys. -/
inductive Clean : Json → Prop
  | null : Clean .null
  | bool (b : Bool) : Clean (.bool b)
  | int {n : Int} (h : isInt64 n = true) : Clean (.int n)
  | float (x : Binary64) : Clean (.float x.repr)
  | identifier {s : Text} (h : isIdText s = true) : Clean (.str s)
  | hash {s : Text} (h : isShaText s = true) : Clean (.str s)
  | publicText {s : Text} (h : isSafeObservationText s = true) : Clean (.str s)
  | marker {s : Text} (h : s ∈ markers) : Clean (.str s)
  | arr {items : List Json} (h : ∀ v ∈ items, Clean v) : Clean (.arr items)
  | obj {fields : List (Text × Json)} (hkey : ∀ f ∈ fields, isKey f.1 = true)
      (h : ∀ f ∈ fields, Clean f.2) : Clean (.obj fields)

/-- The most that one leaf holds: a public text and itself. -/
def leafSize : Nat := 513

/-- The longest key. -/
def maxKeyChars : Nat := 64

/-- What a container pays for with its node. -/
def nodePrice : Nat := maxLogContainerItems * (leafSize + maxKeyChars)

/-- The budget of `nodes` that is used up, at its price. -/
def spent (nodes : Nat) : Nat := nodePrice * min nodes maxLogNodes

/-- A value that is no container: a scalar or a marker. -/
structure Leaf (json : Json) : Prop where
  clean : Clean json
  depth : json.depth = 0
  size : json.size ≤ leafSize

/-- What holds of a copy with `levels` below it. -/
structure Copied (levels nodes : Nat) (copy : Json × Nat) : Prop where
  clean : Clean copy.1
  depth : copy.1.depth ≤ levels
  size : copy.1.size + spent nodes ≤ leafSize + spent copy.2

section Leaves

variable {s : Text} {valid : Text → Bool}

theorem length_marker (h : s ∈ markers) : s.length ≤ 512 := by
  have hall : ∀ s ∈ markers, s.length ≤ 512 := by decide
  exact hall s h

theorem Leaf.str (h : Clean (.str s)) (hlen : s.length ≤ 512) : Leaf (.str s) where
  clean := h
  depth := rfl
  size := Nat.succ_le_succ hlen

theorem Leaf.marker (h : s ∈ markers) : Leaf (.str s) := .str (.marker h) (length_marker h)

theorem length_idText (h : isIdText s = true) : s.length ≤ 512 :=
  (Id.length_le (⟨s, h⟩ : Identifier)).trans (by decide)

theorem length_shaText (h : isShaText s = true) : s.length ≤ 512 :=
  (Sha256.length_eq ⟨s, h⟩).le.trans (by decide)

theorem length_observationText (h : isSafeObservationText s = true) : s.length ≤ 512 := by
  unfold isSafeObservationText at h
  simp only [Bool.and_eq_true, decide_eq_true_eq] at h
  exact h.1.1.1.1.1.1.2

theorem length_key (h : isKey s = true) : s.length ≤ maxKeyChars := by
  cases s with
  | nil => exact Nat.zero_le _
  | cons c s =>
    unfold isKey at h
    simp only [Bool.and_eq_true, decide_eq_true_eq] at h
    exact Nat.succ_le_succ h.1.2

theorem leaf_unsupported : Leaf (.str redactedUnsupported) := .marker (by decide)

theorem one_le_leafSize : 1 ≤ leafSize := by
  decide

/-- An attribute is shown if it is valid. -/
theorem leaf_shown (hclean : ∀ {s}, valid s = true → Clean (.str s))
    (hlen : ∀ {s}, valid s = true → s.length ≤ 512) (value : Option Text) :
    Leaf (shown valid value) := by
  unfold shown
  rcases value with - | s
  · exact leaf_unsupported
  · rcases hv : valid s with - | -
    · rw [Option.any_some, hv]
      exact leaf_unsupported
    · rw [Option.any_some, hv]
      exact .str (hclean hv) (hlen hv)

/-- **A scalar** is accepted, or its marker. -/
theorem leaf_scalar {value : LogValue} {json : Json} (h : scalar value = some json) : Leaf json := by
  cases value with
  | null =>
    cases h
    exact ⟨.null, rfl, one_le_leafSize⟩
  | bool b =>
    cases h
    exact ⟨.bool b, rfl, one_le_leafSize⟩
  | int n =>
    cases h
    rcases hn : isInt64 n with - | -
    · exact leaf_unsupported
    · exact ⟨.int hn, rfl, one_le_leafSize⟩
  | float x =>
    cases x with
    | none =>
      cases h
      exact leaf_unsupported
    | some x =>
      cases h
      exact ⟨.float x, rfl, one_le_leafSize⟩
  | identifier value =>
    cases h
    exact leaf_shown .identifier length_idText value
  | sha256 value =>
    cases h
    exact leaf_shown .hash length_shaText value
  | publicText value =>
    cases h
    exact leaf_shown .publicText length_observationText value
  | other => cases h
  | list items => cases h
  | dict entries => cases h

/-- A leaf is a copy at every level. -/
theorem Leaf.copied {json : Json} (h : Leaf json) {levels nodes nodes' : Nat}
    (hle : nodes ≤ nodes') : Copied levels nodes (json, nodes') where
  clean := h.clean
  depth := h.depth.le.trans (Nat.zero_le _)
  size := by
    have hspent : spent nodes ≤ spent nodes' :=
      Nat.mul_le_mul_left _ (min_le_min_right _ hle)
    exact Nat.add_le_add h.size hspent

end Leaves

section Copies

variable {lower : Text → Text} {below : LogValue → Nat → Json × Nat} {levels nodes : Nat}

/-- The node of a container pays for its entries. -/
theorem spent_succ (h : nodes < maxLogNodes) : spent (nodes + 1) = spent nodes + nodePrice := by
  unfold spent
  rw [min_eq_left (Nat.succ_le_of_lt h), min_eq_left h.le, Nat.mul_succ]

/-- The entries of a container cost its node at most. -/
theorem size_container {n total rest : Nat} (hn : n ≤ maxLogContainerItems)
    (hnodes : nodes < maxLogNodes)
    (h : total + spent (nodes + 1) ≤ n * (leafSize + maxKeyChars) + rest) :
    total + 1 + spent nodes ≤ leafSize + rest := by
  have hprice : n * (leafSize + maxKeyChars) ≤ nodePrice := Nat.mul_le_mul_right _ hn
  have hleaf := one_le_leafSize
  rw [spent_succ hnodes] at h
  omega

/-- What holds of one entry. -/
theorem entry_copied (hbelow : ∀ v nodes, Copied levels nodes (below v nodes))
    (e : Option Text × LogValue) (nodes : Nat) :
    (entry lower below e nodes).1.1 = e.1.getD [] ∧
      Copied levels nodes ((entry lower below e nodes).1.2, (entry lower below e nodes).2) := by
  unfold entry
  by_cases hs : sensitiveKey lower (e.1.getD []) = true
  · rw [if_pos hs]
    exact ⟨rfl, (Leaf.marker (by decide)).copied le_rfl⟩
  · rw [if_neg hs]
    exact ⟨rfl, hbelow e.2 nodes⟩

/-- **One value**: what holds of the copies in it holds of its own. -/
theorem copyValue_copied (hbelow : ∀ v nodes, Copied levels nodes (below v nodes))
    (hnodes : nodes < maxLogNodes) (value : LogValue) :
    Copied (levels + 1) nodes (copyValue lower below value (nodes + 1)) := by
  have hmarker : ∀ {s : Text}, s ∈ markers → Copied (levels + 1) nodes (.str s, nodes + 1) :=
    fun h => (Leaf.marker h).copied (Nat.le_succ _)
  rcases hs : scalar value with - | json
  swap
  · unfold copyValue
    rw [hs]
    exact (leaf_scalar hs).copied (Nat.le_succ _)
  cases value with
  | list items =>
    by_cases hlen : maxLogContainerItems < items.length
    · show Copied _ _ (if _ then _ else _)
      rw [if_pos hlen]
      exact hmarker (by decide)
    show Copied _ _ (if _ then _ else _)
    rw [if_neg hlen]
    refine ⟨.arr ?_, Json.depth_arr_le ?_, ?_⟩
    · exact inOrder_forall (fun v _ nodes => (hbelow v nodes).clean) _
    · exact inOrder_forall (q := fun v : Json => v.depth ≤ levels)
        (fun v _ nodes => (hbelow v nodes).depth) _
    · rw [Json.size_arr]
      apply size_container (not_lt.mp hlen) hnodes
      refine inOrder_cost (c := leafSize + maxKeyChars) (fun v _ nodes => ?_) _
      have hsize := (hbelow v nodes).size
      omega
  | dict entries =>
    by_cases hlen : maxLogContainerItems < entries.length
    · show Copied _ _ (if _ then _ else _)
      rw [if_pos hlen]
      exact hmarker (by decide)
    by_cases hbad : entries.any (fun e => !e.1.any isKey) = true
    · show Copied _ _ (if _ then _ else if _ then _ else _)
      rw [if_neg hlen, if_pos hbad]
      exact hmarker (by decide)
    show Copied _ _ (if _ then _ else if _ then _ else _)
    rw [if_neg hlen, if_neg hbad]
    have hkey : ∀ e ∈ sortedEntries entries, isKey (e.1.getD []) = true := by
      intro e he
      have hmem : e ∈ entries := (List.mem_insertionSort _).mp he
      obtain ⟨key, hk, hvalid⟩ : ∃ key, e.1 = some key ∧ isKey key = true := by
        have hnot := List.any_eq_false.mp (Bool.eq_false_of_not_eq_true hbad) e hmem
        rcases hk : e.1 with - | key
        · rw [hk] at hnot
          exact absurd rfl hnot
        · rw [hk] at hnot
          exact ⟨key, rfl, by simpa using hnot⟩
      rw [hk]
      exact hvalid
    refine ⟨.obj ?_ ?_, Json.depth_obj_le ?_, ?_⟩
    · refine inOrder_forall (q := fun f : Text × Json => isKey f.1 = true) (fun e he nodes => ?_) _
      rw [(entry_copied hbelow e nodes).1]
      exact hkey e he
    · exact inOrder_forall (q := fun f : Text × Json => Clean f.2)
        (fun e _ nodes => (entry_copied hbelow e nodes).2.clean) _
    · exact inOrder_forall (q := fun f : Text × Json => f.2.depth ≤ levels)
        (fun e _ nodes => (entry_copied hbelow e nodes).2.depth) _
    · rw [Json.size_obj]
      have hsorted : (sortedEntries entries).length = entries.length :=
        List.length_insertionSort _ _
      apply size_container (hsorted ▸ not_lt.mp hlen) hnodes
      refine inOrder_cost (c := leafSize + maxKeyChars) (fun e he nodes => ?_) _
      have hcopied : (entry lower below e nodes).1.1 = e.1.getD [] ∧
          Copied levels nodes ((entry lower below e nodes).1.2, (entry lower below e nodes).2) :=
        entry_copied hbelow e nodes
      obtain ⟨hk, hcopy⟩ := hcopied
      have hsize : ((entry lower below e nodes).1.2).size + spent nodes ≤
        leafSize + spent (entry lower below e nodes).2 := hcopy.size
      have hlenKey := length_key (hkey e he)
      rw [← hk] at hlenKey
      show (entry lower below e nodes).1.1.length + (entry lower below e nodes).1.2.size + _ ≤ _
      omega
  | other =>
    unfold copyValue
    rw [hs]
    exact hmarker (by decide)
  | null => cases hs
  | bool => cases hs
  | int => cases hs
  | float x => cases x <;> cases hs
  | identifier => cases hs
  | sha256 => cases hs
  | publicText => cases hs

/-- **A copy** at every level. -/
theorem sanitize_copied (levels : Nat) (value : LogValue) (nodes : Nat) :
    Copied levels nodes (sanitize lower levels value nodes) := by
  induction levels generalizing value nodes with
  | zero =>
    unfold sanitize
    split
    · exact (Leaf.marker (by decide)).copied (Nat.le_succ _)
    · exact (Leaf.marker (by decide)).copied (Nat.le_succ _)
  | succ levels ih =>
    unfold sanitize
    by_cases h : maxLogNodes < nodes + 1
    · rw [if_pos h]
      exact (Leaf.marker (by decide)).copied (Nat.le_succ _)
    · rw [if_neg h]
      exact copyValue_copied ih (by omega) value

end Copies

/-- The most that a copy holds. -/
def maxOutputSize : Nat := leafSize + nodePrice * maxLogNodes

/-- **The sanitizer.**  Values that differ only under sensitive keys have one
copy.  A copy is a tree of accepted scalars and markers under accepted keys, no
deeper than the limit and one, and of bounded size. -/
theorem sanitizeLogValue_safe (lower : Text → Text) :
    (∀ v w, AgreeOff lower v w → sanitizeLogValue lower v = sanitizeLogValue lower w) ∧
      ∀ v, Clean (sanitizeLogValue lower v) ∧ (sanitizeLogValue lower v).depth ≤ maxLogDepth + 1 ∧
        (sanitizeLogValue lower v).size ≤ maxOutputSize := by
  refine ⟨fun v w h => ?_, fun v => ?_⟩
  · unfold sanitizeLogValue
    rw [sanitize_congr _ h]
  · have hcopied : Copied (maxLogDepth + 1) 0 (sanitize lower (maxLogDepth + 1) v 0) :=
      sanitize_copied (maxLogDepth + 1) v 0
    obtain ⟨hclean, hdepth, hsize⟩ := hcopied
    refine ⟨hclean, hdepth, ?_⟩
    have hspent : ∀ n, spent n ≤ nodePrice * maxLogNodes :=
      fun n => Nat.mul_le_mul_left _ (min_le_right _ _)
    have hle := hspent (sanitize lower (maxLogDepth + 1) v 0).2
    show (sanitize lower (maxLogDepth + 1) v 0).1.size ≤ leafSize + _
    omega

/-- A token does not show, whatever it is, nor does a text beside it. -/
theorem sanitizeLogValue_token :
    sanitizeLogValue (·.map asciiLower)
        (.dict [(some (py "auth_token"), .list [.int 7]), (some (py "count"), .int 3)]) =
      sanitizeLogValue (·.map asciiLower)
        (.dict [(some (py "auth_token"), .other), (some (py "count"), .int 3)]) ∧
    Clean (sanitizeLogValue (·.map asciiLower) (.list [.other, .int (2 ^ 63)])) :=
  ⟨(sanitizeLogValue_safe (·.map asciiLower)).1 _ _
      (.dict (.cons (.hidden (by decide +kernel) _ _) (.cons (.plain _ (.same _)) .nil))),
    ((sanitizeLogValue_safe (·.map asciiLower)).2 _).1⟩

end JsonLogging

end SpecStyle
