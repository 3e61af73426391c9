/-
SpecStyle/Lib/JsonJoin.lean

Surrogate pairs in JSON text.

With `ensure_ascii` the writer spells a character beyond the basic plane as
two escapes, and the two surrogates of a pair as the same two.  So the text of
a value does not tell a pair from its character: `dumps` is the same after
every pair has been joined (`dumps_joinStrings`), and apart from that it tells
all values apart (`dumps_injective`).
-/
import SpecStyle.Lib.JsonRoundTrip

namespace PyLib

namespace Json

/-! ### Joining -/

/-- The character of a surrogate pair. -/
def pairPoint (hi lo : CodePoint) : CodePoint :=
  codePoint (0x10000 + (hi.val - 0xD800) * 1024 + (lo.val - 0xDC00))

/-- The text with every surrogate pair as its character. -/
def join : Text → Text
  | c :: d :: s =>
    if isHighSurrogate c && isLowSurrogate d then pairPoint c d :: join s else c :: join (d :: s)
  | s => s

/-- A text without two characters has none or one. -/
theorem short_cases {s : Text} (h : ∀ c d t, s = c :: d :: t → False) : s = [] ∨ ∃ c, s = [c] := by
  cases s with
  | nil => exact .inl rfl
  | cons c s =>
    cases s with
    | nil => exact .inr ⟨c, rfl⟩
    | cons d s => exact (h c d s rfl).elim

section Pair

variable {c d : CodePoint}

theorem pairPoint_val (hc : isHighSurrogate c = true) (hd : isLowSurrogate d = true) :
    (pairPoint c d).val = 0x10000 + (c.val - 0xD800) * 1024 + (d.val - 0xDC00) := by
  unfold isHighSurrogate at hc
  unfold isLowSurrogate at hd
  simp only [Bool.and_eq_true, decide_eq_true_eq] at hc hd
  exact Nat.mod_eq_of_lt (by omega)

theorem pairPoint_plain (hc : isHighSurrogate c = true) (hd : isLowSurrogate d = true) :
    isHighSurrogate (pairPoint c d) = false ∧ isLowSurrogate (pairPoint c d) = false := by
  have hv := pairPoint_val hc hd
  unfold isHighSurrogate isLowSurrogate
  rw [hv]
  simp
  omega

/-- A pair and its character are spelled alike. -/
theorem escapeChar_pairPoint (hc : isHighSurrogate c = true) (hd : isLowSurrogate d = true) :
    escapeChar true (pairPoint c d) = escapeChar true c ++ escapeChar true d := by
  have hv := pairPoint_val hc hd
  have hcs : isSurrogate c = true := by
    unfold isHighSurrogate at hc
    unfold isSurrogate
    simp at hc ⊢
    omega
  have hds : isSurrogate d = true := by
    unfold isLowSurrogate at hd
    unfold isSurrogate
    simp at hd ⊢
    omega
  rw [escapeChar_surrogate hcs, escapeChar_surrogate hds]
  unfold isHighSurrogate at hc
  unfold isLowSurrogate at hd
  simp only [Bool.and_eq_true, decide_eq_true_eq] at hc hd
  have hne : ∀ k : CodePoint, k.val < 0x100 → pairPoint c d ≠ k := by
    intro k hk h
    rw [h] at hv
    omega
  unfold escapeChar
  rw [if_neg (hne _ (by decide)), if_neg (hne _ (by decide)), if_neg (hne _ (by decide)),
    if_neg (hne _ (by decide)), if_neg (hne _ (by decide)), if_neg (hne _ (by decide)),
    if_neg (hne _ (by decide)), if_neg (by omega), if_pos (by simp; omega), if_neg (by omega), hv]
  have hhi : 0xD800 + (0x10000 + (c.val - 0xD800) * 1024 + (d.val - 0xDC00) - 0x10000) / 1024 =
      c.val := by omega
  have hlo : 0xDC00 + (0x10000 + (c.val - 0xD800) * 1024 + (d.val - 0xDC00) - 0x10000) % 1024 =
      d.val := by omega
  rw [hhi, hlo]

end Pair

theorem join_cons_head (d : CodePoint) (s : Text) (h : isLowSurrogate d = false) :
    ∀ e ∈ (join (d :: s)).head?, isLowSurrogate e = false := by
  cases s with
  | nil =>
    intro e he
    cases he
    exact h
  | cons e s =>
    rw [join]
    split
    · next hp =>
      rw [Bool.and_eq_true] at hp
      intro x hx
      rw [List.head?_cons, Option.mem_some_iff] at hx
      rw [← hx]
      exact (pairPoint_plain hp.1 hp.2).2
    · intro x hx
      rw [List.head?_cons, Option.mem_some_iff] at hx
      rw [← hx]
      exact h

theorem isJoined_join (s : Text) : isJoined (join s) = true := by
  induction s using join.induct with
  | case1 c d s hp ih =>
    rw [join, if_pos hp]
    rw [Bool.and_eq_true] at hp
    refine isJoined_cons (fun h => ?_) ih
    rw [(pairPoint_plain hp.1 hp.2).1] at h
    cases h
  | case2 c d s hp ih =>
    rw [join, if_neg hp]
    refine isJoined_cons (fun hc => join_cons_head d s ?_) ih
    rw [hc, Bool.true_and] at hp
    exact Bool.eq_false_iff.mpr hp
  | case3 s hs =>
    rcases short_cases hs with rfl | ⟨c, rfl⟩
    · rfl
    · rfl

/-- **A text and its joined form are spelled alike.** -/
theorem printStr_join (s : Text) : printStr true (join s) = printStr true s := by
  unfold printStr
  refine congrArg (fun t => 0x22 :: (t ++ [0x22])) ?_
  induction s using join.induct with
  | case1 c d s hp ih =>
    rw [join, if_pos hp]
    rw [Bool.and_eq_true] at hp
    rw [List.flatMap_cons, List.flatMap_cons, List.flatMap_cons, ih,
      escapeChar_pairPoint hp.1 hp.2, List.append_assoc]
  | case2 c d s hp ih =>
    rw [join, if_neg hp, List.flatMap_cons, List.flatMap_cons, ih]
  | case3 s hs =>
    rcases short_cases hs with rfl | ⟨c, rfl⟩
    · rfl
    · rfl

theorem join_of_isJoined {s : Text} (h : isJoined s = true) : join s = s := by
  induction s using join.induct with
  | case1 c d s hp ih =>
    rw [isJoined, hp] at h
    cases h
  | case2 c d s hp ih =>
    rw [isJoined, Bool.and_eq_true] at h
    rw [join, if_neg hp, ih h.2]
  | case3 s hs =>
    rcases short_cases hs with rfl | ⟨c, rfl⟩
    · rfl
    · rfl

theorem join_of_hasSurrogate {s : Text} (h : hasSurrogate s = false) : join s = s :=
  join_of_isJoined (isJoined_of_hasSurrogate h)

/-! ### Values -/

mutual

/-- The value with every string joined. -/
def joinStrings : Json → Json
  | .str s => .str (join s)
  | .arr items => .arr (joinItems items)
  | .obj fields => .obj (joinFields fields)
  | v => v

def joinItems : List Json → List Json
  | [] => []
  | v :: vs => joinStrings v :: joinItems vs

def joinFields : List (Text × Json) → List (Text × Json)
  | [] => []
  | (k, v) :: fs => (k, joinStrings v) :: joinFields fs

end

theorem joinFields_eq_map (fs : List (Text × Json)) :
    joinFields fs = fs.map fun f => (f.1, joinStrings f.2) := by
  induction fs with
  | nil => rfl
  | cons f fs ih => rw [joinFields, ih, List.map_cons]

theorem joinItems_eq_map (vs : List Json) : joinItems vs = vs.map joinStrings := by
  induction vs with
  | nil => rfl
  | cons v vs ih => rw [joinItems, ih, List.map_cons]

mutual

theorem print_joinStrings (v : Json) : print true (joinStrings v) = print true v := by
  cases v with
  | str s =>
    rw [joinStrings, print, print]
    exact printStr_join s
  | arr items =>
    cases items with
    | nil => rfl
    | cons v vs =>
      rw [joinStrings, joinItems, print, print, print_joinStrings v, printItems_joinItems vs]
  | obj fields =>
    cases fields with
    | nil => rfl
    | cons f fs =>
      rw [joinStrings, joinFields, print, print, print_joinStrings f.2, printFields_joinFields fs]
  | _ => rfl

theorem printItems_joinItems (vs : List Json) : printItems true (joinItems vs) = printItems true vs := by
  cases vs with
  | nil => rfl
  | cons v vs =>
    rw [joinItems, printItems, printItems, print_joinStrings v, printItems_joinItems vs]

theorem printFields_joinFields (fs : List (Text × Json)) :
    printFields true (joinFields fs) = printFields true fs := by
  cases fs with
  | nil => rfl
  | cons f fs =>
    rw [joinFields, printFields, printFields, print_joinStrings f.2, printFields_joinFields fs]

end

mutual

theorem sortKeys_joinStrings (v : Json) : sortKeys (joinStrings v) = joinStrings (sortKeys v) := by
  cases v with
  | arr items => rw [joinStrings, sortKeys, sortKeys, joinStrings, sortItems_joinItems items]
  | obj fields =>
    have horder : orderFields (joinFields (sortFields fields)) =
        joinFields (orderFields (sortFields fields)) := by
      rw [joinFields_eq_map, joinFields_eq_map]
      exact (List.map_insertionSort (fun f g : Text × Json => f.1 ≤ g.1)
        (fun f g : Text × Json => f.1 ≤ g.1) (fun f => (f.1, joinStrings f.2)) _
        fun _ _ _ _ => Iff.rfl).symm
    rw [joinStrings, sortKeys, sortKeys, joinStrings, sortFields_joinFields fields, horder]
  | _ => rfl

theorem sortItems_joinItems (vs : List Json) : sortItems (joinItems vs) = joinItems (sortItems vs) := by
  cases vs with
  | nil => rfl
  | cons v vs =>
    rw [joinItems, sortItems, sortItems, joinItems, sortKeys_joinStrings v, sortItems_joinItems vs]

theorem sortFields_joinFields (fs : List (Text × Json)) :
    sortFields (joinFields fs) = joinFields (sortFields fs) := by
  cases fs with
  | nil => rfl
  | cons f fs =>
    rw [joinFields, sortFields, sortFields, joinFields, sortKeys_joinStrings f.2,
      sortFields_joinFields fs]

end

/-- **A value and its joined form have one text.** -/
theorem dumps_joinStrings (v : Json) : dumps true (joinStrings v) = dumps true v := by
  unfold dumps
  rw [sortKeys_joinStrings, print_joinStrings]

/-- **The text tells joined values apart**, the order of their keys aside. -/
theorem dumps_injective {a : Bool} {v w : Json} (hv : Joined a v) (hw : Joined a w)
    (h : dumps a v = dumps a w) : sortKeys v = sortKeys w := by
  have hread := loads_dumps_joined hv
  rw [h, loads_dumps_joined hw] at hread
  exact (Option.some.inj hread).symm

end Json

end PyLib
