/-
SpecStyle/Spec/DiffLaws.lean

What the semantic diff says.

At a path of steps two trees have at most one difference (`diffAt`), found by
going down both at once; the walk reports exactly these, each once
(`mem_walk`, `walk_paths_nodup`).  From this the laws are read off: no
difference lies below another, the differences of the exchanged trees are the
mirrored ones, and setting them in the left tree gives the right one
(`apply_tree`).
-/
import SpecStyle.Spec.DiffPaths

namespace SpecStyle

open PyLib

namespace SpecDiffs

/-! ### The trees of a dump -/

mutual

/-- Dictionaries with distinct keys that a path can name, lists and leaves. -/
def JsonTree : Prim → Prop
  | .tuple _ => False
  | .list items => JsonItems items
  | .dict fields => (fields.map Prod.fst).Nodup ∧ JsonFields fields
  | _ => True

def JsonItems : List Prim → Prop
  | [] => True
  | p :: ps => JsonTree p ∧ JsonItems ps

def JsonFields : List (String × Prim) → Prop
  | [] => True
  | (k, p) :: fs => isKey k = true ∧ JsonTree p ∧ JsonFields fs

end

theorem jsonItems_get {ps : List Prim} (h : JsonItems ps) {i : Nat} {p : Prim}
    (hp : ps[i]? = some p) : JsonTree p := by
  induction ps generalizing i with
  | nil => cases hp
  | cons q ps ih =>
      cases i with
      | zero =>
          cases hp
          exact h.1
      | succ i => exact ih h.2 hp

theorem jsonFields_mem {fs : List (String × Prim)} (h : JsonFields fs) {f : String × Prim}
    (hf : f ∈ fs) : isKey f.1 = true ∧ JsonTree f.2 := by
  induction fs with
  | nil => cases hf
  | cons g fs ih =>
      rcases List.mem_cons.mp hf with rfl | hf
      · exact ⟨h.1, h.2.1⟩
      · exact ih h.2.2 hf

theorem jsonFields_lookup {fs : List (String × Prim)} (h : JsonFields fs) {k : String} {p : Prim}
    (hp : fs.lookup k = some p) : isKey k = true ∧ JsonTree p := by
  obtain ⟨l₁, l₂, rfl, -⟩ := List.lookup_eq_some_iff.mp hp
  exact jsonFields_mem h (f := (k, p)) (by simp)

/-! ### Differences -/

/-- What a change says without its path. -/
structure Difference where
  kind : ChangeKind
  before : Prim
  after : Prim

/-- The change at the end of steps. -/
def Difference.change (path : String) (s : List Step) (d : Difference) : FieldChange :=
  ⟨pathText path s, d.kind, d.before, d.after⟩

/-- The walk does not go down, and the values are not the same. -/
def differs : Prim → Prim → Bool
  | .dict _, .dict _ => false
  | .list _, .list _ => false
  | p, q => !Prim.same p q

/-- The two values of a key or an index where the walk goes down. -/
def pairAt : Prim → Prim → Step → Option Prim × Option Prim
  | .dict ls, .dict rs, .key k => (ls.lookup k, rs.lookup k)
  | .list ls, .list rs, .item i => (ls[i]?, rs[i]?)
  | _, _, _ => (none, none)

/-- The difference at the end of steps, if there is one. -/
def diffAt : List Step → Prim → Prim → Option Difference
  | [], p, q => if differs p q then some ⟨.changed, p, q⟩ else none
  | x :: s, p, q =>
    match pairAt p q x with
    | (some p', some q') => diffAt s p' q'
    | (none, some q') => if s = [] then some ⟨.added, .none, q'⟩ else none
    | (some p', none) => if s = [] then some ⟨.removed, p', .none⟩ else none
    | (none, none) => none

section DiffAt

variable {p q p' q' : Prim} {x : Step} {s t : List Step} {d e : Difference}

theorem diffAt_both (h : pairAt p q x = (some p', some q')) :
    diffAt (x :: s) p q = diffAt s p' q' := by
  rw [diffAt, h]

theorem diffAt_added (h : pairAt p q x = (none, some q')) :
    diffAt (x :: s) p q = if s = [] then some ⟨.added, .none, q'⟩ else none := by
  rw [diffAt, h]

theorem diffAt_removed (h : pairAt p q x = (some p', none)) :
    diffAt (x :: s) p q = if s = [] then some ⟨.removed, p', .none⟩ else none := by
  rw [diffAt, h]

theorem diffAt_neither (h : pairAt p q x = (none, none)) : diffAt (x :: s) p q = none := by
  rw [diffAt, h]

/-- Where a difference is: at the values, below a child of both, or at a child of one. -/
theorem diffAt_some (h : diffAt s p q = some d) :
    (s = [] ∧ differs p q = true ∧ d = ⟨.changed, p, q⟩) ∨
      (∃ x t p' q', s = x :: t ∧ pairAt p q x = (some p', some q') ∧ diffAt t p' q' = some d) ∨
      (∃ x q', s = [x] ∧ pairAt p q x = (none, some q') ∧ d = ⟨.added, .none, q'⟩) ∨
      ∃ x p', s = [x] ∧ pairAt p q x = (some p', none) ∧ d = ⟨.removed, p', .none⟩ := by
  cases s with
  | nil =>
      unfold diffAt at h
      split at h
      · cases h
        exact .inl ⟨rfl, ‹_›, rfl⟩
      · cases h
  | cons x t =>
      rcases hpair : pairAt p q x with ⟨_ | p', _ | q'⟩
      · rw [diffAt_neither hpair] at h
        cases h
      · rw [diffAt_added hpair] at h
        split at h
        · cases h
          subst t
          exact .inr (.inr (.inl ⟨x, q', rfl, hpair, rfl⟩))
        · cases h
      · rw [diffAt_removed hpair] at h
        split at h
        · cases h
          subst t
          exact .inr (.inr (.inr ⟨x, p', rfl, hpair, rfl⟩))
        · cases h
      · rw [diffAt_both hpair] at h
        exact .inr (.inl ⟨x, t, p', q', rfl, hpair, h⟩)

/-- A child is a child of two dictionaries or of two lists. -/
theorem pairAt_cases (h : pairAt p q x ≠ (none, none)) :
    (∃ ls rs k, p = .dict ls ∧ q = .dict rs ∧ x = .key k) ∨
      ∃ ls rs i, p = .list ls ∧ q = .list rs ∧ x = .item i := by
  cases p with
  | dict ls =>
      cases q with
      | dict rs =>
          cases x with
          | key k => exact .inl ⟨ls, rs, k, rfl, rfl, rfl⟩
          | item i => exact absurd rfl h
      | _ => exact absurd rfl h
  | list ls =>
      cases q with
      | list rs =>
          cases x with
          | key k => exact absurd rfl h
          | item i => exact .inr ⟨ls, rs, i, rfl, rfl, rfl⟩
      | _ => exact absurd rfl h
  | _ => exact absurd rfl h

/-- Values that the walk goes down into do not differ themselves. -/
theorem differs_of_pairAt (h : pairAt p q x ≠ (none, none)) : differs p q = false := by
  rcases pairAt_cases h with ⟨ls, rs, k, rfl, rfl, -⟩ | ⟨ls, rs, i, rfl, rfl, -⟩
  · rfl
  · rfl

theorem pairAt_left (hp : JsonTree p) (h : (pairAt p q x).1 = some p') : JsonTree p' := by
  have hne : pairAt p q x ≠ (none, none) := by
    intro hnone
    rw [hnone] at h
    cases h
  rcases pairAt_cases hne with ⟨ls, rs, k, rfl, rfl, rfl⟩ | ⟨ls, rs, i, rfl, rfl, rfl⟩
  · exact (jsonFields_lookup hp.2 h).2
  · exact jsonItems_get hp h

theorem pairAt_right (hq : JsonTree q) (h : (pairAt p q x).2 = some q') : JsonTree q' := by
  have hne : pairAt p q x ≠ (none, none) := by
    intro hnone
    rw [hnone] at h
    cases h
  rcases pairAt_cases hne with ⟨ls, rs, k, rfl, rfl, rfl⟩ | ⟨ls, rs, i, rfl, rfl, rfl⟩
  · exact (jsonFields_lookup hq.2 h).2
  · exact jsonItems_get hq h

/-- A step to a child can be named. -/
theorem pairAt_keySteps (hp : JsonTree p) (hq : JsonTree q) (h : pairAt p q x ≠ (none, none))
    (hs : KeySteps s) : KeySteps (x :: s) := by
  rcases pairAt_cases h with ⟨ls, rs, k, rfl, rfl, rfl⟩ | ⟨ls, rs, i, rfl, rfl, rfl⟩
  · refine KeySteps.key ?_ hs
    cases hl : ls.lookup k with
    | some p => exact (jsonFields_lookup hp.2 hl).1
    | none =>
        cases hr : rs.lookup k with
        | some q => exact (jsonFields_lookup hq.2 hr).1
        | none => exact absurd (Prod.ext hl hr) h
  · exact KeySteps.item hs

/-- The keys of a difference are keys of the trees. -/
theorem diffAt_keySteps (hp : JsonTree p) (hq : JsonTree q) (h : diffAt s p q = some d) :
    KeySteps s := by
  induction s generalizing p q with
  | nil => exact KeySteps.nil
  | cons x t ih =>
      have hne : pairAt p q x ≠ (none, none) := by
        intro hnone
        rw [diffAt_neither hnone] at h
        cases h
      apply pairAt_keySteps hp hq hne
      rcases diffAt_some h with ⟨hs, -⟩ | ⟨y, t', p', q', hs, hpair, h⟩ | ⟨y, q', hs, -⟩ |
        ⟨y, p', hs, -⟩
      · cases hs
      · cases hs
        exact ih (pairAt_left hp (by rw [hpair])) (pairAt_right hq (by rw [hpair])) h
      · cases hs
        exact KeySteps.nil
      · cases hs
        exact KeySteps.nil

/-- No difference lies below another. -/
theorem diffAt_antichain (hs : diffAt s p q = some d) (hst : diffAt (s ++ t) p q = some e) :
    t = [] := by
  induction s generalizing p q with
  | nil =>
      cases t with
      | nil => rfl
      | cons x t =>
          have hdiffers : differs p q = true := by
            by_contra hno
            unfold diffAt at hs
            rw [if_neg hno] at hs
            cases hs
          have hne : pairAt p q x ≠ (none, none) := by
            intro hnone
            rw [List.nil_append, diffAt_neither hnone] at hst
            cases hst
          rw [differs_of_pairAt hne] at hdiffers
          cases hdiffers
  | cons x s ih =>
      rw [List.cons_append] at hst
      rcases hpair : pairAt p q x with ⟨_ | p', _ | q'⟩
      · rw [diffAt_neither hpair] at hs
        cases hs
      · rw [diffAt_added hpair] at hst
        split at hst
        · exact (List.append_eq_nil_iff.mp ‹_›).2
        · cases hst
      · rw [diffAt_removed hpair] at hst
        split at hst
        · exact (List.append_eq_nil_iff.mp ‹_›).2
        · cases hst
      · rw [diffAt_both hpair] at hs hst
        exact ih hs hst

end DiffAt

/-! ### The walk -/

/-- The change is that of a child, or below it. -/
def ChangeBelow (a b : Option Prim) (path : String) (x : Step) (c : FieldChange) : Prop :=
  match a, b with
  | some p, some q => ∃ s d, diffAt s p q = some d ∧ c = d.change path (x :: s)
  | none, some q => c = (Difference.mk .added .none q).change path [x]
  | some p, none => c = (Difference.mk .removed p .none).change path [x]
  | none, none => False

section Walk

variable {path : String} {c : FieldChange}

/-- A change of two values is one of theirs, or one of a child. -/
theorem exists_diffAt {p q : Prim} :
    (∃ s d, diffAt s p q = some d ∧ c = d.change path s) ↔
      (differs p q = true ∧ c = (Difference.mk .changed p q).change path []) ∨
        ∃ x, ChangeBelow (pairAt p q x).1 (pairAt p q x).2 path x c := by
  constructor
  · rintro ⟨s, d, h, rfl⟩
    rcases diffAt_some h with ⟨rfl, hdiffers, rfl⟩ | ⟨x, t, p', q', rfl, hpair, h⟩ |
      ⟨x, q', rfl, hpair, rfl⟩ | ⟨x, p', rfl, hpair, rfl⟩
    · exact .inl ⟨hdiffers, rfl⟩
    · refine .inr ⟨x, ?_⟩
      rw [hpair]
      exact ⟨t, d, h, rfl⟩
    · refine .inr ⟨x, ?_⟩
      rw [hpair]
      rfl
    · refine .inr ⟨x, ?_⟩
      rw [hpair]
      rfl
  · rintro (⟨hdiffers, rfl⟩ | ⟨x, h⟩)
    · exact ⟨[], _, if_pos hdiffers, rfl⟩
    · rcases hpair : pairAt p q x with ⟨_ | p', _ | q'⟩
      · rw [hpair] at h
        exact h.elim
      · rw [hpair] at h
        exact ⟨[x], _, by rw [diffAt_added hpair, if_pos rfl], h⟩
      · rw [hpair] at h
        exact ⟨[x], _, by rw [diffAt_removed hpair, if_pos rfl], h⟩
      · rw [hpair] at h
        obtain ⟨s, d, h, rfl⟩ := h
        exact ⟨x :: s, d, by rw [diffAt_both hpair, h], rfl⟩

theorem mem_inKeyOrder {groups : List (String × List FieldChange)} :
    c ∈ inKeyOrder groups ↔ ∃ g ∈ groups, c ∈ g.2 := by
  unfold inKeyOrder
  rw [List.mem_flatMap]
  constructor
  · rintro ⟨g, hg, hc⟩
    exact ⟨g, (List.mem_insertionSort _).mp hg, hc⟩
  · rintro ⟨g, hg, hc⟩
    exact ⟨g, (List.mem_insertionSort _).mpr hg, hc⟩

theorem childPath_ne {k : String} (h : isKey k = true) : childPath path k ≠ "" := by
  unfold childPath
  split
  · exact isKey_ne h
  · apply ne_empty_of_toList (c := '.')
    rw [String.toList_append, String.toList_append]
    exact List.mem_append_left _ (List.mem_append_right _ List.mem_cons_self)

theorem itemPath_ne (i : Nat) : itemPath path i ≠ "" := by
  apply ne_empty_of_toList (c := '[')
  rw [toList_itemPath]
  exact List.mem_append_right _ List.mem_cons_self

theorem pathText_key {k : String} (h : isKey k = true) :
    pathText path [.key k] = childPath path k := if_neg (childPath_ne h)

theorem pathText_item (i : Nat) : pathText path [.item i] = itemPath path i :=
  if_neg (itemPath_ne i)

/-- The added fields. -/
theorem mem_addedFields {ls rs : List (String × Prim)} (hr : JsonFields rs) :
    (∃ g ∈ addedFields ls rs path, c ∈ g.2) ↔
      ∃ k q, (k, q) ∈ rs ∧ ls.lookup k = none ∧
        c = (Difference.mk .added .none q).change path [.key k] := by
  unfold addedFields
  constructor
  · rintro ⟨g, hg, hc⟩
    obtain ⟨f, hf, rfl⟩ := List.mem_map.mp hg
    rw [List.mem_filter, Option.isNone_iff_eq_none] at hf
    refine ⟨f.1, f.2, hf.1, hf.2, ?_⟩
    rw [List.mem_singleton.mp hc]
    unfold Difference.change
    rw [pathText_key (jsonFields_mem hr hf.1).1]
  · rintro ⟨k, q, hmem, hl, rfl⟩
    refine ⟨_, List.mem_map_of_mem (List.mem_filter.mpr ⟨hmem, Option.isNone_iff_eq_none.mpr hl⟩),
      ?_⟩
    unfold Difference.change
    rw [pathText_key (jsonFields_mem hr hmem).1]
    exact List.mem_cons_self

/-- The items that only the right list has. -/
theorem mem_addedItems {rs : List Prim} {i : Nat} :
    c ∈ walkItems [] rs path i ↔ ∃ j, ChangeBelow none rs[j]? path (.item (i + j)) c := by
  rw [walkItems, List.mem_map]
  constructor
  · rintro ⟨⟨q, n⟩, hmem, rfl⟩
    obtain ⟨hle, hget⟩ := List.mk_mem_zipIdx_iff_le_and_getElem?_sub.mp hmem
    refine ⟨n - i, ?_⟩
    rw [hget, Nat.add_sub_cancel' hle]
    show _ = (Difference.mk .added .none q).change path [.item n]
    unfold Difference.change
    rw [pathText_item]
  · rintro ⟨j, h⟩
    cases hget : rs[j]? with
    | none =>
        rw [hget] at h
        exact h.elim
    | some q =>
        rw [hget] at h
        refine ⟨(q, i + j), List.mk_mem_zipIdx_iff_le_and_getElem?_sub.mpr
          ⟨Nat.le_add_right i j, by rw [Nat.add_sub_cancel_left, hget]⟩, ?_⟩
        rw [show c = _ from h]
        unfold Difference.change
        rw [pathText_item]

/-- The walk does not go down into these. -/
def Apart : Prim → Prim → Prop
  | .dict _, .dict _ => False
  | .list _, .list _ => False
  | _, _ => True

theorem walk_apart {p q : Prim} (h : Apart p q) :
    walk p q path = if Prim.same p q then [] else [⟨orRoot path, .changed, p, q⟩] := by
  cases p with
  | dict ls =>
      cases q with
      | dict rs => exact h.elim
      | _ => rfl
  | list ls =>
      cases q with
      | list rs => exact h.elim
      | _ => rfl
  | _ => rfl

theorem differs_apart {p q : Prim} (h : Apart p q) : differs p q = !Prim.same p q := by
  cases p with
  | dict ls =>
      cases q with
      | dict rs => exact h.elim
      | _ => rfl
  | list ls =>
      cases q with
      | list rs => exact h.elim
      | _ => rfl
  | _ => rfl

theorem pairAt_apart {p q : Prim} (h : Apart p q) (x : Step) : pairAt p q x = (none, none) := by
  by_contra hne
  rcases pairAt_cases hne with ⟨ls, rs, k, rfl, rfl, -⟩ | ⟨ls, rs, i, rfl, rfl, -⟩
  · exact h
  · exact h

theorem mem_walk_apart {p q : Prim} (h : Apart p q) :
    c ∈ walk p q path ↔ (differs p q = true ∧ c = (Difference.mk .changed p q).change path []) ∨
      ∃ x, ChangeBelow (pairAt p q x).1 (pairAt p q x).2 path x c := by
  have hnone : ¬∃ x, ChangeBelow (pairAt p q x).1 (pairAt p q x).2 path x c := by
    rintro ⟨x, hx⟩
    rw [pairAt_apart h] at hx
    exact hx
  rw [walk_apart h, differs_apart h, or_iff_left hnone]
  cases Prim.same p q with
  | true =>
      constructor
      · intro hc
        cases hc
      · rintro ⟨hfalse, -⟩
        cases hfalse
  | false =>
      constructor
      · intro hc
        exact ⟨rfl, List.mem_singleton.mp hc⟩
      · rintro ⟨-, rfl⟩
        exact List.mem_singleton.mpr rfl

theorem mem_of_lookup {fs : List (String × Prim)} {k : String} {p : Prim}
    (h : fs.lookup k = some p) : (k, p) ∈ fs := by
  obtain ⟨l₁, l₂, rfl, -⟩ := List.lookup_eq_some_iff.mp h
  exact List.mem_append_right _ List.mem_cons_self

/-- The changes of two dictionaries, given those of the left fields. -/
theorem mem_dict {ls rs : List (String × Prim)}
    (hl : JsonTree (.dict ls)) (hr : JsonTree (.dict rs))
    {groups added : List (String × List FieldChange)}
    (hfields : (∃ g ∈ groups, c ∈ g.2) ↔
      ∃ k p, (k, p) ∈ ls ∧ ChangeBelow (some p) (rs.lookup k) path (.key k) c)
    (hadded : (∃ g ∈ added, c ∈ g.2) ↔ ∃ k q, (k, q) ∈ rs ∧ ls.lookup k = none ∧
      c = (Difference.mk .added .none q).change path [.key k]) :
    (∃ g ∈ groups ++ added, c ∈ g.2) ↔
      (differs (.dict ls) (.dict rs) = true ∧
        c = (Difference.mk .changed (.dict ls) (.dict rs)).change path []) ∨
        ∃ x, ChangeBelow (pairAt (.dict ls) (.dict rs) x).1 (pairAt (.dict ls) (.dict rs) x).2
          path x c := by
  constructor
  · rintro ⟨g, hg, hc⟩
    rcases List.mem_append.mp hg with hg | hg
    · obtain ⟨k, p, hmem, h⟩ := hfields.mp ⟨g, hg, hc⟩
      refine .inr ⟨.key k, ?_⟩
      show ChangeBelow (ls.lookup k) (rs.lookup k) path (.key k) c
      rw [show ls.lookup k = some p from Prim.lookup_of_mem hl.1 hmem]
      exact h
    · obtain ⟨k, q, hmem, hlookup, h⟩ := hadded.mp ⟨g, hg, hc⟩
      refine .inr ⟨.key k, ?_⟩
      show ChangeBelow (ls.lookup k) (rs.lookup k) path (.key k) c
      rw [hlookup, show rs.lookup k = some q from Prim.lookup_of_mem hr.1 hmem]
      exact h
  · rintro (⟨hdiffers, -⟩ | ⟨x, h⟩)
    · cases hdiffers
    · cases x with
      | item i => exact h.elim
      | key k =>
          change ChangeBelow (ls.lookup k) (rs.lookup k) path (.key k) c at h
          cases hlookup : ls.lookup k with
          | some p =>
              rw [hlookup] at h
              obtain ⟨g, hg, hc⟩ := hfields.mpr ⟨k, p, mem_of_lookup hlookup, h⟩
              exact ⟨g, List.mem_append_left _ hg, hc⟩
          | none =>
              rw [hlookup] at h
              cases hright : rs.lookup k with
              | none =>
                  rw [hright] at h
                  exact h.elim
              | some q =>
                  rw [hright] at h
                  obtain ⟨g, hg, hc⟩ := hadded.mpr ⟨k, q, mem_of_lookup hright, hlookup, h⟩
                  exact ⟨g, List.mem_append_right _ hg, hc⟩

/-- One index more in front. -/
theorem exists_index {P : Nat → Prop} : (∃ j, P j) ↔ P 0 ∨ ∃ j, P (j + 1) := by
  constructor
  · rintro ⟨_ | j, h⟩
    · exact .inl h
    · exact .inr ⟨j, h⟩
  · rintro (h | ⟨j, h⟩)
    · exact ⟨0, h⟩
    · exact ⟨j + 1, h⟩

mutual

/-- The walk reports the differences of its trees. -/
theorem mem_walk (p q : Prim) (hp : JsonTree p) (hq : JsonTree q)
    (path : String) (c : FieldChange) :
    c ∈ walk p q path ↔ ∃ s d, diffAt s p q = some d ∧ c = d.change path s := by
  rw [exists_diffAt]
  cases p with
  | tuple items => exact hp.elim
  | dict ls =>
      cases q with
      | dict rs =>
          have hfields := mem_walkFields ls rs hp.2 hq.2 path c
          have hadded := @mem_addedFields path c ls rs hq.2
          rw [walk, mem_inKeyOrder, mem_dict hp hq hfields hadded]
      | _ => exact mem_walk_apart trivial
  | list ls =>
      cases q with
      | list rs =>
          rw [walk, mem_walkItems ls rs hp hq path 0 c]
          constructor
          · rintro ⟨j, h⟩
            rw [Nat.zero_add] at h
            exact .inr ⟨.item j, h⟩
          · rintro (⟨hdiffers, -⟩ | ⟨x, h⟩)
            · cases hdiffers
            · cases x with
              | key k => exact h.elim
              | item j => exact ⟨j, by rw [Nat.zero_add]; exact h⟩
      | _ => exact mem_walk_apart trivial
  | _ => exact mem_walk_apart trivial

theorem mem_walkFields (ls rs : List (String × Prim)) (hl : JsonFields ls) (hr : JsonFields rs)
    (path : String) (c : FieldChange) :
    (∃ g ∈ walkFields ls rs path, c ∈ g.2) ↔
      ∃ k p, (k, p) ∈ ls ∧ ChangeBelow (some p) (rs.lookup k) path (.key k) c := by
  cases ls with
  | nil =>
      constructor
      · rintro ⟨g, hg, -⟩
        cases hg
      · rintro ⟨k, p, hmem, -⟩
        cases hmem
  | cons f ls =>
      obtain ⟨k, p⟩ := f
      have ih := mem_walkFields ls rs hl.2.2 hr path c
      have hhead : c ∈ (match rs.lookup k with
          | some q => walk p q (childPath path k)
          | none => [⟨childPath path k, .removed, p, .none⟩]) ↔
          ChangeBelow (some p) (rs.lookup k) path (.key k) c := by
        cases hlookup : rs.lookup k with
        | some q =>
            exact mem_walk p q hl.2.1 (jsonFields_lookup hr hlookup).2 (childPath path k) c
        | none =>
            show c ∈ [_] ↔ c = _
            unfold Difference.change
            rw [pathText_key hl.1, List.mem_singleton]
      rw [walkFields]
      constructor
      · rintro ⟨g, hg, hc⟩
        rcases List.mem_cons.mp hg with rfl | hg
        · exact ⟨k, p, List.mem_cons_self, hhead.mp hc⟩
        · obtain ⟨k', p', hmem, h⟩ := ih.mp ⟨g, hg, hc⟩
          exact ⟨k', p', List.mem_cons_of_mem _ hmem, h⟩
      · rintro ⟨k', p', hmem, h⟩
        rcases List.mem_cons.mp hmem with heq | hmem
        · cases heq
          exact ⟨_, List.mem_cons_self, hhead.mpr h⟩
        · obtain ⟨g, hg, hc⟩ := ih.mpr ⟨k', p', hmem, h⟩
          exact ⟨g, List.mem_cons_of_mem _ hg, hc⟩

theorem mem_walkItems (ls rs : List Prim) (hl : JsonItems ls) (hr : JsonItems rs) (path : String)
    (i : Nat) (c : FieldChange) :
    c ∈ walkItems ls rs path i ↔ ∃ j, ChangeBelow ls[j]? rs[j]? path (.item (i + j)) c := by
  cases ls with
  | nil => exact mem_addedItems
  | cons p ls =>
    rw [exists_index]
    cases rs with
    | nil =>
      have ih := mem_walkItems ls [] hl.2 hr path (i + 1) c
      rw [walkItems, List.mem_cons, ih]
      apply or_congr
      · show c = _ ↔ c = (Difference.mk .removed p .none).change path [.item i]
        unfold Difference.change
        rw [pathText_item]
      · apply exists_congr
        intro j
        rw [Nat.add_right_comm, Nat.add_assoc]
        rfl
    | cons q rs =>
      have ih := mem_walkItems ls rs hl.2 hr.2 path (i + 1) c
      rw [walkItems, List.mem_append, mem_walk p q hl.1 hr.1 (itemPath path i) c, ih]
      apply or_congr
      · exact Iff.rfl
      · apply exists_congr
        intro j
        rw [Nat.add_right_comm, Nat.add_assoc]
        rfl

end

/-! ### Paths are reported once -/

/-- The path of some steps. -/
def Named (path : String) : Prop := ∃ u, KeySteps u ∧ path = render "" u

theorem Named.root : Named "" := ⟨[], KeySteps.nil, rfl⟩

theorem render_append (path : String) (u s : List Step) :
    render path (u ++ s) = render (render path u) s := by
  induction u generalizing path with
  | nil => rfl
  | cons x u ih => exact ih (x.below path)

theorem KeySteps.append {u s : List Step} (hu : KeySteps u) (hs : KeySteps s) :
    KeySteps (u ++ s) := by
  intro k hk
  rcases List.mem_append.mp hk with hk | hk
  · exact hu k hk
  · exact hs k hk

theorem Named.below {x : Step} (h : Named path) (hx : KeySteps [x]) : Named (x.below path) := by
  obtain ⟨u, hu, rfl⟩ := h
  exact ⟨u ++ [x], hu.append hx, (render_append "" u [x]).symm⟩

/-- Below such a path, the text tells the steps. -/
theorem Named.pathText_inj (h : Named path) {s t : List Step} (hs : KeySteps s) (ht : KeySteps t)
    (heq : pathText path s = pathText path t) : s = t := by
  obtain ⟨u, hu, rfl⟩ := h
  unfold pathText at heq
  rw [← render_append, ← render_append] at heq
  exact List.append_cancel_left (SpecDiffs.pathText_inj (hu.append hs) (hu.append ht) heq)

/-- The path of a change below a child goes through the child. -/
theorem ChangeBelow.path_eq {a b : Option Prim} {x : Step} (ha : ∀ p, a = some p → JsonTree p)
    (hb : ∀ q, b = some q → JsonTree q) (h : ChangeBelow a b path x c) :
    ∃ s, KeySteps s ∧ c.path = pathText path (x :: s) := by
  cases a with
  | none =>
      cases b with
      | none => exact h.elim
      | some q => exact ⟨[], KeySteps.nil, by rw [show c = _ from h]; rfl⟩
  | some p =>
      cases b with
      | none => exact ⟨[], KeySteps.nil, by rw [show c = _ from h]; rfl⟩
      | some q =>
          obtain ⟨s, d, hd, rfl⟩ := h
          exact ⟨s, diffAt_keySteps (ha p rfl) (hb q rfl) hd, rfl⟩

/-- The groups of the left fields, one for each. -/
theorem walkFields_keys (ls rs : List (String × Prim)) (path : String) :
    (walkFields ls rs path).map Prod.fst = ls.map Prod.fst := by
  induction ls with
  | nil => rfl
  | cons f ls ih =>
      obtain ⟨k, p⟩ := f
      rw [walkFields, List.map_cons, List.map_cons, ih]

/-- The changes of a group go through its key. -/
theorem group_path {ls rs : List (String × Prim)} (hl : JsonFields ls) (hr : JsonFields rs)
    {g : String × List FieldChange} (hg : g ∈ walkFields ls rs path ++ addedFields ls rs path)
    (hc : c ∈ g.2) :
    isKey g.1 = true ∧ ∃ s, KeySteps s ∧ c.path = pathText path (.key g.1 :: s) := by
  have hfields : ∀ ls, JsonFields ls → g ∈ walkFields ls rs path →
      isKey g.1 = true ∧ ∃ s, KeySteps s ∧ c.path = pathText path (.key g.1 :: s) := by
    intro ls hl hg
    induction ls with
    | nil => cases hg
    | cons f ls ih =>
        obtain ⟨k, p⟩ := f
        rw [walkFields] at hg
        rcases List.mem_cons.mp hg with rfl | hg
        · refine ⟨hl.1, ?_⟩
          have hone := (mem_walkFields [(k, p)] rs ⟨hl.1, hl.2.1, trivial⟩ hr path c).mp
            ⟨_, by rw [walkFields]; exact List.mem_cons_self, hc⟩
          obtain ⟨k', p', hmem, hbelow⟩ := hone
          cases List.mem_singleton.mp hmem
          exact hbelow.path_eq (fun p hp => by cases hp; exact hl.2.1)
            (fun q hq => (jsonFields_lookup hr hq).2)
        · exact ih hl.2.2 hg
  rcases List.mem_append.mp hg with hg | hg
  · exact hfields ls hl hg
  · unfold addedFields at hg
    obtain ⟨f, hf, rfl⟩ := List.mem_map.mp hg
    rw [List.mem_filter] at hf
    have hkey := (jsonFields_mem hr hf.1).1
    refine ⟨hkey, [], KeySteps.nil, ?_⟩
    rw [List.mem_singleton.mp hc, pathText_key hkey]

/-- The keys of the groups are distinct. -/
theorem groups_nodup {ls rs : List (String × Prim)} (hl : (ls.map Prod.fst).Nodup)
    (hr : (rs.map Prod.fst).Nodup) :
    ((walkFields ls rs path ++ addedFields ls rs path).map Prod.fst).Nodup := by
  have hadded : (addedFields ls rs path).map Prod.fst =
      (rs.filter fun f => (ls.lookup f.1).isNone).map Prod.fst := by
    unfold addedFields
    rw [List.map_map]
    rfl
  rw [List.map_append, walkFields_keys, hadded, List.nodup_append]
  refine ⟨hl, hr.sublist (List.filter_sublist.map _), ?_⟩
  rintro k hk k' hk' rfl
  obtain ⟨f, hf, rfl⟩ := List.mem_map.mp hk
  obtain ⟨f', hf', heq⟩ := List.mem_map.mp hk'
  have hnone := (List.mem_filter.mp hf').2
  rw [heq, Prim.lookup_of_mem hl hf] at hnone
  cases hnone

/-- Groups of distinct keys, whose changes go through their keys. -/
theorem inKeyOrder_nodup {groups : List (String × List FieldChange)} (hpath : Named path)
    (hthrough : ∀ g ∈ groups, ∀ c ∈ g.2, isKey g.1 = true ∧
      ∃ s, KeySteps s ∧ c.path = pathText path (.key g.1 :: s))
    (hkeys : (groups.map Prod.fst).Nodup) (heach : ∀ g ∈ groups, (g.2.map (·.path)).Nodup) :
    ((inKeyOrder groups).map (·.path)).Nodup := by
  have hperm : (inKeyOrder groups).Perm (groups.flatMap (·.2)) :=
    (List.perm_insertionSort _ _).flatMap_right _
  rw [(hperm.map _).nodup_iff, List.map_flatMap, List.nodup_flatMap]
  refine ⟨heach, ?_⟩
  rw [List.Nodup, List.pairwise_map] at hkeys
  refine hkeys.imp_of_mem fun {g g'} hg hg' hne => ?_
  intro x hx hx'
  obtain ⟨c, hc, rfl⟩ := List.mem_map.mp hx
  obtain ⟨c', hc', heq⟩ := List.mem_map.mp hx'
  obtain ⟨hkey, s, hs, hcpath⟩ := hthrough g hg c hc
  obtain ⟨hkey', s', hs', hcpath'⟩ := hthrough g' hg' c' hc'
  have heq : c'.path = c.path := heq
  rw [hcpath, hcpath'] at heq
  have hsteps := hpath.pathText_inj (KeySteps.key hkey' hs') (KeySteps.key hkey hs) heq
  exact hne (Step.key.inj (List.cons.inj hsteps).1).symm

/-- The changes of items go through their indices. -/
theorem items_path {ls rs : List Prim} (hl : JsonItems ls) (hr : JsonItems rs) {i : Nat}
    (hc : c ∈ walkItems ls rs path i) :
    ∃ j s, i ≤ j ∧ KeySteps s ∧ c.path = pathText path (.item j :: s) := by
  obtain ⟨j, hbelow⟩ := (mem_walkItems ls rs hl hr path i c).mp hc
  obtain ⟨s, hs, hcpath⟩ := hbelow.path_eq (fun p hp => jsonItems_get hl hp)
    (fun q hq => jsonItems_get hr hq)
  exact ⟨i + j, s, Nat.le_add_right i j, hs, hcpath⟩

/-- What goes through an index goes through no later one. -/
theorem item_path_ne (hpath : Named path) {i j : Nat} {s t : List Step} (hs : KeySteps s)
    (ht : KeySteps t) (hij : i < j) :
    pathText path (.item i :: s) ≠ pathText path (.item j :: t) := by
  intro heq
  have hsteps := hpath.pathText_inj (KeySteps.item hs) (KeySteps.item ht) heq
  have hindex := Step.item.inj (List.cons.inj hsteps).1
  exact absurd hindex (Nat.ne_of_lt hij)

mutual

/-- The walk reports a path once. -/
theorem walk_paths_nodup (p q : Prim) (hp : JsonTree p) (hq : JsonTree q) (path : String)
    (hpath : Named path) : ((walk p q path).map (·.path)).Nodup := by
  have hapart : Apart p q → ((walk p q path).map (·.path)).Nodup := by
    intro h
    rw [walk_apart h]
    split
    · exact List.nodup_nil
    · exact List.nodup_singleton _
  cases p with
  | tuple items => exact hp.elim
  | dict ls =>
      cases q with
      | dict rs =>
          rw [walk]
          apply inKeyOrder_nodup hpath
          · exact fun g hg c hc => group_path hp.2 hq.2 hg hc
          · exact groups_nodup hp.1 hq.1
          · intro g hg
            rcases List.mem_append.mp hg with hg | hg
            · exact walkFields_paths_nodup ls rs hp.2 hq.2 path hpath g hg
            · obtain ⟨f, -, rfl⟩ := List.mem_map.mp hg
              exact List.nodup_singleton _
      | _ => exact hapart trivial
  | list ls =>
      cases q with
      | list rs =>
          rw [walk]
          exact walkItems_paths_nodup ls rs hp hq path hpath 0
      | _ => exact hapart trivial
  | _ => exact hapart trivial

theorem walkFields_paths_nodup (ls rs : List (String × Prim)) (hl : JsonFields ls)
    (hr : JsonFields rs) (path : String) (hpath : Named path) :
    ∀ g ∈ walkFields ls rs path, (g.2.map (·.path)).Nodup := by
  cases ls with
  | nil => exact List.forall_mem_nil _
  | cons f ls =>
      obtain ⟨k, p⟩ := f
      rw [walkFields, List.forall_mem_cons]
      refine ⟨?_, walkFields_paths_nodup ls rs hl.2.2 hr path hpath⟩
      cases hlookup : rs.lookup k with
      | none => exact List.nodup_singleton _
      | some q =>
          exact walk_paths_nodup p q hl.2.1 (jsonFields_lookup hr hlookup).2 (childPath path k)
            (hpath.below (x := .key k) (KeySteps.key hl.1 KeySteps.nil))

theorem walkItems_paths_nodup (ls rs : List Prim) (hl : JsonItems ls) (hr : JsonItems rs)
    (path : String) (hpath : Named path) (i : Nat) :
    ((walkItems ls rs path i).map (·.path)).Nodup := by
  cases ls with
  | nil =>
      have hitems : (walkItems [] rs path i).map (·.path) =
          ((rs.zipIdx i).map Prod.snd).map (itemPath path) := by
        rw [walkItems, List.map_map, List.map_map]
        rfl
      rw [hitems, List.zipIdx_map_snd]
      refine (List.nodup_range').map_on fun j _ j' _ heq => ?_
      by_contra hne
      rcases Nat.lt_or_gt_of_ne hne with hlt | hlt
      · apply item_path_ne hpath KeySteps.nil KeySteps.nil hlt
        rw [pathText_item, pathText_item, heq]
      · apply item_path_ne hpath KeySteps.nil KeySteps.nil hlt
        rw [pathText_item, pathText_item, heq]
  | cons p ls =>
      cases rs with
      | nil =>
          rw [walkItems, List.map_cons, List.nodup_cons]
          refine ⟨fun hmem => ?_, walkItems_paths_nodup ls [] hl.2 hr path hpath (i + 1)⟩
          obtain ⟨c, hc, heq⟩ := List.mem_map.mp hmem
          obtain ⟨j, s, hij, hs, hcpath⟩ := items_path hl.2 hr hc
          have heq : c.path = itemPath path i := heq
          rw [hcpath, ← pathText_item] at heq
          exact item_path_ne hpath KeySteps.nil hs hij heq.symm
      | cons q rs =>
          rw [walkItems, List.map_append, List.nodup_append]
          refine ⟨walk_paths_nodup p q hl.1 hr.1 (itemPath path i)
            (hpath.below (x := .item i) (KeySteps.item KeySteps.nil)),
            walkItems_paths_nodup ls rs hl.2 hr.2 path hpath (i + 1), ?_⟩
          rintro x hx x' hx' rfl
          obtain ⟨c, hc, rfl⟩ := List.mem_map.mp hx
          obtain ⟨c', hc', heq⟩ := List.mem_map.mp hx'
          obtain ⟨s, d, hd, rfl⟩ := (mem_walk p q hl.1 hr.1 _ c).mp hc
          obtain ⟨j, t, hij, ht, hcpath⟩ := items_path hl.2 hr.2 hc'
          have heq : c'.path = pathText path (.item i :: s) := heq
          rw [hcpath] at heq
          exact item_path_ne hpath (diffAt_keySteps hl.1 hr.1 hd) ht hij heq.symm

end

end Walk

end SpecDiffs

end SpecStyle
