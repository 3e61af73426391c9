/-
SpecStyle/Spec/DiffApply.lean

The laws of the semantic diff.

A JSON value is a tree whose dictionaries are maps (`Tree`); two dumps are the
same value when their trees are equal.  A list of changes is applied to a tree
from the root down: a changed value is replaced, a removed child is dropped, an
added one is put in (`applyTree`).
-/
import SpecStyle.Spec.DiffLaws

namespace SpecStyle

open PyLib

namespace SpecDiffs

/-! ### Mirrored changes -/

def ChangeKind.mirror : ChangeKind → ChangeKind
  | .added => .removed
  | .removed => .added
  | .changed => .changed

/-- The change the other way around. -/
def FieldChange.mirror (c : FieldChange) : FieldChange :=
  ⟨c.path, ChangeKind.mirror c.kind, c.after, c.before⟩

def Difference.mirror (d : Difference) : Difference :=
  ⟨ChangeKind.mirror d.kind, d.after, d.before⟩

/-- Whether two values that are no numbers are the same. -/
def sameWord : Prim → Prim → Bool
  | .none, .none => true
  | .str s, .str t => s == t
  | _, _ => false

theorem sameWord_comm (p q : Prim) : sameWord p q = sameWord q p := by
  cases p with
  | none => cases q <;> rfl
  | str s =>
      cases q with
      | str t => exact Bool.beq_comm
      | _ => rfl
  | _ => cases q <;> rfl

/-- Numbers are compared by value, other values as words. -/
theorem same_eq (p q : Prim) : Prim.same p q =
    match Prim.units p, Prim.units q with
    | some a, some b => a == b
    | none, none => sameWord p q
    | _, _ => false := by
  unfold Prim.same
  cases Prim.units p with
  | some a => cases Prim.units q <;> rfl
  | none => cases Prim.units q <;> rfl

theorem same_comm (p q : Prim) : Prim.same p q = Prim.same q p := by
  rw [same_eq, same_eq]
  cases Prim.units p with
  | some a =>
      cases Prim.units q with
      | some b => exact Bool.beq_comm
      | none => rfl
  | none =>
      cases Prim.units q with
      | some b => rfl
      | none => exact sameWord_comm p q

/-- The walk goes down into two dictionaries or two lists. -/
theorem dicts_or_lists {p q : Prim} (h : ¬Apart p q) :
    (∃ ls rs, p = .dict ls ∧ q = .dict rs) ∨ ∃ ls rs, p = .list ls ∧ q = .list rs := by
  cases p with
  | dict ls =>
      cases q with
      | dict rs => exact .inl ⟨ls, rs, rfl, rfl⟩
      | _ => exact absurd trivial h
  | list ls =>
      cases q with
      | list rs => exact .inr ⟨ls, rs, rfl, rfl⟩
      | _ => exact absurd trivial h
  | _ => exact absurd trivial h

theorem differs_comm (p q : Prim) : differs p q = differs q p := by
  have hcomm := congrArg not (same_comm p q)
  have hswap : Apart p q → Apart q p := by
    intro h
    cases p <;> cases q <;> first | exact h.elim | exact trivial
  by_cases h : Apart p q
  · rw [differs_apart h, differs_apart (hswap h), hcomm]
  · rcases dicts_or_lists h with ⟨ls, rs, rfl, rfl⟩ | ⟨ls, rs, rfl, rfl⟩
    · rfl
    · rfl

theorem pairAt_swap (p q : Prim) (x : Step) : pairAt q p x = (pairAt p q x).swap := by
  cases p with
  | dict ls => cases q <;> cases x <;> rfl
  | list ls => cases q <;> cases x <;> rfl
  | _ => cases q <;> rfl

/-- The differences of the exchanged trees. -/
theorem diffAt_mirror (p q : Prim) (s : List Step) :
    diffAt s q p = (diffAt s p q).map Difference.mirror := by
  induction s generalizing p q with
  | nil =>
      unfold diffAt
      rw [differs_comm q p]
      split <;> rfl
  | cons x s ih =>
      rcases hpair : pairAt p q x with ⟨_ | p', _ | q'⟩
      · rw [diffAt_neither hpair, diffAt_neither (by rw [pairAt_swap p q, hpair]; rfl)]
        rfl
      · rw [diffAt_added hpair, diffAt_removed (by rw [pairAt_swap p q, hpair]; rfl)]
        split <;> rfl
      · rw [diffAt_removed hpair, diffAt_added (by rw [pairAt_swap p q, hpair]; rfl)]
        split <;> rfl
      · rw [diffAt_both hpair, diffAt_both (by rw [pairAt_swap p q, hpair]; rfl)]
        exact ih p' q'

/-! ### Changes in order -/

/-- The changes that `semantic_diff` reports of two dumps. -/
def changesOf (l r : Prim) : List FieldChange :=
  (walk l r "").insertionSort fun a b => a.path ≤ b.path

theorem semanticDiff_changes (pydantic : Spec.Pydantic) (left right : Spec.StyleSpec) :
    (Spec.semanticDiff pydantic left right).changes =
      changesOf (pydantic.modelDump left) (pydantic.modelDump right) := rfl

section Changes

variable {l r : Prim}

theorem mem_changesOf (hl : JsonTree l) (hr : JsonTree r) {c : FieldChange} :
    c ∈ changesOf l r ↔ ∃ s d, diffAt s l r = some d ∧ c = d.change "" s :=
  (List.mem_insertionSort _).trans (mem_walk l r hl hr "" c)

theorem changesOf_paths_nodup (hl : JsonTree l) (hr : JsonTree r) :
    ((changesOf l r).map (·.path)).Nodup :=
  ((List.perm_insertionSort _ _).map _).nodup_iff.mpr
    (walk_paths_nodup l r hl hr "" Named.root)

/-- Of one path there is one change. -/
theorem changesOf_unique (hl : JsonTree l) (hr : JsonTree r) {c c' : FieldChange}
    (hc : c ∈ changesOf l r) (hc' : c' ∈ changesOf l r) (h : c.path = c'.path) : c = c' :=
  List.inj_on_of_nodup_map (changesOf_paths_nodup hl hr) hc hc' h

theorem changesOf_sorted (l r : Prim) :
    (changesOf l r).Pairwise fun a b => a.path ≤ b.path := by
  have : Std.Total fun a b : FieldChange => a.path ≤ b.path :=
    ⟨fun a b => String.le_total a.path b.path⟩
  have : IsTrans FieldChange fun a b => a.path ≤ b.path :=
    ⟨fun a b c hab hbc => String.le_trans hab hbc⟩
  exact List.pairwise_insertionSort _ _

/-- The changes of the exchanged trees are the mirrored ones. -/
theorem changesOf_mirror (hl : JsonTree l) (hr : JsonTree r) :
    changesOf r l = (changesOf l r).map FieldChange.mirror := by
  have hmem : ∀ c, c ∈ changesOf r l ↔ c ∈ (changesOf l r).map FieldChange.mirror := by
    intro c
    rw [mem_changesOf hr hl, List.mem_map]
    constructor
    · rintro ⟨s, d, hd, rfl⟩
      rw [diffAt_mirror l r, Option.map_eq_some_iff] at hd
      obtain ⟨e, he, rfl⟩ := hd
      exact ⟨e.change "" s, (mem_changesOf hl hr).mpr ⟨s, e, he, rfl⟩, rfl⟩
    · rintro ⟨c, hc, rfl⟩
      obtain ⟨s, d, hd, rfl⟩ := (mem_changesOf hl hr).mp hc
      exact ⟨s, d.mirror, by rw [diffAt_mirror l r, hd]; rfl, rfl⟩
  have hpaths : ((changesOf l r).map FieldChange.mirror).map (·.path) =
      (changesOf l r).map (·.path) := by
    rw [List.map_map]
    rfl
  have hnodup : ((changesOf l r).map FieldChange.mirror).Nodup := by
    apply List.Nodup.of_map (·.path)
    rw [hpaths]
    exact changesOf_paths_nodup hl hr
  have hperm : (changesOf r l).Perm ((changesOf l r).map FieldChange.mirror) :=
    (List.perm_ext_iff_of_nodup (List.Nodup.of_map _ (changesOf_paths_nodup hr hl)) hnodup).mpr hmem
  refine hperm.eq_of_pairwise (fun a b ha hb hab hba => ?_) (changesOf_sorted r l) ?_
  · exact changesOf_unique hr hl ha ((hmem b).mpr hb) (String.le_antisymm hab hba)
  · rw [List.pairwise_map]
    exact changesOf_sorted l r

end Changes

/-! ### Trees -/

/-- A value without parts.  A number counts by its value, as the source compares it. -/
inductive Leaf where
  | null
  | boolean (b : Bool)
  | number (units : Int)
  | string (s : Text)

/-- A JSON value, with a dictionary as a map from its keys and a list as a map from
its indices. -/
inductive Tree where
  | leaf (v : Leaf)
  | list (items : Nat → Option Tree)
  | dict (fields : String → Option Tree)

mutual

/-- The value that a dump is. -/
def tree : Prim → Tree
  | .none => .leaf .null
  | .bool b => .leaf (.boolean b)
  | .int n => .leaf (.number (n * Binary64.one.value))
  | .float x => .leaf (.number x.value)
  | .str s => .leaf (.string s)
  | .list items => .list (treeItems items)
  | .tuple items => .list (treeItems items)
  | .dict fields => .dict (treeFields fields)

def treeItems : List Prim → Nat → Option Tree
  | [], _ => none
  | p :: _, 0 => some (tree p)
  | _ :: ps, i + 1 => treeItems ps i

def treeFields : List (String × Prim) → String → Option Tree
  | [], _ => none
  | (k, p) :: fs, key => if key == k then some (tree p) else treeFields fs key

end

theorem treeItems_eq (ps : List Prim) (i : Nat) : treeItems ps i = ps[i]?.map tree := by
  induction ps generalizing i with
  | nil => rfl
  | cons p ps ih =>
      cases i with
      | zero => rfl
      | succ i => exact ih i

theorem treeFields_eq (fs : List (String × Prim)) (k : String) :
    treeFields fs k = (fs.lookup k).map tree := by
  induction fs with
  | nil => rfl
  | cons f fs ih =>
      obtain ⟨k', p⟩ := f
      rw [treeFields, List.lookup_cons]
      cases k == k' with
      | true => rfl
      | false => exact ih

section Apply

variable (changes : List FieldChange)

/-- The change reported for a path. -/
def changeAt (path : String) : Option FieldChange := changes.find? fun c => c.path == path

/-- A changed value is replaced. -/
def setAt (path : String) (t : Tree) : Tree :=
  match changeAt changes (orRoot path) with
  | some c => if c.kind = .changed then tree c.after else t
  | none => t

/-- An added child is put in, a removed one is dropped. -/
def childAt (path : String) (old : Option Tree) : Option Tree :=
  match changeAt changes path with
  | some ⟨_, .added, _, after⟩ => some (tree after)
  | some ⟨_, .removed, _, _⟩ => none
  | _ => old

mutual

/-- The changes made in a tree at a path. -/
def applyTree : Tree → String → Tree
  | .leaf v, path => setAt changes path (.leaf v)
  | .list items, path => setAt changes path (.list fun i =>
      childAt changes (itemPath path i) (applyChild (items i) (itemPath path i)))
  | .dict fields, path => setAt changes path (.dict fun k =>
      if isKey k then childAt changes (childPath path k) (applyChild (fields k) (childPath path k))
      else fields k)

def applyChild : Option Tree → String → Option Tree
  | none, _ => none
  | some t, path => some (applyTree t path)

end

end Apply

/-! ### Equal trees -/

/-- The types of JSON leaves. -/
inductive JsonType where
  | null | boolean | number | string

def Leaf.type : Leaf → JsonType
  | .null => .null
  | .boolean _ => .boolean
  | .number _ => .number
  | .string _ => .string

/-- The value at the end of steps. -/
def subAt : List Step → Prim → Option Prim
  | [], p => some p
  | .key k :: s, .dict fs => (fs.lookup k).bind (subAt s)
  | .item i :: s, .list ps => ps[i]?.bind (subAt s)
  | _, _ => none

/-- Two leaves at one path have the same JSON type. -/
def SameTypes (l r : Prim) : Prop :=
  ∀ s p q v w, subAt s l = some p → subAt s r = some q → tree p = .leaf v → tree q = .leaf w →
    v.type = w.type

theorem subAt_pair {p q p' q' : Prim} {x : Step} (h : pairAt p q x = (some p', some q'))
    (s : List Step) : subAt (x :: s) p = subAt s p' ∧ subAt (x :: s) q = subAt s q' := by
  have hne : pairAt p q x ≠ (none, none) := by
    rw [h]
    exact fun heq => by cases heq
  rcases pairAt_cases hne with ⟨ls, rs, k, rfl, rfl, rfl⟩ | ⟨ls, rs, i, rfl, rfl, rfl⟩
  · have hl : ls.lookup k = some p' := congrArg Prod.fst h
    have hr : rs.lookup k = some q' := congrArg Prod.snd h
    exact ⟨by rw [subAt, hl]; rfl, by rw [subAt, hr]; rfl⟩
  · have hl : ls[i]? = some p' := congrArg Prod.fst h
    have hr : rs[i]? = some q' := congrArg Prod.snd h
    exact ⟨by rw [subAt, hl]; rfl, by rw [subAt, hr]; rfl⟩

theorem SameTypes.pair {p q p' q' : Prim} {x : Step} (h : SameTypes p q)
    (hpair : pairAt p q x = (some p', some q')) : SameTypes p' q' := by
  intro s a b v w ha hb
  obtain ⟨hl, hr⟩ := subAt_pair hpair s
  exact h (x :: s) a b v w (hl.trans ha) (hr.trans hb)

theorem one_value_ne : Binary64.one.value ≠ 0 := by
  have hunits : 0 < Binary64.one.units := by
    unfold Binary64.one
    positivity
  exact Int.natCast_ne_zero.mpr (Nat.ne_of_gt hunits)

/-- A number is a truth value or counts by its units. -/
theorem tree_of_units {p : Prim} {a : Int} (h : Prim.units p = some a) :
    (∃ b : Bool, p = .bool b ∧ a = b.toNat * Binary64.one.value) ∨
      tree p = .leaf (.number a) := by
  cases p with
  | bool b => exact .inl ⟨b, rfl, (Option.some.inj h).symm⟩
  | int n => exact .inr (by rw [← Option.some.inj h, tree])
  | float x => exact .inr (by rw [← Option.some.inj h, tree])
  | _ => cases h

theorem sameWord_eq {p q : Prim} (h : sameWord p q = true) : p = q := by
  cases p with
  | none => cases q <;> first | rfl | cases h
  | str s =>
      cases q with
      | str t => rw [eq_of_beq h]
      | _ => cases h
  | _ => cases q <;> cases h

/-- Only leaves compare equal. -/
theorem leaf_of_same {p q : Prim} (h : Prim.same p q = true) : ∃ v, tree p = .leaf v := by
  rw [same_eq] at h
  cases hp : Prim.units p with
  | some a =>
      rcases tree_of_units hp with ⟨b, rfl, -⟩ | hnum
      · exact ⟨.boolean b, by rw [tree]⟩
      · exact ⟨_, hnum⟩
  | none =>
      rw [hp] at h
      cases p with
      | none => exact ⟨.null, by rw [tree]⟩
      | str s => exact ⟨.string s, by rw [tree]⟩
      | bool b => cases hp
      | int n => cases hp
      | float x => cases hp
      | _ => cases hq : Prim.units q <;> rw [hq] at h <;> cases h

/-- Values that compare equal and have one type are one leaf. -/
theorem tree_eq_of_same {p q : Prim} (htypes : SameTypes p q) (h : Prim.same p q = true) :
    tree p = tree q := by
  rw [same_eq] at h
  cases hp : Prim.units p with
  | none =>
      cases hq : Prim.units q with
      | none =>
          rw [hp, hq] at h
          rw [sameWord_eq h]
      | some b =>
          rw [hp, hq] at h
          cases h
  | some a =>
      cases hq : Prim.units q with
      | none =>
          rw [hp, hq] at h
          cases h
      | some b =>
          rw [hp, hq] at h
          have hab : a = b := eq_of_beq h
          rcases tree_of_units hp with ⟨x, rfl, hx⟩ | hnum
          · rcases tree_of_units hq with ⟨y, rfl, hy⟩ | hnum'
            · rw [hx, hy] at hab
              have hxy := Int.eq_of_mul_eq_mul_right one_value_ne hab
              cases x <;> cases y <;> first | rfl | exact absurd hxy (by decide)
            · exact absurd (htypes [] _ _ _ _ rfl rfl (by rw [tree]) hnum') (by simp [Leaf.type])
          · rcases tree_of_units hq with ⟨y, rfl, hy⟩ | hnum'
            · exact absurd (htypes [] _ _ _ _ rfl rfl hnum (by rw [tree])) (by simp [Leaf.type])
            · rw [hnum, hnum', hab]

/-- A value that is no number has no such leaf. -/
theorem tree_of_no_units {p : Prim} (h : Prim.units p = none) :
    (∀ b, tree p ≠ .leaf (.boolean b)) ∧ ∀ a, tree p ≠ .leaf (.number a) := by
  cases p with
  | bool b => cases h
  | int n => cases h
  | float x => cases h
  | _ =>
      rw [tree]
      exact ⟨fun _ heq => (by cases heq), fun _ heq => (by cases heq)⟩

theorem sameWord_of_tree_eq {p q : Prim} (hp : JsonTree p) (hq : JsonTree q) (hapart : Apart p q)
    (hunits : Prim.units p = none) (hunits' : Prim.units q = none) (h : tree p = tree q) :
    sameWord p q = true := by
  cases p with
  | tuple items => exact hp.elim
  | bool b => cases hunits
  | int n => cases hunits
  | float x => cases hunits
  | none =>
      cases q with
      | none => rfl
      | _ => rw [tree, tree] at h; cases h
  | str s =>
      cases q with
      | str t =>
          rw [tree, tree] at h
          cases h
          exact beq_self_eq_true s
      | _ => rw [tree, tree] at h; cases h
  | list ls =>
      cases q with
      | tuple items => exact hq.elim
      | list rs => exact hapart.elim
      | _ => rw [tree, tree] at h; cases h
  | dict ls =>
      cases q with
      | dict rs => exact hapart.elim
      | _ => rw [tree, tree] at h; cases h

/-- Values with one tree do not differ. -/
theorem differs_of_tree_eq {p q : Prim} (hp : JsonTree p) (hq : JsonTree q) (h : tree p = tree q) :
    differs p q = false := by
  by_cases hapart : Apart p q
  · rw [differs_apart hapart, Bool.not_eq_false', same_eq]
    cases hpu : Prim.units p with
    | none =>
        cases hqu : Prim.units q with
        | none => exact sameWord_of_tree_eq hp hq hapart hpu hqu h
        | some b =>
            rcases tree_of_units hqu with ⟨y, rfl, -⟩ | hnum
            · exact absurd (h.trans (by rw [tree])) ((tree_of_no_units hpu).1 y)
            · exact absurd (h.trans hnum) ((tree_of_no_units hpu).2 b)
    | some a =>
        cases hqu : Prim.units q with
        | none =>
            rcases tree_of_units hpu with ⟨x, rfl, -⟩ | hnum
            · exact absurd (h.symm.trans (by rw [tree])) ((tree_of_no_units hqu).1 x)
            · exact absurd (h.symm.trans hnum) ((tree_of_no_units hqu).2 a)
        | some b =>
            apply beq_iff_eq.mpr
            rcases tree_of_units hpu with ⟨x, rfl, hx⟩ | hnum
            · rcases tree_of_units hqu with ⟨y, rfl, hy⟩ | hnum'
              · rw [tree, tree] at h
                cases h
                rw [hx, hy]
              · rw [hnum', tree] at h
                cases h
            · rcases tree_of_units hqu with ⟨y, rfl, hy⟩ | hnum'
              · rw [hnum, tree] at h
                cases h
              · rw [hnum, hnum'] at h
                cases h
                rfl
  · rcases dicts_or_lists hapart with ⟨ls, rs, rfl, rfl⟩ | ⟨ls, rs, rfl, rfl⟩
    · rfl
    · rfl

/-- The children of values with one tree have one tree. -/
theorem pairAt_of_tree_eq {p q : Prim} (h : tree p = tree q) (x : Step) :
    (pairAt p q x).1.map tree = (pairAt p q x).2.map tree := by
  by_cases hpair : pairAt p q x = (none, none)
  · rw [hpair]
  · rcases pairAt_cases hpair with ⟨ls, rs, k, rfl, rfl, rfl⟩ | ⟨ls, rs, i, rfl, rfl, rfl⟩
    · rw [tree, tree] at h
      have hk := congrFun (Tree.dict.inj h) k
      rw [treeFields_eq, treeFields_eq] at hk
      exact hk
    · rw [tree, tree] at h
      have hi := congrFun (Tree.list.inj h) i
      rw [treeItems_eq, treeItems_eq] at hi
      exact hi

/-- Values with one tree have no difference. -/
theorem diffAt_of_tree_eq {p q : Prim} (hp : JsonTree p) (hq : JsonTree q) (h : tree p = tree q)
    (s : List Step) : diffAt s p q = none := by
  induction s generalizing p q with
  | nil =>
      unfold diffAt
      rw [differs_of_tree_eq hp hq h]
      rfl
  | cons x s ih =>
      have hchildren := pairAt_of_tree_eq h x
      rcases hpair : pairAt p q x with ⟨_ | p', _ | q'⟩
      · exact diffAt_neither hpair
      · rw [hpair] at hchildren
        cases hchildren
      · rw [hpair] at hchildren
        cases hchildren
      · rw [hpair] at hchildren
        rw [diffAt_both hpair]
        exact ih (pairAt_left hp (by rw [hpair])) (pairAt_right hq (by rw [hpair]))
          (Option.some.inj hchildren)

/-! ### Applying the changes -/

/-- The changes below a path are the differences of two values. -/
def Agree (changes : List FieldChange) (path : String) (p q : Prim) : Prop :=
  ∀ s, KeySteps s →
    changeAt changes (pathText path s) = (diffAt s p q).map fun d => d.change path s

section Apply

variable {changes : List FieldChange} {path : String}

theorem Agree.pair {p q p' q' : Prim} {x : Step} (h : Agree changes path p q)
    (hx : KeySteps [x]) (hpair : pairAt p q x = (some p', some q')) :
    Agree changes (x.below path) p' q' := by
  intro s hs
  have hxs : KeySteps (x :: s) := KeySteps.append hx hs
  have hstep := h (x :: s) hxs
  rw [diffAt_both hpair] at hstep
  exact hstep

theorem below_text {x : Step} (hx : KeySteps [x]) : pathText path [x] = x.below path := by
  cases x with
  | key k => exact pathText_key (hx k List.mem_cons_self)
  | item i => exact pathText_item i

/-- A child of the left value becomes that of the right. -/
theorem childAt_eq {p q : Prim} {x : Step} (h : Agree changes path p q) (hx : KeySteps [x])
    (hboth : ∀ p' q', pairAt p q x = (some p', some q') →
      applyTree changes (tree p') (x.below path) = tree q') :
    childAt changes (x.below path)
        (applyChild changes ((pairAt p q x).1.map tree) (x.below path)) =
      (pairAt p q x).2.map tree := by
  have hat := h [x] hx
  rw [below_text hx] at hat
  unfold childAt
  rw [hat]
  rcases hpair : pairAt p q x with ⟨_ | p', _ | q'⟩
  · rw [diffAt_neither hpair]
    rfl
  · rw [diffAt_added hpair]
    rfl
  · rw [diffAt_removed hpair]
    rfl
  · have hchild : applyChild changes ((some p').map tree) (x.below path) = some (tree q') := by
      show some (applyTree changes (tree p') (x.below path)) = _
      rw [hboth p' q' hpair]
    rw [diffAt_both hpair, hchild]
    unfold diffAt
    cases differs p' q' <;> rfl

/-- Where the values differ themselves, the right one is set. -/
theorem applyTree_changed {p q : Prim}
    (h : Agree changes path p q) (hdiffers : differs p q = true) :
    ∀ t, applyTree changes t path = tree q := by
  have hset : ∀ t, setAt changes path t = tree q := by
    intro t
    have hat := h [] KeySteps.nil
    unfold setAt
    rw [show changeAt changes (orRoot path) = _ from hat]
    unfold diffAt
    rw [if_pos hdiffers]
    rfl
  intro t
  cases t <;> exact hset _

/-- Where they do not, nothing is set. -/
theorem setAt_same {p q : Prim} (h : Agree changes path p q) (hdiffers : differs p q = false)
    (t : Tree) : setAt changes path t = t := by
  have hat := h [] KeySteps.nil
  unfold setAt
  rw [show changeAt changes (orRoot path) = _ from hat]
  unfold diffAt
  rw [hdiffers]
  rfl

/-- The changes of two values make the right one of the left one. -/
def Applies (p : Prim) : Prop :=
  ∀ {changes : List FieldChange} {path : String} (q : Prim), JsonTree p → JsonTree q →
    SameTypes p q → Agree changes path p q → applyTree changes (tree p) path = tree q

/-- Two values that the walk does not go down into. -/
theorem applies_apart {p q : Prim} (hapart : Apart p q) (htypes : SameTypes p q)
    (h : Agree changes path p q) : applyTree changes (tree p) path = tree q := by
  cases hdiffers : differs p q with
  | true => exact applyTree_changed h hdiffers _
  | false =>
      have hsame : Prim.same p q = true := by
        rw [← Bool.not_eq_false', ← differs_apart hapart]
        exact hdiffers
      obtain ⟨v, hv⟩ := leaf_of_same hsame
      rw [← tree_eq_of_same htypes hsame, hv]
      exact setAt_same h hdiffers (.leaf v)

mutual

theorem applies (p : Prim) : Applies p := by
  intro changes path q hp hq htypes h
  cases p with
  | tuple items => exact hp.elim
  | dict ls =>
      cases q with
      | dict rs =>
          have hfields := applies_fields ls
          rw [tree, tree, applyTree, setAt_same h rfl]
          congr 1
          funext k
          rw [treeFields_eq, treeFields_eq]
          by_cases hk : isKey k = true
          · rw [if_pos hk]
            refine childAt_eq (x := .key k) h (KeySteps.key hk KeySteps.nil) ?_
            intro p' q' hpair
            exact hfields (k, p') (mem_of_lookup (congrArg Prod.fst hpair)) q'
              (pairAt_left hp (congrArg Prod.fst hpair)) (pairAt_right hq (congrArg Prod.snd hpair))
              (htypes.pair hpair) (h.pair (KeySteps.key hk KeySteps.nil) hpair)
          · rw [if_neg hk]
            have hnone : ∀ {fs : List (String × Prim)}, JsonFields fs → fs.lookup k = none := by
              intro fs hfs
              by_contra hsome
              obtain ⟨v, hv⟩ := Option.ne_none_iff_exists'.mp hsome
              exact hk (jsonFields_lookup hfs hv).1
            rw [hnone hp.2, hnone hq.2]
      | _ => exact applies_apart trivial htypes h
  | list ls =>
      cases q with
      | list rs =>
          have hitems := applies_items ls
          rw [tree, tree, applyTree, setAt_same h rfl]
          congr 1
          funext i
          rw [treeItems_eq, treeItems_eq]
          refine childAt_eq (x := .item i) h (KeySteps.item KeySteps.nil) ?_
          intro p' q' hpair
          exact hitems p' (List.mem_of_getElem? (congrArg Prod.fst hpair)) q'
            (pairAt_left hp (congrArg Prod.fst hpair)) (pairAt_right hq (congrArg Prod.snd hpair))
            (htypes.pair hpair) (h.pair (KeySteps.item KeySteps.nil) hpair)
      | _ => exact applies_apart trivial htypes h
  | _ => exact applies_apart trivial htypes h

theorem applies_items (ps : List Prim) : ∀ p ∈ ps, Applies p := by
  cases ps with
  | nil => exact List.forall_mem_nil _
  | cons p ps =>
      rw [List.forall_mem_cons]
      exact ⟨applies p, applies_items ps⟩

theorem applies_fields (fs : List (String × Prim)) : ∀ f ∈ fs, Applies f.2 := by
  cases fs with
  | nil => exact List.forall_mem_nil _
  | cons f fs =>
      obtain ⟨k, p⟩ := f
      rw [List.forall_mem_cons]
      exact ⟨applies p, applies_fields fs⟩

end

end Apply

section Laws

variable {l r : Prim}

/-- The reported changes are the differences. -/
theorem changesOf_agree (hl : JsonTree l) (hr : JsonTree r) : Agree (changesOf l r) "" l r := by
  intro s hs
  unfold changeAt
  cases hd : diffAt s l r with
  | none =>
      rw [Option.map_none, List.find?_eq_none]
      intro c hc hpath
      obtain ⟨t, d, ht, rfl⟩ := (mem_changesOf hl hr).mp hc
      rw [beq_iff_eq] at hpath
      rw [← pathText_inj (diffAt_keySteps hl hr ht) hs hpath, ht] at hd
      cases hd
  | some d =>
      have hmem : d.change "" s ∈ changesOf l r := (mem_changesOf hl hr).mpr ⟨s, d, hd, rfl⟩
      rw [Option.map_some]
      cases hfind : (changesOf l r).find? fun c => c.path == pathText "" s with
      | none => exact absurd (beq_self_eq_true _) (List.find?_eq_none.mp hfind _ hmem)
      | some c =>
          have hpath := List.find?_some hfind
          rw [beq_iff_eq] at hpath
          rw [changesOf_unique hl hr (List.mem_of_find?_eq_some hfind) hmem hpath]

/-- Setting the changes in the left tree gives the right one. -/
theorem applyTree_changesOf (hl : JsonTree l) (hr : JsonTree r) (h : SameTypes l r) :
    applyTree (changesOf l r) (tree l) "" = tree r :=
  applies l r hl hr h (changesOf_agree hl hr)

/-- Equal trees, and no others, have no changes. -/
theorem changesOf_eq_nil (hl : JsonTree l) (hr : JsonTree r) (h : SameTypes l r) :
    changesOf l r = [] ↔ tree l = tree r := by
  constructor
  · intro hnil
    have hself : changesOf l l = [] := by
      rw [List.eq_nil_iff_forall_not_mem]
      intro c hc
      obtain ⟨s, d, hd, -⟩ := (mem_changesOf hl hl).mp hc
      rw [diffAt_of_tree_eq hl hl rfl] at hd
      cases hd
    have hright := applyTree_changesOf hl hr h
    have hleft : applyTree (changesOf l l) (tree l) "" = tree l := by
      refine applyTree_changesOf hl hl fun s p q v w hp hq hv hw => ?_
      rw [hp] at hq
      cases hq
      rw [hv] at hw
      cases hw
      rfl
    rw [hself] at hleft
    rw [hnil, hleft] at hright
    exact hright
  · intro htree
    rw [List.eq_nil_iff_forall_not_mem]
    intro c hc
    obtain ⟨s, d, hd, -⟩ := (mem_changesOf hl hr).mp hc
    rw [diffAt_of_tree_eq hl hr htree] at hd
    cases hd

end Laws

end SpecDiffs

open SpecDiffs in
/-- The laws of the semantic diff: it is empty on equal trees only, it reports a path
once and none below another, its changes make the right tree of the left one, and
the diff of the exchanged trees is the mirrored one. -/
theorem semantic_diff_laws {l r : Prim} (hl : JsonTree l) (hr : JsonTree r) (h : SameTypes l r) :
    (changesOf l r = [] ↔ tree l = tree r) ∧
    ((changesOf l r).map (·.path)).Nodup ∧
    (∀ c ∈ changesOf l r, ∃ s, KeySteps s ∧ c.path = pathText "" s) ∧
    (∀ c ∈ changesOf l r, ∀ c' ∈ changesOf l r, ∀ s t, KeySteps s → KeySteps t →
      c.path = pathText "" s → c'.path = pathText "" (s ++ t) → t = []) ∧
    applyTree (changesOf l r) (tree l) "" = tree r ∧
    changesOf r l = (changesOf l r).map FieldChange.mirror := by
  refine ⟨changesOf_eq_nil hl hr h, changesOf_paths_nodup hl hr, ?_, ?_,
    applyTree_changesOf hl hr h, changesOf_mirror hl hr⟩
  · intro c hc
    obtain ⟨s, d, hd, rfl⟩ := (mem_changesOf hl hr).mp hc
    exact ⟨s, diffAt_keySteps hl hr hd, rfl⟩
  · intro c hc c' hc' s t hs ht hcpath hcpath'
    obtain ⟨u, d, hd, rfl⟩ := (mem_changesOf hl hr).mp hc
    obtain ⟨v, e, he, rfl⟩ := (mem_changesOf hl hr).mp hc'
    rw [pathText_inj (diffAt_keySteps hl hr hd) hs hcpath] at hd
    rw [pathText_inj (diffAt_keySteps hl hr he) (hs.append ht) hcpath'] at he
    exact diffAt_antichain hd he

namespace TwoDumps

open SpecDiffs

def left : Prim := .dict [("name", .str (py "ink")), ("seed", .int 7)]

def right : Prim := .dict [("name", .str (py "oil")), ("layers", .list [.none])]

theorem jsonTree_left : JsonTree left :=
  ⟨by decide, by decide, trivial, by decide, trivial, trivial⟩

theorem jsonTree_right : JsonTree right :=
  ⟨by decide, by decide, trivial, by decide, ⟨trivial, trivial⟩, trivial⟩

theorem sameTypes : SameTypes left right := by
  intro s p q v w hp hq hv hw
  cases s with
  | nil =>
      cases hp
      rw [left, tree] at hv
      cases hv
  | cons x s =>
      cases x with
      | item i => cases hp
      | key k =>
          by_cases hname : k = "name"
          · subst hname
            cases s with
            | nil =>
                cases hp
                cases hq
                rw [tree] at hv hw
                cases hv
                cases hw
                rfl
            | cons y s => cases y <;> cases hp
          · by_cases hseed : k = "seed"
            · subst hseed
              cases hq
            · have hnone :
                  List.lookup k [("name", Prim.str (py "ink")), ("seed", .int 7)] = none := by
                rw [List.lookup_cons, beq_eq_false_iff_ne.mpr hname]
                simp only
                rw [List.lookup_cons, beq_eq_false_iff_ne.mpr hseed]
                rfl
              rw [left, subAt, hnone] at hp
              cases hp

end TwoDumps

open SpecDiffs TwoDumps in
/-- A changed name, a key less and a key more. -/
theorem semantic_diff_laws_dumps :
    applyTree (changesOf left right) (tree left) "" = tree right ∧
      changesOf right left = (changesOf left right).map FieldChange.mirror :=
  have h := semantic_diff_laws jsonTree_left jsonTree_right sameTypes
  ⟨h.2.2.2.2.1, h.2.2.2.2.2⟩

end SpecStyle
