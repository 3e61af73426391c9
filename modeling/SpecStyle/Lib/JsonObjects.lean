/-
SpecStyle/Lib/JsonObjects.lean

Objects of JSON documents.

No object that `loads` reads repeats a key (`Unique`), so its fields are what
looking them up gives, and the order in which they stand is the only thing its
text adds: two objects have one sorted form exactly if their fields have
(`sortKeys_obj_iff`).
-/
import SpecStyle.Lib.JsonRoundTrip

namespace PyLib

namespace Json

mutual

/-- No object repeats a key. -/
def Unique : Json → Prop
  | .arr items => UniqueItems items
  | .obj fields => (fields.map Prod.fst).Nodup ∧ UniqueFields fields
  | _ => True

def UniqueItems : List Json → Prop
  | [] => True
  | v :: vs => Unique v ∧ UniqueItems vs

def UniqueFields : List (Text × Json) → Prop
  | [] => True
  | (_, v) :: fs => Unique v ∧ UniqueFields fs

end

theorem uniqueItems_iff {vs : List Json} : UniqueItems vs ↔ ∀ v ∈ vs, Unique v := by
  induction vs with
  | nil => simp [UniqueItems]
  | cons v vs ih => simp [UniqueItems, ih]

theorem uniqueFields_iff {fs : List (Text × Json)} : UniqueFields fs ↔ ∀ f ∈ fs, Unique f.2 := by
  induction fs with
  | nil => simp [UniqueFields]
  | cons f fs ih => simp [UniqueFields, ih]

/-- A field of an object repeats no key either. -/
theorem Unique.field {fs : List (Text × Json)} (h : Unique (.obj fs)) {k : Text} {v : Json}
    (hv : field fs k = some v) : Unique v :=
  uniqueFields_iff.mp h.2 _ ((field_eq_some_iff h.1).mp hv)

/-! ### Reading -/

theorem unique_keyword {word s r : Text} {v w : Json} (hw : Unique w)
    (h : keyword word w s = some (v, r)) : Unique v := by
  unfold keyword at h
  split at h
  · cases h
    exact hw
  · cases h

theorem unique_parseNumber {s r : Text} {v : Json} (h : parseNumber s = some (v, r)) : Unique v := by
  unfold parseNumber at h
  dsimp only at h
  split at h
  · cases h
  · split_ifs at h <;> cases h <;> trivial

/-- The parser accepts no repeated key, at any depth. -/
theorem unique_parse (n : Nat) :
    (∀ s v r, parseValue n s = some (v, r) → Unique v) ∧
    (∀ s vs r, parseItems n s = some (vs, r) → UniqueItems vs) ∧
    ∀ s fs r, parseFields n s = some (fs, r) → UniqueFields fs := by
  induction n with
  | zero =>
    refine ⟨?_, ?_, ?_⟩
    · intro s v r h
      cases h
    · intro s vs r h
      cases h
    · intro s fs r h
      cases h
  | succ n ih =>
    obtain ⟨hvalue, hitems, hfields⟩ := ih
    refine ⟨fun s v r h => ?_, fun s vs r h => ?_, fun s fs r h => ?_⟩
    · cases s with
      | nil => cases h
      | cons c s =>
        rw [parseValue] at h
        split_ifs at h
        · obtain ⟨p, -, hp⟩ := Option.map_eq_some_iff.mp h
          cases hp
          trivial
        · split at h
          · cases h
            exact ⟨List.nodup_nil, trivial⟩
          · split at h
            · next hf =>
              split_ifs at h with hkeys
              cases h
              exact ⟨hkeys, hfields _ _ _ hf⟩
            · cases h
        · split at h
          · cases h
            trivial
          · obtain ⟨p, hp, hv⟩ := Option.map_eq_some_iff.mp h
            cases hv
            exact hitems _ _ _ hp
        · exact unique_keyword (w := .null) trivial h
        · exact unique_keyword (w := .bool true) trivial h
        · exact unique_keyword (w := .bool false) trivial h
        · exact unique_parseNumber h
    · rw [parseItems] at h
      split at h
      · cases h
      · next v r1 hv =>
        split at h
        · cases h
          exact ⟨hvalue _ _ _ hv, trivial⟩
        · split at h
          · obtain ⟨p, hp, hvs⟩ := Option.map_eq_some_iff.mp h
            cases hvs
            exact ⟨hvalue _ _ _ hv, hitems _ _ _ hp⟩
          · cases h
    · rw [parseFields] at h
      split at h
      · cases h
      · split at h
        · cases h
        · split at h
          · cases h
          · next v r2 hv =>
            split at h
            · cases h
              exact ⟨hvalue _ _ _ hv, trivial⟩
            · split at h
              · obtain ⟨p, hp, hfs⟩ := Option.map_eq_some_iff.mp h
                cases hfs
                exact ⟨hvalue _ _ _ hv, hfields _ _ _ hp⟩
              · cases h

/-- **A document that is read repeats no key.** -/
theorem unique_loads {s : Text} {v : Json} (h : loads s = some v) : Unique v := by
  unfold loads at h
  split at h
  · next hv =>
    split_ifs at h
    cases h
    exact (unique_parse _).1 _ _ _ hv
  · cases h

/-! ### Fields and the sorted form -/

section Fields

variable {fs gs : List (Text × Json)}

theorem sorted_eq {fs gs : List (Text × Json)} (hperm : fs.Perm gs) (hg : (gs.map Prod.fst).Nodup) :
    orderFields fs = orderFields gs := by
  have total : Std.Total fun f g : Text × Json => f.1 ≤ g.1 := ⟨fun f g => le_total f.1 g.1⟩
  have trans : IsTrans (Text × Json) fun f g => f.1 ≤ g.1 := ⟨fun _ _ _ h h' => le_trans h h'⟩
  have hsorted : (orderFields fs).Perm (orderFields gs) :=
    ((orderFields_perm fs).trans hperm).trans (orderFields_perm gs).symm
  refine hsorted.eq_of_pairwise (fun f g hf hg' hfg hgf => ?_)
    (List.pairwise_insertionSort _ fs) (List.pairwise_insertionSort _ gs)
  have hfg' : f ∈ gs := hperm.mem_iff.mp ((orderFields_perm fs).mem_iff.mp hf)
  have hgg : g ∈ gs := (orderFields_perm gs).mem_iff.mp hg'
  exact List.inj_on_of_nodup_map hg hfg' hgg (le_antisymm hfg hgf)

/-- Objects of one sorted form have fields of one sorted form. -/
theorem field_sorted (h : (Json.obj fs).sortKeys = (Json.obj gs).sortKeys)
    (hf : (fs.map Prod.fst).Nodup) (hg : (gs.map Prod.fst).Nodup) (k : Text) :
    (field fs k).map sortKeys = (field gs k).map sortKeys := by
  rw [sortKeys, sortKeys, Json.obj.injEq] at h
  rw [← field_sortKeys hf, ← field_sortKeys hg, h]

/-- **Two objects have one sorted form exactly if their fields have.** -/
theorem sortKeys_obj_iff (hf : (fs.map Prod.fst).Nodup) (hg : (gs.map Prod.fst).Nodup) :
    (Json.obj fs).sortKeys = (Json.obj gs).sortKeys ↔
      ∀ k, (field fs k).map sortKeys = (field gs k).map sortKeys := by
  constructor
  · exact fun h => field_sorted h hf hg
  · intro h
    have hf' : ((sortFields fs).map Prod.fst).Nodup := by rwa [sortFields_keys]
    have hg' : ((sortFields gs).map Prod.fst).Nodup := by rwa [sortFields_keys]
    have hmem : ∀ f, f ∈ sortFields fs ↔ f ∈ sortFields gs := by
      intro f
      rw [← field_eq_some_iff hf', ← field_eq_some_iff hg', field_sortFields, field_sortFields, h]
    have hperm : (sortFields fs).Perm (sortFields gs) :=
      (List.perm_ext_iff_of_nodup hf'.of_map hg'.of_map).mpr hmem
    rw [sortKeys, sortKeys, sorted_eq hperm hg']

end Fields

end Json

end PyLib
