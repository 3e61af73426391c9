/-
SpecStyle/Lib/Records.lean

Records joined by a delimiter.  Two readings of a joined text agree on where
its first record ends if no record of the one, with a delimiter behind it,
begins a record of the other (`Apart`).  Then they agree on all records, and on
what follows them (`join_eq`).
-/
import Mathlib.Data.List.Basic

namespace PyLib

namespace Records

variable {α : Type} {delim : α → Prop} {E E' : List α → Prop}

/-- No record of the one kind, followed by a delimiter, begins one of the other. -/
def Apart (delim : α → Prop) (E E' : List α → Prop) : Prop :=
  ∀ r r' d, delim d → (E r → E' r' → ¬r ++ [d] <+: r') ∧ (E' r → E r' → ¬r ++ [d] <+: r')

theorem Apart.symm (h : Apart delim E E') : Apart delim E' E := fun r r' d hd =>
  ⟨(h r r' d hd).2, (h r r' d hd).1⟩

/-- Nothing, or something that a delimiter begins. -/
def Rest (delim : α → Prop) (x : List α) : Prop := ∀ c ∈ x.head?, delim c

theorem Rest.nil : Rest delim [] := fun _ h => by cases h

theorem Rest.cons {d : α} (h : delim d) (x : List α) : Rest delim (d :: x) := by
  intro c hc
  cases hc
  exact h

/-- The first record is determined, and what follows it. -/
theorem record_eq (h : Apart delim E E') {r r' x x' : List α} (hr : E r) (hr' : E' r')
    (hx : Rest delim x) (hx' : Rest delim x') (heq : r ++ x = r' ++ x') : r = r' ∧ x = x' := by
  have hshort : ∀ {E E' : List α → Prop} {r r' x x' : List α}, Apart delim E E' → E r → E' r' →
      Rest delim x → ∀ a, r' = r ++ a → x = a ++ x' → r = r' ∧ x = x' := by
    intro E E' r r' x x' h hr hr' hx a hlong hrest
    cases a with
    | nil =>
        rw [List.append_nil] at hlong
        exact ⟨hlong.symm, hrest⟩
    | cons d a =>
        have hd : delim d := hx d (by rw [hrest]; rfl)
        refine absurd ⟨a, ?_⟩ ((h r r' d hd).1 hr hr')
        rw [hlong, List.append_assoc]
        rfl
  rcases List.append_eq_append_iff.mp heq with ⟨a, hlong, hrest⟩ | ⟨a, hlong, hrest⟩
  · exact hshort h hr hr' hx a hlong hrest
  · obtain ⟨hr, hx⟩ := hshort h.symm hr' hr hx' a hlong hrest
    exact ⟨hr.symm, hx.symm⟩

/-- The rest after the first of the joined records. -/
def after (sep : α) (rs : List (List α)) (y : List α) : List α :=
  match rs with
  | [] => y
  | r :: rs => sep :: ([sep].intercalate (r :: rs) ++ y)

theorem join_cons (sep : α) (r : List α) (rs : List (List α)) (y : List α) :
    [sep].intercalate (r :: rs) ++ y = r ++ after sep rs y := by
  cases rs with
  | nil => rw [List.intercalate_singleton]; rfl
  | cons r' rs =>
      rw [List.intercalate_cons_cons, List.append_assoc, List.append_assoc]
      rfl

/-- Something before the joined records is something before the first. -/
theorem append_join (sep : α) (w r : List α) (rs : List (List α)) :
    w ++ [sep].intercalate (r :: rs) = [sep].intercalate ((w ++ r) :: rs) := by
  have h := join_cons sep r rs []
  have h' := join_cons sep (w ++ r) rs []
  rw [List.append_nil] at h h'
  rw [h, h', List.append_assoc]

/-- The joined records are determined, and what follows them. -/
theorem join_eq (h : Apart delim E E') {sep : α} (hsep : delim sep) {rs rs' : List (List α)}
    {y y' : List α} (hne : rs ≠ []) (hne' : rs' ≠ []) (hrs : ∀ r ∈ rs, E r) (hrs' : ∀ r ∈ rs', E' r)
    (hy : Rest (fun c => delim c ∧ c ≠ sep) y) (hy' : Rest (fun c => delim c ∧ c ≠ sep) y')
    (heq : [sep].intercalate rs ++ y = [sep].intercalate rs' ++ y') : rs = rs' ∧ y = y' := by
  have hrest : ∀ {y : List α}, Rest (fun c => delim c ∧ c ≠ sep) y → ∀ rs,
      Rest delim (after sep rs y) := by
    intro y hy rs
    cases rs with
    | nil => exact fun c hc => (hy c hc).1
    | cons r rs => exact Rest.cons hsep _
  have hmore : ∀ {y : List α}, Rest (fun c => delim c ∧ c ≠ sep) y → ∀ x, y ≠ sep :: x := by
    rintro y hy x rfl
    exact (hy sep rfl).2 rfl
  induction rs generalizing rs' with
  | nil => exact absurd rfl hne
  | cons r rs ih =>
      cases rs' with
      | nil => exact absurd rfl hne'
      | cons r' rs' =>
          rw [join_cons, join_cons] at heq
          obtain ⟨rfl, hafter⟩ := record_eq h (hrs r List.mem_cons_self)
            (hrs' r' List.mem_cons_self) (hrest hy rs) (hrest hy' rs') heq
          cases rs with
          | nil =>
              cases rs' with
              | nil => exact ⟨rfl, hafter⟩
              | cons q' qs' => exact absurd hafter (hmore hy _)
          | cons q qs =>
              cases rs' with
              | nil => exact absurd hafter.symm (hmore hy' _)
              | cons q' qs' =>
                  obtain ⟨htail, hy⟩ := ih (List.cons_ne_nil _ _) (List.cons_ne_nil _ _)
                    (fun r hr => hrs r (List.mem_cons_of_mem _ hr))
                    (fun r hr => hrs' r (List.mem_cons_of_mem _ hr)) (List.cons.inj hafter).2
                  rw [htail]
                  exact ⟨rfl, hy⟩

end Records

end PyLib
