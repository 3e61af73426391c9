/-
SpecStyle/Spec/DiffPaths.lean

The paths of the semantic diff.  A path of steps, a key or an index each, is
written as the walk of the diff writes it on its way down (`pathText`).  Keys
have no character that a path uses for itself, as identifiers have none; then
the text tells the steps (`pathText_inj`).
-/
import SpecStyle.Spec.Diff
import SpecStyle.Lib.Records

namespace SpecStyle

open PyLib

namespace SpecDiffs

/-- One step down a tree. -/
inductive Step where
  | key (k : String)
  | item (i : Nat)
  deriving DecidableEq

/-- The path of a child, as the walk writes it. -/
def Step.below (path : String) : Step → String
  | .key k => childPath path k
  | .item i => itemPath path i

/-- The path at the end of steps. -/
def render : String → List Step → String
  | path, [] => path
  | path, x :: s => render (x.below path) s

/-- `path or "$"` -/
def orRoot (path : String) : String := if path = "" then "$" else path

/-- The text of a path of steps. -/
def pathText (path : String) (s : List Step) : String := orRoot (render path s)

/-- A character that no path uses for itself. -/
def isKeyChar (c : Char) : Bool := c != '.' && c != '[' && c != ']' && c != '$'

/-- A key of such characters, as an identifier is. -/
def isKey (k : String) : Bool := k != "" && k.toList.all isKeyChar

/-- Every key of the path is such a key. -/
def KeySteps (s : List Step) : Prop := ∀ k, Step.key k ∈ s → isKey k = true

theorem KeySteps.nil : KeySteps [] := fun _ h => by cases h

theorem KeySteps.tail {x : Step} {s : List Step} (h : KeySteps (x :: s)) : KeySteps s :=
  fun k hk => h k (List.mem_cons_of_mem _ hk)

theorem KeySteps.key {k : String} {s : List Step} (hk : isKey k = true) (hs : KeySteps s) :
    KeySteps (.key k :: s) := by
  intro k' hk'
  rcases List.mem_cons.mp hk' with heq | hk'
  · cases heq
    exact hk
  · exact hs k' hk'

theorem KeySteps.item {i : Nat} {s : List Step} (hs : KeySteps s) : KeySteps (.item i :: s) := by
  intro k' hk'
  rcases List.mem_cons.mp hk' with heq | hk'
  · cases heq
  · exact hs k' hk'

theorem isKey_ne {k : String} (h : isKey k = true) : k ≠ "" := by
  unfold isKey at h
  rw [Bool.and_eq_true, bne_iff_ne] at h
  exact h.1

theorem isKey_char {k : String} (h : isKey k = true) {c : Char} (hc : c ∈ k.toList) :
    isKeyChar c = true := by
  unfold isKey at h
  rw [Bool.and_eq_true, List.all_eq_true] at h
  exact h.2 c hc

/-! ### The text of a step -/

/-- What a step adds to a path that is not empty. -/
def Step.chars : Step → List Char
  | .key k => '.' :: k.toList
  | .item i => '[' :: (Nat.toDigits 10 i ++ [']'])

/-- What steps add to a path that is not empty. -/
def chars (s : List Step) : List Char := s.flatMap Step.chars

theorem toList_childPath {path k : String} (h : path ≠ "") :
    (childPath path k).toList = path.toList ++ (Step.key k).chars := by
  unfold childPath
  rw [if_neg h, String.toList_append, String.toList_append, List.append_assoc]
  rfl

theorem toList_itemPath (path : String) (i : Nat) :
    (itemPath path i).toList = path.toList ++ (Step.item i).chars := by
  unfold itemPath
  rw [String.toList_append, String.toList_append, String.toList_append]
  have hdigits : (toString i).toList = Nat.toDigits 10 i := String.toList_ofList
  rw [hdigits, List.append_assoc, List.append_assoc]
  rfl

theorem below_toList {path : String} (h : path ≠ "") (x : Step) :
    (x.below path).toList = path.toList ++ x.chars := by
  cases x with
  | key k => exact toList_childPath h
  | item i => exact toList_itemPath path i

theorem ne_empty_of_toList {path : String} {c : Char} (h : c ∈ path.toList) : path ≠ "" := by
  rintro rfl
  cases h

theorem chars_ne_nil (x : Step) : ∃ c, c ∈ x.chars := by
  cases x with
  | key k => exact ⟨'.', List.mem_cons_self⟩
  | item i => exact ⟨'[', List.mem_cons_self⟩

theorem below_ne_empty {path : String} (h : path ≠ "") (x : Step) : x.below path ≠ "" := by
  obtain ⟨c, hc⟩ := chars_ne_nil x
  apply ne_empty_of_toList (c := c)
  rw [below_toList h]
  exact List.mem_append_right _ hc

/-- Below a path that is not empty the steps are written one behind the other. -/
theorem render_toList {path : String} (h : path ≠ "") (s : List Step) :
    (render path s).toList = path.toList ++ chars s := by
  induction s generalizing path with
  | nil => exact (List.append_nil _).symm
  | cons x s ih =>
      show (render (x.below path) s).toList = _
      rw [ih (below_ne_empty h x), below_toList h, List.append_assoc]
      rfl

/-! ### The text tells the steps -/

/-- The characters that open a step. -/
def opens (c : Char) : Prop := c = '.' ∨ c = '['

/-- The text of a step with such a key. -/
def StepText (r : List Char) : Prop := ∃ x : Step, KeySteps [x] ∧ r = x.chars

/-- No step is opened inside the text of a step. -/
theorem chars_inside {x : Step} (hx : KeySteps [x]) {c d : Char} {r : List Char}
    (h : x.chars = d :: r) (hc : c ∈ r) : ¬opens c := by
  intro hopen
  cases x with
  | key k =>
      cases h
      have hkey := isKey_char (hx k List.mem_cons_self) hc
      rcases hopen with rfl | rfl <;> exact absurd hkey (by decide)
  | item i =>
      cases h
      rcases List.mem_append.mp hc with hdigit | hclose
      · have hdigit := Nat.isDigit_of_mem_toDigits (by decide) (by decide) hdigit
        rcases hopen with rfl | rfl <;> exact absurd hdigit (by decide)
      · rw [List.mem_singleton] at hclose
        rcases hopen with rfl | rfl <;> exact absurd hclose (by decide)

theorem stepText_apart : Records.Apart opens StepText StepText := by
  have hone : ∀ r r' d, opens d → StepText r → StepText r' → ¬r ++ [d] <+: r' := by
    rintro r r' d hd ⟨x, -, rfl⟩ ⟨y, hy, rfl⟩ ⟨w, heq⟩
    cases hchars : x.chars with
    | nil =>
        obtain ⟨c, hc⟩ := chars_ne_nil x
        rw [hchars] at hc
        cases hc
    | cons c cs =>
        rw [hchars] at heq
        refine chars_inside hy heq.symm ?_ hd
        exact List.mem_append_left _ (List.mem_append_right _ List.mem_cons_self)
  exact fun r r' d hd => ⟨hone r r' d hd, hone r r' d hd⟩

theorem chars_inj_step {x y : Step} (h : x.chars = y.chars) : x = y := by
  cases x with
  | key k =>
      cases y with
      | key k' =>
          rw [String.toList_inj.mp (List.cons.inj h).2]
      | item j => exact absurd (List.cons.inj h).1 (by decide)
  | item i =>
      cases y with
      | key k' => exact absurd (List.cons.inj h).1 (by decide)
      | item j =>
          have hdigits := List.append_cancel_right (List.cons.inj h).2
          have hi := Nat.ofDigitChars_ten_toDigits (n := i)
          rw [hdigits, Nat.ofDigitChars_ten_toDigits] at hi
          rw [hi]

theorem chars_rest (s : List Step) : Records.Rest opens (chars s) := by
  cases s with
  | nil => exact Records.Rest.nil
  | cons x s =>
      cases x with
      | key k => exact Records.Rest.cons (.inl rfl) _
      | item i => exact Records.Rest.cons (.inr rfl) _

theorem chars_cons (x : Step) (s : List Step) : chars (x :: s) = x.chars ++ chars s := rfl

/-- Steps written one behind the other are told apart. -/
theorem chars_inj {s t : List Step} (hs : KeySteps s) (ht : KeySteps t) (h : chars s = chars t) :
    s = t := by
  induction s generalizing t with
  | nil =>
      cases t with
      | nil => rfl
      | cons y t =>
          obtain ⟨c, hc⟩ := chars_ne_nil y
          have hmem : c ∈ chars (y :: t) := List.mem_append_left _ hc
          rw [← h] at hmem
          cases hmem
  | cons x s ih =>
      cases t with
      | nil =>
          obtain ⟨c, hc⟩ := chars_ne_nil x
          have hmem : c ∈ chars (x :: s) := List.mem_append_left _ hc
          rw [h] at hmem
          cases hmem
      | cons y t =>
          rw [chars_cons, chars_cons] at h
          have hx : KeySteps [x] := fun k hk => hs k (by rw [List.mem_singleton.mp hk]; simp)
          have hy : KeySteps [y] := fun k hk => ht k (by rw [List.mem_singleton.mp hk]; simp)
          obtain ⟨hxy, hst⟩ := Records.record_eq stepText_apart ⟨x, hx, rfl⟩ ⟨y, hy, rfl⟩
            (chars_rest s) (chars_rest t) h
          rw [chars_inj_step hxy, ih hs.tail ht.tail hst]

/-- From the root the first key has no dot. -/
theorem render_root (x : Step) {s : List Step} (hs : KeySteps (x :: s)) :
    (∃ k, x = .key k ∧ '.' :: (render "" (x :: s)).toList = chars (x :: s)) ∨
      ∃ i, x = .item i ∧ (render "" (x :: s)).toList = chars (x :: s) := by
  cases x with
  | key k =>
      have hk := isKey_ne (hs k List.mem_cons_self)
      refine .inl ⟨k, rfl, ?_⟩
      show '.' :: (render k s).toList = _
      rw [render_toList hk]
      rfl
  | item i =>
      refine .inr ⟨i, rfl, ?_⟩
      have hne : itemPath "" i ≠ "" := by
        apply ne_empty_of_toList (c := '[')
        rw [toList_itemPath]
        exact List.mem_append_right _ List.mem_cons_self
      show (render (itemPath "" i) s).toList = _
      rw [render_toList hne, toList_itemPath, chars_cons]
      rfl

theorem render_ne_empty (x : Step) {s : List Step} (hs : KeySteps (x :: s)) :
    render "" (x :: s) ≠ "" := by
  intro h
  have hnil : (render "" (x :: s)).toList = [] := by
    rw [h]
    rfl
  rcases render_root x hs with ⟨k, rfl, heq⟩ | ⟨i, rfl, heq⟩
  · rw [hnil] at heq
    have hk := isKey_ne (hs k List.mem_cons_self)
    apply hk
    have hchars := (List.append_eq_nil_iff.mp (List.cons.inj heq).2.symm).1
    exact String.toList_inj.mp hchars
  · rw [hnil] at heq
    cases heq

/-- No path of steps is written as the root is. -/
theorem render_ne_dollar (x : Step) {s : List Step} (hs : KeySteps (x :: s)) :
    render "" (x :: s) ≠ "$" := by
  intro h
  have hone : (render "" (x :: s)).toList = ['$'] := by
    rw [h]
    rfl
  rcases render_root x hs with ⟨k, rfl, heq⟩ | ⟨i, rfl, heq⟩
  · rw [hone] at heq
    have hk := hs k List.mem_cons_self
    have hchars : k.toList ++ chars s = ['$'] := (List.cons.inj heq).2.symm
    cases hlist : k.toList with
    | nil => exact isKey_ne hk (String.toList_inj.mp hlist)
    | cons c cs =>
        rw [hlist] at hchars
        have hc : c = '$' := (List.cons.inj hchars).1
        have hkey := isKey_char hk (c := c) (by rw [hlist]; exact List.mem_cons_self)
        rw [hc] at hkey
        exact absurd hkey (by decide)
  · rw [hone] at heq
    exact absurd (List.cons.inj heq).1 (by decide)

/-- A key has no bracket to begin with. -/
theorem render_key_ne_item {k : String} {i : Nat} {s t : List Step} (hs : KeySteps (.key k :: s))
    (ht : KeySteps (.item i :: t)) : render "" (.key k :: s) ≠ render "" (.item i :: t) := by
  intro h
  have hk := hs k List.mem_cons_self
  have hchars : k.toList ++ chars s = '[' :: ((Nat.toDigits 10 i ++ [']']) ++ chars t) := by
    rcases render_root _ hs with ⟨_, -, hkey⟩ | ⟨_, hstep, -⟩
    · rcases render_root _ ht with ⟨_, hstep, -⟩ | ⟨_, -, hitem⟩
      · cases hstep
      · rw [h, hitem] at hkey
        exact (List.cons.inj hkey).2.symm
    · cases hstep
  cases hlist : k.toList with
  | nil => exact isKey_ne hk (String.toList_inj.mp hlist)
  | cons c cs =>
      rw [hlist] at hchars
      have hc : c = '[' := (List.cons.inj hchars).1
      have hkey := isKey_char hk (c := c) (by rw [hlist]; exact List.mem_cons_self)
      rw [hc] at hkey
      exact absurd hkey (by decide)

/-- The text of a path tells its steps. -/
theorem pathText_inj {s t : List Step} (hs : KeySteps s) (ht : KeySteps t)
    (h : pathText "" s = pathText "" t) : s = t := by
  have hroot : ∀ x s, KeySteps (x :: s) → pathText "" (x :: s) = render "" (x :: s) :=
    fun x s hs => if_neg (render_ne_empty x hs)
  have hdollar : pathText "" [] = "$" := rfl
  cases s with
  | nil =>
      cases t with
      | nil => rfl
      | cons y t =>
          rw [hdollar, hroot y t ht] at h
          exact absurd h.symm (render_ne_dollar y ht)
  | cons x s =>
      cases t with
      | nil =>
          rw [hdollar, hroot x s hs] at h
          exact absurd h (render_ne_dollar x hs)
      | cons y t =>
          rw [hroot x s hs, hroot y t ht] at h
          rcases render_root x hs with ⟨k, rfl, hxs⟩ | ⟨i, rfl, hxs⟩
          · rcases render_root y ht with ⟨k', rfl, hyt⟩ | ⟨j, rfl, -⟩
            · rw [h, hyt] at hxs
              exact (chars_inj ht hs hxs).symm
            · exact absurd h (render_key_ne_item hs ht)
          · rcases render_root y ht with ⟨k', rfl, -⟩ | ⟨j, rfl, hyt⟩
            · exact absurd h.symm (render_key_ne_item ht hs)
            · rw [h, hyt] at hxs
              exact (chars_inj ht hs hxs).symm

end SpecDiffs

end SpecStyle
