/-
SpecStyle/Lib/Lines.lean

`bytes.splitlines()`: lines end at `\n`, `\r` or `\r\n`, and a final line end
opens no further line.

A line without line ends that is followed by `\n` is split off whole
(`splitLines_line`), and a text that ends with `\n` splits apart from what is
appended to it (`splitLines_append`).
-/
import SpecStyle.Lib.Text

namespace PyLib

/-- `\n` -/
def newline : Byte := 0x0A

/-- `\r` -/
def carriageReturn : Byte := 0x0D

/-- The octet ends a line. -/
def isBreak (b : Byte) : Bool := b = newline || b = carriageReturn

theorem isBreak_iff {b : Byte} : isBreak b = true ↔ b = newline ∨ b = carriageReturn := by
  simp [isBreak]

/-- Puts an octet before the first line. -/
def consLine (b : Byte) : List Bytes → List Bytes
  | [] => [[b]]
  | l :: ls => (b :: l) :: ls

/-- `bytes.splitlines()` -/
def splitLines : Bytes → List Bytes
  | [] => []
  | [b] => if isBreak b then [[]] else [[b]]
  | b :: c :: bs =>
    if b = carriageReturn ∧ c = newline then [] :: splitLines bs
    else if isBreak b then [] :: splitLines (c :: bs)
    else consLine b (splitLines (c :: bs))

theorem splitLines_newline (bs : Bytes) : splitLines (newline :: bs) = [] :: splitLines bs := by
  cases bs with
  | nil => rfl
  | cons c bs => rfl

theorem splitLines_plain {b : Byte} (hb : isBreak b = false) (bs : Bytes) :
    splitLines (b :: bs) = consLine b (splitLines bs) := by
  cases bs with
  | nil => simp [splitLines, hb, consLine]
  | cons c bs =>
    have hne : b ≠ carriageReturn := by
      rintro rfl
      revert hb
      decide
    simp [splitLines, hb, hne]

/-- A line without line ends is split off whole. -/
theorem splitLines_line {l : Bytes} (hl : ∀ b ∈ l, isBreak b = false) (rest : Bytes) :
    splitLines (l ++ newline :: rest) = l :: splitLines rest := by
  induction l with
  | nil => exact splitLines_newline rest
  | cons b l ih =>
    rw [List.cons_append, splitLines_plain (hl b (by simp)), ih fun x hx => hl x (by simp [hx])]
    rfl

theorem consLine_ne_nil (b : Byte) (ls : List Bytes) : consLine b ls ≠ [] := by
  cases ls <;> exact List.cons_ne_nil _ _

theorem splitLines_cons_ne_nil (b : Byte) (bs : Bytes) : splitLines (b :: bs) ≠ [] := by
  cases bs with
  | nil => unfold splitLines; split <;> exact List.cons_ne_nil _ _
  | cons c bs =>
    unfold splitLines
    split
    · exact List.cons_ne_nil _ _
    · split
      · exact List.cons_ne_nil _ _
      · exact consLine_ne_nil _ _

theorem consLine_append (b : Byte) {ls : List Bytes} (hls : ls ≠ []) (ms : List Bytes) :
    consLine b (ls ++ ms) = consLine b ls ++ ms := by
  cases ls with
  | nil => exact absurd rfl hls
  | cons l ls => rfl

/-- A text that ends with `\n` splits apart from what follows it. -/
theorem splitLines_append (a b : Bytes) :
    splitLines (a ++ newline :: b) = splitLines (a ++ [newline]) ++ splitLines b := by
  induction a using splitLines.induct with
  | case1 => exact splitLines_newline b
  | case2 c hc =>
    by_cases hr : c = carriageReturn
    · subst hr
      rfl
    · have hn : c = newline := by simpa [isBreak, hr] using hc
      subst hn
      rw [List.singleton_append, List.singleton_append, splitLines_newline, splitLines_newline,
        splitLines_newline]
      rfl
  | case3 c hc =>
    have hc : isBreak c = false := by simpa using hc
    rw [List.singleton_append, List.singleton_append, splitLines_plain hc, splitLines_plain hc,
      splitLines_newline]
    rfl
  | case4 c d bs h ih =>
    obtain ⟨rfl, rfl⟩ := h
    exact congrArg ([] :: ·) ih
  | case5 c d bs h hc ih =>
    simp only [List.cons_append] at ih ⊢
    rw [splitLines, if_neg h, if_pos hc, splitLines, if_neg h, if_pos hc, ih]
    rfl
  | case6 c d bs h hc ih =>
    simp only [List.cons_append] at ih ⊢
    have hc : isBreak c = false := by simpa using hc
    rw [splitLines_plain hc, splitLines_plain hc, ih]
    exact consLine_append _ (splitLines_cons_ne_nil _ _) _

end PyLib
