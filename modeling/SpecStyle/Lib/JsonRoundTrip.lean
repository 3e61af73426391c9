/-
SpecStyle/Lib/JsonRoundTrip.lean

The JSON reader inverts the writer.  The value written must be *exact*: no
floating-point number anywhere, and no repeated key in an object.  For an
exact value

    loads (dumps false v) = some (sortKeys v)

so reading back gives the value with its keys in order, which is the same
dictionary.  With `ensure_ascii` the texts inside must hold no surrogate,
since two escaped halves that happen to stand together are joined.

The proof follows the text.  Strings: each escaped character is read back by
itself (`parseChars_escapeChar`).  Numbers: the digits of `n` are read back
up to a character that cannot continue a number (`parseNumber_intText`).
Values: one mutual induction over the value, whose fuel bound is the length
of the text still to be read (`parseValue_print`).
-/
import SpecStyle.Lib.Json

namespace PyLib

namespace Json

/-! ### Exact values -/

/-- The text of a floating-point number, with nothing after it. -/
def isFloatLiteral (l : Text) : Bool :=
  match parseNumber l with
  | some (.float m, []) => m == l
  | _ => false

mutual

/-- Every float is a literal, no key is repeated, and with `ensure_ascii` there
is no surrogate. -/
def Exact (ensureAscii : Bool) : Json → Prop
  | .float l => isFloatLiteral l = true
  | .str s => ensureAscii = true → hasSurrogate s = false
  | .arr items => ExactItems ensureAscii items
  | .obj fields => (fields.map Prod.fst).Nodup ∧ ExactFields ensureAscii fields
  | _ => True

def ExactItems (ensureAscii : Bool) : List Json → Prop
  | [] => True
  | v :: vs => Exact ensureAscii v ∧ ExactItems ensureAscii vs

def ExactFields (ensureAscii : Bool) : List (Text × Json) → Prop
  | [] => True
  | (k, v) :: fs =>
    (ensureAscii = true → hasSurrogate k = false) ∧ Exact ensureAscii v ∧
      ExactFields ensureAscii fs

end

mutual

def Exact.dec (a : Bool) : (v : Json) → Decidable (Exact a v)
  | .null => isTrue trivial
  | .bool _ => isTrue trivial
  | .int _ => isTrue trivial
  | .float l => inferInstanceAs (Decidable (isFloatLiteral l = true))
  | .str s => inferInstanceAs (Decidable (a = true → hasSurrogate s = false))
  | .arr items => Exact.decItems a items
  | .obj fields => @instDecidableAnd _ _ inferInstance (Exact.decFields a fields)

def Exact.decItems (a : Bool) : (vs : List Json) → Decidable (ExactItems a vs)
  | [] => isTrue trivial
  | v :: vs => @instDecidableAnd _ _ (Exact.dec a v) (Exact.decItems a vs)

def Exact.decFields (a : Bool) : (fs : List (Text × Json)) → Decidable (ExactFields a fs)
  | [] => isTrue trivial
  | (k, v) :: fs =>
    @instDecidableAnd _ _ (inferInstanceAs (Decidable (a = true → hasSurrogate k = false)))
      (@instDecidableAnd _ _ (Exact.dec a v) (Exact.decFields a fs))

end

instance Exact.decidable (a : Bool) (v : Json) : Decidable (Exact a v) := Exact.dec a v

/-- No high surrogate stands before a low one. -/
def isJoined : Text → Bool
  | [] => true
  | [_] => true
  | c :: d :: s => !(isHighSurrogate c && isLowSurrogate d) && isJoined (d :: s)

mutual

/-- What can be read back: as `Exact`, with surrogates in strings that are no
pairs. -/
def Joined (ensureAscii : Bool) : Json → Prop
  | .float l => isFloatLiteral l = true
  | .str s => ensureAscii = true → isJoined s = true
  | .arr items => JoinedItems ensureAscii items
  | .obj fields => (fields.map Prod.fst).Nodup ∧ JoinedFields ensureAscii fields
  | _ => True

def JoinedItems (ensureAscii : Bool) : List Json → Prop
  | [] => True
  | v :: vs => Joined ensureAscii v ∧ JoinedItems ensureAscii vs

def JoinedFields (ensureAscii : Bool) : List (Text × Json) → Prop
  | [] => True
  | (k, v) :: fs =>
    (ensureAscii = true → isJoined k = true) ∧ Joined ensureAscii v ∧ JoinedFields ensureAscii fs

end

theorem isJoined_cons {c : CodePoint} {s : Text}
    (h : isHighSurrogate c = true → ∀ d ∈ s.head?, isLowSurrogate d = false)
    (hs : isJoined s = true) : isJoined (c :: s) = true := by
  cases s with
  | nil => rfl
  | cons d s =>
    rw [isJoined, hs, Bool.and_true]
    rcases hc : isHighSurrogate c with - | -
    · rfl
    · rw [h hc d rfl]
      rfl

theorem isJoined_of_hasSurrogate {s : Text} (h : hasSurrogate s = false) : isJoined s = true := by
  induction s with
  | nil => rfl
  | cons c s ih =>
    rw [hasSurrogate_cons, Bool.or_eq_false_iff] at h
    refine isJoined_cons (fun hc => ?_) (ih h.2)
    unfold isHighSurrogate at hc
    have hs := h.1
    unfold isSurrogate at hs
    simp at hc hs
    omega

mutual

theorem Exact.joined {a : Bool} {v : Json} (h : Exact a v) : Joined a v := by
  cases v with
  | str s => exact fun ha => isJoined_of_hasSurrogate (h ha)
  | arr items => exact ExactItems.joined h
  | obj fields => exact ⟨h.1, ExactFields.joined h.2⟩
  | _ => exact h

theorem ExactItems.joined {a : Bool} {vs : List Json} (h : ExactItems a vs) : JoinedItems a vs := by
  cases vs with
  | nil => trivial
  | cons v vs => exact ⟨Exact.joined h.1, ExactItems.joined h.2⟩

theorem ExactFields.joined {a : Bool} {fs : List (Text × Json)} (h : ExactFields a fs) :
    JoinedFields a fs := by
  cases fs with
  | nil => trivial
  | cons f fs =>
    exact ⟨fun ha => isJoined_of_hasSurrogate (h.1 ha), Exact.joined h.2.1, ExactFields.joined h.2.2⟩

end

/-! ### Strings -/

theorem hexValue_hexDigit {n : Nat} (h : n < 16) : hexValue (hexDigit n) = some n := by
  revert n
  decide

/-- The four digits of an escape spell its unit. -/
theorem hexUnit_escapeUnit {n : Nat} (h : n < 0x10000) :
    hexUnit (hexDigit (n / 4096 % 16)) (hexDigit (n / 256 % 16)) (hexDigit (n / 16 % 16))
      (hexDigit (n % 16)) = some n := by
  unfold hexUnit
  rw [hexValue_hexDigit (Nat.mod_lt _ (by decide)), hexValue_hexDigit (Nat.mod_lt _ (by decide)),
    hexValue_hexDigit (Nat.mod_lt _ (by decide)), hexValue_hexDigit (Nat.mod_lt _ (by decide))]
  have hn : ((n / 4096 % 16 * 16 + n / 256 % 16) * 16 + n / 16 % 16) * 16 + n % 16 = n := by
    omega
  simp only [Option.bind_eq_bind, Option.bind_some, hn]
  rfl

/-- An escaped unit outside a pair is one character. -/
theorem parseChars_escapeUnit {n : Nat} (h : n < 0x10000)
    (hs : isHighSurrogate (codePoint n) = false) (rest : Text) :
    parseChars none (escapeUnit n ++ rest)
      = (parseChars none rest).map (emit [codePoint n]) := by
  have hu := hexUnit_escapeUnit h
  simp only [escapeUnit, List.cons_append, List.nil_append]
  rw [parseChars.eq_def]
  simp only [hu, hs]
  rfl

/-- An escaped surrogate pair is one character. -/
theorem parseChars_escapePair {hi lo : Nat} (h1 : 0xD800 ≤ hi) (h2 : hi ≤ 0xDBFF)
    (h3 : 0xDC00 ≤ lo) (h4 : lo ≤ 0xDFFF) (rest : Text) :
    parseChars none (escapeUnit hi ++ (escapeUnit lo ++ rest))
      = (parseChars none rest).map
          (emit [codePoint (0x10000 + (hi - 0xD800) * 1024 + (lo - 0xDC00))]) := by
  have uh := hexUnit_escapeUnit (n := hi) (by omega)
  have ul := hexUnit_escapeUnit (n := lo) (by omega)
  have vh : (codePoint hi).val = hi := by have := codePoint_val hi; omega
  have vl : (codePoint lo).val = lo := by have := codePoint_val lo; omega
  have sh : isHighSurrogate (codePoint hi) = true := by
    unfold isHighSurrogate; rw [vh]; simp [h1, h2]
  have sl : isLowSurrogate (codePoint lo) = true := by
    unfold isLowSurrogate; rw [vl]; simp [h3, h4]
  simp only [escapeUnit, List.cons_append, List.nil_append]
  rw [parseChars.eq_def]
  simp only [uh, sh, if_true]
  rw [if_neg (by decide), parseChars.eq_def]
  simp only [ul, sl, vh, if_true]
  rw [if_neg (by decide)]

/-- A character the writer does not escape. -/
theorem parseChars_plain {c : CodePoint} (h1 : c ≠ 0x22) (h2 : c ≠ 0x5C) (h3 : ¬ c.val < 0x20)
    (rest : Text) :
    parseChars none (c :: rest) = (parseChars none rest).map (emit [c]) := by
  rw [parseChars.eq_def]
  simp only [h1, h2, h3, if_false, Option.toList_none, List.nil_append]

/-- A one-letter escape. -/
theorem parseChars_short {e x : CodePoint} (h1 : e ≠ 0x75) (h2 : shortEscape e = some x)
    (rest : Text) :
    parseChars none (0x5C :: e :: rest) = (parseChars none rest).map (emit [x]) := by
  rw [parseChars.eq_def]
  simp only [h1, h2, if_true, if_false, Option.toList_none, List.nil_append]
  rw [if_neg (by decide)]

/-- Every character is read back from what the writer puts for it. -/
theorem parseChars_escapeChar {a : Bool} {c : CodePoint}
    (hc : a = true → isSurrogate c = false) (rest : Text) :
    parseChars none (escapeChar a c ++ rest) = (parseChars none rest).map (emit [c]) := by
  have hlt : c.val < 0x110000 := c.isLt
  unfold escapeChar
  split
  · next h => subst h; exact parseChars_short (by decide) (by decide) rest
  split
  · next h => subst h; exact parseChars_short (by decide) (by decide) rest
  split
  · next h => subst h; exact parseChars_short (by decide) (by decide) rest
  split
  · next h => subst h; exact parseChars_short (by decide) (by decide) rest
  split
  · next h => subst h; exact parseChars_short (by decide) (by decide) rest
  split
  · next h => subst h; exact parseChars_short (by decide) (by decide) rest
  split
  · next h => subst h; exact parseChars_short (by decide) (by decide) rest
  split
  · next h =>
    -- the other control characters
    have hs : isHighSurrogate (codePoint c.val) = false := by
      rw [codePoint_self]; unfold isHighSurrogate; simp; omega
    rw [parseChars_escapeUnit (by omega) hs, codePoint_self]
  split
  · next h =>
    -- beyond ASCII, with `ensure_ascii`
    simp only [Bool.and_eq_true, decide_eq_true_eq] at h
    have hns := hc h.1
    split
    · next hb =>
      have hs : isHighSurrogate (codePoint c.val) = false := by
        rw [codePoint_self]
        unfold isSurrogate at hns
        unfold isHighSurrogate
        simp at hns ⊢
        omega
      rw [parseChars_escapeUnit hb hs, codePoint_self]
    · next hb =>
      rw [List.append_assoc, parseChars_escapePair (by omega) (by omega) (by omega) (by omega)]
      have hv : 0x10000 + (0xD800 + (c.val - 0x10000) / 1024 - 0xD800) * 1024
          + (0xDC00 + (c.val - 0x10000) % 1024 - 0xDC00) = c.val := by omega
      rw [hv, codePoint_self]
  · next h1 h2 _ _ _ _ _ h3 _ => exact parseChars_plain h1 h2 h3 rest

/-- An escaped high surrogate waits for its partner. -/
theorem parseChars_high {c : CodePoint} (hc : isHighSurrogate c = true) (rest : Text) :
    parseChars none (escapeUnit c.val ++ rest) = parseChars (some c) rest := by
  have hlt : c.val < 0x10000 := by
    unfold isHighSurrogate at hc
    simp at hc
    omega
  have hu := hexUnit_escapeUnit hlt
  simp only [escapeUnit, List.cons_append, List.nil_append]
  rw [parseChars.eq_def]
  simp only [hu, codePoint_self, hc]
  rfl

/-- The text does not begin with an escaped low surrogate. -/
def NoLowEscape (t : Text) : Prop :=
  ∀ h1 h2 h3 h4 r n, t = 0x5C :: 0x75 :: h1 :: h2 :: h3 :: h4 :: r → hexUnit h1 h2 h3 h4 = some n →
    isLowSurrogate (codePoint n) = false

theorem emit_map (out out' : Text) (x : Option (Text × Text)) :
    (x.map (emit out')).map (emit out) = x.map (emit (out ++ out')) := by
  rw [Option.map_map]
  refine congrArg (fun f => x.map f) ?_
  funext r
  exact Prod.ext (List.append_assoc _ _ _).symm rfl

/-- A high surrogate whose partner does not come stands for itself. -/
theorem parseChars_some {hi : CodePoint} {t : Text} (h : NoLowEscape t) :
    parseChars (some hi) t = (parseChars none t).map (emit [hi]) := by
  rw [parseChars.eq_def (some hi) t, parseChars.eq_def none t]
  cases t with
  | nil => rfl
  | cons c s =>
    simp only
    split
    · rfl
    split
    · next hc =>
      split
      · rfl
      · next e r =>
        split
        · next he =>
          split
          · next h1 h2 h3 h4 rest =>
            split
            · rfl
            · next n hn =>
              have hlow : isLowSurrogate (codePoint n) = false := by
                refine h h1 h2 h3 h4 rest n ?_ hn
                rw [hc, he]
              simp only [hlow, Bool.false_eq_true, if_false]
              split
              · rfl
              · exact (emit_map [hi] [codePoint n] (parseChars none rest)).symm
          · rfl
        · split
          · rfl
          · rw [emit_map]
            rfl
    split
    · rfl
    · rw [emit_map]
      rfl

theorem noLowEscape_unit {n : Nat} (h : n < 0x10000) (hn : isLowSurrogate (codePoint n) = false)
    (rest : Text) : NoLowEscape (escapeUnit n ++ rest) := by
  intro h1 h2 h3 h4 r m he hm
  simp only [escapeUnit, List.cons_append, List.nil_append, List.cons.injEq, true_and] at he
  obtain ⟨rfl, rfl, rfl, rfl, -⟩ := he
  rw [hexUnit_escapeUnit h] at hm
  cases hm
  exact hn

theorem noLowEscape_of_ne {c : CodePoint} {t : Text} (h : c ≠ 0x5C) : NoLowEscape (c :: t) := by
  intro h1 h2 h3 h4 r n he
  exact absurd (List.cons.inj he).1 h

theorem noLowEscape_short {e : CodePoint} {t : Text} (h : e ≠ 0x75) :
    NoLowEscape (0x5C :: e :: t) := by
  intro h1 h2 h3 h4 r n he
  exact absurd (List.cons.inj (List.cons.inj he).2).1 h

theorem noLowEscape_escapeChar {c : CodePoint} (hc : isLowSurrogate c = false) (rest : Text) :
    NoLowEscape (escapeChar true c ++ rest) := by
  have hlt : c.val < 0x110000 := c.isLt
  unfold escapeChar
  split
  · exact noLowEscape_short (by decide)
  split
  · exact noLowEscape_short (by decide)
  split
  · exact noLowEscape_short (by decide)
  split
  · exact noLowEscape_short (by decide)
  split
  · exact noLowEscape_short (by decide)
  split
  · exact noLowEscape_short (by decide)
  split
  · exact noLowEscape_short (by decide)
  split
  · next h => exact noLowEscape_unit (by omega) (by rw [codePoint_self, hc]) rest
  split
  · split
    · next hb => exact noLowEscape_unit hb (by rw [codePoint_self, hc]) rest
    · next hb =>
      rw [List.append_assoc]
      refine noLowEscape_unit (by omega) ?_ _
      have hq : (c.val - 0x10000) / 1024 ≤ 1023 := by omega
      generalize (c.val - 0x10000) / 1024 = q at hq ⊢
      have hv : (codePoint (0xD800 + q)).val = 0xD800 + q := by
        have := codePoint_val (0xD800 + q)
        omega
      unfold isLowSurrogate
      rw [hv]
      simp
      omega
  · next h _ _ _ _ _ _ _ => exact noLowEscape_of_ne h

/-- A string without pairs ends without an escaped low surrogate to join. -/
theorem noLowEscape_rest {s : Text} (h : ∀ d ∈ s.head?, isLowSurrogate d = false) (rest : Text) :
    NoLowEscape (s.flatMap (escapeChar true) ++ 0x22 :: rest) := by
  cases s with
  | nil => exact noLowEscape_of_ne (by decide)
  | cons d s =>
    rw [List.flatMap_cons, List.append_assoc]
    exact noLowEscape_escapeChar (h d rfl) _

theorem escapeChar_surrogate {c : CodePoint} (hc : isSurrogate c = true) :
    escapeChar true c = escapeUnit c.val := by
  unfold isSurrogate at hc
  simp only [Bool.and_eq_true, decide_eq_true_eq] at hc
  have hne : ∀ k : CodePoint, k.val < 0x100 → c ≠ k := by
    rintro k hk rfl
    omega
  unfold escapeChar
  rw [if_neg (hne _ (by decide)), if_neg (hne _ (by decide)), if_neg (hne _ (by decide)),
    if_neg (hne _ (by decide)), if_neg (hne _ (by decide)), if_neg (hne _ (by decide)),
    if_neg (hne _ (by decide)), if_neg (by omega), if_pos (by simp; omega), if_pos (by omega)]

/-- A string literal is read back up to its closing quote. -/
theorem parseChars_printStr {a : Bool} {s : Text} (hs : a = true → isJoined s = true)
    (rest : Text) :
    parseChars none (s.flatMap (escapeChar a) ++ 0x22 :: rest) = some (s, rest) := by
  induction s with
  | nil =>
    rw [List.flatMap_nil, List.nil_append, parseChars.eq_def]
    simp
  | cons c s ih =>
    have hs' : a = true → isJoined s = true := fun h => by
      have hcs := hs h
      cases s with
      | nil => rfl
      | cons d s =>
        rw [isJoined, Bool.and_eq_true] at hcs
        exact hcs.2
    rw [List.flatMap_cons, List.append_assoc]
    by_cases hc : a = true ∧ isSurrogate c = true
    swap
    · rw [parseChars_escapeChar fun ha => by simpa [ha] using hc, ih hs']
      rfl
    -- a surrogate, escaped
    obtain ⟨rfl, hc⟩ := hc
    rw [escapeChar_surrogate hc]
    rcases hh : isHighSurrogate c with - | -
    · have hlt : c.val < 0x10000 := by
        unfold isSurrogate at hc
        simp at hc
        omega
      rw [parseChars_escapeUnit hlt (by rw [codePoint_self, hh]), ih hs', codePoint_self]
      rfl
    · have hlow : ∀ d ∈ s.head?, isLowSurrogate d = false := by
        intro d hd
        obtain ⟨t, rfl⟩ := List.head?_eq_some_iff.mp hd
        have hcs := hs rfl
        rw [isJoined, hh, Bool.true_and, Bool.and_eq_true, Bool.not_eq_true'] at hcs
        exact hcs.1
      rw [parseChars_high hh, parseChars_some (noLowEscape_rest hlow rest), ih hs']
      rfl

/-! ### Numbers -/

theorem natTextCore_append (fuel n : Nat) (acc : Text) :
    natTextCore fuel n acc = natTextCore fuel n [] ++ acc := by
  induction fuel generalizing n acc with
  | zero => rfl
  | succ fuel ih =>
    simp only [natTextCore]
    split
    · rfl
    · rw [ih, ih (n / 10) [_], List.append_assoc]
      rfl

/-- Any fuel above `n` writes the same digits. -/
theorem natTextCore_fuel {f g n : Nat} (hf : n < f) (hg : n < g) (acc : Text) :
    natTextCore f n acc = natTextCore g n acc := by
  induction f generalizing g n acc with
  | zero => omega
  | succ f ih =>
    cases g with
    | zero => omega
    | succ g =>
      simp only [natTextCore]
      split
      · rfl
      · next h => exact ih (by omega) (by omega) _

theorem natText_of_lt {n : Nat} (h : n < 10) : natText n = [codePoint (0x30 + n)] := by
  simp [natText, natTextCore, h]

theorem natText_of_ge {n : Nat} (h : 10 ≤ n) :
    natText n = natText (n / 10) ++ [codePoint (0x30 + n % 10)] := by
  have hn : ¬ n < 10 := by omega
  unfold natText
  rw [natTextCore, if_neg hn, natTextCore_append,
    natTextCore_fuel (g := n / 10 + 1) (by omega) (by omega)]

/-- A number's text: digits, with the number's value, and no leading zero
unless the number is zero. -/
theorem natText_spec (n : Nat) :
    (∀ c ∈ natText n, isDigit c = true) ∧ digitsValue (natText n) = n ∧
      ∃ c t, natText n = c :: t ∧ (c = 0x30 → t = [] ∧ n = 0) := by
  have digit : ∀ d, d < 10 → isDigit (codePoint (0x30 + d)) = true ∧
      (codePoint (0x30 + d)).val - 0x30 = d ∧ (codePoint (0x30 + d) = 0x30 → d = 0) := by
    decide
  induction n using Nat.strong_induction_on with
  | _ n ih =>
    by_cases h : n < 10
    · obtain ⟨hd, hv, hz⟩ := digit n h
      rw [natText_of_lt h]
      refine ⟨by simpa using hd, ?_, _, _, rfl, fun hc => ⟨rfl, hz hc⟩⟩
      simpa [digitsValue] using hv
    · obtain ⟨hd, hv, c, t, ht, hc⟩ := ih (n / 10) (by omega)
      obtain ⟨hd', hv', -⟩ := digit (n % 10) (by omega)
      rw [natText_of_ge (by omega)]
      refine ⟨?_, ?_, c, t ++ [codePoint (0x30 + n % 10)], by rw [ht]; rfl, fun h0 => ?_⟩
      · intro x hx
        rcases List.mem_append.mp hx with hx | hx
        · exact hd x hx
        · rw [List.mem_singleton.mp hx]; exact hd'
      · unfold digitsValue at hv ⊢
        rw [List.foldl_append, hv]
        simp only [List.foldl_cons, List.foldl_nil, hv']
        omega
      · have := (hc h0).2
        omega

/-- What cannot continue a number. -/
def NumberEnd (r : Text) : Prop :=
  ∀ c t, r = c :: t → isDigit c = false ∧ c ≠ 0x2E ∧ c ≠ 0x65 ∧ c ≠ 0x45

theorem numberEnd_cons {c : CodePoint} {t : Text}
    (h : isDigit c = false ∧ c ≠ 0x2E ∧ c ≠ 0x65 ∧ c ≠ 0x45) : NumberEnd (c :: t) := by
  intro c' t' hc
  injection hc with hc _
  rwa [← hc]

theorem spanDigits_append {ds r : Text} (hd : ∀ c ∈ ds, isDigit c = true) (hr : NumberEnd r) :
    spanDigits (ds ++ r) = (ds, r) := by
  induction ds with
  | nil =>
    cases r with
    | nil => rfl
    | cons c t => simp [spanDigits, (hr c t rfl).1]
  | cons c ds ih =>
    have hc := hd c (by simp)
    simp [spanDigits, hc, ih fun x hx => hd x (by simp [hx])]

theorem integerPart_natText (n : Nat) {r : Text} (hr : NumberEnd r) :
    integerPart (natText n ++ r) = some (natText n, r) := by
  obtain ⟨hd, -, c, t, ht, hc⟩ := natText_spec n
  rw [ht] at hd ⊢
  simp only [List.cons_append, integerPart]
  split
  · next h0 =>
    obtain ⟨rfl, -⟩ := hc h0
    rfl
  · have ht' := @spanDigits_append t r (fun x hx => hd x (by simp [hx])) hr
    rw [if_pos (hd c (by simp)), ht']

theorem fractionPart_end {r : Text} (hr : NumberEnd r) : fractionPart r = ([], r) := by
  cases r with
  | nil => rfl
  | cons c t => simp [fractionPart, (hr c t rfl).2.1]

theorem exponentPart_end {r : Text} (hr : NumberEnd r) : exponentPart r = ([], r) := by
  cases r with
  | nil => rfl
  | cons c t => simp [exponentPart, (hr c t rfl).2.2.1, (hr c t rfl).2.2.2]

/-- The first character of an integer is a digit or a minus sign. -/
theorem intText_head (n : Int) :
    ∃ c t, intText n = c :: t ∧ (c = 0x2D ∨ isDigit c = true) := by
  unfold intText
  obtain ⟨hd, -, c, t, ht, -⟩ := natText_spec n.natAbs
  split
  · exact ⟨_, _, rfl, .inl rfl⟩
  · exact ⟨c, t, ht, .inr (hd c (by simp [ht]))⟩

/-- An integer is read back up to what cannot continue it. -/
theorem parseNumber_intText (n : Int) {r : Text} (hr : NumberEnd r) :
    parseNumber (intText n ++ r) = some (.int n, r) := by
  have hv := (natText_spec n.natAbs).2.1
  unfold parseNumber intText
  by_cases hn : n < 0
  · have hneg : -((n.natAbs : Nat) : Int) = n := by omega
    simp only [hn, if_true, List.cons_append, List.head?_cons, List.drop_succ_cons,
      List.drop_zero, integerPart_natText _ hr, fractionPart_end hr, exponentPart_end hr,
      and_self, hv, hneg]
  · obtain ⟨hd, -, c, t, ht, -⟩ := natText_spec n.natAbs
    have hc : isDigit c = true := hd c (by simp [ht])
    have hne : c ≠ 0x2D := by rintro rfl; revert hc; decide
    have hhead : ¬ (natText n.natAbs ++ r).head? = some 0x2D := by
      rw [ht]; simpa using hne
    have hpos : ((n.natAbs : Nat) : Int) = n := by omega
    simp only [hn, hhead, if_false, integerPart_natText _ hr, fractionPart_end hr,
      exponentPart_end hr, and_self, if_true, hv, hpos]

/-! ### Float literals -/

theorem isFloatLiteral_iff {l : Text} :
    isFloatLiteral l = true ↔ parseNumber l = some (.float l, []) := by
  unfold isFloatLiteral
  split
  · next m h => simp [h]
  · next h =>
    constructor
    · intro hf
      cases hf
    · intro hl
      exact absurd hl (h l)

/-- Digits stop where a number ends. -/
theorem spanDigits_end (s : Text) {r : Text} (hr : NumberEnd r) :
    spanDigits (s ++ r) = ((spanDigits s).1, (spanDigits s).2 ++ r) := by
  induction s with
  | nil => exact spanDigits_append (fun c hc => nomatch hc) hr
  | cons c s ih =>
    rw [List.cons_append, spanDigits, spanDigits, ih]
    split <;> rfl

theorem integerPart_append {s ds t r : Text} (h : integerPart s = some (ds, t)) (hr : NumberEnd r) :
    integerPart (s ++ r) = some (ds, t ++ r) := by
  cases s with
  | nil => cases h
  | cons c s =>
    rw [List.cons_append, integerPart]
    rw [integerPart] at h
    split at h
    · next hc =>
      cases h
      rw [if_pos hc]
    · next hc =>
      rw [if_neg hc]
      split at h
      · next hd =>
        cases h
        rw [if_pos hd, spanDigits_end s hr]
      · cases h

theorem fractionPart_append (s : Text) {r : Text} (hr : NumberEnd r) :
    fractionPart (s ++ r) = ((fractionPart s).1, (fractionPart s).2 ++ r) := by
  cases s with
  | nil => exact fractionPart_end hr
  | cons c s =>
    rw [List.cons_append, fractionPart, fractionPart, spanDigits_end s hr]
    split <;> rfl

/-- An exponent that is the rest of a text is read as before. -/
theorem exponentPart_append {s r : Text} (h : (exponentPart s).2 = []) (hr : NumberEnd r) :
    exponentPart (s ++ r) = ((exponentPart s).1, r) := by
  cases s with
  | nil => exact exponentPart_end hr
  | cons c s =>
    rw [List.cons_append]
    unfold exponentPart at h ⊢
    by_cases hc : c = 0x65 ∨ c = 0x45
    · simp only [if_pos hc] at h ⊢
      cases s with
      | nil => simp [spanDigits] at h
      | cons g u =>
        simp only [List.cons_append] at h ⊢
        by_cases hg : g = 0x2B ∨ g = 0x2D
        · simp only [if_pos hg, spanDigits_end u hr] at h ⊢
          by_cases hd : (spanDigits u).1 = []
          · simp [hd] at h
          · rw [if_pos hd] at h ⊢
            rw [show (spanDigits u).2 = [] from h, List.nil_append, if_pos hd]
        · simp only [if_neg hg, ← List.cons_append, spanDigits_end (g :: u) hr] at h ⊢
          by_cases hd : (spanDigits (g :: u)).1 = []
          · simp [hd] at h
          · rw [if_pos hd] at h ⊢
            rw [show (spanDigits (g :: u)).2 = [] from h, List.nil_append, if_pos hd]
    · simp only [if_neg hc] at h
      cases h

/-- A float literal is read back up to what cannot continue it. -/
theorem parseNumber_float {l r : Text} (hl : isFloatLiteral l = true) (hr : NumberEnd r) :
    parseNumber (l ++ r) = some (.float l, r) := by
  rw [isFloatLiteral_iff] at hl
  have hne : l ≠ [] := by
    rintro rfl
    cases hl
  have hhead : (l ++ r).head? = l.head? := by
    cases l with
    | nil => exact absurd rfl hne
    | cons c l => rfl
  have hdrop : (l ++ r).drop 1 = l.drop 1 ++ r := by
    cases l with
    | nil => exact absurd rfl hne
    | cons c l => rfl
  unfold parseNumber at hl ⊢
  simp only [hhead, hdrop] at hl ⊢
  have hsplit : (if l.head? = some 0x2D then l.drop 1 ++ r else l ++ r) =
      (if l.head? = some 0x2D then l.drop 1 else l) ++ r := by
    split <;> rfl
  rw [hsplit]
  generalize (if l.head? = some 0x2D then l.drop 1 else l) = body at hl ⊢
  cases hi : integerPart body with
  | none =>
    rw [hi] at hl
    cases hl
  | some p =>
    rw [hi] at hl
    obtain ⟨ds, t⟩ := p
    rw [integerPart_append hi hr]
    simp only [fractionPart_append t hr] at hl ⊢
    split at hl
    · next hn =>
      have := (Prod.mk.inj (Option.some.inj hl)).1
      cases this
    · next hn =>
      have hp := Prod.mk.inj (Option.some.inj hl)
      rw [exponentPart_append hp.2 hr, if_neg hn]
      rw [hp.1]

/-- The characters of a number. -/
def isNumberChar (c : CodePoint) : Bool :=
  isDigit c || c = 0x2D || c = 0x2B || c = 0x2E || c = 0x65 || c = 0x45

theorem isNumberChar_of_digit {c : CodePoint} (h : isDigit c = true) : isNumberChar c = true := by
  simp [isNumberChar, h]

theorem mem_spanDigits {s : Text} {c : CodePoint} (h : c ∈ (spanDigits s).1) : isDigit c = true := by
  induction s with
  | nil => cases h
  | cons d s ih =>
    rw [spanDigits] at h
    split at h
    · next hd =>
      rcases List.mem_cons.mp h with rfl | h
      · exact hd
      · exact ih h
    · cases h

theorem mem_integerPart {s ds t : Text} (h : integerPart s = some (ds, t)) {c : CodePoint}
    (hc : c ∈ ds) : isDigit c = true := by
  cases s with
  | nil => cases h
  | cons d s =>
    rw [integerPart] at h
    split at h
    · next hd =>
      cases h
      rw [List.mem_singleton.mp hc, hd]
      rfl
    · split at h
      · next hd =>
        cases h
        rcases List.mem_cons.mp hc with rfl | hc
        · exact hd
        · exact mem_spanDigits hc
      · cases h

theorem mem_fractionPart {s : Text} {c : CodePoint} (h : c ∈ (fractionPart s).1) :
    isNumberChar c = true := by
  cases s with
  | nil => cases h
  | cons d s =>
    rw [fractionPart] at h
    split at h
    · next hd =>
      rcases List.mem_cons.mp h with rfl | h
      · rw [hd.1]
        rfl
      · exact isNumberChar_of_digit (mem_spanDigits h)
    · cases h

theorem mem_exponentPart {s : Text} {c : CodePoint} (h : c ∈ (exponentPart s).1) :
    isNumberChar c = true := by
  cases s with
  | nil => cases h
  | cons d s =>
    unfold exponentPart at h
    by_cases hd : d = 0x65 ∨ d = 0x45
    · have hdc : isNumberChar d = true := by
        rcases hd with rfl | rfl
        · rfl
        · rfl
      simp only [if_pos hd] at h
      cases s with
      | nil => simp [spanDigits] at h
      | cons g u =>
        have key : ∀ sign w : Text, (∀ x ∈ sign, isNumberChar x = true) →
            c ∈ (if (spanDigits w).1 ≠ [] then (d :: sign ++ (spanDigits w).1, (spanDigits w).2)
              else ([], d :: g :: u)).1 → isNumberChar c = true := by
          intro sign w hsign hc
          split at hc
          · rcases List.mem_append.mp hc with hc | hc
            · rcases List.mem_cons.mp hc with rfl | hc
              · exact hdc
              · exact hsign c hc
            · exact isNumberChar_of_digit (mem_spanDigits hc)
          · cases hc
        by_cases hg : g = 0x2B ∨ g = 0x2D
        · simp only [if_pos hg] at h
          refine key [g] u (fun x hx => ?_) h
          rw [List.mem_singleton.mp hx]
          rcases hg with rfl | rfl
          · rfl
          · rfl
        · simp only [if_neg hg] at h
          exact key [] (g :: u) (fun x hx => nomatch hx) h
    · simp only [if_neg hd] at h
      cases h

theorem isNumberChar_range {c : CodePoint} (h : isNumberChar c = true) :
    0x20 ≤ c.val ∧ c.val < 0x80 := by
  unfold isNumberChar isDigit at h
  simp only [Fin.ext_iff] at h
  simp at h
  omega

/-- A float literal is made of the characters of a number, and begins with a
digit or a minus sign. -/
theorem floatLiteral_chars {l : Text} (hl : isFloatLiteral l = true) :
    (∀ c ∈ l, isNumberChar c = true) ∧ ∃ c t, l = c :: t ∧ (c = 0x2D ∨ isDigit c = true) := by
  rw [isFloatLiteral_iff] at hl
  unfold parseNumber at hl
  simp only at hl
  cases hi : integerPart (if l.head? = some 0x2D then l.drop 1 else l) with
  | none =>
    rw [hi] at hl
    cases hl
  | some p =>
    rw [hi] at hl
    simp only at hl
    split at hl
    · have := (Prod.mk.inj (Option.some.inj hl)).1
      cases this
    · have hparts := Json.float.inj (Prod.mk.inj (Option.some.inj hl)).1
      constructor
      · intro c hc
        rw [← hparts] at hc
        rcases List.mem_append.mp hc with hc | hc
        · rcases List.mem_append.mp hc with hc | hc
          · rcases List.mem_append.mp hc with hc | hc
            · split at hc
              · rw [List.mem_singleton.mp hc]
                rfl
              · cases hc
            · exact isNumberChar_of_digit (mem_integerPart (t := p.2) hi hc)
          · exact mem_fractionPart hc
        · exact mem_exponentPart hc
      · cases l with
        | nil => cases hi
        | cons c t =>
          refine ⟨c, t, rfl, ?_⟩
          by_cases hc : c = 0x2D
          · exact .inl hc
          · right
            have hhead : ¬ (c :: t).head? = some 0x2D := by
              rw [List.head?_cons]
              exact fun h => hc (Option.some.inj h)
            rw [if_neg hhead, integerPart] at hi
            split at hi
            · next h0 =>
              rw [h0]
              rfl
            · split at hi
              · next hd => exact hd
              · cases hi

/-- A number begins with no whitespace and no bracket. -/
theorem numberHead {c : CodePoint} (hc : c = 0x2D ∨ isDigit c = true) :
    isWhitespace c = false ∧ c ≠ 0x5D := by
  constructor
  · rcases hc with rfl | hc
    · decide
    · unfold isDigit at hc
      unfold isWhitespace
      simp only [Fin.ext_iff] at hc ⊢
      simp at hc ⊢
      omega
  · rintro rfl
    revert hc
    decide

/-! ### Values -/

/-- The text of a value begins with a character that is neither
whitespace nor a closing bracket. -/
theorem print_head {a : Bool} {v : Json} (hv : Joined a v) :
    ∃ c t, print a v = c :: t ∧ isWhitespace c = false ∧ c ≠ 0x5D := by
  match v, hv with
  | .null, _ => exact ⟨_, _, rfl, by decide, by decide⟩
  | .bool true, _ => exact ⟨_, _, rfl, by decide, by decide⟩
  | .bool false, _ => exact ⟨_, _, rfl, by decide, by decide⟩
  | .int n, _ =>
    obtain ⟨c, t, ht, hc⟩ := intText_head n
    exact ⟨c, t, by rw [print, ht], numberHead hc⟩
  | .float l, hl =>
    obtain ⟨-, c, t, ht, hc⟩ := floatLiteral_chars hl
    exact ⟨c, t, by rw [print, ht], numberHead hc⟩
  | .str s, _ => exact ⟨_, _, rfl, by decide, by decide⟩
  | .arr [], _ => exact ⟨_, _, rfl, by decide, by decide⟩
  | .arr (_ :: _), _ => exact ⟨_, _, rfl, by decide, by decide⟩
  | .obj [], _ => exact ⟨_, _, rfl, by decide, by decide⟩
  | .obj (_ :: _), _ => exact ⟨_, _, rfl, by decide, by decide⟩

theorem skipWs_cons {c : CodePoint} {t : Text} (h : isWhitespace c = false) :
    skipWs (c :: t) = c :: t := by
  simp [skipWs, h]

theorem skipWs_print {a : Bool} {v : Json} (hv : Joined a v) (rest : Text) :
    skipWs (print a v ++ rest) = print a v ++ rest := by
  obtain ⟨c, t, ht, hc, -⟩ := print_head hv
  rw [ht]
  exact skipWs_cons hc

theorem print_length_pos {a : Bool} {v : Json} (hv : Joined a v) : 0 < (print a v).length := by
  obtain ⟨c, t, ht, -⟩ := print_head hv
  simp [ht]

/-- What follows an item is no part of a number. -/
theorem numberEnd_items (a : Bool) (vs : List Json) (rest : Text) :
    NumberEnd (printItems a vs ++ 0x5D :: rest) := by
  cases vs with
  | nil => exact numberEnd_cons (by decide)
  | cons v vs => exact numberEnd_cons (by decide)

theorem numberEnd_fields (a : Bool) (fs : List (Text × Json)) (rest : Text) :
    NumberEnd (printFields a fs ++ 0x7D :: rest) := by
  cases fs with
  | nil => exact numberEnd_cons (by decide)
  | cons f fs => exact numberEnd_cons (by decide)

/-- A value that begins like a number is scanned as one. -/
theorem parseValue_number {c : CodePoint} (hc : c = 0x2D ∨ isDigit c = true) (n : Nat)
    (s : Text) : parseValue (n + 1) (c :: s) = parseNumber (c :: s) := by
  have hne : ∀ k : CodePoint, k ≠ 0x2D → isDigit k = false → c ≠ k := by
    rintro k h1 h2 rfl
    rcases hc with hc | hc
    · exact h1 hc
    · rw [h2] at hc
      exact Bool.false_ne_true hc
  rw [parseValue, if_neg (hne _ (by decide) (by decide)), if_neg (hne _ (by decide) (by decide)),
    if_neg (hne _ (by decide) (by decide)), if_neg (hne _ (by decide) (by decide)),
    if_neg (hne _ (by decide) (by decide)), if_neg (hne _ (by decide) (by decide))]

theorem parseValue_printStr {a : Bool} {s : Text} (hs : a = true → isJoined s = true)
    (n : Nat) (rest : Text) :
    parseValue (n + 1) (printStr a s ++ rest) = some (.str s, rest) := by
  unfold printStr
  rw [List.cons_append, List.append_assoc, parseValue, if_pos rfl]
  rw [List.singleton_append, parseChars_printStr hs, Option.map_some]

/-- A key is read back up to its closing quote. -/
theorem parseChars_key {a : Bool} {k : Text} (hk : a = true → isJoined k = true)
    (rest : Text) :
    (expect 0x22 (printStr a k ++ rest)).bind (parseChars none) = some (k, rest) := by
  unfold printStr
  rw [List.cons_append, List.append_assoc, expect, if_pos rfl, Option.bind_some,
    List.singleton_append, parseChars_printStr hk]

mutual

/-- **A printed value is read back**, up to what cannot continue it. -/
theorem parseValue_print {a : Bool} (v : Json) (hv : Joined a v) (n : Nat) (rest : Text)
    (hn : (print a v).length ≤ n + 1) (hr : NumberEnd rest) :
    parseValue (n + 1) (print a v ++ rest) = some (v, rest) := by
  cases v with
  | null => rfl
  | bool b => cases b <;> rfl
  | int i =>
    obtain ⟨c, t, ht, hc⟩ := intText_head i
    rw [print, ht, List.cons_append, parseValue_number hc, ← List.cons_append, ← ht,
      parseNumber_intText i hr]
  | float l =>
    obtain ⟨-, c, t, ht, hc⟩ := floatLiteral_chars hv
    rw [print, ht, List.cons_append, parseValue_number hc, ← List.cons_append, ← ht,
      parseNumber_float hv hr]
  | str s => rw [print, parseValue_printStr hv]
  | arr items =>
    cases items with
    | nil => rfl
    | cons v vs =>
      obtain ⟨c, t, ht, hw, hc⟩ := print_head hv.1
      have hi := parseItems_print v vs hv n rest (by simp [print] at hn ⊢; omega)
      have he : expect 0x5D (print a v ++ (printItems a vs ++ 0x5D :: rest)) = none := by
        rw [ht, List.cons_append, expect, if_neg hc]
      rw [print, List.cons_append, parseValue, if_neg (by decide), if_neg (by decide), if_pos rfl]
      simp only [List.append_assoc, List.singleton_append, skipWs_print hv.1, he, hi,
        Option.map_some]
  | obj fields =>
    cases fields with
    | nil => rfl
    | cons f fs =>
      cases f with
      | mk k v =>
      have hi := parseFields_print k v fs hv.2 n rest (by simp [print] at hn ⊢; omega)
      have he : ∀ r, expect 0x7D (printStr a k ++ r) = none := fun r => rfl
      have hw : ∀ r, skipWs (printStr a k ++ r) = printStr a k ++ r := fun r => rfl
      rw [print, List.cons_append, parseValue, if_neg (by decide), if_pos rfl]
      simp only [List.append_assoc, List.cons_append, List.nil_append] at hi ⊢
      simp only [hw, he, hi, hv.1, if_true]
termination_by sizeOf v

/-- The items of an array, up to its closing bracket. -/
theorem parseItems_print {a : Bool} (v : Json) (vs : List Json) (hv : JoinedItems a (v :: vs))
    (n : Nat) (rest : Text) (hn : (print a v).length + (printItems a vs).length + 1 ≤ n) :
    parseItems n (print a v ++ (printItems a vs ++ 0x5D :: rest)) = some (v :: vs, rest) := by
  have hpos := print_length_pos hv.1
  obtain ⟨m, rfl⟩ : ∃ m, n = m + 2 := ⟨n - 2, by omega⟩
  have hp := parseValue_print v hv.1 m _ (by omega) (numberEnd_items a vs rest)
  rw [parseItems, hp]
  cases vs with
  | nil => rfl
  | cons w ws =>
    have hi := parseItems_print w ws hv.2 (m + 1) rest (by
      simp only [printItems, List.length_cons, List.length_append] at hn
      omega)
    have hs : ∀ r, skipWs (0x2C :: r) = 0x2C :: r := fun r => rfl
    have h1 : ∀ r, expect 0x5D (0x2C :: r) = none := fun r => rfl
    have h2 : ∀ r, expect 0x2C (0x2C :: r) = some r := fun r => rfl
    simp only [printItems, List.cons_append, List.append_assoc, hs, h1, h2,
      skipWs_print hv.2.1, hi, Option.map_some]
termination_by sizeOf v + sizeOf vs + 1

/-- The fields of an object, up to its closing brace. -/
theorem parseFields_print {a : Bool} (k : Text) (v : Json) (fs : List (Text × Json))
    (hv : JoinedFields a ((k, v) :: fs)) (n : Nat) (rest : Text)
    (hn : (print a v).length + (printFields a fs).length + 2 ≤ n) :
    parseFields n (printStr a k ++ 0x3A :: (print a v ++ (printFields a fs ++ 0x7D :: rest)))
      = some ((k, v) :: fs, rest) := by
  obtain ⟨m, rfl⟩ : ∃ m, n = m + 2 := ⟨n - 2, by omega⟩
  have hp := parseValue_print v hv.2.1 m _ (by omega) (numberEnd_fields a fs rest)
  have hs : ∀ r, skipWs (0x3A :: r) = 0x3A :: r := fun r => rfl
  have h1 : ∀ r, expect 0x3A (0x3A :: r) = some r := fun r => rfl
  rw [parseFields, parseChars_key hv.1]
  simp only [hs, h1, skipWs_print hv.2.1, hp]
  cases fs with
  | nil => rfl
  | cons f gs =>
    cases f with
    | mk k' w =>
    have hi := parseFields_print k' w gs hv.2.2 (m + 1) rest (by
      simp only [printFields, List.length_cons, List.length_append] at hn
      omega)
    have hs : ∀ r, skipWs (0x2C :: r) = 0x2C :: r := fun r => rfl
    have h1 : ∀ r, expect 0x7D (0x2C :: r) = none := fun r => rfl
    have h2 : ∀ r, expect 0x2C (0x2C :: r) = some r := fun r => rfl
    have hk : ∀ r, skipWs (printStr a k' ++ r) = printStr a k' ++ r := fun r => rfl
    simp only [printFields, List.cons_append, List.append_assoc, hs, h1, h2, hk, hi,
      Option.map_some]
termination_by sizeOf v + sizeOf fs + 1

end

/-! ### Order of keys -/

theorem sortItems_eq_map (vs : List Json) : sortItems vs = vs.map sortKeys := by
  induction vs with
  | nil => rfl
  | cons v vs ih => rw [sortItems, ih, List.map_cons]

theorem sortFields_eq_map (fs : List (Text × Json)) :
    sortFields fs = fs.map fun f => (f.1, sortKeys f.2) := by
  induction fs with
  | nil => rfl
  | cons f fs ih => rw [sortFields, ih, List.map_cons]

@[simp] theorem sortFields_keys (fs : List (Text × Json)) :
    (sortFields fs).map Prod.fst = fs.map Prod.fst := by
  rw [sortFields_eq_map, List.map_map]
  rfl

theorem orderFields_perm (fs : List (Text × Json)) : (orderFields fs).Perm fs :=
  List.perm_insertionSort _ fs

/-- The keys of an object are those of the object written. -/
theorem sortKeys_keys (fs : List (Text × Json)) :
    ((orderFields (sortFields fs)).map Prod.fst).Perm (fs.map Prod.fst) := by
  have h := (orderFields_perm (sortFields fs)).map Prod.fst
  rwa [sortFields_keys] at h

theorem orderFields_sortFields (fs : List (Text × Json)) :
    orderFields (sortFields fs) = sortFields (orderFields fs) := by
  rw [sortFields_eq_map, sortFields_eq_map]
  have h := List.map_insertionSort (fun f g : Text × Json => f.1 ≤ g.1)
    (fun f g : Text × Json => f.1 ≤ g.1) (fun f => (f.1, sortKeys f.2)) fs
    fun _ _ _ _ => Iff.rfl
  exact h.symm

/-- Fields in order stay as they are. -/
theorem orderFields_orderFields (fs : List (Text × Json)) :
    orderFields (orderFields fs) = orderFields fs := by
  have total : Std.Total fun f g : Text × Json => f.1 ≤ g.1 := ⟨fun f g => le_total f.1 g.1⟩
  have trans : IsTrans (Text × Json) fun f g => f.1 ≤ g.1 := ⟨fun _ _ _ h h' => le_trans h h'⟩
  exact (List.pairwise_insertionSort _ fs).insertionSort_eq

mutual

/-- A value whose keys are in order stays as it is. -/
theorem sortKeys_sortKeys (v : Json) : sortKeys (sortKeys v) = sortKeys v := by
  cases v with
  | arr items => rw [sortKeys, sortKeys, sortItems_sortItems items]
  | obj fields =>
    rw [sortKeys, sortKeys, ← orderFields_sortFields, orderFields_orderFields,
      sortFields_sortFields fields]
  | _ => rfl

theorem sortItems_sortItems (vs : List Json) : sortItems (sortItems vs) = sortItems vs := by
  cases vs with
  | nil => rfl
  | cons v vs => rw [sortItems, sortItems, sortKeys_sortKeys v, sortItems_sortItems vs]

theorem sortFields_sortFields (fs : List (Text × Json)) :
    sortFields (sortFields fs) = sortFields fs := by
  cases fs with
  | nil => rfl
  | cons f fs =>
    cases f with
    | mk k v => rw [sortFields, sortFields, sortKeys_sortKeys v, sortFields_sortFields fs]

end

/-- The text sees nothing of the order of keys. -/
theorem dumps_sortKeys (a : Bool) (v : Json) : dumps a (sortKeys v) = dumps a v := by
  rw [dumps, sortKeys_sortKeys, ← dumps]

theorem exactItems_iff {a : Bool} {vs : List Json} :
    ExactItems a vs ↔ ∀ v ∈ vs, Exact a v := by
  induction vs with
  | nil => simp [ExactItems]
  | cons v vs ih => simp [ExactItems, ih]

theorem exactFields_iff {a : Bool} {fs : List (Text × Json)} :
    ExactFields a fs ↔
      ∀ f ∈ fs, (a = true → hasSurrogate f.1 = false) ∧ Exact a f.2 := by
  induction fs with
  | nil => simp [ExactFields]
  | cons f fs ih => simp [ExactFields, ih, and_assoc]

mutual

/-- Ordering the keys keeps a value exact. -/
theorem exact_sortKeys {a : Bool} (v : Json) (hv : Exact a v) : Exact a (sortKeys v) := by
  cases v with
  | arr items => exact exactItems_sortItems items hv
  | obj fields =>
    have hp := orderFields_perm (sortFields fields)
    refine ⟨(sortKeys_keys fields).nodup_iff.mpr hv.1, exactFields_iff.mpr fun f hf => ?_⟩
    exact exactFields_iff.mp (exactFields_sortFields fields hv.2) f (hp.mem_iff.mp hf)
  | _ => exact hv

theorem exactItems_sortItems {a : Bool} (vs : List Json) (hv : ExactItems a vs) :
    ExactItems a (sortItems vs) := by
  cases vs with
  | nil => trivial
  | cons v vs => exact ⟨exact_sortKeys v hv.1, exactItems_sortItems vs hv.2⟩

theorem exactFields_sortFields {a : Bool} (fs : List (Text × Json)) (hf : ExactFields a fs) :
    ExactFields a (sortFields fs) := by
  cases fs with
  | nil => trivial
  | cons f fs =>
    cases f with
    | mk k v => exact ⟨hf.1, exact_sortKeys v hf.2.1, exactFields_sortFields fs hf.2.2⟩

end

theorem field_eq_some_iff {fs : List (Text × Json)} (hk : (fs.map Prod.fst).Nodup)
    {k : Text} {v : Json} : field fs k = some v ↔ (k, v) ∈ fs := by
  induction fs with
  | nil => simp [field]
  | cons f fs ih =>
    obtain ⟨k', w⟩ := f
    rw [List.map_cons, List.nodup_cons] at hk
    have ih := ih hk.2
    unfold field at ih ⊢
    rw [List.lookup_cons]
    by_cases h : k = k'
    · subst h
      have hnot : (k, v) ∉ fs := fun hm => hk.1 (List.mem_map.mpr ⟨_, hm, rfl⟩)
      simp [hnot, eq_comm]
    · have hb : (k == k') = false := beq_eq_false_iff_ne.mpr h
      simp [h, hb, ih]

theorem field_cons (k k' : Text) (v : Json) (fs : List (Text × Json)) :
    field ((k', v) :: fs) k = if k = k' then some v else field fs k := by
  unfold field
  rw [List.lookup_cons]
  by_cases h : k = k'
  · simp [h]
  · have hb : (k == k') = false := beq_eq_false_iff_ne.mpr h
    simp [h, hb]

theorem exact_of_field {a : Bool} {fs : List (Text × Json)} (hf : ExactFields a fs) {k : Text}
    {v : Json} (h : field fs k = some v) : Exact a v := by
  induction fs with
  | nil => cases h
  | cons f fs ih =>
    obtain ⟨k', w⟩ := f
    rw [field_cons] at h
    split at h
    · cases h
      exact hf.2.1
    · exact ih hf.2.2 h

/-- Looking a key up sees nothing of the order. -/
theorem field_orderFields {fs : List (Text × Json)} (hk : (fs.map Prod.fst).Nodup) (k : Text) :
    field (orderFields fs) k = field fs k := by
  have hp := orderFields_perm fs
  have hk' : ((orderFields fs).map Prod.fst).Nodup := (hp.map Prod.fst).nodup_iff.mpr hk
  ext v
  rw [field_eq_some_iff hk', field_eq_some_iff hk, hp.mem_iff]

theorem field_sortFields (fs : List (Text × Json)) (k : Text) :
    field (sortFields fs) k = (field fs k).map sortKeys := by
  induction fs with
  | nil => rfl
  | cons f fs ih =>
    obtain ⟨k', w⟩ := f
    unfold field at ih ⊢
    rw [sortFields, List.lookup_cons, List.lookup_cons, ih]
    cases k == k' <;> rfl

/-- A field of the value read back is the field written, its own keys in
order. -/
theorem field_sortKeys {fs : List (Text × Json)} (hk : (fs.map Prod.fst).Nodup) (k : Text) :
    field (orderFields (sortFields fs)) k = (field fs k).map sortKeys := by
  rw [field_orderFields (by rwa [sortFields_keys]), field_sortFields]

/-! ### Texts and bytes -/

theorem joinedFields_iff {a : Bool} {fs : List (Text × Json)} :
    JoinedFields a fs ↔ ∀ f ∈ fs, (a = true → isJoined f.1 = true) ∧ Joined a f.2 := by
  induction fs with
  | nil => simp [JoinedFields]
  | cons f fs ih => simp [JoinedFields, ih, and_assoc]

mutual

theorem joined_sortKeys {a : Bool} (v : Json) (hv : Joined a v) : Joined a (sortKeys v) := by
  cases v with
  | arr items => exact joinedItems_sortItems items hv
  | obj fields =>
    have hp := orderFields_perm (sortFields fields)
    refine ⟨(sortKeys_keys fields).nodup_iff.mpr hv.1, joinedFields_iff.mpr fun f hf => ?_⟩
    exact joinedFields_iff.mp (joinedFields_sortFields fields hv.2) f (hp.mem_iff.mp hf)
  | _ => exact hv

theorem joinedItems_sortItems {a : Bool} (vs : List Json) (hv : JoinedItems a vs) :
    JoinedItems a (sortItems vs) := by
  cases vs with
  | nil => trivial
  | cons v vs => exact ⟨joined_sortKeys v hv.1, joinedItems_sortItems vs hv.2⟩

theorem joinedFields_sortFields {a : Bool} (fs : List (Text × Json)) (hf : JoinedFields a fs) :
    JoinedFields a (sortFields fs) := by
  cases fs with
  | nil => trivial
  | cons f fs => exact ⟨hf.1, joined_sortKeys f.2 hf.2.1, joinedFields_sortFields fs hf.2.2⟩

end

/-- **Round trip.**  Reading what was written gives the value back, its keys
in order. -/
theorem loads_dumps_joined {a : Bool} {v : Json} (hv : Joined a v) :
    loads (dumps a v) = some (sortKeys v) := by
  have hs := joined_sortKeys v hv
  have hw := skipWs_print hs []
  have hp := parseValue_print (sortKeys v) hs (dumps a v).length [] (Nat.le_succ _)
    (fun _ _ h => by cases h)
  rw [List.append_nil] at hw hp
  unfold dumps at hp ⊢
  rw [loads, hw, hp]
  rfl

theorem loads_dumps {a : Bool} {v : Json} (hv : Exact a v) :
    loads (dumps a v) = some (sortKeys v) := loads_dumps_joined hv.joined

theorem hexDigit_range {n : Nat} (h : n < 16) :
    0x20 ≤ (hexDigit n).val ∧ (hexDigit n).val < 0x80 := by
  revert n
  decide

theorem mem_escapeUnit {n : Nat} {c : CodePoint} (h : c ∈ escapeUnit n) :
    0x20 ≤ c.val ∧ c.val < 0x80 := by
  simp only [escapeUnit, List.mem_cons, List.not_mem_nil, or_false] at h
  rcases h with rfl | rfl | rfl | rfl | rfl | rfl
  · decide
  · decide
  all_goals exact hexDigit_range (Nat.mod_lt _ (by decide))

/-- The writer puts no control character, and nothing but ASCII with
`ensure_ascii`. -/
def Printable (a : Bool) (c : CodePoint) : Prop := 0x20 ≤ c.val ∧ (a = true → c.val < 0x80)

theorem printable_word {a : Bool} {w : Text} {c : CodePoint}
    (hw : w.all (fun d => 0x20 ≤ d.val && d.val < 0x80) = true) (h : c ∈ w) : Printable a c := by
  have hc := List.all_eq_true.mp hw c h
  simp only [Bool.and_eq_true, decide_eq_true_eq] at hc
  exact ⟨hc.1, fun _ => hc.2⟩

theorem mem_escapeChar {a : Bool} {c d : CodePoint} (h : d ∈ escapeChar a c) : Printable a d := by
  have unit : ∀ {n}, d ∈ escapeUnit n → Printable a d := fun h =>
    ⟨(mem_escapeUnit h).1, fun _ => (mem_escapeUnit h).2⟩
  have pair : ∀ x y : CodePoint, 0x20 ≤ x.val ∧ x.val < 0x80 → 0x20 ≤ y.val ∧ y.val < 0x80 →
      d ∈ [x, y] → Printable a d := by
    intro x y hx hy hd
    rcases List.mem_cons.mp hd with rfl | hd
    · exact ⟨hx.1, fun _ => hx.2⟩
    · rw [List.mem_singleton.mp hd]
      exact ⟨hy.1, fun _ => hy.2⟩
  unfold escapeChar at h
  split at h
  · exact pair _ _ (by decide) (by decide) h
  split at h
  · exact pair _ _ (by decide) (by decide) h
  split at h
  · exact pair _ _ (by decide) (by decide) h
  split at h
  · exact pair _ _ (by decide) (by decide) h
  split at h
  · exact pair _ _ (by decide) (by decide) h
  split at h
  · exact pair _ _ (by decide) (by decide) h
  split at h
  · exact pair _ _ (by decide) (by decide) h
  split at h
  · exact unit h
  split at h
  · split at h
    · exact unit h
    · rcases List.mem_append.mp h with h | h
      · exact unit h
      · exact unit h
  · next hc ha =>
    rw [List.mem_singleton.mp h]
    refine ⟨by omega, fun hat => ?_⟩
    simp [hat] at ha
    omega

theorem mem_printStr {a : Bool} {s : Text} {c : CodePoint} (h : c ∈ printStr a s) :
    Printable a c := by
  unfold printStr at h
  rcases List.mem_cons.mp h with rfl | h
  · exact ⟨by decide, fun _ => by decide⟩
  rcases List.mem_append.mp h with h | h
  · obtain ⟨d, -, hd⟩ := List.mem_flatMap.mp h
    exact mem_escapeChar hd
  · rw [List.mem_singleton.mp h]
    exact ⟨by decide, fun _ => by decide⟩

theorem mem_intText {a : Bool} {n : Int} {c : CodePoint} (h : c ∈ intText n) : Printable a c := by
  have digits : ∀ m, c ∈ natText m → Printable a c := fun m hm => by
    have hd := (natText_spec m).1 c hm
    unfold isDigit at hd
    simp at hd
    exact ⟨by omega, fun _ => by omega⟩
  unfold intText at h
  split at h
  · rcases List.mem_cons.mp h with rfl | h
    · exact ⟨by decide, fun _ => by decide⟩
    · exact digits _ h
  · exact digits _ h

mutual

theorem mem_print {a : Bool} (v : Json) (hv : Joined a v) {c : CodePoint} (h : c ∈ print a v) :
    Printable a c := by
  have ascii : ∀ d : CodePoint, 0x20 ≤ d.val ∧ d.val < 0x80 → Printable a d := fun d hd =>
    ⟨hd.1, fun _ => hd.2⟩
  cases v with
  | null => exact printable_word (w := py "null") (by decide) h
  | bool b =>
    cases b with
    | true => exact printable_word (w := py "true") (by decide) h
    | false => exact printable_word (w := py "false") (by decide) h
  | int i => exact mem_intText h
  | float l => exact ascii c (isNumberChar_range ((floatLiteral_chars hv).1 c h))
  | str s => exact mem_printStr h
  | arr items =>
    cases items with
    | nil => exact printable_word (w := [0x5B, 0x5D]) (by decide) h
    | cons v vs =>
      simp only [print, List.mem_cons, List.mem_append, List.not_mem_nil, or_false] at h
      rcases h with rfl | (h | h) | rfl
      · exact ascii _ (by decide)
      · exact mem_print v hv.1 h
      · exact mem_printItems vs hv.2 h
      · exact ascii _ (by decide)
  | obj fields =>
    cases fields with
    | nil => exact printable_word (w := [0x7B, 0x7D]) (by decide) h
    | cons f fs =>
      cases f with
      | mk k v =>
      simp only [print, List.mem_cons, List.mem_append, List.not_mem_nil, or_false] at h
      rcases h with rfl | ((h | rfl | h) | h) | rfl
      · exact ascii _ (by decide)
      · exact mem_printStr h
      · exact ascii _ (by decide)
      · exact mem_print v hv.2.2.1 h
      · exact mem_printFields fs hv.2.2.2 h
      · exact ascii _ (by decide)

theorem mem_printItems {a : Bool} (vs : List Json) (hv : JoinedItems a vs) {c : CodePoint}
    (h : c ∈ printItems a vs) : Printable a c := by
  cases vs with
  | nil => cases h
  | cons v vs =>
    simp only [printItems, List.mem_cons, List.mem_append] at h
    rcases h with rfl | h | h
    · exact ⟨by decide, fun _ => by decide⟩
    · exact mem_print v hv.1 h
    · exact mem_printItems vs hv.2 h

theorem mem_printFields {a : Bool} (fs : List (Text × Json)) (hf : JoinedFields a fs)
    {c : CodePoint} (h : c ∈ printFields a fs) : Printable a c := by
  cases fs with
  | nil => cases h
  | cons f fs =>
    cases f with
    | mk k v =>
    simp only [printFields, List.mem_cons, List.mem_append] at h
    rcases h with rfl | (h | rfl | h) | h
    · exact ⟨by decide, fun _ => by decide⟩
    · exact mem_printStr h
    · exact ⟨by decide, fun _ => by decide⟩
    · exact mem_print v hf.2.1 h
    · exact mem_printFields fs hf.2.2 h

end

/-- A written value holds no control character; with `ensure_ascii` it is
ASCII. -/
theorem mem_dumps {a : Bool} {v : Json} (hv : Joined a v) {c : CodePoint} (h : c ∈ dumps a v) :
    Printable a c :=
  mem_print _ (joined_sortKeys v hv) h

/-! ### Surrogates -/

mutual

/-- Some text of the value holds a surrogate. -/
def surrogates : Json → Bool
  | .str s => hasSurrogate s
  | .arr items => surrogatesItems items
  | .obj fields => surrogatesFields fields
  | _ => false

def surrogatesItems : List Json → Bool
  | [] => false
  | v :: vs => surrogates v || surrogatesItems vs

def surrogatesFields : List (Text × Json) → Bool
  | [] => false
  | (k, v) :: fs => hasSurrogate k || surrogates v || surrogatesFields fs

end

theorem hasSurrogate_escapeChar (c : CodePoint) :
    hasSurrogate (escapeChar false c) = isSurrogate c := by
  by_cases h : c.val < 0x80
  · have hs : isSurrogate c = false := by
      unfold isSurrogate
      simp
      omega
    rw [hs]
    refine hasSurrogate_of_ascii fun d hd => ?_
    unfold escapeChar at hd
    have pair : ∀ x y : CodePoint, x.val < 0x80 → y.val < 0x80 → d ∈ [x, y] → d.val < 0x80 := by
      intro x y hx hy hd
      rcases List.mem_cons.mp hd with rfl | hd
      · exact hx
      · rwa [List.mem_singleton.mp hd]
    split at hd
    · exact pair _ _ (by decide) (by decide) hd
    split at hd
    · exact pair _ _ (by decide) (by decide) hd
    split at hd
    · exact pair _ _ (by decide) (by decide) hd
    split at hd
    · exact pair _ _ (by decide) (by decide) hd
    split at hd
    · exact pair _ _ (by decide) (by decide) hd
    split at hd
    · exact pair _ _ (by decide) (by decide) hd
    split at hd
    · exact pair _ _ (by decide) (by decide) hd
    split at hd
    · exact (mem_escapeUnit hd).2
    · rw [Bool.false_and, if_neg Bool.false_ne_true] at hd
      rwa [List.mem_singleton.mp hd]
  · have hne : ∀ k : CodePoint, k.val < 0x80 → c ≠ k := by
      rintro k hk rfl
      exact h hk
    unfold escapeChar
    rw [if_neg (hne _ (by decide)), if_neg (hne _ (by decide)), if_neg (hne _ (by decide)),
      if_neg (hne _ (by decide)), if_neg (hne _ (by decide)), if_neg (hne _ (by decide)),
      if_neg (hne _ (by decide)), if_neg (by omega), Bool.false_and, if_neg Bool.false_ne_true]
    simp

theorem hasSurrogate_printStr (s : Text) : hasSurrogate (printStr false s) = hasSurrogate s := by
  have hq : isSurrogate 0x22 = false := by decide
  have hb : hasSurrogate (s.flatMap (escapeChar false)) = hasSurrogate s := by
    induction s with
    | nil => rfl
    | cons c s ih =>
      rw [List.flatMap_cons, hasSurrogate_append, hasSurrogate_escapeChar, ih, hasSurrogate_cons]
  simp [printStr, hb, hq]

theorem hasSurrogate_intText (n : Int) : hasSurrogate (intText n) = false :=
  hasSurrogate_of_ascii fun _ hc => (mem_intText (a := true) hc).2 rfl

mutual

theorem hasSurrogate_print {a : Bool} (v : Json) (hv : Exact a v) :
    hasSurrogate (print false v) = surrogates v := by
  have punct : ∀ c : CodePoint, c.val < 0x80 → isSurrogate c = false := by
    intro c hc
    unfold isSurrogate
    simp
    omega
  cases v with
  | null => decide
  | bool b => cases b <;> decide
  | int i => exact hasSurrogate_intText i
  | float l =>
    exact hasSurrogate_of_ascii fun c hc => (isNumberChar_range ((floatLiteral_chars hv).1 c hc)).2
  | str s => exact hasSurrogate_printStr s
  | arr items =>
    cases items with
    | nil => decide
    | cons v vs =>
      simp [print, surrogates, surrogatesItems, hasSurrogate_print v hv.1,
        hasSurrogate_printItems vs hv.2, punct]
  | obj fields =>
    cases fields with
    | nil => decide
    | cons f fs =>
      cases f with
      | mk k v =>
      simp [print, surrogates, surrogatesFields, hasSurrogate_printStr,
        hasSurrogate_print v hv.2.2.1, hasSurrogate_printFields fs hv.2.2.2, punct, Bool.or_assoc]

theorem hasSurrogate_printItems {a : Bool} (vs : List Json) (hv : ExactItems a vs) :
    hasSurrogate (printItems false vs) = surrogatesItems vs := by
  have hc : isSurrogate 0x2C = false := by decide
  cases vs with
  | nil => rfl
  | cons v vs =>
    simp [printItems, surrogatesItems, hasSurrogate_print v hv.1, hasSurrogate_printItems vs hv.2,
      hc]

theorem hasSurrogate_printFields {a : Bool} (fs : List (Text × Json)) (hf : ExactFields a fs) :
    hasSurrogate (printFields false fs) = surrogatesFields fs := by
  have hc : isSurrogate 0x2C = false := by decide
  have hd : isSurrogate 0x3A = false := by decide
  cases fs with
  | nil => rfl
  | cons f fs =>
    cases f with
    | mk k v =>
    simp [printFields, surrogatesFields, hasSurrogate_printStr, hasSurrogate_print v hf.2.1,
      hasSurrogate_printFields fs hf.2.2, hc, hd, Bool.or_assoc]

end

theorem surrogatesFields_perm {fs gs : List (Text × Json)} (h : fs.Perm gs) :
    surrogatesFields fs = surrogatesFields gs := by
  induction h with
  | nil => rfl
  | cons f _ ih => rw [surrogatesFields, surrogatesFields, ih]
  | swap f g fs =>
    simp only [surrogatesFields]
    cases hasSurrogate f.1 <;> cases hasSurrogate g.1 <;> cases surrogates f.2 <;>
      cases surrogates g.2 <;> simp
  | trans _ _ ih1 ih2 => exact ih1.trans ih2

mutual

theorem surrogates_sortKeys (v : Json) : surrogates (sortKeys v) = surrogates v := by
  cases v with
  | arr items => exact surrogates_sortItems items
  | obj fields =>
    rw [sortKeys, surrogates, surrogatesFields_perm (orderFields_perm _)]
    exact surrogates_sortFields fields
  | _ => rfl

theorem surrogates_sortItems (vs : List Json) :
    surrogatesItems (sortItems vs) = surrogatesItems vs := by
  cases vs with
  | nil => rfl
  | cons v vs =>
    rw [sortItems, surrogatesItems, surrogates_sortKeys v, surrogates_sortItems vs]
    rfl

theorem surrogates_sortFields (fs : List (Text × Json)) :
    surrogatesFields (sortFields fs) = surrogatesFields fs := by
  cases fs with
  | nil => rfl
  | cons f fs =>
    cases f with
    | mk k v =>
    rw [sortFields, surrogatesFields, surrogates_sortKeys v, surrogates_sortFields fs]
    rfl

end

/-- A written value holds a surrogate exactly when one of its texts does. -/
theorem hasSurrogate_dumps {a : Bool} {v : Json} (hv : Exact a v) :
    hasSurrogate (dumps false v) = surrogates v := by
  rw [dumps, hasSurrogate_print _ (exact_sortKeys v hv), surrogates_sortKeys]

/-- An object with a field is written as a brace and a quote first. -/
theorem dumps_obj_head (a : Bool) {fs : List (Text × Json)} (hne : fs ≠ []) :
    ∃ t, dumps a (.obj fs) = 0x7B :: 0x22 :: t := by
  have hp := (orderFields_perm (sortFields fs)).length_eq
  rw [sortFields_eq_map, List.length_map, ← sortFields_eq_map] at hp
  rcases ho : orderFields (sortFields fs) with - | ⟨⟨k, v⟩, gs⟩
  · rw [ho] at hp
    exact absurd (List.length_eq_zero_iff.mp hp.symm) hne
  · rw [dumps, sortKeys, ho]
    exact ⟨_, rfl⟩

/-- The bytes of a written object are read back to it, its keys in order. -/
theorem loadsBytes_dumps {a : Bool} {fs : List (Text × Json)} (hne : fs ≠ [])
    (hv : Exact a (.obj fs)) :
    loadsBytes ((dumps a (.obj fs)).flatMap utf8Char)
      = some (.obj (orderFields (sortFields fs))) := by
  obtain ⟨t, ht⟩ := dumps_obj_head a hne
  have hb : (dumps a (.obj fs)).flatMap utf8Char = 0x7B :: 0x22 :: t.flatMap utf8Char := by
    rw [ht]
    rfl
  have hd := decodeUtf8_flatMap (dumps a (.obj fs))
  unfold loadsBytes
  rw [hb, decodeDetected_ascii _ (by decide) (by decide) (by decide), ← hb, hd, Option.bind_some,
    loads_dumps hv]
  rfl

/-! ### Lengths -/

theorem length_escapeChar (a : Bool) (c : CodePoint) : (escapeChar a c).length ≤ 12 := by
  unfold escapeChar
  split_ifs <;> simp [escapeUnit]

theorem length_printStr (a : Bool) (s : Text) : (printStr a s).length ≤ 12 * s.length + 2 := by
  have hchars : (s.flatMap (escapeChar a)).length ≤ 12 * s.length := by
    induction s with
    | nil => exact Nat.le_refl _
    | cons c s ih =>
        have hc := length_escapeChar a c
        rw [List.flatMap_cons, List.length_append, List.length_cons]
        omega
  unfold printStr
  rw [List.length_cons, List.length_append, List.length_singleton]
  omega

/-- A field with its colon and the comma or bracket before it. -/
def fieldLength (a : Bool) (f : Text × Json) : Nat :=
  (printStr a f.1).length + (print a f.2).length + 2

theorem length_printFields (a : Bool) (fs : List (Text × Json)) :
    (printFields a fs).length = (fs.map (fieldLength a)).sum := by
  induction fs with
  | nil => rfl
  | cons f fs ih =>
      obtain ⟨k, v⟩ := f
      rw [printFields, List.map_cons, List.sum_cons, ← ih]
      simp only [List.length_cons, List.length_append, fieldLength]
      omega

/-- The order of keys does not show in the length. -/
theorem length_dumps_obj (a : Bool) {fs : List (Text × Json)} (hne : fs ≠ []) :
    (dumps a (.obj fs)).length =
      1 + (fs.map fun f => fieldLength a (f.1, sortKeys f.2)).sum := by
  have hp := (orderFields_perm (sortFields fs)).map (fieldLength a)
  have hsum := hp.sum_nat
  have hlen := hp.length_eq
  rw [sortFields_eq_map, List.map_map, ← sortFields_eq_map] at hsum hlen
  rw [List.length_map, List.length_map] at hlen
  rw [dumps, sortKeys]
  rcases ho : orderFields (sortFields fs) with - | ⟨⟨k, v⟩, gs⟩
  · rw [ho] at hlen
    exact absurd (List.length_eq_zero_iff.mp hlen.symm) hne
  · rw [ho, List.map_cons, List.sum_cons] at hsum
    have hcomp : (fs.map fun f => fieldLength a (f.1, sortKeys f.2)).sum =
        fieldLength a (k, v) + (gs.map (fieldLength a)).sum := hsum.symm
    rw [hcomp, ← length_printFields]
    simp only [print, List.length_cons, List.length_append, List.length_nil, fieldLength]
    omega

/-- An ASCII text has a byte for each character. -/
theorem length_utf8_dumps {v : Json} (hv : Exact true v) :
    ((dumps true v).flatMap utf8Char).length = (dumps true v).length := by
  have hascii : ∀ c ∈ dumps true v, c.val < 0x80 := fun c hc => (mem_dumps hv.joined hc).2 rfl
  generalize dumps true v = s at hascii
  induction s with
  | nil => rfl
  | cons c s ih =>
      rw [List.flatMap_cons, utf8Char_ascii (hascii c List.mem_cons_self), List.length_append,
        ih fun d hd => hascii d (List.mem_cons_of_mem c hd), List.length_cons]
      exact Nat.add_comm 1 s.length

end Json

end PyLib
