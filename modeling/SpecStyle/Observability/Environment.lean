/-
SpecStyle/Observability/Environment.lean

The text that observations may show: no secrets, no paths, no private links.

A pattern that is searched for is a test of the character before a place and
of the text from there on (`search`).  Each pattern of the source is written
out as such a test; none of them needs to give up a character it has taken.
-/
import SpecStyle.Lib.Text

namespace SpecStyle

open PyLib

/-! ### Searching -/

/-- `pattern.search(value)`: the pattern matches at some place. -/
def search (pattern : Option CodePoint → Text → Bool) : Option CodePoint → Text → Bool
  | before, [] => pattern before []
  | before, c :: s => pattern before (c :: s) || search pattern (some c) s

/-- `[A-Za-z0-9]` -/
def isAlnum (c : CodePoint) : Bool := isLetter c || isDigit c

/-- An ASCII letter in lower case. -/
def asciiLower (c : CodePoint) : CodePoint :=
  if 0x41 ≤ c.val && c.val ≤ 0x5A then Fin.ofNat _ (c.val + 0x20) else c

/-! ### Patterns -/

/-- The words of `_SENSITIVE_TEXT`. -/
def sensitiveWords : List Text :=
  let separators := [py "", py "_", py " ", py "-"]
  [py "bearer", py "password", py "passwd", py "secret", py "token", py "authorization",
    py "credential", py "cookie", py "session"] ++
  (separators.map fun x => py "api" ++ x ++ py "key") ++
  (separators.map fun x => py "access" ++ x ++ py "key") ++
  (separators.map fun x => py "private" ++ x ++ py "key") ++
  separators.map fun x => py "client" ++ x ++ py "secret"

/-- `_SENSITIVE_TEXT`: a word with no letter or digit around it. -/
def sensitiveTextAt (before : Option CodePoint) (s : Text) : Bool :=
  !before.any isAlnum && sensitiveWords.any fun word =>
    word.isPrefixOf (s.map asciiLower) && !(s.drop word.length).head?.any isAlnum

/-- `\\\\[^\\\x00-\x20]+\\`: the root of a share. -/
def shareAt (s : Text) : Bool :=
  let name := (s.drop 2).takeWhile fun c => c ≠ 0x5C && 0x20 < c.val
  (py "\\\\").isPrefixOf s && !name.isEmpty && (s.drop (2 + name.length)).head? = some 0x5C

/-- `_PATH_TEXT` -/
def pathTextAt (before : Option CodePoint) (s : Text) : Bool :=
  before.all (fun c => (py " =:'\"([\x7b\x7d,;").contains c) &&
    (((py "/").isPrefixOf s && !(py "//").isPrefixOf s) || (py "~/").isPrefixOf s ||
      (s.head?.any isLetter && ((py ":\\").isPrefixOf (s.drop 1) || (py ":/").isPrefixOf (s.drop 1))) ||
      shareAt s)

/-- `_FORWARD_UNC` -/
def forwardUncAt (before : Option CodePoint) (s : Text) : Bool :=
  let name := (s.drop 2).takeWhile fun c => c ≠ 0x2F && 0x20 < c.val
  before.all (fun c => (py " ='\"([\x7b\x7d,;").contains c) && (py "//").isPrefixOf s &&
    !name.isEmpty && (s.drop (2 + name.length)).head? = some 0x2F

/-- `[A-Za-z0-9+.-]` -/
def isSchemeTail (c : CodePoint) : Bool := isAlnum c || (py "+.-").contains c

/-- `_URL_TOKEN` at a place: the scheme and the whole match. -/
def urlTokenAt (s : Text) : Option (Text × Text) :=
  let scheme := s.takeWhile isSchemeTail
  let rest := s.drop scheme.length
  if s.head?.any isLetter && (py "://").isPrefixOf rest then
    some (scheme, scheme ++ py "://" ++
      (rest.drop 3).takeWhile fun c => 0x20 < c.val && !(py "<>\"'").contains c)
  else none

/-- A link to a file, or one with a query, a fragment or a user, among the
matches of `_URL_TOKEN`; `skip` characters belong to the match before. -/
def hasPrivateUrl : Nat → Text → Bool
  | _, [] => false
  | skip + 1, _ :: s => hasPrivateUrl skip s
  | 0, c :: s =>
    match urlTokenAt (c :: s) with
    | some (scheme, token) =>
      scheme.map asciiLower = py "file" || token.any (fun c => (py "?#@[]").contains c) ||
        hasPrivateUrl (token.length - 1) s
    | none => hasPrivateUrl 0 s

/-- `_is_safe_observation_text` -/
def isSafeObservationText (value : Text) : Bool :=
  1 ≤ value.length && value.length ≤ 512 && isStripped value && !value.any isControl &&
    !search sensitiveTextAt none value && !search pathTextAt none value &&
    !search forwardUncAt none value && !hasPrivateUrl 0 value

/-- A link is public unless its scheme is that of a file. -/
example : isSafeObservationText (py "see https://example.org/a") = true ∧
    isSafeObservationText (py "see File://host/a") = false := by
  decide +kernel

end SpecStyle
