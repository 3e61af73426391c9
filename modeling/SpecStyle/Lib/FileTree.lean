/-
SpecStyle/Lib/FileTree.lean

Static directory trees.

A node is a regular file, a directory, a symbolic link, or anything else, with
a bit that says whether its group or others may write it.  `follow` walks down
names.  Where the names of every directory are its own and hold no slash
(`Named`), an entry is what its name leads to, and a text splits at its slashes
into the one way it stands for.
-/
import SpecStyle.Lib.Text

namespace PyLib

/-- A node of a directory tree; `shared` is a permission to write for the group
or for others. -/
inductive TreeNode where
  | file (shared : Bool) (content : Bytes)
  | dir (shared : Bool) (entries : List (Text × TreeNode))
  | link (shared : Bool)
  | special (shared : Bool)

namespace TreeNode

def shared : TreeNode → Bool
  | .file shared _ => shared
  | .dir shared _ => shared
  | .link shared => shared
  | .special shared => shared

/-- The entries of a directory. -/
def entries : TreeNode → List (Text × TreeNode)
  | .dir _ entries => entries
  | _ => []

/-- What a name stands for in a directory. -/
def child (node : TreeNode) (name : Text) : Option TreeNode :=
  (node.entries.find? fun e => e.1 = name).map (·.2)

/-- What a way leads to. -/
def follow : TreeNode → List Text → Option TreeNode
  | node, [] => some node
  | node, name :: path => (node.child name).bind fun below => below.follow path

/-- The content of a regular file. -/
def content : TreeNode → Option Bytes
  | .file _ content => some content
  | _ => none

/-- The content of the regular file that a way leads to. -/
def fileAt (node : TreeNode) (path : List Text) : Option Bytes :=
  (node.follow path).bind content

/-- A regular file or a directory. -/
def isPlain : TreeNode → Bool
  | .file _ _ => true
  | .dir _ _ => true
  | _ => false

/-- A name: not empty, and without a slash. -/
def IsName (name : Text) : Prop := name ≠ [] ∧ 0x2F ∉ name

/-- The names of every directory are its own. -/
inductive Named : TreeNode → Prop
  | file (shared : Bool) (content : Bytes) : Named (.file shared content)
  | dir (shared : Bool) {entries : List (Text × TreeNode)} (own : (entries.map Prod.fst).Nodup)
      (name : ∀ e ∈ entries, IsName e.1) (below : ∀ e ∈ entries, Named e.2) :
      Named (.dir shared entries)
  | link (shared : Bool) : Named (.link shared)
  | special (shared : Bool) : Named (.special shared)

/-- Everything on every way is a regular file or a directory, and not shared. -/
def Clean (node : TreeNode) : Prop :=
  ∀ path below, node.follow path = some below → below.shared = false ∧ below.isPlain = true

section Follow

variable {node below : TreeNode} {name : Text} {path rest : List Text} {shared : Bool}
  {entries : List (Text × TreeNode)}

@[simp] theorem follow_nil : node.follow [] = some node := rfl

theorem follow_cons : node.follow (name :: path) =
    (node.child name).bind fun below => below.follow path := rfl

theorem follow_append : node.follow (path ++ rest) =
    (node.follow path).bind fun below => below.follow rest := by
  induction path generalizing node with
  | nil => rfl
  | cons name path ih =>
    rw [List.cons_append, follow_cons, follow_cons, Option.bind_assoc]
    exact Option.bind_congr fun below _ => ih

/-- Among own names, an entry is what its name stands for. -/
theorem child_eq_some (h : Named (.dir shared entries)) :
    (TreeNode.dir shared entries).child name = some below ↔ (name, below) ∈ entries := by
  have hown : (entries.map Prod.fst).Nodup := by
    cases h with
    | dir _ hown => exact hown
  clear h
  show (entries.find? _).map _ = _ ↔ _
  induction entries with
  | nil => simp
  | cons e entries ih =>
    rw [List.map_cons, List.nodup_cons] at hown
    obtain ⟨k, below'⟩ := e
    by_cases hk : k = name
    · subst hk
      rw [List.find?_cons_of_pos (by simp), Option.map_some, List.mem_cons, Prod.mk.injEq]
      constructor
      · intro hb
        exact .inl ⟨rfl, (Option.some.inj hb).symm⟩
      · rintro (⟨-, hb⟩ | hmem)
        · rw [hb]
        · exact absurd (List.mem_map.mpr ⟨_, hmem, rfl⟩) hown.1
    · rw [List.find?_cons_of_neg (by simpa using hk), ih hown.2, List.mem_cons, Prod.mk.injEq]
      constructor
      · exact fun hmem => .inr hmem
      · rintro (⟨hkn, -⟩ | hmem)
        · exact absurd hkn.symm hk
        · exact hmem

theorem child_dir (h : node.child name = some below) : ∃ shared entries,
    node = .dir shared entries := by
  cases node with
  | dir shared entries => exact ⟨shared, entries, rfl⟩
  | file => cases h
  | link => cases h
  | special => cases h

theorem Named.child (h : node.Named) (hb : node.child name = some below) :
    below.Named ∧ IsName name := by
  obtain ⟨shared, entries, rfl⟩ := child_dir hb
  have hmem := (child_eq_some h).mp hb
  cases h with
  | dir _ _ hname hbelow => exact ⟨hbelow _ hmem, hname _ hmem⟩

theorem Named.follow (h : node.Named) (hb : node.follow path = some below) :
    below.Named ∧ ∀ name ∈ path, IsName name := by
  induction path generalizing node with
  | nil =>
    cases hb
    exact ⟨h, fun name hn => by cases hn⟩
  | cons name path ih =>
    rw [follow_cons] at hb
    obtain ⟨next, hnext, hb⟩ := Option.bind_eq_some_iff.mp hb
    obtain ⟨hnamed, hname⟩ := h.child hnext
    obtain ⟨hlast, hnames⟩ := ih hnamed hb
    exact ⟨hlast, List.forall_mem_cons.mpr ⟨hname, hnames⟩⟩

theorem Clean.follow (h : node.Clean) (hb : node.follow path = some below) : below.Clean := by
  intro rest last hlast
  refine h (path ++ rest) last ?_
  rw [follow_append, hb]
  exact hlast

theorem Clean.self (h : node.Clean) : node.shared = false ∧ node.isPlain = true := h [] node rfl

/-- A directory is clean exactly if it is not shared and its entries are clean. -/
theorem clean_dir (h : Named (.dir shared entries)) :
    (TreeNode.dir shared entries).Clean ↔ shared = false ∧ ∀ e ∈ entries, e.2.Clean := by
  constructor
  · intro hclean
    refine ⟨hclean.self.1, fun e he => ?_⟩
    have hentry : (TreeNode.dir shared entries).follow [e.1] = some e.2 := by
      rw [follow_cons, (child_eq_some h).mpr he]
      rfl
    exact hclean.follow hentry
  · rintro ⟨hshared, hclean⟩ path below hb
    cases path with
    | nil =>
      cases hb
      exact ⟨hshared, rfl⟩
    | cons name path =>
      rw [follow_cons] at hb
      obtain ⟨next, hnext, hb⟩ := Option.bind_eq_some_iff.mp hb
      exact hclean _ ((child_eq_some h).mp hnext) path below hb

theorem clean_file {content : Bytes} :
    (TreeNode.file shared content).Clean ↔ shared = false := by
  constructor
  · exact fun h => h.self.1
  · intro hshared path below hb
    cases path with
    | nil =>
      cases hb
      exact ⟨hshared, rfl⟩
    | cons name path => cases hb

end Follow

/-! ### Paths as texts -/

/-- The way that a text stands for. -/
def parts (p : Text) : List Text := p.splitOn 0x2F

/-- A name below a prefix; without a prefix it is the name alone. -/
def relative (pre name : Text) : Text := if pre = [] then name else pre ++ 0x2F :: name

/-- A way as a text, below a prefix. -/
def spell (pre : Text) (path : List Text) : Text := path.foldl relative pre

@[simp] theorem spell_nil (pre : Text) : spell pre [] = pre := rfl

theorem spell_cons (pre name : Text) (path : List Text) :
    spell pre (name :: path) = spell (relative pre name) path := rfl

theorem relative_ne_nil (pre : Text) {name : Text} (h : name ≠ []) : relative pre name ≠ [] := by
  unfold relative
  split
  · exact h
  · exact List.append_ne_nil_of_left_ne_nil ‹_› _

theorem intercalate_cons {name : Text} {path : List Text} (h : ∀ n ∈ name :: path, n ≠ []) :
    [0x2F].intercalate (name :: path) = spell name path := by
  induction path generalizing name with
  | nil => simp
  | cons next path ih =>
    rw [List.forall_mem_cons, List.forall_mem_cons] at h
    have hname : relative name next = name ++ 0x2F :: next := if_neg h.1
    have hjoin := ih (List.forall_mem_cons.mpr ⟨relative_ne_nil name h.2.1, h.2.2⟩)
    rw [spell_cons, ← hjoin, hname]
    cases path with
    | nil => simp [List.intercalate_cons_cons]
    | cons last path => simp [List.intercalate_cons_cons]

theorem parts_ne_nil (p : Text) : parts p ≠ [] := List.splitOn_ne_nil _ _

/-- A text is the spelling of its way, if no part is empty. -/
theorem spell_parts {p : Text} (h : ∀ n ∈ parts p, n ≠ []) : spell [] (parts p) = p := by
  obtain ⟨name, path, hp⟩ := List.exists_cons_of_ne_nil (parts_ne_nil p)
  rw [hp] at h
  have hjoin := intercalate_cons h
  rw [← hp] at hjoin
  rw [hp, spell_cons]
  show spell name path = p
  rw [← hjoin]
  exact List.intercalate_splitOn _

/-- The spelling of names is parted into them again. -/
theorem parts_spell {path : List Text} (hne : path ≠ []) (h : ∀ n ∈ path, IsName n) :
    parts (spell [] path) = path := by
  obtain ⟨name, path, rfl⟩ := List.exists_cons_of_ne_nil hne
  have hjoin := intercalate_cons fun n hn => (h n hn).1
  show parts (spell name path) = name :: path
  unfold parts
  rw [← hjoin, List.splitOn_intercalate _ (fun n hn => (h n hn).2) hne]

end TreeNode

end PyLib
