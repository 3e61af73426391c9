/-
SpecStyle/Workflow/JobStoreFs.lean

The filesystem primitives under the job store.

A job directory is six names, each bound to a file or to none, and a flag for
further names.  A file is its inode number, its link count, its bytes, and
whether it is a regular file of this user and device that nobody else may
write.  Times are left out: they are compared only between two looks at a
file with no write between.

Every system call takes its outcome from a schedule of faults: it succeeds,
it raises without an effect or after it, a write is cut short, or the process
stops.  A stopped process is an exception that the code does not catch, so
the directory it leaves is the one at that step.  The calls of one operation
run in order and alone, as under the lock of the store.
-/
import SpecStyle.Lib.Hoare
import SpecStyle.Lib.Text

namespace SpecStyle

open PyLib

/-! ### Directories -/

/-- The six names of a job directory. -/
inductive Slot where
  | snapshot | snapshotSwap | events | eventsSwap | marker | markerSwap
  deriving DecidableEq

def Slot.all : List Slot :=
  [.snapshot, .snapshotSwap, .events, .eventsSwap, .marker, .markerSwap]

theorem Slot.mem_all (s : Slot) : s ∈ Slot.all := by cases s <;> decide

/-- A file. -/
structure Node where
  ino : Nat
  trusted : Bool
  nlink : Nat
  data : Bytes
  deriving DecidableEq

/-- `Identity` -/
structure Identity where
  ino : Nat
  nlink : Nat
  size : Nat
  deriving DecidableEq

/-- `_identity` -/
def Node.identity (n : Node) : Identity := ⟨n.ino, n.nlink, n.data.length⟩

/-- `same_inode` -/
def Identity.sameInode (a b : Identity) : Bool := a.ino == b.ino

/-- `FileRecord` -/
structure FileRecord where
  data : Bytes
  identity : Identity
  deriving DecidableEq

/-- A job directory. -/
structure Dir where
  files : Slot → Option Node
  foreign : Bool

/-- A directory without files. -/
def emptyDir : Dir := ⟨fun _ => none, false⟩

/-- Binds a name, or removes it. -/
def Dir.set (d : Dir) (s : Slot) (o : Option Node) : Dir :=
  { d with files := fun t => if t = s then o else d.files t }

@[simp] theorem Dir.set_same (d : Dir) (s : Slot) (o : Option Node) : (d.set s o).files s = o := by
  simp [Dir.set]

theorem Dir.set_other (d : Dir) {s t : Slot} (o : Option Node) (h : t ≠ s) :
    (d.set s o).files t = d.files t := by
  simp [Dir.set, h]

@[simp] theorem Dir.set_foreign (d : Dir) (s : Slot) (o : Option Node) :
    (d.set s o).foreign = d.foreign := rfl

@[simp] theorem Dir.set_set (d : Dir) (s : Slot) (o o' : Option Node) :
    (d.set s o).set s o' = d.set s o' := by
  unfold Dir.set
  congr 1
  funext t
  by_cases h : t = s <;> simp [h]

@[simp] theorem Dir.set_self (d : Dir) (s : Slot) : d.set s (d.files s) = d := by
  unfold Dir.set
  have hf : (fun t => if t = s then d.files s else d.files t) = d.files := by
    funext t
    by_cases h : t = s <;> simp [h]
  rw [hf]

/-- Changes the bytes of a file. -/
def Dir.edit (d : Dir) (s : Slot) (f : Bytes → Bytes) : Dir :=
  d.set s ((d.files s).map fun n => { n with data := f n.data })

/-- An inode number that no name of the directory has. -/
def Dir.fresh (d : Dir) : Nat :=
  (Slot.all.map fun s => ((d.files s).map Node.ino).getD 0).foldl max 0 + 1

/-- `open(name, O_WRONLY | O_CREAT)`: an empty file if there is none. -/
def Dir.create (d : Dir) (s : Slot) : Dir :=
  match d.files s with
  | some _ => d
  | none => d.set s (some ⟨d.fresh, true, 1, []⟩)

/-- `rename(old, new, RENAME_NOREPLACE)`, where it is possible. -/
def Dir.move (d : Dir) (old new : Slot) : Dir :=
  match d.files new, d.files old with
  | none, some n => (d.set old none).set new (some n)
  | _, _ => d

/-- `rename(old, new, RENAME_EXCHANGE)`, where it is possible. -/
def Dir.exchange (d : Dir) (old new : Slot) : Dir :=
  match d.files new, d.files old with
  | some m, some n => (d.set old (some m)).set new (some n)
  | _, _ => d

/-! ### Faults -/

/-- What the modelled code raises. -/
inductive Exn where
  /-- `CorruptStore` -/
  | corruptStore
  /-- `StoreIO` itself -/
  | storeError
  /-- `DestinationExists`, a `StoreIO` -/
  | destinationExists
  /-- `RenameUncertain`, a `StoreIO` -/
  | renameUncertain
  /-- `GenerationExhausted` -/
  | generationExhausted
  /-- `_CleanOutcomeUncertain` -/
  | cleanOutcomeUncertain
  /-- `AssertionError` -/
  | assertionError
  /-- `OSError`, where the source lets it through. -/
  | osError
  /-- The process stops. -/
  | stopped
  deriving DecidableEq

/-- `isinstance(error, StoreIO)` -/
def Exn.isStoreError : Exn → Bool
  | .storeError => true
  | .destinationExists => true
  | .renameUncertain => true
  | _ => false

/-- The outcome of one system call. -/
inductive Fault where
  /-- The call succeeds. -/
  | none
  /-- The call fails before its effect. -/
  | fails
  /-- The call fails after its effect. -/
  | failsAfter
  /-- The call is not available. -/
  | unsupported
  /-- A write takes no more than `n` bytes. -/
  | short (n : Nat)
  /-- The process stops before the call. -/
  | stops
  deriving DecidableEq

/-- The directory, and the outcomes of the calls to come; calls after the
schedule succeed. -/
structure World where
  dir : Dir
  faults : List Fault

/-- A program over a job directory. -/
abbrev Fs (α : Type) := Prog Exn World α

/-- The outcome of the next call. -/
def tick : Fs Fault := do
  let w ← get
  match w.faults with
  | [] => return .none
  | f :: fs =>
    set { w with faults := fs }
    return f

/-- A call that changes nothing. -/
def look (raised : Exn) : Fs Dir := do
  match ← tick with
  | .stops => throw .stopped
  | .fails => throw raised
  | .failsAfter => throw raised
  | .unsupported => throw raised
  | _ =>
    let w ← get
    return w.dir

/-- `if not condition: raise` -/
def require (condition : Bool) (raised : Exn) : Fs Unit :=
  if condition then return () else throw raised

/-- A call that changes the directory. -/
def mutate (raised : Exn) (change : Dir → Dir) : Fs Unit := do
  match ← tick with
  | .stops => throw .stopped
  | .fails => throw raised
  | .unsupported => throw raised
  | .failsAfter =>
    modify fun w => { w with dir := change w.dir }
    throw raised
  | _ => modify fun w => { w with dir := change w.dir }

/-! ### Reading -/

/-- The conditions of `validate_file`. -/
def Node.valid (n : Node) (minimum maximum : Nat) : Bool :=
  n.trusted && n.nlink == 1 && minimum ≤ n.data.length && n.data.length ≤ maximum

/-- `validate_file` -/
def validateFile (n : Node) (minimum maximum : Nat) : Fs Identity :=
  if n.valid minimum maximum then return n.identity else throw .corruptStore

/-- `os.stat` or `os.fstat` of a file that must be there. -/
def statFile (name : Slot) (raised : Exn) : Fs Node := do
  let d ← look raised
  match d.files name with
  | some n => return n
  | none => throw raised

/-- What `directory_names` tells: the known names, and whether there are others. -/
structure Names where
  known : List Slot
  foreign : Bool
  deriving DecidableEq

def Dir.names (d : Dir) : Names := ⟨Slot.all.filter fun s => (d.files s).isSome, d.foreign⟩

/-- `directory_names` -/
def directoryNames : Fs Names := do
  let d ← look .storeError
  return d.names

/-- `inspect_file` -/
def inspectFile (name : Slot) (minimum maximum : Nat) (missingOk : Bool) :
    Fs (Option Identity) := do
  let d ← look .corruptStore
  match d.files name with
  | none => if missingOk then return none else throw .corruptStore
  | some n =>
    let identity ← validateFile n minimum maximum
    return some identity

/-- `read_file` -/
def readFile (name : Slot) (minimum maximum : Nat) (missingOk : Bool) :
    Fs (Option FileRecord) := do
  let d ← look .corruptStore
  match d.files name with
  | none => if missingOk then return none else throw .corruptStore
  | some named =>
    let before ← validateFile named minimum maximum
    -- `os.open` and `os.fstat`
    let file ← statFile name .corruptStore
    let opened ← validateFile file minimum maximum
    require (before.sameInode opened) .corruptStore
    -- `_read_exact`
    let read ← statFile name .storeError
    let current ← statFile name .corruptStore
    let after ← validateFile current minimum maximum
    require (opened = after) .corruptStore
    -- `close_owned`
    let _ ← look .storeError
    return some ⟨read.data, opened⟩

/-! ### Writing -/

/-- `os.write`: the number of bytes taken. -/
def osWrite (name : Slot) (chunk : Bytes) : Fs Nat := do
  match ← tick with
  | .stops => throw .stopped
  | .fails => throw .storeError
  | .unsupported => throw .storeError
  | .failsAfter =>
    modify fun w => { w with dir := w.dir.edit name (· ++ chunk) }
    throw .storeError
  | .short n =>
    modify fun w => { w with dir := w.dir.edit name (· ++ chunk.take n) }
    return min n chunk.length
  | .none =>
    modify fun w => { w with dir := w.dir.edit name (· ++ chunk) }
    return chunk.length

/-- `_write_all`.  Every turn takes a byte at least, so the length of the data
bounds the turns. -/
def writeAll (name : Slot) : Nat → Bytes → Fs Unit
  | 0, _ => return ()
  | turns + 1, data =>
    if data = [] then return ()
    else do
      let written ← osWrite name data
      require (written ≠ 0) .storeError
      writeAll name turns (data.drop written)

/-- `write_slot` -/
def writeSlot (name : Slot) (data : Bytes) (maximum : Nat) : Fs Identity := do
  mutate .storeError fun d => d.create name
  let file ← statFile name .storeError
  let _ ← validateFile file 0 maximum
  -- `os.ftruncate(fd, 0)`
  mutate .storeError fun d => d.edit name fun _ => []
  writeAll name data.length data
  -- `os.fsync(fd)`
  let _ ← look .storeError
  let file ← statFile name .storeError
  let identity ← validateFile file data.length data.length
  let file ← statFile name .storeError
  let named ← validateFile file data.length data.length
  require (identity.sameInode named) .corruptStore
  -- `close_owned`
  let _ ← look .storeError
  return identity

/-- `fsync_directory` -/
def fsyncDirectory : Fs Unit := do
  let _ ← look .storeError
  return ()

/-- The system call of `rename_noreplace`, without faults. -/
def noreplaceCall (old new : Slot) : Fs Unit := do
  let w ← get
  match w.dir.files new, w.dir.files old with
  | some _, _ => throw .destinationExists
  | none, none => throw .renameUncertain
  | none, some _ => set { w with dir := w.dir.move old new }

/-- The system call of `rename_exchange`, without faults. -/
def exchangeCall (old new : Slot) : Fs Unit := do
  let w ← get
  match w.dir.files new, w.dir.files old with
  | some _, some _ => set { w with dir := w.dir.exchange old new }
  | _, _ => throw .renameUncertain

/-- `rename_noreplace` -/
def renameNoreplace (old new : Slot) : Fs Unit := do
  match ← tick with
  | .stops => throw .stopped
  | .unsupported => throw .storeError
  | .fails => throw .renameUncertain
  | .failsAfter =>
    modify fun w => { w with dir := w.dir.move old new }
    throw .renameUncertain
  | _ => noreplaceCall old new

/-- `rename_exchange` -/
def renameExchange (old new : Slot) : Fs Unit := do
  match ← tick with
  | .stops => throw .stopped
  | .unsupported => throw .storeError
  | .fails => throw .renameUncertain
  | .failsAfter =>
    modify fun w => { w with dir := w.dir.exchange old new }
    throw .renameUncertain
  | _ => exchangeCall old new

/-! ### Views

A program that only looks at the directory leaves it as it is and gives, if
it gives anything, what the directory alone determines. -/

/-- `m` looks at `d` and finds `r`: it never changes the directory, without
faults it returns or raises `r`, and a fault can only make it raise. -/
def Views {ε α : Type} (d : Dir) (m : Prog ε World α) (r : Except ε α) : Prop :=
  ∀ w, w.dir = d →
    (exec m w).2.dir = d ∧ (w.faults = [] → (exec m w).2.faults = []) ∧
      ((exec m w).1 = r ∨ w.faults ≠ [] ∧ ∃ e, (exec m w).1 = .error e)

/-- The directory is `d`. -/
def DirIs (d : Dir) (w : World) : Prop := w.dir = d

variable {ε α β : Type} {d : Dir}

theorem Views.pure (a : α) : Views d (Pure.pure a : Prog ε World α) (.ok a) :=
  fun _ hw => ⟨hw, id, .inl rfl⟩

theorem Views.throw (e : ε) : Views d (throw e : Prog ε World α) (.error e) :=
  fun _ hw => ⟨hw, id, .inl rfl⟩

theorem Views.bind_ok {m : Prog ε World α} {f : α → Prog ε World β} {a : α} {r : Except ε β}
    (hm : Views d m (.ok a)) (hf : Views d (f a) r) : Views d (m >>= f) r := by
  intro w hw
  obtain ⟨hd, hn, hr⟩ := hm w hw
  rw [exec_bind]
  rcases hx : exec m w with ⟨e | a', w'⟩
  · rw [hx] at hd hn hr
    rcases hr with hr | ⟨hne, -⟩
    · cases hr
    · exact ⟨hd, hn, .inr ⟨hne, e, rfl⟩⟩
  · rw [hx] at hd hn hr
    obtain rfl : a' = a := by
      rcases hr with hr | ⟨-, e, he⟩
      · exact Except.ok.inj hr
      · cases he
    obtain ⟨hd', hn', hr'⟩ := hf w' hd
    refine ⟨hd', fun h => hn' (hn h), ?_⟩
    rcases hr' with hr' | ⟨hne, he⟩
    · exact .inl hr'
    · exact .inr ⟨fun h => hne (hn h), he⟩

theorem Views.bind_error {m : Prog ε World α} {f : α → Prog ε World β} {e : ε} (hm : Views d m (.error e)) :
    Views d (m >>= f) (.error e) := by
  intro w hw
  obtain ⟨hd, hn, hr⟩ := hm w hw
  rw [exec_bind]
  rcases hx : exec m w with ⟨e' | a, w'⟩
  · rw [hx] at hd hn hr
    refine ⟨hd, hn, ?_⟩
    rcases hr with hr | ⟨hne, -⟩
    · exact .inl (congrArg Except.error (Except.error.inj hr))
    · exact .inr ⟨hne, e', rfl⟩
  · rw [hx] at hr
    rcases hr with hr | ⟨-, e, he⟩
    · cases hr
    · cases he

/-- A view of a view is a view. -/
theorem Views.bind {m : Prog ε World α} {f : α → Prog ε World β} {r : Except ε α}
    {g : α → Except ε β} (hm : Views d m r) (hf : ∀ a, r = .ok a → Views d (f a) (g a)) :
    Views d (m >>= f) (r >>= g) := by
  rcases r with e | a
  · exact hm.bind_error
  · exact hm.bind_ok (hf a rfl)

theorem Views.adapt {ε' : Type} {f : ε → ε'} {m : Prog ε World α} {r : Except ε α}
    (h : Views d m r) : Views d (adapt f m) (r.mapError f) := by
  intro w hw
  obtain ⟨hd, hn, hr⟩ := h w hw
  rw [exec_adapt]
  rcases hx : exec m w with ⟨e | a, w'⟩
  · rw [hx] at hd hn hr
    refine ⟨hd, hn, ?_⟩
    rcases hr with rfl | ⟨hne, -⟩
    · exact .inl rfl
    · exact .inr ⟨hne, _, rfl⟩
  · rw [hx] at hd hn hr
    refine ⟨hd, hn, ?_⟩
    rcases hr with rfl | ⟨-, e, he⟩
    · exact .inl rfl
    · cases he

/-- As a triple: the directory stays, and what is returned is what is found. -/
theorem Views.triple {m : Prog ε World α} {r : Except ε α} (h : Views d m r) :
    Triple (DirIs d) m (fun a w => w.dir = d ∧ r = .ok a) fun _ w => w.dir = d := by
  intro w hw
  obtain ⟨hd, -, hr⟩ := h w hw
  rcases hx : exec m w with ⟨e | a, w'⟩
  · rw [hx] at hd
    exact hd
  · rw [hx] at hd hr
    refine ⟨hd, ?_⟩
    rcases hr with hr | ⟨-, e, he⟩
    · exact hr.symm
    · cases he

/-- A triple for each directory is one for all. -/
theorem Triple.of_dirs {K : Dir → Prop} {m : Prog ε World α} {Q : α → World → Prop}
    {R : ε → World → Prop} (h : ∀ d, K d → Triple (DirIs d) m Q R) :
    Triple (fun w => K w.dir) m Q R :=
  fun w hw => h w.dir hw w rfl

/-- A look, and then the rest. -/
theorem Views.bind_triple {m : Prog ε World α} {f : α → Prog ε World β} {r : Except ε α}
    {Q : β → World → Prop} {R : ε → World → Prop} (h : Views d m r)
    (hf : ∀ a, r = .ok a → Triple (DirIs d) (f a) Q R) (hR : ∀ e w, w.dir = d → R e w) :
    Triple (DirIs d) (m >>= f) Q R :=
  (h.triple.conseq (fun _ h => h) (fun _ _ h => h) fun e w h => hR e w h).bind
    fun a => Triple.pure_pre (hf a)

/-- Without faults the program finds `r`. -/
theorem Views.faultless {m : Prog ε World α} {r : Except ε α} (h : Views d m r) :
    (exec m ⟨d, []⟩).1 = r := by
  obtain ⟨-, -, hr⟩ := h ⟨d, []⟩ rfl
  rcases hr with hr | ⟨hne, -⟩
  · exact hr
  · exact absurd rfl hne

theorem tick_cases (w : World) :
    (w.faults = [] ∧ exec tick w = (.ok .none, w)) ∨
      ∃ f fs, w.faults = f :: fs ∧ exec tick w = (.ok f, { w with faults := fs }) := by
  unfold tick
  rw [exec_bind, exec_get]
  rcases hf : w.faults with - | ⟨f, fs⟩
  · exact .inl ⟨rfl, by simp [hf]⟩
  · refine .inr ⟨f, fs, rfl, ?_⟩
    simp only [hf]
    rfl

theorem look_views (e : Exn) : Views d (look e) (.ok d) := by
  intro w hw
  unfold look
  rw [exec_bind]
  rcases tick_cases w with ⟨hf, ht⟩ | ⟨f, fs, hf, ht⟩
  · rw [ht]
    exact ⟨hw, id, .inl (congrArg Except.ok hw)⟩
  · rw [ht]
    have hne : w.faults ≠ [] := by rw [hf]; exact List.cons_ne_nil _ _
    cases f with
    | none => exact ⟨hw, fun h => absurd h hne, .inl (congrArg Except.ok hw)⟩
    | short n => exact ⟨hw, fun h => absurd h hne, .inl (congrArg Except.ok hw)⟩
    | _ => exact ⟨hw, fun h => absurd h hne, .inr ⟨hne, _, rfl⟩⟩

theorem require_views {c : Bool} (hc : c = true) (e : Exn) : Views d (require c e) (.ok ()) := by
  unfold require
  rw [if_pos hc]
  exact Views.pure ()

theorem validateFile_views {n : Node} {minimum maximum : Nat}
    (h : n.valid minimum maximum = true) :
    Views d (validateFile n minimum maximum) (.ok n.identity) := by
  unfold validateFile
  rw [if_pos h]
  exact Views.pure _

theorem validateFile_views_error {n : Node} {minimum maximum : Nat}
    (h : ¬ n.valid minimum maximum = true) :
    Views d (validateFile n minimum maximum) (.error .corruptStore) := by
  unfold validateFile
  rw [if_neg h]
  exact Views.throw _

theorem statFile_views {name : Slot} {n : Node} (h : d.files name = some n) (e : Exn) :
    Views d (statFile name e) (.ok n) := by
  refine (look_views e).bind_ok ?_
  rw [h]
  exact Views.pure n

theorem directoryNames_views : Views d directoryNames (.ok d.names) :=
  (look_views .storeError).bind_ok (Views.pure _)

/-- What `inspect_file` finds. -/
theorem inspectFile_views (name : Slot) (minimum maximum : Nat) (missingOk : Bool) :
    Views d (inspectFile name minimum maximum missingOk)
      (match d.files name with
        | none => if missingOk then .ok none else .error .corruptStore
        | some n =>
          if n.valid minimum maximum then .ok (some n.identity) else .error .corruptStore) := by
  refine (look_views .corruptStore).bind_ok ?_
  rcases d.files name with - | n
  · cases missingOk
    · exact Views.throw _
    · exact Views.pure _
  · by_cases h : n.valid minimum maximum = true
    · simp only [h, if_true]
      exact (validateFile_views h).bind_ok (Views.pure _)
    · simp only [h]
      exact (validateFile_views_error h).bind_error

/-- What `read_file` finds. -/
theorem readFile_views (name : Slot) (minimum maximum : Nat) (missingOk : Bool) :
    Views d (readFile name minimum maximum missingOk)
      (match d.files name with
        | none => if missingOk then .ok none else .error .corruptStore
        | some n =>
          if n.valid minimum maximum then .ok (some ⟨n.data, n.identity⟩)
          else .error .corruptStore) := by
  refine (look_views .corruptStore).bind_ok ?_
  rcases hn : d.files name with - | n
  · cases missingOk
    · exact Views.throw _
    · exact Views.pure _
  · by_cases h : n.valid minimum maximum = true
    · simp only [h, if_true]
      -- every look finds the same file
      refine (validateFile_views h).bind_ok <| (statFile_views hn _).bind_ok <|
        (validateFile_views h).bind_ok <| (require_views ?_ _).bind_ok <|
        (statFile_views hn _).bind_ok <| (statFile_views hn _).bind_ok <|
        (validateFile_views h).bind_ok <| (require_views ?_ _).bind_ok <|
        (look_views .storeError).bind_ok (Views.pure _)
      · simp [Identity.sameInode]
      · simp
    · simp only [h]
      exact (validateFile_views_error h).bind_error

/-! ### Specifications of the writers

Each says what the directory is when the call returns and what it can be when
the call raises or the process stops. -/

theorem tick_triple : Triple (DirIs d) tick (fun _ => DirIs d) fun _ _ => False := by
  intro w hw
  rcases tick_cases w with ⟨-, ht⟩ | ⟨f, fs, -, ht⟩
  · rw [ht]
    exact hw
  · rw [ht]
    exact hw

theorem mutate_triple (e : Exn) (f : Dir → Dir) :
    Triple (DirIs d) (mutate e f) (fun _ => DirIs (f d))
      fun _ w => w.dir = d ∨ w.dir = f d := by
  refine (tick_triple.conseq (fun _ h => h) (fun _ _ h => h) fun _ _ h => h.elim).bind ?_
  intro fault
  cases fault with
  | none => exact fun w hw => congrArg f hw
  | short n => exact fun w hw => congrArg f hw
  | failsAfter => exact fun w hw => .inr (congrArg f hw)
  | _ => exact fun w hw => .inl hw

theorem osWrite_triple (name : Slot) (chunk : Bytes) :
    Triple (DirIs d) (osWrite name chunk)
      (fun k w => w.dir = d.edit name (· ++ chunk.take k))
      fun _ w => w.dir = d ∨ w.dir = d.edit name (· ++ chunk) := by
  refine (tick_triple.conseq (fun _ h => h) (fun _ _ h => h) fun _ _ h => h.elim).bind ?_
  intro fault
  cases fault with
  | none =>
    intro w hw
    change w.dir.edit name (· ++ chunk) = d.edit name (· ++ chunk.take chunk.length)
    rw [hw, List.take_length]
  | short n =>
    intro w hw
    change w.dir.edit name (· ++ chunk.take n) = d.edit name (· ++ chunk.take (min n chunk.length))
    rw [hw, List.take_eq_take_min]
  | failsAfter =>
    exact fun w hw => .inr (congrArg (fun d : Dir => d.edit name (· ++ chunk)) hw)
  | _ => exact fun w hw => .inl hw

/-- The directory is `d` but for what is bound to `name`. -/
def OnlyAt (name : Slot) (d : Dir) (w : World) : Prop := ∃ o, w.dir = d.set name o

theorem edit_set (d : Dir) (name : Slot) (n : Node) (f : Bytes → Bytes) :
    (d.set name (some n)).edit name f = d.set name (some { n with data := f n.data }) := by
  simp [Dir.edit]

theorem onlyAt_self (name : Slot) {w : World} (h : w.dir = d) : OnlyAt name d w :=
  ⟨d.files name, by rw [h, Dir.set_self]⟩

/-- A file at `name`, of at most so many bytes, and no other name touched. -/
def PartlyWritten (name : Slot) (m : Node) (bound : Nat) (d : Dir) (w : World) : Prop :=
  ∃ bs : Bytes, w.dir = d.set name (some { m with data := bs }) ∧ bs.length ≤ bound

theorem PartlyWritten.onlyAt {name : Slot} {m : Node} {bound : Nat} {w : World}
    (h : PartlyWritten name m bound d w) : OnlyAt name d w := by
  obtain ⟨bs, hw, -⟩ := h
  exact ⟨_, hw⟩

/-- A look at a directory with the file at `name`. -/
theorem Views.partly {name : Slot} {m : Node} {bs : Bytes} {bound : Nat} (hlen : bs.length ≤ bound)
    {prog : Fs α} {r : Except Exn α} (h : Views (d.set name (some { m with data := bs })) prog r) :
    Triple (DirIs (d.set name (some { m with data := bs }))) prog
      (fun _ => DirIs (d.set name (some { m with data := bs })))
      fun _ => PartlyWritten name m bound d :=
  h.triple.conseq (fun _ h => h) (fun _ _ h => h.1) fun _ _ h => ⟨bs, h, hlen⟩

/-- The whole of the data is appended, whatever the single writes take. -/
theorem writeAll_triple (name : Slot) (turns : Nat) (data : Bytes) (n : Node)
    (hlen : data.length ≤ turns) :
    Triple (DirIs (d.set name (some n))) (writeAll name turns data)
      (fun _ => DirIs (d.set name (some { n with data := n.data ++ data })))
      fun _ => PartlyWritten name n (n.data.length + data.length) d := by
  induction turns generalizing data n with
  | zero =>
    obtain rfl : data = [] := List.length_eq_zero_iff.mp (Nat.le_zero.mp hlen)
    refine Triple.pure fun w hw => ?_
    rw [List.append_nil]
    exact hw
  | succ turns ih =>
    refine Triple.ite (fun hd => ?_) fun hd => ?_
    · subst hd
      refine Triple.pure fun w hw => ?_
      rw [List.append_nil]
      exact hw
    · have hwrite := osWrite_triple (d := d.set name (some n)) name data
      simp only [edit_set] at hwrite
      refine (hwrite.conseq (fun _ h => h) (fun _ _ h => h) ?_).bind fun k => ?_
      · rintro e w (h | h)
        · exact ⟨n.data, h, Nat.le_add_right _ _⟩
        · exact ⟨_, h, by rw [List.length_append]⟩
      · have htake : (n.data ++ data.take k).length + (data.drop k).length =
            n.data.length + data.length := by
          rw [List.length_append, List.length_take, List.length_drop]
          omega
        refine Triple.bind (I := fun _ w => DirIs (d.set name
            (some { n with data := n.data ++ data.take k })) w ∧ k ≠ 0) ?_ fun _ => ?_
        · unfold require
          refine Triple.ite (fun h => Triple.pure fun w hw => ⟨hw, ?_⟩)
            fun _ => Triple.throw fun w hw => ⟨_, hw, by omega⟩
          simpa using h
        · refine Triple.pure_pre fun hk => ?_
          have hnext := ih (data.drop k) { n with data := n.data ++ data.take k } (by
            rw [List.length_drop]
            omega)
          rw [List.append_assoc, List.take_append_drop] at hnext
          refine hnext.conseq (fun _ h => h) (fun _ _ h => h) ?_
          rintro e w ⟨bs, hw, hbs⟩
          exact ⟨bs, hw, hbs.trans htake.le⟩

theorem create_set (d : Dir) (name : Slot) : ∃ n, d.create name = d.set name (some n) := by
  unfold Dir.create
  rcases h : d.files name with - | n
  · exact ⟨_, rfl⟩
  · exact ⟨n, by simp only; rw [← h, Dir.set_self]⟩

/-- **Writing a slot** puts the data into the file that is at the name, or that
is made there; interrupted, it leaves a file with no more than the old or the
new bytes. -/
theorem writeSlot_parts {name : Slot} {m : Node} (hm : d.create name = d.set name (some m))
    (data : Bytes) (maximum : Nat) :
    Triple (DirIs d) (writeSlot name data maximum)
      (fun _ w => w.dir = d.set name (some { m with data := data }))
      fun _ w => w.dir = d ∨ PartlyWritten name m (max m.data.length data.length) d w := by
  have hold : m.data.length ≤ max m.data.length data.length := le_max_left _ _
  have hnew : data.length ≤ max m.data.length data.length := le_max_right _ _
  have hcreate := mutate_triple (d := d) .storeError fun d => d.create name
  refine (hcreate.conseq (fun _ h => h) (fun _ _ h => h) ?_).bind fun _ => ?_
  · rintro e w (h | h)
    · exact .inl h
    · exact .inr ⟨m.data, h.trans hm, hold⟩
  refine @Triple.conseq _ _ _ _ _ _ _ _
    (fun _ => PartlyWritten name m (max m.data.length data.length) d) _ ?_
    (fun _ h => h) (fun _ _ h => h) fun _ _ h => .inr h
  simp only [hm]
  have hfile : ∀ n, (d.set name (some n)).files name = some n := fun n => Dir.set_same d name _
  have hvalid : ∀ (bs : Bytes), bs.length ≤ max m.data.length data.length → ∀ lo hi,
      Triple (DirIs (d.set name (some { m with data := bs })))
        (validateFile { m with data := bs } lo hi)
        (fun _ => DirIs (d.set name (some { m with data := bs })))
        fun _ => PartlyWritten name m (max m.data.length data.length) d := by
    intro bs hbs lo hi
    by_cases h : ({ m with data := bs } : Node).valid lo hi = true
    · exact (validateFile_views h).partly hbs
    · exact (validateFile_views_error h).partly hbs
  -- `fstat` finds the file that was opened
  have hstat : ∀ (bs : Bytes), bs.length ≤ max m.data.length data.length → ∀ e : Exn,
      Triple (DirIs (d.set name (some { m with data := bs }))) (statFile name e)
        (fun a w => DirIs (d.set name (some { m with data := bs })) w ∧ a = { m with data := bs })
        fun _ => PartlyWritten name m (max m.data.length data.length) d := fun bs hbs e =>
    (statFile_views (hfile _) e).triple.conseq (fun _ h => h)
      (fun _ _ h => ⟨h.1, (Except.ok.inj h.2).symm⟩) fun _ _ h => ⟨bs, h, hbs⟩
  refine (hstat m.data hold _).bind fun file => Triple.pure_pre fun hf => ?_
  subst hf
  refine (hvalid m.data hold _ _).bind fun _ => ?_
  have htrunc := mutate_triple (d := d.set name (some { m with data := m.data })) .storeError
    fun d => d.edit name fun _ => []
  simp only [edit_set] at htrunc
  refine (htrunc.conseq (fun _ h => h) (fun _ _ h => h) ?_).bind fun _ => ?_
  · rintro e w (h | h)
    · exact ⟨_, h, hold⟩
    · exact ⟨_, h, Nat.zero_le _⟩
  have hall := writeAll_triple (d := d) name data.length data { m with data := [] } le_rfl
  rw [List.nil_append] at hall
  refine (hall.conseq (fun _ h => h) (fun _ _ h => h) ?_).bind fun _ => ?_
  · rintro e w ⟨bs, hw, hbs⟩
    exact ⟨bs, hw, (hbs.trans (by simp)).trans hnew⟩
  refine ((look_views .storeError).partly hnew).bind fun _ => ?_
  refine (hstat data hnew _).bind fun file1 => Triple.pure_pre fun hf => ?_
  subst hf
  refine (hvalid data hnew _ _).bind fun identity => ?_
  refine (hstat data hnew _).bind fun file2 => Triple.pure_pre fun hf => ?_
  subst hf
  refine (hvalid data hnew _ _).bind fun named => ?_
  refine Triple.bind (I := fun _ => DirIs (d.set name (some { m with data := data }))) ?_ fun _ =>
    ((look_views .storeError).partly hnew).bind fun _ => Triple.pure fun w hw => hw
  unfold require
  exact Triple.ite (fun _ => Triple.pure fun _ h => h) fun _ =>
    Triple.throw fun _ h => ⟨data, h, hnew⟩

/-- **Writing a slot** binds a file with the data to it; interrupted, it has
touched no other name. -/
theorem writeSlot_triple (name : Slot) (data : Bytes) (maximum : Nat) :
    Triple (DirIs d) (writeSlot name data maximum)
      (fun _ w => ∃ n, w.dir = d.set name (some n) ∧ n.data = data) fun _ => OnlyAt name d := by
  obtain ⟨m, hm⟩ := create_set d name
  refine (writeSlot_parts hm data maximum).conseq (fun _ h => h)
    (fun _ _ h => ⟨_, h, rfl⟩) ?_
  rintro e w (h | h)
  · exact onlyAt_self name h
  · exact h.onlyAt

theorem noreplaceCall_triple (old new : Slot) :
    Triple (DirIs d) (noreplaceCall old new)
      (fun _ w => w.dir = d.move old new ∧ d.files new = none ∧ (d.files old).isSome)
      fun e w => (w.dir = d ∨ w.dir = d.move old new) ∧
        (e = .destinationExists → w.dir = d ∧ (d.files new).isSome) := by
  rintro w rfl
  unfold noreplaceCall
  rw [exec_bind, exec_get]
  rcases hn : w.dir.files new with - | m
  · rcases ho : w.dir.files old with - | n
    · simp [hn, ho]
    · simp [hn, ho]
  · simp [hn]

/-- `rename_noreplace` binds the new name, or does nothing. -/
theorem renameNoreplace_triple (old new : Slot) :
    Triple (DirIs d) (renameNoreplace old new)
      (fun _ w => w.dir = d.move old new ∧ d.files new = none ∧ (d.files old).isSome)
      fun e w => (w.dir = d ∨ w.dir = d.move old new) ∧
        (e = .destinationExists → w.dir = d ∧ (d.files new).isSome) := by
  refine (tick_triple.conseq (fun _ h => h) (fun _ _ h => h) fun _ _ h => h.elim).bind ?_
  intro fault
  cases fault with
  | none => exact noreplaceCall_triple old new
  | short n => exact noreplaceCall_triple old new
  | failsAfter =>
    intro w hw
    exact ⟨.inr (congrArg (fun d : Dir => d.move old new) hw), fun h => by cases h⟩
  | _ => exact fun w hw => ⟨.inl hw, fun h => by cases h⟩

theorem exchangeCall_triple (old new : Slot) :
    Triple (DirIs d) (exchangeCall old new)
      (fun _ w => w.dir = d.exchange old new ∧ (d.files new).isSome ∧ (d.files old).isSome)
      fun _ w => w.dir = d ∨ w.dir = d.exchange old new := by
  rintro w rfl
  unfold exchangeCall
  rw [exec_bind, exec_get]
  rcases hn : w.dir.files new with - | m
  · simp [hn]
  · rcases ho : w.dir.files old with - | n
    · simp [hn, ho]
    · simp [hn, ho]

/-- `rename_exchange` exchanges two files, or does nothing. -/
theorem renameExchange_triple (old new : Slot) :
    Triple (DirIs d) (renameExchange old new)
      (fun _ w => w.dir = d.exchange old new ∧ (d.files new).isSome ∧ (d.files old).isSome)
      fun _ w => w.dir = d ∨ w.dir = d.exchange old new := by
  refine (tick_triple.conseq (fun _ h => h) (fun _ _ h => h) fun _ _ h => h.elim).bind ?_
  intro fault
  cases fault with
  | none => exact exchangeCall_triple old new
  | short n => exact exchangeCall_triple old new
  | failsAfter => exact fun w hw => .inr (congrArg (fun d : Dir => d.exchange old new) hw)
  | _ => exact fun w hw => .inl hw

end SpecStyle
