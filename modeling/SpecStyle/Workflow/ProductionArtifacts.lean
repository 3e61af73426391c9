/-
SpecStyle/Workflow/ProductionArtifacts.lean

The store of production artifacts: one directory for each artifact of a job,
with the artifact and its metadata.

A file is written under a temporary name, synced, linked to its final name and
unlinked; what a crash leaves is recovered from the link counts.  Here are the
calls on one artifact of one job as programs of system calls.  Any number of
them, in any processes and after any crashes, act on one directory; the lock
that a process takes in addition only leaves out some of these orders.

Nothing but these calls writes in the directory of the artifact, and nothing but
the calls on artifacts and reports makes the directories on the way; so a file is
a regular one of this user with mode 0600, and a directory one with mode 0700.  What
`_close_quietly` does is not seen by anybody.
-/
import SpecStyle.Generation.Requests
import SpecStyle.Workflow.BatchJournal
import SpecStyle.Workflow.ProductionReports

namespace SpecStyle

open PyLib

/-! ### Names -/

/-- The two files of an artifact. -/
inductive ArtifactKind where
  | artifact | metadata
  deriving DecidableEq

/-- `_LIMIT_BY_KIND` -/
def ArtifactKind.limit : ArtifactKind → Nat
  | .artifact => 32 * 1024 * 1024
  | .metadata => 4096

/-- A name in the directory: one of `_FINAL_BY_KIND`, or one that matches
`_TEMP_PATTERN`.  A token is random and drawn once; it stands for the number of
the file that is created with it. -/
inductive ArtifactName where
  | final (kind : ArtifactKind)
  | temp (kind : ArtifactKind) (token : Nat)
  deriving DecidableEq

/-- The kind of file that may stand under a name. -/
def ArtifactName.kind : ArtifactName → ArtifactKind
  | .final kind => kind
  | .temp kind _ => kind

/-! ### Metadata -/

/-- What `_encode_metadata` writes. -/
def artifactRecord {hashBytes : Bytes → Sha256} (jobId : JobId)
    (artifact : GeneratedArtifact hashBytes) : List (Text × Json) :=
  [(py "schema", .str (py "specstyle.production_artifact.v1")),
    (py "job_id", .str jobId.value),
    (py "artifact_id", .str artifact.ref.artifactId.value),
    (py "content_sha256", .str artifact.ref.sha256.value),
    (py "size_bytes", .int artifact.content.length),
    (py "media_type", .str (py "image/png")),
    (py "request_hash", .str artifact.requestHash.value),
    (py "generation_fingerprint", .str artifact.generationFingerprint.value)]

/-- `_encode_metadata`; the text is ASCII. -/
def encodeMetadata {hashBytes : Bytes → Sha256} (jobId : JobId)
    (artifact : GeneratedArtifact hashBytes) : Bytes :=
  (Json.dumps true (.obj (artifactRecord jobId artifact))).flatMap utf8Char

/-- `_METADATA_KEYS` -/
def metadataKeys : List Text :=
  [py "schema", py "job_id", py "artifact_id", py "content_sha256", py "size_bytes",
    py "media_type", py "request_hash", py "generation_fingerprint"]

/-- What the readers use of a metadata document. -/
structure ArtifactMetadata where
  artifactId : Text
  contentSha256 : Text
  sizeBytes : Nat
  requestHash : Text
  generationFingerprint : Text

/-- A JSON integer, as `type(value) is int` has it. -/
def exactInt : Json → Option Int
  | .int n => some n
  | _ => none

/-- `_parse_metadata` -/
def parseMetadata (jobId : JobId) (artifactId : ArtifactId) (content : Bytes) :
    Option ArtifactMetadata := do
  let document ← (Reports.decodeAscii content).bind Json.loads
  let value ← Reports.exactDict document metadataKeys
  guard ((Json.dumps true document).flatMap utf8Char = content)
  guard (Reports.stringAt value "schema" = some (py "specstyle.production_artifact.v1"))
  guard (Reports.stringAt value "job_id" = some jobId.value)
  guard (Reports.stringAt value "artifact_id" = some artifactId.value)
  guard (Reports.stringAt value "media_type" = some (py "image/png"))
  let sizeBytes ← (Json.field value (py "size_bytes")).bind exactInt
  guard (1 ≤ sizeBytes ∧ sizeBytes ≤ ArtifactKind.artifact.limit)
  let contentSha256 ← Reports.stringAt value "content_sha256"
  let requestHash ← Reports.stringAt value "request_hash"
  let generationFingerprint ← Reports.stringAt value "generation_fingerprint"
  let _ ← (Sha256.new contentSha256).toOption
  let _ ← (Sha256.new requestHash).toOption
  let _ ← (Sha256.new generationFingerprint).toOption
  return ⟨artifactId.value, contentSha256, sizeBytes.toNat, requestHash, generationFingerprint⟩

/-- `_artifact_from` -/
def artifactFrom (hashBytes : Bytes → Sha256) (metadata : ArtifactMetadata) (content : Bytes) :
    Option (GeneratedArtifact hashBytes) := do
  guard (content.length = metadata.sizeBytes)
  guard ((hashBytes content).value = metadata.contentSha256)
  let artifactId ← (Id.new .artifact metadata.artifactId).toOption
  let sha256 ← (Sha256.new metadata.contentSha256).toOption
  let requestHash ← (Sha256.new metadata.requestHash).toOption
  let generationFingerprint ← (Sha256.new metadata.generationFingerprint).toOption
  -- `GeneratedArtifact.__post_init__`
  if hashed : hashBytes content = sha256 then
    return ⟨⟨artifactId, sha256⟩, content, requestHash, generationFingerprint, hashed⟩
  else none

/-! ### The directory -/

/-- A file.  `kind` and `meant` are for the proofs: as what and which bytes the
call that created it is going to publish; no function reads them.  `synced` is
what is on the disk, `changed` stands for `st_mtime_ns` and `st_ctime_ns`. -/
structure StoredFile where
  kind : ArtifactKind
  meant : Bytes
  data : Bytes
  synced : Bytes
  changed : Nat

/-- The directories on the way to an artifact, and the directory of the
artifact.  The names of the path are there up to `depth`, and on the disk where
`syncedLevels` says so.  Of the final names `syncedFinal` is on the disk.  A
number from `next` on is not in use. -/
structure ArtifactDirectory where
  depth : Nat
  syncedLevels : Nat → Bool
  final : ArtifactKind → Option Nat
  temps : List (ArtifactKind × Nat)
  syncedFinal : ArtifactKind → Option Nat
  files : Nat → StoredFile
  next : Nat
  clock : Nat

/-- `os.stat_result`: the parts that differ among the files of this store. -/
structure FileStat where
  inode : Nat
  links : Nat
  size : Nat
  changed : Nat
  deriving DecidableEq

namespace ArtifactDirectory

/-- The root before the first call. -/
def empty : ArtifactDirectory :=
  ⟨0, fun _ => false, fun _ => none, [], fun _ => none, fun _ => ⟨.artifact, [], [], [], 0⟩, 0, 0⟩

/-- The file under a name. -/
def lookup (s : ArtifactDirectory) : ArtifactName → Option Nat
  | .final kind => s.final kind
  | .temp kind token => if (kind, token) ∈ s.temps then some token else none

/-- `st_nlink` -/
def links (s : ArtifactDirectory) (inode : Nat) : Nat :=
  ([ArtifactKind.artifact, .metadata].countP fun kind => s.final kind = some inode) +
    s.temps.countP fun temp => temp.2 = inode

/-- `os.fstat` and `os.stat` -/
def stat (s : ArtifactDirectory) (inode : Nat) : FileStat :=
  ⟨inode, s.links inode, (s.files inode).data.length, (s.files inode).changed⟩

/-- What `os.scandir` lists. -/
def names (s : ArtifactDirectory) : List ArtifactName :=
  ([ArtifactKind.artifact, .metadata].filter fun kind => (s.final kind).isSome).map .final ++
    s.temps.map fun temp => .temp temp.1 temp.2

/-- The file changes, now. -/
def setFile (s : ArtifactDirectory) (inode : Nat) (file : StoredFile) : ArtifactDirectory :=
  { s with
    files := Function.update s.files inode { file with changed := s.clock }
    clock := s.clock + 1 }

/-- The file changes in its names only. -/
def touch (s : ArtifactDirectory) (inode : Nat) : ArtifactDirectory :=
  s.setFile inode (s.files inode)

/-- The bytes from `offset` on are overwritten. -/
def write (s : ArtifactDirectory) (inode offset : Nat) (chunk : Bytes) : ArtifactDirectory :=
  let file := s.files inode
  s.setFile inode { file with
    data := file.data.take offset ++ chunk ++ file.data.drop (offset + chunk.length) }

/-- `os.fsync` of a file. -/
def syncFile (s : ArtifactDirectory) (inode : Nat) : ArtifactDirectory :=
  let file := s.files inode
  { s with files := Function.update s.files inode { file with synced := file.data } }

/-- `os.fsync` of the directory of the artifact. -/
def syncEntries (s : ArtifactDirectory) : ArtifactDirectory :=
  { s with syncedFinal := s.final }

/-- `os.fsync` of the parent of a level. -/
def syncLevel (s : ArtifactDirectory) (level : Nat) : ArtifactDirectory :=
  { s with syncedLevels := Function.update s.syncedLevels level (level < s.depth) }

end ArtifactDirectory

/-! ### System calls -/

/-- What leaves the store. -/
inductive ArtifactExn where
  /-- `DomainError("invalid production artifact")` -/
  | invalid
  /-- `InfrastructureError("production artifact store unavailable")` -/
  | unavailable
  /-- `InfrastructureError("production artifact store corrupted")` -/
  | corrupted
  /-- `FileNotFoundError` -/
  | fileNotFound
  /-- `FileExistsError` -/
  | fileExists
  /-- Any other `OSError`. -/
  | osError
  deriving DecidableEq

/-- `isinstance(error, OSError)` -/
def ArtifactExn.isOSError : ArtifactExn → Bool
  | .fileNotFound => true
  | .fileExists => true
  | .osError => true
  | _ => false

/-- A program over the directory. -/
abbrev ArtifactProgram (α : Type) := Code ArtifactDirectory CallOutcome ArtifactExn α

namespace Artifacts

open ArtifactDirectory

variable {α : Type}

/-- A call that changes nothing. -/
def look (view : CallOutcome → ArtifactDirectory → Except ArtifactExn α) : ArtifactProgram α :=
  Code.call fun outcome s =>
    match outcome with
    | .fails => (.error .osError, s)
    | .failsAfter => (.error .osError, s)
    | _ => (view outcome s, s)

/-- The result of a call that has changed the directory, if it could. -/
def settle (result : Except ArtifactExn α) (s : ArtifactDirectory) :
    Except ArtifactExn ArtifactDirectory → Except ArtifactExn α × ArtifactDirectory
  | .error raised => (.error raised, s)
  | .ok s' => (result, s')

/-- A call that changes the directory, where it is possible. -/
def mutate (change : ArtifactDirectory → Except ArtifactExn ArtifactDirectory) :
    ArtifactProgram Unit :=
  Code.call fun outcome s =>
    match outcome with
    | .fails => (.error .osError, s)
    | .failsAfter => settle (.error .osError) s (change s)
    | _ => settle (.ok ()) s (change s)

/-- A call without an effect that matters here. -/
def bare : ArtifactProgram Unit := look fun _ _ => .ok ()

/-- `except OSError: raise` of another exception. -/
def translate (m : ArtifactProgram α) (raised : ArtifactExn) : ArtifactProgram α :=
  tryCatch m fun e => throw (if e.isOSError then raised else e)

/-- `except` of one exception, which is answered. -/
def catching (m : ArtifactProgram α) (caught : ArtifactExn) (answer : α) : ArtifactProgram α :=
  tryCatch m fun e => if e = caught then return answer else throw e

/-- A step under a condition. -/
def onlyIf (condition : Bool) (m : ArtifactProgram Unit) : ArtifactProgram Unit :=
  if condition then m else return ()

/-- `_close_fd` -/
def closeFd : ArtifactProgram Unit := translate bare .unavailable

/-- `_close_fds`: every descriptor is closed, and what failed is raised after
the last. -/
def closeFds : Nat → Bool → ArtifactProgram Unit
  | 0, failed => Code.require (!failed) .unavailable
  | count + 1, failed => do
    let closed ← tryCatch (do closeFd; return true) fun _ => return false
    closeFds count (failed || !closed)

/-- `_fsync` of a file. -/
def fsyncFile (inode : Nat) : ArtifactProgram Unit :=
  translate (mutate fun s => .ok (s.syncFile inode)) .unavailable

/-- `_fsync` of the directory of the artifact. -/
def fsyncEntries : ArtifactProgram Unit :=
  translate (mutate fun s => .ok s.syncEntries) .unavailable

/-- `_fsync` of the parent of a level. -/
def fsyncLevel (level : Nat) : ArtifactProgram Unit :=
  translate (mutate fun s => .ok (s.syncLevel level)) .unavailable

/-! ### Directories -/

/-- `os.mkdir(name, 0o700, dir_fd=parent_fd)`; the parent is open. -/
def mkdir (level : Nat) (s : ArtifactDirectory) : Except ArtifactExn ArtifactDirectory :=
  if level < s.depth then .error .fileExists
  else if level = s.depth then .ok { s with depth := level + 1 }
  else .error .fileNotFound

/-- `os.open(name, _DIR_FLAGS, dir_fd=parent_fd)`: `FileNotFoundError` is
`false`. -/
def openNamed (level : Nat) : ArtifactProgram Bool := look fun _ s => .ok (level < s.depth)

/-- `_directory_is_secure`: `fstat`, `fchmod` and `fstat`. -/
def directoryIsSecure : ArtifactProgram Unit := do
  translate bare .unavailable
  translate bare .unavailable
  translate bare .unavailable

/-- Whether the directory is made here. -/
def tryMkdir (level : Nat) : ArtifactProgram Bool :=
  translate (catching (do mutate (mkdir level); return true) .fileExists false) .unavailable

/-- `_open_directory`, in the branch of `FileNotFoundError`. -/
def makeDirectory (level : Nat) : ArtifactProgram Bool := do
  let created ← tryMkdir level
  let opened ← translate (openNamed level) .corrupted
  Code.require opened .corrupted
  directoryIsSecure
  onlyIf created (fsyncLevel level)
  return true

/-- `_open_directory`: whether the directory is open. -/
def openDirectory (level : Nat) (create : Bool) : ArtifactProgram Bool := do
  let found ← translate (openNamed level) .corrupted
  if found then do
    directoryIsSecure
    return true
  else if create then makeDirectory level
  else return false

/-- The levels of `_open_scope`: `jobs`, the job, `artifacts` and the artifact. -/
def levels : List Nat := [0, 1, 2, 3]

/-- `_open_scope`: whether all directories are open. -/
def openScope (create : Bool) : List Nat → ArtifactProgram Bool
  | [] => return true
  | level :: rest => do
    let opened ← openDirectory level create
    if opened then do
      onlyIf create (fsyncLevel level)
      openScope create rest
    else do
      closeFds level false
      return false

/-! ### Reading -/

/-- `_fstat` -/
def fstat (inode : Nat) : ArtifactProgram FileStat :=
  translate (look fun _ s => .ok (s.stat inode)) .unavailable

/-- `os.stat(name, dir_fd=directory_fd, follow_symlinks=False)` -/
def osStat (name : ArtifactName) : ArtifactProgram FileStat :=
  look fun _ s =>
    match s.lookup name with
    | some inode => .ok (s.stat inode)
    | none => .error .fileNotFound

/-- `_named_stat` -/
def namedStat (name : ArtifactName) : ArtifactProgram FileStat := translate (osStat name) .corrupted

/-- `_require_regular` -/
def requireRegular (result : FileStat) (links : Option Nat) (minimum maximum : Nat) :
    ArtifactProgram Unit :=
  Code.require ((links.all fun n => result.links = n) && minimum ≤ result.size &&
    result.size ≤ maximum) .corrupted

/-- `_same_file` -/
def sameFile (first second : FileStat) : Bool := first.inode = second.inode

/-- `_same_snapshot` -/
def sameSnapshot (first second : FileStat) : Bool := first = second

/-- `os.read(fd, amount)` at `offset`. -/
def osRead (inode offset amount : Nat) : ArtifactProgram Bytes :=
  look fun outcome s =>
    let chunk := ((s.files inode).data.drop offset).take amount
    match outcome with
    | .shortRead n => .ok (chunk.take n)
    | _ => .ok chunk

/-- `_CHUNK` -/
def chunkSize : Nat := 64 * 1024

/-- The loop of `_read_exact_bounded`.  Every turn reads a byte at least, so the
length expected bounds the turns. -/
def readChunks (inode expected : Nat) : Nat → Bytes → ArtifactProgram Bytes
  | 0, content => return content
  | turns + 1, content =>
    if expected ≤ content.length then return content
    else do
      let amount := min chunkSize (expected - content.length)
      let chunk ← translate (osRead inode content.length amount) .unavailable
      Code.require (chunk ≠ [] && chunk.length ≤ amount) .corrupted
      readChunks inode expected turns (content ++ chunk)

/-- `_read_exact_bounded` -/
def readExactBounded (inode expected maximum : Nat) : ArtifactProgram Bytes := do
  Code.require (1 ≤ expected && expected ≤ maximum) .corrupted
  let content ← readChunks inode expected expected []
  let extra ← translate (osRead inode content.length 1) .unavailable
  Code.require (extra = []) .corrupted
  return content

/-- `_inspect_open_file` -/
def inspectOpenFile (inode : Nat) (name : ArtifactName) (expected links : Nat) :
    ArtifactProgram FileStat := do
  let opened ← fstat inode
  let named ← namedStat name
  requireRegular opened (some links) expected expected
  requireRegular named (some links) expected expected
  Code.require (sameFile opened named) .corrupted
  return opened

/-- The part of `_read_file` under `sync`. -/
def syncOpen (inode : Nat) (name : ArtifactName) (size : Nat) (after : FileStat) :
    ArtifactProgram Unit := do
  fsyncFile inode
  let durable ← inspectOpenFile inode name size 1
  Code.require (sameSnapshot after durable) .corrupted

/-- `_read_file`, with the descriptor open. -/
def readOpen (inode : Nat) (name : ArtifactName) (expected : Option Nat) (maximum : Nat)
    (sync : Bool) : ArtifactProgram Bytes := do
  let initial ← fstat inode
  let size := expected.getD initial.size
  let before ← inspectOpenFile inode name size 1
  Code.require (1 ≤ size && size ≤ maximum) .corrupted
  let content ← readExactBounded inode size maximum
  let after ← inspectOpenFile inode name size 1
  Code.require (sameSnapshot before after) .corrupted
  onlyIf sync (syncOpen inode name size after)
  return content

/-- `os.open(name, _READ_FLAGS, dir_fd=directory_fd)`: `FileNotFoundError` is
`none`. -/
def osOpen (name : ArtifactName) : ArtifactProgram (Option Nat) :=
  look fun _ s => .ok (s.lookup name)

/-- `_read_file` -/
def readFile (name : ArtifactName) (missingOk : Bool) (expected : Option Nat) (maximum : Nat)
    (sync : Bool) : ArtifactProgram (Option Bytes) := do
  let found ← translate (osOpen name) .corrupted
  match found with
  | none => do
    Code.require missingOk .corrupted
    return none
  | some inode => do
    let content ← readOpen inode name expected maximum sync
    closeFd
    return some content

/-! ### Publishing -/

/-- `os.write(fd, chunk)` at `offset`: the number of bytes taken. -/
def osWrite (inode offset : Nat) (chunk : Bytes) : ArtifactProgram Nat :=
  Code.call fun outcome s =>
    match outcome with
    | .fails => (.error .osError, s)
    | .failsAfter => (.error .osError, s.write inode offset chunk)
    | .shortWrite n => (.ok (chunk.take n).length, s.write inode offset (chunk.take n))
    | _ => (.ok chunk.length, s.write inode offset chunk)

/-- `_write_all`.  Every turn takes a byte at least, so the length of the
content bounds the turns. -/
def writeAll (inode : Nat) (content : Bytes) : Nat → Nat → ArtifactProgram Unit
  | 0, _ => return ()
  | turns + 1, written =>
    if content.length ≤ written then return ()
    else do
      let chunk := (content.drop written).take chunkSize
      let amount ← translate (osWrite inode written chunk) .unavailable
      Code.require (0 < amount) .unavailable
      writeAll inode content turns (written + amount)

/-- The directory with a new file under the name of its token. -/
def created (kind : ArtifactKind) (content : Bytes) (s : ArtifactDirectory) : ArtifactDirectory :=
  { s with
    temps := s.temps ++ [(kind, s.next)]
    files := Function.update s.files s.next ⟨kind, content, [], [], s.clock⟩
    next := s.next + 1
    clock := s.clock + 1 }

/-- `os.open(name, _WRITE_FLAGS, 0o600, dir_fd=directory_fd)`, under a name with
a new token. -/
def osCreate (kind : ArtifactKind) (content : Bytes) : ArtifactProgram Nat :=
  Code.call fun outcome s =>
    match outcome with
    | .fails => (.error .osError, s)
    | .failsAfter => (.error .osError, created kind content s)
    | _ => (.ok s.next, created kind content s)

/-- `_open_temp`: the token and the file.  That the name exists cannot happen. -/
def openTemp (kind : ArtifactKind) (content : Bytes) : ArtifactProgram Nat := do
  -- `secrets.token_hex(16)`
  translate bare .unavailable
  let inode ← translate (osCreate kind content) .unavailable
  let _ ← inspectOpenFile inode (.temp kind inode) 0 1
  return inode

/-- `os.unlink(name, dir_fd=directory_fd)`, of a temporary name. -/
def unlink (kind : ArtifactKind) (token : Nat) (s : ArtifactDirectory) :
    Except ArtifactExn ArtifactDirectory :=
  if (kind, token) ∈ s.temps then
    .ok { s.touch token with temps := s.temps.filter fun temp => temp ≠ (kind, token) }
  else .error .fileNotFound

/-- `_cleanup_owned_quietly` -/
def cleanupOwnedQuietly (kind : ArtifactKind) (inode : Nat) : ArtifactProgram Unit :=
  tryCatch
    (do
      let opened ← look fun _ s => .ok (s.stat inode)
      let named ← osStat (.temp kind inode)
      onlyIf (sameFile opened named) do
        mutate (unlink kind inode)
        mutate fun s => .ok s.syncEntries)
    fun _ => return ()

/-- The two stats of `_unlink_owned`. -/
def ownedStats (kind : ArtifactKind) (inode : Nat) : ArtifactProgram (FileStat × FileStat) := do
  let opened ← look fun _ s => .ok (s.stat inode)
  let named ← osStat (.temp kind inode)
  return (opened, named)

/-- `_unlink_owned` -/
def unlinkOwned (kind : ArtifactKind) (inode links : Nat) : ArtifactProgram Unit := do
  let stats ← tryCatch (do return some (← ownedStats kind inode)) fun e =>
    if e = .fileNotFound ∧ links = 2 then return none
    else throw (if e.isOSError then .corrupted else e)
  match stats with
  | none => return ()
  | some (opened, named) => do
    Code.require (sameFile opened named && opened.links = links) .corrupted
    translate (mutate (unlink kind inode)) .unavailable

/-- `os.link(temp, final, ...)` -/
def link (kind : ArtifactKind) (token : Nat) (s : ArtifactDirectory) :
    Except ArtifactExn ArtifactDirectory :=
  if (kind, token) ∈ s.temps then
    match s.final kind with
    | some _ => .error .fileExists
    | none => .ok { s.touch token with final := Function.update s.final kind (some token) }
  else .error .fileNotFound

/-- `_claim_temp` -/
def claimTemp (kind : ArtifactKind) (token : Nat) : ArtifactProgram Bool :=
  translate (catching (do mutate (link kind token); return true) .fileExists false) .unavailable

/-- `_atomic_publish`, up to the claim. -/
def writeTemp (kind : ArtifactKind) (inode : Nat) (content : Bytes) : ArtifactProgram Bool := do
  writeAll inode content content.length 0
  let _ ← inspectOpenFile inode (.temp kind inode) content.length 1
  fsyncFile inode
  let _ ← inspectOpenFile inode (.temp kind inode) content.length 1
  claimTemp kind inode

/-- `_atomic_publish`, after its own claim. -/
def settleLinked (kind : ArtifactKind) (inode : Nat) (content : Bytes) : ArtifactProgram Unit := do
  let _ ← inspectOpenFile inode (.final kind) content.length 2
  unlinkOwned kind inode 2
  fsyncEntries
  let _ ← inspectOpenFile inode (.final kind) content.length 1

/-- `_atomic_publish`, where the final name was there. -/
def settlePresent (kind : ArtifactKind) (inode : Nat) (content : Bytes) : ArtifactProgram Unit := do
  let current ← readFile (.final kind) false (some content.length) kind.limit false
  Code.require (current = some content) .corrupted
  unlinkOwned kind inode 1
  fsyncEntries

/-- The handler of `_atomic_publish` while nothing is linked. -/
def cleaning (kind : ArtifactKind) (inode : Nat) (m : ArtifactProgram α) : ArtifactProgram α :=
  tryCatch m fun e => do
    cleanupOwnedQuietly kind inode
    throw e

/-- `_atomic_publish`, after the claim. -/
def settleTemp (kind : ArtifactKind) (inode : Nat) (content : Bytes) (linked : Bool) :
    ArtifactProgram Unit :=
  if linked then settleLinked kind inode content
  else cleaning kind inode (settlePresent kind inode content)

/-- `_atomic_publish` -/
def atomicPublish (kind : ArtifactKind) (content : Bytes) : ArtifactProgram Unit := do
  let inode ← openTemp kind content
  let linked ← cleaning kind inode (writeTemp kind inode content)
  settleTemp kind inode content linked
  closeFd

/-! ### Recovery -/

/-- `_MAX_JOB_ENTRIES` -/
def maxJobEntries : Nat := 8

/-- The bounds of `_namespace_stats` for the size of a file. -/
def minimumSize : ArtifactName → Nat
  | .final _ => 1
  | .temp _ _ => 0

/-- The loop of `_namespace_stats` over the names. -/
def statAll : List ArtifactName → ArtifactProgram (List (ArtifactName × FileStat))
  | [] => return []
  | name :: rest => do
    let result ← namedStat name
    requireRegular result none (minimumSize name) name.kind.limit
    return (name, result) :: (← statAll rest)

/-- `_namespace_stats`.  A name of another shape cannot be there. -/
def namespaceStats : ArtifactProgram (List (ArtifactName × FileStat)) := do
  let names ← translate (look fun _ s => .ok s.names) .unavailable
  Code.require (names.length ≤ maxJobEntries) .corrupted
  statAll names

/-- The temporary names of a kind. -/
def tempsOf (kind : ArtifactKind) (results : List (ArtifactName × FileStat)) :
    List (Nat × FileStat) :=
  results.filterMap fun entry =>
    match entry with
    | (.temp kind' token, result) => if kind' = kind then some (token, result) else none
    | _ => none

/-- One turn of `_alias_plans`: the temporary name to remove, if there is one. -/
def aliasPlan (results : List (ArtifactName × FileStat)) (kind : ArtifactKind) :
    Option (Option Nat) :=
  match results.lookup (.final kind), tempsOf kind results with
  | none, [] => some none
  | none, _ :: _ => none
  | some result, [] => if result.links = 1 then some none else none
  | some result, [(token, aliased)] =>
    if result.links = 2 ∧ sameFile result aliased then some (some token) else none
  | some _, _ :: _ :: _ => none

/-- `_alias_plans` -/
def aliasPlans (results : List (ArtifactName × FileStat)) : Option (List (ArtifactKind × Nat)) := do
  let artifact ← aliasPlan results .artifact
  let metadata ← aliasPlan results .metadata
  return (artifact.map (Prod.mk .artifact)).toList ++ (metadata.map (Prod.mk .metadata)).toList

/-- `_recover_alias` -/
def recoverAlias (kind : ArtifactKind) (token : Nat) : ArtifactProgram Unit := do
  let before ← namedStat (.temp kind token)
  let target ← namedStat (.final kind)
  requireRegular before (some 2) 1 kind.limit
  Code.require (sameFile before target) .corrupted
  translate (mutate (unlink kind token)) .unavailable
  fsyncEntries
  let after ← namedStat (.final kind)
  requireRegular after (some 1) 1 kind.limit
  Code.require (sameFile before after) .corrupted

/-- The loop of `_recover_namespace`. -/
def recoverAliases : List (ArtifactKind × Nat) → ArtifactProgram Unit
  | [] => return ()
  | (kind, token) :: rest => do
    recoverAlias kind token
    recoverAliases rest

/-- `_recover_namespace` -/
def recoverNamespace : ArtifactProgram Unit := do
  let results ← namespaceStats
  match aliasPlans results with
  | none => throw .corrupted
  | some plans => recoverAliases plans

/-! ### The calls -/

section Calls

variable (hashBytes : Bytes → Sha256) (jobId : JobId) (artifactId : ArtifactId)

/-- A value, or the store is corrupted. -/
def orCorrupted : Option α → ArtifactProgram α
  | some a => return a
  | none => throw .corrupted

/-- The part of `_read_committed` under `sync`. -/
def syncCommitted (rawMetadata : Bytes) : ArtifactProgram Unit := do
  let durableMetadata ← readFile (.final .metadata) false (some rawMetadata.length)
    ArtifactKind.metadata.limit true
  Code.require (durableMetadata = some rawMetadata) .corrupted
  fsyncEntries

/-- `_read_committed` -/
def readCommitted (sync : Bool) : ArtifactProgram (Option (GeneratedArtifact hashBytes)) := do
  let rawMetadata ← readFile (.final .metadata) true none ArtifactKind.metadata.limit false
  match rawMetadata with
  | none => return none
  | some rawMetadata => do
    let metadata ← orCorrupted (parseMetadata jobId artifactId rawMetadata)
    let content ← readFile (.final .artifact) false (some metadata.sizeBytes)
      ArtifactKind.artifact.limit sync
    let content ← orCorrupted content
    let artifact ← orCorrupted (artifactFrom hashBytes metadata content)
    onlyIf sync (syncCommitted rawMetadata)
    return some artifact

/-- `_put_open`, with what `artifact.png` holds. -/
def storeContent (content : Bytes) : Option Bytes → ArtifactProgram Unit
  | none => atomicPublish .artifact content
  | some current => do
    Code.require (current = content) .corrupted
    fsyncEntries

/-- `_put_open`, with the metadata. -/
def putMetadata (metadata : Bytes) : ArtifactProgram Unit := do
  Code.require (1 ≤ metadata.length && metadata.length ≤ ArtifactKind.metadata.limit) .invalid
  atomicPublish .metadata metadata

/-- `_put_open`, where nothing is committed. -/
def putMissing (artifact : GeneratedArtifact hashBytes) : ArtifactProgram Unit := do
  let current ← readFile (.final .artifact) true (some artifact.content.length)
    ArtifactKind.artifact.limit true
  storeContent artifact.content current
  putMetadata (encodeMetadata jobId artifact)

/-- `==` of two artifacts; the hash is one of the content. -/
def sameArtifact {hashBytes : Bytes → Sha256} (a b : GeneratedArtifact hashBytes) : Bool :=
  a.ref = b.ref && a.content = b.content && a.requestHash = b.requestHash &&
    a.generationFingerprint = b.generationFingerprint

/-- `_put_open` -/
def putOpen (artifact : GeneratedArtifact hashBytes) : ArtifactProgram Unit := do
  recoverNamespace
  let committed ← readCommitted hashBytes jobId artifact.ref.artifactId true
  match committed with
  | some committed => Code.require (sameArtifact committed artifact) .corrupted
  | none => putMissing hashBytes jobId artifact

/-- `put`, with `_validate_artifact` and `_put_locked`. -/
def put (artifact : GeneratedArtifact hashBytes) : ArtifactProgram Unit := do
  Code.require (1 ≤ artifact.content.length &&
    artifact.content.length ≤ ArtifactKind.artifact.limit) .invalid
  let opened ← openScope true levels
  Code.require opened .unavailable
  putOpen hashBytes jobId artifact
  closeFds levels.length false

/-- `get_by_id`, with `_read_by_id_locked`. -/
def getById : ArtifactProgram (Option (GeneratedArtifact hashBytes)) := do
  let opened ← openScope false levels
  if opened then do
    recoverNamespace
    let artifact ← readCommitted hashBytes jobId artifactId false
    closeFds levels.length false
    return artifact
  else return none

/-- `__call__` -/
def getByRef (artifactRef : ArtifactRef) :
    ArtifactProgram (Option (GeneratedArtifact hashBytes)) := do
  let artifact ← getById hashBytes jobId artifactRef.artifactId
  return artifact.filter fun artifact => artifact.ref = artifactRef

end Calls

end Artifacts

end SpecStyle
