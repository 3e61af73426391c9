/-
SpecStyle/Ui/ProductionUiState.lean

The state behind the controls of the user interface, and the threads that call
into it.

Every section under the state lock is one function on the state, under the name
of its method.  A call has one section or several: `try_begin` takes the
single-flight lock before its section, `finish` and `abandon` release it after
theirs, and the calls that reach an execution are inside the gate from before
their section to the end of `close` or `cancel`.  `Pc` lists the places between
two sections, and `step` moves one thread by one section, one attempt at a lock
or one call of an execution.

The projections of the items and the methods that only read are left out.  A
call that raises is over; what it raises is the source's.  The arguments are of
their types, so the checks for another type are left out too.
-/
import SpecStyle.Lib.Threads
import SpecStyle.Lib.Run
import SpecStyle.Domain.Values

namespace SpecStyle

open PyLib

namespace Ui

variable {Tid E P B : Type}

/-! ### The state -/

/-- What a call raises. -/
inductive UiRaised where
  | typeError (message : String)
  | runtimeError (message : String)
  deriving DecidableEq

/-- `_ActiveInvocation` -/
structure ActiveInvocation (E : Type) where
  token : Int
  kind : Text
  total : Int
  phase : Text
  currentIndex : Int
  jobId : Text
  execution : Option E
  cancelRequested : Bool

/-- `_ActiveInvocation(token, kind, total)` -/
def ActiveInvocation.new (token : Int) (kind : Text) (total : Int) : ActiveInvocation E :=
  ⟨token, kind, total, py "STAGING", 0, [], none, false⟩

/-- `ProductionUiState`, with executions `E`, terminal projections `P` and replay
baselines `B` -/
structure ProductionUiState (E P B : Type) where
  /-- `_single_flight.locked()` -/
  singleFlight : Bool
  /-- `_cancel_close_gate.locked()` -/
  cancelCloseGate : Bool
  nextToken : Int
  active : Option (ActiveInvocation E)
  terminal : Option P
  replayBaseline : Option B

/-- `ProductionUiState()` -/
def ProductionUiState.new : ProductionUiState E P B := ⟨false, false, 0, none, none, none⟩

/-! ### The sections -/

def kinds : List Text := [py "single", py "batch", py "replay"]

/-- The first check of `try_begin`. -/
def checkInvocation (kind : Text) (total : Int) : Except UiRaised Unit :=
  if kind ∈ kinds ∧ 1 ≤ total then .ok () else .error (.typeError "invalid production invocation")

namespace ProductionUiState

variable (s : ProductionUiState E P B)

/-- The token of the active invocation. -/
def activeToken : Option Int := s.active.map (·.token)

/-- The registered execution. -/
def execution : Option E := s.active.bind (·.execution)

/-- `_matching` -/
def matching (token : Int) : Except UiRaised (ActiveInvocation E) :=
  match s.active with
  | some active =>
    if active.token = token then .ok active
    else .error (.runtimeError "stale production invocation")
  | none => .error (.runtimeError "stale production invocation")

/-- The section of `try_begin`. -/
def tryBegin (kind : Text) (total : Int) : ProductionUiState E P B :=
  { s with
    nextToken := s.nextToken + 1
    active := some (.new (s.nextToken + 1) kind total) }

/-- `set_phase` -/
def setPhase (token : Int) (phase : Text) (jobId : Option Text) (currentIndex : Option Int) :
    Except UiRaised (ProductionUiState E P B) := do
  let active ← s.matching token
  return { s with
    active := some { active with
      phase := phase
      jobId := jobId.getD active.jobId
      currentIndex := currentIndex.getD active.currentIndex } }

/-- `register_execution` -/
def registerExecution (token : Int) (execution : E) :
    Except UiRaised (Bool × ProductionUiState E P B) := do
  let active ← s.matching token
  return (active.cancelRequested,
    { s with active := some { active with execution := some execution, phase := py "ACTIVE" } })

/-- The section of `close_execution`. -/
def closeExecution [DecidableEq E] (token : Int) (execution : E) :
    Except UiRaised (ProductionUiState E P B) := do
  let active ← s.matching token
  return { s with
    active := some { active with
      execution := if active.execution = some execution then none else active.execution
      phase := py "CLEANUP" } }

/-- The section of `cancel_registered_execution`. -/
def registeredExecution (token : Int) : Except UiRaised (Option E) := do
  let active ← s.matching token
  return active.execution

/-- The section of `finish`. -/
def finish (token : Int) (projection : P) (baseline : Option B) :
    Except UiRaised (ProductionUiState E P B) := do
  let active ← s.matching token
  if baseline.isSome ∧ active.kind ≠ py "single" then
    .error (.typeError "invalid production replay baseline")
  else
    return { s with
      replayBaseline := baseline.or s.replayBaseline
      terminal := some projection
      active := none }

/-- The section of `abandon`, and whether the lock is to be released. -/
def abandon (token : Int) : Bool × ProductionUiState E P B :=
  if s.activeToken = some token then (true, { s with active := none }) else (false, s)

/-- The section of `cancel_job`: an answer at once, or the registered execution. -/
def cancelJob : Except String (Option E) × ProductionUiState E P B :=
  match s.active with
  | none =>
    (.error (if s.terminal.isSome then "cancel unavailable; latest run is terminal"
      else "cancel unavailable; no active production run"), s)
  | some active =>
    if active.cancelRequested then (.error "cancel already requested", s)
    else if active.phase ∈ [py "RESULT_READY", py "CLEANUP"] then
      (.error "cancel unavailable; latest run is terminal", s)
    else
      (.ok active.execution,
        { s with
          active := some { active with
            cancelRequested := true
            phase := if active.execution.isSome then py "CANCEL_REQUESTED" else active.phase } })

end ProductionUiState

/-! ### The threads -/

/-- The calls inside the gate. -/
inductive GateCall (E : Type) where
  | closeExecution (token : Int) (execution : E)
  | cancelRegisteredExecution (token : Int)
  | cancelJob
  deriving DecidableEq

/-- A call. -/
inductive Call (E P B : Type) where
  | tryBegin (kind : Text) (total : Int)
  | setPhase (token : Int) (phase : Text) (jobId : Option Text) (currentIndex : Option Int)
  | registerExecution (token : Int) (execution : E)
  | finish (token : Int) (projection : P) (baseline : Option B)
  | abandon (token : Int)
  | gate (call : GateCall E)

/-- Where a thread is. -/
inductive Pc (E : Type) where
  | idle
  /-- `try_begin`, the single-flight lock taken -/
  | beginning (kind : Text) (total : Int)
  /-- `finish` or `abandon`, past the section that ended the invocation -/
  | releasing (token : Int)
  /-- inside the gate, before the section -/
  | gated (call : GateCall E)
  /-- inside the gate, about to call `close` -/
  | closing (token : Int) (execution : E)
  /-- inside the gate, about to call `cancel` -/
  | cancelling (call : GateCall E) (execution : E)
  /-- inside the gate, in `close` or `cancel` or past it -/
  | leaving (call : GateCall E)
  deriving DecidableEq

namespace Pc

/-- Between the two sections of a call that takes or releases the single-flight
lock. -/
def between : Pc E → Bool
  | .beginning _ _ => true
  | .releasing _ => true
  | _ => false

def inGate : Pc E → Bool
  | .gated _ => true
  | .closing _ _ => true
  | .cancelling _ _ => true
  | .leaving _ => true
  | _ => false

end Pc

/-- What is seen of a run. -/
inductive Observed (E : Type) where
  /-- `try_begin` made the token, and returns it -/
  | begun (token : Int)
  /-- `finish` accepted the token -/
  | finished (token : Int)
  /-- `abandon` looked at the token -/
  | abandoned (token : Int)
  /-- a `finish` or an `abandon` of the token released the single-flight lock -/
  | released (token : Int)
  /-- `register_execution` accepted the execution -/
  | registered (execution : E)
  /-- `close_execution` accepted its token -/
  | closing (execution : E)
  | closeCalled (execution : E)
  | cancelled (execution : E)
  deriving DecidableEq

/-- The state with its threads, and what was seen so far, the newest first. -/
structure World (Tid E P B : Type) where
  pc : Tid → Pc E
  state : ProductionUiState E P B
  trace : List (Observed E)

/-- No thread has called yet. -/
def World.start : World Tid E P B := ⟨fun _ => .idle, .new, []⟩

/-- A thread starts a call, or goes on with the one it is in. -/
inductive Move (E P B : Type) where
  | call (call : Call E P B)
  | next

/-- The token of a call inside the gate. -/
def GateCall.token? : GateCall E → Option Int
  | .closeExecution token _ => some token
  | .cancelRegisteredExecution token => some token
  | .cancelJob => none

/-- The token a call is given. -/
def Call.token? : Call E P B → Option Int
  | .tryBegin _ _ => none
  | .setPhase token _ _ _ => some token
  | .registerExecution token _ => some token
  | .finish token _ _ => some token
  | .abandon token => some token
  | .gate call => call.token?

/-- The token of the call a thread is in. -/
def Pc.token? : Pc E → Option Int
  | .releasing token => some token
  | .gated call => call.token?
  | .closing token _ => some token
  | .cancelling call _ => call.token?
  | .leaving call => call.token?
  | _ => none

namespace World

variable [DecidableEq Tid] [DecidableEq E] (w : World Tid E P B) (t : Tid)

/-- One thread moves, the state changes, and something is seen of it. -/
def go (pc : Pc E) (state : ProductionUiState E P B) (seen : List (Observed E)) : World Tid E P B :=
  ⟨Function.update w.pc t pc, state, seen ++ w.trace⟩

/-- An idle thread starts a call; `none` while it waits for the gate. -/
def startCall : Call E P B → Option (World Tid E P B)
  | .tryBegin kind total =>
    match checkInvocation kind total with
    | .error _ => some w
    | .ok () =>
      if w.state.singleFlight then some w
      else some (w.go t (.beginning kind total) { w.state with singleFlight := true } [])
  | .setPhase token phase jobId currentIndex =>
    match w.state.setPhase token phase jobId currentIndex with
    | .error _ => some w
    | .ok state => some (w.go t .idle state [])
  | .registerExecution token execution =>
    match w.state.registerExecution token execution with
    | .error _ => some w
    | .ok (_, state) => some (w.go t .idle state [.registered execution])
  | .finish token projection baseline =>
    match w.state.finish token projection baseline with
    | .error _ => some w
    | .ok state => some (w.go t (.releasing token) state [.finished token])
  | .abandon token =>
    match w.state.abandon token with
    | (true, state) => some (w.go t (.releasing token) state [.abandoned token])
    | (false, state) => some (w.go t .idle state [.abandoned token])
  | .gate call =>
    if w.state.cancelCloseGate then none
    else some (w.go t (.gated call) { w.state with cancelCloseGate := true } [])

/-- The section of a call inside the gate. -/
def gateSection : GateCall E → World Tid E P B
  | .closeExecution token execution =>
    match w.state.closeExecution token execution with
    | .error _ => w.go t (.leaving (.closeExecution token execution)) w.state []
    | .ok state => w.go t (.closing token execution) state [.closing execution]
  | .cancelRegisteredExecution token =>
    match w.state.registeredExecution token with
    | .ok (some execution) =>
      w.go t (.cancelling (.cancelRegisteredExecution token) execution) w.state []
    | _ => w.go t (.leaving (.cancelRegisteredExecution token)) w.state []
  | .cancelJob =>
    match w.state.cancelJob with
    | (.ok (some execution), state) => w.go t (.cancelling .cancelJob execution) state []
    | (_, state) => w.go t (.leaving .cancelJob) state []

/-- A thread goes on with its call.  To release a free lock raises. -/
def resume : Option (World Tid E P B) :=
  match w.pc t with
  | .idle => none
  | .beginning kind total =>
    some (w.go t .idle (w.state.tryBegin kind total) [.begun (w.state.nextToken + 1)])
  | .releasing token =>
    if w.state.singleFlight then
      some (w.go t .idle { w.state with singleFlight := false } [.released token])
    else some (w.go t .idle w.state [])
  | .gated call => some (w.gateSection t call)
  | .closing token execution =>
    some (w.go t (.leaving (.closeExecution token execution)) w.state [.closeCalled execution])
  | .cancelling call execution =>
    some (w.go t (.leaving call) w.state [.cancelled execution])
  | .leaving _ => some (w.go t .idle { w.state with cancelCloseGate := false } [])

/-- One step of one thread. -/
def step (event : Tid × Move E P B) : Option (World Tid E P B) :=
  match event.2, w.pc event.1 with
  | .call call, .idle => w.startCall event.1 call
  | .call _, _ => none
  | .next, _ => w.resume event.1

end World

end Ui

end SpecStyle
