import MegaEvm.Machine

/-!
# A run with an inspector

The functions of the EVM that a transaction goes through, and the ones that
repeat them for a run with an inspector: the handler's run and execution, the
loop over frames, frame initialisation and frame run. Both runs hand an error
to the handler, with the EVM it left. What revm and the database do under them
is a parameter, and so is how often the loop may go round. An inspector sees, and may change, the whole EVM at each of its hooks;
with one that changes nothing the two runs end the same.
-/

set_option autoImplicit false

namespace MegaEvm

namespace InspectedRun

/-- The EVM: what the limits, the interceptors and the hooks read and write of
it, and the rest. -/
structure Evm (W : Type) where
  env : Env
  state : State
  world : W

def Evm.isMiniRex {W : Type} (x : Evm W) : Bool := x.env.spec.isEnabled .miniRex

def Evm.setLimit {W : Type} (x : Evm W) (limit : AdditionalLimit) : Evm W :=
  { x with state := { x.state with limit := limit } }

inductive FrameInitOrResult where
  | item (init : FrameInit)
  | result (result : FrameResult)

structure InitialAndFloorGas where
  initialGas : ℕ
  floorGas : ℕ

structure Failure (W E : Type) where
  error : E
  evm : Evm W

/-- Why a run has no result: an error, an assertion that fails, or too few
rounds of the loop. -/
inductive Stop (W E : Type) where
  | error (failure : Failure W E)
  | panicked
  | rounds

/-- What revm, the database and the methods of the handler that both runs share
do. A frame initialisation without a result has pushed a frame, a frame return
without one has resumed the caller. -/
structure Revm (W E R : Type) where
  keyless : Evm W → CallInputs → KeylessOutcome
  intercepted : Evm W → FrameInit → Intercepted → W
  targetEmpty : Evm W → FrameInit → Except (Failure W E) (Evm W × Bool)
  frameInit : Evm W → FrameInit → Except (Failure W E) (Evm W × Option FrameResult)
  frameInput : Evm W → FrameInput
  runPlain : Evm W → Frame → Evm W × Frame × InterpreterAction
  processNextAction : Evm W → Frame → InterpreterAction → Except (Failure W E) (Evm W × FrameInitOrResult)
  setFinished : Evm W → Evm W
  frameReturnResult : Evm W → FrameResult → Except (Failure W E) (Evm W × Option FrameResult)
  beforeRun : Evm W → Except (Failure W E) (Evm W)
  validate : Evm W → Except (Failure W E) (Evm W × InitialAndFloorGas)
  preExecution : Evm W → Except (Failure W E) (Evm W × ℕ)
  firstFrameInput : Evm W → ℕ → Except (Failure W E) (Evm W × FrameInit)
  lastFrameResult : Evm W → FrameResult → Except (Failure W E) (Evm W × FrameResult)
  postExecution : Evm W → FrameResult → InitialAndFloorGas → ℕ → Except (Failure W E) (Evm W × FrameResult)
  executionResult : Evm W → FrameResult → Except (Failure W E) (Evm W × R)
  catchError : Evm W → E → Except (Failure W E) (Evm W × R)

section
variable {W E R : Type}

def lift {α : Type} : Except (Failure W E) α → Except (Stop W E) α
  | .ok a => .ok a
  | .error e => .error (.error e)

/-! ## The plain run -/

section Plain
variable (r : Revm W E R)

def beforeFrameInit (x : Evm W) (init : FrameInit) :
    Except (Stop W E) (Evm W × Option FrameResult) :=
  if x.isMiniRex then do
    let (x, targetEmpty) ← lift (r.targetEmpty x init)
    let (limit, result) := x.state.limit.beforeFrameInit init.frameInput targetEmpty
    return (x.setLimit limit, result)
  else return (x, none)

def afterFrameInit (x : Evm W) (result : Option FrameResult) : Evm W :=
  if x.isMiniRex then
    match result with
    | some result => x.setLimit (x.state.limit.afterFrameInitResult result)
    | none =>
      match x.state.frames with
      | [] => x
      | f :: _ => x.setLimit (x.state.limit.afterFrameInitItem (if f.isCreate then f.target else none))
  else x

def pushEmptyFrame (x : Evm W) : Evm W :=
  if x.isMiniRex then x.setLimit x.state.limit.pushEmptyFrame else x

def frameInit (x : Evm W) (init : FrameInit) : Except (Stop W E) (Evm W × Option FrameResult) := do
  let x := if x.isMiniRex then { x with state := detected x.env x.state init.frameInput } else x
  let intercepted := match init.frameInput with
    | .call i => dispatchSystemContractInterceptors x.env x.state i (r.keyless x i)
    | .create _ => .no
  match intercepted with
  | .panicked => throw .panicked
  | .answered state result =>
    return (pushEmptyFrame { x with state, world := r.intercepted x init intercepted }, some result)
  | .no =>
    match ← beforeFrameInit r x init with
    | (x, some result) => return (x, some result)
    | (x, none) =>
      let (x, result) ← lift (r.frameInit x init)
      return (afterFrameInit x result, result)

def beforeFrameRun (x : Evm W) (f : Frame) : Evm W × Option InterpreterAction :=
  if x.isMiniRex then
    let (limit, result) := x.state.limit.beforeFrameRun f.gas
    (x.setLimit limit, result.map .return)
  else (x, none)

def afterFrameRunInstructions (x : Evm W) (f : Frame) (action : InterpreterAction) :
    Evm W × InterpreterAction :=
  if x.isMiniRex then
    let (limit, action) := x.state.limit.afterFrameRunInstructions f.isCreate
      (chargeCodeDepositStorage f.isCreate action)
    (x.setLimit limit, action)
  else (x, action)

def gasRemainingBefore (x : Evm W) : InterpreterAction → Option ℕ
  | .return result => if x.isMiniRex then some result.gas.remaining else none
  | .newFrame _ => none

def afterFrameRun (x : Evm W) (result : FrameResult) (gasRemainingBefore : Option ℕ) :
    Evm W × FrameResult :=
  if x.isMiniRex then
    match gasRemainingBefore with
    | some before =>
      let (limit, result) := x.state.limit.afterFrameRun result before
      (x.setLimit limit, result)
    | none => (x.setLimit (x.state.limit.tryRescueGas result.gas), result)
  else (x, result)

def Evm.setFrame (x : Evm W) (f : Frame) : Evm W :=
  { x with state := { x.state with frames := f :: x.state.frames.tail } }

/-- `frame_run` from the hook after the instructions on. -/
def frameRunAction (x : Evm W) (f : Frame) (action : InterpreterAction) :
    Except (Stop W E) (Evm W × FrameInitOrResult) := do
  let (x, action) := afterFrameRunInstructions (x.setFrame f) f action
  match ← lift (r.processNextAction x f action) with
  | (y, .item init) => return (y, .item init)
  | (y, .result result) =>
    let (y, result) := afterFrameRun (r.setFinished y) result (gasRemainingBefore x action)
    return (y, .result result)

def frameRun (x : Evm W) : Except (Stop W E) (Evm W × FrameInitOrResult) :=
  match x.state.frames with
  | [] => throw .panicked
  | f :: _ =>
    match beforeFrameRun x f with
    | (x, some action) => frameRunAction r x f action
    | (x, none) =>
      let (x, f, action) := r.runPlain x f
      frameRunAction r x f action

def frameReturnResult (x : Evm W) (result : FrameResult) :
    Except (Stop W E) (Evm W × Option FrameResult) := do
  let (x, result) := if x.isMiniRex then
      let (limit, result) := x.state.limit.beforeFrameReturnResult false result
      (x.setLimit limit, result)
    else (x, result)
  let (x, out) ← lift (r.frameReturnResult x result)
  if x.env.spec.isEnabled .rex4 then
    let volatile := x.state.volatile.enableAccessIfReturning x.state.depth
    return ({ x with state := { x.state with volatile } }, out)
  else return (x, out)

def startNext (x : Evm W) : FrameInitOrResult → Except (Stop W E) (Evm W × Option FrameResult)
  | .item init => frameInit r x init
  | .result result => return (x, some result)

def execLoop : ℕ → Evm W → Except (Stop W E) (Evm W × FrameResult)
  | 0, _ => throw .rounds
  | n + 1, x => do
    let (x, out) ← frameRun r x
    match ← startNext r x out with
    | (x, none) => execLoop n x
    | (x, some result) =>
      match ← frameReturnResult r x result with
      | (x, some result) => return (x, result)
      | (x, none) => execLoop n x

def runExecLoop (n : ℕ) (x : Evm W) (first : FrameInit) :
    Except (Stop W E) (Evm W × FrameResult) := do
  match ← frameInit r x first with
  | (x, some result) => return (x, result)
  | (x, none) => execLoop r n x

def beforeExecution (x : Evm W) (gas : InitialAndFloorGas) : Option FrameResult :=
  if x.env.tx.gasLimit < gas.initialGas then
    some ⟨decide (x.env.tx.kind = .create), ⟨.outOfGas, [], .newSpent x.env.tx.gasLimit⟩⟩
  else none

def lastFrameResult (x : Evm W) (result : FrameResult) :
    Except (Stop W E) (Evm W × FrameResult) := do
  let (x, result) := if x.isMiniRex then
      let (limit, result) := x.state.limit.beforeFrameReturnResult true result
      (x.setLimit limit, result)
    else (x, result)
  let (x, result) ← lift (r.lastFrameResult x result)
  if x.isMiniRex then
    let gas := result.gas.eraseCost x.state.limit.rescuedGas
    return (x, { result with result := { result.result with gas } })
  else return (x, result)

def execution (n : ℕ) (x : Evm W) (gas : InitialAndFloorGas) :
    Except (Stop W E) (Evm W × FrameResult) := do
  match beforeExecution x gas with
  | some result => return (x, result)
  | none =>
    let (x, first) ← lift (r.firstFrameInput x (x.env.tx.gasLimit - gas.initialGas))
    let (x, result) ← runExecLoop r n x first
    lastFrameResult r x result

def runWithoutCatchError (n : ℕ) (x : Evm W) : Except (Stop W E) (Evm W × R) := do
  let x ← lift (r.beforeRun x)
  let (x, gas) ← lift (r.validate x)
  let (x, refund) ← lift (r.preExecution x)
  let (x, result) ← execution r n x gas
  let (x, result) ← lift (r.postExecution x result gas refund)
  lift (r.executionResult x result)

/-- An error goes to `catch_error`, a panic does not. -/
def catchErrors : Except (Stop W E) (Evm W × R) → Except (Stop W E) (Evm W × R)
  | .error (.error failure) => lift (r.catchError failure.evm failure.error)
  | ended => ended

def run (n : ℕ) (x : Evm W) : Except (Stop W E) (Evm W × R) :=
  catchErrors r (runWithoutCatchError r n x)

end Plain

/-! ## The inspected run -/

/-- An inspector with its own state: revm's `frame_start` and `frame_end` around
its call and create hooks, its hook for a new interpreter, and revm's
instruction loop with its hooks around every instruction. -/
structure Inspector (ι W : Type) where
  frameStart : ι → Evm W → FrameInput → ι × Evm W × FrameInput × Option FrameResult
  frameEnd : ι → Evm W → FrameInput → FrameResult → ι × Evm W × FrameResult
  initializeInterp : ι → Evm W → ι × Evm W
  inspectInstructions : ι → Evm W → Frame → ι × Evm W × Frame × InterpreterAction

variable {ι : Type}

section Inspected
variable (r : Revm W E R) (insp : Inspector ι W)

def inspectFrameInit (i : ι) (x : Evm W) (init : FrameInit) :
    Except (Stop W E) (ι × Evm W × Option FrameResult) := do
  let (i, x, frameInput, override) := insp.frameStart i x init.frameInput
  let init := { init with frameInput }
  match override with
  | some output =>
    let (i, x, output) := insp.frameEnd i (pushEmptyFrame x) init.frameInput output
    return (i, x, some output)
  | none =>
    match ← frameInit r x init with
    | (x, some output) =>
      let (i, x, output) := insp.frameEnd i x init.frameInput output
      return (i, x, some output)
    | (x, none) =>
      let (i, x) := insp.initializeInterp i x
      return (i, x, none)

def inspectFrameRunAction (i : ι) (x : Evm W) (f : Frame) (action : InterpreterAction) :
    Except (Stop W E) (ι × Evm W × FrameInitOrResult) := do
  let (x, action) := afterFrameRunInstructions (x.setFrame f) f action
  match ← lift (r.processNextAction x f action) with
  | (y, .item init) => return (i, y, .item init)
  | (y, .result result) =>
    let (y, result) := afterFrameRun (r.setFinished y) result (gasRemainingBefore x action)
    let (i, y, result) := insp.frameEnd i y (r.frameInput y) result
    return (i, y, .result result)

def inspectFrameRun (i : ι) (x : Evm W) : Except (Stop W E) (ι × Evm W × FrameInitOrResult) :=
  match x.state.frames with
  | [] => throw .panicked
  | f :: _ =>
    match beforeFrameRun x f with
    | (x, some action) => inspectFrameRunAction r insp i x f action
    | (x, none) =>
      let (i, x, f, action) := insp.inspectInstructions i x f
      inspectFrameRunAction r insp i x f action

def inspectStartNext (i : ι) (x : Evm W) :
    FrameInitOrResult → Except (Stop W E) (ι × Evm W × Option FrameResult)
  | .item init => inspectFrameInit r insp i x init
  | .result result => return (i, x, some result)

/-- revm's inspected loop: the plain loop over the two functions above. -/
def inspectExecLoop : ℕ → ι → Evm W → Except (Stop W E) (ι × Evm W × FrameResult)
  | 0, _, _ => throw .rounds
  | n + 1, i, x => do
    let (i, x, out) ← inspectFrameRun r insp i x
    match ← inspectStartNext r insp i x out with
    | (i, x, none) => inspectExecLoop n i x
    | (i, x, some result) =>
      match ← frameReturnResult r x result with
      | (x, some result) => return (i, x, result)
      | (x, none) => inspectExecLoop n i x

def inspectRunExecLoop (n : ℕ) (i : ι) (x : Evm W) (first : FrameInit) :
    Except (Stop W E) (ι × Evm W × FrameResult) := do
  match ← inspectFrameInit r insp i x first with
  | (i, x, some result) => return (i, x, result)
  | (i, x, none) => inspectExecLoop r insp n i x

def inspectExecution (n : ℕ) (i : ι) (x : Evm W) (gas : InitialAndFloorGas) :
    Except (Stop W E) (ι × Evm W × FrameResult) := do
  match beforeExecution x gas with
  | some result => return (i, x, result)
  | none =>
    let (x, first) ← lift (r.firstFrameInput x (x.env.tx.gasLimit - gas.initialGas))
    let (i, x, result) ← inspectRunExecLoop r insp n i x first
    let (x, result) ← lastFrameResult r x result
    return (i, x, result)

def inspectRunWithoutCatchError (n : ℕ) (i : ι) (x : Evm W) :
    Except (Stop W E) (ι × Evm W × R) := do
  let x ← lift (r.beforeRun x)
  let (x, gas) ← lift (r.validate x)
  let (x, refund) ← lift (r.preExecution x)
  let (i, x, result) ← inspectExecution r insp n i x gas
  let (x, result) ← lift (r.postExecution x result gas refund)
  let (x, out) ← lift (r.executionResult x result)
  return (i, x, out)

/-- revm's `inspect_run`. What the inspector has noted by then is left out. -/
def inspectRun (n : ℕ) (i : ι) (x : Evm W) : Except (Stop W E) (Evm W × R) :=
  catchErrors r ((inspectRunWithoutCatchError r insp n i x).map Prod.snd)

end Inspected

/-! ## With an inspector that changes nothing -/

/-- No hook overrides or changes anything, so that revm's inspected instruction
loop is its plain one. -/
structure Idle (r : Revm W E R) (insp : Inspector ι W) : Prop where
  start : ∀ i x input, (insp.frameStart i x input).2 = (x, input, none)
  finish : ∀ i x input result, (insp.frameEnd i x input result).2 = (x, result)
  interp : ∀ i x, (insp.initializeInterp i x).2 = x
  instructions : ∀ i x f, (insp.inspectInstructions i x f).2 = r.runPlain x f

/-- The inspected computation ends as the plain one, whatever the inspector noted. -/
def Same {α : Type} (inspected : Except (Stop W E) (ι × α)) (plain : Except (Stop W E) α) : Prop :=
  inspected.map Prod.snd = plain

theorem same_ok {α : Type} (i : ι) (a : α) :
    Same (.ok (i, a) : Except (Stop W E) (ι × α)) (.ok a) := rfl

theorem Same.bind {α β : Type} {m : Except (Stop W E) (ι × α)} {p : Except (Stop W E) α}
    {f : ι × α → Except (Stop W E) (ι × β)} {g : α → Except (Stop W E) β} (h : Same m p)
    (hf : ∀ i a, Same (f (i, a)) (g a)) : Same (m >>= f) (p >>= g) := by
  subst h
  cases m with
  | error e => rfl
  | ok ia => exact hf ia.1 ia.2

theorem same_bind {α β : Type} {m : Except (Stop W E) α} {f : α → Except (Stop W E) (ι × β)}
    {g : α → Except (Stop W E) β} (hf : ∀ a, Same (f a) (g a)) : Same (m >>= f) (m >>= g) := by
  cases m with
  | error e => rfl
  | ok a => exact hf a

variable {r : Revm W E R} {insp : Inspector ι W}

theorem exists_of_snd {α β : Type} {p : α × β} {b : β} (h : p.2 = b) : ∃ a, p = (a, b) :=
  ⟨p.1, Prod.ext rfl h⟩

theorem Idle.inspectFrameInit (h : Idle r insp) (i : ι) (x : Evm W) (init : FrameInit) :
    Same (inspectFrameInit r insp i x init) (frameInit r x init) := by
  obtain ⟨j, hj⟩ := exists_of_snd (h.start i x init.frameInput)
  rw [← bind_pure (frameInit r x init)]
  simp only [InspectedRun.inspectFrameInit, hj]
  apply same_bind
  rintro ⟨y, result⟩
  cases result with
  | some output =>
    obtain ⟨k, hk⟩ := exists_of_snd (h.finish j y init.frameInput output)
    simp only [hk]
    exact same_ok k _
  | none =>
    obtain ⟨k, hk⟩ := exists_of_snd (h.interp j y)
    simp only [hk]
    exact same_ok k _

theorem Idle.inspectFrameRunAction (h : Idle r insp) (i : ι) (x : Evm W) (f : Frame)
    (action : InterpreterAction) :
    Same (inspectFrameRunAction r insp i x f action) (frameRunAction r x f action) := by
  unfold InspectedRun.inspectFrameRunAction frameRunAction
  cases afterFrameRunInstructions (x.setFrame f) f action with
  | mk y action =>
    apply same_bind
    rintro ⟨z, out⟩
    cases out with
    | item init => exact same_ok i _
    | result result =>
      cases ha : afterFrameRun (r.setFinished z) result (gasRemainingBefore y action) with
      | mk w result =>
        obtain ⟨j, hj⟩ := exists_of_snd (h.finish i w (r.frameInput w) result)
        simp only [ha, hj]
        exact same_ok j _

theorem Idle.inspectFrameRun (h : Idle r insp) (i : ι) (x : Evm W) :
    Same (inspectFrameRun r insp i x) (frameRun r x) := by
  unfold InspectedRun.inspectFrameRun frameRun
  cases x.state.frames with
  | nil => rfl
  | cons f rest =>
    dsimp only
    cases beforeFrameRun x f with
    | mk y stopped =>
      cases stopped with
      | some action => exact h.inspectFrameRunAction i y f action
      | none =>
        let after := insp.inspectInstructions i y f
        show Same (InspectedRun.inspectFrameRunAction r insp after.1 after.2.1 after.2.2.1
            after.2.2.2)
          (frameRunAction r (r.runPlain y f).1 (r.runPlain y f).2.1 (r.runPlain y f).2.2)
        rw [← h.instructions i y f]
        exact h.inspectFrameRunAction after.1 _ _ _

theorem Idle.inspectStartNext (h : Idle r insp) (i : ι) (x : Evm W) (out : FrameInitOrResult) :
    Same (inspectStartNext r insp i x out) (startNext r x out) := by
  cases out with
  | item init => exact h.inspectFrameInit i x init
  | result result => exact same_ok i _

/-- By induction on the rounds of the loop. -/
theorem Idle.inspectExecLoop (h : Idle r insp) (n : ℕ) (i : ι) (x : Evm W) :
    Same (inspectExecLoop r insp n i x) (execLoop r n x) := by
  induction n generalizing i x with
  | zero => rfl
  | succ n ih =>
    apply (h.inspectFrameRun i x).bind
    rintro i ⟨x, out⟩
    apply (h.inspectStartNext i x out).bind
    rintro i ⟨x, result⟩
    cases result with
    | none => exact ih i x
    | some result =>
      apply same_bind
      rintro ⟨x, returned⟩
      cases returned with
      | none => exact ih i x
      | some result => exact same_ok i _

theorem Idle.inspectRunExecLoop (h : Idle r insp) (n : ℕ) (i : ι) (x : Evm W)
    (first : FrameInit) :
    Same (inspectRunExecLoop r insp n i x first) (runExecLoop r n x first) := by
  apply (h.inspectFrameInit i x first).bind
  rintro i ⟨x, result⟩
  cases result with
  | none => exact h.inspectExecLoop n i x
  | some result => exact same_ok i _

theorem Idle.inspectExecution (h : Idle r insp) (n : ℕ) (i : ι) (x : Evm W)
    (gas : InitialAndFloorGas) :
    Same (inspectExecution r insp n i x gas) (execution r n x gas) := by
  unfold InspectedRun.inspectExecution execution
  cases beforeExecution x gas with
  | some result => exact same_ok i _
  | none =>
    apply same_bind
    rintro ⟨x, first⟩
    apply (h.inspectRunExecLoop n i x first).bind
    rintro i ⟨x, result⟩
    show Same _ (lastFrameResult r x result)
    rw [← bind_pure (lastFrameResult r x result)]
    apply same_bind
    intro p
    exact same_ok i p

theorem Idle.inspectRunWithoutCatchError (h : Idle r insp) (n : ℕ) (i : ι) (x : Evm W) :
    Same (inspectRunWithoutCatchError r insp n i x) (runWithoutCatchError r n x) := by
  apply same_bind
  intro x
  apply same_bind
  rintro ⟨x, gas⟩
  apply same_bind
  rintro ⟨x, refund⟩
  apply (h.inspectExecution n i x gas).bind
  rintro i ⟨x, result⟩
  apply same_bind
  rintro ⟨x, result⟩
  show Same _ (lift (r.executionResult x result))
  rw [← bind_pure (lift (r.executionResult x result))]
  apply same_bind
  intro p
  exact same_ok i p

/-- Whatever a run meets, with an inspector that changes nothing it stops with
the same error or ends in the same EVM with the same result as a plain run:
the journal, the trackers, the detained limit, the rescued gas and the gas of
the result included. So it does when an error is caught. -/
theorem inspected_run_eq_plain (r : Revm W E R) (insp : Inspector ι W) (h : Idle r insp)
    (n : ℕ) (i : ι) (x : Evm W) :
    (inspectRunWithoutCatchError r insp n i x).map Prod.snd = runWithoutCatchError r n x ∧
      inspectRun r insp n i x = run r n x := by
  have hsame := h.inspectRunWithoutCatchError n i x
  exact ⟨hsame, congrArg (catchErrors r) hsame⟩

end

def stopRevm : Revm Unit Unit ℕ where
  keyless _ _ := .rejected []
  intercepted _ _ _ := ()
  targetEmpty x _ := .ok (x, false)
  frameInit x init :=
    let frame : Frame :=
      { isCreate := init.frameInput.isCreate, target := 3, gas := .new init.frameInput.gasLimit
        checkpoint := x.state.journal.length, opened := x.state.journal }
    .ok ({ x with state := { x.state with frames := frame :: x.state.frames } }, none)
  frameInput _ := .create ⟨0⟩
  runPlain x f := (x, f, .return ⟨.stop, [], f.gas⟩)
  processNextAction x f action :=
    match action with
    | .newFrame input => .ok (x, .item ⟨x.state.depth, input⟩)
    | .return result => .ok (x, .result ⟨f.isCreate, result⟩)
  setFinished x := x
  frameReturnResult x result :=
    let y : Evm Unit := { x with state := { x.state with frames := x.state.frames.tail } }
    .ok (y, if y.state.frames.isEmpty then some result else none)
  beforeRun x := .ok x
  validate x := .ok (x, ⟨21000, 21000⟩)
  preExecution x := .ok (x, 0)
  firstFrameInput x gasLimit := .ok (x, ⟨0, MegaEvm.firstFrameInput x.env gasLimit⟩)
  lastFrameResult x result :=
    let gas := (Gas.newSpent x.env.tx.gasLimit).eraseCost result.gas.remaining
    .ok (x, { result with result := { result.result with gas } })
  postExecution x result _ _ := .ok (x, result)
  executionResult x result := .ok (x, result.gas.spent)
  catchError x e := .error ⟨e, x⟩

def hookCounter : Inspector ℕ Unit where
  frameStart i x input := (i + 1, x, input, none)
  frameEnd i x _ result := (i + 1, x, result)
  initializeInterp i x := (i + 1, x)
  inspectInstructions i x f := (i + 1, stopRevm.runPlain x f)

theorem hookCounter_idle : Idle stopRevm hookCounter where
  start _ _ _ := rfl
  finish _ _ _ _ := rfl
  interp _ _ := rfl
  instructions _ _ _ := rfl

def stopEvm : Evm Unit where
  env := sampleEnv .rex4 (.call 3) .other 100000
  state :=
    { limit := .new .rex4 .rex4
      volatile := .new 0 0
      frames := []
      journal := []
      senderNonce := 7
      phase := .run }
  world := ()

theorem inspected_run_eq_plain_stop :
    ((inspectRunWithoutCatchError stopRevm hookCounter 2 0 stopEvm).map Prod.snd =
        runWithoutCatchError stopRevm 2 stopEvm ∧
      inspectRun stopRevm hookCounter 2 0 stopEvm = run stopRevm 2 stopEvm) ∧
    ∃ x, run stopRevm 2 stopEvm = .ok (x, 21000) :=
  ⟨inspected_run_eq_plain stopRevm hookCounter hookCounter_idle 2 0 stopEvm, _, rfl⟩

end InspectedRun

end MegaEvm
