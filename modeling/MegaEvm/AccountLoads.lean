import MegaEvm.FrameInvariant
import MegaEvm.VolatileMarks

/-!
# The accounts a transaction loads

The state a transaction returns has an account for every address that was
loaded into the journal: no revert takes one out again. A load goes through a
method of the host that looks for the beneficiary, or it is of an account the
frame loop was given by one of these, or it reaches the journal past both: what
pre-execution loads, the targets of delegations, the addresses of creates, the
accounts of a sandbox.

A lookup that the database fails ends the transaction without a state, so what
it would have loaded does not matter.
-/

set_option autoImplicit false

namespace MegaEvm

inductive Route where
  | host
  | frame
  | journal
  deriving DecidableEq, Repr

abbrev Loads := List (Address × Route)

def unchecked (accounts : List Address) : Loads := accounts.map fun a => (a, .journal)

/-- The delegations pre-execution leaves; `hops` bounds those that are followed. -/
structure Delegations where
  delegate : Address → Option Address
  hops : ℕ

/-- The accounts the loop of `inspect_account_delegated` looks at. -/
def Delegations.follow (d : Delegations) : ℕ → Address → List Address → List Address
  | 0, _, _ => []
  | hops + 1, current, visited =>
    current :: match d.delegate current with
      | none => []
      | some next => if next ∈ visited then [] else d.follow hops next (current :: visited)

section Instruction

variable (env : Env) (d : Delegations)

/-- What `inspect_account_delegated` loads behind the account it is asked for. -/
def inspectedBehind (address : Address) : Loads :=
  match d.delegate address with
  | none => []
  | some delegated =>
    if env.spec.isEnabled .rex4 then unchecked [delegated]
    else unchecked (d.follow d.hops delegated [address])

/-- What `load_account_delegated` of the interpreter's journal loads besides the account. -/
def loadedBehind (address : Address) : Loads := unchecked (d.delegate address).toList

def reachesHost (ev : OpEvent) (c : Ctx) : Bool := ev.hostCalled && passes env ev c

def inspectsCallee (ev : OpEvent) (c : Ctx) : Bool :=
  match ev.opcode with
  | .call => passesCallCheck env ev c
  | .callCode | .delegateCall | .staticCall => env.spec.isEnabled .rex && passesCallCheck env ev c
  | _ => false

/-- What the wrappers load before the opcode's own instruction. The account a call
names is looked up by its wrapper first, and by the host if the call gets there. -/
def wrapperLoads (ev : OpEvent) (c : Ctx) : Loads :=
  match ev.opcode with
  | .call | .callCode | .delegateCall | .staticCall =>
    match ev.inspect 1 with
    | some word =>
      if inspectsCallee env ev c then
        (intoAddress word, if reachesHost env ev c then .host else .journal) ::
          inspectedBehind env d (intoAddress word)
      else []
    | none => []
  | .create | .create2 => (c.target, .frame) :: inspectedBehind env d c.target
  | .sstore =>
    match ev.inspect 0 with
    | some _ =>
      (c.target, .frame) ::
        if env.spec.isEnabled .rex4 then [] else inspectedBehind env d c.target
    | none => []
  | _ => []

def hostLoads (ev : OpEvent) (c : Ctx) : Loads :=
  match ev.opcode with
  | .account =>
    match ev.inspect 0 with
    | some word => [(intoAddress word, .host)]
    | none => []
  | .selfbalance => [(intoAddress c.target, .host)]
  | .call | .callCode | .delegateCall | .staticCall =>
    match ev.inspect 1 with
    | some word => (intoAddress word, .host) :: loadedBehind d (intoAddress word)
    | none => []
  | .selfdestruct =>
    match ev.inspect 0 with
    | some word => [(intoAddress word, if env.spec.isEnabled .rex4 then .host else .journal)]
    | none => []
  | _ => []

def opLoads (ev : OpEvent) (c : Ctx) : Loads :=
  wrapperLoads env d ev c ++ if reachesHost env ev c then hostLoads env d ev c else []

end Instruction

/-- What a call frame is asked for: the account it runs in, and the one whose code it runs. -/
structure CallAddresses where
  target : Address
  bytecode : Address
  deriving DecidableEq, Repr

/-- What the initialisation of a frame loads that the frame loop leaves open: the
address of a create that collides, and the accounts of a sandbox's state. -/
structure FrameLoads where
  created : Address
  sandbox : List Address
  deriving DecidableEq, Repr

structure LoadEvent where
  event : Event
  frame : FrameLoads
  deriving DecidableEq, Repr

structure Loading where
  state : State
  accounts : List Address
  asked : CallAddresses
  deriving DecidableEq, Repr

section Frame

variable (env : Env) (d : Delegations)

def State.asker (s : State) : Address :=
  match s.frames with
  | f :: _ => f.target
  | [] => env.tx.caller

/-- `before_frame_init` of the state growth tracker. -/
def growthLoads (asked : CallAddresses) : FrameInput → Loads
  | .call i =>
    if i.transfersValue then (asked.target, .frame) :: inspectedBehind env d asked.target else []
  | .create _ => []

def transferLoads (i : CallInputs) : Loads :=
  match i.value.transferValue with
  | some v =>
    if v = 0 then [(i.targetAddress, .frame)]
    else [(i.caller, .frame), (i.targetAddress, .frame)]
  | none => []

/-- `make_call_frame` and `make_create_frame`, past the check of the depth. -/
def makeFrameLoads (w : Loading) (ev : InitEvent) (x : FrameLoads) : FrameInput → Loads
  | .call i =>
    (w.asked.bytecode, .frame) :: (loadedBehind d w.asked.bytecode ++ transferLoads i)
  | .create _ =>
    (w.state.asker env, .frame) :: match ev.create with
      | .outOfFunds | .nonceOverflow => []
      | .checkpointFailed _ => [(x.created, .journal)]
      | .enter created => [(created, .journal)]

def makesFrame (s : State) (input : FrameInput) (ev : InitEvent) : Bool :=
  (s.limit.beforeFrameInit input ev.targetEmpty).2.isNone &&
    decide (s.depth ≤ constants.CALL_STACK_LIMIT)

def interceptedBy (s : State) (input : FrameInput) (ev : InitEvent) : Intercepted :=
  match input with
  | .call i => dispatchSystemContractInterceptors env s i ev.keyless
  | .create _ => .no

/-- A keyless deployment that completes merges the sandbox's state, which leaves its
mark in the journal. -/
def frameInitLoads (w : Loading) (input : FrameInput) (ev : InitEvent) (x : FrameLoads) : Loads :=
  let s := detected env w.state input
  match interceptedBy env s input ev with
  | .panicked => []
  | .answered s' _ => if s'.journal = s.journal then [] else unchecked x.sandbox
  | .no =>
    growthLoads env d w.asked input ++
      if makesFrame s input ev then makeFrameLoads env d w ev x input else []

def stepLoads (w : Loading) (x : LoadEvent) : Loads :=
  match w.state.phase, x.event, w.state.frames with
  | .init input, .init ev, _ => frameInitLoads env d w input ev x.frame
  | .interp, .op ev, f :: _ => opLoads env d ev (w.state.ctx f)
  | _, _, _ => []

def askedBy (ev : OpEvent) (c : Ctx) (asked : CallAddresses) : CallAddresses :=
  match ev.inspect 1 with
  | none => asked
  | some word =>
    if reachesHost env ev c then
      match ev.opcode with
      | .call | .staticCall => ⟨intoAddress word, intoAddress word⟩
      | .callCode | .delegateCall => ⟨c.target, intoAddress word⟩
      | _ => asked
    else asked

def askedAfter (w : Loading) (x : LoadEvent) : CallAddresses :=
  match w.state.phase, x.event, w.state.frames with
  | .interp, .op ev, f :: _ => askedBy env ev (w.state.ctx f) w.asked
  | _, _, _ => w.asked

/-- A call frame that is initialised has the addresses that were asked for, and no
opcode reads the beneficiary's balance as block environment. -/
def Loading.admits (w : Loading) (x : LoadEvent) : Bool :=
  match w.state.phase, x.event with
  | .init (.call i), _ =>
    i.targetAddress == w.asked.target &&
      (i.value.transferValue.isNone || i.caller == w.state.asker env)
  | .interp, .op ev => ev.opcode != .blockEnv .beneficiary
  | _, _ => true

def Loading.step (w : Loading) (x : LoadEvent) : Option Loading :=
  if w.admits env x then
    (MegaEvm.step env w.state x.event).map fun s' =>
      { state := s'
        accounts := (stepLoads env d w x).map Prod.fst ++ w.accounts
        asked := askedAfter env w x }
  else none

/-- What pre-execution loads beside the sender: accounts of the access list, the
authorities of the authorizations that are valid so far, and the accounts the
interpreter's rollup variant loads for itself. -/
structure LoadStart where
  accessList : List (Address × List ℕ)
  authorities : List Address
  predeploys : List Address
  deriving DecidableEq, Repr

/-- An entry without storage keys is made warm, and not loaded. -/
def LoadStart.keyed (x : LoadStart) : List Address :=
  (x.accessList.filter fun entry => !entry.2.isEmpty).map Prod.fst

def startLoads (x : LoadStart) : Loads :=
  (env.tx.caller, .host) ::
    (unchecked x.keyed ++ unchecked x.authorities ++ x.predeploys.map fun a => (a, .frame))

def Loading.start (ev : StartEvent) (x : LoadStart) : Option Loading :=
  (MegaEvm.start env ev).map fun s =>
    { state := s
      accounts := (startLoads env x).map Prod.fst
      asked := match env.tx.kind with
        | .call recipient => ⟨recipient, recipient⟩
        | .create => ⟨env.tx.caller, env.tx.caller⟩ }

end Frame

end MegaEvm
