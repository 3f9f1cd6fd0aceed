import MegaEvm.LimitHooks
import MegaEvm.Library.Run
import Mathlib.Logic.Function.Basic

/-!
# Accounts, slots and the limits together

A run over the journaled state itself: frames are opened and closed, value moves,
accounts are created, slots are written, and every frame that fails takes its
changes back. The hooks of the limits are called where the frame loop and the
instructions call them, with what they read from the journal. `plain` follows
the limits without the slot writes.
-/

set_option autoImplicit false

namespace MegaEvm

inductive Bytecode where
  | empty
  | legacy
  | eip7702 (address : Address)
  deriving DecidableEq, Repr

/-- `created` is the status of an account this transaction created. -/
structure JournalAccount where
  balance : ℕ
  nonce : ℕ
  code : Bytecode
  created : Bool
  deriving DecidableEq, Repr

namespace JournalAccount

/-- EIP-161. -/
def isEmpty (a : JournalAccount) : Bool := a.balance == 0 && a.nonce == 0 && a.code == .empty

def delegatedAddress (a : JournalAccount) : Option Address :=
  match a.code with
  | .eip7702 address => some address
  | _ => none

end JournalAccount

structure SlotValues where
  originalValue : ℕ
  presentValue : ℕ
  deriving DecidableEq, Repr

abbrev SlotKey := Address × ℕ

structure JournalState where
  accounts : Address → JournalAccount
  slots : SlotKey → Option SlotValues

/-- What stays fixed: `storage` holds the slots as the transaction finds them, and
`hops` bounds the delegations that are followed. -/
structure JournalEnv where
  spec : MegaSpecId
  sender : Address
  storage : SlotKey → ℕ
  hops : ℕ

namespace JournalState

variable (env : JournalEnv) (j : JournalState)

def followDelegations : ℕ → Address → List Address → Address
  | 0, current, _ => current
  | hops + 1, current, visited =>
    match (j.accounts current).delegatedAddress with
    | none => current
    | some next =>
      if next ∈ visited then current else followDelegations hops next (current :: visited)

def inspectAccountDelegated (address : Address) : Address :=
  match (j.accounts address).delegatedAddress with
  | none => address
  | some delegated =>
    if env.spec.isEnabled .rex4 then delegated
    else j.followDelegations env.hops delegated [address]

/-- Before the last spec the slot of the delegate is looked at; a slot it has not
loaded is read from the database under the original address. -/
def inspectStorage (key : SlotKey) : SlotValues × JournalState :=
  let account := if env.spec.isEnabled .rex4 then key.1 else j.inspectAccountDelegated env key.1
  match j.slots (account, key.2) with
  | some slot => (slot, j)
  | none =>
    let slot : SlotValues := ⟨env.storage key, env.storage key⟩
    (slot, { j with slots := Function.update j.slots (account, key.2) (some slot) })

def value (key : SlotKey) : ℕ :=
  match j.slots key with
  | some slot => slot.presentValue
  | none => env.storage key

def sstore (key : SlotKey) (value : ℕ) : JournalState :=
  let original := match j.slots key with
    | some slot => slot.originalValue
    | none => env.storage key
  { j with slots := Function.update j.slots key (some ⟨original, value⟩) }

def modifyAccount (address : Address) (f : JournalAccount → JournalAccount) : JournalState :=
  { j with accounts := Function.update j.accounts address (f (j.accounts address)) }

def subBalance (address : Address) (value : ℕ) : JournalState :=
  j.modifyAccount address fun a => { a with balance := a.balance - value }

def addBalance (address : Address) (value : ℕ) : JournalState :=
  j.modifyAccount address fun a => { a with balance := a.balance + value }

/-- A transfer the source cannot pay changes nothing. -/
def transfer (source target : Address) (value : ℕ) : JournalState :=
  if value ≤ (j.accounts source).balance then
    (j.subBalance source value).addBalance target value
  else j

def callTransfer (i : CallInputs) : JournalState :=
  match i.value.transferValue with
  | some value => j.transfer i.caller i.targetAddress value
  | none => j

def bumpNonce (address : Address) : JournalState :=
  j.modifyAccount address fun a => { a with nonce := a.nonce + 1 }

def hasCollision (address : Address) : Bool :=
  (j.accounts address).nonce != 0 || (j.accounts address).code != .empty

def createAccount (creator created : Address) (value : ℕ) : JournalState :=
  (j.subBalance creator value).modifyAccount created fun a =>
    { a with balance := a.balance + value, nonce := 1, created := true }

/-- EIP-6780, for an account that was not created in this transaction. -/
def selfdestruct (address target : Address) : JournalState :=
  if target = address then j
  else j.transfer address target (j.accounts address).balance

/-- Taking back the changes since `opened`: what was loaded since stays loaded, with
the value it was loaded with. -/
def revertTo (opened : JournalState) : JournalState where
  accounts := opened.accounts
  slots := fun key =>
    match j.slots key with
    | none => none
    | some slot =>
      some { slot with
        presentValue := match opened.slots key with
          | some before => before.presentValue
          | none => slot.originalValue }

end JournalState

/-- What happens to the journaled state and to the limits. `answered` is a frame the
interceptors answer; `deploy` stores the code of a create frame. -/
inductive JournalOp where
  | call (inputs : CallInputs)
  | create (creator created : Address) (value : ℕ) (inputs : CreateInputs)
  | answered
  | deploy (created : Address)
  | sstore (address : Address) (key value : ℕ)
  | selfdestruct (address target : Address)
  | log (numTopics dataSize : ℕ)
  | compute (gas : ℕ)
  | output (isCreate : Bool) (action : InterpreterAction)
  | close (success : Bool)
  deriving DecidableEq, Repr

/-- `checkpoints` is the journaled state at every open frame's checkpoint. -/
structure JournalRun where
  limit : AdditionalLimit
  plain : AdditionalLimit
  journal : JournalState
  checkpoints : List JournalState

namespace JournalRun

variable (env : JournalEnv)

def hook (w : JournalRun) (f : AdditionalLimit → AdditionalLimit) : JournalRun :=
  { w with limit := f w.limit, plain := f w.plain }

def openFrame (w : JournalRun) (opened : JournalState) : JournalRun :=
  { w with checkpoints := opened :: w.checkpoints }

def callTargetEmpty (j : JournalState) (i : CallInputs) : Bool :=
  (j.accounts (j.inspectAccountDelegated env i.targetAddress)).isEmpty

/-- Code runs in an account that has some, or that is being created, or it is the
sender that creates. -/
def mayCreate (j : JournalState) (creator : Address) : Bool :=
  !(j.accounts creator).isEmpty || creator == env.sender

def create (w : JournalRun) (creator created : Address) (value : ℕ) (i : CreateInputs) :
    JournalRun :=
  let w := w.hook fun l => l.openFrame (.create i) false
  if value > (w.journal.accounts creator).balance then w.openFrame w.journal
  else
    let bumped := w.journal.bumpNonce creator
    if bumped.hasCollision created then { w.openFrame bumped with journal := bumped }
    else
      { (w.openFrame bumped).hook fun l => l.afterFrameInitItem (some created) with
        journal := bumped.createAccount creator created value }

def sstore (w : JournalRun) (key : SlotKey) (value : ℕ) : JournalRun :=
  let (slot, journal) := w.journal.inspectStorage env key
  { w with
    limit := w.limit.onSstore ⟨slot.originalValue, slot.presentValue, value⟩
    journal := journal.sstore env key value }

/-- An instruction runs in an open frame. An account that is both created and
destroyed is left out. -/
def step (w : JournalRun) (op : JournalOp) : Option JournalRun :=
  match op, w.checkpoints with
  | .call i, _ =>
    some { (w.hook fun l => l.openFrame (.call i) (callTargetEmpty env w.journal i)).openFrame
        w.journal with
      journal := w.journal.callTransfer i }
  | .create creator created value i, _ =>
    if mayCreate env w.journal creator then some (w.create creator created value i) else none
  | .answered, _ => some ((w.hook fun l => l.pushEmptyFrame).openFrame w.journal)
  | .deploy created, _ :: _ =>
    if (w.journal.accounts created).created && (w.journal.accounts created).nonce != 0 then
      some { w with journal := w.journal.modifyAccount created fun a => { a with code := .legacy } }
    else none
  | .sstore address key value, _ :: _ => some (w.sstore env (address, key) value)
  | .selfdestruct address target, _ :: _ =>
    if (w.journal.accounts address).created then none
    else some { w with journal := w.journal.selfdestruct address target }
  | .log numTopics dataSize, _ => some (w.hook fun l => l.onLog numTopics dataSize)
  | .compute gas, _ => some (w.hook fun l => l.recordComputeGas gas)
  | .output isCreate action, _ => some (w.hook fun l => l.countOutput isCreate action)
  | .close success, opened :: checkpoints =>
    some { w.hook fun l => l.closeFrame success with
      journal := if success then w.journal else w.journal.revertTo opened
      checkpoints := checkpoints }
  | _, [] => none

/-- The state pre-execution leaves, the slots of the access list loaded. -/
def start (limits : EvmTxRuntimeLimits) (tx : MegaTransaction)
    (accounts : Address → JournalAccount) (accessList : List SlotKey) : JournalRun :=
  let limit := (AdditionalLimit.new env.spec limits).reset.beforeTxStart tx
  { limit := limit
    plain := limit
    journal :=
      { accounts := accounts
        slots := fun key =>
          if key ∈ accessList then some ⟨env.storage key, env.storage key⟩ else none }
    checkpoints := [] }

inductive Stepped (w : JournalRun) : JournalOp → JournalRun → Prop
  | call (i : CallInputs) :
    Stepped w (.call i)
      { (w.hook fun l => l.openFrame (.call i) (callTargetEmpty env w.journal i)).openFrame
          w.journal with
        journal := w.journal.callTransfer i }
  | create {creator created : Address} {value : ℕ} {i : CreateInputs}
    (may : mayCreate env w.journal creator = true) :
    Stepped w (.create creator created value i) (w.create creator created value i)
  | answered : Stepped w .answered ((w.hook fun l => l.pushEmptyFrame).openFrame w.journal)
  | deploy {created : Address} (nonce : (w.journal.accounts created).nonce ≠ 0) :
    Stepped w (.deploy created)
      { w with journal := w.journal.modifyAccount created fun a => { a with code := .legacy } }
  | sstore {address : Address} {key value : ℕ} (inFrame : w.checkpoints ≠ []) :
    Stepped w (.sstore address key value) (w.sstore env (address, key) value)
  | selfdestruct {address target : Address} :
    Stepped w (.selfdestruct address target)
      { w with journal := w.journal.selfdestruct address target }
  | log (numTopics dataSize : ℕ) :
    Stepped w (.log numTopics dataSize) (w.hook fun l => l.onLog numTopics dataSize)
  | compute (gas : ℕ) : Stepped w (.compute gas) (w.hook fun l => l.recordComputeGas gas)
  | output (isCreate : Bool) (action : InterpreterAction) :
    Stepped w (.output isCreate action) (w.hook fun l => l.countOutput isCreate action)
  | close {success : Bool} {opened : JournalState} {checkpoints : List JournalState}
    (top : w.checkpoints = opened :: checkpoints) :
    Stepped w (.close success)
      { w.hook fun l => l.closeFrame success with
        journal := if success then w.journal else w.journal.revertTo opened
        checkpoints := checkpoints }

variable {env} {w w' : JournalRun} {op : JournalOp}

theorem step_cases (h : step env w op = some w') : Stepped env w op w' := by
  cases op with
  | call i =>
    obtain rfl := Option.some.inj h
    exact .call i
  | create creator created value i =>
    simp only [step, Option.ite_none_right_eq_some] at h
    obtain rfl := Option.some.inj h.2
    exact .create h.1
  | answered =>
    obtain rfl := Option.some.inj h
    exact .answered
  | log numTopics dataSize =>
    obtain rfl := Option.some.inj h
    exact .log numTopics dataSize
  | compute gas =>
    obtain rfl := Option.some.inj h
    exact .compute gas
  | output isCreate action =>
    obtain rfl := Option.some.inj h
    exact .output isCreate action
  | deploy created =>
    obtain ⟨limit, plain, journal, _ | ⟨opened, checkpoints⟩⟩ := w
    · cases h
    · simp only [step, Option.ite_none_right_eq_some, Bool.and_eq_true, bne_iff_ne] at h
      obtain rfl := Option.some.inj h.2
      exact .deploy h.1.2
  | sstore address key value =>
    obtain ⟨limit, plain, journal, _ | ⟨opened, checkpoints⟩⟩ := w
    · cases h
    · obtain rfl := Option.some.inj h
      exact .sstore (List.cons_ne_nil _ _)
  | selfdestruct address target =>
    obtain ⟨limit, plain, journal, _ | ⟨opened, checkpoints⟩⟩ := w
    · cases h
    · simp only [step, Option.ite_none_left_eq_some] at h
      obtain rfl := Option.some.inj h.2
      exact .selfdestruct
  | close success =>
    obtain ⟨limit, plain, journal, _ | ⟨opened, checkpoints⟩⟩ := w
    · cases h
    · obtain rfl := Option.some.inj h
      exact .close rfl

end JournalRun

end MegaEvm
