import MegaEvm.LimitCheck
import MegaEvm.Library.Transact
import Mathlib.Data.List.Enum

/-!
# The oracle contract

`Oracle.sol`: anybody may read its slots, only the system address may write
them or emit logs, and `multiCall` runs a list of calldata against the contract
itself with the same sender. The sender is checked after the body of a setter,
so that what the body did is undone by the revert. A call may run out of gas
anywhere in the tree of its nested calls.
-/

set_option autoImplicit false

namespace MegaEvm

namespace OracleContract

open Transact

structure OracleLog where
  topic : ℕ
  data : Bytes
  deriving DecidableEq

structure OracleState where
  slots : ℕ → ℕ
  logs : List OracleLog

/-- An array argument, as the decoder leaves it: where its elements start in
the calldata and how many there are. The decoder refuses either from `2 ^ 64` on. -/
structure CalldataArray where
  offset : ℕ
  length : ℕ
  offset_lt : offset < 2 ^ 64
  length_lt : length < 2 ^ 64

/-- A function and its arguments. The elements of a `bytes[]` are decoded when
they are used, and `none` is one whose offset or length is out of range. -/
inductive OracleCall where
  | version
  | megaSystemAddress
  | multiCall (data : List (Option Bytes))
  | sendHint (topic : ℕ) (data : Bytes)
  | emitLog (topic : ℕ) (data : Bytes)
  | emitLogs (topic : ℕ) (dataVector : List (Option Bytes))
  | getSlot (slot : ℕ)
  | setSlot (slot value : ℕ)
  | getSlots (slots : CalldataArray)
  | setSlots (slots values : CalldataArray)

inductive OracleError where
  | notSystemAddress
  | invalidLength (slotsLength valuesLength : ℕ)
  | reason (message : String)
  deriving DecidableEq

inductive OracleReturn where
  | nothing
  | text (s : String)
  | word (w : ℕ)
  | words (ws : List ℕ)
  | byteStrings (rs : List Bytes)

/-- The compiler's side: which function a calldata selects, and how results and
errors are laid out as bytes. -/
structure OracleAbi where
  decode : Bytes → Option OracleCall
  encode : OracleReturn → Bytes
  encodeError : OracleError → Bytes

structure OracleContext where
  sender : ℕ
  value : ℕ
  isStatic : Bool

/-! ## Words in the calldata -/

def add (a b : ℕ) : ℕ := (a + b) % 2 ^ 256

def mul (a b : ℕ) : ℕ := (a * b) % 2 ^ 256

/-- The word at `p`, with zeros past the end. -/
def calldataload (data : Bytes) (p : ℕ) : ℕ :=
  ofBeBytes ((List.range 32).map fun j => data.getD (p + j) 0)

def CalldataArray.words (data : Bytes) (a : CalldataArray) : List ℕ :=
  (List.range a.length).map fun i => calldataload data (a.offset + i * 32)

/-! ## The functions -/

section
variable (abi : OracleAbi) (MEGA_SYSTEM_ADDRESS : ℕ) (ctx : OracleContext)

-- A write in a static context halts the call, which returns no data.
def sstore (slot value : ℕ) (st : OracleState) : Except Bytes OracleState :=
  if ctx.isStatic then .error []
  else .ok { st with slots := Function.update st.slots slot value }

def log (topic : ℕ) (data : Bytes) (st : OracleState) : Except Bytes OracleState :=
  if ctx.isStatic then .error []
  else .ok { st with logs := st.logs ++ [{ topic, data }] }

def onlySystemAddress (body : Except Bytes OracleState) : Except Bytes OracleState :=
  match body with
  | .error e => .error e
  | .ok st =>
    if ctx.sender ≠ MEGA_SYSTEM_ADDRESS then .error (abi.encodeError .notSystemAddress)
    else .ok st

/-- The loop over `i` from here on, with `n` iterations to go. -/
def setSlotsLoop (data : Bytes) (slotsPtr valuesPtr : ℕ) :
    ℕ → ℕ → OracleState → Except Bytes OracleState
  | 0, _, st => .ok st
  | n + 1, i, st =>
    let slot := calldataload data (add slotsPtr (mul i 0x20))
    let value := calldataload data (add valuesPtr (mul i 0x20))
    match sstore ctx slot value st with
    | .error e => .error e
    | .ok st => setSlotsLoop data slotsPtr valuesPtr n (add i 1) st

def setSlots (data : Bytes) (slots values : CalldataArray) (st : OracleState) :
    Except Bytes OracleState :=
  if slots.length ≠ values.length then
    .error (abi.encodeError (.invalidLength slots.length values.length))
  else setSlotsLoop ctx data slots.offset values.offset slots.length 0 st

def getSlotsLoop (data : Bytes) (slotsPtr : ℕ) (st : OracleState) : ℕ → ℕ → List ℕ
  | 0, _ => []
  | n + 1, i =>
    st.slots (calldataload data (add slotsPtr (mul i 0x20))) ::
      getSlotsLoop data slotsPtr st n (add i 1)

def emitLogsItem (topic : ℕ) (x : Option Bytes) (st : OracleState) :
    Except Bytes (OracleState × Unit) :=
  match x with
  | none => .error []
  | some data => (log ctx topic data st).map fun st => (st, ())

def emitLogs (topic : ℕ) (dataVector : List (Option Bytes)) (st : OracleState) :
    Except Bytes OracleState :=
  (runAll (emitLogsItem ctx topic) dataVector st).map Prod.fst

/-- An item of `multiCall`. The error of a failed call is passed on. -/
def multiCallItem (delegatecall : ℕ → Bytes → OracleState → Except Bytes (OracleState × Bytes))
    (x : Option Bytes × ℕ) (st : OracleState) : Except Bytes (OracleState × Bytes) :=
  match x.1 with
  | none => .error []
  | some data =>
    match delegatecall x.2 data st with
    | .ok r => .ok r
    | .error result =>
      if result.length > 0 then .error result
      else .error (abi.encodeError (.reason "Multicall: call failed"))

def multiCall (delegatecall : ℕ → Bytes → OracleState → Except Bytes (OracleState × Bytes))
    (data : List (Option Bytes)) (st : OracleState) : Except Bytes (OracleState × OracleReturn) :=
  (runAll (multiCallItem abi delegatecall) data.zipIdx st).map
    fun p => (p.1, .byteStrings p.2)

def returning (r : OracleReturn) (x : Except Bytes OracleState) :
    Except Bytes (OracleState × OracleReturn) :=
  x.map fun st => (st, r)

def dispatch (delegatecall : ℕ → Bytes → OracleState → Except Bytes (OracleState × Bytes))
    (data : Bytes) (call : OracleCall) (st : OracleState) :
    Except Bytes (OracleState × OracleReturn) :=
  match call with
  | .version => .ok (st, .text "1.1.0")
  | .megaSystemAddress => .ok (st, .word MEGA_SYSTEM_ADDRESS)
  | .multiCall items => multiCall abi delegatecall items st
  | .sendHint _ _ => .ok (st, .nothing)
  | .emitLog topic bytes =>
    returning .nothing (onlySystemAddress abi MEGA_SYSTEM_ADDRESS ctx (log ctx topic bytes st))
  | .emitLogs topic dataVector =>
    returning .nothing
      (onlySystemAddress abi MEGA_SYSTEM_ADDRESS ctx (emitLogs ctx topic dataVector st))
  | .getSlot slot => .ok (st, .word (st.slots slot))
  | .setSlot slot value =>
    returning .nothing (onlySystemAddress abi MEGA_SYSTEM_ADDRESS ctx (sstore ctx slot value st))
  | .getSlots slots => .ok (st, .words (getSlotsLoop data slots.offset st slots.length 0))
  | .setSlots slots values =>
    returning .nothing
      (onlySystemAddress abi MEGA_SYSTEM_ADDRESS ctx (setSlots abi ctx data slots values st))

/-- A call with `depth` levels of nested calls to go. No function is payable,
and `outOfGas` says of each call of the tree, named by the positions that lead
to it, whether it runs out of gas. -/
def execute : ℕ → (List ℕ → Bool) → Bytes → OracleState → Except Bytes (OracleState × Bytes)
  | depth, outOfGas, data, st =>
    let delegatecall : ℕ → Bytes → OracleState → Except Bytes (OracleState × Bytes) :=
      match depth with
      | 0 => fun _ _ _ => .error []
      | d + 1 => fun i item st => execute d (fun p => outOfGas (i :: p)) item st
    if outOfGas [] ∨ ctx.value ≠ 0 then .error []
    else
      match abi.decode data with
      | none => .error []
      | some call =>
        (dispatch abi MEGA_SYSTEM_ADDRESS ctx delegatecall data call st).map
          fun p => (p.1, abi.encode p.2)

def nested (depth : ℕ) (outOfGas : List ℕ → Bool) (i : ℕ) (item : Bytes) (st : OracleState) :
    Except Bytes (OracleState × Bytes) :=
  match depth with
  | 0 => .error []
  | d + 1 => execute abi MEGA_SYSTEM_ADDRESS ctx d (fun p => outOfGas (i :: p)) item st

theorem execute_eq (depth : ℕ) (outOfGas : List ℕ → Bool) (data : Bytes) (st : OracleState) :
    execute abi MEGA_SYSTEM_ADDRESS ctx depth outOfGas data st =
      if outOfGas [] ∨ ctx.value ≠ 0 then .error []
      else match abi.decode data with
        | none => .error []
        | some call =>
          (dispatch abi MEGA_SYSTEM_ADDRESS ctx
            (nested abi MEGA_SYSTEM_ADDRESS ctx depth outOfGas) data call st).map
            fun p => (p.1, abi.encode p.2) := by
  cases depth <;> rfl

end

theorem map_ok {ε α β : Type} {f : α → β} {x : Except ε α} {b : β} :
    x.map f = .ok b ↔ ∃ a, x = .ok a ∧ f a = b := by
  cases x <;> simp [Except.map]

variable {abi : OracleAbi} {MEGA_SYSTEM_ADDRESS : ℕ} {ctx : OracleContext}

theorem execute_ok {depth : ℕ} {outOfGas : List ℕ → Bool} {data : Bytes} {st st' : OracleState}
    {out : Bytes} :
    execute abi MEGA_SYSTEM_ADDRESS ctx depth outOfGas data st = .ok (st', out) ↔
      outOfGas [] = false ∧ ctx.value = 0 ∧ ∃ call r, abi.decode data = some call ∧
        dispatch abi MEGA_SYSTEM_ADDRESS ctx (nested abi MEGA_SYSTEM_ADDRESS ctx depth outOfGas)
          data call st = .ok (st', r) ∧ abi.encode r = out := by
  rw [execute_eq]
  by_cases hg : outOfGas [] = true
  · simp [hg]
  by_cases hv : ctx.value = 0
  · cases hd : abi.decode data with
    | none => simp
    | some call => simp [hg, hv, map_ok]
  · simp [hv]

/-! ## Who may change what -/

theorem onlySystemAddress_ok {body : Except Bytes OracleState} {st : OracleState} :
    onlySystemAddress abi MEGA_SYSTEM_ADDRESS ctx body = .ok st ↔
      body = .ok st ∧ ctx.sender = MEGA_SYSTEM_ADDRESS := by
  cases body with
  | error e => simp [onlySystemAddress]
  | ok s =>
    by_cases h : ctx.sender = MEGA_SYSTEM_ADDRESS <;> simp [onlySystemAddress, h]

theorem returning_ok {r r' : OracleReturn} {x : Except Bytes OracleState} {st : OracleState} :
    returning r x = .ok (st, r') ↔ x = .ok st ∧ r = r' := by
  cases x <;> simp [returning, Except.map]

theorem multiCallItem_ok
    {delegatecall : ℕ → Bytes → OracleState → Except Bytes (OracleState × Bytes)}
    {x : Option Bytes × ℕ} {st : OracleState} {p : OracleState × Bytes} :
    multiCallItem abi delegatecall x st = .ok p ↔
      ∃ data, x.1 = some data ∧ delegatecall x.2 data st = .ok p := by
  obtain ⟨item, i⟩ := x
  cases item with
  | none => simp [multiCallItem]
  | some data =>
    cases h : delegatecall i data st with
    | ok r => simp [multiCallItem, h]
    | error e => by_cases he : e.length > 0 <;> simp [multiCallItem, h, he]

theorem dispatch_unauthorized
    {delegatecall : ℕ → Bytes → OracleState → Except Bytes (OracleState × Bytes)}
    (hnested : ∀ i item st st' out, delegatecall i item st = .ok (st', out) → st' = st)
    (hs : ctx.sender ≠ MEGA_SYSTEM_ADDRESS) {data : Bytes} {call : OracleCall}
    {st st' : OracleState} {r : OracleReturn}
    (h : dispatch abi MEGA_SYSTEM_ADDRESS ctx delegatecall data call st = .ok (st', r)) :
    st' = st := by
  have hguard : ∀ body, returning .nothing (onlySystemAddress abi MEGA_SYSTEM_ADDRESS ctx body) =
      .ok (st', r) → st' = st := by
    intro body hb
    exact absurd (onlySystemAddress_ok.1 (returning_ok.1 hb).1).2 hs
  cases call with
  | emitLog topic bytes => exact hguard _ h
  | emitLogs topic dataVector => exact hguard _ h
  | setSlot slot value => exact hguard _ h
  | setSlots slots values => exact hguard _ h
  | multiCall items =>
    obtain ⟨⟨s, rs⟩, hrun, hp⟩ := map_ok.1 h
    obtain rfl : s = st' := (Prod.mk.inj hp).1
    apply runAll_keeps (P := fun t => t = st) _ hrun rfl
    intro x s s' out hx hsame
    obtain ⟨item, -, hitem⟩ := multiCallItem_ok.1 hx
    rw [hnested x.2 item s s' out hitem, hsame]
  | version => exact (Prod.mk.inj (Except.ok.inj h)).1.symm
  | megaSystemAddress => exact (Prod.mk.inj (Except.ok.inj h)).1.symm
  | sendHint topic bytes => exact (Prod.mk.inj (Except.ok.inj h)).1.symm
  | getSlot slot => exact (Prod.mk.inj (Except.ok.inj h)).1.symm
  | getSlots slots => exact (Prod.mk.inj (Except.ok.inj h)).1.symm

/-- By induction on the levels of nested calls: the sender of a nested call is
the sender of the call. -/
theorem execute_unauthorized (hs : ctx.sender ≠ MEGA_SYSTEM_ADDRESS) {depth : ℕ}
    {outOfGas : List ℕ → Bool} {data : Bytes} {st st' : OracleState} {out : Bytes}
    (h : execute abi MEGA_SYSTEM_ADDRESS ctx depth outOfGas data st = .ok (st', out)) :
    st' = st := by
  induction depth generalizing outOfGas data st st' out with
  | zero =>
    obtain ⟨-, -, call, r, -, hd, -⟩ := execute_ok.1 h
    apply dispatch_unauthorized _ hs hd
    intro i item s s' o hn
    simp [nested] at hn
  | succ depth ih =>
    obtain ⟨-, -, call, r, -, hd, -⟩ := execute_ok.1 h
    apply dispatch_unauthorized _ hs hd
    intro i item s s' o hn
    exact ih hn

/-! ## The batch setter -/

theorem element_address {p i : ℕ} (hp : p < 2 ^ 64) (hi : i < 2 ^ 64) :
    add p (mul i 0x20) = p + i * 32 := by
  unfold add mul
  omega

theorem setSlotsLoop_ok {data : Bytes} {p q n i : ℕ} {st st' : OracleState} (hp : p < 2 ^ 64)
    (hq : q < 2 ^ 64) (hn : i + n < 2 ^ 64)
    (h : setSlotsLoop ctx data p q n i st = .ok st') :
    st'.logs = st.logs ∧
    st'.slots = writeAll ((List.range' i n).map fun j =>
      (calldataload data (p + j * 32), calldataload data (q + j * 32))) st.slots := by
  induction n generalizing i st with
  | zero =>
    obtain rfl : st = st' := Except.ok.inj h
    exact ⟨rfl, rfl⟩
  | succ n ih =>
    simp only [setSlotsLoop, sstore] at h
    by_cases hstatic : ctx.isStatic = true
    · simp [hstatic] at h
    · simp only [hstatic] at h
      have hnext : add i 1 = i + 1 := by
        unfold add
        omega
      rw [hnext] at h
      obtain ⟨hlogs, hslots⟩ := ih (by omega) h
      refine ⟨hlogs, ?_⟩
      rw [hslots, element_address hp (by omega), element_address hq (by omega),
        List.range'_succ, List.map_cons, writeAll_cons]

def writes (data : Bytes) (slots values : CalldataArray) : List (ℕ × ℕ) :=
  (slots.words data).zip (values.words data)

theorem zip_words {data : Bytes} {a b : CalldataArray} (h : a.length = b.length) :
    writes data a b = (List.range' 0 a.length).map fun j =>
      (calldataload data (a.offset + j * 32), calldataload data (b.offset + j * 32)) := by
  rw [writes, CalldataArray.words, CalldataArray.words, ← h, List.range_eq_range', List.zip_map']

theorem setSlots_ok {data : Bytes} {slots values : CalldataArray} {st st' : OracleState}
    (h : setSlots abi ctx data slots values st = .ok st') :
    slots.length = values.length ∧ st'.logs = st.logs ∧
    st'.slots = writeAll (writes data slots values) st.slots := by
  unfold setSlots at h
  by_cases hlen : slots.length = values.length
  · simp only [hlen, ne_eq, not_true, if_false] at h
    have hn : 0 + values.length < 2 ^ 64 := by
      have := values.length_lt
      omega
    have hloop := setSlotsLoop_ok slots.offset_lt values.offset_lt hn h
    rw [zip_words hlen, hlen]
    exact ⟨rfl, hloop⟩
  · simp [hlen] at h

theorem setSlotsLoop_succeeds {data : Bytes} {p q n i : ℕ} {st : OracleState} :
    (∃ st', setSlotsLoop ctx data p q n i st = .ok st') ↔ (ctx.isStatic = true → n = 0) := by
  induction n generalizing i st with
  | zero => exact ⟨fun _ _ => rfl, fun _ => ⟨st, rfl⟩⟩
  | succ n ih =>
    by_cases hstatic : ctx.isStatic = true
    · simp [setSlotsLoop, sstore, hstatic]
    · simp only [setSlotsLoop, sstore, hstatic]
      rw [if_neg Bool.false_ne_true]
      exact ih.trans (by simp [hstatic])

theorem setSlots_succeeds {data : Bytes} {slots values : CalldataArray} {st : OracleState} :
    (∃ st', setSlots abi ctx data slots values st = .ok st') ↔
      slots.length = values.length ∧ (ctx.isStatic = true → slots.length = 0) := by
  unfold setSlots
  by_cases hlen : slots.length = values.length
  · simp only [hlen, ne_eq, not_true, if_false, true_and]
    exact setSlotsLoop_succeeds
  · simp [hlen]

/-- Each slot holds the value that goes with its last occurrence, and every
other slot and the logs are as they were. -/
structure LastWins (data : Bytes) (slots values : CalldataArray) (st st' : OracleState) :
    Prop where
  length : slots.length = values.length
  logs : st'.logs = st.logs
  last : ∀ (i k v : ℕ), (slots.words data)[i]? = some k → (values.words data)[i]? = some v →
    (∀ j : ℕ, i < j → (slots.words data)[j]? ≠ some k) → st'.slots k = v
  other : ∀ k, k ∉ slots.words data → st'.slots k = st.slots k

theorem setSlots_lastWins {data : Bytes} {slots values : CalldataArray} {st st' : OracleState}
    (h : setSlots abi ctx data slots values st = .ok st') :
    LastWins data slots values st st' := by
  obtain ⟨hlen, hlogs, hslots⟩ := setSlots_ok h
  constructor
  case length => exact hlen
  case logs => exact hlogs
  case last =>
    intro i k v hk hv hlast
    have hw : (writes data slots values)[i]? = some (k, v) := by
      simp [writes, List.getElem?_zip_eq_some, hk, hv]
    obtain ⟨hi, hget⟩ := List.getElem?_eq_some_iff.1 hw
    have hsplit : writes data slots values =
        (writes data slots values).take i ++ (k, v) :: (writes data slots values).drop (i + 1) := by
      rw [← hget, ← List.drop_eq_getElem_cons hi, List.take_append_drop]
    rw [hslots, hsplit]
    apply writeAll_last
    intro w hwmem he
    obtain ⟨j, hj⟩ := List.mem_iff_getElem?.1 hwmem
    rw [List.getElem?_drop] at hj
    have hz : (slots.words data)[i + 1 + j]? = some w.1 :=
      (List.getElem?_zip_eq_some.1 hj).1
    exact hlast (i + 1 + j) (by omega) (by rw [hz, he])
  case other =>
    intro k hk
    rw [hslots]
    apply writeAll_untouched
    intro w hw he
    exact hk (he ▸ (List.of_mem_zip hw).1)

/-! ## Messages to the contract -/

/-- A call of the contract: who calls with what, how many levels of nested
calls remain, and which of the calls in its tree run out of gas. -/
structure OracleMessage where
  ctx : OracleContext
  depth : ℕ
  outOfGas : List ℕ → Bool
  data : Bytes

def OracleMessage.call (abi : OracleAbi) (MEGA_SYSTEM_ADDRESS : ℕ) (m : OracleMessage)
    (st : OracleState) : Except Bytes (OracleState × Bytes) :=
  execute abi MEGA_SYSTEM_ADDRESS m.ctx m.depth m.outOfGas m.data st

def receive (abi : OracleAbi) (MEGA_SYSTEM_ADDRESS : ℕ) :
    OracleState → OracleMessage → OracleState :=
  commit (OracleMessage.call abi MEGA_SYSTEM_ADDRESS)

def OracleMessage.items (m : OracleMessage) (ds : List Bytes) : List OracleMessage :=
  ds.zipIdx.map fun x =>
    { ctx := m.ctx, depth := m.depth - 1, outOfGas := fun p => m.outOfGas (x.2 :: p), data := x.1 }

/-- A `multiCall` succeeds when all of its items do, one after the other. -/
structure InOrder (abi : OracleAbi) (MEGA_SYSTEM_ADDRESS : ℕ) (m : OracleMessage)
    (items : List (Option Bytes)) (st : OracleState) : Prop where
  succeeds : ∀ st' out, m.call abi MEGA_SYSTEM_ADDRESS st = .ok (st', out) ↔
    m.outOfGas [] = false ∧ m.ctx.value = 0 ∧ (m.depth = 0 → items = []) ∧
      ∃ (ds : List Bytes) (rs : List Bytes), items = ds.map some ∧
        abi.encode (.byteStrings rs) = out ∧
        runAll (OracleMessage.call abi MEGA_SYSTEM_ADDRESS) (m.items ds) st = .ok (st', rs)
  allOrNothing : receive abi MEGA_SYSTEM_ADDRESS st m = st ∨ ∃ ds : List Bytes, items = ds.map some ∧
    receive abi MEGA_SYSTEM_ADDRESS st m =
      (m.items ds).foldl (receive abi MEGA_SYSTEM_ADDRESS) st

theorem runAll_items {delegatecall : ℕ → Bytes → OracleState → Except Bytes (OracleState × Bytes)}
    {items : List (Option Bytes)} {i : ℕ} {st st' : OracleState} {rs : List Bytes} :
    runAll (multiCallItem abi delegatecall) (items.zipIdx i) st = .ok (st', rs) ↔
      ∃ ds : List Bytes, items = ds.map some ∧
        runAll (fun x : Bytes × ℕ => delegatecall x.2 x.1) (ds.zipIdx i) st = .ok (st', rs) := by
  induction items generalizing i st rs with
  | nil =>
    simp [runAll]
  | cons item items ih =>
    rw [List.zipIdx_cons, runAll_cons]
    constructor
    · rintro ⟨m, r, rs', hitem, hrest, rfl⟩
      obtain ⟨data, rfl, hcall⟩ := multiCallItem_ok.1 hitem
      obtain ⟨ds, rfl, hds⟩ := ih.1 hrest
      exact ⟨data :: ds, rfl, runAll_cons.2 ⟨m, r, rs', hcall, hds, rfl⟩⟩
    · rintro ⟨ds, hds, hrun⟩
      cases ds with
      | nil => simp at hds
      | cons data ds =>
        obtain ⟨rfl, rfl⟩ : item = some data ∧ items = ds.map some := by simpa using hds
        obtain ⟨m, r, rs', hcall, hrest, rfl⟩ := runAll_cons.1 hrun
        exact ⟨m, r, rs', multiCallItem_ok.2 ⟨data, rfl, hcall⟩, ih.2 ⟨ds, rfl, hrest⟩, rfl⟩

theorem runAll_nested {m : OracleMessage} {ds : List Bytes} {st st' : OracleState}
    {rs : List Bytes} :
    runAll (fun x : Bytes × ℕ => nested abi MEGA_SYSTEM_ADDRESS m.ctx m.depth m.outOfGas x.2 x.1)
        ds.zipIdx st = .ok (st', rs) ↔
      (m.depth = 0 → ds = []) ∧
      runAll (OracleMessage.call abi MEGA_SYSTEM_ADDRESS) (m.items ds) st = .ok (st', rs) := by
  rw [OracleMessage.items, runAll_map]
  cases hd : m.depth with
  | zero =>
    cases ds with
    | nil => simp [runAll]
    | cons d ds =>
      rw [List.zipIdx_cons, runAll_cons]
      simp [nested]
  | succ depth =>
    simp only [Nat.add_one_ne_zero, false_implies, true_and]
    exact Iff.rfl

theorem multiCall_call {m : OracleMessage} {items : List (Option Bytes)} {st st' : OracleState}
    {out : Bytes} (hdec : abi.decode m.data = some (.multiCall items)) :
    m.call abi MEGA_SYSTEM_ADDRESS st = .ok (st', out) ↔
      m.outOfGas [] = false ∧ m.ctx.value = 0 ∧ (m.depth = 0 → items = []) ∧
        ∃ (ds : List Bytes) (rs : List Bytes), items = ds.map some ∧
        abi.encode (.byteStrings rs) = out ∧
          runAll (OracleMessage.call abi MEGA_SYSTEM_ADDRESS) (m.items ds) st = .ok (st', rs) := by
  rw [OracleMessage.call, execute_ok]
  apply and_congr_right'
  apply and_congr_right'
  constructor
  · rintro ⟨call, r, hcall, hd, hout⟩
    obtain rfl : .multiCall items = call := Option.some.inj (hdec.symm.trans hcall)
    obtain ⟨⟨s, rs⟩, hrun, hp⟩ := map_ok.1 hd
    obtain ⟨rfl, rfl⟩ : s = st' ∧ .byteStrings rs = r := Prod.mk.inj hp
    obtain ⟨ds, rfl, hds⟩ := runAll_items.1 hrun
    obtain ⟨hdepth, hitems⟩ := runAll_nested.1 hds
    exact ⟨fun h => by rw [hdepth h]; rfl, ds, rs, rfl, hout, hitems⟩
  · rintro ⟨hdepth, ds, rs, rfl, hout, hitems⟩
    have hnil : m.depth = 0 → ds = [] := fun h => List.map_eq_nil_iff.1 (hdepth h)
    refine ⟨_, .byteStrings rs, hdec, ?_, hout⟩
    exact map_ok.2 ⟨(st', rs), runAll_items.2 ⟨ds, rfl, runAll_nested.2 ⟨hnil, hitems⟩⟩, rfl⟩

theorem multiCall_inOrder {m : OracleMessage} {items : List (Option Bytes)}
    (hdec : abi.decode m.data = some (.multiCall items)) (st : OracleState) :
    InOrder abi MEGA_SYSTEM_ADDRESS m items st := by
  constructor
  case succeeds => exact fun st' out => multiCall_call hdec
  case allOrNothing =>
    cases h : m.call abi MEGA_SYSTEM_ADDRESS st with
    | error e => exact .inl (commit_error h)
    | ok p =>
      obtain ⟨-, -, -, ds, rs, hitems, -, hrun⟩ := (multiCall_call hdec).1 h
      right
      exact ⟨ds, hitems, (commit_ok h).trans (runAll_commits hrun).symm⟩

theorem receive_unauthorized {m : OracleMessage} (hs : m.ctx.sender ≠ MEGA_SYSTEM_ADDRESS)
    (st : OracleState) : receive abi MEGA_SYSTEM_ADDRESS st m = st := by
  by_contra h
  obtain ⟨st', out, hcall, hne⟩ := commit_ne h
  exact hne (execute_unauthorized hs hcall)

theorem setSlots_call {m : OracleMessage} {slots values : CalldataArray} {st st' : OracleState}
    {out : Bytes} (hdec : abi.decode m.data = some (.setSlots slots values))
    (h : m.call abi MEGA_SYSTEM_ADDRESS st = .ok (st', out)) :
    LastWins m.data slots values st st' := by
  obtain ⟨-, -, call, r, hcall, hd, -⟩ := execute_ok.1 h
  obtain rfl : .setSlots slots values = call := Option.some.inj (hdec.symm.trans hcall)
  exact setSlots_lastWins (onlySystemAddress_ok.1 (returning_ok.1 hd).1).1

structure OracleMessage.MaySet (MEGA_SYSTEM_ADDRESS : ℕ) (m : OracleMessage)
    (slots values : CalldataArray) : Prop where
  gas : m.outOfGas [] = false
  unpaid : m.ctx.value = 0
  sender : m.ctx.sender = MEGA_SYSTEM_ADDRESS
  lengths : slots.length = values.length
  writable : m.ctx.isStatic = true → slots.length = 0

theorem setSlots_succeeds_call {m : OracleMessage} {slots values : CalldataArray}
    {st : OracleState} (hdec : abi.decode m.data = some (.setSlots slots values)) :
    (∃ st' out, m.call abi MEGA_SYSTEM_ADDRESS st = .ok (st', out)) ↔
      m.MaySet MEGA_SYSTEM_ADDRESS slots values := by
  constructor
  · rintro ⟨st', out, h⟩
    obtain ⟨hgas, hvalue, call, r, hcall, hd, -⟩ := execute_ok.1 h
    obtain rfl : .setSlots slots values = call := Option.some.inj (hdec.symm.trans hcall)
    obtain ⟨hset, hsender⟩ := onlySystemAddress_ok.1 (returning_ok.1 hd).1
    obtain ⟨hlengths, hwritable⟩ := setSlots_succeeds.1 ⟨st', hset⟩
    exact ⟨hgas, hvalue, hsender, hlengths, hwritable⟩
  · rintro ⟨hgas, hvalue, hsender, hlengths, hwritable⟩
    have hsets : ∃ st', setSlots abi m.ctx m.data slots values st = .ok st' :=
      setSlots_succeeds.2 ⟨hlengths, hwritable⟩
    obtain ⟨st', hset⟩ := hsets
    have hguarded : onlySystemAddress abi MEGA_SYSTEM_ADDRESS m.ctx
        (setSlots abi m.ctx m.data slots values st) = .ok st' := onlySystemAddress_ok.2 ⟨hset, hsender⟩
    exact ⟨st', abi.encode .nothing, execute_ok.2 ⟨hgas, hvalue, _, .nothing, hdec,
      returning_ok.2 ⟨hguarded, rfl⟩, rfl⟩⟩

/-- Whatever messages the contract receives, its state is what the messages of
the system address alone make of it; a `multiCall` is its items in order or
nothing; and the batch setter, which the system address may call, leaves the last
value for each slot. -/
theorem oracle_written_by_system (abi : OracleAbi) (MEGA_SYSTEM_ADDRESS : ℕ) (st : OracleState)
    (messages : List OracleMessage) :
    messages.foldl (receive abi MEGA_SYSTEM_ADDRESS) st =
      (messages.filter fun m => m.ctx.sender == MEGA_SYSTEM_ADDRESS).foldl
        (receive abi MEGA_SYSTEM_ADDRESS) st ∧
    ∀ m : OracleMessage, ∀ st', messages.foldl (receive abi MEGA_SYSTEM_ADDRESS) st = st' →
      (receive abi MEGA_SYSTEM_ADDRESS st' m ≠ st' → m.ctx.sender = MEGA_SYSTEM_ADDRESS) ∧
      (∀ items, abi.decode m.data = some (.multiCall items) →
        InOrder abi MEGA_SYSTEM_ADDRESS m items st') ∧
      (∀ slots values st'' out, abi.decode m.data = some (.setSlots slots values) →
        m.call abi MEGA_SYSTEM_ADDRESS st' = .ok (st'', out) →
          LastWins m.data slots values st' st'') ∧
      (∀ slots values, abi.decode m.data = some (.setSlots slots values) →
        ((∃ st'' out, m.call abi MEGA_SYSTEM_ADDRESS st' = .ok (st'', out)) ↔
          m.MaySet MEGA_SYSTEM_ADDRESS slots values)) := by
  constructor
  · apply foldl_commit_filter
    intro m s hkeep
    exact receive_unauthorized (by simpa using hkeep) s
  · intro m st' _
    refine ⟨fun hne => ?_, fun items hdec => multiCall_inOrder hdec st',
      fun slots values st'' out hdec hcall => setSlots_call hdec hcall,
      fun slots values hdec => setSlots_succeeds_call hdec⟩
    by_contra hs
    exact hne (receive_unauthorized hs st')

def setSlotSelector : Bytes := [0xfb, 0xc0, 0xd0, 0x35]

def multiCallSelector : Bytes := [0x34, 0x8a, 0x0c, 0xdc]

def setSlotData : Bytes := setSlotSelector ++ abiWord 100 ++ abiWord 0x1234

/-- `multiCall([setSlot(100, 0x1234)])`, the item padded to whole words. -/
def multiCallData : Bytes :=
  multiCallSelector ++ abiWord 0x20 ++ abiWord 1 ++ abiWord 0x20 ++ abiWord 68 ++ setSlotData ++
    List.replicate 28 0

def setterAbi : OracleAbi where
  decode data :=
    if data = multiCallData then some (.multiCall [some setSlotData])
    else if data = setSlotData then some (.setSlot 100 0x1234)
    else none
  encode
    | .byteStrings [r] => abiWord 0x20 ++ abiWord 1 ++ abiWord 0x20 ++ abiWord r.length ++ r
    | _ => []
  encodeError
    | .notSystemAddress => [0x5e, 0x74, 0x2c, 0x5a]
    | _ => []

def multiCallMessage (sender : ℕ) : OracleMessage where
  ctx := { sender, value := 0, isStatic := false }
  depth := 1024
  outOfGas := fun _ => false
  data := multiCallData

theorem oracle_written_by_system_multiCall :
    setterAbi.decode (multiCallMessage 7).data = some (.multiCall [some setSlotData]) ∧
    InOrder setterAbi 7 (multiCallMessage 7) [some setSlotData]
      (receive setterAbi 7 { slots := fun _ => 0, logs := [] } (multiCallMessage 8)) := by
  have hdec : setterAbi.decode (multiCallMessage 7).data =
      some (.multiCall [some setSlotData]) := by
    show setterAbi.decode multiCallData = _
    simp only [setterAbi, if_true]
  exact ⟨hdec, ((oracle_written_by_system setterAbi 7 { slots := fun _ => 0, logs := [] }
    [multiCallMessage 8]).2 (multiCallMessage 7) _
      (by simp only [List.foldl_cons, List.foldl_nil])).2.1 _ hdec⟩

end OracleContract

end MegaEvm
