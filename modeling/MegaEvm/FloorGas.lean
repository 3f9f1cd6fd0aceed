import MegaEvm.FrameInvariant

/-!
# The calldata floor

`validate` takes the interpreter's initial gas and calldata floor, which were
compared with the gas limit, and raises both by storage gas. The raised initial
gas is compared again, the raised floor is not. When the transaction is settled
the gas it spent is set to the floor, but never above its gas limit.
-/

set_option autoImplicit false

namespace MegaEvm

def constants.CALLDATA_STANDARD_TOKEN_STORAGE_FLOOR_GAS : ℕ :=
  constants.TOTAL_COST_FLOOR_PER_TOKEN * 10

def getTokensInCalldata (input : Bytes) : ℕ :=
  let zeroDataLen := input.count 0
  zeroDataLen + (input.length - zeroDataLen) * 4

structure InitialAndFloorGas where
  initialGas : ℕ
  floorGas : ℕ
  deriving DecidableEq, Repr

inductive InvalidTransaction where
  | callGasCostMoreThanGasLimit (gasLimit initialGas : ℕ)
  | gasFloorMoreThanGasLimit (gasFloor gasLimit : ℕ)
  | custom
  deriving DecidableEq, Repr

section Validate

variable (env : Env) (ev : StartEvent) (floor : ℕ)

/-- The interpreter's own check, of its initial gas and its floor. -/
def validateInitialTxGas : Except InvalidTransaction InitialAndFloorGas :=
  if ev.intrinsicGas > env.tx.gasLimit then
    .error (.callGasCostMoreThanGasLimit env.tx.gasLimit ev.intrinsicGas)
  else if floor > env.tx.gasLimit then
    .error (.gasFloorMoreThanGasLimit floor env.tx.gasLimit)
  else .ok ⟨ev.intrinsicGas, floor⟩

/-- The gas of `validate` from MINI_REX on, once calldata storage gas and the
intrinsic storage gas are added. -/
def withStorageGas (gas : InitialAndFloorGas) : InitialAndFloorGas :=
  let calldataStorageGas :=
    constants.CALLDATA_STANDARD_TOKEN_STORAGE_GAS * env.tx.tokensInCalldata
  let floorCalldataStorageGas :=
    constants.CALLDATA_STANDARD_TOKEN_STORAGE_FLOOR_GAS * env.tx.tokensInCalldata
  { initialGas := gas.initialGas + calldataStorageGas +
      if env.spec.isEnabled .rex then constants.TX_INTRINSIC_STORAGE_GAS else 0
    floorGas := gas.floorGas + floorCalldataStorageGas }

def chargeCreation (gas : InitialAndFloorGas) : Except InvalidTransaction InitialAndFloorGas :=
  match creationStorageGas env ev with
  | some storageGas => .ok { gas with initialGas := gas.initialGas + storageGas }
  | none => .error .custom

def validate : Except InvalidTransaction InitialAndFloorGas := do
  let gas ← validateInitialTxGas env ev floor
  if env.spec.isEnabled .miniRex then
    let raised := withStorageGas env gas
    if raised.initialGas > env.tx.gasLimit then
      .error (.callGasCostMoreThanGasLimit env.tx.gasLimit raised.initialGas)
    else chargeCreation env ev raised
  else .ok gas

def finalFloorGas : ℕ :=
  floor + constants.CALLDATA_STANDARD_TOKEN_STORAGE_FLOOR_GAS * env.tx.tokensInCalldata

end Validate

section Settle

/-- A gas counter with the refunds recorded on it. -/
structure RefundedGas extends Gas where
  refunded : ℕ
  deriving DecidableEq, Repr

namespace RefundedGas

def spentSubRefunded (g : RefundedGas) : ℕ := g.spent - g.refunded

/-- At most a fifth of the spent gas is refunded. -/
def setFinalRefund (g : RefundedGas) : RefundedGas :=
  { g with refunded := min g.refunded (g.spent / 5) }

def setSpent (g : RefundedGas) (spent : ℕ) : RefundedGas :=
  { g with remaining := g.limit - spent }

def setRefund (g : RefundedGas) (refunded : ℕ) : RefundedGas := { g with refunded := refunded }

end RefundedGas

/-- Gas is spent up to the floor, without a refund. -/
def eip7623CheckGasFloor (g : RefundedGas) (gas : InitialAndFloorGas) : RefundedGas :=
  if g.spentSubRefunded < gas.floorGas then (g.setSpent gas.floorGas).setRefund 0 else g

/-- `post_execution`: what the sender is charged, less its refund. -/
def postExecution (g : Gas) (refund : ℕ) (gas : InitialAndFloorGas) : ℕ :=
  (eip7623CheckGasFloor (RefundedGas.mk g refund).setFinalRefund gas).spentSubRefunded

theorem floor_le_charged_iff {g : Gas} {refund : ℕ} {gas : InitialAndFloorGas} :
    gas.floorGas ≤ postExecution g refund gas ↔ gas.floorGas ≤ g.limit := by
  unfold postExecution eip7623CheckGasFloor
  split
  case isTrue h =>
    simp only [RefundedGas.spentSubRefunded, RefundedGas.setSpent, RefundedGas.setRefund,
      RefundedGas.setFinalRefund, Gas.spent]
    omega
  case isFalse h =>
    simp only [RefundedGas.spentSubRefunded, RefundedGas.setFinalRefund, Gas.spent] at h ⊢
    omega

end Settle

section Gas

variable {env : Env} {s s' : State}

def State.LimitKept (env : Env) (s : State) : Prop :=
  ∀ p, s.phase = .done p → p.result.gas.limit = env.tx.gasLimit

theorem limitKept_answer (p : Pending) : (s.answer p).LimitKept env := by
  intro q hq
  unfold State.answer at hq
  dsimp only at hq
  split at hq
  · cases hq
  · cases hq

theorem finalGas_limit (l : AdditionalLimit) (r : FrameResult) :
    (finalGas env l r).limit = env.tx.gasLimit := by
  unfold finalGas settledGas
  dsimp only
  split
  · rfl
  · rfl

theorem limitKept_step {e : Event} (h : step env s e = some s') : s'.LimitKept env := by
  cases step_spec h with
  | init hp hi =>
    cases hi with
    | keyless | control | refused | answered => exact limitKept_answer _
    | entered => exact fun p hp => (by cases hp)
  | stopped | resumed | opened | returned | hand => exact fun p hp => (by cases hp)
  | @op f rest ev hp hf =>
    intro p hp
    simp only [interpStep] at hp
    split at hp
    · cases hp
    · cases hp
  | @insert q hp hn =>
    intro p hp
    cases hf : s.frames with
    | nil =>
      rw [insertResult_nil env q hf] at hp
      cases hp
    | cons f rest =>
      rw [insertResult_cons env q hf] at hp
      cases hp
  | @finish q hp hn =>
    intro p hp
    rw [lastFrameResult_phase, Phase.done.injEq] at hp
    rw [← hp]
    exact finalGas_limit _ _

theorem limitKept_start {ev : StartEvent} (h : start env ev = some s) : s.LimitKept env := by
  intro p hp
  unfold start at h
  split at h
  · cases h
  · rw [Option.map_eq_some_iff] at h
    obtain ⟨storageGas, -, rfl⟩ := h
    by_cases hlow : env.tx.gasLimit < initialGas env ev + storageGas
    · rw [if_pos hlow, Phase.done.injEq] at hp
      rw [← hp]
      rfl
    · rw [if_neg hlow] at hp
      cases hp

theorem Execution.gas_limit {ev : StartEvent} {es : List Event} {p : Pending}
    (h : Execution env ev es s) (hp : s.phase = .done p) :
    p.result.gas.limit = env.tx.gasLimit := by
  obtain ⟨s₀, hstart, hr⟩ := h
  have hkept : s.LimitKept env :=
    Run.invariant' (fun _ _ _ _ => limitKept_step) (limitKept_start hstart) hr
  exact hkept p hp

end Gas

section Floor

variable (env : Env) (ev : StartEvent) (floor : ℕ)

/-- A transaction that passes `validate` is charged its final floor, and one
that cannot pay it does not pass. -/
structure PaysFloor : Prop where
  pays : ∀ gas es s p refund, validate env ev floor = .ok gas → Execution env ev es s →
    s.phase = .done p → finalFloorGas env floor ≤ postExecution p.result.gas refund gas
  rejected : env.tx.gasLimit < finalFloorGas env floor → ∃ e, validate env ev floor = .error e

/-- The gas limit covers what `validate` compares it with, but not the final floor. -/
def belowFloor : Bool :=
  (creationStorageGas env ev).isSome && decide (ev.intrinsicGas ≤ env.tx.gasLimit) &&
    decide (floor ≤ env.tx.gasLimit) && decide (initialGas env ev ≤ env.tx.gasLimit) &&
    decide (env.tx.gasLimit < finalFloorGas env floor)

variable {env ev floor} {gas : InitialAndFloorGas}

theorem validateInitialTxGas_ok : validateInitialTxGas env ev floor = .ok gas ↔
    ev.intrinsicGas ≤ env.tx.gasLimit ∧ floor ≤ env.tx.gasLimit ∧
      gas = ⟨ev.intrinsicGas, floor⟩ := by
  unfold validateInitialTxGas
  by_cases hi : ev.intrinsicGas > env.tx.gasLimit
  · simp only [if_pos hi, reduceCtorEq, false_iff]
    omega
  · by_cases hf : floor > env.tx.gasLimit
    · simp only [if_neg hi, if_pos hf, reduceCtorEq, false_iff]
      omega
    · simp only [if_neg hi, if_neg hf, Except.ok.injEq]
      constructor
      · rintro rfl
        exact ⟨by omega, by omega, rfl⟩
      · rintro ⟨-, -, rfl⟩
        rfl

theorem validate_ok (hmini : env.spec.isEnabled .miniRex = true) :
    validate env ev floor = .ok gas ↔
      ev.intrinsicGas ≤ env.tx.gasLimit ∧ floor ≤ env.tx.gasLimit ∧
        initialGas env ev ≤ env.tx.gasLimit ∧
        ∃ storageGas, creationStorageGas env ev = some storageGas ∧
          gas = ⟨initialGas env ev + storageGas, finalFloorGas env floor⟩ := by
  have hraised : withStorageGas env ⟨ev.intrinsicGas, floor⟩ =
      ⟨initialGas env ev, finalFloorGas env floor⟩ := rfl
  unfold validate
  cases hbase : validateInitialTxGas env ev floor with
  | error e =>
    have hnot : ¬ (ev.intrinsicGas ≤ env.tx.gasLimit ∧ floor ≤ env.tx.gasLimit) := fun h => by
      rw [validateInitialTxGas_ok.2 ⟨h.1, h.2, rfl⟩] at hbase
      cases hbase
    constructor
    · intro h
      cases h
    · rintro ⟨hi, hf, -⟩
      exact absurd ⟨hi, hf⟩ hnot
  | ok base =>
    obtain ⟨hi, hf, rfl⟩ := validateInitialTxGas_ok.1 hbase
    simp only [bind, Except.bind, hmini, if_true, hraised]
    by_cases hlow : initialGas env ev > env.tx.gasLimit
    · rw [if_pos hlow]
      constructor
      · intro h
        cases h
      · rintro ⟨-, -, hle, -⟩
        omega
    · rw [if_neg hlow, chargeCreation]
      cases creationStorageGas env ev with
      | none => simp
      | some storageGas =>
        simp only [Except.ok.injEq, Option.some.injEq, exists_eq_left']
        constructor
        · rintro rfl
          exact ⟨hi, hf, by omega, rfl⟩
        · rintro ⟨-, -, -, rfl⟩
          rfl

theorem validate_start (hmini : env.spec.isEnabled .miniRex = true)
    (h : validate env ev floor = .ok gas) (hgas : gas.initialGas ≤ env.tx.gasLimit) :
    ∃ s, start env ev = some s ∧
      s.phase = .init (firstFrameInput env (env.tx.gasLimit - gas.initialGas)) := by
  obtain ⟨-, -, hinitial, storageGas, hst, rfl⟩ := (validate_ok hmini).1 h
  unfold start
  rw [if_neg (by omega), hst, Option.map_some]
  refine ⟨_, rfl, ?_⟩
  rw [if_neg (by simpa using hgas)]

theorem floor_charged_iff (hmini : env.spec.isEnabled .miniRex = true) {es : List Event}
    {s : State} {p : Pending} (hv : validate env ev floor = .ok gas)
    (h : Execution env ev es s) (hp : s.phase = .done p) (refund : ℕ) :
    finalFloorGas env floor ≤ postExecution p.result.gas refund gas ↔
      finalFloorGas env floor ≤ env.tx.gasLimit := by
  have hfloor : gas.floorGas = finalFloorGas env floor := by
    obtain ⟨-, -, -, storageGas, -, rfl⟩ := (validate_ok hmini).1 hv
    rfl
  rw [← hfloor, floor_le_charged_iff, h.gas_limit hp]

theorem belowFloor_iff (hmini : env.spec.isEnabled .miniRex = true) :
    belowFloor env ev floor = true ↔
      (∃ gas, validate env ev floor = .ok gas) ∧ env.tx.gasLimit < finalFloorGas env floor := by
  simp only [belowFloor, Bool.and_eq_true, decide_eq_true_eq, Option.isSome_iff_exists]
  constructor
  · rintro ⟨⟨⟨⟨⟨storageGas, hst⟩, hi⟩, hf⟩, hinitial⟩, hlow⟩
    exact ⟨⟨_, (validate_ok hmini).2 ⟨hi, hf, hinitial, storageGas, hst, rfl⟩⟩, hlow⟩
  · rintro ⟨⟨gas, hv⟩, hlow⟩
    obtain ⟨hi, hf, hinitial, storageGas, hst, -⟩ := (validate_ok hmini).1 hv
    exact ⟨⟨⟨⟨⟨storageGas, hst⟩, hi⟩, hf⟩, hinitial⟩, hlow⟩

/-- Exactly a gas limit that `validate` accepts below the final floor escapes it. -/
theorem pays_floor_iff (hmini : env.spec.isEnabled .miniRex = true) :
    PaysFloor env ev floor ↔ belowFloor env ev floor = false := by
  rw [Bool.eq_false_iff, ne_eq, belowFloor_iff hmini]
  constructor
  · rintro h ⟨⟨gas, hv⟩, hlow⟩
    obtain ⟨e, he⟩ := h.rejected hlow
    rw [hv] at he
    cases he
  · intro hcovered
    exact
      { pays := fun gas es s p refund hv h hp => by
          have hle : finalFloorGas env floor ≤ env.tx.gasLimit := by
            by_contra hlow
            exact hcovered ⟨⟨gas, hv⟩, by omega⟩
          exact (floor_charged_iff hmini hv h hp refund).2 hle
        rejected := fun hlow => by
          cases hv : validate env ev floor with
          | error e => exact ⟨e, rfl⟩
          | ok gas => exact absurd ⟨⟨gas, hv⟩, hlow⟩ hcovered }

end Floor

section Sample

def calldataEnv (gasLimit : ℕ) : Env :=
  { sampleEnv .miniRex (.call 3) .other gasLimit with
    tx := ⟨2, .call 3, 0, .other, 100, getTokensInCalldata (List.replicate 100 1), 0, [], gasLimit⟩ }

def calldataStart : StartEvent :=
  { sampleStart EvmTxRuntimeLimits.miniRex (by decide) with intrinsicGas := 22600 }

theorem pays_floor_covered : PaysFloor (calldataEnv 65000) calldataStart 25000 :=
  (pays_floor_iff rfl).2 (by decide)

/-- With 50000 gas it is accepted: its initial gas is 38600, its final floor 65000. -/
theorem floor_unpaid :
    ¬ ∀ (env : Env) (ev : StartEvent) (floor : ℕ), env.spec.isEnabled .miniRex = true →
      PaysFloor env ev floor := by
  intro h
  have hpays := h (calldataEnv 50000) calldataStart 25000 rfl
  have hrun : ((execute (calldataEnv 50000) calldataStart
      [.init sampleInit, .tau, .op (sampleReturn []), .tau, .tau, .tau, .tau]).map
      fun s => s.phase) = some (.done ⟨callResult .return [] ⟨50000, 11400⟩, []⟩) := by
    decide
  obtain ⟨s, hs, hp⟩ := exists_execution hrun
  have hfloor := hpays.pays ⟨38600, 65000⟩ _ s _ 0 rfl hs hp
  have hcharged : ¬ 65000 ≤ 50000 := by decide
  exact hcharged hfloor

end Sample

end MegaEvm
