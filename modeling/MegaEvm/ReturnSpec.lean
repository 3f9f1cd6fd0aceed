import MegaEvm.FrameInitSpec
import MegaEvm.InstructionSpec

/-!
# How a frame returns

A frame that returns passes two checks. Before its action is processed a create
frame is charged for the code it is about to deploy, in storage gas and in data
size. After the action was processed, and its changes committed or reverted,
the code deposit is recorded as compute gas. Only the second check can turn
down a result whose changes are committed.
-/

set_option autoImplicit false

namespace MegaEvm

open AdditionalLimit

variable {env : Env} {l l₁ : AdditionalLimit} {r r₂ : InterpreterResult}

structure Acting (l : AdditionalLimit) (a : InterpreterAction) : Prop where
  restorable : ¬ l.TxExceeded → l.Restorable
  stops : l.exceeded = true → ∃ r, a = .return r ∧ r.result = l.exceedingInstructionResult
  opens : ∀ i, a = .newFrame i → l.Settled
  settled : l.rex4 = true → l.exceeded = false → l.Settled
  returns : ∀ r, a = .return r → r.result.isOk = true → l.Settled
  owned : l.Owned
  unmasked : l.Unmasked

theorem Outcome.acting {c : Ctx} (h : Outcome l c) {a : InterpreterAction}
    (ha : c.action = some a) : Acting c.limit a where
  restorable := fun _ => h.restorable
  stops := fun hx => by
    obtain ⟨r, hr, hres⟩ := h.stops hx
    rw [ha, Option.some.injEq] at hr
    exact ⟨r, hr, hres⟩
  opens := fun i hi => h.opens i (by rw [ha, hi])
  settled := fun hr hf => h.settled (h.rex4.symm.trans hr) hf
  returns := fun r hr hok => h.returns r (by rw [ha, hr]) hok
  owned := h.owned
  unmasked := h.unmasked

theorem Acting.within (h : Acting l (.return r)) (hok : r.result.isOk = true) :
    l.exceeded = false := by
  by_contra hx
  obtain ⟨r', hr, hres⟩ := h.stops (by simpa using hx)
  cases hr
  rw [hres, exceedingInstructionResult_isOk] at hok
  cases hok

section Instructions

def storageCharged (isCreate : Bool) (r : InterpreterResult) : InterpreterResult :=
  if isCreate && r.result.isOk then
    match r.gas.recordCost (constants.CODEDEPOSIT_STORAGE_GAS * r.output.length) with
    | some g => { r with gas := g }
    | none => { r with result := .outOfGas }
  else r

theorem chargeCodeDepositStorage_return (b : Bool) :
    chargeCodeDepositStorage b (.return r) = .return (storageCharged b r) := by
  unfold chargeCodeDepositStorage storageCharged
  simp only
  split
  · cases r.gas.recordCost (constants.CODEDEPOSIT_STORAGE_GAS * r.output.length) with
    | some g => rfl
    | none => rfl
  · rfl

theorem storageCharged_call : storageCharged false r = r := by
  simp [storageCharged]

/-- The limits `after_frame_run_instructions` leaves, for a frame that returns. -/
def returnLimit (l : AdditionalLimit) (isCreate : Bool) (r : InterpreterResult) :
    AdditionalLimit :=
  if isCreate then (l.countOutput true (.return r)).checkLimit else l

def returnResult (l : AdditionalLimit) (isCreate : Bool) (r : InterpreterResult) :
    InterpreterResult :=
  if isCreate && (returnLimit l isCreate r).exceeded then
    { r with
      result := (returnLimit l isCreate r).exceedingInstructionResult
      output := (returnLimit l isCreate r).hasExceededLimit.revertData }
  else r

theorem afterFrameRunInstructions_return (b : Bool) :
    l.afterFrameRunInstructions b (.return r) =
      (returnLimit l b r, .return (returnResult l b r)) := by
  cases b with
  | false =>
    rw [afterFrameRunInstructions_call]
    simp [returnLimit, returnResult]
  | true =>
    rw [afterFrameRunInstructions_create]
    unfold returnResult returnLimit
    simp only [if_true, Bool.true_and]
    split
    · rfl
    · rfl

theorem returnResult_gas (b : Bool) : (returnResult l b r).gas = r.gas := by
  unfold returnResult
  split
  · rfl
  · rfl

structure Returning (l : AdditionalLimit) (r : InterpreterResult) : Prop where
  restorable : ¬ l.TxExceeded → l.Restorable
  committed : r.result.isOk = true → l.exceeded = false ∧ l.Settled
  settled : l.rex4 = true → l.exceeded = false → l.Settled
  owned : l.Owned
  unmasked : l.Unmasked

theorem txExceeded_checkLimit (h : l.TxExceeded) : l.checkLimit.TxExceeded := by
  rw [checkLimit_of_exceeded h.1]
  exact h

theorem Acting.returning (h : Acting l (.return r)) (b : Bool) :
    Returning (returnLimit l b (storageCharged b r)) (returnResult l b (storageCharged b r)) := by
  cases b with
  | false =>
    have hres : returnResult l false r = r := by simp [returnResult]
    rw [storageCharged_call, hres]
    exact
      { restorable := h.restorable
        committed := fun hok => ⟨h.within hok, h.returns r rfl hok⟩
        settled := h.settled
        owned := h.owned
        unmasked := h.unmasked }
  | true =>
    set r₁ := storageCharged true r with hr₁
    have hlim : returnLimit l true r₁ = (l.countOutput true (.return r₁)).checkLimit := rfl
    have hunmasked : (l.countOutput true (.return r₁)).checkLimit.Unmasked := by
      refine unmasked_checkLimit h.unmasked fun hx h4 => ?_
      exact (h.settled h4 hx).computeGas.tx
    rw [hlim]
    exact
      { restorable := by
          intro ht
          have hnot : ¬ l.TxExceeded := fun htl =>
            ht (txExceeded_checkLimit (l := l.countOutput true (.return r₁)) htl)
          exact restorable_checkLimit.2 ((h.restorable hnot).countOutput true (.return r₁))
        committed := by
          intro hok
          have hf : (l.countOutput true (.return r₁)).checkLimit.exceeded = false := by
            by_contra hx
            have hx' : (returnLimit l true r₁).exceeded = true := by simpa [hlim] using hx
            simp [returnResult, hx'] at hok
          exact ⟨hf, settled_of_unflagged hf⟩
        settled := fun _ hf => settled_of_unflagged hf
        owned := (h.owned.countOutput true (.return r₁)).checkLimit
        unmasked := hunmasked }

theorem returnLimit_spec (b : Bool) : (returnLimit l b r).spec = l.spec := by
  cases b with
  | false => rfl
  | true => simp [returnLimit, countOutput]

theorem returnLimit_rescuedGas (b : Bool) : (returnLimit l b r).rescuedGas = l.rescuedGas := by
  cases b with
  | false => rfl
  | true => simp [returnLimit, countOutput]

theorem returnLimit_aligned {n : ℕ} (h : l.Aligned n) (b : Bool) :
    (returnLimit l b r).Aligned n := by
  cases b with
  | false => exact h
  | true => exact aligned_checkLimit.2 (h.countOutput true (.return r))

theorem returnLimit_computeGas (l : AdditionalLimit) (b : Bool) (r : InterpreterResult) :
    (returnLimit l b r).computeGas = l.computeGas := by
  unfold returnLimit
  split
  · rw [checkLimit_computeGas]
    rfl
  · rfl

theorem returnLimit_sticky (h : l.exceeded = true) (b : Bool) :
    (returnLimit l b r).hasExceededLimit = l.hasExceededLimit := by
  cases b with
  | false => rfl
  | true => exact checkLimit_sticky (l := l.countOutput true (.return r)) h

end Instructions

section Process

/-- Processing a return commits the frame's changes exactly when its result is
ok, and uses gas for the code deposit of a create only. -/
inductive Processed (f : Frame) (r : InterpreterResult) (journal : List JournalEntry) :
    FrameResult → List JournalEntry → Prop
  | call (hf : f.isCreate = false) (hr : r.result.isOk = true) :
      Processed f r journal ⟨false, r⟩ journal
  | callReverted (hf : f.isCreate = false) (hr : r.result.isOk = false) :
      Processed f r journal ⟨false, r⟩ (checkpointRevert journal f.checkpoint)
  | create (hf : f.isCreate = true) (hr : r.result.isOk = true)
      (hg : constants.CODEDEPOSIT * r.output.length ≤ r.gas.remaining) :
      Processed f r journal
        ⟨true, { r with
          result := .return
          gas := { r.gas with
            remaining := r.gas.remaining - constants.CODEDEPOSIT * r.output.length } }⟩
        (.codeChange f.target :: journal)
  | createReverted {r' : InterpreterResult} (hf : f.isCreate = true)
      (hr : r'.result.isOk = false) (hg : r'.gas = r.gas) :
      Processed f r journal ⟨true, r'⟩ (checkpointRevert journal f.checkpoint)

theorem processReturn_processed (env : Env) (f : Frame) (r : InterpreterResult)
    (journal : List JournalEntry) :
    Processed f r journal (processReturn env f r journal).1 (processReturn env f r journal).2 := by
  unfold processReturn
  by_cases hf : f.isCreate = true
  · rw [if_pos hf]
    unfold returnCreate
    by_cases hr : r.result.isOk = true
    · rw [if_neg (by simp [hr])]
      by_cases hef : r.output.head? = some 0xEF
      · rw [if_pos hef]
        exact .createReverted hf rfl rfl
      · rw [if_neg hef]
        by_cases hsize : r.output.length > env.maxCodeSize
        · rw [if_pos hsize]
          exact .createReverted hf rfl rfl
        · rw [if_neg hsize]
          cases hg : r.gas.recordCost (constants.CODEDEPOSIT * r.output.length) with
          | none => exact .createReverted hf rfl rfl
          | some g =>
            obtain ⟨hle, rfl⟩ := Gas.recordCost_eq_some.1 hg
            exact .create hf hr hle
    · rw [if_pos (by simpa using hr)]
      exact .createReverted hf (by simpa using hr) rfl
  · have hcall : f.isCreate = false := by simpa using hf
    rw [if_neg hf]
    by_cases hr : r.result.isOk = true
    · simp only [if_pos hr]
      exact .call hcall hr
    · simp only [if_neg hr]
      exact .callReverted hcall (by simpa using hr)

theorem returnCreate_reverted (env : Env) {r : InterpreterResult}
    (h : (returnCreate env r).2 = false) : (returnCreate env r).1.result.isOk = false := by
  unfold returnCreate at h ⊢
  split at h
  case isTrue hr =>
    rw [if_pos hr]
    simpa using hr
  case isFalse hr =>
    rw [if_neg hr]
    split at h
    case isTrue hef =>
      rw [if_pos hef]
      rfl
    case isFalse hef =>
      rw [if_neg hef]
      split at h
      case isTrue hsize =>
        rw [if_pos hsize]
        rfl
      case isFalse hsize =>
        rw [if_neg hsize]
        cases hg : r.gas.recordCost (constants.CODEDEPOSIT * r.output.length) with
        | none => rfl
        | some g =>
          rw [hg] at h
          cases h

/-- Compute gas that processing the action used. -/
def depositGas (r : InterpreterResult) (fr : FrameResult) : ℕ :=
  r.gas.remaining - fr.gas.remaining

variable {f : Frame} {journal journal' : List JournalEntry} {fr : FrameResult}

theorem Processed.depositGas_eq_zero (h : Processed f r journal fr journal')
    (hr : r.result.isOk = false) : depositGas r fr = 0 := by
  cases h with
  | call hf hok => rw [hr] at hok; cases hok
  | callReverted hf hok => exact Nat.sub_self _
  | create hf hok hg => rw [hr] at hok; cases hok
  | createReverted hf hok hg =>
    simp only [depositGas, FrameResult.gas, hg]
    exact Nat.sub_self _

theorem Processed.isOk (h : Processed f r journal fr journal')
    (hok : fr.instructionResult.isOk = true) : r.result.isOk = true := by
  cases h with
  | call hf hr => exact hr
  | callReverted hf hr => exact hok
  | create hf hr hg => exact hr
  | createReverted hf hr hg => exact absurd (hr.symm.trans hok) (by simp)

end Process

section Record

def depositLimit (l : AdditionalLimit) (r : InterpreterResult) (fr : FrameResult) :
    AdditionalLimit :=
  l.recordComputeGas (depositGas r fr)

def depositResult (l : AdditionalLimit) (r : InterpreterResult) (fr : FrameResult) :
    FrameResult :=
  if (depositLimit l r fr).exceeded then
    fr.markAsExceedingLimit (depositLimit l r fr).exceedingInstructionResult []
  else fr

theorem depositResult_gas (fr : FrameResult) : (depositResult l r fr).gas = fr.gas := by
  unfold depositResult
  split
  · rfl
  · rfl

theorem afterFrameRun_deposit (fr : FrameResult) : l.afterFrameRun fr r.gas.remaining =
    ((depositLimit l r fr).tryRescueGas fr.gas, depositResult l r fr) :=
  afterFrameRun_eq fr r.gas.remaining

structure Answered (l : AdditionalLimit) (r : InstructionResult) : Prop where
  restorable : ¬ l.TxExceeded → l.Restorable
  settled : l.exceeded = false → l.Settled
  accounts : ¬ l.TxExceeded → l.rex4 = true → r.isOk = true →
    l.dataSize.Settled l.rex4 ∧ l.kvUpdate.Settled l.rex4
  fatal : l.exceeded = true → r ≠ .fatalExternalError
  owned : l.Owned
  unmasked : l.Unmasked

theorem txExceeded_recordComputeGas {g : ℕ} (h : l.TxExceeded) :
    (l.recordComputeGas g).TxExceeded :=
  txExceeded_checkLimit (l := { l with computeGas := l.computeGas.recordGasUsed g }) h

theorem txExceeded_tryRescueGas {g : Gas} : (l.tryRescueGas g).TxExceeded ↔
    l.checkLimit.TxExceeded := by
  simp only [TxExceeded, exceeded, tryRescueGas_hasExceededLimit]

theorem Answered.tryRescueGas {r : InstructionResult} (h : Answered l r)
    (hc : l.checkLimit = l) (g : Gas) : Answered (l.tryRescueGas g) r where
  restorable := fun ht => by
    rw [txExceeded_tryRescueGas, hc] at ht
    exact restorable_tryRescueGas.2 (h.restorable ht)
  settled := fun hf => by
    rw [exceeded_tryRescueGas, hc] at hf
    exact settled_tryRescueGas.2 (h.settled hf)
  accounts := fun ht h4 hok => by
    rw [txExceeded_tryRescueGas, hc] at ht
    rw [tryRescueGas_rex4] at h4
    rw [tryRescueGas_dataSize, tryRescueGas_kvUpdate, tryRescueGas_rex4]
    exact h.accounts ht h4 hok
  fatal := fun hx => by
    rw [exceeded_tryRescueGas, hc] at hx
    exact h.fatal hx
  owned := h.owned.tryRescueGas
  unmasked := Unmasked.tryRescueGas (by rw [hc]; exact h.unmasked)

variable {f : Frame} {journal journal' : List JournalEntry} {fr : FrameResult}

/-- A stopped frame uses no gas for a deposit, so its flag stands. -/
theorem Returning.depositLimit_of_exceeded (h : Returning l r)
    (hp : Processed f r journal fr journal') (hx : l.exceeded = true) :
    depositLimit l r fr = l := by
  have hr : r.result.isOk = false := by
    by_contra hok
    have hf := (h.committed (by simpa using hok)).1
    rw [hx] at hf
    cases hf
  rw [depositLimit, hp.depositGas_eq_zero hr, recordComputeGas_zero, checkLimit_of_exceeded hx]

theorem depositResult_isOk (hok : (depositResult l r fr).instructionResult.isOk = true) :
    (depositLimit l r fr).exceeded = false ∧ depositResult l r fr = fr := by
  by_cases hx : (depositLimit l r fr).exceeded = true
  · simp [depositResult, hx] at hok
  · exact ⟨by simpa using hx, by simp [depositResult, hx]⟩

theorem Returning.answered (h : Returning l r) (hp : Processed f r journal fr journal') :
    Answered (depositLimit l r fr) (depositResult l r fr).instructionResult := by
  have hunmasked : (depositLimit l r fr).Unmasked := by
    by_cases hx : l.exceeded = true
    · rw [h.depositLimit_of_exceeded hp hx]
      exact h.unmasked
    · have hf : l.exceeded = false := by simpa using hx
      refine unmasked_recordComputeGas hf fun h4 => ?_
      exact ⟨(h.settled h4 hf).dataSize, (h.settled h4 hf).kvUpdate⟩
  exact
    { restorable := fun ht =>
        (h.restorable fun htl => ht (txExceeded_recordComputeGas htl)).recordComputeGas
      settled := fun hf => settled_recordComputeGas hf
      accounts := fun _ _ hok => by
        have hs := settled_recordComputeGas (depositResult_isOk hok).1
        exact ⟨hs.dataSize, hs.kvUpdate⟩
      fatal := fun hx => by
        rw [depositResult, if_pos hx]
        exact exceedingInstructionResult_ne_fatal _
      owned := h.owned.recordComputeGas
      unmasked := hunmasked }

end Record

section Action

variable (env : Env) (s : State) (f : Frame) (rest : List Frame)

theorem actionStep_newFrame (i : FrameInput) :
    actionStep env s f rest (.newFrame i) = { s with phase := .init i } := rfl

/-- The step of a frame that returns, in the order of the hooks. -/
theorem actionStep_return (r : InterpreterResult) :
    ∃ r₂ fr journal',
      r₂ = returnResult s.limit f.isCreate (storageCharged f.isCreate r) ∧
      processReturn env f r₂ s.journal = (fr, journal') ∧ Processed f r₂ s.journal fr journal' ∧
      actionStep env s f rest (.return r) =
        { s with
          frames := rest
          limit := (depositLimit (returnLimit s.limit f.isCreate (storageCharged f.isCreate r))
            r₂ fr).tryRescueGas fr.gas
          journal := journal'
          phase := .result ⟨depositResult
            (returnLimit s.limit f.isCreate (storageCharged f.isCreate r)) r₂ fr, f.opened⟩ } := by
  set r₂ := returnResult s.limit f.isCreate (storageCharged f.isCreate r) with hr₂
  refine ⟨r₂, (processReturn env f r₂ s.journal).1, (processReturn env f r₂ s.journal).2, rfl,
    rfl, processReturn_processed env f r₂ s.journal, ?_⟩
  unfold actionStep
  rw [chargeCodeDepositStorage_return, afterFrameRunInstructions_return, ← hr₂]
  simp only [afterFrameRun_deposit]

end Action

end MegaEvm
