import MegaEvm.GasConservation

/-!
# Which output counts as code

A create frame that returns records the length of its output as data size, and
is checked, before it is known whether the output is deployed. What a frame
returns that deploys nothing, its revert data above all, enters the check too.
-/

set_option autoImplicit false

namespace MegaEvm

open AdditionalLimit

section Output

variable {env : Env} {f : Frame} {l : AdditionalLimit} {r : InterpreterResult}

/-- The output is code that the create stores, if the limits permit it. -/
def deploysOutput (env : Env) (r : InterpreterResult) : Bool :=
  (returnCreate env (storageCharged true r)).2

def checkedReturn (l : AdditionalLimit) (r : InterpreterResult) :
    AdditionalLimit × InterpreterAction :=
  (l.checkLimit, .return (if l.checkLimit.exceeded then
    { r with
      result := l.checkLimit.exceedingInstructionResult
      output := l.checkLimit.hasExceededLimit.revertData }
    else r))

/-- The output of a frame that returns enters the check exactly as code that a
create stores. -/
def CountsStoredCode (env : Env) (f : Frame) (l : AdditionalLimit) (r : InterpreterResult) :
    Prop :=
  l.afterFrameRunInstructions f.isCreate (chargeCodeDepositStorage f.isCreate (.return r)) =
    checkedReturn (if deploysOutput env r
      then l.countOutput true (.return (storageCharged true r)) else l) (storageCharged true r)

theorem storageCharged_output (b : Bool) : (storageCharged b r).output = r.output := by
  unfold storageCharged
  split
  · cases r.gas.recordCost (constants.CODEDEPOSIT_STORAGE_GAS * r.output.length) with
    | some g => rfl
    | none => rfl
  · rfl

theorem returnCreate_output : (returnCreate env r).1.output = r.output := by
  unfold returnCreate
  split
  · rfl
  · split
    · rfl
    · split
      · rfl
      · cases r.gas.recordCost (constants.CODEDEPOSIT * r.output.length) with
        | some g => rfl
        | none => rfl

theorem recordDiscardable_zero {ι : Type} (t : FrameLimitTracker ι) :
    t.recordDiscardable 0 = t := by
  unfold FrameLimitTracker.recordDiscardable FrameLimitTracker.modifyFrame
  cases hs : t.frameStack with
  | nil => rfl
  | cons e rest =>
    simp only [Nat.add_zero]
    rw [← hs]

theorem afterFrameRunInstructions_counted :
    l.afterFrameRunInstructions true (chargeCodeDepositStorage true (.return r)) =
      checkedReturn (l.countOutput true (.return (storageCharged true r)))
        (storageCharged true r) := by
  rw [chargeCodeDepositStorage_return, afterFrameRunInstructions_create, checkedReturn]
  split
  · rfl
  · rfl

theorem countOutput_eq_self {n : ℕ} (ha : l.Aligned (n + 1)) :
    (l.countOutput true (.return r)).dataSize = l.dataSize ↔ r.output = [] := by
  obtain ⟨e, rest, hs⟩ : ∃ e rest, l.dataSize.frameStack = e :: rest := by
    have hheight : l.dataSize.frameStack.length = n + 1 := ha.dataSize
    cases hf : l.dataSize.frameStack with
    | nil => simp [hf] at hheight
    | cons e rest => exact ⟨e, rest, rfl⟩
  have hrecord : (l.countOutput true (.return r)).dataSize = { l.dataSize with
      frameStack := { e with discardableUsage := e.discardableUsage + r.output.length } ::
        rest } := by
    simp [countOutput, DataSizeTracker.afterFrameRun, FrameLimitTracker.recordDiscardable,
      FrameLimitTracker.modifyFrame, hs]
  constructor
  · intro h
    rw [hrecord] at h
    have hstack := congrArg FrameLimitTracker.frameStack h
    rw [hs, List.cons.injEq] at hstack
    have husage := congrArg FrameLimitEntry.discardableUsage hstack.1
    have hzero : r.output.length = 0 := by
      simp only at husage
      omega
    exact List.length_eq_zero_iff.1 hzero
  · intro h
    rw [hrecord, h, List.length_nil, Nat.add_zero, ← hs]

theorem countsStoredCode_iff {n : ℕ} (hc : f.isCreate = true) (ha : l.Aligned (n + 1)) :
    CountsStoredCode env f l r ↔ deploysOutput env r = true ∨ r.output = [] := by
  unfold CountsStoredCode
  rw [hc, afterFrameRunInstructions_counted]
  cases hd : deploysOutput env r with
  | true => simp
  | false =>
    simp only [Bool.false_eq_true, if_false, false_or]
    rw [← storageCharged_output (r := r) true, ← countOutput_eq_self ha]
    constructor
    · intro h
      have hdata := congrArg (fun p => p.1.dataSize) h
      simpa [checkedReturn] using hdata
    · intro h
      have hsame : l.countOutput true (.return (storageCharged true r)) = l := by
        have hl : l.countOutput true (.return (storageCharged true r)) = { l with
            dataSize := (l.countOutput true (.return (storageCharged true r))).dataSize } := rfl
        rw [hl, h]
      rw [hsame]

end Output

section Run

variable {env : Env} {ev : StartEvent} {es : List Event} {s : State} {f : Frame}
  {rest : List Frame} {r : InterpreterResult}

/-- In every run a create frame that returns counts its output as it should
exactly when the output is stored or empty. -/
theorem stored_code_counted_iff (h : Execution env ev es s) (hp : s.phase = .action (.return r))
    (hf : s.frames = f :: rest) (hc : f.isCreate = true) :
    CountsStoredCode env f s.limit r ↔ deploysOutput env r = true ∨ r.output = [] := by
  have hframed := h.sound.framed
  rw [State.Framed, hp, hf] at hframed
  exact countsStoredCode_iff hc hframed.1

/-- A create frame that stores nothing reports its own result exactly when its
output fits into the data size that is left. -/
theorem failed_create_result_kept_iff (hc : f.isCreate = true) (hd : deploysOutput env r = false)
    (hw : s.limit.checkLimit.exceeded = false) :
    (actionStep env s f rest (.return r)).phase =
        .result ⟨⟨true, (returnCreate env (storageCharged true r)).1⟩, f.opened⟩ ↔
      (s.limit.dataSize.recordDiscardable r.output.length).Settled s.limit.rex4 := by
  set r₁ := storageCharged true r with hr₁
  have hout : r₁.output = r.output := storageCharged_output true
  obtain ⟨hwithin, hs⟩ := checkLimit_within_iff.1 (exceeded_eq_false.1 hw)
  have hdata : (s.limit.countOutput true (.return r₁)).dataSize =
      s.limit.dataSize.recordDiscardable r.output.length := by
    rw [← hout]
    rfl
  have hfits : (returnLimit s.limit true r₁).exceeded = false ↔
      (s.limit.dataSize.recordDiscardable r.output.length).Settled s.limit.rex4 := by
    have hcounted : (s.limit.countOutput true (.return r₁)).Settled ↔
        (s.limit.dataSize.recordDiscardable r.output.length).Settled s.limit.rex4 := by
      constructor
      · intro h
        rw [← hdata]
        exact h.dataSize
      · intro h
        exact ⟨hs.stateGrowth, hdata ▸ h, hs.kvUpdate, hs.computeGas⟩
    rw [returnLimit, if_pos rfl, exceeded_eq_false, checkLimit_within_iff, ← hcounted]
    exact and_iff_right hwithin
  obtain ⟨r₂, fr, journal', hr₂, hfr, -, heq⟩ := actionStep_return env s f rest r
  rw [hc, ← hr₁] at hr₂ heq
  rw [heq, ← hfits]
  cases hx : (returnLimit s.limit true r₁).exceeded with
  | false =>
    have hsame : r₂ = r₁ := by
      rw [hr₂, returnResult, hx]
      rfl
    have hresult : fr = ⟨true, (returnCreate env r₁).1⟩ := by
      rw [processReturn, if_pos hc, hsame] at hfr
      cases hcreate : returnCreate env r₁ with
      | mk r₃ stored =>
        have hno : stored = false := by
          have h := hd
          rw [deploysOutput, ← hr₁, hcreate] at h
          exact h
        rw [hcreate, hno] at hfr
        exact (congrArg Prod.fst hfr).symm
    have hgas : (returnCreate env r₁).1.gas.remaining = r₁.gas.remaining := by
      have h := returnCreate_gas env r₁
      have hno : (returnCreate env r₁).2 = false := hd
      simpa [hno] using h
    have hzero : depositGas r₂ fr = 0 := by
      rw [hresult, hsame, depositGas, FrameResult.gas, hgas]
      exact Nat.sub_self _
    have hkept : (depositLimit (returnLimit s.limit true r₁) r₂ fr).exceeded = false := by
      rw [depositLimit, hzero, recordComputeGas_zero, returnLimit, if_pos rfl, checkLimit_idem]
      exact hx
    rw [depositResult, hkept, hresult]
    simp
  | true =>
    have hne : r.output ≠ [] := by
      intro h
      rw [h, List.length_nil, recordDiscardable_zero, hx] at hfits
      exact absurd (hfits.2 hs.dataSize) (by simp)
    have hflag : (depositLimit (returnLimit s.limit true r₁) r₂ fr).exceeded = true := by
      rw [depositLimit, AdditionalLimit.exceeded, recordComputeGas_sticky hx]
      exact hx
    rw [depositResult, if_pos hflag]
    simp only [reduceCtorEq, iff_false]
    intro h
    rw [Phase.result.injEq, Pending.mk.injEq] at h
    have hempty := congrArg (fun r => r.result.output) h.1
    simp only [FrameResult.markAsExceedingLimit, returnCreate_output, hout] at hempty
    exact hne hempty.symm

end Run

section Sample

def sampleRevert (output : Bytes) : OpEvent where
  opcode := .plain
  stack := []
  slot := none
  targetEmpty := none
  storageGas := none
  hostCalled := false
  inner := .halt .revert output 0 []
  opens := nofun
  ends := nofun

/-- A create whose transaction has room for 110 bytes of code. -/
def codeStart : StartEvent :=
  sampleCreateStart { EvmTxRuntimeLimits.rex with txDataSizeLimit := 300 } (by decide)

/-- Two bytes of code are stored. -/
theorem stored_code_counted_deployed : ∃ s f,
    Execution (sampleEnv .rex .create .other 1000000) codeStart
        [.init sampleInit, .tau, .op (sampleReturn [0, 1])] s ∧
      CountsStoredCode (sampleEnv .rex .create .other 1000000) f s.limit
        ⟨.return, [0, 1], ⟨908000, 908000⟩⟩ := by
  have hrun : (execute (sampleEnv .rex .create .other 1000000) codeStart
      [.init sampleInit, .tau, .op (sampleReturn [0, 1])]).map (fun s => (s.phase, s.frames)) =
      some (.action (.return ⟨.return, [0, 1], ⟨908000, 908000⟩⟩),
        [⟨true, 9, ⟨908000, 908000⟩, 0, []⟩]) := by decide
  obtain ⟨s, hs, hf⟩ := exists_execution hrun
  exact ⟨s, _, hs, (stored_code_counted_iff hs (Prod.ext_iff.1 hf).1 (Prod.ext_iff.1 hf).2
    rfl).2 (.inl (by decide))⟩

/-- Init code that reverts with 150 bytes halts the transaction. -/
theorem revert_output_counted : ¬ ∀ env ev es s s' f rest r, Execution env ev es s →
    s.phase = .action (.return r) → s.frames = f :: rest → f.isCreate = true →
    r.result = .revert → s.limit.checkLimit.exceeded = false →
    MegaEvm.step env s .tau = some s' → s'.phase = .result ⟨⟨true, r⟩, f.opened⟩ := by
  intro h
  let env := sampleEnv .rex .create .other 1000000
  let out : Bytes := List.replicate 150 0
  have hrun : (execute env codeStart [.init sampleInit, .tau, .op (sampleRevert out)]).map
      (fun s => (s.phase, s.frames, s.limit.checkLimit.exceeded,
        (MegaEvm.step env s .tau).map (·.phase))) =
      some (.action (.return ⟨.revert, out, ⟨908000, 908000⟩⟩),
        [⟨true, 9, ⟨908000, 908000⟩, 0, []⟩], false,
        some (.result ⟨⟨true, ⟨.outOfGas, [], ⟨908000, 908000⟩⟩⟩, []⟩)) := by decide +kernel
  obtain ⟨s, hs, hf⟩ := exists_execution hrun
  simp only [Prod.mk.injEq, Option.map_eq_some_iff] at hf
  obtain ⟨hp, hframes, hw, s', hstep, hphase⟩ := hf
  have hkept := h env codeStart _ s s' _ [] _ hs hp hframes rfl rfl hw hstep
  rw [hphase] at hkept
  cases hkept

end Sample

end MegaEvm
