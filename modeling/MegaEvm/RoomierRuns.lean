import MegaEvm.FrameBudget
import MegaEvm.RemainingGas
import MegaEvm.RoomierLimits
import MegaEvm.InstructionHooks

/-!
# Runs under larger limits

Two runs of one transaction that meet the same events, the second under limits at least as
large. As long as the first exceeds nothing and no call asks how much compute gas is left,
each step of it is a step of the second, and the two differ in their limits only.
-/

set_option autoImplicit false

namespace MegaEvm

namespace VolatileDataAccessTracker

variable {t t' : VolatileDataAccessTracker}

structure Roomier (t t' : VolatileDataAccessTracker) : Prop where
  accessed : t'.accessed = t.accessed
  disableDepth : t'.disableDepth = t.disableDepth
  computeGasLimit : Option.Rel (· ≤ ·) t.computeGasLimit t'.computeGasLimit
  blockEnvAccessLimit : t.blockEnvAccessLimit ≤ t'.blockEnvAccessLimit
  oracleAccessLimit : t.oracleAccessLimit ≤ t'.oracleAccessLimit

namespace Roomier

theorem mark (h : t.Roomier t') (ty : VolatileDataAccessType) {cap cap' : ℕ}
    (hcap : cap ≤ cap') :
    ((t.insert ty).applyOrCreateLimit cap).Roomier ((t'.insert ty).applyOrCreateLimit cap') := by
  refine { h with accessed := ?_, computeGasLimit := ?_ }
  · simp only [applyOrCreateLimit, insert, h.accessed]
  · have hlimit := h.computeGasLimit
    simp only [applyOrCreateLimit, insert]
    generalize t.computeGasLimit = limit at hlimit ⊢
    generalize t'.computeGasLimit = limit' at hlimit ⊢
    cases hlimit with
    | none => exact .some hcap
    | some hle => exact .some (min_le_min hle hcap)

theorem markBlockEnvAccessed (h : t.Roomier t') (ty : VolatileDataAccessType) :
    (t.markBlockEnvAccessed ty).Roomier (t'.markBlockEnvAccessed ty) :=
  h.mark ty h.blockEnvAccessLimit

theorem markBeneficiaryBalanceAccessed (h : t.Roomier t') :
    t.markBeneficiaryBalanceAccessed.Roomier t'.markBeneficiaryBalanceAccessed :=
  h.mark .beneficiary h.blockEnvAccessLimit

theorem checkAndMarkOracleAccess (h : t.Roomier t') (address : Address) :
    (t.checkAndMarkOracleAccess address).Roomier (t'.checkAndMarkOracleAccess address) := by
  unfold VolatileDataAccessTracker.checkAndMarkOracleAccess
  split
  · exact h.mark .oracle h.oracleAccessLimit
  · exact h

theorem disableAccess (h : t.Roomier t') (depth : ℕ) :
    (t.disableAccess depth).Roomier (t'.disableAccess depth) := by
  unfold VolatileDataAccessTracker.disableAccess
  rw [h.disableDepth]
  repeat' split
  · exact h
  · exact { h with disableDepth := rfl }
  · exact { h with disableDepth := rfl }

theorem volatileAccessDisabled_eq (h : t.Roomier t') (depth : ℕ) :
    t'.volatileAccessDisabled depth = t.volatileAccessDisabled depth := by
  rw [volatileAccessDisabled, volatileAccessDisabled, h.disableDepth]

theorem enableAccess (h : t.Roomier t') (depth : ℕ) :
    (t.enableAccess depth).1.Roomier (t'.enableAccess depth).1 ∧
      (t'.enableAccess depth).2 = (t.enableAccess depth).2 := by
  unfold VolatileDataAccessTracker.enableAccess
  rw [h.disableDepth]
  repeat' split
  · exact ⟨h, rfl⟩
  · exact ⟨{ h with disableDepth := rfl }, rfl⟩
  · exact ⟨h, rfl⟩

theorem enableAccessIfReturning (h : t.Roomier t') (depth : ℕ) :
    (t.enableAccessIfReturning depth).Roomier (t'.enableAccessIfReturning depth) := by
  unfold VolatileDataAccessTracker.enableAccessIfReturning
  rw [h.disableDepth]
  repeat' split
  · exact { h with disableDepth := rfl }
  · exact h
  · exact h

end Roomier

end VolatileDataAccessTracker

/-- A cap that both accesses left is applied to both, and to the roomier one a larger cap. -/
theorem AdditionalLimit.Roomier.detain {l l' : AdditionalLimit} (h : l.Roomier l')
    {t t' : VolatileDataAccessTracker} (ht : t.Roomier t') :
    Roomier
      (match t.computeGasLimit with
        | some limit => l.setComputeGasLimit limit
        | none => l)
      (match t'.computeGasLimit with
        | some limit => l'.setComputeGasLimit limit
        | none => l') := by
  have hcap := ht.computeGasLimit
  generalize t.computeGasLimit = cap at hcap ⊢
  generalize t'.computeGasLimit = cap' at hcap ⊢
  cases hcap with
  | none => exact h
  | some hle => exact h.setComputeGasLimit hle

/-! ## Instructions -/

namespace Ctx

variable {env : Env} {ev : OpEvent} {c c' : Ctx}

structure Roomier (c c' : Ctx) : Prop where
  same : c' = { c with limit := c'.limit, volatile := c'.volatile }
  limit : c.limit.Roomier c'.limit
  volatile : c.volatile.Roomier c'.volatile

/-- Unless the first exceeds a limit, the two are the same under larger limits. -/
def Matches (c c' : Ctx) : Prop := c.limit.exceeded = false → c.Roomier c'

namespace Roomier

theorem gas_eq (h : c.Roomier c') : c'.gas = c.gas := by
  rw [h.same]

theorem action_eq (h : c.Roomier c') : c'.action = c.action := by
  rw [h.same]

theorem isError_eq (h : c.Roomier c') : c'.isError = c.isError := by
  rw [isError, isError, instructionResult, instructionResult, h.action_eq]

theorem disabled_eq (h : c.Roomier c') :
    VolatileDataExt.disabled c' = VolatileDataExt.disabled c := by
  have hdepth : c'.depth = c.depth := by rw [h.same]
  rw [VolatileDataExt.disabled, VolatileDataExt.disabled, hdepth,
    h.volatile.volatileAccessDisabled_eq]

theorem setAction (h : c.Roomier c') (a : Option InterpreterAction) :
    Roomier { c with action := a } { c' with action := a } := by
  refine ⟨?_, h.limit, h.volatile⟩
  rw [h.same]

theorem setGas (h : c.Roomier c') (g : Gas) :
    Roomier { c with gas := g } { c' with gas := g } := by
  refine ⟨?_, h.limit, h.volatile⟩
  rw [h.same]

theorem haltWith (h : c.Roomier c') (r : InstructionResult) (output : Bytes) :
    (c.haltWith r output).Roomier (c'.haltWith r output) := by
  refine ⟨?_, h.limit, h.volatile⟩
  rw [h.same]
  rfl

theorem halt (h : c.Roomier c') (r : InstructionResult) : (c.halt r).Roomier (c'.halt r) :=
  h.haltWith r []

theorem toMatches (h : c.Roomier c') : Matches c c' := fun _ => h

theorem touchHost (h : c.Roomier c') : (touchHost env ev c).Roomier (touchHost env ev c') := by
  have htarget : c'.target = c.target := by rw [h.same]
  have hbeneficiary (word : Option ℕ) :
      (markBeneficiary env word c.volatile).Roomier (markBeneficiary env word c'.volatile) := by
    unfold markBeneficiary
    repeat' split
    · exact h.volatile.markBeneficiaryBalanceAccessed
    · exact h.volatile
    · exact h.volatile
  have hmarked : (markHost env ev c.target c.volatile).Roomier
      (markHost env ev c.target c'.volatile) := by
    unfold markHost
    repeat' split
    all_goals first
      | exact h.volatile
      | exact hbeneficiary _
      | exact h.volatile.markBlockEnvAccessed _
      | exact h.volatile.checkAndMarkOracleAccess _
  unfold MegaEvm.touchHost
  rw [htarget]
  refine ⟨?_, h.limit, ?_⟩
  · rw [h.same]
  · split
    · exact hmarked
    · exact h.volatile

theorem chargeInner (h : c.Roomier c') (cost : ℕ) (writes : List JournalEntry)
    {rest : Ctx → Ctx} (hrest : ∀ d d', d.Roomier d' → (rest d).Roomier (rest d')) :
    (chargeInner cost writes rest c).Roomier (chargeInner cost writes rest c') := by
  have hjournal : c'.journal = c.journal := by rw [h.same]
  unfold MegaEvm.chargeInner
  rw [h.gas_eq]
  cases c.gas.recordCost cost with
  | none => exact h.halt _
  | some g =>
    apply hrest
    refine ⟨?_, h.limit, h.volatile⟩
    rw [hjournal, h.same]

theorem runInner (h : c.Roomier c') : (runInner env ev c).Roomier (runInner env ev c') := by
  have htouched : (MegaEvm.touchHost env ev c).Roomier (MegaEvm.touchHost env ev c') :=
    h.touchHost
  unfold MegaEvm.runInner
  cases ev.inner with
  | next cost writes => exact htouched.chargeInner cost writes fun _ _ hd => hd
  | halt r output cost writes =>
    exact htouched.chargeInner cost writes fun _ _ hd => hd.haltWith r output
  | newFrame cost forwarded input writes =>
    exact htouched.chargeInner _ writes fun _ _ hd => hd.setAction _

theorem runInnerOrAbort {inner inner' rest rest' : Ctx → Ctx}
    (hi : Matches (inner c) (inner' c'))
    (hsticky : ∀ d, (rest d).limit.exceeded = false → d.limit.exceeded = false)
    (hrest : ∀ d d', d.Roomier d' → Matches (rest d) (rest' d')) :
    Matches (runInnerOrAbort inner rest c) (runInnerOrAbort inner' rest' c') := by
  unfold MegaEvm.runInnerOrAbort
  cases herr : (inner c).isError with
  | true =>
    intro hx
    simp only [if_true] at hx ⊢
    have hinner := hi hx
    simpa only [hinner.isError_eq, herr, if_true] using hinner
  | false =>
    intro hx
    simp only [Bool.false_eq_true, if_false] at hx ⊢
    have hinner := hi (hsticky _ hx)
    simpa only [hinner.isError_eq, herr, Bool.false_eq_true, if_false] using
      hrest _ _ hinner hx

theorem computeGas (h : c.Roomier c') (g : ℕ) :
    Matches (computeGas g c) (computeGas g c') := by
  intro hx
  unfold MegaEvm.computeGas at hx ⊢
  simp only at hx ⊢
  have hrecorded : (c.limit.recordComputeGas g).exceeded = false := by
    split at hx <;> exact hx
  have hlimit := h.limit.recordComputeGas g hrecorded
  rw [hrecorded, hlimit.exceeded]
  refine ⟨?_, hlimit, h.volatile⟩
  rw [h.same]
  rfl

theorem exceeded_of_computeGas {g : ℕ} (hx : (MegaEvm.computeGas g c).limit.exceeded = false) :
    c.limit.exceeded = false := by
  unfold MegaEvm.computeGas at hx
  simp only at hx
  apply AdditionalLimit.exceeded_of_recordComputeGas (g := g)
  split at hx <;> exact hx

theorem wrap (h : c.Roomier c') :
    Matches (ComputeGasExt.wrap env ev c) (ComputeGasExt.wrap env ev c') := by
  unfold ComputeGasExt.wrap
  rw [h.gas_eq]
  apply runInnerOrAbort h.runInner.toMatches
  · exact fun d hd => exceeded_of_computeGas hd
  · intro d d' hd
    have hused : computeGasUsed c.gas.remaining d' = computeGasUsed c.gas.remaining d := by
      rw [computeGasUsed, computeGasUsed, hd.action_eq, hd.gas_eq]
    simp only [hused]
    exact hd.computeGas _

theorem chargeThen (h : c.Roomier c') (cost : ℕ) :
    Matches (chargeThen cost (ComputeGasExt.wrap env ev) c)
      (chargeThen cost (ComputeGasExt.wrap env ev) c') := by
  unfold MegaEvm.chargeThen
  rw [h.gas_eq]
  cases c.gas.recordCost cost with
  | none => exact (h.halt _).toMatches
  | some g => exact (h.setGas g).wrap

theorem storageCall (h : c.Roomier c') (b : Bool) :
    Matches (StorageGasExt.call env ev b c) (StorageGasExt.call env ev b c') := by
  unfold StorageGasExt.call
  repeat' split
  all_goals first | exact (h.halt _).toMatches | exact h.chargeThen _ | exact h.wrap

theorem storageCreate (h : c.Roomier c') (b : Bool) :
    Matches (StorageGasExt.create env ev b c) (StorageGasExt.create env ev b c') := by
  unfold StorageGasExt.create
  simp only
  repeat' split
  all_goals first | exact (h.halt _).toMatches | exact h.chargeThen _

theorem storageLog (h : c.Roomier c') (n : ℕ) :
    Matches (StorageGasExt.log env ev n c) (StorageGasExt.log env ev n c') := by
  unfold StorageGasExt.log
  repeat' split
  all_goals first | exact (h.halt _).toMatches | exact h.chargeThen _

theorem storageSstore (h : c.Roomier c') :
    Matches (StorageGasExt.sstore env ev c) (StorageGasExt.sstore env ev c') := by
  unfold StorageGasExt.sstore
  repeat' split
  all_goals first | exact (h.halt _).toMatches | exact h.chargeThen _ | exact h.wrap

theorem enforce {l l' : AdditionalLimit} (h : c.Roomier c')
    (hl : l.exceeded = false → l.Roomier l') :
    Matches (AdditionalLimitExt.enforce { c with limit := l })
      (AdditionalLimitExt.enforce { c' with limit := l' }) := by
  intro hx
  unfold AdditionalLimitExt.enforce at hx ⊢
  have hunflagged : l.exceeded = false := by
    split at hx <;> exact hx
  have hlimit := hl hunflagged
  simp only [hunflagged, hlimit.exceeded, Bool.false_eq_true, if_false]
  refine ⟨?_, hlimit, h.volatile⟩
  rw [h.same]

theorem exceeded_of_enforce {l : AdditionalLimit}
    (hx : (AdditionalLimitExt.enforce { c with limit := l }).limit.exceeded = false) :
    l.exceeded = false := by
  unfold AdditionalLimitExt.enforce at hx
  split at hx <;> exact hx

theorem limitSstore (h : c.Roomier c') :
    Matches (AdditionalLimitExt.sstore env ev c) (AdditionalLimitExt.sstore env ev c') := by
  unfold AdditionalLimitExt.sstore
  split
  · exact (h.halt _).toMatches
  · exact (h.halt _).toMatches
  · exact (h.halt _).toMatches
  · apply runInnerOrAbort h.storageSstore
    · exact fun d hd => AdditionalLimit.exceeded_of_onSstore (exceeded_of_enforce hd)
    · exact fun d d' hd => hd.enforce fun hx => hd.limit.onSstore _ hx

theorem limitLog (h : c.Roomier c') (n : ℕ) :
    Matches (AdditionalLimitExt.log env ev n c) (AdditionalLimitExt.log env ev n c') := by
  unfold AdditionalLimitExt.log
  split
  · exact (h.halt _).toMatches
  · split
    · exact (h.halt _).toMatches
    · apply runInnerOrAbort (h.storageLog n)
      · exact fun d hd => AdditionalLimit.exceeded_of_onLog (exceeded_of_enforce hd)
      · exact fun d d' hd => hd.enforce fun hx => hd.limit.onLog _ _ hx

theorem cap (h : c.Roomier c') (stipend : ℕ) :
    (ForwardGasExt.cap stipend c).Roomier (ForwardGasExt.cap stipend c') := by
  unfold ForwardGasExt.cap
  rw [h.action_eq]
  split
  · refine ⟨?_, h.limit, h.volatile⟩
    rw [h.same]
  · exact h

theorem cap_limit (stipend : ℕ) (d : Ctx) : (ForwardGasExt.cap stipend d).limit = d.limit := by
  unfold ForwardGasExt.cap
  split <;> rfl

theorem forward {inner inner' : Ctx → Ctx} (hi : Matches (inner c) (inner' c')) :
    Matches (ForwardGasExt.wrap ev inner c) (ForwardGasExt.wrap ev inner' c') := by
  apply runInnerOrAbort hi
  · exact fun d hd => by rwa [cap_limit] at hd
  · exact fun d d' hd => (hd.cap _).toMatches

theorem applyComputeGasLimit (h : c.Roomier c') :
    (VolatileDataExt.applyComputeGasLimit c).Roomier
      (VolatileDataExt.applyComputeGasLimit c') := by
  have hsame : ∀ d : Ctx, VolatileDataExt.applyComputeGasLimit d =
      { d with limit := match d.volatile.computeGasLimit with
          | some limit => d.limit.setComputeGasLimit limit
          | none => d.limit } := by
    intro d
    unfold VolatileDataExt.applyComputeGasLimit
    cases d.volatile.computeGasLimit <;> rfl
  rw [hsame, hsame]
  refine ⟨?_, h.limit.detain h.volatile, h.volatile⟩
  rw [h.same]

theorem detained (h : c.Roomier c') :
    Matches (MegaEvm.runInnerOrAbort (ComputeGasExt.wrap env ev)
        VolatileDataExt.applyComputeGasLimit c)
      (MegaEvm.runInnerOrAbort (ComputeGasExt.wrap env ev)
        VolatileDataExt.applyComputeGasLimit c') := by
  apply runInnerOrAbort h.wrap
  · intro d hd
    unfold VolatileDataExt.applyComputeGasLimit at hd
    split at hd <;> exact hd
  · exact fun d d' hd => hd.applyComputeGasLimit.toMatches

theorem callCheck (h : c.Roomier c') {inner inner' : Ctx → Ctx}
    (hi : Matches (inner c) (inner' c')) :
    Matches (VolatileDataExt.callCheck env ev inner c)
      (VolatileDataExt.callCheck env ev inner' c') := by
  unfold VolatileDataExt.callCheck
  rw [h.disabled_eq]
  split
  · exact (h.haltWith _ _).toMatches
  · exact hi

theorem callLike (h : c.Roomier c') (b : Bool) :
    Matches (callLike env ev b c) (callLike env ev b c') := by
  have hforward : Matches (ForwardGasExt.wrap ev (StorageGasExt.call env ev b) c)
      (ForwardGasExt.wrap ev (StorageGasExt.call env ev b) c') := forward (h.storageCall b)
  unfold MegaEvm.callLike
  simp only
  repeat' split
  · exact h.callCheck hforward
  · exact hforward
  · exact h.wrap

theorem instruction (h : c.Roomier c') :
    Matches (instruction env ev c) (instruction env ev c') := by
  unfold MegaEvm.instruction
  cases ev.opcode with
  | plain | selfbalance => exact h.wrap
  | blockEnv ty =>
    simp only [VolatileDataExt.unconditional, h.disabled_eq]
    split
    · exact (h.haltWith _ _).toMatches
    · exact h.detained
  | account =>
    simp only [VolatileDataExt.conditional, h.disabled_eq]
    split
    · exact (h.haltWith _ _).toMatches
    · exact h.detained
  | sload =>
    have htarget : c'.target = c.target := by rw [h.same]
    simp only [VolatileDataExt.sload, h.disabled_eq, htarget]
    repeat' split
    · exact (h.haltWith _ _).toMatches
    · exact h.detained
    · exact h.wrap
  | sstore => exact h.limitSstore
  | log n => exact h.limitLog n
  | create => exact forward (h.storageCreate false)
  | create2 => exact forward (h.storageCreate true)
  | call =>
    simp only
    split
    · exact h.callCheck (forward (h.storageCall true))
    · exact forward (h.storageCall true)
  | callCode => exact h.callLike true
  | delegateCall | staticCall => exact h.callLike false
  | selfdestruct =>
    simp only [VolatileDataExt.conditional, h.disabled_eq]
    repeat' split
    · exact (h.haltWith _ _).toMatches
    · exact h.detained
    · exact h.wrap
    · exact (h.halt _).toMatches
  | unknown => exact (h.halt _).toMatches

end Roomier

end Ctx

/-! ## Frames -/

namespace State

variable {env : Env} {s s' : State}

structure Roomier (s s' : State) : Prop where
  same : s' = { s with limit := s'.limit, volatile := s'.volatile }
  limit : s.limit.Roomier s'.limit
  volatile : s.volatile.Roomier s'.volatile

/-- What the first does without exceeding a limit, the second does as well. -/
def Follows (o o' : Option State) : Prop :=
  ∀ m, o = some m → m.limit.exceeded = false → ∃ m', o' = some m' ∧ m.Roomier m'

namespace Roomier

theorem phase_eq (h : s.Roomier s') : s'.phase = s.phase := by
  rw [h.same]

theorem frames_eq (h : s.Roomier s') : s'.frames = s.frames := by
  rw [h.same]

theorem journal_eq (h : s.Roomier s') : s'.journal = s.journal := by
  rw [h.same]

theorem depth_eq (h : s.Roomier s') : s'.depth = s.depth := by
  rw [depth, depth, h.frames_eq]

theorem setLimit (h : s.Roomier s') {l l' : AdditionalLimit} (hl : l.Roomier l') :
    Roomier { s with limit := l } { s' with limit := l' } := by
  refine ⟨?_, hl, h.volatile⟩
  rw [h.same]

theorem setVolatile (h : s.Roomier s') {v v' : VolatileDataAccessTracker}
    (hv : v.Roomier v') : Roomier { s with volatile := v } { s' with volatile := v' } := by
  refine ⟨?_, h.limit, hv⟩
  rw [h.same]

theorem setPhase (h : s.Roomier s') (phase : Phase) :
    Roomier { s with phase := phase } { s' with phase := phase } := by
  refine ⟨?_, h.limit, h.volatile⟩
  rw [h.same]

theorem answer (h : s.Roomier s') (p : Pending) : (s.answer p).Roomier (s'.answer p) := by
  unfold State.answer
  refine ⟨?_, h.limit, h.volatile⟩
  rw [h.same]

theorem follows (h : s.Roomier s') : Follows (some s) (some s') := by
  rintro m hm -
  obtain rfl := Option.some.inj hm
  exact ⟨s', rfl, h⟩

theorem answerInner (h : s.Roomier s') (r : FrameResult) (opened : List JournalEntry) :
    Follows (some (s.answerInner r opened)) (some (s'.answerInner r opened)) := by
  rintro m hm hx
  obtain rfl := Option.some.inj hm
  have hlimit := h.limit.tryRescueGas r.gas hx
  exact ⟨_, rfl, (h.setLimit hlimit).answer ⟨r, opened⟩⟩

theorem detected (h : s.Roomier s') (input : FrameInput) :
    (detected env s input).Roomier (detected env s' input) := by
  cases input with
  | create i => exact h
  | call i =>
    have hmarked := h.volatile.checkAndMarkOracleAccess i.targetAddress
    change (detectOracle env s i).Roomier (detectOracle env s' i)
    unfold detectOracle
    extract_lets detect volatile volatile'
    by_cases hcond : (!env.spec.isEnabled .rex3 && detect && i.caller != MEGA_SYSTEM_ADDRESS &&
        i.targetAddress == ORACLE_CONTRACT_ADDRESS) = true
    · rw [if_pos hcond, if_pos hcond]
      exact (h.setVolatile hmarked).setLimit (h.limit.detain hmarked)
    · rw [if_neg hcond, if_neg hcond]
      exact h

end Roomier

/-- The second interception answers as the first does, unless that exceeds a limit. -/
def Agrees (x x' : Intercepted) : Prop :=
  (x = .no → x' = .no) ∧
  ∀ m r, x = .answered m r → m.limit.exceeded = false →
    ∃ m', x' = .answered m' r ∧ m.Roomier m'

theorem agrees_no : Agrees .no .no := by
  refine ⟨fun _ => rfl, ?_⟩
  intro m r hm
  cases hm

theorem agrees_panicked {x : Intercepted} : Agrees .panicked x := by
  constructor
  · intro hm
    cases hm
  · intro m r hm
    cases hm

theorem agrees_answered (h : s.Roomier s') (r : FrameResult) :
    Agrees (.answered s r) (.answered s' r) := by
  constructor
  · intro hm
    cases hm
  · rintro m r hm -
    cases hm
    exact ⟨s', rfl, h⟩

theorem agrees_exceeded {x : Intercepted} (hx : s.limit.exceeded = true) (r : FrameResult) :
    Agrees (.answered s r) x := by
  constructor
  · intro hm
    cases hm
  · rintro m r hm hf
    cases hm
    rw [hx] at hf
    cases hf

def keylessAnswer (env : Env) (i : CallInputs) (outcome : KeylessOutcome) (gas : Gas)
    (s : State) : Intercepted :=
  if i.value.get != 0 then .answered s (callResult .revert NO_ETHER_TRANSFER_REVERT_DATA gas)
  else match outcome with
    | .rejected output => .answered s (callResult .revert output gas)
    | .completed output signer signerNonce =>
      .answered { s with
          journal := .sandboxMerged :: s.journal
          senderNonce := if signer = env.tx.caller then signerNonce else s.senderNonce }
        (callResult .return output gas)

theorem Roomier.agrees_keyless (h : s.Roomier s') (i : CallInputs) (outcome : KeylessOutcome) :
    Agrees (executeKeylessDeployCall env s i outcome)
      (executeKeylessDeployCall env s' i outcome) := by
  unfold executeKeylessDeployCall
  simp only
  cases (Gas.new i.gasLimit).recordCost constants.KEYLESS_DEPLOY_OVERHEAD_GAS with
  | none => exact agrees_answered h _
  | some gas =>
    -- what follows once the overhead is recorded within the limits
    have hrest : ∀ {m m' : State}, m.Roomier m' →
        Agrees (keylessAnswer env i outcome gas m) (keylessAnswer env i outcome gas m') := by
      intro m m' hm
      unfold keylessAnswer
      split
      · exact agrees_answered hm _
      · cases outcome with
        | rejected output => exact agrees_answered hm _
        | completed output signer signerNonce =>
          apply agrees_answered
          refine ⟨?_, hm.limit, hm.volatile⟩
          rw [hm.same]
    cases h3 : env.spec.isEnabled .rex3 with
    | false =>
      simp only [Bool.false_and, Bool.false_eq_true, if_false]
      exact hrest h
    | true =>
      simp only [if_true, Bool.true_and]
      cases hx : (s.limit.recordComputeGas constants.KEYLESS_DEPLOY_OVERHEAD_GAS).exceeded with
      | false =>
        have hl := h.limit.recordComputeGas _ hx
        simp only [hl.exceeded, Bool.false_eq_true, if_false]
        exact hrest (h.setLimit hl)
      | true =>
        simp only [if_true]
        split
        · exact agrees_panicked
        · exact agrees_exceeded hx _
        · exact agrees_exceeded hx _

theorem Roomier.agrees_accessControl (h : s.Roomier s') (i : CallInputs) :
    Agrees (accessControlIntercept s i) (accessControlIntercept s' i) := by
  unfold accessControlIntercept
  rw [h.depth_eq, h.volatile.volatileAccessDisabled_eq]
  obtain ⟨henabled, hsuccess⟩ := h.volatile.enableAccess s.depth
  cases i.input with
  | disableVolatileDataAccess =>
    cases rejectNonZeroTransfer i with
    | some r => exact agrees_answered h r
    | none => exact agrees_answered (h.setVolatile (h.volatile.disableAccess _)) _
  | enableVolatileDataAccess =>
    cases rejectNonZeroTransfer i with
    | some r => exact agrees_answered h r
    | none =>
      simp only [hsuccess]
      exact agrees_answered (h.setVolatile henabled) _
  | isVolatileDataAccessDisabled =>
    cases rejectNonZeroTransfer i with
    | some r => exact agrees_answered h r
    | none => exact agrees_answered h _
  | _ => exact agrees_no

theorem Roomier.agrees_dispatch (h : s.Roomier s') {i : CallInputs}
    (hq : env.spec.isEnabled .rex4 = true → asksRemaining i = false) (outcome : KeylessOutcome) :
    Agrees (dispatchSystemContractInterceptors env s i outcome)
      (dispatchSystemContractInterceptors env s' i outcome) := by
  have hkeyless : isKeylessCall env s' i = isKeylessCall env s i := by
    rw [isKeylessCall, isKeylessCall, h.depth_eq]
  unfold dispatchSystemContractInterceptors
  rw [hkeyless]
  repeat' split
  · exact h.agrees_keyless i outcome
  · exact h.agrees_accessControl i
  · next hlimit =>
    rw [Bool.and_eq_true] at hlimit
    have hasked := hq hlimit.1
    unfold limitControlIntercept
    cases hi : i.input with
    | remainingComputeGas =>
      cases hr : rejectNonZeroTransfer i with
      | some r => exact agrees_answered h r
      | none =>
        -- the one answer that depends on the limits
        rw [asksRemaining, hlimit.2, hi, hr] at hasked
        cases hasked
    | _ => exact agrees_no
  · exact agrees_no

theorem Roomier.makeCallFrame (h : s.Roomier s') (i : CallInputs) (ev : InitEvent) :
    Follows (makeCallFrame s i ev) (makeCallFrame s' i ev) := by
  have hjournal := h.journal_eq
  unfold MegaEvm.makeCallFrame
  rw [h.depth_eq, hjournal]
  split
  · exact h.answerInner _ _
  · simp only
    cases ev.call with
    | transferFailed err =>
      apply answerInner
      refine ⟨?_, h.limit, h.volatile⟩
      rw [h.same]
    | precompile outcome =>
      simp only
      cases precompileResult i.gasLimit outcome with
      | none =>
        intro m hm
        cases hm
      | some r =>
        intro m hm hx
        obtain rfl := Option.some.inj hm
        have hrecorded : (s.limit.recordComputeGas r.gas.spent).exceeded = false := by
          apply AdditionalLimit.exceeded_of_checkLimit
          rw [← AdditionalLimit.exceeded_tryRescueGas (g := r.gas)]
          exact hx
        refine answerInner ?_ r (ev.before ++ s.journal) _ rfl hx
        refine ⟨?_, h.limit.recordComputeGas _ hrecorded, h.volatile⟩
        rw [h.same]
    | emptyCode =>
      apply answerInner
      refine ⟨?_, h.limit, h.volatile⟩
      rw [h.same]
    | enter =>
      apply follows
      refine ⟨?_, h.limit.afterFrameInitItem none, h.volatile⟩
      rw [h.same]

theorem follows_none {o : Option State} : Follows none o := by
  intro m hm
  cases hm

theorem Roomier.bumpNonce (h : s.Roomier s') : s.bumpNonce.Roomier s'.bumpNonce := by
  refine ⟨?_, h.limit, h.volatile⟩
  unfold State.bumpNonce
  rw [h.same]

theorem Roomier.setJournal (h : s.Roomier s') (journal : List JournalEntry) :
    Roomier { s with journal := journal } { s' with journal := journal } := by
  refine ⟨?_, h.limit, h.volatile⟩
  rw [h.same]

theorem Roomier.makeCreateFrame (h : s.Roomier s') (i : CreateInputs) (ev : InitEvent) :
    Follows (makeCreateFrame env s i ev) (makeCreateFrame env s' i ev) := by
  have hfunds : createFundsValidated env s' = createFundsValidated env s := by
    rw [createFundsValidated, createFundsValidated, h.frames_eq]
  unfold MegaEvm.makeCreateFrame
  simp only
  rw [h.depth_eq, hfunds, h.journal_eq]
  split
  · exact h.answerInner _ _
  · cases ev.create with
    | outOfFunds | nonceOverflow =>
      simp only
      split
      · exact follows_none
      · exact h.answerInner _ _
    | checkpointFailed err => exact (h.bumpNonce.setJournal _).answerInner _ _
    | enter created =>
      apply Roomier.follows
      refine ⟨?_, h.limit.afterFrameInitItem (some created), h.volatile⟩
      unfold State.bumpNonce
      rw [h.same]

def intercept (env : Env) (s : State) (keyless : KeylessOutcome) : FrameInput → Intercepted
  | .call i => dispatchSystemContractInterceptors env s i keyless
  | .create _ => .no

def startFrame (env : Env) (s : State) (input : FrameInput) (ev : InitEvent) : Option State :=
  match s.limit.beforeFrameInit input ev.targetEmpty with
  | (limit, some r) => some ({ s with limit := limit }.answer ⟨r, s.journal⟩)
  | (limit, none) =>
    match input with
    | .call i => MegaEvm.makeCallFrame { s with limit := limit } i ev
    | .create i => MegaEvm.makeCreateFrame env { s with limit := limit } i ev

theorem frameInit_eq (env : Env) (s : State) (input : FrameInput) (ev : InitEvent) :
    frameInit env s input ev =
      match intercept env (detected env s input) ev.keyless input with
      | .panicked => none
      | .answered m r => some ({ m with limit := m.limit.pushEmptyFrame }.answer
          ⟨r, (detected env s input).journal⟩)
      | .no => startFrame env (detected env s input) input ev := by
  cases input <;> rfl

theorem Roomier.startFrame (h : s.Roomier s') (input : FrameInput) (ev : InitEvent) :
    Follows (startFrame env s input ev) (startFrame env s' input ev) := by
  unfold State.startFrame AdditionalLimit.beforeFrameInit
  simp only
  cases hx : (s.limit.openFrame input ev.targetEmpty).exceeded with
  | true =>
    simp only [if_true]
    rintro m hm hf
    obtain rfl := Option.some.inj hm
    have hsticky := AdditionalLimit.exceeded_of_checkLimit
      ((AdditionalLimit.exceeded_tryRescueGas).symm.trans hf)
    rw [hx] at hsticky
    cases hsticky
  | false =>
    have hopened := h.limit.openFrame input ev.targetEmpty hx
    simp only [hopened.exceeded, Bool.false_eq_true, if_false]
    cases input with
    | call i => exact (h.setLimit hopened).makeCallFrame i ev
    | create i => exact (h.setLimit hopened).makeCreateFrame i ev

theorem Roomier.agrees_intercept (h : s.Roomier s') {input : FrameInput}
    (hq : ∀ i, input = .call i → env.spec.isEnabled .rex4 = true → asksRemaining i = false)
    (keyless : KeylessOutcome) :
    Agrees (intercept env s keyless input) (intercept env s' keyless input) := by
  cases input with
  | call i => exact h.agrees_dispatch (hq i rfl) keyless
  | create i => exact agrees_no

theorem Roomier.frameInit (h : s.Roomier s') {input : FrameInput}
    (hq : ∀ i, input = .call i → env.spec.isEnabled .rex4 = true → asksRemaining i = false)
    (ev : InitEvent) :
    Follows (frameInit env s input ev) (frameInit env s' input ev) := by
  have hdetected : (MegaEvm.detected env s input).Roomier (MegaEvm.detected env s' input) :=
    h.detected input
  have hagrees := hdetected.agrees_intercept hq ev.keyless
  rw [frameInit_eq, frameInit_eq]
  generalize intercept env (MegaEvm.detected env s input) ev.keyless input = x at hagrees ⊢
  cases x with
  | panicked => exact follows_none
  | no =>
    rw [hagrees.1 rfl]
    exact hdetected.startFrame input ev
  | answered m r =>
    rintro n hn hx
    obtain rfl := Option.some.inj hn
    obtain ⟨m', hm', hroomier⟩ := hagrees.2 m r rfl hx
    rw [hm', hdetected.journal_eq]
    exact ⟨_, rfl, (hroomier.setLimit hroomier.limit.pushEmptyFrame).answer _⟩

theorem Roomier.frameRun (h : s.Roomier s') (f : Frame) :
    Follows (some (frameRun s f)) (some (frameRun s' f)) := by
  unfold MegaEvm.frameRun AdditionalLimit.beforeFrameRun
  simp only
  cases hx : s.limit.checkLimit.exceeded with
  | true =>
    rintro m hm hf
    obtain rfl := Option.some.inj hm
    simp only [if_true] at hf
    rw [hx] at hf
    cases hf
  | false =>
    have hchecked := h.limit.checkLimit hx
    simp only [hchecked.exceeded, Bool.false_eq_true, if_false]
    exact ((h.setLimit hchecked).setPhase _).follows

theorem Roomier.interpStep (h : s.Roomier s') (f : Frame) (rest : List Frame) (ev : OpEvent) :
    Follows (some (interpStep env s f rest ev)) (some (interpStep env s' f rest ev)) := by
  have hctx : (s.ctx f).Roomier (s'.ctx f) := by
    refine ⟨?_, h.limit, h.volatile⟩
    rw [State.ctx, State.ctx, h.depth_eq, h.journal_eq]
  rintro m hm hx
  obtain rfl := Option.some.inj hm
  have hinstr : (instruction env ev (s.ctx f)).Roomier (instruction env ev (s'.ctx f)) :=
    hctx.instruction hx
  refine ⟨_, rfl, ?_, hinstr.limit, hinstr.volatile⟩
  unfold MegaEvm.interpStep
  simp only [hinstr.gas_eq, hinstr.action_eq]
  rw [hinstr.same, h.same]

theorem Roomier.returnLimit {l l' : AdditionalLimit} (h : l.Roomier l') (isCreate : Bool)
    (r : InterpreterResult) (hx : (returnLimit l isCreate r).exceeded = false) :
    (returnLimit l isCreate r).Roomier (returnLimit l' isCreate r) := by
  cases isCreate with
  | true => exact (h.countOutput true (.return r)).checkLimit hx
  | false => exact h

theorem returnResult_within {l : AdditionalLimit} {isCreate : Bool} {r : InterpreterResult}
    (hx : (MegaEvm.returnLimit l isCreate r).exceeded = false) :
    returnResult l isCreate r = r := by
  unfold returnResult
  rw [hx, Bool.and_false]
  rfl

theorem depositResult_within {l : AdditionalLimit} {r : InterpreterResult} {fr : FrameResult}
    (hx : (depositLimit l r fr).exceeded = false) : depositResult l r fr = fr := by
  unfold depositResult
  rw [hx]
  rfl

theorem Roomier.actionStep (h : s.Roomier s') (f : Frame) (rest : List Frame)
    (a : InterpreterAction) :
    Follows (some (actionStep env s f rest a)) (some (actionStep env s' f rest a)) := by
  cases a with
  | newFrame i =>
    rw [actionStep_newFrame, actionStep_newFrame]
    exact (h.setPhase _).follows
  | «return» r =>
    unfold MegaEvm.actionStep
    simp only [chargeCodeDepositStorage_return, afterFrameRunInstructions_return,
      afterFrameRun_deposit]
    rintro m hm hx
    obtain rfl := Option.some.inj hm
    -- every check of the step was passed, so that none of them changed the result
    have hdeposit := AdditionalLimit.exceeded_of_checkLimit
      (AdditionalLimit.exceeded_tryRescueGas.symm.trans hx)
    have hreturn := AdditionalLimit.exceeded_of_recordComputeGas hdeposit
    have hreturned := Roomier.returnLimit h.limit f.isCreate (storageCharged f.isCreate r) hreturn
    have hdeposited := hreturned.recordComputeGas _ hdeposit
    rw [h.journal_eq, returnResult_within hreturned.exceeded]
    rw [returnResult_within hreturn] at hx hdeposit hdeposited ⊢
    rw [depositResult_within hdeposit, depositResult_within hdeposited.exceeded]
    refine ⟨_, rfl, ?_, hdeposited.tryRescueGas _ hx, h.volatile⟩
    rw [h.same]

theorem Roomier.beforeFrameReturnResult {l l' : AdditionalLimit} (h : l.Roomier l') (last : Bool)
    (r : FrameResult) (hx : (l.closeFrame r.instructionResult.isOk).exceeded = false) :
    (l.beforeFrameReturnResult last r).1.Roomier (l'.beforeFrameReturnResult last r).1 ∧
      (l'.beforeFrameReturnResult last r).2 = (l.beforeFrameReturnResult last r).2 := by
  have hclosed := h.closeFrame r.instructionResult.isOk hx
  unfold AdditionalLimit.beforeFrameReturnResult
  simp only [hx, hclosed.exceeded, Bool.false_and, Bool.false_eq_true, if_false]
  exact ⟨hclosed, trivial⟩

theorem closeFrame_of_answered {l : AdditionalLimit} {n : ℕ} {r : InstructionResult}
    (ha : l.Aligned (n + 1)) (h : Answered l r) (hx : l.exceeded = false) (success : Bool) :
    (l.closeFrame success).exceeded = false := by
  have hrestorable := h.restorable fun ht => ht.not_within hx
  exact AdditionalLimit.closeFrame_within hrestorable (h.settled hx) ha hx success

theorem Roomier.frameReturnResult (h : s.Roomier s') {p : Pending}
    (hx : (s.limit.closeFrame p.result.instructionResult.isOk).exceeded = false) :
    Follows (some (frameReturnResult s p)) (some (frameReturnResult s' p)) := by
  obtain ⟨hlimit, hresult⟩ := Roomier.beforeFrameReturnResult h.limit false p.result hx
  unfold MegaEvm.frameReturnResult
  simp only [hresult]
  exact ((h.setLimit hlimit).setPhase _).follows

theorem Roomier.insertResult (h : s.Roomier s') (p : Pending) :
    Follows (some (insertResult env s p)) (some (insertResult env s' p)) := by
  have hvolatile : (volatileAfter env s).Roomier (volatileAfter env s') := by
    unfold volatileAfter
    rw [h.depth_eq]
    split
    · exact h.volatile.enableAccessIfReturning _
    · exact h.volatile
  cases hf : s.frames with
  | nil =>
    rw [insertResult_nil env p hf, insertResult_nil env p (h.frames_eq.trans hf)]
    exact ((h.setVolatile hvolatile).setPhase _).follows
  | cons f rest =>
    rw [insertResult_cons env p hf, insertResult_cons env p (h.frames_eq.trans hf)]
    apply Roomier.follows
    refine ⟨?_, h.limit, hvolatile⟩
    rw [h.same]

theorem Roomier.lastFrameResult (h : s.Roomier s') {p : Pending}
    (hx : (s.limit.closeFrame p.result.instructionResult.isOk).exceeded = false) :
    Follows (some (lastFrameResult env s p)) (some (lastFrameResult env s' p)) := by
  obtain ⟨hlimit, hresult⟩ := Roomier.beforeFrameReturnResult h.limit true p.result hx
  have hgas : ∀ r, finalGas env (s'.limit.beforeFrameReturnResult true p.result).1 r =
      finalGas env (s.limit.beforeFrameReturnResult true p.result).1 r := by
    intro r
    rw [finalGas, finalGas, hlimit.rescuedGas]
  unfold MegaEvm.lastFrameResult
  simp only [hresult, hgas]
  exact ((h.setLimit hlimit).setPhase _).follows

theorem step_init {input : FrameInput} {ev : InitEvent} (hp : s.phase = .init input) :
    step env s (.init ev) = MegaEvm.frameInit env s input ev := by
  unfold step
  rw [hp]

theorem step_op {f : Frame} {rest : List Frame} {ev : OpEvent} (hp : s.phase = .interp)
    (hf : s.frames = f :: rest) :
    step env s (.op ev) = some (MegaEvm.interpStep env s f rest ev) := by
  unfold step
  rw [hp, hf]

/-- The step exceeds no limit, and no call asks how much compute gas is left. -/
structure Quiet (env : Env) (s : State) (e : Event) : Prop where
  within : ∀ m, step env s e = some m → m.limit.exceeded = false
  unasked : ∀ i, s.phase = .init (.call i) → env.spec.isEnabled .rex4 = true →
    asksRemaining i = false

theorem Roomier.step {e : Event} (h : s.Roomier s') (hsound : Sound env s)
    (hx : s.limit.exceeded = false) (hq : Quiet env s e) :
    Follows (step env s e) (step env s' e) := by
  have hframed := hsound.framed
  intro m hm hmx
  have hspec := step_spec hm
  cases hspec with
  | @init input ev _ hp =>
    rw [step_init hp] at hm
    rw [step_init (h.phase_eq.trans hp)]
    exact h.frameInit (fun i hi => hq.unasked i (hi ▸ hp)) ev m hm hmx
  | @stopped f rest hp hf | @resumed f rest hp hf =>
    rw [step_run hp hf] at hm
    rw [step_run (h.phase_eq.trans hp) (h.frames_eq.trans hf)]
    exact h.frameRun f _ hm hmx
  | @op f rest ev hp hf =>
    rw [step_op (h.phase_eq.trans hp) (h.frames_eq.trans hf)]
    exact h.interpStep f rest ev _ rfl hmx
  | @opened f rest i hp hf | @returned f rest r r₂ fr journal hp hf =>
    rw [step_action hp hf] at hm
    rw [step_action (h.phase_eq.trans hp) (h.frames_eq.trans hf)]
    exact h.actionStep f rest _ _ hm hmx
  | @hand p hp =>
    rw [step_result (h.phase_eq.trans hp)]
    simp only [State.Framed, hp] at hframed
    have hclosed := closeFrame_of_answered hframed.1 hframed.2 hx p.result.instructionResult.isOk
    exact h.frameReturnResult hclosed _ rfl hmx
  | @insert p hp hn =>
    rw [step_handed (h.phase_eq.trans hp) hn]
    exact h.insertResult p _ rfl hmx
  | @finish p hp hn =>
    rw [step_last (h.phase_eq.trans hp) hn]
    simp only [State.Framed, hp] at hframed
    refine h.lastFrameResult ?_ _ rfl hmx
    obtain ⟨-, ⟨ha, hanswered⟩ | ⟨ha, -⟩⟩ := hframed
    · exact closeFrame_of_answered ha hanswered hx _
    · -- with nothing open the last hook only checks
      rw [closeFrame_of_aligned ha]
      rw [lastFrameResult_limit, beforeFrameReturnResult_duplicate ha] at hmx
      exact hmx

end State

/-! ## Transactions -/

structure EvmTxRuntimeLimits.AtMost (a b : EvmTxRuntimeLimits) : Prop where
  txDataSizeLimit : a.txDataSizeLimit ≤ b.txDataSizeLimit
  txKvUpdatesLimit : a.txKvUpdatesLimit ≤ b.txKvUpdatesLimit
  txComputeGasLimit : a.txComputeGasLimit ≤ b.txComputeGasLimit
  txStateGrowthLimit : a.txStateGrowthLimit ≤ b.txStateGrowthLimit
  blockEnvAccessComputeGasLimit :
    a.blockEnvAccessComputeGasLimit ≤ b.blockEnvAccessComputeGasLimit
  oracleAccessComputeGasLimit : a.oracleAccessComputeGasLimit ≤ b.oracleAccessComputeGasLimit

structure StartEvent.Roomier (ev ev' : StartEvent) : Prop where
  same : ev' = { ev with
    limits := ev'.limits
    detainedLimit := ev'.detainedLimit
    computeGasLimit_u64 := ev'.computeGasLimit_u64 }
  limits : ev.limits.AtMost ev'.limits
  detainedLimit : ev.detainedLimit ≤ ev'.detainedLimit

namespace StartEvent.Roomier

open AdditionalLimit

variable {env : Env} {ev ev' : StartEvent}

theorem newTxTrackers (h : ev.Roomier ev') :
    (newTxTrackers env ev).Roomier (newTxTrackers env ev') where
  spec := rfl
  rescuedGas := rfl
  stateGrowth := FrameLimitTracker.roomier_new h.limits.txStateGrowthLimit
  dataSize := DataSizeTracker.roomier_beforeTxStart
    (FrameLimitTracker.roomier_new h.limits.txDataSizeLimit) env.tx
  kvUpdate := KVUpdateTracker.roomier_beforeTxStart
    (FrameLimitTracker.roomier_new h.limits.txKvUpdatesLimit) env.tx
  computeGas := by
    refine ComputeGasTracker.Roomier.reset ?_ _
    exact ⟨h.detainedLimit, FrameLimitTracker.roomier_new h.limits.txComputeGasLimit⟩
  within := rfl

theorem startLimits (h : ev.Roomier ev')
    (hx : ((onNewTx env ev).recordComputeGas ev.intrinsicGas).exceeded = false) :
    ((onNewTx env ev).recordComputeGas ev.intrinsicGas).Roomier
      ((onNewTx env ev').recordComputeGas ev'.intrinsicGas) := by
  have hgas : ev'.intrinsicGas = ev.intrinsicGas := by rw [h.same]
  rw [hgas]
  refine AdditionalLimit.Roomier.recordComputeGas ?_ ev.intrinsicGas hx
  exact h.newTxTrackers.checkLimit (exceeded_of_recordComputeGas hx)

theorem startVolatile (h : ev.Roomier ev') :
    (checkTxBeneficiaryAccess env (.new ev.limits.blockEnvAccessComputeGasLimit
        ev.limits.oracleAccessComputeGasLimit)).Roomier
      (checkTxBeneficiaryAccess env (.new ev'.limits.blockEnvAccessComputeGasLimit
        ev'.limits.oracleAccessComputeGasLimit)) := by
  have hnew : (VolatileDataAccessTracker.new ev.limits.blockEnvAccessComputeGasLimit
      ev.limits.oracleAccessComputeGasLimit).Roomier
      (.new ev'.limits.blockEnvAccessComputeGasLimit ev'.limits.oracleAccessComputeGasLimit) :=
    ⟨rfl, rfl, .none, h.limits.blockEnvAccessComputeGasLimit,
      h.limits.oracleAccessComputeGasLimit⟩
  unfold checkTxBeneficiaryAccess
  repeat' split
  all_goals first
    | exact hnew
    | exact hnew.markBeneficiaryBalanceAccessed
    | exact hnew.markBeneficiaryBalanceAccessed.markBeneficiaryBalanceAccessed

theorem start (h : ev.Roomier ev') {s : State} (hs : start env ev = some s)
    (hx : s.limit.exceeded = false) : ∃ s', start env ev' = some s' ∧ s.Roomier s' := by
  have hinitial : initialGas env ev' = initialGas env ev := by
    rw [initialGas, initialGas, h.same]
  have hcreation : creationStorageGas env ev' = creationStorageGas env ev := by
    rw [creationStorageGas, creationStorageGas, h.same]
  have hnonce : ev'.nonce = ev.nonce := by rw [h.same]
  have hjournal : ev'.journal = ev.journal := by rw [h.same]
  unfold MegaEvm.start at hs ⊢
  rw [hinitial, hcreation, hnonce, hjournal]
  split at hs
  · cases hs
  · next hfits =>
    rw [if_neg hfits]
    obtain ⟨storageGas, hgas, rfl⟩ := Option.map_eq_some_iff.1 hs
    rw [hgas]
    have hlimit : ((MegaEvm.onNewTx env ev).recordComputeGas ev.intrinsicGas).exceeded = false := by
      simp only at hx
      split at hx <;> exact hx
    refine ⟨_, rfl, ?_⟩
    simp only
    split
    · exact ⟨rfl, h.startLimits hlimit, h.startVolatile⟩
    · exact ⟨rfl, h.startLimits hlimit, h.startVolatile⟩

end StartEvent.Roomier

/-- The transaction that starts with `ev` runs through `es` to `s` without exceeding a limit,
and without a call that asks how much compute gas is left. -/
structure FittingExecution (env : Env) (ev : StartEvent) (es : List Event) (s₀ s : State) :
    Prop where
  start : start env ev = some s₀
  within : s₀.limit.exceeded = false
  quiet : Run.Guarded (step env) (State.Quiet env) s₀ es
  run : Run.run (step env) s₀ es = some s

/-- Limits decide nothing about a transaction that stays within them: under any larger limits
it takes the same steps, has the same frames, journal and result, and exceeds none either. -/
theorem larger_limits_agree {env : Env} {ev ev' : StartEvent} {es : List Event} {s₀ s : State}
    (hroom : ev.Roomier ev') (h : FittingExecution env ev es s₀ s) :
    ∃ s', Execution env ev' es s' ∧ s'.limit.exceeded = false ∧
      s'.phase = s.phase ∧ s'.frames = s.frames ∧ s'.journal = s.journal ∧
      s'.senderNonce = s.senderNonce ∧ s'.volatile.accessed = s.volatile.accessed ∧
      s'.limit.computeGas.txUsage = s.limit.computeGas.txUsage ∧
      s'.limit.dataSize.netUsage = s.limit.dataSize.netUsage ∧
      s'.limit.kvUpdate.netUsage = s.limit.kvUpdate.netUsage ∧
      s'.limit.stateGrowth.netUsage = s.limit.stateGrowth.netUsage := by
  obtain ⟨t₀, ht₀, hstart⟩ := hroom.start h.start h.within
  have hstep : ∀ (s t : State) (e : Event) (m : State),
      (Sound env s ∧ s.limit.exceeded = false ∧ s.Roomier t) → State.Quiet env s e →
      step env s e = some m →
      ∃ n, step env t e = some n ∧ (Sound env m ∧ m.limit.exceeded = false ∧ m.Roomier n) := by
    rintro s t e m ⟨hsound, hx, hroomier⟩ hq hm
    have hmx := hq.within m hm
    obtain ⟨n, hn, hmn⟩ := hroomier.step hsound hx hq m hm hmx
    exact ⟨n, hn, hsound.step hm, hmx, hmn⟩
  obtain ⟨s', hrun, -, -, hroomier⟩ :=
    Run.simulation hstep ⟨sound_start h.start, h.within, hstart⟩ h.quiet h.run
  refine ⟨s', ⟨t₀, ht₀, hrun⟩, hroomier.limit.exceeded, hroomier.phase_eq, hroomier.frames_eq,
    hroomier.journal_eq, ?_, hroomier.volatile.accessed, hroomier.limit.computeGas.txUsage_eq,
    hroomier.limit.dataSize.netUsage_eq, hroomier.limit.kvUpdate.netUsage_eq,
    hroomier.limit.stateGrowth.netUsage_eq⟩
  rw [hroomier.same]

section Sample

def State.isQuiet (env : Env) (s : State) (e : Event) : Bool :=
  (match step env s e with
    | some m => !m.limit.exceeded
    | none => true) &&
  match s.phase with
    | .init (.call i) => !env.spec.isEnabled .rex4 || !asksRemaining i
    | _ => true

theorem State.quiet_of_isQuiet {env : Env} {s : State} {e : Event}
    (h : s.isQuiet env e = true) : s.Quiet env e := by
  unfold isQuiet at h
  rw [Bool.and_eq_true] at h
  constructor
  · intro m hm
    simpa [hm] using h.1
  · intro i hi h4
    simpa [hi, h4] using h.2

/-- A call whose callee emits a log of 990 bytes and returns. -/
def fittingEvents : List Event :=
  logEvents ++ [.op (sampleReturn []), .tau, .tau, .tau, .tau] ++
    [.op (sampleReturn []), .tau, .tau, .tau, .tau]

/-- What fits into the limits of a block fits into none at all, with the same result. -/
theorem larger_limits_agree_unlimited :
    ∃ s' p, Execution logEnv (sampleStart .noLimits (by decide)) fittingEvents s' ∧
      s'.phase = .done p ∧ p.result.instructionResult = .return ∧
      s'.limit.dataSize.netUsage = 1140 := by
  have hrun : (execute logEnv (sampleStart .rex4 rex4_computeGas_fits) fittingEvents).map
      (fun s => (s.phase, s.limit.dataSize.netUsage)) =
      some (.done ⟨callResult .return [] ⟨1000000, 849784⟩, []⟩, 1140) := by decide
  obtain ⟨s, ⟨s₀, hstart, hr⟩, hf⟩ := exists_execution hrun
  have hchecks : (start logEnv (sampleStart .rex4 rex4_computeGas_fits)).map (fun s =>
      (s.limit.exceeded, Run.checks (step logEnv) (State.isQuiet logEnv) s fittingEvents)) =
      some (false, true) := by decide
  rw [hstart, Option.map_some, Option.some.injEq, Prod.mk.injEq] at hchecks
  have hquiet : Run.Guarded (step logEnv) (State.Quiet logEnv) s₀ fittingEvents :=
    (Run.guarded_of_checks hchecks.2).mono fun _ _ => State.quiet_of_isQuiet
  have hroom : (sampleStart .rex4 rex4_computeGas_fits).Roomier
      (sampleStart .noLimits (by decide)) :=
    ⟨rfl, ⟨by decide, by decide, by decide, by decide, by decide, by decide⟩, by decide⟩
  obtain ⟨s', hs', -, hphase, -, -, -, -, -, hsize, -⟩ :=
    larger_limits_agree hroom ⟨hstart, hchecks.1, hquiet, hr⟩
  obtain ⟨hp, hn⟩ := Prod.ext_iff.1 hf
  exact ⟨s', _, hs', hphase.trans hp, rfl, hsize.trans hn⟩

end Sample

end MegaEvm
