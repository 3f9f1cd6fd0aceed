import MegaEvm.FrameInvariant
import MegaEvm.InstructionGas

/-!
# Gas is conserved

The gas of a transaction is always somewhere: in the counters of the open
frames, with the frame that is initialised, in the result under way, or
rescued. Every step moves it or uses it, so what the transaction is charged is
what its steps used. Three paths lose gas: an instruction whose own compute gas
exceeds a limit strands what it set aside for its child, the overhead of a
keyless deployment that exceeds a limit takes the rest of the frame with it,
and an intercepted call of a transaction that was stopped at its start is not
rescued.
-/

set_option autoImplicit false

namespace MegaEvm

open AdditionalLimit

variable {env : Env} {ev : StartEvent} {s s' s₀ : State} {l : AdditionalLimit} {p : Pending}
  {es : List Event}

section Potential

def heldGas (frames : List Frame) : ℕ := (frames.map fun f => f.gas.remaining).sum

@[simp] theorem heldGas_nil : heldGas [] = 0 := rfl

@[simp] theorem heldGas_cons (f : Frame) (rest : List Frame) :
    heldGas (f :: rest) = f.gas.remaining + heldGas rest := by
  simp [heldGas]

/-- The unspent gas of a result under way; once an exceed halts the transaction
it has been rescued. -/
def pendingGas (l : AdditionalLimit) (p : Pending) : ℕ :=
  if l.TxExceeded then 0 else p.result.gas.remaining

def potential (s : State) : ℕ :=
  match s.phase with
  | .init input | .action (.newFrame input) =>
    input.gasLimit + heldGas s.frames + s.limit.rescuedGas
  | .run | .interp | .action (.return _) => heldGas s.frames + s.limit.rescuedGas
  | .result p | .handed p | .last p =>
    pendingGas s.limit p + heldGas s.frames + s.limit.rescuedGas
  | .done p => p.result.gas.remaining

theorem potential_answer (p : Pending) : potential (s.answer p) =
    pendingGas s.limit p + heldGas s.frames + s.limit.rescuedGas := by
  unfold State.answer potential
  cases s.frames with
  | nil => rfl
  | cons f rest => rfl

theorem pendingGas_of_not (h : ¬ l.TxExceeded) (p : Pending) :
    pendingGas l p = p.result.gas.remaining := if_neg h

theorem pendingGas_tryRescueGas (hc : l.checkLimit = l) (p : Pending) :
    pendingGas (l.tryRescueGas p.result.gas) p + (l.tryRescueGas p.result.gas).rescuedGas =
      p.result.gas.remaining + l.rescuedGas := by
  have hiff : (l.tryRescueGas p.result.gas).TxExceeded ↔ l.TxExceeded := by
    rw [txExceeded_tryRescueGas, hc]
  have hres := tryRescueGas_rescuedGas (l := l) (g := p.result.gas)
  rw [hc] at hres
  rw [hres, pendingGas]
  by_cases ht : l.TxExceeded
  · rw [if_pos (hiff.2 ht), if_pos ht]
    omega
  · rw [if_neg (mt hiff.1 ht), if_neg ht]
    omega

end Potential

section Cost

variable (env)

def answeredSpent (s' : State) : ℕ :=
  match s'.phase with
  | .result p | .last p => p.result.gas.spent
  | _ => 0

def initCost (s : State) (input : FrameInput) (s' : State) : ℕ :=
  match input with
  | .call i =>
    if isKeylessCall env s i then min i.gasLimit constants.KEYLESS_DEPLOY_OVERHEAD_GAS
    else answeredSpent s'
  | .create _ => answeredSpent s'

/-- The gas an instruction uses; a child's stipend is new gas. -/
def opCost (ev : OpEvent) (c : Ctx) : ℤ :=
  if (instruction env ev c).failed then
    (c.gas.remaining : ℤ) - (instruction env ev c).gas.remaining
  else (opGas env ev c : ℤ) - minted ev (instruction env ev c)

def codeStorageGas (f : Frame) (r : InterpreterResult) : ℕ :=
  if f.isCreate && r.result.isOk &&
      decide (constants.CODEDEPOSIT_STORAGE_GAS * r.output.length ≤ r.gas.remaining) then
    constants.CODEDEPOSIT_STORAGE_GAS * r.output.length
  else 0

def codeDepositGas (f : Frame) (r : InterpreterResult) : ℕ :=
  if f.isCreate && (returnCreate env r).2 then constants.CODEDEPOSIT * r.output.length else 0

def burntGas (l : AdditionalLimit) (r : FrameResult) : ℕ :=
  if l.TxExceeded ∨ r.instructionResult.isOkOrRevert = true then 0 else r.gas.remaining

def stepCost (s : State) (e : Event) (s' : State) : ℤ :=
  match s.phase, e, s.frames with
  | .init input, .init _, _ => initCost env s input s'
  | .interp, .op ev, f :: _ => opCost env ev (s.ctx f)
  | .action (.return r), .tau, f :: _ =>
    codeStorageGas f r +
      codeDepositGas env f (returnResult s.limit f.isCreate (storageCharged f.isCreate r))
  | .handed p, .tau, _ :: _ => burntGas s.limit p.result
  | .last p, .tau, _ => burntGas s.limit (s.limit.beforeFrameReturnResult true p.result).2
  | _, _, _ => 0

/-- The step neither strands gas nor leaves the gas of an intercepted call behind. -/
def keepsGas (s : State) : Event → Bool
  | .init ev =>
    match s.phase with
    | .init (.call i) =>
      if isKeylessCall env s i then
        decide (i.gasLimit < constants.KEYLESS_DEPLOY_OVERHEAD_GAS) ||
          !(keylessLimit env s.limit).exceeded
      else decide (dispatchSystemContractInterceptors env s i ev.keyless = .no) ||
        !s.limit.exceeded
    | _ => true
  | .op ev =>
    match s.phase, s.frames with
    | .interp, f :: _ =>
      ev.inner.forwarded == 0 || accessDenied env ev (s.ctx f) ||
        !decide (opGas env ev (s.ctx f) + ev.inner.forwarded ≤ f.gas.remaining) ||
        !(s.limit.recordComputeGas (ev.inner.cost - stipend ev)).exceeded
    | _, _ => true
  | .tau => true

end Cost

section Deposit

theorem storageCharged_spent (f : Frame) (r : InterpreterResult) :
    (storageCharged f.isCreate r).gas.remaining + codeStorageGas f r = r.gas.remaining := by
  unfold storageCharged codeStorageGas
  by_cases hc : (f.isCreate && r.result.isOk) = true
  · rw [if_pos hc, hc]
    cases hg : r.gas.recordCost (constants.CODEDEPOSIT_STORAGE_GAS * r.output.length) with
    | some g =>
      obtain ⟨hle, rfl⟩ := Gas.recordCost_eq_some.1 hg
      simp only [hle, decide_true, Bool.and_self, if_true]
      omega
    | none =>
      have hlt := Gas.recordCost_eq_none.1 hg
      have hno : ¬ constants.CODEDEPOSIT_STORAGE_GAS * r.output.length ≤ r.gas.remaining := by
        omega
      simp [hno]
  · have hf : (f.isCreate && r.result.isOk) = false := by simpa using hc
    simp [hf]

theorem returnCreate_gas (env : Env) (r : InterpreterResult) :
    (returnCreate env r).1.gas.remaining +
      (if (returnCreate env r).2 then constants.CODEDEPOSIT * r.output.length else 0) =
      r.gas.remaining := by
  unfold returnCreate
  split
  · rfl
  · split
    · rfl
    · split
      · rfl
      · cases hg : r.gas.recordCost (constants.CODEDEPOSIT * r.output.length) with
        | none => rfl
        | some g =>
          obtain ⟨hle, rfl⟩ := Gas.recordCost_eq_some.1 hg
          simp only [if_true]
          omega

theorem processReturn_spent (env : Env) (f : Frame) (r : InterpreterResult)
    (journal : List JournalEntry) :
    (processReturn env f r journal).1.gas.remaining + codeDepositGas env f r =
      r.gas.remaining := by
  have hcreate := returnCreate_gas env r
  unfold processReturn codeDepositGas
  cases hf : f.isCreate with
  | false => simp [FrameResult.gas]
  | true =>
    cases hb : returnCreate env r with
    | mk r' b =>
      rw [hb] at hcreate
      cases b with
      | true | false => simpa [FrameResult.gas] using hcreate

end Deposit

section Init

variable {input : FrameInput} {e : InitEvent}

theorem answeredSpent_answer (p : Pending) : answeredSpent (s.answer p) = p.result.gas.spent := by
  unfold State.answer answeredSpent
  cases s.frames with
  | nil => rfl
  | cons f rest => rfl

theorem initCost_of_passed (h : Detected env s input l) (s' : State) :
    initCost env s input s' = answeredSpent s' := by
  unfold initCost
  cases input with
  | call i => simp [h.passed i rfl]
  | create i => rfl

theorem keylessLimit_rescuedGas (env : Env) (l : AdditionalLimit) :
    (keylessLimit env l).rescuedGas = l.rescuedGas := by
  unfold keylessLimit
  split
  · simp
  · rfl

theorem pendingGas_within (hf : l.exceeded = false) (p : Pending) :
    pendingGas l p = p.result.gas.remaining :=
  pendingGas_of_not (fun ht => ht.not_within hf) p

theorem keyless_not_frameLocal (ha : l.Aligned 0) {k : LimitKind} {lim used : ℕ}
    (hc : (keylessLimit env l).computeGas.checkLimit (keylessLimit env l).rex4 =
      .exceedsLimit k lim used true) : False := by
  obtain ⟨-, ht, -⟩ := ComputeGasTracker.checkLimit_eq_exceeds hc
  obtain ⟨-, e, rest, hs, -⟩ := ht rfl
  have haligned : (keylessLimit env l).Aligned 0 := keylessLimit_aligned ha
  have hlen := haligned.computeGas
  rw [FrameLimitTracker.height, hs] at hlen
  cases hlen

theorem conserved_keyless {i : CallInputs} {s₁ : State} {r : FrameResult}
    (ha : s.limit.Aligned 0) (hk : KeylessCall env s i e.keyless s₁ r)
    (hg : i.gasLimit < constants.KEYLESS_DEPLOY_OVERHEAD_GAS ∨
      (keylessLimit env s.limit).exceeded = false) :
    i.gasLimit + heldGas s.frames + s.limit.rescuedGas =
      min i.gasLimit constants.KEYLESS_DEPLOY_OVERHEAD_GAS +
        potential ({ s₁ with limit := s₁.limit.pushEmptyFrame }.answer ⟨r, s.journal⟩) := by
  rw [potential_answer]
  cases hk with
  | outOfGas hlt =>
    have hzero : ∀ l, pendingGas l ⟨callResult .outOfGas [] (.newSpent i.gasLimit), s.journal⟩ =
        0 := fun l => ite_self 0
    simp only [hzero, pushEmptyFrame_rescuedGas]
    omega
  | halted hle h3 hx =>
    rcases hg with hlt | hf
    · omega
    · rw [hx] at hf
      cases hf
  | insufficient output g hc => exact (keyless_not_frameLocal ha hc).elim
  | rejected output hle | completed output signer nonce ho hle =>
    have hf : (keylessLimit env s.limit).exceeded = false := by
      rcases hg with hlt | hf
      · omega
      · exact hf
    have hpush : (keylessLimit env s.limit).pushEmptyFrame.exceeded = false := hf
    simp only [pendingGas_within hpush, pushEmptyFrame_rescuedGas, keylessLimit_rescuedGas,
      callResult, FrameResult.gas]
    omega

theorem conserved_init (hp : s.phase = .init input) (ha : s.limit.Aligned s.frames.length)
    (hg : keepsGas env s (.init e) = true) (h : InitStep env s input e s') :
    input.gasLimit + heldGas s.frames + s.limit.rescuedGas =
      initCost env s input s' + potential s' := by
  cases h with
  | keyless hi hf h2 hk =>
    subst hi
    have ha0 : s.limit.Aligned 0 := by
      rw [hf] at ha
      exact ha
    simp only [keepsGas, hp, h2, if_true, Bool.or_eq_true, decide_eq_true_eq,
      Bool.not_eq_true'] at hg
    simp only [initCost, h2, if_true]
    exact conserved_keyless ha0 hk hg
  | @control i v r hi h4 hk hd hgas hr =>
    subst hi
    have hf : s.limit.exceeded = false := by
      simpa [keepsGas, hp, hk, hd] using hg
    have hpush : s.limit.pushEmptyFrame.exceeded = false := hf
    simp only [initCost, hk, Bool.false_eq_true, if_false, answeredSpent_answer, potential_answer,
      pendingGas_within hpush, pushEmptyFrame_rescuedGas, hgas, Gas.new_remaining, Gas.spent,
      Gas.new_limit, FrameInput.gasLimit]
    omega
  | @refused v l hd hx =>
    have hpend := pendingGas_tryRescueGas (openFrame_checkLimit l input e.targetEmpty)
      ⟨(l.openFrame input e.targetEmpty).exceedingFrameResult input, s.journal⟩
    have hgas : ((l.openFrame input e.targetEmpty).exceedingFrameResult input).gas =
        .new input.gasLimit := rfl
    simp only [hgas, Gas.new_remaining, openFrame_rescuedGas, hd.rescuedGas] at hpend
    rw [initCost_of_passed hd, answeredSpent_answer, potential_answer]
    simp only [hgas, Gas.spent, Gas.new_remaining, Gas.new_limit]
    omega
  | @answered v l r opened journal nonce hd hx hin =>
    have hpend := pendingGas_tryRescueGas
      (recordComputeGas_checkLimit (l := l.openFrame input e.targetEmpty) r.gas.spent) ⟨r, opened⟩
    simp only [recordComputeGas_rescuedGas, openFrame_rescuedGas, hd.rescuedGas] at hpend
    have hlimit := hin.limit
    have hle := hin.remaining
    rw [initCost_of_passed hd, answeredSpent_answer, potential_answer]
    simp only [afterFrameInitResult, Gas.spent, hlimit] at hpend ⊢
    omega
  | @entered v l target created opened nonce hd hx ho hn =>
    have hrescued : (l.openFrame input e.targetEmpty).rescuedGas = s.limit.rescuedGas := by
      rw [openFrame_rescuedGas, hd.rescuedGas]
    rw [initCost_of_passed hd]
    simp only [answeredSpent, potential, heldGas_cons, Gas.new_remaining, afterFrameInitItem,
      hrescued]
    omega

end Init

section Step

def State.Counted (s : State) : Prop :=
  match s.phase with
  | .action (.return r) => ∀ f rest, s.frames = f :: rest → r.gas.remaining = f.gas.remaining
  | .handed p => s.limit.TxExceeded → p.result.instructionResult.isOkOrRevert = false
  | .last p => s.limit.Aligned 0 → s.limit.TxExceeded →
    p.result.instructionResult.isOkOrRevert = false
  | _ => True

theorem beforeFrameReturnResult_gas (b : Bool) (r : FrameResult) :
    (l.beforeFrameReturnResult b r).2.gas = r.gas := by
  rcases beforeFrameReturnResult_cases (l := l) b r with
    ⟨-, hb⟩ | ⟨-, -, hb⟩ | ⟨-, -, hb⟩ | ⟨-, -, hb⟩
  · rw [hb]
  · rw [hb]
  · rw [hb]
    rfl
  · rw [hb]
    rfl

theorem beforeFrameReturnResult_rescuedGas (b : Bool) (r : FrameResult) :
    (l.beforeFrameReturnResult b r).1.rescuedGas = l.rescuedGas := by
  rcases beforeFrameReturnResult_cases (l := l) b r with
    ⟨-, hb⟩ | ⟨-, -, hb⟩ | ⟨-, -, hb⟩ | ⟨-, -, hb⟩
  all_goals
    rw [hb]
    exact closeFrame_rescuedGas _

theorem beforeFrameReturnResult_halts {n : ℕ} (ha : l.Aligned (n + 1)) {b : Bool}
    {r : FrameResult} (ht : (l.beforeFrameReturnResult b r).1.TxExceeded) :
    (l.beforeFrameReturnResult b r).2.instructionResult.isOkOrRevert = false := by
  rcases beforeFrameReturnResult_cases (l := l) b r with
    ⟨hc, hb⟩ | ⟨hd, hc, hb⟩ | ⟨hd, hc, hb⟩ | ⟨hd, hc, hb⟩
  · rw [hb] at ht
    exact absurd hc fun hc => ht.not_within hc
  · rw [not_duplicate ha] at hd
    cases hd
  · rw [hb] at ht
    exact absurd ht.1 (by simp [exceeded])
  · rw [hb]
    rfl

theorem counted_init {input : FrameInput} {e : InitEvent}
    (ha : s.limit.Aligned s.frames.length) (h : InitStep env s input e s') : s'.Counted := by
  have hopen : ¬ s'.limit.Aligned 0 := not_aligned_zero (h.aligned ha)
  unfold State.Counted
  rcases h.phase_cases with hp | ⟨p, hp | hp⟩
  · rw [hp]
    trivial
  · rw [hp]
    trivial
  · rw [hp]
    exact fun h0 => absurd h0 hopen

theorem Sound.counted_step {e : Event} (hsound : Sound env s) (hc : s.Counted)
    (hs : MegaEvm.step env s e = some s') : s'.Counted := by
  have hframed := hsound.framed
  unfold State.Counted at hc
  cases step_spec hs with
  | init hp hi =>
    simp only [State.Framed, hp] at hframed
    exact counted_init hframed.1 hi
  | @stopped f rest hp hf hx =>
    intro f' rest' hf'
    have heq : f :: rest = f' :: rest' := hf.symm.trans hf'
    cases heq
    rfl
  | resumed | opened | returned => trivial
  | @op f rest ev hp hf =>
    simp only [State.Framed, hp] at hframed
    have ho : Outcome s.limit (instruction env ev (s.ctx f)) :=
      hframed.2.outcome_instruction hsound.spec rfl rfl
    cases hact : (instruction env ev (s.ctx f)).action with
    | none => simp only [State.Counted, interpStep, hact]
    | some a =>
      cases a with
      | newFrame i => simp only [State.Counted, interpStep, hact]
      | «return» r =>
        simp only [State.Counted, interpStep, hact]
        intro f' rest' hf'
        cases hf'
        exact congrArg Gas.remaining (ho.gas r hact)
  | @hand p hp =>
    simp only [State.Framed, hp] at hframed
    exact fun ht => beforeFrameReturnResult_halts hframed.1 ht
  | @insert p hp hn =>
    simp only [hp] at hc
    cases hf : s.frames with
    | nil =>
      rw [insertResult_nil env p hf]
      exact fun _ => hc
    | cons f rest =>
      rw [insertResult_cons env p hf]
      trivial
  | finish => trivial

def takenGas : Option InterpreterAction → ℕ
  | some (.newFrame i) => i.gasLimit
  | _ => 0

theorem setAside_of_keepsGas {f : Frame} {rest : List Frame} {e : OpEvent}
    (heff : Effect e (opGas env e (s.ctx f)) (s.ctx f) (instruction env e (s.ctx f)))
    (hx : s.limit.exceeded = false) (hp : s.phase = .interp) (hf : s.frames = f :: rest)
    (hg : keepsGas env s (.op e) = true) :
    setAside e (instruction env e (s.ctx f)) = takenGas (instruction env e (s.ctx f)).action := by
  have hzero : (instruction env e (s.ctx f)).limit.exceeded = true → e.inner.forwarded = 0 := by
    intro hex
    by_contra hfwd
    obtain ⟨hgas, hrec⟩ := heff.stranded hex hfwd
    have hallowed : accessDenied env e (s.ctx f) = false := by
      by_contra hd
      rw [limit_of_denied (by simpa using hd) hfwd] at hex
      exact absurd (hx.symm.trans hex) (by simp)
    have hgas' : opGas env e (s.ctx f) + e.inner.forwarded ≤ f.gas.remaining := hgas
    have hrec' : (s.limit.recordComputeGas (e.inner.cost - stipend e)).exceeded = true := hrec
    simp [keepsGas, hp, hf, hfwd, hallowed, hgas', hrec'] at hg
  unfold setAside takenGas
  cases (instruction env e (s.ctx f)).action with
  | none =>
    simp only
    split
    case isTrue hx => exact hzero hx
    case isFalse => rfl
  | some a =>
    cases a with
    | newFrame i => rfl
    | «return» r =>
      simp only
      split
      case isTrue hx => exact hzero hx
      case isFalse => rfl

theorem conserved_op {f : Frame} {rest : List Frame} {e : OpEvent} (hready : Ready s.limit)
    (hspec : s.limit.spec = env.spec) (hp : s.phase = .interp) (hf : s.frames = f :: rest)
    (hset : setAside e (instruction env e (s.ctx f)) =
      takenGas (instruction env e (s.ctx f)).action) :
    (potential s : ℤ) = opCost env e (s.ctx f) + potential (interpStep env s f rest e) := by
  have heff : Effect e (opGas env e (s.ctx f)) (s.ctx f) (instruction env e (s.ctx f)) :=
    effect_instruction hready.within rfl
  have hout : Outcome s.limit (instruction env e (s.ctx f)) :=
    hready.outcome_instruction hspec rfl rfl
  have hgas : (s.ctx f).gas.remaining = f.gas.remaining := rfl
  have hrescued := hout.rescuedGas
  have hbefore : potential s = f.gas.remaining + heldGas rest + s.limit.rescuedGas := by
    simp [potential, hp, hf]
  have hafter : potential (interpStep env s f rest e) =
      takenGas (instruction env e (s.ctx f)).action +
        ((instruction env e (s.ctx f)).gas.remaining + heldGas rest) + s.limit.rescuedGas := by
    cases hact : (instruction env e (s.ctx f)).action with
    | none => simp [potential, interpStep, takenGas, hact, hrescued]
    | some a =>
      cases a with
      | newFrame i => simp [potential, interpStep, takenGas, hact, hrescued]
      | «return» r => simp [potential, interpStep, takenGas, hact, hrescued]
  unfold opCost
  by_cases hfail : (instruction env e (s.ctx f)).failed = true
  · have htaken : takenGas (instruction env e (s.ctx f)).action = 0 := by
      cases hact : (instruction env e (s.ctx f)).action with
      | none => rfl
      | some a =>
        cases a with
        | newFrame i =>
          simp [Ctx.failed, Ctx.isError, Ctx.instructionResult, hact] at hfail
        | «return» r => rfl
    rw [if_pos hfail]
    omega
  · have hno : (instruction env e (s.ctx f)).failed = false := by simpa using hfail
    have hspend := heff.spends hno
    rw [if_neg hfail]
    omega

theorem conserved_returned {f : Frame} {rest : List Frame} {r : InterpreterResult}
    {fr : FrameResult} {journal' : List JournalEntry} (hf : s.frames = f :: rest)
    (hr : r.gas.remaining = f.gas.remaining)
    (hfr : processReturn env f (returnResult s.limit f.isCreate (storageCharged f.isCreate r))
      s.journal = (fr, journal')) :
    heldGas s.frames + s.limit.rescuedGas =
      codeStorageGas f r +
        codeDepositGas env f (returnResult s.limit f.isCreate (storageCharged f.isCreate r)) +
      potential { s with
        frames := rest
        limit := (depositLimit (returnLimit s.limit f.isCreate (storageCharged f.isCreate r))
          (returnResult s.limit f.isCreate (storageCharged f.isCreate r)) fr).tryRescueGas fr.gas
        journal := journal'
        phase := .result ⟨depositResult
          (returnLimit s.limit f.isCreate (storageCharged f.isCreate r))
          (returnResult s.limit f.isCreate (storageCharged f.isCreate r)) fr, f.opened⟩ } := by
  have hstorage := storageCharged_spent f r
  have hdeposit := processReturn_spent env f
    (returnResult s.limit f.isCreate (storageCharged f.isCreate r)) s.journal
  rw [hfr, returnResult_gas] at hdeposit
  simp only at hdeposit
  set l := returnLimit s.limit f.isCreate (storageCharged f.isCreate r) with hl
  set r₂ := returnResult s.limit f.isCreate (storageCharged f.isCreate r) with hr₂
  have hpend := pendingGas_tryRescueGas
    (recordComputeGas_checkLimit (l := l) (depositGas r₂ fr)) ⟨depositResult l r₂ fr, f.opened⟩
  have hgas : (depositResult l r₂ fr).gas = fr.gas := depositResult_gas fr
  have hrescued : l.rescuedGas = s.limit.rescuedGas := returnLimit_rescuedGas _
  simp only [hgas, recordComputeGas_rescuedGas, hrescued] at hpend
  simp only [potential, hf, heldGas_cons, depositLimit]
  omega

theorem creditGas_remaining (f : Frame) (r : FrameResult) :
    (creditGas f r).gas.remaining =
      f.gas.remaining + if r.instructionResult.isOkOrRevert then r.gas.remaining else 0 := by
  unfold creditGas
  split
  · rfl
  · rfl

theorem unspentGas_eq (hdep : env.isDeposit = false) (r : FrameResult) :
    unspentGas env r = r.gas.remaining := by
  simp [unspentGas, failedDeposit, hdep]

theorem finalGas_remaining (env : Env) (l : AdditionalLimit) (r : FrameResult) :
    (finalGas env l r).remaining =
      (if r.instructionResult.isOkOrRevert then r.gas.remaining else 0) + l.rescuedGas := by
  unfold finalGas settledGas
  dsimp only
  split
  · simp
  · simp

theorem pendingGas_credited {r : FrameResult} (hg : r.gas = p.result.gas)
    (hh : l.TxExceeded → r.instructionResult.isOkOrRevert = false) :
    pendingGas l p =
      burntGas l r + if r.instructionResult.isOkOrRevert then r.gas.remaining else 0 := by
  unfold pendingGas burntGas
  by_cases ht : l.TxExceeded
  · simp [ht, hh ht]
  · by_cases hok : r.instructionResult.isOkOrRevert = true
    · simp [ht, hok, hg]
    · simp [ht, hok, hg]

theorem pendingGas_hand (p : Pending) (ha : s.limit.Aligned (s.frames.length + 1))
    (hans : Answered s.limit p.result.instructionResult) :
    pendingGas (s.limit.beforeFrameReturnResult false p.result).1
        ⟨(s.limit.beforeFrameReturnResult false p.result).2, p.opened⟩ =
      pendingGas s.limit p := by
  have hiff := hans.txExceeded_hand ha false
  have hgas := beforeFrameReturnResult_gas (l := s.limit) false p.result
  unfold pendingGas
  simp only [hiff, hgas]

theorem conserved_finish {p : Pending} (hp : s.phase = .last p) (hf : s.frames = [])
    (hans : (s.limit.Aligned 1 ∧ Answered s.limit p.result.instructionResult) ∨
      (s.limit.Aligned 0 ∧ Resuming s.limit))
    (hc : s.limit.Aligned 0 → s.limit.TxExceeded →
      p.result.instructionResult.isOkOrRevert = false) :
    (potential s : ℤ) =
      stepCost env s .tau (lastFrameResult env s p) + potential (lastFrameResult env s p) := by
  have hgas : (s.limit.beforeFrameReturnResult true p.result).2.gas = p.result.gas :=
    beforeFrameReturnResult_gas true p.result
  have hrescued := beforeFrameReturnResult_rescuedGas (l := s.limit) true p.result
  have hhalts : s.limit.TxExceeded →
      (s.limit.beforeFrameReturnResult true p.result).2.instructionResult.isOkOrRevert =
        false := by
    intro ht
    rcases hans with ⟨ha, hans⟩ | ⟨ha, -⟩
    · exact beforeFrameReturnResult_halts ha ((hans.txExceeded_hand ha true).2 ht)
    · rw [beforeFrameReturnResult_duplicate ha]
      exact hc ha ht
  have hpend := pendingGas_credited hgas hhalts
  have hfinal := finalGas_remaining env (s.limit.beforeFrameReturnResult true p.result).1
    (s.limit.beforeFrameReturnResult true p.result).2
  rw [hrescued] at hfinal
  have hdone : potential (lastFrameResult env s p) =
      (finalGas env (s.limit.beforeFrameReturnResult true p.result).1
        (s.limit.beforeFrameReturnResult true p.result).2).remaining := rfl
  have hcost : stepCost env s .tau (lastFrameResult env s p) =
      burntGas s.limit (s.limit.beforeFrameReturnResult true p.result).2 := by
    simp only [stepCost, hp]
  have hbefore : potential s = pendingGas s.limit p + s.limit.rescuedGas := by
    simp [potential, hp, hf]
  omega

theorem Sound.conserved_step {e : Event} (hsound : Sound env s) (hc : s.Counted)
    (hg : keepsGas env s e = true) (hs : MegaEvm.step env s e = some s') :
    (potential s : ℤ) = stepCost env s e s' + potential s' := by
  have hframed := hsound.framed
  unfold State.Counted at hc
  cases step_spec hs with
  | @init input e _ hp hi =>
    simp only [State.Framed, hp] at hframed
    have hcons := conserved_init hp hframed.1 hg hi
    simp only [potential, stepCost, hp]
    simp only [potential] at hcons
    omega
  | @stopped f rest hp hf hx => simp [potential, stepCost, hp, hf]
  | @resumed f rest hp hf hx hset => simp [potential, stepCost, hp, hf]
  | @op f rest e hp hf =>
    simp only [State.Framed, hp] at hframed
    have hcost : stepCost env s (.op e) (interpStep env s f rest e) =
        opCost env e (s.ctx f) := by
      simp only [stepCost, hp, hf]
    rw [hcost]
    have heff : Effect e (opGas env e (s.ctx f)) (s.ctx f) (instruction env e (s.ctx f)) :=
      effect_instruction hframed.2.within rfl
    exact conserved_op hframed.2 hsound.spec hp hf
      (setAside_of_keepsGas heff hframed.2.within hp hf hg)
  | @opened f rest i hp hf => simp [potential, stepCost, hp, hf]
  | @returned f rest r r₂ fr journal' hp hf hr hfr hpr =>
    simp only [hp] at hc
    subst hr
    have hcons := conserved_returned hf (hc f rest hf) hfr
    simp only [potential, stepCost, hp, hf] at hcons ⊢
    omega
  | @hand p hp =>
    simp only [State.Framed, hp] at hframed
    have hpend := pendingGas_hand p hframed.1 hframed.2
    have hrescued := beforeFrameReturnResult_rescuedGas (l := s.limit) false p.result
    simp only [potential, stepCost, hp, frameReturnResult, hpend, hrescued]
    omega
  | @insert p hp hn =>
    simp only [hp] at hc
    have hpend := pendingGas_credited (l := s.limit) (p := p) (r := p.result) rfl hc
    cases hf : s.frames with
    | nil =>
      rw [insertResult_nil env p hf]
      simp [potential, stepCost, hp, hf]
    | cons f rest =>
      rw [insertResult_cons env p hf]
      simp only [potential, stepCost, hp, hf, heldGas_cons, creditGas_remaining, hpend]
      push_cast
      omega
  | @finish p hp hn =>
    simp only [State.Framed, hp] at hframed
    simp only [hp] at hc
    exact conserved_finish hp hframed.1 hframed.2 hc

theorem counted_start (h : start env ev = some s) : s.Counted := by
  unfold start at h
  split at h
  · cases h
  · simp only [Option.map_eq_some_iff] at h
    obtain ⟨storageGas, -, rfl⟩ := h
    split
    · trivial
    · trivial

def startGas (env : Env) (ev : StartEvent) : ℕ :=
  initialGas env ev + (creationStorageGas env ev).getD 0

theorem potential_start {input : FrameInput} (h : start env ev = some s)
    (hi : s.phase = .init input) : env.tx.gasLimit = startGas env ev + potential s := by
  obtain ⟨-, hrescued, -, -⟩ := opening_start env ev
  unfold start at h
  split at h
  · cases h
  · simp only [Option.map_eq_some_iff] at h
    obtain ⟨storageGas, hst, rfl⟩ := h
    split at hi
    case isTrue => cases hi
    case isFalse hle =>
      have hlimit : (firstFrameInput env (env.tx.gasLimit -
          (initialGas env ev + storageGas))).gasLimit =
          env.tx.gasLimit - (initialGas env ev + storageGas) := by
        unfold firstFrameInput
        cases env.tx.kind with
        | call | create => rfl
      rw [if_neg hle]
      simp only [potential, hlimit, heldGas_nil, hrescued, startGas, hst, Option.getD_some]
      omega

end Step

/-- In a run that strands no gas and leaves none of an intercepted call behind, a
transaction that is no deposit is charged what its steps used, wherever and at
whatever depth it was stopped. -/
theorem gas_conserved {input : FrameInput} (hdep : env.isDeposit = false)
    (hstart : start env ev = some s₀)
    (hi : s₀.phase = .init input)
    (hg : Run.Guarded (step env) (fun s e => keepsGas env s e = true) s₀ es)
    (hr : Run.run (step env) s₀ es = some s) (hp : s.phase = .done p) :
    (env.tx.gasLimit : ℤ) - unspentGas env p.result =
      startGas env ev + Run.total (step env) (stepCost env) s₀ es := by
  have hfirst := potential_start hstart hi
  have haccount : (potential s₀ : ℤ) =
      Run.total (step env) (stepCost env) s₀ es + potential s := by
    refine Run.account (I := fun s => Sound env s ∧ s.Counted) (Φ := fun s => (potential s : ℤ))
      ?_ ?_ ⟨sound_start hstart, counted_start hstart⟩ hg hr
    · intro s e s' ⟨hsound, hc⟩ _ hs
      exact ⟨hsound.step hs, hsound.counted_step hc hs⟩
    · intro s e s' ⟨hsound, hc⟩ hk hs
      exact hsound.conserved_step hc hk hs
  have hlast : potential s = unspentGas env p.result := by
    simp [potential, hp, unspentGas_eq hdep]
  omega

section Stopped

def stoppedEnv : Env := sampleEnv .rex3 (.call 3) .other 1000000

def stoppedStart (limit : ℕ) (h : limit ≤ u64Max) : StartEvent :=
  sampleStart { EvmTxRuntimeLimits.rex3 with txComputeGasLimit := limit } h

/-- The exceed is found in the child: both frames are rescued. -/
def stoppedInChild : List Event :=
  [.init sampleInit, .tau] ++ samplePushes ++
    [.op sampleCall, .tau, .init sampleInit, .tau, .op (samplePlain 50000),
      .tau, .tau, .tau, .tau, .tau, .tau, .tau, .tau]

theorem gas_conserved_child :
    ∃ s p, Execution stoppedEnv (stoppedStart 60000 (by decide)) stoppedInChild s ∧
      s.phase = .done p ∧ s.limit.TxExceeded ∧
      (1000000 : ℤ) - unspentGas stoppedEnv p.result = 60000 + 59321 := by
  have hrun : (execute stoppedEnv (stoppedStart 60000 (by decide)) stoppedInChild).map
      (fun s => (s.phase, decide s.limit.TxExceeded)) =
      some (.done ⟨callResult .outOfGas [] ⟨1000000, 880679⟩, []⟩, true) := by decide
  have hfirst : (start stoppedEnv (stoppedStart 60000 (by decide))).map (fun s =>
      (s.phase, Run.checks (step stoppedEnv) (keepsGas stoppedEnv) s stoppedInChild,
        Run.total (step stoppedEnv) (stepCost stoppedEnv) s stoppedInChild)) =
      some (.init (firstFrameInput stoppedEnv 940000), true, 59321) := by decide
  obtain ⟨s, ⟨s₀, hstart, hr⟩, hf⟩ := exists_execution hrun
  rw [hstart, Option.map_some, Option.some.injEq, Prod.mk.injEq, Prod.mk.injEq] at hfirst
  obtain ⟨hi, hchecks, htotal⟩ := hfirst
  have hp : s.phase = .done _ := (Prod.ext_iff.1 hf).1
  refine ⟨s, _, ⟨s₀, hstart, hr⟩, hp, of_decide_eq_true (Prod.ext_iff.1 hf).2, ?_⟩
  have hgas := gas_conserved rfl hstart hi (Run.guarded_of_checks hchecks) hr hp
  rw [htotal] at hgas
  exact hgas

/-- The exceed is found in the CALL. -/
def stoppedInCall : List Event :=
  [.init sampleInit, .tau] ++ samplePushes ++ [.op sampleCall, .tau, .tau, .tau, .tau]

/-- The gas it set aside is charged although no child ever ran. -/
theorem gas_stranded :
    ¬ ∀ env ev es s₀ s p input, env.isDeposit = false → start env ev = some s₀ →
      s₀.phase = .init input → Run.run (step env) s₀ es = some s → s.phase = .done p →
      s.limit.TxExceeded →
      (env.tx.gasLimit : ℤ) - unspentGas env p.result =
        startGas env ev + Run.total (step env) (stepCost env) s₀ es := by
  intro h
  have hrun : (execute stoppedEnv (stoppedStart 21100 (by decide)) stoppedInCall).map
      (fun s => (s.phase, decide s.limit.TxExceeded)) =
      some (.done ⟨callResult .outOfGas [] ⟨1000000, 428379⟩, []⟩, true) := by decide
  have hfirst : (start stoppedEnv (stoppedStart 21100 (by decide))).map (fun s =>
      (s.phase, Run.total (step stoppedEnv) (stepCost stoppedEnv) s stoppedInCall)) =
      some (.init (firstFrameInput stoppedEnv 940000), 11621) := by decide
  obtain ⟨s, ⟨s₀, hstart, hr⟩, hf⟩ := exists_execution hrun
  rw [hstart, Option.map_some, Option.some.injEq, Prod.mk.injEq] at hfirst
  obtain ⟨hi, htotal⟩ := hfirst
  have hgas := h _ _ _ s₀ s _ _ rfl hstart hi hr (Prod.ext_iff.1 hf).1
    (of_decide_eq_true (Prod.ext_iff.1 hf).2)
  rw [htotal] at hgas
  exact absurd hgas (by decide)

end Stopped

end MegaEvm
