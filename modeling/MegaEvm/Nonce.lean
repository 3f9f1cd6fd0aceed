import MegaEvm.FrameInvariant

/-!
# The sender's nonce

A call bumps the sender's nonce before its first frame, a create while its
first frame is initialised. No later step touches it, so a transaction leaves
the nonce its first frame left: one more than before, unless a create ends
before it initialises that frame. A keyless deployment that the sender signed
itself leaves the nonce of the deployment's own create.
-/

set_option autoImplicit false

namespace MegaEvm

open AdditionalLimit

variable {env : Env} {ev : StartEvent} {s s₀ s' : State} {es : List Event} {p : Pending}

/-- A create reaches the initialisation of its first frame: its gas limit covers
the initial gas, and the limits do not refuse the frame. -/
def reachesFirstFrame (s₀ : State) : Bool :=
  match s₀.phase with
  | .init (.create i) => !(s₀.limit.openFrame (.create i) false).exceeded
  | .done p => !p.result.isCreate
  | _ => true

def completedDeployment (env : Env) (s₀ : State) (es : List Event) : Option (Address × ℕ) :=
  match s₀.phase, es with
  | .init (.call i), .init e :: _ =>
    match isKeylessCall env s₀ i, executeKeylessDeployCall env s₀ i e.keyless, e.keyless with
    | true, .answered _ r, .completed _ signer nonce =>
      if r.instructionResult = .return then some (signer, nonce) else none
    | _, _, _ => none
  | _, _ => none

section Later

def Started (s : State) : Prop := ∀ input, s.phase = .init input → s.frames ≠ []

theorem started_answer (p : Pending) : Started (s.answer p) := by
  intro input hp
  unfold State.answer at hp
  simp only at hp
  split at hp
  · cases hp
  · cases hp

theorem started_init {input : FrameInput} {e : InitEvent} (h : InitStep env s input e s') :
    Started s' := by
  cases h with
  | keyless | control | refused | answered => exact started_answer _
  | entered => exact nofun

theorem InitStep.senderNonce_of_frames {input : FrameInput} {e : InitEvent}
    (h : InitStep env s input e s') (hf : s.frames ≠ []) : s'.senderNonce = s.senderNonce := by
  cases h with
  | keyless hi hnil => exact absurd hnil hf
  | control | refused => rfl
  | answered hd hx ha => exact ha.nonce.kept (.inr hf)
  | entered hd hx ho hn => exact hn.kept (.inr hf)

theorem Started.step {e : Event} (h : Started s) (hs : MegaEvm.step env s e = some s') :
    Started s' ∧ s'.senderNonce = s.senderNonce := by
  cases step_spec hs with
  | init hp hi => exact ⟨started_init hi, hi.senderNonce_of_frames (h _ hp)⟩
  | stopped | resumed | returned => exact ⟨fun _ hin => (by cases hin), rfl⟩
  | @op f rest ev hp hf =>
    refine ⟨fun input hin => ?_, rfl⟩
    simp only [interpStep] at hin
    split at hin
    · cases hin
    · cases hin
  | opened hp hf =>
    refine ⟨fun input _ hnil => ?_, rfl⟩
    rw [hf] at hnil
    cases hnil
  | hand | finish => exact ⟨fun _ hin => (by cases hin), rfl⟩
  | @insert p hp hn =>
    cases hf : s.frames with
    | nil =>
      rw [insertResult_nil env p hf]
      exact ⟨fun _ hin => (by cases hin), rfl⟩
    | cons f rest =>
      rw [insertResult_cons env p hf]
      exact ⟨fun _ hin => (by cases hin), rfl⟩

theorem Started.run (h : Started s) (hr : Run.run (MegaEvm.step env) s es = some s') :
    s'.senderNonce = s.senderNonce := by
  have hinv : Started s' ∧ s'.senderNonce = s.senderNonce := by
    refine Run.invariant' (I := fun m => Started m ∧ m.senderNonce = s.senderNonce) ?_ ⟨h, rfl⟩ hr
    intro m e m' ⟨hm, hn⟩ hs
    obtain ⟨hm', hn'⟩ := hm.step hs
    exact ⟨hm', hn'.trans hn⟩
  exact hinv.2

end Later

section First

theorem frameInit_keyless {i : CallInputs} {e : InitEvent} (hk : isKeylessCall env s i = true)
    (h : frameInit env s (.call i) e = some s') :
    ∃ s₁ r, executeKeylessDeployCall env s i e.keyless = .answered s₁ r ∧
      s'.senderNonce = s₁.senderNonce := by
  have ht : i.targetAddress ≠ ORACLE_CONTRACT_ADDRESS := by
    simp only [isKeylessCall, Bool.and_eq_true, beq_iff_eq] at hk
    rw [hk.1.2]
    decide
  have hd : dispatchSystemContractInterceptors env s i e.keyless =
      executeKeylessDeployCall env s i e.keyless := by
    rw [dispatchSystemContractInterceptors, if_pos hk]
  unfold frameInit at h
  simp only [detected, detectOracle_of_ne ht, hd] at h
  cases hc : executeKeylessDeployCall env s i e.keyless with
  | no => exact absurd hc executeKeylessDeployCall_ne_no
  | panicked =>
    rw [hc] at h
    cases h
  | answered s₁ r =>
    rw [hc] at h
    cases h
    exact ⟨s₁, r, rfl, rfl⟩

theorem KeylessCall.senderNonce {i : CallInputs} {outcome : KeylessOutcome} {s₁ : State}
    {r : FrameResult} (h : KeylessCall env s i outcome s₁ r) :
    (r.instructionResult ≠ .return ∧ s₁.senderNonce = s.senderNonce) ∨
    ∃ output signer nonce, outcome = .completed output signer nonce ∧
      r.instructionResult = .return ∧
      s₁.senderNonce = if signer = env.tx.caller then nonce else s.senderNonce := by
  cases h with
  | outOfGas | halted | insufficient | rejected => exact .inl ⟨nofun, rfl⟩
  | completed output signer nonce ho => exact .inr ⟨output, signer, nonce, ho, rfl, rfl⟩

theorem senderNonce_call {i : CallInputs} {e : InitEvent} (hp : s.phase = .init (.call i))
    (h : frameInit env s (.call i) e = some s') (es : List Event) :
    s'.senderNonce = match completedDeployment env s (.init e :: es) with
      | some (signer, nonce) => if signer = env.tx.caller then nonce else s.senderNonce
      | none => s.senderNonce := by
  unfold completedDeployment
  simp only [hp]
  by_cases hk : isKeylessCall env s i = true
  · obtain ⟨s₁, r, hexec, hn⟩ := frameInit_keyless hk h
    rw [hk, hexec, hn]
    rcases (executeKeylessDeployCall_answered hexec).senderNonce with
      ⟨hr, hkept⟩ | ⟨output, signer, nonce, ho, hr, hset⟩
    · rw [hkept]
      cases e.keyless with
      | rejected => rfl
      | completed => simp [hr]
    · rw [hset, ho]
      simp [hr]
  · have hf : isKeylessCall env s i = false := by simpa using hk
    rw [hf]
    cases frameInit_step h with
    | keyless hi hnil h2 =>
      cases hi
      exact absurd h2 hk
    | control | refused => rfl
    | answered hd hx ha => exact ha.nonce.kept (.inl rfl)
    | entered hd hx ho hn => exact hn.kept (.inl rfl)

theorem openFrame_create (l : AdditionalLimit) (i : CreateInputs) (a b : Bool) :
    l.openFrame (.create i) a = l.openFrame (.create i) b := rfl

theorem senderNonce_create {i : CreateInputs} {e : InitEvent} (hf : s.frames = [])
    (hdep : env.isDeposit = false) (h : InitStep env s (.create i) e s') :
    s'.senderNonce = if (s.limit.openFrame (.create i) false).exceeded then s.senderNonce
      else s.senderNonce + 1 := by
  have hl : ∀ {l : AdditionalLimit}, Detected env s (.create i) l → l = s.limit :=
    fun hd => hd.limit.symm
  cases h with
  | keyless hi => cases hi
  | control v hi => cases hi
  | refused hd hx =>
    rw [hl hd, openFrame_create _ _ _ false] at hx
    rw [if_pos hx]
    rfl
  | answered hd hx ha =>
    rw [hl hd, openFrame_create _ _ _ false] at hx
    rw [hx]
    exact ha.nonce.bumped rfl hf hdep
  | entered hd hx ho hn =>
    rw [hl hd, openFrame_create _ _ _ false] at hx
    rw [hx]
    exact hn.bumped rfl hf hdep

end First

section Whole

theorem start_cases (h : start env ev = some s₀) : s₀.frames = [] ∧
    ((s₀.senderNonce = ev.nonce + 1 ∧ ((∃ i, s₀.phase = .init (.call i)) ∨
        ∃ p, s₀.phase = .done p ∧ p.result.isCreate = false)) ∨
      (s₀.senderNonce = ev.nonce ∧ ((∃ i, s₀.phase = .init (.create i)) ∨
        ∃ p, s₀.phase = .done p ∧ p.result.isCreate = true))) := by
  unfold start at h
  split at h
  · cases h
  · simp only [Option.map_eq_some_iff] at h
    obtain ⟨storageGas, -, rfl⟩ := h
    cases hk : env.tx.kind with
    | call target =>
      split
      · exact ⟨rfl, .inl ⟨rfl, .inr ⟨_, rfl, rfl⟩⟩⟩
      · exact ⟨rfl, .inl ⟨rfl, .inl ⟨_, by rw [firstFrameInput, hk]⟩⟩⟩
    | create =>
      split
      · exact ⟨rfl, .inr ⟨rfl, .inr ⟨_, rfl, rfl⟩⟩⟩
      · exact ⟨rfl, .inr ⟨rfl, .inl ⟨_, by rw [firstFrameInput, hk]⟩⟩⟩

theorem run_after_done (hp : s₀.phase = .done p) (hr : Run.run (step env) s₀ es = some s) :
    es = [] ∧ s = s₀ := by
  cases es with
  | nil =>
    have heq : s₀ = s := by simpa [Run.run] using hr
    exact ⟨rfl, heq.symm⟩
  | cons e es =>
    obtain ⟨m, hm, -⟩ := Run.run_cons.1 hr
    simp [step, hp] at hm

theorem run_first {input : FrameInput} (hi : s₀.phase = .init input)
    (hr : Run.run (step env) s₀ es = some s) (hp : s.phase = .done p) :
    ∃ e rest s₁, es = .init e :: rest ∧ frameInit env s₀ input e = some s₁ ∧
      s.senderNonce = s₁.senderNonce := by
  cases es with
  | nil =>
    obtain rfl : s₀ = s := by simpa [Run.run] using hr
    rw [hi] at hp
    cases hp
  | cons e rest =>
    obtain ⟨s₁, h₁, hrest⟩ := Run.run_cons.1 hr
    cases e with
    | tau | op => simp [step, hi] at h₁
    | init e =>
      have hinit : frameInit env s₀ input e = some s₁ := by simpa [step, hi] using h₁
      exact ⟨e, rest, s₁, rfl, hinit, (started_init (frameInit_step hinit)).run hrest⟩

theorem senderNonce_done (hdep : env.isDeposit = false) (hstart : start env ev = some s₀)
    (hr : Run.run (step env) s₀ es = some s) (hp : s.phase = .done p) :
    s.senderNonce = match completedDeployment env s₀ es with
      | some (signer, nonce) => if signer = env.tx.caller then nonce else ev.nonce + 1
      | none => if reachesFirstFrame s₀ then ev.nonce + 1 else ev.nonce := by
  obtain ⟨hf, ⟨hn, ⟨i, hi⟩ | ⟨q, hq, hc⟩⟩ | ⟨hn, ⟨i, hi⟩ | ⟨q, hq, hc⟩⟩⟩ := start_cases hstart
  · obtain ⟨e, rest, s₁, rfl, hinit, hlast⟩ := run_first hi hr hp
    rw [hlast, senderNonce_call hi hinit rest, hn]
    simp [reachesFirstFrame, hi]
  · obtain ⟨rfl, rfl⟩ := run_after_done hq hr
    simp [completedDeployment, reachesFirstFrame, hq, hc, hn]
  · obtain ⟨e, rest, s₁, rfl, hinit, hlast⟩ := run_first hi hr hp
    rw [hlast, senderNonce_create hf hdep (frameInit_step hinit), hn]
    cases hx : (s₀.limit.openFrame (.create i) false).exceeded with
    | true | false => simp [completedDeployment, reachesFirstFrame, hi, hx]
  · obtain ⟨rfl, rfl⟩ := run_after_done hq hr
    simp [completedDeployment, reachesFirstFrame, hq, hc, hn]

/-- A create that was validated bumps its sender's nonce exactly when it reaches
its first frame. -/
theorem senderNonce_of_create (hdep : env.isDeposit = false) (hk : env.tx.kind = .create)
    (hstart : start env ev = some s₀) (hr : Run.run (step env) s₀ es = some s)
    (hp : s.phase = .done p) :
    s.senderNonce = if reachesFirstFrame s₀ then ev.nonce + 1 else ev.nonce := by
  have hnone : completedDeployment env s₀ es = none := by
    unfold start at hstart
    split at hstart
    · cases hstart
    · simp only [Option.map_eq_some_iff] at hstart
      obtain ⟨storageGas, -, rfl⟩ := hstart
      split
      · rfl
      · simp [completedDeployment, firstFrameInput, hk]
  rw [senderNonce_done hdep hstart hr hp, hnone]

end Whole

/-- The sandbox transaction of a keyless deployment: a create of the signer, run
from nonce 0. A signer with a nonce above 1 was turned down. -/
structure Sandbox (env : Env) (s₀ : State) (signer : Address) (nonce : ℕ) (sandbox : State) :
    Prop where
  ran : ∃ env' ev' es' s' p', env'.tx.kind = .create ∧ env'.tx.caller = signer ∧
    env'.isDeposit = false ∧ ev'.nonce = 0 ∧ start env' ev' = some sandbox ∧
    Run.run (step env') sandbox es' = some s' ∧ s'.phase = .done p' ∧ s'.senderNonce = nonce
  fresh : signer = env.tx.caller → s₀.senderNonce ≤ 1

theorem Sandbox.nonce {signer : Address} {nonce : ℕ} {sandbox : State}
    (h : Sandbox env s₀ signer nonce sandbox) :
    nonce = if reachesFirstFrame sandbox then 1 else 0 := by
  obtain ⟨env', ev', es', s', p', hk, -, hdep, hzero, hstart, hr, hp, rfl⟩ := h.ran
  rw [senderNonce_of_create hdep hk hstart hr hp, hzero]

theorem start_deployment {signer : Address} {nonce : ℕ} (hstart : start env ev = some s₀)
    (hc : completedDeployment env s₀ es = some (signer, nonce)) :
    s₀.senderNonce = ev.nonce + 1 ∧ reachesFirstFrame s₀ = true := by
  obtain ⟨-, ⟨hn, ⟨i, hi⟩ | ⟨q, hq, -⟩⟩ | ⟨hn, ⟨i, hi⟩ | ⟨q, hq, -⟩⟩⟩ := start_cases hstart
  · exact ⟨hn, by simp [reachesFirstFrame, hi]⟩
  · simp [completedDeployment, hq] at hc
  · simp [completedDeployment, hi] at hc
  · simp [completedDeployment, hq] at hc

/-- A transaction that is no deposit bumps its sender's nonce by one exactly when
it reaches its first frame, as does the sandbox transaction of a keyless
deployment the sender signed itself. -/
theorem nonce_bumped_iff {sandbox : State} (hdep : env.isDeposit = false)
    (hstart : start env ev = some s₀) (hr : Run.run (step env) s₀ es = some s)
    (hp : s.phase = .done p)
    (hd : ∀ signer nonce, completedDeployment env s₀ es = some (signer, nonce) →
      Sandbox env s₀ signer nonce sandbox) :
    s.senderNonce = ev.nonce + 1 ↔ reachesFirstFrame s₀ = true ∧
      ∀ nonce, completedDeployment env s₀ es = some (env.tx.caller, nonce) →
        reachesFirstFrame sandbox = true := by
  rw [senderNonce_done hdep hstart hr hp]
  cases hc : completedDeployment env s₀ es with
  | none =>
    cases hreach : reachesFirstFrame s₀ with
    | true | false => simp
  | some d =>
    obtain ⟨signer, nonce⟩ := d
    obtain ⟨hn, hreach⟩ := start_deployment hstart hc
    have hsandbox := hd signer nonce hc
    by_cases hs : signer = env.tx.caller
    · have hzero : ev.nonce = 0 := by
        have hle := hsandbox.fresh hs
        omega
      have hnonce := hsandbox.nonce
      subst hs
      cases hb : reachesFirstFrame sandbox with
      | true =>
        rw [hb, if_pos rfl] at hnonce
        simp [hzero, hnonce, hreach]
      | false =>
        rw [hb] at hnonce
        simp [hzero, hnonce]
    · simp [hs, hreach]

section Deployment

/-- The sandbox transaction of a deployment that address 2 signed. Its init code
has five bytes, one of them zero: two PUSHes and a RETURN of one byte. -/
def deploymentEnv (gasLimit : ℕ) : Env :=
  { sampleEnv .rex4 .create .other gasLimit with
    tx := ⟨2, .create, 0, .other, 5, 17, 0, [], gasLimit⟩
    sandboxDisabled := true }

/-- 53000, 68 for the calldata and 2 for its word. -/
def deploymentStart (storageGas : ℕ) : StartEvent :=
  { sampleStart EvmTxRuntimeLimits.rex4 rex4_computeGas_fits with
    intrinsicGas := 53070
    storageGas := some storageGas
    nonce := 0 }

def deploymentReturn : OpEvent where
  opcode := .plain
  stack := [0, 1]
  slot := none
  targetEmpty := none
  storageGas := none
  hostCalled := false
  inner := .halt .return [0] 3 []
  opens := nofun
  ends := fun _ => rfl

def deploymentEvents : List Event :=
  [.init sampleInit, .tau, .op (samplePlain 3), .op (samplePlain 3), .op deploymentReturn,
    .tau, .tau, .tau, .tau]

def carrierEnv : Env :=
  sampleEnv .rex4 (.call KEYLESS_DEPLOY_ADDRESS) .keylessDeploy 1000000

def carrierStart : StartEvent :=
  { sampleStart EvmTxRuntimeLimits.rex4 rex4_computeGas_fits with nonce := 0 }

def carrierEvents : List Event :=
  [.init { sampleInit with keyless := .completed [] 2 1 }, .tau]

theorem nonce_bumped_iff_deployment :
    ∃ s p, Execution carrierEnv carrierStart carrierEvents s ∧ s.phase = .done p ∧
      s.senderNonce = carrierStart.nonce + 1 := by
  have hsandbox : (execute (deploymentEnv 1000000) (deploymentStart 0) deploymentEvents).map
      (fun s => (s.phase, s.senderNonce)) =
      some (.done ⟨⟨true, ⟨.return, [0], ⟨1000000, 897041⟩⟩⟩, []⟩, 1) := by decide
  have hcarrier : (execute carrierEnv carrierStart carrierEvents).map (fun s => s.phase) =
      some (.done ⟨callResult .return [] ⟨1000000, 840000⟩, []⟩) := by decide
  have hreach : (start (deploymentEnv 1000000) (deploymentStart 0)).map reachesFirstFrame = some true := by
    decide
  have hfirst : (start carrierEnv carrierStart).map (fun s =>
      (reachesFirstFrame s, completedDeployment carrierEnv s carrierEvents, s.senderNonce)) =
      some (true, some (2, 1), 1) := by decide
  obtain ⟨s', ⟨sandbox, hstart', hr'⟩, hf'⟩ := exists_execution hsandbox
  obtain ⟨s, ⟨s₀, hstart, hr⟩, hp⟩ := exists_execution hcarrier
  rw [hstart', Option.map_some, Option.some.injEq] at hreach
  rw [hstart, Option.map_some, Option.some.injEq] at hfirst
  obtain ⟨hfirst, hdeploy, hnonce⟩ : _ ∧ _ ∧ _ := by simpa using hfirst
  refine ⟨s, _, ⟨s₀, hstart, hr⟩, hp, (nonce_bumped_iff rfl hstart hr hp ?_).2
    ⟨hfirst, fun _ _ => hreach⟩⟩
  intro signer nonce hc
  rw [hdeploy, Option.some.injEq, Prod.mk.injEq] at hc
  obtain ⟨rfl, rfl⟩ := hc
  exact ⟨⟨deploymentEnv 1000000, deploymentStart 0, deploymentEvents, s', _, rfl, rfl, rfl, rfl, hstart',
    hr', (Prod.ext_iff.1 hf').1, (Prod.ext_iff.1 hf').2⟩, fun _ => hnonce.le⟩

/-- The storage gas of an account in a bucket of twice the minimal capacity. -/
def unpaidStart : StartEvent :=
  { sampleCreateStart EvmTxRuntimeLimits.rex4 rex4_computeGas_fits with storageGas := some 32000 }

/-- A create whose gas limit does not cover the storage gas of the new account
is charged, and keeps its nonce. -/
theorem nonce_not_bumped :
    ¬ ∀ env ev es s p, env.isDeposit = false → Execution env ev es s → s.phase = .done p →
      s.senderNonce = ev.nonce + 1 := by
  intro h
  have hrun : (execute (sampleEnv .rex4 .create .other 100000) unpaidStart []).map
      (fun s => (s.phase, s.senderNonce)) =
      some (.done ⟨⟨true, ⟨.outOfGas, [], .newSpent 100000⟩⟩, []⟩, 7) := by decide
  obtain ⟨s, hs, hf⟩ := exists_execution hrun
  have hn : s.senderNonce = 7 := (Prod.ext_iff.1 hf).2
  have hstep := h _ _ _ s _ rfl hs (Prod.ext_iff.1 hf).1
  rw [hn] at hstep
  cases hstep

end Deployment

end MegaEvm
