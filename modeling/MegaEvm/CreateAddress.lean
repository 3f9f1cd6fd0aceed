import MegaEvm.Instructions
import MegaEvm.NewAccountCharge
import Mathlib.Tactic.NormNum

/-!
# The address a creation is priced for

The storage gas of a creation depends on the bucket of the address it creates,
worked out before the creation is run: for an opcode from the creator's inspected
account and the memory as it is, for a transaction from its own nonce. The hashes
behind the addresses are not part of the repository.
-/

set_option autoImplicit false

namespace MegaEvm

open KeyedFold PartialWalk

/-- `keccak256`, `Address::create` and `Address::create2`. -/
structure AddressHash where
  keccak256 : Bytes → ℕ
  create : Address → ℕ → Address
  create2 : Address → ℕ → ℕ → Address

/-- Two nonces of one sender do not share an address. -/
def AddressHash.Distinct (hash : AddressHash) : Prop :=
  ∀ a n m, hash.create a n = hash.create a m → n = m

/-- How the pricing of a creation ends; `outOfBounds` is a slice outside the memory. -/
inductive Pricing where
  | halted (r : InstructionResult)
  | outOfBounds
  | priced (address : Address) (initcode : Option Bytes)
  deriving DecidableEq, Repr

section Memory

/-- `memory.slice_len`; `none` where its precondition fails, for an empty slice as well. -/
def sliceLen (memory : Bytes) (offset len : ℕ) : Option Bytes :=
  if offset + len ≤ memory.length then some ((memory.drop offset).take len) else none

/-- The code the interpreter takes, once it has resized the memory. -/
def initcode (memory : Bytes) (offset len : ℕ) : Bytes :=
  if len = 0 then []
  else ((memory ++ List.replicate (offset + len - memory.length) 0).drop offset).take len

theorem sliceLen_eq_some {memory code : Bytes} {offset len : ℕ}
    (h : sliceLen memory offset len = some code) : code = initcode memory offset len := by
  unfold sliceLen at h
  split at h
  · rename_i hle
    cases h
    unfold initcode
    split
    · rename_i hz
      rw [hz, List.take_zero]
    · rw [Nat.sub_eq_zero_of_le hle, List.replicate_zero, List.append_nil]
  · cases h

theorem sliceLen_eq_none {memory : Bytes} {offset len : ℕ} :
    sliceLen memory offset len = none ↔ ¬ offset + len ≤ memory.length := by
  unfold sliceLen
  split <;> simp [*]

end Memory

section Opcode

variable (hash : AddressHash)

/-- `storage_gas_ext::create` up to the price. `creator` is the executing contract and
`inspected` what its inspection returns. -/
def createPricing (isCreate2 : Bool) (creator : Address) (inspected : Option AccountInfo)
    (stack : List ℕ) (memory : Bytes) : Pricing :=
  match inspected with
  | none => .halted .fatalExternalError
  | some info =>
    if isCreate2 then
      match stack[1]? with
      | none => .halted .stackUnderflow
      | some offset =>
        match stack[2]? with
        | none => .halted .stackUnderflow
        | some len =>
          if offset > u64Max then .halted .invalidOperandOOG
          else if len > u64Max then .halted .invalidOperandOOG
          else
            match sliceLen memory offset len with
            | none => .outOfBounds
            | some code =>
              match stack[3]? with
              | none => .halted .stackUnderflow
              | some salt => .priced (hash.create2 creator salt (hash.keccak256 code)) (some code)
    else .priced (hash.create creator info.nonce) none

def createdAddress (isCreate2 : Bool) (creator : Address) (nonce : ℕ) (stack : List ℕ)
    (memory : Bytes) : Option Address :=
  if isCreate2 then
    match stack[1]?, stack[2]?, stack[3]? with
    | some offset, some len, some salt =>
      some (hash.create2 creator salt (hash.keccak256 (initcode memory offset len)))
    | _, _, _ => none
  else some (hash.create creator nonce)

/-- The range the opcode names lies inside the memory, or does not get that far: an operand
is missing or above 64 bits. -/
def InMemory (stack : List ℕ) (memory : Bytes) : Prop :=
  ∀ offset len, stack[1]? = some offset → stack[2]? = some len → offset ≤ u64Max →
    len ≤ u64Max → offset + len ≤ memory.length

variable {hash} {creator : Address} {inspected : Option AccountInfo} {stack : List ℕ}
  {memory : Bytes}

theorem createPricing_outOfBounds :
    createPricing hash true creator inspected stack memory = .outOfBounds ↔
      inspected.isSome = true ∧ ¬ InMemory stack memory := by
  unfold createPricing InMemory
  cases inspected with
  | none => simp
  | some info =>
    cases ho : stack[1]? with
    | none => simp
    | some offset =>
      cases hl : stack[2]? with
      | none => simp
      | some len =>
        by_cases hou : offset > u64Max
        · simp [hou, Nat.not_le.2 hou]
        · by_cases hlu : len > u64Max
          · simp [hou, hlu, Nat.not_le.2 hlu]
          · have hou' : offset ≤ u64Max := Nat.not_lt.1 hou
            have hlu' : len ≤ u64Max := Nat.not_lt.1 hlu
            simp only [if_true, if_neg hou, if_neg hlu]
            cases hs : sliceLen memory offset len with
            | none =>
              have hn := sliceLen_eq_none.1 hs
              simp [hou', hlu', Nat.not_le.1 hn]
            | some code =>
              have hin : offset + len ≤ memory.length := by
                by_contra hn
                rw [sliceLen_eq_none.2 hn] at hs
                cases hs
              cases stack[3]? <;> simp [hin]

theorem createPricing_initcode {address : Address} {code : Bytes}
    (h : createPricing hash true creator inspected stack memory = .priced address (some code)) :
    ∃ offset len salt, stack[1]? = some offset ∧ stack[2]? = some len ∧ stack[3]? = some salt ∧
      code = initcode memory offset len ∧
      address = hash.create2 creator salt (hash.keccak256 code) := by
  unfold createPricing at h
  cases inspected with
  | none => cases h
  | some info =>
    simp only [if_true] at h
    cases ho : stack[1]? with
    | none => simp [ho] at h
    | some offset =>
      cases hl : stack[2]? with
      | none => simp [ho, hl] at h
      | some len =>
        simp only [ho, hl] at h
        split at h
        · cases h
        · split at h
          · cases h
          · cases hs : sliceLen memory offset len with
            | none => simp [hs] at h
            | some code' =>
              cases h3 : stack[3]? with
              | none => simp [hs, h3] at h
              | some salt =>
                simp only [hs, h3, Pricing.priced.injEq, Option.some.injEq] at h
                obtain ⟨rfl, rfl⟩ := h
                exact ⟨offset, len, salt, rfl, rfl, rfl, sliceLen_eq_some hs, rfl⟩

/-- The slice is inside the memory and what is hashed is the code the opcode takes iff the
operands name a range inside the memory as it is. -/
theorem create2_reads_memory_iff (hash : AddressHash) (creator : Address)
    (inspected : Option AccountInfo) (stack : List ℕ) (memory : Bytes) :
    (createPricing hash true creator inspected stack memory ≠ .outOfBounds ∧
        ∀ address code,
          createPricing hash true creator inspected stack memory = .priced address (some code) →
          ∃ offset len, stack[1]? = some offset ∧ stack[2]? = some len ∧
            code = initcode memory offset len) ↔
      (inspected = none ∨ InMemory stack memory) := by
  constructor
  · rintro ⟨hne, -⟩
    by_contra hn
    rw [not_or] at hn
    exact hne (createPricing_outOfBounds.2 ⟨Option.isSome_iff_ne_none.2 hn.1, hn.2⟩)
  · intro hin
    constructor
    · intro ho
      obtain ⟨hsome, hout⟩ := createPricing_outOfBounds.1 ho
      rcases hin with rfl | hin
      · cases hsome
      · exact hout hin
    · intro address code hp
      obtain ⟨offset, len, salt, ho, hl, -, hc, -⟩ := createPricing_initcode hp
      exact ⟨offset, len, ho, hl, hc⟩

def sampleCreator : Address := 0x6ac7ea33f8831ea9dcc53393aaa88b25a785dbf0

def sampleHash : AddressHash where
  keccak256 _ := KECCAK_EMPTY
  create a n :=
    if a = sampleCreator ∧ n = 0 then 0xcd234a471b72ba2f1ccf0a70fcaba648a5eecd8d
    else if a = sampleCreator ∧ n = 1 then 0x343c43a37d37dff08ae8c4a11544c718abb4fcf8
    else 2 ^ 160 + n
  create2 _ _ _ := 0

/-- A CREATE2 with fresh memory, of 32 bytes from its start. -/
theorem create2_slices_outside : ¬ ∀ (stack : List ℕ) (memory : Bytes),
    createPricing sampleHash true 1 (some default) stack memory ≠ .outOfBounds := by
  intro h
  exact h [0, 0, 32, 0] [] (by decide)

end Opcode

namespace Journal

section Creation

variable {E : Type} (hash : AddressHash) (db : Database E) (spec : MegaSpecId) (fuel : ℕ)

structure Creation where
  pricing : Pricing
  created : Option Address

def Creation.Agrees (c : Creation) : Prop :=
  ∀ address code created, c.pricing = .priced address code → c.created = some created →
    address = created

/-- CREATE and CREATE2 of the contract at `creator`: the wrapper inspects the creator, the
frame takes the nonce of its account. An inspection that fails ends the frame. -/
def createOp (isCreate2 : Bool) (journal : Journal) (creator : Address) (stack : List ℕ)
    (memory : Bytes) : Option (Except E Creation) :=
  match inspectAccountDelegated db spec fuel journal creator with
  | none => none
  | some (.error e) => some (.error e)
  | some (.ok (next, found)) =>
    let inspected := (next.state.lookup found).map (·.info)
    match loadedAccount db next creator with
    | .error e => some (.error e)
    | .ok (own, _) =>
      some (.ok ⟨createPricing hash isCreate2 creator inspected stack memory,
        createdAddress hash isCreate2 creator own.info.nonce stack memory⟩)

/-- A create transaction; the nonce of a deposit is not checked. -/
structure CreateTx where
  caller : Address
  nonce : ℕ
  callerBalance : ℕ
  accessList : AccessList
  isDeposit : Bool
  disableNonceCheck : Bool

/-- The sender's nonce is left for the frame to bump. -/
def CreateTx.preExecution (tx : CreateTx) : List Op :=
  [.loadAccount tx.caller false, .change tx.caller (.setBalance tx.callerBalance)] ++
    tx.accessList.loaded.map (.loadAccount · false)

/-- `validate` prices the nonce of the transaction, the frame creates at the nonce of the
account. `none` is a nonce that is rejected. -/
def createTx (tx : CreateTx) (journal : Journal) : Except (Fault E) (Option Creation) :=
  let priced := hash.create tx.caller tx.nonce
  match Op.runAll db spec fuel tx.preExecution journal with
  | .error e => .error e
  | .ok (_, journal) =>
    match loadedAccount db journal tx.caller with
    | .error e => .error (.database e)
    | .ok (own, _) =>
      if !tx.isDeposit && !tx.disableNonceCheck && own.info.nonce != tx.nonce then .ok none
      else .ok (some ⟨.priced priced none, some (hash.create tx.caller own.info.nonce)⟩)

def nonceAt (journal : Journal) (address : Address) : Except E ℕ :=
  (bareInfo db journal address).map (·.nonce)

def Running (journal : Journal) (address : Address) : Prop :=
  ∃ account, journal.state.lookup address = some account ∧
    account.isCold journal.transactionId = false

/-- The account at the end of the creator's delegation has the creator's own nonce. -/
def SameNonce (journal : Journal) (creator : Address) : Prop :=
  ∀ found, stopAt spec (shown db journal) fuel creator = some (.ok found) →
    nonceAt db journal found = nonceAt db journal creator

variable {hash db spec fuel} {journal : Journal} {creator : Address}

theorem Running.current (h : Running journal creator) : journal.Current creator := by
  intro account hl hc
  obtain ⟨account', hl', hw⟩ := h
  cases hl.symm.trans hl'
  cases hc.symm.trans hw

theorem nonceAt_of_bare {info : AccountInfo} (h : bareInfo db journal creator = .ok info.bare) :
    nonceAt db journal creator = .ok info.nonce := by
  rw [nonceAt, h]
  rfl

theorem create2_agrees {inspected : Option AccountInfo} {nonce : ℕ} {stack : List ℕ}
    {memory : Bytes} :
    Creation.Agrees ⟨createPricing hash true creator inspected stack memory,
      createdAddress hash true creator nonce stack memory⟩ := by
  intro address code created hp hc
  cases code with
  | none =>
    exfalso
    simp only [createPricing, if_true] at hp
    repeat (first | split at hp | cases hp)
  | some code =>
    obtain ⟨offset, len, salt, ho, hl, hs, rfl, rfl⟩ := createPricing_initcode hp
    simp only [createdAddress, if_true, ho, hl, hs, Option.some.injEq] at hc
    exact hc

theorem createOp_agrees_iff (hdist : hash.Distinct) {isCreate2 : Bool} {stack : List ℕ}
    {memory : Bytes} {c : Creation} (hrun : Running journal creator)
    (h : createOp hash db spec fuel isCreate2 journal creator stack memory = some (.ok c)) :
    c.Agrees ↔ isCreate2 = true ∨ SameNonce db spec fuel journal creator := by
  unfold createOp at h
  split at h
  · cases h
  · cases h
  · rename_i next found hi
    obtain ⟨account, hheld, hentry⟩ := inspectAccountDelegated_entered hi
    have hk := inspectAccountDelegated_kept hi
    have hstop := inspectAccountDelegated_stopAt hi
    cases hl : loadedAccount db next creator with
    | error e => simp [hl] at h
    | ok r =>
      obtain ⟨own, isCold⟩ := r
      simp only [hl, hentry, Option.map_some, Option.some.injEq, Except.ok.injEq] at h
      subst h
      cases isCreate2 with
      | true => simp [create2_agrees]
      | false =>
        have hb := loadedAccount_bare (hk.clean creator hrun.current) hl
        rw [hk.bare] at hb
        have hown := nonceAt_of_bare hb
        have hfound := nonceAt_of_bare (bareInfo_held hheld)
        have hagree : Creation.Agrees ⟨createPricing hash false creator (some account.info) stack memory,
            createdAddress hash false creator own.info.nonce stack memory⟩ ↔
              account.info.nonce = own.info.nonce := by
          constructor
          · intro ha
            exact hdist creator _ _ (ha _ _ _ rfl rfl)
          · rintro he address code created hp hc
            cases hp
            cases hc
            rw [he]
        rw [hagree]
        constructor
        · intro he
          refine .inr fun found' hf => ?_
          cases hstop.symm.trans hf
          rw [hfound, hown, he]
        · rintro (ht | hs)
          · cases ht
          · have he := hs found hstop
            rw [hfound, hown] at he
            exact Except.ok.inj he

theorem createTx_quiet (tx : CreateTx) : ∀ op ∈ tx.preExecution, op.quiet = true := by
  intro op hop
  simp only [CreateTx.preExecution, List.mem_append, List.mem_cons, List.not_mem_nil, or_false,
    List.mem_map] at hop
  rcases hop with (rfl | rfl) | ⟨b, -, rfl⟩ <;> rfl

theorem keepsNonce_run {ops : List Op} {answers : List Answer} {last : Journal}
    (hn : NoLeftovers journal) (hq : ∀ op ∈ ops, op.quiet = true)
    (hk : ∀ op ∈ ops, ∀ a c, op = .change a c → ∃ b, c = .setBalance b)
    (h : Op.runAll db spec fuel ops journal = .ok (answers, last)) (a : Address) :
    NoLeftovers last ∧ nonceAt db last a = nonceAt db journal a := by
  induction ops generalizing journal answers with
  | nil =>
    cases h
    exact ⟨hn, rfl⟩
  | cons op ops ih =>
    obtain ⟨answer, next, rest, he, hr⟩ := runAll_ok h
    have hop := hq op List.mem_cons_self
    obtain ⟨hclean, hsame⟩ := ih (quiet_clean hop hn he)
      (fun o ho => hq o (List.mem_cons_of_mem _ ho))
      (fun o ho => hk o (List.mem_cons_of_mem _ ho)) hr
    refine ⟨hclean, hsame.trans ?_⟩
    by_cases ha : op.changed = some a
    · cases op with
      | change address c =>
        cases ha
        obtain ⟨balance, rfl⟩ := hk _ List.mem_cons_self _ _ rfl
        obtain ⟨shown, -, hc⟩ := answered_ok he
        obtain ⟨account, hl, hs, -⟩ := change_inserted hc
        have hnext : bareInfo db next a = .ok ((Change.setBalance balance).apply account).info.bare := by
          rw [bareInfo_congr hs, bareInfo_insert]
        have hold : bareInfo db journal a = .ok account.info.bare := by
          simp [bareInfo, hl]
        rw [nonceAt_of_bare hnext, nonceAt_of_bare hold]
        rfl
      | _ => cases ha
    · rw [nonceAt, nonceAt, quiet_unchanged hop hn he ha]

theorem createTx_agrees_iff (hdist : hash.Distinct) {tx : CreateTx} {c : Creation}
    (hn : NoLeftovers journal) (h : createTx hash db spec fuel tx journal = .ok (some c)) :
    c.Agrees ↔ nonceAt db journal tx.caller = .ok tx.nonce := by
  unfold createTx at h
  cases hr : Op.runAll db spec fuel tx.preExecution journal with
  | error e => simp [hr] at h
  | ok r =>
    obtain ⟨answers, last⟩ := r
    have hset : ∀ op ∈ tx.preExecution, ∀ a c, op = .change a c → ∃ b, c = .setBalance b := by
      intro op hop a c heq
      simp only [CreateTx.preExecution, List.mem_append, List.mem_cons, List.not_mem_nil, or_false,
        List.mem_map] at hop
      rcases hop with (rfl | rfl) | ⟨b, -, rfl⟩
      · cases heq
      · cases heq
        exact ⟨_, rfl⟩
      · cases heq
    obtain ⟨hclean, hsame⟩ := keepsNonce_run hn (createTx_quiet tx) hset hr tx.caller
    cases hl : loadedAccount db last tx.caller with
    | error e => simp [hr, hl] at h
    | ok r =>
      obtain ⟨own, isCold⟩ := r
      have hown := nonceAt_of_bare (loadedAccount_bare (hclean tx.caller) hl)
      rw [hsame] at hown
      simp only [hr, hl] at h
      split at h
      · cases h
      · cases h
        rw [hown]
        constructor
        · intro ha
          rw [hdist tx.caller _ _ (ha _ _ _ rfl rfl)]
        · intro he address code created hp hc
          cases hp
          cases hc
          rw [Except.ok.inj he]

/-- CREATE2 is priced for the address it creates. CREATE is iff the end of the creator's
delegation has the creator's nonce, a create transaction iff its nonce is the account's. -/
theorem priced_for_created_iff (hash : AddressHash) (hdist : hash.Distinct) (db : Database E)
    (spec : MegaSpecId) (fuel : ℕ) (journal : Journal) :
    (∀ isCreate2 creator stack memory c, Running journal creator →
        createOp hash db spec fuel isCreate2 journal creator stack memory = some (.ok c) →
        (c.Agrees ↔ isCreate2 = true ∨ SameNonce db spec fuel journal creator)) ∧
      ∀ tx c, NoLeftovers journal → createTx hash db spec fuel tx journal = .ok (some c) →
        (c.Agrees ↔ nonceAt db journal tx.caller = .ok tx.nonce) := by
  constructor
  · intro isCreate2 creator stack memory c hrun h
    exact createOp_agrees_iff hdist hrun h
  · intro tx c hn h
    exact createTx_agrees_iff hdist hn h

theorem sampleHash_distinct : sampleHash.Distinct := by
  intro a n m h
  by_cases ha : a = sampleCreator
  · subst ha
    have hbig : ∀ c k : ℕ, c < 2 ^ 160 → c ≠ 2 ^ 160 + k := fun c k hc => by omega
    match n, m with
    | 0, 0 => rfl
    | 1, 1 => rfl
    | 0, 1 => exact absurd h (by decide)
    | 1, 0 => exact absurd h (by decide)
    | 0, m + 2 => exact absurd (by simpa [sampleHash] using h) (hbig _ (m + 2) (by norm_num))
    | 1, m + 2 => exact absurd (by simpa [sampleHash] using h) (hbig _ (m + 2) (by norm_num))
    | n + 2, 0 => exact absurd (by simpa [sampleHash] using h.symm) (hbig _ (n + 2) (by norm_num))
    | n + 2, 1 => exact absurd (by simpa [sampleHash] using h.symm) (hbig _ (n + 2) (by norm_num))
    | n + 2, m + 2 => simpa [sampleHash] using h
  · simpa [sampleHash, ha] using h

def sampleContract : Journal :=
  ⟨(∅ : EvmState).insert sampleCreator ⟨⟨0, 1, 1, some [0]⟩, 0, ∅, default⟩, 0, [], [[]]⟩

/-- A contract of nonce 1 creates, and so does a sender of nonce 0. -/
theorem priced_for_created_plain :
    (∃ c, createOp sampleHash emptyDatabase .rex4 0 false sampleContract sampleCreator [0, 0, 0] [] =
        some (.ok c) ∧ c.created = some 0x343c43a37d37dff08ae8c4a11544c718abb4fcf8 ∧ c.Agrees) ∧
      ∃ c, createTx sampleHash emptyDatabase .rex4 0 ⟨sampleCreator, 0, 0, [], false, false⟩
          emptyJournal = .ok (some c) ∧
        c.created = some 0xcd234a471b72ba2f1ccf0a70fcaba648a5eecd8d ∧ c.Agrees := by
  constructor
  · refine ⟨_, rfl, by decide, ((priced_for_created_iff sampleHash sampleHash_distinct emptyDatabase
      .rex4 0 sampleContract).1 false sampleCreator [0, 0, 0] [] _ ⟨_, rfl, rfl⟩ rfl).2 ?_⟩
    refine .inr fun found hf => ?_
    cases hf
    rfl
  · refine ⟨_, rfl, by decide, ((priced_for_created_iff sampleHash sampleHash_distinct emptyDatabase
      .rex4 0 emptyJournal).2 ⟨sampleCreator, 0, 0, [], false, false⟩ _ ?_ rfl).2 rfl⟩
    intro a account h
    cases h

/-- A creator that delegates is priced at the nonce of its delegate, a deposit at nonce 0. -/
theorem delegated_creator_mispriced :
    (¬ ∀ c, createOp sampleHash (delegationDb true [(sampleCreator, 2)]) .rex4 0 false
        ⟨(∅ : EvmState).insert sampleCreator
          ⟨⟨0, 1, 1, some (eip7702Code 2)⟩, 0, ∅, default⟩, 0, [], [[]]⟩
        sampleCreator [0, 0, 0] [] = some (.ok c) → c.Agrees) ∧
      ¬ ∀ c, createTx sampleHash (delegationDb true [(sampleCreator, 2)]) .rex4 0
        ⟨sampleCreator, 0, 0, [], true, false⟩ emptyJournal = .ok (some c) → c.Agrees := by
  constructor
  · intro h
    have hc := h _ rfl _ _ _ rfl rfl
    exact absurd hc (by decide)
  · intro h
    have hc := h _ rfl _ _ _ rfl rfl
    exact absurd hc (by decide)

end Creation

end Journal

end MegaEvm
