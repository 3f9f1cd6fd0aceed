import MegaEvm.Library.Fallible
import MegaEvm.TxEnvelope

/-!
# The transactions of a state transition

A transition is given its transactions as records of optional fields. Each is turned
into a signed envelope, whose hash goes into the receipt, and apart from that into the
environment it runs in. The two read different fields.
-/

set_option autoImplicit false

namespace MegaEvm.T8n

open Fallible

inductive TransactionConversionError where
  | unsupportedType (txType : ℕ)
  | missingField (field : String)
  | invalidSignature (reason : String)
  | eip7702CannotBeCreate
  deriving DecidableEq, Repr

structure Transaction where
  txType : Option ℕ
  chainId : Option ℕ
  nonce : ℕ
  gasPrice : Option ℕ
  maxFeePerGas : Option ℕ
  maxPriorityFeePerGas : Option ℕ
  gas : ℕ
  target : Option Address
  value : ℕ
  data : Bytes
  accessList : Option AccessList
  authorizationList : Option (List SignedAuthorization)
  maxFeePerBlobGas : Option ℕ
  blobVersionedHashes : List ℕ
  v : ℕ
  r : ℕ
  s : ℕ
  secretKey : Option ℕ
  deriving DecidableEq, Repr

def tryIntoU64 (n : ℕ) : Option ℕ := if n < 2 ^ 64 then some n else none

def required {α : Type} (field : String) : Option α → Except TransactionConversionError α
  | some a => .ok a
  | none => .error (.missingField field)

namespace Transaction

def eip155Base (chainId : ℕ) : ℕ := (chainId * 2 + 35) % 2 ^ 64

def toSignature (tx : Transaction) : Except TransactionConversionError Signature :=
  match tx.chainId with
  | some chainId =>
    match tryIntoU64 chainId with
    | none => .error (.invalidSignature "chain_id too large")
    | some chainIdU64 =>
      match tryIntoU64 tx.v with
      | none => .error (.invalidSignature "v value too large")
      | some vU64 =>
        let yParity :=
          if eip155Base chainIdU64 ≤ vU64 then decide (vU64 - eip155Base chainIdU64 = 1)
          else decide (vU64 = 28)
        .ok ⟨tx.r, tx.s, yParity⟩
  | none =>
    match tryIntoU64 tx.v with
    | none => .error (.invalidSignature "v value too large")
    | some vU64 => .ok ⟨tx.r, tx.s, decide (vU64 = 28)⟩

def kind (tx : Transaction) : TxKind :=
  match tx.target with
  | some addr => .call addr
  | none => .create

def legacyTx (tx : Transaction) : Except TransactionConversionError TxLegacy := do
  let gasPrice ← required "gas_price" tx.gasPrice
  return { chainId := tx.chainId.bind tryIntoU64, nonce := tx.nonce, gasPrice := gasPrice,
           gasLimit := tx.gas, kind := tx.kind, value := tx.value, input := tx.data }

def eip2930Tx (tx : Transaction) : Except TransactionConversionError TxEip2930 := do
  let chainId ← required "chain_id" (tx.chainId.bind tryIntoU64)
  let gasPrice ← required "gas_price" tx.gasPrice
  return { chainId := chainId, nonce := tx.nonce, gasPrice := gasPrice, gasLimit := tx.gas,
           kind := tx.kind, value := tx.value, accessList := tx.accessList.getD [],
           input := tx.data }

def eip1559Tx (tx : Transaction) : Except TransactionConversionError TxEip1559 := do
  let chainId ← required "chain_id" (tx.chainId.bind tryIntoU64)
  let maxFeePerGas ← required "max_fee_per_gas" tx.maxFeePerGas
  let maxPriorityFeePerGas ← required "max_priority_fee_per_gas" tx.maxPriorityFeePerGas
  return { chainId := chainId, nonce := tx.nonce, gasLimit := tx.gas,
           maxFeePerGas := maxFeePerGas, maxPriorityFeePerGas := maxPriorityFeePerGas,
           kind := tx.kind, value := tx.value, accessList := tx.accessList.getD [],
           input := tx.data }

def eip7702Tx (tx : Transaction) : Except TransactionConversionError TxEip7702 := do
  let chainId ← required "chain_id" (tx.chainId.bind tryIntoU64)
  let maxFeePerGas ← required "max_fee_per_gas" tx.maxFeePerGas
  let maxPriorityFeePerGas ← required "max_priority_fee_per_gas" tx.maxPriorityFeePerGas
  match tx.target with
  | none => .error .eip7702CannotBeCreate
  | some toAddr => do
    let authorizationList ← required "authorization_list" tx.authorizationList
    return { chainId := chainId, nonce := tx.nonce, gasLimit := tx.gas,
             maxFeePerGas := maxFeePerGas, maxPriorityFeePerGas := maxPriorityFeePerGas,
             target := toAddr, value := tx.value, accessList := tx.accessList.getD [],
             authorizationList := authorizationList, input := tx.data }

def toEnvelope (tx : Transaction) : Except TransactionConversionError MegaTxEnvelope := do
  let signature ← tx.toSignature
  match tx.txType.getD 0 with
  | 0 => return .legacy (← tx.legacyTx) signature
  | 1 => return .eip2930 (← tx.eip2930Tx) signature
  | 2 => return .eip1559 (← tx.eip1559Tx) signature
  | 3 => .error (.unsupportedType 3)
  | 4 => return .eip7702 (← tx.eip7702Tx) signature
  | txType => .error (.unsupportedType txType)

end Transaction

/-- A rejected transaction goes on record; a panic ends the tool. -/
inductive ConversionFailure where
  | invalidTransaction (text : String)
  | panics (text : String)
  deriving DecidableEq, Repr

/-- The key of a secret, and how a secret is printed. -/
structure SecretKeys where
  recoverAddress : ℕ → Option Address
  debug : ℕ → String

def SecretKeys.recoverAddressFromSecretKey (keys : SecretKeys) (secretKey : ℕ) :
    Except ConversionFailure Address :=
  match keys.recoverAddress secretKey with
  | some address => .ok address
  | none => .error (.invalidTransaction
      ("Failed to recover address from secret key: " ++ keys.debug secretKey))

namespace Transaction

variable (keys : SecretKeys)

def caller (tx : Transaction) : Except ConversionFailure Address :=
  match tx.secretKey with
  | some secretKey => keys.recoverAddressFromSecretKey secretKey
  | none => .error (.invalidTransaction "Missing secret key for transaction")

def blobGasFee (tx : Transaction) : Except ConversionFailure ℕ :=
  match tx.maxFeePerBlobGas with
  | none => .ok (2 ^ 128 - 1)
  | some fee => if fee < 2 ^ 128 then .ok fee else .error (.panics "max fee less than u128::MAX")

def envChainId (tx : Transaction) : Except ConversionFailure (Option ℕ) :=
  match tx.chainId with
  | none => .ok none
  | some chainId =>
    if chainId < 2 ^ 64 then .ok (some chainId) else .error (.panics "chain id out of range")

def convertTransactionToEnv (tx : Transaction) : Except ConversionFailure TxEnv := do
  let caller ← tx.caller keys
  let maxFeePerBlobGas ← tx.blobGasFee
  let chainId ← tx.envChainId
  return { caller := caller
           gasPrice := (tx.gasPrice.or tx.maxFeePerGas).getD 0
           gasPriorityFee := tx.maxPriorityFeePerGas
           blobHashes := tx.blobVersionedHashes
           maxFeePerBlobGas := maxFeePerBlobGas
           txType := tx.txType.getD 0
           gasLimit := tx.gas
           data := tx.data
           nonce := tx.nonce
           value := tx.value
           accessList := tx.accessList.getD []
           authorizationList := (tx.authorizationList.getD []).map .left
           kind := tx.kind
           chainId := chainId }

/-! ## Signatures -/

theorem eip155Base_of_lt {chainId : ℕ} (h : chainId * 2 + 35 < 2 ^ 64) :
    eip155Base chainId = chainId * 2 + 35 := Nat.mod_eq_of_lt h

theorem toSignature_eip155 (tx : Transaction) {chainId : ℕ} (parity : Bool)
    (hchain : tx.chainId = some chainId) (hv : tx.v = chainId * 2 + 35 + parity.toNat) :
    (tx.v < 2 ^ 64 → tx.toSignature = .ok ⟨tx.r, tx.s, parity⟩) ∧
      (2 ^ 64 ≤ tx.v → ∃ reason, tx.toSignature = .error (.invalidSignature reason)) := by
  constructor
  · intro hlt
    have hbase : eip155Base chainId = chainId * 2 + 35 := eip155Base_of_lt (by omega)
    have hchainlt : chainId < 2 ^ 64 := by omega
    have hle : chainId * 2 + 35 ≤ tx.v := by omega
    have hdiff : tx.v - (chainId * 2 + 35) = parity.toNat := by omega
    simp only [toSignature, hchain, tryIntoU64, if_pos hchainlt, if_pos hlt, hbase, if_pos hle, hdiff]
    cases parity <;> rfl
  · intro hge
    have hv64 : ¬ tx.v < 2 ^ 64 := by omega
    simp only [toSignature, hchain, tryIntoU64, if_neg hv64]
    by_cases hlt : chainId < 2 ^ 64
    · exact ⟨"v value too large", by rw [if_pos hlt]⟩
    · exact ⟨"chain_id too large", by rw [if_neg hlt]⟩

theorem toSignature_below (tx : Transaction) {chainId : ℕ} (hchain : tx.chainId = some chainId)
    (hfits : chainId * 2 + 35 < 2 ^ 64) (hv : tx.v < chainId * 2 + 35) :
    tx.toSignature = .ok ⟨tx.r, tx.s, decide (tx.v = 28)⟩ := by
  have hbase := eip155Base_of_lt hfits
  have hchainlt : chainId < 2 ^ 64 := by omega
  have hvlt : tx.v < 2 ^ 64 := by omega
  have hnot : ¬ chainId * 2 + 35 ≤ tx.v := by omega
  simp only [toSignature, hchain, tryIntoU64, if_pos hchainlt, if_pos hvlt, hbase, if_neg hnot]

/-- How the parity of a signature is read on a chain. The chain's own form is read back or
refused for its size, the form before it is read back, and a bare parity is always read as
even. -/
theorem signature_parity (tx : Transaction) (chainId : ℕ) (parity : Bool)
    (hchain : tx.chainId = some chainId) :
    (tx.v = chainId * 2 + 35 + parity.toNat →
      (tx.v < 2 ^ 64 ∧ tx.toSignature = .ok ⟨tx.r, tx.s, parity⟩) ∨
        (2 ^ 64 ≤ tx.v ∧ ∃ reason, tx.toSignature = .error (.invalidSignature reason))) ∧
    (chainId * 2 + 35 < 2 ^ 64 →
      (tx.v = 27 + parity.toNat → tx.toSignature = .ok ⟨tx.r, tx.s, parity⟩) ∧
      (tx.v = parity.toNat → tx.toSignature = .ok ⟨tx.r, tx.s, false⟩)) := by
  have hparity : parity.toNat ≤ 1 := Bool.toNat_le parity
  constructor
  · intro hv
    obtain ⟨hread, hrefused⟩ := tx.toSignature_eip155 parity hchain hv
    rcases Nat.lt_or_ge tx.v (2 ^ 64) with hlt | hge
    · exact .inl ⟨hlt, hread hlt⟩
    · exact .inr ⟨hge, hrefused hge⟩
  · intro hfits
    constructor
    · intro hv
      rw [tx.toSignature_below hchain hfits (by omega), hv]
      cases parity <;> rfl
    · intro hv
      rw [tx.toSignature_below hchain hfits (by omega), hv]
      cases parity <;> rfl

def sampleTx : Transaction where
  txType := some 2
  chainId := some 6342
  nonce := 3
  gasPrice := none
  maxFeePerGas := some 1000
  maxPriorityFeePerGas := some 2
  gas := 21000
  target := some 7
  value := 5
  data := []
  accessList := none
  authorizationList := none
  maxFeePerBlobGas := none
  blobVersionedHashes := []
  v := 1
  r := 11
  s := 12
  secretKey := some 9

/-- The odd signature of a fee market transaction is taken for an even one. -/
theorem signature_parity_sample : sampleTx.toSignature = .ok ⟨11, 12, false⟩ :=
  ((sampleTx.signature_parity 6342 true rfl).2 (by decide)).2 rfl

theorem chainId_lt (tx : Transaction) {signature : Signature} {chainId : ℕ}
    (h : tx.toSignature = .ok signature) (hchain : tx.chainId = some chainId) :
    chainId < 2 ^ 64 := by
  unfold toSignature at h
  rw [hchain] at h
  by_contra hge
  simp only [tryIntoU64, if_neg hge] at h
  cases h

/-! ## The envelope and the environment -/

theorem required_eq_ok {α : Type} {field : String} {o : Option α} {a : α} :
    required field o = .ok a ↔ o = some a := by
  cases o <;> simp [required]

theorem env_eq {tx : Transaction} {env : TxEnv} (h : tx.convertTransactionToEnv keys = .ok env) :
    ∃ caller maxFeePerBlobGas, tx.caller keys = .ok caller ∧ tx.envChainId = .ok tx.chainId ∧
      env = { caller := caller
              gasPrice := (tx.gasPrice.or tx.maxFeePerGas).getD 0
              gasPriorityFee := tx.maxPriorityFeePerGas
              blobHashes := tx.blobVersionedHashes
              maxFeePerBlobGas := maxFeePerBlobGas
              txType := tx.txType.getD 0
              gasLimit := tx.gas
              data := tx.data
              nonce := tx.nonce
              value := tx.value
              accessList := tx.accessList.getD []
              authorizationList := (tx.authorizationList.getD []).map .left
              kind := tx.kind
              chainId := tx.chainId } := by
  unfold convertTransactionToEnv at h
  simp only [bind_eq_ok, pure_eq_ok] at h
  obtain ⟨caller, hcaller, fee, -, chainId, hchain, rfl⟩ := h
  have hsame : chainId = tx.chainId := by
    unfold envChainId at hchain
    cases hc : tx.chainId with
    | none => simpa [hc] using hchain.symm
    | some c =>
      simp only [hc] at hchain
      split_ifs at hchain
      simpa using hchain.symm
  subst hsame
  exact ⟨caller, fee, hcaller, hchain, rfl⟩

/-- What the type has no place for in the envelope is not there: no priority fee, access
list or authorization list, and on a fee-market type no gas price other than the fee cap. -/
def Plain (tx : Transaction) : Prop :=
  match tx.txType.getD 0 with
  | 0 => tx.maxPriorityFeePerGas = none ∧ tx.accessList.getD [] = [] ∧
      tx.authorizationList.getD [] = []
  | 1 => tx.maxPriorityFeePerGas = none ∧ tx.authorizationList.getD [] = []
  | 2 => tx.gasPrice.or tx.maxFeePerGas = tx.maxFeePerGas ∧ tx.authorizationList.getD [] = []
  | _ => tx.gasPrice.or tx.maxFeePerGas = tx.maxFeePerGas

theorem chainId_bind {tx : Transaction} {signature : Signature}
    (h : tx.toSignature = .ok signature) : tx.chainId.bind tryIntoU64 = tx.chainId := by
  cases hc : tx.chainId with
  | none => rfl
  | some chainId => exact if_pos (tx.chainId_lt h hc)

theorem map_left_inner (auths : List SignedAuthorization) :
    (auths.map TxAuthorization.left).map TxAuthorization.inner =
      auths.map SignedAuthorization.inner := by
  simp [TxAuthorization.inner]

/-- The environment describes the transaction that is hashed exactly where the record is
plain. -/
theorem envelope_describes_iff {tx : Transaction} {envelope : MegaTxEnvelope} {env : TxEnv}
    (h : tx.toEnvelope = .ok envelope) (henv : tx.convertTransactionToEnv keys = .ok env) :
    envelope.Describes env ↔ tx.Plain := by
  obtain ⟨caller, fee, -, -, rfl⟩ := env_eq keys henv
  unfold toEnvelope at h
  obtain ⟨signature, hsignature, h⟩ := bind_eq_ok.mp h
  have hchain := chainId_bind hsignature
  unfold Plain
  split at h
  next htype =>
    simp only [legacyTx, bind_eq_ok, pure_eq_ok, required_eq_ok] at h
    obtain ⟨t, ⟨gasPrice, hprice, rfl⟩, rfl⟩ := h
    simp only [htype]
    constructor
    · intro hd
      exact ⟨hd.gasPriorityFee, hd.accessList, by
        simpa [map_left_inner, MegaTxEnvelope.authorizationList] using hd.authorizationList⟩
    · rintro ⟨hfee, hlist, hauth⟩
      exact
        { txType := rfl, chainId := hchain.symm, nonce := rfl, gasLimit := rfl
          gasPrice := by simp [hprice, MegaTxEnvelope.maxFeePerGas]
          gasPriorityFee := hfee, kind := rfl, value := rfl, data := rfl, accessList := hlist
          authorizationList := by simp [hauth, MegaTxEnvelope.authorizationList] }
  next htype =>
    simp only [eip2930Tx, bind_eq_ok, pure_eq_ok, required_eq_ok, hchain] at h
    obtain ⟨t, ⟨chainId, hid, gasPrice, hprice, rfl⟩, rfl⟩ := h
    simp only [htype]
    constructor
    · intro hd
      exact ⟨hd.gasPriorityFee, by
        simpa [map_left_inner, MegaTxEnvelope.authorizationList] using hd.authorizationList⟩
    · rintro ⟨hfee, hauth⟩
      exact
        { txType := rfl, chainId := hid, nonce := rfl, gasLimit := rfl
          gasPrice := by simp [hprice, MegaTxEnvelope.maxFeePerGas]
          gasPriorityFee := hfee, kind := rfl, value := rfl, data := rfl, accessList := rfl
          authorizationList := by simp [hauth, MegaTxEnvelope.authorizationList] }
  next htype =>
    simp only [eip1559Tx, bind_eq_ok, pure_eq_ok, required_eq_ok, hchain] at h
    obtain ⟨t, ⟨chainId, hid, maxFee, hmax, priority, hpriority, rfl⟩, rfl⟩ := h
    simp only [htype, hmax]
    constructor
    · intro hd
      refine ⟨?_, by
        simpa [map_left_inner, MegaTxEnvelope.authorizationList] using hd.authorizationList⟩
      have hprice := hd.gasPrice
      cases hg : tx.gasPrice <;> simp_all [MegaTxEnvelope.maxFeePerGas]
    · rintro ⟨hprice, hauth⟩
      exact
        { txType := rfl, chainId := hid, nonce := rfl, gasLimit := rfl
          gasPrice := by simp [hprice, MegaTxEnvelope.maxFeePerGas]
          gasPriorityFee := hpriority, kind := rfl, value := rfl, data := rfl, accessList := rfl
          authorizationList := by simp [hauth, MegaTxEnvelope.authorizationList] }
  next => cases h
  next htype =>
    simp only [eip7702Tx, bind_eq_ok, pure_eq_ok, required_eq_ok, hchain] at h
    obtain ⟨t, ⟨chainId, hid, maxFee, hmax, priority, hpriority, hbody⟩, rfl⟩ := h
    cases htarget : tx.target with
    | none =>
      rw [htarget] at hbody
      cases hbody
    | some addr =>
      simp only [htarget, bind_eq_ok, pure_eq_ok, required_eq_ok] at hbody
      obtain ⟨auths, hauths, rfl⟩ := hbody
      simp only [htype, hmax]
      constructor
      · intro hd
        have hprice := hd.gasPrice
        cases hg : tx.gasPrice <;> simp_all [MegaTxEnvelope.maxFeePerGas]
      · intro hprice
        exact
          { txType := rfl, chainId := hid, nonce := rfl, gasLimit := rfl
            gasPrice := by simp [hprice, MegaTxEnvelope.maxFeePerGas]
            gasPriorityFee := hpriority
            kind := by simp [kind, htarget, MegaTxEnvelope.kind]
            value := rfl, data := rfl, accessList := rfl
            authorizationList := by
              rw [hauths]
              exact map_left_inner auths }
  next => cases h

def sampleKeys : SecretKeys := ⟨fun key => if key = 9 then some 5 else none, fun _ => "0x"⟩

theorem envelope_describes_sample : ∃ envelope env, sampleTx.toEnvelope = .ok envelope ∧
    sampleTx.convertTransactionToEnv sampleKeys = .ok env ∧ envelope.Describes env := by
  have hplain : sampleTx.Plain := ⟨rfl, rfl⟩
  have henvelope : sampleTx.toEnvelope = .ok _ := rfl
  exact ⟨_, _, rfl, rfl, (envelope_describes_iff sampleKeys henvelope rfl).mpr hplain⟩

end Transaction

end MegaEvm.T8n
