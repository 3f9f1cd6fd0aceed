import MegaEvm.ArgPrint

/-!
# Transactions made from arguments

The tool makes a transaction from its arguments, and an envelope with a placeholder for
the signature, whose bytes go with it. The bytes of a transaction can be given back to the
tool, together with arguments that override what is decoded from them.
-/

set_option autoImplicit false

namespace MegaEvm

open ArgText Fallible

inductive MegaTxType where
  | legacy
  | eip2930
  | eip1559
  | eip7702
  | deposit
  deriving DecidableEq, Repr

def MegaTxType.tryFrom : ℕ → Option MegaTxType
  | 0 => some .legacy
  | 1 => some .eip2930
  | 2 => some .eip1559
  | 4 => some .eip7702
  | 126 => some .deposit
  | _ => none

structure DepositTransactionParts where
  sourceHash : ℕ
  mint : Option ℕ
  isSystemTransaction : Bool
  deriving DecidableEq, Repr

structure OpTransaction where
  base : TxEnv
  envelopedTx : Option Bytes
  deposit : DepositTransactionParts
  deriving DecidableEq, Repr

def OpTransaction.new (base : TxEnv) : OpTransaction := ⟨base, none, ⟨0, none, false⟩⟩

/-- The parsers of the parts of arguments, the files that are named in them, one of which is
the standard input, and the decoder of hexadecimal bytes. -/
structure TxReaders where
  parsers : ArgParsers
  read : Text → Except String Text
  hexDecode : Text → Except String Bytes

namespace TxReaders

variable (r : TxReaders)

/-- The length of a text is that of its bytes. -/
def decodeHex (s : Text) : Except ArgError Bytes :=
  let s := trim s
  if s.isEmpty then .ok []
  else
    let hexStr :=
      if ['0', 'x'].isPrefixOf s || ['0', 'X'].isPrefixOf s then s.drop 2 else s
    let length := (hexStr.map Char.utf8Size).sum
    if length % 2 ≠ 0 then
      .error (.invalid ["Invalid hex string length: ", toString length, " (must be even)"])
    else (r.hexDecode hexStr).mapError .invalidHex

/-- The argument goes before the file. -/
def loadHex (arg file : Option Text) : Except ArgError (Option Bytes) :=
  match arg, file with
  | some text, _ => (r.decodeHex text).map some
  | none, some name => do
    let content ← (r.read name).mapError .fileRead
    (r.decodeHex content).map some
  | none, none => .ok none

end TxReaders

structure TxArgs where
  txType : Option ℕ
  gas : Option ℕ
  basefee : Option ℕ
  priorityFee : Option ℕ
  sender : Option Address
  receiver : Option Address
  nonce : Option ℕ
  create : Option Bool
  value : Option Text
  input : Option Text
  inputfile : Option Text
  sourceHash : Option ℕ
  mint : Option ℕ
  auth : List Text
  access : List Text

def DEFAULT_SENDER : Address := 0xf39Fd6e51aad88F6F4ce6aB8827279cffFb92266

namespace TxArgs

variable (r : TxReaders) (args : TxArgs)

def gasOrDefault : ℕ := args.gas.getD 10000000

def basefeeOrDefault : ℕ := args.basefee.getD 0

def senderOrDefault : Address := args.sender.getD DEFAULT_SENDER

def createOrDefault : Bool := args.create.getD false

def receiverOrDefault : Address := args.receiver.getD 0

def valueOrDefault : Except ArgError ℕ :=
  match args.value with
  | some value => parseEtherValue r.parsers value
  | none => .ok 0

def txTypeOrDefault : ℕ := args.txType.getD 0

def megaTxType : Except ArgError MegaTxType :=
  match MegaTxType.tryFrom args.txTypeOrDefault with
  | some txType => .ok txType
  | none => .error (.unsupportedTxType args.txTypeOrDefault)

def validateFor (txType : MegaTxType) : Except ArgError Unit :=
  if txType ≠ .deposit ∧ (args.sourceHash.isSome ∨ args.mint.isSome) then
    .error (.invalidInput
      "--source-hash and --mint are only valid for deposit transactions (--tx-type 126)")
  else if txType = .deposit ∧ args.sourceHash.isNone then
    .error (.invalidInput "--source-hash is required for deposit transactions (--tx-type 126)")
  else if (txType = .legacy ∨ txType = .eip2930) ∧ args.priorityFee.isSome then
    .error (.invalidInput
      "--priority-fee is not valid for legacy (0) or EIP-2930 (1) transactions")
  else if args.createOrDefault ∧ args.receiver.isSome then
    .error (.invalidInput "--receiver must not be set when --create is specified")
  else if txType ≠ .eip7702 ∧ args.auth ≠ [] then
    .error (.invalidInput "--auth is only valid for EIP-7702 transactions (--tx-type 4)")
  else if args.access ≠ [] ∧ ¬ (txType = .eip2930 ∨ txType = .eip1559 ∨ txType = .eip7702) then
    .error (.invalidInput
      "--access is only valid for EIP-2930 (1), EIP-1559 (2), or EIP-7702 (4) transactions")
  else .ok ()

def validate : Except ArgError Unit := do
  let txType ← args.megaTxType
  args.validateFor txType

def kindOrDefault : TxKind :=
  if args.createOrDefault then .create else .call args.receiverOrDefault

def createTxEnv (chainId : ℕ) : Except ArgError TxEnv := do
  args.validate
  let data ← r.loadHex args.input args.inputfile
  let authorizationList ← parseAuthorizationList r.parsers args.auth chainId
  let accessList ← parseAccessList r.parsers args.access
  let value ← args.valueOrDefault r
  return { caller := args.senderOrDefault
           gasPrice := args.basefeeOrDefault
           gasPriorityFee := args.priorityFee
           blobHashes := []
           maxFeePerBlobGas := 0
           txType := args.txTypeOrDefault
           gasLimit := args.gasOrDefault
           data := data.getD []
           nonce := args.nonce.getD 0
           value := value
           accessList := accessList
           authorizationList := authorizationList.map .right
           kind := args.kindOrDefault
           chainId := some chainId }

end TxArgs

/-! ## The envelope of a transaction that nobody signed -/

def dummySig : Signature := ⟨1, 1, false⟩

/-- A recovered authorization gets a placeholder for its signature. -/
def fakeSigned : TxAuthorization → SignedAuthorization
  | .left signed => signed
  | .right recovered => ⟨recovered.inner, 0, 1, 1⟩

def createFakeEnvelope (env : TxEnv) : Except ArgError MegaTxEnvelope :=
  let chainId := env.chainId.getD 0
  match MegaTxType.tryFrom env.txType with
  | none => .error (.unsupportedTxType env.txType)
  | some .legacy => .ok (.legacy
      { chainId := env.chainId, nonce := env.nonce, gasPrice := env.gasPrice,
        gasLimit := env.gasLimit, kind := env.kind, value := env.value,
        input := env.data } dummySig)
  | some .eip2930 => .ok (.eip2930
      { chainId := chainId, nonce := env.nonce, gasPrice := env.gasPrice,
        gasLimit := env.gasLimit, kind := env.kind, value := env.value,
        accessList := env.accessList, input := env.data } dummySig)
  | some .eip1559 => .ok (.eip1559
      { chainId := chainId, nonce := env.nonce, gasLimit := env.gasLimit,
        maxFeePerGas := env.gasPrice, maxPriorityFeePerGas := env.gasPriorityFee.getD 0,
        kind := env.kind, value := env.value, accessList := env.accessList,
        input := env.data } dummySig)
  | some .eip7702 =>
    match env.kind with
    | .create => .error (.invalidInput "EIP-7702 transactions cannot be contract creation")
    | .call target => .ok (.eip7702
        { chainId := chainId, nonce := env.nonce, gasLimit := env.gasLimit,
          maxFeePerGas := env.gasPrice, maxPriorityFeePerGas := env.gasPriorityFee.getD 0,
          target := target, value := env.value, accessList := env.accessList,
          authorizationList := env.authorizationList.map fakeSigned, input := env.data } dummySig)
  | some .deposit => .ok (.deposit
      { sourceHash := 0, sender := env.caller, kind := env.kind, mint := 0, value := env.value,
        gasLimit := env.gasLimit, isSystemTransaction := false, input := env.data })

/-- The encoding of transactions, and what is recovered from their signatures. -/
structure TxCodec where
  encode2718 : MegaTxEnvelope → Bytes
  decode2718 : Bytes → Except String MegaTxEnvelope
  recoverSigner : MegaTxEnvelope → Except String Address
  intoRecovered : SignedAuthorization → RecoveredAuthorization

def TxArgs.createTx (r : TxReaders) (codec : TxCodec) (args : TxArgs) (chainId : ℕ) :
    Except ArgError OpTransaction := do
  let env ← args.createTxEnv r chainId
  let envelope ← createFakeEnvelope env
  let txType ← args.megaTxType
  let tx := OpTransaction.new env
  return { tx with
    envelopedTx := some (codec.encode2718 envelope)
    deposit :=
      if txType = .deposit then ⟨args.sourceHash.getD 0, args.mint, false⟩ else tx.deposit }

/-! ## Transactions that are decoded -/

structure DecodedRawTx where
  txEnv : TxEnv
  rawBytes : Bytes
  deposit : Option DepositTransactionParts
  deriving DecidableEq, Repr

/-- What the environment takes for the price and for the fee above it. -/
def MegaTxEnvelope.gasPrices : MegaTxEnvelope → ℕ × Option ℕ
  | e@(.legacy ..) | e@(.eip2930 ..) => (e.gasPrice.getD 0, none)
  | e@(.eip1559 ..) | e@(.eip7702 ..) => (e.maxFeePerGas, e.maxPriorityFeePerGas)
  | .deposit _ => (0, none)

def MegaTxEnvelope.depositParts : MegaTxEnvelope → Option DepositTransactionParts
  | .deposit d =>
    some ⟨d.sourceHash, if d.mint = 0 then none else some d.mint, d.isSystemTransaction⟩
  | _ => none

namespace DecodedRawTx

variable (codec : TxCodec)

def decodedEnv (envelope : MegaTxEnvelope) (caller : Address) : TxEnv where
  caller := caller
  gasPrice := envelope.gasPrices.1
  gasPriorityFee := envelope.gasPrices.2
  blobHashes := []
  maxFeePerBlobGas := 0
  txType := envelope.ty
  gasLimit := envelope.gasLimit
  data := envelope.input
  nonce := envelope.nonce
  value := envelope.value
  accessList := envelope.accessList.getD []
  authorizationList := (envelope.authorizationList.getD []).map fun signed =>
    .right (codec.intoRecovered signed)
  kind := envelope.kind
  chainId := envelope.chainId

def fromRaw (rawBytes : Bytes) : Except ArgError DecodedRawTx := do
  let envelope ← (codec.decode2718 rawBytes).mapError fun e =>
    .invalid ["Failed to decode raw transaction: ", e]
  let caller ← (codec.recoverSigner envelope).mapError fun e =>
    .invalid ["Failed to recover signer: ", e]
  return ⟨decodedEnv codec envelope caller, rawBytes, envelope.depositParts⟩

variable (r : TxReaders) (args : TxArgs) (decoded : DecodedRawTx)

def overrideValue : Except ArgError ℕ :=
  match args.value with
  | some value => parseEtherValue r.parsers value
  | none => .ok decoded.txEnv.value

def overrideData : Except ArgError Bytes :=
  if args.input.isSome ∨ args.inputfile.isSome then
    (r.loadHex args.input args.inputfile).map fun data => data.getD []
  else .ok decoded.txEnv.data

def overrideAccessList : Except ArgError AccessList :=
  if args.access = [] then .ok decoded.txEnv.accessList else parseAccessList r.parsers args.access

def overrideAuthorizationList : Except ArgError (List TxAuthorization) :=
  if args.auth = [] then .ok decoded.txEnv.authorizationList
  else (parseAuthorizationList r.parsers args.auth (decoded.txEnv.chainId.getD 0)).map
    fun auths => auths.map .right

def overrideKind : TxKind :=
  if args.create.getD false then .create
  else
    match args.receiver with
    | some receiver => .call receiver
    | none => decoded.txEnv.kind

/-- Only what an argument names is changed; the chain id never is. -/
def overrideTxEnv : Except ArgError DecodedRawTx := do
  let value ← decoded.overrideValue r args
  let data ← decoded.overrideData r args
  let accessList ← decoded.overrideAccessList r args
  let authorizationList ← decoded.overrideAuthorizationList r args
  return { decoded with
    txEnv := { decoded.txEnv with
      txType := args.txType.getD decoded.txEnv.txType
      gasLimit := args.gas.getD decoded.txEnv.gasLimit
      gasPrice := args.basefee.getD decoded.txEnv.gasPrice
      gasPriorityFee := args.priorityFee.or decoded.txEnv.gasPriorityFee
      caller := args.sender.getD decoded.txEnv.caller
      value := value
      nonce := args.nonce.getD decoded.txEnv.nonce
      data := data
      kind := decoded.overrideKind args
      accessList := accessList
      authorizationList := authorizationList }
    deposit := decoded.deposit.map fun parts =>
      { parts with
        sourceHash := args.sourceHash.getD parts.sourceHash
        mint := args.mint.or parts.mint } }

def intoTx : OpTransaction :=
  let tx := OpTransaction.new decoded.txEnv
  { tx with envelopedTx := some decoded.rawBytes, deposit := decoded.deposit.getD tx.deposit }

end DecodedRawTx

/-! ## What arguments and envelopes have in common -/

theorem MegaTxEnvelope.gasPrices_eq (e : MegaTxEnvelope) :
    e.gasPrices = (e.maxFeePerGas, e.maxPriorityFeePerGas) := by
  cases e <;> rfl

/-- What an envelope made for an environment says about it, by its type. -/
structure Faked (t : MegaTxType) (env : TxEnv) (e : MegaTxEnvelope) : Prop where
  ty : e.ty = env.txType
  gasLimit : e.gasLimit = env.gasLimit
  kind : e.kind = env.kind
  value : e.value = env.value
  input : e.input = env.data
  nonce : e.nonce = if t = .deposit then 0 else env.nonce
  maxFeePerGas : e.maxFeePerGas = if t = .deposit then 0 else env.gasPrice
  maxPriorityFeePerGas : e.maxPriorityFeePerGas =
    if t = .eip1559 ∨ t = .eip7702 then some (env.gasPriorityFee.getD 0) else none
  chainId : e.chainId =
    if t = .legacy then env.chainId
    else if t = .deposit then none else some (env.chainId.getD 0)
  accessList : e.accessList.getD [] =
    if t = .legacy ∨ t = .deposit then [] else env.accessList
  authorizationList : e.authorizationList.getD [] =
    if t = .eip7702 then env.authorizationList.map fakeSigned else []
  depositParts : e.depositParts = if t = .deposit then some ⟨0, none, false⟩ else none

variable {r r' : TxReaders} {codec : TxCodec} {args : TxArgs} {chainId : ℕ} {env : TxEnv}
  {tx : OpTransaction} {t : MegaTxType}

theorem tryFrom_eq_some {n : ℕ} (h : MegaTxType.tryFrom n = some t) :
    (n = 0 ∧ t = .legacy) ∨ (n = 1 ∧ t = .eip2930) ∨ (n = 2 ∧ t = .eip1559) ∨
      (n = 4 ∧ t = .eip7702) ∨ (n = 126 ∧ t = .deposit) := by
  unfold MegaTxType.tryFrom at h
  split at h
  all_goals cases h
  all_goals simp

theorem faked {e : MegaTxEnvelope} (ht : MegaTxType.tryFrom env.txType = some t)
    (h : createFakeEnvelope env = .ok e) : Faked t env e := by
  unfold createFakeEnvelope at h
  rw [ht] at h
  obtain ⟨hn, rfl⟩ | ⟨hn, rfl⟩ | ⟨hn, rfl⟩ | ⟨hn, rfl⟩ | ⟨hn, rfl⟩ := tryFrom_eq_some ht
  case inr.inr.inr.inl =>
    cases hkind : env.kind with
    | create =>
      rw [hkind] at h
      cases h
    | call target =>
      simp only [hkind] at h
      cases h
      exact ⟨hn.symm, rfl, hkind.symm, rfl, rfl, rfl, rfl, rfl, rfl, rfl, rfl, rfl⟩
  all_goals
    cases h
    exact ⟨hn.symm, rfl, rfl, rfl, rfl, rfl, rfl, rfl, rfl, rfl, rfl, rfl⟩

structure TxArgs.Valid (args : TxArgs) (t : MegaTxType) : Prop where
  sourceHash : t = .deposit → args.sourceHash.isSome
  priorityFee : t = .legacy ∨ t = .eip2930 → args.priorityFee = none
  receiver : args.createOrDefault = true → args.receiver = none
  auth : t ≠ .eip7702 → args.auth = []
  access : t = .legacy ∨ t = .deposit → args.access = []

theorem validateFor_ok (h : args.validateFor t = .ok ()) : args.Valid t := by
  unfold TxArgs.validateFor at h
  split_ifs at h with hfields hhash hfee hreceiver hauth haccess
  refine ⟨fun ht => ?_, fun ht => ?_, fun hc => ?_, fun ht => ?_, fun ht => ?_⟩
  · by_contra hnone
    exact hhash ⟨ht, by simpa using hnone⟩
  · by_contra hsome
    exact hfee ⟨ht, Option.isSome_iff_ne_none.2 hsome⟩
  · by_contra hsome
    exact hreceiver ⟨hc, Option.isSome_iff_ne_none.2 hsome⟩
  · by_contra hne
    exact hauth ⟨ht, hne⟩
  · by_contra hne
    refine haccess ⟨hne, ?_⟩
    rcases ht with rfl | rfl <;> decide

structure TxArgs.Made (r : TxReaders) (args : TxArgs) (chainId : ℕ) (t : MegaTxType)
    (env : TxEnv) : Prop where
  tryFrom : MegaTxType.tryFrom env.txType = some t
  valid : args.Valid t
  caller : env.caller = args.senderOrDefault
  gasPrice : env.gasPrice = args.basefeeOrDefault
  gasPriorityFee : env.gasPriorityFee = args.priorityFee
  blobHashes : env.blobHashes = []
  maxFeePerBlobGas : env.maxFeePerBlobGas = 0
  txType : env.txType = args.txTypeOrDefault
  gasLimit : env.gasLimit = args.gasOrDefault
  data : ∃ data, r.loadHex args.input args.inputfile = .ok data ∧ env.data = data.getD []
  nonce : env.nonce = args.nonce.getD 0
  value : args.valueOrDefault r = .ok env.value
  accessList : parseAccessList r.parsers args.access = .ok env.accessList
  authorizationList : ∃ auths, parseAuthorizationList r.parsers args.auth chainId = .ok auths ∧
    env.authorizationList = auths.map .right
  kind : env.kind = args.kindOrDefault
  chainId : env.chainId = some chainId

theorem megaTxType_ok (h : args.megaTxType = .ok t) :
    MegaTxType.tryFrom args.txTypeOrDefault = some t := by
  unfold TxArgs.megaTxType at h
  split at h
  next t' ht' =>
    rw [← Except.ok.inj h]
    exact ht'
  next => cases h

theorem createTxEnv_ok (h : args.createTxEnv r chainId = .ok env) :
    ∃ t, args.megaTxType = .ok t ∧ args.Made r chainId t env := by
  simp only [TxArgs.createTxEnv, TxArgs.validate, bind_eq_ok, pure_eq_ok] at h
  obtain ⟨u, ⟨t, ht, hvalid⟩, data, hdata, auths, hauths, accessList, haccess, value, hvalue,
    rfl⟩ := h
  exact ⟨t, ht, megaTxType_ok ht, validateFor_ok hvalid, rfl, rfl, rfl, rfl, rfl, rfl, rfl,
    ⟨data, hdata, rfl⟩, rfl, hvalue, haccess, ⟨auths, hauths, rfl⟩, rfl, rfl⟩

theorem createTx_ok (h : args.createTx r codec chainId = .ok tx) :
    ∃ t e, args.Made r chainId t tx.base ∧ createFakeEnvelope tx.base = .ok e ∧
      tx.envelopedTx = some (codec.encode2718 e) ∧
      tx.deposit = if t = .deposit then ⟨args.sourceHash.getD 0, args.mint, false⟩
        else ⟨0, none, false⟩ := by
  simp only [TxArgs.createTx, bind_eq_ok, pure_eq_ok] at h
  obtain ⟨env, henv, e, he, t, ht, rfl⟩ := h
  obtain ⟨t', ht', hmade⟩ := createTxEnv_ok henv
  obtain rfl : t = t' := Except.ok.inj (ht.symm.trans ht')
  exact ⟨t, e, hmade, he, rfl, rfl⟩

theorem made_accessList (hmade : args.Made r chainId t env) (ht : t = .legacy ∨ t = .deposit) :
    env.accessList = [] := by
  have hread := hmade.accessList
  rw [hmade.valid.access ht] at hread
  exact (Except.ok.inj hread).symm

theorem made_authorizationList (hmade : args.Made r chainId t env) (hnil : args.auth = []) :
    env.authorizationList = [] := by
  obtain ⟨auths, hauths, henv⟩ := hmade.authorizationList
  rw [hnil] at hauths
  obtain rfl : [] = auths := Except.ok.inj hauths
  exact henv

structure Restores (args : TxArgs) (chainId : ℕ) (env : TxEnv) (d : TxEnv) : Prop where
  txType : d.txType = env.txType
  gasLimit : d.gasLimit = env.gasLimit
  value : d.value = env.value
  data : d.data = env.data
  kind : d.kind = env.kind
  blobHashes : d.blobHashes = env.blobHashes
  maxFeePerBlobGas : d.maxFeePerBlobGas = env.maxFeePerBlobGas
  nonce : args.nonce.getD d.nonce = env.nonce
  gasPrice : args.basefee.getD d.gasPrice = env.gasPrice
  accessList : d.accessList = env.accessList
  noAuth : args.auth = [] → d.authorizationList = []
  auth : args.auth ≠ [] → d.chainId = some chainId

section Overrides

variable {decoded : DecodedRawTx} (hmade : args.Made r chainId t env)
  (hd : Restores args chainId env decoded.txEnv)

include hmade hd

theorem overrideValue_restores (hparsers : r'.parsers = r.parsers) :
    decoded.overrideValue r' args = .ok env.value := by
  have hvalue := hmade.value
  unfold TxArgs.valueOrDefault at hvalue
  unfold DecodedRawTx.overrideValue
  cases hv : args.value with
  | none => simp only [hd.value]
  | some v =>
    rw [hv] at hvalue
    rw [hparsers]
    exact hvalue

theorem overrideData_restores
    (hload : r'.loadHex args.input args.inputfile = r.loadHex args.input args.inputfile) :
    decoded.overrideData r' args = .ok env.data := by
  obtain ⟨data, hdata, hget⟩ := hmade.data
  unfold DecodedRawTx.overrideData
  split_ifs
  · rw [hload, hdata, hget]
    rfl
  · rw [hd.data]

theorem overrideAccessList_restores (hparsers : r'.parsers = r.parsers) :
    decoded.overrideAccessList r' args = .ok env.accessList := by
  unfold DecodedRawTx.overrideAccessList
  split_ifs
  · rw [hd.accessList]
  · rw [hparsers, hmade.accessList]

theorem overrideAuthorizationList_restores (hparsers : r'.parsers = r.parsers) :
    decoded.overrideAuthorizationList r' args = .ok env.authorizationList := by
  obtain ⟨auths, hauths, henv⟩ := hmade.authorizationList
  unfold DecodedRawTx.overrideAuthorizationList
  by_cases hnil : args.auth = []
  · rw [if_pos hnil, hd.noAuth hnil, made_authorizationList hmade hnil]
  · rw [if_neg hnil, hd.auth hnil, hparsers, Option.getD_some, hauths, henv]
    rfl

theorem overrideKind_restores : decoded.overrideKind args = env.kind := by
  have hkind := hmade.kind
  unfold TxArgs.kindOrDefault TxArgs.createOrDefault TxArgs.receiverOrDefault at hkind
  unfold DecodedRawTx.overrideKind
  split_ifs at hkind ⊢
  · exact hkind.symm
  · cases hreceiver : args.receiver with
    | none => exact hd.kind
    | some a =>
      rw [hreceiver] at hkind
      exact hkind.symm

/-- The overrides bring back everything but what no argument can: the chain id, and the
sender and the fee that no argument names. -/
theorem overrideTxEnv_restores (hparsers : r'.parsers = r.parsers)
    (hload : r'.loadHex args.input args.inputfile = r.loadHex args.input args.inputfile) :
    decoded.overrideTxEnv r' args = .ok { decoded with
      txEnv := { env with
        caller := args.sender.getD decoded.txEnv.caller
        gasPriorityFee := args.priorityFee.or decoded.txEnv.gasPriorityFee
        chainId := decoded.txEnv.chainId }
      deposit := decoded.deposit.map fun parts =>
        { parts with
          sourceHash := args.sourceHash.getD parts.sourceHash
          mint := args.mint.or parts.mint } } := by
  have htype : args.txType.getD decoded.txEnv.txType = env.txType := by
    rw [hd.txType, hmade.txType, TxArgs.txTypeOrDefault]
    cases args.txType <;> rfl
  have hgas : args.gas.getD decoded.txEnv.gasLimit = env.gasLimit := by
    rw [hd.gasLimit, hmade.gasLimit, TxArgs.gasOrDefault]
    cases args.gas <;> rfl
  simp only [DecodedRawTx.overrideTxEnv, overrideValue_restores hmade hd hparsers,
    overrideData_restores hmade hd hload, overrideAccessList_restores hmade hd hparsers,
    overrideAuthorizationList_restores hmade hd hparsers, overrideKind_restores hmade hd,
    htype, hgas, hd.nonce, hd.gasPrice, hd.blobHashes, hd.maxFeePerBlobGas]
  rfl

end Overrides

/-! ## There and back -/

theorem fromRaw_ok {raw : Bytes} {decoded : DecodedRawTx}
    (h : DecodedRawTx.fromRaw codec raw = .ok decoded) :
    ∃ e caller, codec.decode2718 raw = .ok e ∧
      decoded = ⟨DecodedRawTx.decodedEnv codec e caller, raw, e.depositParts⟩ := by
  simp only [DecodedRawTx.fromRaw, bind_eq_ok, mapError_eq_ok, pure_eq_ok] at h
  obtain ⟨e, he, caller, -, rfl⟩ := h
  exact ⟨e, caller, he, rfl⟩

theorem fakeSigned_inner (auth : TxAuthorization) : (fakeSigned auth).inner = auth.inner := by
  cases auth <;> rfl

theorem restores {e : MegaTxEnvelope} (hmade : args.Made r chainId t env) (hfaked : Faked t env e)
    (caller : Address) : Restores args chainId env (DecodedRawTx.decodedEnv codec e caller) where
  txType := hfaked.ty
  gasLimit := hfaked.gasLimit
  value := hfaked.value
  data := hfaked.input
  kind := hfaked.kind
  blobHashes := hmade.blobHashes.symm
  maxFeePerBlobGas := hmade.maxFeePerBlobGas.symm
  nonce := by
    rw [DecodedRawTx.decodedEnv, hfaked.nonce, hmade.nonce]
    split_ifs <;> cases args.nonce <;> rfl
  gasPrice := by
    rw [DecodedRawTx.decodedEnv, e.gasPrices_eq, hfaked.maxFeePerGas, hmade.gasPrice,
      TxArgs.basefeeOrDefault]
    split_ifs <;> cases args.basefee <;> rfl
  accessList := by
    rw [DecodedRawTx.decodedEnv, hfaked.accessList]
    split_ifs with ht
    · exact (made_accessList hmade ht).symm
    · rfl
  noAuth hnil := by
    rw [DecodedRawTx.decodedEnv, hfaked.authorizationList, made_authorizationList hmade hnil]
    split_ifs <;> rfl
  auth hne := by
    obtain rfl : t = .eip7702 := by
      by_contra ht
      exact hne (hmade.valid.auth ht)
    rw [DecodedRawTx.decodedEnv, hfaked.chainId, hmade.chainId]
    rfl

theorem decoded_fee {e : MegaTxEnvelope} (hmade : args.Made r chainId t env)
    (hfaked : Faked t env e) (caller : Address) :
    args.priorityFee.or (DecodedRawTx.decodedEnv codec e caller).gasPriorityFee =
        env.gasPriorityFee ↔
      (t ≠ .eip1559 ∧ t ≠ .eip7702) ∨ args.priorityFee.isSome = true := by
  rw [DecodedRawTx.decodedEnv, e.gasPrices_eq, hfaked.maxPriorityFeePerGas, hmade.gasPriorityFee]
  cases args.priorityFee with
  | none =>
    by_cases ht : t = .eip1559 ∨ t = .eip7702
    · simp [ht, ← not_or]
    · simp [not_or.1 ht]
  | some fee => simp

theorem decoded_chainId {e : MegaTxEnvelope} (hmade : args.Made r chainId t env)
    (hfaked : Faked t env e) (caller : Address) :
    (DecodedRawTx.decodedEnv codec e caller).chainId = env.chainId ↔ t ≠ .deposit := by
  rw [DecodedRawTx.decodedEnv, hfaked.chainId, hmade.chainId]
  cases t <;> simp

theorem decoded_caller (hmade : args.Made r chainId t env) (caller : Address) :
    args.sender.getD caller = env.caller ↔
      args.sender.isSome = true ∨ caller = DEFAULT_SENDER := by
  rw [hmade.caller, TxArgs.senderOrDefault]
  cases args.sender <;> simp

theorem decoded_deposit {e : MegaTxEnvelope} (hfaked : Faked t env e) :
    ((e.depositParts.map fun parts =>
        { parts with
          sourceHash := args.sourceHash.getD parts.sourceHash
          mint := args.mint.or parts.mint }).getD ⟨0, none, false⟩) =
      if t = .deposit then ⟨args.sourceHash.getD 0, args.mint, false⟩ else ⟨0, none, false⟩ := by
  rw [hfaked.depositParts]
  split_ifs
  · simp
  · rfl

theorem withBase_eq_iff {caller : Address} {fee chainId : Option ℕ} :
    { tx with base := { tx.base with
        caller := caller, gasPriorityFee := fee, chainId := chainId } } = tx ↔
      chainId = tx.base.chainId ∧ caller = tx.base.caller ∧ fee = tx.base.gasPriorityFee := by
  obtain ⟨base, enveloped, deposit⟩ := tx
  obtain ⟨c, price, f, hashes, blob, ty, gas, data, nonce, value, access, auths, kind, chain⟩ :=
    base
  simp only [OpTransaction.mk.injEq, TxEnv.mk.injEq, and_true, true_and]
  tauto

theorem made_type (hmade : args.Made r chainId t env) :
    (t ≠ .deposit ↔ env.txType ≠ 126) ∧
      (t ≠ .deposit → ((t ≠ .eip1559 ∧ t ≠ .eip7702) ↔ env.txType ≤ 1)) := by
  obtain ⟨hn, rfl⟩ | ⟨hn, rfl⟩ | ⟨hn, rfl⟩ | ⟨hn, rfl⟩ | ⟨hn, rfl⟩ := tryFrom_eq_some hmade.tryFrom
  all_goals simp [hn]

/-- The bytes of a created transaction, given back to the tool with the same arguments, make
the transaction again, apart from its chain id if it is a deposit, from its sender if no
argument names it, and from a priority fee that no argument names. -/
theorem raw_round_trip {raw : Bytes} {decoded : DecodedRawTx}
    (h : args.createTx r codec chainId = .ok tx) (hraw : tx.envelopedTx = some raw)
    (hcodec : ∀ e, createFakeEnvelope tx.base = .ok e →
      codec.decode2718 (codec.encode2718 e) = .ok e)
    (hparsers : r'.parsers = r.parsers)
    (hload : r'.loadHex args.input args.inputfile = r.loadHex args.input args.inputfile)
    (hd : DecodedRawTx.fromRaw codec raw = .ok decoded) :
    ∃ again, decoded.overrideTxEnv r' args = .ok again ∧
      again.intoTx = { tx with base := { tx.base with
        caller := args.sender.getD decoded.txEnv.caller
        gasPriorityFee := args.priorityFee.or decoded.txEnv.gasPriorityFee
        chainId := decoded.txEnv.chainId } } ∧
      (again.intoTx = tx ↔ tx.base.txType ≠ 126 ∧
        (args.sender.isSome = true ∨ decoded.txEnv.caller = DEFAULT_SENDER) ∧
        (tx.base.txType ≤ 1 ∨ args.priorityFee.isSome = true)) := by
  obtain ⟨t, e, hmade, he, henveloped, hdeposit⟩ := createTx_ok h
  obtain rfl : codec.encode2718 e = raw := Option.some.inj (henveloped.symm.trans hraw)
  obtain ⟨e', caller, he', rfl⟩ := fromRaw_ok hd
  obtain rfl : e = e' := Except.ok.inj ((hcodec e he).symm.trans he')
  have hfaked := faked hmade.tryFrom he
  have hrestores : Restores args chainId tx.base (DecodedRawTx.decodedEnv codec e caller) :=
    restores hmade hfaked caller
  obtain ⟨again, hoverride, hagain⟩ : ∃ again,
      (⟨DecodedRawTx.decodedEnv codec e caller, codec.encode2718 e, e.depositParts⟩ :
        DecodedRawTx).overrideTxEnv r' args = .ok again ∧
      again.intoTx = { tx with base := { tx.base with
        caller := args.sender.getD caller
        gasPriorityFee :=
          args.priorityFee.or (DecodedRawTx.decodedEnv codec e caller).gasPriorityFee
        chainId := (DecodedRawTx.decodedEnv codec e caller).chainId } } := by
    refine ⟨_, overrideTxEnv_restores hmade hrestores hparsers hload, ?_⟩
    rw [DecodedRawTx.intoTx]
    simp only [OpTransaction.new, decoded_deposit hfaked, ← hdeposit, ← henveloped]
    rfl
  refine ⟨again, hoverride, hagain, ?_⟩
  obtain ⟨hdepositType, hfeeType⟩ := made_type hmade
  rw [hagain, withBase_eq_iff, decoded_chainId hmade hfaked, decoded_caller hmade,
    decoded_fee hmade hfaked, ← hdepositType]
  exact and_congr_right fun ht => and_congr_right fun _ => or_congr_left (hfeeType ht)

/-! ## A transfer from the command line -/

def transferArgs : TxArgs where
  txType := none
  gas := some 21000
  basefee := some 1000
  priorityFee := none
  sender := some 5
  receiver := some 7
  nonce := some 3
  create := none
  value := some ['5']
  input := none
  inputfile := none
  sourceHash := none
  mint := none
  auth := []
  access := []

def sampleReaders : TxReaders where
  parsers := sampleParsers
  read _ := .error "No such file or directory (os error 2)"
  hexDecode _ := .error "odd number of digits"

def transferEnvelope : MegaTxEnvelope :=
  .legacy { chainId := some 6342, nonce := 3, gasPrice := 1000, gasLimit := 21000, kind := .call 7,
            value := 5, input := [] } dummySig

def transferBytes : Bytes :=
  [0xe3, 0x03, 0x82, 0x03, 0xe8, 0x82, 0x52, 0x08,
    0x94, 0, 0, 0, 0, 0, 0, 0, 0, 0, 0, 0, 0, 0, 0, 0, 0, 0, 0, 0, 0x07, 0x05, 0x80, 0x82, 0x31, 0xaf, 0x01, 0x01]

def transferCodec : TxCodec where
  encode2718 e := if e = transferEnvelope then transferBytes else []
  decode2718 raw := if raw = transferBytes then .ok transferEnvelope else .error "input too short"
  recoverSigner e :=
    if e = transferEnvelope then .ok 0x0e4036a002c82bbcc2e30bcfbb28f39896f8c24d
    else .error "invalid signature"
  intoRecovered signed := ⟨signed.inner, none⟩

theorem raw_round_trip_transfer : ∃ tx decoded again,
    transferArgs.createTx sampleReaders transferCodec 6342 = .ok tx ∧
    tx.envelopedTx = some transferBytes ∧
    DecodedRawTx.fromRaw transferCodec transferBytes = .ok decoded ∧
    decoded.overrideTxEnv sampleReaders transferArgs = .ok again ∧ again.intoTx = tx := by
  have hcreate : transferArgs.createTx sampleReaders transferCodec 6342 = .ok _ := rfl
  have hdecode : DecodedRawTx.fromRaw transferCodec transferBytes = .ok _ := rfl
  obtain ⟨again, hagain, -, hiff⟩ := raw_round_trip hcreate rfl
    (fun e he => by
      obtain rfl : _ = e := Except.ok.inj he
      rfl) rfl rfl hdecode
  exact ⟨_, _, again, hcreate, rfl, hdecode, hagain, hiff.2 ⟨by decide, .inl rfl, .inl (by decide)⟩⟩

/-! ## The envelope of a created transaction -/

theorem created_fee {e : MegaTxEnvelope} (hmade : args.Made r chainId t env)
    (hfaked : Faked t env e) (ht : t ≠ .deposit) :
    env.gasPriorityFee = e.maxPriorityFeePerGas ↔
      (t ≠ .eip1559 ∧ t ≠ .eip7702) ∨ args.priorityFee.isSome = true := by
  have hvalid := hmade.valid.priorityFee
  rw [hfaked.maxPriorityFeePerGas, hmade.gasPriorityFee]
  cases hfee : args.priorityFee with
  | none => cases t <;> simp
  | some fee =>
    rw [hfee] at hvalid
    cases t with
    | legacy => cases hvalid (.inl rfl)
    | eip2930 => cases hvalid (.inr rfl)
    | eip1559 | eip7702 => simp
    | deposit => exact absurd rfl ht

/-- The envelope whose bytes go with a created transaction is one of that transaction, exactly
if it is no deposit and has the priority fee that its type wants. -/
theorem created_envelope_describes_iff (h : args.createTx r codec chainId = .ok tx) :
    ∃ e, createFakeEnvelope tx.base = .ok e ∧
      tx.envelopedTx = some (codec.encode2718 e) ∧
      (e.Describes tx.base ↔
        tx.base.txType ≠ 126 ∧ (tx.base.txType ≤ 1 ∨ args.priorityFee.isSome = true)) := by
  obtain ⟨t, e, hmade, he, henveloped, -⟩ := createTx_ok h
  have hfaked := faked hmade.tryFrom he
  obtain ⟨hdepositType, hfeeType⟩ := made_type hmade
  refine ⟨e, he, henveloped, ?_⟩
  rw [← hdepositType]
  constructor
  · intro hdescribes
    have ht : t ≠ .deposit := by
      rintro rfl
      have hchain := hdescribes.chainId
      rw [hfaked.chainId, hmade.chainId] at hchain
      cases hchain
    exact ⟨ht,
      (or_congr_left (hfeeType ht)).1 ((created_fee hmade hfaked ht).1 hdescribes.gasPriorityFee)⟩
  · rintro ⟨ht, hpriority⟩
    exact
      { txType := hfaked.ty.symm
        chainId := by rw [hfaked.chainId, hmade.chainId, if_neg ht]; split_ifs <;> rfl
        nonce := by rw [hfaked.nonce, if_neg ht]
        gasLimit := hfaked.gasLimit.symm
        gasPrice := by rw [hfaked.maxFeePerGas, if_neg ht]
        gasPriorityFee :=
          (created_fee hmade hfaked ht).2 ((or_congr_left (hfeeType ht)).2 hpriority)
        kind := hfaked.kind.symm
        value := hfaked.value.symm
        data := hfaked.input.symm
        accessList := by
          rw [hfaked.accessList]
          split_ifs with hlist
          · exact made_accessList hmade hlist
          · rfl
        authorizationList := by
          rw [hfaked.authorizationList]
          split_ifs with hauth
          · rw [List.map_map]
            exact List.map_congr_left fun auth _ => (fakeSigned_inner auth).symm
          · rw [made_authorizationList hmade (hmade.valid.auth hauth)]
            rfl }

theorem created_envelope_describes_transfer : ∃ tx e,
    transferArgs.createTx sampleReaders transferCodec 6342 = .ok tx ∧
    tx.envelopedTx = some (transferCodec.encode2718 e) ∧ e.Describes tx.base := by
  have hcreate : transferArgs.createTx sampleReaders transferCodec 6342 = .ok _ := rfl
  obtain ⟨e, -, henveloped, hiff⟩ := created_envelope_describes_iff hcreate
  exact ⟨_, e, hcreate, henveloped, hiff.2 ⟨by decide, .inl (by decide)⟩⟩

end MegaEvm
