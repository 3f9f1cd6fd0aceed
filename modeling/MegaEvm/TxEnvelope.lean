import MegaEvm.EvmState
import MegaEvm.KeylessDeploy

/-!
# Transactions and their environments

The typed transactions an envelope holds, what the envelope answers about them, and the
environment the EVM runs a transaction in.
-/

set_option autoImplicit false

namespace MegaEvm

structure Authorization where
  chainId : ℕ
  address : Address
  nonce : ℕ
  deriving DecidableEq, Repr

structure SignedAuthorization where
  inner : Authorization
  yParity : ℕ
  r : ℕ
  s : ℕ
  deriving DecidableEq, Repr

/-- The authority is missing where it could not be recovered. -/
structure RecoveredAuthorization where
  inner : Authorization
  authority : Option Address
  deriving DecidableEq, Repr

inductive TxAuthorization where
  | left (signed : SignedAuthorization)
  | right (recovered : RecoveredAuthorization)
  deriving DecidableEq, Repr

def TxAuthorization.inner : TxAuthorization → Authorization
  | left signed => signed.inner
  | right recovered => recovered.inner

structure Signature where
  r : ℕ
  s : ℕ
  yParity : Bool
  deriving DecidableEq, Repr

structure TxEip2930 where
  chainId : ℕ
  nonce : ℕ
  gasPrice : ℕ
  gasLimit : ℕ
  kind : TxKind
  value : ℕ
  accessList : AccessList
  input : Bytes
  deriving DecidableEq, Repr

structure TxEip1559 where
  chainId : ℕ
  nonce : ℕ
  gasLimit : ℕ
  maxFeePerGas : ℕ
  maxPriorityFeePerGas : ℕ
  kind : TxKind
  value : ℕ
  accessList : AccessList
  input : Bytes
  deriving DecidableEq, Repr

structure TxEip7702 where
  chainId : ℕ
  nonce : ℕ
  gasLimit : ℕ
  maxFeePerGas : ℕ
  maxPriorityFeePerGas : ℕ
  target : Address
  value : ℕ
  accessList : AccessList
  authorizationList : List SignedAuthorization
  input : Bytes
  deriving DecidableEq, Repr

structure TxDeposit where
  sourceHash : ℕ
  sender : Address
  kind : TxKind
  mint : ℕ
  value : ℕ
  gasLimit : ℕ
  isSystemTransaction : Bool
  input : Bytes
  deriving DecidableEq, Repr

inductive MegaTxEnvelope where
  | legacy (tx : TxLegacy) (signature : Signature)
  | eip2930 (tx : TxEip2930) (signature : Signature)
  | eip1559 (tx : TxEip1559) (signature : Signature)
  | eip7702 (tx : TxEip7702) (signature : Signature)
  | deposit (tx : TxDeposit)
  deriving DecidableEq, Repr

namespace MegaTxEnvelope

def ty : MegaTxEnvelope → ℕ
  | legacy .. => 0
  | eip2930 .. => 1
  | eip1559 .. => 2
  | eip7702 .. => 4
  | deposit _ => 126

def chainId : MegaTxEnvelope → Option ℕ
  | legacy tx _ => tx.chainId
  | eip2930 tx _ => some tx.chainId
  | eip1559 tx _ => some tx.chainId
  | eip7702 tx _ => some tx.chainId
  | deposit _ => none

def nonce : MegaTxEnvelope → ℕ
  | legacy tx _ => tx.nonce
  | eip2930 tx _ => tx.nonce
  | eip1559 tx _ => tx.nonce
  | eip7702 tx _ => tx.nonce
  | deposit _ => 0

def gasLimit : MegaTxEnvelope → ℕ
  | legacy tx _ => tx.gasLimit
  | eip2930 tx _ => tx.gasLimit
  | eip1559 tx _ => tx.gasLimit
  | eip7702 tx _ => tx.gasLimit
  | deposit tx => tx.gasLimit

def gasPrice : MegaTxEnvelope → Option ℕ
  | legacy tx _ => some tx.gasPrice
  | eip2930 tx _ => some tx.gasPrice
  | _ => none

def maxFeePerGas : MegaTxEnvelope → ℕ
  | legacy tx _ => tx.gasPrice
  | eip2930 tx _ => tx.gasPrice
  | eip1559 tx _ => tx.maxFeePerGas
  | eip7702 tx _ => tx.maxFeePerGas
  | deposit _ => 0

def maxPriorityFeePerGas : MegaTxEnvelope → Option ℕ
  | eip1559 tx _ => some tx.maxPriorityFeePerGas
  | eip7702 tx _ => some tx.maxPriorityFeePerGas
  | _ => none

def kind : MegaTxEnvelope → TxKind
  | legacy tx _ => tx.kind
  | eip2930 tx _ => tx.kind
  | eip1559 tx _ => tx.kind
  | eip7702 tx _ => .call tx.target
  | deposit tx => tx.kind

def value : MegaTxEnvelope → ℕ
  | legacy tx _ => tx.value
  | eip2930 tx _ => tx.value
  | eip1559 tx _ => tx.value
  | eip7702 tx _ => tx.value
  | deposit tx => tx.value

def input : MegaTxEnvelope → Bytes
  | legacy tx _ => tx.input
  | eip2930 tx _ => tx.input
  | eip1559 tx _ => tx.input
  | eip7702 tx _ => tx.input
  | deposit tx => tx.input

def accessList : MegaTxEnvelope → Option AccessList
  | eip2930 tx _ => some tx.accessList
  | eip1559 tx _ => some tx.accessList
  | eip7702 tx _ => some tx.accessList
  | _ => none

def authorizationList : MegaTxEnvelope → Option (List SignedAuthorization)
  | eip7702 tx _ => some tx.authorizationList
  | _ => none

end MegaTxEnvelope

structure TxEnv where
  caller : Address
  gasPrice : ℕ
  gasPriorityFee : Option ℕ
  blobHashes : List ℕ
  maxFeePerBlobGas : ℕ
  txType : ℕ
  gasLimit : ℕ
  data : Bytes
  nonce : ℕ
  value : ℕ
  accessList : AccessList
  authorizationList : List TxAuthorization
  kind : TxKind
  chainId : Option ℕ
  deriving DecidableEq, Repr

/-- The environment describes the transaction of the envelope: every field a signer signs,
whoever signed it. -/
structure MegaTxEnvelope.Describes (envelope : MegaTxEnvelope) (env : TxEnv) : Prop where
  txType : env.txType = envelope.ty
  chainId : env.chainId = envelope.chainId
  nonce : env.nonce = envelope.nonce
  gasLimit : env.gasLimit = envelope.gasLimit
  gasPrice : env.gasPrice = envelope.maxFeePerGas
  gasPriorityFee : env.gasPriorityFee = envelope.maxPriorityFeePerGas
  kind : env.kind = envelope.kind
  value : env.value = envelope.value
  data : env.data = envelope.input
  accessList : env.accessList = envelope.accessList.getD []
  authorizationList : env.authorizationList.map TxAuthorization.inner =
    (envelope.authorizationList.getD []).map SignedAuthorization.inner

end MegaEvm
