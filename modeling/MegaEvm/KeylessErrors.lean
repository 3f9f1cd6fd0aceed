import MegaEvm.KeylessDeploy

/-!
# Keyless deploy errors on the wire

A keyless deployment reports its errors as the Solidity errors of
`IKeylessDeploy`. The encoder is a match over the errors, the decoder tries one
Solidity error after the other. The ABI library and the bindings it generates are
not part of the repository; that an error struct is decoded to what was encoded,
and that the selectors differ, is what the code relies on.
-/

set_option autoImplicit false

namespace MegaEvm

inductive IKeylessDeploy where
  | malformedEncoding
  | notContractCreation
  | notPreEIP155
  | nonZeroTxNonce
  | noEtherTransfer
  | invalidSignature
  | insufficientBalance
  | contractAlreadyExists
  | signerNonceTooHigh
  | executionReverted
  | executionHalted
  | emptyCodeDeployed
  | noContractCreated
  | addressMismatch
  | gasLimitTooLow
  | insufficientComputeGas
  | internalError
  | notIntercepted
  deriving DecidableEq, Repr

abbrev IKeylessDeploy.Fields : IKeylessDeploy → Type
  | nonZeroTxNonce | signerNonceTooHigh | executionHalted | emptyCodeDeployed => UInt64
  | gasLimitTooLow | insufficientComputeGas => UInt64 × UInt64
  | executionReverted => UInt64 × Bytes
  | internalError => String
  | _ => Unit

/-- The bindings: a selector for each error, and the coding of its fields. -/
structure SolErrors where
  selector : IKeylessDeploy → Bytes
  abiEncodeRaw : (error : IKeylessDeploy) → error.Fields → Bytes
  abiDecodeRaw : (error : IKeylessDeploy) → Bytes → Option error.Fields

namespace SolErrors

variable (abi : SolErrors) {error other : IKeylessDeploy}

def abiEncode (error : IKeylessDeploy) (fields : error.Fields) : Bytes :=
  abi.selector error ++ abi.abiEncodeRaw error fields

/-- The selector has to be the error's own. -/
def abiDecode (error : IKeylessDeploy) (data : Bytes) : Option error.Fields :=
  if data.take 4 = abi.selector error then abi.abiDecodeRaw error (data.drop 4) else none

structure RoundTrips : Prop where
  length : ∀ error, (abi.selector error).length = 4
  distinct : Function.Injective abi.selector
  decode : ∀ error fields, abi.abiDecodeRaw error (abi.abiEncodeRaw error fields) = some fields

variable {abi}

theorem abiDecode_self (h : abi.RoundTrips) (fields : error.Fields) :
    abi.abiDecode error (abi.abiEncode error fields) = some fields := by
  have hlen := h.length error
  rw [abiDecode, abiEncode, List.take_left' hlen, List.drop_left' hlen, if_pos rfl]
  exact h.decode error fields

theorem abiDecode_other (h : abi.RoundTrips) (hne : error ≠ other) (fields : error.Fields) :
    abi.abiDecode other (abi.abiEncode error fields) = none := by
  rw [abiDecode, abiEncode, List.take_left' (h.length error)]
  exact if_neg fun hs => hne (h.distinct hs)

end SolErrors

section Bindings

def IKeylessDeploy.selector : IKeylessDeploy → Bytes
  | malformedEncoding => [0xae, 0x12, 0x70, 0xd3]
  | notContractCreation => [0xa5, 0x4f, 0xfa, 0x77]
  | notPreEIP155 => [0x78, 0x31, 0xfd, 0x0b]
  | nonZeroTxNonce => [0x0e, 0x0b, 0xea, 0xbf]
  | noEtherTransfer => [0xd2, 0x53, 0xa2, 0xb0]
  | invalidSignature => [0x8b, 0xaa, 0x57, 0x9f]
  | insufficientBalance => [0xf4, 0xd6, 0x78, 0xb8]
  | contractAlreadyExists => [0xe8, 0xdc, 0x2b, 0xa5]
  | signerNonceTooHigh => [0xdc, 0x77, 0x00, 0x0b]
  | executionReverted => [0xad, 0x2b, 0xd1, 0xd9]
  | executionHalted => [0xde, 0x97, 0x2b, 0x6e]
  | emptyCodeDeployed => [0x56, 0x11, 0x9d, 0x3c]
  | noContractCreated => [0x27, 0xba, 0x90, 0x8e]
  | addressMismatch => [0x4c, 0xd8, 0x7f, 0xb5]
  | gasLimitTooLow => [0xca, 0x79, 0xdf, 0xc8]
  | insufficientComputeGas => [0x39, 0x61, 0xc2, 0xb6]
  | internalError => [0x7a, 0x66, 0xf7, 0x5e]
  | notIntercepted => [0x18, 0x94, 0xf0, 0x76]

def utf8 (message : String) : Bytes := message.toByteArray.data.toList

def ofUtf8 (bytes : Bytes) : Option String := String.fromUTF8? ⟨bytes.toArray⟩

theorem ofUtf8_utf8 (message : String) : ofUtf8 (utf8 message) = some message := by
  have hbytes : (⟨(utf8 message).toArray⟩ : ByteArray) = message.toByteArray := by
    simp [utf8]
  unfold ofUtf8 String.fromUTF8?
  rw [hbytes, dif_pos message.isValidUTF8]
  rfl

def abiUInt64 (word : Bytes) : UInt64 := UInt64.ofNat (ofBeBytes (word.take 32))

theorem abiUInt64_abiWord (v : UInt64) (rest : Bytes) :
    abiUInt64 (abiWord v.toNat ++ rest) = v := by
  have hlt := v.toNat_lt
  have hword : v.toNat < 256 ^ 32 := by omega
  rw [abiUInt64, List.take_left' (abiWord_length _), abiWord, ofBeBytes_beBytes,
    Nat.mod_eq_of_lt hword, UInt64.ofNat_toNat]

def abiTail (tail : Bytes) : Bytes :=
  (tail.drop 32).take (tail.length - 32 - (32 - ofBeBytes (tail.take 32) % 32) % 32)

theorem abiTail_abiBytes (b : Bytes) : abiTail (abiBytes b) = b := by
  have hlen : ofBeBytes ((abiBytes b).take 32) % 32 = b.length % 32 := by
    rw [abiBytes, List.append_assoc, List.take_left' (abiWord_length _), abiWord,
      ofBeBytes_beBytes]
    exact Nat.mod_mod_of_dvd _ ⟨256 ^ 31 * 8, rfl⟩
  have hsize : (abiBytes b).length = 32 + b.length + (32 - b.length % 32) % 32 := by
    simp [abiBytes, abiWord_length, Nat.add_assoc]
  have htake : (abiBytes b).length - 32 - (32 - b.length % 32) % 32 = b.length := by omega
  rw [abiTail, hlen, htake, abiBytes, List.append_assoc, List.drop_left' (abiWord_length _),
    List.take_left' rfl]

/-- The bindings on the data the encoder produces; other data is not checked. -/
def bindings : SolErrors where
  selector := IKeylessDeploy.selector
  abiEncodeRaw
    | .nonZeroTxNonce, v | .signerNonceTooHigh, v | .executionHalted, v
    | .emptyCodeDeployed, v => abiWord v.toNat
    | .gasLimitTooLow, v | .insufficientComputeGas, v => abiWord v.1.toNat ++ abiWord v.2.toNat
    | .executionReverted, v => abiWord v.1.toNat ++ abiWord 64 ++ abiBytes v.2
    | .internalError, v => abiWord 32 ++ abiBytes (utf8 v)
    | _, _ => []
  abiDecodeRaw
    | .nonZeroTxNonce, d | .signerNonceTooHigh, d | .executionHalted, d
    | .emptyCodeDeployed, d => some (abiUInt64 d)
    | .gasLimitTooLow, d | .insufficientComputeGas, d =>
      some (abiUInt64 d, abiUInt64 (d.drop 32))
    | .executionReverted, d => some (abiUInt64 d, abiTail (d.drop 64))
    | .internalError, d => ofUtf8 (abiTail (d.drop 32))
    | .malformedEncoding, _ | .notContractCreation, _ | .notPreEIP155, _ | .noEtherTransfer, _
    | .invalidSignature, _ | .insufficientBalance, _ | .contractAlreadyExists, _
    | .noContractCreated, _ | .addressMismatch, _ | .notIntercepted, _ => some ()

theorem bindings_roundTrips : bindings.RoundTrips where
  length error := by cases error <;> rfl
  distinct := by
    intro e e' h
    cases e <;> cases e' <;> first | rfl | exact absurd h (by decide)
  decode error fields := by
    have hword : ∀ v : UInt64, abiUInt64 (abiWord v.toNat) = v := by
      intro v
      have h := abiUInt64_abiWord v []
      rwa [List.append_nil] at h
    cases error with
    | nonZeroTxNonce | signerNonceTooHigh | executionHalted | emptyCodeDeployed =>
      simp only [bindings, hword]
    | gasLimitTooLow | insufficientComputeGas =>
      simp only [bindings, abiUInt64_abiWord, List.drop_left' (abiWord_length _), hword]
    | executionReverted =>
      have hhead : (abiWord fields.1.toNat ++ abiWord 64).length = 64 := by
        simp [abiWord_length]
      simp only [bindings, List.drop_left' hhead, abiTail_abiBytes]
      rw [List.append_assoc, abiUInt64_abiWord]
    | internalError =>
      simp only [bindings, List.drop_left' (abiWord_length _), abiTail_abiBytes, ofUtf8_utf8]
    | _ => rfl

end Bindings

namespace Wire

/-- An error as the caller of the system contract meets it. -/
inductive KeylessDeployError where
  | malformedEncoding
  | notContractCreation
  | notPreEIP155
  | nonZeroTxNonce (txNonce : UInt64)
  | noEtherTransfer
  | invalidSignature
  | insufficientBalance
  | contractAlreadyExists
  | signerNonceTooHigh (signerNonce : UInt64)
  | executionReverted (gasUsed : UInt64) (output : Bytes)
  | executionHalted (gasUsed : UInt64) (reason : MegaHaltReason)
  | emptyCodeDeployed (gasUsed : UInt64)
  | noContractCreated
  | addressMismatch
  | gasLimitTooLow (txGasLimit providedGasLimit : UInt64)
  | insufficientComputeGas (limit used : UInt64)
  | internalError (message : String)
  | notIntercepted
  deriving DecidableEq, Repr

variable (abi : SolErrors)

def encodeErrorResult : KeylessDeployError → Bytes
  | .malformedEncoding => abi.abiEncode .malformedEncoding ()
  | .notContractCreation => abi.abiEncode .notContractCreation ()
  | .notPreEIP155 => abi.abiEncode .notPreEIP155 ()
  | .nonZeroTxNonce txNonce => abi.abiEncode .nonZeroTxNonce txNonce
  | .noEtherTransfer => abi.abiEncode .noEtherTransfer ()
  | .invalidSignature => abi.abiEncode .invalidSignature ()
  | .insufficientBalance => abi.abiEncode .insufficientBalance ()
  | .contractAlreadyExists => abi.abiEncode .contractAlreadyExists ()
  | .signerNonceTooHigh signerNonce => abi.abiEncode .signerNonceTooHigh signerNonce
  | .executionReverted gasUsed output => abi.abiEncode .executionReverted (gasUsed, output)
  | .executionHalted gasUsed _ => abi.abiEncode .executionHalted gasUsed
  | .emptyCodeDeployed gasUsed => abi.abiEncode .emptyCodeDeployed gasUsed
  | .noContractCreated => abi.abiEncode .noContractCreated ()
  | .addressMismatch => abi.abiEncode .addressMismatch ()
  | .gasLimitTooLow txGasLimit providedGasLimit =>
    abi.abiEncode .gasLimitTooLow (txGasLimit, providedGasLimit)
  | .insufficientComputeGas limit used => abi.abiEncode .insufficientComputeGas (limit, used)
  | .internalError message => abi.abiEncode .internalError message
  | .notIntercepted => abi.abiEncode .notIntercepted ()

/-- What stands for a halt reason, which is not encoded. -/
def haltPlaceholder : MegaHaltReason := .base .outOfGas

/-- The first error that decodes is returned. -/
def decodeErrorResult (output : Bytes) : Option KeylessDeployError :=
  List.findSome? id [
    (abi.abiDecode .noEtherTransfer output).map fun _ => .noEtherTransfer,
    (abi.abiDecode .malformedEncoding output).map fun _ => .malformedEncoding,
    (abi.abiDecode .notContractCreation output).map fun _ => .notContractCreation,
    (abi.abiDecode .notPreEIP155 output).map fun _ => .notPreEIP155,
    (abi.abiDecode .nonZeroTxNonce output).map fun e => .nonZeroTxNonce e,
    (abi.abiDecode .invalidSignature output).map fun _ => .invalidSignature,
    (abi.abiDecode .insufficientBalance output).map fun _ => .insufficientBalance,
    (abi.abiDecode .contractAlreadyExists output).map fun _ => .contractAlreadyExists,
    (abi.abiDecode .signerNonceTooHigh output).map fun e => .signerNonceTooHigh e,
    (abi.abiDecode .executionReverted output).map fun e => .executionReverted e.1 e.2,
    (abi.abiDecode .executionHalted output).map fun e => .executionHalted e haltPlaceholder,
    (abi.abiDecode .emptyCodeDeployed output).map fun e => .emptyCodeDeployed e,
    (abi.abiDecode .noContractCreated output).map fun _ => .noContractCreated,
    (abi.abiDecode .addressMismatch output).map fun _ => .addressMismatch,
    (abi.abiDecode .gasLimitTooLow output).map fun e => .gasLimitTooLow e.1 e.2,
    (abi.abiDecode .internalError output).map fun e => .internalError e,
    (abi.abiDecode .notIntercepted output).map fun _ => .notIntercepted]

namespace KeylessDeployError

def onWire : KeylessDeployError → KeylessDeployError
  | executionHalted gasUsed _ => executionHalted gasUsed haltPlaceholder
  | error => error

def isInsufficientComputeGas : KeylessDeployError → Bool
  | insufficientComputeGas .. => true
  | _ => false

end KeylessDeployError

variable {abi}

/-- The decoder does not know the error that is never tried. -/
theorem decode_insufficientComputeGas (h : abi.RoundTrips) (limit used : UInt64) :
    decodeErrorResult abi (encodeErrorResult abi (.insufficientComputeGas limit used)) = none := by
  have hother : ∀ other, IKeylessDeploy.insufficientComputeGas ≠ other →
      abi.abiDecode other (abi.abiEncode .insufficientComputeGas (limit, used)) = none :=
    fun other hne => SolErrors.abiDecode_other h hne _
  simp [decodeErrorResult, encodeErrorResult, hother]

theorem decode_known (h : abi.RoundTrips) {error : KeylessDeployError}
    (hknown : error.isInsufficientComputeGas = false) :
    decodeErrorResult abi (encodeErrorResult abi error) = some error.onWire := by
  have hself : ∀ {e : IKeylessDeploy} (fields : e.Fields),
      abi.abiDecode e (abi.abiEncode e fields) = some fields := SolErrors.abiDecode_self h
  have hother : ∀ {e other : IKeylessDeploy} (fields : e.Fields), e ≠ other →
      abi.abiDecode other (abi.abiEncode e fields) = none :=
    fun fields hne => SolErrors.abiDecode_other h hne fields
  cases error with
  | insufficientComputeGas => cases hknown
  | _ => simp [decodeErrorResult, encodeErrorResult, hself, hother, KeylessDeployError.onWire]

/-- Every error but one is decoded to what was encoded. -/
theorem decode_encode_iff (h : abi.RoundTrips) (error : KeylessDeployError) :
    decodeErrorResult abi (encodeErrorResult abi error) = some error.onWire ↔
      error.isInsufficientComputeGas = false := by
  refine ⟨fun hdecode => ?_, decode_known h⟩
  cases error with
  | insufficientComputeGas limit used =>
    rw [decode_insufficientComputeGas h] at hdecode
    cases hdecode
  | _ => rfl

/-- The output of a reverted deployment comes back as it was. -/
theorem decode_encode_reverted :
    decodeErrorResult bindings
        (encodeErrorResult bindings (.executionReverted 53000 [0xde, 0xad])) =
      some (.executionReverted 53000 [0xde, 0xad]) :=
  (decode_encode_iff bindings_roundTrips _).2 rfl

/-- A deployment that lacks the compute gas for its overhead. -/
theorem insufficient_compute_gas_lost : ¬ ∀ abi : SolErrors, abi.RoundTrips →
    ∀ error, decodeErrorResult abi (encodeErrorResult abi error) = some error.onWire := by
  intro h
  have hdecode := h bindings bindings_roundTrips (.insufficientComputeGas 90000 100000)
  rw [decode_insufficientComputeGas bindings_roundTrips] at hdecode
  cases hdecode

namespace KeylessDeployError

/-- The error as the sandbox reports it, which leaves out the text of an internal error. -/
def reported : KeylessDeployError → Option MegaEvm.KeylessDeployError
  | malformedEncoding => some .malformedEncoding
  | notContractCreation => some .notContractCreation
  | notPreEIP155 => some .notPreEIP155
  | nonZeroTxNonce txNonce => some (.nonZeroTxNonce txNonce.toNat)
  | noEtherTransfer => some .noEtherTransfer
  | invalidSignature => some .invalidSignature
  | insufficientBalance => some .insufficientBalance
  | contractAlreadyExists => some .contractAlreadyExists
  | signerNonceTooHigh signerNonce => some (.signerNonceTooHigh signerNonce.toNat)
  | executionReverted gasUsed output => some (.executionReverted gasUsed.toNat output)
  | executionHalted gasUsed reason => some (.executionHalted gasUsed.toNat reason)
  | emptyCodeDeployed gasUsed => some (.emptyCodeDeployed gasUsed.toNat)
  | noContractCreated => some .noContractCreated
  | addressMismatch => some .addressMismatch
  | gasLimitTooLow txGasLimit providedGasLimit =>
    some (.gasLimitTooLow txGasLimit.toNat providedGasLimit.toNat)
  | insufficientComputeGas limit used => some (.insufficientComputeGas limit.toNat used.toNat)
  | internalError _ => some .internalError
  | notIntercepted => none

def message : KeylessDeployError → String
  | internalError message => message
  | _ => ""

end KeylessDeployError

theorem encodeErrorResult_reported {error : KeylessDeployError}
    {reported : MegaEvm.KeylessDeployError} (h : error.reported = some reported) :
    encodeErrorResult bindings error =
      MegaEvm.encodeErrorResult (utf8 error.message) reported := by
  cases error with
  | notIntercepted => cases h
  | _ =>
    cases h
    simp [encodeErrorResult, MegaEvm.encodeErrorResult, SolErrors.abiEncode, bindings,
      IKeylessDeploy.selector, KeylessDeployError.message, NO_ETHER_TRANSFER_REVERT_DATA,
      insufficientComputeGasRevertData]

end Wire

end MegaEvm
