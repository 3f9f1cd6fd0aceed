import MegaEvm.Library.Fallible
import MegaEvm.Library.SplitText
import MegaEvm.Prestate
import MegaEvm.TxEnvelope

/-!
# The arguments of the tool as text

Balances, slots, block hashes, bucket capacities, authorizations and access lists are
given as texts whose parts stand between separators. Each part is read by the parser of
its type, most of them without the blanks around it.
-/

set_option autoImplicit false

namespace MegaEvm

open SplitText Fallible KeyedFold

abbrev Text := List Char

inductive ArgError where
  | invalidInput (text : String)
  | fileRead (text : String)
  | invalidHex (text : String)
  | unsupportedTxType (txType : ℕ)
  deriving DecidableEq, Repr

def ArgError.invalid (parts : List String) : ArgError := .invalidInput (String.join parts)

namespace ArgText

/-- `char::is_whitespace`. -/
def isWhitespace (c : Char) : Bool :=
  decide (9 ≤ c.toNat ∧ c.toNat ≤ 13 ∨ 0x2000 ≤ c.toNat ∧ c.toNat ≤ 0x200A ∨
    c.toNat ∈ [0x20, 0x85, 0xA0, 0x1680, 0x2028, 0x2029, 0x202F, 0x205F, 0x3000])

def trim (s : Text) : Text := SplitText.trim isWhitespace s

def shown (s : Text) : String := String.ofList s

/-! ## Numbers -/

/-- `char::to_digit`. -/
def toDigit (radix : ℕ) (c : Char) : Option ℕ :=
  let value :=
    if c.isDigit then some (c.toNat - 48)
    else if c.isLower then some (c.toNat - 97 + 10)
    else if c.isUpper then some (c.toNat - 65 + 10)
    else none
  value.filter fun d => d < radix

def parseDigits (radix bound : ℕ) : ℕ → Text → Except String ℕ
  | n, [] => .ok n
  | n, c :: cs =>
    match toDigit radix c with
    | none => .error "invalid digit found in string"
    | some d =>
      if n * radix + d < bound then parseDigits radix bound (n * radix + d) cs
      else .error "number too large to fit in target type"

/-- `from_str_radix` of an unsigned type with `bound` values. -/
def fromStrRadix (radix bound : ℕ) : Text → Except String ℕ
  | [] => .error "cannot parse integer from empty string"
  | ['+'] => .error "invalid digit found in string"
  | '+' :: cs => parseDigits radix bound 0 cs
  | cs => parseDigits radix bound 0 cs

def parseU32 (s : Text) : Except String ℕ := fromStrRadix 10 (2 ^ 32) s

def parseU64 (s : Text) : Except String ℕ := fromStrRadix 10 (2 ^ 64) s

/-- `trim_start_matches` of the prefix of a hexadecimal number takes every one. -/
def trimHexPrefix : Text → Text
  | '0' :: 'x' :: cs => trimHexPrefix cs
  | cs => cs

def parseNonce (s : Text) : Except String ℕ :=
  if ['0', 'x'].isPrefixOf s then fromStrRadix 16 (2 ^ 64) (trimHexPrefix s) else parseU64 s

/-! ## Arguments -/

/-- The parsers of addresses, of hashes, of 256-bit words and of amounts with their unit,
with the text of their errors. -/
structure ArgParsers where
  address : Text → Except String Address
  hash : Text → Except String ℕ
  word : Text → Except String ℕ
  units : Text → Text → Except String ℕ

variable (p : ArgParsers)

/-- The digits or dots before the unit, which is the smallest where none is named. -/
def parseEtherValue (s : Text) : Except ArgError ℕ :=
  let s := trim s
  let numStr := s.takeWhile fun c => c.isDigit || c == '.'
  let unit := s.dropWhile fun c => c.isDigit || c == '.'
  let unit := if unit.isEmpty then ['w', 'e', 'i'] else unit
  (p.units numStr unit).mapError fun e => .invalid ["Invalid ether value '", shown s, "': ", e]

/-- An entry of `parse_faucet` or `parse_balance`. -/
def parseAmount (kind : String) (sep entry : Text) : Except ArgError (Address × ℕ) :=
  match splitOnce sep entry with
  | none => .error (.invalid ["Invalid ", kind, " entry '", shown entry,
      "': expected format 'ADDRESS", shown sep, "VALUE'"])
  | some (addrStr, valueStr) => do
    let address ← (p.address (trim addrStr)).mapError fun e =>
      .invalid ["Invalid address '", shown addrStr, "' in ", kind, " entry '", shown entry,
        "': ", e]
    let wei ← parseEtherValue p valueStr
    return (address, wei)

def parseFaucet (faucet : List Text) : Except ArgError (List (Address × ℕ)) :=
  faucet.mapM (parseAmount p "faucet" ['+', '='])

def parseBalance (balance : List Text) : Except ArgError (List (Address × ℕ)) :=
  balance.mapM (parseAmount p "balance" ['='])

def storageFormat (entry : Text) : ArgError :=
  .invalid ["Invalid storage entry '", shown entry, "': expected format 'ADDRESS:SLOT=VALUE'"]

def storagePart (what : String) (part entry : Text) (e : String) : ArgError :=
  .invalid ["Invalid ", what, " '", shown part, "' in storage entry '", shown entry, "': ", e]

def parseStorageEntry (entry : Text) : Except ArgError (Address × ℕ × ℕ) :=
  match splitOnce [':'] entry with
  | none => .error (storageFormat entry)
  | some (addrStr, rest) =>
    match splitOnce ['='] rest with
    | none => .error (storageFormat entry)
    | some (slotStr, valueStr) => do
      let address ← (p.address (trim addrStr)).mapError (storagePart "address" addrStr entry)
      let slot ← (p.word (trim slotStr)).mapError (storagePart "slot" slotStr entry)
      let value ← (p.word (trim valueStr)).mapError (storagePart "value" valueStr entry)
      return (address, slot, value)

def parseStorage (storage : List Text) : Except ArgError (List (Address × ℕ × ℕ)) :=
  storage.mapM (parseStorageEntry p)

def parseBlockHash (entry : Text) : Except ArgError (ℕ × ℕ) :=
  match splitOnce [':'] entry with
  | none => .error (.invalid ["Invalid block hash entry '", shown entry,
      "': expected format 'block_number:block_hash'"])
  | some (numStr, hashStr) => do
    let blockNum ← (parseU64 (trim numStr)).mapError fun e =>
      .invalid ["Invalid block number '", shown numStr, "' in entry '", shown entry, "': ", e]
    let blockHash ← (p.hash (trim hashStr)).mapError fun e =>
      .invalid ["Invalid block hash '", shown hashStr, "' in entry '", shown entry, "': ", e]
    return (blockNum, blockHash)

/-- Of several entries for a block the last one counts. -/
def parseBlockHashes (blockHashes : List Text) : Except ArgError (Map ℕ ℕ) :=
  (blockHashes.mapM (parseBlockHash p)).map
    fun entries => entries.foldl (fun map e => map.insert e.1 e.2) ∅

/-- The parts have no blanks around them. -/
def parseBucketCapacity (s : Text) : Except ArgError (ℕ × ℕ) :=
  match splitPair [':'] s with
  | some (idStr, capacityStr) => do
    let bucketId ← (parseU32 idStr).mapError fun e =>
      .invalid ["Invalid bucket ID '", shown idStr, "': ", e]
    let capacity ← (parseU64 capacityStr).mapError fun e =>
      .invalid ["Invalid capacity '", shown capacityStr, "': ", e]
    return (bucketId, capacity)
  | none => .error (.invalid ["Invalid bucket capacity format: '", shown s,
      "'. Expected format: 'bucket_id:capacity'"])

def authFormat (s : Text) : ArgError :=
  .invalid ["Invalid authorization format '", shown s, "'. Expected: AUTHORITY:NONCE->DELEGATION"]

def parseAuthFields (s : Text) (chainId : ℕ) : Except ArgError (Authorization × Address) :=
  match splitPair ['-', '>'] s with
  | some (grant, delegationStr) => do
    let delegation ← (p.address (trim delegationStr)).mapError fun _ =>
      .invalid ["Invalid delegation address: ", shown (trim delegationStr)]
    match splitPair [':'] grant with
    | some (authorityStr, nonceStr) => do
      let authority ← (p.address (trim authorityStr)).mapError fun _ =>
        .invalid ["Invalid authority address: ", shown (trim authorityStr)]
      let nonce ← (parseNonce (trim nonceStr)).mapError fun _ =>
        .invalid ["Invalid nonce: ", shown (trim nonceStr)]
      return (⟨chainId, delegation, nonce⟩, authority)
    | none => .error (authFormat s)
  | none => .error (authFormat s)

def parseAuthorization (s : Text) (chainId : ℕ) : Except ArgError RecoveredAuthorization :=
  (parseAuthFields p s chainId).map fun fields => ⟨fields.1, some fields.2⟩

def parseAuthorizationList (auth : List Text) (chainId : ℕ) :
    Except ArgError (List RecoveredAuthorization) :=
  auth.mapM fun s => parseAuthorization p s chainId

def accessAddress (addrStr : Text) : Except ArgError Address :=
  (p.address (trim addrStr)).mapError fun _ =>
    .invalid ["Invalid access list address: ", shown (trim addrStr)]

def storageKey (k : Text) : Except ArgError ℕ :=
  (p.hash (trim k)).mapError fun _ => .invalid ["Invalid storage key: ", shown (trim k)]

def parseAccessListItem (s : Text) : Except ArgError AccessListItem :=
  match splitOnce [':'] s with
  | some (addrStr, keysStr) => do
    let address ← accessAddress p addrStr
    let storageKeys ← (split [','] keysStr).mapM (storageKey p)
    return ⟨address, storageKeys⟩
  | none => do
    let address ← accessAddress p s
    return ⟨address, []⟩

def parseAccessList (access : List Text) : Except ArgError AccessList :=
  access.mapM (parseAccessListItem p)

/-! ## What is accepted -/

/-- `ADDRESS=VALUE`, or the same with the other separator. -/
inductive AmountText (sep : Text) : Text → Address × ℕ → Prop where
  | entry {addrStr valueStr : Text} {address : Address} {wei : ℕ}
      (first : First sep addrStr)
      (haddress : p.address (trim addrStr) = .ok address)
      (hvalue : parseEtherValue p valueStr = .ok wei) :
      AmountText sep (addrStr ++ sep ++ valueStr) (address, wei)

inductive StorageText : Text → Address × ℕ × ℕ → Prop where
  | entry {addrStr slotStr valueStr : Text} {address : Address} {slot value : ℕ}
      (hcolon : ':' ∉ addrStr) (hequals : '=' ∉ slotStr)
      (haddress : p.address (trim addrStr) = .ok address)
      (hslot : p.word (trim slotStr) = .ok slot)
      (hvalue : p.word (trim valueStr) = .ok value) :
      StorageText (addrStr ++ ':' :: (slotStr ++ '=' :: valueStr)) (address, slot, value)

inductive BlockHashText : Text → ℕ × ℕ → Prop where
  | entry {numStr hashStr : Text} {blockNum blockHash : ℕ}
      (hcolon : ':' ∉ numStr)
      (hnum : parseU64 (trim numStr) = .ok blockNum)
      (hhash : p.hash (trim hashStr) = .ok blockHash) :
      BlockHashText (numStr ++ ':' :: hashStr) (blockNum, blockHash)

inductive BucketText : Text → ℕ × ℕ → Prop where
  | entry {idStr capacityStr : Text} {bucketId capacity : ℕ}
      (hid : ':' ∉ idStr) (hcapacity : ':' ∉ capacityStr)
      (hparse : parseU32 idStr = .ok bucketId)
      (hparse' : parseU64 capacityStr = .ok capacity) :
      BucketText (idStr ++ ':' :: capacityStr) (bucketId, capacity)

inductive AuthText (chainId : ℕ) : Text → RecoveredAuthorization → Prop where
  | entry {authorityStr nonceStr delegationStr : Text} {authority delegation : Address} {nonce : ℕ}
      (hcolon : ':' ∉ authorityStr) (hcolon' : ':' ∉ nonceStr)
      (first : First ['-', '>'] (authorityStr ++ ':' :: nonceStr))
      (hlast : ¬ ['-', '>'] <:+: delegationStr)
      (hauthority : p.address (trim authorityStr) = .ok authority)
      (hnonce : parseNonce (trim nonceStr) = .ok nonce)
      (hdelegation : p.address (trim delegationStr) = .ok delegation) :
      AuthText chainId (authorityStr ++ ':' :: nonceStr ++ '-' :: '>' :: delegationStr)
        ⟨⟨chainId, delegation, nonce⟩, some authority⟩

inductive AccessText : Text → AccessListItem → Prop where
  | address {addrStr : Text} {address : Address}
      (hcolon : ':' ∉ addrStr)
      (haddress : p.address (trim addrStr) = .ok address) :
      AccessText addrStr ⟨address, []⟩
  | keys {addrStr : Text} {keyStrs : List Text} {address : Address} {storageKeys : List ℕ}
      (hcolon : ':' ∉ addrStr) (hne : keyStrs ≠ []) (hcomma : ∀ k ∈ keyStrs, ',' ∉ k)
      (haddress : p.address (trim addrStr) = .ok address)
      (hkeys : List.Forall₂ (fun k key => p.hash (trim k) = .ok key) keyStrs storageKeys) :
      AccessText (addrStr ++ ':' :: [','].intercalate keyStrs) ⟨address, storageKeys⟩

variable {p}

theorem parseAmount_eq_ok_iff {kind : String} {sep entry : Text} {e : Address × ℕ}
    (hsep : sep ≠ []) :
    parseAmount p kind sep entry = .ok e ↔ AmountText p sep entry e := by
  constructor
  · intro h
    unfold parseAmount at h
    cases hsplit : splitOnce sep entry with
    | none =>
      rw [hsplit] at h
      cases h
    | some parts =>
      obtain ⟨addrStr, valueStr⟩ := parts
      obtain ⟨rfl, hfirst⟩ := (splitOnce_eq_some_iff hsep).1 hsplit
      simp only [hsplit, bind_eq_ok, mapError_eq_ok, pure_eq_ok] at h
      obtain ⟨address, haddress, wei, hwei, rfl⟩ := h
      exact .entry hfirst haddress hwei
  · rintro ⟨hfirst, haddress, hvalue⟩
    simp only [parseAmount, splitOnce_append hsep hfirst, bind_eq_ok, mapError_eq_ok, pure_eq_ok]
    exact ⟨_, haddress, _, hvalue, rfl⟩

theorem splitOnce_letter_iff {x : Char} {s a b : Text} :
    splitOnce [x] s = some (a, b) ↔ s = a ++ x :: b ∧ x ∉ a := by
  rw [splitOnce_eq_some_iff (List.cons_ne_nil x []), notMem_of_first_singleton,
    List.append_assoc, List.singleton_append]

theorem splitOnce_letter {x : Char} {a : Text} (h : x ∉ a) (b : Text) :
    splitOnce [x] (a ++ x :: b) = some (a, b) := splitOnce_letter_iff.2 ⟨rfl, h⟩

theorem parseStorageEntry_eq_ok_iff {entry : Text} {e : Address × ℕ × ℕ} :
    parseStorageEntry p entry = .ok e ↔ StorageText p entry e := by
  constructor
  · intro h
    unfold parseStorageEntry at h
    cases hsplit : splitOnce [':'] entry with
    | none =>
      rw [hsplit] at h
      cases h
    | some parts =>
      obtain ⟨addrStr, rest⟩ := parts
      obtain ⟨rfl, hcolon⟩ := splitOnce_letter_iff.1 hsplit
      simp only [hsplit] at h
      cases hrest : splitOnce ['='] rest with
      | none =>
        rw [hrest] at h
        cases h
      | some parts =>
        obtain ⟨slotStr, valueStr⟩ := parts
        obtain ⟨rfl, hequals⟩ := splitOnce_letter_iff.1 hrest
        simp only [hrest, bind_eq_ok, mapError_eq_ok, pure_eq_ok] at h
        obtain ⟨address, haddress, slot, hslot, value, hvalue, rfl⟩ := h
        exact .entry hcolon hequals haddress hslot hvalue
  · rintro ⟨hcolon, hequals, haddress, hslot, hvalue⟩
    simp only [parseStorageEntry, splitOnce_letter hcolon, splitOnce_letter hequals, bind_eq_ok,
      mapError_eq_ok, pure_eq_ok]
    exact ⟨_, haddress, _, hslot, _, hvalue, rfl⟩

theorem parseBlockHash_eq_ok_iff {entry : Text} {e : ℕ × ℕ} :
    parseBlockHash p entry = .ok e ↔ BlockHashText p entry e := by
  constructor
  · intro h
    unfold parseBlockHash at h
    cases hsplit : splitOnce [':'] entry with
    | none =>
      rw [hsplit] at h
      cases h
    | some parts =>
      obtain ⟨numStr, hashStr⟩ := parts
      obtain ⟨rfl, hcolon⟩ := splitOnce_letter_iff.1 hsplit
      simp only [hsplit, bind_eq_ok, mapError_eq_ok, pure_eq_ok] at h
      obtain ⟨blockNum, hnum, blockHash, hhash, rfl⟩ := h
      exact .entry hcolon hnum hhash
  · rintro ⟨hcolon, hnum, hhash⟩
    simp only [parseBlockHash, splitOnce_letter hcolon, bind_eq_ok, mapError_eq_ok, pure_eq_ok]
    exact ⟨_, hnum, _, hhash, rfl⟩

theorem splitPair_letter_iff {x : Char} {s a b : Text} :
    splitPair [x] s = some (a, b) ↔ s = a ++ x :: b ∧ x ∉ a ∧ x ∉ b := by
  rw [splitPair_eq_some_iff (List.cons_ne_nil x []), notMem_of_first_singleton,
    singleton_infix_iff, List.append_assoc, List.singleton_append]

theorem parseBucketCapacity_eq_ok_iff {s : Text} {e : ℕ × ℕ} :
    parseBucketCapacity s = .ok e ↔ BucketText s e := by
  constructor
  · intro h
    unfold parseBucketCapacity at h
    cases hsplit : splitPair [':'] s with
    | none =>
      rw [hsplit] at h
      cases h
    | some parts =>
      obtain ⟨idStr, capacityStr⟩ := parts
      obtain ⟨rfl, hid, hcapacity⟩ := splitPair_letter_iff.1 hsplit
      simp only [hsplit, bind_eq_ok, mapError_eq_ok, pure_eq_ok] at h
      obtain ⟨bucketId, hparse, capacity, hparse', rfl⟩ := h
      exact .entry hid hcapacity hparse hparse'
  · rintro ⟨hid, hcapacity, hparse, hparse'⟩
    have hsplit := splitPair_letter_iff.2 ⟨rfl, hid, hcapacity⟩
    simp only [parseBucketCapacity, hsplit, bind_eq_ok, mapError_eq_ok, pure_eq_ok]
    exact ⟨_, hparse, _, hparse', rfl⟩

theorem splitPair_arrow_iff {s a b : Text} :
    splitPair ['-', '>'] s = some (a, b) ↔
      s = a ++ '-' :: '>' :: b ∧ First ['-', '>'] a ∧ ¬ ['-', '>'] <:+: b := by
  rw [splitPair_eq_some_iff (List.cons_ne_nil '-' ['>']), List.append_assoc]
  rfl

theorem parseAuthorization_eq_ok_iff {s : Text} {chainId : ℕ} {auth : RecoveredAuthorization} :
    parseAuthorization p s chainId = .ok auth ↔ AuthText p chainId s auth := by
  rw [parseAuthorization, map_eq_ok]
  constructor
  · rintro ⟨⟨inner, authority⟩, h, rfl⟩
    unfold parseAuthFields at h
    cases harrow : splitPair ['-', '>'] s with
    | none =>
      rw [harrow] at h
      cases h
    | some parts =>
      obtain ⟨grant, delegationStr⟩ := parts
      obtain ⟨rfl, hfirst, hlast⟩ := splitPair_arrow_iff.1 harrow
      simp only [harrow, bind_eq_ok, mapError_eq_ok] at h
      obtain ⟨delegation, hdelegation, hgrant⟩ := h
      cases hcolons : splitPair [':'] grant with
      | none =>
        rw [hcolons] at hgrant
        cases hgrant
      | some parts =>
        obtain ⟨authorityStr, nonceStr⟩ := parts
        obtain ⟨rfl, hcolon, hcolon'⟩ := splitPair_letter_iff.1 hcolons
        simp only [hcolons, bind_eq_ok, mapError_eq_ok, pure_eq_ok] at hgrant
        obtain ⟨address, hauthority, nonce, hnonce, heq⟩ := hgrant
        obtain ⟨rfl, rfl⟩ := Prod.mk.inj heq
        exact .entry hcolon hcolon' hfirst hlast hauthority hnonce hdelegation
  · rintro ⟨hcolon, hcolon', hfirst, hlast, hauthority, hnonce, hdelegation⟩
    have harrow := splitPair_arrow_iff.2 ⟨rfl, hfirst, hlast⟩
    have hcolons := splitPair_letter_iff.2 ⟨rfl, hcolon, hcolon'⟩
    simp only [parseAuthFields, harrow, hcolons, bind_eq_ok, mapError_eq_ok, pure_eq_ok]
    exact ⟨_, ⟨_, hdelegation, _, hauthority, _, hnonce, rfl⟩, rfl⟩

theorem parseAccessListItem_eq_ok_iff {s : Text} {item : AccessListItem} :
    parseAccessListItem p s = .ok item ↔ AccessText p s item := by
  constructor
  · intro h
    unfold parseAccessListItem at h
    cases hsplit : splitOnce [':'] s with
    | none =>
      have hcolon : ':' ∉ s := by
        rwa [splitOnce_eq_none_iff (List.cons_ne_nil ':' []), singleton_infix_iff] at hsplit
      simp only [hsplit, accessAddress, bind_eq_ok, mapError_eq_ok, pure_eq_ok] at h
      obtain ⟨address, haddress, rfl⟩ := h
      exact .address hcolon haddress
    | some parts =>
      obtain ⟨addrStr, keysStr⟩ := parts
      obtain ⟨rfl, hcolon⟩ := splitOnce_letter_iff.1 hsplit
      simp only [hsplit, accessAddress, storageKey, bind_eq_ok, mapM_eq_ok, mapError_eq_ok,
        pure_eq_ok] at h
      obtain ⟨address, haddress, keys, hkeys, rfl⟩ := h
      obtain ⟨hne, heq, hcomma⟩ := split_singleton_eq_iff.1 (Eq.refl (split [','] keysStr))
      rw [heq]
      exact .keys hcolon hne hcomma haddress hkeys
  · intro h
    cases h with
    | address hcolon haddress =>
      have hsplit : splitOnce [':'] s = none := by
        rwa [splitOnce_eq_none_iff (List.cons_ne_nil ':' []), singleton_infix_iff]
      simp only [parseAccessListItem, hsplit, accessAddress, bind_eq_ok, mapError_eq_ok, pure_eq_ok]
      exact ⟨_, haddress, rfl⟩
    | keys hcolon hne hcomma haddress hkeys =>
      have hpieces := split_singleton_eq_iff.2 ⟨hne, rfl, hcomma⟩
      simp only [parseAccessListItem, splitOnce_letter hcolon, hpieces, accessAddress, storageKey,
        bind_eq_ok, mapM_eq_ok, mapError_eq_ok, pure_eq_ok]
      exact ⟨_, haddress, _, hkeys, rfl⟩

/-- The arguments that are accepted are those of the documented forms, and each is read in
one way: its parts stand between the first separators. Of the block hashes the last of a
block counts. -/
theorem arguments_accepted_iff (p : ArgParsers) :
    (∀ texts entries, parseFaucet p texts = .ok entries ↔
      List.Forall₂ (AmountText p ['+', '=']) texts entries) ∧
    (∀ texts entries, parseBalance p texts = .ok entries ↔
      List.Forall₂ (AmountText p ['=']) texts entries) ∧
    (∀ texts entries, parseStorage p texts = .ok entries ↔
      List.Forall₂ (StorageText p) texts entries) ∧
    (∀ texts hashes, parseBlockHashes p texts = .ok hashes ↔
      ∃ entries, List.Forall₂ (BlockHashText p) texts entries ∧
        entries.foldl (fun map e => map.insert e.1 e.2) ∅ = hashes) ∧
    (∀ text entry, parseBucketCapacity text = .ok entry ↔ BucketText text entry) ∧
    (∀ texts chainId auths, parseAuthorizationList p texts chainId = .ok auths ↔
      List.Forall₂ (AuthText p chainId) texts auths) ∧
    (∀ texts list, parseAccessList p texts = .ok list ↔
      List.Forall₂ (AccessText p) texts list) := by
  refine ⟨?_, ?_, ?_, ?_, fun text entry => parseBucketCapacity_eq_ok_iff, ?_, ?_⟩
  · intro texts entries
    have hsep : ['+', '='] ≠ [] := List.cons_ne_nil '+' ['=']
    simp only [parseFaucet, mapM_eq_ok, parseAmount_eq_ok_iff hsep]
  · intro texts entries
    have hsep : ['='] ≠ [] := List.cons_ne_nil '=' []
    simp only [parseBalance, mapM_eq_ok, parseAmount_eq_ok_iff hsep]
  · intro texts entries
    simp only [parseStorage, mapM_eq_ok, parseStorageEntry_eq_ok_iff]
  · intro texts hashes
    simp only [parseBlockHashes, map_eq_ok, mapM_eq_ok, parseBlockHash_eq_ok_iff]
  · intro texts chainId auths
    simp only [parseAuthorizationList, mapM_eq_ok, parseAuthorization_eq_ok_iff]
  · intro texts list
    simp only [parseAccessList, mapM_eq_ok, parseAccessListItem_eq_ok_iff]

end ArgText

end MegaEvm
