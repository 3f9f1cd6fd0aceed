import MegaEvm.ArgText

/-!
# Arguments that are written out

Every argument can be written as a text that is read back as it is: numbers in decimal,
addresses, hashes and words the way their parsers read them, and nothing but letters and
digits between the separators.
-/

set_option autoImplicit false

namespace MegaEvm

open SplitText Fallible KeyedFold

namespace ArgText

/-! ## Plain texts -/

def Plain (s : Text) : Prop := ∀ c ∈ s, c.isAlphanum = true

variable {s : Text}

theorem isAlphanum_range {c : Char} (h : c.isAlphanum = true) :
    48 ≤ c.toNat ∧ c.toNat ≤ 57 ∨ 65 ≤ c.toNat ∧ c.toNat ≤ 90 ∨ 97 ≤ c.toNat ∧ c.toNat ≤ 122 := by
  have hrange : ∀ lo hi : UInt32, (decide (lo ≤ c.val) && decide (c.val ≤ hi)) = true →
      lo.toNat ≤ c.toNat ∧ c.toNat ≤ hi.toNat := fun lo hi hin =>
    (Bool.and_eq_true_iff.1 hin).imp of_decide_eq_true of_decide_eq_true
  have hcapital : c.isUpper = true → 65 ≤ c.toNat ∧ c.toNat ≤ 90 := of_decide_eq_true
  rcases Bool.or_eq_true_iff.1 h with halpha | hdigit
  · rcases Bool.or_eq_true_iff.1 halpha with hupper | hlower
    · exact .inr (.inl (hcapital hupper))
    · exact .inr (.inr (hrange 97 122 hlower))
  · exact .inl (hrange 48 57 hdigit)

theorem isWhitespace_of_isAlphanum {c : Char} (h : c.isAlphanum = true) :
    isWhitespace c = false := by
  have hrange := isAlphanum_range h
  simp only [isWhitespace, decide_eq_false_iff_not, List.mem_cons, List.not_mem_nil, or_false]
  omega

theorem Plain.trim_eq (h : Plain s) : trim s = s :=
  trim_of_plain fun c hc => isWhitespace_of_isAlphanum (h c hc)

theorem Plain.notMem (h : Plain s) {x : Char} (hx : x.isAlphanum = false) : x ∉ s := by
  intro hmem
  rw [h x hmem] at hx
  cases hx

/-! ## Numbers in decimal -/

def decimal (n : ℕ) : Text := Nat.toDigits 10 n

theorem isDigit_of_mem_decimal {n : ℕ} {c : Char} (h : c ∈ decimal n) : c.isDigit = true :=
  Nat.isDigit_of_mem_toDigits (by decide) (by decide) h

theorem plain_decimal (n : ℕ) : Plain (decimal n) := by
  intro c hc
  simp only [Char.isAlphanum, isDigit_of_mem_decimal hc, Bool.or_true]

theorem toDigit_of_isDigit {c : Char} (h : c.isDigit = true) :
    toDigit 10 c = some (c.toNat - '0'.toNat) := by
  have hrange := Char.isDigit_iff_toNat.1 h
  have hzero : '0'.toNat = 48 := rfl
  have hnine : '9'.toNat = 57 := rfl
  have hlt : c.toNat - 48 < 10 := by omega
  simp only [toDigit, h, if_true, Option.filter, hlt, decide_true, hzero]

theorem le_ofDigitChars (s : Text) (n : ℕ) : n ≤ Nat.ofDigitChars 10 s n := by
  induction s generalizing n with
  | nil => exact Nat.ofDigitChars_nil.ge
  | cons c cs ih =>
    rw [Nat.ofDigitChars_cons]
    have hrest := ih (10 * n + (c.toNat - '0'.toNat))
    omega

theorem parseDigits_eq {bound n : ℕ} (hdigits : ∀ c ∈ s, c.isDigit = true)
    (hlt : Nat.ofDigitChars 10 s n < bound) :
    parseDigits 10 bound n s = .ok (Nat.ofDigitChars 10 s n) := by
  induction s generalizing n with
  | nil => rw [parseDigits, Nat.ofDigitChars_nil]
  | cons c cs ih =>
    rw [Nat.ofDigitChars_cons] at hlt ⊢
    have hc := toDigit_of_isDigit (hdigits c List.mem_cons_self)
    have hpart := le_ofDigitChars cs (10 * n + (c.toNat - '0'.toNat))
    have hcomm : n * 10 + (c.toNat - '0'.toNat) = 10 * n + (c.toNat - '0'.toNat) := by
      rw [Nat.mul_comm]
    rw [parseDigits, hc]
    simp only [hcomm]
    rw [if_pos (hpart.trans_lt hlt)]
    exact ih (fun d hd => hdigits d (List.mem_cons_of_mem c hd)) hlt

theorem fromStrRadix_of_digits {bound : ℕ} (hne : s ≠ []) (hdigits : ∀ c ∈ s, c.isDigit = true) :
    fromStrRadix 10 bound s = parseDigits 10 bound 0 s := by
  unfold fromStrRadix
  split
  · exact absurd rfl hne
  · exact absurd (hdigits '+' (List.mem_singleton_self '+')) (by decide)
  · exact absurd (hdigits '+' List.mem_cons_self) (by decide)
  · rfl

theorem fromStrRadix_decimal {n bound : ℕ} (h : n < bound) :
    fromStrRadix 10 bound (decimal n) = .ok n := by
  have hne : decimal n ≠ [] := Nat.toDigits_ne_nil
  have hdigits : ∀ c ∈ decimal n, c.isDigit = true := fun c hc => isDigit_of_mem_decimal hc
  have hvalue : Nat.ofDigitChars 10 (decimal n) 0 = n := Nat.ofDigitChars_ten_toDigits
  rw [fromStrRadix_of_digits hne hdigits, parseDigits_eq hdigits (by rwa [hvalue]), hvalue]

theorem parseNonce_decimal {n : ℕ} (h : n < 2 ^ 64) : parseNonce (decimal n) = .ok n := by
  have hx : ¬ ['0', 'x'].isPrefixOf (decimal n) = true := by
    rw [List.isPrefixOf_iff_prefix]
    intro hstarts
    have hmem : 'x' ∈ decimal n := hstarts.subset (by simp)
    exact absurd (isDigit_of_mem_decimal hmem) (by decide)
  rw [parseNonce, if_neg hx, parseU64, fromStrRadix_decimal h]

/-! ## The forms -/

structure ArgPrinters where
  address : Address → Text
  hash : ℕ → Text
  word : ℕ → Text

/-- What is written is plain, and is read back where it fits its type. -/
structure ReadsBack (print : ℕ → Text) (parse : Text → Except String ℕ) (bound : ℕ) : Prop where
  plain : ∀ n, Plain (print n)
  read : ∀ n < bound, parse (print n) = .ok n

structure ArgParsers.Reads (p : ArgParsers) (print : ArgPrinters) : Prop where
  address : ReadsBack print.address p.address (2 ^ 160)
  hash : ReadsBack print.hash p.hash (2 ^ 256)
  word : ReadsBack print.word p.word (2 ^ 256)
  wei : ∀ n < 2 ^ 256, p.units (decimal n) ['w', 'e', 'i'] = .ok n

namespace ArgPrinters

variable (print : ArgPrinters)

def amount (sep : Text) (e : Address × ℕ) : Text := print.address e.1 ++ sep ++ decimal e.2

def storage (e : Address × ℕ × ℕ) : Text :=
  print.address e.1 ++ ':' :: (print.word e.2.1 ++ '=' :: print.word e.2.2)

def blockHash (e : ℕ × ℕ) : Text := decimal e.1 ++ ':' :: print.hash e.2

def authorization (auth : RecoveredAuthorization) : Text :=
  print.address (auth.authority.getD 0) ++ ':' :: decimal auth.inner.nonce ++
    '-' :: '>' :: print.address auth.inner.address

def accessItem (item : AccessListItem) : Text :=
  if item.storageKeys = [] then print.address item.address
  else print.address item.address ++ ':' :: [','].intercalate (item.storageKeys.map print.hash)

end ArgPrinters

def bucketCapacity (e : ℕ × ℕ) : Text := decimal e.1 ++ ':' :: decimal e.2

theorem ReadsBack.read_trim {print : ℕ → Text} {parse : Text → Except String ℕ} {bound n : ℕ}
    (h : ReadsBack print parse bound) (hn : n < bound) : parse (trim (print n)) = .ok n := by
  rw [(h.plain n).trim_eq, h.read n hn]

variable {p : ArgParsers} {print : ArgPrinters}

theorem ArgParsers.Reads.etherValue (h : p.Reads print) {n : ℕ} (hn : n < 2 ^ 256) :
    parseEtherValue p (decimal n) = .ok n := by
  have hnumeric : ∀ c ∈ decimal n, (c.isDigit || c == '.') = true := fun c hc => by
    rw [isDigit_of_mem_decimal hc, Bool.true_or]
  have htake : (decimal n).takeWhile (fun c => c.isDigit || c == '.') = decimal n :=
    List.takeWhile_eq_self_iff.2 hnumeric
  have hdrop : (decimal n).dropWhile (fun c => c.isDigit || c == '.') = [] :=
    List.dropWhile_eq_nil_iff.2 hnumeric
  simp only [parseEtherValue, (plain_decimal n).trim_eq, htake, hdrop, List.isEmpty_nil, if_true,
    h.wei n hn]
  rfl

theorem ArgParsers.Reads.amount (h : p.Reads print) {x : Char} {t : Text} {e : Address × ℕ}
    (hx : x.isAlphanum = false) (haddress : e.1 < 2 ^ 160) (hwei : e.2 < 2 ^ 256) :
    AmountText p (x :: t) (print.amount (x :: t) e) e :=
  .entry (first_of_notMem ((h.address.plain e.1).notMem hx)) (h.address.read_trim haddress)
    (h.etherValue hwei)

theorem ArgParsers.Reads.storage (h : p.Reads print) {e : Address × ℕ × ℕ}
    (haddress : e.1 < 2 ^ 160) (hslot : e.2.1 < 2 ^ 256) (hvalue : e.2.2 < 2 ^ 256) :
    StorageText p (print.storage e) e :=
  .entry ((h.address.plain e.1).notMem (by decide)) ((h.word.plain e.2.1).notMem (by decide))
    (h.address.read_trim haddress) (h.word.read_trim hslot) (h.word.read_trim hvalue)

theorem ArgParsers.Reads.blockHash (h : p.Reads print) {e : ℕ × ℕ} (hnum : e.1 < 2 ^ 64)
    (hhash : e.2 < 2 ^ 256) : BlockHashText p (print.blockHash e) e := by
  refine .entry ((plain_decimal e.1).notMem (by decide)) ?_ (h.hash.read_trim hhash)
  rw [(plain_decimal e.1).trim_eq, parseU64, fromStrRadix_decimal hnum]

theorem bucketText {e : ℕ × ℕ} (hid : e.1 < 2 ^ 32) (hcapacity : e.2 < 2 ^ 64) :
    BucketText (bucketCapacity e) e :=
  .entry ((plain_decimal e.1).notMem (by decide)) ((plain_decimal e.2).notMem (by decide))
    (fromStrRadix_decimal hid) (fromStrRadix_decimal hcapacity)

theorem ArgParsers.Reads.authorization (h : p.Reads print) {chainId nonce : ℕ}
    {delegation authority : Address} (hdelegation : delegation < 2 ^ 160)
    (hauthority : authority < 2 ^ 160) (hnonce : nonce < 2 ^ 64) :
    AuthText p chainId (print.authorization ⟨⟨chainId, delegation, nonce⟩, some authority⟩)
      ⟨⟨chainId, delegation, nonce⟩, some authority⟩ := by
  have hgrant : '-' ∉ print.address authority ++ ':' :: decimal nonce := by
    rw [List.mem_append, List.mem_cons, not_or, not_or]
    exact ⟨(h.address.plain authority).notMem (by decide), by decide,
      (plain_decimal nonce).notMem (by decide)⟩
  refine .entry ((h.address.plain authority).notMem (by decide))
    ((plain_decimal nonce).notMem (by decide)) (first_of_notMem hgrant)
    (not_infix_of_notMem ((h.address.plain delegation).notMem (by decide)))
    (h.address.read_trim hauthority) ?_ (h.address.read_trim hdelegation)
  rw [(plain_decimal nonce).trim_eq, parseNonce_decimal hnonce]

theorem ArgParsers.Reads.accessItem (h : p.Reads print) {item : AccessListItem}
    (haddress : item.address < 2 ^ 160) (hkeys : ∀ key ∈ item.storageKeys, key < 2 ^ 256) :
    AccessText p (print.accessItem item) item := by
  have hcolon : ':' ∉ print.address item.address :=
    (h.address.plain item.address).notMem (by decide)
  obtain ⟨address, storageKeys⟩ := item
  unfold ArgPrinters.accessItem
  split
  next hnil =>
    simp only at hnil
    subst hnil
    exact .address hcolon (h.address.read_trim haddress)
  next hne =>
    refine .keys hcolon (mt List.map_eq_nil_iff.1 hne) ?_ (h.address.read_trim haddress) ?_
    · intro k hk
      obtain ⟨key, -, rfl⟩ := List.mem_map.1 hk
      exact (h.hash.plain key).notMem (by decide)
    · rw [List.forall₂_map_left_iff, List.forall₂_same]
      exact fun key hkey => h.hash.read_trim (hkeys key hkey)

/-! ## The arguments of a prestate -/

/-- The arguments as they are typed; the file is read apart from them. -/
structure PreStateTexts where
  prestate : Option (Map Address AccountState)
  balance : List Text
  storage : List Text
  senderBalance : Option Text
  faucet : List Text

/-- In the order in which `load_prestate` comes to them. -/
def PreStateTexts.parsed (p : ArgParsers) (texts : PreStateTexts) :
    Except ArgError PreStateArgs := do
  let balance ← parseBalance p texts.balance
  let storage ← parseStorage p texts.storage
  let senderBalance ← match texts.senderBalance with
    | some text => (parseEtherValue p text).map some
    | none => .ok none
  let faucet ← parseFaucet p texts.faucet
  return ⟨texts.prestate, balance, storage, senderBalance, faucet⟩

def ArgPrinters.texts (print : ArgPrinters) (args : PreStateArgs) : PreStateTexts where
  prestate := args.prestate
  balance := args.balance.map (print.amount ['='])
  storage := args.storage.map print.storage
  senderBalance := args.senderBalance.map decimal
  faucet := args.faucet.map (print.amount ['+', '='])

structure PreStateFits (args : PreStateArgs) : Prop where
  balance : ∀ e ∈ args.balance, e.1 < 2 ^ 160 ∧ e.2 < 2 ^ 256
  storage : ∀ e ∈ args.storage, e.1 < 2 ^ 160 ∧ e.2.1 < 2 ^ 256 ∧ e.2.2 < 2 ^ 256
  senderBalance : ∀ wei ∈ args.senderBalance, wei < 2 ^ 256
  faucet : ∀ e ∈ args.faucet, e.1 < 2 ^ 160 ∧ e.2 < 2 ^ 256

theorem parsed_texts (h : p.Reads print) {args : PreStateArgs} (hfits : PreStateFits args) :
    (print.texts args).parsed p = .ok args := by
  have hbalance : parseBalance p (print.texts args).balance = .ok args.balance :=
    mapM_map_of_inverse fun e he =>
      (parseAmount_eq_ok_iff (List.cons_ne_nil '=' [])).2
        (h.amount (by decide) (hfits.balance e he).1 (hfits.balance e he).2)
  have hstorage : parseStorage p (print.texts args).storage = .ok args.storage :=
    mapM_map_of_inverse fun e he =>
      have hfit := hfits.storage e he
      parseStorageEntry_eq_ok_iff.2 (h.storage hfit.1 hfit.2.1 hfit.2.2)
  have hfaucet : parseFaucet p (print.texts args).faucet = .ok args.faucet :=
    mapM_map_of_inverse fun e he =>
      (parseAmount_eq_ok_iff (List.cons_ne_nil '+' ['='])).2
        (h.amount (by decide) (hfits.faucet e he).1 (hfits.faucet e he).2)
  rw [PreStateTexts.parsed, hbalance, hstorage, hfaucet]
  obtain ⟨prestate, balance, storage, senderBalance, faucet⟩ := args
  cases senderBalance with
  | none => rfl
  | some wei =>
    have hwei : parseEtherValue p (decimal wei) = .ok wei :=
      h.etherValue (hfits.senderBalance wei rfl)
    simp only [ArgPrinters.texts, Option.map_some, hwei]
    rfl

structure AuthFits (chainId : ℕ) (auth : RecoveredAuthorization) : Prop where
  chainId : auth.inner.chainId = chainId
  address : auth.inner.address < 2 ^ 160
  nonce : auth.inner.nonce < 2 ^ 64
  authority : ∃ a < 2 ^ 160, auth.authority = some a

/-- Whatever overrides, block hashes, capacities, authorizations and access lists somebody has
in mind: written out in their forms they are read as just these. -/
theorem arguments_round_trip (h : p.Reads print) :
    (∀ args, PreStateFits args → (print.texts args).parsed p = .ok args) ∧
    (∀ hashes : List (ℕ × ℕ), (∀ e ∈ hashes, e.1 < 2 ^ 64 ∧ e.2 < 2 ^ 256) →
      parseBlockHashes p (hashes.map print.blockHash) =
        .ok (hashes.foldl (fun map e => map.insert e.1 e.2) ∅)) ∧
    (∀ e : ℕ × ℕ, e.1 < 2 ^ 32 → e.2 < 2 ^ 64 →
      parseBucketCapacity (bucketCapacity e) = .ok e) ∧
    (∀ (chainId : ℕ) (auths : List RecoveredAuthorization),
      (∀ auth ∈ auths, AuthFits chainId auth) →
      parseAuthorizationList p (auths.map print.authorization) chainId = .ok auths) ∧
    ∀ list : AccessList, (∀ item ∈ list, item.address < 2 ^ 160 ∧
        ∀ key ∈ item.storageKeys, key < 2 ^ 256) →
      parseAccessList p (list.map print.accessItem) = .ok list := by
  refine ⟨fun args => parsed_texts h, ?_, ?_, ?_, ?_⟩
  · intro hashes hfits
    have hread : (hashes.map print.blockHash).mapM (parseBlockHash p) = .ok hashes :=
      mapM_map_of_inverse fun e he =>
        parseBlockHash_eq_ok_iff.2 (h.blockHash (hfits e he).1 (hfits e he).2)
    rw [parseBlockHashes, hread]
    rfl
  · intro e hid hcapacity
    exact parseBucketCapacity_eq_ok_iff.2 (bucketText hid hcapacity)
  · intro chainId auths hfits
    refine mapM_map_of_inverse fun auth hauth => ?_
    obtain ⟨⟨chainId', delegation, nonce⟩, authority⟩ := auth
    obtain ⟨hchain, haddress, hnonce, a, ha, hauthority⟩ := hfits _ hauth
    simp only at hchain haddress hnonce hauthority
    subst hchain hauthority
    exact parseAuthorization_eq_ok_iff.2 (h.authorization haddress ha hnonce)
  · intro list hfits
    exact mapM_map_of_inverse fun item hitem =>
      parseAccessListItem_eq_ok_iff.2 (h.accessItem (hfits item hitem).1 (hfits item hitem).2)

/-! ## Parsers of hexadecimal numbers -/

def hexDigits : ℕ → ℕ → Text
  | 0, _ => []
  | width + 1, n => hexDigits width (n / 16) ++ [Nat.digitChar (n % 16)]

theorem toDigit_digitChar : ∀ d < 16, toDigit 16 (Nat.digitChar d) = some d := by decide

theorem isAlphanum_digitChar : ∀ d < 16, (Nat.digitChar d).isAlphanum = true := by decide

theorem plain_hexDigits (width n : ℕ) : Plain (hexDigits width n) := by
  induction width generalizing n with
  | zero =>
    intro c hc
    cases hc
  | succ width ih =>
    intro c hc
    rcases List.mem_append.1 hc with hc | hc
    · exact ih (n / 16) c hc
    · rw [List.mem_singleton.1 hc]
      exact isAlphanum_digitChar (n % 16) (Nat.mod_lt n (by decide))

theorem length_hexDigits (width n : ℕ) : (hexDigits width n).length = width := by
  induction width generalizing n with
  | zero => rfl
  | succ width ih => rw [hexDigits, List.length_append, ih, List.length_singleton]

theorem parseDigits_append {radix bound n m : ℕ} {t : Text}
    (h : parseDigits radix bound n s = .ok m) :
    parseDigits radix bound n (s ++ t) = parseDigits radix bound m t := by
  induction s generalizing n with
  | nil =>
    rw [parseDigits] at h
    rw [List.nil_append, Except.ok.inj h]
  | cons c cs ih =>
    rw [List.cons_append]
    cases hd : toDigit radix c with
    | none => simp [parseDigits, hd] at h
    | some d =>
      simp only [parseDigits, hd] at h ⊢
      split at h
      next hlt => rw [if_pos hlt, ih h]
      next => cases h

theorem parseDigits_hexDigits {bound width n : ℕ} (hwidth : n < 16 ^ width) (hbound : n < bound) :
    parseDigits 16 bound 0 (hexDigits width n) = .ok n := by
  induction width generalizing n with
  | zero =>
    obtain rfl : n = 0 := Nat.lt_one_iff.1 hwidth
    rfl
  | succ width ih =>
    have hdiv : n / 16 < 16 ^ width := by
      rw [Nat.div_lt_iff_lt_mul (by decide), ← Nat.pow_succ]
      exact hwidth
    have hle : n / 16 ≤ n := Nat.div_le_self n 16
    have hvalue : n / 16 * 16 + n % 16 = n := by omega
    rw [hexDigits, parseDigits_append (ih hdiv (hle.trans_lt hbound)), parseDigits,
      toDigit_digitChar (n % 16) (Nat.mod_lt n (by decide))]
    simp only [hvalue, if_pos hbound, parseDigits]

def parseHex (width bound : ℕ) : Text → Except String ℕ
  | '0' :: 'x' :: cs =>
    if cs.length = width then parseDigits 16 bound 0 cs else .error "invalid string length"
  | cs => if cs.length = width then parseDigits 16 bound 0 cs else .error "invalid string length"

def printHex (width n : ℕ) : Text := '0' :: 'x' :: hexDigits width n

theorem readsBack_hex {width bound : ℕ} (h : bound ≤ 16 ^ width) :
    ReadsBack (printHex width) (parseHex width bound) bound where
  plain n c hc := by
    rcases List.mem_cons.1 hc with rfl | hc
    · decide
    · rcases List.mem_cons.1 hc with rfl | hc
      · decide
      · exact plain_hexDigits width n c hc
  read n hn := by
    rw [printHex, parseHex, if_pos (length_hexDigits width n)]
    exact parseDigits_hexDigits (hn.trans_le h) hn

def sampleParsers : ArgParsers where
  address := parseHex 40 (2 ^ 160)
  hash := parseHex 64 (2 ^ 256)
  word := fromStrRadix 10 (2 ^ 256)
  units num unit :=
    if unit = ['w', 'e', 'i'] then fromStrRadix 10 (2 ^ 256) num else .error "invalid unit"

def samplePrinters : ArgPrinters where
  address := printHex 40
  hash := printHex 64
  word := decimal

theorem sampleParsers_reads : sampleParsers.Reads samplePrinters where
  address := readsBack_hex (by norm_num)
  hash := readsBack_hex (by norm_num)
  word := ⟨plain_decimal, fun _ => fromStrRadix_decimal⟩
  wei _ hn := fromStrRadix_decimal hn

def sampleArgs : PreStateArgs where
  prestate := none
  balance := [(7, 100)]
  storage := [(9, 1, 2)]
  senderBalance := some 5
  faucet := [(7, 11)]

/-- Overrides of every kind, and an access list with two slots of one account and another
account. -/
theorem arguments_round_trip_sample :
    (samplePrinters.texts sampleArgs).parsed sampleParsers = .ok sampleArgs ∧
    parseAccessList sampleParsers
      ([⟨7, [1, 2]⟩, ⟨9, []⟩].map samplePrinters.accessItem) = .ok [⟨7, [1, 2]⟩, ⟨9, []⟩] := by
  obtain ⟨hargs, -, -, -, haccess⟩ := arguments_round_trip sampleParsers_reads
  refine ⟨hargs sampleArgs ⟨?_, ?_, ?_, ?_⟩, haccess [⟨7, [1, 2]⟩, ⟨9, []⟩] ?_⟩
  all_goals simp [sampleArgs]

end ArgText

end MegaEvm
