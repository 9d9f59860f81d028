import OpenRisk.Framing.LengthPrefix
import OpenRisk.Guard.Evm

/-!
# Exact calldata

The three calls with two arguments that `decodeTransactionCalldata` recognizes, their encoding
by the contract ABI, and their decoded fields. A word is 32 bytes, written in hexadecimal.

Results:
* `hexWord_radixValue`: a run of lower-case hexadecimal digits is the text of one number.
* `parseAddressWord_eq_ok`, `parseUint256Word_eq_ok`, `parseBoolWord_eq_ok`: each reader of a
  word accepts the words of its values.
* `decodeTransactionCalldata_exact`: calldata is decoded to a call exactly when it is the
  encoding of this call.
-/

namespace OpenRisk.Guard

open Text Sdk Framing

/-! ## Words -/

/-- The number `n` in `width` bytes, in hexadecimal. -/
def hexWord (width n : ℕ) : JsString := (bigEndian width n).flatMap hexByte

theorem hexWord_succ (width n : ℕ) :
    hexWord (width + 1) n =
      hexWord width (n / 256) ++ [Json.hexDigit (n % 256 / 16), Json.hexDigit (n % 256 % 16)] := by
  have hbyte : (n % 256).toUInt8.toNat = n % 256 := by
    rw [UInt8.toNat_ofNat']
    omega
  rw [hexWord, bigEndian, List.flatMap_append, List.flatMap_singleton, hexByte, hbyte]
  rfl

@[simp] theorem length_hexWord (width n : ℕ) : (hexWord width n).length = 2 * width := by
  induction width generalizing n with
  | zero => rfl
  | succ width ih =>
    rw [hexWord_succ, List.length_append, ih]
    show 2 * width + 2 = 2 * (width + 1)
    omega

theorem isHashUnit_hexWord (width n : ℕ) : ∀ u ∈ hexWord width n, isHashUnit u = true := by
  intro u hu
  obtain ⟨b, -, hu⟩ := List.mem_flatMap.mp hu
  exact hexByte_isHashUnit b u hu

/-- The value of a digit, and the digit of the value. -/
theorem hexDigit_hexValue {u : UInt16} (h : isHashUnit u = true) :
    ∃ d, d < 16 ∧ Json.hexValue u = some d ∧ Json.hexDigit d = u := by
  have hall : ∀ n : Fin 128, isHashUnit n.val.toUInt16 = true →
      ∃ d : Fin 16, Json.hexValue n.val.toUInt16 = some d.val ∧
        Json.hexDigit d.val = n.val.toUInt16 := by decide
  have hlt : u.toNat < 128 := by
    simp only [isHashUnit, Json.isDigit, Bool.or_eq_true, Bool.and_eq_true, decide_eq_true_eq] at h
    omega
  have hu : u.toNat.toUInt16 = u := UInt16.ofNat_toNat
  obtain ⟨d, hvalue, hdigit⟩ := hall ⟨u.toNat, hlt⟩ (by rw [hu]; exact h)
  rw [hu] at hvalue hdigit
  exact ⟨d.val, d.isLt, hvalue, hdigit⟩

theorem radixValue_hexWord {width n : ℕ} (hn : n < 256 ^ width) :
    Json.radixValue 16 (hexWord width n) = n := by
  induction width generalizing n with
  | zero =>
    have : n = 0 := by omega
    rw [this]
    rfl
  | succ width ih =>
    rw [pow_succ] at hn
    have hsplit : ∀ u v : UInt16, hexWord width (n / 256) ++ [u, v] =
        hexWord width (n / 256) ++ [u] ++ [v] := by simp
    rw [hexWord_succ, hsplit, Json.radixValue_append, Json.radixValue_append, ih (by omega),
      Json.hexValue_hexDigit _ (by omega), Json.hexValue_hexDigit _ (by omega), Option.getD_some,
      Option.getD_some]
    omega

/-- A run of lower-case hexadecimal digits is the text of the number it denotes. -/
theorem hexWord_radixValue {width : ℕ} {w : JsString} (hlength : w.length = 2 * width)
    (hw : ∀ u ∈ w, isHashUnit u = true) :
    hexWord width (Json.radixValue 16 w) = w ∧ Json.radixValue 16 w < 256 ^ width := by
  induction width generalizing w with
  | zero =>
    obtain rfl := List.length_eq_zero_iff.mp hlength
    exact ⟨rfl, by decide⟩
  | succ width ih =>
    -- the last byte, and what stands before it
    obtain ⟨low, w, rfl⟩ : ∃ low w', w = w' ++ [low] :=
      ⟨_, _, (List.dropLast_append_getLast (List.ne_nil_of_length_pos (by omega))).symm⟩
    rw [List.length_append, List.length_singleton] at hlength
    obtain ⟨high, w, rfl⟩ : ∃ high w', w = w' ++ [high] :=
      ⟨_, _, (List.dropLast_append_getLast (List.ne_nil_of_length_pos (by omega))).symm⟩
    rw [List.length_append, List.length_singleton] at hlength
    obtain ⟨hword, hbound⟩ := @ih w (by omega) fun u hu => hw u (by simp [hu])
    obtain ⟨d, hd, hdvalue, hddigit⟩ := hexDigit_hexValue (hw high (by simp))
    obtain ⟨e, he, hevalue, hedigit⟩ := hexDigit_hexValue (hw low (by simp))
    rw [Json.radixValue_append, Json.radixValue_append, hdvalue, hevalue, Option.getD_some,
      Option.getD_some, pow_succ, hexWord_succ]
    generalize Json.radixValue 16 w = n at hword hbound
    have hdiv : ((n * 16 + d) * 16 + e) / 256 = n := by omega
    have hhigh : ((n * 16 + d) * 16 + e) % 256 / 16 = d := by omega
    have hlow : ((n * 16 + d) * 16 + e) % 256 % 16 = e := by omega
    rw [hdiv, hhigh, hlow, hword, hddigit, hedigit]
    exact ⟨by simp, by omega⟩

theorem HASH_PATTERN_iff {w : JsString} :
    HASH_PATTERN w = true ↔ w.length = 64 ∧ ∀ u ∈ w, isHashUnit u = true := by
  rw [HASH_PATTERN, Bool.and_eq_true, decide_eq_true_iff, List.all_eq_true]

theorem HASH_PATTERN_hexWord (n : ℕ) : HASH_PATTERN (hexWord 32 n) = true :=
  HASH_PATTERN_iff.mpr ⟨length_hexWord 32 n, isHashUnit_hexWord 32 n⟩

/-- An address behind twelve bytes of padding. -/
def addressWord (a : Address) : JsString := List.replicate 24 0x30 ++ a.val.drop 2

theorem Address.hex (a : Address) :
    a.val.take 2 = [0x30, 0x78] ∧ (a.val.drop 2).length = 40 ∧ ∀ u ∈ a.val.drop 2, isHexUnit u = true := by
  have h := a.property.1
  simp only [ADDRESS_PATTERN, hasHexMark, Bool.and_eq_true, decide_eq_true_eq,
    List.all_eq_true] at h
  exact ⟨h.1.1, h.1.2, h.2⟩

/-- The hexadecimal digits that are not letters in upper case. -/
theorem isHashUnit_of_isHexUnit {u : UInt16} (h : isHexUnit u = true)
    (hlower : isUpperAlpha u = false) : isHashUnit u = true := by
  simp only [isHexUnit, Json.hexValue] at h
  simp only [isUpperAlpha, Bool.and_eq_false_iff, decide_eq_false_iff_not] at hlower
  simp only [isHashUnit, Json.isDigit, Bool.or_eq_true, Bool.and_eq_true, decide_eq_true_eq]
  split_ifs at h
  · omega
  · omega
  · omega
  · cases h

theorem isHexUnit_of_isHashUnit {u : UInt16} (h : isHashUnit u = true) :
    isHexUnit u = true ∧ isUpperAlpha u = false := by
  obtain ⟨d, -, hvalue, -⟩ := hexDigit_hexValue h
  refine ⟨by rw [isHexUnit, hvalue]; rfl, ?_⟩
  simp only [isHashUnit, Json.isDigit, Bool.or_eq_true, Bool.and_eq_true, decide_eq_true_eq] at h
  simp only [isUpperAlpha, Bool.and_eq_false_iff, decide_eq_false_iff_not]
  omega

theorem toLowerAscii_eq_self_iff {s : JsString} :
    toLowerAscii s = s ↔ ∀ u ∈ s, isUpperAlpha u = false := by
  have hmove : ∀ u : UInt16, u + 0x20 ≠ u := by
    intro u h
    have h := congrArg UInt16.toNat h
    rw [UInt16.toNat_add] at h
    have : (0x20 : UInt16).toNat = 0x20 := rfl
    have := u.toNat_lt
    omega
  rw [toLowerAscii]
  conv_lhs => rhs; rw [← List.map_id s]
  rw [List.map_inj_left]
  refine forall₂_congr fun u _ => ?_
  cases isUpperAlpha u <;> simp [hmove]

theorem HASH_PATTERN_addressWord (a : Address) : HASH_PATTERN (addressWord a) = true := by
  obtain ⟨-, hlength, hhex⟩ := a.hex
  rw [HASH_PATTERN_iff, addressWord, List.length_append, List.length_replicate, hlength]
  refine ⟨rfl, fun u hu => ?_⟩
  rcases List.mem_append.mp hu with hu | hu
  · rw [List.eq_of_mem_replicate hu]
    rfl
  · exact isHashUnit_of_isHexUnit (hhex u hu)
      (toLowerAscii_eq_self_iff.mp a.property.2 u (List.mem_of_mem_drop hu))

/-- An address is read from its word, and from no other. -/
theorem parseAddressWord_eq_ok {word field : JsString} {a : Address} :
    parseAddressWord word field = .ok a ↔ word = addressWord a := by
  obtain ⟨hmark, hlength, -⟩ := a.hex
  have hval : a.val = 0x30 :: 0x78 :: a.val.drop 2 := by
    have h := List.take_append_drop 2 a.val
    rw [hmark] at h
    exact h.symm
  unfold parseAddressWord
  constructor
  · intro h
    split_ifs at h with hword
    swap
    · cases h
    rw [Bool.and_eq_true, decide_eq_true_iff] at hword
    obtain ⟨hpattern, hpadding⟩ := hword
    have hlower : toLowerAscii (0x30 :: 0x78 :: word.drop 24) = 0x30 :: 0x78 :: word.drop 24 := by
      rw [toLowerAscii_eq_self_iff]
      intro u hu
      rcases List.mem_cons.mp hu with rfl | hu
      · rfl
      · rcases List.mem_cons.mp hu with rfl | hu
        · rfl
        · exact (isHexUnit_of_isHashUnit
            ((HASH_PATTERN_iff.mp hpattern).2 u (List.mem_of_mem_drop hu))).2
    simp only [normalizeEvmAddress] at h
    split_ifs at h with haddress
    have ha : toLowerAscii (0x30 :: 0x78 :: word.drop 24) = a.val :=
      congrArg Subtype.val (Except.ok.inj h)
    rw [hlower] at ha
    rw [addressWord, ← ha, ← hpadding]
    exact (List.take_append_drop 24 word).symm
  · rintro rfl
    have htake : (addressWord a).take 24 = List.replicate 24 0x30 := rfl
    have hdrop : (addressWord a).drop 24 = a.val.drop 2 := rfl
    rw [if_pos (by rw [HASH_PATTERN_addressWord, htake]; rfl), hdrop, ← hval]
    exact normalizeEvmAddress_val a field

theorem BitVec.toNat_lt_pow (n : BitVec 256) : n.toNat < 256 ^ 32 :=
  lt_of_lt_of_eq n.isLt (by norm_num)

/-- A number is read from its word, and from no other. -/
theorem parseUint256Word_eq_ok {word field : JsString} {x : Decimal} :
    parseUint256Word word field = .ok x ↔
      ∃ n : BitVec 256, x = .ofNat n.toNat ∧ word = hexWord 32 n.toNat := by
  unfold parseUint256Word
  constructor
  · intro h
    split_ifs at h with hword
    swap
    · cases h
    obtain ⟨hlength, hhex⟩ := HASH_PATTERN_iff.mp hword
    obtain ⟨htext, hbound⟩ := @hexWord_radixValue 32 word hlength hhex
    refine ⟨BitVec.ofNatLT (Json.radixValue 16 word) (lt_of_lt_of_eq hbound (by norm_num)), ?_, ?_⟩
    · exact (Except.ok.inj h).symm
    · exact htext.symm
  · rintro ⟨n, rfl, hword⟩
    have hvalue := radixValue_hexWord (BitVec.toNat_lt_pow n)
    rw [hword, if_pos (HASH_PATTERN_hexWord n.toNat), hvalue]

/-- A flag is read from the words 0 and 1. -/
theorem parseBoolWord_eq_ok {word field : JsString} {b : Bool} :
    parseBoolWord word field = .ok b ↔ word = hexWord 32 b.toNat := by
  unfold parseBoolWord
  constructor
  · intro h
    split_ifs at h with hword
    swap
    · cases h
    obtain ⟨hlength, hhex⟩ := HASH_PATTERN_iff.mp hword
    obtain ⟨htext, -⟩ := @hexWord_radixValue 32 word hlength hhex
    dsimp only at h
    split_ifs at h with hvalue
    · cases h
    rw [← htext, ← Except.ok.inj h]
    refine congrArg (hexWord 32) ?_
    by_cases hone : Json.radixValue 16 word = 1
    · rw [hone]
      rfl
    · have hzero : Json.radixValue 16 word = 0 := by omega
      rw [hzero]
      rfl
  · intro hword
    have hlt : b.toNat < 256 ^ 32 :=
      lt_of_le_of_lt (Bool.toNat_le b) (Nat.one_lt_pow (by omega) (by omega))
    have hvalue := radixValue_hexWord hlt
    rw [hword, if_pos (HASH_PATTERN_hexWord b.toNat)]
    simp only [hvalue]
    cases b <;> rfl

/-! ## Calls -/

/-- The same class, with the same arguments. -/
def DecodedCalldata.SameCall (d d' : DecodedCalldata) : Prop :=
  d.requestClass = d'.requestClass ∧ d.spender = d'.spender ∧ d.recipient = d'.recipient ∧
    d.requestedAllowance = d'.requestedAllowance ∧ d.tokenAmount = d'.tokenAmount ∧
    d.requestedOperatorApproval = d'.requestedOperatorApproval

/-- A call with two arguments that is recognized. -/
inductive CalldataEffect where
  | approve (spender : Address) (allowance : BitVec 256)
  | transfer (recipient : Address) (amount : BitVec 256)
  | approvalForAll (operator : Address) (approved : Bool)

namespace CalldataEffect

def selector : CalldataEffect → JsString
  | .approve _ _ => ERC20_APPROVE_SELECTOR
  | .transfer _ _ => ERC20_TRANSFER_SELECTOR
  | .approvalForAll _ _ => SET_APPROVAL_FOR_ALL_SELECTOR

/-- The address among the arguments. -/
def account : CalldataEffect → Address
  | .approve a _ => a
  | .transfer a _ => a
  | .approvalForAll a _ => a

/-- The other argument as a number. -/
def argument : CalldataEffect → ℕ
  | .approve _ x => x.toNat
  | .transfer _ x => x.toNat
  | .approvalForAll _ b => b.toNat

/-- The selector, the address in 32 bytes and the other argument in 32 bytes. -/
def encode (e : CalldataEffect) : JsString :=
  e.selector ++ (addressWord e.account ++ hexWord 32 e.argument)

/-- The fields of the decoded call. -/
def decoded (calldataSha256 : HashText) : CalldataEffect → DecodedCalldata
  | .approve a x => ⟨.erc20Approve, some ERC20_APPROVE_SELECTOR, some a, none,
      some (.ofNat x.toNat), none, none, calldataSha256, true⟩
  | .transfer a x => ⟨.erc20Transfer, some ERC20_TRANSFER_SELECTOR, none, some a, none,
      some (.ofNat x.toNat), none, calldataSha256, true⟩
  | .approvalForAll a b => ⟨.setApprovalForAll, some SET_APPROVAL_FOR_ALL_SELECTOR, some a, none,
      none, none, some b, calldataSha256, true⟩

theorem selector_mem (e : CalldataEffect) : e.selector ∈
    [ERC20_APPROVE_SELECTOR, ERC20_TRANSFER_SELECTOR, SET_APPROVAL_FOR_ALL_SELECTOR] := by
  cases e <;> simp only [selector, List.mem_cons, true_or, or_true]

theorem length_selector (e : CalldataEffect) : e.selector.length = 10 := by
  cases e <;> rfl

theorem length_addressWord (a : Address) : (addressWord a).length = 64 :=
  (HASH_PATTERN_iff.mp (HASH_PATTERN_addressWord a)).1

/-- A text is the encoding of a call exactly when its parts are. -/
theorem eq_encode_iff {data : JsString} (e : CalldataEffect) :
    data = e.encode ↔ data.length = 138 ∧ data.take 10 = e.selector ∧
      (data.drop 10).take 64 = addressWord e.account ∧
      (data.drop 74).take 64 = hexWord 32 e.argument := by
  have hselector := e.length_selector
  have haccount := length_addressWord e.account
  have hargument := length_hexWord 32 e.argument
  rw [encode]
  generalize e.selector = selector, addressWord e.account = first,
    hexWord 32 e.argument = second at hselector haccount hargument
  constructor
  · rintro rfl
    have hdrop : (selector ++ (first ++ second)).drop 10 = first ++ second :=
      List.drop_left' hselector
    have hdrop' : (selector ++ (first ++ second)).drop 74 = second := by
      rw [← List.append_assoc]
      exact List.drop_left' (by rw [List.length_append]; omega)
    refine ⟨?_, List.take_left' hselector, ?_, ?_⟩
    · rw [List.length_append, List.length_append]
      omega
    · rw [hdrop, List.take_left' haccount]
    · rw [hdrop']
      exact List.take_of_length_le (by omega)
  · rintro ⟨hlength, rfl, rfl, rfl⟩
    have hlast : (data.drop 74).take 64 = data.drop 74 :=
      List.take_of_length_le (by rw [List.length_drop]; omega)
    have hmiddle : (data.drop 10).drop 64 = data.drop 74 := List.drop_drop
    rw [hlast, ← hmiddle, List.take_append_drop, List.take_append_drop]

/-- The class and the fields determine the call. -/
theorem eq_of_sameCall {e e' : CalldataEffect} {h h' : HashText}
    (heq : (e.decoded h).SameCall (e'.decoded h')) : e = e' := by
  have hnat : ∀ x y : BitVec 256, Decimal.ofNat x.toNat = Decimal.ofNat y.toNat → x = y :=
    fun x y hxy => BitVec.eq_of_toNat_eq (Json.decimal_injective (congrArg Subtype.val hxy))
  obtain ⟨hclass, hspender, hrecipient, hallowance, hamount, happroval⟩ := heq
  cases e <;> cases e' <;> try cases hclass
  · rw [Option.some.inj hspender, hnat _ _ (Option.some.inj hallowance)]
  · rw [Option.some.inj hrecipient, hnat _ _ (Option.some.inj hamount)]
  · rw [Option.some.inj hspender, Option.some.inj happroval]

theorem decoded_injective {e e' : CalldataEffect} {h h' : HashText}
    (heq : e.decoded h = e'.decoded h') : e = e' :=
  eq_of_sameCall (by rw [heq]; exact ⟨rfl, rfl, rfl, rfl, rfl, rfl⟩)

end CalldataEffect

/-- The branches of the selectors accept the words of the arguments. -/
theorem decodeTwoArguments_eq_ok {selector data : JsString} {h : HashText} {d : DecodedCalldata}
    (hselector : selector ∈
      [ERC20_APPROVE_SELECTOR, ERC20_TRANSFER_SELECTOR, SET_APPROVAL_FOR_ALL_SELECTOR]) :
    decodeTwoArguments selector data h = .ok d ↔ ∃ e : CalldataEffect, e.selector = selector ∧
      (data.drop 10).take 64 = addressWord e.account ∧
      (data.drop 74).take 64 = hexWord 32 e.argument ∧ d = e.decoded h := by
  have hne : ERC20_APPROVE_SELECTOR ≠ ERC20_TRANSFER_SELECTOR := by decide
  have hne' : ERC20_APPROVE_SELECTOR ≠ SET_APPROVAL_FOR_ALL_SELECTOR := by decide
  have hne'' : ERC20_TRANSFER_SELECTOR ≠ SET_APPROVAL_FOR_ALL_SELECTOR := by decide
  constructor
  · intro hd
    unfold decodeTwoArguments at hd
    dsimp only at hd
    split_ifs at hd with happrove htransfer
    · obtain ⟨a, ha, hd⟩ := bind_eq_ok.mp hd
      obtain ⟨x, hx, hd⟩ := bind_eq_ok.mp hd
      obtain ⟨n, rfl, hn⟩ := parseUint256Word_eq_ok.mp hx
      refine ⟨.approve a n, happrove.symm, parseAddressWord_eq_ok.mp ha, hn, ?_⟩
      rw [← Except.ok.inj hd, happrove]
      rfl
    · obtain ⟨a, ha, hd⟩ := bind_eq_ok.mp hd
      obtain ⟨x, hx, hd⟩ := bind_eq_ok.mp hd
      obtain ⟨n, rfl, hn⟩ := parseUint256Word_eq_ok.mp hx
      refine ⟨.transfer a n, htransfer.symm, parseAddressWord_eq_ok.mp ha, hn, ?_⟩
      rw [← Except.ok.inj hd, htransfer]
      rfl
    · have happroval : selector = SET_APPROVAL_FOR_ALL_SELECTOR := by
        simpa only [List.mem_cons, happrove, htransfer, List.not_mem_nil, or_false,
          false_or] using hselector
      obtain ⟨a, ha, hd⟩ := bind_eq_ok.mp hd
      obtain ⟨b, hb, hd⟩ := bind_eq_ok.mp hd
      refine ⟨.approvalForAll a b, happroval.symm, parseAddressWord_eq_ok.mp ha,
        parseBoolWord_eq_ok.mp hb, ?_⟩
      rw [← Except.ok.inj hd, happroval]
      rfl
  · rintro ⟨e, rfl, hfirst, hsecond, rfl⟩
    unfold decodeTwoArguments
    cases e with
    | approve a x =>
      refine (if_pos rfl).trans ?_
      refine bind_eq_ok.mpr ⟨a, parseAddressWord_eq_ok.mpr hfirst, ?_⟩
      exact bind_eq_ok.mpr ⟨_, parseUint256Word_eq_ok.mpr ⟨x, rfl, hsecond⟩, rfl⟩
    | transfer a x =>
      refine (if_neg (Ne.symm hne)).trans ((if_pos rfl).trans ?_)
      refine bind_eq_ok.mpr ⟨a, parseAddressWord_eq_ok.mpr hfirst, ?_⟩
      exact bind_eq_ok.mpr ⟨_, parseUint256Word_eq_ok.mpr ⟨x, rfl, hsecond⟩, rfl⟩
    | approvalForAll a b =>
      refine (if_neg (Ne.symm hne')).trans ((if_neg (Ne.symm hne'')).trans ?_)
      refine bind_eq_ok.mpr ⟨a, parseAddressWord_eq_ok.mpr hfirst, ?_⟩
      exact bind_eq_ok.mpr ⟨b, parseBoolWord_eq_ok.mpr hsecond, rfl⟩

/-! ## Decoding -/

/-- The recognized selectors. -/
def recognizedSelectors : List JsString :=
  [ERC20_APPROVE_SELECTOR, ERC20_TRANSFER_SELECTOR, SET_APPROVAL_FOR_ALL_SELECTOR]

/-- What `decodeTransactionCalldata` returns for data in lower case. -/
theorem decodeTransactionCalldata_eq {S : Hash} {raw : JsString} (hraw : HEX_DATA_PATTERN raw = true) :
    decodeTransactionCalldata S raw =
      if toLowerAscii raw = js "0x" then
        .ok ⟨.nativeTransfer, none, none, none, none, none, none, sha256Hex S (toLowerAscii raw), false⟩
      else if (toLowerAscii raw).length < 10 then
        calldataMalformed (js "transaction data is too short for a selector")
      else if recognizedSelectors.contains ((toLowerAscii raw).take 10) then
        if (toLowerAscii raw).length ≠ 138 then
          calldataMalformed (js "recognized two-argument calldata has an invalid length")
        else
          decodeTwoArguments ((toLowerAscii raw).take 10) (toLowerAscii raw)
            (sha256Hex S (toLowerAscii raw))
      else
        .ok ⟨.unknownCalldata, some ((toLowerAscii raw).take 10), none, none, none, none, none,
          sha256Hex S (toLowerAscii raw), true⟩ := by
  have hdata : normalizeHexData (some (.string raw)) (js "transaction data") =
      .ok (toLowerAscii raw) := by
    rw [normalizeHexData, if_pos hraw]
  rw [decodeTransactionCalldata, hdata]
  rfl

theorem decodeTransactionCalldata_encode {S : Hash} {raw : JsString}
    (hraw : HEX_DATA_PATTERN raw = true) (e : CalldataEffect) :
    decodeTransactionCalldata S raw = .ok (e.decoded (sha256Hex S (toLowerAscii raw))) ↔
      toLowerAscii raw = e.encode := by
  rw [decodeTransactionCalldata_eq hraw, e.eq_encode_iff]
  generalize toLowerAscii raw = data
  generalize sha256Hex S data = h
  constructor
  · intro hd
    split_ifs at hd with hempty hshort hknown hlength
    · cases e <;> cases hd
    · cases hd
    · cases hd
    · rw [not_not] at hlength
      obtain ⟨e', hselector, hfirst, hsecond, he⟩ :=
        (decodeTwoArguments_eq_ok (List.contains_iff_mem.mp hknown)).mp hd
      obtain rfl := CalldataEffect.decoded_injective he
      exact ⟨hlength, hselector.symm, hfirst, hsecond⟩
    · cases e <;> cases hd
  · rintro ⟨hlength, hselector, hfirst, hsecond⟩
    have hempty : data ≠ js "0x" := by
      rintro rfl
      cases hlength
    have hknown : recognizedSelectors.contains (data.take 10) = true := by
      rw [hselector]
      exact List.contains_iff_mem.mpr e.selector_mem
    rw [if_neg hempty, if_neg (by omega), if_pos hknown, if_neg (not_not.mpr hlength), hselector]
    exact (decodeTwoArguments_eq_ok e.selector_mem).mpr ⟨e, rfl, hfirst, hsecond, rfl⟩

/-- Data of a recognized class is decoded to a call. -/
theorem decodeTransactionCalldata_recognized {S : Hash} {raw : JsString} {d : DecodedCalldata}
    (hraw : HEX_DATA_PATTERN raw = true) (hd : decodeTransactionCalldata S raw = .ok d)
    (hclass : d.requestClass ∈ [.erc20Approve, .erc20Transfer, .setApprovalForAll]) :
    ∃ e : CalldataEffect, d = e.decoded (sha256Hex S (toLowerAscii raw)) := by
  rw [decodeTransactionCalldata_eq hraw] at hd
  split_ifs at hd with hempty hshort hknown hlength
  · rw [← Except.ok.inj hd] at hclass
    simp at hclass
  · cases hd
  · cases hd
  · obtain ⟨e, -, -, -, rfl⟩ := (decodeTwoArguments_eq_ok (List.contains_iff_mem.mp hknown)).mp hd
    exact ⟨e, rfl⟩
  · rw [← Except.ok.inj hd] at hclass
    simp at hclass

/-- Hexadecimal data is empty in every case of its letters. -/
theorem toLowerAscii_eq_empty {raw : JsString} (hraw : HEX_DATA_PATTERN raw = true) :
    toLowerAscii raw = js "0x" ↔ raw = js "0x" := by
  constructor
  · intro h
    have hlength : raw.length = 2 := by
      have h := congrArg List.length h
      rwa [toLowerAscii, List.length_map] at h
    simp only [HEX_DATA_PATTERN, hasHexMark, Bool.and_eq_true, decide_eq_true_eq] at hraw
    exact (List.take_of_length_le (by omega)).symm.trans hraw.1.1
  · rintro rfl
    decide

theorem take_of_prefix {selector data : JsString} (hten : selector.length = 10)
    (hstarts : selector <+: data) : data.take 10 = selector ∧ 10 ≤ data.length := by
  constructor
  · rw [← hten]
    exact (List.prefix_iff_eq_take.mp hstarts).symm
  · rw [← hten]
    exact hstarts.length_le

theorem length_of_recognized {selector : JsString} (h : selector ∈ recognizedSelectors) :
    selector.length = 10 :=
  List.forall_iff_forall_mem.mp (by decide : recognizedSelectors.Forall fun s => s.length = 10) _ h

/-- Calldata is decoded to a call exactly when it is the encoding of this call. Data that is no
    encoding is rejected when it begins with a recognized selector. -/
theorem decodeTransactionCalldata_exact {S : Hash} {raw : JsString}
    (hraw : HEX_DATA_PATTERN raw = true) :
    (∀ e : CalldataEffect,
      decodeTransactionCalldata S raw = .ok (e.decoded (sha256Hex S (toLowerAscii raw))) ↔
        toLowerAscii raw = e.encode) ∧
    (∀ d, decodeTransactionCalldata S raw = .ok d →
      d.requestClass ∈ [.erc20Approve, .erc20Transfer, .setApprovalForAll] →
        (∃ e : CalldataEffect, d = e.decoded (sha256Hex S (toLowerAscii raw)) ∧
          toLowerAscii raw = e.encode) ∧
        ∀ raw' d', HEX_DATA_PATTERN raw' = true → decodeTransactionCalldata S raw' = .ok d' →
          d.SameCall d' → toLowerAscii raw = toLowerAscii raw') ∧
    ((∃ d, decodeTransactionCalldata S raw = .ok d ∧ d.requestClass = .nativeTransfer) ↔
      raw = js "0x") ∧
    (∀ selector ∈ recognizedSelectors, selector <+: toLowerAscii raw →
      (∀ e : CalldataEffect, toLowerAscii raw ≠ e.encode) →
        ∃ error, decodeTransactionCalldata S raw = .error error) ∧
    (∀ selector, selector.length = 10 → selector ∉ recognizedSelectors →
      selector <+: toLowerAscii raw →
        decodeTransactionCalldata S raw = .ok ⟨.unknownCalldata, some selector, none, none, none,
          none, none, sha256Hex S (toLowerAscii raw), true⟩) ∧
    (raw ≠ js "0x" → raw.length < 10 → ∃ error, decodeTransactionCalldata S raw = .error error) := by
  have hdecode := decodeTransactionCalldata_eq (S := S) hraw
  have hencode := decodeTransactionCalldata_encode (S := S) hraw
  have hlength : (toLowerAscii raw).length = raw.length := List.length_map _
  refine ⟨hencode, fun d hd hclass => ?_, ?_, ?_, ?_, ?_⟩
  · obtain ⟨e, rfl⟩ := decodeTransactionCalldata_recognized hraw hd hclass
    refine ⟨⟨e, rfl, (hencode e).mp hd⟩, fun raw' d' hraw' hd' hcall => ?_⟩
    obtain ⟨e', rfl⟩ := decodeTransactionCalldata_recognized hraw' hd' (hcall.1 ▸ hclass)
    obtain rfl := CalldataEffect.eq_of_sameCall hcall
    rw [(hencode e).mp hd, (decodeTransactionCalldata_encode hraw' e).mp hd']
  · rw [← toLowerAscii_eq_empty hraw]
    constructor
    · rintro ⟨d, hd, hclass⟩
      by_contra hne
      rw [hdecode, if_neg hne] at hd
      split_ifs at hd with hshort hknown hlen
      · cases hd
      · cases hd
      · obtain ⟨e, -, -, -, rfl⟩ := (decodeTwoArguments_eq_ok (List.contains_iff_mem.mp hknown)).mp hd
        cases e <;> cases hclass
      · cases hd
        cases hclass
    · intro hempty
      rw [hdecode, if_pos hempty]
      exact ⟨_, rfl, rfl⟩
  · intro selector hselector hstarts hno
    obtain ⟨htake, hten⟩ := take_of_prefix (length_of_recognized hselector) hstarts
    have hempty : toLowerAscii raw ≠ js "0x" := by
      intro h
      rw [h] at hten
      exact absurd hten (by decide)
    rw [hdecode, if_neg hempty, if_neg (by omega), htake,
      if_pos (List.contains_iff_mem.mpr hselector)]
    by_cases hlen : (toLowerAscii raw).length = 138
    · rw [if_neg (not_not.mpr hlen)]
      cases hd : decodeTwoArguments selector (toLowerAscii raw) (sha256Hex S (toLowerAscii raw)) with
      | error error => exact ⟨error, rfl⟩
      | ok d =>
        obtain ⟨e, he, hfirst, hsecond, -⟩ := (decodeTwoArguments_eq_ok hselector).mp hd
        exact absurd (e.eq_encode_iff.mpr ⟨hlen, htake.trans he.symm, hfirst, hsecond⟩) (hno e)
    · rw [if_pos hlen]
      exact ⟨_, rfl⟩
  · intro selector hten hselector hstarts
    obtain ⟨htake, hle⟩ := take_of_prefix hten hstarts
    have hempty : toLowerAscii raw ≠ js "0x" := by
      intro h
      rw [h] at hle
      exact absurd hle (by decide)
    rw [hdecode, if_neg hempty, if_neg (by omega), htake,
      if_neg (mt List.contains_iff_mem.mp hselector)]
  · intro hne hshort
    rw [hdecode, if_neg (mt (toLowerAscii_eq_empty hraw).mp hne), if_pos (by omega)]
    exact ⟨_, rfl⟩

/-- A transfer whose address has letters in both cases. -/
def sampleTransferCalldata : JsString :=
  js "0xa9059cbb000000000000000000000000aBcdef0123456789AbCdEf0123456789abcDEf01" ++
    js "00000000000000000000000000000000000000000000000000000000000003E8"

def sampleTransferTo : Address := ⟨js "0xabcdef0123456789abcdef0123456789abcdef01", by decide⟩

theorem decodeTransactionCalldata_exact_sample :
    decodeTransactionCalldata sha256 sampleTransferCalldata =
      .ok ((CalldataEffect.transfer sampleTransferTo 1000).decoded
        (sha256Hex sha256 (toLowerAscii sampleTransferCalldata))) :=
  ((decodeTransactionCalldata_exact (by decide +kernel)).1 _).mpr (by decide +kernel)

end OpenRisk.Guard
