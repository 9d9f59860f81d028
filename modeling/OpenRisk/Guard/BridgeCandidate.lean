import OpenRisk.Guard.CallbackTransport
import OpenRisk.Sdk.Content

/-!
# The two readers of a bridge response

Model of `extractBoundTransactionCandidate` of `wallet-guard/prototype/server.mjs`, the reader
that decides which results the server keeps. The reader that settles a command is
`parseWalletGuardBridgeResponse`.

Results:
* `parseWalletGuardBridgeResponse_result_iff`, `extractBoundTransactionCandidate_iff`: the
  responses that each of the two accepts.
* `bridgeReaders_agree`: they agree on every text and every command.
-/

namespace OpenRisk.Guard.BridgeEnvelope

open Text JsonIngress Sdk

/-! ## Model -/

/-- `BRIDGE_RESPONSE_KEYS`. -/
def BRIDGE_RESPONSE_KEYS : List JsString :=
  ["schema_version", "session_id", "sequence", "request_id", "observed_chain_id",
    "observed_account", "outcome", "result", "error"].map js

/-- `TX_HASH_PATTERN`: `0x` and 64 lowercase hexadecimal digits. -/
def TX_HASH_PATTERN (s : JsString) : Bool :=
  s.take 2 = js "0x" && (s.drop 2).length = 64 && (s.drop 2).all isHashUnit

/-- `bridgeExpectedIdentity(command)`. -/
def bridgeExpectedIdentity (command : JsValue) : JsValue :=
  .object [(js "session_id", field command (js "session_id")),
    (js "sequence", field command (js "sequence")),
    (js "request_id", field command (js "request_id")),
    (js "expected_chain_id", field command (js "expected_chain_id")),
    (js "expected_account", field command (js "expected_account"))]

/-- What the server's reader throws. -/
inductive CandidateError where
  | ingress (e : IngressFailure)
  | type (message : JsString)

/-- `exactKeys(value, expected, label)` of the server. -/
def exactResponseKeys (value : JsValue) (expected : List JsString) (label : String) :
    Except CandidateError Unit :=
  match value with
  | .object es =>
    if sortNames (es.map Prod.fst) = sortNames expected then .ok ()
    else .error (.type (js label ++ js " has missing or unknown fields"))
  | _ => .error (.type (js label ++ js " must be an object"))

/-- A candidate. -/
structure Candidate where
  transactionHash : JsString
  observedChainId : JsString
  observedAccount : JsString
  contextMatches : Bool
  deriving DecidableEq

/-- `extractBoundTransactionCandidate(raw, command)`. -/
def extractBoundTransactionCandidate (raw : JsString) (command : JsValue) :
    Except CandidateError Candidate := do
  let input ← (parseWalletGuardBoundedJsonData raw).mapError .ingress
  exactResponseKeys input BRIDGE_RESPONSE_KEYS "bridge result candidate"
  let unbound := CandidateError.type (js "late bridge result candidate is not bound to the command")
  if sameProperty (input.get (js "schema_version")) (command.get (js "schema_version")) &&
      sameProperty (input.get (js "session_id")) (command.get (js "session_id")) &&
      sameProperty (input.get (js "sequence")) (command.get (js "sequence")) &&
      sameProperty (input.get (js "request_id")) (command.get (js "request_id")) &&
      sameProperty (input.get (js "outcome")) (some (.string (js "result"))) &&
      sameProperty (input.get (js "error")) (some .null) then
    match input.get (js "result"), input.get (js "observed_chain_id"),
        input.get (js "observed_account") with
    | some (.string result), some (.string chainId), some (.string account) =>
      if TX_HASH_PATTERN result then
        .ok { transactionHash := result
              observedChainId := chainId
              observedAccount := account
              contextMatches :=
                sameProperty (some (.string chainId)) (command.get (js "expected_chain_id")) &&
                  sameProperty (some (.string account)) (command.get (js "expected_account")) }
      else .error unbound
    | _, _, _ => .error unbound
  else .error unbound

/-! ## Commands -/

/-- What the transport knows of the fields of its commands. -/
structure ValidCommand (sessionId : JsString) (sequence : ℕ) (chainId account : JsString) :
    Prop where
  session : isLowerHex sessionId 64 [] = true
  positive : 0 < sequence
  bounded : sequence ≤ 99999999
  chain : isCanonicalChainId chainId = true
  account : isLowerHex account 40 (js "0x") = true

theorem makeWalletGuardBridgeCommand_valid {sessionId chainId account : JsString} {sequence : ℕ}
    {request : HostValue} {command : JsValue}
    (h : makeWalletGuardBridgeCommand (commandInput sessionId sequence chainId account request) =
      .ok command) :
    ValidCommand sessionId sequence chainId account := by
  obtain ⟨hpos, hle, -, -⟩ := makeWalletGuardBridgeCommand_spec h
  unfold makeWalletGuardBridgeCommand at h
  obtain ⟨input, hinput, h⟩ := bind_eq_ok.mp h
  obtain ⟨es, m, hes, rfl⟩ := captureBridgePlainData_record hinput
  obtain ⟨x1, _, _, h1, hes1, rfl⟩ := captureBridgeMembers_cons hes
  obtain ⟨x2, _, _, h2, hes2, rfl⟩ := captureBridgeMembers_cons hes1
  obtain ⟨x3, _, _, h3, hes3, rfl⟩ := captureBridgeMembers_cons hes2
  obtain ⟨x4, _, _, h4, hes4, rfl⟩ := captureBridgeMembers_cons hes3
  obtain rfl := captureBridgeValue_string h1
  obtain rfl := captureBridgeValue_number h2
  obtain rfl := captureBridgeValue_string h3
  obtain rfl := captureBridgeValue_string h4
  obtain ⟨⟨⟩, -, h⟩ := bind_eq_ok.mp h
  obtain ⟨id, hid, h⟩ := bind_eq_ok.mp h
  obtain ⟨⟨⟩, hrequire, -⟩ := bind_eq_ok.mp hid
  obtain ⟨⟨⟩, hcontext, h⟩ := bind_eq_ok.mp h
  rw [require_eq_ok, Bool.and_eq_true] at hrequire
  have hcontext : (isCanonicalChainId chainId && isLowerHex account 40 (js "0x")) = true :=
    require_eq_ok.mp hcontext
  rw [Bool.and_eq_true] at hcontext
  exact ⟨hrequire.1, hpos, hle, hcontext.1, hcontext.2⟩

/-! ## Checks -/

theorem sameProperty_null_iff {x : Option JsValue} :
    sameProperty x (some .null) = true ↔ x = some .null := by
  cases x with
  | none => simp [sameProperty]
  | some v => cases v <;> simp [sameProperty, strictEquals]

theorem TX_HASH_PATTERN_eq (s : JsString) : TX_HASH_PATTERN s = isLowerHex s 64 (js "0x") := by
  have htwo : (js "0x").length = 2 := rfl
  rw [Bool.eq_iff_iff]
  simp only [TX_HASH_PATTERN, isLowerHex, htwo, Bool.and_eq_true, decide_eq_true_eq,
    List.length_drop]
  constructor
  · rintro ⟨⟨hstart, hlength⟩, hunits⟩
    exact ⟨⟨by omega, hstart⟩, hunits⟩
  · rintro ⟨⟨hlength, hstart⟩, hunits⟩
    exact ⟨⟨hstart, by omega⟩, hunits⟩

/-- An object with these names. -/
def HasNames (value : JsValue) (names : List JsString) : Prop :=
  ∃ es, value = .object es ∧ (es.map Prod.fst).Perm names

/-- Counting the names and finding each of them is comparing the names without their order. -/
theorem exactKeys_eq_ok {value : JsValue} {expected : List JsString} (hexpected : expected.Nodup)
    {label : JsString} {u : Unit} :
    exactKeys value expected label = .ok u ↔ HasNames value expected := by
  cases value with
  | object es =>
    simp only [exactKeys, require_eq_ok, Bool.and_eq_true, decide_eq_true_eq, List.all_eq_true,
      List.contains_iff_mem, HasNames, JsValue.object.injEq, exists_eq_left']
    constructor
    · rintro ⟨hlength, hmem⟩
      have hsub : expected.Subperm (es.map Prod.fst) := List.subperm_of_subset hexpected hmem
      refine (hsub.perm_of_length_le ?_).symm
      rw [List.length_map, hlength]
    · intro h
      refine ⟨?_, fun key hkey => h.mem_iff.mpr hkey⟩
      rw [← h.length_eq, List.length_map]
  | _ => simp [exactKeys, fail, HasNames]

theorem exactResponseKeys_eq_ok {value : JsValue} {expected : List JsString} {label : String}
    {u : Unit} : exactResponseKeys value expected label = .ok u ↔ HasNames value expected := by
  cases value with
  | object es =>
    simp only [exactResponseKeys, sortNames_eq_iff, HasNames, JsValue.object.injEq, exists_eq_left']
    split_ifs with h
    · exact iff_of_true rfl h
    · exact iff_of_false (by simp) h
  | _ => simp [exactResponseKeys, HasNames]

/-! ## Responses with a result -/

/-- A response to the command of this session and sequence number that carries a transaction
    hash. -/
structure ResultResponse (sessionId : JsString) (sequence : ℕ) (hash : JsString)
    (response : JsValue) : Prop where
  names : HasNames response RESPONSE_KEYS
  version : response.get (js "schema_version") = some (.string WALLET_GUARD_BRIDGE_SCHEMA_VERSION)
  session : response.get (js "session_id") = some (.string sessionId)
  number : response.get (js "sequence") = some (.number (.ofInt sequence))
  request : response.get (js "request_id") = some (.string (requestId sessionId sequence))
  outcome : response.get (js "outcome") = some (.string (js "result"))
  result : response.get (js "result") = some (.string hash)
  transactionHash : isLowerHex hash 64 (js "0x") = true
  error : response.get (js "error") = some .null

section Readers

variable {sessionId chainId account : JsString} {sequence : ℕ}

theorem RESPONSE_KEYS_nodup : RESPONSE_KEYS.Nodup := by decide +kernel

theorem responseOutcome_eq_result {response : JsValue} {hash : JsString} :
    responseOutcome response = .ok (.result hash) ↔
      response.get (js "outcome") = some (.string (js "result")) ∧
      response.get (js "result") = some (.string hash) ∧ isLowerHex hash 64 (js "0x") = true ∧
      response.get (js "error") = some .null := by
  constructor
  · intro h
    obtain ⟨houtcome, hresult, hhash⟩ := responseOutcome_result h
    refine ⟨houtcome, hresult, hhash, ?_⟩
    rw [responseOutcome, houtcome] at h
    simp only [if_true, hresult] at h
    obtain ⟨⟨⟩, hrequire, -⟩ := bind_eq_ok.mp h
    rw [require_eq_ok, Bool.and_eq_true] at hrequire
    exact sameProperty_null_iff.mp hrequire.2
  · rintro ⟨houtcome, hresult, hhash, herror⟩
    rw [responseOutcome, houtcome]
    simp only [if_true, hresult]
    refine bind_eq_ok.mpr ⟨(), ?_, rfl⟩
    rw [require_eq_ok, Bool.and_eq_true]
    exact ⟨hhash, sameProperty_null_iff.mpr herror⟩

theorem isSequence_ofInt (hpos : 0 < sequence) (hle : sequence ≤ 99999999) :
    isSequence (some (.number (.ofInt sequence))) = true := by
  simp only [isSequence, JsNumber.toInt_ofInt, Bool.and_eq_true, decide_eq_true_eq]
  refine ⟨⟨?_, by omega⟩, by omega⟩
  have hmax : JsNumber.maxSafeInteger = 9007199254740991 := by norm_num [JsNumber.maxSafeInteger]
  rw [JsNumber.isSafeInteger_ofInt, Int.natAbs_natCast, hmax]
  omega

/-- The identity of a response is accepted. -/
theorem validateIdentity_eq_ok {response : JsValue} {hash label : JsString}
    (hcommand : ValidCommand sessionId sequence chainId account)
    (h : ResultResponse sessionId sequence hash response) :
    validateIdentity response label = .ok () := by
  have hsequence := isSequence_ofInt hcommand.positive hcommand.bounded
  unfold validateIdentity
  refine bind_eq_ok.mpr ⟨(), ?_, ?_⟩
  · rw [require_eq_ok, h.version, h.session, h.number, h.request, sameProperty_string, hsequence]
    show (isLowerHex sessionId 64 [] && true && true) = true
    rw [hcommand.session]
    rfl
  · refine bind_eq_ok.mpr ⟨requestId sessionId sequence, ?_, ?_⟩
    · rw [h.session, h.number]
      refine bind_eq_ok.mpr ⟨(), ?_, ?_⟩
      · rw [require_eq_ok, hcommand.session, hsequence]
        rfl
      · rw [JsNumber.toInt_ofInt, Int.toNat_natCast]
    · rw [require_eq_ok, h.request]
      exact sameProperty_string _

/-- The identity that the server expects is the one of the command. -/
theorem bridgeExpectedIdentity_sessionCommand (request : JsValue) :
    bridgeExpectedIdentity (sessionCommand sessionId sequence chainId account request) =
      expectedIdentity sessionId sequence chainId account := rfl

theorem captureBridgeValue_text {room remaining : ℕ} {s : JsString} (hs : s.length ≤ 16384)
    (hremaining : 0 < remaining) :
    captureBridgeValue (room + 1) (.string s) remaining = some (.string s, remaining - 1) := by
  rw [captureBridgeValue, if_neg (by omega), if_neg (by omega)]

theorem ValidCommand.lengths (h : ValidCommand sessionId sequence chainId account) :
    sessionId.length ≤ 16384 ∧ (requestId sessionId sequence).length ≤ 16384 ∧
      chainId.length ≤ 16384 ∧ account.length ≤ 16384 := by
  have hsession := h.session
  have hchain := h.chain
  have haccount := h.account
  have hbounded := h.bounded
  simp only [isLowerHex, Bool.and_eq_true, decide_eq_true_eq] at hsession haccount
  simp only [isCanonicalChainId, Bool.and_eq_true, decide_eq_true_eq] at hchain
  have hpadded : (Date.padded 8 sequence).length = 8 :=
    (Date.padded_spec (by norm_num) (show sequence < 10 ^ 8 by omega)).1
  have htag : (js "wg-bridge-").length = 10 := rfl
  have hdash : (js "-").length = 1 := rfl
  have hzero : (js "0x").length = 2 := rfl
  have hnil : ([] : JsString).length = 0 := rfl
  refine ⟨by omega, ?_, by omega, by omega⟩
  rw [requestId, List.length_append, List.length_append, List.length_append, List.length_take]
  omega

/-- The identity of a command is bounded plain data. -/
theorem captureBridgePlainData_identity (hcommand : ValidCommand sessionId sequence chainId account)
    (label : JsString) :
    captureBridgePlainData (.ofData (expectedIdentity sessionId sequence chainId account)) label =
      .ok (expectedIdentity sessionId sequence chainId account) := by
  obtain ⟨hsession, hrequest, hchain, haccount⟩ := hcommand.lengths
  have hnumber : ∀ remaining : ℕ, 0 < remaining →
      captureBridgeValue 8 (.number (.ofInt sequence)) remaining =
        some (.number (.ofInt sequence), remaining - 1) := by
    intro remaining hremaining
    have hsequence := isSequence_ofInt hcommand.positive hcommand.bounded
    simp only [isSequence, Bool.and_eq_true] at hsequence
    rw [captureBridgeValue, if_neg (by omega)]
    exact if_pos hsequence.1.1
  have hmembers : captureBridgeMembers (captureBridgeValue 8)
      (HostValue.ofEntries [(js "session_id", .string sessionId),
        (js "sequence", .number (.ofInt sequence)),
        (js "request_id", .string (requestId sessionId sequence)),
        (js "expected_chain_id", .string chainId), (js "expected_account", .string account)]) 999 =
      some ([(js "session_id", .string sessionId), (js "sequence", .number (.ofInt sequence)),
        (js "request_id", .string (requestId sessionId sequence)),
        (js "expected_chain_id", .string chainId), (js "expected_account", .string account)], 994) := by
    have hsafe : unsafeKey (js "session_id") = false ∧ unsafeKey (js "sequence") = false ∧
        unsafeKey (js "request_id") = false ∧ unsafeKey (js "expected_chain_id") = false ∧
        unsafeKey (js "expected_account") = false := by decide
    obtain ⟨h1, h2, h3, h4, h5⟩ := hsafe
    simp only [HostValue.ofEntries, HostValue.ofData, captureBridgeMembers, h1, h2, h3, h4, h5,
      Bool.false_eq_true, if_false, Property.enumerableData, Option.bind_eq_bind, Option.bind_some,
      captureBridgeValue_text hsession (show 0 < 999 by norm_num), hnumber 998 (by norm_num),
      captureBridgeValue_text hrequest (show 0 < 997 by norm_num),
      captureBridgeValue_text hchain (show 0 < 996 by norm_num),
      captureBridgeValue_text haccount (show 0 < 995 by norm_num), Nat.reduceSub]
  unfold captureBridgePlainData
  have hvalue : captureBridgeValue 9
      (.ofData (expectedIdentity sessionId sequence chainId account)) 1000 =
        some (expectedIdentity sessionId sequence chainId account, 994) := by
    rw [expectedIdentity, HostValue.ofData, captureBridgeValue, if_neg (by norm_num)]
    dsimp only
    rw [if_neg (by simp [Reflection.names, HostValue.ofEntries]), hmembers]
    rfl
  rw [hvalue]

/-- The responses with a result that settle a command. -/
theorem parseWalletGuardBridgeResponse_result_iff
    (hcommand : ValidCommand sessionId sequence chainId account) {raw hash : JsString} :
    parseWalletGuardBridgeResponse (.string raw)
        (.ofData (expectedIdentity sessionId sequence chainId account)) = .ok (.result hash) ↔
      ∃ response, parseWalletGuardBoundedJsonData raw = .ok response ∧
        ResultResponse sessionId sequence hash response ∧
        response.get (js "observed_chain_id") = some (.string chainId) ∧
        response.get (js "observed_account") = some (.string account) := by
  constructor
  · intro h
    obtain ⟨text, response, htext, hbound⟩ :=
      parseWalletGuardBridgeResponse_spec hcommand.positive h
    cases htext
    unfold parseWalletGuardBridgeResponse at h
    rw [rawText, bind_eq_ok] at h
    obtain ⟨_, htext, h⟩ := h
    cases htext
    rw [hbound.parsed] at h
    obtain ⟨_, hresponse, h⟩ := bind_eq_ok.mp h
    cases hresponse
    obtain ⟨⟨⟩, hkeys, h⟩ := bind_eq_ok.mp h
    obtain ⟨⟨⟩, hidentity, h⟩ := bind_eq_ok.mp h
    obtain ⟨⟨⟩, -, h⟩ := bind_eq_ok.mp h
    obtain ⟨⟨⟩, -, h⟩ := bind_eq_ok.mp h
    obtain ⟨⟨⟩, hversion, -⟩ := bind_eq_ok.mp hidentity
    simp only [require_eq_ok, Bool.and_eq_true] at hversion
    obtain ⟨houtcome, hresult, hhash, herror⟩ := responseOutcome_eq_result.mp h
    exact ⟨response, hbound.parsed,
      { names := (exactKeys_eq_ok RESPONSE_KEYS_nodup).mp hkeys
        version := sameProperty_string_iff.mp hversion.1.1.1
        session := hbound.ofSession
        number := hbound.ofSequence
        request := hbound.ofRequest
        outcome := houtcome
        result := hresult
        transactionHash := hhash
        error := herror }, hbound.ofChain, hbound.ofAccount⟩
  · rintro ⟨response, hparsed, h, hchain, haccount⟩
    unfold parseWalletGuardBridgeResponse
    refine bind_eq_ok.mpr ⟨raw, rfl, ?_⟩
    rw [hparsed]
    refine bind_eq_ok.mpr ⟨response, rfl, ?_⟩
    refine bind_eq_ok.mpr ⟨(), (exactKeys_eq_ok RESPONSE_KEYS_nodup).mpr h.names, ?_⟩
    refine bind_eq_ok.mpr ⟨(), validateIdentity_eq_ok hcommand h, ?_⟩
    refine bind_eq_ok.mpr ⟨(), ?_, bind_eq_ok.mpr ⟨(), ?_, ?_⟩⟩
    · rw [hchain, haccount, validateContext, require_eq_ok, Bool.and_eq_true]
      exact ⟨hcommand.chain, hcommand.account⟩
    · refine bind_eq_ok.mpr ⟨_, captureBridgePlainData_identity hcommand _, ?_⟩
      refine bind_eq_ok.mpr ⟨(), ?_, ?_⟩
      · exact (exactKeys_eq_ok (by decide +kernel)).mpr ⟨_, rfl, .refl _⟩
      · rw [require_eq_ok, h.session, h.number, h.request, hchain, haccount]
        simp only [Bool.and_eq_true]
        exact ⟨⟨⟨⟨sameProperty_string _, sameProperty_natural _⟩, sameProperty_string _⟩,
          sameProperty_string _⟩, sameProperty_string _⟩
    · exact responseOutcome_eq_result.mpr ⟨h.outcome, h.result, h.transactionHash, h.error⟩

/-- A response is settled with its own outcome. -/
theorem parseWalletGuardBridgeResponse_outcome {raw : JsString} {identity : HostValue}
    {response : JsValue} {outcome : BridgeOutcome}
    (hparsed : parseWalletGuardBoundedJsonData raw = .ok response)
    (h : parseWalletGuardBridgeResponse (.string raw) identity = .ok outcome) :
    responseOutcome response = .ok outcome := by
  unfold parseWalletGuardBridgeResponse at h
  obtain ⟨_, htext, h⟩ := bind_eq_ok.mp h
  cases htext
  rw [hparsed] at h
  obtain ⟨_, hresponse, h⟩ := bind_eq_ok.mp h
  cases hresponse
  obtain ⟨_, -, h⟩ := bind_eq_ok.mp h
  obtain ⟨_, -, h⟩ := bind_eq_ok.mp h
  obtain ⟨_, -, h⟩ := bind_eq_ok.mp h
  obtain ⟨_, -, h⟩ := bind_eq_ok.mp h
  exact h

/-- The responses that the server keeps as candidates. -/
theorem extractBoundTransactionCandidate_iff (hpos : 0 < sequence) {raw : JsString}
    {request : JsValue} {c : Candidate} :
    extractBoundTransactionCandidate raw
        (sessionCommand sessionId sequence chainId account request) = .ok c ↔
      ∃ response, parseWalletGuardBoundedJsonData raw = .ok response ∧
        ResultResponse sessionId sequence c.transactionHash response ∧
        response.get (js "observed_chain_id") = some (.string c.observedChainId) ∧
        response.get (js "observed_account") = some (.string c.observedAccount) ∧
        (c.contextMatches = true ↔ c.observedChainId = chainId ∧ c.observedAccount = account) := by
  have hversion : (sessionCommand sessionId sequence chainId account request).get
      (js "schema_version") = some (.string WALLET_GUARD_BRIDGE_SCHEMA_VERSION) := rfl
  have hsession : (sessionCommand sessionId sequence chainId account request).get
      (js "session_id") = some (.string sessionId) := rfl
  have hnumber : (sessionCommand sessionId sequence chainId account request).get
      (js "sequence") = some (.number (.ofInt sequence)) := rfl
  have hrequest : (sessionCommand sessionId sequence chainId account request).get
      (js "request_id") = some (.string (requestId sessionId sequence)) := rfl
  have hchain : (sessionCommand sessionId sequence chainId account request).get
      (js "expected_chain_id") = some (.string chainId) := rfl
  have haccount : (sessionCommand sessionId sequence chainId account request).get
      (js "expected_account") = some (.string account) := rfl
  have hcontext : ∀ chain address : JsString,
      (sameProperty (some (.string chain)) (some (.string chainId)) &&
        sameProperty (some (.string address)) (some (.string account))) = true ↔
        chain = chainId ∧ address = account := by
    intro chain address
    rw [Bool.and_eq_true, sameProperty_string_iff, sameProperty_string_iff]
    simp
  unfold extractBoundTransactionCandidate
  rw [bind_eq_ok]
  simp only [mapError_eq_ok, bind_eq_ok, exactResponseKeys_eq_ok, hversion, hsession, hnumber, hrequest,
    hchain, haccount]
  constructor
  · rintro ⟨response, hparsed, -, hnames, h⟩
    refine ⟨response, hparsed, ?_⟩
    split_ifs at h with hbound
    · simp only [Bool.and_eq_true, sameProperty_string_iff, sameProperty_natural_iff hpos,
        sameProperty_null_iff] at hbound
      obtain ⟨⟨⟨⟨⟨hv, hs⟩, hn⟩, hr⟩, houtcome⟩, herror⟩ := hbound
      split at h
      · rename_i result chain address hresult hchain' haccount'
        split_ifs at h with hhash
        cases h
        rw [TX_HASH_PATTERN_eq] at hhash
        exact ⟨⟨hnames, hv, hs, hn, hr, houtcome, hresult, hhash, herror⟩, hchain', haccount',
          hcontext chain address⟩
      · cases h
  · rintro ⟨response, hparsed, h, hchain', haccount', hmatches⟩
    refine ⟨response, hparsed, (), h.names, ?_⟩
    have hbound : (sameProperty (response.get (js "schema_version"))
          (some (.string WALLET_GUARD_BRIDGE_SCHEMA_VERSION)) &&
        sameProperty (response.get (js "session_id")) (some (.string sessionId)) &&
        sameProperty (response.get (js "sequence")) (some (.number (.ofInt sequence))) &&
        sameProperty (response.get (js "request_id"))
          (some (.string (requestId sessionId sequence))) &&
        sameProperty (response.get (js "outcome")) (some (.string (js "result"))) &&
        sameProperty (response.get (js "error")) (some .null)) = true := by
      simp only [Bool.and_eq_true, sameProperty_string_iff, sameProperty_natural_iff hpos,
        sameProperty_null_iff]
      exact ⟨⟨⟨⟨⟨h.version, h.session⟩, h.number⟩, h.request⟩, h.outcome⟩, h.error⟩
    rw [if_pos hbound, h.result, hchain', haccount']
    dsimp only
    rw [if_pos (by rw [TX_HASH_PATTERN_eq]; exact h.transactionHash)]
    congr 1
    cases c
    congr 1
    rw [Bool.eq_iff_iff, hcontext, hmatches]

end Readers

/-- The two readers agree on every text and every command of a transport. -/
theorem bridgeReaders_agree {sessionId chainId account : JsString} {sequence : ℕ}
    {request : HostValue} {command : JsValue}
    (hcommand : makeWalletGuardBridgeCommand
      (commandInput sessionId sequence chainId account request) = .ok command) (raw : JsString) :
    (∀ hash, parseWalletGuardBridgeResponse (.string raw)
        (.ofData (bridgeExpectedIdentity command)) = .ok (.result hash) ↔
      ∃ c, extractBoundTransactionCandidate raw command = .ok c ∧ c.transactionHash = hash ∧
        c.contextMatches = true) ∧
    ∀ c, extractBoundTransactionCandidate raw command = .ok c → c.contextMatches = false →
      ∃ e, parseWalletGuardBridgeResponse (.string raw)
        (.ofData (bridgeExpectedIdentity command)) = .error e := by
  have hvalid := makeWalletGuardBridgeCommand_valid hcommand
  obtain ⟨-, -, captured, rfl⟩ := makeWalletGuardBridgeCommand_spec hcommand
  rw [bridgeExpectedIdentity_sessionCommand]
  constructor
  · intro hash
    rw [parseWalletGuardBridgeResponse_result_iff hvalid]
    constructor
    · rintro ⟨response, hparsed, h, hchain, haccount⟩
      refine ⟨⟨hash, chainId, account, true⟩, ?_, rfl, rfl⟩
      exact (extractBoundTransactionCandidate_iff hvalid.positive).mpr
        ⟨response, hparsed, h, hchain, haccount, iff_of_true rfl ⟨rfl, rfl⟩⟩
    · rintro ⟨c, hc, rfl, hcontext⟩
      obtain ⟨response, hparsed, h, hchain, haccount, hmatches⟩ :=
        (extractBoundTransactionCandidate_iff hvalid.positive).mp hc
      obtain ⟨hchain', haccount'⟩ := hmatches.mp hcontext
      rw [hchain'] at hchain
      rw [haccount'] at haccount
      exact ⟨response, hparsed, h, hchain, haccount⟩
  · intro c hc hcontext
    obtain ⟨response, hparsed, h, hchain, haccount, hmatches⟩ :=
      (extractBoundTransactionCandidate_iff hvalid.positive).mp hc
    have hresult := responseOutcome_eq_result.mpr
      ⟨h.outcome, h.result, h.transactionHash, h.error⟩
    cases hparse : parseWalletGuardBridgeResponse (.string raw)
        (.ofData (expectedIdentity sessionId sequence chainId account)) with
    | error e => exact ⟨e, rfl⟩
    | ok outcome =>
      -- the outcome would be the result of the candidate, in the context of the command
      have houtcome := parseWalletGuardBridgeResponse_outcome hparsed hparse
      obtain rfl : BridgeOutcome.result c.transactionHash = outcome :=
        Except.ok.inj (hresult.symm.trans houtcome)
      obtain ⟨response', hparsed', -, hchain', haccount'⟩ :=
        (parseWalletGuardBridgeResponse_result_iff hvalid).mp hparse
      cases hparsed.symm.trans hparsed'
      have hchains : c.observedChainId = chainId := by
        simpa using hchain.symm.trans hchain'
      have haccounts : c.observedAccount = account := by
        simpa using haccount.symm.trans haccount'
      rw [hmatches.mpr ⟨hchains, haccounts⟩] at hcontext
      cases hcontext

open CallbackTransport in
theorem bridgeReaders_agree_sample :
    ∃ command, makeWalletGuardBridgeCommand (commandInput sampleSession.sessionId 1
        sampleSession.chainId sampleSession.account sampleRequest) = .ok command ∧
      parseWalletGuardBridgeResponse (.string sampleResponse)
        (.ofData (bridgeExpectedIdentity command)) =
          .ok (.result (js "0x" ++ List.replicate 64 0x63)) := by
  have hsample : ((makeWalletGuardBridgeCommand (commandInput sampleSession.sessionId 1
      sampleSession.chainId sampleSession.account sampleRequest)).toOption.bind fun command =>
        (extractBoundTransactionCandidate sampleResponse command).toOption.map fun c =>
          (c.transactionHash, c.contextMatches)) =
      some (js "0x" ++ List.replicate 64 0x63, true) := by
    decide +kernel
  obtain ⟨command, hcommand, hcandidate⟩ := Option.bind_eq_some_iff.mp hsample
  obtain ⟨c, hc, hpair⟩ := Option.map_eq_some_iff.mp hcandidate
  obtain ⟨hhash, hcontext⟩ := Prod.mk.inj hpair
  have hmade := toOption_eq_some.mp hcommand
  refine ⟨command, hmade, ((bridgeReaders_agree hmade sampleResponse).1 _).mpr ?_⟩
  exact ⟨c, toOption_eq_some.mp hc, hhash, hcontext⟩

end OpenRisk.Guard.BridgeEnvelope
