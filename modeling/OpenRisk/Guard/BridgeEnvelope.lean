import OpenRisk.Guard.JsonIngress
import OpenRisk.Js.Calendar
import OpenRisk.Js.Equality
import OpenRisk.Js.Host

/-!
# Bridge commands and responses

Model of `wallet-guard/bridge-json-envelope.mjs`: `makeWalletGuardBridgeCommand` and
`parseWalletGuardBridgeResponse`. The Proxy detector is taken as undisturbed: the transport
checks it before each of the two calls, and no foreign code runs in between.

Results:
* `makeWalletGuardBridgeCommand_spec`: the command that is made of a request.
* `parseWalletGuardBridgeResponse_spec`: what an accepted response is bound to.
* `compare_requestId`: request identifiers are ordered as their sequence numbers.
-/

namespace OpenRisk.Guard.BridgeEnvelope

open Text JsonIngress

/-- `WalletGuardBridgeEnvelopeError`. -/
structure BridgeError where
  code : JsString
  message : JsString
  deriving DecidableEq

/-- `fail(code, message)`. -/
def fail {α : Type} (code : String) (message : JsString) : Except BridgeError α :=
  .error ⟨js code, message⟩

/-- A check that fails with this error. -/
def require (condition : Bool) (code : String) (message : JsString) : Except BridgeError Unit :=
  if condition then .ok () else fail code message

theorem require_eq_ok {condition : Bool} {code : String} {message : JsString} {u : Unit} :
    require condition code message = .ok u ↔ condition = true := by
  cases condition <;> simp [require, fail]

def WALLET_GUARD_BRIDGE_SCHEMA_VERSION : JsString := js "wallet_guard_bridge/0.1"

def ERROR_CODES : List JsString :=
  ["BRIDGE_CLOSED", "CONTEXT_CHANGED", "INTERNAL_ERROR", "TIMEOUT", "USER_REJECTED",
    "WALLET_UNAVAILABLE"].map js

def COMMAND_KEYS : List JsString :=
  ["schema_version", "session_id", "sequence", "request_id", "expected_chain_id",
    "expected_account", "request"].map js

def RESPONSE_KEYS : List JsString :=
  ["schema_version", "session_id", "sequence", "request_id", "observed_chain_id",
    "observed_account", "outcome", "result", "error"].map js

/-! ## Captures -/

/-- `unsafeKey(key)`. -/
def unsafeKey (key : JsString) : Bool :=
  key.length < 1 || 128 < key.length || key = js "__proto__" || key = js "constructor" ||
    key = js "prototype"

section Loops

variable (capture : HostValue → ℕ → Option (JsValue × ℕ))

/-- The loop of `captureBridgeArray`. -/
def captureBridgeElements (properties : List (JsString × Property HostValue)) :
    List ℕ → ℕ → Option (List JsValue × ℕ)
  | [], remaining => some ([], remaining)
  | index :: rest, remaining => do
    let property ← properties.lookup (Json.decimal index)
    let value ← property.enumerableData
    let (x, remaining) ← capture value remaining
    let (xs, remaining) ← captureBridgeElements properties rest remaining
    some (x :: xs, remaining)

/-- The loop of `captureBridgeObject`. -/
def captureBridgeMembers :
    List (JsString × Property HostValue) → ℕ → Option (List (JsString × JsValue) × ℕ)
  | [], remaining => some ([], remaining)
  | (key, property) :: rest, remaining =>
    if unsafeKey key then none
    else do
      let value ← property.enumerableData
      let (x, remaining) ← capture value remaining
      let (es, remaining) ← captureBridgeMembers rest remaining
      some ((key, x) :: es, remaining)

end Loops

/-- `captureBridgeValue(value, label, depth, budget)` with `room = 9 - depth`, and
    `budget.remaining` after it; `none` where it throws: its error is not passed on. -/
def captureBridgeValue : (room : ℕ) → HostValue → (remaining : ℕ) → Option (JsValue × ℕ)
  | 0, _, _ => none
  | room + 1, value, remaining =>
    if remaining = 0 then none
    else
      match value with
      | .null => some (.null, remaining - 1)
      | .bool b => some (.bool b, remaining - 1)
      | .string s => if 16384 < s.length then none else some (.string s, remaining - 1)
      | .number x => if x.isSafeInteger then some (.number x, remaining - 1) else none
      | .undefined => none
      | .other => none
      | .proxy _ => none
      | .object r =>
        match r.kind with
        | .array length =>
          if r.prototype ≠ .array ∨ r.hasSymbols ∨ 1000 < length ∨ r.names.length ≠ length ∨
              remaining - 1 < length then none
          else do
            let (xs, remaining) ← captureBridgeElements (captureBridgeValue room) r.properties
              (List.range length) (remaining - 1)
            some (.array xs, remaining)
        | .record =>
          if r.prototype ≠ .plain ∨ r.hasSymbols ∨ remaining - 1 < r.names.length then none
          else do
            let (es, remaining) ← captureBridgeMembers (captureBridgeValue room) r.properties
              (remaining - 1)
            some (.object es, remaining)

/-- `captureBridgePlainData(value, label)`. -/
def captureBridgePlainData (value : HostValue) (label : JsString) : Except BridgeError JsValue :=
  match captureBridgeValue 9 value 1000 with
  | some (v, _) => .ok v
  | none => fail "POMRX_WG_BRIDGE_E_SHAPE" (label ++ js " must be bounded plain data")

/-! ## Checks -/

/-- `exactKeys(value, expected, label)`. -/
def exactKeys (value : JsValue) (expected : List JsString) (label : JsString) :
    Except BridgeError Unit :=
  match value with
  | .object es =>
    require (es.length = expected.length && expected.all fun key => (es.map Prod.fst).contains key)
      "POMRX_WG_BRIDGE_E_SHAPE" (label ++ js " has missing or unknown fields")
  | _ => fail "POMRX_WG_BRIDGE_E_SHAPE" (label ++ js " must be an object")

/-- `isLowerHex(value, length, prefix)` for a string. -/
def isLowerHex (value : JsString) (length : ℕ) (start : JsString) : Bool :=
  value.length = start.length + length && value.take start.length = start &&
    (value.drop start.length).all isHashUnit

/-- `isCanonicalChainId(value)` for a string. -/
def isCanonicalChainId (value : JsString) : Bool :=
  3 ≤ value.length && value.length ≤ 66 && value[0]? = some 0x30 && value[1]? = some 0x78 &&
    !(3 < value.length && value[2]? = some 0x30) && isLowerHex value (value.length - 2) (js "0x")

/-- A property that holds a string with this test. -/
def stringWith (test : JsString → Bool) (value : Option JsValue) : Bool :=
  match value with
  | some (.string s) => test s
  | _ => false

/-- A property that holds a sequence number: a safe integer from 1 to 99,999,999. -/
def isSequence (value : Option JsValue) : Bool :=
  match value with
  | some (.number x) => x.isSafeInteger && 1 ≤ x.toInt && x.toInt ≤ 99999999
  | _ => false

/-- `validateContext(chainId, account, label)`. -/
def validateContext (chainId account : Option JsValue) (label : JsString) : Except BridgeError Unit :=
  require (stringWith isCanonicalChainId chainId &&
      stringWith (fun s => isLowerHex s 40 (js "0x")) account)
    "POMRX_WG_BRIDGE_E_CONTEXT" (label ++ js " wallet context is invalid")

/-- The text that `makeRequestId` returns. -/
def requestId (sessionId : JsString) (sequence : ℕ) : JsString :=
  js "wg-bridge-" ++ sessionId.take 16 ++ js "-" ++ Date.padded 8 sequence

/-- `makeRequestId(sessionId, sequence)`. -/
def makeRequestId (sessionId sequence : Option JsValue) : Except BridgeError JsString :=
  match sessionId, sequence with
  | some (.string s), some (.number x) => do
    require (isLowerHex s 64 [] && isSequence sequence) "POMRX_WG_BRIDGE_E_IDENTITY"
      (js "bridge command identity is invalid")
    .ok (requestId s x.toInt.toNat)
  | _, _ => fail "POMRX_WG_BRIDGE_E_IDENTITY" (js "bridge command identity is invalid")

/-- `validateIdentity(value, label)`. -/
def validateIdentity (value : JsValue) (label : JsString) : Except BridgeError Unit := do
  let invalid := label ++ js " identity is invalid"
  require (sameProperty (value.get (js "schema_version"))
      (some (.string WALLET_GUARD_BRIDGE_SCHEMA_VERSION)) &&
    stringWith (fun s => isLowerHex s 64 []) (value.get (js "session_id")) &&
    isSequence (value.get (js "sequence")) && stringWith (fun _ => true) (value.get (js "request_id")))
    "POMRX_WG_BRIDGE_E_IDENTITY" invalid
  let id ← makeRequestId (value.get (js "session_id")) (value.get (js "sequence"))
  require (sameProperty (value.get (js "request_id")) (some (.string id)))
    "POMRX_WG_BRIDGE_E_IDENTITY" invalid

def EXPECTED_KEYS : List JsString :=
  ["session_id", "sequence", "request_id", "expected_chain_id", "expected_account"].map js

/-- `validateExpectedIdentity(value, expected)`. -/
def validateExpectedIdentity (value : JsValue) (expected : HostValue) : Except BridgeError Unit := do
  let snapshot ← captureBridgePlainData expected (js "expected bridge identity")
  exactKeys snapshot EXPECTED_KEYS (js "expected bridge identity")
  require (sameProperty (value.get (js "session_id")) (snapshot.get (js "session_id")) &&
      sameProperty (value.get (js "sequence")) (snapshot.get (js "sequence")) &&
      sameProperty (value.get (js "request_id")) (snapshot.get (js "request_id")) &&
      sameProperty (value.get (js "observed_chain_id")) (snapshot.get (js "expected_chain_id")) &&
      sameProperty (value.get (js "observed_account")) (snapshot.get (js "expected_account")))
    "POMRX_WG_BRIDGE_E_BINDING" (js "bridge response does not match the pending command")

/-- `validateRequest(request)`. -/
def validateRequest (request : JsValue) : Except BridgeError Unit := do
  exactKeys request [js "method", js "params"] (js "bridge request")
  require (sameProperty (request.get (js "method")) (some (.string (js "eth_sendTransaction"))) &&
      (match request.get (js "params") with
        | some (.array xs) => xs.length = 1
        | _ => false))
    "POMRX_WG_BRIDGE_E_REQUEST"
    (js "bridge command is limited to one eth_sendTransaction parameter")

/-! ## Commands -/

def INPUT_KEYS : List JsString :=
  ["sessionId", "sequence", "expectedChainId", "expectedAccount", "request"].map js

/-- A property that is present after `exactKeys`. -/
def field (value : JsValue) (key : JsString) : JsValue := (value.get key).getD .null

/-- A command with these fields. -/
def commandValue (sessionId sequence requestId chainId account request : JsValue) : JsValue :=
  .object [(js "schema_version", .string WALLET_GUARD_BRIDGE_SCHEMA_VERSION),
    (js "session_id", sessionId), (js "sequence", sequence), (js "request_id", requestId),
    (js "expected_chain_id", chainId), (js "expected_account", account), (js "request", request)]

/-- `makeWalletGuardBridgeCommand(rawInput)`. -/
def makeWalletGuardBridgeCommand (rawInput : HostValue) : Except BridgeError JsValue := do
  let input ← captureBridgePlainData rawInput (js "bridge command input")
  exactKeys input INPUT_KEYS (js "bridge command input")
  let id ← makeRequestId (input.get (js "sessionId")) (input.get (js "sequence"))
  validateContext (input.get (js "expectedChainId")) (input.get (js "expectedAccount"))
    (js "bridge command")
  let command := commandValue (field input (js "sessionId")) (field input (js "sequence"))
    (.string id) (field input (js "expectedChainId")) (field input (js "expectedAccount"))
    (field input (js "request"))
  exactKeys command COMMAND_KEYS (js "bridge command")
  validateIdentity command (js "bridge command")
  validateContext (command.get (js "expected_chain_id")) (command.get (js "expected_account"))
    (js "bridge command")
  validateRequest (field input (js "request"))
  .ok command

/-! ## Responses -/

/-- What `parseWalletGuardBridgeResponse` returns. -/
inductive BridgeOutcome where
  | result (hash : JsString)
  | error (code : JsString)
  deriving DecidableEq

/-- The text in a string value. -/
def rawText : HostValue → Except BridgeError JsString
  | .string s => .ok s
  | _ => fail "POMRX_WG_BRIDGE_E_JSON" (js "bridge response is not strict bounded JSON")

/-- The outcome of a response whose identity and context fit. -/
def responseOutcome (response : JsValue) : Except BridgeError BridgeOutcome :=
  match response.get (js "outcome") with
  | some (.string outcome) =>
    if outcome = js "result" then
      match response.get (js "result") with
      | some (.string hash) => do
        require (isLowerHex hash 64 (js "0x") && sameProperty (response.get (js "error")) (some .null))
          "POMRX_WG_BRIDGE_E_RESULT"
          (js "bridge success result must be one lowercase transaction hash")
        .ok (.result hash)
      | _ => fail "POMRX_WG_BRIDGE_E_RESULT"
          (js "bridge success result must be one lowercase transaction hash")
    else if outcome = js "error" then do
      require (sameProperty (response.get (js "result")) (some .null)) "POMRX_WG_BRIDGE_E_ERROR"
        (js "bridge error response must have a null result")
      let error := field response (js "error")
      exactKeys error [js "code"] (js "bridge response error")
      match error.get (js "code") with
      | some (.string code) => do
        require (ERROR_CODES.contains code) "POMRX_WG_BRIDGE_E_ERROR"
          (js "bridge response uses an unsupported bounded error code")
        .ok (.error code)
      | _ =>
        fail "POMRX_WG_BRIDGE_E_ERROR"
          (js "bridge response uses an unsupported bounded error code")
    else fail "POMRX_WG_BRIDGE_E_OUTCOME" (js "bridge response outcome is invalid")
  | _ => fail "POMRX_WG_BRIDGE_E_OUTCOME" (js "bridge response outcome is invalid")

/-- `parseWalletGuardBridgeResponse(raw, expectedIdentity)`. -/
def parseWalletGuardBridgeResponse (raw expectedIdentity : HostValue) :
    Except BridgeError BridgeOutcome := do
  let text ← rawText raw
  let response ← (match parseWalletGuardBoundedJsonData text with
    | .ok response => .ok response
    | .error _ => fail "POMRX_WG_BRIDGE_E_JSON" (js "bridge response is not strict bounded JSON"))
  exactKeys response RESPONSE_KEYS (js "bridge response")
  validateIdentity response (js "bridge response")
  validateContext (response.get (js "observed_chain_id")) (response.get (js "observed_account"))
    (js "bridge response")
  validateExpectedIdentity response expectedIdentity
  responseOutcome response

/-! ## What is captured -/

section Capture

variable {capture : HostValue → ℕ → Option (JsValue × ℕ)}

theorem captureBridgeMembers_cons {key : JsString} {value : HostValue}
    {rest : List (JsString × Property HostValue)} {n m : ℕ} {es : List (JsString × JsValue)}
    (h : captureBridgeMembers capture ((key, .data true value) :: rest) n = some (es, m)) :
    ∃ x k fs, capture value n = some (x, k) ∧ captureBridgeMembers capture rest k = some (fs, m) ∧
      es = (key, x) :: fs := by
  rw [captureBridgeMembers] at h
  split_ifs at h
  simp only [Property.enumerableData, Option.bind_eq_bind, Option.bind_eq_some_iff] at h
  obtain ⟨_, hvalue, ⟨x, k⟩, hx, ⟨fs, l⟩, hfs, h⟩ := h
  cases hvalue
  cases h
  exact ⟨x, k, fs, hx, hfs, rfl⟩

theorem captureBridgeMembers_ofEntries {es fs : List (JsString × JsValue)} {n m : ℕ}
    (hvalue : ∀ e ∈ es, ∀ n x m, capture (.ofData e.2) n = some (x, m) → x = e.2)
    (h : captureBridgeMembers capture (HostValue.ofEntries es) n = some (fs, m)) : fs = es := by
  induction es generalizing fs n with
  | nil =>
    cases h
    rfl
  | cons e es ih =>
    obtain ⟨key, value⟩ := e
    rw [HostValue.ofEntries] at h
    obtain ⟨x, k, gs, hx, hgs, rfl⟩ := captureBridgeMembers_cons h
    rw [hvalue (key, value) List.mem_cons_self _ _ _ hx,
      ih (fun e he => hvalue e (List.mem_cons_of_mem _ he)) hgs]

end Capture

theorem captureBridgeValue_string {room n m : ℕ} {s : JsString} {x : JsValue}
    (h : captureBridgeValue room (.string s) n = some (x, m)) : x = .string s := by
  cases room with
  | zero => cases h
  | succ room =>
    simp only [captureBridgeValue] at h
    split_ifs at h
    cases h
    rfl

theorem captureBridgeValue_number {room n m : ℕ} {y : JsNumber} {x : JsValue}
    (h : captureBridgeValue room (.number y) n = some (x, m)) : x = .number y := by
  cases room with
  | zero => cases h
  | succ room =>
    simp only [captureBridgeValue] at h
    split_ifs at h
    cases h
    rfl

theorem captureBridgeValue_record {properties : List (JsString × Property HostValue)}
    {room n m : ℕ} {v : JsValue}
    (h : captureBridgeValue (room + 1) (.object ⟨.record, .plain, false, properties⟩) n =
      some (v, m)) :
    ∃ es, captureBridgeMembers (captureBridgeValue room) properties (n - 1) = some (es, m) ∧
      v = .object es := by
  simp only [captureBridgeValue] at h
  split_ifs at h
  simp only [Option.bind_eq_bind, Option.bind_eq_some_iff] at h
  obtain ⟨⟨es, k⟩, hes, h⟩ := h
  cases h
  exact ⟨es, hes, rfl⟩

/-- A captured record has the captured members of the record. -/
theorem captureBridgePlainData_record {properties : List (JsString × Property HostValue)}
    {label : JsString} {v : JsValue}
    (h : captureBridgePlainData (.object ⟨.record, .plain, false, properties⟩) label = .ok v) :
    ∃ es m, captureBridgeMembers (captureBridgeValue 8) properties 999 = some (es, m) ∧
      v = .object es := by
  unfold captureBridgePlainData at h
  split at h
  · rename_i w m hw
    cases h
    obtain ⟨es, hes, rfl⟩ := captureBridgeValue_record hw
    exact ⟨es, m, hes, rfl⟩
  · cases h

/-! ## Commands -/

/-- The argument that the transport passes to `makeWalletGuardBridgeCommand`. -/
def commandInput (sessionId : JsString) (sequence : ℕ) (chainId account : JsString)
    (request : HostValue) : HostValue :=
  .object ⟨.record, .plain, false, [(js "sessionId", .data true (.string sessionId)),
    (js "sequence", .data true (.number (.ofInt sequence))),
    (js "expectedChainId", .data true (.string chainId)),
    (js "expectedAccount", .data true (.string account)), (js "request", .data true request)]⟩

/-- A command of a session. -/
def sessionCommand (sessionId : JsString) (sequence : ℕ) (chainId account : JsString)
    (request : JsValue) : JsValue :=
  commandValue (.string sessionId) (.number (.ofInt sequence))
    (.string (requestId sessionId sequence)) (.string chainId) (.string account) request

/-- The command that is made of a request. -/
theorem makeWalletGuardBridgeCommand_spec {sessionId chainId account : JsString} {sequence : ℕ}
    {request : HostValue} {command : JsValue}
    (h : makeWalletGuardBridgeCommand (commandInput sessionId sequence chainId account request) =
      .ok command) :
    0 < sequence ∧ sequence ≤ 99999999 ∧
      ∃ captured, command = sessionCommand sessionId sequence chainId account captured := by
  unfold makeWalletGuardBridgeCommand at h
  obtain ⟨input, hinput, h⟩ := bind_eq_ok.mp h
  obtain ⟨es, m, hes, rfl⟩ := captureBridgePlainData_record hinput
  obtain ⟨x1, _, _, h1, hes1, rfl⟩ := captureBridgeMembers_cons hes
  obtain ⟨x2, _, _, h2, hes2, rfl⟩ := captureBridgeMembers_cons hes1
  obtain ⟨x3, _, _, h3, hes3, rfl⟩ := captureBridgeMembers_cons hes2
  obtain ⟨x4, _, _, h4, hes4, rfl⟩ := captureBridgeMembers_cons hes3
  obtain ⟨captured, _, _, -, hes5, rfl⟩ := captureBridgeMembers_cons hes4
  cases hes5
  obtain rfl := captureBridgeValue_string h1
  obtain rfl := captureBridgeValue_number h2
  obtain rfl := captureBridgeValue_string h3
  obtain rfl := captureBridgeValue_string h4
  obtain ⟨⟨⟩, -, h⟩ := bind_eq_ok.mp h
  obtain ⟨id, hid, h⟩ := bind_eq_ok.mp h
  obtain ⟨⟨⟩, hrequire, hid⟩ := bind_eq_ok.mp hid
  cases hid
  obtain ⟨⟨⟩, -, h⟩ := bind_eq_ok.mp h
  obtain ⟨⟨⟩, -, h⟩ := bind_eq_ok.mp h
  obtain ⟨⟨⟩, -, h⟩ := bind_eq_ok.mp h
  obtain ⟨⟨⟩, -, h⟩ := bind_eq_ok.mp h
  obtain ⟨⟨⟩, -, h⟩ := bind_eq_ok.mp h
  cases h
  rw [require_eq_ok, Bool.and_eq_true] at hrequire
  have hsequence : isSequence (some (.number (.ofInt sequence))) = true := hrequire.2
  simp only [isSequence, JsNumber.toInt_ofInt, Bool.and_eq_true, decide_eq_true_eq] at hsequence
  refine ⟨by omega, by omega, captured, ?_⟩
  rw [JsNumber.toInt_ofInt, Int.toNat_natCast]
  rfl

/-- Request identifiers of a session are ordered as their sequence numbers. -/
theorem compare_requestId (sessionId : JsString) {m n : ℕ} (hm : m ≤ 99999999) (hn : n ≤ 99999999) :
    compare (requestId sessionId m) (requestId sessionId n) = compare m n := by
  rw [requestId, requestId, Date.compare_append rfl, Date.compare_padded (by norm_num) (by omega) (by omega)]
  simp

/-! ## Responses -/

/-- The identity that the transport expects in a response to a command. -/
def expectedIdentity (sessionId : JsString) (sequence : ℕ) (chainId account : JsString) : JsValue :=
  .object [(js "session_id", .string sessionId), (js "sequence", .number (.ofInt sequence)),
    (js "request_id", .string (requestId sessionId sequence)),
    (js "expected_chain_id", .string chainId), (js "expected_account", .string account)]

/-- The text is a response with this transaction hash, bound to the session, the sequence
    number, the request identifier, the chain and the account of a command. -/
structure BoundResponse (sessionId : JsString) (sequence : ℕ) (chainId account : JsString)
    (text hash : JsString) (response : JsValue) : Prop where
  parsed : parseWalletGuardBoundedJsonData text = .ok response
  ofSession : response.get (js "session_id") = some (.string sessionId)
  ofSequence : response.get (js "sequence") = some (.number (.ofInt sequence))
  ofRequest : response.get (js "request_id") = some (.string (requestId sessionId sequence))
  ofChain : response.get (js "observed_chain_id") = some (.string chainId)
  ofAccount : response.get (js "observed_account") = some (.string account)
  outcome : response.get (js "outcome") = some (.string (js "result"))
  result : response.get (js "result") = some (.string hash)
  transactionHash : isLowerHex hash 64 (js "0x") = true

/-- The captured identity is the identity. -/
theorem captureBridgePlainData_expected {sessionId chainId account label : JsString}
    {sequence : ℕ} {v : JsValue} (h : captureBridgePlainData
      (.ofData (expectedIdentity sessionId sequence chainId account)) label = .ok v) :
    v = expectedIdentity sessionId sequence chainId account := by
  obtain ⟨es, m, hes, rfl⟩ := captureBridgePlainData_record h
  rw [captureBridgeMembers_ofEntries ?_ hes]
  · rfl
  · intro e he n x m hx
    fin_cases he
    all_goals first
      | exact captureBridgeValue_string hx
      | exact captureBridgeValue_number hx

theorem responseOutcome_result {response : JsValue} {hash : JsString}
    (h : responseOutcome response = .ok (.result hash)) :
    response.get (js "outcome") = some (.string (js "result")) ∧
      response.get (js "result") = some (.string hash) ∧ isLowerHex hash 64 (js "0x") = true := by
  unfold responseOutcome at h
  split at h
  · rename_i outcome houtcome
    split_ifs at h with hresult herror
    · split at h
      · rename_i hash' hhash
        obtain ⟨⟨⟩, hrequire, h⟩ := bind_eq_ok.mp h
        cases h
        rw [require_eq_ok, Bool.and_eq_true] at hrequire
        rw [houtcome, hresult]
        exact ⟨rfl, hhash, hrequire.1⟩
      · cases h
    · obtain ⟨⟨⟩, -, h⟩ := bind_eq_ok.mp h
      obtain ⟨⟨⟩, -, h⟩ := bind_eq_ok.mp h
      split at h
      · obtain ⟨⟨⟩, -, h⟩ := bind_eq_ok.mp h
        cases h
      · cases h
    · cases h
  · cases h

/-- What an accepted response is bound to. -/
theorem parseWalletGuardBridgeResponse_spec {raw : HostValue} {sessionId chainId account : JsString}
    {sequence : ℕ} {hash : JsString} (hpos : 0 < sequence)
    (h : parseWalletGuardBridgeResponse raw
      (.ofData (expectedIdentity sessionId sequence chainId account)) = .ok (.result hash)) :
    ∃ text response, raw = .string text ∧
      BoundResponse sessionId sequence chainId account text hash response := by
  unfold parseWalletGuardBridgeResponse at h
  obtain ⟨text, htext, h⟩ := bind_eq_ok.mp h
  obtain ⟨response, hresponse, h⟩ := bind_eq_ok.mp h
  obtain ⟨⟨⟩, -, h⟩ := bind_eq_ok.mp h
  obtain ⟨⟨⟩, -, h⟩ := bind_eq_ok.mp h
  obtain ⟨⟨⟩, -, h⟩ := bind_eq_ok.mp h
  obtain ⟨⟨⟩, hexpected, h⟩ := bind_eq_ok.mp h
  obtain ⟨houtcome, hresult, hhash⟩ := responseOutcome_result h
  have hraw : raw = .string text := by
    unfold rawText at htext
    split at htext
    · cases htext
      rfl
    · cases htext
  have hparsed : parseWalletGuardBoundedJsonData text = .ok response := by
    split at hresponse
    · cases hresponse
      assumption
    · cases hresponse
  unfold validateExpectedIdentity at hexpected
  obtain ⟨snapshot, hsnapshot, hexpected⟩ := bind_eq_ok.mp hexpected
  obtain ⟨⟨⟩, -, hexpected⟩ := bind_eq_ok.mp hexpected
  rw [captureBridgePlainData_expected hsnapshot] at hexpected
  simp only [require_eq_ok, Bool.and_eq_true] at hexpected
  obtain ⟨⟨⟨⟨hsession, hsequence⟩, hrequest⟩, hchain⟩, haccount⟩ := hexpected
  exact ⟨text, response, hraw, hparsed, sameProperty_string_iff.mp hsession,
    (sameProperty_natural_iff hpos).mp hsequence, sameProperty_string_iff.mp hrequest,
    sameProperty_string_iff.mp hchain, sameProperty_string_iff.mp haccount, houtcome, hresult, hhash⟩

end OpenRisk.Guard.BridgeEnvelope
