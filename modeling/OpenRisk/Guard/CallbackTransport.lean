import OpenRisk.Guard.BridgeEnvelope
import OpenRisk.Machine.Run

/-!
# The controlled callback transport

Model of `createWalletGuardControlledCallbackProviderTransport` in
`wallet-guard/trusted-provider-transport.mjs` (lines 799–1046): the provider with its session
state, and for each dispatched command the closures `deliverRawJson`, `reportFailure` and
`finish` with their variables.

Foreign code runs at three places: between calls, while `dispatchSensitive` runs, and in it
nested to any depth. The machine has one action for each call that foreign code can make, and
one for the return of the innermost `dispatchSensitive`. `assertPromiseTransportRuntime`
depends on global objects that foreign code can change: `runtime` is its answer.

Results:
* `step_keeps`: what each action preserves.
* `callbackTransport_protocol`: the protocol over every sequence of actions.
-/

namespace OpenRisk.Guard.CallbackTransport

open Text BridgeEnvelope Machine

/-- `WalletGuardTrustedProviderTransportError`. -/
structure TransportError where
  code : JsString
  message : JsString
  deriving DecidableEq

/-- What `request` throws, or rejects with. -/
inductive TransportFailure where
  | transport (e : TransportError)
  | bridge (e : BridgeError)
  deriving DecidableEq

/-- `fail(code, message)`. -/
def fail {α : Type} (code : String) (message : String) : Except TransportFailure α :=
  .error (.transport ⟨js code, js message⟩)

def runtimeFailure : TransportFailure :=
  .transport ⟨js "POMRX_WG_TRANSPORT_E_RUNTIME_INTEGRITY",
    js "trusted provider Promise transport runtime is outside the supported local contract"⟩

def BRIDGE_FAILURE_CODES : List JsString :=
  ["BRIDGE_CLOSED", "CONTEXT_CHANGED", "INTERNAL_ERROR", "TIMEOUT", "USER_REJECTED",
    "WALLET_UNAVAILABLE"].map js

/-- The code of a failure: a supported one, or `INTERNAL_ERROR`. -/
def safeCode (code : HostValue) : JsString :=
  match code with
  | .string s => if BRIDGE_FAILURE_CODES.contains s then s else js "INTERNAL_ERROR"
  | _ => js "INTERNAL_ERROR"

/-- `localBridgeFailure(code)`. -/
def localBridgeFailure (code : HostValue) : TransportFailure :=
  .transport ⟨js "POMRX_WG_TRANSPORT_E_BRIDGE_" ++ safeCode code,
    js "captured provider bridge failed with " ++ safeCode code⟩

/-- `TX_HASH_PATTERN`. -/
def TX_HASH_PATTERN (s : JsString) : Bool := isLowerHex s 64 (js "0x")

/-! ## State -/

/-- The argument of `finish`. -/
inductive Outcome where
  | raw (raw : HostValue)
  | failure (code : HostValue)

/-- A call of `resolve` or `reject` of a command's Promise. -/
inductive Settlement where
  | resolved (hash : JsString)
  | rejected (e : TransportFailure)

/-- A dispatched command with the variables of its closures. -/
structure Call where
  command : JsValue
  settled : Bool
  dispatchComplete : Bool
  earlyOutcome : Option Outcome
  /-- The calls of `resolve` and `reject` so far. -/
  settlements : List Settlement

/-- What the transport is created with: options that pass the checks, and the session
    identifier. -/
structure SessionOptions where
  chainId : JsString
  account : JsString
  maxSensitiveCalls : ℕ
  sessionId : JsString
  chain_canonical : isCanonicalChainId chainId = true
  account_hex : isLowerHex account 40 (js "0x") = true
  max_pos : 1 ≤ maxSensitiveCalls
  max_le : maxSensitiveCalls ≤ 1000
  session_hex : isLowerHex sessionId 64 [] = true

/-- `state`, with the state of the runtime. -/
structure CallbackState where
  chainId : JsString
  account : JsString
  sessionId : JsString
  maxSensitiveCalls : ℕ
  contextReads : ℕ
  /-- `sensitiveCalls`. -/
  calls : List Call
  inFlight : Bool
  nextSequence : ℕ
  destroyed : Bool
  /-- Whether `assertPromiseTransportRuntime` passes. -/
  runtime : Bool
  /-- The commands whose `dispatchSensitive` runs, the innermost first. -/
  dispatching : List ℕ

def CallbackState.initial (o : SessionOptions) : CallbackState where
  chainId := o.chainId
  account := o.account
  sessionId := o.sessionId
  maxSensitiveCalls := o.maxSensitiveCalls
  contextReads := 0
  calls := []
  inFlight := false
  nextSequence := 1
  destroyed := false
  runtime := true
  dispatching := []

/-! ## Settling a command -/

/-- The identity that `finish` passes to the parser. -/
def identityOf (command : JsValue) : JsValue :=
  .object [(js "session_id", field command (js "session_id")),
    (js "sequence", field command (js "sequence")),
    (js "request_id", field command (js "request_id")),
    (js "expected_chain_id", field command (js "expected_chain_id")),
    (js "expected_account", field command (js "expected_account"))]

/-- How `finish` settles a command. -/
def settlementOf (runtime : Bool) (command : JsValue) (outcome : Outcome) : Settlement :=
  if runtime = false then .rejected runtimeFailure
  else
    match outcome with
    | .raw raw =>
      match parseWalletGuardBridgeResponse raw (.ofData (identityOf command)) with
      | .ok (.result hash) =>
        if TX_HASH_PATTERN hash then .resolved hash else .rejected (localBridgeFailure .undefined)
      | .ok (.error code) => .rejected (localBridgeFailure (.string code))
      | .error _ => .rejected (localBridgeFailure (.string (js "INTERNAL_ERROR")))
    | .failure code => .rejected (localBridgeFailure code)

def Settlement.isRejected : Settlement → Bool
  | .resolved _ => false
  | .rejected _ => true

/-- `finish(outcome)` of the command with this index. -/
def finish (s : CallbackState) (index : ℕ) (outcome : Outcome) : CallbackState :=
  match s.calls[index]? with
  | none => s
  | some call =>
    if call.settled then s
    else
      let settlement := settlementOf s.runtime call.command outcome
      { s with
        calls := s.calls.set index
          { call with settled := true, settlements := call.settlements ++ [settlement] }
        inFlight := false
        destroyed := s.destroyed || settlement.isRejected }

/-- `deliverRawJson` and `reportFailure`, for the outcome they build. -/
def callback (s : CallbackState) (index : ℕ) (outcome : Outcome) : Option CallbackState :=
  match s.calls[index]? with
  | none => none
  | some call =>
    if call.settled then some s
    else if call.dispatchComplete = false then
      let early := match call.earlyOutcome with
        | none => outcome
        | some _ => .failure (.string (js "INTERNAL_ERROR"))
      some { s with calls := s.calls.set index { call with earlyOutcome := some early } }
    else some (finish s index outcome)

/-! ## `provider.request` -/

/-- The loop over the names in `inspectCallbackRequest`. -/
def inspectFields : List (JsString × Property HostValue) → Except TransportFailure Unit
  | [] => .ok ()
  | (key, property) :: rest =>
    if key ≠ js "method" ∧ key ≠ js "params" then
      fail "POMRX_WG_TRANSPORT_E_INVALID" "trusted callback request has unknown fields"
    else
      match property.enumerableData with
      | none => fail "POMRX_WG_TRANSPORT_E_INVALID" "trusted callback request fields must be data"
      | some _ => inspectFields rest

/-- `inspectCallbackRequest(request)`: the method. -/
def inspectCallbackRequest (request : HostValue) : Except TransportFailure JsString :=
  match request with
  | .object r =>
    if r.kind ≠ .record ∨ r.prototype ≠ .plain ∨ r.hasSymbols then
      fail "POMRX_WG_TRANSPORT_E_INVALID" "trusted callback request must be a plain object"
    else if r.names.length < 1 ∨ 2 < r.names.length then
      fail "POMRX_WG_TRANSPORT_E_INVALID" "trusted callback request has invalid fields"
    else do
      inspectFields r.properties
      match (r.properties.lookup (js "method")).bind Property.enumerableData with
      | some (.string method) => .ok method
      | _ => fail "POMRX_WG_TRANSPORT_E_INVALID" "trusted callback request method is invalid"
  | _ => fail "POMRX_WG_TRANSPORT_E_INVALID" "trusted callback request must be a plain object"

/-- The checks of `request` on an `eth_sendTransaction`, and the command. -/
def sensitiveCommand (s : CallbackState) (request : HostValue) : Except TransportFailure JsValue :=
  if s.inFlight then
    fail "POMRX_WG_TRANSPORT_E_IN_FLIGHT" "captured provider permits one sensitive command in flight"
  else if s.maxSensitiveCalls ≤ s.calls.length ∨ 99999999 < s.nextSequence then
    fail "POMRX_WG_TRANSPORT_E_LOG_FULL" "captured provider sensitive-call capacity is exhausted"
  else
    (makeWalletGuardBridgeCommand
      (commandInput s.sessionId s.nextSequence s.chainId s.account request)).mapError .bridge

/-- What `request` does before foreign code runs again. -/
inductive Reply where
  | threw (e : TransportFailure)
  | rejected (e : TransportFailure)
  | fulfilled (value : JsValue)
  /-- `dispatchSensitive` is called with the command. -/
  | dispatched

/-- `provider.request(request)`, up to the call of `dispatchSensitive`. -/
def request (s : CallbackState) (request : HostValue) : CallbackState × Reply :=
  if s.runtime = false then (s, .threw runtimeFailure)
  else
    match inspectCallbackRequest request with
    | .error e => (s, .rejected e)
    | .ok method =>
      if s.destroyed then
        (s, .rejected (.transport ⟨js "POMRX_WG_TRANSPORT_E_SESSION_CLOSED",
          js "captured provider session is closed and must be re-armed"⟩))
      else if method = js "eth_chainId" then
        ({ s with contextReads := s.contextReads + 1 }, .fulfilled (.string s.chainId))
      else if method = js "eth_accounts" then
        ({ s with contextReads := s.contextReads + 1 }, .fulfilled (.array [.string s.account]))
      else if method ≠ js "eth_sendTransaction" then
        (s, .rejected (.transport ⟨js "POMRX_WG_TRANSPORT_E_METHOD",
          js "captured provider supports eth_sendTransaction only"⟩))
      else
        match sensitiveCommand s request with
        | .error e => (s, .rejected e)
        | .ok command =>
          ({ s with
              calls := s.calls ++ [⟨command, false, false, none, []⟩]
              nextSequence := s.nextSequence + 1
              inFlight := true
              dispatching := s.calls.length :: s.dispatching }, .dispatched)

/-- How `dispatchSensitive` ends. -/
inductive DispatchEnd where
  | threw
  | returned (value : HostValue)

/-- The rest of `request` after `dispatchSensitive`. -/
def dispatchReturns (s : CallbackState) (result : DispatchEnd) : Option CallbackState :=
  match s.dispatching with
  | [] => none
  | index :: outer =>
    match s.calls[index]? with
    | none => none
    | some call =>
      let t := { s with
        calls := s.calls.set index { call with dispatchComplete := true }
        dispatching := outer }
      -- the error is thrown once more by the `catch` of `request`
      if s.runtime = false then some { t with destroyed := true }
      else
        match result with
        | .returned .undefined =>
          match call.earlyOutcome with
          | none => some t
          | some outcome => some (finish t index outcome)
        | _ => some (finish t index (.failure (.string (js "INTERNAL_ERROR"))))

/-! ## The machine -/

inductive Action where
  | request (request : HostValue)
  /-- `captureContext`, which reads the chain and the account. -/
  | captureContext
  | deliverRawJson (index : ℕ) (raw : HostValue)
  | reportFailure (index : ℕ) (code : HostValue)
  | dispatchReturns (result : DispatchEnd)
  /-- Foreign code changes or restores the global objects. -/
  | setRuntime (intact : Bool)

def step (s : CallbackState) : Action → Option CallbackState
  | .request r => some (request s r).1
  | .captureContext => some { s with contextReads := s.contextReads + 2 }
  | .deliverRawJson index raw => callback s index (.raw raw)
  | .reportFailure index code => callback s index (.failure code)
  | .dispatchReturns result => dispatchReturns s result
  | .setRuntime intact => some { s with runtime := intact }

/-! ## What each action preserves -/

/-- How a settled command was settled: by a failure, and the session is closed, or by a bound
    response that was delivered to it. -/
def SettledBy (o : SessionOptions) (Delivered : ℕ → HostValue → Prop) (destroyed : Bool)
    (index : ℕ) : Settlement → Prop
  | .rejected _ => destroyed = true
  | .resolved hash => ∃ text response, Delivered index (.string text) ∧
      BoundResponse o.sessionId (index + 1) o.chainId o.account text hash response

/-- The state of the command with this index, where `Delivered` holds of what was passed to its
    `deliverRawJson`. -/
structure CallOk (o : SessionOptions) (Delivered : ℕ → HostValue → Prop) (s : CallbackState)
    (index : ℕ) (call : Call) : Prop where
  command : ∃ r, call.command = sessionCommand o.sessionId (index + 1) o.chainId o.account r
  unsettled : call.settled = false →
    call.settlements = [] ∧ s.inFlight = true ∧ index + 1 = s.calls.length
  settled : call.settled = true →
    ∃ x, call.settlements = [x] ∧ SettledBy o Delivered s.destroyed index x
  early : ∀ raw, call.earlyOutcome = some (.raw raw) → Delivered index raw

/-- The invariant of the transport. -/
structure Inv (o : SessionOptions) (Delivered : ℕ → HostValue → Prop) (s : CallbackState) :
    Prop where
  chainId : s.chainId = o.chainId
  account : s.account = o.account
  sessionId : s.sessionId = o.sessionId
  maxSensitiveCalls : s.maxSensitiveCalls = o.maxSensitiveCalls
  nextSequence : s.nextSequence = s.calls.length + 1
  bounded : s.calls.length ≤ o.maxSensitiveCalls
  call : ∀ (index : ℕ) (call : Call), s.calls[index]? = some call → CallOk o Delivered s index call

section Steps

variable {o : SessionOptions} {Delivered : ℕ → HostValue → Prop} {s s' : CallbackState}

theorem inv_initial : Inv o Delivered (.initial o) :=
  ⟨rfl, rfl, rfl, rfl, rfl, Nat.zero_le _, fun index call h => by simp [CallbackState.initial] at h⟩

theorem SettledBy.mono {destroyed destroyed' : Bool} {index : ℕ} {x : Settlement}
    (h : SettledBy o Delivered destroyed index x) (hle : destroyed = true → destroyed' = true) :
    SettledBy o Delivered destroyed' index x := by
  cases x with
  | resolved hash => exact h
  | rejected e => exact hle h

/-- A command that is resolved is resolved with the hash of a bound response. -/
theorem settledBy_settlementOf {runtime destroyed : Bool} {index : ℕ} {command : JsValue}
    {outcome : Outcome}
    (hcommand : ∃ r, command = sessionCommand o.sessionId (index + 1) o.chainId o.account r)
    (houtcome : ∀ raw, outcome = .raw raw → Delivered index raw) :
    SettledBy o Delivered (destroyed || (settlementOf runtime command outcome).isRejected) index
      (settlementOf runtime command outcome) := by
  obtain ⟨r, rfl⟩ := hcommand
  cases hx : settlementOf runtime
    (sessionCommand o.sessionId (index + 1) o.chainId o.account r) outcome with
  | rejected e => exact Bool.or_true _
  | resolved hash =>
    unfold settlementOf at hx
    split_ifs at hx
    split at hx
    · rename_i raw
      split at hx
      · rename_i hash' hparse
        split_ifs at hx
        cases hx
        obtain ⟨text, response, rfl, hbound⟩ :=
          parseWalletGuardBridgeResponse_spec (Nat.succ_pos index) hparse
        exact ⟨text, response, houtcome _ rfl, hbound⟩
      · cases hx
      · cases hx
    · cases hx

/-- An update of one command that leaves the number of commands. -/
theorem Inv.set (h : Inv o Delivered s) {index : ℕ} {call : Call} (inFlight destroyed : Bool)
    (dispatching : List ℕ)
    (hcall : CallOk o Delivered
      { s with
        calls := s.calls.set index call
        inFlight := inFlight
        destroyed := destroyed
        dispatching := dispatching } index call)
    (hothers : ∀ (j : ℕ) (other : Call), j ≠ index → s.calls[j]? = some other →
      other.settled = false → inFlight = true)
    (hdestroyed : s.destroyed = true → destroyed = true) :
    Inv o Delivered
      { s with
        calls := s.calls.set index call
        inFlight := inFlight
        destroyed := destroyed
        dispatching := dispatching } := by
  refine ⟨h.chainId, h.account, h.sessionId, h.maxSensitiveCalls, ?_, ?_, ?_⟩
  · rw [List.length_set]
    exact h.nextSequence
  · rw [List.length_set]
    exact h.bounded
  · intro j other hj
    by_cases hij : j = index
    · subst hij
      rw [List.getElem?_set_self'] at hj
      obtain ⟨-, -, rfl⟩ := Option.map_eq_some_iff.mp hj
      exact hcall
    · rw [List.getElem?_set_ne (Ne.symm hij)] at hj
      have hother := h.call j other hj
      refine ⟨hother.command, fun hsettled => ?_, fun hsettled => ?_, hother.early⟩
      · obtain ⟨hempty, -, hlast⟩ := hother.unsettled hsettled
        rw [List.length_set]
        exact ⟨hempty, hothers j other hij hj hsettled, hlast⟩
      · obtain ⟨x, hx, hby⟩ := hother.settled hsettled
        exact ⟨x, hx, hby.mono hdestroyed⟩

/-- At most one command is unsettled. -/
theorem Inv.eq_of_unsettled (h : Inv o Delivered s) {i j : ℕ} {c d : Call}
    (hi : s.calls[i]? = some c) (hj : s.calls[j]? = some d) (hc : c.settled = false)
    (hd : d.settled = false) : i = j := by
  have hlast := ((h.call i c hi).unsettled hc).2.2
  have hlast' := ((h.call j d hj).unsettled hd).2.2
  omega

theorem inv_finish (h : Inv o Delivered s) {index : ℕ} {outcome : Outcome}
    (houtcome : ∀ raw, outcome = .raw raw → Delivered index raw) :
    Inv o Delivered (finish s index outcome) := by
  unfold finish
  split
  · exact h
  · rename_i call hcall
    have hok := h.call index call hcall
    split_ifs with hsettled
    · exact h
    · rw [Bool.not_eq_true] at hsettled
      refine h.set _ _ s.dispatching ⟨hok.command, fun hfalse => (by cases hfalse), fun _ => ?_,
        hok.early⟩ ?_ fun hdestroyed => (by rw [hdestroyed, Bool.true_or])
      · refine ⟨_, ?_, settledBy_settlementOf hok.command houtcome⟩
        rw [(hok.unsettled hsettled).1]
        rfl
      · intro j other hne hj hother
        exact absurd (h.eq_of_unsettled hj hcall hother hsettled) hne

theorem inv_callback (h : Inv o Delivered s) {index : ℕ} {outcome : Outcome}
    (houtcome : ∀ raw, outcome = .raw raw → Delivered index raw)
    (hstep : callback s index outcome = some s') : Inv o Delivered s' := by
  unfold callback at hstep
  split at hstep
  · cases hstep
  · rename_i call hcall
    have hok := h.call index call hcall
    split_ifs at hstep with hsettled hdispatch
    · cases hstep
      exact h
    · cases hstep
      refine h.set s.inFlight s.destroyed s.dispatching ?_ ?_ id
      · refine ⟨hok.command, fun hfalse => ?_, hok.settled, fun raw hraw => ?_⟩
        · rw [List.length_set]
          exact hok.unsettled hfalse
        · cases hearly : call.earlyOutcome with
          | none =>
            rw [hearly] at hraw
            exact houtcome raw (Option.some.inj hraw)
          | some first =>
            rw [hearly] at hraw
            cases hraw
      · intro j other _ hj hother
        exact ((h.call j other hj).unsettled hother).2.1
    · cases hstep
      exact inv_finish h houtcome

theorem inv_dispatchReturns (h : Inv o Delivered s) {result : DispatchEnd}
    (hstep : dispatchReturns s result = some s') : Inv o Delivered s' := by
  unfold dispatchReturns at hstep
  split at hstep
  · cases hstep
  · rename_i index outer _
    split at hstep
    · cases hstep
    · rename_i call hcall
      have hok := h.call index call hcall
      have hcomplete : ∀ destroyed : Bool, (s.destroyed = true → destroyed = true) →
          Inv o Delivered
            { s with
              calls := s.calls.set index { call with dispatchComplete := true }
              destroyed := destroyed
              dispatching := outer } := by
        intro destroyed hdestroyed
        refine h.set s.inFlight destroyed outer
          ⟨hok.command, fun hfalse => ?_, fun htrue => ?_, hok.early⟩ ?_ hdestroyed
        · rw [List.length_set]
          exact hok.unsettled hfalse
        · obtain ⟨x, hx, hby⟩ := hok.settled htrue
          exact ⟨x, hx, hby.mono hdestroyed⟩
        · intro j other _ hj hother
          exact ((h.call j other hj).unsettled hother).2.1
      dsimp only at hstep
      split_ifs at hstep
      · cases hstep
        exact hcomplete true fun _ => rfl
      · split at hstep
        · split at hstep
          · cases hstep
            exact hcomplete s.destroyed id
          · rename_i outcome hearly
            cases hstep
            refine inv_finish (hcomplete s.destroyed id) fun raw hraw => ?_
            exact hok.early raw (by rw [hearly, hraw])
        · cases hstep
          exact inv_finish (hcomplete s.destroyed id) fun raw hraw => by cases hraw

/-- A dispatched command: the guards, and the command. -/
theorem sensitiveCommand_spec {r : HostValue} {command : JsValue}
    (h : sensitiveCommand s r = .ok command) :
    s.inFlight = false ∧ s.calls.length < s.maxSensitiveCalls ∧
      ∃ captured, command =
        sessionCommand s.sessionId s.nextSequence s.chainId s.account captured := by
  unfold sensitiveCommand at h
  split_ifs at h with hflight hfull
  · cases h
  · cases h
  · obtain ⟨-, -, captured, hcommand⟩ := makeWalletGuardBridgeCommand_spec (mapError_eq_ok.mp h)
    exact ⟨by simpa using hflight, by omega, captured, hcommand⟩

/-- What `request` can do to the state: count a read, or dispatch one command of an open
    session. -/
theorem request_cases (s : CallbackState) (r : HostValue) :
    (request s r).1 = s ∨ (request s r).1 = { s with contextReads := s.contextReads + 1 } ∨
      (s.destroyed = false ∧ s.inFlight = false ∧ s.calls.length < s.maxSensitiveCalls ∧
        ∃ captured, (request s r).1 = { s with
          calls := s.calls ++ [⟨sessionCommand s.sessionId s.nextSequence s.chainId s.account
            captured, false, false, none, []⟩]
          nextSequence := s.nextSequence + 1
          inFlight := true
          dispatching := s.calls.length :: s.dispatching }) := by
  unfold request
  by_cases hruntime : s.runtime = false
  · rw [if_pos hruntime]
    exact .inl rfl
  rw [if_neg hruntime]
  split
  · exact .inl rfl
  · by_cases hdestroyed : s.destroyed = true
    · rw [if_pos hdestroyed]
      exact .inl rfl
    rw [if_neg hdestroyed]
    split_ifs
    · exact .inr (.inl rfl)
    · exact .inr (.inl rfl)
    · exact .inl rfl
    · split
      · exact .inl rfl
      · rename_i command hcommand
        obtain ⟨hflight, hroom, captured, rfl⟩ := sensitiveCommand_spec hcommand
        exact .inr (.inr ⟨by simpa using hdestroyed, hflight, hroom, captured, rfl⟩)

theorem inv_request (h : Inv o Delivered s) (r : HostValue) : Inv o Delivered (request s r).1 := by
  rcases request_cases s r with heq | heq | ⟨-, hflight, hroom, captured, heq⟩
  · rw [heq]
    exact h
  · rw [heq]
    exact ⟨h.chainId, h.account, h.sessionId, h.maxSensitiveCalls, h.nextSequence, h.bounded,
      fun i c hc => ⟨(h.call i c hc).command, (h.call i c hc).unsettled, (h.call i c hc).settled,
        (h.call i c hc).early⟩⟩
  · rw [heq]
    refine ⟨h.chainId, h.account, h.sessionId, h.maxSensitiveCalls, ?_, ?_, ?_⟩
    · rw [List.length_append, List.length_singleton, ← h.nextSequence]
    · rw [List.length_append, List.length_singleton, ← h.maxSensitiveCalls]
      exact hroom
    · intro i c hc
      rcases Nat.lt_or_ge i s.calls.length with hlt | hge
      · rw [List.getElem?_append_left hlt] at hc
        have hok := h.call i c hc
        refine ⟨hok.command, fun hfalse => ?_, hok.settled, hok.early⟩
        -- no command is unsettled when one is dispatched
        have hin := (hok.unsettled hfalse).2.1
        rw [hflight] at hin
        cases hin
      · rw [List.getElem?_append_right hge, List.getElem?_singleton] at hc
        split_ifs at hc with hindex
        obtain rfl : i = s.calls.length := by omega
        cases hc
        refine ⟨⟨captured, ?_⟩, fun _ => ⟨rfl, rfl, ?_⟩, fun hfalse => (by cases hfalse),
          fun raw hraw => (by cases hraw)⟩
        · rw [h.sessionId, h.chainId, h.account, h.nextSequence]
        · rw [List.length_append, List.length_singleton]

/-- What every action preserves. -/
theorem step_keeps (h : Inv o Delivered s) {a : Action}
    (ha : ∀ index raw, a = .deliverRawJson index raw → Delivered index raw)
    (hstep : step s a = some s') : Inv o Delivered s' := by
  cases a with
  | request r =>
    cases hstep
    exact inv_request h r
  | captureContext =>
    cases hstep
    exact ⟨h.chainId, h.account, h.sessionId, h.maxSensitiveCalls, h.nextSequence, h.bounded,
      fun i c hc => ⟨(h.call i c hc).command, (h.call i c hc).unsettled, (h.call i c hc).settled,
        (h.call i c hc).early⟩⟩
  | deliverRawJson index raw =>
    refine inv_callback h (fun raw' hraw => ?_) hstep
    cases hraw
    exact ha index raw rfl
  | reportFailure index code => exact inv_callback h (fun raw hraw => by cases hraw) hstep
  | dispatchReturns result => exact inv_dispatchReturns h hstep
  | setRuntime intact =>
    cases hstep
    exact ⟨h.chainId, h.account, h.sessionId, h.maxSensitiveCalls, h.nextSequence, h.bounded,
      fun i c hc => ⟨(h.call i c hc).command, (h.call i c hc).unsettled, (h.call i c hc).settled,
        (h.call i c hc).early⟩⟩

end Steps

/-! ## What later states keep -/

/-- Commands stay, settled commands stay as they were settled, and a closed session dispatches
    no command. -/
structure Later (s s' : CallbackState) : Prop where
  closed : s.destroyed = true → s'.destroyed = true ∧ s'.calls.length = s.calls.length
  call : ∀ (index : ℕ) (call : Call), s.calls[index]? = some call →
    ∃ call' : Call, s'.calls[index]? = some call' ∧ call'.command = call.command ∧
      (call.settled = true → call'.settled = true ∧ call'.settlements = call.settlements)

section Later

variable {s s' : CallbackState}

theorem Later.refl (s : CallbackState) : Later s s :=
  ⟨fun h => ⟨h, rfl⟩, fun _ call h => ⟨call, h, rfl, fun hsettled => ⟨hsettled, rfl⟩⟩⟩

theorem Later.trans {t : CallbackState} (h : Later s s') (h' : Later s' t) : Later s t := by
  refine ⟨fun hclosed => ?_, fun index call hcall => ?_⟩
  · obtain ⟨hdestroyed, hlen⟩ := h.closed hclosed
    obtain ⟨hdestroyed', hlen'⟩ := h'.closed hdestroyed
    exact ⟨hdestroyed', hlen'.trans hlen⟩
  · obtain ⟨c, hc, hcommand, hsame⟩ := h.call index call hcall
    obtain ⟨d, hd, hcommand', hsame'⟩ := h'.call index c hc
    refine ⟨d, hd, hcommand'.trans hcommand, fun hsettled => ?_⟩
    obtain ⟨hc', heq⟩ := hsame hsettled
    obtain ⟨hd', heq'⟩ := hsame' hc'
    exact ⟨hd', heq'.trans heq⟩

/-- An update of one command. -/
theorem Later.set {index : ℕ} {call call' : Call} (hcall : s.calls[index]? = some call)
    (hcommand : call'.command = call.command)
    (hsame : call.settled = true → call'.settled = true ∧ call'.settlements = call.settlements)
    {destroyed : Bool} (hdestroyed : s.destroyed = true → destroyed = true) (inFlight : Bool)
    (dispatching : List ℕ) :
    Later s
      { s with
        calls := s.calls.set index call'
        inFlight := inFlight
        destroyed := destroyed
        dispatching := dispatching } := by
  refine ⟨fun hclosed => ⟨hdestroyed hclosed, List.length_set⟩, fun j other hj => ?_⟩
  have hlt := (List.getElem?_eq_some_iff.mp hj).1
  by_cases hij : j = index
  · subst hij
    obtain rfl : other = call := Option.some.inj (hj.symm.trans hcall)
    exact ⟨call', List.getElem?_set_self hlt, hcommand, hsame⟩
  · refine ⟨other, ?_, rfl, fun hsettled => ⟨hsettled, rfl⟩⟩
    rw [List.getElem?_set_ne (Ne.symm hij)]
    exact hj

theorem later_finish (s : CallbackState) (index : ℕ) (outcome : Outcome) :
    Later s (finish s index outcome) := by
  unfold finish
  split
  · exact .refl s
  · rename_i call hcall
    split_ifs with hsettled
    · exact .refl s
    · refine Later.set hcall ?_ (fun htrue => absurd htrue hsettled) (fun hdestroyed => ?_) _ _
      · rfl
      · rw [hdestroyed, Bool.true_or]

theorem later_callback {index : ℕ} {outcome : Outcome} (h : callback s index outcome = some s') :
    Later s s' := by
  unfold callback at h
  split at h
  · cases h
  · rename_i call hcall
    split_ifs at h with hsettled hdispatch
    · cases h
      exact .refl s
    · cases h
      refine Later.set hcall ?_ (fun htrue => absurd htrue hsettled) id _ _
      rfl
    · cases h
      exact later_finish s index outcome

theorem later_dispatchReturns {result : DispatchEnd} (h : dispatchReturns s result = some s') :
    Later s s' := by
  unfold dispatchReturns at h
  split at h
  · cases h
  · rename_i index outer _
    split at h
    · cases h
    · rename_i call hcall
      have hcomplete : ∀ destroyed : Bool, (s.destroyed = true → destroyed = true) →
          Later s
            { s with
              calls := s.calls.set index { call with dispatchComplete := true }
              destroyed := destroyed
              dispatching := outer } := by
        intro destroyed hdestroyed
        refine Later.set hcall ?_ (fun hsettled => ?_) hdestroyed _ _
        · rfl
        · exact ⟨hsettled, rfl⟩
      dsimp only at h
      split_ifs at h
      · cases h
        exact hcomplete true fun _ => rfl
      · split at h
        · split at h
          · cases h
            exact hcomplete s.destroyed id
          · cases h
            exact (hcomplete s.destroyed id).trans (later_finish _ _ _)
        · cases h
          exact (hcomplete s.destroyed id).trans (later_finish _ _ _)

theorem later_request (s : CallbackState) (r : HostValue) : Later s (request s r).1 := by
  rcases request_cases s r with heq | heq | ⟨hopen, -, -, captured, heq⟩
  · rw [heq]
    exact .refl s
  · rw [heq]
    exact ⟨(Later.refl s).closed, (Later.refl s).call⟩
  · rw [heq]
    refine ⟨fun hclosed => ?_, fun index call hcall => ?_⟩
    · rw [hopen] at hclosed
      cases hclosed
    · refine ⟨call, ?_, rfl, fun hsettled => ⟨hsettled, rfl⟩⟩
      rw [List.getElem?_append_left (List.getElem?_eq_some_iff.mp hcall).1]
      exact hcall

theorem later_step {a : Action} (h : step s a = some s') : Later s s' := by
  cases a with
  | request r =>
    cases h
    exact later_request s r
  | captureContext =>
    cases h
    exact ⟨(Later.refl s).closed, (Later.refl s).call⟩
  | deliverRawJson index raw => exact later_callback h
  | reportFailure index code => exact later_callback h
  | dispatchReturns result => exact later_dispatchReturns h
  | setRuntime intact =>
    cases h
    exact ⟨(Later.refl s).closed, (Later.refl s).call⟩

theorem later_run {actions : List Action} (h : run step s actions = some s') : Later s s' :=
  run_rel Later.refl (fun _ _ _ => Later.trans) (fun _ _ _ => later_step) h

end Later

/-! ## The protocol -/

/-- The protocol in a state that a session reaches by these actions. -/
structure Protocol (o : SessionOptions) (actions : List Action) (s : CallbackState) : Prop where
  /-- The Promise of a command is settled at most once, and stays as it is settled. -/
  settledOnce : ∀ (i : ℕ) (call : Call), s.calls[i]? = some call → call.settlements.length ≤ 1 ∧
    (call.settlements ≠ [] → ∀ more s', run step s more = some s' →
      ∃ call', s'.calls[i]? = some call' ∧ call'.settlements = call.settlements)
  /-- At most one command is unsettled. -/
  oneUnsettled : ∀ (i j : ℕ) (c d : Call), s.calls[i]? = some c → s.calls[j]? = some d →
    c.settlements = [] → d.settlements = [] → i = j
  /-- Sequence numbers and request identifiers increase. -/
  increasing : ∀ (i j : ℕ) (c d : Call), i < j → s.calls[i]? = some c → s.calls[j]? = some d →
    ∃ (m n : ℕ) (x y : JsString), c.command.get (js "sequence") = some (.number (.ofInt m)) ∧
      d.command.get (js "sequence") = some (.number (.ofInt n)) ∧ m < n ∧
      c.command.get (js "request_id") = some (.string x) ∧
      d.command.get (js "request_id") = some (.string y) ∧ compare x y = .lt
  /-- At most `maxSensitiveCalls` commands are dispatched. -/
  bounded : s.calls.length ≤ o.maxSensitiveCalls
  /-- A callback of a settled command changes nothing. -/
  ignored : ∀ (i : ℕ) (call : Call), s.calls[i]? = some call → call.settlements ≠ [] →
    ∀ x : HostValue, step s (.deliverRawJson i x) = some s ∧ step s (.reportFailure i x) = some s
  /-- After a failure no command is dispatched. -/
  closed : ∀ (i : ℕ) (call : Call) (e : TransportFailure), s.calls[i]? = some call →
    .rejected e ∈ call.settlements → ∀ more s', run step s more = some s' →
      s'.calls.length = s.calls.length
  /-- A command is resolved with the hash of a response that was delivered to it and is bound
      to it. -/
  bound : ∀ (i : ℕ) (call : Call) (hash : JsString), s.calls[i]? = some call →
    .resolved hash ∈ call.settlements → ∃ (sequence : ℕ) (r : JsValue) (text : JsString) (response : JsValue),
      call.command = sessionCommand o.sessionId sequence o.chainId o.account r ∧
        .deliverRawJson i (.string text) ∈ actions ∧
        BoundResponse o.sessionId sequence o.chainId o.account text hash response

/-- The protocol holds in every state that a session reaches. -/
theorem callbackTransport_protocol (o : SessionOptions) (actions : List Action) (s : CallbackState)
    (h : run step (.initial o) actions = some s) : Protocol o actions s := by
  have hinv : Inv o (fun i raw => Action.deliverRawJson i raw ∈ actions) s := by
    refine run_invariant_of_mem (P := fun a => a ∈ actions) (fun t a t' ha ht hstep => ?_)
      (fun _ ha => ha) h inv_initial
    refine step_keeps ht (fun index raw heq => ?_) hstep
    rw [← heq]
    exact ha
  have hsettled : ∀ (i : ℕ) (call : Call), s.calls[i]? = some call → call.settlements ≠ [] →
      call.settled = true := by
    intro i call hcall hne
    by_contra hfalse
    rw [Bool.not_eq_true] at hfalse
    exact hne ((hinv.call i call hcall).unsettled hfalse).1
  have hunsettled : ∀ (i : ℕ) (call : Call), s.calls[i]? = some call → call.settlements = [] →
      call.settled = false := by
    intro i call hcall hempty
    by_contra htrue
    rw [Bool.not_eq_false] at htrue
    obtain ⟨x, hx, -⟩ := (hinv.call i call hcall).settled htrue
    rw [hx] at hempty
    cases hempty
  refine ⟨?_, ?_, ?_, hinv.bounded, ?_, ?_, ?_⟩
  · intro i call hcall
    refine ⟨?_, fun hne more s' hmore => ?_⟩
    · by_cases hdone : call.settled = true
      · obtain ⟨x, hx, -⟩ := (hinv.call i call hcall).settled hdone
        rw [hx, List.length_singleton]
      · rw [Bool.not_eq_true] at hdone
        rw [((hinv.call i call hcall).unsettled hdone).1]
        exact Nat.zero_le 1
    · obtain ⟨call', hcall', -, hsame⟩ := (later_run hmore).call i call hcall
      exact ⟨call', hcall', (hsame (hsettled i call hcall hne)).2⟩
  · intro i j c d hc hd hempty hempty'
    exact hinv.eq_of_unsettled hc hd (hunsettled i c hc hempty) (hunsettled j d hd hempty')
  · intro i j c d hij hc hd
    obtain ⟨r, hcommand⟩ := (hinv.call i c hc).command
    obtain ⟨r', hcommand'⟩ := (hinv.call j d hd).command
    have hj := (List.getElem?_eq_some_iff.mp hd).1
    have hbounded := hinv.bounded
    have hmax := o.max_le
    have hlt : i + 1 < j + 1 := by omega
    refine ⟨i + 1, j + 1, requestId o.sessionId (i + 1), requestId o.sessionId (j + 1), ?_, ?_, hlt,
      ?_, ?_, ?_⟩
    · rw [hcommand]
      rfl
    · rw [hcommand']
      rfl
    · rw [hcommand]
      rfl
    · rw [hcommand']
      rfl
    · rw [compare_requestId o.sessionId (by omega) (by omega)]
      exact compare_lt_iff_lt.mpr hlt
  · intro i call hcall hne x
    have hdone := hsettled i call hcall hne
    simp only [step, callback, hcall, hdone, if_true, and_self]
  · intro i call e hcall he more s' hmore
    have hne : call.settlements ≠ [] := List.ne_nil_of_mem he
    obtain ⟨x, hx, hby⟩ := (hinv.call i call hcall).settled (hsettled i call hcall hne)
    rw [hx, List.mem_singleton] at he
    rw [← he] at hby
    exact ((later_run hmore).closed hby).2
  · intro i call hash hcall hhash
    have hne : call.settlements ≠ [] := List.ne_nil_of_mem hhash
    obtain ⟨x, hx, hby⟩ := (hinv.call i call hcall).settled (hsettled i call hcall hne)
    rw [hx, List.mem_singleton] at hhash
    rw [← hhash] at hby
    obtain ⟨r, hcommand⟩ := (hinv.call i call hcall).command
    obtain ⟨text, response, hdelivered, hbound⟩ := hby
    exact ⟨i + 1, r, text, response, hcommand, hdelivered, hbound⟩

/-- A session with one account. -/
def sampleSession : SessionOptions where
  chainId := js "0x1"
  account := js "0x" ++ List.replicate 40 0x61
  maxSensitiveCalls := 2
  sessionId := List.replicate 64 0x62
  chain_canonical := by decide
  account_hex := by decide
  max_pos := by decide
  max_le := by decide
  session_hex := by decide

/-- `{method: 'eth_sendTransaction', params: ['0x']}` -/
def sampleRequest : HostValue :=
  .ofData (.object [(js "method", .string (js "eth_sendTransaction")),
    (js "params", .array [.string (js "0x")])])

/-- A response to the first command of the session. -/
def sampleResponse : JsString :=
  js "\x7b\"schema_version\":\"wallet_guard_bridge/0.1\",\"session_id\":\"" ++
    sampleSession.sessionId ++ js "\",\"sequence\":1,\"request_id\":\"" ++
    requestId sampleSession.sessionId 1 ++ js "\",\"observed_chain_id\":\"0x1\",\"observed_account\":\"" ++
    sampleSession.account ++ js "\",\"outcome\":\"result\",\"result\":\"0x" ++
    List.replicate 64 0x63 ++ js "\",\"error\":null\x7d"

/-- The response arrives while the dispatcher runs, and once more after the command is settled;
    a second command fails and closes the session. -/
def sampleActions : List Action :=
  [.request sampleRequest, .deliverRawJson 0 (.string sampleResponse), .request sampleRequest,
    .dispatchReturns (.returned .undefined), .deliverRawJson 0 .null, .request sampleRequest,
    .dispatchReturns .threw, .request sampleRequest]

/-- For each command, whether it was rejected, and whether the session is closed. -/
def CallbackState.summary (s : CallbackState) : List (List Bool) × Bool :=
  (s.calls.map fun call => call.settlements.map Settlement.isRejected, s.destroyed)

theorem callbackTransport_protocol_sample :
    ∃ s, run step (.initial sampleSession) sampleActions = some s ∧
      s.summary = ([[false], [true]], true) ∧ Protocol sampleSession sampleActions s := by
  have hrun : (run step (.initial sampleSession) sampleActions).map CallbackState.summary =
      some ([[false], [true]], true) := by decide +kernel
  obtain ⟨s, h, hsummary⟩ := Option.map_eq_some_iff.mp hrun
  exact ⟨s, h, hsummary, callbackTransport_protocol sampleSession sampleActions s h⟩

end OpenRisk.Guard.CallbackTransport
