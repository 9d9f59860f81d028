import OpenRisk.Guard.GatewaySafety

/-!
# The controlled host

Model of `createWalletGuardControlledReferenceHost` of
`applications/blockchain-digital-assets/wallet-guard/controlled-host.mjs`. The host owns the
provider and the context source of a gateway and lets a page call it. It admits a page request
only while the recorded calls and the requests in flight are fewer than the log can hold.

A step is a piece of code that runs without interruption:

* `page`: a call of `ethereum.request` up to the first origin sample of the gateway,
* `sample`, `clock`, `supplier`, `resume`, `provider`: a step of the gateway; the host answers
  the samples and the call of `provider.request` itself,
* `settle`: the `finally` block, after the promise of the gateway has settled,
* `setTrustedOrigin`, `setChainId`, `setAccounts`: the test authority.

The clock and the supplier are outside, so any step may come between two others.

Results:
* `gatewayStep_forwards`: a step of the gateway calls the provider at most once, for a request
  that had not called it.
* `hostStep_invariant`: the calls recorded and those still to come fit in the log.
* `controlledHost_capacity`: the log is never exceeded and never found full by the provider, and
  the requests in flight are the page requests that have not settled.
* `hostRun_refines_gateway`: the gateway of a host makes a run of its own, in which the provider is
  called at most once for each request.
-/

namespace OpenRisk.Guard

open Text Sdk
open OpenRisk.Core

/-! ## Model -/

def MAX_ACCOUNTS : ℕ := 64

def MAX_SENSITIVE_CALLS : ℕ := 64

/-- `WalletGuardControlledHostError`. -/
structure HostError where
  code : JsString
  message : JsString

def hostError (code message : String) : HostError := ⟨js code, js message⟩

/-- `canonicalOrigin(value)` of the host module. -/
def hostOrigin (U : UrlParser) (value : HostValue) : Except HostError JsString :=
  match value with
  | .string s =>
    if s.length < 8 ∨ 512 < s.length then
      .error (hostError "POMRX_WG_HOST_E_ORIGIN_INVALID" "trusted origin is invalid")
    else checkOrigin U s
      (hostError "POMRX_WG_HOST_E_ORIGIN_INVALID" "trusted origin must be an absolute HTTP(S) origin")
      (hostError "POMRX_WG_HOST_E_ORIGIN_INVALID" "trusted origin must be canonical")
  | _ => .error (hostError "POMRX_WG_HOST_E_ORIGIN_INVALID" "trusted origin is invalid")

def accountsError {α : Type} (message : String) : Except HostError α :=
  .error (hostError "POMRX_WG_HOST_E_ACCOUNTS_INVALID" message)

/-- A value as the decoders take it, which look at strings only. -/
def hostText : HostValue → Option JsValue
  | .string s => some (.string s)
  | _ => none

/-- The loop of `canonicalAccounts(value)`; `seen` are the accounts so far. -/
def canonicalAccount (properties : List (JsString × Property HostValue)) :
    List Address → List ℕ → Except HostError (List Address)
  | seen, [] => .ok seen
  | seen, index :: rest =>
    match (properties.lookup (Json.decimal index)).bind Property.enumerableData with
    | none => accountsError "accounts must contain dense data elements only"
    | some value => do
      let account ← (normalizeEvmAddress (hostText value) (js "controlled host account")).mapError
        fun e => ⟨e.code, e.message⟩
      if account ∈ seen then accountsError "accounts cannot contain duplicates"
      else canonicalAccount properties (seen ++ [account]) rest

/-- `canonicalAccounts(value)`. -/
def canonicalAccounts (value : HostValue) : Except HostError (List Address) :=
  match value with
  | .object r =>
    match r.kind with
    | .array length =>
      if r.prototype ≠ .array then accountsError "accounts must be a standard non-Proxy array"
      else if length < 1 ∨ MAX_ACCOUNTS < length then
        accountsError "accounts must be a bounded non-empty array"
      else if r.hasSymbols then accountsError "accounts cannot contain symbol keys"
      else if r.names.length ≠ length then
        accountsError "accounts must be a dense undecorated array"
      else canonicalAccount r.properties [] (List.range length)
    | .record => accountsError "accounts must be a standard non-Proxy array"
  | _ => accountsError "accounts must be a standard non-Proxy array"

/-- What `rawProvider.request(request)` does. -/
inductive RawAnswer where
  /-- It fails with `POMRX_WG_HOST_E_LOG_FULL`. -/
  | logFull
  /-- The request cannot be captured. -/
  | unreadable (error : PlainDataError)
  /-- The request is recorded, and `providerResult` is returned. -/
  | recorded

def RawAnswer.answer (providerResult : JsString) : RawAnswer → DownstreamAnswer
  | .logFull => .rejected
  | .unreadable _ => .rejected
  | .recorded => .resolved (.string providerResult)

/-- A page request that was admitted: its place among the requests of the gateway, unless the
    gateway rejected it at once, and whether its promise has settled. -/
structure PageRequest where
  call : Option ℕ
  settled : Bool

/-- The state of a host, with the answers that its provider has given. -/
structure ControlledHost (P : DateParser) where
  origin : JsString
  chainId : ChainId
  accounts : List Address
  sensitiveCalls : List JsValue
  contextReads : ℕ
  inFlightRequests : ℤ
  gateway : GatewayState P
  pageRequests : List PageRequest
  rawAnswers : List (ℕ × RawAnswer)

inductive HostAction where
  | page (untrustedRequest : HostValue)
  | sample (request : ℕ)
  | clock (request : ℕ) (answer : SyncAnswer)
  | supplier (request : ℕ) (answer : SupplierAnswer) (capability : ObjectId)
      (randomBytes : List UInt8)
  | resume (request : ℕ)
  | provider (request : ℕ)
  | settle (pageRequest : ℕ)
  | setTrustedOrigin (value : HostValue)
  | setChainId (value : HostValue)
  | setAccounts (value : HostValue)

/-- The calls of `provider.request` among events. -/
def forwardsOf (events : List GatewayEvent) : List (ℕ × JsValue) :=
  events.filterMap fun
    | .forwarded k value => some (k, value)
    | _ => none

namespace ControlledHost

variable {P : DateParser}

/-- A host that has just been made. -/
def initial (origin : JsString) (chainId : ChainId) (accounts : List Address) : ControlledHost P :=
  ⟨origin, chainId, accounts, [], 0, 0, .initial, [], []⟩

/-- `rawProvider.request(request)`, called for a request of the gateway. -/
def rawRequest (h : ControlledHost P) (call : ℕ × JsValue) : ControlledHost P :=
  if MAX_SENSITIVE_CALLS ≤ h.sensitiveCalls.length then
    { h with rawAnswers := h.rawAnswers ++ [(call.1, .logFull)] }
  else
    match captureReferencePlainData (.ofData call.2)
      (js "Wallet Guard controlled provider request") with
    | .error e => { h with rawAnswers := h.rawAnswers ++ [(call.1, .unreadable e)] }
    | .ok request =>
      { h with
        sensitiveCalls := h.sensitiveCalls ++ [request]
        rawAnswers := h.rawAnswers ++ [(call.1, .recorded)] }

/-- The gateway has gone on to another state; its new calls of the provider are answered. -/
def deliver (h : ControlledHost P) (gateway : GatewayState P) : ControlledHost P :=
  (forwardsOf (gateway.trace.drop h.gateway.trace.length)).foldl rawRequest { h with gateway }

/-- `captureContext(deliverContext)`. -/
def captureContext (h : ControlledHost P) : SourceAnswer :=
  ⟨[.deliverContext (.string h.chainId.val)
    ((h.accounts[0]?.map fun a => HostValue.string a.val).getD .undefined)], .returned .undefined⟩

/-- The answer of the host's own callbacks to a sample, and how often `captureContext` runs. -/
def sampleAnswer (h : ControlledHost P) : Sampling → SampleAnswer × ℕ
  | .originBefore => (.origin (.value (.string h.origin)), 0)
  | .originAfter _ _ => (.origin (.value (.string h.origin)), 0)
  | .firstContext _ => (.provider h.captureContext, 1)
  | .secondContext _ _ => (.provider h.captureContext, 1)

/-- `request(untrustedRequest)` of the page, up to the first sample. -/
def pageRequest (h : ControlledHost P) (untrustedRequest : HostValue) : ControlledHost P :=
  match captureReferencePlainData untrustedRequest (js "Wallet Guard controlled page request") with
  | .error _ => h
  | .ok snapshot =>
    if MAX_SENSITIVE_CALLS ≤ h.sensitiveCalls.length + h.inFlightRequests then h
    else
      { h with
        inFlightRequests := h.inFlightRequests + 1
        gateway := requestStep h.gateway (.ofData snapshot)
        pageRequests := h.pageRequests ++
          [⟨match clonePlainRequest (.ofData snapshot) with
            | .ok _ => some h.gateway.requests.length
            | .error _ => none, false⟩] }

/-- The promise of `gateway.request` has settled. -/
def hasSettled (g : GatewayState P) : Option ℕ → Bool
  | none => true
  | some k =>
    match (g.requests[k]?).map Request.phase with
    | some (.settled _) => true
    | _ => false

/-- The `finally` block of `request`. -/
def settle (h : ControlledHost P) (i : ℕ) : Option (ControlledHost P) :=
  match h.pageRequests[i]? with
  | some ⟨call, false⟩ =>
    if hasSettled h.gateway call then
      some { h with
        inFlightRequests := h.inFlightRequests - 1
        pageRequests := h.pageRequests.set i ⟨call, true⟩ }
    else none
  | _ => none

end ControlledHost

section Step

variable (U : UrlParser) (N : Normalization) (S : Hash) {P : DateParser} (b : Bootstrap U)
variable (providerResult : JsString)

/-- A step of the gateway. -/
def advance (h : ControlledHost P) (action : GatewayAction) : Option (ControlledHost P) :=
  (gatewayStep U N S b h.gateway action).map h.deliver

/-- One step; `none` where nothing waits for this answer. -/
def hostStep (h : ControlledHost P) (action : HostAction) : Option (ControlledHost P) :=
  match action with
  | .page untrustedRequest => some (h.pageRequest untrustedRequest)
  | .sample k =>
    match (h.gateway.requests[k]?).map Request.phase with
    | some (.sampling _ sampling) =>
      let (answer, reads) := h.sampleAnswer sampling
      advance U N S b { h with contextReads := h.contextReads + reads } (.sample k answer)
    | _ => none
  | .clock k answer => advance U N S b h (.clock k answer)
  | .supplier k answer capability randomBytes =>
    advance U N S b h (.supplier k answer capability randomBytes)
  | .resume k => advance U N S b h (.resume k)
  | .provider k =>
    (h.rawAnswers.lookup k).bind fun a => advance U N S b h (.provider k (a.answer providerResult))
  | .settle i => h.settle i
  | .setTrustedOrigin value =>
    match hostOrigin U value with
    | .ok origin => some { h with origin }
    | .error _ => some h
  | .setChainId value =>
    match normalizeChainId (hostText value) with
    | .ok chainId => some { h with chainId }
    | .error _ => some h
  | .setAccounts value =>
    match canonicalAccounts value with
    | .ok accounts => some { h with accounts }
    | .error _ => some h

/-- A run of the host. -/
def hostRun (h : ControlledHost P) (actions : List HostAction) : Option (ControlledHost P) :=
  Machine.run (hostStep U N S b providerResult) h actions

end Step

/-! ## Calls of the provider -/

@[simp] theorem forwardsOf_nil : forwardsOf [] = [] := rfl

theorem forwardsOf_append (events more : List GatewayEvent) :
    forwardsOf (events ++ more) = forwardsOf events ++ forwardsOf more :=
  List.filterMap_append

theorem forwardsOf_sampled (k : ℕ) (new : List Sample) :
    forwardsOf (new.map (GatewayEvent.sampled k)) = [] := by
  simp [forwardsOf]

/-- The request may still call the provider. -/
def RequestPhase.mayForward {P : DateParser} : RequestPhase P → Bool
  | .forwarded _ _ => false
  | .settled _ => false
  | _ => true

/-- The request `k` has gone on, and the provider is called at most once: by a request that
    may call it, which then may not call it again. -/
structure Advances {P : DateParser} (s s' : GatewayState P) (k : ℕ) (old : RequestPhase P) : Prop where
  requests : ∃ new : RequestPhase P, s'.requests = s.requests.modify k (fun r => { r with phase := new }) ∧
    ∃ events, s'.trace = s.trace ++ events ∧
      ((forwardsOf events = [] ∧ (new.mayForward = true → old.mayForward = true)) ∨
        ∃ v, forwardsOf events = [(k, v)] ∧ old.mayForward = true ∧ new.mayForward = false)

section Gateway

variable {U : UrlParser} {N : Normalization} {S : Hash} {P : DateParser} {b : Bootstrap U}
variable {s s' : GatewayState P} {k : ℕ} {r : Request P} {old new : RequestPhase P}

/-- A request goes on and does not call the provider. -/
theorem Advances.quiet {events : List GatewayEvent}
    (hrequests : s'.requests = s.requests.modify k fun r => { r with phase := new })
    (htrace : s'.trace = s.trace ++ events) (hevents : forwardsOf events = [])
    (hphase : old.mayForward = true) : Advances s s' k old :=
  ⟨new, hrequests, events, htrace, .inl ⟨hevents, fun _ => hphase⟩⟩

theorem advances_sampleDone {site : Site} {before : List Sample} (c : TrustedContext)
    (hold : old.mayForward = true) :
    Advances s (sampleDone U N S b (s.log (before.map (.sampled k))) k r site c) k old := by
  have hquiet := forwardsOf_sampled k before
  cases site with
  | atRequest => exact .quiet rfl rfl hquiet hold
  | atObservation e call =>
    simp only [sampleDone]
    split
    all_goals exact .quiet rfl rfl hquiet hold
  | beforeCheck e call prepared =>
    simp only [sampleDone]
    split
    all_goals exact .quiet rfl rfl hquiet hold
  | beforeForward e call prepared request =>
    simp only [sampleDone]
    split_ifs
    · -- the only place where the provider is called
      refine ⟨_, rfl, before.map (.sampled k) ++ [GatewayEvent.forwarded k request], ?_, .inr ⟨request, ?_, hold, rfl⟩⟩
      · exact List.append_assoc _ _ _
      · rw [forwardsOf_append, hquiet]
        rfl
    · exact .quiet rfl rfl hquiet hold

theorem advances_sampleStep {site : Site} {sampling : Sampling} {answer : SampleAnswer}
    (hold : old.mayForward = true) (h : sampleStep U N S b s k r site sampling answer = some s') :
    Advances s s' k old := by
  obtain ⟨⟨before, progress⟩, -, rfl⟩ := Option.map_eq_some_iff.mp h
  cases progress with
  | waiting sampling => exact .quiet rfl rfl (forwardsOf_sampled k before) hold
  | failed error => exact .quiet rfl rfl (forwardsOf_sampled k before) hold
  | done c => exact advances_sampleDone c hold

theorem advances_clockAnswer {e : Evaluation} {answer : SyncAnswer} (hold : old.mayForward = true) :
    Advances s (clockAnswer U S b s k r e answer) k old := by
  unfold clockAnswer
  split
  · exact .quiet rfl (List.append_nil _).symm rfl hold
  · split
    · exact .quiet rfl (List.append_nil _).symm rfl hold
    · exact .quiet rfl rfl rfl hold

theorem advances_supplierStep {e : Evaluation} {issuedAt : UtcInstant P} {expiresAt : JsString}
    {answer : SupplierAnswer} {capability : ObjectId} {randomBytes : List UInt8}
    (hold : old.mayForward = true)
    (h : supplierStep N S s k r e issuedAt expiresAt answer capability randomBytes = some s') :
    Advances s s' k old := by
  rcases supplierStep_cases h with ⟨error, rfl⟩ | ⟨i, -, ⟨error, rfl⟩ | ⟨gate, binding, rfl, -⟩⟩
  · exact .quiet rfl (List.append_nil _).symm rfl hold
  · exact .quiet rfl rfl rfl hold
  · exact .quiet rfl rfl rfl hold

theorem advances_gateContinue {e : Evaluation} {call : ℕ} {argument : JsValue}
    {action : Action Attempt} (hold : old.mayForward = true)
    (h : gateContinue N S s k e call argument action = some s') : Advances s s' k old := by
  obtain ⟨gate, -, rfl⟩ := Option.map_eq_some_iff.mp h
  exact .quiet rfl (List.append_nil _).symm rfl hold

/-- The Gate settles a call whose downstream has settled. -/
theorem advances_downstream {e : Evaluation} {call : ℕ} {answer : DownstreamAnswer}
    (h : gateContinue N S s k e call .null (.downstream call answer) = some s') :
    Advances s s' k old := by
  obtain ⟨gate, hgate, rfl⟩ := Option.map_eq_some_iff.mp h
  obtain ⟨hexecuting, result, hstep⟩ := gateStep_downstream hgate
  obtain ⟨result', hfollow⟩ : ∃ result', follow gate e call .null = .settled result' :=
    follow_settled (hstep.phaseAt_self hexecuting)
  refine ⟨_, rfl, [], (List.append_nil _).symm, .inl ⟨rfl, fun h => ?_⟩⟩
  rw [hfollow] at h
  cases h

/-- A step of a request. -/
theorem gatewayStep_forwards {action : GatewayAction} (hrequest : ∀ v, action ≠ .request v)
    (h : gatewayStep U N S b s action = some s') :
    ∃ k r, s.requests[k]? = some r ∧ Advances s s' k r.phase := by
  cases action with
  | request v => exact absurd rfl (hrequest v)
  | sample k answer =>
    simp only [gatewayStep] at h
    split at h
    · rename_i r hr
      split at h
      · rename_i site sampling hphase
        exact ⟨k, r, hr, advances_sampleStep (by rw [hphase]; rfl) h⟩
      · cases h
    · cases h
  | clock k answer =>
    simp only [gatewayStep] at h
    split at h
    · rename_i r hr
      split at h
      · rename_i e hphase
        cases h
        exact ⟨k, r, hr, advances_clockAnswer (by rw [hphase]; rfl)⟩
      · rename_i e call hphase
        exact ⟨k, r, hr, advances_gateContinue (by rw [hphase]; rfl) h⟩
      · cases h
    · cases h
  | supplier k answer capability randomBytes =>
    simp only [gatewayStep] at h
    split at h
    · rename_i r hr
      split at h
      · rename_i e issuedAt expiresAt hphase
        exact ⟨k, r, hr, advances_supplierStep (by rw [hphase]; rfl) h⟩
      · cases h
    · cases h
  | resume k =>
    simp only [gatewayStep] at h
    split at h
    · rename_i r hr
      split at h
      · rename_i e call answer hphase
        exact ⟨k, r, hr, advances_gateContinue (by rw [hphase]; rfl) h⟩
      · exact ⟨k, r, hr, advances_downstream h⟩
      · cases h
    · cases h
  | provider k answer =>
    simp only [gatewayStep] at h
    split at h
    · rename_i r hr
      split at h
      · exact ⟨k, r, hr, advances_downstream h⟩
      · cases h
    · cases h

end Gateway

/-! ## Capacity -/

section Host

variable {P : DateParser}

/-- A call of the gateway may still call the provider. -/
def GatewayState.mayForward (g : GatewayState P) (call : Option ℕ) : Bool :=
  call.any fun k => (g.requests[k]?).any fun r => r.phase.mayForward

theorem GatewayState.mayForward_some {g : GatewayState P} {k : ℕ} :
    g.mayForward (some k) = true ↔ ∃ r, g.requests[k]? = some r ∧ r.phase.mayForward = true := by
  rw [mayForward, Option.any_some, Option.any_eq_true]

def PageRequest.unsettled (p : PageRequest) : Bool := !p.settled

/-- An admitted page request that may still call the provider. -/
def PageRequest.waiting (g : GatewayState P) (p : PageRequest) : Bool := p.unsettled && g.mayForward p.call

@[simp] theorem unsettled_mk (call : Option ℕ) (settled : Bool) :
    PageRequest.unsettled ⟨call, settled⟩ = !settled := rfl

@[simp] theorem waiting_mk (g : GatewayState P) (call : Option ℕ) (settled : Bool) :
    PageRequest.waiting g ⟨call, settled⟩ = (!settled && g.mayForward call) := rfl

theorem countP_unsettled_append {pages : List PageRequest} {p : PageRequest}
    (hp : p.unsettled = true) :
    (pages ++ [p]).countP PageRequest.unsettled = pages.countP PageRequest.unsettled + 1 := by
  rw [List.countP_append, List.countP_singleton, if_pos hp]

def RawAnswer.isRecorded : RawAnswer → Bool
  | .recorded => true
  | _ => false

/-- The calls recorded and the page requests that may still add one fit in the log. -/
structure HostInvariant (h : ControlledHost P) : Prop where
  inFlight : h.inFlightRequests = h.pageRequests.countP PageRequest.unsettled
  capacity : h.sensitiveCalls.length + h.pageRequests.countP (PageRequest.waiting h.gateway) ≤
    MAX_SENSITIVE_CALLS
  admitted : ∀ k r, h.gateway.requests[k]? = some r → r.phase.mayForward = true →
    ⟨some k, false⟩ ∈ h.pageRequests
  available : ∀ a ∈ h.rawAnswers, a.2 ≠ .logFull
  answered : h.rawAnswers.map Prod.fst = (forwardsOf h.gateway.trace).map Prod.fst
  recorded : h.sensitiveCalls.length = h.rawAnswers.countP fun a => a.2.isRecorded

theorem initial_hostInvariant (origin : JsString) (chainId : ChainId) (accounts : List Address) :
    HostInvariant (ControlledHost.initial (P := P) origin chainId accounts) where
  inFlight := rfl
  capacity := Nat.zero_le _
  admitted := fun _ _ hr => nomatch hr
  available := fun _ ha => nomatch ha
  answered := rfl
  recorded := rfl

/-- The invariant says nothing about the context of the host. -/
theorem HostInvariant.congr {h h' : ControlledHost P} (hi : HostInvariant h)
    (hcalls : h'.sensitiveCalls = h.sensitiveCalls)
    (hinFlight : h'.inFlightRequests = h.inFlightRequests) (hgateway : h'.gateway = h.gateway)
    (hpages : h'.pageRequests = h.pageRequests) (hanswers : h'.rawAnswers = h.rawAnswers) :
    HostInvariant h' where
  inFlight := by rw [hinFlight, hpages, hi.inFlight]
  capacity := by rw [hcalls, hpages, hgateway]; exact hi.capacity
  admitted := by rw [hgateway, hpages]; exact hi.admitted
  available := by rw [hanswers]; exact hi.available
  answered := by rw [hanswers, hgateway, hi.answered]
  recorded := by rw [hcalls, hanswers, hi.recorded]

/-- A property that one element loses holds of fewer elements. -/
theorem countP_lt {α : Type} {p q : α → Bool} {l : List α} {a : α}
    (hle : ∀ x ∈ l, q x = true → p x = true) (ha : a ∈ l) (hp : p a = true) (hq : q a = false) :
    l.countP q < l.countP p := by
  obtain ⟨before, after, rfl⟩ := List.append_of_mem ha
  have hbefore : before.countP q ≤ before.countP p :=
    List.countP_mono_left fun x hx => hle x (List.mem_append_left _ hx)
  have hafter : after.countP q ≤ after.countP p :=
    List.countP_mono_left fun x hx => hle x (List.mem_append_right _ (List.mem_cons_of_mem _ hx))
  rw [List.countP_append, List.countP_append, List.countP_cons_of_pos hp,
    List.countP_cons_of_neg (by simp [hq])]
  omega

/-- What a step of a request means for the calls that may still come. -/
theorem Advances.mayForward {s s' : GatewayState P} {k : ℕ} {r : Request P}
    (hr : s.requests[k]? = some r) (h : Advances s s' k r.phase) :
    (∀ j, s'.mayForward (some j) = true → s.mayForward (some j) = true) ∧
      ∃ events, s'.trace = s.trace ++ events ∧
        (forwardsOf events = [] ∨ ∃ v, forwardsOf events = [(k, v)] ∧
          s.mayForward (some k) = true ∧ s'.mayForward (some k) = false) := by
  obtain ⟨new, hrequests, events, htrace, hforwards⟩ := h.requests
  have hself : s'.mayForward (some k) = new.mayForward := by
    simp [GatewayState.mayForward, hrequests, hr]
  have hold : s.mayForward (some k) = r.phase.mayForward := by
    simp [GatewayState.mayForward, hr]
  refine ⟨fun j hj => ?_, events, htrace, ?_⟩
  · by_cases hjk : j = k
    · subst hjk
      rw [hold]
      rw [hself] at hj
      rcases hforwards with ⟨-, hmay⟩ | ⟨v, -, hmay, -⟩
      · exact hmay hj
      · exact hmay
    · have hother : s'.requests[j]? = s.requests[j]? := by
        rw [hrequests, List.getElem?_modify]
        simp [Ne.symm hjk]
      rwa [GatewayState.mayForward, Option.any_some, hother] at hj
  · rcases hforwards with ⟨hnil, -⟩ | ⟨v, hone, hmay, hnew⟩
    · exact .inl hnil
    · exact .inr ⟨v, hone, by rw [hold, hmay], by rw [hself, hnew]⟩

theorem PageRequest.waiting_mono {g g' : GatewayState P}
    (hmay : ∀ k, g'.mayForward (some k) = true → g.mayForward (some k) = true) {p : PageRequest}
    (h : p.waiting g' = true) : p.waiting g = true := by
  obtain ⟨hunsettled, h⟩ := Bool.and_eq_true_iff.mp h
  refine Bool.and_eq_true_iff.mpr ⟨hunsettled, ?_⟩
  cases hcall : p.call with
  | none => simp [hcall, GatewayState.mayForward] at h
  | some k => exact hmay k (hcall ▸ h)

theorem HostInvariant.admitted_mono {h : ControlledHost P} {g : GatewayState P} (hi : HostInvariant h)
    (hmay : ∀ k, g.mayForward (some k) = true → h.gateway.mayForward (some k) = true) :
    ∀ k r, g.requests[k]? = some r → r.phase.mayForward = true → ⟨some k, false⟩ ∈ h.pageRequests := by
  intro k r hr hphase
  obtain ⟨r', hr', hphase'⟩ :=
    GatewayState.mayForward_some.mp (hmay k (GatewayState.mayForward_some.mpr ⟨r, hr, hphase⟩))
  exact hi.admitted k r' hr' hphase'

/-- A request of the gateway goes on without a call of the provider. -/
theorem HostInvariant.quiet {h : ControlledHost P} {g : GatewayState P} {events : List GatewayEvent}
    (hi : HostInvariant h) (htrace : g.trace = h.gateway.trace ++ events)
    (hevents : forwardsOf events = [])
    (hmay : ∀ k, g.mayForward (some k) = true → h.gateway.mayForward (some k) = true) :
    HostInvariant { h with gateway := g } where
  inFlight := hi.inFlight
  capacity := by
    have hle : h.pageRequests.countP (PageRequest.waiting g) ≤
        h.pageRequests.countP (PageRequest.waiting h.gateway) :=
      List.countP_mono_left fun p _ hp => PageRequest.waiting_mono hmay hp
    have := hi.capacity
    show h.sensitiveCalls.length + h.pageRequests.countP (PageRequest.waiting g) ≤ _
    omega
  admitted := hi.admitted_mono hmay
  available := hi.available
  answered := by
    show h.rawAnswers.map Prod.fst = (forwardsOf g.trace).map Prod.fst
    rw [htrace, forwardsOf_append, hevents, List.append_nil]
    exact hi.answered
  recorded := hi.recorded

/-- A request of the gateway calls the provider, whose log has a free place for it. -/
theorem HostInvariant.forward {h : ControlledHost P} {g : GatewayState P} {events : List GatewayEvent}
    {k : ℕ} {v : JsValue} (hi : HostInvariant h) (htrace : g.trace = h.gateway.trace ++ events)
    (hevents : forwardsOf events = [(k, v)])
    (hmay : ∀ k, g.mayForward (some k) = true → h.gateway.mayForward (some k) = true)
    (hbefore : h.gateway.mayForward (some k) = true) (hafter : g.mayForward (some k) = false) :
    HostInvariant (ControlledHost.rawRequest { h with gateway := g } (k, v)) := by
  obtain ⟨r, hr, hphase⟩ := GatewayState.mayForward_some.mp hbefore
  -- the page request of `k` does not wait any longer
  have hlt : h.pageRequests.countP (PageRequest.waiting g) <
      h.pageRequests.countP (PageRequest.waiting h.gateway) :=
    countP_lt (fun p _ hp => PageRequest.waiting_mono hmay hp) (hi.admitted k r hr hphase)
      (Bool.and_eq_true_iff.mpr ⟨rfl, hbefore⟩) (by simp [PageRequest.waiting, hafter])
  have hcapacity := hi.capacity
  have hfree : ¬ MAX_SENSITIVE_CALLS ≤ h.sensitiveCalls.length := by omega
  have hanswered : ∀ a : RawAnswer, (h.rawAnswers ++ [(k, a)]).map Prod.fst =
      (forwardsOf g.trace).map Prod.fst := by
    intro a
    rw [List.map_append, hi.answered, htrace, forwardsOf_append, hevents, List.map_append]
    rfl
  have havailable : ∀ a : RawAnswer, a ≠ .logFull →
      ∀ x ∈ h.rawAnswers ++ [(k, a)], x.2 ≠ .logFull := by
    intro a ha x hx
    rcases List.mem_append.mp hx with hx | hx
    · exact hi.available x hx
    · rw [List.mem_singleton.mp hx]
      exact ha
  unfold ControlledHost.rawRequest
  rw [if_neg hfree]
  split
  · exact
      { inFlight := hi.inFlight
        capacity := le_trans (by dsimp only; omega) hi.capacity
        admitted := hi.admitted_mono hmay
        available := havailable _ nofun
        answered := hanswered _
        recorded := by
          rw [List.countP_append, ← hi.recorded]
          rfl }
  · exact
      { inFlight := hi.inFlight
        capacity := by
          rw [List.length_append, List.length_singleton]
          dsimp only
          omega
        admitted := hi.admitted_mono hmay
        available := havailable _ nofun
        answered := hanswered _
        recorded := by
          rw [List.countP_append, ← hi.recorded, List.length_append]
          rfl }

/-- A page request that is admitted. -/
theorem HostInvariant.page {h : ControlledHost P} (hi : HostInvariant h) (untrustedRequest : HostValue) :
    HostInvariant (h.pageRequest untrustedRequest) := by
  unfold ControlledHost.pageRequest
  split
  · exact hi
  · rename_i snapshot _
    split_ifs with hfull
    · exact hi
    · have hle : ∀ (g : GatewayState P) (p : PageRequest), p.unsettled = true →
          (h.pageRequests ++ [p]).countP (PageRequest.waiting g) ≤
            h.pageRequests.countP PageRequest.unsettled + 1 := by
        intro g p hp
        have hmono : (h.pageRequests ++ [p]).countP (PageRequest.waiting g) ≤
            (h.pageRequests ++ [p]).countP PageRequest.unsettled :=
          List.countP_mono_left fun p _ hp => (Bool.and_eq_true_iff.mp hp).1
        rwa [countP_unsettled_append hp] at hmono
      have hinFlight := hi.inFlight
      have hcapacity : ∀ (g : GatewayState P) (p : PageRequest), p.unsettled = true →
          h.sensitiveCalls.length + (h.pageRequests ++ [p]).countP (PageRequest.waiting g) ≤
            MAX_SENSITIVE_CALLS := by
        intro g p hp
        have := hle g p hp
        omega
      have hcount : ∀ p : PageRequest, p.unsettled = true →
          h.inFlightRequests + 1 = (h.pageRequests ++ [p]).countP PageRequest.unsettled := by
        intro p hp
        rw [countP_unsettled_append hp, hinFlight]
        rfl
      refine
        { inFlight := hcount _ rfl
          capacity := hcapacity _ _ rfl
          admitted := ?_
          available := hi.available
          answered := ?_
          recorded := hi.recorded }
      · intro k r hr hphase
        unfold requestStep at hr
        cases hclone : clonePlainRequest (.ofData snapshot) with
        | error e =>
          simp only [hclone] at hr
          exact List.mem_append_left _ (hi.admitted k r hr hphase)
        | ok value =>
          simp only [hclone] at hr
          rcases Nat.lt_trichotomy k h.gateway.requests.length with hk | rfl | hk
          · rw [List.getElem?_append_left hk] at hr
            exact List.mem_append_left _ (hi.admitted k r hr hphase)
          · exact List.mem_append_right _ (List.mem_singleton.mpr rfl)
          · rw [List.getElem?_eq_none (by rw [List.length_append]; simpa using hk)] at hr
            cases hr
      · have htrace : (requestStep h.gateway (.ofData snapshot)).trace = h.gateway.trace := by
          unfold requestStep
          split <;> rfl
        dsimp only
        rw [htrace]
        exact hi.answered

theorem hasSettled_mayForward {g : GatewayState P} {call : Option ℕ}
    (h : ControlledHost.hasSettled g call = true) : g.mayForward call = false := by
  cases call with
  | none => rfl
  | some k =>
    unfold ControlledHost.hasSettled at h
    rw [GatewayState.mayForward, Option.any_some]
    cases hr : g.requests[k]? with
    | none => rfl
    | some r =>
      simp only [hr, Option.map_some] at h
      split at h
      · rename_i heq
        rw [Option.any_some, Option.some.inj heq]
        rfl
      · cases h

theorem settle_eq_some {h h' : ControlledHost P} {i : ℕ} :
    h.settle i = some h' ↔ ∃ call, h.pageRequests[i]? = some ⟨call, false⟩ ∧
      ControlledHost.hasSettled h.gateway call = true ∧
      h' = { h with
        inFlightRequests := h.inFlightRequests - 1
        pageRequests := h.pageRequests.set i ⟨call, true⟩ } := by
  unfold ControlledHost.settle
  constructor
  · intro hs
    split at hs
    · rename_i call hp
      split_ifs at hs with hsettled
      · exact ⟨call, hp, hsettled, (Option.some.inj hs).symm⟩
    · cases hs
  · rintro ⟨call, hp, hsettled, rfl⟩
    simp only [hp, hsettled, if_true]

/-- The promise of a page request settles. -/
theorem HostInvariant.settle {h h' : ControlledHost P} (hi : HostInvariant h) {i : ℕ}
    (hs : h.settle i = some h') : HostInvariant h' := by
  obtain ⟨call, hp, hsettled, rfl⟩ := settle_eq_some.mp hs
  obtain ⟨hlt, hp⟩ := List.getElem?_eq_some_iff.mp hp
  have hmay := hasSettled_mayForward hsettled
  refine
    { inFlight := ?_
      capacity := ?_
      admitted := ?_
      available := hi.available
      answered := hi.answered
      recorded := hi.recorded }
  · have hpos : 0 < h.pageRequests.countP PageRequest.unsettled :=
      List.countP_pos_iff.mpr ⟨_, List.getElem_mem hlt, by rw [hp]; rfl⟩
    have hcount := hi.inFlight
    have hset := List.countP_set (p := PageRequest.unsettled) (a := ⟨call, true⟩) hlt
    rw [hp] at hset
    simp only [unsettled_mk, Bool.not_false, Bool.not_true, if_true, Bool.false_eq_true,
      if_false] at hset
    show h.inFlightRequests - 1 = (h.pageRequests.set i ⟨call, true⟩).countP PageRequest.unsettled
    omega
  · have hset := List.countP_set (p := PageRequest.waiting h.gateway) (a := ⟨call, true⟩) hlt
    rw [hp] at hset
    simp only [waiting_mk, hmay, Bool.and_false, Bool.false_eq_true, if_false] at hset
    have hcapacity := hi.capacity
    show h.sensitiveCalls.length +
      (h.pageRequests.set i ⟨call, true⟩).countP (PageRequest.waiting h.gateway) ≤ _
    omega
  · intro k r hr hphase
    have hmem := hi.admitted k r hr hphase
    obtain ⟨j, hj, heq⟩ := List.getElem_of_mem hmem
    have hne : i ≠ j := by
      rintro rfl
      obtain rfl : call = some k := congrArg PageRequest.call (hp.symm.trans heq)
      rw [GatewayState.mayForward_some.mpr ⟨r, hr, hphase⟩] at hmay
      cases hmay
    refine List.mem_of_getElem? (i := j) ?_
    rw [List.getElem?_set_ne hne, List.getElem?_eq_getElem hj, heq]

end Host

section Run

variable {U : UrlParser} {N : Normalization} {S : Hash} {P : DateParser} {b : Bootstrap U}
variable {providerResult : JsString}

/-- A step of the gateway, with what the provider of the host does. -/
theorem HostInvariant.advance {h h' : ControlledHost P} {action : GatewayAction}
    (hi : HostInvariant h) (hs : Guard.advance U N S b h action = some h')
    (hrequest : ∀ v, action ≠ .request v) : HostInvariant h' := by
  obtain ⟨g, hg, rfl⟩ := Option.map_eq_some_iff.mp hs
  obtain ⟨k, r, hr, hadvances⟩ := gatewayStep_forwards hrequest hg
  obtain ⟨hmay, events, htrace, hforwards⟩ := hadvances.mayForward hr
  have hdrop : g.trace.drop h.gateway.trace.length = events := by
    rw [htrace, List.drop_left]
  unfold ControlledHost.deliver
  rw [hdrop]
  rcases hforwards with hnil | ⟨v, hone, hbefore, hafter⟩
  · rw [hnil]
    exact hi.quiet htrace hnil hmay
  · rw [hone]
    exact hi.forward htrace hone hmay hbefore hafter

/-- Every step keeps the invariant. -/
theorem hostStep_invariant {h h' : ControlledHost P} {action : HostAction} (hi : HostInvariant h)
    (hs : hostStep U N S b providerResult h action = some h') : HostInvariant h' := by
  cases action with
  | page untrustedRequest =>
    cases hs
    exact hi.page untrustedRequest
  | sample k =>
    simp only [hostStep] at hs
    split at hs
    · refine HostInvariant.advance ?_ hs nofun
      exact hi.congr rfl rfl rfl rfl rfl
    · cases hs
  | clock k answer => exact hi.advance hs nofun
  | supplier k answer capability randomBytes => exact hi.advance hs nofun
  | resume k => exact hi.advance hs nofun
  | provider k =>
    obtain ⟨a, -, hs⟩ := Option.bind_eq_some_iff.mp hs
    exact hi.advance hs nofun
  | settle i => exact hi.settle hs
  | setTrustedOrigin value =>
    simp only [hostStep] at hs
    split at hs
    all_goals cases hs
    · exact hi.congr rfl rfl rfl rfl rfl
    · exact hi
  | setChainId value =>
    simp only [hostStep] at hs
    split at hs
    all_goals cases hs
    · exact hi.congr rfl rfl rfl rfl rfl
    · exact hi
  | setAccounts value =>
    simp only [hostStep] at hs
    split at hs
    all_goals cases hs
    · exact hi.congr rfl rfl rfl rfl rfl
    · exact hi

/-- In every run the log holds the calls recorded, one for each page request that has called the
    provider and was captured; it is never full when the provider is called, and the place of a
    page request is held until its promise has settled. -/
theorem controlledHost_capacity {origin : JsString} {chainId : ChainId} {accounts : List Address}
    {actions : List HostAction} {h : ControlledHost P}
    (hrun : hostRun U N S b providerResult (.initial origin chainId accounts) actions = some h) :
    h.sensitiveCalls.length ≤ MAX_SENSITIVE_CALLS ∧
      (∀ a ∈ h.rawAnswers, a.2 ≠ .logFull) ∧
      h.inFlightRequests = h.pageRequests.countP PageRequest.unsettled ∧
      h.rawAnswers.map Prod.fst = (forwardsOf h.gateway.trace).map Prod.fst ∧
      h.sensitiveCalls.length = h.rawAnswers.countP (fun a => a.2.isRecorded) ∧
      ∀ i call, h.pageRequests[i]? = some ⟨call, false⟩ →
        ControlledHost.hasSettled h.gateway call = true →
        ∃ h', hostStep U N S b providerResult h (.settle i) = some h' ∧
          h'.inFlightRequests = h.inFlightRequests - 1 ∧ h'.sensitiveCalls = h.sensitiveCalls ∧
          h'.pageRequests = h.pageRequests.set i ⟨call, true⟩ := by
  have hi : HostInvariant h :=
    Machine.run_invariant (fun _ _ _ hi hs => hostStep_invariant hi hs) hrun
      (initial_hostInvariant origin chainId accounts)
  refine ⟨le_trans (Nat.le_add_right _ _) hi.capacity, hi.available, hi.inFlight, hi.answered,
    hi.recorded, ?_⟩
  intro i call hp hsettled
  exact ⟨_, settle_eq_some.mpr ⟨call, hp, hsettled, rfl⟩, rfl, rfl, rfl⟩

end Run

/-! ## The gateway of a host -/

/-- The calls of the provider stand in the trace once for each request, which may then not call
    it again. -/
structure ForwardsOnce {P : DateParser} (g : GatewayState P) : Prop where
  nodup : ((forwardsOf g.trace).map Prod.fst).Nodup
  spent : ∀ k ∈ (forwardsOf g.trace).map Prod.fst,
    k < g.requests.length ∧ g.mayForward (some k) = false

section Refinement

variable {U : UrlParser} {N : Normalization} {S : Hash} {P : DateParser} {b : Bootstrap U}
variable {providerResult : JsString}

theorem ForwardsOnce.request {g : GatewayState P} (hg : ForwardsOnce g)
    (untrustedRequest : HostValue) : ForwardsOnce (requestStep g untrustedRequest) := by
  unfold requestStep
  split
  · exact hg
  · refine ⟨hg.nodup, fun k hk => ?_⟩
    obtain ⟨hlt, hmay⟩ := hg.spent k hk
    refine ⟨by rw [List.length_append]; omega, ?_⟩
    rwa [GatewayState.mayForward, Option.any_some, List.getElem?_append_left hlt]

end Refinement

/-! ## A run -/

def sampleEvmAccount : Address := ⟨sampleAccount, by decide⟩

/-- A page request with a method that the guard does not know, up to its settlement. -/
def sampleHostActions : List HostAction :=
  [.page (.ofData (.object [(js "method", .string (js "eth_accounts"))])),
    .sample 0, .sample 0, .sample 0, .sample 0, .settle 0]

theorem sampleLifetime : 1000 ≤ 60000 ∧ 60000 ≤ 300000 := by decide

/-- The sample host after some actions. -/
def sampleHostRun (actions : List HostAction) : Option (ControlledHost Date.isoParser) :=
  (normalizePolicy sampleUrls (.ofData samplePolicy)).toOption.bind fun p =>
    hostRun sampleUrls devanagari sha256 ⟨p, 60000, sampleLifetime⟩ (List.replicate 66 0x30)
      (.initial (js "https://app.example") (.ofNat 1) [sampleEvmAccount]) actions

theorem sampleHostRun_summary :
    (sampleHostRun sampleHostActions).map (fun h => (h.contextReads, h.inFlightRequests)) =
      some (2, 0) := by
  decide +kernel

theorem controlledHost_capacity_unknownMethod :
    ∃ p h, hostRun sampleUrls devanagari sha256 ⟨p, 60000, by decide⟩ (List.replicate 66 0x30)
        (.initial (P := Date.isoParser) (js "https://app.example") (.ofNat 1) [sampleEvmAccount])
        sampleHostActions = some h ∧
      h.sensitiveCalls.length ≤ MAX_SENSITIVE_CALLS ∧ (∀ a ∈ h.rawAnswers, a.2 ≠ .logFull) ∧
      h.inFlightRequests = 0 ∧ h.pageRequests.countP PageRequest.unsettled = 0 := by
  obtain ⟨h, hrun, hsummary⟩ := Option.map_eq_some_iff.mp sampleHostRun_summary
  obtain ⟨p, -, hrun⟩ := Option.bind_eq_some_iff.mp hrun
  obtain ⟨hcalls, havailable, hinFlight, -⟩ := controlledHost_capacity hrun
  have hzero : h.inFlightRequests = 0 := congrArg Prod.snd hsummary
  exact ⟨p, h, hrun, hcalls, havailable, hzero, by omega⟩

end OpenRisk.Guard
