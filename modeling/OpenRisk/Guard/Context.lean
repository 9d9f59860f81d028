import OpenRisk.Core.Gate
import OpenRisk.Guard.Policy
import OpenRisk.Json.Bytes
import OpenRisk.Sdk.CanonicalForm

/-!
# Trusted contexts

Model of `trusted-context-capture.mjs` and of the sampling functions of `provider.mjs`
under `applications/blockchain-digital-assets/wallet-guard/`. A trusted context is read
with four calls of callbacks: the origin, the provider context twice, and the origin
again. Each call may run other code, so `Sampling` is the place where the reading waits
and `Sampling.resume` takes one answer.

Results:
* `Sampling.resume_samples`: a reading that succeeds has seen the same context twice.
* `commitContext_eq`: equal commitments are of equal contexts, or show a collision.
-/

namespace OpenRisk.Guard

open Text Sdk
open OpenRisk.Core

/-! ## Errors -/

/-- `WalletGuardProviderError`. -/
structure ProviderError where
  code : JsString
  message : JsString
  deriving DecidableEq

/-- What a call of `gateway.request` rejects with. -/
inductive GatewayError where
  | provider (e : ProviderError)
  | intent (f : IntentFailure)
  | policy (e : PolicyError)
  | issue (e : IssueError)
  | gate (e : GateError)
  /-- An error that is not of the repository: a getter or trap that throws, an invalid date. -/
  | foreign

def providerFail {α : Type} (code message : String) : Except GatewayError α :=
  .error (.provider ⟨js code, js message⟩)

/-! ## Capture -/

/-- A lower-case hexadecimal digit. -/
def isLowerHexUnit (u : UInt16) : Bool := isHexUnit u && !isUpperAlpha u

/-- `CHAIN_ID_PATTERN` of the capture. -/
def CHAIN_ID_PATTERN (s : JsString) : Bool :=
  hasHexMark s && isCanonicalNumeral isLowerHexUnit (s.drop 2)

/-- `ACCOUNT_PATTERN`. -/
def ACCOUNT_PATTERN (s : JsString) : Bool :=
  hasHexMark s && (s.drop 2).length = 40 && (s.drop 2).all isLowerHexUnit

/-- `FAILURE_CODE_PATTERN`. -/
def FAILURE_CODE_PATTERN (s : JsString) : Bool :=
  match s with
  | [] => false
  | u :: rest =>
    isUpperAlpha u && rest.all (fun v => isUpperAlpha v || Json.isDigit v || v = 0x5F) &&
      2 ≤ rest.length && rest.length ≤ 63

/-- `WalletGuardTrustedContextError`. -/
structure TrustedContextError where
  code : JsString
  message : JsString
  deriving DecidableEq

def contextFail {α : Type} (code : String) (message : JsString) : Except TrustedContextError α :=
  .error ⟨js code, message⟩

/-- A call of one of the two terminal callbacks. -/
inductive TerminalCall where
  | deliverContext (chainId account : HostValue)
  | reportFailure (code : HostValue)

/-- How the context source ends. -/
inductive SourceEnd where
  | threw
  | returned (value : HostValue)

/-- What the context source does when it is called. -/
structure SourceAnswer where
  calls : List TerminalCall
  ending : SourceEnd

/-- `patternMatches(runtime, pattern, value)`, with the text that matches. -/
def matching (pattern : JsString → Bool) (value : HostValue) : Option JsString :=
  match value with
  | .string s => if pattern s then some s else none
  | _ => none

/-- What the first terminal call leaves behind. -/
def firstTerminal (call : TerminalCall) : Except TrustedContextError (JsString × JsString) :=
  match call with
  | .deliverContext chainId account =>
    match matching CHAIN_ID_PATTERN chainId, matching ACCOUNT_PATTERN account with
    | some c, some a => .ok (c, a)
    | _, _ => contextFail "POMRX_WG_CONTEXT_E_INVALID"
        (js "trusted context source emitted invalid context")
  | .reportFailure code => contextFail "POMRX_WG_CONTEXT_E_SOURCE_FAILURE"
      (js "trusted context source reported " ++
        (matching FAILURE_CODE_PATTERN code).getD (js "CONTEXT_FAILURE"))

/-- `captureWalletGuardTrustedContext(captureContext, trustedRuntime)` with a complete
    runtime. -/
def captureWalletGuardTrustedContext (answer : SourceAnswer) :
    Except TrustedContextError (JsString × JsString) :=
  if 1 < answer.calls.length then
    contextFail "POMRX_WG_CONTEXT_E_CONTRADICTORY"
      (js "trusted context source emitted duplicate or contradictory terminal callbacks")
  else
    match answer.ending with
    | .threw => contextFail "POMRX_WG_CONTEXT_E_SOURCE_FAILURE" (js "trusted context source threw")
    | .returned .undefined =>
      match answer.calls with
      | [] => contextFail "POMRX_WG_CONTEXT_E_MISSING"
          (js "trusted context source emitted no terminal callback")
      | call :: _ => firstTerminal call
    | .returned _ => contextFail "POMRX_WG_CONTEXT_E_RETURN_VALUE"
        (js "trusted context source must return undefined; return values are not evidence")

/-- The chain and the account of a provider. -/
@[ext] structure ProviderContext where
  chainId : ChainId
  account : Address
  deriving DecidableEq

/-- The `catch` block of `captureProviderContext`. -/
def providerContextError (e : TrustedContextError) : GatewayError :=
  if e.code = js "POMRX_WG_CONTEXT_E_CONTRADICTORY" then
    .provider ⟨js "POMRX_WG_PROVIDER_E_CONTEXT_UNSTABLE",
      js "trusted context source emitted contradictory evidence"⟩
  else if e.code = js "POMRX_WG_CONTEXT_E_INVALID" then
    .provider ⟨js "POMRX_WG_PROVIDER_E_CONTEXT_INVALID",
      js "trusted context source emitted invalid evidence"⟩
  else .provider ⟨js "POMRX_WG_PROVIDER_E_CONTEXT_UNAVAILABLE",
    js "trusted context source was unavailable"⟩

/-- `captureProviderContext(provider, captureContext)`. -/
def captureProviderContext (answer : SourceAnswer) : Except GatewayError ProviderContext := do
  let (chain, acct) ← (captureWalletGuardTrustedContext answer).mapError providerContextError
  let chainId ← (normalizeChainId (some (.string chain))).mapError fun _ =>
    .provider ⟨js "POMRX_WG_PROVIDER_E_CONTEXT_INVALID",
      js "trusted context returned an invalid chain id"⟩
  let account ← (normalizeEvmAddress (some (.string acct)) (js "trusted context account")).mapError
    fun _ => .provider ⟨js "POMRX_WG_PROVIDER_E_CONTEXT_INVALID",
      js "trusted context returned an invalid account"⟩
  .ok { chainId, account }

/-- `canonicalOrigin(value)`. -/
def canonicalOrigin (U : UrlParser) (value : HostValue) : Except GatewayError JsString :=
  match value with
  | .string s =>
    if s.length < 8 ∨ 512 < s.length then
      providerFail "POMRX_WG_PROVIDER_E_ORIGIN_INVALID" "trusted origin is invalid"
    else checkOrigin U s
      (.provider ⟨js "POMRX_WG_PROVIDER_E_ORIGIN_INVALID",
        js "trusted origin must be an absolute HTTP(S) origin"⟩)
      (.provider ⟨js "POMRX_WG_PROVIDER_E_ORIGIN_INVALID", js "trusted origin must be canonical"⟩)
  | _ => providerFail "POMRX_WG_PROVIDER_E_ORIGIN_INVALID" "trusted origin is invalid"

/-- `sampleTrustedOrigin(captureTrustedOrigin)`. -/
def sampleTrustedOrigin (U : UrlParser) (answer : SyncAnswer) : Except GatewayError JsString :=
  match answer with
  | .throws => providerFail "POMRX_WG_PROVIDER_E_ORIGIN_INVALID" "trusted origin capture failed"
  | .thenable => providerFail "POMRX_WG_PROVIDER_E_ORIGIN_INVALID"
      "trusted origin capture must be synchronous"
  | .thenThrows => .error .foreign
  | .value v => canonicalOrigin U v

/-! ## Sampling -/

/-- The result of `sampleTrustedContext`. -/
structure TrustedContext where
  origin : JsString
  chainId : ChainId
  account : Address
  deriving DecidableEq

/-- A sample that a callback gave and that was well formed. -/
inductive Sample where
  | origin (text : JsString)
  | provider (context : ProviderContext)
  deriving DecidableEq

/-- An answer of one of the two callbacks. -/
inductive SampleAnswer where
  | origin (answer : SyncAnswer)
  | provider (answer : SourceAnswer)

/-- Where `sampleTrustedContext` waits for a callback. -/
inductive Sampling where
  | originBefore
  | firstContext (origin : JsString)
  | secondContext (origin : JsString) (first : ProviderContext)
  | originAfter (origin : JsString) (context : ProviderContext)

/-- A reading that goes on or has ended. -/
inductive Progress where
  | waiting (sampling : Sampling)
  | failed (error : GatewayError)
  | done (context : TrustedContext)

def providerChanged : GatewayError :=
  .provider ⟨js "POMRX_WG_PROVIDER_E_CONTEXT_UNSTABLE",
    js "provider chain/account context changed during sampling"⟩

def originChanged : GatewayError :=
  .provider ⟨js "POMRX_WG_PROVIDER_E_CONTEXT_UNSTABLE",
    js "trusted origin changed during provider sampling"⟩

/-- The answer was refused, or it is a sample with which the reading goes on. -/
def proceed {α : Type} (reading : Except GatewayError α) (sample : α → Sample)
    (next : α → Progress) : List Sample × Progress :=
  match reading with
  | .error e => ([], .failed e)
  | .ok a => ([sample a], next a)

/-- One answer to `sampleTrustedContext(captureTrustedOrigin, provider, captureContext)`: the
    sample it gave, if any, and the progress; `none` where the reading waits for the other
    callback. -/
def Sampling.resume (U : UrlParser) (s : Sampling) (answer : SampleAnswer) :
    Option (List Sample × Progress) :=
  match s, answer with
  | .originBefore, .origin a =>
    some (proceed (sampleTrustedOrigin U a) .origin fun o => .waiting (.firstContext o))
  | .firstContext o, .provider a =>
    some (proceed (captureProviderContext a) .provider fun c => .waiting (.secondContext o c))
  | .secondContext o first, .provider a =>
    some (proceed (captureProviderContext a) .provider fun second =>
      if first.chainId ≠ second.chainId ∨ first.account ≠ second.account then
        .failed providerChanged
      else .waiting (.originAfter o first))
  | .originAfter o c, .origin a =>
    some (proceed (sampleTrustedOrigin U a) .origin fun o' =>
      if o ≠ o' then .failed originChanged else .done ⟨o, c.chainId, c.account⟩)
  | _, _ => none

/-- The samples taken so far. -/
def Sampling.samples : Sampling → List Sample
  | .originBefore => []
  | .firstContext o => [.origin o]
  | .secondContext o c => [.origin o, .provider c]
  | .originAfter o c => [.origin o, .provider c, .provider c]

/-- The four samples of a context. -/
def TrustedContext.samples (c : TrustedContext) : List Sample :=
  [.origin c.origin, .provider ⟨c.chainId, c.account⟩, .provider ⟨c.chainId, c.account⟩,
    .origin c.origin]

/-- The samples that a progress stands for, if it has not failed. -/
def Progress.samples : Progress → Option (List Sample)
  | .waiting s => some s.samples
  | .failed _ => none
  | .done c => some c.samples

theorem proceed_samples {α : Type} {reading : Except GatewayError α} {sample : α → Sample}
    {next : α → Progress} {before new : List Sample} {progress : Progress} {all : List Sample}
    (h : proceed reading sample next = (new, progress)) (hall : progress.samples = some all)
    (hnext : ∀ a, (next a).samples = some all → all = before ++ [sample a]) : all = before ++ new := by
  unfold proceed at h
  split at h
  · cases h
    cases hall
  · rename_i a
    cases h
    exact hnext a hall

/-- A reading keeps account of what it has sampled: it succeeds only with one context,
    sampled twice. -/
theorem Sampling.resume_samples {U : UrlParser} {s : Sampling} {answer : SampleAnswer}
    {new all : List Sample} {progress : Progress} (h : s.resume U answer = some (new, progress))
    (hall : progress.samples = some all) : all = s.samples ++ new := by
  unfold Sampling.resume at h
  split at h
  · refine proceed_samples (Option.some.inj h) hall fun o ho => ?_
    exact (Option.some.inj ho).symm
  · refine proceed_samples (Option.some.inj h) hall fun c hc => ?_
    exact (Option.some.inj hc).symm
  · rename_i o first a
    refine proceed_samples (Option.some.inj h) hall fun second hsecond => ?_
    split_ifs at hsecond with hchanged
    · cases hsecond
    · simp only [not_or, not_not] at hchanged
      have heq : first = second := ProviderContext.ext hchanged.1 hchanged.2
      rw [← Option.some.inj hsecond, ← heq]
      rfl
  · rename_i o c a
    refine proceed_samples (Option.some.inj h) hall fun o' ho' => ?_
    split_ifs at ho' with hchanged
    · cases ho'
    · rw [← Option.some.inj ho', ← not_not.mp hchanged]
      rfl
  · cases h

/-! ## Commitments -/

def WALLET_GUARD_CONTEXT_SCHEMA_VERSION : JsString := js "wallet_guard_context/0.1"

def CONTEXT_COMMIT_DOMAIN : JsString := js "swisstokint:pom-rx-wallet-guard-context:v1:"

/-- The text that `commitContext(context, policyHash)` hashes. -/
def contextText (context : TrustedContext) (policyHash : HashText) : JsString :=
  CONTEXT_COMMIT_DOMAIN ++ canonicalRecord [
    ("account", Json.quote context.account.val),
    ("chain_id", Json.quote context.chainId.val),
    ("origin", Json.quote context.origin),
    ("policy_hash", Json.quote policyHash.val),
    ("schema_version", Json.quote WALLET_GUARD_CONTEXT_SCHEMA_VERSION)]

/-- `commitContext(context, policyHash)`. -/
def commitContext (S : Hash) (context : TrustedContext) (policyHash : HashText) : HashText :=
  sha256Hex S (contextText context policyHash)

/-- A record with plain names is the compact text of an object. -/
theorem canonicalRecord_eq_print (fields : List (String × Json))
    (hnames : ∀ f ∈ fields, Json.quote (js f.1) = 0x22 :: (js f.1 ++ [0x22])) :
    canonicalRecord (fields.map fun f => (f.1, Json.print f.2)) =
      Json.print (.object (fields.map fun f => (js f.1, f.2))) := by
  rw [canonicalRecord, Json.print, ← joinComma_printMembers, List.map_map, List.map_map]
  congr 3
  refine List.map_congr_left fun f hf => ?_
  simp [hnames f hf]

/-- The value whose text `commitContext` hashes. -/
def contextJson (context : TrustedContext) (policyHash : HashText) : Json :=
  .object [(js "account", .string context.account.val), (js "chain_id", .string context.chainId.val),
    (js "origin", .string context.origin), (js "policy_hash", .string policyHash.val),
    (js "schema_version", .string WALLET_GUARD_CONTEXT_SCHEMA_VERSION)]

theorem contextText_eq (context : TrustedContext) (policyHash : HashText) :
    contextText context policyHash =
      CONTEXT_COMMIT_DOMAIN ++ Json.print (contextJson context policyHash) := by
  have := canonicalRecord_eq_print [("account", .string context.account.val),
    ("chain_id", .string context.chainId.val), ("origin", .string context.origin),
    ("policy_hash", .string policyHash.val),
    ("schema_version", .string WALLET_GUARD_CONTEXT_SCHEMA_VERSION)]
    (by simp only [List.forall_mem_cons, List.not_mem_nil, false_imp_iff, implies_true]; decide)
  exact congrArg (CONTEXT_COMMIT_DOMAIN ++ ·) this

theorem contextJson_integral (context : TrustedContext) (policyHash : HashText) :
    (contextJson context policyHash).Integral := by
  simp [contextJson, Json.Integral, Json.IntegralMembers]

theorem CONTEXT_COMMIT_DOMAIN_ascii : ∀ u ∈ CONTEXT_COMMIT_DOMAIN, u.toNat < 0x80 := by
  exact ascii_of_all (by decide +kernel)

/-- Bytes of commitment texts determine the context and the policy hash. -/
theorem contextText_injective {c c' : TrustedContext} {p p' : HashText}
    (h : utf8Encode (contextText c p) = utf8Encode (contextText c' p')) : c = c' ∧ p = p' := by
  have hscalar : ∀ c p, Scalar (codePoints (contextText c p)) := by
    intro c p
    rw [contextText_eq, codePoints_append_ascii CONTEXT_COMMIT_DOMAIN_ascii, scalar_append]
    exact ⟨scalar_map_unitPoint CONTEXT_COMMIT_DOMAIN_ascii,
      Json.scalar_print _ (contextJson_integral c p)⟩
  have htext := utf8Encode_injective (hscalar c p) (hscalar c' p') h
  rw [contextText_eq, contextText_eq, List.append_right_inj] at htext
  have hjson := Json.print_injective (contextJson_integral c p) (contextJson_integral c' p') htext
  simp only [contextJson, Json.object.injEq, List.cons.injEq, Prod.mk.injEq, Json.string.injEq,
    true_and, and_true] at hjson
  obtain ⟨haccount, hchain, horigin, hpolicy⟩ := hjson
  refine ⟨?_, Subtype.ext hpolicy⟩
  obtain ⟨o, ch, a⟩ := c
  obtain ⟨o', ch', a'⟩ := c'
  rw [TrustedContext.mk.injEq]
  exact ⟨horigin, Subtype.ext hchain, Subtype.ext haccount⟩

/-- Equal commitments are of equal contexts under equal policies, or show a collision. -/
theorem commitContext_eq {S : Hash} {c c' : TrustedContext} {p p' : HashText}
    (h : commitContext S c p = commitContext S c' p') :
    (c = c' ∧ p = p') ∨
      S.Collides (utf8Encode (contextText c p)) (utf8Encode (contextText c' p')) :=
  (utf8Encode_eq_or_collides h).imp_left contextText_injective

end OpenRisk.Guard
