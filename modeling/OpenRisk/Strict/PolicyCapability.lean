import OpenRisk.Machine.Run
import OpenRisk.Strict.Policy

/-!
# Policy capabilities

Model of `withFreshPomRxPolicyCapability`, `inspectFreshPomRxPolicyCapabilityHostPins`,
`bindFreshPomRxPolicyCapability` and `consumeFreshPomRxPolicyBinding` of
`sdk/typescript/internal/pom-rx-v01-policy-capability.mjs` (lines 266–374).

The module keeps one record for each capability and one for each binding. A program calls
the operations in any order, from inside callbacks or from outside, with any capability or
binding it has seen. The open callbacks form a stack. When a callback returns a value, the
module reads `result.then` before the capability is made inactive; a getter is a piece of
the program that runs then. Such a frame is `probing`. The arguments of an operation are
data: reading their properties runs no code.

Results:
* `policyCapability_single_use_and_scope`: single use, scope and acceptance in every run in
  which no capability is bound or consumed while its own result is read.
* `not_policyCapability_scope`: a run in which one is.
-/

namespace OpenRisk.Strict

open Text Sdk PomRx Machine

/-! ## Capabilities -/

/-- What a capability gives access to. -/
structure Grant (P : DateParser) where
  evaluationTime : UtcInstant P
  policy : Policy P
  artifactManifestPath : JsString
  expectedArtifactManifestSha256 : Option JsValue

/-- An entry of `capabilityStates`. -/
structure CapabilityState (P : DateParser) extends Grant P where
  active : Bool
  used : Bool

/-- The value of a binding. -/
structure BindingValue (P : DateParser) where
  effectivePolicyId : PolicyText
  effectivePolicyVersion : PolicyText
  effectivePolicySha256 : HashText
  trustedEvaluationInstant : JsString
  artifactManifestPath : JsString
  expectedArtifactManifestSha256 : Option JsValue
  selectedVerifier : AcceptedVerifier
  executionEnvironment : RuntimeConstraints

/-- An entry of `bindingStates`; `capability` is the position of its `capabilityState`. -/
structure BindingState (P : DateParser) where
  capability : ℕ
  used : Bool
  value : BindingValue P

/-- Whether the callback of a frame runs, or its result is read. -/
inductive Stage where
  | running
  | probing
  deriving DecidableEq

/-- A call of `withFreshPomRxPolicyCapability` that has not returned. -/
structure Frame where
  capability : ℕ
  stage : Stage
  deriving DecidableEq

/-- The state of the module, and the open calls, the innermost first. -/
structure State (P : DateParser) where
  capabilities : List (CapabilityState P) := []
  bindings : List (BindingState P) := []
  stack : List Frame := []

/-- The state before the first operation. -/
def State.initial (P : DateParser) : State P := {}

def CONFIG_KEYS : List JsString :=
  ["policyPath", "expectedPolicySha256", "trustedEvaluationInstant", "artifactManifestPath",
    "expectedArtifactManifestSha256"].map js

/-- What `readFileSync` finds. -/
abbrev Files := JsString → Option (List UInt8)

section Operations

variable (S : Hash) {P : DateParser}

/-- `withFreshPomRxPolicyCapability(config, callback)` before the callback is called. -/
def openGrant (P : DateParser) (files : Files) (config : Option JsValue) (isFunction : Bool) :
    Except StrictError (Grant P) := do
  assertExactKeysAs config CONFIG_KEYS .policyInvalid (js "trusted bootstrap config")
  requireAs .policyInvalid isFunction (js "Capability callback is required")
  let read := fun key => config.bind fun c => c.get key
  let current ← readPinnedJson S files (read (js "policyPath")) (read (js "expectedPolicySha256"))
    (js "local verification policy") MAX_POLICY_BYTES
  let policy ← validatePolicy P current.2 current.1
  let evaluationTime ← parseCanonicalInstant P (read (js "trustedEvaluationInstant"))
    .policyTimeUnavailable
  match read (js "artifactManifestPath") with
  | some (.string path) => do
    requireAs .policyInvalid
      (isAbsolute path && testPattern HASH_PATTERN (read (js "expectedArtifactManifestSha256")))
      (js "Artifact manifest host pin is invalid")
    .ok ⟨evaluationTime, policy, path, read (js "expectedArtifactManifestSha256")⟩
  | _ => throwPomRxV01Strict .policyInvalid (js "Artifact manifest host pin is invalid")

/-- `capabilityStates.get(capability)` of a value: `none` for a value that is no capability. -/
def State.capabilityState (s : State P) (capability : Option ℕ) : Option (ℕ × CapabilityState P) :=
  capability.bind fun c => (s.capabilities[c]?).map fun state => (c, state)

/-- The checks of `inspect` and `bind`. -/
def State.fresh (s : State P) (capability : Option ℕ) : Except StrictError (ℕ × CapabilityState P) :=
  match s.capabilityState capability with
  | none => throwPomRxV01Strict .policyCapabilityRequired (js "A branded policy capability is required")
  | some (c, state) => do
    requireAs .policyCapabilityStale (state.active && !state.used)
      (js "Policy capability is stale, reused or invalidated")
    .ok (c, state)

/-- `inspectFreshPomRxPolicyCapabilityHostPins(capability)`. -/
def State.inspect (s : State P) (capability : Option ℕ) :
    Except StrictError (JsString × Option JsValue) :=
  (s.fresh capability).map fun (_, state) =>
    (state.artifactManifestPath, state.expectedArtifactManifestSha256)

/-- The part of `bindFreshPomRxPolicyCapability` after `state.used = true`. -/
def Grant.select (g : Grant P) (tuple runtime : Option JsValue) : Except StrictError (BindingValue P) := do
  let tuple ← validateTuple tuple
  let runtime ← validateRuntimeConstraints runtime .runtimeEnvironmentUnsupported
  match g.policy.withdrawnVerifiers.find? fun entry =>
      tupleIdentity entry.toVerifierTuple = tupleIdentity tuple &&
        entry.effectiveAt.ms ≤ g.evaluationTime.ms with
  | some _ => throwPomRxV01Strict .verifierWithdrawn (js "Selected verifier tuple is withdrawn")
  | none =>
    match g.policy.acceptedVerifiers.find? fun entry =>
        tupleIdentity entry.toVerifierTuple = tupleIdentity tuple with
    | none =>
      throwPomRxV01Strict .verifierNotAllowed (js "Selected verifier tuple is not allowlisted")
    | some accepted => do
      requireAs .runtimeEnvironmentUnsupported
        (accepted.runtimeConstraints.stringify = runtime.stringify)
        (js "Runtime constraints do not match policy")
      .ok {
        effectivePolicyId := g.policy.policyId
        effectivePolicyVersion := g.policy.policyVersion
        effectivePolicySha256 := g.policy.policySha256
        trustedEvaluationInstant := g.evaluationTime.text
        artifactManifestPath := g.artifactManifestPath
        expectedArtifactManifestSha256 := g.expectedArtifactManifestSha256
        selectedVerifier := accepted
        executionEnvironment := runtime }

/-- `state.used = true` of a capability. -/
def State.use (s : State P) (c : ℕ) : State P :=
  { s with capabilities := s.capabilities.modify c fun state => { state with used := true } }

/-- `bindFreshPomRxPolicyCapability(capability, tuple, runtime)`: the new state, and the
    position of the binding. -/
def State.bind (s : State P) (capability : Option ℕ) (tuple runtime : Option JsValue) :
    State P × Except StrictError ℕ :=
  match s.fresh capability with
  | .error e => (s, .error e)
  | .ok (c, state) =>
    match state.toGrant.select tuple runtime with
    | .error e => (s.use c, .error e)
    | .ok value =>
      ({ s.use c with bindings := s.bindings ++ [⟨c, false, value⟩] }, .ok s.bindings.length)

/-- `bindingState.capabilityState.active`. -/
def State.isActive (s : State P) (c : ℕ) : Bool := (s.capabilities[c]?).any CapabilityState.active

/-- `consumeFreshPomRxPolicyBinding(binding)`. -/
def State.consume (s : State P) (binding : Option ℕ) : State P × Except StrictError (BindingValue P) :=
  match binding.bind fun b => (s.bindings[b]?).map fun state => (b, state) with
  | none =>
    (s, throwPomRxV01Strict .policyCapabilityRequired (js "A branded policy binding is required"))
  | some (b, state) =>
    if s.isActive state.capability && !state.used then
      ({ s with bindings := s.bindings.modify b fun state => { state with used := true } }, .ok state.value)
    else
      (s, throwPomRxV01Strict .policyCapabilityStale
        (js "Policy binding is stale, reused or invalidated"))

/-- The `finally` of `withFreshPomRxPolicyCapability`: the innermost call ends. -/
def State.close (s : State P) (c : ℕ) (rest : List Frame) : State P where
  capabilities := s.capabilities.modify c fun state => { state with active := false }
  bindings := s.bindings
  stack := rest

/-- What a program does. -/
inductive Action where
  /-- Call `withFreshPomRxPolicyCapability`. -/
  | call (files : Files) (config : Option JsValue) (isFunction : Bool)
  | inspect (capability : Option ℕ)
  | bind (capability : Option ℕ) (tuple runtime : Option JsValue)
  | consume (binding : Option ℕ)
  /-- The innermost callback returns; a value that is falsy is not read. -/
  | returns (truthy : Bool)
  /-- `result.then` of the innermost callback has been read. -/
  | probed
  /-- The innermost callback, or a getter `then` of its result, throws. -/
  | throws

/-- One step of a program. -/
def step (s : State P) : Action → Option (State P)
  | .call files config isFunction =>
    match openGrant S P files config isFunction with
    | .error _ => some s
    | .ok g => some { s with
        capabilities := s.capabilities ++ [⟨g, true, false⟩]
        stack := ⟨s.capabilities.length, .running⟩ :: s.stack }
  | .inspect _ => some s
  | .bind capability tuple runtime => some (s.bind capability tuple runtime).1
  | .consume binding => some (s.consume binding).1
  | .returns truthy =>
    match s.stack with
    | ⟨c, .running⟩ :: rest =>
      some (if truthy then { s with stack := ⟨c, .probing⟩ :: rest } else s.close c rest)
    | _ => none
  | .probed =>
    match s.stack with
    | ⟨c, .probing⟩ :: rest => some (s.close c rest)
    | _ => none
  | .throws =>
    match s.stack with
    | ⟨c, _⟩ :: rest => some (s.close c rest)
    | [] => none

end Operations

/-! ## What an operation does -/

section Effects

variable {S : Hash} {P : DateParser} {s s' : State P}

theorem fresh_eq_ok {capability : Option ℕ} {c : ℕ} {state : CapabilityState P} :
    s.fresh capability = .ok (c, state) ↔ capability = some c ∧ s.capabilities[c]? = some state ∧
      state.active = true ∧ state.used = false := by
  unfold State.fresh State.capabilityState
  cases capability with
  | none => simp [throwPomRxV01Strict]
  | some i =>
    cases hi : s.capabilities[i]? with
    | none =>
      simp only [hi, Option.bind_some, Option.map_none, throwPomRxV01Strict, reduceCtorEq, false_iff]
      rintro ⟨hic, hc, -⟩
      cases hic
      rw [hi] at hc
      cases hc
    | some t =>
      simp only [hi, Option.bind_some, Option.map_some, bind_eq_ok, requireAs_eq_ok, exists_const,
        Except.ok.injEq, Prod.mk.injEq, Bool.and_eq_true, Bool.not_eq_true', Option.some.injEq]
      constructor
      · rintro ⟨⟨hactive, hused⟩, rfl, rfl⟩
        exact ⟨rfl, hi, hactive, hused⟩
      · rintro ⟨rfl, hc, hactive, hused⟩
        rw [hi] at hc
        cases hc
        exact ⟨⟨hactive, hused⟩, rfl, rfl⟩

/-- The outcomes of `bind`. -/
theorem bind_cases (s : State P) (capability : Option ℕ) (tuple runtime : Option JsValue) :
    (∃ e, s.fresh capability = .error e ∧ s.bind capability tuple runtime = (s, .error e)) ∨
      ∃ c state, s.fresh capability = .ok (c, state) ∧
        ((∃ e, s.bind capability tuple runtime = (s.use c, .error e)) ∨
          ∃ value, state.toGrant.select tuple runtime = .ok value ∧
            s.bind capability tuple runtime =
              ({ s.use c with bindings := s.bindings ++ [⟨c, false, value⟩] },
                .ok s.bindings.length)) := by
  unfold State.bind
  cases hfresh : s.fresh capability with
  | error e => exact .inl ⟨e, rfl, rfl⟩
  | ok p =>
    obtain ⟨c, state⟩ := p
    refine .inr ⟨c, state, rfl, ?_⟩
    cases hselect : state.toGrant.select tuple runtime with
    | error e => exact .inl ⟨e, by simp only [hselect]⟩
    | ok value => exact .inr ⟨value, rfl, by simp only [hselect]⟩

/-- The outcomes of `consume`. -/
theorem consume_cases (s : State P) (binding : Option ℕ) :
    (∃ e, s.consume binding = (s, .error e)) ∨
      ∃ b state, binding = some b ∧ s.bindings[b]? = some state ∧
        s.isActive state.capability = true ∧ state.used = false ∧
        s.consume binding =
          ({ s with bindings := s.bindings.modify b fun state => { state with used := true } },
            .ok state.value) := by
  unfold State.consume
  cases binding with
  | none => exact .inl ⟨_, rfl⟩
  | some b =>
    cases hb : s.bindings[b]? with
    | none =>
      simp only [hb, Option.bind_some, Option.map_none]
      exact .inl ⟨_, rfl⟩
    | some state =>
      simp only [hb, Option.bind_some, Option.map_some, Bool.and_eq_true, Bool.not_eq_true']
      by_cases hfree : s.isActive state.capability = true ∧ state.used = false
      · rw [if_pos hfree]
        exact .inr ⟨b, state, rfl, hb, hfree.1, hfree.2, rfl⟩
      · rw [if_neg hfree]
        exact .inl ⟨_, rfl⟩

theorem consume_of_active {b : ℕ} {state : BindingState P} (hb : s.bindings[b]? = some state)
    (hactive : s.isActive state.capability = true) (hunused : state.used = false) :
    s.consume (some b) =
      ({ s with bindings := s.bindings.modify b fun state => { state with used := true } },
        .ok state.value) := by
  simp only [State.consume, Option.bind_some, hb, Option.map_some, hactive, hunused]
  rfl

/-- What a step can do. -/
inductive Effect (S : Hash) (s : State P) (a : Action) : State P → Prop
  | same : Effect S s a s
  | opened (files : Files) (config : Option JsValue) (isFunction : Bool) (g : Grant P)
      (action : a = .call files config isFunction) (grant : openGrant S P files config isFunction = .ok g) :
      Effect S s a { s with
        capabilities := s.capabilities ++ [⟨g, true, false⟩]
        stack := ⟨s.capabilities.length, .running⟩ :: s.stack }
  | spent (c : ℕ) (state : CapabilityState P) (fresh : s.fresh (some c) = .ok (c, state)) :
      Effect S s a (s.use c)
  | bound (c : ℕ) (state : CapabilityState P) (tuple runtime : Option JsValue) (value : BindingValue P)
      (action : a = .bind (some c) tuple runtime) (fresh : s.fresh (some c) = .ok (c, state))
      (select : state.toGrant.select tuple runtime = .ok value) :
      Effect S s a { s.use c with bindings := s.bindings ++ [⟨c, false, value⟩] }
  | consumed (b : ℕ) :
      Effect S s a { s with bindings := s.bindings.modify b fun state => { state with used := true } }
  | probing (c : ℕ) (rest : List Frame) (stack : s.stack = ⟨c, .running⟩ :: rest) :
      Effect S s a { s with stack := ⟨c, .probing⟩ :: rest }
  | closed (c : ℕ) (stage : Stage) (rest : List Frame) (stack : s.stack = ⟨c, stage⟩ :: rest) :
      Effect S s a (s.close c rest)

/-- Every step has one of these effects. -/
theorem effect_of_step {a : Action} (h : step S s a = some s') : Effect S s a s' := by
  cases a with
  | call files config isFunction =>
    rw [step] at h
    split at h
    · cases h
      exact .same
    · rename_i g hg
      cases h
      exact .opened files config isFunction g rfl hg
  | inspect capability =>
    cases h
    exact .same
  | bind capability tuple runtime =>
    cases h
    rcases bind_cases s capability tuple runtime with
      ⟨e, -, he⟩ | ⟨c, state, hfresh, ⟨e, he⟩ | ⟨value, hselect, hvalue⟩⟩
    · rw [he]
      exact .same
    · obtain rfl := (fresh_eq_ok.mp hfresh).1
      rw [he]
      exact .spent c state hfresh
    · obtain rfl := (fresh_eq_ok.mp hfresh).1
      rw [hvalue]
      exact .bound c state tuple runtime value rfl hfresh hselect
  | consume binding =>
    cases h
    rcases consume_cases s binding with ⟨e, he⟩ | ⟨b, state, -, -, -, -, hb⟩
    · rw [he]
      exact .same
    · rw [hb]
      exact .consumed b
  | returns truthy =>
    rw [step] at h
    split at h
    · rename_i c rest hstack
      cases truthy with
      | true =>
        cases h
        exact .probing c rest hstack
      | false =>
        cases h
        exact .closed c .running rest hstack
    · cases h
  | probed =>
    rw [step] at h
    split at h
    · rename_i c rest hstack
      cases h
      exact .closed c .probing rest hstack
    · cases h
  | throws =>
    rw [step] at h
    split at h
    · rename_i c stage rest hstack
      cases h
      exact .closed c stage rest hstack
    · cases h

end Effects

/-! ## Invariant -/

section Invariant

variable {S : Hash} {P : DateParser} {s s' : State P}

/-- An active capability has an open call; a bound one is used, and bound once. -/
structure Inv (s : State P) : Prop where
  frames : ∀ f ∈ s.stack, f.capability < s.capabilities.length
  active : ∀ c state, s.capabilities[c]? = some state → state.active = true →
    ∃ stage, ⟨c, stage⟩ ∈ s.stack
  bound : ∀ b ∈ s.bindings, ∃ state, s.capabilities[b.capability]? = some state ∧ state.used = true
  single : (s.bindings.map BindingState.capability).Nodup

theorem inv_initial : Inv (State.initial P) where
  frames := by simp [State.initial]
  active := by simp [State.initial]
  bound := by simp [State.initial]
  single := by simp [State.initial]

theorem getElem?_use (s : State P) (c i : ℕ) : (s.use c).capabilities[i]? =
    s.capabilities[i]?.map fun state => if c = i then { state with used := true } else state :=
  List.getElem?_modify ..

theorem getElem?_close (s : State P) (c i : ℕ) (rest : List Frame) : (s.close c rest).capabilities[i]? =
    s.capabilities[i]?.map fun state => if c = i then { state with active := false } else state :=
  List.getElem?_modify ..

theorem Inv.use (h : Inv s) (c : ℕ) : Inv (s.use c) where
  frames := by
    intro f hf
    show f.capability < (s.capabilities.modify c _).length
    rw [List.length_modify]
    exact h.frames f hf
  active := by
    intro i state hi hactive
    rw [getElem?_use] at hi
    obtain ⟨state', hstate', rfl⟩ := Option.map_eq_some_iff.mp hi
    refine h.active i state' hstate' ?_
    split_ifs at hactive <;> exact hactive
  bound := by
    intro b hb
    obtain ⟨state, hstate, hused⟩ := h.bound b hb
    rw [getElem?_use, hstate]
    refine ⟨_, rfl, ?_⟩
    split_ifs
    · rfl
    · exact hused
  single := h.single

/-- The invariant is preserved by what a step can do. -/
theorem Inv.effect {a : Action} (h : Inv s) (he : Effect S s a s') : Inv s' := by
  cases he with
  | same => exact h
  | spent c state hfresh => exact h.use c
  | opened files config isFunction g haction hg =>
    constructor
    · intro f hf
      rw [List.length_append, List.length_singleton]
      rcases List.mem_cons.mp hf with rfl | hf
      · exact Nat.lt_succ_self _
      · have := h.frames f hf
        omega
    · intro c state hc hactive
      by_cases hlt : c < s.capabilities.length
      · rw [List.getElem?_append_left hlt] at hc
        obtain ⟨stage, hmem⟩ := h.active c state hc hactive
        exact ⟨stage, List.mem_cons_of_mem _ hmem⟩
      · have hle := (List.getElem?_eq_some_iff.mp hc).1
        rw [List.length_append, List.length_singleton] at hle
        obtain rfl : c = s.capabilities.length := by omega
        exact ⟨.running, List.mem_cons_self⟩
    · intro b hb
      obtain ⟨state, hstate, hused⟩ := h.bound b hb
      have hlt := (List.getElem?_eq_some_iff.mp hstate).1
      exact ⟨state, by rw [List.getElem?_append_left hlt, hstate], hused⟩
    · exact h.single
  | bound c state tuple runtime value haction hfresh hselect =>
    obtain ⟨-, hc, -, hunused⟩ := fresh_eq_ok.mp hfresh
    have huse := h.use c
    refine ⟨huse.frames, huse.active, ?_, ?_⟩
    · intro b hb
      rcases List.mem_append.mp hb with hb | hb
      · exact huse.bound b hb
      · obtain rfl := List.mem_singleton.mp hb
        show ∃ t, (s.use c).capabilities[c]? = some t ∧ t.used = true
        rw [getElem?_use, hc]
        exact ⟨_, rfl, by simp⟩
    · rw [List.map_append, List.nodup_append]
      refine ⟨h.single, by simp, ?_⟩
      intro i hi j hj
      obtain ⟨b, hb, rfl⟩ := List.mem_map.mp hi
      obtain rfl := List.mem_singleton.mp hj
      rintro rfl
      obtain ⟨state', hstate', hused⟩ := h.bound b hb
      have heq : state' = state := Option.some.inj (hstate'.symm.trans hc)
      rw [heq, hunused] at hused
      cases hused
  | consumed b =>
    refine ⟨h.frames, h.active, ?_, ?_⟩
    · intro b' hb'
      obtain ⟨i, hi⟩ := List.getElem?_of_mem hb'
      rw [List.getElem?_modify] at hi
      obtain ⟨b₀, hb₀, rfl⟩ := Option.map_eq_some_iff.mp hi
      obtain ⟨state, hstate, hused⟩ := h.bound b₀ (List.mem_of_getElem? hb₀)
      refine ⟨state, ?_, hused⟩
      rw [← hstate]
      split_ifs <;> rfl
    · have hmap : (s.bindings.modify b fun state => { state with used := true }).map
          BindingState.capability = s.bindings.map BindingState.capability := by
        apply List.ext_getElem?
        intro i
        rw [List.getElem?_map, List.getElem?_map, List.getElem?_modify]
        cases s.bindings[i]? with
        | none => rfl
        | some t =>
          simp only [Option.map_some]
          split_ifs <;> rfl
      rw [hmap]
      exact h.single
  | probing c rest hstack =>
    refine ⟨?_, ?_, h.bound, h.single⟩
    · intro f hf
      have hall := h.frames
      rw [hstack] at hall
      rcases List.mem_cons.mp hf with rfl | hf
      · exact hall ⟨c, .running⟩ List.mem_cons_self
      · exact hall f (List.mem_cons_of_mem _ hf)
    · intro i state hi hactive
      obtain ⟨stage, hmem⟩ := h.active i state hi hactive
      rw [hstack] at hmem
      rcases List.mem_cons.mp hmem with heq | hmem
      · cases heq
        exact ⟨.probing, List.mem_cons_self⟩
      · exact ⟨stage, List.mem_cons_of_mem _ hmem⟩
  | closed c stage rest hstack =>
    refine ⟨?_, ?_, ?_, h.single⟩
    · intro f hf
      show f.capability < (s.capabilities.modify c _).length
      rw [List.length_modify]
      exact h.frames f (hstack ▸ List.mem_cons_of_mem _ hf)
    · intro i state hi hactive
      rw [getElem?_close] at hi
      obtain ⟨state', hstate', rfl⟩ := Option.map_eq_some_iff.mp hi
      split_ifs at hactive with hci
      obtain ⟨stage', hmem⟩ := h.active i state' hstate' hactive
      rw [hstack] at hmem
      rcases List.mem_cons.mp hmem with heq | hmem
      · cases heq
        exact absurd rfl hci
      · exact ⟨stage', hmem⟩
    · intro b hb
      obtain ⟨state, hstate, hused⟩ := h.bound b hb
      rw [getElem?_close, hstate]
      refine ⟨_, rfl, ?_⟩
      split_ifs <;> exact hused

theorem Inv.step {a : Action} (h : Inv s) (hstep : step S s a = some s') : Inv s' :=
  h.effect (effect_of_step hstep)

/-! ## Later states -/

/-- Capabilities and bindings are kept, stay used, and are not made active again. -/
structure Later (s s' : State P) : Prop where
  capabilities : ∀ (c : ℕ) (state : CapabilityState P), s.capabilities[c]? = some state →
    ∃ state' : CapabilityState P, s'.capabilities[c]? = some state' ∧
      (state.used = true → state'.used = true) ∧ (state'.active = true → state.active = true)
  bindings : ∀ (b : ℕ) (state : BindingState P), s.bindings[b]? = some state →
    ∃ state' : BindingState P, s'.bindings[b]? = some state' ∧
      state'.capability = state.capability ∧ (state.used = true → state'.used = true)

theorem Later.refl (s : State P) : Later s s where
  capabilities := fun _ state h => ⟨state, h, id, id⟩
  bindings := fun _ state h => ⟨state, h, rfl, id⟩

theorem Later.trans {t u : State P} (h : Later s t) (h' : Later t u) : Later s u where
  capabilities := by
    intro c state hc
    obtain ⟨state', hc', hused, hactive⟩ := h.capabilities c state hc
    obtain ⟨state'', hc'', hused', hactive'⟩ := h'.capabilities c state' hc'
    exact ⟨state'', hc'', fun hu => hused' (hused hu), fun ha => hactive (hactive' ha)⟩
  bindings := by
    intro b state hb
    obtain ⟨state', hb', hcap, hused⟩ := h.bindings b state hb
    obtain ⟨state'', hb'', hcap', hused'⟩ := h'.bindings b state' hb'
    exact ⟨state'', hb'', hcap'.trans hcap, fun hu => hused' (hused hu)⟩

theorem later_use (s : State P) (c : ℕ) : Later s (s.use c) where
  capabilities := by
    intro i state hi
    rw [getElem?_use, hi]
    refine ⟨_, rfl, ?_, ?_⟩
    · intro hused
      split_ifs
      · rfl
      · exact hused
    · intro hactive
      split_ifs at hactive <;> exact hactive
  bindings := fun _ state h => ⟨state, h, rfl, id⟩

theorem later_effect {a : Action} (he : Effect S s a s') : Later s s' := by
  cases he with
  | same => exact Later.refl s
  | spent c state hfresh => exact later_use s c
  | opened files config isFunction g haction hg =>
    refine ⟨?_, fun _ state h => ⟨state, h, rfl, id⟩⟩
    intro c state hc
    have hlt := (List.getElem?_eq_some_iff.mp hc).1
    exact ⟨state, by rw [List.getElem?_append_left hlt, hc], id, id⟩
  | bound c state tuple runtime value haction hfresh hselect =>
    refine ⟨(later_use s c).capabilities, ?_⟩
    intro b state' hb
    have hlt := (List.getElem?_eq_some_iff.mp hb).1
    exact ⟨state', by rw [List.getElem?_append_left hlt, hb], rfl, id⟩
  | consumed b =>
    refine ⟨fun _ state h => ⟨state, h, id, id⟩, ?_⟩
    intro i state hi
    rw [List.getElem?_modify, hi]
    refine ⟨_, rfl, ?_, ?_⟩
    · split_ifs <;> rfl
    · intro hused
      show (if b = i then { state with used := true } else state).used = true
      split_ifs
      · rfl
      · exact hused
  | probing c rest hstack =>
    exact ⟨fun _ state h => ⟨state, h, id, id⟩, fun _ state h => ⟨state, h, rfl, id⟩⟩
  | closed c stage rest hstack =>
    refine ⟨?_, fun _ state h => ⟨state, h, rfl, id⟩⟩
    intro i state hi
    rw [getElem?_close, hi]
    refine ⟨_, rfl, ?_, ?_⟩
    · intro hused
      split_ifs <;> exact hused
    · intro hactive
      split_ifs at hactive
      exact hactive

theorem later_run {actions : List Action} (h : run (step S) s actions = some s') : Later s s' :=
  run_rel Later.refl (fun _ _ _ => Later.trans) (fun _ _ _ hstep => later_effect (effect_of_step hstep)) h

end Invariant

/-! ## Acceptance -/

section Acceptance

variable {S : Hash} {P : DateParser}

/-- The policy is that of the pinned file, and the instant that of the host. -/
structure Pinned (S : Hash) (files : Files) (config : Option JsValue) (g : Grant P) : Prop where
  policy : ∃ path bytes parsed, (config.bind fun c => c.get (js "policyPath")) = some (.string path) ∧
    files path = some bytes ∧
    (config.bind fun c => c.get (js "expectedPolicySha256")) =
      some (.string (sha256PomRxV01Bytes S bytes).val) ∧
    parsePomRxV01ExactJson .policyInvalid (js "local verification policy") bytes MAX_POLICY_BYTES =
      .ok parsed ∧
    validatePolicy P parsed (sha256PomRxV01Bytes S bytes) = .ok g.policy
  instant : (config.bind fun c => c.get (js "trustedEvaluationInstant")) =
    some (.string g.evaluationTime.text)

theorem openGrant_eq_ok {files : Files} {config : Option JsValue} {isFunction : Bool} {g : Grant P}
    (h : openGrant S P files config isFunction = .ok g) : Pinned S files config g := by
  obtain ⟨-, -, h⟩ := bind_eq_ok.mp h
  obtain ⟨-, -, h⟩ := bind_eq_ok.mp h
  obtain ⟨⟨observed, parsed⟩, hread, h⟩ := bind_eq_ok.mp h
  obtain ⟨policy, hpolicy, h⟩ := bind_eq_ok.mp h
  obtain ⟨instant, hinstant, h⟩ := bind_eq_ok.mp h
  obtain ⟨path, bytes, hpath, hbytes, hobserved, hpin, hparse⟩ := readPinnedJson_eq_ok hread
  rw [hobserved] at hpin hpolicy
  split at h
  · obtain ⟨-, -, h⟩ := bind_eq_ok.mp h
    cases h
    exact ⟨⟨path, bytes, parsed, hpath, hbytes, hpin, hparse, hpolicy⟩,
      parseCanonicalInstant_eq_ok hinstant⟩
  · cases h

/-- The tuple is an accepted verifier of the policy, the runtime has its constraints, and no
    withdrawal of the tuple is in effect. -/
structure Accepts (g : Grant P) (tuple runtime : Option JsValue) (value : BindingValue P) : Prop where
  accepted : value.selectedVerifier ∈ g.policy.acceptedVerifiers
  tuple : HasEntries tuple value.selectedVerifier.toVerifierTuple.entries
  runtime : HasEntries runtime value.selectedVerifier.runtimeConstraints.entries
  environment : value.executionEnvironment = value.selectedVerifier.runtimeConstraints
  notWithdrawn : ∀ w ∈ g.policy.withdrawnVerifiers,
    w.toVerifierTuple = value.selectedVerifier.toVerifierTuple → g.evaluationTime.ms < w.effectiveAt.ms

theorem select_eq_ok {g : Grant P} {tuple runtime : Option JsValue} {value : BindingValue P}
    (h : g.select tuple runtime = .ok value) : Accepts g tuple runtime value := by
  obtain ⟨t, ht, h⟩ := bind_eq_ok.mp h
  obtain ⟨r, hr, h⟩ := bind_eq_ok.mp h
  split at h
  · cases h
  · rename_i hnone
    split at h
    · cases h
    · rename_i accepted haccepted
      obtain ⟨_, hruntime, h⟩ := bind_eq_ok.mp h
      cases h
      have hidentity := List.find?_some haccepted
      rw [decide_eq_true_eq] at hidentity
      have htuple := tupleIdentity_injective hidentity
      have hconstraints := RuntimeConstraints.stringify_injective
        (of_decide_eq_true (requireAs_eq_ok.mp hruntime))
      constructor
      · exact List.mem_of_find?_eq_some haccepted
      · rw [htuple]
        exact validateTuple_eq_ok ht
      · rw [hconstraints]
        exact validateRuntimeConstraints_eq_ok hr
      · exact hconstraints.symm
      · intro w hw hsame
        have hfree := List.find?_eq_none.mp hnone w hw
        simp only [hsame.trans htuple, decide_true, Bool.true_and, decide_eq_true_eq] at hfree
        exact not_le.mp hfree

end Acceptance

/-! ## Main result -/

section Main

variable {S : Hash} {P : DateParser}

/-- A `bind` of the capability `c` that succeeds. -/
def bindSucceeds (c : ℕ) : State P × Action → Bool
  | (s, .bind (some i) tuple runtime) => i = c && (s.bind (some i) tuple runtime).2.isOk
  | _ => false

/-- A `consume` of a binding of the capability `c` that succeeds. -/
def consumeSucceeds (c : ℕ) : State P × Action → Bool
  | (s, .consume (some b)) =>
    (s.bindings[b]?).any (fun state => state.capability = c) && (s.consume (some b)).2.isOk
  | _ => false

/-- A `bind` of the capability `c`, whatever its outcome, where `c` has been handed out. -/
def Binds (c : ℕ) (x : State P × Action) : Prop :=
  c < x.1.capabilities.length ∧ ∃ tuple runtime, x.2 = .bind (some c) tuple runtime

/-- The step is a `bind` of the capability `c` or a `consume` of one of its bindings. -/
def Targets (c : ℕ) (x : State P × Action) : Prop :=
  (∃ tuple runtime, x.2 = .bind (some c) tuple runtime) ∨
    ∃ (b : ℕ) (state : BindingState P), x.2 = .consume (some b) ∧ x.1.bindings[b]? = some state ∧
      state.capability = c

/-- No `bind` or `consume` is made on a capability while the result of its callback is read. -/
def Quiet (x : State P × Action) : Prop := ∀ c, Targets c x → ⟨c, .probing⟩ ∉ x.1.stack

theorem bindSucceeds_iff {c : ℕ} {s : State P} {a : Action} :
    bindSucceeds c (s, a) = true ↔ ∃ tuple runtime state value, a = .bind (some c) tuple runtime ∧
      s.fresh (some c) = .ok (c, state) ∧ state.toGrant.select tuple runtime = .ok value := by
  constructor
  · intro h
    unfold bindSucceeds at h
    split at h
    · rename_i t i tuple runtime heq
      cases heq
      rw [Bool.and_eq_true, decide_eq_true_eq] at h
      obtain ⟨rfl, hok⟩ := h
      rcases bind_cases s (some i) tuple runtime with
        ⟨e, -, he⟩ | ⟨c, state, hfresh, ⟨e, he⟩ | ⟨value, hselect, -⟩⟩
      · rw [he] at hok
        cases hok
      · rw [he] at hok
        cases hok
      · obtain hic := (fresh_eq_ok.mp hfresh).1
        cases hic
        exact ⟨tuple, runtime, state, value, rfl, hfresh, hselect⟩
    · cases h
  · rintro ⟨tuple, runtime, state, value, rfl, hfresh, hselect⟩
    simp only [bindSucceeds, State.bind, hfresh, hselect, decide_true, Bool.true_and]
    rfl

theorem consumeSucceeds_iff {c : ℕ} {s : State P} {a : Action} :
    consumeSucceeds c (s, a) = true ↔ ∃ b state, a = .consume (some b) ∧
      s.bindings[b]? = some state ∧ state.capability = c ∧ s.isActive c = true ∧
      state.used = false := by
  constructor
  · intro h
    unfold consumeSucceeds at h
    split at h
    · rename_i t b heq
      cases heq
      rw [Bool.and_eq_true, Option.any_eq_true] at h
      obtain ⟨⟨state, hstate, hcap⟩, hok⟩ := h
      obtain rfl := of_decide_eq_true hcap
      rcases consume_cases s (some b) with ⟨e, he⟩ | ⟨b', state', hb, hstate', hactive, hused, -⟩
      · rw [he] at hok
        cases hok
      · cases hb
        rw [hstate] at hstate'
        cases hstate'
        exact ⟨b, state, rfl, hstate, rfl, hactive, hused⟩
    · cases h
  · rintro ⟨b, state, rfl, hstate, rfl, hactive, hused⟩
    simp [consumeSucceeds, State.consume, hstate, hactive, hused, Except.isOk, Except.toBool]

/-- The capability cannot be bound: it is used, or its call has ended. -/
def Spent (c : ℕ) (s : State P) : Prop :=
  ∃ state, s.capabilities[c]? = some state ∧ (state.used = true ∨ state.active = false)

theorem Spent.later {s s' : State P} {c : ℕ} (h : Spent c s) (hlater : Later s s') : Spent c s' := by
  obtain ⟨state, hstate, hspent⟩ := h
  obtain ⟨state', hstate', hused, hactive⟩ := hlater.capabilities c state hstate
  refine ⟨state', hstate', ?_⟩
  rcases hspent with hspent | hspent
  · exact .inl (hused hspent)
  · right
    rw [Bool.eq_false_iff]
    intro ha
    rw [hactive ha] at hspent
    cases hspent

theorem Spent.not_fresh {s : State P} {c : ℕ} (h : Spent c s) (state : CapabilityState P) :
    s.fresh (some c) ≠ .ok (c, state) := by
  intro hfresh
  obtain ⟨-, hc, hactive, hused⟩ := fresh_eq_ok.mp hfresh
  obtain ⟨state', hc', hspent⟩ := h
  obtain rfl : state = state' := Option.some.inj (hc.symm.trans hc')
  rcases hspent with hspent | hspent
  · rw [hused] at hspent
    cases hspent
  · rw [hactive] at hspent
    cases hspent

theorem spent_use {s : State P} {c : ℕ} {state : CapabilityState P}
    (hc : s.capabilities[c]? = some state) : Spent c (s.use c) := by
  refine ⟨{ state with used := true }, ?_, .inl rfl⟩
  rw [getElem?_use, hc]
  simp

/-- A `bind` spends its capability, whether it succeeds or not. -/
theorem spent_of_binds {s s' : State P} {a : Action} {c : ℕ} (hb : Binds c (s, a))
    (hstep : step S s a = some s') : Spent c s' := by
  obtain ⟨hlt, tuple, runtime, rfl⟩ := hb
  cases hstep
  have hc := List.getElem?_eq_getElem hlt
  rcases bind_cases s (some c) tuple runtime with
    ⟨e, hstale, he⟩ | ⟨i, state, hfresh, ⟨e, he⟩ | ⟨value, -, hvalue⟩⟩
  · rw [he]
    refine ⟨_, hc, ?_⟩
    by_contra hfree
    rw [not_or, Bool.not_eq_true, Bool.not_eq_false] at hfree
    have hok := fresh_eq_ok.mpr ⟨rfl, hc, hfree.2, hfree.1⟩
    rw [hstale] at hok
    cases hok
  · cases (fresh_eq_ok.mp hfresh).1
    rw [he]
    exact spent_use hc
  · cases (fresh_eq_ok.mp hfresh).1
    rw [hvalue]
    exact spent_use hc

theorem binds_of_bindSucceeds {c : ℕ} {s : State P} {a : Action}
    (h : bindSucceeds c (s, a) = true) : Binds c (s, a) := by
  obtain ⟨tuple, runtime, state, value, rfl, hfresh, -⟩ := bindSucceeds_iff.mp h
  exact ⟨(List.getElem?_eq_some_iff.mp (fresh_eq_ok.mp hfresh).2.1).1, tuple, runtime, rfl⟩

/-- After a `bind` of a capability, no `bind` of it succeeds. -/
theorem pairwise_binds (c : ℕ) {s : State P} (hs : Inv s) (actions : List Action) :
    (trace (step S) s actions).Pairwise fun x y => Binds c x → bindSucceeds c y = false := by
  refine pairwise_trace (fun _ _ _ => Inv.step) ?_ hs actions
  intro s a s' more u b _ hstep hrun hb
  rw [Bool.eq_false_iff]
  intro hsucceeds
  obtain ⟨_, _, state, _, -, hfresh, -⟩ := bindSucceeds_iff.mp hsucceeds
  exact ((spent_of_binds hb hstep).later (later_run hrun)).not_fresh state hfresh

/-- After a successful `consume` for a capability, no other one succeeds. -/
theorem pairwise_consumes (c : ℕ) {s : State P} (hs : Inv s) (actions : List Action) :
    (trace (step S) s actions).Pairwise fun x y =>
      consumeSucceeds c x = true → consumeSucceeds c y = false := by
  refine pairwise_trace (fun _ _ _ => Inv.step) ?_ hs actions
  intro s a s' more u a' hinv hstep hrun hconsumed
  rw [Bool.eq_false_iff]
  intro hagain
  obtain ⟨b, state, rfl, hb, hcap, hactive, hunused⟩ := consumeSucceeds_iff.mp hconsumed
  obtain ⟨b', state', -, hb', hcap', -, hunused'⟩ := consumeSucceeds_iff.mp hagain
  have hinv' : Inv u := run_invariant (fun _ _ _ => Inv.step) hrun (hinv.step hstep)
  -- The binding is used after the step, and stays so.
  have hused : ∃ t, s'.bindings[b]? = some t ∧ t.capability = c ∧ t.used = true := by
    cases hstep
    rw [consume_of_active hb (hcap.symm ▸ hactive) hunused]
    refine ⟨{ state with used := true }, ?_, hcap, rfl⟩
    rw [List.getElem?_modify, hb]
    simp
  obtain ⟨t, ht, htcap, htused⟩ := hused
  obtain ⟨t', ht', htcap', htused'⟩ := (later_run hrun).bindings b t ht
  have hindex : b = b' := by
    refine (List.getElem?_inj ?_ hinv'.single).mp ?_
    · rw [List.length_map]
      exact (List.getElem?_eq_some_iff.mp ht').1
    · rw [List.getElem?_map, List.getElem?_map, ht', hb', Option.map_some, Option.map_some, hcap',
        htcap', htcap]
  rw [hindex, hb'] at ht'
  cases ht'
  rw [htused' htused] at hunused'
  cases hunused'

/-- What succeeds, succeeds while the callback that got the capability runs. -/
theorem running_of_succeeds {c : ℕ} {x : State P × Action} (hinv : Inv x.1) (hquiet : Quiet x)
    (h : bindSucceeds c x = true ∨ consumeSucceeds c x = true) : ⟨c, .running⟩ ∈ x.1.stack := by
  obtain ⟨s, a⟩ := x
  have hopen : Targets c (s, a) ∧ ∃ state, s.capabilities[c]? = some state ∧ state.active = true := by
    rcases h with h | h
    · obtain ⟨tuple, runtime, state, value, rfl, hfresh, -⟩ := bindSucceeds_iff.mp h
      obtain ⟨-, hc, hactive, -⟩ := fresh_eq_ok.mp hfresh
      exact ⟨.inl ⟨tuple, runtime, rfl⟩, state, hc, hactive⟩
    · obtain ⟨b, state, rfl, hb, hcap, hactive, -⟩ := consumeSucceeds_iff.mp h
      obtain ⟨t, ht, hta⟩ := (Option.any_eq_true _ _).mp hactive
      exact ⟨.inr ⟨b, state, rfl, hb, hcap⟩, t, ht, hta⟩
  obtain ⟨htargets, state, hc, hactive⟩ := hopen
  obtain ⟨stage, hmem⟩ := hinv.active c state hc hactive
  cases stage with
  | running => exact hmem
  | probing => exact absurd hmem (hquiet c htargets)

/-- The origin of a consumed value: a call that opened the capability, and a `bind` of it. -/
def Origin (S : Hash) (steps : List (State P × Action)) (value : BindingValue P) : Prop :=
  ∃ c g files config isFunction tuple runtime s₁ s₂,
    (s₁, Action.call files config isFunction) ∈ steps ∧ s₁.capabilities.length = c ∧
    (s₂, Action.bind (some c) tuple runtime) ∈ steps ∧
    Pinned S files config g ∧ Accepts g tuple runtime value

/-- A capability has been opened by a call. -/
theorem exists_call {s : State P} {actions : List Action}
    (h : run (step S) (State.initial P) actions = some s) {c : ℕ} {state : CapabilityState P}
    (hc : s.capabilities[c]? = some state) :
    ∃ s₁ files config isFunction,
      (s₁, Action.call files config isFunction) ∈ trace (step S) (State.initial P) actions ∧
      s₁.capabilities.length = c ∧ openGrant S P files config isFunction = .ok state.toGrant := by
  let Q : State P → Prop := fun t =>
    ∃ u : CapabilityState P, t.capabilities[c]? = some u ∧ u.toGrant = state.toGrant
  have hstart : ¬ Q (State.initial P) := by
    rintro ⟨u, hu, -⟩
    cases hu
  obtain ⟨⟨s₁, a⟩, hmem, t, hstep, hbefore, u, hu, hgrant⟩ :=
    exists_step_of_run h hstart ⟨state, hc, rfl⟩
  have hmapped : ∀ f : CapabilityState P → CapabilityState P, (∀ v, (f v).toGrant = v.toGrant) →
      (s₁.capabilities[c]?).map f ≠ some u := by
    intro f hf hmap
    obtain ⟨v, hv, rfl⟩ := Option.map_eq_some_iff.mp hmap
    exact hbefore ⟨v, hv, (hf v).symm.trans hgrant⟩
  have heffect : Effect S s₁ a t := effect_of_step hstep
  cases heffect with
  | same => exact absurd ⟨u, hu, hgrant⟩ hbefore
  | opened files config isFunction g haction hg =>
    by_cases hlt : c < s₁.capabilities.length
    · rw [List.getElem?_append_left hlt] at hu
      exact absurd ⟨u, hu, hgrant⟩ hbefore
    · have hle := (List.getElem?_eq_some_iff.mp hu).1
      rw [List.length_append, List.length_singleton] at hle
      obtain rfl : c = s₁.capabilities.length := by omega
      rw [List.getElem?_concat_length] at hu
      cases hu
      subst haction
      exact ⟨s₁, files, config, isFunction, hmem, rfl, hgrant ▸ hg⟩
  | spent i v hfresh =>
    rw [getElem?_use] at hu
    refine absurd hu (hmapped _ fun v => ?_)
    split_ifs <;> rfl
  | bound i v tuple runtime value haction hfresh hselect =>
    have hu' : (s₁.use i).capabilities[c]? = some u := hu
    rw [getElem?_use] at hu'
    refine absurd hu' (hmapped _ fun v => ?_)
    split_ifs <;> rfl
  | consumed b => exact absurd ⟨u, hu, hgrant⟩ hbefore
  | probing i rest hstack => exact absurd ⟨u, hu, hgrant⟩ hbefore
  | closed i stage rest hstack =>
    rw [getElem?_close] at hu
    refine absurd hu (hmapped _ fun v => ?_)
    split_ifs <;> rfl

/-- A binding has been made by a `bind`. -/
theorem exists_bind {s : State P} {actions : List Action}
    (h : run (step S) (State.initial P) actions = some s) {b : ℕ} {state : BindingState P}
    (hb : s.bindings[b]? = some state) :
    ∃ s₂ tuple runtime u, (s₂, Action.bind (some state.capability) tuple runtime) ∈
        trace (step S) (State.initial P) actions ∧
      s₂.capabilities[state.capability]? = some u ∧
      u.toGrant.select tuple runtime = .ok state.value := by
  let Q : State P → Prop := fun t => ∃ v : BindingState P, t.bindings[b]? = some v ∧
    v.capability = state.capability ∧ v.value = state.value
  have hstart : ¬ Q (State.initial P) := by
    rintro ⟨v, hv, -⟩
    cases hv
  obtain ⟨⟨s₂, a⟩, hmem, t, hstep, hbefore, v, hv, hcap, hvalue⟩ :=
    exists_step_of_run h hstart ⟨state, hb, rfl, rfl⟩
  have heffect : Effect S s₂ a t := effect_of_step hstep
  cases heffect with
  | bound i u tuple runtime value haction hfresh hselect =>
    by_cases hlt : b < s₂.bindings.length
    · rw [List.getElem?_append_left hlt] at hv
      exact absurd ⟨v, hv, hcap, hvalue⟩ hbefore
    · have hle := (List.getElem?_eq_some_iff.mp hv).1
      rw [List.length_append, List.length_singleton] at hle
      obtain rfl : b = s₂.bindings.length := by omega
      rw [List.getElem?_concat_length] at hv
      cases hv
      subst haction
      rw [← hcap, ← hvalue]
      exact ⟨s₂, tuple, runtime, u, hmem, (fresh_eq_ok.mp hfresh).2.1, hselect⟩
  | consumed i =>
    rw [List.getElem?_modify] at hv
    obtain ⟨w, hw, rfl⟩ := Option.map_eq_some_iff.mp hv
    refine absurd ⟨w, hw, ?_, ?_⟩ hbefore
    · rw [← hcap]
      split_ifs <;> rfl
    · rw [← hvalue]
      split_ifs <;> rfl
  | same => exact absurd ⟨v, hv, hcap, hvalue⟩ hbefore
  | opened files config isFunction g haction hg => exact absurd ⟨v, hv, hcap, hvalue⟩ hbefore
  | spent i w hfresh => exact absurd ⟨v, hv, hcap, hvalue⟩ hbefore
  | probing i rest hstack => exact absurd ⟨v, hv, hcap, hvalue⟩ hbefore
  | closed i stage rest hstack => exact absurd ⟨v, hv, hcap, hvalue⟩ hbefore

/-- What is consumed has been accepted. -/
theorem origin_of_consume {s : State P} {binding : Option ℕ} {actions : List Action}
    {value : BindingValue P}
    (hmem : (s, Action.consume binding) ∈ trace (step S) (State.initial P) actions)
    (hvalue : (s.consume binding).2 = .ok value) :
    Origin S (trace (step S) (State.initial P) actions) value := by
  obtain ⟨before, after, hactions, hrun⟩ := mem_trace hmem
  have hsub : ∀ x ∈ trace (step S) (State.initial P) before,
      x ∈ trace (step S) (State.initial P) actions := by
    intro x hx
    rw [hactions, trace_append hrun]
    exact List.mem_append_left _ hx
  rcases consume_cases s binding with ⟨e, he⟩ | ⟨b, state, rfl, hb, -, -, hresult⟩
  · rw [he] at hvalue
    cases hvalue
  · rw [hresult] at hvalue
    cases hvalue
    obtain ⟨s₂, tuple, runtime, u, hbind, hu, hselect⟩ := exists_bind hrun hb
    obtain ⟨before', after', hbefore, hrun'⟩ := mem_trace hbind
    obtain ⟨s₁, files, config, isFunction, hcall, hlength, hopen⟩ := exists_call hrun' hu
    refine ⟨_, u.toGrant, files, config, isFunction, tuple, runtime, s₁, s₂, ?_, hlength,
      hsub _ hbind, openGrant_eq_ok hopen, select_eq_ok hselect⟩
    apply hsub
    rw [hbefore, trace_append hrun']
    exact List.mem_append_left _ hcall

/-- In every run in which no capability is bound or consumed while the result of its callback
    is read: a `bind` of a capability is the last one that can succeed, one `consume` at most
    succeeds for it, both only while its callback runs, and what is consumed is accepted by
    the policy of the pinned file. -/
theorem policyCapability_single_use_and_scope (S : Hash) (P : DateParser) (actions : List Action)
    (hquiet : ∀ x ∈ trace (step S) (State.initial P) actions, Quiet x) :
    (∀ c, (trace (step S) (State.initial P) actions).countP (bindSucceeds c) ≤ 1 ∧
      (trace (step S) (State.initial P) actions).countP (consumeSucceeds c) ≤ 1) ∧
    (∀ c, (trace (step S) (State.initial P) actions).Pairwise fun x y =>
      Binds c x → bindSucceeds c y = false) ∧
    (∀ x ∈ trace (step S) (State.initial P) actions, ∀ c,
      bindSucceeds c x = true ∨ consumeSucceeds c x = true → ⟨c, .running⟩ ∈ x.1.stack) ∧
    ∀ s binding value,
      (s, Action.consume binding) ∈ trace (step S) (State.initial P) actions →
      (s.consume binding).2 = .ok value →
      Origin S (trace (step S) (State.initial P) actions) value := by
  refine ⟨fun c => ⟨?_, ?_⟩, fun c => pairwise_binds c inv_initial actions, ?_, ?_⟩
  · apply countP_le_one
    refine (pairwise_binds c inv_initial actions).imp ?_
    intro x y h hx
    exact h (binds_of_bindSucceeds hx)
  · exact countP_le_one (pairwise_consumes c inv_initial actions)
  · intro x hx c h
    have hinv : Inv x.1 := trace_invariant (fun _ _ _ => Inv.step) inv_initial hx
    exact running_of_succeeds hinv (hquiet x hx) h
  · intro s binding value hmem hvalue
    exact origin_of_consume hmem hvalue

end Main

/-! ## Two runs -/

section Sample

/-- A verifier tuple, as data. -/
def sampleTuple : List (JsString × Json) :=
  [(js "receipt_schema_version", .string (js "pom-rx/0.1")),
    (js "verifier_profile", .string (js "pom-rx-v0.1/strict-errata-1")),
    (js "verifier_version", .string (js "pom-rx-v0.1-strict-verifier/1")),
    (js "implementation_artifact_sha256", .string (List.replicate 64 0x61))]

def sampleConstraints : Json :=
  .object [(js "node_version", .string (js "24.3.0")), (js "icu_version", .string (js "77.1")),
    (js "unicode_version", .string (js "16.0")), (js "locale", .string (js "en-US")),
    (js "platform", .string (js "linux")), (js "arch", .string (js "x64"))]

/-- A policy that accepts one verifier. -/
def samplePolicy : Json :=
  .object [(js "policy_schema_version", .string (js "pom-rx-local-verification-policy/1")),
    (js "policy_id", .string (js "policy")), (js "policy_version", .string (js "1")),
    (js "accepted_verifiers",
      .array [.object (sampleTuple ++ [(js "runtime_constraints", sampleConstraints)])]),
    (js "withdrawn_verifiers", .array [])]

def samplePolicyBytes : List UInt8 := utf8Encode (Json.print samplePolicy)

/-- The policy is at `/policy.json`. -/
def sampleFiles : Files := fun path => if path = js "/policy.json" then some samplePolicyBytes else none

def sampleConfig : JsValue :=
  .object [(js "policyPath", .string (js "/policy.json")),
    (js "expectedPolicySha256", .string (sha256PomRxV01Bytes strictSha256 samplePolicyBytes).val),
    (js "trustedEvaluationInstant", .string (js "2026-06-01T00:00:00.000Z")),
    (js "artifactManifestPath", .string (js "/manifest.json")),
    (js "expectedArtifactManifestSha256", .string (List.replicate 64 0x62))]

def sampleBind : Action :=
  .bind (some 0) (some (Json.object sampleTuple).toJs) (some sampleConstraints.toJs)

/-- The callback binds its capability, consumes the binding and returns. -/
def promptUse : List Action :=
  [.call sampleFiles (some sampleConfig) true, sampleBind, .consume (some 0), .returns false]

/-- The callback returns an object whose getter `then` binds the capability and consumes the
    binding. -/
def lateUse : List Action :=
  [.call sampleFiles (some sampleConfig) true, .returns true, sampleBind, .consume (some 0)]

/-- The steps of a run of the module. -/
def sampleTrace (actions : List Action) : List (State Date.isoReader × Action) :=
  trace (step strictSha256) (State.initial Date.isoReader) actions

/-- What the two runs come to. They are evaluated together, since they open one policy. -/
theorem sampleTrace_cases :
    ((∀ x ∈ sampleTrace promptUse, ∀ f ∈ x.1.stack, f.stage = .running) ∧
      (sampleTrace promptUse).any (consumeSucceeds 0) = true) ∧
    (∃ x ∈ sampleTrace lateUse, bindSucceeds 0 x = true ∧ ⟨0, .running⟩ ∉ x.1.stack) ∧
      ∃ x ∈ sampleTrace lateUse, consumeSucceeds 0 x = true ∧ ⟨0, .running⟩ ∉ x.1.stack := by
  decide +kernel

theorem policyCapability_promptUse :
    (sampleTrace promptUse).countP (bindSucceeds 0) ≤ 1 ∧
      ∃ value, Origin strictSha256 (sampleTrace promptUse) value := by
  have hquiet : ∀ x ∈ sampleTrace promptUse, Quiet x := by
    intro x hx c _ hmem
    have hstage := sampleTrace_cases.1.1 x hx _ hmem
    cases hstage
  obtain ⟨hcount, -, -, horigin⟩ :=
    policyCapability_single_use_and_scope strictSha256 Date.isoReader promptUse hquiet
  refine ⟨(hcount 0).1, ?_⟩
  obtain ⟨⟨s, a⟩, hmem, hconsumes⟩ := List.any_eq_true.mp sampleTrace_cases.1.2
  obtain ⟨b, state, rfl, hb, hcap, hactive, hunused⟩ := consumeSucceeds_iff.mp hconsumes
  refine ⟨state.value, horigin s (some b) state.value hmem ?_⟩
  rw [consume_of_active hb (hcap.symm ▸ hactive) hunused]

/-- A capability is bound and its binding consumed after the callback has returned. -/
theorem not_policyCapability_scope :
    (∃ x ∈ sampleTrace lateUse, bindSucceeds 0 x = true ∧ ⟨0, .running⟩ ∉ x.1.stack) ∧
      ∃ x ∈ sampleTrace lateUse, consumeSucceeds 0 x = true ∧ ⟨0, .running⟩ ∉ x.1.stack :=
  sampleTrace_cases.2

end Sample

end OpenRisk.Strict
