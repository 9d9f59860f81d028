import OpenRisk.PomRx.Witness

/-!
# The window of an acknowledgement

Model of `createPomRxWitnessAck` of `sdk/typescript/pom-rx-witness.mjs` (lines 159–210).
`verifyPomRxWitnessAck` compares the current time with the two ends of the window as texts.

Results:
* `readAck_create`: the verifier reads a created acknowledgement back.
* `textWindow_iff`: the texts between those of two instants are the texts of the instants
  between them exactly when the years of the two are of one era.
* `verifyPomRxWitnessAck_window_iff`: so a created acknowledgement is accepted in its window
  and nowhere else exactly then.
-/

namespace OpenRisk.PomRx

open Text Sdk Date OpenRisk.Core

/-! ## Model -/

/-- The options of `createPomRxWitnessAck`; `none` is `undefined`. -/
structure AckOptions where
  receivedAt : Option JsValue
  mode : Option JsValue
  validForMs : Option JsValue

/-- `receivedAt = new Date().toISOString()`. -/
def AckOptions.received (o : AckOptions) (now : IsoDate) : JsValue :=
  o.receivedAt.getD (.string now.text)

/-- `validForMs = 30_000`. -/
def AckOptions.validity (o : AckOptions) : JsValue := o.validForMs.getD (.number (.ofInt 30000))

/-- The result of `createPomRxWitnessAck`. -/
structure WitnessAck where
  payload : AckPayload
  witnessPublicKey : JsString
  witnessSignature : JsString

/-- `{ ...payload, witness_public_key, witness_signature }`. -/
def WitnessAck.toJs (a : WitnessAck) : JsValue :=
  match a.payload.toJs with
  | .object es => .object (es ++ [(js "witness_public_key", .string a.witnessPublicKey),
      (js "witness_signature", .string a.witnessSignature)])
  | v => v

/-- The check of `validForMs`. -/
def readValidity (value : JsValue) : Except JsString ℤ :=
  match value with
  | .number x =>
    if x.isSafeInteger && 1000 ≤ x.toInt && x.toInt ≤ 300000 then .ok x.toInt
    else .error (js "validForMs must be between 1 second and 5 minutes")
  | _ => .error (js "validForMs must be between 1 second and 5 minutes")

/-- `new Date(ms).toISOString()`. -/
def isoDate (ms : ℤ) : Except JsString IsoDate :=
  if h : ms.natAbs ≤ maxTimeValue then .ok ⟨ms, h⟩ else .error (js "Invalid time value")

theorem isoDate_eq_ok {ms : ℤ} {d : IsoDate} (h : isoDate ms = .ok d) : d.ms = ms := by
  unfold isoDate at h
  split_ifs at h
  cases h
  rfl

section Create

variable (N : Normalization) (R : Runtime) {Key PublicKey : Type} (K : KeyProvider Key PublicKey)

/-- `createPomRxWitnessAck(envelope, witnessPrivateKey, options)` at the time `now`. -/
def createPomRxWitnessAck (now : IsoDate) (envelope : JsValue) (witnessPrivateKey : Key)
    (options : AckOptions) : Except JsString WitnessAck := do
  let verified ← verifyPomRxSourceEnvelope N R K envelope
  check (verified.receipt.phase = .preflight) (js "Witness accepts preflight receipts only")
  let mode ← (assertOneOf AckMode.text ACK_MODES (some (options.mode.getD (.string (js "witnessed"))))
    (js "Unsupported witness acknowledgement mode")).mapError TypeError.message
  let validForMs ← readValidity options.validity
  let receivedAt ← (normalizeDateTime R.date (some (options.received now))
    (js "received_at")).mapError TypeError.message
  check (verified.receipt.occurredAt.ms ≤ receivedAt.ms)
    (js "Witness cannot receive a preflight before its source occurrence time")
  let witnessPublicKey ← toEd25519PublicKey K witnessPrivateKey
  let witnessKeyId := pomRxKeyId K R.hash witnessPublicKey
  check (witnessKeyId ≠ verified.sourceKeyId)
    (js "Source and witness signing keys must be distinct")
  let validUntil ← isoDate (receivedAt.ms + validForMs)
  let payload : AckPayload := {
    receiptHash := verified.receiptHash, receiptId := verified.receipt.receiptId.val
    runId := verified.receipt.runId.val, outcome := verified.receipt.outcome
    sourceKeyId := .string verified.sourceKeyId, receivedAt, validUntil, mode := mode.val
    witnessKeyId }
  let message ← witnessSignatureMessage N payload
  let signature ← K.sign (utf8Encode message) witnessPrivateKey
  .ok ⟨payload, exportPublicKey K witnessPublicKey, Base64.encode signature⟩

end Create

/-- The window that the options ask for: a readable time, and how long it lasts. -/
structure AckOptions.Window (o : AckOptions) (P : DateParser) (now : IsoDate) (t ms : ℤ) : Prop where
  received : ∃ s, o.received now = .string s ∧ P.parse s = some t
  validFor : ∃ x, o.validity = .number x ∧ x.toInt = ms
  validFor_low : 1000 ≤ ms
  validFor_high : ms ≤ 300000

/-- Every expected text that is given is what the acknowledgement has. -/
def AckExpectation.Matches (expected : AckExpectation) (ack : JsValue) : Prop :=
  ∀ key text, (key, some text) ∈ expected.fields → ack.get key = some (.string text)

/-! ## Texts between two texts -/

/-- The texts of the years from one year to another are in the order of the years, and no
    text of another year is between them. -/
def OneEra (year year' : ℤ) : Prop := year = year' ∨ (0 ≤ year ∧ year' ≤ 9999) ∨ 9999 < year

/-- The test of `requireUnexpired`, on texts. -/
def InTextWindow (received validUntil d : IsoDate) : Prop :=
  compare d.text received.text ≠ .lt ∧ compare d.text validUntil.text ≠ .gt

theorem compare_text_lt {d e : IsoDate} : compare d.text e.text = .lt ↔
    textRank (yearOf d.ms) < textRank (yearOf e.ms) ∨
      textRank (yearOf d.ms) = textRank (yearOf e.ms) ∧ d.ms < e.ms := by
  rw [IsoDate.text, IsoDate.text, compare_toISOString d.bounded e.bounded, Ordering.then_eq_lt,
    compare_lt_iff_lt, compare_eq_iff_eq, compare_lt_iff_lt]

theorem inTextWindow_iff {received validUntil d : IsoDate} : InTextWindow received validUntil d ↔
    ¬ (textRank (yearOf d.ms) < textRank (yearOf received.ms) ∨
      textRank (yearOf d.ms) = textRank (yearOf received.ms) ∧ d.ms < received.ms) ∧
    ¬ (textRank (yearOf validUntil.ms) < textRank (yearOf d.ms) ∨
      textRank (yearOf validUntil.ms) = textRank (yearOf d.ms) ∧ validUntil.ms < d.ms) := by
  rw [InTextWindow, ← compare_text_lt, ← compare_text_lt, Ne, Ne, Std.OrientedCmp.gt_iff_lt]

theorem inTextWindow_of_oneEra {received validUntil d : IsoDate} (hle : received.ms ≤ validUntil.ms)
    (hera : OneEra (yearOf received.ms) (yearOf validUntil.ms)) :
    InTextWindow received validUntil d ↔ received.ms ≤ d.ms ∧ d.ms ≤ validUntil.ms := by
  have hyears := yearOf_le hle
  have hbefore : received.ms ≤ d.ms ∨ yearOf d.ms ≤ yearOf received.ms :=
    (le_total received.ms d.ms).imp_right yearOf_le
  have hbefore' : d.ms < received.ms ∨ yearOf received.ms ≤ yearOf d.ms :=
    (lt_or_ge d.ms received.ms).imp_right yearOf_le
  have hafter : d.ms ≤ validUntil.ms ∨ yearOf validUntil.ms ≤ yearOf d.ms :=
    (le_total d.ms validUntil.ms).imp_right yearOf_le
  have hafter' : validUntil.ms < d.ms ∨ yearOf d.ms ≤ yearOf validUntil.ms :=
    (lt_or_ge validUntil.ms d.ms).imp_right yearOf_le
  have hr := natAbs_yearOf_lt received.bounded
  have hv := natAbs_yearOf_lt validUntil.bounded
  have hd := natAbs_yearOf_lt d.bounded
  rw [inTextWindow_iff]
  generalize yearOf received.ms = yr at *
  generalize yearOf validUntil.ms = yv at *
  generalize yearOf d.ms = yd at *
  unfold OneEra at hera
  unfold textRank
  split_ifs <;> omega

/-- The last instant of the year -2. -/
def earlier : IsoDate := ⟨-62198755200001, by decide⟩

/-- Between two instants that are close to each other the texts are those of the window exactly
    when the years are of one era. -/
theorem textWindow_iff {received validUntil : IsoDate} (hle : received.ms ≤ validUntil.ms)
    (hclose : validUntil.ms ≤ received.ms + 300000) :
    (∀ d, InTextWindow received validUntil d ↔ received.ms ≤ d.ms ∧ d.ms ≤ validUntil.ms) ↔
      OneEra (yearOf received.ms) (yearOf validUntil.ms) := by
  constructor
  · intro h
    by_contra hera
    have hyears := yearOf_le hle
    have hr := natAbs_yearOf_lt received.bounded
    have hv := natAbs_yearOf_lt validUntil.bounded
    -- the start of the window is in the window
    have hstart := (inTextWindow_iff.mp ((h received).mpr ⟨le_refl _, hle⟩)).2
    have hneg : yearOf received.ms < 0 ∧ 0 ≤ yearOf validUntil.ms := by
      unfold OneEra at hera
      unfold textRank at hstart
      split_ifs at hstart <;> omega
    -- the window contains the start of the year 0, so the year before it starts in the year -1
    have hzero : -62167219200000 ≤ validUntil.ms := by
      by_contra hlt
      have hlast : yearOf (-62167219200001) = -1 := by decide
      have := yearOf_le (show validUntil.ms ≤ -62167219200001 by omega)
      omega
    have hyear : -1 ≤ yearOf received.ms := by
      have hfirst : yearOf (-62167219500000) = -1 := by decide
      have := yearOf_le (show (-62167219500000 : ℤ) ≤ received.ms by omega)
      omega
    have hearlier : yearOf earlier.ms = -2 := by decide
    have hin : InTextWindow received validUntil earlier := by
      rw [inTextWindow_iff, hearlier]
      unfold textRank at hstart ⊢
      split_ifs at hstart ⊢ <;> omega
    have hms : earlier.ms = -62198755200001 := rfl
    have hwindow := ((h earlier).mp hin).1
    omega
  · intro hera d
    exact inTextWindow_of_oneEra hle hera

/-! ## Reading a created acknowledgement -/

section Created

variable {N : Normalization} {R : Runtime} {Key PublicKey : Type} {K : KeyProvider Key PublicKey}

theorem readValidity_eq_ok {value : JsValue} {ms : ℤ} (h : readValidity value = .ok ms) :
    ∃ x, value = .number x ∧ x.toInt = ms ∧ 1000 ≤ ms ∧ ms ≤ 300000 := by
  unfold readValidity at h
  split at h
  · rename_i x
    split_ifs at h with hbounds
    cases h
    simp only [Bool.and_eq_true, decide_eq_true_eq] at hbounds
    exact ⟨x, rfl, rfl, hbounds.1.2, hbounds.2⟩
  · cases h

theorem length_identifier_low (i : Identifier) : 16 ≤ i.val.length := by
  obtain ⟨s, hs⟩ := i
  cases s with
  | nil => cases hs
  | cons u rest =>
    simp only [ID_PATTERN, Bool.and_eq_true, decide_eq_true_eq] at hs
    show 16 ≤ rest.length + 1
    omega

/-- What a created acknowledgement consists of. -/
structure CreatedAck (N : Normalization) (R : Runtime) (K : KeyProvider Key PublicKey) (now : IsoDate)
    (options : AckOptions) (key : Key) (ack : WitnessAck) (k : Ed25519Key K) : Prop where
  window : options.Window R.date now ack.payload.receivedAt.ms
    (ack.payload.validUntil.ms - ack.payload.receivedAt.ms)
  publicKey : K.createPublicKey key = .ok k.val
  receiptId : 16 ≤ ack.payload.receiptId.length
  runId : 16 ≤ ack.payload.runId.length
  outcome : ack.payload.outcome ∈ PHASE_OUTCOMES .preflight
  sourceKeyId : ∃ s, ack.payload.sourceKeyId = .string s ∧ KEY_ID_PATTERN s = true ∧
    s ≠ ack.payload.witnessKeyId
  witnessKeyId : ack.payload.witnessKeyId = pomRxKeyId K R.hash k
  witnessPublicKey : ack.witnessPublicKey = exportPublicKey K k
  signature : ∃ message signature, witnessSignatureMessage N ack.payload = .ok message ∧
    K.sign (utf8Encode message) key = .ok signature ∧
    ack.witnessSignature = Base64.encode signature

theorem createPomRxWitnessAck_eq_ok {now : IsoDate} {envelope : JsValue} {key : Key}
    {options : AckOptions} {ack : WitnessAck}
    (h : createPomRxWitnessAck N R K now envelope key options = .ok ack) :
    ∃ k, CreatedAck N R K now options key ack k := by
  simp only [createPomRxWitnessAck, bind_eq_ok, mapError_eq_ok, check_eq_ok, exists_const,
    decide_eq_true_eq] at h
  obtain ⟨verified, hverified, hphase, mode, hmode, validFor, hvalidFor, receivedAt, hreceived, -, k,
    hk, hdistinct, validUntil, hvalidUntil, message, hmessage, signature, hsignature, h⟩ := h
  cases h
  obtain ⟨x, hx, hms, hlow, hhigh⟩ := readValidity_eq_ok hvalidFor
  obtain ⟨s, hs, -, hparse⟩ := normalizeDateTime_eq_ok.mp hreceived
  obtain ⟨k', hsource⟩ := verifyPomRxSourceEnvelope_eq_ok hverified
  have hdifference : validUntil.ms - receivedAt.ms = validFor := by
    rw [isoDate_eq_ok hvalidUntil]
    omega
  refine ⟨k, ?_, (toEd25519PublicKey_eq_ok K).mp hk, length_identifier_low _, length_identifier_low _,
    hphase ▸ verified.receipt.outcome_mem, ⟨_, rfl, ?_, Ne.symm hdistinct⟩, rfl, rfl, message,
    signature, hmessage, hsignature, rfl⟩
  · show options.Window R.date now receivedAt.ms (validUntil.ms - receivedAt.ms)
    rw [hdifference]
    exact ⟨⟨s, Option.some.inj hs, hparse⟩, ⟨x, hx, hms⟩, hlow, hhigh⟩
  · rw [hsource.keyId]
    exact KEY_ID_PATTERN_pomRxKeyId R.hash k'

/-- The verifier reads the payload that was signed, and the key. -/
theorem readAck_create (hdate : R.date.ReadsIso) (hK : K.Lawful) {now : IsoDate} {options : AckOptions}
    {key : Key} {ack : WitnessAck} {k : Ed25519Key K}
    (h : CreatedAck N R K now options key ack k) : readAck R K ack.toJs = .ok (ack.payload, k) := by
  obtain ⟨source, hsource, hpattern, hdistinct⟩ := h.sourceKeyId
  have hlow := h.window.validFor_low
  have hhigh := h.window.validFor_high
  have hpublic := h.witnessPublicKey
  have hwitness := h.witnessKeyId
  have hmode : ack.payload.mode ∈ ACK_MODES := by cases ack.payload.mode <;> decide
  simp only [readAck, bind_eq_ok, mapError_eq_ok, check_eq_ok, exists_const, Bool.and_eq_true,
    decide_eq_true_eq]
  refine ⟨(), assertExactKeys_eq_ok.mpr (exactKeys_object rfl), isText_eq_true.mpr rfl,
    ack.payload.receiptHash, assertHash_eq_ok.mpr rfl,
    ack.payload.receiptId, if_pos h.receiptId, ack.payload.runId, if_pos h.runId,
    ⟨ack.payload.outcome, h.outcome⟩, (assertOneOf_eq_ok (Outcome.text_injective .preflight)).mpr rfl,
    ?_, ⟨ack.payload.mode, hmode⟩, (assertOneOf_eq_ok AckMode.text_injective).mpr rfl, ?_, ?_,
    ack.payload.receivedAt, normalizeDateTime_text hdate _ _,
    ack.payload.validUntil, normalizeDateTime_text hdate _ _, ⟨hlow, hhigh⟩,
    k, ?_, isText_eq_true.mpr ?_, ?_⟩
  · show testPattern KEY_ID_PATTERN (some ack.payload.sourceKeyId) = true
    rw [hsource, testPattern_string]
    exact hpattern
  · show testPattern KEY_ID_PATTERN (some (.string ack.payload.witnessKeyId)) = true
    rw [testPattern_string, hwitness]
    exact KEY_ID_PATTERN_pomRxKeyId R.hash k
  · have hget : ack.toJs.get (js "source_key_id") = some ack.payload.sourceKeyId := rfl
    rw [hget, hsource]
    exact decide_eq_true hdistinct
  · show decodePublicKey K (some (.string ack.witnessPublicKey)) = .ok k
    rw [hpublic]
    exact decodePublicKey_exportPublicKey hK k
  · show some (JsValue.string ack.payload.witnessKeyId) = _
    rw [hwitness]
  · rw [← hwitness]
    rfl

theorem checkExpected_of_matches {ack : JsValue} {fields : List (JsString × Option JsString)}
    (h : ∀ key text, (key, some text) ∈ fields → ack.get key = some (.string text)) :
    checkExpected ack fields = .ok () := by
  induction fields with
  | nil => rfl
  | cons f fields ih =>
    obtain ⟨key, expectation⟩ := f
    have hrest := ih fun key' text hmem => h key' text (List.mem_cons_of_mem _ hmem)
    cases expectation with
    | none => exact hrest
    | some text =>
      simp only [checkExpected, bind_eq_ok, check_eq_ok, exists_const]
      exact ⟨isText_eq_true.mpr (h key text List.mem_cons_self), hrest⟩

/-- The verifier accepts a created acknowledgement, with expectations that match, exactly when
    the text of the time is in the window of texts. -/
theorem verifyPomRxWitnessAck_create (hdate : R.date.ReadsIso) (hK : K.Lawful) {now : IsoDate}
    {options : AckOptions} {key : Key} {ack : WitnessAck} {k : Ed25519Key K}
    (h : CreatedAck N R K now options key ack k) {expected : AckExpectation}
    (hmatches : expected.Matches ack.toJs) {time : JsString} (htime : expected.unexpiredAt = some time)
    {d : IsoDate} (hd : normalizeDateTime R.date (some (.string time)) (js "currentTime") = .ok d) :
    (∃ v, verifyPomRxWitnessAck N R K ack.toJs expected = .ok v) ↔
      InTextWindow ack.payload.receivedAt ack.payload.validUntil d := by
  obtain ⟨message, signature, hmessage, hsign, hsignature⟩ := h.signature
  have hunexpired : checkUnexpired R ack.payload.receivedAt ack.payload.validUntil (some time) =
      .ok () ↔ InTextWindow ack.payload.receivedAt ack.payload.validUntil d := by
    simp only [checkUnexpired, bind_eq_ok, mapError_eq_ok, check_eq_ok, exists_const, hd,
      Except.ok.injEq, exists_eq_left', decide_eq_true_eq, InTextWindow]
  constructor
  · rintro ⟨v, hv⟩
    unfold verifyPomRxWitnessAck at hv
    rw [readAck_create hdate hK h] at hv
    simp only [bind_eq_ok, check_eq_ok, exists_const, Except.ok.injEq, exists_eq_left'] at hv
    obtain ⟨_, -, _, -, -, _, -, _, hchecked, -⟩ := hv
    rw [htime] at hchecked
    exact hunexpired.mp hchecked
  · intro hwindow
    have hdecode : decodeSignature (ack.toJs.get (js "witness_signature")) (js "Witness signature") =
        .ok signature := by
      show decodeSignature (some (.string ack.witnessSignature)) _ = _
      rw [hsignature]
      exact decodeSignature_encode
        (hK.length_sign key k.val _ signature h.publicKey k.property hsign) _
    refine ⟨⟨ack.payload, sha256Hex R.hash message⟩, ?_⟩
    simp only [verifyPomRxWitnessAck, bind_eq_ok, check_eq_ok, exists_const]
    exact ⟨(ack.payload, k), readAck_create hdate hK h, message, hmessage, signature, hdecode,
      hK.verify_sign key k.val _ signature h.publicKey k.property hsign, (),
      checkExpected_of_matches hmatches, (), by rw [htime]; exact hunexpired.mpr hwindow, rfl⟩

end Created

/-- A created acknowledgement is accepted in its window and nowhere else exactly when the years
    of its ends are of one era. -/
theorem verifyPomRxWitnessAck_window_iff (N : Normalization) (R : Runtime) {Key PublicKey : Type}
    (K : KeyProvider Key PublicKey) (hdate : R.date.ReadsIso) (hK : K.Lawful) (now : IsoDate)
    (envelope : JsValue) (key : Key) (options : AckOptions) (ack : WitnessAck)
    (h : createPomRxWitnessAck N R K now envelope key options = .ok ack) :
    ∃ received validFor, options.Window R.date now received validFor ∧
      ack.payload.receivedAt.ms = received ∧ ack.payload.validUntil.ms = received + validFor ∧
      ((∀ (expected : AckExpectation) (time : JsString) (t : IsoDate), expected.Matches ack.toJs →
          expected.unexpiredAt = some time →
          normalizeDateTime R.date (some (.string time)) (js "currentTime") = .ok t →
          ((∃ v, verifyPomRxWitnessAck N R K ack.toJs expected = .ok v) ↔
            received ≤ t.ms ∧ t.ms ≤ received + validFor)) ↔
        OneEra (yearOf received) (yearOf (received + validFor))) := by
  obtain ⟨k, hcreated⟩ := createPomRxWitnessAck_eq_ok h
  have hlow := hcreated.window.validFor_low
  have hhigh := hcreated.window.validFor_high
  refine ⟨_, _, hcreated.window, rfl, by omega, ?_⟩
  rw [show ack.payload.receivedAt.ms + (ack.payload.validUntil.ms - ack.payload.receivedAt.ms) =
    ack.payload.validUntil.ms by omega, ← textWindow_iff (by omega) (by omega)]
  constructor
  · intro hall t
    let expected : AckExpectation := ⟨none, none, none, none, none, none, none, some t.text⟩
    have hmatches : expected.Matches ack.toJs := by
      intro key text hmem
      simp [expected, AckExpectation.fields] at hmem
    have htext := normalizeDateTime_text hdate t (js "currentTime")
    rw [← verifyPomRxWitnessAck_create hdate hK hcreated hmatches rfl htext]
    exact hall expected t.text t hmatches rfl htext
  · intro hwindow expected time t hmatches htime ht
    rw [verifyPomRxWitnessAck_create hdate hK hcreated hmatches htime ht]
    exact hwindow t

/-! ## Windows at the end of a year -/

/-- An acknowledgement at the end of the year 9999, of the receipt of `evidence2026`. -/
def evidence9999 : SampleEvidence where
  occurredAt := evidence2026.occurredAt
  receiptHash := evidence2026.receiptHash
  sourceSignature := evidence2026.sourceSignature
  receivedAt := "9999-12-31T23:59:59.000Z"
  validUntil := "+010000-01-01T00:00:01.000Z"
  witnessSignature := 0x8bc9aff7acd9ec90d91ac651fb1b287a235406607b27485be9efc3ef32f1a96f18a4b0654a0d774539b80b484fce7f42a97cc4f0714f297eef9764b8a769240c

/-- The message of the acknowledgement of a sample, and its signature. -/
def SampleEvidence.witnessed (e : SampleEvidence) : SampleKey × List UInt8 × List UInt8 :=
  (.witness, utf8Encode (js "swisstokint:pom-rx-witness-ack:v1:" ++
    canonicalizeValue devanagari (.object e.ackPayload)), bytesOf 64 e.witnessSignature)

/-- The keys, with the signatures of the receipt and of its two acknowledgements. -/
def windowKeys : KeyProvider SampleKey SampleKey :=
  tableKeys
    [(.source, utf8Encode (js "swisstokint:pom-rx-source:v1:" ++ js evidence2026.receiptHash),
        bytesOf 64 evidence2026.sourceSignature),
      evidence2026.witnessed, evidence9999.witnessed]

theorem windowKeys_lawful : windowKeys.Lawful := tableKeys_lawful (by decide)

/-- The options that ask for a window at a time. -/
def windowOptions (receivedAt : String) (validForMs : ℤ) : AckOptions :=
  ⟨some (.string (js receivedAt)), none, some (.number (.ofInt validForMs))⟩

/-- An acknowledgement that the witness creates for the receipt of `evidence2026`. -/
def sampleAck (options : AckOptions) : Except JsString WitnessAck :=
  createPomRxWitnessAck devanagari sampleRuntime windowKeys ⟨0, by decide⟩ evidence2026.envelope
    .witness options

theorem sampleAck_isOk : (sampleAck (windowOptions "2026-06-01T10:00:01.000Z" 300000)).isOk = true ∧
    (sampleAck (windowOptions "9999-12-31T23:59:59.000Z" 2000)).isOk = true := by
  decide +kernel

theorem parse_receivedAt :
    sampleRuntime.date.parse (js "2026-06-01T10:00:01.000Z") = some 1780308001000 ∧
    sampleRuntime.date.parse (js "9999-12-31T23:59:59.000Z") = some 253402300799000 := by
  decide

/-- The window of the options of a sample. -/
theorem window_of_sample {receivedAt : String} {validForMs ms t validFor : ℤ}
    (hparse : sampleRuntime.date.parse (js receivedAt) = some ms)
    (h : (windowOptions receivedAt validForMs).Window sampleRuntime.date ⟨0, by decide⟩ t validFor) :
    t = ms ∧ validFor = (JsNumber.ofInt validForMs).toInt := by
  obtain ⟨s, hs, ht⟩ := h.received
  obtain ⟨x, hx, hvalidFor⟩ := h.validFor
  cases hs
  cases hx
  rw [hparse] at ht
  exact ⟨(Option.some.inj ht).symm, hvalidFor.symm⟩

theorem verifyPomRxWitnessAck_window_2026 :
    ∃ ack, sampleAck (windowOptions "2026-06-01T10:00:01.000Z" 300000) = .ok ack ∧
      ∀ (expected : AckExpectation) (time : JsString) (t : IsoDate), expected.Matches ack.toJs →
        expected.unexpiredAt = some time →
        normalizeDateTime sampleRuntime.date (some (.string time)) (js "currentTime") = .ok t →
        ((∃ v, verifyPomRxWitnessAck devanagari sampleRuntime windowKeys ack.toJs expected = .ok v) ↔
          1780308001000 ≤ t.ms ∧ t.ms ≤ 1780308301000) := by
  obtain ⟨ack, h⟩ := isOk_iff.mp sampleAck_isOk.1
  obtain ⟨received, validFor, hwindow, -, -, hiff⟩ := verifyPomRxWitnessAck_window_iff devanagari
    sampleRuntime windowKeys sampleRuntime_readsIso windowKeys_lawful _ _ _ _ _ h
  obtain ⟨rfl, rfl⟩ := window_of_sample parse_receivedAt.1 hwindow
  have hera : OneEra (yearOf 1780308001000) (yearOf 1780308301000) := .inl (by decide)
  exact ⟨ack, h, hiff.mpr hera⟩

/-- At the end of the year 9999 an acknowledgement is rejected at the time it was received. -/
theorem not_verifyPomRxWitnessAck_window_9999 :
    ¬ ∀ ack, sampleAck (windowOptions "9999-12-31T23:59:59.000Z" 2000) = .ok ack →
      ∀ (expected : AckExpectation) (time : JsString) (t : IsoDate), expected.Matches ack.toJs →
        expected.unexpiredAt = some time →
        normalizeDateTime sampleRuntime.date (some (.string time)) (js "currentTime") = .ok t →
        ((∃ v, verifyPomRxWitnessAck devanagari sampleRuntime windowKeys ack.toJs expected = .ok v) ↔
          ack.payload.receivedAt.ms ≤ t.ms ∧ t.ms ≤ ack.payload.validUntil.ms) := by
  intro hall
  obtain ⟨ack, h⟩ := isOk_iff.mp sampleAck_isOk.2
  obtain ⟨k, hcreated⟩ := createPomRxWitnessAck_eq_ok h
  obtain ⟨hreceived, hvalidFor⟩ := window_of_sample parse_receivedAt.2 hcreated.window
  have hvalidUntil : ack.payload.validUntil.ms = 253402300801000 := by
    have : (JsNumber.ofInt 2000).toInt = 2000 := by decide
    omega
  have hnot : ¬ InTextWindow ack.payload.receivedAt ack.payload.validUntil ack.payload.receivedAt := by
    rw [inTextWindow_iff, hreceived, hvalidUntil]
    decide
  let expected : AckExpectation :=
    ⟨none, none, none, none, none, none, none, some ack.payload.receivedAt.text⟩
  have hmatches : expected.Matches ack.toJs := by
    intro key text hmem
    simp [expected, AckExpectation.fields] at hmem
  have htext := normalizeDateTime_text sampleRuntime_readsIso ack.payload.receivedAt (js "currentTime")
  refine hnot ((verifyPomRxWitnessAck_create sampleRuntime_readsIso windowKeys_lawful hcreated hmatches
    rfl htext).mp ?_)
  exact (hall ack h expected _ _ hmatches rfl htext).mpr ⟨le_refl _, by omega⟩

end OpenRisk.PomRx
