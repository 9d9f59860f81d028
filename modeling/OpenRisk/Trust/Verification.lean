import OpenRisk.Js.Calendar
import OpenRisk.Trust.Records

/-!
# The authorizations of the trust lifecycle

What an answer of `verifyAuthorizationCandidate` rests on, and how long. The verifier of the
acknowledgement compares ISO texts as strings. Before year 0 the order of the texts is not
that of the instants, so that an acknowledgement may be accepted before it was received.

Results:
* `authorizeCandidate_eq_ok`: what an answer rests on.
* `received_le_iff`: when the order of the texts is that of the instants.
* `never_again`: an identity that has ended is never authorized.
* `verifyAuthorizationCandidate_run`: the answers in every state that is reached.
-/

namespace OpenRisk.Trust

open Text Sdk PomRx Machine Date
open OpenRisk.Core

/-! ## Instants and their texts -/

section Texts

theorem natAbs_instant {P : DateParser} (i : UtcInstant P) : i.ms.natAbs ≤ maxTimeValue := P.bounded _ _ i.parse_text

/-- The tests of `requireUnexpired`, for the text of an instant. -/
theorem checkUnexpired_eq_ok {R : Runtime} {received validUntil : IsoDate} {now : UtcInstant R.date}
    (h : checkUnexpired R received validUntil (some now.text) = .ok ()) :
    compare (toISOString now.ms) received.text ≠ .lt ∧
      compare (toISOString now.ms) validUntil.text ≠ .gt := by
  simp only [checkUnexpired, bind_eq_ok, mapError_eq_ok, check_eq_ok, exists_const,
    decide_eq_true_eq] at h
  obtain ⟨current, hcurrent, hlow, hhigh⟩ := h
  obtain ⟨text, htext, -, hparse⟩ := normalizeDateTime_eq_ok.mp hcurrent
  cases htext
  rw [now.parse_text] at hparse
  have hms : current.ms = now.ms := (Option.some.inj hparse).symm
  rw [IsoDate.text, hms] at hlow hhigh
  exact ⟨hlow, hhigh⟩

/-- For an acknowledgement that passes the tests, the time is in order exactly when the years
    before 0 do not drop. -/
theorem received_le_iff {received validUntil : IsoDate} {now : ℤ} (hnow : now.natAbs ≤ maxTimeValue)
    (hvalidity : received.ms ≤ validUntil.ms)
    (hlow : compare (toISOString now) received.text ≠ .lt)
    (hhigh : compare (toISOString now) validUntil.text ≠ .gt) :
    received.ms ≤ now ↔ ¬ (yearOf received.ms < 0 ∧ yearOf now < yearOf received.ms) := by
  have hyears := yearOf_le hvalidity
  have hbig : ¬ (9999 < yearOf received.ms ∧ yearOf now ≤ 9999) := by
    rintro ⟨hreceived, hsmall⟩
    -- the end of the window is also above year 9999, so its text is smaller
    have hlt : compare validUntil.text (toISOString now) = .lt := by
      refine compare_toISOString_lt_of_rank validUntil.bounded hnow ?_
      have hsix := natAbs_yearOf_lt validUntil.bounded
      unfold textRank
      split_ifs <;> omega
    exact hhigh (Std.OrientedCmp.gt_iff_lt.mpr hlt)
  rw [le_iff_of_text_le received.bounded hnow hlow, YearDrop]
  constructor
  · intro hdrop hback
    exact hdrop (.inr hback)
  · rintro hback (hdrop | hdrop)
    · exact hbig hdrop
    · exact hback hdrop

end Texts

/-! ## What an answer rests on -/

section Answers

variable {N : Normalization} {R : Runtime} {Key PublicKey : Type} {K : KeyProvider Key PublicKey}

/-- What an answer for this evidence rests on, apart from the order of `received_at` and the
    time of the clock. -/
structure Rests (N : Normalization) (K : KeyProvider Key PublicKey)
    (Signed : PublicKey → List UInt8 → Prop) (s : TrustState R.date) (envelope ack : JsValue)
    (now : UtcInstant R.date) (auth : Authorization R.date) (v : SourceVerified) (a : AckVerified)
    (k k' : Ed25519Key K) (sourceRecord witnessRecord : Record R.date) : Prop where
  evidence : SourceEvidence N R K envelope v k
  signedReceipt : Signed k.val (utf8Encode (sourceSignatureMessage v.receiptHash))
  allow : v.receipt.phase = .preflight ∧ v.receipt.outcome = .allow
  acknowledged : AckEvidence N R K ack a.payload a.acknowledgementHash k'
  signedAck : ∃ message, witnessSignatureMessage N a.payload = .ok message ∧
    Signed k'.val (utf8Encode message)
  binds : a.payload.receiptHash = v.receiptHash ∧
    a.payload.receiptId = v.receipt.receiptId.val ∧ a.payload.runId = v.receipt.runId.val ∧
    a.payload.outcome = v.receipt.outcome ∧ a.payload.sourceKeyId = .string v.sourceKeyId
  sourceEnrolled : sourceRecord ∈ s.records ∧ sourceRecord.keyId.val = pomRxKeyId K R.hash k ∧
    sourceRecord.role = .source ∧
    envelope.get (js "source_public_key") = some (.string sourceRecord.publicKeySpki)
  witnessEnrolled : witnessRecord ∈ s.records ∧ witnessRecord.keyId.val = pomRxKeyId K R.hash k' ∧
    witnessRecord.role = .witness ∧
    ack.get (js "witness_public_key") = some (.string witnessRecord.publicKeySpki)
  distinct : sourceRecord.keyId ≠ witnessRecord.keyId
  occurred_le : v.receipt.occurredAt.ms ≤ a.payload.receivedAt.ms
  activeThen : recordActiveAt sourceRecord v.receipt.occurredAt.ms = true ∧
    recordActiveAt witnessRecord a.payload.receivedAt.ms = true
  activeNow : sourceRecord.status = .active ∧ witnessRecord.status = .active ∧
    recordActiveAt sourceRecord now.ms = true ∧ recordActiveAt witnessRecord now.ms = true
  bound : auth.authorizationValidUntilMs =
    min (min a.payload.validUntil.ms sourceRecord.validUntil.ms) witnessRecord.validUntil.ms
  later : now.ms < auth.authorizationValidUntilMs
  answer : auth.sourceKeyId = v.sourceKeyId ∧ auth.witnessKeyId = a.payload.witnessKeyId ∧
    auth.receiptHash = v.receiptHash ∧ auth.acknowledgementHash = a.acknowledgementHash ∧
    auth.currentTime = now

/-- Reading the text of a date back gives its instant. -/
theorem ms_of_canonicalText {P : DateParser} {d : IsoDate} {field : JsString} {i : UtcInstant P}
    (h : (canonicalUtcInstant P (.string d.text) field).mapError TrustFailure.verification = .ok i) :
    i.ms = d.ms := by
  rw [mapError_eq_ok, canonicalUtcInstant_eq_ok] at h
  obtain ⟨text, htext, hi⟩ := h
  cases htext
  exact ms_of_text_eq (UtcInstant.text_of_ofText hi)

theorem getRecordText_eq_some {P : DateParser} {records : List (Record P)} {keyId : JsString}
    {r : Record P} (h : getRecordText records keyId = some r) : r ∈ records ∧ r.keyId.val = keyId := by
  have hkey := List.find?_some h
  exact ⟨List.mem_of_find?_eq_some h, of_decide_eq_true hkey⟩

/-- The evidence that the verifier reads. -/
theorem readCandidate_eq_ok {envelope acknowledgement : HostValue} {now : UtcInstant R.date}
    {env ack : JsValue} {v : SourceVerified} {a : AckVerified}
    (h : readCandidate N R K envelope acknowledgement now = .ok (env, v, ack, a)) :
    captureReferencePlainData envelope (js "source envelope") = .ok env ∧
      captureReferencePlainData acknowledgement (js "witness acknowledgement") = .ok ack ∧
      verifyPomRxSourceEnvelope N R K env = .ok v ∧
      verifyPomRxWitnessAck N R K ack (ackExpectation v ack now) = .ok a := by
  unfold readCandidate at h
  obtain ⟨env', henv, h⟩ := bind_eq_ok.mp h
  obtain ⟨v', hv, h⟩ := bind_eq_ok.mp h
  obtain ⟨ack', hack, h⟩ := bind_eq_ok.mp h
  rw [mapError_eq_ok] at henv hv hack
  split at h
  · cases h
  · obtain ⟨a', ha, h⟩ := bind_eq_ok.mp h
    rw [mapError_eq_ok] at ha
    cases h
    exact ⟨henv, hack, hv, ha⟩

theorem outcome_allow_preflight : ∀ p : Phase, Outcome.allow ∈ PHASE_OUTCOMES p → p = .preflight := by
  intro p
  cases p <;> decide

/-- What the acknowledgement says of the receipt. -/
theorem binds_of_expected {v : SourceVerified} {ack : JsValue} {a : AckVerified} {k' : Ed25519Key K}
    {now : UtcInstant R.date} (hack : AckEvidence N R K ack a.payload a.acknowledgementHash k')
    (hexpected : checkExpected ack (ackExpectation v ack now).fields = .ok ())
    (hallow : v.receipt.outcome ∈ PHASE_OUTCOMES .preflight) :
    a.payload.receiptHash = v.receiptHash ∧
      a.payload.receiptId = v.receipt.receiptId.val ∧ a.payload.runId = v.receipt.runId.val ∧
      a.payload.outcome = v.receipt.outcome ∧ a.payload.sourceKeyId = .string v.sourceKeyId := by
  have hfield : ∀ {key text}, (key, some text) ∈ (ackExpectation v ack now).fields →
      ack.get key = some (.string text) := fun hmem => checkExpected_eq_ok hexpected hmem
  have hhash : ack.get (js "receipt_hash") = some (.string v.receiptHash.val) :=
    hfield (by simp [AckExpectation.fields, ackExpectation])
  have hid : ack.get (js "receipt_id") = some (.string v.receipt.receiptId.val) :=
    hfield (by simp [AckExpectation.fields, ackExpectation])
  have hrun : ack.get (js "run_id") = some (.string v.receipt.runId.val) :=
    hfield (by simp [AckExpectation.fields, ackExpectation])
  have houtcome : ack.get (js "outcome") = some (.string v.receipt.outcome.text) :=
    hfield (by simp [AckExpectation.fields, ackExpectation])
  have hsource : ack.get (js "source_key_id") = some (.string v.sourceKeyId) :=
    hfield (by simp [AckExpectation.fields, ackExpectation])
  rw [hack.receiptHash, Option.some.injEq, JsValue.string.injEq] at hhash
  rw [hack.receiptId, Option.some.injEq, JsValue.string.injEq] at hid
  rw [hack.runId, Option.some.injEq, JsValue.string.injEq] at hrun
  rw [hack.outcome, Option.some.injEq, JsValue.string.injEq] at houtcome
  rw [hack.sourceKeyId, Option.some.injEq] at hsource
  exact ⟨Subtype.ext hhash, hid, hrun,
    Outcome.text_injective .preflight _ hack.outcome_mem _ hallow houtcome, hsource⟩

theorem authorizeCandidate_eq_ok {Signed : PublicKey → List UInt8 → Prop}
    (hsigned : ∀ k m signature, K.verify m k signature = true → Signed k m)
    {s : TrustState R.date} {envelope acknowledgement : HostValue} {now : UtcInstant R.date}
    {auth : Authorization R.date}
    (h : authorizeCandidate N R K s envelope acknowledgement now = .ok auth) :
    ∃ env ack v a k k' sourceRecord witnessRecord,
      captureReferencePlainData envelope (js "source envelope") = .ok env ∧
      captureReferencePlainData acknowledgement (js "witness acknowledgement") = .ok ack ∧
      Rests N K Signed s env ack now auth v a k k' sourceRecord witnessRecord ∧
      checkUnexpired R a.payload.receivedAt a.payload.validUntil (some now.text) = .ok () := by
  unfold authorizeCandidate at h
  obtain ⟨⟨env, v, ack, a⟩, hread, h⟩ := bind_eq_ok.mp h
  obtain ⟨henv, hack, hv, ha⟩ := readCandidate_eq_ok hread
  dsimp only at h
  split_ifs at h with hallow
  · cases h
  split at h
  · rename_i sourceRecord witnessRecord hsource hwitness
    split_ifs at h with hrole hkeys
    · cases h
    · cases h
    · obtain ⟨occurredAt, hoccurred, h⟩ := bind_eq_ok.mp h
      obtain ⟨receivedAt, hreceived, h⟩ := bind_eq_ok.mp h
      split_ifs at h with horder hactive
      · cases h
      · cases h
      · obtain ⟨validUntil, hvalid, h⟩ := bind_eq_ok.mp h
        split_ifs at h with hexhausted
        · cases h
        · obtain ⟨trust, -, h⟩ := bind_eq_ok.mp h
          cases h
          have hallow := not_not.mp hallow
          obtain ⟨k, hevidence⟩ := verifyPomRxSourceEnvelope_eq_ok hv
          obtain ⟨⟨k', hacknowledged⟩, hexpected, hunexpired⟩ := verifyPomRxWitnessAck_eq_ok ha
          obtain ⟨hsourceMem, hsourceId⟩ := getRecordText_eq_some hsource
          obtain ⟨hwitnessMem, hwitnessId⟩ := getRecordText_eq_some hwitness
          have hphase : v.receipt.phase = .preflight :=
            outcome_allow_preflight _ (hallow ▸ v.receipt.outcome_mem)
          have hbinds := binds_of_expected hacknowledged hexpected
            (hphase ▸ v.receipt.outcome_mem)
          obtain ⟨signature, hsignature⟩ := hevidence.verified
          obtain ⟨message, signature', hmessage, -, hsignature'⟩ := hacknowledged.verified
          have hoccurred := ms_of_canonicalText hoccurred
          have hreceived := ms_of_canonicalText hreceived
          have hvalid := ms_of_canonicalText hvalid
          push Not at hrole hkeys
          simp only [not_or, Bool.not_eq_false, not_not] at hactive
          simp only [hoccurred, hreceived] at horder hactive
          refine ⟨env, ack, v, a, k, k', sourceRecord, witnessRecord, henv, hack, ?_, hunexpired⟩
          refine
            { evidence := hevidence
              signedReceipt := hsigned _ _ _ hsignature
              allow := ⟨hphase, hallow⟩
              acknowledged := hacknowledged
              signedAck := ⟨message, hmessage, hsigned _ _ _ hsignature'⟩
              binds := hbinds
              sourceEnrolled := ⟨hsourceMem, hsourceId.trans hevidence.keyId, hrole.1,
                isText_eq_true.mp (Bool.not_eq_false _ ▸ hkeys.1)⟩
              witnessEnrolled := ⟨hwitnessMem, hwitnessId.trans hacknowledged.keyId, hrole.2,
                isText_eq_true.mp (Bool.not_eq_false _ ▸ hkeys.2)⟩
              distinct := ?_
              occurred_le := Int.not_lt.mp horder
              activeThen := ⟨hactive.1, hactive.2.1⟩
              activeNow := ⟨hactive.2.2.1, hactive.2.2.2.1, hactive.2.2.2.2.1, hactive.2.2.2.2.2⟩
              bound := ?_
              later := Int.not_le.mp hexhausted
              answer := ⟨rfl, rfl, rfl, rfl, rfl⟩ }
          · intro heq
            apply hacknowledged.distinct
            rw [hbinds.2.2.2.2, ← hsourceId, ← hwitnessId, heq]
          · rw [← hvalid]
  · cases h

/-- The instant that the clock shows. -/
def ClockShows {P : DateParser} (clock : SyncAnswer) (now : UtcInstant P) : Prop :=
  ∃ text, clock = .value (.string text) ∧ UtcInstant.ofText P text = some now

/-- An answer is sound: it rests on evidence that was received before the time of the clock. -/
def Authorized (N : Normalization) (K : KeyProvider Key PublicKey)
    (Signed : PublicKey → List UInt8 → Prop) (s : TrustState R.date)
    (envelope acknowledgement : HostValue) (clock : SyncAnswer) (auth : Authorization R.date) : Prop :=
  ∃ env ack now v a k k' sourceRecord witnessRecord,
    captureReferencePlainData envelope (js "source envelope") = .ok env ∧
    captureReferencePlainData acknowledgement (js "witness acknowledgement") = .ok ack ∧
    ClockShows clock now ∧ Rests N K Signed s env ack now auth v a k k' sourceRecord witnessRecord ∧
    a.payload.receivedAt.ms ≤ now.ms

/-- The year of `received_at` is not before year 0 and above that of the clock. -/
def ReceivedInOrder (P : DateParser) (acknowledgement : HostValue) (clock : SyncAnswer) : Prop :=
  ∀ (ack : JsValue) (received : IsoDate) (now : UtcInstant P),
    captureReferencePlainData acknowledgement (js "witness acknowledgement") = .ok ack →
    normalizeDateTime P (ack.get (js "received_at")) (js "received_at") = .ok received →
    ClockShows clock now → ¬ (yearOf received.ms < 0 ∧ yearOf now.ms < yearOf received.ms)

theorem clockShows_unique {P : DateParser} {clock : SyncAnswer} {now now' : UtcInstant P}
    (h : ClockShows clock now) (h' : ClockShows clock now') : now = now' := by
  obtain ⟨text, rfl, htext⟩ := h
  obtain ⟨text', hclock, htext'⟩ := h'
  cases hclock
  rw [htext] at htext'
  exact Option.some.inj htext'

/-- An answer is sound exactly when the years are in order. -/
theorem authorized_iff {Signed : PublicKey → List UInt8 → Prop}
    (hsigned : ∀ k m signature, K.verify m k signature = true → Signed k m)
    {s t : TrustState R.date} {envelope acknowledgement : HostValue} {clock : SyncAnswer}
    {auth : Authorization R.date}
    (hok : verifyAuthorizationCandidate N R K s envelope acknowledgement clock = (t, .ok auth)) :
    Authorized N K Signed s envelope acknowledgement clock auth ↔
      ReceivedInOrder R.date acknowledgement clock := by
  constructor
  · rintro ⟨env, ack, now, v, a, k, k', sourceRecord, witnessRecord, -, hack, hclock, hrests, hle⟩
      ack' received now' hack' hreceived hclock' ⟨-, hyear⟩
    rw [hack] at hack'
    cases hack'
    rw [hrests.acknowledged.receivedAt] at hreceived
    cases hreceived
    rw [← clockShows_unique hclock hclock'] at hyear
    exact absurd (yearOf_le hle) (not_le.mpr hyear)
  · intro horder
    unfold verifyAuthorizationCandidate at hok
    split at hok
    · cases hok
    · rename_i now hsample
      obtain ⟨text, hclock, htext, -⟩ := sampleTrustedClock_eq_ok.mp hsample
      obtain ⟨env, ack, v, a, k, k', sourceRecord, witnessRecord, henv, hack, hrests, hunexpired⟩ :=
        authorizeCandidate_eq_ok hsigned (congrArg Prod.snd hok)
      have hshows : ClockShows clock now := ⟨text, hclock, htext⟩
      obtain ⟨hlow, hhigh⟩ := checkUnexpired_eq_ok hunexpired
      have hvalidity := hrests.acknowledged.validity.1
      refine ⟨env, ack, now, v, a, k, k', sourceRecord, witnessRecord, henv, hack, hshows, hrests, ?_⟩
      rw [received_le_iff (natAbs_instant now) (by omega) hlow hhigh]
      exact horder ack _ now hack hrests.acknowledged.receivedAt hshows

/-! ## Identities that have ended -/

/-- An active record is not one that has ended before. -/
theorem never_again {s t : TrustState R.date} (ht : TrustInvariant R.hash K t) (hkeeps : Keeps s t)
    {r r' : Record R.date} (hr : r ∈ s.records) (hended : r.status ≠ .active)
    (hr' : r' ∈ t.records) (hactive : r'.status = .active) : r'.keyId ≠ r.keyId := by
  intro hkey
  obtain ⟨r'', hr'', hcontinues⟩ := hkeeps r hr
  have hsame : r'' = r := hcontinues.ended hended
  rw [hsame] at hr''
  rw [eq_of_keyId ht.records.unique hr' hr'' hkey] at hactive
  exact hended hactive

/-- No identity that has ended in the course of these calls is in the answer. -/
def NoneEnded (N : Normalization) (R : Runtime) (K : KeyProvider Key PublicKey)
    (actions : List (TrustAction Key)) (auth : Authorization R.date) : Prop :=
  ∀ before after earlier, actions = before ++ after →
    run (trustStep N R K) .initial before = some earlier → ∀ r ∈ earlier.records,
    r.status ≠ .active → auth.sourceKeyId ≠ r.keyId.val ∧ auth.witnessKeyId ≠ r.keyId.val

theorem trustInvariant_run {actions : List (TrustAction Key)} {s : TrustState R.date}
    (h : run (trustStep N R K) .initial actions = some s) : TrustInvariant R.hash K s :=
  run_invariant (fun _ _ _ hs hstep => hs.step hstep) h trustInvariant_initial

theorem noneEnded_run {actions : List (TrustAction Key)} {s t : TrustState R.date}
    (h : run (trustStep N R K) .initial actions = some s)
    {envelope acknowledgement : HostValue} {clock : SyncAnswer} {auth : Authorization R.date}
    (hok : verifyAuthorizationCandidate N R K s envelope acknowledgement clock = (t, .ok auth)) :
    NoneEnded N R K actions auth := by
  intro before after earlier hactions hbefore r hr hended
  rw [hactions] at h
  obtain ⟨middle, hmiddle, hafter⟩ := run_append.mp h
  rw [hbefore] at hmiddle
  cases hmiddle
  have hs := trustInvariant_run h
  have hkeeps := keeps_run (trustInvariant_run hbefore) hafter
  unfold verifyAuthorizationCandidate at hok
  split at hok
  · cases hok
  · rename_i now hsample
    have hsigned : ∀ k m signature, K.verify m k signature = true → (fun _ _ => True) k m :=
      fun _ _ _ _ => trivial
    obtain ⟨env, ack, v, a, k, k', sourceRecord, witnessRecord, -, -, hrests, -⟩ :=
      authorizeCandidate_eq_ok hsigned (congrArg Prod.snd hok)
    obtain ⟨hsourceMem, hsourceId, -⟩ := hrests.sourceEnrolled
    obtain ⟨hwitnessMem, hwitnessId, -⟩ := hrests.witnessEnrolled
    have hsource := never_again hs hkeeps hr hended hsourceMem hrests.activeNow.1
    have hwitness := never_again hs hkeeps hr hended hwitnessMem hrests.activeNow.2.1
    rw [hrests.answer.1, hrests.answer.2.1, hrests.evidence.keyId, hrests.acknowledged.keyId,
      ← hsourceId, ← hwitnessId]
    exact ⟨fun heq => hsource (Subtype.ext heq), fun heq => hwitness (Subtype.ext heq)⟩

/-- In every state that is reached, an answer of the verifier is sound and free of identities
    that have ended exactly when the years are in order: the acknowledgement was not received in
    a year before 0 that the clock has not reached. -/
theorem verifyAuthorizationCandidate_run {Signed : PublicKey → List UInt8 → Prop}
    (hsigned : ∀ k m signature, K.verify m k signature = true → Signed k m)
    {actions : List (TrustAction Key)} {s t : TrustState R.date}
    (h : run (trustStep N R K) .initial actions = some s)
    {envelope acknowledgement : HostValue} {clock : SyncAnswer} {auth : Authorization R.date}
    (hok : verifyAuthorizationCandidate N R K s envelope acknowledgement clock = (t, .ok auth)) :
    (Authorized N K Signed s envelope acknowledgement clock auth ∧ NoneEnded N R K actions auth) ↔
      ReceivedInOrder R.date acknowledgement clock := by
  rw [authorized_iff hsigned hok]
  exact and_iff_left (noneEnded_run h hok)

end Answers

/-! ## Samples -/

/-- A source and a witness are enrolled at an instant. -/
def enrolments (now validUntil : String) : List (TrustAction SampleKey) :=
  [.enroll (argument [("publicKey", keyObject), ("role", .string (js "source")),
      ("validUntil", .string (js validUntil))]) .source (clockAt now),
    .enroll (argument [("publicKey", keyObject), ("role", .string (js "witness")),
      ("validUntil", .string (js validUntil))]) .witness (clockAt now)]

/-- The answer to the evidence, by the instant of the clock and the end of the authorization. -/
def answerAfter (e : SampleEvidence) (actions : List (TrustAction SampleKey)) (now : String) :
    Option (ℤ × ℤ) :=
  (run (trustStep devanagari sampleRuntime e.keys) .initial actions).bind fun s =>
    (verifyAuthorizationCandidate devanagari sampleRuntime e.keys s (.ofData e.envelope)
      (.ofData e.ack) (clockAt now)).2.toOption.map fun auth =>
        (auth.currentTime.ms, auth.authorizationValidUntilMs)

/-- The verification that an answer is the answer of. -/
theorem exists_of_answerAfter {e : SampleEvidence} {actions : List (TrustAction SampleKey)}
    {now : String} {x : ℤ × ℤ} (h : answerAfter e actions now = some x) :
    ∃ s t auth, run (trustStep devanagari sampleRuntime e.keys) .initial actions = some s ∧
      verifyAuthorizationCandidate devanagari sampleRuntime e.keys s (.ofData e.envelope)
        (.ofData e.ack) (clockAt now) = (t, .ok auth) ∧
      auth.currentTime.ms = x.1 := by
  obtain ⟨s, hrun, h⟩ := Option.bind_eq_some_iff.mp h
  obtain ⟨auth, hauth, hx⟩ := Option.map_eq_some_iff.mp h
  refine ⟨s, _, auth, hrun, Prod.ext rfl (toOption_eq_some.mp hauth), ?_⟩
  rw [← hx]

/-- The table of signatures as what was signed. -/
def signedIn (e : SampleEvidence) (k : SampleKey) (m : List UInt8) : Prop :=
  ∃ signature, e.keys.verify m k signature = true

/-- Evidence that is received in the year -1. -/
def evidenceYear0 : SampleEvidence where
  occurredAt := "-000002-12-31T23:59:59.500Z"
  receiptHash := "62da3315e1c76ec19beca82f69dc76650b933232cef0097143f9ade4b157ea17"
  sourceSignature := 0x006a4e2f93d0f16251829a31c3ab4f3744069ec2618bf0fb35f49a2cf5b315782589078261be83c150dec39e8761b9ebec54970ac5758bfe9aa0dd9069144604
  receivedAt := "-000001-12-31T23:59:59.000Z"
  validUntil := "0000-01-01T00:00:01.000Z"
  witnessSignature := 0x77753bde0da481197fa0a3ceec42580dc0b126b4b1ef4d22f515002d09212ae6e512800dc8dfa98cb62634c6252385bfecd5ed9fe83e53fb24bc07c3956b5504

/-- Evidence of 2026 is accepted in 2026; that of the year -1 is accepted although the clock is in
    the year -2. -/
theorem answerAfter_samples :
    answerAfter evidence2026
      (enrolments "2026-06-01T09:00:00.000Z" "2026-12-01T00:00:00.000Z")
        "2026-06-01T10:00:03.000Z" = some (1780308003000, 1780308301000) ∧
    answerAfter evidenceYear0
      (enrolments "-000002-12-31T23:59:59.500Z" "-000001-12-31T23:59:59.500Z")
        "-000002-12-31T23:59:59.500Z" = some (-62198755200500, -62167219200500) := by
  decide +kernel

theorem parse_received : sampleRuntime.date.parse (js evidence2026.receivedAt) = some 1780308001000 ∧
    sampleRuntime.date.parse (js evidenceYear0.receivedAt) = some (-62167219201000) := by
  decide +kernel

/-- The acknowledgement of a sample is received at the instant of its text. -/
theorem received_of_sample {e : SampleEvidence} {ack : JsValue} {received : IsoDate} {ms : ℤ}
    (hparse : sampleRuntime.date.parse (js e.receivedAt) = some ms)
    (hack : captureReferencePlainData (.ofData e.ack) (js "witness acknowledgement") = .ok ack)
    (h : normalizeDateTime sampleRuntime.date (ack.get (js "received_at")) (js "received_at") =
      .ok received) : received.ms = ms := by
  have hget : e.ack.get (js "received_at") = some (.string (js e.receivedAt)) := rfl
  rw [captureReferencePlainData_ofData hack, hget] at h
  obtain ⟨text, htext, -, htime⟩ := normalizeDateTime_eq_ok.mp h
  cases htext
  rw [hparse] at htime
  exact (Option.some.inj htime).symm

theorem verifyAuthorizationCandidate_run_2026 :
    ∃ s t auth, run (trustStep devanagari sampleRuntime evidence2026.keys) .initial
        (enrolments "2026-06-01T09:00:00.000Z" "2026-12-01T00:00:00.000Z") = some s ∧
      verifyAuthorizationCandidate devanagari sampleRuntime evidence2026.keys s
        (.ofData evidence2026.envelope) (.ofData evidence2026.ack)
        (clockAt "2026-06-01T10:00:03.000Z") = (t, .ok auth) ∧
      Authorized devanagari evidence2026.keys (signedIn evidence2026) s (.ofData evidence2026.envelope)
        (.ofData evidence2026.ack) (clockAt "2026-06-01T10:00:03.000Z") auth := by
  obtain ⟨s, t, auth, hrun, hok, -⟩ := exists_of_answerAfter answerAfter_samples.1
  have hsigned : ∀ k m signature, evidence2026.keys.verify m k signature = true →
      signedIn evidence2026 k m := fun _ _ signature h => ⟨signature, h⟩
  have horder : ReceivedInOrder sampleRuntime.date (.ofData evidence2026.ack)
      (clockAt "2026-06-01T10:00:03.000Z") := by
    intro ack received now hack hreceived _ hback
    rw [received_of_sample parse_received.1 hack hreceived] at hback
    exact absurd hback.1 (by decide +kernel)
  exact ⟨s, t, auth, hrun, hok, ((verifyAuthorizationCandidate_run hsigned hrun hok).mpr horder).1⟩

/-- In the year -2 an acknowledgement of the year -1 is accepted. -/
theorem not_authorized_year0 :
    ∃ s t auth, run (trustStep devanagari sampleRuntime evidenceYear0.keys) .initial
        (enrolments "-000002-12-31T23:59:59.500Z" "-000001-12-31T23:59:59.500Z") = some s ∧
      verifyAuthorizationCandidate devanagari sampleRuntime evidenceYear0.keys s
        (.ofData evidenceYear0.envelope) (.ofData evidenceYear0.ack)
        (clockAt "-000002-12-31T23:59:59.500Z") = (t, .ok auth) ∧
      ¬ Authorized devanagari evidenceYear0.keys (signedIn evidenceYear0) s
        (.ofData evidenceYear0.envelope) (.ofData evidenceYear0.ack)
        (clockAt "-000002-12-31T23:59:59.500Z") auth := by
  obtain ⟨s, t, auth, hrun, hok, hms⟩ := exists_of_answerAfter answerAfter_samples.2
  refine ⟨s, t, auth, hrun, hok, ?_⟩
  rintro ⟨env, ack, now, v, a, k, k', sourceRecord, witnessRecord, -, hack, -, hrests, hle⟩
  rw [received_of_sample parse_received.2 hack hrests.acknowledged.receivedAt,
    ← hrests.answer.2.2.2.2, hms] at hle
  exact absurd hle (by decide)

end OpenRisk.Trust
