import OpenRisk.Sdk.PlainText
import OpenRisk.Trust.Records

/-!
# The size of the trust state

Every mutation writes the whole trust state as a canonical payload, which is limited in bytes,
nodes and depth. A record takes at most 410 bytes, whatever its dates, its status and its
reason are, and there are at most 32 of them.

Results:
* `buildSnapshot_ok`: records and a revision within the bounds of a lifecycle have a snapshot.
* `revokeIdentity_run`: in every state that is reached, revocation is possible.
-/

namespace OpenRisk.Trust

open Text Sdk PomRx Machine Date
open OpenRisk.Core

/-! ## Texts -/

theorem isPlainUnit_digit : ∀ n < 64, isPlainUnit (Base64.digit n) = true := by decide

theorem plain_encode (bs : List UInt8) : ∀ u ∈ Base64.encode bs, isPlainUnit u = true := by
  have hbyte : ∀ b : UInt8, b.toNat < 256 := UInt8.toNat_lt
  have hpad : isPlainUnit Base64.pad = true := by decide
  induction bs using Base64.encode.induct with
  | case1 =>
    intro u hu
    cases hu
  | case2 a =>
    have ha := hbyte a
    simp only [Base64.encode, List.forall_mem_cons]
    exact ⟨isPlainUnit_digit _ (by omega), isPlainUnit_digit _ (by omega), hpad, hpad, by simp⟩
  | case3 a b =>
    have ha := hbyte a
    have hb := hbyte b
    simp only [Base64.encode, List.forall_mem_cons]
    exact ⟨isPlainUnit_digit _ (by omega), isPlainUnit_digit _ (by omega),
      isPlainUnit_digit _ (by omega), hpad, by simp⟩
  | case4 a b c rest ih =>
    have ha := hbyte a
    have hb := hbyte b
    have hc := hbyte c
    simp only [Base64.encode, List.forall_mem_cons]
    exact ⟨isPlainUnit_digit _ (by omega), isPlainUnit_digit _ (by omega),
      isPlainUnit_digit _ (by omega), isPlainUnit_digit _ (by omega), ih⟩

theorem plainWithin_exportPublicKey {Key PublicKey : Type} {K : KeyProvider Key PublicKey}
    (hK : K.Lawful) (k : Ed25519Key K) : PlainWithin 60 (exportPublicKey K k) := by
  refine ⟨plain_encode _, ?_⟩
  rw [exportPublicKey, Base64.length_encode, hK.length_exportSpki k.val k.property]

theorem plainWithin_role (role : Role) : PlainWithin 7 role.text := by
  cases role <;> exact ⟨List.all_eq_true.mp (by decide), by decide⟩

theorem plainWithin_status (status : Status) : PlainWithin 9 status.text := by
  cases status <;> exact ⟨List.all_eq_true.mp (by decide), by decide⟩

theorem plainWithin_reason (reason : TransitionReason) : PlainWithin 17 reason.text := by
  cases reason <;> exact ⟨List.all_eq_true.mp (by decide), by decide⟩

/-! ## Records -/

section Size

variable {N : Normalization} {P : DateParser}

theorem fits_nullableText {n : ℕ} {o : Option JsString} (h : ∀ s, o = some s → PlainWithin n s)
    (hlow : 2 ≤ n) (hn : n ≤ 2048) : Fits N (n + 2) (nullableText o) := by
  cases o with
  | none => exact .null (Nat.add_le_add_right hlow 2)
  | some s => exact (h s rfl).fits hn

/-- The names of a record. -/
def recordKeys : List JsString :=
  ["key_id", "role", "public_key_spki", "enrolled_at", "valid_until", "status",
    "predecessor_key_id", "transition_at", "transition_reason"].map js

theorem isPlainKey_recordKeys : ∀ key ∈ recordKeys, isPlainKey key = true := by
  exact List.all_eq_true.mp (by decide)

/-- What the members of a record take. -/
theorem fits_record (r : Record P) (hspki : PlainWithin 60 r.publicKeySpki) :
    ∃ es, r.toJs = .object es ∧ es.map Prod.fst = recordKeys ∧
      List.Forall₂ (fun n e => Fits N n e.2) [42, 9, 62, 29, 29, 11, 42, 29, 19] es := by
  refine ⟨_, rfl, rfl, ?_⟩
  refine .cons ((plainWithin_keyId r.keyId).fits (by norm_num)) ?_
  refine .cons ((plainWithin_role r.role).fits (by norm_num)) ?_
  refine .cons (hspki.fits (by norm_num)) ?_
  refine .cons ((plainWithin_instant r.enrolledAt).fits (by norm_num)) ?_
  refine .cons ((plainWithin_instant r.validUntil).fits (by norm_num)) ?_
  refine .cons ((plainWithin_status r.status).fits (by norm_num)) ?_
  refine .cons (fits_nullableText ?_ (by norm_num) (by norm_num)) ?_
  · intro s hs
    obtain ⟨k, -, rfl⟩ := Option.map_eq_some_iff.mp hs
    exact plainWithin_keyId k
  refine .cons (fits_nullableText ?_ (by norm_num) (by norm_num)) ?_
  · intro s hs
    obtain ⟨i, -, rfl⟩ := Option.map_eq_some_iff.mp hs
    exact plainWithin_instant i
  refine .cons (fits_nullableText ?_ (by norm_num) (by norm_num)) .nil
  intro s hs
  obtain ⟨reason, -, rfl⟩ := Option.map_eq_some_iff.mp hs
  exact plainWithin_reason reason

/-- A record takes at most 410 bytes and 10 nodes. -/
theorem record_fits (r : Record P) (hspki : PlainWithin 60 r.publicKeySpki) :
    Clean N r.toJs ∧ nodeCount r.toJs = 10 ∧ height r.toJs ≤ 1 ∧ canonicalBytes N r.toJs ≤ 410 := by
  obtain ⟨es, hes, hkeys, hfit⟩ := fits_record (N := N) r hspki
  obtain ⟨hclean, hnodes, hheight, hbytes⟩ :=
    entries_fit (by rw [hkeys]; exact isPlainKey_recordKeys) hfit
  have hlength : es.length = 9 := by
    rw [← List.length_map (f := Prod.fst), hkeys]
    rfl
  have hnames : (recordKeys.map fun key => key.length + 3).sum = 128 := by decide
  rw [hkeys, hnames] at hbytes
  rw [hes]
  refine ⟨hclean, ?_, hheight, ?_⟩
  · rw [nodeCount, hnodes, hlength]
  · rw [canonicalBytes, hlength]
    have hsum : [42, 9, 62, 29, 29, 11, 42, 29, 19].sum = 272 := rfl
    omega

theorem items_fit {records : List (Record P)} (h : ∀ r ∈ records, PlainWithin 60 r.publicKeySpki) :
    CleanItems N (records.map Record.toJs) ∧
      nodeCountItems (records.map Record.toJs) = 10 * records.length ∧
      heightItems (records.map Record.toJs) ≤ 2 ∧
      itemsBytes N (records.map Record.toJs) ≤ 410 * records.length := by
  induction records with
  | nil => exact ⟨trivial, rfl, Nat.zero_le _, le_refl _⟩
  | cons r records ih =>
    rw [List.forall_mem_cons] at h
    obtain ⟨hclean, hnodes, hheight, hbytes⟩ := record_fits (N := N) r h.1
    obtain ⟨hcleans, hnodess, hheights, hbytess⟩ := ih h.2
    rw [List.map_cons, List.length_cons]
    refine ⟨⟨hclean, hcleans⟩, ?_, ?_, ?_⟩
    · rw [nodeCountItems, hnodes, hnodess]
      omega
    · rw [heightItems]
      exact max_le (Nat.succ_le_succ hheight) hheights
    · rw [itemsBytes]
      omega

theorem mem_sortIdentities {records : List (Record P)} {r : Record P} :
    r ∈ sortIdentities records ↔ r ∈ records :=
  (List.perm_insertionSort _ records).mem_iff

theorem length_sortIdentities (records : List (Record P)) :
    (sortIdentities records).length = records.length :=
  (List.perm_insertionSort _ records).length_eq

theorem plainWithin_version : PlainWithin 30 POM_RX_REFERENCE_WITNESS_TRUST_STATE_VERSION :=
  ⟨List.all_eq_true.mp (by decide), by decide⟩

theorem isPlainKey_trustKeys : ∀ key ∈ ["schema_version", "revision", "identities"].map js,
    isPlainKey key = true ∧ byteLength (Json.quote key) ≤ 16 := by
  decide

/-- Up to 32 records, under a revision of two digits, are within the bounds of a payload. -/
theorem trustPayload_ok {records : List (Record P)} {revision : ℕ}
    (hspki : ∀ r ∈ records, PlainWithin 60 r.publicKeySpki)
    (hcapacity : records.length ≤ POM_RX_REFERENCE_WITNESS_TRUST_MAX_IDENTITIES)
    (hrevision : revision < 100) :
    ∃ t, canonicalizePayload N (trustPayload records revision) = .ok t := by
  have hmax : POM_RX_REFERENCE_WITNESS_TRUST_MAX_IDENTITIES = 32 := rfl
  have hsorted : ∀ r ∈ sortIdentities records, PlainWithin 60 r.publicKeySpki :=
    fun r hr => hspki r (mem_sortIdentities.mp hr)
  obtain ⟨hclean, hnodes, hheight, hbytes⟩ := items_fit (N := N) hsorted
  rw [length_sortIdentities] at hnodes hbytes
  have hkey : ∀ name ∈ ["schema_version", "revision", "identities"], SafeKey N (js name) ∧
      byteLength (Json.quote (js name)) ≤ 16 := fun name hname =>
    have h := isPlainKey_trustKeys (js name) (List.mem_map_of_mem hname)
    ⟨safeKey_of_isPlainKey h.1, h.2⟩
  have h₁ := hkey "schema_version" (by simp)
  have h₂ := hkey "revision" (by simp)
  have h₃ := hkey "identities" (by simp)
  have hversion := plainWithin_version.fits (N := N) (by norm_num)
  refine ⟨_, (canonicalizePayload_eq_ok_iff _ _).mpr ⟨⟨_, rfl⟩, ?_, ?_, ?_, ?_, rfl⟩⟩
  · simp only [trustPayload, height, heightEntries]
    have : MAX_DEPTH = 8 := rfl
    omega
  · refine ⟨h₁.1, hversion.clean, h₂.1, ?_, h₃.1, hclean, trivial⟩
    rw [Clean, JsNumber.isSafeInteger_ofInt]
    have : JsNumber.maxSafeInteger = 9007199254740991 := by norm_num [JsNumber.maxSafeInteger]
    omega
  · simp only [trustPayload, nodeCount, nodeCountEntries, hnodes]
    have : MAX_NODES = 1000 := rfl
    omega
  · rw [byteLength_canonicalizeValue_eq]
    have hnumber : canonicalBytes N (.number (.ofInt revision)) ≤ 2 :=
      canonicalBytes_natural (by norm_num) hrevision
    have hversionBytes := hversion.bytes
    have hbound : MAX_CANONICAL_BYTES = 16384 := rfl
    rw [trustPayload, canonicalBytes, entriesBytes_eq]
    simp only [List.map_cons, List.map_nil, List.sum_cons, List.sum_nil, List.length_cons,
      List.length_nil]
    have harray : canonicalBytes N (.array ((sortIdentities records).map Record.toJs)) ≤
        410 * records.length + (records.length - 1) + 2 := by
      rw [canonicalBytes, List.length_map, length_sortIdentities]
      omega
    omega

theorem buildSnapshot_ok (S : Hash) {records : List (Record P)} {revision : ℕ}
    (hspki : ∀ r ∈ records, PlainWithin 60 r.publicKeySpki)
    (hcapacity : records.length ≤ POM_RX_REFERENCE_WITNESS_TRUST_MAX_IDENTITIES)
    (hrevision : revision < 100) :
    ∃ trust, buildSnapshot N S records revision = .ok trust := by
  obtain ⟨canonical, hcanonical⟩ := trustPayload_ok (N := N) hspki hcapacity hrevision
  exact ⟨_, bind_eq_ok.mpr ⟨canonical, mapError_eq_ok.mpr hcanonical, rfl⟩⟩

end Size

/-! ## Revocation -/

section Revocation

variable {N : Normalization} {R : Runtime} {Key PublicKey : Type} {K : KeyProvider Key PublicKey}
  {s : TrustState R.date}

theorem TrustInvariant.spki (hK : K.Lawful) (h : TrustInvariant R.hash K s) :
    ∀ r ∈ s.records, PlainWithin 60 r.publicKeySpki := by
  intro r hr
  obtain ⟨k, -, hspki⟩ := h.key r hr
  rw [hspki]
  exact plainWithin_exportPublicKey hK k

/-- A record is added once and revoked at most once. -/
theorem TrustInvariant.revision_le (h : TrustInvariant R.hash K s) : s.revision ≤ 64 := by
  have hcount : revocations s.records ≤ s.records.length := List.countP_le_length
  have hcapacity : s.records.length ≤ 32 := h.capacity
  have hrevision := h.revision
  omega

theorem snapshot_ok (hK : K.Lawful) (h : TrustInvariant R.hash K s) :
    ∃ trust, s.snapshot N R.hash = .ok trust :=
  buildSnapshot_ok R.hash (h.spki hK) h.capacity (by have := h.revision_le; omega)

theorem readAlternative_revocation : ∀ reason ∈ REVOCATION_REASONS,
    readAlternative TransitionReason.text REVOCATION_REASONS (.string reason.text) = some reason := by
  decide

/-- `revokeIdentity` works out the transition of an active record. -/
theorem revokeChanges_ok (h : TrustInvariant R.hash K s) {r : Record R.date} (hr : r ∈ s.records)
    (hactive : r.status = .active) {reason : TransitionReason} (hreason : reason ∈ REVOCATION_REASONS)
    {fields : List (JsString × HostValue)} (hid : captured fields "keyId" = .string r.keyId.val)
    (hreasonText : captured fields "reason" = .string reason.text) (now : UtcInstant R.date) :
    revokeChanges s fields now = .ok [r.transition .revoked now reason] := by
  have hkeyId : validateKeyId (captured fields "keyId") (js "key_id") = .ok r.keyId := by
    rw [hid]
    exact dif_pos r.keyId.property
  have hvalid : validateReason REVOCATION_REASONS (captured fields "reason")
      (js "revocation reason is invalid") = .ok reason := by
    rw [hreasonText, validateReason, readAlternative_revocation reason hreason]
  refine bind_eq_ok.mpr ⟨r.keyId, hkeyId, bind_eq_ok.mpr ⟨reason, hvalid, ?_⟩⟩
  rw [getRecord_of_mem h.records.unique hr]
  exact if_neg (not_not.mpr hactive)

theorem stageMutation_transition (hK : K.Lawful) (h : TrustInvariant R.hash K s)
    {r : Record R.date} (hr : r ∈ s.records) (now : UtcInstant R.date) (reason : TransitionReason) :
    ∃ prepared, stageMutation N R.hash s [r.transition .revoked now reason] = .ok prepared := by
  have hspki : ∀ r' ∈ updateRecord s.records (r.transition .revoked now reason),
      PlainWithin 60 r'.publicKeySpki := by
    intro r' hr'
    rcases mem_updateRecord hr' with rfl | ⟨hr', -⟩
    · exact h.spki hK r hr
    · exact h.spki hK r' hr'
  have hcapacity : (updateRecord s.records (r.transition .revoked now reason)).length ≤
      POM_RX_REFERENCE_WITNESS_TRUST_MAX_IDENTITIES := by
    rw [length_updateRecord]
    exact h.capacity
  have hrevision : s.revision + 1 < 100 := by
    have hle := h.revision_le
    omega
  obtain ⟨trust, htrust⟩ := buildSnapshot_ok (N := N) R.hash hspki hcapacity hrevision
  have hset : [r.transition .revoked now reason].foldl setRecord s.records =
      updateRecord s.records (r.transition .revoked now reason) := setRecord_transition hr _ _ _
  refine ⟨⟨[r.transition .revoked now reason],
    updateRecord s.records (r.transition .revoked now reason), trust⟩, ?_⟩
  unfold stageMutation
  rw [hset]
  refine (if_neg (Nat.not_lt.mpr hcapacity)).trans ?_
  exact bind_eq_ok.mpr ⟨trust, htrust, rfl⟩

/-- In every state that is reached, `snapshot()` succeeds, and so does `revokeIdentity` of an
    active identity, for a valid reason and an instant of the clock that is not before the last
    one: no limit stands in the way. -/
theorem revokeIdentity_run (hK : K.Lawful) {actions : List (TrustAction Key)}
    (h : run (trustStep N R K) .initial actions = some s) :
    (∃ trust, s.snapshot N R.hash = .ok trust) ∧
    ∀ r ∈ s.records, r.status = .active → ∀ reason ∈ REVOCATION_REASONS, ∀ input fields text now,
      snapshotExactReferences input (["keyId", "reason"].map js) (js "identity revocation") =
        .ok fields →
      captured fields "keyId" = .string r.keyId.val →
      captured fields "reason" = .string reason.text →
      UtcInstant.ofText R.date text = some now → s.Follows now →
      ∃ prepared, revokeIdentity N R.hash s input (.value (.string text)) =
        (s.published now (updateRecord s.records (r.transition .revoked now reason)),
          .ok prepared) := by
  have hs : TrustInvariant R.hash K s :=
    run_invariant (fun _ _ _ hs hstep => hs.step hstep) h trustInvariant_initial
  refine ⟨snapshot_ok hK hs, ?_⟩
  intro r hr hactive reason hreason input fields text now hinput hid hreasonText htext hnow
  have hclock : sampleTrustedClock s (.value (.string text)) = .ok now :=
    sampleTrustedClock_eq_ok.mpr ⟨text, rfl, htext, hnow⟩
  have hchanges := revokeChanges_ok hs hr hactive hreason hid hreasonText now
  obtain ⟨prepared, hprepared⟩ := stageMutation_transition (N := N) hK hs hr now reason
  obtain ⟨-, hrecords, hrevision⟩ := stageMutation_eq_ok hprepared
  have hset : [r.transition .revoked now reason].foldl setRecord s.records =
      updateRecord s.records (r.transition .revoked now reason) := setRecord_transition hr _ _ _
  have hstage : (revokeChanges s fields now >>= stageMutation N R.hash s) = .ok prepared :=
    bind_eq_ok.mpr ⟨_, hchanges, hprepared⟩
  refine ⟨prepared, ?_⟩
  unfold revokeIdentity mutate
  simp only [hinput, hclock, hstage]
  rw [commitMutation, hrecords, hrevision, hset]
  rfl

end Revocation

/-- `{ keyId, reason }`. -/
def revocationInput (keyId reason : JsString) : HostValue :=
  .ofData (.object [(js "keyId", .string keyId), (js "reason", .string reason)])

theorem snapshotExactReferences_revocationInput (keyId reason : JsString) :
    snapshotExactReferences (revocationInput keyId reason) (["keyId", "reason"].map js)
      (js "identity revocation") =
      .ok [(js "keyId", .string keyId), (js "reason", .string reason)] := by
  have hkeys : [(js "keyId", JsValue.string keyId), (js "reason", .string reason)].map Prod.fst =
      ["keyId", "reason"].map js := rfl
  exact @snapshotRecord_ofData _ _ _ (fun names => sortNames names = sortNames (["keyId", "reason"].map js))
    _ hkeys (by simp) (by decide)

theorem ofText_noon : (UtcInstant.ofText sampleRuntime.date (js "2026-06-01T12:00:00.000Z")).map
    (fun i => i.ms) = some 1780315200000 := by
  decide +kernel

/-- The successor of a rotation can be revoked. -/
theorem revokeIdentity_run_rotation :
    ∃ s, run (trustStep devanagari sampleRuntime (tableKeys [])) .initial rotationCalls = some s ∧
      ∃ r ∈ s.records, r.predecessorKeyId.isSome = true ∧ ∃ t prepared,
        revokeIdentity devanagari sampleRuntime.hash s (revocationInput r.keyId.val (js "compromise"))
          (clockAt "2026-06-01T12:00:00.000Z") = (t, .ok prepared) := by
  obtain ⟨s, hrun, hvalues⟩ := Option.map_eq_some_iff.mp run_rotationCalls
  obtain ⟨now, hnow, hms⟩ := Option.map_eq_some_iff.mp ofText_noon
  have hlast : s.lastTrustedTimeMs = some 1780311600000 := congrArg (fun x => x.2.1) hvalues
  have hrecords := congrArg (fun x => x.2.2) hvalues
  obtain ⟨old, rest, hlist, -, hrest⟩ := List.map_eq_cons_iff.mp hrecords
  obtain ⟨r, tail, rfl, hr, -⟩ := List.map_eq_cons_iff.mp hrest
  have hmem : r ∈ s.records := by
    rw [hlist]
    simp
  have hpredecessor := congrArg (fun x => x.2.isSome) hr
  have hfollows : s.Follows now := by
    intro last hlast'
    rw [hlast] at hlast'
    cases hlast'
    rw [hms]
    decide
  obtain ⟨-, hrevoke⟩ := revokeIdentity_run (tableKeys_lawful (by simp)) hrun
  obtain ⟨prepared, hprepared⟩ := hrevoke r hmem (congrArg Prod.fst hr) .compromise (by decide)
    (revocationInput r.keyId.val (js "compromise")) _ (js "2026-06-01T12:00:00.000Z") now
    (snapshotExactReferences_revocationInput _ _) rfl rfl hnow hfollows
  refine ⟨s, hrun, r, hmem, ?_, _, prepared, hprepared⟩
  simpa using hpredecessor

end OpenRisk.Trust
