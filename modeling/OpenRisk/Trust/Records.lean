import OpenRisk.Trust.Lifecycle

/-!
# The records of the trust lifecycle

What holds of the identities after any sequence of calls. An operation either appends the
record of a new key, or gives an active record its only transition, or does both.

Results:
* `RecordsOk.transition_ok`, `RecordsOk.append_ok`: the two changes keep records well-formed.
* `trustCall_cases`: what a call can do.
* `TrustInvariant.effect`: what every call preserves.
* `trustLifecycle_run`: the records after any sequence of calls.
-/

namespace OpenRisk.Trust

open Text Sdk PomRx Machine
open OpenRisk.Core

/-! ## The list of records -/

section Lists

variable {P : DateParser} {records : List (Record P)} {existing updated r : Record P} {k : KeyId}

/-- The list with the record of this key replaced. -/
def updateRecord (records : List (Record P)) (updated : Record P) : List (Record P) :=
  records.map fun r => if r.keyId = updated.keyId then updated else r

theorem hasRecord_iff : hasRecord records k = true ↔ ∃ r ∈ records, r.keyId = k := by
  simp [hasRecord]

theorem hasRecord_eq_false : hasRecord records k = false ↔ ∀ r ∈ records, r.keyId ≠ k := by
  simp [hasRecord]

theorem setRecord_new (h : hasRecord records updated.keyId = false) :
    setRecord records updated = records ++ [updated] := by
  rw [setRecord, h]
  rfl

theorem setRecord_known (h : hasRecord records updated.keyId = true) :
    setRecord records updated = updateRecord records updated := by
  rw [setRecord, h]
  rfl

theorem getRecord_eq_some (h : getRecord records k = some r) : r ∈ records ∧ r.keyId = k := by
  have hkey := List.find?_some h
  exact ⟨List.mem_of_find?_eq_some h, of_decide_eq_true hkey⟩

theorem map_keyId_updateRecord :
    (updateRecord records updated).map Record.keyId = records.map Record.keyId := by
  rw [updateRecord, List.map_map]
  apply List.map_congr_left
  intro r _
  rw [Function.comp_apply]
  split_ifs with h
  · exact h.symm
  · rfl

theorem hasRecord_updateRecord : hasRecord (updateRecord records updated) k = hasRecord records k := by
  have hkeys : ∀ l : List (Record P), hasRecord l k = (l.map Record.keyId).any (· = k) := by
    intro l
    rw [hasRecord, List.any_map]
    rfl
  rw [hkeys, hkeys, map_keyId_updateRecord]

theorem length_updateRecord : (updateRecord records updated).length = records.length := by
  rw [updateRecord, List.length_map]

theorem mem_updateRecord (h : r ∈ updateRecord records updated) :
    r = updated ∨ (r ∈ records ∧ r.keyId ≠ updated.keyId) := by
  obtain ⟨r', hr', rfl⟩ := List.mem_map.mp h
  split_ifs with hkey
  · exact .inl rfl
  · exact .inr ⟨hr', hkey⟩

theorem mem_updateRecord_self (h : existing ∈ records) (hkey : existing.keyId = updated.keyId) :
    updated ∈ updateRecord records updated :=
  List.mem_map.mpr ⟨existing, h, if_pos hkey⟩

theorem mem_updateRecord_other (h : r ∈ records) (hkey : r.keyId ≠ updated.keyId) :
    r ∈ updateRecord records updated :=
  List.mem_map.mpr ⟨r, h, if_neg hkey⟩

/-- Replacing a record changes a count by what the two records count. -/
theorem countP_updateRecord (p : Record P → Bool) (hnodup : (records.map Record.keyId).Nodup)
    (hexisting : existing ∈ records) (hkey : existing.keyId = updated.keyId) :
    (updateRecord records updated).countP p + (if p existing then 1 else 0) =
      records.countP p + if p updated then 1 else 0 := by
  induction records with
  | nil => cases hexisting
  | cons a records ih =>
    rw [List.map_cons, List.nodup_cons] at hnodup
    rw [updateRecord, List.map_cons, List.countP_cons, List.countP_cons]
    rcases List.mem_cons.mp hexisting with rfl | hexisting
    · have hrest : records.map (fun r => if r.keyId = updated.keyId then updated else r) = records := by
        refine (List.map_congr_left ?_).trans (List.map_id records)
        intro r hr
        apply if_neg
        intro heq
        exact hnodup.1 (List.mem_map.mpr ⟨r, hr, heq.trans hkey.symm⟩)
      rw [hrest, if_pos hkey]
      omega
    · have hne : a.keyId ≠ updated.keyId := by
        intro heq
        exact hnodup.1 (List.mem_map.mpr ⟨existing, hexisting, hkey.trans heq.symm⟩)
      have hrest := ih hnodup.2 hexisting
      rw [updateRecord] at hrest
      rw [if_neg hne]
      omega

theorem eq_of_keyId (hnodup : (records.map Record.keyId).Nodup) (hr : r ∈ records)
    (hexisting : existing ∈ records) (h : r.keyId = existing.keyId) : r = existing :=
  List.inj_on_of_nodup_map hnodup hr hexisting h

theorem getRecord_of_mem (hnodup : (records.map Record.keyId).Nodup) (hr : r ∈ records) :
    getRecord records r.keyId = some r := by
  cases hget : getRecord records r.keyId with
  | none =>
    rw [getRecord, List.find?_eq_none] at hget
    exact absurd (decide_eq_true rfl) (hget r hr)
  | some r' =>
    obtain ⟨hr', hkey⟩ := getRecord_eq_some hget
    rw [eq_of_keyId hnodup hr' hr hkey]

end Lists

/-! ## Well-formed records -/

section Wellformed

variable {P : DateParser}

/-- What holds of the records of a lifecycle. -/
structure RecordsOk (records : List (Record P)) : Prop where
  unique : (records.map Record.keyId).Nodup
  transition : ∀ r ∈ records, (r.status = .active ↔ r.transitionAt = none) ∧
    (r.status = .active ↔ r.transitionReason = none)
  ordered : ∀ r ∈ records, ∀ t, r.transitionAt = some t → r.enrolledAt.ms ≤ t.ms
  successor : ∀ r ∈ records, ∀ r' ∈ records, ∀ k, r.predecessorKeyId = some k →
    r'.predecessorKeyId = some k → r = r'
  link : ∀ r ∈ records, ∀ k, r.predecessorKeyId = some k → ∃ p ∈ records, p.keyId = k ∧
    p.role = r.role ∧ (p.status = .rotated ∨ p.status = .recovered) ∧
    p.transitionAt = some r.enrolledAt
  /-- A predecessor comes earlier in the list. -/
  backwards : records.Pairwise fun a b => a.predecessorKeyId ≠ some b.keyId
  irreflexive : ∀ r ∈ records, r.predecessorKeyId ≠ some r.keyId

variable {records : List (Record P)} {existing new : Record P} {status : Status}
  {now : UtcInstant P} {reason : TransitionReason}

theorem RecordsOk.nil : RecordsOk ([] : List (Record P)) where
  unique := List.nodup_nil
  transition _ hr := nomatch hr
  ordered _ hr := nomatch hr
  successor _ hr := nomatch hr
  link _ hr := nomatch hr
  backwards := List.Pairwise.nil
  irreflexive _ hr := nomatch hr

/-- The record that has the predecessor of an updated one is the updated one or unchanged. -/
theorem exists_of_mem_transition (hexisting : existing ∈ records) {r : Record P}
    (hr : r ∈ updateRecord records (existing.transition status now reason)) :
    ∃ r₀ ∈ records, r₀.keyId = r.keyId ∧ r₀.predecessorKeyId = r.predecessorKeyId ∧
      r₀.role = r.role ∧ r₀.enrolledAt = r.enrolledAt ∧
      (r₀.keyId = existing.keyId → r = existing.transition status now reason) := by
  rcases mem_updateRecord hr with rfl | ⟨hr, hkey⟩
  · exact ⟨existing, hexisting, rfl, rfl, rfl, rfl, fun _ => rfl⟩
  · exact ⟨r, hr, rfl, rfl, rfl, rfl, fun h => absurd h hkey⟩

/-- An active record may get a transition that is not before its enrollment. -/
theorem RecordsOk.transition_ok (h : RecordsOk records) (hexisting : existing ∈ records)
    (hactive : existing.status = .active) (hstatus : status ≠ .active)
    (hnow : existing.enrolledAt.ms ≤ now.ms) :
    RecordsOk (updateRecord records (existing.transition status now reason)) where
  unique := by
    rw [map_keyId_updateRecord]
    exact h.unique
  transition r hr := by
    rcases mem_updateRecord hr with rfl | ⟨hr, -⟩
    · simp [Record.transition, hstatus]
    · exact h.transition r hr
  ordered r hr t ht := by
    rcases mem_updateRecord hr with rfl | ⟨hr, -⟩
    · cases ht
      exact hnow
    · exact h.ordered r hr t ht
  successor r hr r' hr' k hk hk' := by
    obtain ⟨r₀, hr₀, hkey, hpred, -, -, heq⟩ := exists_of_mem_transition hexisting hr
    obtain ⟨r₀', hr₀', hkey', hpred', -, -, heq'⟩ := exists_of_mem_transition hexisting hr'
    have hsame : r₀ = r₀' := h.successor r₀ hr₀ r₀' hr₀' k (hpred.trans hk) (hpred'.trans hk')
    by_cases hid : r₀.keyId = existing.keyId
    · rw [heq hid, heq' (hsame ▸ hid)]
    · rcases mem_updateRecord hr with rfl | ⟨hr, -⟩
      · exact absurd hkey hid
      · rcases mem_updateRecord hr' with rfl | ⟨hr', -⟩
        · rw [hsame] at hid
          exact absurd hkey' hid
        · exact h.successor r hr r' hr' k hk hk'
  link r hr k hk := by
    obtain ⟨r₀, hr₀, -, hpred, hrole, henrolled, -⟩ := exists_of_mem_transition hexisting hr
    obtain ⟨p, hp, hpk, hprole, hpstatus, hpat⟩ := h.link r₀ hr₀ k (hpred.trans hk)
    -- the predecessor is not active, so it is not the record that changes
    have hne : p.keyId ≠ existing.keyId := by
      intro heq
      rw [eq_of_keyId h.unique hp hexisting heq, hactive] at hpstatus
      rcases hpstatus with hs | hs <;> cases hs
    refine ⟨p, mem_updateRecord_other hp hne, hpk, hprole.trans hrole, hpstatus, ?_⟩
    rw [hpat, henrolled]
  backwards := by
    rw [updateRecord, List.pairwise_map]
    refine h.backwards.imp_of_mem ?_
    intro a b ha hb hab
    have hpred : ∀ c ∈ records, (if c.keyId = (existing.transition status now reason).keyId
        then existing.transition status now reason else c).predecessorKeyId = c.predecessorKeyId := by
      intro c hc
      split_ifs with hid
      · rw [eq_of_keyId h.unique hc hexisting hid]
        rfl
      · rfl
    have hkey : ∀ c : Record P, (if c.keyId = (existing.transition status now reason).keyId
        then existing.transition status now reason else c).keyId = c.keyId := by
      intro c
      split_ifs with hid
      · exact hid.symm
      · rfl
    rw [hpred a ha, hkey b]
    exact hab
  irreflexive r hr := by
    obtain ⟨r₀, hr₀, hkey, hpred, -⟩ := exists_of_mem_transition hexisting hr
    rw [← hkey, ← hpred]
    exact h.irreflexive r₀ hr₀

/-- What a new record must satisfy: a new key, active, and without a predecessor or the first
    successor of a record that has just ended. -/
structure MayAppend (records : List (Record P)) (new : Record P) : Prop where
  fresh : ∀ r ∈ records, r.keyId ≠ new.keyId
  active : new.status = .active ∧ new.transitionAt = none ∧ new.transitionReason = none
  first : ∀ k, new.predecessorKeyId = some k → ∀ r ∈ records, r.predecessorKeyId ≠ some k
  link : ∀ k, new.predecessorKeyId = some k → ∃ p ∈ records, p.keyId = k ∧ p.role = new.role ∧
    (p.status = .rotated ∨ p.status = .recovered) ∧ p.transitionAt = some new.enrolledAt

theorem RecordsOk.append_ok (h : RecordsOk records) (hnew : MayAppend records new) :
    RecordsOk (records ++ [new]) where
  unique := by
    rw [List.map_append, List.map_singleton, List.nodup_append]
    refine ⟨h.unique, List.nodup_singleton _, ?_⟩
    intro a ha b hb heq
    obtain ⟨r, hr, rfl⟩ := List.mem_map.mp ha
    rw [List.mem_singleton.mp hb] at heq
    exact hnew.fresh r hr heq
  transition r hr := by
    rcases List.mem_append.mp hr with hr | hr
    · exact h.transition r hr
    · rw [List.mem_singleton.mp hr]
      simp [hnew.active]
  ordered r hr t ht := by
    rcases List.mem_append.mp hr with hr | hr
    · exact h.ordered r hr t ht
    · rw [List.mem_singleton.mp hr, hnew.active.2.1] at ht
      cases ht
  successor r hr r' hr' k hk hk' := by
    rcases List.mem_append.mp hr with hr | hr <;> rcases List.mem_append.mp hr' with hr' | hr'
    · exact h.successor r hr r' hr' k hk hk'
    · rw [List.mem_singleton.mp hr'] at hk'
      exact absurd hk (hnew.first k hk' r hr)
    · rw [List.mem_singleton.mp hr] at hk
      exact absurd hk' (hnew.first k hk r' hr')
    · rw [List.mem_singleton.mp hr, List.mem_singleton.mp hr']
  link r hr k hk := by
    rcases List.mem_append.mp hr with hr | hr
    · obtain ⟨p, hp, hlink⟩ := h.link r hr k hk
      exact ⟨p, List.mem_append_left _ hp, hlink⟩
    · rw [List.mem_singleton.mp hr] at hk ⊢
      obtain ⟨p, hp, hlink⟩ := hnew.link k hk
      exact ⟨p, List.mem_append_left _ hp, hlink⟩
  backwards := by
    rw [List.pairwise_append]
    refine ⟨h.backwards, List.pairwise_singleton _ _, ?_⟩
    intro a ha b hb hab
    rw [List.mem_singleton.mp hb] at hab
    obtain ⟨p, hp, hpk, -⟩ := h.link a ha _ hab
    exact hnew.fresh p hp hpk
  irreflexive r hr := by
    rcases List.mem_append.mp hr with hr | hr
    · exact h.irreflexive r hr
    · rw [List.mem_singleton.mp hr]
      intro heq
      obtain ⟨p, hp, hpk, -⟩ := hnew.link _ heq
      exact hnew.fresh p hp hpk

/-- The place of a key in the list. -/
def rank (records : List (Record P)) (k : KeyId) : ℕ := (records.map Record.keyId).idxOf k

/-- A predecessor link between two records. -/
def Precedes (records : List (Record P)) (p r : Record P) : Prop :=
  p ∈ records ∧ r ∈ records ∧ r.predecessorKeyId = some p.keyId

theorem RecordsOk.rank_getElem (h : RecordsOk records) {i : ℕ} (hi : i < records.length) :
    rank records records[i].keyId = i := by
  have hi' : i < (records.map Record.keyId).length := by rwa [List.length_map]
  have hkey : records[i].keyId = (records.map Record.keyId)[i] := (List.getElem_map _).symm
  rw [rank, hkey]
  exact h.unique.idxOf_getElem i hi'

theorem RecordsOk.rank_lt (h : RecordsOk records) {p r : Record P} (hpr : Precedes records p r) :
    rank records p.keyId < rank records r.keyId := by
  obtain ⟨hp, hr, hlink⟩ := hpr
  obtain ⟨i, hi, rfl⟩ := List.getElem_of_mem hp
  obtain ⟨j, hj, rfl⟩ := List.getElem_of_mem hr
  rw [h.rank_getElem hi, h.rank_getElem hj]
  by_contra hle
  rcases Nat.lt_or_eq_of_le (Nat.not_lt.mp hle) with hlt | heq
  · exact List.pairwise_iff_getElem.mp h.backwards j i hj hi hlt hlink
  · subst heq
    exact h.irreflexive _ hr hlink

/-- Predecessor links are acyclic. -/
theorem RecordsOk.acyclic (h : RecordsOk records) (r : Record P) :
    ¬ Relation.TransGen (Precedes records) r r := by
  have hlt : ∀ p r, Relation.TransGen (Precedes records) p r →
      rank records p.keyId < rank records r.keyId := by
    intro p r hpr
    induction hpr with
    | single hpr => exact h.rank_lt hpr
    | tail _ hpr ih => exact ih.trans (h.rank_lt hpr)
  intro hr
  exact Nat.lt_irrefl _ (hlt r r hr)

end Wellformed

/-! ## What a call can do -/

section Effects

variable {P : DateParser}

/-- An instant that the clock may show next. -/
def TrustState.Follows (s : TrustState P) (now : UtcInstant P) : Prop :=
  ∀ last, s.lastTrustedTimeMs = some last → last ≤ now.ms

/-- The state after a mutation. -/
def TrustState.published (s : TrustState P) (now : UtcInstant P) (records : List (Record P)) :
    TrustState P :=
  ⟨records, s.revision + 1, some now.ms⟩

variable (S : Hash) {Key PublicKey : Type} (K : KeyProvider Key PublicKey)

/-- What a call can do, and whether it is a mutation that succeeds. -/
inductive TrustEffect (s : TrustState P) : TrustState P → Bool → Prop where
  | refused : TrustEffect s s false
  | observed (now : UtcInstant P) (hnow : s.Follows now) : TrustEffect s (s.sampled now) false
  | enrolled (k : Ed25519Key K) (role : Role) (now expiry : UtcInstant P) (hnow : s.Follows now)
      (hnew : hasRecord s.records (identityKeyId K S k) = false)
      (hcapacity : s.records.length < POM_RX_REFERENCE_WITNESS_TRUST_MAX_IDENTITIES) :
      TrustEffect s (s.published now (s.records ++ [newRecord S K k role now expiry none])) true
  | revoked (existing : Record P) (reason : TransitionReason) (now : UtcInstant P)
      (hnow : s.Follows now) (hmem : existing ∈ s.records) (hactive : existing.status = .active) :
      TrustEffect s
        (s.published now (updateRecord s.records (existing.transition .revoked now reason))) true
  | replaced (existing : Record P) (status : Status) (reason : TransitionReason)
      (k : Ed25519Key K) (now expiry : UtcInstant P) (hnow : s.Follows now)
      (hmem : existing ∈ s.records) (hactive : existing.status = .active)
      (hstatus : status = .rotated ∨ status = .recovered)
      (hfirst : ∀ r ∈ s.records, r.predecessorKeyId ≠ some existing.keyId)
      (hnew : hasRecord s.records (identityKeyId K S k) = false)
      (hcapacity : s.records.length < POM_RX_REFERENCE_WITNESS_TRUST_MAX_IDENTITIES) :
      TrustEffect s
        (s.published now (updateRecord s.records (existing.transition status now reason) ++
          [newRecord S K k existing.role now expiry (some existing.keyId)])) true

end Effects

section Calls

variable {N : Normalization} {S : Hash} {P : DateParser} {Key PublicKey : Type}
  {K : KeyProvider Key PublicKey} {s : TrustState P} {clock : SyncAnswer}

theorem canonicalUtcInstant_eq_ok {value : HostValue} {field : JsString} {i : UtcInstant P} :
    canonicalUtcInstant P value field = .ok i ↔
      ∃ text, value = .string text ∧ UtcInstant.ofText P text = some i := by
  cases value with
  | string text =>
    simp only [canonicalUtcInstant, HostValue.string.injEq, exists_eq_left']
    split <;> simp_all [trustFail]
  | _ => simp [canonicalUtcInstant, trustFail]

/-- The clock shows an instant that is not before the last one. -/
theorem sampleTrustedClock_eq_ok {now : UtcInstant P} :
    sampleTrustedClock s clock = .ok now ↔
      ∃ text, clock = .value (.string text) ∧ UtcInstant.ofText P text = some now ∧
        s.Follows now := by
  cases clock with
  | value raw =>
    show (canonicalUtcInstant P raw (js "trusted clock") >>= fun now' => _) = .ok now ↔ _
    simp only [bind_eq_ok, canonicalUtcInstant_eq_ok, SyncAnswer.value.injEq,
      TrustState.Follows]
    constructor
    · rintro ⟨now', ⟨text, hraw, htext⟩, h⟩
      split at h
      · rename_i last hlast
        split_ifs at h with hback
        · cases h
        · cases h
          refine ⟨text, hraw, htext, ?_⟩
          intro last' hlast'
          rw [hlast] at hlast'
          cases hlast'
          exact Int.not_lt.mp hback
      · rename_i hnone
        cases h
        refine ⟨text, hraw, htext, ?_⟩
        intro last hlast
        rw [hnone] at hlast
        cases hlast
    · rintro ⟨text, hraw, htext, hfollows⟩
      refine ⟨now, ⟨text, hraw, htext⟩, ?_⟩
      split
      · rename_i last hlast
        exact if_neg (Int.not_lt.mpr (hfollows last hlast))
      · rfl
  | _ =>
    constructor
    · intro h
      cases h
    · rintro ⟨text, hclock, -⟩
      cases hclock

theorem stageMutation_eq_ok {changed : List (Record P)} {prepared : Prepared P}
    (h : stageMutation N S s changed = .ok prepared) :
    (changed.foldl setRecord s.records).length ≤ POM_RX_REFERENCE_WITNESS_TRUST_MAX_IDENTITIES ∧
      prepared.records = changed.foldl setRecord s.records ∧
      prepared.trust.revision = s.revision + 1 := by
  unfold stageMutation at h
  extract_lets prospectiveRecords at h
  split_ifs at h with hcapacity
  · cases h
  · obtain ⟨trust, htrust, h⟩ := bind_eq_ok.mp h
    obtain ⟨canonical, -, htrust⟩ := bind_eq_ok.mp htrust
    cases h
    cases htrust
    exact ⟨Nat.not_lt.mp hcapacity, rfl, rfl⟩

/-- A mutation fails, before the clock or after it, or it publishes the records it sets. -/
theorem mutate_effect {α : Type} {input : Except TrustFailure α}
    {changes : α → UtcInstant P → Except TrustFailure (List (Record P))}
    (hchanges : ∀ a now changed, input = .ok a → s.Follows now → changes a now = .ok changed →
      (changed.foldl setRecord s.records).length ≤ POM_RX_REFERENCE_WITNESS_TRUST_MAX_IDENTITIES →
      TrustEffect S K s (s.published now (changed.foldl setRecord s.records)) true) :
    TrustEffect S K s (mutate N S s clock input changes).1
      (mutate N S s clock input changes).2.isOk := by
  unfold mutate
  split
  · exact .refused
  · rename_i a
    split
    · exact .refused
    · rename_i now hclock
      obtain ⟨-, -, -, hnow⟩ := sampleTrustedClock_eq_ok.mp hclock
      split
      · exact .observed now hnow
      · rename_i prepared hprepared
        obtain ⟨changed, hchanged, hstage⟩ := bind_eq_ok.mp hprepared
        obtain ⟨hcapacity, hrecords, hrevision⟩ := stageMutation_eq_ok hstage
        have hcommit : commitMutation (s.sampled now) prepared =
            s.published now (changed.foldl setRecord s.records) := by
          simp only [commitMutation, TrustState.sampled, TrustState.published, hrecords, hrevision]
        rw [hcommit]
        exact hchanges a now changed rfl hnow hchanged hcapacity

/-- An enrollment sets the record of a new key. -/
theorem enrollChanges_eq_ok {publicKey : Key} {fields : List (JsString × HostValue)}
    {now : UtcInstant P} {changed : List (Record P)}
    (h : enrollChanges S K s publicKey fields now = .ok changed) :
    ∃ k role expiry, hasRecord s.records (identityKeyId K S k) = false ∧
      changed = [newRecord S K k role now expiry none] := by
  obtain ⟨k, -, h⟩ := bind_eq_ok.mp h
  split_ifs at h with hhas
  · cases h
  · obtain ⟨expiry, -, h⟩ := bind_eq_ok.mp h
    obtain ⟨role, -, h⟩ := bind_eq_ok.mp h
    cases h
    exact ⟨k, role, expiry, Bool.eq_false_iff.mpr hhas, rfl⟩

/-- A revocation gives an active record its transition. -/
theorem revokeChanges_eq_ok {fields : List (JsString × HostValue)} {now : UtcInstant P}
    {changed : List (Record P)} (h : revokeChanges s fields now = .ok changed) :
    ∃ existing reason, existing ∈ s.records ∧ existing.status = .active ∧
      changed = [existing.transition .revoked now reason] := by
  obtain ⟨keyId, -, h⟩ := bind_eq_ok.mp h
  obtain ⟨reason, -, h⟩ := bind_eq_ok.mp h
  split at h
  · cases h
  · rename_i existing hexisting
    split_ifs at h with hstatus
    · cases h
    · cases h
      exact ⟨existing, reason, (getRecord_eq_some hexisting).1, not_not.mp hstatus, rfl⟩

/-- A replacement does both, for the first successor of an active record. -/
theorem replaceChanges_eq_ok {successorPublicKey : Key} {r : Replacement} {now : UtcInstant P}
    {changed : List (Record P)} (h : replaceChanges S K s successorPublicKey r now = .ok changed) :
    ∃ existing k expiry, existing ∈ s.records ∧ existing.status = .active ∧
      (∀ r ∈ s.records, r.predecessorKeyId ≠ some existing.keyId) ∧
      hasRecord s.records (identityKeyId K S k) = false ∧
      changed = [existing.transition r.transitionStatus now r.reason,
        newRecord S K k existing.role now expiry (some existing.keyId)] := by
  obtain ⟨predecessorKeyId, -, h⟩ := bind_eq_ok.mp h
  split at h
  · cases h
  · rename_i existing hexisting
    obtain ⟨hmem, rfl⟩ := getRecord_eq_some hexisting
    split_ifs at h with hactive hfirst
    · cases h
    · cases h
    · obtain ⟨k, -, h⟩ := bind_eq_ok.mp h
      extract_lets successorKeyId at h
      split_ifs at h with hnew
      · cases h
      · obtain ⟨expiry, -, h⟩ := bind_eq_ok.mp h
        cases h
        push Not at hactive hnew
        refine ⟨existing, k, expiry, hmem, hactive.1, ?_, Bool.eq_false_iff.mpr hnew.2, rfl⟩
        simpa using hfirst

theorem enrollIdentity_effect (input : HostValue) (publicKey : Key) :
    TrustEffect S K s (enrollIdentity N S K s input publicKey clock).1
      (enrollIdentity N S K s input publicKey clock).2.isOk := by
  apply mutate_effect
  intro fields now changed _ hnow hchanged hcapacity
  obtain ⟨k, role, expiry, hnew, rfl⟩ := enrollChanges_eq_ok hchanged
  rw [List.foldl_cons, List.foldl_nil, setRecord_new hnew] at hcapacity ⊢
  rw [List.length_append, List.length_singleton] at hcapacity
  exact .enrolled k role now expiry hnow hnew hcapacity

theorem setRecord_transition {existing : Record P} (hmem : existing ∈ s.records) (status : Status)
    (now : UtcInstant P) (reason : TransitionReason) :
    setRecord s.records (existing.transition status now reason) =
      updateRecord s.records (existing.transition status now reason) :=
  setRecord_known (hasRecord_iff.mpr ⟨existing, hmem, rfl⟩)

theorem revokeIdentity_effect (input : HostValue) :
    TrustEffect S K s (revokeIdentity N S s input clock).1
      (revokeIdentity N S s input clock).2.isOk := by
  apply mutate_effect
  intro fields now changed _ hnow hchanged _
  obtain ⟨existing, reason, hmem, hactive, rfl⟩ := revokeChanges_eq_ok hchanged
  rw [List.foldl_cons, List.foldl_nil, setRecord_transition hmem]
  exact .revoked existing reason now hnow hmem hactive

/-- The effect of `replaceIdentity`, for the two statuses it is called with. -/
theorem replaceIdentity_effect {input : Except TrustFailure Replacement} {successorPublicKey : Key}
    (hstatus : ∀ r, input = .ok r →
      r.transitionStatus = .rotated ∨ r.transitionStatus = .recovered) :
    TrustEffect S K s
      (mutate N S s clock input (replaceChanges S K s successorPublicKey)).1
      (mutate N S s clock input (replaceChanges S K s successorPublicKey)).2.isOk := by
  apply mutate_effect
  intro r now changed hinput hnow hchanged hcapacity
  obtain ⟨existing, k, expiry, hmem, hactive, hfirst, hnew, rfl⟩ := replaceChanges_eq_ok hchanged
  have hnew' : hasRecord (updateRecord s.records
      (existing.transition r.transitionStatus now r.reason)) (identityKeyId K S k) = false := by
    rw [hasRecord_updateRecord]
    exact hnew
  rw [List.foldl_cons, List.foldl_cons, List.foldl_nil, setRecord_transition hmem,
    setRecord_new hnew'] at hcapacity ⊢
  rw [List.length_append, List.length_singleton, length_updateRecord] at hcapacity
  exact .replaced existing r.transitionStatus r.reason k now expiry hnow hmem hactive
    (hstatus r hinput) hfirst hnew hcapacity

end Calls

/-! ## Invariant -/

section Invariant

variable {P : DateParser} {S : Hash} {Key PublicKey : Type} {K : KeyProvider Key PublicKey}
  {s t : TrustState P} {success : Bool}

/-- The number of revocations. -/
def revocations (records : List (Record P)) : ℕ := records.countP fun r => r.status = .revoked

theorem revocations_transition {records : List (Record P)} {existing : Record P} {status : Status}
    {reason : TransitionReason} {now : UtcInstant P} (hunique : (records.map Record.keyId).Nodup)
    (hmem : existing ∈ records) (hactive : existing.status = .active) :
    revocations (updateRecord records (existing.transition status now reason)) =
      revocations records + if status = .revoked then 1 else 0 := by
  have hkey : existing.keyId = (existing.transition status now reason).keyId := rfl
  have hcount := countP_updateRecord (fun r => decide (r.status = .revoked)) hunique hmem hkey
  have hstatus : (existing.transition status now reason).status = status := rfl
  simp only [hactive, hstatus, reduceCtorEq, decide_false, decide_eq_true_eq, Bool.false_eq_true,
    if_false] at hcount
  exact hcount

theorem revocations_append {records : List (Record P)} {new : Record P}
    (hnew : new.status = .active) : revocations (records ++ [new]) = revocations records := by
  simp [revocations, hnew]

/-- What holds in every state that is reached. -/
structure TrustInvariant (S : Hash) (K : KeyProvider Key PublicKey) (s : TrustState P) : Prop where
  records : RecordsOk s.records
  capacity : s.records.length ≤ POM_RX_REFERENCE_WITNESS_TRUST_MAX_IDENTITIES
  clock : ∀ r ∈ s.records, ∃ last, s.lastTrustedTimeMs = some last ∧ r.enrolledAt.ms ≤ last
  key : ∀ r ∈ s.records, ∃ k : Ed25519Key K,
    r.keyId = identityKeyId K S k ∧ r.publicKeySpki = exportPublicKey K k
  /-- Every mutation adds a record or revokes one. -/
  revision : s.revision = s.records.length + revocations s.records

theorem trustInvariant_initial : TrustInvariant S K (TrustState.initial : TrustState P) where
  records := RecordsOk.nil
  capacity := Nat.zero_le _
  clock _ hr := nomatch hr
  key _ hr := nomatch hr
  revision := rfl

/-- A new record that has no predecessor may be added. -/
theorem mayAppend_enrolled {records : List (Record P)} {k : Ed25519Key K} {role : Role}
    {now expiry : UtcInstant P} (hnew : hasRecord records (identityKeyId K S k) = false) :
    MayAppend records (newRecord S K k role now expiry none) where
  fresh := hasRecord_eq_false.mp hnew
  active := ⟨rfl, rfl, rfl⟩
  first _ h := nomatch h
  link _ h := nomatch h

/-- The successor of a record that has just ended may be added. -/
theorem mayAppend_replaced {records : List (Record P)} {existing : Record P} {status : Status}
    {reason : TransitionReason} {k : Ed25519Key K} {now expiry : UtcInstant P}
    (hmem : existing ∈ records) (hstatus : status = .rotated ∨ status = .recovered)
    (hfirst : ∀ r ∈ records, r.predecessorKeyId ≠ some existing.keyId)
    (hnew : hasRecord records (identityKeyId K S k) = false) :
    MayAppend (updateRecord records (existing.transition status now reason))
      (newRecord S K k existing.role now expiry (some existing.keyId)) where
  fresh := by
    apply hasRecord_eq_false.mp
    rw [hasRecord_updateRecord]
    exact hnew
  active := ⟨rfl, rfl, rfl⟩
  first k' hk r hr := by
    cases hk
    obtain ⟨r₀, hr₀, -, hpred, -⟩ := exists_of_mem_transition hmem hr
    rw [← hpred]
    exact hfirst r₀ hr₀
  link k' hk := by
    cases hk
    exact ⟨existing.transition status now reason, mem_updateRecord_self hmem rfl, rfl, rfl, hstatus,
      rfl⟩

/-- The enrollments of a state are not after the next instant of the clock. -/
theorem TrustInvariant.enrolled_le (h : TrustInvariant S K s) {now : UtcInstant P}
    (hnow : s.Follows now) {r : Record P} (hr : r ∈ s.records) : r.enrolledAt.ms ≤ now.ms := by
  obtain ⟨last, hlast, hle⟩ := h.clock r hr
  exact hle.trans (hnow last hlast)

theorem TrustInvariant.sampled (h : TrustInvariant S K s) {now : UtcInstant P}
    (hnow : s.Follows now) : TrustInvariant S K (s.sampled now) :=
  { h with clock := fun _ hr => ⟨now.ms, rfl, h.enrolled_le hnow hr⟩ }

theorem TrustInvariant.ended (h : TrustInvariant S K s) {existing : Record P} {status : Status}
    {reason : TransitionReason} {now : UtcInstant P} (hnow : s.Follows now)
    (hmem : existing ∈ s.records) (hactive : existing.status = .active) (hstatus : status ≠ .active) :
    TrustInvariant S K
      ⟨updateRecord s.records (existing.transition status now reason),
        s.revision + if status = .revoked then 1 else 0, some now.ms⟩ where
  records := h.records.transition_ok hmem hactive hstatus (h.enrolled_le hnow hmem)
  capacity := by
    rw [length_updateRecord]
    exact h.capacity
  clock r hr := by
    obtain ⟨r₀, hr₀, -, -, -, henrolled, -⟩ := exists_of_mem_transition hmem hr
    rw [← henrolled]
    exact ⟨now.ms, rfl, h.enrolled_le hnow hr₀⟩
  key r hr := by
    rcases mem_updateRecord hr with rfl | ⟨hr, -⟩
    · exact h.key existing hmem
    · exact h.key r hr
  revision := by
    show s.revision + _ = _
    rw [length_updateRecord, h.revision, revocations_transition h.records.unique hmem hactive,
      Nat.add_assoc]

theorem TrustInvariant.added (h : TrustInvariant S K s) {new : Record P}
    (hnew : MayAppend s.records new)
    (hkey : ∃ k : Ed25519Key K,
      new.keyId = identityKeyId K S k ∧ new.publicKeySpki = exportPublicKey K k)
    (henrolled : s.lastTrustedTimeMs = some new.enrolledAt.ms)
    (hcapacity : s.records.length < POM_RX_REFERENCE_WITNESS_TRUST_MAX_IDENTITIES) :
    TrustInvariant S K ⟨s.records ++ [new], s.revision + 1, s.lastTrustedTimeMs⟩ where
  records := h.records.append_ok hnew
  capacity := by
    rw [List.length_append, List.length_singleton]
    exact hcapacity
  clock r hr := by
    rcases List.mem_append.mp hr with hr | hr
    · exact h.clock r hr
    · rw [List.mem_singleton.mp hr]
      exact ⟨_, henrolled, le_refl _⟩
  key r hr := by
    rcases List.mem_append.mp hr with hr | hr
    · exact h.key r hr
    · rw [List.mem_singleton.mp hr]
      exact hkey
  revision := by
    show s.revision + 1 = _
    rw [h.revision, revocations_append hnew.active.1, List.length_append, List.length_singleton]
    omega

theorem TrustInvariant.effect (h : TrustInvariant S K s) (heffect : TrustEffect S K s t success) :
    TrustInvariant S K t := by
  cases heffect with
  | refused => exact h
  | observed now hnow => exact h.sampled hnow
  | enrolled k role now expiry hnow hnew hcapacity =>
    exact (h.sampled hnow).added (mayAppend_enrolled hnew) ⟨k, rfl, rfl⟩ rfl hcapacity
  | revoked existing reason now hnow hmem hactive =>
    exact h.ended hnow hmem hactive (by decide)
  | replaced existing status reason k now expiry hnow hmem hactive hstatus hfirst hnew hcapacity =>
    have hended : status ≠ .active ∧ status ≠ .revoked := by
      rcases hstatus with rfl | rfl <;> decide
    have hmiddle : TrustInvariant S K ⟨updateRecord s.records (existing.transition status now reason),
        s.revision + if status = .revoked then 1 else 0, some now.ms⟩ :=
      h.ended hnow hmem hactive hended.1
    rw [if_neg hended.2] at hmiddle
    have hlength : (updateRecord s.records (existing.transition status now reason)).length <
        POM_RX_REFERENCE_WITNESS_TRUST_MAX_IDENTITIES := by
      rw [length_updateRecord]
      exact hcapacity
    exact hmiddle.added (mayAppend_replaced hmem hstatus hfirst hnew) ⟨k, rfl, rfl⟩ rfl hlength

/-- What a record keeps for ever: its key, its role, its times and its predecessor, and, when
    it has ended, everything. -/
structure Record.Continues (r r' : Record P) : Prop where
  keyId : r'.keyId = r.keyId
  publicKeySpki : r'.publicKeySpki = r.publicKeySpki
  role : r'.role = r.role
  enrolledAt : r'.enrolledAt = r.enrolledAt
  validUntil : r'.validUntil = r.validUntil
  predecessorKeyId : r'.predecessorKeyId = r.predecessorKeyId
  ended : r.status ≠ .active → r' = r

theorem Record.Continues.refl (r : Record P) : r.Continues r :=
  ⟨rfl, rfl, rfl, rfl, rfl, rfl, fun _ => rfl⟩

theorem Record.Continues.trans {r r' r'' : Record P} (h : r.Continues r') (h' : r'.Continues r'') :
    r.Continues r'' where
  keyId := h'.keyId.trans h.keyId
  publicKeySpki := h'.publicKeySpki.trans h.publicKeySpki
  role := h'.role.trans h.role
  enrolledAt := h'.enrolledAt.trans h.enrolledAt
  validUntil := h'.validUntil.trans h.validUntil
  predecessorKeyId := h'.predecessorKeyId.trans h.predecessorKeyId
  ended hended := by
    rw [h.ended hended] at h'
    exact h'.ended hended

/-- Every record of the first state is still there in the second. -/
def Keeps (s t : TrustState P) : Prop := ∀ r ∈ s.records, ∃ r' ∈ t.records, r.Continues r'

theorem continues_updateRecord {records : List (Record P)} {existing : Record P} {status : Status}
    {reason : TransitionReason} {now : UtcInstant P} (hunique : (records.map Record.keyId).Nodup)
    (hmem : existing ∈ records) (hactive : existing.status = .active) {r : Record P}
    (hr : r ∈ records) :
    ∃ r' ∈ updateRecord records (existing.transition status now reason), r.Continues r' := by
  by_cases hkey : r.keyId = existing.keyId
  · rw [eq_of_keyId hunique hr hmem hkey]
    exact ⟨_, mem_updateRecord_self hmem rfl, rfl, rfl, rfl, rfl, rfl, rfl,
      fun hended => absurd hactive hended⟩
  · exact ⟨r, mem_updateRecord_other hr hkey, Record.Continues.refl r⟩

theorem TrustEffect.keeps (h : TrustInvariant S K s) (heffect : TrustEffect S K s t success) :
    Keeps s t := by
  intro r hr
  cases heffect with
  | refused => exact ⟨r, hr, Record.Continues.refl r⟩
  | observed now hnow => exact ⟨r, hr, Record.Continues.refl r⟩
  | enrolled k role now expiry hnow hnew hcapacity =>
    exact ⟨r, List.mem_append_left _ hr, Record.Continues.refl r⟩
  | revoked existing reason now hnow hmem hactive =>
    exact continues_updateRecord h.records.unique hmem hactive hr
  | replaced existing status reason k now expiry hnow hmem hactive hstatus hfirst hnew hcapacity =>
    obtain ⟨r', hr', hcontinues⟩ := continues_updateRecord h.records.unique hmem hactive hr
    exact ⟨r', List.mem_append_left _ hr', hcontinues⟩

/-- A mutation that succeeds raises the revision by one; any other call leaves the records and
    the revision. -/
theorem TrustEffect.revision (heffect : TrustEffect S K s t success) :
    t.revision = s.revision + if success then 1 else 0 := by
  cases heffect <;> rfl

theorem TrustEffect.unchanged (heffect : TrustEffect S K s t false) :
    t.records = s.records ∧ t.revision = s.revision := by
  cases heffect <;> exact ⟨rfl, rfl⟩

end Invariant

section Runs

variable {N : Normalization} {R : Runtime} {Key PublicKey : Type}
  {K : KeyProvider Key PublicKey} {s t : TrustState R.date}

/-- What a call can do. -/
theorem trustCall_cases (s : TrustState R.date) (action : TrustAction Key) :
    TrustEffect R.hash K s (trustCall N R K s action).1 (trustCall N R K s action).2 := by
  cases action with
  | enroll input publicKey clock => exact enrollIdentity_effect input publicKey
  | revoke input clock => exact revokeIdentity_effect input
  | rotate input successorPublicKey clock =>
    apply replaceIdentity_effect
    intro r hr
    obtain ⟨fields, -, hr⟩ := bind_eq_ok.mp hr
    cases hr
    exact .inl rfl
  | recover input successorPublicKey clock =>
    apply replaceIdentity_effect
    intro r hr
    obtain ⟨fields, -, hr⟩ := bind_eq_ok.mp hr
    obtain ⟨reason, -, hr⟩ := bind_eq_ok.mp hr
    cases hr
    exact .inr rfl
  | verify envelope acknowledgement clock =>
    simp only [trustCall, verifyAuthorizationCandidate]
    split
    · exact .refused
    · rename_i now hclock
      obtain ⟨-, -, -, hnow⟩ := sampleTrustedClock_eq_ok.mp hclock
      exact .observed now hnow

theorem trustCall_of_step {action : TrustAction Key} (h : trustStep N R K s action = some t) :
    t = (trustCall N R K s action).1 :=
  (Option.some.inj h).symm

theorem TrustInvariant.step (h : TrustInvariant R.hash K s) {action : TrustAction Key}
    (hstep : trustStep N R K s action = some t) : TrustInvariant R.hash K t := by
  rw [trustCall_of_step hstep]
  exact h.effect (trustCall_cases s action)

/-- What a state has, every later state has. -/
theorem keeps_run (hs : TrustInvariant R.hash K s) {actions : List (TrustAction Key)}
    (h : run (trustStep N R K) s actions = some t) : Keeps s t := by
  induction actions generalizing s with
  | nil =>
    cases h
    exact fun r hr => ⟨r, hr, Record.Continues.refl r⟩
  | cons action actions ih =>
    obtain ⟨u, hu, h⟩ := run_cons.mp h
    intro r hr
    have heffect := trustCall_cases (N := N) (K := K) s action
    rw [← trustCall_of_step hu] at heffect
    obtain ⟨r', hr', hcontinues⟩ := heffect.keeps hs r hr
    obtain ⟨r'', hr'', hcontinues'⟩ := ih (hs.effect heffect) h r' hr'
    exact ⟨r'', hr'', hcontinues.trans hcontinues'⟩

theorem revision_trust {actions : List (TrustAction Key)}
    (h : run (trustStep N R K) s actions = some t) :
    t.revision = s.revision +
      (trace (trustStep N R K) s actions).countP fun x => (trustCall N R K x.1 x.2).2 := by
  refine run_count TrustState.revision (fun s action => (trustCall N R K s action).2) ?_ h
  intro s action t hstep
  rw [trustCall_of_step hstep]
  exact (trustCall_cases s action).revision

/-- After any sequence of calls, each of which succeeds or fails, with any answers of the clock:
    there are at most 32 records, with different keys;
    every record of an earlier state is still there, and only an active one has changed, in its
    status and its transition;
    a record is active exactly when it has no transition, which is not before its enrollment;
    a record has at most one successor, links of predecessors have no cycle, and a predecessor
    has the role of its successor and was rotated or recovered when that was enrolled;
    the revision counts the mutations that succeeded, and any other call leaves the records and
    the revision. -/
theorem trustLifecycle_run {actions : List (TrustAction Key)}
    (h : run (trustStep N R K) .initial actions = some s) :
    s.records.length ≤ 32 ∧ (s.records.map Record.keyId).Nodup ∧
    (∀ before after earlier, actions = before ++ after →
      run (trustStep N R K) .initial before = some earlier →
      ∀ r ∈ earlier.records, ∃ r' ∈ s.records, r.Continues r') ∧
    (∀ r ∈ s.records, (r.status = .active ↔ r.transitionAt = none) ∧
      (r.status = .active ↔ r.transitionReason = none) ∧
      ∀ at', r.transitionAt = some at' → r.enrolledAt.ms ≤ at'.ms) ∧
    (∀ r ∈ s.records, ∀ r' ∈ s.records, ∀ k, r.predecessorKeyId = some k →
      r'.predecessorKeyId = some k → r = r') ∧
    (∀ r, ¬ Relation.TransGen (Precedes s.records) r r) ∧
    (∀ r ∈ s.records, ∀ k, r.predecessorKeyId = some k → ∃ p ∈ s.records, p.keyId = k ∧
      p.role = r.role ∧ (p.status = .rotated ∨ p.status = .recovered) ∧
      p.transitionAt = some r.enrolledAt) ∧
    s.revision = (trace (trustStep N R K) .initial actions).countP
      (fun x => (trustCall N R K x.1 x.2).2) ∧
    (∀ action, (trustCall N R K s action).2 = false →
      (trustCall N R K s action).1.records = s.records ∧
      (trustCall N R K s action).1.revision = s.revision) := by
  have hstep : ∀ s action t, TrustInvariant R.hash K s → trustStep N R K s action = some t →
      TrustInvariant R.hash K t := fun _ _ _ hs hstep => hs.step hstep
  have hs : TrustInvariant R.hash K s := run_invariant hstep h trustInvariant_initial
  refine ⟨hs.capacity, hs.records.unique, ?_, ?_, hs.records.successor, hs.records.acyclic,
    hs.records.link, ?_, ?_⟩
  · intro before after earlier hactions hbefore
    rw [hactions] at h
    obtain ⟨middle, hmiddle, hafter⟩ := run_append.mp h
    rw [hbefore] at hmiddle
    cases hmiddle
    exact keeps_run (run_invariant hstep hbefore trustInvariant_initial) hafter
  · intro r hr
    obtain ⟨hat, hreason⟩ := hs.records.transition r hr
    exact ⟨hat, hreason, hs.records.ordered r hr⟩
  · rw [revision_trust h]
    exact Nat.zero_add _
  · intro action hfail
    have heffect := trustCall_cases (N := N) (K := K) s action
    rw [hfail] at heffect
    exact heffect.unchanged

end Runs

/-- A key object: its properties are not read by reflection. -/
def keyObject : HostValue := .object ⟨.record, .other, false, []⟩

/-- A plain object that a caller writes out. -/
def argument (fields : List (String × HostValue)) : HostValue :=
  .object ⟨.record, .plain, false, fields.map fun f => (js f.1, .data true f.2)⟩

def clockAt (text : String) : SyncAnswer := .value (.string (js text))

/-- A source key is enrolled, enrolled again in vain, and rotated. -/
def rotationCalls : List (TrustAction SampleKey) :=
  [.enroll (argument [("publicKey", keyObject), ("role", .string (js "source")),
      ("validUntil", .string (js "2026-12-01T00:00:00.000Z"))]) .source
      (clockAt "2026-06-01T10:00:00.000Z"),
    .enroll (argument [("publicKey", keyObject), ("role", .string (js "witness")),
      ("validUntil", .string (js "2026-12-01T00:00:00.000Z"))]) .source
      (clockAt "2026-06-01T10:30:00.000Z"),
    .rotate (argument [("predecessorKeyId", .string (js "ed25519-a050837d85070582ccf7394b0988847c")),
      ("successorPublicKey", keyObject), ("validUntil", .string (js "2026-12-01T00:00:00.000Z"))])
      .witness (clockAt "2026-06-01T11:00:00.000Z")]

theorem run_rotationCalls :
    (run (trustStep devanagari sampleRuntime (tableKeys [])) .initial rotationCalls).map
      (fun s => (s.revision, s.lastTrustedTimeMs,
        s.records.map fun r => (r.status, r.predecessorKeyId.map (·.val)))) =
    some (2, some 1780311600000,
      [(.rotated, none), (.active, some (js "ed25519-a050837d85070582ccf7394b0988847c"))]) := by
  decide +kernel

theorem trustLifecycle_run_rotation :
    ∃ s, run (trustStep devanagari sampleRuntime (tableKeys [])) .initial rotationCalls = some s ∧
      s.revision = 2 ∧ s.records.length = 2 ∧ (s.records.map Record.keyId).Nodup := by
  obtain ⟨s, hrun, hvalues⟩ := Option.map_eq_some_iff.mp run_rotationCalls
  obtain ⟨-, hunique, -⟩ := trustLifecycle_run hrun
  have hlength := congrArg (fun x => x.2.2.length) hvalues
  refine ⟨s, hrun, congrArg Prod.fst hvalues, ?_, hunique⟩
  simpa using hlength

end OpenRisk.Trust
