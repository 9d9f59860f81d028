import OpenRisk.Registry.Contract

/-!
# The registry over its calls

What the storage of the registry says about the calls that were made: every sequence of
calls by any callers, with any authorizations, from the deployment on.

Results:
* `record_history`: a stored record is what one `register` stored, up to its revocation.
* `verify_history`: `verify` answers whether a `register` succeeded that was not revoked.
* `registry_history`: the specification of the registry.
-/

namespace OpenRisk.Registry

open Machine

variable {Address : Type} [DecidableEq Address]

/-- The storage after a sequence of calls on a deployed contract. -/
def storageAfter (calls : List (Env Address × Call Address)) : Storage Address :=
  calls.foldl next .empty

/-- The `i`-th call of a sequence is the given one, and it succeeds. -/
def SucceedsAt (calls : List (Env Address × Call Address)) (i : ℕ)
    (c : Env Address × Call Address) : Prop :=
  calls[i]? = some c ∧ ∃ s, call c.1 (storageAfter (calls.take i)) c.2 = .ok s

/-! ## What every call keeps -/

/-- A record that an earlier record continues to: the same one, or its revocation. -/
def Continues (record record' : AnchorRecord Address) : Prop :=
  record' = record ∨ record.status = .Active ∧ ∃ reason, record' = record.revoked reason

/-- A storage that an earlier storage leads to. -/
structure Keeps (s s' : Storage Address) : Prop where
  admin : ∀ a, s.admin = some a → s'.admin = some a
  record : ∀ b record, s.record b = some record →
    ∃ record', s'.record b = some record' ∧ Continues record record'

omit [DecidableEq Address] in
theorem Continues.trans {r r' r'' : AnchorRecord Address} (h : Continues r r')
    (h' : Continues r' r'') : Continues r r'' := by
  rcases h with rfl | ⟨hactive, reason, rfl⟩
  · exact h'
  · rcases h' with rfl | ⟨hactive', -⟩
    · exact .inr ⟨hactive, reason, rfl⟩
    · cases hactive'

omit [DecidableEq Address] in
theorem Keeps.refl (s : Storage Address) : Keeps s s :=
  ⟨fun _ h => h, fun _ record h => ⟨record, h, .inl rfl⟩⟩

omit [DecidableEq Address] in
theorem Keeps.trans {s t u : Storage Address} (h : Keeps s t) (h' : Keeps t u) : Keeps s u where
  admin a ha := h'.admin a (h.admin a ha)
  record b record hb := by
    obtain ⟨record', hb', hc⟩ := h.record b record hb
    obtain ⟨record'', hb'', hc'⟩ := h'.record b record' hb'
    exact ⟨record'', hb'', hc.trans hc'⟩

theorem effect_admin {env : Env Address} {s s' : Storage Address} {c : Call Address}
    (h : Effect env s c s') {a : Address} (ha : s.admin = some a) : s'.admin = some a := by
  cases h with
  | initialize_registry a' hadmin hauth =>
    rw [hadmin] at ha
    cases ha
  | set_writer | register | revoke | get | verify => exact ha

theorem effect_keeps {env : Env Address} {s s' : Storage Address} {c : Call Address}
    (h : Effect env s c s') : Keeps s s' := by
  refine ⟨fun a => effect_admin h, ?_⟩
  intro b record hb
  rcases h.record_cases b with hsame | ⟨w, m, h', e, -, -, hfresh, -⟩ |
    ⟨caller, r, record', -, -, -, hrecord, hactive, hrevoked⟩
  · exact ⟨record, hsame.trans hb, .inl rfl⟩
  · rw [hfresh] at hb
    cases hb
  · obtain rfl : record' = record := Option.some.inj (hrecord.symm.trans hb)
    exact ⟨_, hrevoked, .inr ⟨hactive, r, rfl⟩⟩

theorem next_keeps (s : Storage Address) (c : Env Address × Call Address) : Keeps s (next s c) := by
  rcases next_cases s c with h | ⟨-, h⟩
  · exact effect_keeps h
  · rw [h]
    exact .refl s

theorem run_next (s : Storage Address) (calls : List (Env Address × Call Address)) :
    run (fun s c => some (next s c)) s calls = some (calls.foldl next s) := by
  induction calls generalizing s with
  | nil => rfl
  | cons c calls ih => exact ih (next s c)

theorem foldl_keeps (s : Storage Address) (calls : List (Env Address × Call Address)) :
    Keeps s (calls.foldl next s) := by
  apply run_rel Keeps.refl (fun _ _ _ => Keeps.trans) _ (run_next s calls)
  rintro s c s' hs
  cases hs
  exact next_keeps s c

/-- An earlier storage of a sequence of calls leads to a later one. -/
theorem storageAfter_keeps {calls : List (Env Address × Call Address)} {i j : ℕ} (hij : i ≤ j) :
    Keeps (storageAfter (calls.take i)) (storageAfter (calls.take j)) := by
  have htake : calls.take j = calls.take i ++ (calls.take j).drop i := by
    have hsplit := (List.take_append_drop i (calls.take j)).symm
    rwa [List.take_take, Nat.min_eq_left hij] at hsplit
  rw [htake, storageAfter, storageAfter, List.foldl_append]
  exact foldl_keeps _ _

theorem storageAfter_succ {calls : List (Env Address × Call Address)} {i : ℕ}
    {c : Env Address × Call Address} (hi : calls[i]? = some c) :
    storageAfter (calls.take (i + 1)) = next (storageAfter (calls.take i)) c := by
  rw [storageAfter, storageAfter, List.take_add_one, hi, List.foldl_append]
  rfl

theorem SucceedsAt.effect {calls : List (Env Address × Call Address)} {i : ℕ}
    {c : Env Address × Call Address} (h : SucceedsAt calls i c) :
    Effect c.1 (storageAfter (calls.take i)) c.2 (storageAfter (calls.take (i + 1))) := by
  obtain ⟨hi, s, hs⟩ := h
  rw [storageAfter_succ hi, next, hs]
  exact call_eq_ok.mp hs

/-- A call of a sequence succeeds, or it leaves the storage as it is. -/
theorem succeedsAt_or (calls : List (Env Address × Call Address)) (i : ℕ) :
    (∃ c, SucceedsAt calls i c) ∨
      storageAfter (calls.take (i + 1)) = storageAfter (calls.take i) := by
  cases hi : calls[i]? with
  | none =>
    have hlen : calls.length ≤ i := List.getElem?_eq_none_iff.mp hi
    rw [List.take_of_length_le hlen, List.take_of_length_le (Nat.le_succ_of_le hlen)]
    exact .inr rfl
  | some c =>
    rcases next_cases (storageAfter (calls.take i)) c with h | ⟨-, h⟩
    · exact .inl ⟨c, hi, _, call_eq_ok.mpr h⟩
    · rw [storageAfter_succ hi]
      exact .inr h

/-! ## The history of a record -/

section Records

variable {calls : List (Env Address × Call Address)} {i j : ℕ} {b : BytesN 32}

/-- A stored record was stored by a `register` and is that record or its revocation. -/
theorem record_history {record : AnchorRecord Address}
    (hrecord : (storageAfter (calls.take j)).record b = some record) :
    ∃ i env w m h e, i < j ∧ SucceedsAt calls i (env, .register w b m h e) ∧
      Continues (newRecord env w b m h e) record := by
  induction j generalizing record with
  | zero => cases hrecord
  | succ n ih =>
    rcases succeedsAt_or calls n with ⟨⟨env, c⟩, hc⟩ | hsame
    · rcases hc.effect.record_cases b with hsame | ⟨w, m, h, e, rfl, -, -, hnew⟩ |
        ⟨caller, r, old, -, -, -, hold, hactive, hrevoked⟩
      · obtain ⟨i, env', w, m, h, e, hi, hreg, hcont⟩ := ih (hsame.symm.trans hrecord)
        exact ⟨i, env', w, m, h, e, by omega, hreg, hcont⟩
      · refine ⟨n, env, w, m, h, e, by omega, hc, .inl ?_⟩
        exact Option.some.inj (hrecord.symm.trans hnew)
      · obtain ⟨i, env', w, m, h, e, hi, hreg, hcont⟩ := ih hold
        obtain rfl : old.revoked r = record := Option.some.inj (hrevoked.symm.trans hrecord)
        exact ⟨i, env', w, m, h, e, by omega, hreg, hcont.trans (.inr ⟨hactive, r, rfl⟩)⟩
    · rw [hsame] at hrecord
      obtain ⟨i, env', w, m, h, e, hi, hreg, hcont⟩ := ih hrecord
      exact ⟨i, env', w, m, h, e, by omega, hreg, hcont⟩

theorem SucceedsAt.registered {env : Env Address} {w : Address} {m h e : BytesN 32}
    (hreg : SucceedsAt calls i (env, .register w b m h e)) :
    isWriter (storageAfter (calls.take i)) w = true ∧
      (storageAfter (calls.take i)).record b = none ∧
      (storageAfter (calls.take (i + 1))).record b = some (newRecord env w b m h e) := by
  have heffect := hreg.effect
  generalize storageAfter (calls.take (i + 1)) = t at heffect ⊢
  cases heffect with
  | register a _ _ _ _ _ hadmin hauth hwriter hfresh =>
    exact ⟨hwriter, hfresh, Storage.setRecord_self _ _ _⟩

theorem SucceedsAt.revoked {env : Env Address} {caller : Address} {r : BytesN 32}
    (hrev : SucceedsAt calls i (env, .revoke caller b r)) :
    ∃ record, (storageAfter (calls.take (i + 1))).record b = some record ∧
      record.status = .Revoked := by
  have heffect := hrev.effect
  generalize storageAfter (calls.take (i + 1)) = t at heffect ⊢
  cases heffect with
  | revoke a _ _ _ record hadmin hauth hrecord hactive hcaller =>
    exact ⟨record.revoked r, Storage.setRecord_self _ _ _, rfl⟩

/-- No record is registered twice. -/
theorem registered_once {env env' : Env Address} {w w' : Address} {m m' h h' e e' : BytesN 32}
    (hi : SucceedsAt calls i (env, .register w b m h e))
    (hj : SucceedsAt calls j (env', .register w' b m' h' e')) : ¬ i < j := by
  intro hij
  obtain ⟨-, -, hnew⟩ := hi.registered
  obtain ⟨-, hfresh, -⟩ := hj.registered
  obtain ⟨record, hrecord, -⟩ := (storageAfter_keeps (i := i + 1) hij).record b _ hnew
  rw [hfresh] at hrecord
  cases hrecord

/-- A registered record stays as it was registered until it is revoked. -/
theorem registered_until {env : Env Address} {w : Address} {m h e : BytesN 32}
    (hreg : SucceedsAt calls i (env, .register w b m h e)) {n : ℕ} (hn : i < n)
    (hnone : ∀ k env' caller r, i < k → k < n → ¬ SucceedsAt calls k (env', .revoke caller b r)) :
    (storageAfter (calls.take n)).record b = some (newRecord env w b m h e) := by
  induction n with
  | zero => omega
  | succ n ih =>
    by_cases hin : i = n
    · subst hin
      exact hreg.registered.2.2
    · have hlt : i < n := by omega
      have hbefore := ih hlt fun k env' caller r hik hkn => hnone k env' caller r hik (by omega)
      rcases succeedsAt_or calls n with ⟨⟨env', c⟩, hc⟩ | hsame
      · rcases hc.effect.record_cases b with hsame | ⟨w', m', h', e', -, -, hfresh, -⟩ |
          ⟨caller, r, old, rfl, -⟩
        · rw [hsame, hbefore]
        · rw [hfresh] at hbefore
          cases hbefore
        · exact absurd hc (hnone n env' caller r hlt (by omega))
      · rw [hsame, hbefore]

/-- `verify` answers whether the batch was registered with these values and not revoked. -/
theorem verify_history {m h e : BytesN 32} :
    verify (storageAfter calls) b m h e = true ↔
      ∃ i env w, SucceedsAt calls i (env, .register w b m h e) ∧
        isWriter (storageAfter (calls.take i)) w = true ∧
        ∀ k env' caller r, i < k → ¬ SucceedsAt calls k (env', .revoke caller b r) := by
  have hall : storageAfter (calls.take calls.length) = storageAfter calls := by
    rw [List.take_length]
  rw [verify_eq_true]
  constructor
  · rintro ⟨record, hrecord, hactive, rfl, rfl, rfl⟩
    rw [← hall] at hrecord
    obtain ⟨i, env, w, m, h, e, -, hreg, hcont⟩ := record_history hrecord
    obtain rfl : record = newRecord env w b m h e := by
      rcases hcont with hsame | ⟨-, reason, rfl⟩
      · exact hsame
      · cases hactive
    refine ⟨i, env, w, hreg, hreg.registered.1, ?_⟩
    intro k env' caller r hik hrev
    have hlen : k < calls.length := (List.getElem?_eq_some_iff.mp hrev.1).1
    -- what was revoked stays revoked
    obtain ⟨revoked, hrevoked, hstatus⟩ := hrev.revoked
    obtain ⟨last, hlast, hcont'⟩ := (storageAfter_keeps (i := k + 1) hlen).record b _ hrevoked
    obtain rfl := Option.some.inj (hrecord.symm.trans hlast)
    rcases hcont' with hsame | ⟨hactive', -⟩
    · rw [hsame, hstatus] at hactive
      cases hactive
    · rw [hstatus] at hactive'
      cases hactive'
  · rintro ⟨i, env, w, hreg, -, hnone⟩
    have hlen : i < calls.length := (List.getElem?_eq_some_iff.mp hreg.1).1
    refine ⟨newRecord env w b m h e, ?_, rfl, rfl, rfl, rfl⟩
    rw [← hall]
    exact registered_until hreg hlen fun k env' caller r hik _ => hnone k env' caller r hik

/-- What changes the status of a record. -/
theorem status_changes {record record' : AnchorRecord Address}
    (hrecord : (storageAfter (calls.take i)).record b = some record)
    (hrecord' : (storageAfter (calls.take (i + 1))).record b = some record')
    (hchange : record.status ≠ record'.status) :
    record.status = .Active ∧ record'.status = .Revoked ∧
      ∃ env caller r, SucceedsAt calls i (env, .revoke caller b r) ∧
        env.authorized caller = true ∧
        ((storageAfter (calls.take i)).admin = some caller ∨ caller = record.issuer) := by
  have hstays : (storageAfter (calls.take (i + 1))).record b =
      (storageAfter (calls.take i)).record b → False := by
    intro hsame
    rw [hsame, hrecord] at hrecord'
    exact hchange (congrArg AnchorRecord.status (Option.some.inj hrecord'))
  rcases succeedsAt_or calls i with ⟨⟨env, c⟩, hc⟩ | hsame
  · rcases hc.effect.record_cases b with hsame | ⟨w, m, h, e, -, -, hfresh, -⟩ |
      ⟨caller, r, old, rfl, hauth, hcaller, hold, hactive, hrevoked⟩
    · exact (hstays hsame).elim
    · rw [hfresh] at hrecord
      cases hrecord
    · obtain rfl := Option.some.inj (hold.symm.trans hrecord)
      obtain rfl := Option.some.inj (hrevoked.symm.trans hrecord')
      exact ⟨hactive, rfl, env, caller, r, hc, hauth, hcaller⟩
  · exact (hstays (by rw [hsame])).elim

end Records

/-! ## Administration -/

section Administration

variable {calls : List (Env Address × Call Address)} {i j : ℕ}

theorem admin_changes
    (hchange : (storageAfter (calls.take (i + 1))).admin ≠ (storageAfter (calls.take i)).admin) :
    (storageAfter (calls.take i)).admin = none ∧
      ∃ env a, SucceedsAt calls i (env, .initialize_registry a) ∧ env.authorized a = true ∧
        (storageAfter (calls.take (i + 1))).admin = some a := by
  rcases succeedsAt_or calls i with ⟨⟨env, c⟩, hc⟩ | hsame
  · have heffect := hc.effect
    generalize storageAfter (calls.take (i + 1)) = t at heffect hchange ⊢
    cases heffect with
    | initialize_registry a hadmin hauth => exact ⟨hadmin, env, a, hc, hauth, rfl⟩
    | set_writer | register | revoke | get | verify => exact absurd rfl hchange
  · exact absurd (by rw [hsame]) hchange

theorem writer_changes {w : Address}
    (hchange : (storageAfter (calls.take (i + 1))).writer w ≠ (storageAfter (calls.take i)).writer w) :
    ∃ env a, (storageAfter (calls.take (i + 1))).admin = some a ∧ env.authorized a = true ∧
      ((w = a ∧ SucceedsAt calls i (env, .initialize_registry a)) ∨
        ∃ flag, SucceedsAt calls i (env, .set_writer w flag)) := by
  rcases succeedsAt_or calls i with ⟨⟨env, c⟩, hc⟩ | hsame
  · have heffect := hc.effect
    generalize storageAfter (calls.take (i + 1)) = t at heffect hchange ⊢
    cases heffect with
    | initialize_registry a hadmin hauth =>
      by_cases hwa : w = a
      · exact ⟨env, a, rfl, hauth, .inl ⟨hwa, hc⟩⟩
      · exact absurd (Storage.setWriter_of_ne _ _ hwa) hchange
    | set_writer a w' flag hadmin hauth =>
      by_cases hww : w = w'
      · subst hww
        exact ⟨env, a, hadmin, hauth, .inr ⟨flag, hc⟩⟩
      · exact absurd (Storage.setWriter_of_ne _ _ hww) hchange
    | register | revoke | get | verify => exact absurd rfl hchange
  · exact absurd (by rw [hsame]) hchange

end Administration

/-! ## The specification -/

/-- What the registry promises about a sequence of calls. The storage before the `i`-th call
    is `storageAfter (calls.take i)`. -/
structure RegistryHistory (calls : List (Env Address × Call Address)) : Prop where
  /-- `verify` is true exactly for the values of a successful `register` by an authorized
      writer that no later `revoke` of the batch follows. -/
  verify_iff : ∀ b m h e, verify (storageAfter calls) b m h e = true ↔
    ∃ i env w, SucceedsAt calls i (env, .register w b m h e) ∧
      isWriter (storageAfter (calls.take i)) w = true ∧
      ∀ k env' caller r, i < k → ¬ SucceedsAt calls k (env', .revoke caller b r)
  /-- A batch is registered at most once. -/
  once : ∀ i j b env w m h e env' w' m' h' e', SucceedsAt calls i (env, .register w b m h e) →
    SucceedsAt calls j (env', .register w' b m' h' e') → i = j
  /-- A record has the values of the `register` that succeeded, its issuer among them. -/
  stored : ∀ j b record, (storageAfter (calls.take j)).record b = some record →
    record.batch_id = b ∧ ∃ i env, i < j ∧ env.sequence = record.registered_at_ledger ∧
      SucceedsAt calls i (env, .register record.issuer b record.merkle_root record.manifest_hash
        record.evidence_hash)
  /-- The fields of a record other than the status and the reason never change. -/
  fields : ∀ i j b record, i ≤ j → (storageAfter (calls.take i)).record b = some record →
    ∃ status reason, (storageAfter (calls.take j)).record b =
      some { record with status := status, revocation_reason_hash := reason }
  /-- A status changes from active to revoked, by the admin or the issuer. -/
  status : ∀ i b record record', (storageAfter (calls.take i)).record b = some record →
    (storageAfter (calls.take (i + 1))).record b = some record' →
    record.status ≠ record'.status →
    record.status = .Active ∧ record'.status = .Revoked ∧
      ∃ env caller r, SucceedsAt calls i (env, .revoke caller b r) ∧
        env.authorized caller = true ∧
        ((storageAfter (calls.take i)).admin = some caller ∨ caller = record.issuer)
  /-- A record that is revoked never changes again, so that its status changes at most once. -/
  revoked : ∀ i j b record, i ≤ j → (storageAfter (calls.take i)).record b = some record →
    record.status = .Revoked → (storageAfter (calls.take j)).record b = some record
  /-- The admin is set by one `initialize`, ... -/
  admin_set : ∀ i, (storageAfter (calls.take (i + 1))).admin ≠ (storageAfter (calls.take i)).admin →
    (storageAfter (calls.take i)).admin = none ∧
      ∃ env a, SucceedsAt calls i (env, .initialize_registry a) ∧ env.authorized a = true ∧
        (storageAfter (calls.take (i + 1))).admin = some a
  /-- ... and never again. -/
  admin_kept : ∀ i j a, i ≤ j → (storageAfter (calls.take i)).admin = some a →
    (storageAfter (calls.take j)).admin = some a
  /-- Only a call that the admin authorized changes a writer: `set_writer`, or the
      `initialize` that makes the admin a writer. -/
  writers : ∀ i w, (storageAfter (calls.take (i + 1))).writer w ≠
      (storageAfter (calls.take i)).writer w →
    ∃ env a, (storageAfter (calls.take (i + 1))).admin = some a ∧ env.authorized a = true ∧
      ((w = a ∧ SucceedsAt calls i (env, .initialize_registry a)) ∨
        ∃ flag, SucceedsAt calls i (env, .set_writer w flag))

omit [DecidableEq Address] in
theorem Continues.fields {record record' : AnchorRecord Address} (h : Continues record record') :
    record' = { record with status := record'.status
                            revocation_reason_hash := record'.revocation_reason_hash } := by
  rcases h with rfl | ⟨-, reason, rfl⟩ <;> rfl

/-- The specification of the registry, over every sequence of calls. -/
theorem registry_history (calls : List (Env Address × Call Address)) : RegistryHistory calls where
  verify_iff _ _ _ _ := verify_history
  once i j b env w m h e env' w' m' h' e' hi hj := by
    have hij := registered_once hi hj
    have hji := registered_once hj hi
    omega
  stored j b record hrecord := by
    obtain ⟨i, env, w, m, h, e, hij, hreg, hcont⟩ := record_history hrecord
    have hfields := hcont.fields
    rw [hfields]
    exact ⟨rfl, i, env, hij, rfl, hreg⟩
  fields i j b record hij hrecord := by
    obtain ⟨record', hrecord', hcont⟩ := (storageAfter_keeps hij).record b record hrecord
    exact ⟨record'.status, record'.revocation_reason_hash, by rw [← hcont.fields, hrecord']⟩
  status _ _ _ _ := status_changes
  revoked i j b record hij hrecord hstatus := by
    obtain ⟨record', hrecord', hcont⟩ := (storageAfter_keeps hij).record b record hrecord
    rcases hcont with rfl | ⟨hactive, -⟩
    · exact hrecord'
    · rw [hstatus] at hactive
      cases hactive
  admin_set _ := admin_changes
  admin_kept _ _ _ hij := (storageAfter_keeps hij).admin _
  writers _ _ := writer_changes

/-- A record that the admin registers is verified until the admin revokes it; another
    account can neither register nor revoke. -/
example :
    let env : Env ℕ := ⟨fun _ => true, 7⟩
    let hash (x : UInt8) : BytesN 32 := Vector.replicate 32 x
    let calls : List (Env ℕ × Call ℕ) := [(env, .initialize_registry 1),
      (env, .register 2 (hash 0) (hash 1) (hash 2) (hash 3)),
      (env, .register 1 (hash 0) (hash 1) (hash 2) (hash 3)),
      (env, .revoke 2 (hash 0) (hash 4)), (env, .revoke 1 (hash 0) (hash 4))]
    (List.range 6).map (fun n => verify (storageAfter (calls.take n)) (hash 0) (hash 1) (hash 2)
      (hash 3)) = [false, false, false, true, true, false] := by
  decide

end OpenRisk.Registry
